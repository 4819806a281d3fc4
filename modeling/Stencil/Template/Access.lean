import Stencil.Template.Machine
import Stencil.Template.Value.Arithmetic

/-!
Reaching into values while a template runs: texts, attributes, items, membership and unpacking,
for plain values and for the objects in the store alike.
-/
namespace Stencil.Template
open Stencil.Text
open Eval (lift)

/-! Loops. -/

/-- The item after the present one, taken ahead of time. -/
def peek (run : Run) (place : Nat) (s : LoopState) : Eval (Option Value) := do
  match s.ahead with
  | some v => return some v
  | none =>
    let next ← run (.advance s.feed)
    setObject place (.loop { s with ahead := next })
    return next

/-- The number of items of a loop. What cannot tell its length is taken as a whole. -/
def loopLength (run : Run) (place : Nat) (s : LoopState) : Eval Nat := do
  match s.length with
  | some n => return n
  | none =>
    match (← surface s.source).length with
    | .ok n =>
      setObject place (.loop { s with length := some n })
      return n
    | .error _ =>
      let rest ← itemsOf run (.object s.feed (.iterator "") [])
      setObject s.feed (.iterator (.fixed rest))
      let n := rest.length + s.index + 1 + (if s.ahead.isSome then 1 else 0)
      setObject place (.loop { s with length := some n })
      return n

def loopAttribute? (run : Run) (place : Nat) (s : LoopState) (name : String) :
    Eval (Option Value) := do
  match name with
  | "index" => return some (.int (s.index + 1))
  | "index0" => return some (.int s.index)
  | "revindex" => return some (.int ((← loopLength run place s) - s.index))
  | "revindex0" => return some (.int ((← loopLength run place s) - s.index - 1))
  | "first" => return some (.bool (s.index == 0))
  | "last" => return some (.bool (← peek run place s).isNone)
  | "length" => return some (.int (← loopLength run place s))
  | "depth" => return some (.int (s.depth + 1))
  | "depth0" => return some (.int s.depth)
  | "previtem" => return some (s.before.getD (.missing "there is no previous item" false))
  | "nextitem" =>
    return some ((← peek run place s).getD (.missing "there is no next item" false))
  | _ => return none

/-! Texts. -/

/-- The text of a value as it is printed. -/
def textOf (run : Run) (v : Value) : Eval String := do
  match v with
  | .str s | .markup s => return s
  | .object place _ _ =>
    match ← objectAt? place with
    | some (.loop s) =>
      let n ← loopLength run place s
      return "<LoopContext " ++ ofNat (s.index + 1) ++ "/" ++ ofNat n ++ ">"
    | _ => lift (← present v).text
  | v => lift (← present v).text

/-- The text of a value as it stands inside markup. -/
def markupOf (run : Run) (v : Value) : Eval String := do
  match v with
  | .markup s => return s
  | .object _ (.module _ text) _ => return text
  | v => return Markup.protect (← textOf run v)

/-- A value as it is put out. -/
def outputOf (run : Run) (escape : Bool) (v : Value) : Eval String :=
  if escape then markupOf run v else textOf run v

/-! Attributes and items. -/

/-- A block as a value: what a template that extends it calls its parent. -/
def blockAt (context : Nat) (name : String) (depth : Nat) : Eval (Option Value) := do
  let c ← contextAt context
  match ((c.blocks.lookup name).getD [])[depth]? with
  | some _ => return some (← newObject .block (.block name context depth))
  | none => return none

def noParentBlock (name : String) : Value :=
  .missing ("there is no parent block called " ++ quoted name ++ ".") false

def objectAttribute? (run : Run) (v : Value) (place : Nat) (name : String) :
    Eval (Option Value) := do
  match ← objectAt? place with
  | some (.loop s) =>
    match ← loopAttribute? run place s name with
    | some a => return some a
    | none => lift (v.attribute? name)
  | some (.block block context depth) =>
    match name with
    | "super" => return some ((← blockAt context block (depth + 1)).getD (noParentBlock block))
    | _ => lift ((← present v).attribute? name)
  | _ => lift ((← present v).attribute? name)

def objectItem? (place : Nat) (key : Value) : Eval (Option Value) := do
  match ← objectAt? place, key.asText? with
  | some (.self context), some name => blockAt context name 0
  | _, _ => return none

def plainAttribute? (v : Value) (name : String) : Eval (Option Value) := do
  match v with
  | .record _ fields _ =>
    match fields.lookup name with
    | some a => return some a
    | none => lift ((← present v).attribute? name)
  | v => lift ((← surface v).attribute? name)

/-- The attribute of a value, or its item under that name. -/
def attributeOf (run : Run) (v : Value) (name : String) : Eval Value := do
  match v with
  | .missing m _ => lift (Value.failMissing m)
  | .object place .. =>
    match ← objectAttribute? run v place name with
    | some a => return a
    | none => return (← objectItem? place (.str name)).getD (missingAttribute v name)
  | v =>
    match ← plainAttribute? v name with
    | some a => settled a
    | none =>
      settled ((← lift ((← surface v).item? (.str name))).getD (missingAttribute v name))

/-- The item of a value, or its attribute of that name. -/
def itemOf (run : Run) (v key : Value) : Eval Value := do
  match v with
  | .missing m _ => lift (Value.failMissing m)
  | .object place .. =>
    match ← objectItem? place key, key.asText? with
    | some a, _ => return a
    | none, some name =>
      return (← objectAttribute? run v place name).getD (missingItem v key)
    | none, none => return missingItem v (← present key)
  | v =>
    let key ← present key
    match ← lift ((← surface v).item? key), key.asText? with
    | some a, _ => settled a
    | none, some name => settled ((← plainAttribute? v name).getD (missingItem v key))
    | none, none => return missingItem v key

/-- The attribute of a value alone, not its items. -/
def ownAttributeOf (run : Run) (v : Value) (name : String) : Eval Value := do
  match v with
  | .missing m _ => lift (Value.failMissing m)
  | .object place .. =>
    return (← objectAttribute? run v place name).getD (missingAttribute v name)
  | v => settled ((← plainAttribute? v name).getD (missingAttribute v name))

/-- A dotted path as keys: numbers become places. -/
def pathOf (path : Value) : List Value :=
  match path with
  | .none => []
  | p =>
    match p.asText? with
    | none => [p]
    | some s => (splitOnChar '.' s.toList).map fun part =>
        if !part.isEmpty && part.all isDigitChar then
          .int (part.foldl (fun n c => n * 10 + (decimalValue? c).getD 0) (0 : Nat))
        else .str (.ofList part)

/-- Follows a path; a missing step gives way to a default. -/
def follow (run : Run) (default : Value) : List Value → Value → Eval Value
  | [], v => return v
  | key :: rest, v => do
    let w ← itemOf run v key
    match w, default with
    | .missing .., .none => follow run default rest w
    | .missing .., d => follow run default rest d
    | w, _ => follow run default rest w

/-! Membership and unpacking. -/

/-- Takes items of an iterator up to the one looked for. -/
def takeUntil (run : Run) (place : Nat) (x : Value) : Nat → Eval Bool
  | 0 => Eval.raise .memory ""
  | fuel + 1 => do
    match ← run (.advance place) with
    | none => return false
    | some v =>
      if ← lift (Value.equal x (← present v)) then return true else takeUntil run place x fuel

def holdsItem (run : Run) (container x : Value) : Eval Bool := do
  let x ← present x
  match container with
  | .object place kind shown =>
    match ← objectAt? place with
    | some (.iterator _) => takeUntil run place x maxRounds
    | _ =>
      lift (typeError ("argument of type " ++
        quoted (Value.object place kind shown).kindName ++ " is not iterable"))
  | v => lift ((← present v).contains x)

def itemsToUnpack (run : Run) (v : Value) : Eval (List Value) := do
  match v with
  | .object _ (.iterator _) _ => itemsOf run v
  | .object .. => lift (typeError ("cannot unpack non-iterable " ++ v.kindName ++ " object"))
  | v =>
    match (← surface v).items with
    | .error (.raised ..) =>
      lift (typeError ("cannot unpack non-iterable " ++ v.kindName ++ " object"))
    | r => lift r

/-- The items of a value, as many as are expected. -/
def unpack (run : Run) (count : Nat) (v : Value) : Eval (List Value) := do
  let items ← itemsToUnpack run v
  let expected := " (expected " ++ ofNat count
  if items.length < count then
    lift (Template.raise .value ("not enough values to unpack" ++ expected ++ ", got " ++
      ofNat items.length ++ ")"))
  else if items.length > count then
    lift (Template.raise .value ("too many values to unpack" ++ expected ++ ")"))
  else return items

end Stencil.Template
