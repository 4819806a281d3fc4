import Stencil.Script.Conversion
import Stencil.Script.Operator
import Stencil.Template.Value.Order

/-!
Calling the methods of values. Those of texts, numbers, lists and dicts are the ones that templates
call; what changes is put back to where it is kept. Sets and properties have methods of their own.
-/
namespace Stencil.Script
open Stencil.Text
open Stencil.Template (Value Actuals)

/-! Sets. -/

private def union (xs ys : List Value) : Eval (List Value) := do
  return xs ++ (← ys.filterM fun y => do return !(← holds y xs))

private def difference (xs ys : List Value) : Eval (List Value) :=
  xs.filterM fun x => do return !(← holds x ys)

private def intersection (xs ys : List Value) : Eval (List Value) := xs.filterM fun x => holds x ys

private def onlyInOne (xs ys : List Value) : Eval (List Value) := do
  union (← difference xs ys) (← difference ys xs)

/-- What a method makes of the items of a set and those of others, one after another. -/
private def combinedBy? : String → Option (List Value → List Value → Eval (List Value))
  | "union" | "update" => some union
  | "difference" | "difference_update" => some difference
  | "intersection" | "intersection_update" => some intersection
  | "symmetric_difference" | "symmetric_difference_update" => some onlyInOne
  | _ => none

private def setMethod (run : Run) (self : Value) (items : List Value) (frozen : Bool)
    (name : String) (a : Actuals) : Eval Value := do
  let kind := if frozen then "frozenset" else "set"
  let shown := kind ++ "." ++ name
  let keep (items : List Value) : Eval Value := do
    setThing self (.set items frozen)
    return .none
  let other : Eval (List Value) := do distinct (← itemsOf run (← lift (a.single shown)))
  let without (x : Value) : Eval (List Value) :=
    items.filterM fun y => do return !(← holds x [y])
  match name with
  | "add" =>
    let x ← lift (a.single shown)
    checkKey x
    if ← holds x items then return .none else keep (items ++ [x])
  | "discard" =>
    let x ← lift (a.single shown)
    checkKey x
    keep (← without x)
  | "remove" =>
    let x ← lift (a.single shown)
    checkKey x
    if ← holds x items then keep (← without x) else noKey x
  | "pop" =>
    lift (a.refuseAll shown)
    match items with
    | x :: rest =>
      let _ ← keep rest
      return x
    | [] => noKey (.str "pop from an empty set")
  | "clear" =>
    lift (a.refuseAll shown)
    keep []
  | "copy" =>
    lift (a.refuseAll shown)
    newSet items frozen
  | "isdisjoint" => return .bool (← intersection items (← other)).isEmpty
  | "issubset" => return .bool (← within items (← other))
  | "issuperset" => return .bool (← within (← other) items)
  | name =>
    match combinedBy? name with
    | none => return foreign
    | some combine =>
      lift (a.refuseNamed shown)
      if name.startsWith "symmetric" then
        let _ ← lift (a.single shown)
      let items ← a.positional.foldlM (fun xs v => do
        combine xs (← distinct (← itemsOf run v))) items
      if name.endsWith "update" then keep items else newSet items frozen

/-! Sorting. -/

private def insertBy (less : Value → Value → Eval Bool) (x : Value × Value) :
    List (Value × Value) → Eval (List (Value × Value))
  | [] => return [x]
  | y :: rest => do
    if ← less x.1 y.1 then return x :: y :: rest else return y :: (← insertBy less x rest)

/-- Items in the order of their keys, where instances say themselves which comes first. -/
private def sortedByKeys (run : Run) (reverse : Bool) (keyed : List (Value × Value)) :
    Eval (List Value) := do
  if ← keyed.anyM fun e => return (← thing? e.1).isSome then
    let less (a b : Value) : Eval Bool := do truthOf run (← compareOf run .lt a b)
    let given := if reverse then keyed.reverse else keyed
    let sorted ← given.foldlM (fun done e => insertBy less e done) []
    let items := sorted.map Prod.snd
    return if reverse then items.reverse else items
  else
    lift (Template.Sorting.byKey reverse (← keyed.mapM fun (k, v) => return ⟨← present k, v⟩))

/-- Items sorted as the named arguments ask for. -/
def sortItems (run : Run) (items : List Value) (named : List (String × Value)) :
    Eval (List Value) := do
  match named.find? fun e => e.1 != "reverse" && e.1 != "key" with
  | some (name, _) => typeError (quoted name ++ " is an invalid keyword argument for sort()")
  | none =>
    let reverse ← match named.lookup "reverse" with
      | some v => truthOf run v
      | none => pure false
    let key := (named.lookup "key").filter fun v => !isNone v
    let keyed ← items.mapM fun v => do
      match key with
      | some f => return (← run.call f (.ofList [v]), v)
      | none => return (v, v)
    sortedByKeys run reverse keyed

/-! Plain values. -/

/-- The methods that only keep what they are given, so that it need not be known. -/
private def keeps (name : String) : Bool :=
  ["append", "insert", "setdefault", "get", "pop", "update", "fromkeys"].contains name

/-- The methods that go through the items of their first argument. -/
private def goesThrough (name : String) : Bool :=
  ["extend", "join", "update", "fromkeys"].contains name

/-- The methods of dicts that look for a key. -/
private def looksUp (name : String) : Bool := ["get", "pop", "setdefault"].contains name

/-- An argument of a method, with its text where it is put into a pattern. -/
private def argument (run : Run) (name : String) (v : Value) : Eval Value := do
  if name == "format" then
    match v, ← thing? v with
    | .class _, _ | _, some _ => return .str (← textOf run v)
    | v, none => present v
  else present v

private def plainMethod (run : Run) (self : Value) (name : String) (a : Actuals) :
    Eval Value := do
  if !keeps name && (a.positional ++ a.named.map Prod.snd).any isForeign then return foreign
  match self, name with
  | .list .., "sort" =>
    let count := a.positional.length + a.named.length
    if 2 < count then
      typeError ("sort() takes at most 2 arguments (" ++ ofNat count ++ " given)")
    if !a.positional.isEmpty then typeError "sort() takes no positional arguments"
    match ← surface self with
    | .list items _ =>
      setContent self (.ofList (← sortItems run items a.named))
      return .none
    | _ => return .none
  | self, name =>
    match self, a.positional with
    | .dict .., [key] | .dict .., [key, _] => if looksUp name then checkKey key
    | _, _ => pure ()
    let first ← a.positional.head?.mapM fun v => do
      if goesThrough name then present (← listed run v) else argument run name v
    let positional := first.toList ++ (← a.positional.tail.mapM (argument run name))
    let named ← a.named.mapM fun (n, v) => return (n, ← argument run name v)
    let outcome := Template.Method.call (← present self) name ⟨positional, named⟩
    match name, outcome with
    | "pop", .error (.raised .key _) => noKey (a.positional.headD .none)
    | _, _ => pure ()
    let (result, after) ← lift outcome
    let after ← settled after
    if Template.Method.changes name then setContent self after
    settled result

/-- Calls a method of a value. -/
def callMethod (run : Run) (self : Value) (name : String) (a : Actuals) : Eval Value := do
  match ← thing? self with
  | none => plainMethod run self name a
  | some (.set items frozen) => setMethod run self items frozen name a
  | some (.property get set delete) =>
    let f ← lift (a.single ("property." ++ name))
    newThing "property" (match name with
      | "getter" => .property (some f) set delete
      | "setter" => .property get (some f) delete
      | _ => .property get set (some f))
  | some (.instance _) => return if name == "with_traceback" then self else .none
  | some _ => return foreign

/-- Calls a method of the values of a kind; the value is the first argument. -/
def callUnbound (run : Run) (kind name : String) (a : Actuals) : Eval Value := do
  match kind, name with
  | "dict", "fromkeys" => callMethod run (← settled (.ofEntries [])) name a
  | "str", "maketrans" => callMethod run (.str "") name a
  | kind, name =>
    match a.positional with
    | [] => typeError ("unbound method " ++ kind ++ "." ++ name ++ "() needs an argument")
    | self :: rest =>
      if isForeign self then return foreign
      else if ← isOfClass self kind then callMethod run self name { a with positional := rest }
      else
        typeError ("descriptor " ++ quoted name ++ " for " ++ quoted kind ++
          " objects doesn't apply to a " ++ quoted self.kindName ++ " object")

end Stencil.Script
