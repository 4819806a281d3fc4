import Stencil.Script.Class
import Stencil.Script.Expression

/-!
Matching values with patterns. The names of a pattern are bound on the way.
-/
namespace Stencil.Script
open Stencil.Text
open Stencil.Source
open Stencil.Template (Value Actuals)

/-- The kinds of values that a pattern of their class may take as a whole. -/
private def wholeKinds : List String :=
  ["bool", "bytes", "dict", "float", "frozenset", "int", "list", "set", "str", "tuple"]

private def nameOfText : Value → String
  | .str s => s
  | _ => ""

/-- The names of the attributes that the patterns without a name are for; the value as a whole is
meant when there are none. -/
private def positionalNames (run : Run) (cls : Value) (count : Nat) :
    Eval (Option (List String)) := do
  if count == 0 then return some []
  match cls with
  | .class key =>
    let m ← get
    let accepts (most : Nat) : Eval (Option (List String)) :=
      typeError (m.className key ++ "() accepts " ++ ofNat most ++ " positional sub-pattern" ++
        (if most == 1 then "" else "s") ++ " (" ++ ofNat count ++ " given)")
    if (m.order key).any wholeKinds.contains then
      if count == 1 then return none else accepts 1
    else
      match m.attribute? key "__match_args__" with
      | some names =>
        let names := (← itemsOf run names).map nameOfText
        if names.length < count then accepts names.length else return some (names.take count)
      | none => accepts 0
  | _ => return some []

private def isStar : Pattern → Bool
  | .star .. => true
  | _ => false

private def attributeFor? (run : Run) (v : Value) (name : String) : Eval (Option Value) :=
  orOn "AttributeError" (some <$> attributeOf run v name) (pure none)

private def isConstant : Expr → Bool
  | .constant _ .none | .constant _ .true | .constant _ .false => true
  | _ => false

mutual

/-- Whether a value fits a pattern. -/
def fits (run : Run) (s : Scope) (v : Value) : Pattern → Eval Bool
  | .value _ e => do
    let w ← evaluate run s e
    if isConstant e then sameAs v w else equalOf run v w
  | .capture _ inner name => do
    if ← fitsOption run s v inner then
      name.forM fun n => s.bind n v
      return true
    else return false
  | .star .. => return true
  | .sequence _ patterns => do
    let items ← match ← surface v with
      | .list items _ | .tuple items => pure (some items)
      | .range start stop step => pure (some (Value.rangeItems start stop step))
      | _ => pure none
    match items with
    | none => return false
    | some items =>
      let fixed := (patterns.filter fun p => !isStar p).length
      if items.length < fixed || (items.length != fixed && !patterns.any isStar) then return false
      else fitsItems run s items patterns
  | .mapping _ keys patterns rest => do
    match ← surface v with
    | .dict entries _ =>
      let keys ← keys.mapM (evaluate run s)
      let found ← keys.filterMapM fun k => lift (Value.valueOf? entries k)
      if found.length < keys.length then return false
      else if ← fitsAll run s found patterns then
        match rest with
        | none => return true
        | some name =>
          let others ← entries.filterM fun e => do return !(← holds e.1 keys)
          s.bind name (← settled (.ofEntries others))
          return true
      else return false
    | _ => return false
  | .class _ cls positional names named => do
    let c ← evaluate run s cls
    match c with
    | .class _ => pure ()
    | c => if isForeign c then pure () else typeError "called match pattern must be a class"
    if !(← isInstance v c) then return false
    match ← positionalNames run c positional.length with
    | none =>
      if !(← fitsAll run s [v] positional) then return false
    | some attributes =>
      let values ← attributes.filterMapM (attributeFor? run v)
      if values.length < attributes.length then return false
      if !(← fitsAll run s values positional) then return false
    let values ← names.filterMapM fun n => attributeFor? run v n.2
    if values.length < names.length then return false
    else fitsAll run s values named
  | .alternatives _ patterns => fitsAny run s v patterns

def fitsOption (run : Run) (s : Scope) (v : Value) : Option Pattern → Eval Bool
  | none => return true
  | some p => fits run s v p

/-- Whether items fit patterns in order, one of which may stand for several. -/
def fitsItems (run : Run) (s : Scope) (items : List Value) : List Pattern → Eval Bool
  | [] => return items.isEmpty
  | .star _ name :: rest => do
    let count := items.length - rest.length
    let taken ← settled (.ofList (items.take count))
    name.forM fun n => s.bind n taken
    fitsItems run s (items.drop count) rest
  | p :: rest => do
    match items with
    | [] => return false
    | v :: more => if ← fits run s v p then fitsItems run s more rest else return false

/-- Whether each value fits its pattern. -/
def fitsAll (run : Run) (s : Scope) (vs : List Value) : List Pattern → Eval Bool
  | [] => return true
  | p :: rest => do
    match vs with
    | [] => return true
    | v :: more => if ← fits run s v p then fitsAll run s more rest else return false

def fitsAny (run : Run) (s : Scope) (v : Value) : List Pattern → Eval Bool
  | [] => return false
  | p :: rest => do
    if ← fits run s v p then return true else fitsAny run s v rest

end

end Stencil.Script
