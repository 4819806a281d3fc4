import Stencil.Script.Builtin
import Stencil.Script.Statement

/-!
Calling values, and asking iterators for their next item. Calls nest only so deep; a function that
yields gives an iterator, and runs once that is asked for an item.
-/
namespace Stencil.Script
open Stencil.Text
open Stencil.Source
open Stencil.Template (Value Actuals)

/-! Arguments. -/

private def nameOf : Parameter → String
  | .mk _ name _ _ => name

/-- The parameters of a function, as arguments are given to them. -/
private def Function.formals (f : Function) : Template.Formals :=
  let .mk positionalOnly positional rest keywordOnly keywords := f.params
  let ordered := (positionalOnly ++ positional).map nameOf
  let hasDefault (n : String) := (f.defaults.lookup n).isSome
  ⟨ordered.filter fun n => !hasDefault n, ordered.filter hasDefault, rest.isSome,
    keywordOnly.map nameOf, keywords.isSome⟩

/-- Refuses names for parameters that are given by position alone. -/
private def checkPositionalOnly (f : Function) (a : Actuals) : Eval PUnit := do
  let .mk positionalOnly _ _ _ keywords := f.params
  let named := (positionalOnly.map nameOf).filter fun n => (a.named.lookup n).isSome
  if !named.isEmpty && keywords.isNone then
    typeError (f.path ++ "() got some positional-only arguments passed as keyword arguments: " ++
      quoted (joinWith ", " named))

/-- The variables of a function for the arguments of a call. -/
private def argumentsOf (f : Function) (a : Actuals) : Eval (List (String × Value)) := do
  let .mk positionalOnly positional rest keywordOnly keywords := f.params
  let ordered := (positionalOnly ++ positional).map nameOf
  let keyed := keywordOnly.map nameOf
  checkPositionalOnly f a
  match f.formals.give f.path a.positional a.named with
  | .error m => typeError m
  | .ok g =>
    let missing := keyed.filter fun n =>
      (g.values.lookup n).isNone && (f.defaults.lookup n).isNone
    if !missing.isEmpty then
      typeError (Template.Formals.missingText f.path "keyword-only" missing)
    let value (n : String) : String × Value :=
      (n, ((g.values.lookup n).or (f.defaults.lookup n)).getD .none)
    let others ← settled (.ofEntries (g.named.map fun (n, v) => (.str n, v)))
    return (ordered ++ keyed).map value ++
      rest.toList.map (fun p => (nameOf p, .tuple g.rest)) ++
      keywords.toList.map fun p => (nameOf p, others)

/-! Functions. -/

private def scopeIn (f : Function) (frame : Nat) : Scope :=
  { f.scope with frame := some frame, path := f.path ++ ".<locals>." }

/-- Runs a function whose variables are in a frame. -/
private def runFunction (run : Run) (f : Function) (frame : Nat) : Eval Value := do
  let s := scopeIn f frame
  match f.code with
  | .result e => evaluate run s e
  | .body stmts =>
    match ← executeAll run s stmts with
    | .returned v => return v
    | _ => return .none

private def callFunction (run : Run) (f : Function) (a : Actuals) : Eval Value := do
  let vars ← argumentsOf f a
  let frame ← newFrame { names := f.effects.names, vars := vars, parent := f.scope.frame }
  if f.waits then return foreign
  else if f.effects.yields then newIterator "generator" (.pending f frame)
  else runFunction run f frame

private def notCallable {α : Type} (v : Value) : Eval α :=
  typeError (quoted v.kindName ++ " object is not callable")

/-- Calls a value with arguments. -/
private def callValue (run : Run) (callee : Value) (a : Actuals) : Eval Value := do
  match callee with
  | .class key =>
    if (key == "function" || key == "NoneType") then return foreign else construct run key a
  | .method self name => callMethod run self name a
  | callee =>
    match ← thing? callee with
    | some .foreign => return foreign
    | some (.function f _) => callFunction run f a
    | some (.builtin name) => callBuiltin run name a
    | some (.unbound kind name) => callUnbound run kind name a
    | some (.static f) => run.call f a
    | some (.method self f) => run.call f (a.push self)
    | some (.instance i) =>
      match ← special? run callee "__call__" with
      | some f => run.call f a
      | none => if (← get).isOpen i.key then return foreign else notCallable callee
    | _ => notCallable callee

/-! Iterators. -/

private def putSupply (iterator : Value) (supply : Supply) : Eval PUnit :=
  setThing iterator (.iterator supply)

/-- Gives the first of some items, and keeps the rest. -/
private def giveFirst (iterator : Value) (items : List Value) : Eval (Option Value) := do
  putSupply iterator (.fixed items.tail)
  return items.head?

/-- The next item of a list or dict that may have changed meanwhile. -/
private def nextAlong (iterator source : Value) (taken size : Nat) : Eval (Option Value) := do
  let items ← lift (← surface source).items
  let fixedSize := match source with
    | .list .. => false
    | _ => true
  if fixedSize && items.length != size then
    raise "RuntimeError" "dictionary changed size during iteration"
  else
    match items[taken]? with
    | some v =>
      putSupply iterator (.along source (taken + 1) size)
      return some v
    | none => giveFirst iterator []

/-- The next items of several iterators, unless one has no more. -/
private def nextOfAll (run : Run) : List Value → Eval (Option (List Value))
  | [] => return some []
  | it :: rest => do
    match ← run.next it with
    | none => return none
    | some v => return (← nextOfAll run rest).map (v :: ·)

/-- The next item of another iterator that a function keeps. -/
private def nextKept (run : Run) (f feed : Value) : Nat → Eval (Option Value)
  | 0 => return none
  | fuel + 1 => do
    match ← run.next feed with
    | none => return none
    | some v =>
      let kept ← if isNone f then pure v else run.call f (.ofList [v])
      if ← truthOf run kept then return some v else nextKept run f feed fuel

private def advance (run : Run) (iterator : Value) : Eval (Option Value) := do
  match ← thing? iterator with
  | some (.iterator supply) =>
    match supply with
    | .fixed items => giveFirst iterator items
    | .along source taken size => nextAlong iterator source taken size
    | .pending f frame =>
      putSupply iterator (.fixed [])
      let _ ← runFunction run f frame
      giveFirst iterator (← givenBy (scopeIn f frame))
    | .computed s item target first conditions rest =>
      putSupply iterator (.fixed [])
      giveFirst iterator (← generate run s item target first conditions rest)
    | .mapped f feeds =>
      match ← nextOfAll run feeds with
      | some args => return some (← run.call f (.ofList args))
      | none => return none
    | .chosen f feed => nextKept run f feed maxRounds
  | some (.instance _) =>
    match ← special? run iterator "__next__" with
    | some f => orOn "StopIteration" (some <$> run.call f {}) (pure none)
    | none => return none
  | _ => return none

/-! Depth. -/

private def tooDeep {α : Type} : Eval α := raise "RecursionError" "maximum recursion depth exceeded"

/-- Calling and asking, where calls inside may nest as deep as the number says. -/
private def runWithin : Nat → Run
  | 0 => ⟨fun _ _ => tooDeep, fun _ => tooDeep⟩
  | depth + 1 =>
    let run := runWithin depth
    ⟨callValue run, advance run⟩

/-- How deep calls may nest. -/
def maxCallDepth : Nat := 950

/-- Calling and asking without anything around. -/
def Run.top : Run := runWithin maxCallDepth

end Stencil.Script
