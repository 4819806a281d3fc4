import Stencil.Template.Binding
import Stencil.Template.Call
import Stencil.Template.Filter.Items
import Stencil.Template.Filter.Links
import Stencil.Template.Filter.Number
import Stencil.Template.Filter.Stage
import Stencil.Template.Filter.Text
import Stencil.Template.Tests

/-!
Applying filters by name: those that users add come before those that every template knows.
-/
namespace Stencil.Template.Filter
open Stencil.Text
open Eval (broken lift)

def perform (run : Run) (escape : Bool) (name : String) (v : Value) (b : Bound) :
    Eval Value := do
  match iterator? escape name v b with
  | some step => step
  | none =>
    let s ← get
    let v := s.present v
    let b := { b with values := b.values.map fun (n, w) => (n, s.present w) }
    match items? run escape name v b with
    | some step => step
    | none =>
      let b := { b with
        rest := b.rest.map s.present, named := b.named.map fun (n, w) => (n, s.present w) }
      match text? escape name v b with
      | some o => lift o
      | none =>
        match number? name v b with
        | some o => lift o
        | none =>
          match name with
          | "urlize" => lift (links escape v b)
          | _ => return .str (pretty v)

def builtinArity (shown : String) (a : Actuals) : Outcome Unit := do
  if !a.named.isEmpty then typeError (shown ++ "() takes no keyword arguments")
  if a.positional.length != 1 then
    typeError (shown ++ "() takes exactly one argument (" ++ ofNat a.positional.length ++
      " given)")

/-- Applies a filter to a value. -/
def apply (run : Run) (escape : Bool) (name : String) (v : Value) (a : Actuals) :
    Eval Value := do
  let all := a.push v
  match (← read).filters.lookup name with
  | some f => run (.call escape f all)
  | none =>
    match signature? name with
    | none => broken ("No filter named " ++ quoted name ++ ".")
    | some s =>
      if s.shown == "abs" || s.shown == "len" then lift (builtinArity s.shown all)
      let b ← lift (s.formals.bind s.shown (if s.hidden then all.push .none else all))
      perform run escape (canonical name) v b >>= settled

end Stencil.Template.Filter

/-!
The values of expressions. An expression is evaluated from left to right; what it calls and the
filters and tests it applies are asked for as tasks.
-/
namespace Stencil.Template
open Stencil.Text
open Eval (lift)

/-- A number that no digits write has no value but when it is looked at beforehand. -/
def named? (x : Float) (behind : String) : Option String :=
  if x.isNaN then some ("nan" ++ behind)
  else if x.isInf then some ("inf" ++ behind)
  else none

def literal : Literal → Eval Value
  | .none => return .none
  | .bool b => return .bool b
  | .int n => return .int n
  | .float x => written (named? x "") (.float x)
  | .complex x y => written ((named? x "").or (named? y "j")) (.complex x y)
  | .str s => return .str s
  | .markup s => return .markup s
where
  written (unknown : Option String) (v : Value) : Eval Value := do
    match unknown with
    | some name =>
      if (← read).beforehand then return v
      else Eval.raise .unknownName ("name " ++ quoted name ++ " is not defined")
    | none => return v

/-- What is not known before the template runs. -/
def onlyRunning {α : Type} : Eval α := throw .waiting

/-- What waits for the run when it fails before. -/
def held {α : Type} (step : Eval α) : Eval α := do
  if (← read).beforehand then tryCatch step fun _ => onlyRunning else step

/-- Whether texts are protected where a frame is now. -/
def escapesNow (f : Frame) : Eval Bool := do
  if (← read).beforehand then return f.escaping == .on
  else return (← contextAt f.context).escape

/-- The value of a name as a frame sees it. -/
def readName (f : Frame) (name : String) : Eval Value := do
  match variableIn (← get) f.scope name with
  | some v => return v.getD (missingName name)
  | none =>
    Eval.raise .assertion
      ("Tried to resolve a name to a reference that was unknown to the frame (" ++
        quoted name ++ ")")

/-- A line of a template, for messages. -/
def position (template : Option String) (line : Nat) : String :=
  "line " ++ ofNat line ++ (match template with
    | some name => " in " ++ quoted name
    | none => "")

/-- Joins texts; where texts are protected, plain ones among marked texts are. -/
def concatenated (run : Run) (f : Frame) (vs : List Value) : Eval Value := do
  let isMarked : Value → Bool
    | .markup _ | .object _ (.module ..) _ => true
    | _ => false
  let escape := f.escaping == .on && !(← read).beforehand
  if escape && vs.any isMarked then
    return .markup (joinWith "" (← vs.mapM (markupOf run)))
  else return .str (joinWith "" (← vs.mapM (textOf run)))

/-! Arguments. -/

/-- What calls complain about: a call of a value, or a filter or test. -/
def callShown : String := "jinja2.runtime.Context.call"

def spread (run : Run) (shown : String) (v : Value) : Eval (List Value) := do
  match v with
  | .missing m _ => lift (Value.failMissing m)
  | .object _ (.iterator _) _ => itemsOf run v
  | v =>
    match (← surface v).items with
    | .ok vs => return vs
    | .error _ =>
      lift (typeError (shown ++ "() argument after * must be an iterable, not " ++ v.kindName))

def spreadNamed (shown : String) (named : List (String × Value)) (v : Value) :
    Eval (List (String × Value)) := do
  match ← surface v with
  | .dict es _ =>
    es.foldlM (fun named (k, w) => do
      match k.asText? with
      | none => lift (typeError (shown ++ "() keywords must be strings"))
      | some name =>
        if (named.lookup name).isSome then
          lift (typeError (shown ++ "() got multiple values for keyword argument " ++
            quoted name))
        else return named ++ [(name, w)]) named
  | .missing m _ => lift (Value.failMissing m)
  | v =>
    lift (typeError (shown ++ "() argument after ** must be a mapping, not " ++ v.kindName))

/-- Filters that look at what a template was given. -/
def looksAround (name : String) : Bool :=
  ["map", "random", "reject", "rejectattr", "select", "selectattr"].contains name

/-! Expressions. -/

mutual

def evaluate (run : Run) (f : Frame) : Expr → Eval Value
  | .literal v => literal v
  | .name id => do if (← read).beforehand then onlyRunning else readName f id
  | .nsRef name attr => do attributeOf run (← readName f name) attr
  | .tuple items => do return .tuple (← evaluateAll run f items)
  | .list items => do settled (.ofList (← evaluateAll run f items))
  | .dict items => do
    let s ← get
    let pairs ← evaluatePairs run f items
    settled (.ofEntries (← lift (Value.dictOf (pairs.map fun (k, v) => (s.present k, v)))))
  | .attr value name => held do attributeOf run (← evaluate run f value) name
  | .item value (.slice start stop step) => held do
    let v ← evaluate run f value
    let start ← evaluateOr run f start
    let stop ← evaluateOr run f stop
    let step ← evaluateOr run f step
    settled (← lift ((← surface v).slice start stop step))
  | .item value index => held do
    itemOf run (← evaluate run f value) (← evaluate run f index)
  | .slice start _ _ => evaluateOr run f start
  | .call function args => do
    if (← read).beforehand then onlyRunning
    let callee ← evaluate run f function
    let a ← arguments run f callShown [] args
    run (.call (← escapesNow f) callee a)
  | .filter value name args _ => do
    if (← read).moment == .beforeOpen then onlyRunning
    let v ← match value with
      | some e => evaluate run f e
      | none => if (← read).beforehand then onlyRunning else pure f.subject
    let shown := ((Filter.signature? name).map fun s => "jinja2.filters." ++ s.shown).getD name
    let a ← arguments run f shown [] args
    let env ← read
    if env.beforehand && looksAround name && (env.filters.lookup name).isNone then onlyRunning
    if Filter.isKnown env.filters name then held (run (.filter (← escapesNow f) name v a))
    else if env.beforehand then onlyRunning
    else lift (.error (.runtime ("No filter named " ++ quoted name ++ " found.")))
  | .test value name args _ => do
    if (← read).moment == .beforeOpen then onlyRunning
    let v ← evaluate run f value
    let a ← arguments run f ("jinja2.tests.test_" ++ name) [] args
    if Tests.isKnown name then return .bool (← held (run (.test name v a)))
    else if (← read).beforehand then onlyRunning
    else lift (.error (.runtime ("No test named " ++ quoted name ++ " found.")))
  | .neg value => held do lift (← present (← evaluate run f value)).negate
  | .pos value => held do lift (← present (← evaluate run f value)).positive
  | .not value => held do return .bool !(← truthOf (← evaluate run f value))
  | .and left right => do
    let v ← evaluate run f left
    if ← truthOf v then evaluate run f right else return v
  | .or left right => do
    let v ← evaluate run f left
    if ← truthOf v then return v else evaluate run f right
  | .binary left op right => held do
    let v ← evaluate run f left
    let w ← evaluate run f right
    settled (← lift (Value.binary op (← present v) (← present w)))
  | .compare left rest => held do compareAll run f (← evaluate run f left) rest
  | .conditional test yes no line => do
    if ← truthOf (← evaluate run f test) then evaluate run f yes
    else match no with
      | some e => evaluate run f e
      | none =>
        if (← read).beforehand then onlyRunning
        return .missing ("the inline if-expression on " ++
          position (← contextAt f.context).name line ++
          " evaluated to false and no else section was defined.") true
  | .concat items => do concatenated run f (← evaluateAll run f items)

/-- An optional expression; absent, it is nothing. -/
def evaluateOr (run : Run) (f : Frame) : Option Expr → Eval Value
  | some e => evaluate run f e
  | none => return .none

def evaluateAll (run : Run) (f : Frame) : List Expr → Eval (List Value)
  | [] => return []
  | e :: rest => do return (← evaluate run f e) :: (← evaluateAll run f rest)

def evaluatePairs (run : Run) (f : Frame) : List (Expr × Expr) → Eval (List (Value × Value))
  | [] => return []
  | (k, v) :: rest => do
    let k ← evaluate run f k
    let v ← evaluate run f v
    return (k, v) :: (← evaluatePairs run f rest)

def evaluateNamed (run : Run) (f : Frame) : List (String × Expr) → Eval (List (String × Value))
  | [] => return []
  | (name, e) :: rest => do
    return (name, ← evaluate run f e) :: (← evaluateNamed run f rest)

/-- Compares along a chain until a comparison fails. -/
def compareAll (run : Run) (f : Frame) (v : Value) : List (CompareOp × Expr) → Eval Value
  | [] => return .bool true
  | (op, e) :: rest => do
    let w ← evaluate run f e
    if ← Tests.compared run op v w then compareAll run f w rest else return .bool false

/-- The arguments of a call; `extra` are further named ones. -/
def arguments (run : Run) (f : Frame) (shown : String) (extra : List (String × Value)) :
    Arguments → Eval Actuals
  | .mk args named rest restNamed => do
    let positional ← evaluateAll run f args
    let named := (← evaluateNamed run f named) ++ extra
    let more ← match rest with
      | some e => held do spread run shown (← evaluate run f e)
      | none => pure []
    let named ← match restNamed with
      | some e => held do spreadNamed shown named (← evaluate run f e)
      | none => pure named
    return ⟨positional ++ more, named⟩

end

end Stencil.Template
