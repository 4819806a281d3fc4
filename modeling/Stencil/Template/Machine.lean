import Stencil.Template.Scope
import Stencil.Template.Value.Methods

/-!
What a template runs on: scopes of variables, contexts that templates are given and export from,
the places of lists and dicts, the objects that templates make, and the outputs they have captured.
Everything lives in one store that an evaluation passes along, also past a failure.
-/
namespace Stencil.Template
open Stencil.Text

/-- The variables of a running scope. A declared variable may have no value yet. -/
structure Scope where
  vars : List (String × Option Value)
  stores : List String
  parent : Option Nat

/-- A block of a template, which a template that extends it may override. -/
structure Block where
  name : String
  required : Bool
  body : Body

/-- A template that was read and checked. -/
structure Loaded where
  name : Option String
  body : Body
  blocks : List Block
  inherits : Bool

/-- What a template sees from outside, what it sets at its top level, and its blocks, an
overriding block before the overridden ones. -/
structure Context where
  name : Option String
  base : List (String × Value)
  vars : List (String × Value) := []
  exported : List String := []
  blocks : List (String × List Block) := []
  /-- Whether texts are protected where the run is now. -/
  escape : Bool := false

/-- Whether a text in a template is protected, where that is known beforehand. -/
inductive Escaping where
  | off | on
  /-- As the run finds it. -/
  | asFound
  deriving DecidableEq, Repr

/-- Where a statement runs. -/
structure Frame where
  scope : Nat
  context : Nat
  /-- What is set here is exported. -/
  topLevel : Bool := false
  /-- The run whose output stops once a parent template is known. -/
  run : Option Nat := none
  escaping : Escaping := .off
  /-- The text that a filter without a value starts from. -/
  subject : Value := .none

/-- A template function with the place it was defined at. -/
structure Routine where
  name : Option String
  params : List Parameter
  body : Body
  frame : Frame
  caller : Bool
  restNamed : Bool
  rest : Bool

/-- A loop that may start anew on other items. -/
structure LoopBody where
  target : Expr
  test : Option Expr
  recursive : Bool
  body : Body
  orElse : Body
  frame : Frame

/-- What becomes of items one by one on their way to those who ask for them. -/
inductive Stage where
  | map (escape : Bool) (b : Bound)
  | choose (keep byAttribute : Bool) (b : Bound)
  | unique (b : Bound)
  | batch (b : Bound)
  | slice (b : Bound)
  | entries
  /-- Those that pass the test of a loop. -/
  | passing (l : LoopBody)

/-- Items that are still to come. -/
inductive Supply where
  | fixed (rest : List Value)
  /-- Those of a list or dict that may change meanwhile: what is left of it, how many were taken,
  how many there were, and the count of changes when it was last looked at. -/
  | along (source : Value) (rest : List Value) (taken size seen : Nat)
  /-- Nothing was asked for yet. -/
  | waiting (stage : Stage) (source : Value)
  /-- Fed by another iterator; `held` is what the stage keeps in mind. -/
  | working (stage : Stage) (feed : Nat) (held : List Value)

structure LoopState where
  index : Nat
  source : Value
  /-- The iterator of the items, and the item that was taken from it ahead of time. -/
  feed : Nat
  ahead : Option Value
  before : Option Value
  current : Option Value
  length : Option Nat
  depth : Nat
  /-- The values that a change was last asked for. -/
  seen : Option (List Value)
  loop : LoopBody

inductive Object where
  | space (entries : List (Value × Value))
  | cycler (items : List Value) (pos : Nat)
  | joiner (sep : Value) (used : Bool)
  | loop (s : LoopState)
  | iterator (supply : Supply)
  | routine (r : Routine)
  | module (exported : List (String × Value))
  | block (name : String) (context depth : Nat)
  | self (context : Nat)

structure Store where
  /-- What the lists and dicts at places hold, for those that were changed. -/
  cells : Array (Option Value) := #[]
  /-- How often something was changed, or made that can change. -/
  changes : Nat := 0
  objects : Array Object := #[]
  scopes : Array Scope := #[]
  contexts : Array Context := #[]
  /-- The parent template of each run, once it is known. -/
  runs : Array (Option Loaded) := #[]
  /-- Templates that were imported without a context run once. -/
  modules : List (String × Value) := []
  /-- Captured outputs, the latest first. -/
  captured : List (String × String) := []

/-- When an expression is evaluated: while its template runs, or before, when only what cannot
change has a value; then it may be open whether texts are protected. -/
inductive Moment where
  | running | before | beforeOpen
  deriving DecidableEq, Repr

/-- What stays the same while a template runs. -/
structure Environment where
  /-- Whether there is a place where templates are looked for. -/
  loads : Bool := false
  /-- Filters that users add. -/
  filters : List (String × Value) := []
  globals : List (String × Value) := []
  moment : Moment := .running

/-- Whether the template does not run yet. -/
def Environment.beforehand (e : Environment) : Bool := e.moment != .running

/-- A computation that asks for templates by their names on its way, with the store it has then. -/
inductive Asking (α : Type) where
  | done (a : α)
  | ask (name : String) (held : Store) (next : Outcome Loaded → Asking α)

namespace Asking
variable {α β : Type}

protected def bind : Asking α → (α → Asking β) → Asking β
  | done a, f => f a
  | ask name held next, f => ask name held fun found => (next found).bind f

instance : Monad Asking where
  pure := done
  bind := Asking.bind

/-- What the computation gives when every template is looked up in one way. A complaint about one
ends it there, with the store it has. -/
def answered (load : String → Reading Loaded) : Asking α → Except (SyntaxFault × Store) α
  | done a => .ok a
  | ask name held next =>
    match outcomeOf (load name) with
    | .ok found => (next found).answered load
    | .error f => .error (f, held)

/-- The names that it asks for, in order. -/
def names (load : String → Reading Loaded) : Asking α → List String
  | done _ => []
  | ask name _ next =>
    name :: match outcomeOf (load name) with
      | .ok found => (next found).names load
      | .error _ => []

/-- What the computation gives where there is no template to be found. -/
def alone : Asking α → α
  | done a => a
  | ask name _ next => (next (.error (.notFound name))).alone

end Asking

abbrev Eval := ReaderT Environment (ExceptT Failure (StateT Store Asking))

/-- What rules ask for on the way. -/
inductive Task where
  | expr (f : Frame) (e : Expr)
  | body (f : Frame) (nodes : Body)
  | call (escape : Bool) (callee : Value) (args : Actuals)
  | filter (escape : Bool) (name : String) (value : Value) (args : Actuals)
  | test (name : String) (value : Value) (args : Actuals)
  | loop (l : LoopBody) (source : Value) (depth : Nat)
  | template (t : Loaded) (context : Nat)
  /-- The next item of an iterator. -/
  | advance (place : Nat)

/-- What performing a task gives. -/
abbrev Task.Result : Task → Type
  | .expr .. | .call .. | .filter .. | .loop .. => Value
  | .body .. | .template .. => String
  | .test .. => Bool
  | .advance _ => Option Value

/-- Performs a task. Rules are given one that reaches less deep than they do themselves. -/
abbrev Run := (t : Task) → Eval t.Result

namespace Eval

def lift {α : Type} (o : Outcome α) : Eval α := fun _ => ExceptT.mk (pure o)

def fail {α : Type} (f : Failure) : Eval α := lift (.error f)

/-- A rule of templates was broken while running. -/
def broken {α : Type} (message : String) : Eval α := fail (.runtime message)

def raise {α : Type} (kind : ErrorKind) (message : String) : Eval α :=
  fail (.raised kind message)

/-- Asks for a template. -/
def ask (name : String) : Eval Loaded := fun _ =>
  ExceptT.mk fun s => .ask name s fun r => .done (r, s)

/-- Starts a step on a store. -/
def start {α : Type} (step : Eval α) (env : Environment) (s : Store) : Asking (Outcome α × Store) :=
  (ExceptT.run (step env)).run s

/-- Runs a step on a store where there is no template to be found. -/
def runOn {α : Type} (step : Eval α) (env : Environment) (s : Store) : Outcome α × Store :=
  (step.start env s).alone

/-- Runs a step; a template that is not found gives nothing. -/
def orMissing {α : Type} (step : Eval α) : Eval (Option α) := fun env =>
  ExceptT.mk fun s => do
    match ← step.start env s with
    | (.ok a, s) => return (.ok (some a), s)
    | (.error (.notFound _), s) => return (.ok none, s)
    | (.error e, s) => return (.error e, s)

end Eval

open Eval (lift)

/-! Objects. -/

def pushObject (kind : ObjectKind) (o : Object) : Eval Value :=
  modifyGet fun s => (.object s.objects.size kind [], { s with objects := s.objects.push o })

/-- Makes an object that may be seen to change. -/
def newObject (kind : ObjectKind) (o : Object) : Eval Value := do
  modify fun s => { s with changes := s.changes + 1 }
  pushObject kind o

def objectAt? (place : Nat) : Eval (Option Object) := do return (← get).objects[place]?

def setObject (place : Nat) (o : Object) : Eval Unit :=
  modify fun s => { s with objects := s.objects.setIfInBounds place o }

def newIterator (name : String) (supply : Supply) : Eval Value :=
  pushObject (.iterator name) (.iterator supply)

/-! Lists and dicts. -/

mutual

/-- Gives places from `next` on to all that has none: the value, and the next free place. -/
def Value.settle (next : Nat) : Value → Value × Nat
  | .list items none =>
    let (items, next) := settleAll next items
    (.list items (some next), next + 1)
  | .tuple items =>
    let (items, next) := settleAll next items
    (.tuple items, next)
  | .dict entries none =>
    let (entries, next) := settleEntries next entries
    (.dict entries (some next), next + 1)
  | .group key items none =>
    let (key, next) := key.settle next
    let (items, next) := settleAll next items
    (.group key items (some next), next + 1)
  | .record kind fields none =>
    let (fields, next) := settleFields next fields
    (.record kind fields (some next), next + 1)
  | v => (v, next)

def settleAll (next : Nat) : List Value → List Value × Nat
  | [] => ([], next)
  | v :: rest =>
    let (v, next) := v.settle next
    let (rest, next) := settleAll next rest
    (v :: rest, next)

def settleEntries (next : Nat) : List (Value × Value) → List (Value × Value) × Nat
  | [] => ([], next)
  | (k, v) :: rest =>
    let (k, next) := k.settle next
    let (v, next) := v.settle next
    let (rest, next) := settleEntries next rest
    ((k, v) :: rest, next)

def settleFields (next : Nat) : List (String × Value) → List (String × Value) × Nat
  | [] => ([], next)
  | (name, v) :: rest =>
    let (v, next) := v.settle next
    let (rest, next) := settleFields next rest
    ((name, v) :: rest, next)

end

/-- A value all of whose lists and dicts have places. -/
def settled (v : Value) : Eval Value :=
  modifyGet fun s =>
    let (v, next) := v.settle s.cells.size
    (v, { s with cells := s.cells ++ Array.replicate (next - s.cells.size) none })

/-- Puts new content at a place. -/
def setCell (place : Nat) (content : Value) : Eval Unit :=
  modify fun s => { s with
    cells := s.cells.setIfInBounds place (some content), changes := s.changes + 1 }

/-- How to find what values hold now: the content of a place, and what an object shows. -/
structure Sight where
  cell : Nat → Option Value
  object : Nat → List (String × Value)

private def itemsNow (l : Sight) (place : Place) : Option (List Value) :=
  match place.bind l.cell with
  | some (.list items _) => some items
  | _ => none

private def entriesNow (l : Sight) (place : Place) : Option (List (Value × Value)) :=
  match place.bind l.cell with
  | some (.dict entries _) => some entries
  | _ => none

mutual

/-- A value with all that it holds as it is now. -/
def Value.renew (l : Sight) : Value → Value
  | .tuple items => .tuple (renewAll l items)
  | .list items place => .list ((itemsNow l place).getD (renewAll l items)) place
  | .dict entries place => .dict ((entriesNow l place).getD (renewEntries l entries)) place
  | .group key items place =>
    .group (key.renew l) ((itemsNow l place).getD (renewAll l items)) place
  | .view part entries place =>
    .view part ((entriesNow l place).getD (renewEntries l entries)) place
  | .record kind fields place => .record kind (renewFields l fields) place
  | .method self name => .method (self.renew l) name
  | .object place kind _ => .object place kind (l.object place)
  | v => v

def renewAll (l : Sight) : List Value → List Value
  | [] => []
  | v :: rest => v.renew l :: renewAll l rest

def renewEntries (l : Sight) : List (Value × Value) → List (Value × Value)
  | [] => []
  | (k, v) :: rest => (k.renew l, v.renew l) :: renewEntries l rest

def renewFields (l : Sight) : List (String × Value) → List (String × Value)
  | [] => []
  | (name, v) :: rest => (name, v.renew l) :: renewFields l rest

end

private def loopShown (s : LoopState) : List (String × Value) :=
  let length := s.length.or (match s.source.length with
    | .ok n => some n
    | .error _ => none)
  let counted := match length with
    | some n =>
      [("length", Value.int n), ("revindex", .int (n - s.index)),
        ("revindex0", .int (n - s.index - 1)), ("last", .bool (s.index + 1 == n))]
    | none => []
  [("index", .int (s.index + 1)), ("index0", .int s.index), ("first", .bool (s.index == 0)),
    ("depth", .int (s.depth + 1)), ("depth0", .int s.depth)] ++ counted

private def routineShown (r : Routine) : List (String × Value) :=
  [("name", (r.name.map Value.str).getD .none),
    ("arguments", .tuple (r.params.map fun p => .str p.name)),
    ("catch_kwargs", .bool r.restNamed), ("catch_varargs", .bool r.rest),
    ("caller", .bool r.caller)]

/-- The attributes of an object that are plain values. -/
def Object.shown : Object → List (String × Value)
  | .space entries => entries.filterMap fun (k, v) => k.asText?.map fun s => (s, v)
  | .cycler items pos =>
    [("current", (items[pos]?).getD .none), ("items", .tuple items), ("pos", .int pos)]
  | .joiner sep used => [("sep", sep), ("used", .bool used)]
  | .loop s => loopShown s
  | .routine r => routineShown r
  | .module exported => exported
  | .block name _ _ => [("name", .str name)]
  | _ => []

private def emptied : Value → Value
  | .dict _ place => .dict [] place
  | v => .list [] v.place?

/-- What there is to see in a store through so many places, past the cells and objects that are
being looked at. -/
private def Store.sight (s : Store) : Nat → List Nat → List Nat → Sight
  | 0, _, _ => ⟨fun _ => none, fun _ => []⟩
  | fuel + 1, cells, objects =>
    { cell := fun p =>
        (s.cells[p]?.getD none).map fun v =>
          if cells.contains p then emptied v
          else match v.renew (s.sight fuel (p :: cells) objects) with
            | .list items _ => .list items (some p)
            | .dict entries _ => .dict entries (some p)
            | w => w
      object := fun p =>
        if objects.contains p then []
        else match s.objects[p]? with
          | some o => renewFields (s.sight fuel cells (p :: objects)) o.shown
          | none => [] }

/-- A value as it is now, through and through. -/
def Store.present (s : Store) (v : Value) : Value :=
  if s.changes == 0 then v
  else v.renew (s.sight (s.cells.size + s.objects.size + 1) [] [])

def present (v : Value) : Eval Value := do return (← get).present v

def presentArgs (a : Actuals) : Eval Actuals := do
  let s ← get
  return ⟨a.positional.map s.present, a.named.map fun (n, v) => (n, s.present v)⟩

/-- A value whose own items are those it holds now; they may hold others meanwhile. -/
def Store.surface (s : Store) (v : Value) : Value :=
  let cell (place : Place) : Option Value := place.bind fun p => s.cells[p]?.getD none
  match v with
  | .list items place =>
    match cell place with
    | some (.list now _) => .list now place
    | _ => .list items place
  | .dict entries place =>
    match cell place with
    | some (.dict now _) => .dict now place
    | _ => .dict entries place
  | .group key items place =>
    match cell place with
    | some (.list now _) => .group key now place
    | _ => .group key items place
  | .view part entries place =>
    match cell place with
    | some (.dict now _) => .view part now place
    | _ => .view part entries place
  | v => v

def surface (v : Value) : Eval Value := do return (← get).surface v

/-- Whether a value counts as true now. -/
def truthOf (v : Value) : Eval Bool := do lift (← surface v).truth

/-! Items. -/

/-- The greatest number of rounds that a loop takes. -/
def maxRounds : Nat := 1000000000

def mayChange : Value → Bool
  | .list _ (some _) | .dict _ (some _) | .view _ _ (some _) => true
  | _ => false

/-- What the items of a value come from. -/
def supplyOf (v : Value) : Eval Supply := do
  let v ← surface v
  let items ← lift v.items
  if mayChange v then return .along v items 0 items.length (← get).changes
  else return .fixed items

/-- The iterator over the items of a value: the value itself when it is one. -/
def iterate (v : Value) : Eval Nat := do
  let make : Eval Nat := do
    let supply ← supplyOf v
    modifyGet fun s => (s.objects.size, { s with objects := s.objects.push (.iterator supply) })
  match v with
  | .object place _ _ =>
    match ← objectAt? place with
    | some (.iterator _) => return place
    | _ => make
  | _ => make

def drain (run : Run) (place : Nat) : Nat → List Value → Eval (List Value)
  | 0, _ => Eval.raise .memory ""
  | fuel + 1, taken => do
    match ← run (.advance place) with
    | some v => drain run place fuel (v :: taken)
    | none => return taken.reverse

/-- The items of a value; those of an iterator can be taken once. -/
def itemsOf (run : Run) (v : Value) : Eval (List Value) := do
  match v with
  | .object place kind shown =>
    match ← objectAt? place with
    | some (.iterator (.fixed rest)) =>
      setObject place (.iterator (.fixed []))
      return rest
    | some (.iterator _) => drain run place maxRounds []
    | _ => lift (Value.notIterable (.object place kind shown))
  | v => lift (← surface v).items

/-! Scopes. -/

def newScope (sc : Scope) : Eval Nat :=
  modifyGet fun s => (s.scopes.size, { s with scopes := s.scopes.push sc })

private def findVar (scopes : Array Scope) (name : String) : Nat → Nat → Option (Option Value)
  | 0, _ => none
  | fuel + 1, i =>
    match scopes[i]? with
    | none => none
    | some sc =>
      match sc.vars.lookup name with
      | some v => some v
      | none =>
        match sc.parent with
        | some p => findVar scopes name fuel p
        | none => none

/-- The variable of a name in a scope or an enclosing one; nothing when none declares it. -/
def variableIn (s : Store) (scope : Nat) (name : String) : Option (Option Value) :=
  findVar s.scopes name (s.scopes.size + 1) scope

private def putVar (name : String) (v : Option Value) :
    List (String × Option Value) → List (String × Option Value)
  | [] => [(name, v)]
  | e :: rest => if e.1 == name then (name, v) :: rest else e :: putVar name v rest

/-- Gives a variable of a scope its value. -/
def setVar (scope : Nat) (name : String) (v : Option Value) : Eval Unit :=
  modify fun s => { s with
    scopes := s.scopes.modify scope fun sc => { sc with vars := putVar name v sc.vars } }

/-! Contexts. -/

def Context.find? (c : Context) (name : String) : Option Value :=
  (c.vars.lookup name).or (c.base.lookup name)

/-- Everything a context holds. -/
def Context.all (c : Context) : List (String × Value) :=
  c.vars ++ c.base.filter fun e => (c.vars.lookup e.1).isNone

def newContext (c : Context) : Eval Nat :=
  modifyGet fun s => (s.contexts.size, { s with contexts := s.contexts.push c })

def contextAt (i : Nat) : Eval Context := do
  return ((← get).contexts[i]?).getD { name := none, base := [] }

def changeContext (i : Nat) (f : Context → Context) : Eval Unit :=
  modify fun s => { s with contexts := s.contexts.modify i f }

private def initial (s : Store) (c : Context) (parent : Option Nat) (given : List (String × Value))
    (name : String) : Source → Option Value
  | .given => c.find? name
  | .outer => (parent.bind fun p => variableIn s p name).getD none
  | .absent => none
  | .parameter => given.lookup name

/-- Enters a scope inside another, or a first one: declared names get their first values. -/
def enter (parent : Option Nat) (context : Nat) (params : List String)
    (given : List (String × Value)) (declare : (String → Bool) → Declared → Declared) :
    Eval Nat := do
  let s ← get
  let outer (name : String) : Bool := (parent.bind fun p => variableIn s p name).isSome
  let d := declare outer (params.foldl Declared.param {})
  let c ← contextAt context
  newScope ⟨d.sources.map fun (n, src) => (n, initial s c parent given n src), d.stores, parent⟩

/-- Enters a scope inside a frame. -/
def Frame.inner (f : Frame) (params : List String) (given : List (String × Value))
    (declare : (String → Bool) → Declared → Declared) : Eval Frame := do
  let scope ← enter (some f.scope) f.context params given declare
  return { f with scope := scope, topLevel := false }

private def storedNames (s : Store) : Nat → Nat → List String
  | 0, _ => []
  | fuel + 1, i =>
    match s.scopes[i]? with
    | none => []
    | some sc => sc.stores ++ (match sc.parent with
      | some p => storedNames s fuel p
      | none => [])

/-- The variables stored in the scopes around a frame, as an included template sees them. -/
def localsOf (f : Frame) : Eval (List (String × Value)) := do
  let s ← get
  let names := (storedNames s (s.scopes.size + 1) f.scope).eraseDups
  return names.filterMap fun n => ((variableIn s f.scope n).getD none).map fun v => (n, v)

/-- What a frame sees from outside, its own variables included. -/
def visibleFrom (f : Frame) : Eval (List (String × Value)) := do
  let own ← localsOf f
  let c ← contextAt f.context
  return own ++ c.all.filter fun e => (own.lookup e.1).isNone

/-! Missing values. -/

def missingName (name : String) : Value := .missing (quoted name ++ " is undefined") false

def missingAttribute (v : Value) (name : String) : Value :=
  .missing (quoted v.described ++ " has no attribute " ++ quoted name) false

def missingItem (v key : Value) : Value :=
  match key with
  | .str name => missingAttribute v name
  | .markup _ | .typeKind _ | .memberKind _ =>
    .missing (quoted v.described ++ " has no attribute " ++ key.listing) false
  | key => .missing (v.described ++ " has no element " ++ key.listing) false

end Stencil.Template
