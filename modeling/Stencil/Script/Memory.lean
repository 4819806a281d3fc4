import Stencil.Source.Names
import Stencil.Template.Machine

/-!
What modules of settings work on. Lists and dicts live in a store; everything else that has a place
is a thing in memory, such as a function, an instance or an iterator. A value that the language of
settings does not cover is foreign: it may be used, and gives nothing but foreign values.
-/
namespace Stencil.Script
open Stencil.Text
open Stencil.Template (Value Actuals)

/-- Where code stands. -/
structure Scope where
  module : Nat
  /-- What comes before the names of classes and functions that are defined here. -/
  path : String := ""
  /-- The variables of the function or class around; without it the module's are meant. -/
  frame : Option Nat := none
  /-- The class that hides names with two leading underscores. -/
  owner : Option String := none
  /-- Whether hints are left alone. -/
  lazyHints : Bool := false
  /-- What the blocks of the module do with names. -/
  blocks : List (Source.Span × Source.Effects) := []

def Scope.effects (s : Scope) (span : Source.Span) : Source.Effects :=
  (s.blocks.lookup span).getD {}

/-- What a function runs. -/
inductive Code where
  | body (stmts : List Source.Stmt)
  | result (e : Source.Expr)

structure Function where
  name : String
  /-- The name together with the classes and functions around it. -/
  path : String
  /-- Where it was defined. -/
  scope : Scope
  params : Source.Parameters
  defaults : List (String × Value)
  code : Code
  effects : Source.Effects := {}
  /-- Whether calling it gives something that has to be waited for. -/
  waits : Bool := false

/-- Variables of a running function, or of a class that is being defined. -/
structure Frame where
  names : Source.NameTable
  vars : List (String × Value) := []
  parent : Option Nat
  isClass : Bool := false
  /-- What was yielded, the last first. -/
  yielded : List Value := []

/-- The items that an iterator still has. -/
inductive Supply where
  | fixed (rest : List Value)
  /-- Those of a list or dict that may change meanwhile. -/
  | along (source : Value) (taken size : Nat)
  /-- Those that a function yields, which has not run yet. -/
  | pending (f : Function) (frame : Nat)
  /-- Those of a comprehension that has not run yet. -/
  | computed (s : Scope) (item : Source.Expr) (target : Source.Expr) (first : Value)
      (conditions : List Source.Expr) (rest : List Source.Clause)
  /-- What a function makes of the items of others. -/
  | mapped (f : Value) (feeds : List Value)
  /-- The items of another that a function keeps. -/
  | chosen (f feed : Value)

/-- An instance of a class. The text of an error is kept where its arguments do not tell it. -/
structure Instance where
  key : String
  attributes : List (String × Value) := []
  shown : Option String := none

inductive Thing where
  | foreign
  /-- A single value of its kind, by its listing. -/
  | single (listing : String)
  | module (path : String)
  | function (f : Function) (attributes : List (String × Value))
  /-- A function that every module knows. -/
  | builtin (name : String)
  /-- A method of the values of a kind. -/
  | unbound (kind name : String)
  | static (target : Value)
  | classBound (target : Value)
  | property (get set delete : Option Value)
  /-- A function with its first argument. -/
  | method (self target : Value)
  /-- The rest of the classes of an instance, behind one of them. -/
  | above (key : String) (self : Value) (start : String)
  | instance (i : Instance)
  | set (items : List Value) (frozen : Bool)
  | iterator (supply : Supply)

/-- A class. Its order holds the keys of itself and its ancestors. -/
structure ClassRecord where
  key : String
  name : String := key
  path : String := key
  /-- The module that it says it is from. -/
  home : String := "builtins"
  bases : List String := []
  order : List String
  attributes : List (String × Value) := []
  /-- Whether it may have more attributes than are known. -/
  «open» : Bool := false
  /-- Whether a module defined it. -/
  own : Bool := false

/-- The variables of a module. Each name is there once. -/
structure Variables where
  entries : List (String × Value)
  distinct : (entries.map Prod.fst).Nodup

/-- Variables with a name bound to a value, or without it. -/
def setNamed (vars : List (String × Value)) (name : String) :
    Option Value → List (String × Value)
  | some v => Template.putNamed vars name v
  | none => vars.filter fun e => e.1 != name

def Variables.set (vars : Variables) (name : String) (v : Option Value) : Variables where
  entries := setNamed vars.entries name v
  distinct := by
    cases v with
    | some v => exact Template.nodup_putNamed vars.distinct
    | none => exact vars.distinct.sublist (List.filter_sublist.map _)

/-- What modules have defined so far. -/
structure Memory where
  store : Template.Store := {}
  things : Array Thing := #[]
  frames : Array Frame := #[]
  classes : List ClassRecord := []
  /-- The modules that run or have run, by what they are loaded under, with their names. -/
  modules : List (String × Variables) := []
  /-- The errors that are being handled, the innermost first. -/
  handled : List Value := []

/-- What the modules are loaded under. -/
def Memory.loaded (m : Memory) : List String := m.modules.map Prod.fst

/-- The names of a module. -/
def Memory.globals (m : Memory) (module : Nat) : List (String × Value) :=
  ((m.modules[module]?).map (·.2.entries)).getD []

/-- Computes with memory; an error is raised as a value. Code changes the names of modules, but it
loads none and takes none away. -/
structure Eval (α : Type) where
  run : Memory → Except Value α × Memory
  keeps : ∀ m, (run m).2.loaded = m.loaded

namespace Eval
variable {α β : Type}

protected def pure (a : α) : Eval α := ⟨fun m => (.ok a, m), fun _ => rfl⟩

protected def bind (step : Eval α) (next : α → Eval β) : Eval β where
  run m :=
    match step.run m with
    | (.ok a, m) => (next a).run m
    | (.error e, m) => (.error e, m)
  keeps m := by
    have hstep := step.keeps m
    generalize step.run m = ran at hstep ⊢
    obtain ⟨result, after⟩ := ran
    cases result with
    | ok a => exact ((next a).keeps after).trans hstep
    | error => exact hstep

instance : Monad Eval where
  pure := Eval.pure
  bind := Eval.bind

protected def fail (e : Value) : Eval α := ⟨fun m => (.error e, m), fun _ => rfl⟩

/-- What is done after an error starts from what the failed step leaves. -/
protected def orElse (step : Eval α) (other : Value → Eval α) : Eval α where
  run m :=
    match step.run m with
    | (.ok a, m) => (.ok a, m)
    | (.error e, m) => (other e).run m
  keeps m := by
    have hstep := step.keeps m
    generalize step.run m = ran at hstep ⊢
    obtain ⟨result, after⟩ := ran
    cases result with
    | ok => exact hstep
    | error e => exact ((other e).keeps after).trans hstep

instance : MonadExceptOf Value Eval where
  throw := Eval.fail
  tryCatch := Eval.orElse

end Eval

/-- The memory as it is. -/
def get : Eval Memory := ⟨fun m => (.ok m, m), fun _ => rfl⟩

/-- Changes memory and gives a value. -/
def modifyGet {α : Type} (f : Memory → α × Memory)
    (h : ∀ m, (f m).2.loaded = m.loaded := by exact fun _ => rfl) : Eval α :=
  ⟨fun m => (.ok (f m).1, (f m).2), h⟩

/-- Changes memory. -/
def modify (f : Memory → Memory) (h : ∀ m, (f m).loaded = m.loaded := by exact fun _ => rfl) :
    Eval PUnit :=
  modifyGet (fun m => ((), f m)) h

/-- How rules call on what lies outside of them. -/
structure Run where
  call : Value → Actuals → Eval Value
  /-- The next item of an iterator. -/
  next : Value → Eval (Option Value)

/-! Things. -/

def foreign : Value := .object 0 (.item "object") []
def ellipsis : Value := .object 1 (.item "ellipsis") []
def notImplemented : Value := .object 2 (.item "NotImplementedType") []

def isForeign : Value → Bool
  | .object 0 (.item _) _ => true
  | _ => false

def isNone : Value → Bool
  | .none => true
  | _ => false

def newThing (kind : String) (t : Thing) : Eval Value :=
  modifyGet fun m => (.object m.things.size (.item kind) [], { m with things := m.things.push t })

/-- The thing at a place; there is none behind plain values. -/
def Memory.thing? (m : Memory) : Value → Option Thing
  | .object place (.item _) _ => m.things[place]?
  | _ => none

def thing? (v : Value) : Eval (Option Thing) := do return (← get).thing? v

def setThing (v : Value) (t : Thing) : Eval PUnit :=
  match v with
  | .object place (.item _) _ =>
    modify fun m => { m with things := m.things.setIfInBounds place t }
  | _ => return

def newSet (items : List Value) (frozen : Bool) : Eval Value :=
  newThing (if frozen then "frozenset" else "set") (.set items frozen)

def newIterator (kind : String) (supply : Supply) : Eval Value := newThing kind (.iterator supply)

/-! Lists and dicts. -/

/-- A value all of whose lists and dicts have places. -/
def settled (v : Value) : Eval Value :=
  modifyGet fun m =>
    let (v, next) := v.settle m.store.cells.size
    let more := Array.replicate (next - m.store.cells.size) none
    (v, { m with store := { m.store with cells := m.store.cells ++ more } })

/-- Puts new content where a list or dict is kept. -/
def setContent (v content : Value) : Eval PUnit :=
  match v.place? with
  | some place => modify fun m =>
      { m with store := { m.store with
          cells := m.store.cells.setIfInBounds place (some content)
          changes := m.store.changes + 1 } }
  | none => return

/-- A value whose own items are those it holds now. -/
def surface (v : Value) : Eval Value := do return (← get).store.surface v

/-- A value as it is now, through and through. -/
def present (v : Value) : Eval Value := do return (← get).store.present v

def presentActuals (a : Actuals) : Eval Actuals := do
  let s := (← get).store
  return ⟨a.positional.map s.present, a.named.map fun (n, v) => (n, s.present v)⟩

/-! Frames. -/

def newFrame (f : Frame) : Eval Nat :=
  modifyGet fun m => (m.frames.size, { m with frames := m.frames.push f })

def changeFrame (i : Nat) (f : Frame → Frame) : Eval PUnit :=
  modify fun m => { m with frames := m.frames.modify i f }

/-! Classes. -/

namespace Memory

def class? (m : Memory) (key : String) : Option ClassRecord := m.classes.find? fun c => c.key == key

/-- The keys of a class and its ancestors. -/
def order (m : Memory) (key : String) : List String :=
  ((m.class? key).map (·.order)).getD [key, "object"]

/-- The short name of a class. -/
def className (m : Memory) (key : String) : String := ((m.class? key).map (·.name)).getD key

/-- The name of a class together with what is around it. -/
def classPath (m : Memory) (key : String) : String := ((m.class? key).map (·.path)).getD key

/-- How a class is listed: with the module it is from, unless every module knows it. -/
def classListing (m : Memory) (key : String) : String :=
  match m.class? key with
  | some c => if c.home == "builtins" then c.path else c.home ++ "." ++ c.path
  | none => key

/-- What the classes of an order bind a name to, the first that does. -/
def bound? (m : Memory) (order : List String) (name : String) : Option Value :=
  order.findSome? fun k => (m.class? k).bind fun c => c.attributes.lookup name

/-- What a class binds a name to, itself or an ancestor. -/
def attribute? (m : Memory) (key name : String) : Option Value := m.bound? (m.order key) name

/-- Whether a class may have more attributes than are known. -/
def isOpen (m : Memory) (key : String) : Bool :=
  (m.order key).any fun k => ((m.class? k).map (·.open)).getD true

def addClass (m : Memory) (c : ClassRecord) : Memory := { m with classes := m.classes ++ [c] }

def changeClass (m : Memory) (key : String) (f : ClassRecord → ClassRecord) : Memory :=
  { m with classes := m.classes.map fun c => if c.key == key then f c else c }

end Memory

def instance? (v : Value) : Eval (Option Instance) := do
  match ← thing? v with
  | some (.instance i) => return some i
  | _ => return none

/-- The key of the class of a value. -/
def classOf (v : Value) : Eval String := do
  match ← thing? v with
  | some (.instance i) => return i.key
  | _ => return v.kindName

end Stencil.Script
