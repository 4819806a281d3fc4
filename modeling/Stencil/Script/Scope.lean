import Stencil.Script.Library

/-!
Reading and binding names. A function has the names that it binds; others belong to the functions
around it, to the module, or to the language. A class that is being defined has whatever was bound
so far, and what it holds is not seen from the functions inside.
-/
namespace Stencil.Script
open Stencil.Text
open Stencil.Template (Value)

/-- Where a name of an enclosing function is. -/
private inductive Home where
  | module
  | frame (i : Nat)
  /-- The class that is being defined around, under its own special name. -/
  | class (v : Value)

/-- The special name under which functions find the class around them. -/
def classAround : String := "__class__"

/-- Looks for the function that a name belongs to, from one on outwards. -/
private def homeOf (frames : Array Frame) (name : String) : Nat → Option Nat → Home
  | 0, _ | _, none => .module
  | fuel + 1, some i =>
    match frames[i]? with
    | none => .module
    | some f =>
      let u := f.names.usage name
      if f.isClass then
        match if name == classAround then f.vars.lookup name else none with
        | some v => .class v
        | none => homeOf frames name fuel f.parent
      else if u.shared then .module
      else if u.binds && !u.borrowed then .frame i
      else homeOf frames name fuel f.parent

private def Memory.home (m : Memory) (name : String) (start : Option Nat) : Home :=
  homeOf m.frames name (m.frames.size + 1) start

namespace Scope

def undefined {α : Type} (name : String) : Eval α :=
  raise "NameError" ("name " ++ quoted name ++ " is not defined")

private def unset {α : Type} (name : String) : Eval α :=
  raise "UnboundLocalError" ("cannot access local variable " ++ quoted name ++
    " where it is not associated with a value")

private def unsetOuter {α : Type} (name : String) : Eval α :=
  raise "NameError" ("cannot access free variable " ++ quoted name ++
    " where it is not associated with a value in enclosing scope")

/-- The names of the module. -/
def shared (s : Scope) : Eval (List (String × Value)) := do
  return (← get).globals s.module

private def readShared (s : Scope) (name : String) : Eval Value := do
  match ((← s.shared).lookup name).or (standardName? name) with
  | some v => return v
  | none => undefined name

private def readOuter (s : Scope) (name : String) (start : Option Nat) : Eval Value := do
  let m ← get
  match m.home name start with
  | .module => s.readShared name
  | .class v => return v
  | .frame i =>
    match (m.frames[i]?).bind fun f => f.vars.lookup name with
    | some v => return v
    | none => unsetOuter name

/-- The frame of the scope. -/
def frame? (s : Scope) : Eval (Option Frame) := do
  let m ← get
  return s.frame.bind fun i => m.frames[i]?

/-- The meaning of a name. -/
def read (s : Scope) (name : String) : Eval Value := do
  let name := Source.NameCheck.hidden s.owner name
  match ← s.frame? with
  | none => s.readShared name
  | some f =>
    let u := f.names.usage name
    let own := f.vars.lookup name
    if u.shared then s.readShared name
    else if f.isClass then
      match own with
      | some v => return v
      | none => if u.binds then s.readShared name else s.readOuter name f.parent
    else if u.binds && !u.borrowed then
      match own with
      | some v => return v
      | none => unset name
    else s.readOuter name f.parent

private def setShared (s : Scope) (name : String) (v : Option Value) : Eval PUnit :=
  modify (fun m => { m with modules := m.modules.modify s.module fun x => (x.1, x.2.set name v) })
    fun m => by
      refine List.ext_getElem? fun i => ?_
      simp only [Memory.loaded, List.getElem?_map, List.getElem?_modify]
      cases m.modules[i]? with
      | none => rfl
      | some x => by_cases hi : s.module = i <;> simp [hi]

private def setIn (i : Nat) (name : String) (v : Option Value) : Eval PUnit :=
  changeFrame i fun frame => { frame with vars := setNamed frame.vars name v }

/-- Binds a name where it belongs, or takes it away there. -/
private def set (s : Scope) (name : String) (v : Option Value) : Eval PUnit := do
  match s.frame, ← s.frame? with
  | some i, some frame =>
    let u := frame.names.usage name
    if u.shared then s.setShared name v
    else if u.borrowed then
      match (← get).home name frame.parent with
      | .frame j => setIn j name v
      | _ => s.setShared name v
    else setIn i name v
  | _, _ => s.setShared name v

/-- Binds a name. -/
def bind (s : Scope) (name : String) (v : Value) : Eval PUnit :=
  s.set (Source.NameCheck.hidden s.owner name) (some v)

/-- Takes a name away. -/
def unbind (s : Scope) (name : String) : Eval PUnit := do
  let name := Source.NameCheck.hidden s.owner name
  match ← s.frame? with
  | some f =>
    if f.isClass then
      if (f.vars.lookup name).isNone && !(f.names.usage name).shared then undefined name
    else
      let _ ← s.read name
  | none => if ((← s.shared).lookup name).isNone then undefined name
  s.set name none

end Scope
end Stencil.Script
