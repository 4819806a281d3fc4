import Stencil.Data.Plain
import Stencil.Files.Tree
import Stencil.Toml.Document

/-!
Project descriptors: the name of a project and the descriptors of the projects it refers to. The
name is the first one given among two tables and the directory; a reference to a directory means
the descriptor inside.
-/
namespace Stencil.Project
open Stencil.Files

structure Descriptor where
  path : Path
  name : String
  references : List Path
  deriving DecidableEq, Repr

def Descriptor.directory (d : Descriptor) : Path := d.path.parent

inductive DescriptorError where
  | notFound (path : Path)
  | invalid (path : Path) (reason : String)
  | unreadable (e : FileError)
  | shape (fault : ShapeFault)
  /-- A number with so many digits, which are too many. -/
  | number (digits : Nat)
  deriving DecidableEq, Repr

def DescriptorError.message : DescriptorError → String
  | .notFound path => "Project file not found: " ++ path.toString
  | .invalid path reason => "Invalid project file '" ++ path.toString ++ "': " ++ reason
  | .unreadable e => e.message
  | .shape fault => fault.message
  | .number digits => Decimal.tooLongToRead digits

/-- Whether a reference that meets this error is skipped instead of ending the run. -/
def DescriptorError.isLoadError : DescriptorError → Bool
  | .notFound _ | .invalid .. => true
  | .unreadable _ | .shape _ | .number _ => false

/-- A directory stands for the descriptor in it. -/
def descriptorPath (t : Tree) (p : Path) : Except FileError Path := do
  return if ← t.isDir p then p / "pyproject.toml" else p

/-- The table in a descriptor file. -/
def readTable (t : Tree) (p : Path) : Except DescriptorError Plain :=
  match t.readText p with
  | .error (.file e) => .error (if e.fault == .missing then .notFound p else .unreadable e)
  | .error (.utf8 e) => .error (.invalid p e.message)
  | .ok text =>
    match Toml.read text with
    | .error ⟨.tooLong digits, _⟩ => .error (.number digits)
    | .error e => .error (.invalid p e.message)
    | .ok entries => .ok (.dict entries)

/-- The first name that is given; else that of the directory. -/
def nameIn (directory : String) (table : Plain) : Except ShapeFault String := do
  let own ← table.nestedFieldOr ["project", "name"] .none
  if own.truth then return own.text
  let other ← table.nestedFieldOr ["tool", "poetry", "name"] .none
  return if other.truth then other.text else directory

def shaped {α : Type} : Except ShapeFault α → Except DescriptorError α
  | .ok a => .ok a
  | .error f => .error (.shape f)

def reference (t : Tree) (directory : Path) (v : Plain) : Except DescriptorError Path := do
  let s ← shaped v.pathText
  match descriptorPath t (t.resolve (directory / s)) with
  | .ok p => return p
  | .error e => throw (.unreadable e)

/-- Reads a descriptor. -/
def Descriptor.read (t : Tree) (p : Path) : Except DescriptorError Descriptor := do
  let path := t.resolve p
  let table ← readTable t path
  let name ← shaped (nameIn path.parent.name table)
  let listed ← shaped do
    (← table.nestedFieldOr ["tool", "ntgen", "references"] (.list [])).itemsOf
  let references ← listed.mapM (reference t path.parent)
  return ⟨path, name, references⟩

end Stencil.Project
