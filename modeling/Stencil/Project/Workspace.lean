import Stencil.Console.Line
import Stencil.Files.Path
import Stencil.Files.Tree

/-!
A workspace: its projects in the order they were added. A project without a file is one whose
location does not exist; one that cannot be compiled is kept so that it can be reported.
-/
namespace Stencil.Project
open Stencil.Files
open Stencil.Text

structure Entry where
  name : String
  file : Option Path
  compiles : Bool := true
  references : List Path := []
  deriving DecidableEq, Repr

namespace Entry

def directory (e : Entry) : Option Path := e.file.map Path.parent

/-- An entry as it is listed. -/
def listing (e : Entry) : String :=
  "ProjectHandle(name=" ++ quoted e.name ++ ", file_path=" ++
    (e.file.elim "None" Path.listed) ++ ")"

/-- Whether the project takes part in a run. -/
def isEligible (e : Entry) : Bool := e.compiles && e.file.isSome

end Entry

structure Workspace where
  name : String
  projects : List Entry := []
  deriving DecidableEq, Repr

namespace Workspace

def add (w : Workspace) (e : Entry) : Workspace := { w with projects := w.projects ++ [e] }

/-- The project at a place; a negative place counts from the end. -/
def at? (w : Workspace) (place : Int) : Option Entry :=
  let place := if place < 0 then place + w.projects.length else place
  if place < 0 then none else w.projects[place.toNat]?

/-- The place of the first project with a file. -/
def indexOf? (w : Workspace) (file : Path) : Option Nat :=
  w.projects.findIdx? fun e => e.file == some file

def find? (w : Workspace) (file : Path) : Option Entry :=
  w.projects.find? fun e => e.file == some file

end Workspace

/-- The directories that are left out of searches, unless told otherwise. -/
def standardExclude (name : String) : Bool := name.startsWith "." || name == "__pycache__"

/-!
The templates of a workspace. Only projects that own a template take part in a run; one that
cannot be compiled or has no file is left out with a warning.
-/

/-- A project and its templates, in the order they are found. -/
structure Templated where
  entry : Entry
  templates : List Path
  deriving DecidableEq, Repr

/-- The templates below a directory. -/
def templatesBelow (t : Tree) (directory : Path) (extension : String) (exclude : String → Bool) :
    List Path :=
  t.find directory extension exclude

/-- Why a project takes no part in a run. -/
def Entry.objection? (e : Entry) : Option String :=
  if !e.compiles then some ("Compiling '" ++ e.name ++ "' is not supported")
  else if e.file.isNone then
    some ("Project '" ++ e.name ++ "' lacks a project file, which is not supported")
  else none

/-- The templates of one project. -/
def Entry.templates (t : Tree) (extension : String) (exclude : String → Bool) (e : Entry) :
    List Path :=
  match e.directory with
  | some d => if e.compiles then templatesBelow t d extension exclude else []
  | none => []

/-- The projects with templates, in the order of the workspace. -/
def templated (t : Tree) (extension : String) (exclude : String → Bool) (es : List Entry) :
    List Templated :=
  (es.map fun e => ⟨e, e.templates t extension exclude⟩).filter fun p => !p.templates.isEmpty

/-- What the search for templates reports. -/
def templateReport (t : Tree) (extension : String) (exclude : String → Bool) (verbose : Bool)
    (es : List Entry) : List Console.Message :=
  es.flatMap fun e =>
    match e.objection? with
    | some text => [Console.warning text]
    | none =>
      if verbose then
        [Console.progress ("Looking for templates in project '" ++ e.name ++ "'"),
          Console.progress ("Found " ++ ofNat (e.templates t extension exclude).length ++
            " templates in project")]
      else []

end Stencil.Project
