import Stencil.Files.Path
import Stencil.Files.Tree
import Stencil.Model.Extract
import Stencil.Project.Descriptor
import Stencil.Project.Workspace
import Stencil.Source.Grammar.Suite

/-!
The dotted name of a module, from the path of its file below the project directory. A leading
source directory and a trailing package file are left out.
-/
namespace Stencil.Project
open Stencil.Files
open Stencil.Text

inductive ModuleNameError where
  | notBelow (path root : Path)
  | noName
  deriving DecidableEq, Repr

def ModuleNameError.message : ModuleNameError → String
  | .notBelow path root =>
    quoted path.toString ++ " is not in the subpath of " ++ quoted root.toString ++
      " OR one path is relative and the other is absolute."
  | .noName => Path.listed ⟨.here, []⟩ ++ " has an empty name"

def dropSourceDir : List String → List String
  | first :: second :: rest => if first == "src" then second :: rest else first :: second :: rest
  | names => names

def dropPackageFile (names : List String) : List String :=
  if names.getLast? == some "__init__" then names.dropLast else names

def moduleName (path root : Path) : Except ModuleNameError String :=
  match path.relativeTo? root with
  | none => .error (.notBelow path root)
  | some p =>
    if p.names.isEmpty then .error .noName
    else
      .ok (joinWith "." (dropPackageFile (dropSourceDir (p.withName p.stem).names)))

/-!
Compiling a project: its own modules, then those of the projects it refers to, nearest first and
each once. A reference that cannot be read is skipped. What is reported on the way is kept in
turns; a turn ends where the modules of a project are read.
-/
open Stencil.Model

structure Unit where
  project : String
  file : Path
  modules : List SourceModule

namespace Unit

def ownModules (u : Unit) : List SourceModule := u.modules.filter fun m => !m.referenced

def referencedModules (u : Unit) : List SourceModule := u.modules.filter fun m => m.referenced

end Unit

inductive CompileError where
  | noFile (project : String)
  | unsupported (project : String) (file : Path)
  | noSources (file : Path)
  | source (file : Path) (reason : String)
  /-- A source that holds the zero character. -/
  | zeroCharacter
  | unreadable (e : FileError)
  | naming (e : ModuleNameError)
  | reference (e : DescriptorError)
  deriving DecidableEq, Repr

namespace CompileError

def message : CompileError → String
  | noFile project => "Project '" ++ project ++ "' has no project file"
  | unsupported project _ => "Compiling '" ++ project ++ "' is not supported"
  | noSources file => "Compiling '" ++ file.toString ++ "' failed: no source files found"
  | source file reason => "Compiling '" ++ file.toString ++ "' failed: " ++ reason
  | zeroCharacter => "source code string cannot contain null bytes"
  | unreadable e => e.message
  | naming e => e.message
  | reference e => e.message

/-- Whether the project is to blame, and not the way it was looked at. -/
def isCompilation : CompileError → Bool
  | noFile _ | unsupported .. | noSources _ | source .. => true
  | zeroCharacter | unreadable _ | naming _ | reference _ => false

/-- The file that the error names. -/
def file? : CompileError → Option Path
  | unsupported _ file | noSources file | source file _ => some file
  | _ => none

end CompileError

private def faultText (f : Source.Fault) : String :=
  f.message ++ " (line " ++ ofNat f.line ++ ")"

/-- Reads one source file below a project directory. -/
def readSource (t : Tree) (root : Path) (project : String) (referenced : Bool) (file : Path) :
    Except CompileError SourceModule :=
  match t.readText file with
  | .error (.file e) => .error (.unreadable e)
  | .error (.utf8 e) => .error (.source file e.message)
  | .ok text =>
    if text.toList.contains '\x00' then .error .zeroCharacter
    else
      match Source.Module.read text with
      | .error f => .error (.source file (faultText f))
      | .ok tree =>
        match moduleName file root with
        | .error e => .error (.naming e)
        | .ok name => .ok ⟨file.toString, name, tree, project, referenced⟩

/-- The source files of a project. -/
def sourceFiles (t : Tree) (exclude : String → Bool) (root : Path) : List Path :=
  t.find root ".py" exclude

/-- What is reported, turn by turn, and how it ends. -/
structure Report (α : Type) where
  turns : List (List String)
  result : Except CompileError α

namespace Report
variable {α β : Type}

def done (a : α) : Report α := ⟨[[]], .ok a⟩
def fail (e : CompileError) : Report α := ⟨[[]], .error e⟩

/-- Puts a line in front. -/
def say (line : String) (r : Report α) : Report α :=
  match r.turns with
  | [] => ⟨[[line]], r.result⟩
  | turn :: rest => ⟨(line :: turn) :: rest, r.result⟩

/-- Ends a turn in front. -/
def later (r : Report α) : Report α := ⟨[] :: r.turns, r.result⟩

def map (f : α → β) (r : Report α) : Report β := ⟨r.turns, r.result.map f⟩

def lines (r : Report α) : List String := r.turns.flatten

end Report

/-- The modules of referenced projects, each project once, in the order of first mention. At most
`limit` of them are read. -/
def visit (t : Tree) (exclude : String → Bool) (project : String) (limit : Nat)
    (seen queue : List Path) : Report (List SourceModule) :=
  match queue with
  | [] => .done []
  | p :: rest =>
    if seen.contains p then visit t exclude project limit seen rest
    else
      match Descriptor.read t p with
      | .error e =>
        if e.isLoadError then
          (visit t exclude project limit (p :: seen) rest).say
            ("Skipping reference of '" ++ project ++ "': " ++ e.message)
        else .fail (.reference e)
      | .ok d =>
        match limit with
        | 0 => .done []
        | limit + 1 =>
          let files := sourceFiles t exclude d.directory
          match files.mapM (readSource t d.directory d.name true) with
          | .error e => (Report.fail e).later
          | .ok modules =>
            let more := visit t exclude project limit (p :: seen) (rest ++ d.references)
            let all := more.map (modules ++ ·)
            if files.isEmpty then all else all.later
termination_by (limit, queue.length)

/-- Compiles a project from its sources on the tree as it is. -/
def Entry.compile (t : Tree) (exclude : String → Bool) (e : Entry) : Report Unit :=
  match e.file with
  | none => .fail (.noFile e.name)
  | some file =>
    if !e.compiles then .fail (.unsupported e.name file)
    else
      let files := sourceFiles t exclude file.parent
      let body : Report Unit :=
        if files.isEmpty then .fail (.noSources file)
        else
          match files.mapM (readSource t file.parent e.name false) with
          | .error e => (Report.fail e).later
          | .ok own =>
            ((visit t exclude e.name (t.fileCount + 1) [file] e.references).map fun more =>
              ⟨e.name, file, own ++ more⟩).later
      body.say ("Parsing sources of '" ++ e.name ++ "'")

/-- Compiles projects side by side, turn by turn; the first error in time ends all of them. -/
def compileAll (t : Tree) (exclude : String → Bool) (es : List Entry) :
    List String × Except CompileError (List Unit) :=
  let reports := es.map (Entry.compile t exclude)
  let failed (r : Report Unit) : Option Nat :=
    match r.result with
    | .error _ => some r.turns.length
    | .ok _ => none
  let total := (reports.map fun r => r.turns.length).foldl max 0
  let turns := ((reports.filterMap failed).min?).getD total
  let lines := (List.range turns).flatMap fun i => reports.flatMap fun r => r.turns.getD i []
  let first := reports.find? fun r => failed r == some turns
  match first.map Report.result with
  | some (.error e) => (lines, .error e)
  | _ => (lines, reports.mapM Report.result)

end Stencil.Project
