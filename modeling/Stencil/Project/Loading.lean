import Stencil.Project.Descriptor
import Stencil.Project.Workspace
import Stencil.Settings.Options
import Stencil.Text.CaseMap
import Stencil.Yaml.Value

/-!
Loading a workspace from a solution file, which lists its projects, or from one project, which
brings those it refers to. Loading reports line by line; a project that cannot be used is kept
as an entry that does not compile.
-/
namespace Stencil.Project
open Stencil.Files
open Stencil.Text

inductive LoadError where
  | notFound (solution : Path)
  | invalid (solution : Path) (fault : Yaml.Fault) (text : String)
  | noMapping (solution : Path)
  | badEntry (solution : Path) (listing : String)
  | project (e : DescriptorError)
  | unreadable (e : ReadError)
  deriving Repr

namespace LoadError

def message : LoadError → String
  | notFound solution => "Solution file not found: " ++ solution.toString
  | invalid solution fault text =>
    match fault with
    | .scalar f => f.message
    | fault =>
      "Invalid solution file '" ++ solution.toString ++ "': " ++ fault.message text.toList
  | noMapping solution =>
    "Invalid solution file '" ++ solution.toString ++
      "': expected a mapping with a 'projects' list"
  | badEntry solution listing =>
    "Invalid project entry in '" ++ solution.toString ++ "': " ++ listing
  | project e => e.message
  | unreadable e => e.message

/-- Whether the target itself cannot be loaded, and not only read. -/
def isLoadError : LoadError → Bool
  | notFound _ | noMapping _ | badEntry .. => true
  | invalid _ fault _ =>
    match fault with
    | .scalar _ => false
    | _ => true
  | project e => e.isLoadError
  | unreadable _ => false

end LoadError

/-- What is reported while loading, and how it ends. -/
abbrev Loading (α : Type) := List String × Except LoadError α

/-! Solutions. -/

/-- The value of a solution file; an empty document is an empty mapping. -/
def readSolution (t : Tree) (path : Path) : Except LoadError Plain :=
  match t.readText path with
  | .error (.file e) =>
    .error (if e.fault == .missing then .notFound path else .unreadable (.file e))
  | .error e => .error (.unreadable e)
  | .ok text =>
    match Yaml.read text with
    | .error f => .error (.invalid path f text)
    | .ok v => .ok (if v.truth then v else .dict [])

/-- A listed project: its location and the name that it is given. -/
structure Listed where
  path : String
  name : Option String

def listedProject (solution : Path) : Plain → Except LoadError Listed
  | .str s => .ok ⟨s, none⟩
  | .dict es =>
    match Plain.valueOf? es "path" with
    | some p =>
      let name := (Plain.valueOf? es "name").getD .none
      .ok ⟨p.text, if name.truth then some name.text else none⟩
    | none => .error (.badEntry solution (Plain.dict es).listing)
  | v => .error (.badEntry solution v.listing)

/-- The name and the projects that a solution lists. -/
def solutionContent (solution : Path) : Plain → Except LoadError (String × List Listed)
  | .dict es =>
    match (Plain.valueOf? es "projects").getD (.list []) with
    | .list items => do
      let listed ← items.mapM (listedProject solution)
      let name := (Plain.valueOf? es "name").getD .none
      return (if name.truth then name.text else solution.stem, listed)
    | _ => .error (.noMapping solution)
  | _ => .error (.noMapping solution)

def isDescriptorName (p : Path) : Bool := lower p.suffix == ".toml"

/-- The entry of a listed project, and what is reported about it. -/
def entryOf (t : Tree) (directory : Path) (l : Listed) :
    Except LoadError (List String × Entry) := do
  let io {α : Type} : Except FileError α → Except LoadError α
    | .ok a => .ok a
    | .error e => .error (.unreadable (.file e))
  let path ← io (descriptorPath t (t.resolve (directory / l.path)))
  if !(← io (t.exists path)) then
    let fallback := if isDescriptorName path then path.parent.name else path.name
    return ([], { name := l.name.getD fallback, file := none })
  else if !isDescriptorName path then
    return ([], { name := l.name.getD path.stem, file := some path, compiles := false })
  else
    match Descriptor.read t path with
    | .ok d =>
      return ([], { name := l.name.getD d.name, file := some d.path, references := d.references })
    | .error e =>
      if e.isLoadError then
        return ([e.message],
          { name := l.name.getD path.parent.name, file := some path, compiles := false })
      else throw (.project e)

/-- The entries of the listed projects, and what is reported about them. -/
def entriesOf (entry : Listed → Except LoadError (List String × Entry)) :
    List Listed → Loading (List Entry)
  | [] => ([], .ok [])
  | l :: rest =>
    match entry l with
    | .error e => ([], .error e)
    | .ok (lines, e) =>
      let (more, result) := entriesOf entry rest
      (lines ++ more, result.map (e :: ·))

def loadSolution (t : Tree) (target : Path) : Loading Workspace :=
  let path := t.resolve target
  match readSolution t path >>= solutionContent path with
  | .error e => ([], .error e)
  | .ok (name, listed) =>
    let start := "Loading solution from '" ++ path.toString ++ "'"
    match entriesOf (entryOf t path.parent) listed with
    | (lines, .error e) => (start :: lines, .error e)
    | (lines, .ok entries) =>
      (start :: lines ++ ["Found " ++ ofNat entries.length ++ " projects"],
        .ok ⟨name, entries⟩)

/-! Projects. -/

/-- The descriptors that can be read among the references of a project. -/
def readReferences (t : Tree) (project : String) : List Path → Loading (List Descriptor)
  | [] => ([], .ok [])
  | p :: rest =>
    match Descriptor.read t p with
    | .ok d =>
      let (lines, result) := readReferences t project rest
      (lines, result.map (d :: ·))
    | .error e =>
      if e.isLoadError then
        let (lines, result) := readReferences t project rest
        (("Skipping reference of '" ++ project ++ "': " ++ e.message) :: lines, result)
      else ([], .error (.project e))

def Descriptor.entry (d : Descriptor) : Entry :=
  { name := d.name, file := some d.path, references := d.references }

/-- Adds projects and those they refer to, nearest first and each once, at most `limit`. -/
def addReferenced (t : Tree) (limit : Nat) (done : List Entry) (queue : List Descriptor) :
    Loading (List Entry) :=
  match queue with
  | [] => ([], .ok done)
  | d :: rest =>
    if done.any fun e => e.file == some d.path then addReferenced t limit done rest
    else
      match limit with
      | 0 => ([], .ok done)
      | limit + 1 =>
        match readReferences t d.name d.references with
        | (lines, .error e) => (lines, .error e)
        | (lines, .ok found) =>
          let (more, result) := addReferenced t limit (done ++ [d.entry]) (rest ++ found)
          (lines ++ more, result)
termination_by (limit, queue.length)

def loadProject (t : Tree) (target : Path) : Loading Workspace :=
  match descriptorPath t (t.resolve target) with
  | .error e => ([], .error (.unreadable (.file e)))
  | .ok path =>
    match Descriptor.read t path with
    | .error e => ([], .error (.project e))
    | .ok root =>
      let (lines, result) := addReferenced t (t.fileCount + 1) [] [root]
      (("Loading project from '" ++ root.path.toString ++ "'") :: lines,
        result.map fun entries => ⟨root.name, entries⟩)

/-- The places that a solution lists. -/
def listedPlaces (t : Tree) (solution : Path) : List Path :=
  match readSolution t solution >>= solutionContent solution with
  | .ok (_, listed) => listed.map fun l => t.resolve (solution.parent / l.path)
  | .error _ => []

/-- The places that a target leads to: those that a solution lists, and those that its projects
refer to. -/
def placesOf (t : Tree) (o : Settings.Options) : List Path :=
  let (listed, loading) := match o.kind with
    | .solution => (listedPlaces t (t.resolve o.target), loadSolution t o.target)
    | .project => ([], loadProject t o.target)
  listed ++ ((loading.2.toOption.map Workspace.projects).getD []).flatMap Entry.references

/-- Loads the target of a run. -/
def load (t : Tree) (o : Settings.Options) : Loading Workspace :=
  match o.kind with
  | .solution => loadSolution t o.target
  | .project => loadProject t o.target

end Stencil.Project
