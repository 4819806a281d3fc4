import Stencil.Build.Installed
import Stencil.Child.Command
import Stencil.Data.Plain
import Stencil.Files.Tree
import Stencil.Toml.Document
import Stencil.Work

/-!
What a descriptor says about building its directory, and where the built artifact lies.
-/
namespace Stencil.Build
open Stencil.Files

structure Settings where
  name : String
  framework : String
  requires : List String
  deriving DecidableEq, Repr

inductive SettingsError where
  | unreadable (e : FileError)
  | text (e : Text.Utf8Error)
  | invalid (e : Toml.Error)
  | shape (fault : ShapeFault)
  /-- A number with so many digits, which are too many. -/
  | number (digits : Nat)
  deriving DecidableEq, Repr

def SettingsError.message : SettingsError → String
  | unreadable e => e.message
  | text e => e.message
  | invalid e => e.message
  | shape fault => fault.message
  | number digits => Decimal.tooLongToRead digits

/-- Whether a build reports the error as its failure. -/
def SettingsError.isReported : SettingsError → Bool
  | unreadable _ | invalid _ => true
  | text _ | shape _ | number _ => false

def defaultFramework : String := "py3"

namespace Settings

/-- The settings in a table; a directory gives its name to a project without one. -/
def ofTable (directory : String) (table : Plain) : Except ShapeFault Settings := do
  let build ← table.nestedFieldOr ["tool", "ntgen", "build"] (.dict [])
  let name ← table.nestedFieldOr ["project", "name"] .none
  let framework ← build.fieldOr "framework" (.str defaultFramework)
  let requires ← (← build.fieldOr "requires" (.list [])).itemsOf
  return ⟨if name.truth then name.text else directory, framework.text, requires.map Plain.text⟩

def read (t : Tree) (descriptor : Path) : Except SettingsError Settings :=
  match t.readText descriptor with
  | .error (.file e) => .error (.unreadable e)
  | .error (.utf8 e) => .error (.text e)
  | .ok text =>
    match Toml.read text with
    | .error ⟨.tooLong digits, _⟩ => .error (.number digits)
    | .error e => .error (.invalid e)
    | .ok entries =>
      match ofTable descriptor.parent.name (.dict entries) with
      | .ok s => .ok s
      | .error f => .error (.shape f)

/-- Where a build of a directory leaves its artifact. -/
def artifact (s : Settings) (directory : Path) : Path :=
  directory / "bin" / "Debug" / s.framework / (s.name ++ ".zip")

end Settings
/-!
Building a directory: what it requires is looked up, its sources are checked by a child process,
and they are packed into one archive. What goes wrong with the directory is reported as a failed
build; the child is started at most once.
-/
open Stencil.Text

/-- The result of a build: the artifact, or what was wrong. -/
structure Result where
  success : Bool
  artifact : Option Path := none
  messages : List String := []
  deriving DecidableEq, Repr

/-- What ends a build without a result. -/
inductive Fault where
  | settings (e : SettingsError)
  | requirement (e : ImportError)
  | file (e : FileError)
  deriving DecidableEq, Repr

def Fault.message : Fault → String
  | settings e => e.message
  | requirement e => e.message
  | file e => e.message

/-- Starts a command and waits for it. -/
abbrev Runner := Child.Command → Work FileError Child.Completion

/-- Runs a command on the tree as it is; a child leaves no file that counts. -/
def startChild : Runner := fun c => Work.look fun t => c.run t

structure Builder where
  python : String := "python3"
  /-- Seconds that the child may take. -/
  timeout : Int := 300
  installed : List Installed := Installed.standard
  run : Runner := startChild

/-- A failed build with what is not empty among its messages. -/
def Result.failed (messages : List String) : Result :=
  { success := false, messages := messages.filter fun m => m != "" }

def sourceSuffix : String := ".py"

/-- The names of the sources next to a descriptor, in order. -/
def sourceNames (t : Tree) (directory : Path) : List String :=
  (t.namesIn directory).filter fun n => n.endsWith sourceSuffix

/-- What the child says about sources that it does not accept. -/
def complaints (c : Child.Completion) : List String :=
  let output :=
    if c.stderr != "" then c.stderr
    else if c.stdout != "" then c.stdout
    else "py_compile exited with " ++ ofInt c.code
  (lines false output.toList).map String.ofList

/-- One member of an archive; a directory is a member without content. -/
def member (t : Tree) (directory : Path) (name : String) :
    Except FileError (String × List UInt8) := do
  match ← t.node (directory / name) with
  | .file d => return (name, d.toBytes)
  | .dir _ => return (name ++ "/", [])

/-- Packs sources into an archive, whose directory is made first. -/
def pack (artifact directory : Path) (names : List String) : Work FileError Unit := do
  Work.change fun t => t.makeDirs artifact.parent
  Work.change fun t => t.write artifact (.archive [])
  Work.change fun t => do
    let members ← names.mapM (member t directory)
    t.write artifact (.archive members)

namespace Builder

/-- The command that checks sources. -/
def checkCommand (b : Builder) (directory : Path) (names : List String) : Child.Command :=
  { words := b.python :: "-m" :: "py_compile" :: names
    cwd := some directory
    timeout := .int b.timeout }

/-- Checks and packs the sources of a directory. -/
def buildSources (b : Builder) (directory : Path) (s : Settings) : Work Fault Result := do
  let names := sourceNames (← Work.tree) directory
  if names.isEmpty then return .failed ["Nothing to build in '" ++ directory.toString ++ "'"]
  let done ← (b.run (b.checkCommand directory names)).mapError .file
  if done.code != 0 then return .failed (complaints done)
  let artifact := s.artifact directory
  (pack artifact directory names).mapError .file
  return { success := true, artifact := some artifact }

/-- Builds the project of a descriptor. Restoring looks up what it requires. -/
def build (b : Builder) (descriptor : Path) (restore : Bool := true) : Work Fault Result := do
  match Settings.read (← Work.tree) descriptor with
  | .error e =>
    if e.isReported then
      return .failed ["Cannot read project file '" ++ descriptor.toString ++ "': " ++ e.message]
    else Work.fail (.settings e)
  | .ok s =>
    let absent ← if restore then
        Work.ofExcept ((Installed.missing b.installed s.requires).mapError .requirement)
      else pure []
    if absent.isEmpty then b.buildSources descriptor.parent s
    else return .failed ["Unable to restore: " ++ joinWith ", " absent ++ " not installed"]

end Builder
end Stencil.Build

/-!
An isolated unit: a directory with a descriptor of its own and copies of some source files, so
that they are built without the project they come from.
-/
namespace Stencil.Build
open Stencil.Files
open Stencil.Text

def descriptorName : String := "pyproject.toml"

/-- The descriptor of every isolated unit. -/
def stubDescriptor : String := joinWith "\n"
  ["# Minimal project used to build a project's editor config in isolation.",
    "# Only the config source file is copied next to this descriptor.",
    "",
    "[project]",
    "name = \"Config\"",
    "version = \"0.0.0\"",
    "",
    "[tool.ntgen.build]",
    "framework = \"py3\"",
    "requires = [\"ntgen\"]",
    ""]

inductive CopyError where
  | file (e : FileError)
  /-- Both paths lead to one file. -/
  | sameFile (source copy : Path)
  deriving DecidableEq, Repr

def CopyError.message : CopyError → String
  | file e => e.message
  | sameFile source copy => source.listed ++ " and " ++ copy.listed ++ " are the same file"

/-- Whether two paths lead to one node. -/
def isSameNode (t : Tree) (p q : Path) : Bool :=
  match t.locate p, t.locate q with
  | .ok (.node p _), .ok (.node q _) => p == q
  | _, _ => false

/-- Copies a file as it is. -/
def copyFile (t : Tree) (source copy : Path) : Except CopyError Tree :=
  if isSameNode t source copy then .error (.sameFile source copy)
  else
    match t.read source with
    | .error e => .error (.file e)
    | .ok d => (t.write copy d).mapError .file

/-- Copies files into a directory, one after another; a later one takes the name. -/
def copyAll (directory : Path) : List Path → Work CopyError Unit
  | [] => pure ()
  | source :: rest => do
    Work.change fun t => copyFile t source (directory.child source.name)
    copyAll directory rest

/-- Makes a unit in an existing directory and answers with its descriptor. -/
def isolate (directory : Path) (sources : List Path) : Work CopyError Path := do
  let descriptor := directory.child descriptorName
  Work.change fun t => (t.writeText descriptor stubDescriptor).mapError .file
  copyAll directory sources
  return descriptor

end Stencil.Build
