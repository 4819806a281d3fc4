import Stencil.Build.Builder
import Stencil.Configuration.Artifact
import Stencil.RunError
import Stencil.Text.Naming
import Stencil.Work

/-!
Resolving the configuration of a project. The project is compiled and its marked class looked for;
the file that is named after the class is built on its own, and the artifact is loaded. A project
without a marked class has the default configuration; what goes wrong with a configuration is
warned about, and the project has none.
-/
namespace Stencil
open Stencil.Files
open Stencil.Text
open Stencil.Project

structure Resolver where
  /-- Builds the unit of a descriptor; the flag asks to restore what it requires. -/
  build : Path → Bool → Work Build.Fault Build.Result
  verbose : Bool := false
  keepBuild : Bool := false
  marker : String := "NTEditorFile"
  /-- The directories that hold no configuration. -/
  exclude : String → Bool := standardExclude
  /-- The directories that hold no sources. -/
  sourceExclude : String → Bool := standardExclude
  /-- Whether compiling prints what it reports. -/
  reports : Bool := false
  /-- The directory for temporary files. -/
  temporary : Path

namespace Resolver

/-- Why a configuration cannot be had: it is warned about, or it ends the run. -/
inductive Stop where
  | warned (message : String) (details : List String)
  | ended (e : RunError)

def progress {ε : Type} (r : Resolver) (text : String) : Work ε PUnit :=
  if r.verbose then Work.say (Console.progress text) else pure ()

def warn {ε : Type} (text : String) : Work ε PUnit := Work.say (Console.warning text)

def temporaryPrefix : String := "ntgen-config-"

/-- A name that no entry of a directory has. -/
def freshName (t : Tree) (directory : Path) : String :=
  let used := t.namesIn directory
  let name (n : Nat) := temporaryPrefix ++ String.ofList (padLeft 8 '0' (natDigits n))
  (((List.range (used.length + 1)).map name).find? fun n => !used.contains n).getD
    (name used.length)

def makeTemporary (r : Resolver) : Work Stop Path := do
  let path := r.temporary.child (freshName (← Work.tree) r.temporary)
  Work.change fun t => (t.makeDirs path).mapError fun e => .ended (.file e)
  return path

/-- The marked classes among the own classes of a unit. -/
def markedClasses (r : Resolver) (u : Project.Unit) : List Model.TypeSymbol :=
  (Model.extract { omitReferenced := true } u.modules).classes.filter fun c =>
    Model.hasAttribute c.attributes r.marker

/-- The files that are named after one of the classes, in the order of their paths. -/
def candidateFiles (r : Resolver) (t : Tree) (directory : Path) (names : List String) :
    List Path :=
  let wanted := names.map Naming.looseForm
  ((t.find directory ".py" r.exclude).filter fun p =>
    wanted.contains (Naming.looseForm p.stem)).mergeSort fun p q => !q.lt p

/-- Loads the artifact that a build has left. -/
def loadBuilt (r : Resolver) (directory descriptor : Path) : Work Stop Configuration := do
  let s ← Work.look fun t =>
    (Build.Settings.read t descriptor).mapError fun e => .ended (.settings e)
  let artifact := s.artifact directory
  let there ← Work.look fun t => (t.exists artifact).mapError fun e => .ended (.file e)
  if !there then
    Work.fail (.warned ("Failed to find built config (looked at '" ++ artifact.toString ++ "')") [])
  else
    r.progress ("Loading config from '" ++ artifact.toString ++ "'")
    let remarks := Artifact.remarks (← Work.tree) artifact
    if remarks != "" then Work.print (.remarks remarks)
    Work.look fun t => (Configuration.load t artifact).mapError fun
      | .raised e => .ended (.raised e)
      | e => .warned e.message e.details

/-- Builds a file in a directory of its own and loads what comes out. -/
def buildIn (r : Resolver) (directory source : Path) : Work Stop Configuration := do
  let descriptor ← (Build.isolate directory [source]).mapError fun e => .ended (.copy e)
  if r.verbose then
    Work.say (Console.progress "Created temporary project with:")
    Work.say (Console.detail source.toString)
  let place := "(located at '" ++ descriptor.toString ++ "')"
  r.progress ("Building config " ++ place)
  let result ← (r.build descriptor true).mapError fun e => .ended (.build e)
  if result.success then r.loadBuilt directory descriptor
  else Work.fail (.warned ("Failed to build config " ++ place) result.messages)

/-- Builds and loads a file; the temporary directory is taken away unless it is to be kept. -/
def buildAndLoad (r : Resolver) (source : Path) : Work Stop Configuration := do
  let directory ← r.makeTemporary
  (r.buildIn directory source).ending
    (if r.keepBuild then
      Work.say (Console.progress ("Keeping config build directory '" ++ directory.toString ++ "'"))
    else Work.change fun t => .ok (t.removeAll directory))

/-- Reports the files that a configuration may stand in. -/
def reportFiles (name : String) (source : Path) (ignored : List Path) :
    Work RunError PUnit := do
  if !ignored.isEmpty then
    warn ("Found more than one potential file for our config in '" ++ name ++ "'")
    Work.sayAll (Console.detail ("using   " ++ source.toString) ::
      ignored.map fun p => Console.detail ("ignored " ++ p.toString))

/-- Configures a project from the file of its marked class. -/
def configure (r : Resolver) (e : Entry) (file : Path) (names : List String) :
    Work RunError (Option Configuration) := do
  match r.candidateFiles (← Work.tree) file.parent names with
  | [] =>
    Work.say (Console.error ("Found no potential files for our config in '" ++ e.name ++
      "', make sure the file has the same name as the class."))
    return none
  | source :: ignored =>
    reportFiles e.name source ignored
    let there ← Work.look fun t => (t.exists file).mapError .file
    if !there then
      warn ("Can't find the project file for '" ++ e.name ++ "' (looked at '" ++
        file.toString ++ "')")
      return none
    else
      match ← (r.buildAndLoad source).attempt with
      | .ok c => return some c
      | .error (.warned message details) =>
        warn message
        Work.sayAll (details.map Console.detail)
        return none
      | .error (.ended e) => Work.fail e

/-- The configuration of a project, if it can be had. -/
def resolve (r : Resolver) (e : Entry) : Work RunError (Option Configuration) := do
  r.progress ("Compiling project '" ++ e.name ++ "'")
  let report := e.compile (← Work.tree) r.sourceExclude
  if r.reports then Work.sayAll (report.lines.map Console.progress)
  match report.result with
  | .error fault =>
    if fault.isCompilation then
      warn ("Failed to compile project '" ++ e.name ++ "': " ++ fault.message)
      return none
    else Work.fail (.compile fault)
  | .ok u =>
    r.progress ("Looking for ntgen config in project '" ++ e.name ++ "'")
    match r.markedClasses u with
    | [] =>
      r.progress ("No class marked @" ++ r.marker ++ " in '" ++ e.name ++ "'")
      return some {}
    | marked =>
      if 1 < marked.length then
        warn ("Found more than one potential config in '" ++ e.name ++ "'")
      r.configure e u.file (marked.map (·.name))

end Resolver
end Stencil
