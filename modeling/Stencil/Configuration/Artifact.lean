import Stencil.Files.Archive.Directory
import Stencil.Files.Tree
import Stencil.Script.Body
import Stencil.Settings.Options
import Stencil.Source.Encoded
import Stencil.Source.Remark
import Stencil.Template.Function

/-!
The configuration of a project: its checked settings and the functions that its templates may
call.
-/
namespace Stencil

structure Configuration where
  settings : Settings.Resolved := {}
  functions : List (String × Template.TemplateFunction) := []

/-!
Loading the configuration from a built artifact. Its modules are run in name order, the one
settings class that they define is instantiated, and its settings are read and checked.
-/
open Stencil.Files
open Stencil.Text

/-- Why an artifact gives no configuration. -/
inductive ArtifactError where
  | unreadable (artifact : Path) (reason : String)
  | notImportable (member : String)
  | loading (member reason : String)
  /-- The artifact defines no settings class or several. -/
  | notOne (artifact : Path) (candidates : List String)
  | creation (className reason : String)
  | settings (className : String) (problems : List Settings.Problem)
  /-- Reading a setting raised an error. -/
  | raised (r : Script.Raised)
  deriving DecidableEq, Repr

namespace ArtifactError

def message : ArtifactError → String
  | unreadable artifact reason =>
    "Reading config artifact '" ++ artifact.toString ++ "' failed: " ++ reason
  | notImportable member => "Config module '" ++ member ++ "' cannot be imported"
  | loading member reason => "Loading config module '" ++ member ++ "' failed: " ++ reason
  | notOne artifact candidates =>
    "Expected exactly one EditorConfig subclass in '" ++ artifact.toString ++ "', found " ++
      ofNat candidates.length
  | creation className reason => "Creating '" ++ className ++ "' failed: " ++ reason
  | settings className _ => "'" ++ className ++ "' has invalid settings"
  | raised r => r.text

/-- The lines that explain the message. -/
def details : ArtifactError → List String
  | settings _ problems => problems.map fun p => p.field ++ ": " ++ p.kind.message
  | _ => []

end ArtifactError

namespace Artifact

/-- A member of an artifact: its name, and its content if that can be had. -/
abbrev Member := String × Except Archive.ContentFlaw (List UInt8)

/-- The failure of listing the members of an archive. Most flaws mean that it cannot be read. -/
def listingFailure (artifact : Path) (f : Archive.Flaw) : ArtifactError :=
  let reason := f.message artifact.toString
  match f with
  | .version _ => .raised { kind := "NotImplementedError", message := reason }
  | .name _ => .raised { kind := "UnicodeDecodeError", message := reason }
  | _ => .unreadable artifact reason

/-- The failure of unpacking a member. -/
def contentFailure (artifact : Path) (member : String) (f : Archive.ContentFlaw) :
    ArtifactError :=
  match f with
  | .header => .loading member ("bad local file header: " ++ quoted artifact.toString)
  | .ended => .raised { kind := "EOFError", message := "EOF read where not expected" }
  | .cut => .raised { kind := "OSError", message := "zipimport: can't read data" }
  | .packed f => .raised { kind := "error", message := f.message }

def members (t : Tree) (artifact : Path) : Except ArtifactError (List Member) :=
  match t.read artifact with
  | .error e => .error (.unreadable artifact e.message)
  | .ok (.archive members) => .ok (members.map fun (n, c) => (n, .ok c))
  | .ok (.bytes content) =>
    let content := content.toArray
    match Archive.rows content with
    | .error f => .error (listingFailure artifact f)
    | .ok rows => .ok (rows.map fun r => (r.name, r.content content))

/-- The names of the modules, in order. -/
def moduleNames (members : List Member) : List String :=
  ((members.map Prod.fst).filter fun n => n.endsWith ".py").mergeSort fun a b => decide (a ≤ b)

/-- Finds a module by the last part of its dotted name: a package comes before a file. Of members
of one name the last counts. -/
def find? (members : List Member) (member : String) : Option Member :=
  let stem := (Path.ofString member).stem
  let name := ((splitOnChar '.' stem.toList).getLast?.map .ofList).getD stem
  [name ++ "/__init__.py", name ++ ".py"].findSome? fun n =>
    (members.reverse.lookup n).map fun c => (n, c)

/-- Reads the source of a module in a file. -/
def source (file : String) (content : List UInt8) : Except ArtifactError Source.Module :=
  (Source.Module.ofBytes (Source.Encoded.newlinesOnly content)).mapError fun
    | .zeroByte => .raised
        { kind := "ValueError", message := "source code string cannot contain null bytes" }
    | .fault f _ => .raised
        { kind := f.kind.name, message := f.message, line := some f.line
          place := " (" ++ (Path.ofString file).name ++ ", line " ++ ofNat f.line ++ ")" }

/-- Reads the source of the module that a member names, and the file it is in. -/
def sourceOf (artifact : Path) (members : List Member) (member : String) :
    Except ArtifactError (String × Source.Module) := do
  match find? members member with
  | none => throw (.notImportable member)
  | some (file, content) =>
    return (file, ← source file (← content.mapError (contentFailure artifact member)))

/-- Runs the module that a member names. -/
def run (m : Script.Memory) (member : String) (source : Source.Module) :
    Except Script.Raised Script.Memory :=
  Script.runModule (Path.ofString member).stem source m

/-- The failure that is made of an error of a module. Only an ordinary one is a failure of loading. -/
def runFailure (member : String) (r : Script.Raised) : ArtifactError :=
  if r.isA "Exception" then .loading member r.text else .raised r

/-- The names that modules are loaded under, and which of them an artifact has entered. -/
structure Table where
  loaded : List String
  own : List String := []

namespace Table

/-- Enters a name; one that is there already is entered again. -/
def enter (table : Table) (name : String) : Table where
  loaded := if table.loaded.contains name then table.loaded else table.loaded ++ [name]
  own := table.own ++ [name]

/-- Takes out a name, if it is there. -/
def drop (loaded : List String) (name : String) : List String := loaded.filter fun n => n != name

/-- The names without those that the artifact has entered. -/
def leave (table : Table) : List String := table.own.foldl drop table.loaded

end Table

/-- The name that the module of a member is loaded under. -/
def privateName (member : String) : String :=
  Script.packageName ++ "." ++ (Path.ofString member).stem

/-- Runs modules one after another. The name of a module is entered when its source is found, before
it runs. -/
def runAllIn (artifact : Path) (members : List Member) (table : Table) (m : Script.Memory) :
    List String → Table × Except ArtifactError Script.Memory
  | [] => (table, .ok m)
  | member :: rest =>
    match sourceOf artifact members member with
    | .error e => (table, .error e)
    | .ok (_, source) =>
      let table := table.enter (privateName member)
      match run m member source with
      | .error r => (table, .error (runFailure member r))
      | .ok m => runAllIn artifact members table m rest

/-- The remarks on modules, up to the first that fails. A source is read twice, once to find it and
once to run it, and remarked on each time. -/
def remarksOn (artifact : Path) (members : List Member) (m : Script.Memory) :
    List String → String
  | [] => ""
  | member :: rest =>
    match sourceOf artifact members member with
    | .error _ => ""
    | .ok (file, source) =>
      let place := (artifact.join (.ofString file)).toString
      let own := joinWith "" (source.remarks.map (·.shown place))
      own ++ own ++ match run m member source with
        | .error _ => ""
        | .ok m => remarksOn artifact members m rest

/-- The settings classes that the modules in memory define, module by module. -/
def candidates (m : Script.Memory) : List Script.ClassRecord :=
  (List.range m.modules.length).flatMap m.settingsClasses

/-- Reads settings of an instance; one that it does not have is left out. -/
def readSettings (instance_ : Template.Value) (m : Script.Memory) :
    List String → Except Script.Raised (List (String × Plain))
  | [] => .ok []
  | name :: rest =>
    let step : Script.Eval Plain := do
      Script.plainOf (← Script.attributeOf .top instance_ name)
    match step.outcome m with
    | .ok (v, m) => (readSettings instance_ m rest).map fun more => (name, v) :: more
    | .error r => if r.isA "AttributeError" then readSettings instance_ m rest else .error r

/-- The configuration that a settings class gives. -/
def configurationOf (m : Script.Memory) (c : Script.ClassRecord) :
    Except ArtifactError Configuration :=
  match (Script.construct .top c.key {}).outcome m with
  | .error r => .error (if r.isA "Exception" then .creation c.path r.text else .raised r)
  | .ok (instance_, m) =>
    match readSettings instance_ m (Settings.Resolved.userNames.map Prod.fst) with
    | .error r => .error (.raised r)
    | .ok values =>
      match Settings.Resolved.ofSettings fun name => values.lookup name with
      | .bad problems => .error (.settings c.path problems)
      | .ok s =>
        .ok { settings := { s with functionTypes := s.functionTypes.map m.classPath }
              functions := m.classTable.templateFunctions s.functionTypes }

end Artifact

/-- The remarks on an artifact that is loaded. -/
def Artifact.remarks (t : Tree) (artifact : Path) : String :=
  match Artifact.members t artifact with
  | .error _ => ""
  | .ok members => Artifact.remarksOn artifact members .start (Artifact.moduleNames members)

/-- The configuration that the modules in memory define. -/
def Artifact.configurationIn (artifact : Path) (m : Script.Memory) :
    Except ArtifactError Configuration :=
  match Artifact.candidates m with
  | [c] => Artifact.configurationOf m c
  | cs => .error (.notOne artifact (cs.map (·.path)))

/-- Loads a configuration from an artifact where modules are loaded already. However that ends, the
names that were entered for it are taken out again. -/
def Configuration.loadIn (loaded : List String) (t : Tree) (artifact : Path) :
    List String × Except ArtifactError Configuration :=
  match Artifact.members t artifact with
  | .error e => (({ loaded } : Artifact.Table).leave, .error e)
  | .ok members =>
    let (table, ran) :=
      Artifact.runAllIn artifact members { loaded } .start (Artifact.moduleNames members)
    (table.leave, ran.bind (Artifact.configurationIn artifact))

/-- Loads a configuration from an artifact. -/
def Configuration.load (t : Tree) (artifact : Path) : Except ArtifactError Configuration :=
  (Configuration.loadIn [] t artifact).2

end Stencil
