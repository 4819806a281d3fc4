import Stencil.Files.Path
import Stencil.Model.Symbol
import Stencil.Settings.Problem
import Stencil.Text.CaseMap

/-!
The options of a run: from the fields of a record, or from environment variables under explicit
overrides. An override that is set wins over its variable.
-/
namespace Stencil.Settings
open Stencil.Text
open Stencil.Files

inductive TargetKind where
  | solution | project
  deriving DecidableEq, Repr

def TargetKind.name : TargetKind → String
  | solution => "solution"
  | project => "project"

structure Options where
  target : Path
  kind : TargetKind
  verbose : Bool := false
  keepConfigBuild : Bool := false
  templateExtension : String := ".nt"
  markerAttribute : String := "NTEditorFile"
  buildTimeout : Int := 300
  excludedDirs : List String :=
    ["__pycache__", "build", "dist", "node_modules", "venv", "site-packages"]
  deriving DecidableEq, Repr

def targetKind : Plain → Checked TargetKind :=
  choice [("solution", .solution), ("project", .project)]

def path : Plain → Checked Path
  | .str s => .ok (.ofString s)
  | _ => .fail .path

/-- Lower case, without white space around it, a dot in front. -/
def extension (v : Plain) : Checked String :=
  (text v).andThen fun s =>
    let s := lower (trim s)
    if s == "" then .fail (.value "template extension must not be empty")
    else .ok (if s.startsWith "." then s else "." ++ s)

def timeout (v : Plain) : Checked Int :=
  (whole v).andThen fun n => if n < 10 then .fail (.atLeast 10) else .ok n

namespace Options

def ofFields (fs : Fields) : Checked Options :=
  let standard : Options := { target := default, kind := .solution }
  Options.mk <$> required fs "target_path" path
    <*> required fs "target_kind" targetKind
    <*> optional fs "verbose" standard.verbose flag
    <*> optional fs "keep_config_build" standard.keepConfigBuild flag
    <*> optional fs "template_extension" standard.templateExtension extension
    <*> optional fs "marker_attribute" standard.markerAttribute text
    <*> optional fs "build_timeout" standard.buildTimeout timeout
    <*> optional fs "exclude_dirs" standard.excludedDirs (list text)

/-- Whether a directory is left out of searches. -/
def excludes (o : Options) (name : String) : Bool :=
  name.startsWith "." || o.excludedDirs.contains name

end Options

/-- Why options cannot be made from an environment. -/
inductive OptionsError where
  | problems (ps : List Problem)
  | notWhole (text : String)
  deriving DecidableEq, Repr

/-- Why a text is no whole number: it has other characters, or too many digits. -/
def notWholeMessage (s : String) : String :=
  match (Decimal.int? 10 s).bind fun _ => Decimal.excess? 10 s with
  | some digits => Decimal.tooLongToRead digits
  | none => "invalid literal for int() with base 10: " ++ quoted s

/-- The environment variables that options are read from. -/
def variableNames : List String :=
  ["NTGEN_VERBOSE", "NTGEN_KEEP_CONFIG_BUILD", "NTGEN_TEMPLATE_EXTENSION",
   "NTGEN_MARKER_ATTRIBUTE", "NTGEN_BUILD_TIMEOUT"]

/-- What a variable is set to; an empty text counts as nothing. -/
def setting? (env : List (String × String)) (name : String) : Option String :=
  (env.lookup name).filter (· != "")

/-- The words that switch something on. -/
def truthy (s : String) : Bool := ["1", "true", "yes", "on"].contains (lower s)

/-- The field that a variable sets, if it is set itself. -/
def variableEntry (env : List (String × String)) (name field : String) (f : String → Plain) :
    Fields :=
  match setting? env name with
  | some s => [(.str field, f s)]
  | none => []

/-- The whole number in a text, unless it has too many digits. -/
def wholeOf? (s : String) : Option Int :=
  match Decimal.int? 10 s, Decimal.excess? 10 s with
  | some n, none => some n
  | _, _ => none

/-- The fields that environment variables set. -/
def environmentFields (env : List (String × String)) : Except OptionsError Fields := do
  let timeout ← match setting? env "NTGEN_BUILD_TIMEOUT" with
    | none => pure []
    | some s =>
      match wholeOf? s with
      | some n => pure [(.str "build_timeout", .int n)]
      | none => throw (.notWhole s)
  return variableEntry env "NTGEN_VERBOSE" "verbose" (fun s => .bool (truthy s)) ++
    variableEntry env "NTGEN_KEEP_CONFIG_BUILD" "keep_config_build" (fun s => .bool (truthy s)) ++
    variableEntry env "NTGEN_TEMPLATE_EXTENSION" "template_extension" .str ++
    variableEntry env "NTGEN_MARKER_ATTRIBUTE" "marker_attribute" .str ++ timeout

/-- Whether an override has a value. -/
def isSet : Plain × Plain → Bool
  | (_, .none) => false
  | _ => true

/-- The options for a target under an environment. Overrides without a value are ignored. -/
def Options.ofEnvironment (target kind : Plain) (env : List (String × String))
    (overrides : Fields) : Except OptionsError Options := do
  let fields ← environmentFields env
  (Options.ofFields ([(.str "target_path", target), (.str "target_kind", kind)] ++
    overrides.filter isSet ++ fields)).toExcept.mapError .problems

/-!
The settings of one project, checked: whose functions its templates may call, and which symbols
they see. Settings without a value take their defaults.
-/

structure Resolved where
  functionTypes : List String := []
  projects : List String := []
  namespaces : List String := []
  searchInReferenced : Bool := true
  deriving DecidableEq, Repr

namespace Resolved

def omitReferenced (r : Resolved) : Bool := !r.searchInReferenced

def isDefault (r : Resolved) : Bool := decide (r = {})

/-- The filter that symbols pass. -/
def filter (r : Resolved) : Model.Filter :=
  r.namespaces.foldl Model.Filter.add { omitReferenced := r.omitReferenced }

def ofFields (fs : Fields) : Checked Resolved :=
  Resolved.mk <$> optional fs "custom_function_types" [] (tuple classOf)
    <*> optional fs "projects_to_be_searched" [] (tuple text)
    <*> optional fs "namespaces_to_be_searched" [] (tuple text)
    <*> optional fs "search_in_referenced" true flag

/-- The settings as users name them, in the order they are read. -/
def userNames : List (String × String) :=
  [("types_that_contain_custom_functions", "custom_function_types"),
   ("projects_to_be_searched", "projects_to_be_searched"),
   ("namespaces_to_be_searched", "namespaces_to_be_searched"),
   ("search_in_referenced_projects_and_assemblies", "search_in_referenced")]

/-- Checks the settings of a user's object, given by their values. -/
def ofSettings (value? : String → Option Plain) : Checked Resolved :=
  ofFields (userNames.filterMap fun (name, field) =>
    match value? name with
    | none | some .none => none
    | some v => some (.str field, v))

end Resolved
end Stencil.Settings
