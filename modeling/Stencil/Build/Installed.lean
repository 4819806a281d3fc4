import Stencil.Text.Words

/-!
The modules that are installed, and looking one up by its dotted name. A name that is not known is
looked for in its package, which has to be there.
-/
namespace Stencil.Build
open Stencil.Text

/-- An installed module; a package may have modules below it. -/
structure Installed where
  name : String
  isPackage : Bool := false
  deriving DecidableEq, Repr

inductive ImportError where
  | missing (name : String)
  | notInPackage (name above : String)
  | noPath (above name : String)
  | relative (name : String)
  deriving DecidableEq, Repr

def ImportError.message : ImportError → String
  | missing name => "No module named " ++ quoted name
  | notInPackage name above =>
    "No module named " ++ quoted name ++ "; " ++ quoted above ++ " is not a package"
  | noPath above name =>
    "__path__ attribute not found on " ++ quoted above ++ " while trying to find " ++ quoted name
  | relative name =>
    "no package specified for " ++ quoted name ++ " (required for relative module names)"

namespace Installed

def find? (known : List Installed) (name : String) : Option Installed :=
  known.find? fun m => m.name == name

/-- The names above a dotted name, the outermost first. -/
def above (name : String) : List String :=
  let parts := splitOnChar '.' name.toList
  (List.range (parts.length - 1)).map fun n =>
    joinWith "." ((parts.take (n + 1)).map String.ofList)

/-- Imports names, each below the one before it. -/
def importAll (known : List Installed) (parent : Option Installed) :
    List String → Except ImportError (Option Installed)
  | [] => .ok parent
  | name :: rest =>
    match find? known name with
    | some m => importAll known (some m) rest
    | none =>
      match parent.filter fun p => !p.isPackage with
      | some p => .error (.notInPackage name p.name)
      | none => .error (.missing name)

/-- Whether a module is there. What stands above it is imported first. -/
def isThere (known : List Installed) (name : String) : Except ImportError Bool := do
  if name.startsWith "." then throw (.relative name)
  if (find? known name).isSome then return true
  match ← importAll known none (above name) with
  | some p => if p.isPackage then return false else throw (.noPath p.name name)
  | none => return false

/-- The names among those required that are not there. -/
def missing (known : List Installed) (names : List String) : Except ImportError (List String) :=
  match names with
  | [] => .ok []
  | name :: rest => do
    let there ← isThere known name
    let more ← missing known rest
    return if there then more else name :: more

/-- What a build may require: some modules that every interpreter has, and the tool itself. -/
def standard : List Installed :=
  [⟨"os", false⟩, ⟨"os.path", false⟩, ⟨"sys", false⟩, ⟨"json", true⟩, ⟨"json.decoder", false⟩,
    ⟨"json.encoder", false⟩, ⟨"json.scanner", false⟩, ⟨"json.tool", false⟩, ⟨"ntgen", true⟩,
    ⟨"ntgen.editor_config", false⟩, ⟨"ntgen.utils", false⟩]

end Installed
end Stencil.Build
