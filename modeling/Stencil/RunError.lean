import Stencil.Build.Builder
import Stencil.Console.Markup
import Stencil.Project.Loading
import Stencil.Project.Unit
import Stencil.Script.Body

/-!
What ends a run early.
-/
namespace Stencil
open Stencil.Files
open Stencil.Text

inductive RunError where
  | load (e : Project.LoadError)
  | compile (e : Project.CompileError)
  | copy (e : Build.CopyError)
  | build (e : Build.Fault)
  | settings (e : Build.SettingsError)
  /-- User code raised an error that nothing else takes. -/
  | raised (r : Script.Raised)
  | file (e : FileError)
  | read (e : ReadError)
  /-- What a template complained about; it is printed before. -/
  | render (template : Path) (messages : List String)
  | markup (e : Console.MarkupError)

def RunError.message : RunError → String
  | load e => e.message
  | compile e => e.message
  | copy e => e.message
  | build e => e.message
  | settings e => e.message
  | raised r => r.text
  | file e => e.message
  | read e => e.message
  | render template messages =>
    "Rendering '" ++ template.toString ++ "' failed with " ++ ofNat messages.length ++ " error(s)"
  | markup e => e.message

end Stencil
