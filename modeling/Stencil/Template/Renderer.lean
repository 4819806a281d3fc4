import Stencil.Files.Tree
import Stencil.Template.Check
import Stencil.Template.Grammar
import Stencil.Template.Statement

/-!
Rendering a template: its text is read and checked, run with the data, and what it captured is the
answer. Whatever goes wrong becomes one message with the place of the template, and nothing that
was captured before counts.
-/
namespace Stencil.Template
open Stencil.Text
open Stencil.Files

/-- A named output of a template. -/
structure Output where
  name : String
  content : String
  deriving DecidableEq, Repr

structure Rendered where
  outputs : List Output := []
  messages : List String := []
  hasErrors : Bool := false
  deriving DecidableEq, Repr

/-- Reads and checks a template. -/
def Loaded.read (own : List (String × Value)) (name : Option String) (source : String) :
    Reading Loaded := do
  let body ← Body.read source
  let (body, blocks) ← Check.template own body
  return ⟨name, body, blocks, anyInherits body⟩

/-- The names of a path below a directory; it may not lead above it. -/
def piecesOf? (name : String) : Option (List String) :=
  let parts := (splitOnChar '/' name.toList).map String.ofList
  if parts.contains ".." then none else some (parts.filter fun p => p != "" && p != ".")

/-- The file that a template in a directory is looked for in. -/
def fileOf? (dir : Path) (name : String) : Option Path :=
  (piecesOf? name).map fun pieces => dir.join ⟨.here, pieces⟩

/-- Finds a template beside another one. -/
def Loaded.find (own : List (String × Value)) (t : Tree) (dir : Path) (name : String) :
    Reading Loaded :=
  match fileOf? dir name with
  | none => .error (.failed (.notFound name))
  | some p =>
    let absent : Reading Loaded := .error (.failed (.notFound
      (quoted name ++ " not found in search path: " ++ quoted dir.toString)))
    match t.node p with
    | .ok (.file _) =>
      match t.readText p with
      | .ok source => Loaded.read own (some name) source
      | .error (.utf8 e) => .error (.failed (.raised .unicodeDecode e.message))
      | .error (.file _) => absent
    | _ => absent

private def builtins : List (String × Value) :=
  [("range", .builtin .range), ("dict", .builtin .dict), ("lipsum", .builtin .lipsum),
    ("cycler", .builtin .cycler), ("joiner", .builtin .joiner), ("namespace", .builtin .space)]

private def withNamed (entries more : List (String × Value)) : List (String × Value) :=
  more.foldl (fun entries (name, v) => putNamed entries name v) entries

/-- How deep calls may nest. -/
def maxDepth : Nat := 1500

/-- What a template is rendered with: filters, functions that are also filters, and the place
where it lies. -/
structure Setting where
  filters : List (String × TemplateFunction) := []
  functions : List (String × TemplateFunction) := []
  path : Option Path := none
  tree : Tree

namespace Setting

private def valuesOf (fs : List (String × TemplateFunction)) : List (String × Value) :=
  fs.map fun (name, f) => (name, .ofTemplateFunction f)

/-- The filters that come before the usual ones. -/
def ownFilters (s : Setting) : List (String × Value) :=
  withNamed (valuesOf s.filters) (valuesOf s.functions)

def environment (s : Setting) : Environment :=
  let own := s.ownFilters
  { loads := s.path.isSome
    filters := own
    globals := withNamed builtins (valuesOf s.functions) }

/-- Looks for a template beside the one that is rendered. -/
def load (s : Setting) (name : String) : Reading Loaded :=
  match s.path with
  | none => .error (.failed (.notFound name))
  | some p => Loaded.find s.ownFilters s.tree p.parent name

/-- The place of the template in messages. -/
def location (s : Setting) : String := (s.path.map Path.toString).getD "<template>"

end Setting

/-- What is told of a template behind its place. A complaint comes with its line, whichever template
it is about. -/
def Refusal.shown (location : String) : Refusal → String
  | .fault f => location ++ "(" ++ ofNat f.line ++ "): " ++ f.message
  | .failed (.undefined m) | .failed (.runtime m) | .failed (.notFound m) => location ++ ": " ++ m
  | .failed (.raised kind m) => location ++ ": " ++ kind.name ++ ": " ++ m

/-- The store that the rendering of templates with the data begins with. -/
def Store.ofModel (data : Model.Combined) : Store :=
  { cells := Array.replicate (Value.modelSize data) none }

/-- The run of a template that was read, on a store. It asks for the templates that it names. -/
def running (s : Setting) (store : Store) (t : Loaded) (data : Model.Combined) :
    Asking (Outcome String × Store) :=
  let env := s.environment
  let body : Eval String := do
    let context ← newContext
      { name := none, base := putNamed env.globals "data" (.model data)
        blocks := t.blocks.map fun b => (b.name, [b]) }
    machine maxDepth (.template t context)
  body.start env { store with modules := [], captured := [] }

/-- Reads a template and runs it on a store: its text, and the store afterwards. -/
def ran (s : Setting) (store : Store) (source : String) (data : Model.Combined) :
    Reading String × Store :=
  match Loaded.read s.ownFilters none source with
  | .error e => (.error e, store)
  | .ok t =>
    match (running s store t data).answered s.load with
    | .ok (r, after) => (r.mapError .failed, after)
    | .error (f, held) => (.error (.fault f), held)

/-- Runs a template on a store: the outputs it captures, in order, and the store afterwards. What
the template changed stays changed, also when it fails. -/
def outputsOn (s : Setting) (store : Store) (source : String) (data : Model.Combined) :
    Reading (List Output) × Store :=
  let (r, after) := ran s store source data
  (r.map fun _ => after.captured.reverse.map fun (name, content) => ⟨name, content⟩, after)

/-- Renders a template with the data on a store. -/
def renderOn (s : Setting) (store : Store) (source : String) (data : Model.Combined) :
    Rendered × Store :=
  match outputsOn s store source data with
  | (.ok outputs, store) => ({ outputs := outputs }, store)
  | (.error e, store) => ({ messages := [e.shown s.location], hasErrors := true }, store)

/-- Renders a template with the data. -/
def render (s : Setting) (source : String) (data : Model.Combined) : Rendered :=
  (renderOn s (.ofModel data) source data).1

/-- Renders templates one after another, each on the store that the one before it left. -/
def renderAllOn (s : Setting) (data : Model.Combined) (store : Store) :
    List String → List Rendered
  | [] => []
  | source :: rest =>
    let (r, after) := renderOn s store source data
    r :: renderAllOn s data after rest

/-- Renders templates with the same data. -/
def renderAll (s : Setting) (data : Model.Combined) (sources : List String) : List Rendered :=
  renderAllOn s data (.ofModel data) sources

end Stencil.Template
