import Stencil.Configuration.Artifact
import Stencil.Console.Table
import Stencil.Duration
import Stencil.Model.Extract
import Stencil.Model.Symbol
import Stencil.Project.Unit
import Stencil.Project.Workspace
import Stencil.RunError
import Stencil.Settings.Options
import Stencil.Template.Renderer
import Stencil.Work

/-!
The projects whose symbols the templates of a project see, and the model made from them. Settings
that name no project mean all of them.
-/
namespace Stencil.Generation
open Stencil.Project

/-- The projects of a workspace that can be compiled. -/
def eligible (w : Workspace) : List Entry := w.projects.filter Entry.isEligible

def selected (w : Workspace) (s : Settings.Resolved) : List Entry :=
  if s.projects.isEmpty then eligible w
  else (eligible w).filter fun e => s.projects.contains e.name

/-- The names in settings that no project has, in order. -/
def unknownProjects (w : Workspace) (s : Settings.Resolved) : List String :=
  let names := (eligible w).map (·.name)
  ((s.projects.filter fun n => !names.contains n).eraseDups).mergeSort fun a b => decide (a ≤ b)

/-- The model of compiled units under settings. -/
def combinedModel (s : Settings.Resolved) (units : List Project.Unit) : Model.Combined :=
  .ofGroups (units.map fun u => Model.extract s.filter u.modules)

/-!
A run over a workspace. Projects with templates come one after another: the configuration of each
is resolved, the projects that it selects are compiled, and its templates are rendered and written
in order. The first error ends the run; what was written before stays.
-/
open Stencil.Files
open Stencil.Text

/-- What a run did. -/
structure Summary where
  projects : List String := []
  templates : Nat := 0
  files : List Path := []
  deriving DecidableEq, Repr

structure Generator where
  workspace : Workspace
  options : Settings.Options
  /-- The directories that hold no sources. -/
  exclude : String → Bool
  /-- Whether compiling prints what it reports. -/
  reports : Bool := false
  resolve : Entry → Work RunError (Option Configuration)

/-- Prints a message when asked to be verbose. -/
def progressIf (verbose : Bool) (text : String) : Work RunError PUnit :=
  if verbose then Work.say (Console.progress text) else pure ()

/-- Prints lines of a report when it is wanted. -/
def reportIf (wanted : Bool) (lines : List String) : Work RunError PUnit :=
  if wanted then Work.sayAll (lines.map Console.progress) else pure ()

namespace Generator

def progress (g : Generator) (text : String) : Work RunError PUnit :=
  progressIf g.options.verbose text

/-- The configuration of a project, or the default one. -/
def configurationOf (g : Generator) (e : Entry) : Work RunError Configuration := do
  match ← g.resolve e with
  | some c => return c
  | none =>
    Work.say (Console.progress ("Found no config for '" ++ e.name ++ "', using defaults."))
    return {}

/-- The projects that settings select; names without a project are warned about. -/
def select (g : Generator) (s : Settings.Resolved) : Work RunError (List Entry) := do
  Work.sayAll ((unknownProjects g.workspace s).map fun n =>
    Console.warning ("Project '" ++ n ++ "' listed in config was not found in the workspace"))
  return selected g.workspace s

/-- Compiles projects and combines what they declare. -/
def modelOf (g : Generator) (s : Settings.Resolved) (es : List Entry) :
    Work RunError Model.Combined := do
  g.progress ("Generating code model for '" ++ ofNat es.length ++ "' projects")
  let (lines, result) := compileAll (← Work.tree) g.exclude es
  reportIf g.reports lines
  let units ← Work.ofExcept (result.mapError .compile)
  return combinedModel s units

/-- Writes one output beside its template. -/
def writeOutput (g : Generator) (template : Path) (o : Template.Output) :
    Work RunError Path := do
  let path := template.parent / o.name
  g.progress ("Saving captured output to '" ++ path.toString ++ "'")
  let there ← Work.look fun t => (t.exists path.parent).mapError .file
  if !there then
    g.progress ("Creating directory path '" ++ path.parent.toString ++ "'")
    Work.change fun t => (t.makeDirs path.parent).mapError .file
  Work.change fun t => (t.writeText path o.content).mapError .file
  return path

/-- Writes outputs in order. -/
def writeOutputs (g : Generator) (template : Path) :
    List Template.Output → Work RunError (List Path)
  | [] => return []
  | o :: rest => do
    let path ← g.writeOutput template o
    let more ← g.writeOutputs template rest
    return path :: more

/-- Renders a template and writes what it captured; a template with errors writes nothing. What
it changed in the model is there for the next template. -/
def renderTemplate (g : Generator) (model : Model.Combined) (c : Configuration)
    (store : Template.Store) (template : Path) : Work RunError (List Path × Template.Store) := do
  g.progress ("Processing template '" ++ template.toString ++ "'")
  let source ← Work.look fun t => (t.readText template).mapError .read
  let t ← Work.tree
  let (r, store) := Template.renderOn ⟨[], c.functions, some template, t⟩ store source model
  if r.hasErrors then
    Work.say (Console.error "Template renderer returned the following errors:")
    Work.sayAll (r.messages.map Console.detail)
    Work.fail (.render template r.messages)
  else return (← g.writeOutputs template r.outputs, store)

def renderAll (g : Generator) (model : Model.Combined) (c : Configuration)
    (store : Template.Store) : List Path → Work RunError (List Path)
  | [] => return []
  | template :: rest => do
    let (written, store) ← g.renderTemplate model c store template
    let more ← g.renderAll model c store rest
    return written ++ more

/-- Generates for one project. -/
def generateProject (g : Generator) (p : Templated) : Work RunError (List Path) := do
  let c ← g.configurationOf p.entry
  let es ← g.select c.settings
  let model ← g.modelOf c.settings es
  g.renderAll model c (.ofModel model) p.templates

def generateProjects (g : Generator) : List Templated → Work RunError Summary
  | [] => return {}
  | p :: rest => do
    let files ← g.generateProject p
    let more ← g.generateProjects rest
    return ⟨p.entry.name :: more.projects, p.templates.length + more.templates,
      files ++ more.files⟩

/-- Generates for all projects with templates. -/
def generate (g : Generator) : Work RunError Summary := do
  g.progress "Discovering projects"
  let all := fun _ => false
  let extension := g.options.templateExtension
  let t ← Work.tree
  Work.sayAll (templateReport t extension all g.options.verbose g.workspace.projects)
  g.progress "Generating based on templates"
  g.generateProjects (templated t extension all g.workspace.projects)

end Generator

/-- The text of an elapsed time, in seconds. -/
def durationText (seconds : Float) : String := (Duration.ofFloat? seconds).getD ""

namespace Summary

/-- The rows of the table that a verbose run ends with. -/
def rows (s : Summary) (seconds : Float) : List (String × String) :=
  let projects := joinWith ", " s.projects
  [("Projects", if projects == "" then "(none)" else projects),
   ("Templates", ofNat s.templates),
   ("Files written", ofNat s.files.length),
   ("Duration", durationText seconds)]

/-- Prints the table of a verbose run. -/
def report (s : Summary) (verbose : Bool) (seconds : Float) : Work RunError PUnit :=
  if verbose then
    match Console.table "Generation Summary" (s.rows seconds) with
    | .ok text => Work.print (.table text)
    | .error e => Work.fail (.markup e)
  else pure ()

end Summary

/-- Work that took some seconds, with the table of a verbose run behind it. -/
def reported (verbose : Bool) (seconds : Float) (w : Work RunError Summary) :
    Work RunError Summary := do
  let s ← w
  s.report verbose seconds
  return s

end Stencil.Generation
