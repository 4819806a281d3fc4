import Stencil.CommandLine.Arguments
import Stencil.Configuration.Resolve
import Stencil.Generation.Run

/-!
The program. Its options come from the words of the command line and from the environment; then the
target is loaded and what its templates ask for is generated. Whatever goes wrong is printed, and
the exit code tells what kind of thing it was.
-/
namespace Stencil.CommandLine
open Stencil.Files
open Stencil.Settings

inductive Exit where
  | done | renderFailure | usage | compilation | fatal
  deriving DecidableEq, Repr

def Exit.code : Exit → Nat
  | done => 0
  | renderFailure => 1
  | usage => 2
  | compilation => 3
  | fatal => 4

/-- What a call leaves on the two outputs, and how it ends. -/
structure Answer where
  exit : Exit
  output : String := ""
  errors : String := ""
  deriving DecidableEq, Repr

private def printedText (ps : List Printed) : String := Text.joinWith "" (ps.map Printed.text)

private def messageText (ms : List Console.Message) : String :=
  printedText (ms.map Printed.message)

def Refusal.answer : Refusal → Answer
  | help => { exit := .done, output := helpText }
  | usage e => { exit := .usage, errors := e.text }

/-- What is printed about options that cannot be had. -/
def optionsMessages : OptionsError → List Console.Message
  | .problems ps =>
    Console.error "Invalid NTGEN_* settings:" :: ps.map fun p => Console.detail p.line
  | .notWhole text => [Console.error ("Invalid NTGEN_* settings: " ++ notWholeMessage text)]

/-- The options of a call. A flag that is not given leaves the choice to the environment. -/
def readOptions (env : List (String × String)) (words : List String) : Except Answer Options := do
  let a ← (Arguments.read words).mapError Refusal.answer
  let refuse (ms : List Console.Message) : Answer :=
    { exit := .usage, errors := messageText ms }
  match a.kind with
  | none => throw (refuse [Console.error
      "You have to specify whether the target is a project or a solution!"])
  | some kind =>
    let given (b : Bool) : Plain := if b then .bool true else .none
    (Options.ofEnvironment (.str a.target) (.str kind.name) env
      [(.str "verbose", given a.verbose), (.str "keep_config_build", given a.keepConfigBuild)])
      |>.mapError fun e => refuse (optionsMessages e)

/-- What a call finds in place. -/
structure Surroundings where
  builder : Build.Builder := {}
  temporary : Path

def Surroundings.resolver (s : Surroundings) (o : Options) : Resolver :=
  { build := fun p restore => { s.builder with timeout := o.buildTimeout }.build p restore
    verbose := o.verbose
    keepBuild := o.keepConfigBuild
    marker := o.markerAttribute
    exclude := o.excludes
    sourceExclude := o.excludes
    reports := o.verbose
    temporary := s.temporary }

def loadTarget (o : Options) : Work RunError Project.Workspace := do
  let (lines, result) := Project.load (← Work.tree) o
  Generation.reportIf o.verbose lines
  Work.ofExcept (result.mapError .load)

/-- Loads the target of the options and generates for it. -/
def generate (s : Surroundings) (o : Options) : Work RunError Generation.Summary := do
  let w ← loadTarget o
  let g : Generation.Generator :=
    { workspace := w, options := o, exclude := o.excludes, reports := o.verbose,
      resolve := (s.resolver o).resolve }
  g.generate

/-- Stands for the place of an unexpected error in the program. -/
def tracePlace : Printed := .table "<traceback>\n"

/-- How a run ends after an error, and what is said about it. -/
def failed (verbose : Bool) (e : RunError) : Exit × List Printed :=
  let unexpected := (Exit.fatal,
    .message (Console.error ("Unexpected error: " ++ e.message)) ::
      if verbose then [tracePlace] else [])
  match e with
  | .render .. => (.renderFailure, [])
  | .compile fault =>
    if fault.isCompilation then (.compilation, [.message (Console.error e.message)])
    else unexpected
  | .load fault =>
    if fault.isLoadError then (.fatal, [.message (Console.error e.message)])
    else unexpected
  | _ => unexpected

/-- The exit that work ends with; what went wrong is printed. -/
def settle (verbose : Bool) (seconds : Float) (w : Work RunError Generation.Summary) :
    Work Empty Exit := do
  match ← (Generation.reported verbose seconds w).attempt with
  | .ok _ => return .done
  | .error e =>
    let (exit, ps) := failed verbose e
    ps.forM Work.print
    return exit

/-- Carries out the options, which takes some seconds. -/
def carryOut (s : Surroundings) (o : Options) (seconds : Float) : Work Empty Exit :=
  settle o.verbose seconds (generate s o)

/-- The answer of work that was done. -/
def answerOf (d : Done Empty Exit) : Answer :=
  match d.result with
  | .ok exit => { exit := exit, errors := printedText d.printed }

end Stencil.CommandLine
