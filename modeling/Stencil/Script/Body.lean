import Stencil.Data.Plain
import Stencil.Script.Call
import Stencil.Source.Fault

/-!
What is left when settings have run: plain values, and errors as those around see them.
-/
namespace Stencil.Script
open Stencil.Text
open Stencil.Template (Value)

/-- An error that is raised: its kind, its text, and the kinds it is derived from. A complaint about
a source also tells the place and the line. -/
structure Raised where
  kind : String
  message : String
  ancestors : List String := []
  place : String := ""
  line : Option Nat := none
  deriving DecidableEq, Repr

/-- The text of an error with the place it tells. -/
def Raised.text (r : Raised) : String := r.message ++ r.place

/-- Whether an error is of a kind or derived from it. -/
def Raised.isA (r : Raised) (kind : String) : Bool := r.kind == kind || r.ancestors.contains kind

private def raisedFrom (error : Value) : Eval Raised := do
  let m ← get
  let kinds := m.kindsOf error
  let kind := m.className (kinds.headD "Exception")
  let ancestors := kinds.map m.className
  match ← instance? error with
  | none => return { kind := kind, message := "", ancestors := ancestors }
  | some i =>
    if kinds.contains "SyntaxError" && (m.attribute? i.key "__str__").isNone then
      let message ← errorMessage (listingOf Run.top) (textOf Run.top) i
      return { kind := kind, message := message, ancestors := ancestors, place := i.sourcePlace
               line := i.line? }
    else
      return { kind := kind, message := ← textOf Run.top error, ancestors := ancestors }

/-- Runs a step; an error that it raises is told as those around see it. -/
def Eval.outcome {α : Type} (step : Eval α) (m : Memory) : Except Raised (α × Memory) :=
  match step.run m with
  | (.ok a, m) => .ok (a, m)
  | (.error e, m) =>
    match (raisedFrom e).run m with
    | (.ok r, _) => .error r
    | (.error _, _) => .error { kind := "Exception", message := "" }

/-! Plain values. -/

private def plainWithin (m : Memory) : Nat → Value → Plain
  | 0, v => .other v.kindName
  | fuel + 1, v =>
    let all (vs : List Value) : List Plain := vs.map (plainWithin m fuel)
    match m.store.surface v with
    | .none => .none
    | .bool b => .bool b
    | .int n => .int n
    | .float x => .float x
    | .str s => .str s
    | .bytes content => .bytes content
    | .list items _ => .list (all items)
    | .tuple items => .tuple (all items)
    | .dict entries _ =>
      .dict (entries.map fun (k, v) => (plainWithin m fuel k, plainWithin m fuel v))
    | .class key => .class key
    | v =>
      match m.thing? v, v.items with
      | some (.set items _), _ => .set (all items)
      | none, .ok items => .list (all items)
      | _, _ => .other v.kindName

/-- A value as it is now, as far down as values are listed. -/
def Memory.plain (m : Memory) (v : Value) : Plain := plainWithin m maxListingDepth v

/-- A value that is plain once its items are at hand. -/
def plainOf (v : Value) : Eval Plain := do
  match ← thing? v with
  | some (.iterator _) | some (.instance _) =>
    let v ← listed Run.top v
    return (← get).plain v
  | _ => return (← get).plain v

end Stencil.Script

/-!
Running the source of a settings module, and the settings classes that it leaves behind.
-/
namespace Stencil.Script
open Stencil.Source
open Stencil.Template (Value)

/-- The names that a module has before it runs. -/
private def startingNames (path : String) (source : Source.Module) : Variables where
  entries := [("__name__", .str path), ("__doc__", explanation source),
    ("__package__", .str packageName), ("__loader__", foreign), ("__spec__", foreign),
    ("__file__", foreign), ("__builtins__", foreign)]
  distinct := by
    have hnames : ["__name__", "__doc__", "__package__", "__loader__", "__spec__", "__file__",
        "__builtins__"].Nodup := by decide
    exact hnames

/-- Enters a module that has not run yet. -/
def Memory.enter (m : Memory) (path : String) (source : Source.Module) : Memory :=
  { m with modules := m.modules ++ [(path, startingNames path source)] }

/-- Runs the source of a module under a name. -/
def runModule (name : String) (source : Source.Module) (m : Memory) : Except Raised Memory :=
  let lazyHints := (source.features.toOption.map (·.lazyHints)).getD false
  let s : Scope :=
    { module := m.modules.length, lazyHints := lazyHints
      blocks := ((source.checkNames lazyHints).toOption).getD [] }
  ((executeAll Run.top s source).outcome (m.enter (packageName ++ "." ++ name) source)).map Prod.snd

/-- Whether a class says that it is from a module of some name. -/
def Memory.isFrom (m : Memory) (home : Value) (key : String) : Bool :=
  match (m.attribute? key "__module__"), home with
  | some (.str a), .str b => a == b
  | _, _ => false

/-- The settings class of a module that a value is, if it is one. -/
def Memory.settingsClass? (m : Memory) (module : Nat) : Value → Option ClassRecord
  | .class key =>
    let home := ((m.globals module).lookup "__name__").getD .none
    (m.class? key).filter fun c =>
      c.key != settingsClass && c.order.contains settingsClass && m.isFrom home key
  | _ => none

/-- The settings classes that a module defines, once for each name they have there. -/
def Memory.settingsClasses (m : Memory) (module : Nat) : List ClassRecord :=
  (m.globals module).filterMap fun e => m.settingsClass? module e.2

/-!
The functions of settings as templates call them: what the body of a function does with its
parameters. A body of no known form gives nothing.
-/
open Stencil.Template (FunctionBody UserFunction Value)

/-- What a body does, and the parameters that it looks at. -/
structure Reading where
  body : FunctionBody
  names : List String

private def isText (e : Expr) (s : String) : Bool :=
  match e with
  | .constant _ (.str t _) => t == s
  | _ => false

private def isOne : Option Expr → Bool
  | some (.constant _ (.int 1)) => true
  | _ => false

/-- The parameter whose text is changed to upper case. -/
private def upperOf? : Expr → Option String
  | .call _ (.attribute _ (.call _ (.name _ "str") [.name _ v] []) "upper") [] [] => some v
  | .call _ (.attribute _ (.name _ v) "upper") [] [] => some v
  | _ => none

private def headOf? : Expr → Option String
  | .call _ (.attribute _ (.subscript _ (.name _ v) (.slice _ none upper none)) "lower") [] [] =>
    if isOne upper then some v else none
  | _ => none

private def tailOf? : Expr → Option String
  | .subscript _ (.name _ v) (.slice _ lower none none) => if isOne lower then some v else none
  | _ => none

/-- Reads the expression that a function returns. -/
def Reading.ofExpr : Expr → Option Reading
  | .name _ v => some ⟨.echo, [v]⟩
  | .call _ (.name _ "len") [.name _ v] [] => some ⟨.length, [v]⟩
  | .formatted _ [.text "<", .field (.attribute _ (.name _ c) "__name__") none none, .text ":",
      .field (.name _ v) none none, .text ">"] => some ⟨.tag, [c, v]⟩
  | .formatted _ [.field (.name _ a) none none, .text "-", .field (.name _ b) none none] =>
    some ⟨.join, [a, b]⟩
  | .binary _ left .add right =>
    match upperOf? left, headOf? left, tailOf? right with
    | some v, _, _ => if isText right "!" then some ⟨.exclaim, [v]⟩ else none
    | _, some v, some w => if v == w then some ⟨.lowerFirst, [v]⟩ else none
    | _, _, _ => none
  | e => (upperOf? e).map fun v => ⟨.upper, [v]⟩

/-- Reads the body of a function; a text in front of it only explains. -/
def Reading.ofBody : List Stmt → Option Reading
  | .expression _ (.constant _ (.str ..)) :: rest => ofBody rest
  | .return _ (some e) :: _ => ofExpr e
  | .raise _ (some (.call _ (.name _ "ValueError") [.formatted _ [.text "cannot handle ",
      .field (.name _ v) none none]] [])) none :: _ => some ⟨.refuse, [v]⟩
  | _ => none

private def nameOfParameter : Parameter → String
  | .mk _ name _ _ => name

/-- What a function does, as far as templates know it. -/
private def Function.reading? (f : Function) : Option Reading :=
  match f.code with
  | .body stmts => Reading.ofBody stmts
  | .result e => Reading.ofExpr e

/-- A function as templates call it. -/
def Function.forTemplates (m : Memory) (f : Function) : UserFunction :=
  let .mk positionalOnly positional _ _ _ := f.params
  let names := (positionalOnly ++ positional).map nameOfParameter
  let params := names.map fun n => (n, (f.defaults.lookup n).map m.plain)
  match f.reading? with
  | none => { shown := f.path, params := params, body := .nothing }
  | some r =>
    let skipped := names.findIdx fun n => some n == r.names.head?
    { shown := f.path, params := params, body := r.body, skipped := skipped }

private def Memory.function? (m : Memory) (v : Value) : Option UserFunction :=
  match m.thing? v with
  | some (.function f _) => some (f.forTemplates m)
  | _ => none

/-- What a class binds a name to, as templates see it. -/
def Memory.forTemplates (m : Memory) (v : Value) : Template.Attribute :=
  let seen := match m.thing? v with
    | some (.static f) => (m.function? f).map (Template.Attribute.function .static)
    | some (.classBound f) => (m.function? f).map (Template.Attribute.function .classBound)
    | _ => (m.function? v).map (Template.Attribute.function .instance_)
  seen.getD (.value (m.plain v))

/-- What the language itself notes in a class. -/
private def notes : List String := ["__module__", "__qualname__", "__doc__"]

/-- The classes in memory that modules defined, and what they derive from, as templates see them. -/
def Memory.classTable (m : Memory) : Template.ClassTable :=
  let known := m.classes.filter fun c => c.own || c.key == settingsClass
  ⟨known.map fun c =>
      { name := c.key, shortName := c.name
        attributes := (c.attributes.filter fun a => !notes.contains a.1).map fun (n, v) =>
          (n, m.forTemplates v) },
    known.map fun c => ⟨c.key, c.order.filter (· != "object")⟩⟩

end Stencil.Script
