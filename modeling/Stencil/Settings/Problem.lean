import Stencil.Data.Plain
import Stencil.Decimal.Reader
import Stencil.Text.Utf8

/-!
Checking plain values against what a field expects. A check gives a value or the problems it
found; checks of several fields are put together so that all problems are kept, in the order of
the fields.
-/
namespace Stencil.Settings
open Stencil.Text

inductive ProblemKind where
  | missing
  | string
  | stringBytes
  | int
  | intText
  | intSize
  | intFraction
  | notFinite
  | bool
  | boolText
  | list
  | tuple
  | type
  | record (name : String)
  | choice (expected : List String)
  | atLeast (least : Int)
  | path
  | value (message : String)
  deriving DecidableEq, Repr

private def alternatives : List String → String
  | [] => ""
  | [a] => quoted a
  | names => joinWith ", " (names.dropLast.map quoted) ++ " or " ++
      quoted (names.getLast?.getD "")

namespace ProblemKind

def name : ProblemKind → String
  | missing => "missing"
  | string => "string_type"
  | stringBytes => "string_unicode"
  | int => "int_type"
  | intText => "int_parsing"
  | intSize => "int_parsing_size"
  | intFraction => "int_from_float"
  | notFinite => "finite_number"
  | bool => "bool_type"
  | boolText => "bool_parsing"
  | list => "list_type"
  | tuple => "tuple_type"
  | type => "is_type"
  | record _ => "model_type"
  | choice _ => "enum"
  | atLeast _ => "greater_than_equal"
  | path => "path_type"
  | value _ => "value_error"

def message : ProblemKind → String
  | missing => "Field required"
  | string => "Input should be a valid string"
  | stringBytes =>
    "Input should be a valid string, unable to parse raw data as a unicode string"
  | int => "Input should be a valid integer"
  | intText => "Input should be a valid integer, unable to parse string as an integer"
  | intSize => "Unable to parse input string as an integer, exceeded maximum size"
  | intFraction => "Input should be a valid integer, got a number with a fractional part"
  | notFinite => "Input should be a finite number"
  | bool => "Input should be a valid boolean"
  | boolText => "Input should be a valid boolean, unable to interpret input"
  | list => "Input should be a valid list"
  | tuple => "Input should be a valid tuple"
  | type => "Input should be a type"
  | record name => "Input should be a valid dictionary or instance of " ++ name
  | choice expected => "Input should be " ++ alternatives expected
  | atLeast least => "Input should be greater than or equal to " ++ ofInt least
  | path => "Input is not a valid path for <class 'pathlib.Path'>"
  | value message => "Value error, " ++ message

end ProblemKind

/-- A problem and the field it was found in, outermost name first. -/
structure Problem where
  location : List String
  kind : ProblemKind
  deriving DecidableEq, Repr

namespace Problem

def field (p : Problem) : String := joinWith "." p.location

/-- The line that tells of a problem. -/
def line (p : Problem) : String := p.field ++ ": " ++ p.kind.message

def within (name : String) (p : Problem) : Problem := { p with location := name :: p.location }

end Problem

/-- A checked value, or what is wrong with it. -/
inductive Checked (α : Type) where
  | ok (a : α)
  | bad (problems : List Problem)
  deriving Repr

namespace Checked

def fail {α : Type} (kind : ProblemKind) : Checked α := bad [⟨[], kind⟩]

def map {α β : Type} (f : α → β) : Checked α → Checked β
  | ok a => ok (f a)
  | bad ps => bad ps

/-- Both values, or all problems of both. -/
def and {α β : Type} : Checked α → Checked β → Checked (α × β)
  | ok a, ok b => ok (a, b)
  | ok _, bad ps => bad ps
  | bad ps, ok _ => bad ps
  | bad ps, bad qs => bad (ps ++ qs)

def andThen {α β : Type} (c : Checked α) (f : α → Checked β) : Checked β :=
  match c with
  | ok a => f a
  | bad ps => bad ps

def within {α : Type} (name : String) : Checked α → Checked α
  | ok a => ok a
  | bad ps => bad (ps.map (Problem.within name))

def toExcept {α : Type} : Checked α → Except (List Problem) α
  | ok a => .ok a
  | bad ps => .error ps

instance : Functor Checked := ⟨fun f c => c.map f, fun a c => c.map fun _ => a⟩

instance : Applicative Checked where
  pure := ok
  seq f c := ((f.and (c ())).map fun (g, a) => g a)

/-- Checks the items one by one, each under its place. -/
def items {α : Type} (check : Plain → Checked α) : Nat → List Plain → Checked (List α)
  | _, [] => ok []
  | i, v :: rest =>
    (((check v).within (ofNat i)).and (items check (i + 1) rest)).map fun (a, as) => a :: as

end Checked

/-! What a value is accepted as. -/

/-- The text of bytes, or a problem when they are none. -/
private def textOfBytes (content : List UInt8) (problem : ProblemKind) : Checked String :=
  match decodeUtf8 content with
  | .ok s => .ok s
  | .error _ => .fail problem

def text : Plain → Checked String
  | .str s => .ok s
  | .bytes content => textOfBytes content .stringBytes
  | _ => .fail .string

/-- Numbers of this size and more are not taken for the small ones that they might be. -/
private def wordLimit : Int := 9223372036854775808

private def truths : List (String × Bool) :=
  [("0", false), ("off", false), ("f", false), ("false", false), ("n", false), ("no", false),
   ("1", true), ("on", true), ("t", true), ("true", true), ("y", true), ("yes", true)]

private def truthOf (n : Int) : Checked Bool :=
  if n == 0 then .ok false
  else if n == 1 then .ok true
  else if -wordLimit ≤ n && n < wordLimit then .fail .boolText
  else .fail .bool

private def truthOfText (s : String) : Checked Bool :=
  match truths.lookup (String.ofList (s.toList.map Char.toLower)) with
  | some b => .ok b
  | none => .fail .boolText

def flag : Plain → Checked Bool
  | .bool b => .ok b
  | .str s => truthOfText s
  | .bytes content => (textOfBytes content .boolText).andThen truthOfText
  | .int n => truthOf n
  | .float x =>
    match Decimal.dyadic? x, Decimal.truncate? x with
    | some _, some n =>
      if n == -wordLimit || Decimal.ofInt n != x then .fail .bool else truthOf n
    | _, _ => .fail .bool
  | _ => .fail .bool

/-- A whole number in a text, which may end in a point and zeros. -/
private def wholeText? (s : String) : Option Int :=
  let cs := trimBy isBlank s.toList
  if cs.any fun c => c.toNat ≥ 128 then none
  else
    let zeros := cs.reverse.takeWhile (· == '0')
    let rest := cs.reverse.drop zeros.length
    match rest with
    | '.' :: before =>
      if zeros.isEmpty || before.isEmpty then none else Decimal.int? 10 (.ofList before.reverse)
    | _ => Decimal.int? 10 (.ofList cs)

private def wholeOfText (s : String) : Checked Int :=
  if (trimBy isBlank s.toList).length > Decimal.digitLimit then .fail .intSize
  else match wholeText? s with
    | some n => .ok n
    | none => .fail .intText

def whole : Plain → Checked Int
  | .bool b => .ok (if b then 1 else 0)
  | .int n => .ok n
  | .float x =>
    match Decimal.truncate? x with
    | none => .fail .notFinite
    | some n =>
      if Decimal.ofInt n != x then .fail .intFraction
      else if -wordLimit < n && n < wordLimit then .ok n
      else .fail .intSize
  | .str s => wholeOfText s
  | .bytes content => (textOfBytes content .intText).andThen wholeOfText
  | _ => .fail .int

def list {α : Type} (check : Plain → Checked α) : Plain → Checked (List α)
  | .list vs | .tuple vs | .set vs => Checked.items check 0 vs
  | _ => .fail .list

def tuple {α : Type} (check : Plain → Checked α) : Plain → Checked (List α)
  | .list vs | .tuple vs | .set vs => Checked.items check 0 vs
  | _ => .fail .tuple

/-- One of some named choices. -/
def choice {α : Type} (choices : List (String × α)) : Plain → Checked α
  | .str s =>
    match choices.lookup s with
    | some a => .ok a
    | none => .fail (.choice (choices.map Prod.fst))
  | _ => .fail (.choice (choices.map Prod.fst))

def classOf : Plain → Checked String
  | .class name => .ok name
  | _ => .fail .type

/-! Fields of a record. -/

abbrev Fields := List (Plain × Plain)

def required {α : Type} (fields : Fields) (name : String) (check : Plain → Checked α) :
    Checked α :=
  match Plain.valueOf? fields name with
  | some v => (check v).within name
  | none => (Checked.fail .missing).within name

def optional {α : Type} (fields : Fields) (name : String) (default : α)
    (check : Plain → Checked α) : Checked α :=
  match Plain.valueOf? fields name with
  | some v => (check v).within name
  | none => .ok default

end Stencil.Settings
