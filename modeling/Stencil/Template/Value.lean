import Stencil.Model.Symbol
import Stencil.Template.Failure
import Stencil.Template.Function
import Stencil.Template.Syntax

/-!
The values that templates compute with. A list, a dict or a record knows its place in the store,
where its present content is found; what it holds itself is what it held when it was last looked at.
Other things that change are objects.
-/
namespace Stencil.Template
open Stencil.Text

/-- What an object in the store is. -/
inductive ObjectKind where
  | space
  | cycler
  | joiner
  | loop
  | iterator (name : String)
  | routine (name : Option String)
  | module (name text : String)
  | block
  | self
  /-- A thing that only the modules of settings know, by the name of its kind. -/
  | item (kind : String)
  deriving DecidableEq, Repr

/-- Functions that every template knows. -/
inductive Builtin where
  | range | dict | cycler | joiner | space | lipsum
  deriving DecidableEq, Repr

inductive ViewPart where
  | keys | values | items
  deriving DecidableEq, Repr

inductive RecordKind where
  | type | member
  deriving DecidableEq, Repr

/-- Where the present content of a value is kept; what was just made has no place yet. -/
abbrev Place := Option Nat

inductive Value where
  /-- No value; a lenient one may be printed and counts as false. -/
  | missing (message : String) (lenient : Bool)
  | none
  | bool (b : Bool)
  | int (n : Int)
  | float (x : Float)
  | complex (re im : Float)
  | str (s : String)
  /-- A text that is safe to put into markup. -/
  | markup (s : String)
  | bytes (content : List UInt8)
  | tuple (items : List Value)
  | list (items : List Value) (place : Place)
  | dict (entries : List (Value × Value)) (place : Place)
  /-- Items that share a key. -/
  | group (key : Value) (items : List Value) (place : Place)
  | range (start stop step : Int)
  /-- A part of a dict, with the place of the dict. -/
  | view (part : ViewPart) (entries : List (Value × Value)) (place : Place)
  | record (kind : RecordKind) (fields : List (String × Value)) (place : Place)
  | typeKind (k : Model.TypeKind)
  | memberKind (k : Model.MemberKind)
  | model (c : Model.Combined)
  | method (self : Value) (name : String)
  | builtin (b : Builtin)
  | function (f : UserFunction)
  | class (name : String)
  /-- An object with the attributes that it showed when it was last looked at. -/
  | object (place : Nat) (kind : ObjectKind) (shown : List (String × Value))

instance : Inhabited Value := ⟨.none⟩

namespace Value

/-- A list that was just made. -/
def ofList (items : List Value) : Value := list items Option.none

/-- A dict that was just made. -/
def ofEntries (entries : List (Value × Value)) : Value := dict entries Option.none

mutual

def ofPlain : Plain → Value
  | .none => none
  | .bool b => bool b
  | .int n => int n
  | .float x => float x
  | .str s => str s
  | .bytes content => bytes content
  | .shown text _ => str text
  | .list items => ofList (ofPlains items)
  | .tuple items => tuple (ofPlains items)
  | .set items => ofList (ofPlains items)
  | .dict entries => ofEntries (ofPlainEntries entries)
  | .class name => .class name
  | .other kind => .class kind

def ofPlains : List Plain → List Value
  | [] => []
  | v :: rest => ofPlain v :: ofPlains rest

def ofPlainEntries : List (Plain × Plain) → List (Value × Value)
  | [] => []
  | (k, v) :: rest => (ofPlain k, ofPlain v) :: ofPlainEntries rest

end

def ofTemplateFunction : TemplateFunction → Value
  | .function f => function f
  | .value v => ofPlain v

/-- The text of a value that is one: also of the kinds of types and members. -/
def asText? : Value → Option String
  | str s | markup s => some s
  | typeKind k => some k.name
  | memberKind k => some k.name
  | _ => Option.none

/-- The whole number of a value that is one. -/
def asInt? : Value → Option Int
  | bool b => some (if b then 1 else 0)
  | int n => some n
  | _ => Option.none

/-- The name of the kind of a value, for complaints. -/
def kindName : Value → String
  | missing _ lenient => if lenient then "Undefined" else "StrictUndefined"
  | none => "NoneType"
  | bool _ => "bool"
  | int _ => "int"
  | float _ => "float"
  | complex .. => "complex"
  | str _ => "str"
  | markup _ => "Markup"
  | bytes _ => "bytes"
  | tuple _ => "tuple"
  | list .. => "list"
  | dict .. => "dict"
  | group .. => "_GroupTuple"
  | range .. => "range"
  | view .keys .. => "dict_keys"
  | view .values .. => "dict_values"
  | view .items .. => "dict_items"
  | record .type .. => "TypeDescriptor"
  | record .member .. => "MemberDescriptor"
  | typeKind _ => "TypeKind"
  | memberKind _ => "MemberKind"
  | model _ => "CombinedCodeModel"
  | method self _ =>
    match self with
    | record .. | object .. => "method"
    | _ => "builtin_function_or_method"
  | builtin .lipsum => "function"
  | builtin _ | .class _ => "type"
  | function f => if f.bound.isSome then "method" else "function"
  | object _ kind _ =>
    match kind with
    | .space => "Namespace"
    | .cycler => "Cycler"
    | .joiner => "Joiner"
    | .loop => "LoopContext"
    | .iterator name => name
    | .routine _ => "Macro"
    | .module .. => "TemplateModule"
    | .block => "BlockReference"
    | .self => "TemplateReference"
    | .item kind => kind

/-- The name of the kind of a value, for complaints about arguments. -/
def argumentKind : Value → String
  | none => "None"
  | v => v.kindName

/-- How a complaint about a part of a value calls the value. -/
def described (v : Value) : String :=
  match v with
  | none => "None"
  | markup _ => "markupsafe.Markup object"
  | group .. => "jinja2.filters._GroupTuple object"
  | record .. | typeKind _ | memberKind _ =>
    "ntgen.codemodel.models." ++ v.kindName ++ " object"
  | model _ => "ntgen.codemodel.combined.CombinedCodeModel object"
  | missing .. => "jinja2.runtime." ++ v.kindName ++ " object"
  | object _ kind _ =>
    match kind with
    | .space | .cycler | .joiner => "jinja2.utils." ++ v.kindName ++ " object"
    | .iterator name => name ++ " object"
    | .module .. => "jinja2.environment.TemplateModule object"
    | .item kind => kind ++ " object"
    | _ => "jinja2.runtime." ++ v.kindName ++ " object"
  | _ => v.kindName ++ " object"

/-- The failure of using a value that is missing. -/
def failMissing {α : Type} (message : String) : Outcome α := .error (.undefined message)

/-- Whether a value counts as true. -/
def truth : Value → Outcome Bool
  | missing m lenient => if lenient then .ok false else failMissing m
  | none => .ok false
  | bool b => .ok b
  | int n => .ok (n != 0)
  | float x => .ok (x != 0.0)
  | complex x y => .ok (x != 0.0 || y != 0.0)
  | str s | markup s => .ok (s != "")
  | bytes content => .ok (!content.isEmpty)
  | tuple items | list items _ => .ok (!items.isEmpty)
  | dict entries _ | view _ entries _ => .ok (!entries.isEmpty)
  | range start stop step =>
    .ok (if step > 0 then decide (start < stop) else decide (stop < start))
  | _ => .ok true

end Value
end Stencil.Template
