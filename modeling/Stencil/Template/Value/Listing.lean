import Stencil.Template.Value
import Stencil.Text.CaseMap

/-!
How values print: the text of a value, and its listing, which is how it appears inside other
values. The listing of a value never fails; the text of a missing value does.
-/
namespace Stencil.Template
open Stencil.Text

private def kindListing (family name : String) : String :=
  "<" ++ family ++ "." ++ upper name ++ ": " ++ quoted name ++ ">"

private def flagText (b : Bool) : String := if b then "True" else "False"

private def className : Builtin → String
  | .range => "range"
  | .dict => "dict"
  | .cycler => "jinja2.utils.Cycler"
  | .joiner => "jinja2.utils.Joiner"
  | .space => "jinja2.utils.Namespace"
  | .lipsum => "generate_lorem_ipsum"

/-- How an object appears, given the listing of what it shows. -/
private def objectListing (kind : ObjectKind) (shown : List (String × String)) : String :=
  match kind with
  | .routine (some name) => "<Macro " ++ quoted name ++ ">"
  | .routine none => "<Macro anonymous>"
  | .module name _ => "<TemplateModule " ++ quoted name ++ ">"
  | .self => "<TemplateReference None>"
  | .space =>
    let entries := shown.map fun (name, text) => quoted name ++ ": " ++ text
    "<Namespace \x7b" ++ joinWith ", " entries ++ "\x7d>"
  | .loop =>
    let part (name : String) := (shown.lookup name).getD "0"
    "<LoopContext " ++ part "index" ++ "/" ++ part "length" ++ ">"
  | _ => "<" ++ (Value.object 0 kind []).described ++ ">"

/-- How an object appears inside itself. -/
private def objectAgain : ObjectKind → String
  | .space => "<Namespace \x7b...\x7d>"
  | kind => objectListing kind []

/-- The fields that a record of a kind has; others that were put in do not appear. -/
private def fieldNames : RecordKind → List String
  | .type => ["name", "namespace", "containing_type", "kind", "attributes", "bases", "members",
    "signature", "source_path", "project_name", "from_referenced"]
  | .member => ["name", "kind", "type_name", "attributes", "is_static"]

private def fieldTexts (kind : RecordKind) (texts : List (String × String)) : List String :=
  (texts.filter fun e => (fieldNames kind).contains e.1).map fun (name, text) => name ++ "=" ++ text

/-- What can hold itself: the content of a place, and an object. -/
inductive Holder where
  | cell (place : Nat)
  | object (place : Nat)
  deriving DecidableEq, Repr

private def isWithin (within : List Holder) (place : Place) : Bool :=
  (place.map fun p => within.contains (.cell p)).getD false

private def entered (place : Place) (within : List Holder) : List Holder :=
  (place.map Holder.cell).toList ++ within

namespace Value

mutual

/-- The listing of a value inside some holders; a value inside itself is cut. -/
def listingIn (within : List Holder) : Value → String
  | missing .. => "Undefined"
  | none => "None"
  | bool b => flagText b
  | int n => ofInt n
  | float x => Decimal.text x
  | complex x y => Decimal.complexText x y
  | str s => quoted s
  | markup s => "Markup(" ++ quoted s ++ ")"
  | bytes content => quotedBytes content
  | tuple [item] => "(" ++ listingIn within item ++ ",)"
  | tuple items => "(" ++ joinWith ", " (listingsIn within items) ++ ")"
  | list items place =>
    if isWithin within place then "[...]"
    else "[" ++ joinWith ", " (listingsIn (entered place within) items) ++ "]"
  | dict entries place =>
    if isWithin within place then "\x7b...\x7d"
    else "\x7b" ++ joinWith ", " (entryListingsIn (entered place within) entries) ++ "\x7d"
  | group key items place =>
    "(" ++ listingIn within key ++ ", " ++
      (if isWithin within place then "[...]"
      else "[" ++ joinWith ", " (listingsIn (entered place within) items) ++ "]") ++ ")"
  | range start stop step =>
    "range(" ++ ofInt start ++ ", " ++ ofInt stop ++
      (if step == 1 then "" else ", " ++ ofInt step) ++ ")"
  | view .keys entries _ => "dict_keys([" ++ joinWith ", " (keyListingsIn within entries) ++ "])"
  | view .values entries _ =>
    "dict_values([" ++ joinWith ", " (valueListingsIn within entries) ++ "])"
  | view .items entries _ =>
    "dict_items([" ++ joinWith ", " (itemListingsIn within entries) ++ "])"
  | record kind fields _ =>
    (record kind [] Option.none).kindName ++ "(" ++
      joinWith ", " (fieldTexts kind (fieldListingsIn within fields)) ++ ")"
  | typeKind k => kindListing "TypeKind" k.name
  | memberKind k => kindListing "MemberKind" k.name
  | model _ => "<ntgen.codemodel.combined.CombinedCodeModel object>"
  | method _ name => "<built-in method " ++ name ++ ">"
  | builtin b => "<class " ++ quoted (className b) ++ ">"
  | function f => "<function " ++ f.shown ++ ">"
  | .class name => "<class " ++ quoted name ++ ">"
  | object place kind shown =>
    if within.contains (.object place) then objectAgain kind
    else objectListing kind (fieldListingsIn (.object place :: within) shown)

def listingsIn (within : List Holder) : List Value → List String
  | [] => []
  | v :: rest => listingIn within v :: listingsIn within rest

def entryListingsIn (within : List Holder) : List (Value × Value) → List String
  | [] => []
  | (k, v) :: rest =>
    (listingIn within k ++ ": " ++ listingIn within v) :: entryListingsIn within rest

def keyListingsIn (within : List Holder) : List (Value × Value) → List String
  | [] => []
  | (k, _) :: rest => listingIn within k :: keyListingsIn within rest

def valueListingsIn (within : List Holder) : List (Value × Value) → List String
  | [] => []
  | (_, v) :: rest => listingIn within v :: valueListingsIn within rest

def itemListingsIn (within : List Holder) : List (Value × Value) → List String
  | [] => []
  | (k, v) :: rest =>
    ("(" ++ listingIn within k ++ ", " ++ listingIn within v ++ ")") :: itemListingsIn within rest

def fieldListingsIn (within : List Holder) : List (String × Value) → List (String × String)
  | [] => []
  | (name, v) :: rest => (name, listingIn within v) :: fieldListingsIn within rest

end

def listing (v : Value) : String := listingIn [] v

private def tooLong (n : Int) : Bool := n.natAbs ≥ Nat.pow 10 Decimal.digitLimit

mutual

/-- Whether a number somewhere in a value is too long to print. -/
def hasTooLong : Value → Bool
  | int n => tooLong n
  | tuple items | list items _ => anyTooLong items
  | dict entries _ | view _ entries _ => anyEntryTooLong entries
  | group key items _ => hasTooLong key || anyTooLong items
  | record _ fields _ => anyFieldTooLong fields
  | object _ .space shown => anyFieldTooLong shown
  | _ => false

def anyTooLong : List Value → Bool
  | [] => false
  | v :: rest => hasTooLong v || anyTooLong rest

def anyEntryTooLong : List (Value × Value) → Bool
  | [] => false
  | (k, v) :: rest => hasTooLong k || hasTooLong v || anyEntryTooLong rest

def anyFieldTooLong : List (String × Value) → Bool
  | [] => false
  | (_, v) :: rest => hasTooLong v || anyFieldTooLong rest

end

/-- The failure of printing a number with too many digits. -/
def failTooLong {α : Type} : Outcome α :=
  raise .value Decimal.tooLongToWrite

/-- The text of a value, which exists unless a value is missing or a number too long. -/
def text : Value → Outcome String
  | missing m lenient => if lenient then .ok "" else failMissing m
  | str s | markup s => .ok s
  | int n => if tooLong n then failTooLong else .ok (ofInt n)
  | record kind fields _ => .ok (joinWith " " (fieldTexts kind (fieldListingsIn [] fields)))
  | typeKind k => .ok ("TypeKind." ++ upper k.name)
  | memberKind k => .ok ("MemberKind." ++ upper k.name)
  | object place kind shown =>
    match kind with
    | .module _ body => .ok body
    | _ =>
      let v := object place kind shown
      if v.hasTooLong then failTooLong else .ok v.listing
  | v => if v.hasTooLong then failTooLong else .ok v.listing

/-- The text of a value, still marked when it is markup. -/
def softText : Value → Outcome Value
  | markup s => .ok (markup s)
  | v =>
    match v.asText? with
    | some s => .ok (str s)
    | Option.none => v.text.map str

end Value
end Stencil.Template
