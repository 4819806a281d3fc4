import Stencil.Template.Value.Order
import Stencil.Template.Value.Record

/-!
Values as JSON text, for templates that write data. Entries come in the order of their keys; texts
are ASCII. An indented listing puts every item on its own line. Records are written without blanks,
their fields in their own order and their texts as they are.
-/
namespace Stencil.Template
open Stencil.Text

namespace Json

private def unit (n : Nat) : List Char := '\\' :: 'u' :: digitsBase 16 4 n

private def escaped (c : Char) : List Char :=
  match c with
  | '"' => ['\\', '"']
  | '\\' => ['\\', '\\']
  | '\n' => ['\\', 'n']
  | '\r' => ['\\', 'r']
  | '\t' => ['\\', 't']
  | '\x0c' => ['\\', 'f']
  | '\x08' => ['\\', 'b']
  | c =>
    let n := c.toNat
    if 32 ≤ n && n < 127 then [c]
    else if n < 0x10000 then unit n
    else unit (0xD800 + (n - 0x10000) / 0x400) ++ unit (0xDC00 + (n - 0x10000) % 0x400)

def quote (s : String) : String := .ofList ('"' :: s.toList.flatMap escaped ++ ['"'])

private def floatText (x : Float) : String :=
  if x != x then "NaN"
  else if x == Decimal.infinity then "Infinity"
  else if x == -Decimal.infinity then "-Infinity"
  else Decimal.text x

private def keyText : Value → Outcome String
  | .none => .ok "null"
  | .bool b => .ok (if b then "true" else "false")
  | .int n => .ok (ofInt n)
  | .float x => .ok (floatText x)
  | v =>
    match v.asText? with
    | some s => .ok s
    | none =>
      typeError ("keys must be str, int, float, bool or None, not " ++ v.kindName)

/-- Items between brackets, on lines of their own when there is an indentation. -/
private def bracketed (opening closing : String) (indent : Option (String × String))
    (parts : List String) : String :=
  match parts, indent with
  | [], _ => opening ++ closing
  | parts, none => opening ++ joinWith ", " parts ++ closing
  | parts, some (outer, inner) =>
    opening ++ "\n" ++ inner ++ joinWith (",\n" ++ inner) parts ++ "\n" ++ outer ++ closing

/-- Writes a value whose containers nest at most so deep, inside the values at some places. -/
private def write (indent : Option String) : Nat → List Nat → String → Value → Outcome String
  | 0, _, _, _ => circular
  | fuel + 1, within, outer, v => do
    let inner := outer ++ indent.getD ""
    let lines := indent.map fun _ => (outer, inner)
    if (v.place?.map within.contains).getD false then circular
    let within := v.place?.toList ++ within
    let items (vs : List Value) : Outcome String := do
      return bracketed "[" "]" lines (← vs.mapM (write indent fuel within inner))
    match v with
    | .none => return "null"
    | .bool b => return if b then "true" else "false"
    | .int n => Value.text (.int n)
    | .float x => return floatText x
    | .list vs _ | .tuple vs => items vs
    | .group k vs place => items [k, .list vs place]
    | .dict es _ =>
      let sorted ← Sorting.byKey false (es.map fun e => ⟨e.1, e⟩)
      let parts ← sorted.mapM fun (k, w) => do
        let name ← keyText k
        return quote name ++ ": " ++ (← write indent fuel within inner w)
      return bracketed "\x7b" "\x7d" lines parts
    | v =>
      match v.asText? with
      | some s => return quote s
      | none => typeError ("Object of type " ++ v.kindName ++ " is not JSON serializable")
where
  circular {α : Type} : Outcome α := raise .value "Circular reference detected"

def text (indent : Option String) (v : Value) : Outcome String :=
  write indent (v.depth + 1) [] "" v

/-- JSON that may stand inside markup and scripts. -/
def markupText (indent : Option String) (v : Value) : Outcome String := do
  let s ← text indent v
  let s := replaceAll (replaceAll s "<" "\\u003c") ">" "\\u003e"
  return replaceAll (replaceAll s "&" "\\u0026") "'" "\\u0027"

/-! Records. -/

private def plainEscaped (c : Char) : List Char :=
  if c.toNat < 127 then escaped c else [c]

private def plainQuote (s : String) : String :=
  .ofList ('"' :: s.toList.flatMap plainEscaped ++ ['"'])

/-- Writes the fields of a record; indented, brackets stand on lines of their own. -/
private def writePlain (indent : Option Nat) : Nat → Nat → Value → String
  | 0, _, _ => "null"
  | fuel + 1, depth, v =>
    let gap (n : Nat) := match indent with
      | some k => "\n" ++ String.ofList (List.replicate (k * n) ' ')
      | none => ""
    let block (opening closing : String) (parts : List String) : String :=
      if parts.isEmpty then opening ++ closing
      else opening ++ joinWith "," (parts.map fun s => gap (depth + 1) ++ s) ++ gap depth ++ closing
    let colon := if indent.isSome then ": " else ":"
    match v with
    | .none => "null"
    | .bool b => if b then "true" else "false"
    | .int n => ofInt n
    | .float x => if (Decimal.dyadic? x).isSome then Decimal.text x else "null"
    | .list vs _ | .tuple vs => block "[" "]" (vs.map (writePlain indent fuel (depth + 1)))
    | .dict es _ =>
      block "\x7b" "\x7d" (es.map fun (k, w) =>
        plainQuote (k.asText?.getD k.listing) ++ colon ++ writePlain indent fuel (depth + 1) w)
    | v => plainQuote (v.asText?.getD v.listing)

/-- The fields of a record as JSON. -/
def recordText (indent : Option Nat) (v : Value) : String :=
  let v := v.dumped true
  writePlain indent (v.depth + 1) 0 v

end Json
end Stencil.Template
