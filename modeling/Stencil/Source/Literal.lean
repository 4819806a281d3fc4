import Stencil.Decimal.Reader
import Stencil.Source.Token
import Stencil.Text.Escape
import Stencil.Text.Utf8

/-!
The values of number and text tokens. Texts resolve their escapes; formatted texts are cut into
plain pieces and fields, whose expressions are read by a reader handed in.
-/
namespace Stencil.Source
open Stencil.Text

/-- The value of a number token, or how many digits are too many for one. -/
def numberConstant (text : String) : Except Nat Constant :=
  let cs := text.toList.filter (· != '_')
  match Decimal.baseOfMark? cs with
  | some (base, digits) => .ok (.int ((Decimal.digits? base digits).getD 0))
  | none =>
    match cs.getLast? with
    | some c =>
      if c == 'j' || c == 'J' then .ok (.imaginary ((Decimal.decimal? cs.dropLast).getD 0.0))
      else if cs.all Char.isDigit then
        if cs.length > Decimal.digitLimit then .error cs.length
        else .ok (.int ((Decimal.digits? 10 cs).getD 0))
      else .ok (.float ((Decimal.decimal? cs).getD 0.0))
    | none => .ok (.int 0)

/-- The complaint about a number token with so many digits. -/
def tooManyDigits (count : Nat) : String :=
  Decimal.tooLongToRead count ++ " - Consider hexadecimal for huge integer literals to avoid " ++
    "decimal conversion limits."

/-- A text token taken apart: its mark letters and what stands between its quotes. -/
structure TextToken where
  raw : Bool
  bytes : Bool
  formatted : Bool
  marked : Bool
  /-- How many characters stand behind the body. -/
  quoteSize : Nat
  body : List Char

def TextToken.ofString (text : String) : TextToken :=
  let cs := text.toList
  let mark := cs.takeWhile fun c => c != '"' && c != '\''
  let rest := cs.drop mark.length
  let size := match rest with
    | a :: b :: c :: _ => if a == b && b == c && rest.length ≥ 6 then 3 else 1
    | _ => 1
  let has (c : Char) : Bool := mark.contains c || mark.contains c.toUpper
  ⟨has 'r', has 'b', has 'f', mark.head? == some 'u', size,
    (rest.drop size).take (rest.length - 2 * size)⟩

/-- The characters of a text body. -/
def decodeText (raw : Bool) (body : List Char) : Except String (List Char) :=
  if raw then .ok body
  else match resolveEscapes body with
    | .ok cs => .ok cs
    | .error e => .error ("(unicode error) " ++ e.message)

private def unescapeBytes : Nat → Nat → List Char → List UInt8 → Except String (List UInt8)
  | 0, _, _, out => .ok out.reverse
  | _, _, [], out => .ok out.reverse
  | fuel + 1, pos, '\\' :: c :: rest, out =>
    if c == '\n' then unescapeBytes fuel (pos + 2) rest out
    else match letterEscape? c with
      | some r => unescapeBytes fuel (pos + 2) rest (r.toNat.toUInt8 :: out)
      | none =>
        if (octalDigit? c).isSome then
          let (n, after) := takeOctal (c :: rest)
          unescapeBytes fuel (pos + 1 + ((c :: rest).length - after.length)) after
            (n.toUInt8 :: out)
        else if c == 'x' then
          match takeHex? 2 rest with
          | some (n, after) => unescapeBytes fuel (pos + 4) after (n.toUInt8 :: out)
          | none => .error ("(value error) invalid \\x escape at position " ++ ofNat pos)
        else unescapeBytes fuel (pos + 2) rest (c.toNat.toUInt8 :: '\\'.toNat.toUInt8 :: out)
  | fuel + 1, pos, c :: rest, out => unescapeBytes fuel (pos + 1) rest (c.toNat.toUInt8 :: out)

/-- The bytes of a bytes body, which holds ASCII characters only. -/
def decodeBytes (raw : Bool) (body : List Char) : Except String (List UInt8) :=
  if raw then .ok (body.map fun c => c.toNat.toUInt8)
  else unescapeBytes (body.length + 1) 0 body []

/-! Formatted texts. -/

/-- Adds plain text behind pieces; neighbouring texts join and empty texts vanish. -/
def addText (pieces : List Piece) (s : List Char) : List Piece :=
  if s.isEmpty then pieces
  else match pieces.getLast? with
    | some (.text t) => pieces.dropLast ++ [.text (t ++ .ofList s)]
    | _ => pieces ++ [.text (.ofList s)]

/-- The plain text up to a brace; whether to go on after it, and the rest. -/
private def literalPart (raw nested : Bool) :
    Nat → List Char → List Char → Except String (List Char × Bool × List Char)
  | 0, cs, acc => .ok (acc.reverse, false, cs)
  | _, [], acc => .ok (acc.reverse, false, [])
  | fuel + 1, c :: rest, acc =>
    let brace (c : Char) (rest acc : List Char) :
        Except String (List Char × Bool × List Char) :=
      if !nested && rest.head? == some c then .ok ((c :: acc).reverse, true, rest.drop 1)
      else if !nested && c == '\x7d' then .error "f-string: single '\x7d' is not allowed"
      else .ok (acc.reverse, false, c :: rest)
    if !raw && c == '\\' then
      match rest with
      | 'N' :: '\x7b' :: more =>
        let name := more.takeWhile (· != '\x7d')
        literalPart raw nested fuel (more.drop (name.length + 1))
          ((more.take (name.length + 1)).reverse ++ '\x7b' :: 'N' :: c :: acc)
      | 'N' :: d :: more => literalPart raw nested fuel more (d :: 'N' :: c :: acc)
      | d :: more =>
        if d == '\x7b' || d == '\x7d' then brace d more (c :: acc)
        else literalPart raw nested fuel more (d :: c :: acc)
      | [] => .ok ((c :: acc).reverse, false, [])
    else if c == '\x7b' || c == '\x7d' then brace c rest acc
    else literalPart raw nested fuel rest (c :: acc)

private def closesBracket (opening closing : Char) : Bool :=
  (opening == '(' && closing == ')') || (opening == '[' && closing == ']') ||
    (opening == '\x7b' && closing == '\x7d')

/-- The source of a field's expression, reversed, and the rest from the character that ends it.
`quote` is the quote the scan is inside of and whether it is tripled. -/
private def expressionPart (quote : Option (Char × Bool)) (open_ : List Char) :
    Nat → List Char → List Char → Except String (List Char × List Char)
  | 0, cs, acc => .ok (acc, cs)
  | _, [], acc =>
    if quote.isSome then .error "f-string: unterminated string"
    else match open_ with
      | b :: _ => .error ("f-string: unmatched '" ++ String.singleton b ++ "'")
      | [] => .ok (acc, [])
  | fuel + 1, c :: rest, acc =>
    if c == '\\' then .error "f-string expression part cannot include a backslash"
    else
      let triple := match rest with
        | a :: b :: _ => a == c && b == c
        | _ => false
      match quote with
      | some (q, tripled) =>
        if c == q && tripled && triple then
          expressionPart none open_ fuel (rest.drop 2) (c :: c :: c :: acc)
        else if c == q && !tripled then expressionPart none open_ fuel rest (c :: acc)
        else expressionPart quote open_ fuel rest (c :: acc)
      | none =>
        if c == '\'' || c == '"' then
          if triple then
            expressionPart (some (c, true)) open_ fuel (rest.drop 2) (c :: c :: c :: acc)
          else expressionPart (some (c, false)) open_ fuel rest (c :: acc)
        else if c == '[' || c == '\x7b' || c == '(' then
          expressionPart none (c :: open_) fuel rest (c :: acc)
        else if c == '#' then .error "f-string expression part cannot include '#'"
        else if open_.isEmpty && ['!', ':', '\x7d', '=', '<', '>'].contains c then
          if rest.head? == some '=' && ['!', '=', '<', '>'].contains c then
            expressionPart none open_ fuel (rest.drop 1) ('=' :: c :: acc)
          else if c == '<' || c == '>' then expressionPart none open_ fuel rest (c :: acc)
          else .ok (acc, c :: rest)
        else if c == ']' || c == '\x7d' || c == ')' then
          match open_ with
          | [] => .error ("f-string: unmatched '" ++ String.singleton c ++ "'")
          | b :: more =>
            if closesBracket b c then expressionPart none more fuel rest (c :: acc)
            else .error ("f-string: closing parenthesis '" ++ String.singleton c ++
              "' does not match opening parenthesis '" ++ String.singleton b ++ "'")
        else expressionPart none open_ fuel rest (c :: acc)

/-- What a formatted text needs from outside: the reader of a field's expression, which is told how
many characters of the body are left from the brace on, and how a message becomes a fault. -/
structure FieldReader where
  expression : Nat → List Char → Except Fault Expr
  fault : String → Fault

private def FieldReader.lift {α : Type} (r : FieldReader) : Except String α → Except Fault α
  | .ok a => .ok a
  | .error e => .error (r.fault e)

private def expectingBrace : String := "f-string: expecting '\x7d'"

private def isGap (c : Char) : Bool := c == ' ' || c == '\t' || c == '\n' || c == '\x0c'

private def missingExpression (ending : Char) : String :=
  if ending == '!' || ending == ':' || ending == '=' then
    "f-string: expression required before '" ++ String.singleton ending ++ "'"
  else "f-string: empty expression not allowed"

/-- A conversion letter, if one comes. -/
private def conversionPart (r : FieldReader) : List Char → Except Fault (Option Char × List Char)
  | '!' :: c :: rest =>
    if c == 's' || c == 'r' || c == 'a' then .ok (some c, rest)
    else .error (r.fault "f-string: invalid conversion character: expected 's', 'r', or 'a'")
  | ['!'] => .error (r.fault expectingBrace)
  | rest => .ok (none, rest)

/-- The text that a field shows of itself, if it asks for that. -/
private def shownPart (source : List Char) : List Char → Option (List Char) × List Char
  | '=' :: rest =>
    let gap := rest.takeWhile isBlank
    (some (source ++ '=' :: gap), rest.drop gap.length)
  | rest => (none, rest)

/-- The pieces of a formatted text. Inside a format (`depth` above zero) a closing brace ends
them. -/
private def formattedPieces (r : FieldReader) (raw : Bool) :
    Nat → Nat → List Char → List Piece → Except Fault (List Piece × List Char)
  | 0, _, cs, pieces => .ok (pieces, cs)
  | fuel + 1, depth, cs, pieces => do
    let (lit, again, rest) ← r.lift (literalPart raw (depth > 0) (cs.length + 1) cs [])
    let text ← r.lift (decodeText raw lit)
    let pieces := addText pieces text
    if again then formattedPieces r raw fuel depth rest pieces
    else match rest with
      | '\x7b' :: body =>
        if depth ≥ 2 then throw (r.fault "f-string: expressions nested too deeply")
        let (source, rest) ← r.lift (expressionPart none [] (body.length + 1) body [])
        let source := source.reverse
        match rest with
        | [] => throw (r.fault expectingBrace)
        | ending :: _ =>
          if source.all isGap then throw (r.fault (missingExpression ending))
          let value ← r.expression (body.length + 1) source
          let (shown, rest) := shownPart source rest
          let (conversion, rest) ← conversionPart r rest
          let (format, rest) ← match rest with
            | [':'] => throw (r.fault expectingBrace)
            | ':' :: more => do
              let (inner, rest) ← formattedPieces r raw fuel (depth + 1) more []
              pure (some inner, rest)
            | _ => pure (none, rest)
          match rest with
          | '\x7d' :: rest =>
            let conversion :=
              if shown.isSome && format.isNone && conversion.isNone then some 'r' else conversion
            let pieces := addText pieces (shown.getD [])
            formattedPieces r raw fuel depth rest (pieces ++ [.field value conversion format])
          | _ => throw (r.fault expectingBrace)
      | _ =>
        if depth > 0 && rest.isEmpty then throw (r.fault expectingBrace)
        pure (pieces, rest)

/-- What neighbouring text tokens give so far. -/
private inductive Joined where
  | nothing
  | bytes (content : List UInt8)
  | text (pieces : List Piece) (formatted : Bool)

/-- A text token with its reader of fields; `here` makes faults that point at the token. -/
structure TextPart where
  token : TextToken
  fields : FieldReader
  here : String → Fault

private def TextPart.join (t : TextPart) (done : Joined) : Except Fault Joined := do
  let mixed : Except Fault Joined :=
    .error (t.fields.fault "cannot mix bytes and nonbytes literals")
  if t.token.bytes then
    if t.token.body.any fun c => c.toNat ≥ 128 then
      throw (t.here "bytes can only contain ASCII literal characters")
    let content ← t.fields.lift (decodeBytes t.token.raw t.token.body)
    match done with
    | .nothing => return .bytes content
    | .bytes before => return .bytes (before ++ content)
    | .text .. => mixed
  else
    let (pieces, formatted) ← match done with
      | .nothing => pure ([], false)
      | .text pieces formatted => pure (pieces, formatted)
      | .bytes _ =>
        if !t.token.formatted then
          let _ ← t.fields.lift (decodeText t.token.raw t.token.body)
        let _ ← mixed
        pure ([], false)
    if t.token.formatted then
      let (pieces, _) ← formattedPieces t.fields t.token.raw (t.token.body.length + 2) 0
        t.token.body pieces
      return .text pieces true
    else
      let cs ← t.fields.lift (decodeText t.token.raw t.token.body)
      return .text (addText pieces cs) formatted

/-- The expression that neighbouring text tokens stand for. -/
def joinTexts (span : Span) (parts : List TextPart) : Except Fault Expr := do
  let marked := (parts.head?.map (·.token.marked)).getD false
  match ← parts.foldlM (fun done t => t.join done) Joined.nothing with
  | .nothing => return .constant span (.str "" marked)
  | .bytes content => return .constant span (.bytes content)
  | .text pieces true => return .formatted span pieces
  | .text pieces false =>
    let text := match pieces with
      | .text s :: _ => s
      | _ => ""
    return .constant span (.str text marked)

end Stencil.Source
