import Stencil.Decimal.Reader
import Stencil.Template.Failure
import Stencil.Text.Escape
import Stencil.Text.Words

/-!
Templates as tokens. Text outside tags is data; a tag may take the white space before or after it
away by a sign, a statement tag takes the blanks before it on its line and the line end after it.
-/
namespace Stencil.Template
open Stencil.Text

inductive TokenKind where
  | data (s : String)
  | printBegin
  | printEnd
  | blockBegin
  | blockEnd
  | name (s : String)
  | str (s : String)
  | int (n : Nat)
  | float (x : Float)
  | op (s : String)
  | eof

structure Token where
  kind : TokenKind
  line : Nat

instance : Inhabited Token := ⟨⟨.eof, 1⟩⟩

/-- The tokens up to a fault, if there is one; a reader meets it when it comes there. -/
structure Tokens where
  tokens : Array Token
  fault : Option Refusal

/-- What the scanner is inside of. -/
private inductive Mode where
  | data | print | block
  deriving DecidableEq

private structure Scanner where
  line : Nat
  mode : Mode
  lineStart : Bool
  open_ : List Char
  tokens : Array Token
  total : Nat
  /-- Whether the last character was a point. -/
  dotted : Bool

private def Scanner.push (s : Scanner) (kind : TokenKind) : Scanner :=
  { s with tokens := s.tokens.push ⟨kind, s.line⟩, dotted := false }

private def newlines (cs : List Char) : Nat := cs.count '\n'

private def Scanner.skip (s : Scanner) (cs : List Char) : Scanner :=
  { s with line := s.line + newlines cs }

private inductive Sign where
  | none | minus | plus
  deriving DecidableEq

private def takeSign : List Char → Sign × List Char
  | '-' :: rest => (.minus, rest)
  | '+' :: rest => (.plus, rest)
  | cs => (.none, cs)

private inductive Tag where
  | print | comment | block | raw
  deriving DecidableEq

/-- The end of a tag that opens raw text, from behind the first brace pair. -/
private def rawTail? (cs : List Char) : Option (List Char) := do
  let (_, cs) := takeSign cs
  let cs ← dropStart? (cs.dropWhile isBlank) "raw".toList
  let cs := cs.dropWhile isBlank
  match dropStart? cs "-%\x7d".toList with
  | some rest => some (rest.dropWhile isBlank)
  | none => dropStart? cs "%\x7d".toList

/-- A tag that opens here, with its sign, and what follows. -/
private def openTag? : List Char → Option (Tag × Sign × List Char)
  | '\x7b' :: c :: rest =>
    let (sign, after) := takeSign rest
    if c == '\x7b' then some (.print, sign, after)
    else if c == '#' then some (.comment, sign, after)
    else if c == '%' then
      match rawTail? rest with
      | some more => some (.raw, sign, more)
      | none => some (.block, sign, after)
    else none
  | _ => none

/-- The text before the first tag, reversed, and the tag. -/
private def findTag (acc : List Char) : List Char → List Char × Option (Tag × Sign × List Char)
  | [] => (acc, none)
  | c :: rest =>
    match openTag? (c :: rest) with
    | some t => (acc, some t)
    | none => findTag (c :: acc) rest

/-- Takes the white space before a tag away, as its sign says. -/
private def stripBefore (text : List Char) (sign : Sign) (keepBlanks lineStart : Bool) :
    List Char × Nat :=
  if sign == .minus then
    let kept := trimRightBy isBlank text
    (kept, newlines (text.drop kept.length))
  else if sign == .none && !keepBlanks then
    let back := text.reverse
    let last := back.takeWhile (· != '\n')
    if (last.length < text.length || lineStart) && last.all isBlank
    then ((back.drop last.length).reverse, 0) else (text, 0)
  else (text, 0)

private def dropNewline : List Char → List Char
  | '\n' :: rest => rest
  | cs => cs

/-- The end of a block tag: what follows it. -/
private def blockEnd? (cs : List Char) : Option (List Char) :=
  match dropStart? cs "+%\x7d".toList with
  | some rest => some rest
  | none =>
    match dropStart? cs "-%\x7d".toList with
    | some rest => some (rest.dropWhile isBlank)
    | none => (dropStart? cs "%\x7d".toList).map dropNewline

private def printEnd? (cs : List Char) : Option (List Char) :=
  match dropStart? cs "-\x7d\x7d".toList with
  | some rest => some (rest.dropWhile isBlank)
  | none => dropStart? cs "\x7d\x7d".toList

private def commentEnd? (cs : List Char) : Option (List Char) :=
  match dropStart? cs "+#\x7d".toList with
  | some rest => some rest
  | none =>
    match dropStart? cs "-#\x7d".toList with
    | some rest => some (rest.dropWhile isBlank)
    | none => (dropStart? cs "#\x7d".toList).map dropNewline

private def skipComment : List Char → Option (List Char)
  | [] => none
  | c :: rest => (commentEnd? (c :: rest)).or (skipComment rest)

/-- The tag that closes raw text, with its sign, and what follows. -/
private def rawEnd? (cs : List Char) : Option (Sign × List Char) := do
  let cs ← dropStart? cs "\x7b%".toList
  let (sign, cs) := takeSign cs
  let cs ← dropStart? (cs.dropWhile isBlank) "endraw".toList
  let rest ← blockEnd? (cs.dropWhile isBlank)
  some (sign, rest)

private def findRawEnd (acc : List Char) : List Char → Option (List Char × Sign × List Char)
  | [] => none
  | c :: rest =>
    match rawEnd? (c :: rest) with
    | some (sign, after) => some (acc, sign, after)
    | none => findRawEnd (c :: acc) rest

private def taken (before after : List Char) : List Char :=
  before.take (before.length - after.length)

private def endsLine (before after : List Char) : Bool :=
  (taken before after).getLast? == some '\n'

private abbrev Step := Reading (Scanner × List Char)

private def Scanner.pushData (s : Scanner) (text : List Char) (dropped : Nat) : Scanner :=
  let t := if text.isEmpty then s else s.push (.data (.ofList text))
  { t with line := t.line + newlines text + dropped }

private def scanRaw (s : Scanner) (cs : List Char) : Step :=
  if cs.isEmpty then .ok (s, [])
  else match findRawEnd [] cs with
    | none => .error (.atLine s.line "Missing end of raw directive")
    | some (acc, sign, rest) =>
      let text := acc.reverse
      let (kept, dropped) := stripBefore text sign false s.lineStart
      let s := s.pushData kept dropped
      let tag := (taken cs rest).drop text.length
      .ok ({ s.skip tag with lineStart := endsLine cs rest }, rest)

private def scanData (s : Scanner) (cs : List Char) : Step :=
  let (acc, tag) := findTag [] cs
  let text := acc.reverse
  match tag with
  | none => .ok (s.pushData text 0, [])
  | some (tag, sign, rest) =>
    let (kept, dropped) := stripBefore text sign (tag == .print) s.lineStart
    let s := s.pushData kept dropped
    let opening := (taken cs rest).drop text.length
    match tag with
    | .print => .ok ({ s.push .printBegin with mode := .print, lineStart := false }, rest)
    | .block => .ok ({ s.push .blockBegin with mode := .block, lineStart := false }, rest)
    | .comment =>
      match skipComment rest with
      | some after =>
        .ok ({ s.skip (taken rest after) with lineStart := endsLine rest after }, after)
      | none =>
        if rest.isEmpty then .ok (s, [])
        else .error (.atLine s.line "Missing end of comment tag")
    | .raw => scanRaw { s.skip opening with lineStart := endsLine cs rest } rest

/-! Inside tags. -/

private def moreDigits (digit : Char → Bool) (acc : List Char) : List Char → List Char × List Char
  | '_' :: c :: rest =>
    if digit c then moreDigits digit (c :: acc) rest else (acc, '_' :: c :: rest)
  | c :: rest => if digit c then moreDigits digit (c :: acc) rest else (acc, c :: rest)
  | [] => (acc, [])

/-- Digits in groups joined by single underscores; the digits come back in order. -/
private def digitGroup (digit : Char → Bool) (cs : List Char) : List Char × List Char :=
  match cs with
  | c :: rest =>
    if digit c then
      let (acc, rest) := moreDigits digit [c] rest
      (acc.reverse, rest)
    else ([], cs)
  | [] => ([], [])

private def exponent? (cs : List Char) : Option (List Char × List Char) :=
  match cs with
  | e :: rest =>
    if e == 'e' || e == 'E' then
      let (sign, digits) := match rest with
        | '+' :: more => ([], more)
        | '-' :: more => (['-'], more)
        | _ => ([], rest)
      let (ds, after) := digitGroup isDecimal digits
      if ds.isEmpty then none else some ('e' :: sign ++ ds, after)
    else none
  | [] => none

/-- A number with a fraction, an exponent or both, as it is written but for underscores. -/
private def float? (cs : List Char) : Option (List Char × List Char) := do
  let (whole, rest) := digitGroup isDecimal cs
  if whole.isEmpty then none
  let (part, after) := match rest with
    | '.' :: more =>
      let (ds, after) := digitGroup isDecimal more
      if ds.isEmpty then ([], rest) else ('.' :: ds, after)
    | _ => ([], rest)
  match exponent? after with
  | some (e, after) => some (whole ++ part ++ e, after)
  | none => if part.isEmpty then none else some (whole ++ part, after)

/-- The number that a text of digits is; only ASCII digits will do. -/
private def floatOf (text : List Char) : Outcome Float :=
  match text.find? fun c => c.toNat ≥ 128 with
  | none => .ok ((Decimal.decimal? text).getD 0)
  | some c =>
    if text.head? == some c then
      raise .malformed ("invalid character '" ++ String.singleton c ++ "' (U+" ++
        .ofList (upperChars (digitsBase 16 4 c.toNat)) ++ ") (<unknown>, line 1)")
    else raise .malformed "invalid decimal literal (<unknown>, line 1)"

private def isHex (c : Char) : Bool := (hexValue? c).isSome || isDecimal c
private def isBit (c : Char) : Bool := c == '0' || c == '1'
private def isZero (c : Char) : Bool := c == '0'

private def based? (base : Nat) (digit : Char → Bool) (cs : List Char) :
    Option (Nat × List Char) :=
  let cs := match cs with
    | '_' :: rest => rest
    | cs => cs
  let (ds, rest) := digitGroup digit cs
  if ds.isEmpty then none
  else (Decimal.digits? base (ds.map Decimal.asciiDigit)).map fun n => (n, rest)

private def marked? (cs : List Char) : Option (Nat × List Char) :=
  match cs with
  | '0' :: m :: rest =>
    if m == 'b' || m == 'B' then based? 2 isBit rest
    else if m == 'o' || m == 'O' then based? 8 (fun c => (octalDigit? c).isSome) rest
    else if m == 'x' || m == 'X' then based? 16 isHex rest
    else none
  | _ => none

private def decimalOf (ds : List Char) : Outcome Nat :=
  if ds.length > Decimal.digitLimit then raise .value (Decimal.tooLongToRead ds.length)
  else .ok ((Decimal.digits? 10 (ds.map Decimal.asciiDigit)).getD 0)

/-- A whole number: its value and what follows. -/
private def int? (cs : List Char) : Option (Outcome Nat × List Char) :=
  match marked? cs with
  | some (n, rest) => some (.ok n, rest)
  | none =>
    let (ds, rest) := digitGroup (if cs.head? == some '0' then isZero else isDecimal) cs
    if (ds.head?.map Char.isDigit).getD false then some (decimalOf ds, rest) else none

private def takeQuoted (quote : Char) (acc : List Char) : List Char → Option (List Char × List Char)
  | [] => none
  | '\\' :: c :: rest => takeQuoted quote (c :: '\\' :: acc) rest
  | c :: rest =>
    if c == quote then some (acc.reverse, rest)
    else if c == '\\' then none
    else takeQuoted quote (c :: acc) rest

private def operators : List String :=
  ["//", "**", "==", "!=", ">=", "<=", "+", "-", "/", "*", "%", "~", "[", "]", "(", ")", "\x7b",
    "\x7d", ">", "<", "=", ".", ":", "|", ",", ";"]

private def isNameChar (c : Char) : Bool := isWordChar c || isNameRest c

private def partner (c : Char) : Char :=
  if c == '(' then ')' else if c == '[' then ']' else '\x7d'

private def balance (s : Scanner) (op : String) : Reading Scanner :=
  match op.toList with
  | [c] =>
    if c == '(' || c == '[' || c == '\x7b' then .ok { s with open_ := partner c :: s.open_ }
    else if c == ')' || c == ']' || c == '\x7d' then
      match s.open_ with
      | [] => .error (.atLine s.line ("unexpected '" ++ op ++ "'"))
      | expected :: rest =>
        if expected == c then .ok { s with open_ := rest }
        else .error (.atLine s.line
          ("unexpected '" ++ op ++ "', expected '" ++ String.singleton expected ++ "'"))
    else .ok s
  | _ => .ok s

private def scanTag (s : Scanner) (cs : List Char) : Step :=
  let close := if s.open_.isEmpty then
      if s.mode == .block then (blockEnd? cs).map fun r => (TokenKind.blockEnd, r)
      else (printEnd? cs).map fun r => (TokenKind.printEnd, r)
    else none
  match close with
  | some (kind, rest) =>
    .ok ({ (s.push kind).skip (taken cs rest) with
      mode := .data, lineStart := endsLine cs rest }, rest)
  | none =>
    match cs with
    | [] => .ok (s, [])
    | c :: _ =>
      if isBlank c then
        let rest := cs.dropWhile isBlank
        .ok ({ s.skip (taken cs rest) with dotted := false }, rest)
      else match if s.dotted then none else float? cs with
        | some (text, rest) => do return (s.push (.float (← floatOf text)), rest)
        | none =>
          match int? cs with
          | some (n, rest) => do return (s.push (.int (← n)), rest)
          | none =>
            if isNameChar c then
              let word := String.ofList (cs.takeWhile isNameChar)
              if isIdentifier word then .ok (s.push (.name word), cs.dropWhile isNameChar)
              else .error (.atLine s.line "Invalid character in identifier")
            else
              match if c == '"' || c == '\'' then takeQuoted c [] cs.tail else none with
              | some (body, rest) =>
                match resolveEscapes (withNumberEscapes body) with
                | .ok value => .ok ((s.push (.str (.ofList value))).skip body, rest)
                | .error e => .error (.atLine s.line e.reason)
              | none =>
                match operators.find? fun op => startsWith cs op.toList with
                | some op => do
                  let s ← balance s op
                  return ({ s.push (.op op) with dotted := op == "." }, cs.drop op.length)
                | none =>
                  .error (.atLine s.line ("unexpected char " ++ quoted (String.singleton c) ++
                    " at " ++ ofNat (s.total - cs.length)))

private def scanAll : Nat → Scanner → List Char → Tokens
  | 0, s, _ => ⟨s.tokens, none⟩
  | _, s, [] => ⟨s.tokens, none⟩
  | fuel + 1, s, cs =>
    match if s.mode == .data then scanData s cs else scanTag s cs with
    | .ok (s, rest) => scanAll fuel s rest
    | .error f => ⟨s.tokens, some f⟩

/-- The tokens of a template. -/
def tokenize (source : String) : Tokens :=
  let cs := universalNewlines source.toList
  scanAll (cs.length + 1) ⟨1, .data, true, [], #[], cs.length, false⟩ cs

end Stencil.Template
