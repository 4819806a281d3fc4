import Stencil.Data.Plain
import Stencil.Decimal.Reader
import Stencil.Text.Escape

/-!
What can be wrong with a document of tables, and where. A place is a line and a column, both from
one; a fault behind the last character has no place.
-/
namespace Stencil.Toml
open Stencil.Text

inductive Cause where
  | statement
  | lineEnd
  | equalsSign
  | keyStart
  | value
  | moment
  | unterminated
  | escape
  | hexDigits
  | notCharacter
  | illegal (c : Char)
  | invalid (c : Char)
  | expected (text : String)
  | tableEnd
  | tablesEnd
  | unclosedArray
  | unclosedTable
  | declaredTwice (key : List String)
  | frozen (key : List String)
  | redefined (key : List String)
  | overwritten
  | duplicate (name : String)
  /-- A whole number with too many digits. -/
  | tooLong (digits : Nat)
  deriving DecidableEq, Repr

/-- A key as it is shown. -/
def shownKey (key : List String) : String := (Plain.tuple (key.map .str)).listing

def Cause.message : Cause → String
  | statement => "Invalid statement"
  | lineEnd => "Expected newline or end of document after a statement"
  | equalsSign => "Expected '=' after a key in a key/value pair"
  | keyStart => "Invalid initial character for a key part"
  | value => "Invalid value"
  | moment => "Invalid date or datetime"
  | unterminated => "Unterminated string"
  | escape => "Unescaped '\\' in a string"
  | hexDigits => "Invalid hex value"
  | notCharacter => "Escaped character is not a Unicode scalar value"
  | illegal c => "Illegal character " ++ quoted (.singleton c)
  | invalid c => "Found invalid character " ++ quoted (.singleton c)
  | expected text => "Expected " ++ quoted text
  | tableEnd => "Expected ']' at the end of a table declaration"
  | tablesEnd => "Expected ']]' at the end of an array declaration"
  | unclosedArray => "Unclosed array"
  | unclosedTable => "Unclosed inline table"
  | declaredTwice key => "Cannot declare " ++ shownKey key ++ " twice"
  | frozen key => "Cannot mutate immutable namespace " ++ shownKey key
  | redefined key => "Cannot redefine namespace " ++ shownKey key
  | overwritten => "Cannot overwrite a value"
  | duplicate name => "Duplicate inline table key " ++ quoted name
  | tooLong digits => Decimal.tooLongToRead digits

structure Error where
  cause : Cause
  place : Option (Nat × Nat)
  deriving DecidableEq, Repr

def Error.message (e : Error) : String :=
  let place := match e.place with
    | some (line, column) => "line " ++ ofNat line ++ ", column " ++ ofNat column
    | none => "end of document"
  e.cause.message ++ " (at " ++ place ++ ")"

/-- A fault and the text that is left where it was met. -/
structure Stop where
  cause : Cause
  rest : List Char

/-- The fault with its place in the whole text. -/
def Stop.toError (s : Stop) (text : List Char) : Error :=
  if s.rest.isEmpty then ⟨s.cause, none⟩
  else
    let before := text.take (text.length - s.rest.length)
    let column := (before.reverse.takeWhile (· != '\n')).length + 1
    ⟨s.cause, some (before.count '\n' + 1, column)⟩

/-- A reader takes something from the front of a text. -/
abbrev Read (α : Type) := Except Stop (α × List Char)

def stop {α : Type} (cause : Cause) (rest : List Char) : Read α := .error ⟨cause, rest⟩

end Stencil.Toml

/-!
Quoted texts of a document: literal ones, which end at the next apostrophe, and ones with
escapes. Three marks open a text of several lines, whose end may be preceded by up to two more
marks that belong to it.
-/
namespace Stencil.Toml
open Stencil.Text

/-- Control characters other than the tab. -/
def isControl (c : Char) : Bool := (c.toNat < 32 && c != '\t') || c.toNat == 127

def isControlNotLine (c : Char) : Bool := isControl c && c != '\n'

def isSpace (c : Char) : Bool := c == ' ' || c == '\t'
def isSpaceOrLine (c : Char) : Bool := isSpace c || c == '\n'

/-- The text up to an end mark, and what stands behind the mark. -/
def untilMark (isBad : Char → Bool) (mark : String) (cs : List Char) : Read (List Char) :=
  match cutAt? mark.toList cs with
  | none => stop (.expected mark) []
  | some (text, after) =>
    match text.find? isBad with
    | some c => stop (.invalid c) (cs.dropWhile fun c => !isBad c)
    | none => .ok (text, after)

private def hexChar (width : Nat) (cs : List Char) : Read (List Char) :=
  match takeHex? width cs with
  | none => stop .hexDigits cs
  | some (n, rest) =>
    if h : n.isValidChar then .ok ([Char.ofNatAux n h], rest) else stop .notCharacter rest

/-- What an escape of one character stands for. -/
private def simpleEscape? (c : Char) : Option Char :=
  match c with
  | 'b' => some '\x08'
  | 't' => some '\t'
  | 'n' => some '\n'
  | 'f' => some '\x0c'
  | 'r' => some '\r'
  | '"' => some '"'
  | '\\' => some '\\'
  | _ => none

/-- A backslash at a line end takes the white space after it along. -/
private def lineEscape (cs : List Char) : Read (List Char) :=
  match cs.dropWhile isSpace with
  | [] => .ok ([], [])
  | '\n' :: rest => .ok ([], rest.dropWhile isSpaceOrLine)
  | rest => stop .escape rest

private def escapeAfter (multi : Bool) : List Char → Read (List Char)
  | [] => stop .escape []
  | c :: rest =>
    if multi && isSpaceOrLine c then lineEscape (c :: rest)
    else if c == 'u' then hexChar 4 rest
    else if c == 'U' then hexChar 8 rest
    else match simpleEscape? c with
      | some d => .ok ([d], rest)
      | none => stop .escape rest

/-- Whether the text ends here, and what follows then. -/
private def closing? (multi : Bool) (cs : List Char) : Option (List Char) :=
  dropStart? cs (if multi then ['"', '"', '"'] else ['"'])

private def escapedText (multi : Bool) : Nat → List Char → List Char → Read (List Char)
  | 0, _, cs => stop .unterminated cs
  | _, _, [] => stop .unterminated []
  | fuel + 1, back, c :: rest =>
    match closing? multi (c :: rest) with
    | some after => .ok (back.reverse, after)
    | none =>
      if c == '\\' then
        match escapeAfter multi rest with
        | .ok (cs, rest) => escapedText multi fuel (cs.reverse ++ back) rest
        | .error e => .error e
      else if (if multi then isControlNotLine c else isControl c) then
        stop (.illegal c) (c :: rest)
      else escapedText multi fuel (c :: back) rest

private def escaped (multi : Bool) (cs : List Char) : Read (List Char) :=
  escapedText multi (cs.length + 1) [] cs

/-- Up to two more marks behind the end belong to the text. -/
private def withExtra (mark : Char) (text rest : List Char) : List Char × List Char :=
  match rest with
  | a :: b :: after =>
    if a == mark && b == mark then (text ++ [mark, mark], after)
    else if a == mark then (text ++ [mark], b :: after) else (text, rest)
  | [a] => if a == mark then (text ++ [mark], []) else (text, rest)
  | [] => (text, [])

private def dropLine : List Char → List Char
  | '\n' :: rest => rest
  | cs => cs

private def manyLines (mark : Char) (cs : List Char) : Except Stop (List Char × List Char) := do
  let (text, rest) ← if mark == '"' then escaped true (dropLine cs)
    else untilMark isControlNotLine "'''" (dropLine cs)
  return withExtra mark text rest

/-- A quoted text on one line, behind its mark. -/
private def oneLine (mark : Char) (cs : List Char) : Read (List Char) :=
  if mark == '"' then escaped false cs else untilMark isControl "'" cs

/-- A quoted part of a key. -/
def quotedKey? : List Char → Option (Read (List Char))
  | '"' :: rest => some (oneLine '"' rest)
  | '\'' :: rest => some (oneLine '\'' rest)
  | _ => none

/-- A quoted value, if one starts here. -/
def quotedValue? : List Char → Option (Read (List Char))
  | '"' :: '"' :: '"' :: rest => some (manyLines '"' rest)
  | '\'' :: '\'' :: '\'' :: rest => some (manyLines '\'' rest)
  | cs => quotedKey? cs

/-!
Values of a single word: truth values, days and times, numbers. Each reader takes the longest
beginning that has its form.
-/

/-- A number of exactly `width` digits in a range. -/
private def digits? (width least greatest : Nat) (cs : List Char) : Option (Nat × List Char) :=
  let ds := (cs.take width).takeWhile Char.isDigit
  let n := ds.foldl (fun n c => n * 10 + (c.toNat - 48)) 0
  if ds.length == width && least ≤ n && n ≤ greatest then some (n, cs.drop width) else none

private def sign? (c : Char) (cs : List Char) : Option (List Char) := dropStart? cs [c]

private def day? (cs : List Char) : Option (Day × List Char) := do
  let (year, cs) ← digits? 4 0 9999 cs
  let (month, cs) ← digits? 2 1 12 (← sign? '-' cs)
  let (day, cs) ← digits? 2 1 31 (← sign? '-' cs)
  return (⟨year, month, day⟩, cs)

/-- A fraction of a second in millionths; further digits are dropped. -/
private def fraction (cs : List Char) : Nat × List Char :=
  match cs with
  | '.' :: rest =>
    let ds := rest.takeWhile Char.isDigit
    if ds.isEmpty then (0, cs)
    else
      (((padRight 6 '0' (ds.take 6)).foldl (fun n c => n * 10 + (c.toNat - 48)) 0),
        rest.drop ds.length)
  | cs => (0, cs)

private def clock? (cs : List Char) : Option (Clock × List Char) := do
  let (hour, cs) ← digits? 2 0 23 cs
  let (minute, cs) ← digits? 2 0 59 (← sign? ':' cs)
  let (second, cs) ← digits? 2 0 59 (← sign? ':' cs)
  let (micros, cs) := fraction cs
  return (⟨hour, minute, second, micros⟩, cs)

private def offset? (cs : List Char) : Option (Int × List Char) :=
  match cs with
  | 'Z' :: rest | 'z' :: rest => some (0, rest)
  | c :: rest => do
    let negative ← if c == '+' then some false else if c == '-' then some true else none
    let (hour, rest) ← digits? 2 0 23 rest
    let (minute, rest) ← digits? 2 0 59 (← sign? ':' rest)
    let n : Int := Int.ofNat (hour * 60 + minute)
    return (if negative then -n else n, rest)
  | [] => none

private def timeAfterDay? : List Char → Option (Clock × List Char)
  | 'T' :: rest | 't' :: rest | ' ' :: rest => clock? rest
  | _ => none

/-- A day, with a time and an offset where they follow. A day that the calendar lacks is a
fault. -/
private def momentAt? (cs : List Char) : Option (Read Plain) :=
  (day? cs).map fun (d, rest) =>
    if d.fault?.isSome then stop .moment cs
    else match timeAfterDay? rest with
      | none => .ok (.ofDay d, rest)
      | some (c, rest) =>
        match offset? rest with
        | some (minutes, rest) => .ok (.ofInstant d c (some minutes), rest)
        | none => .ok (.ofInstant d c none, rest)

/-- Digits of a base with single underscores between them. -/
private def digitRun (isDigit : Char → Bool) : List Char → List Char × List Char
  | [] => ([], [])
  | '_' :: c :: rest =>
    if isDigit c then
      let (ds, rest) := digitRun isDigit rest
      ('_' :: c :: ds, rest)
    else ([], '_' :: c :: rest)
  | c :: rest =>
    if isDigit c then
      let (ds, rest) := digitRun isDigit rest
      (c :: ds, rest)
    else ([], c :: rest)

/-- A run that starts with a digit. -/
private def digitsFrom? (isDigit : Char → Bool) : List Char → Option (List Char × List Char)
  | c :: rest => if isDigit c then some (digitRun isDigit (c :: rest)) else none
  | [] => none

private def isHexDigit (c : Char) : Bool := (hexValue? c).isSome
private def isOctalDigit (c : Char) : Bool := (octalDigit? c).isSome

private def marked? : List Char → Option (List Char × List Char)
  | '0' :: m :: rest => do
    let (ds, rest) ← match m with
      | 'x' => digitsFrom? isHexDigit rest
      | 'b' => digitsFrom? (fun c => c == '0' || c == '1') rest
      | 'o' => digitsFrom? isOctalDigit rest
      | _ => none
    return ('0' :: m :: ds, rest)
  | _ => none

/-- A fraction, then an exponent; either may be missing. -/
private def fractionPart (cs : List Char) : List Char × List Char :=
  let (part, cs) := match cs with
    | '.' :: rest =>
      match digitsFrom? Char.isDigit rest with
      | some (ds, rest) => ('.' :: ds, rest)
      | none => ([], cs)
    | cs => ([], cs)
  let signed (e : Char) (rest : List Char) : Option (List Char × List Char) :=
    match rest with
    | s :: more =>
      if s == '+' || s == '-' then
        (digitsFrom? Char.isDigit more).map fun (ds, rest) => (e :: s :: ds, rest)
      else (digitsFrom? Char.isDigit rest).map fun (ds, rest) => (e :: ds, rest)
    | [] => none
  match cs with
  | e :: rest =>
    if e == 'e' || e == 'E' then
      match signed e rest with
      | some (exponent, rest) => (part ++ exponent, rest)
      | none => (part, cs)
    else (part, cs)
  | [] => (part, [])

private def decimal? (cs : List Char) : Option (List Char × List Char × List Char) := do
  let (sign, cs) := match cs with
    | '+' :: rest => (['+'], rest)
    | '-' :: rest => (['-'], rest)
    | cs => ([], cs)
  let (whole, rest) ← match cs with
    | '0' :: rest => some (['0'], rest)
    | cs => digitsFrom? Char.isDigit cs
  let (part, rest) := fractionPart rest
  return (sign ++ whole, part, rest)

private def number? (cs : List Char) : Option (Plain × List Char) :=
  match marked? cs with
  | some (ds, rest) => (Decimal.int? 0 (.ofList ds)).map fun n => (.int n, rest)
  | none =>
    (decimal? cs).bind fun (whole, part, rest) =>
      if part.isEmpty then (Decimal.int? 0 (.ofList whole)).map fun n => (.int n, rest)
      else (Decimal.float? (.ofList (whole ++ part))).map fun x => (.float x, rest)

/-- Words for truth values. -/
def truth? (cs : List Char) : Option (Plain × List Char) :=
  ((dropStart? cs "true".toList).map fun rest => (.bool true, rest)).or
    ((dropStart? cs "false".toList).map fun rest => (.bool false, rest))

private def special? (cs : List Char) : Option (Plain × List Char) :=
  ["inf", "nan", "-inf", "+inf", "-nan", "+nan"].findSome? fun name =>
    (dropStart? cs name.toList).bind fun rest =>
      (Decimal.float? name).map fun x => (.float x, rest)

/-- A day, a time or a number. -/
def scalar (cs : List Char) : Read Plain :=
  match momentAt? cs with
  | some r => r
  | none =>
    match clock? cs with
    | some (c, rest) => .ok (.ofClock c, rest)
    | none =>
      match (number? cs).or (special? cs) with
      | some (.int n, rest) =>
        match Decimal.excess? 0 (.ofList (cs.take (cs.length - rest.length))) with
        | some digits => stop (.tooLong digits) cs
        | none => .ok (.int n, rest)
      | some r => .ok r
      | none => stop .value cs

end Stencil.Toml
