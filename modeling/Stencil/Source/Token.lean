import Stencil.Source.Fault
import Stencil.Text.Words

/-!
Module sources as tokens. Indentation becomes tokens of its own, lines inside brackets are
joined, blank lines and comments vanish. A text that breaks a rule of the tokens ends the
sequence there, with the complaint that a reader of the sequence meets when it comes to it.
-/
namespace Stencil.Source
open Stencil.Text

inductive TokenKind where
  | name | number | string | op | newline | indent | dedent | eof
  deriving DecidableEq, Repr, Inhabited

/-- A token, where it stands and the number of brackets open after it. A token of characters that
cannot be read has a flaw. -/
structure Token where
  kind : TokenKind
  text : String
  span : Span
  depth : Nat
  flaw : Option String := none
  deriving DecidableEq, Repr, Inhabited

def Token.line (t : Token) : Nat := t.span.start.line

/-- An open bracket and its place. -/
structure Bracket where
  char : Char
  place : Place
  deriving DecidableEq, Repr

/-- A complaint about the last character in front of a column. -/
private def complaint (p : Place) (column : Nat) (message : String) : Fault :=
  ⟨.syntax_, message, p.line, { column }⟩

def Bracket.unclosed (b : Bracket) : Fault :=
  complaint b.place (b.place.column + 1) ("'" ++ String.singleton b.char ++ "' was never closed")

/-- How a sequence of tokens stops. -/
inductive Ending where
  | complete
  | fault (f : Fault)
  /-- A fault that only a reader who comes to it complains about, and the innermost bracket open
  there. -/
  | late (f : Fault) (bracket : Option Bracket)
  deriving DecidableEq, Repr

structure Tokens where
  tokens : Array Token
  ending : Ending
  /-- Whether complaints of readers count columns in bytes. -/
  bytewise : Bool := false
  deriving Repr

/-- The column of a place, as complaints of readers count it. -/
def Tokens.columnOf (ts : Tokens) (p : Place) : Nat := if ts.bytewise then p.bytes else p.column

private structure Lexer where
  place : Place
  lineStart : Bool
  columns : List (Nat × Nat)
  brackets : List Bracket
  tokens : Array Token

/-- Adds a token that goes from here to a place. -/
private def Lexer.pushTo (l : Lexer) (kind : TokenKind) (text : String) (stop : Place) : Lexer :=
  { l with
    place := stop
    tokens := l.tokens.push
      { kind := kind, text := text, span := ⟨l.place, stop⟩, depth := l.brackets.length } }

private def Lexer.push (l : Lexer) (kind : TokenKind) (text : String) : Lexer :=
  l.pushTo kind text (l.place.after text.toList)

private def Lexer.skip (l : Lexer) (cs : List Char) : Lexer := { l with place := l.place.after cs }

/-- A step that goes on with the rest of the text, or the fault that stops it. -/
private abbrev Step := Except Fault (Lexer × List Char)

private def hexUpper (n : Nat) : String :=
  .ofList ((digitsBase 16 4 n).map Char.toUpper)

private def isNameChar (c : Char) : Bool := c.isAlphanum || c == '_' || c.toNat ≥ 128

private def wrongChar (p : Place) (c : Char) : Fault :=
  complaint p (p.column + 1)
    (if isPrintable c then
      "invalid character '" ++ String.singleton c ++ "' (U+" ++ hexUpper c.toNat ++ ")"
    else "invalid non-printable character U+" ++ hexUpper c.toNat)

private def checkName (p : Place) (cs : List Char) : Except Fault Unit :=
  match cs with
  | [] => .ok ()
  | c :: rest =>
    if !isNameStart c then .error (wrongChar p c)
    else
      let fine := rest.takeWhile isNameRest
      match rest.drop fine.length with
      | d :: _ => .error (wrongChar (p.after (c :: fine)) d)
      | [] => .ok ()

/-! Numbers. The characters read so far come reversed; a complaint points at the last character
that was looked at. -/

/-- Whether a word stands here that may follow a number without a blank. -/
private def wordFollows (cs : List Char) : Bool :=
  ["if", "in", "is"].any (fun w => startsWith cs w.toList) ||
    ["and", "else", "for", "not", "or"].any fun w =>
      startsWith cs w.toList && !((cs.drop w.length).head?.map isNameChar).getD false

private def numberFault (start : Place) (length : Nat) (message : String) : Fault :=
  complaint start (start.column + length) message

private def badLiteral (start : Place) (length : Nat) (kind : String) : Fault :=
  numberFault start length ("invalid " ++ kind ++ " literal")

/-- What a reader of numbers answers: the characters read, reversed, and the rest. -/
private abbrev Scanned := Except Fault (List Char × List Char)

private def endNumber (start : Place) (kind : String) (acc rest : List Char) : Scanned :=
  match rest with
  | [] => .ok (acc, rest)
  | c :: _ =>
    if wordFollows rest then .ok (acc, rest)
    else if c.isAlphanum || c == '_' then .error (badLiteral start acc.length kind)
    else .ok (acc, rest)

/-- Digits in groups joined by single underscores. -/
private def digitTail (start : Place) : List Char → List Char → Scanned
  | [], acc => .ok (acc, [])
  | c :: rest, acc =>
    if c.isDigit then digitTail start rest (c :: acc)
    else if c == '_' then
      if (rest.head?.map Char.isDigit).getD false then digitTail start rest (c :: acc)
      else .error (badLiteral start (acc.length + 1) "decimal")
    else .ok (acc, c :: rest)

private def isBaseDigit (base : Nat) (c : Char) : Bool :=
  if base == 16 then c.isDigit || ('a' ≤ c && c ≤ 'f') || ('A' ≤ c && c ≤ 'F')
  else c.isDigit && c.toNat - 48 < base

/-- The digits behind a base mark in groups, each led by at most one underscore; a decimal digit
out of range is named. -/
private def baseDigits (start : Place) (base : Nat) (kind : String) :
    Bool → List Char → List Char → Scanned
  | wanted, [], acc =>
    if wanted then .error (badLiteral start acc.length kind) else .ok (acc, [])
  | wanted, c :: rest, acc =>
    if isBaseDigit base c then baseDigits start base kind false rest (c :: acc)
    else if c == '_' && !(wanted && acc.head? == some '_') then
      baseDigits start base kind true rest (c :: acc)
    else if base != 16 && c.isDigit then
      .error (numberFault start (acc.length + 1)
        ("invalid digit '" ++ String.singleton c ++ "' in " ++ kind ++ " literal"))
    else if wanted then .error (badLiteral start acc.length kind)
    else endNumber start kind acc (c :: rest)

private def imaginary (start : Place) (acc rest : List Char) : Scanned :=
  match rest with
  | c :: more =>
    if c == 'j' || c == 'J' then endNumber start "imaginary" (c :: acc) more
    else endNumber start "decimal" acc rest
  | [] => .ok (acc, [])

/-- An exponent, if one follows. -/
private def exponentPart (start : Place) (acc cs : List Char) : Scanned :=
  match cs with
  | e :: rest =>
    if e == 'e' || e == 'E' then
      let (sign, digits) := match rest with
        | '+' :: more => (['+'], more)
        | '-' :: more => (['-'], more)
        | _ => ([], rest)
      if (digits.head?.map Char.isDigit).getD false then do
        let (acc, rest) ← digitTail start digits (sign ++ e :: acc)
        imaginary start acc rest
      else if !sign.isEmpty then .error (badLiteral start (acc.length + 2) "decimal")
      else endNumber start "decimal" acc cs
    else imaginary start acc cs
  | [] => .ok (acc, [])

private def fractionPart (start : Place) (acc cs : List Char) : Scanned := do
  if (cs.head?.map Char.isDigit).getD false then
    let (acc, rest) ← digitTail start cs acc
    exponentPart start acc rest
  else exponentPart start acc cs

private def decimalRest (start : Place) (acc rest : List Char) : Scanned :=
  match rest with
  | '.' :: more => fractionPart start ('.' :: acc) more
  | _ => exponentPart start acc rest

/-- A number from its first digit on. -/
private def scanNumber (start : Place) (cs : List Char) : Scanned := do
  match cs with
  | '0' :: m :: rest =>
    if m == 'x' || m == 'X' then baseDigits start 16 "hexadecimal" true rest [m, '0']
    else if m == 'o' || m == 'O' then baseDigits start 8 "octal" true rest [m, '0']
    else if m == 'b' || m == 'B' then baseDigits start 2 "binary" true rest [m, '0']
    else
      let (acc, rest) ← digitTail start cs []
      let zeros := acc.reverse.takeWhile fun c => c == '0' || c == '_'
      let goesOn := match rest with
        | c :: _ => c == '.' || c == 'e' || c == 'E' || c == 'j' || c == 'J'
        | [] => false
      if goesOn || zeros.length == acc.length then decimalRest start acc rest
      else
        throw ⟨.syntax_, leadingZeros, start.line,
          { column := start.bytes + 1, stop := some (start.bytes + zeros.length + 1) }⟩
  | _ =>
    let (acc, rest) ← digitTail start cs []
    decimalRest start acc rest
where
  leadingZeros :=
    "leading zeros in decimal integer literals are not permitted; " ++
      "use an 0o prefix for octal integers"

/-! Quoted texts. -/

/-- Reads up to the closing quote. The answer is the text read, reversed, and the rest; or the
line reached without one. -/
private def scanQuoted (quote : Char) (triple : Bool) :
    List Char → Nat → List Char → Except Nat (List Char × List Char)
  | [], line, _ => .error line
  | [c], line, acc =>
    if !triple && c == quote then .ok (c :: acc, []) else .error line
  | '\\' :: c :: rest, line, acc =>
    scanQuoted quote triple rest (if c == '\n' && !rest.isEmpty then line + 1 else line)
      (c :: '\\' :: acc)
  | c :: d :: rest, line, acc =>
    if c == quote then
      if !triple then .ok (c :: acc, d :: rest)
      else match rest with
        | e :: more =>
          if d == quote && e == quote then .ok (e :: d :: c :: acc, more)
          else scanQuoted quote triple (d :: rest) line (c :: acc)
        | [] => scanQuoted quote triple (d :: rest) line (c :: acc)
    else if c == '\n' then
      if triple then scanQuoted quote triple (d :: rest) (line + 1) (c :: acc) else .error line
    else scanQuoted quote triple (d :: rest) line (c :: acc)

private def scanString (l : Lexer) (mark : List Char) (cs : List Char) : Step :=
  match cs with
  | q :: rest =>
    let (triple, opening, body) := match rest with
      | a :: b :: more => if a == q && b == q then (true, [q, q, q], more) else (false, [q], rest)
      | _ => (false, [q], rest)
    let done (acc rest : List Char) : Step :=
      .ok (l.push .string (.ofList (mark ++ acc.reverse)), rest)
    if !triple && startsWith rest [q] then done [q, q] (rest.drop 1)
    else match scanQuoted q triple body l.place.line opening with
      | .ok (acc, rest) => done acc rest
      | .error line =>
        .error (complaint l.place (l.place.column + 1)
          ((if triple then "unterminated triple-quoted string literal" else
            "unterminated string literal") ++ " (detected at line " ++ ofNat line ++ ")"))
  | [] => .ok (l, [])

/-! Names, operators, lines. -/

private def isStringMark (cs : List Char) : Bool :=
  let low := cs.map Char.toLower
  [[], ['b'], ['u'], ['r'], ['f'], ['b', 'r'], ['r', 'b'], ['f', 'r'], ['r', 'f']].contains low

private def scanName (l : Lexer) (cs : List Char) : Step := do
  let word := cs.takeWhile isNameChar
  let rest := cs.drop word.length
  let startsString := match rest with
    | q :: _ => (q == '"' || q == '\'') && isStringMark word
    | [] => false
  if startsString then scanString l word rest
  else
    checkName l.place word
    pure (l.push .name (.ofList word), rest)

private def longOperators : List String :=
  ["**=", "//=", ">>=", "<<=", "...", "!=", "%=", "&=", "**", "*=", "+=", "-=", "->", "//", "/=",
    ":=", "<<", "<=", "<>", "==", ">=", ">>", "@=", "^=", "|="]

private def closes (opening closing : Char) : Bool :=
  (opening == '(' && closing == ')') || (opening == '[' && closing == ']') ||
    (opening == '\x7b' && closing == '\x7d')

/-- How deep brackets may nest. -/
private def maxDepth : Nat := 200

private def scanOperator (l : Lexer) (cs : List Char) : Step :=
  match longOperators.find? fun op => startsWith cs op.toList with
  | some op => .ok (l.push .op op, cs.drop op.length)
  | none =>
    match cs with
    | [] => .ok (l, [])
    | c :: rest =>
      let shown := String.singleton c
      let refused (message : String) : Step :=
        .error (complaint l.place (l.place.column + 1) message)
      if c == '(' || c == '[' || c == '\x7b' then
        if l.brackets.length ≥ maxDepth then refused "too many nested parentheses"
        else .ok ({ l with brackets := ⟨c, l.place⟩ :: l.brackets }.push .op shown, rest)
      else if c == ')' || c == ']' || c == '\x7d' then
        match l.brackets with
        | [] => refused ("unmatched '" ++ shown ++ "'")
        | b :: more =>
          if closes b.char c then .ok ({ l with brackets := more }.push .op shown, rest)
          else
            let place := if b.place.line == l.place.line then ""
              else " on line " ++ ofNat b.place.line
            refused ("closing parenthesis '" ++ shown ++
              "' does not match opening parenthesis '" ++ String.singleton b.char ++ "'" ++ place)
      else if !isPrintable c then .error (wrongChar l.place c)
      else .ok (l.push .op shown, rest)

/-- The indentation of a line: its width with tabs to multiples of eight and with tabs as one. A
line that goes on behind a backslash keeps the width it has there. -/
private structure Indent where
  wide : Nat := 0
  narrow : Nat := 0
  kept : Option Nat := none
  place : Place

private def unexpectedEnd : String := "unexpected EOF while parsing"

private def afterBackslash : String := "unexpected character after line continuation character"

/-- What follows a backslash that goes on with the next line. -/
private def continued (p : Place) (rest : List Char) : Except Fault (List Char) :=
  match rest with
  | ['\n'] | [] => .error (complaint p (p.column + 2) unexpectedEnd)
  | '\n' :: more => .ok more
  | _ => .error (complaint p (p.column + 2) afterBackslash)

private def measureIndent : Nat → Indent → List Char → Except Fault (Indent × List Char)
  | 0, i, cs => .ok (i, cs)
  | fuel + 1, i, c :: rest =>
    let step (i : Indent) := measureIndent fuel { i with place := i.place.next c } rest
    if c == ' ' then step { i with wide := i.wide + 1, narrow := i.narrow + 1 }
    else if c == '\t' then step { i with wide := (i.wide / 8 + 1) * 8, narrow := i.narrow + 1 }
    else if c == '\x0c' then step { i with wide := 0, narrow := 0 }
    else if c == '\\' then do
      let more ← continued i.place rest
      let kept := if i.kept.getD 0 == 0 then some i.wide else i.kept
      measureIndent fuel { i with kept, place := i.place.after ['\\', '\n'] } more
    else .ok (i, c :: rest)
  | _, i, [] => .ok (i, [])

private def tabFault (line : Nat) : Fault :=
  ⟨.tabs, "inconsistent use of tabs and spaces in indentation", line, { column := 1 }⟩

private def indentFault (line : Nat) (message : String) : Fault :=
  ⟨.indentation, message, line, { column := 1 }⟩

/-- Closes blocks down to a column. -/
private def dedentTo (l : Lexer) (col alt : Nat) : List (Nat × Nat) → Except Fault Lexer
  | [] => .ok l
  | (c, a) :: outer =>
    if col < c then dedentTo ({ l with columns := outer }.push .dedent "") col alt outer
    else if col == c then if alt == a then .ok l else .error (tabFault l.place.line)
    else
      .error (indentFault l.place.line "unindent does not match any outer indentation level")

private def indentTo (l : Lexer) (col alt : Nat) : Except Fault Lexer :=
  let (c, a) := l.columns.head?.getD (0, 0)
  if col == c then if alt == a then .ok l else .error (tabFault l.place.line)
  else if col > c then
    if alt ≤ a then .error (tabFault l.place.line)
    else if l.columns.length ≥ 100 then
      .error (indentFault l.place.line "too many levels of indentation")
    else .ok ({ l with columns := (col, alt) :: l.columns }.push .indent "")
  else dedentTo l col alt l.columns

/-- Takes a line feed; the end of the text stays on the last line. -/
private def afterNewline (l : Lexer) (rest : List Char) : Lexer :=
  let p := l.place
  { l with
    place := if rest.isEmpty then ⟨p.line, p.column + 1, p.bytes + 1⟩ else p.next '\n'
    lineStart := true }

/-- Handles the beginning of a line: measures it unless it is blank or inside brackets. -/
private def startLine (l : Lexer) (cs : List Char) : Step := do
  let (i, rest) ← measureIndent (cs.length + 1) { place := l.place } cs
  let l := { l with lineStart := false, place := i.place }
  match rest with
  | '#' :: _ =>
    let note := rest.takeWhile (· != '\n')
    let rest := (rest.drop note.length).drop 1
    pure (afterNewline (l.skip note) rest, rest)
  | '\n' :: rest => pure (afterNewline l rest, rest)
  | _ =>
    if !l.brackets.isEmpty then pure (l, rest)
    else
      let kept := i.kept.filter (· != 0)
      let l ← indentTo l (kept.getD i.wide) (kept.getD i.narrow)
      pure (l, rest)

private def lineEnd (l : Lexer) (start : Place) (rest : List Char) : Step :=
  if l.brackets.isEmpty then
    let stop := l.place
    .ok (afterNewline ({ l with place := start }.pushTo .newline "" stop) rest, rest)
  else .ok (afterNewline l rest, rest)

private def scanOne (l : Lexer) (cs : List Char) : Step :=
  match cs with
  | [] => .ok (l, [])
  | c :: rest =>
    if c == ' ' || c == '\t' || c == '\x0c' then .ok (l.skip [c], rest)
    else if c == '#' then
      let note := cs.takeWhile (· != '\n')
      lineEnd (l.skip note) l.place ((cs.drop note.length).drop 1)
    else if c == '\n' then lineEnd l l.place rest
    else if c == '\\' then do
      let more ← continued l.place rest
      pure (l.skip ['\\', '\n'], more)
    else if c.isAlpha || c == '_' || c.toNat ≥ 128 then scanName l cs
    else if c == '"' || c == '\'' then scanString l [] cs
    else if c.isDigit || (c == '.' && (rest.head?.map Char.isDigit).getD false) then do
      let (acc, rest) ←
        if c == '.' then fractionPart l.place ['.'] rest else scanNumber l.place cs
      pure (l.push .number (.ofList acc.reverse), rest)
    else scanOperator l cs

private def finish (l : Lexer) : Tokens :=
  match l.brackets with
  | b :: _ => { tokens := l.tokens, ending := .late b.unclosed (some b) }
  | [] =>
    match dedentTo l 0 0 l.columns with
    | .ok l => { tokens := (l.push .eof "").tokens, ending := .complete }
    | .error f => { tokens := l.tokens, ending := .late f none }

/-- How a fault ends the sequence. Faults of lines and their indentation are late ones. -/
private def Lexer.ending (l : Lexer) (f : Fault) : Ending :=
  let bracket := l.brackets.head?
  if f.kind == .syntax_ && f.message == unexpectedEnd then
    .late ((bracket.map Bracket.unclosed).getD f) bracket
  else if f.kind != .syntax_ || f.message == afterBackslash then .late f bracket
  else .fault f

private def scanAll : Nat → Lexer → List Char → Tokens
  | 0, l, _ => finish l
  | _, l, [] => finish l
  | fuel + 1, l, cs =>
    match if l.lineStart then startLine l cs else scanOne l cs with
    | .ok (l, rest) => scanAll fuel l rest
    | .error f => { tokens := l.tokens, ending := l.ending f }

/-- The lines of a text, each with its line feed. A last line without one gets one; a text whose
last line ends in two characters gets an empty line. -/
def sourceLines (source : List Char) : List Char :=
  let cs := universalNewlines source
  if cs.isEmpty || (cs.getLast? == some '\n' && !endsWith source ['\r', '\n']) then cs
  else cs ++ ['\n']

/-- The tokens of a text that stands at a place. -/
def tokenizeAt (start : Place) (source : List Char) : Tokens :=
  let cs := sourceLines source
  scanAll (2 * cs.length + 2) ⟨start, true, [(0, 0)], [], #[]⟩ cs

def tokenize (source : String) : Tokens := tokenizeAt .start source.toList

end Stencil.Source
