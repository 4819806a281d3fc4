import Stencil.Source.Grammar.Suite
import Stencil.Source.Placement
import Stencil.Text.Codec

/-!
Module sources as bytes. A mark in front or a comment on one of the first two lines may name the
encoding. Where nothing names it, bytes that are no characters may stand in comments, and anywhere
else they are a flaw of the token that holds them.
-/
namespace Stencil.Source
open Stencil.Text

/-- Why bytes are not accepted as a module. -/
inductive Objection where
  | zeroByte
  /-- A fault, and the line of the source that it is in. -/
  | fault (f : Fault) (line : String)
  deriving DecidableEq, Repr

namespace Encoded

/-! The name of the encoding. -/

private def isSpace (c : Char) : Bool := c == ' ' || c == '\t' || c == '\x0c'

private def isNamePart (c : Char) : Bool := c.isAlphanum || c == '-' || c == '_' || c == '.'

/-- The first name that follows the word for it. -/
private def nameIn : List Char → Option String
  | [] => none
  | c :: rest =>
    match dropStart? (c :: rest) "coding".toList with
    | some (sep :: more) =>
      let name := (more.dropWhile fun d => d == ' ' || d == '\t').takeWhile isNamePart
      if (sep == ':' || sep == '=') && !name.isEmpty then some (.ofList name) else nameIn rest
    | _ => nameIn rest

/-- The encoding that a line of source names, and whether the next line may name one instead. -/
private def namedOn (line : List Char) : Option String × Bool :=
  match line.dropWhile isSpace with
  | [] => (none, true)
  | '#' :: comment =>
    match nameIn comment with
    | some name => (some name, false)
    | none => (none, true)
  | _ => (none, false)

private def namedEncoding? (source : List Char) : Option String :=
  let first := source.takeWhile (· != '\n')
  match namedOn first with
  | (none, true) => (namedOn ((source.drop (first.length + 1)).takeWhile (· != '\n'))).1
  | (name, _) => name

/-- The usual names of the two most common encodings. -/
private def usualName (name : String) : String :=
  let start := (name.toList.take 12).map fun c => if c == '_' then '-' else c.toLower
  let isNamed (n : String) := start == n.toList || startsWith start (n ++ "-").toList
  if isNamed "utf-8" then "utf-8"
  else if ["latin-1", "iso-8859-1", "iso-latin-1"].any isNamed then "iso-8859-1"
  else name

/-! The characters. -/

/-- A source whose encoding is known: its text, what a display shows of it, and the bytes of its
lines where they may be flawed. -/
structure Decoded where
  text : String
  shown : String
  bytewise : Bool := false
  flawed : Option (List (List UInt8)) := none

private def asChars (content : List UInt8) : List Char := content.map fun b => Char.ofNat b.toNat

/-- Bytes with line feeds as their only line ends. -/
def newlinesOnly : List UInt8 → List UInt8
  | [] => []
  | 13 :: 10 :: rest => 10 :: newlinesOnly rest
  | 13 :: rest => 10 :: newlinesOnly rest
  | b :: rest => b :: newlinesOnly rest

private def byteLines (content : List UInt8) : List (List UInt8) :=
  content.splitOn 10

/-- The text of bytes; a letter stands for each byte that is no character. -/
private def patched : Nat → List UInt8 → List Char
  | 0, _ => []
  | _, [] => []
  | fuel + 1, b :: rest =>
    match utf8Step b rest with
    | .char c taken => c :: patched fuel (rest.drop (taken - 1))
    | .fault _ taken => List.replicate taken 'q' ++ patched fuel (rest.drop (taken - 1))

/-- Reads bytes that nothing names another encoding for. -/
private def decodeUsual (content : List UInt8) (bytewise : Bool) : Decoded :=
  match decodeUtf8 content with
  | .ok text => { text := text, shown := text, bytewise := bytewise }
  | .error _ =>
    { text := .ofList (patched (content.length + 1) content)
      shown := decodeLenient content
      bytewise := bytewise
      flawed := some (byteLines (newlinesOnly content)) }

/-- Encodings that are no encodings of texts. -/
private def transforms : List String :=
  ["base64", "base_64", "bz2", "hex", "quopri", "rot13", "rot_13", "uu", "zlib"]

private def decodeNamed (name : String) (content : List UInt8) : Except String Decoded :=
  match Codec.find? name with
  | none =>
    if transforms.contains name then
      .error (quoted name ++
        " is not a text encoding; use codecs.decode() to handle arbitrary codecs")
    else .error ("unknown encoding: " ++ name)
  | some codec =>
    match codec.decode .strict (newlinesOnly content) with
    | .error e => .error e.message
    | .ok text => .ok { text := text, shown := text }

/-- Finds the encoding of a source and reads it. -/
def decode (content : List UInt8) : Except String Decoded :=
  match content with
  | 0xEF :: 0xBB :: 0xBF :: rest =>
    match (namedEncoding? (asChars (newlinesOnly rest))).map usualName with
    | none | some "utf-8" => .ok (decodeUsual rest false)
    | some name => .error ("encoding problem: " ++ name ++ " with BOM")
  | content =>
    match (namedEncoding? (asChars (newlinesOnly content))).map usualName with
    | none => .ok (decodeUsual content true)
    | some "utf-8" => .ok (decodeUsual content false)
    | some name => decodeNamed name content

/-! Flaws. -/

/-- The bytes of a part of a source. -/
private def bytesOf (lines : List (List UInt8)) (s : Span) : List UInt8 :=
  let line (n : Nat) : List UInt8 := (lines[n - 1]?).getD []
  if s.start.line == s.stop.line then
    ((line s.start.line).take s.stop.bytes).drop s.start.bytes
  else
    let between := (List.range (s.stop.line - s.start.line - 1)).flatMap fun i =>
      line (s.start.line + 1 + i) ++ [10]
    (line s.start.line).drop s.start.bytes ++ [10] ++ between ++
      (line s.stop.line).take s.stop.bytes

private def problem? (content : List UInt8) : Option String :=
  match decodeUtf8 content with
  | .ok _ => none
  | .error e => some ("(unicode error) " ++ e.message)

/-- The runs of bytes beyond the first 128 values. -/
private def highRuns (content : List UInt8) : List (List UInt8) :=
  content.splitOnP (· < 128)

/-- What is wrong with the bytes of a text token. -/
private def textProblem? (t : Token) (content : List UInt8) : Option String :=
  let part := TextToken.ofString t.text
  let mark := (content.takeWhile fun b => b != 34 && b != 39).length
  let inner := content.drop (mark + part.quoteSize)
  let body := inner.take (inner.length - part.quoteSize)
  if part.raw || !body.contains 92 then problem? body else (highRuns body).findSome? problem?

/-- Marks the flaws of text tokens. A flawed name ends the sequence. -/
private def marked (bytewise : Bool) (lines : List (List UInt8)) :
    List Token → List Token × Option Fault
  | [] => ([], none)
  | t :: rest =>
    let content := bytesOf lines t.span
    let name := if t.kind == .name then problem? content else none
    match name with
    | some message =>
      let stop := t.span.stop
      ([], some ⟨.syntax_, message, t.line,
        { column := if bytewise then stop.bytes else stop.column }⟩)
    | none =>
      let t := if t.kind == .string then { t with flaw := textProblem? t content } else t
      let (more, f) := marked bytewise lines rest
      (t :: more, f)

private def tokensOf (d : Decoded) : Tokens :=
  let ts := { tokenize d.text with bytewise := d.bytewise }
  match d.flawed with
  | none => ts
  | some lines =>
    match marked d.bytewise lines ts.tokens.toList with
    | (tokens, some f) => { ts with tokens := tokens.toArray, ending := .fault f }
    | (tokens, none) => { ts with tokens := tokens.toArray }

/-! Reading. -/

private def lineOf (text : String) (n : Nat) : String :=
  if n == 0 then ""
  else .ofList (((splitOnChar '\n' (universalNewlines text.toList))[n - 1]?).getD [])

/-- A line of a source, counted from one, without blanks around it. -/
def strippedLine (content : List UInt8) (n : Nat) : String :=
  match decode content with
  | .ok d => .ofList (trimBy isBlank (lineOf d.text n).toList)
  | .error _ => ""

/-- A fault whose columns stay on its line. -/
private def clipped (line : String) (f : Fault) : Fault :=
  let most := line.length + 2
  { f with pointer := { f.pointer with
      column := min f.pointer.column most, stop := f.pointer.stop.map (min · most) } }

end Encoded

/-- Reads and checks the module that bytes hold. -/
def Module.ofBytes (content : List UInt8) : Except Objection Module :=
  if content.contains 0 then .error .zeroByte
  else
    match Encoded.decode content with
    | .error message => .error (.fault ⟨.syntax_, message, 0, { column := 0 }⟩ "")
    | .ok d =>
      let ts := Encoded.tokensOf d
      match Module.ofTokens ts d.text.length with
      | .error f =>
        let line := Encoded.lineOf d.shown f.line
        .error (.fault (if d.bytewise then f else Encoded.clipped line f) line)
      | .ok m =>
        match m.check with
        | .error f => .error (.fault f (Encoded.lineOf d.shown f.line))
        | .ok () => .ok m

end Stencil.Source
