import Stencil.Text.Escape
import Stencil.Text.Utf8
import Stencil.Yaml.Token
import Stencil.Yaml.Token.Scalar

/-!
Directives, anchors, aliases and tags: the tokens that are names.
-/
namespace Stencil.Yaml
open Stencil.Text

private def isNameChar (c : Char) : Bool := c.isAlphanum || c == '-' || c == '_'

private def isUriChar (c : Char) : Bool :=
  c.isAlphanum || "-;/?:@&=+$,_.!~*'()[]%".toList.contains c

private def inDirective : String := "while scanning a directive"

private def notAName (what : String) (start : Mark) (c : Cursor) {α : Type} : Except Fault α :=
  faultIn what start ("expected alphabetic or numeric character, but found " ++
    shownChar c.peek) c.mark

/-- The bytes of percent escapes, read as text. -/
private def uriEscapes (what : String) (start : Mark) : Nat → List UInt8 → Cursor →
    Except Fault (List UInt8 × Cursor)
  | 0, bytes, c => .ok (bytes, c)
  | fuel + 1, bytes, c =>
    if c.peek == '%' then
      let c := c.next
      match takeHex? 2 c.rest with
      | some (n, _) => uriEscapes what start fuel (bytes ++ [n.toUInt8]) (c.skip 2)
      | none =>
        let good := (c.rest.takeWhile fun x => (hexValue? x).isSome).length
        faultIn ("while scanning a " ++ what) start
          ("expected URI escape sequence of 2 hexadecimal numbers, but found " ++
            shownChar (c.peekAt good)) c.mark
    else .ok (bytes, c)

private def uriParts (what : String) (start : Mark) : Nat → List Char → Cursor →
    Except Fault (List Char × Cursor)
  | 0, text, c => .ok (text, c)
  | fuel + 1, text, c =>
    if c.peek == '%' then do
      let (bytes, after) ← uriEscapes what start (c.rest.length + 1) [] c
      match decodeUtf8 bytes with
      | .ok s => uriParts what start fuel (text ++ s.toList) after
      | .error e => faultIn ("while scanning a " ++ what) start e.message c.mark
    else
      let (plain, c) := c.span fun x => isUriChar x && x != '%'
      if plain.isEmpty then .ok (text, c) else uriParts what start fuel (text ++ plain) c

private def uri (what : String) (start : Mark) (c : Cursor) :
    Except Fault (List Char × Cursor) := do
  if isUriChar c.peek then uriParts what start (c.rest.length + 1) [] c
  else
    faultIn ("while parsing a " ++ what) start ("expected URI, but found " ++ shownChar c.peek)
      c.mark

/-- A handle of tags: a name between two marks, which may be empty, or one mark alone. -/
private def handle (what : String) (start : Mark) (c : Cursor) :
    Except Fault (List Char × Cursor) :=
  let complain (c : Cursor) : Except Fault (List Char × Cursor) :=
    faultIn ("while scanning a " ++ what) start ("expected '!', but found " ++ shownChar c.peek)
      c.mark
  if c.peek != '!' then complain c
  else if c.peekAt 1 == ' ' then .ok (['!'], c.next)
  else
    let (name, after) := c.next.span isNameChar
    if after.peek == '!' then .ok ('!' :: name ++ ['!'], after.next) else complain after

/-! Directives. -/

private def number (start : Mark) (c : Cursor) : Except Fault (Nat × Cursor) :=
  if c.peek.isDigit then
    let (ds, c) := c.span Char.isDigit
    .ok (ds.foldl (fun n d => n * 10 + (d.toNat - 48)) 0, c)
  else faultIn inDirective start ("expected a digit, but found " ++ shownChar c.peek) c.mark

private def versionValue (start : Mark) (c : Cursor) : Except Fault (Directive × Cursor) := do
  let (major, c) ← number start c.skipSpaces
  if c.peek != '.' then
    faultIn inDirective start ("expected a digit or '.', but found " ++ shownChar c.peek) c.mark
  else
    let (minor, c) ← number start c.next
    if !isSpaceOrEnd c.peek then
      faultIn inDirective start ("expected a digit or ' ', but found " ++ shownChar c.peek) c.mark
    else return (.version major minor, c)

private def notASpace (what : String) (start : Mark) (c : Cursor) {α : Type} : Except Fault α :=
  faultIn what start ("expected ' ', but found " ++ shownChar c.peek) c.mark

private def tagValue (start : Mark) (c : Cursor) : Except Fault (Directive × Cursor) := do
  let (name, c) ← handle "directive" start c.skipSpaces
  if c.peek != ' ' then notASpace inDirective start c
  else
    let (text, c) ← uri "directive" start c.skipSpaces
    if !isSpaceOrEnd c.peek then notASpace inDirective start c
    else return (.tag (.ofList name) (.ofList text), c)

private def directiveBody (start : Mark) (name : String) (c : Cursor) :
    Except Fault (Directive × Cursor) :=
  if name == "YAML" then versionValue start c
  else if name == "TAG" then tagValue start c
  else .ok (.other name, c)

def directive (c : Cursor) : Except Fault (Token × Cursor) := do
  let start := c.mark
  let (name, c) := c.next.span isNameChar
  if name.isEmpty || !isSpaceOrEnd c.peek then notAName inDirective start c
  else
    let (d, c) ← directiveBody start (.ofList name) c
    let stop := c.mark
    let c := match d with
      | .other _ => c.skipWhile fun x => !isBreakOrEnd x
      | _ => c
    let c := c.skipSpaces.skipComment
    if !isBreakOrEnd c.peek then
      faultIn inDirective start ("expected a comment or a line break, but found " ++
        shownChar c.peek) c.mark
    else return (⟨.directive d, start, stop⟩, c.lineBreak.2)

/-! Anchors and tags. -/

private def endsName (c : Char) : Bool :=
  isGap c || "?:,]\x7d%@\x60".toList.contains c

/-- An anchor or an alias, by its first character. -/
def anchor (c : Cursor) : Except Fault (Token × Cursor) :=
  let start := c.mark
  let isAlias := c.peek == '*'
  let (name, c) := c.next.span isNameChar
  if name.isEmpty || !endsName c.peek then
    notAName ("while scanning an " ++ if isAlias then "alias" else "anchor") start c
  else
    let name := String.ofList name
    .ok (⟨if isAlias then .reference name else .anchor name, start, c.mark⟩, c)

/-- Whether another mark follows before a space, so that the tag has a handle. -/
private def hasHandle (c : Cursor) : Bool :=
  (c.next.rest.takeWhile fun x => !isSpaceOrEnd x).contains '!'

private def tagParts (start : Mark) (c : Cursor) :
    Except Fault (Option String × List Char × Cursor) := do
  let x := c.peekAt 1
  if x == '<' then
    let (text, c) ← uri "tag" start (c.skip 2)
    if c.peek != '>' then
      faultIn "while parsing a tag" start ("expected '>', but found " ++ shownChar c.peek) c.mark
    else return (none, text, c.next)
  else if isGap x then return (none, ['!'], c.next)
  else
    let (name, c) ← if hasHandle c then handle "tag" start c else pure (['!'], c.next)
    let (text, c) ← uri "tag" start c
    return (some (.ofList name), text, c)

def tag (c : Cursor) : Except Fault (Token × Cursor) := do
  let start := c.mark
  let (name, text, c) ← tagParts start c
  if !isSpaceOrEnd c.peek then notASpace "while scanning a tag" start c
  else return (⟨.tag name (.ofList text), start, c.mark⟩, c)

end Stencil.Yaml

/-!
The tokens of a document one after another, read only as far as they are asked for. A scalar may
turn out to be a key when a colon follows; until that is known it is held back.
-/
namespace Stencil.Yaml

/-- A place where a key may have begun. -/
structure PossibleKey where
  /-- The number of the token that the key would come before. -/
  number : Nat
  required : Bool
  mark : Mark
  deriving DecidableEq, Repr

structure Stream where
  cursor : Cursor
  ended : Bool := false
  /-- How many brackets are open. -/
  depth : Int := 0
  waiting : List Token := [⟨.streamStart, default, default⟩]
  taken : Nat := 0
  indent : Int := -1
  outer : List Int := []
  keyAllowed : Bool := true
  /-- Possible keys by the depth they stand at. -/
  keys : List (Int × PossibleKey) := []
  deriving Repr

namespace Stream

private abbrev Step := Except Fault Stream

def inFlow (s : Stream) : Bool := s.depth != 0

private def column (s : Stream) : Int := s.cursor.column

private def add (s : Stream) (t : Token) : Stream := { s with waiting := s.waiting ++ [t] }

/-- Adds a token without extent. -/
private def addHere (s : Stream) (kind : TokenKind) : Stream :=
  s.add ⟨kind, s.cursor.mark, s.cursor.mark⟩

/-- Adds a token of the next `n` characters. -/
private def addNext (s : Stream) (kind : TokenKind) (n : Nat) : Stream :=
  let after := s.cursor.skip n
  { s.add ⟨kind, s.cursor.mark, after.mark⟩ with cursor := after }

/-! Possible keys. -/

private def noColon {α : Type} (s : Stream) (k : PossibleKey) : Except Fault α :=
  faultIn "while scanning a simple key" k.mark "could not find expected ':'" s.cursor.mark

/-- The longest a key may be. -/
def maxKeyLength : Nat := 1024

private def isStale (s : Stream) (k : PossibleKey) : Bool :=
  k.mark.line != s.cursor.mark.line || maxKeyLength < s.cursor.mark.index - k.mark.index

/-- Drops keys that can no longer be one. -/
private def dropStale (s : Stream) : Step :=
  match s.keys.find? fun (_, k) => s.isStale k && k.required with
  | some (_, k) => s.noColon k
  | none => .ok { s with keys := s.keys.filter fun (_, k) => !s.isStale k }

private def dropKey (s : Stream) : Step :=
  match s.keys.lookup s.depth with
  | none => .ok s
  | some k =>
    if k.required then s.noColon k
    else .ok { s with keys := s.keys.filter fun (d, _) => d != s.depth }

private def saveKey (s : Stream) : Step :=
  if s.keyAllowed then do
    let required := !s.inFlow && s.indent == s.column
    let number := s.taken + s.waiting.length
    let mark := s.cursor.mark
    let s ← s.dropKey
    return { s with keys := s.keys ++ [(s.depth, ⟨number, required, mark⟩)] }
  else .ok s

/-! Indentation. -/

private def unwind (column : Int) : Nat → Stream → Stream
  | 0, s => s
  | fuel + 1, s =>
    if column < s.indent then
      unwind column fuel { s.addHere .blockEnd with
        indent := s.outer.headD (-1)
        outer := s.outer.tail }
    else s

private def unwindTo (s : Stream) (column : Int) : Stream :=
  if s.inFlow then s else unwind column (s.outer.length + 1) s

/-- Starts a deeper level, if the column is deeper. -/
private def deepen? (s : Stream) (column : Int) : Option Stream :=
  if s.indent < column then some { s with outer := s.indent :: s.outer, indent := column }
  else none

/-! What a token does to the stream. -/

private def spaces : Nat → Stream → Stream
  | 0, s => s
  | fuel + 1, s =>
    let c := s.cursor.skipSpaces.skipComment
    if isBreak c.peek then
      spaces fuel { s with
        cursor := c.lineBreak.2
        keyAllowed := s.keyAllowed || !s.inFlow }
    else { s with cursor := c }

/-- To the next token, past spaces, comments and empty lines. -/
private def toNext (s : Stream) : Stream :=
  let c := if s.cursor.mark.index == 0 && s.cursor.peek == byteOrderMark
    then s.cursor.next else s.cursor
  spaces (c.rest.length + 1) { s with cursor := c }

private def closeAll (s : Stream) : Step := do
  let s ← (s.unwindTo (-1)).dropKey
  return { s with keyAllowed := false }

private def endOfStream (s : Stream) : Step := do
  let s ← s.closeAll
  return { s.addHere .streamEnd with keys := [], ended := true }

private def read (s : Stream) (reader : Cursor → Except Fault (Token × Cursor)) : Step := do
  let (t, c) ← reader s.cursor
  return { s.add t with cursor := c }

private def separator (s : Stream) (kind : TokenKind) : Step := do
  return (← s.closeAll).addNext kind 3

private def openFlow (s : Stream) (kind : TokenKind) : Step := do
  let s ← s.saveKey
  return { s with depth := s.depth + 1, keyAllowed := true }.addNext kind 1

private def closeFlow (s : Stream) (kind : TokenKind) : Step := do
  let s ← s.dropKey
  return { s with depth := s.depth - 1, keyAllowed := false }.addNext kind 1

private def flowItem (s : Stream) : Step := do
  let s ← { s with keyAllowed := true }.dropKey
  return s.addNext .flowItem 1

private def notAllowed {α : Type} (s : Stream) (what : String) : Except Fault α :=
  faultAt (what ++ " are not allowed here") s.cursor.mark

private def startBlock (s : Stream) (kind : TokenKind) : Stream :=
  match s.deepen? s.column with
  | some deeper => deeper.addHere kind
  | none => s

private def blockItem (s : Stream) : Step := do
  let s ← if s.inFlow then pure s
    else if s.keyAllowed then pure (s.startBlock .blockSequenceStart)
    else s.notAllowed "sequence entries"
  let s ← { s with keyAllowed := true }.dropKey
  return s.addNext .blockItem 1

private def explicitKey (s : Stream) : Step := do
  let s ← if s.inFlow then pure s
    else if s.keyAllowed then pure (s.startBlock .blockMappingStart)
    else s.notAllowed "mapping keys"
  let s ← { s with keyAllowed := !s.inFlow }.dropKey
  return s.addNext .key 1

private def insertAt (ts : List Token) (n : Nat) (t : Token) : List Token :=
  ts.take n ++ t :: ts.drop n

/-- A colon behind a key: the key is announced before the tokens it consists of. -/
private def valueOfKey (s : Stream) (k : PossibleKey) : Stream :=
  let place := k.number - s.taken
  let s := { s with
    keys := s.keys.filter fun (d, _) => d != s.depth
    waiting := insertAt s.waiting place ⟨.key, k.mark, k.mark⟩
    keyAllowed := false }
  match if s.inFlow then none else s.deepen? k.mark.column with
  | some deeper =>
    { deeper with
      waiting := insertAt deeper.waiting place ⟨.blockMappingStart, k.mark, k.mark⟩ }
  | none => s

private def value (s : Stream) : Step := do
  let s ← match s.keys.lookup s.depth with
    | some k => pure (s.valueOfKey k)
    | none =>
      let s ← if s.inFlow then pure s
        else if s.keyAllowed then pure (s.startBlock .blockMappingStart)
        else s.notAllowed "mapping values"
      { s with keyAllowed := !s.inFlow }.dropKey
  return s.addNext .value 1

private def named (s : Stream) (reader : Cursor → Except Fault (Token × Cursor)) : Step := do
  let s ← s.saveKey
  { s with keyAllowed := false }.read reader

private def block (s : Stream) (folded : Bool) : Step := do
  let s ← { s with keyAllowed := true }.dropKey
  s.read (blockScalar folded s.indent)

private def plain (s : Stream) : Step := do
  let s ← s.saveKey
  let (t, crossed, c) := plainScalar s.inFlow s.indent s.cursor
  return { s.add t with cursor := c, keyAllowed := crossed }

private def indicators : List Char := "-?:,[]\x7b\x7d#&*!|>'\"%@\x60".toList

private def startsPlain (s : Stream) : Bool :=
  let x := s.cursor.peek
  !(isGap x || indicators.contains x) ||
    (!isGap (s.cursor.peekAt 1) && (x == '-' || (!s.inFlow && (x == '?' || x == ':'))))

/-- Reads what comes next. -/
private def fetch (s : Stream) : Step := do
  let s ← s.toNext.dropStale
  let s := s.unwindTo s.column
  let c := s.cursor
  let x := c.peek
  let gapBehind := isGap (c.peekAt 1)
  if atEnd x then s.endOfStream
  else if x == '%' && c.column == 0 then (← s.closeAll).read directive
  else if x == '-' && c.column == 0 && c.atSeparator then s.separator .documentStart
  else if x == '.' && c.column == 0 && c.atSeparator then s.separator .documentEnd
  else if x == '[' then s.openFlow .flowSequenceStart
  else if x == '\x7b' then s.openFlow .flowMappingStart
  else if x == ']' then s.closeFlow .flowSequenceEnd
  else if x == '\x7d' then s.closeFlow .flowMappingEnd
  else if x == ',' then s.flowItem
  else if x == '-' && gapBehind then s.blockItem
  else if x == '?' && (s.inFlow || gapBehind) then s.explicitKey
  else if x == ':' && (s.inFlow || gapBehind) then s.value
  else if x == '*' || x == '&' then s.named anchor
  else if x == '!' then s.named tag
  else if x == '|' && !s.inFlow then s.block false
  else if x == '>' && !s.inFlow then s.block true
  else if x == '\'' then s.named (quotedScalar false)
  else if x == '"' then s.named (quotedScalar true)
  else if s.startsPlain then s.plain
  else
    .error (.marked (some ("while scanning for the next token", none))
      ("found character " ++ shownChar x ++ " that cannot start any token") c.mark)

/-- Whether the first waiting token may still become part of a key. -/
private def needsMore (s : Stream) : Except Fault (Bool × Stream) :=
  if s.ended then .ok (false, s)
  else if s.waiting.isEmpty then .ok (true, s)
  else do
    let s ← s.dropStale
    return ((s.keys.map fun (_, k) => k.number).min? == some s.taken, s)

private def fill : Nat → Stream → Step
  | 0, s => .ok s
  | fuel + 1, s => do
    let (more, s) ← s.needsMore
    if more then fill fuel (← s.fetch) else return s

/-- The next token, which stays. -/
def peek (s : Stream) : Except Fault (Token × Stream) := do
  let s ← fill (2 * s.cursor.rest.length + 4) s
  return (s.waiting.headD ⟨.streamEnd, s.cursor.mark, s.cursor.mark⟩, s)

/-- The next token, which is taken. -/
def next (s : Stream) : Except Fault (Token × Stream) := do
  let (t, s) ← s.peek
  return (t, { s with waiting := s.waiting.tail, taken := s.taken + 1 })

end Stream
end Stencil.Yaml
