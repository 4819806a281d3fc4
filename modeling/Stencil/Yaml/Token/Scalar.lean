import Stencil.Text.Escape
import Stencil.Yaml.Token

/-!
Scalars as they are written: plain, in quotes of either kind, and as blocks of lines. Line ends
inside fold into spaces, except where lines are kept.
-/
namespace Stencil.Yaml
open Stencil.Text

/-! Quoted scalars. -/

private def escapes : List (Char × Char) :=
  [('0', '\x00'), ('a', '\x07'), ('b', '\x08'), ('t', '\t'), ('\t', '\t'), ('n', '\n'),
   ('v', '\x0b'), ('f', '\x0c'), ('r', '\r'), ('e', '\x1b'), (' ', ' '), ('"', '"'),
   ('\\', '\\'), ('/', '/'), ('N', '\x85'), ('_', '\xa0'), ('L', '\u2028'), ('P', '\u2029')]

private def escapeWidth? (c : Char) : Option Nat :=
  match c with
  | 'x' => some 2
  | 'u' => some 4
  | 'U' => some 8
  | _ => none

private def inQuoted : String := "while scanning a quoted scalar"
private def inDoubleQuoted : String := "while scanning a double-quoted scalar"

/-- Line ends and the spaces around them; a separator of documents is refused. -/
private def quotedBreaks (start : Mark) : Nat → List Char → Cursor →
    Except Fault (List Char × Cursor)
  | 0, kept, c => .ok (kept, c)
  | fuel + 1, kept, c =>
    if c.atSeparator then faultIn inQuoted start "found unexpected document separator" c.mark
    else
      let c := c.skipWhile isSpace
      if isBreak c.peek then
        let (ends, c) := c.lineBreak
        quotedBreaks start fuel (kept ++ ends) c
      else .ok (kept, c)

private def breaksFrom (start : Mark) (c : Cursor) : Except Fault (List Char × Cursor) :=
  quotedBreaks start (c.rest.length + 1) [] c

private def coded (start : Mark) (width : Nat) (c : Cursor) : Except Fault (List Char × Cursor) :=
  match takeHex? width c.rest with
  | some (n, _) =>
    if 0x10FFFF < n then .error (.scalar (.value "chr() arg not in range(0x110000)"))
    else
      let shown := if h : n.isValidChar then Char.ofNatAux n h else '\uFFFD'
      .ok ([shown], c.skip width)
  | none =>
    let good := (c.rest.takeWhile fun x => (hexValue? x).isSome).length
    faultIn inDoubleQuoted start ("expected escape sequence of " ++ ofNat width ++
      " hexadecimal numbers, but found " ++ shownChar (c.peekAt good)) c.mark

/-- What an escape stands for; the cursor is behind the backslash. -/
private def escapeAt (start : Mark) (c : Cursor) : Except Fault (List Char × Cursor) :=
  let x := c.peek
  match escapes.lookup x with
  | some y => .ok ([y], c.next)
  | none =>
    match escapeWidth? x with
    | some width => coded start width c.next
    | none =>
      if isBreak x then breaksFrom start c.lineBreak.2
      else faultIn inDoubleQuoted start ("found unknown escape character " ++ shownChar x) c.mark

/-- Characters up to a space, a line end or the closing quote. -/
private def quotedRun (double : Bool) (start : Mark) : Nat → List Char → Cursor →
    Except Fault (List Char × Cursor)
  | 0, back, c => .ok (back.reverse, c)
  | fuel + 1, back, c =>
    let x := c.peek
    let plain := quotedRun double start fuel (x :: back) c.next
    if isGap x then .ok (back.reverse, c)
    else if x == '\'' then
      if double then plain
      else if c.peekAt 1 == '\'' then quotedRun double start fuel ('\'' :: back) (c.skip 2)
      else .ok (back.reverse, c)
    else if x == '"' then
      if double then .ok (back.reverse, c) else plain
    else if x == '\\' && double then
      match escapeAt start c.next with
      | .ok (text, c) => quotedRun double start fuel (text.reverse ++ back) c
      | .error e => .error e
    else plain

/-- Spaces and line ends inside quotes: one line end is a space, more are kept. -/
private def quotedSpaces (start : Mark) (c : Cursor) : Except Fault (List Char × Cursor) := do
  let (spaces, c) := c.span isSpace
  if atEnd c.peek then faultIn inQuoted start "found unexpected end of stream" c.mark
  else if isBreak c.peek then
    let (ends, c) := c.lineBreak
    let (kept, c) ← breaksFrom start c
    return ((if ends != ['\n'] then ends else if kept.isEmpty then [' '] else []) ++ kept, c)
  else return (spaces, c)

private def quotedParts (double : Bool) (start : Mark) : Nat → List Char → Cursor →
    Except Fault (List Char × Cursor)
  | 0, text, c => .ok (text, c)
  | fuel + 1, text, c =>
    if c.peek == (if double then '"' else '\'') then .ok (text, c.next)
    else do
      let (spaces, c) ← quotedSpaces start c
      let (more, c) ← quotedRun double start (c.rest.length + 1) [] c
      quotedParts double start fuel (text ++ spaces ++ more) c

def quotedScalar (double : Bool) (c : Cursor) : Except Fault (Token × Cursor) := do
  let start := c.mark
  let c := c.next
  let (text, c) ← quotedRun double start (c.rest.length + 1) [] c
  let (text, c) ← quotedParts double start (c.rest.length + 2) text c
  return (⟨.scalar (.ofList text) false, start, c.mark⟩, c)

/-! Blocks of lines. -/

private def inBlock : String := "while scanning a block scalar"

/-- What becomes of the line ends behind the last line. -/
private inductive Tail where
  | clip | strip | keep
  deriving DecidableEq

private def tailOf? (c : Char) : Option Tail :=
  match c with
  | '+' => some .keep
  | '-' => some .strip
  | _ => none

private def takeTail (c : Cursor) : Tail × Cursor :=
  match tailOf? c.peek with
  | some t => (t, c.next)
  | none => (.clip, c)

private def takeIncrement (start : Mark) (c : Cursor) : Except Fault (Option Nat × Cursor) :=
  let x := c.peek
  if x == '0' then
    faultIn inBlock start "expected indentation indicator in the range 1-9, but found 0" c.mark
  else if x.isDigit then .ok (some (x.toNat - 48), c.next)
  else .ok (none, c)

private def blockHeader (start : Mark) (c : Cursor) :
    Except Fault (Tail × Option Nat × Cursor) := do
  let (tail, increment, c) ← if (tailOf? c.peek).isSome then do
      let (tail, c) := takeTail c
      let (increment, c) ← takeIncrement start c
      pure (tail, increment, c)
    else do
      let (increment, c) ← takeIncrement start c
      let (tail, c) := if increment.isSome then takeTail c else (.clip, c)
      pure (tail, increment, c)
  if !isSpaceOrEnd c.peek then
    faultIn inBlock start ("expected chomping or indentation indicators, but found " ++
      shownChar c.peek) c.mark
  else
    let c := c.skipSpaces.skipComment
    if !isBreakOrEnd c.peek then
      faultIn inBlock start ("expected a comment or a line break, but found " ++
        shownChar c.peek) c.mark
    else return (tail, increment, c.lineBreak.2)

/-- Empty lines at the start, and the deepest column that their spaces reach. -/
private def leadingLines : Nat → List Char → Nat → Cursor → List Char × Nat × Cursor
  | 0, kept, deepest, c => (kept, deepest, c)
  | fuel + 1, kept, deepest, c =>
    if c.peek == ' ' then leadingLines fuel kept (max deepest c.next.column) c.next
    else if isBreak c.peek then
      let (ends, c) := c.lineBreak
      leadingLines fuel (kept ++ ends) deepest c
    else (kept, deepest, c)

private def toColumn (indent : Nat) (c : Cursor) : Cursor :=
  let spaces := (c.rest.takeWhile (· == ' ')).length
  c.skip (min spaces (indent - c.column))

/-- Empty lines, and the spaces up to the indentation of the next line. -/
private def emptyLines (indent : Nat) : Nat → List Char → Cursor → List Char × Cursor
  | 0, kept, c => (kept, c)
  | fuel + 1, kept, c =>
    let c := toColumn indent c
    if isBreak c.peek then
      let (ends, c) := c.lineBreak
      emptyLines indent fuel (kept ++ ends) c
    else (kept, c)

private def emptyLinesFrom (indent : Nat) (c : Cursor) : List Char × Cursor :=
  emptyLines indent (c.rest.length + 1) [] c

/-- The lines of a block: the text so far, the line end behind it, the empty lines behind that. -/
private def blockLines (folded : Bool) (indent : Nat) : Nat → List Char → List Char →
    List Char → Cursor → List Char × List Char × List Char × Cursor
  | 0, text, ends, kept, c => (text, ends, kept, c)
  | fuel + 1, text, ends, kept, c =>
    if c.column == indent && !atEnd c.peek then
      let indented := isSpace c.peek
      let (line, c) := c.span fun x => !isBreakOrEnd x
      let text := text ++ kept ++ line
      let (ends, c) := c.lineBreak
      let (kept, c) := emptyLinesFrom indent c
      if c.column == indent && !atEnd c.peek then
        let between :=
          if folded && ends == ['\n'] && !indented && !isSpace c.peek
          then (if kept.isEmpty then [' '] else []) else ends
        blockLines folded indent fuel (text ++ between) ends kept c
      else (text, ends, kept, c)
    else (text, ends, kept, c)

/-- A block below a column; its own column is that of its first line, or is given. -/
def blockScalar (folded : Bool) (outer : Int) (c : Cursor) : Except Fault (Token × Cursor) := do
  let start := c.mark
  let (tail, increment, c) ← blockHeader start c.next
  let least := max 1 (outer + 1).toNat
  let (indent, kept, c) := match increment with
    | none =>
      let (kept, deepest, c) := leadingLines (c.rest.length + 1) [] 0 c
      (max least deepest, kept, c)
    | some n =>
      let indent := least + n - 1
      let (kept, c) := emptyLinesFrom indent c
      (indent, kept, c)
  let (text, ends, kept, c) := blockLines folded indent (c.rest.length + 1) [] [] kept c
  let text := text ++ (if tail == .strip then [] else ends) ++ (if tail == .keep then kept else [])
  return (⟨.scalar (.ofList text) false, start, c.mark⟩, c)

/-! Plain scalars. -/

private def isFlowMark (c : Char) : Bool :=
  c == ',' || c == '[' || c == ']' || c == '\x7b' || c == '\x7d'

/-- Whether a plain scalar stops at the first of these characters. -/
private def plainStops (inFlow : Bool) (x y : Char) : Bool :=
  isGap x || (x == ':' && (isGap y || (inFlow && isFlowMark y))) ||
    (inFlow && (isFlowMark x || x == '?'))

private def plainRun (inFlow : Bool) : List Char → List Char
  | [] => []
  | x :: rest =>
    if plainStops inFlow x (rest.headD '\x00') then [] else x :: plainRun inFlow rest

/-- Spaces and line ends between the words of a plain scalar; nothing where it cannot go on. -/
private structure PlainSpace where
  text : List Char
  crossed : Bool
  cursor : Cursor

private def plainBreaks : Nat → List Char → Cursor → Option (List Char) × Cursor
  | 0, kept, c => (some kept, c)
  | fuel + 1, kept, c =>
    if c.peek == ' ' then plainBreaks fuel kept c.next
    else if isBreak c.peek then
      let (ends, c) := c.lineBreak
      if c.atSeparator then (none, c) else plainBreaks fuel (kept ++ ends) c
    else (some kept, c)

private def plainSpaces (c : Cursor) : PlainSpace :=
  let (spaces, c) := c.span (· == ' ')
  if isBreak c.peek then
    let (ends, c) := c.lineBreak
    if c.atSeparator then ⟨[], true, c⟩
    else
      match plainBreaks (c.rest.length + 1) [] c with
      | (none, c) => ⟨[], true, c⟩
      | (some kept, c) =>
        let folded := if ends != ['\n'] then ends else if kept.isEmpty then [' '] else []
        ⟨folded ++ kept, true, c⟩
  else ⟨spaces, false, c⟩

/-- A plain scalar as far as it is read. -/
private structure PlainRead where
  text : List Char := []
  spaces : List Char := []
  crossed : Bool := false
  stop : Mark

private def plainParts (inFlow : Bool) (indent : Int) : Nat → PlainRead → Cursor →
    PlainRead × Cursor
  | 0, r, c => (r, c)
  | fuel + 1, r, c =>
    let run := if c.peek == '#' then [] else plainRun inFlow c.rest
    if run.isEmpty then (r, c)
    else
      let c := c.skip run.length
      let s := plainSpaces c
      let r := ⟨r.text ++ r.spaces ++ run, s.text, s.crossed, c.mark⟩
      if s.text.isEmpty || s.cursor.peek == '#' || (!inFlow && s.cursor.column < indent) then
        (r, s.cursor)
      else plainParts inFlow indent fuel r s.cursor

/-- A plain scalar, and whether it ran over a line end. -/
def plainScalar (inFlow : Bool) (outer : Int) (c : Cursor) : Token × Bool × Cursor :=
  let start := c.mark
  let (r, c) := plainParts inFlow (outer + 1) (c.rest.length + 1) { stop := start } c
  (⟨.scalar (.ofList r.text) true, start, r.stop⟩, r.crossed, c)

end Stencil.Yaml
