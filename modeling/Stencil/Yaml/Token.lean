import Stencil.Text.Words

/-!
Places in a document and a cursor that walks over it. The end of the document reads as a zero
character, which no document holds.
-/
namespace Stencil.Yaml
open Stencil.Text

/-- A place: how many characters stand before it, its line and its column, all from zero. -/
structure Mark where
  index : Nat
  line : Nat
  column : Nat
  deriving DecidableEq, Repr, Inhabited

/-- Characters that end a line. -/
def isBreak (c : Char) : Bool :=
  c == '\n' || c == '\x85' || c == '\u2028' || c == '\u2029'

def atEnd (c : Char) : Bool := c == '\x00'
def isBreakOrEnd (c : Char) : Bool := isBreak c || atEnd c
def isSpace (c : Char) : Bool := c == ' ' || c == '\t'

/-- What stands behind an indicator: a space, a line end or the end. -/
def isGap (c : Char) : Bool := isSpace c || isBreakOrEnd c

/-- As a gap, but no tab. -/
def isSpaceOrEnd (c : Char) : Bool := c == ' ' || isBreakOrEnd c

def byteOrderMark : Char := '\uFEFF'

/-- The place behind a character. -/
def Mark.after (m : Mark) (c : Char) : Mark :=
  if isBreak c then ⟨m.index + 1, m.line + 1, 0⟩
  else if c == byteOrderMark then ⟨m.index + 1, m.line, m.column⟩
  else ⟨m.index + 1, m.line, m.column + 1⟩

structure Cursor where
  rest : List Char
  mark : Mark := default
  deriving Repr

namespace Cursor

def column (c : Cursor) : Nat := c.mark.column

def peek (c : Cursor) : Char := c.rest.headD '\x00'

def peekAt (c : Cursor) (n : Nat) : Char := (c.rest.drop n).headD '\x00'

def next (c : Cursor) : Cursor :=
  match c.rest with
  | [] => c
  | x :: rest => ⟨rest, c.mark.after x⟩

def skip (c : Cursor) : Nat → Cursor
  | 0 => c
  | n + 1 => c.next.skip n

/-- The characters of a class from here on, and the cursor behind them. -/
def span (c : Cursor) (p : Char → Bool) : List Char × Cursor :=
  let taken := c.rest.takeWhile p
  (taken, c.skip taken.length)

def skipWhile (c : Cursor) (p : Char → Bool) : Cursor := (c.span p).2

def skipSpaces (c : Cursor) : Cursor := c.skipWhile (· == ' ')

/-- Behind a comment, if one starts here. -/
def skipComment (c : Cursor) : Cursor :=
  if c.peek == '#' then c.skipWhile (fun x => !isBreakOrEnd x) else c

/-- Takes a line end. It counts as a line feed, unless it is a separator of its own kind. -/
def lineBreak (c : Cursor) : List Char × Cursor :=
  let x := c.peek
  if x == '\n' || x == '\x85' then (['\n'], c.next)
  else if isBreak x then ([x], c.next)
  else ([], c)

/-- Whether three equal characters that separate documents stand here. -/
def atSeparator (c : Cursor) : Bool :=
  (c.rest.take 3 == ['-', '-', '-'] || c.rest.take 3 == ['.', '.', '.']) && isGap (c.peekAt 3)

end Cursor
/-!
What can be wrong with a document. Most faults name a problem and its place, many also what was
being read and where that began; a place shows the line it is on.
-/

/-- Why a scalar with a tag of its own cannot be made; these faults carry no place. -/
inductive ScalarFault where
  | value (message : String)
  | noEntry (key : String)
  | empty
  | noMatch
  deriving DecidableEq, Repr

def ScalarFault.message : ScalarFault → String
  | value message => message
  | noEntry key => quoted key
  | empty => "string index out of range"
  | noMatch => "'NoneType' object has no attribute 'groupdict'"

inductive Fault where
  | marked (context : Option (String × Option Mark)) (problem : String) (place : Mark)
  | character (c : Char) (position : Nat)
  | scalar (fault : ScalarFault)
  deriving DecidableEq, Repr

/-- A problem at a place. -/
def faultAt {α : Type} (problem : String) (place : Mark) : Except Fault α :=
  .error (.marked none problem place)

/-- A problem at a place, while something that began elsewhere is read. -/
def faultIn {α : Type} (context : String) (start : Mark) (problem : String) (place : Mark) :
    Except Fault α :=
  .error (.marked (some (context, some start)) problem place)

def shownChar (c : Char) : String := quoted (.singleton c)

/-- How far a shown line reaches to either side of the place. -/
private def reach : Nat := 36

private def inLine (c : Char) : Bool := !isBreakOrEnd c

/-- The line around a place, cut short on long lines, and a caret below the place. -/
def snippet (text : List Char) (m : Mark) : String :=
  let before := ((text.take m.index).reverse.takeWhile inLine)
  let after := (text.drop m.index).takeWhile inLine
  let (head, before) := if reach < before.length
    then (" ... ", before.take (reach - 4)) else ("", before)
  let (tail, after) := if reach < after.length
    then (" ... ", after.take (reach - 4)) else ("", after)
  let indent := "    "
  indent ++ head ++ .ofList before.reverse ++ .ofList after ++ tail ++ "\n" ++
    .ofList (List.replicate (4 + before.length + head.length) ' ') ++ "^"

private def placeText (text : List Char) (m : Mark) : String :=
  "  in \"<unicode string>\", line " ++ ofNat (m.line + 1) ++ ", column " ++
    ofNat (m.column + 1) ++ ":\n" ++ snippet text m

/-- The message of a fault in a text. -/
def Fault.message (text : List Char) : Fault → String
  | .marked context problem place =>
    let start := match context with
      | none => []
      | some (what, none) => [what]
      | some (what, some start) =>
        if start.line == place.line && start.column == place.column then [what]
        else [what, placeText text start]
    joinWith "\n" (start ++ [problem, placeText text place])
  | .character c position =>
    "unacceptable character #x" ++ .ofList (digitsBase 16 4 c.toNat) ++
      ": special characters are not allowed\n  in \"<unicode string>\", position " ++
      ofNat position
  | .scalar fault => fault.message

/-- Characters a document may hold. -/
def isAllowed (c : Char) : Bool :=
  let n := c.toNat
  n == 9 || n == 10 || n == 13 || (0x20 ≤ n && n ≤ 0x7E) || n == 0x85 ||
    (0xA0 ≤ n && n ≤ 0xD7FF) || (0xE000 ≤ n && n ≤ 0xFFFD) || 0x10000 ≤ n

/-!
The tokens of a document, with the places where they begin and end.
-/

inductive Directive where
  | version (major minor : Nat)
  | tag (handle start : String)
  | other (name : String)
  deriving DecidableEq, Repr

inductive TokenKind where
  | streamStart | streamEnd
  | directive (d : Directive)
  | documentStart | documentEnd
  | blockSequenceStart | blockMappingStart | blockEnd
  | flowSequenceStart | flowSequenceEnd | flowMappingStart | flowMappingEnd
  | key | value | blockItem | flowItem
  | reference (name : String)
  | anchor (name : String)
  | tag (handle : Option String) (suffix : String)
  | scalar (text : String) (plain : Bool)
  deriving DecidableEq, Repr

/-- What a token is called in complaints. -/
def TokenKind.id : TokenKind → String
  | streamStart => "<stream start>"
  | streamEnd => "<stream end>"
  | directive _ => "<directive>"
  | documentStart => "<document start>"
  | documentEnd => "<document end>"
  | blockSequenceStart => "<block sequence start>"
  | blockMappingStart => "<block mapping start>"
  | blockEnd => "<block end>"
  | flowSequenceStart => "["
  | flowSequenceEnd => "]"
  | flowMappingStart => "\x7b"
  | flowMappingEnd => "\x7d"
  | key => "?"
  | value => ":"
  | blockItem => "-"
  | flowItem => ","
  | reference _ => "<alias>"
  | anchor _ => "<anchor>"
  | tag .. => "<tag>"
  | scalar .. => "<scalar>"

def TokenKind.shown (k : TokenKind) : String := Text.quoted k.id

structure Token where
  kind : TokenKind
  start : Mark
  stop : Mark
  deriving DecidableEq, Repr

end Stencil.Yaml
