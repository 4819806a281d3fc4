import Stencil.Text.Classes

/-!
Cutting and joining texts: trimming, words, lines, replacement, padding. Everything works on
lists of characters, so a count is a count of code points.
-/
namespace Stencil.Text

def trimLeftBy (p : Char → Bool) (cs : List Char) : List Char := cs.dropWhile p

def trimRightBy (p : Char → Bool) (cs : List Char) : List Char :=
  (cs.reverse.dropWhile p).reverse

def trimBy (p : Char → Bool) (cs : List Char) : List Char := trimRightBy p (trimLeftBy p cs)

/-- Without the white space at both ends. -/
def trim (s : String) : String := .ofList (trimBy isBlank s.toList)

def startsWith (cs pre : List Char) : Bool := pre.isPrefixOf cs
def endsWith (cs post : List Char) : Bool := post.isSuffixOf cs

/-- What follows a beginning, if the text has it. -/
def dropStart? : List Char → List Char → Option (List Char)
  | cs, [] => some cs
  | [], _ :: _ => none
  | c :: cs, p :: ps => if c == p then dropStart? cs ps else none

private def addToHead (c : Char) : List (List Char) → List (List Char)
  | [] => [[c]]
  | w :: ws => (c :: w) :: ws

/-- The pieces between single separator characters; one more piece than separators. -/
def splitOnChar (sep : Char) : List Char → List (List Char)
  | [] => [[]]
  | c :: rest => if c == sep then [] :: splitOnChar sep rest else addToHead c (splitOnChar sep rest)

/-- The maximal runs of characters outside a class. -/
def runsOutside (sep : Char → Bool) : List Char → List (List Char)
  | [] => []
  | c :: rest =>
    if sep c then runsOutside sep rest
    else match rest with
      | [] => [[c]]
      | d :: _ => if sep d then [c] :: runsOutside sep rest else addToHead c (runsOutside sep rest)

/-- Puts one mark in the place of each maximal run of characters of a class. -/
def markRuns (sep : Char → Bool) (mark : Char) : List Char → List Char
  | [] => []
  | c :: rest =>
    if sep c then
      match rest with
      | [] => [mark]
      | d :: _ => if sep d then markRuns sep mark rest else mark :: markRuns sep mark rest
    else c :: markRuns sep mark rest

/-- The words of a text, white space between them. -/
def words (s : String) : List String := (runsOutside isBlank s.toList).map .ofList

/-- The text before the first occurrence of a pattern and the text after it. -/
def cutAt? (pat : List Char) : List Char → Option (List Char × List Char)
  | [] => if pat.isEmpty then some ([], []) else none
  | c :: rest =>
    match dropStart? (c :: rest) pat with
    | some after => some ([], after)
    | none => (cutAt? pat rest).map fun (before, after) => (c :: before, after)

private def splitLoop (pat : List Char) : Nat → Option Nat → List Char → List (List Char)
  | 0, _, cs => [cs]
  | _, some 0, cs => [cs]
  | fuel + 1, limit, cs =>
    match cutAt? pat cs with
    | none => [cs]
    | some (before, after) => before :: splitLoop pat fuel (limit.map (· - 1)) after

/-- The pieces between occurrences of a non-empty pattern, at most `limit` cuts. -/
def splitOn (cs pat : List Char) (limit : Option Nat) : List (List Char) :=
  splitLoop pat (cs.length + 1) limit cs

/-- The pieces between occurrences of a non-empty pattern, cut from the right. -/
def splitOnRight (cs pat : List Char) (limit : Option Nat) : List (List Char) :=
  ((splitLoop pat.reverse (cs.length + 1) limit cs.reverse).map List.reverse).reverse

/-- Replaces occurrences from the left, at most `limit` of them. An empty pattern stands between
all characters and at both ends. -/
def replace (cs pat new : List Char) (limit : Option Nat) : List Char :=
  if pat.isEmpty then
    match limit with
    | none => new ++ cs.flatMap fun c => c :: new
    | some 0 => cs
    | some (n + 1) => new ++ ((cs.take n).flatMap fun c => c :: new) ++ cs.drop n
  else new.intercalate (splitOn cs pat limit)

def replaceAll (s pat new : String) : String :=
  .ofList (replace s.toList pat.toList new.toList none)

/-- How often a pattern occurs without overlap. -/
def countOf (cs pat : List Char) : Nat :=
  if pat.isEmpty then cs.length + 1 else (splitOn cs pat none).length - 1

/-- Where a pattern first occurs. -/
def indexOf? (cs pat : List Char) : Option Nat :=
  (cutAt? pat cs).map fun (before, _) => before.length

/-- Where a pattern last occurs. -/
def lastIndexOf? (cs pat : List Char) : Option Nat :=
  (cutAt? pat.reverse cs.reverse).map fun (_, before) => before.length

/-- Characters that end a line. -/
def isLineEnd (c : Char) : Bool :=
  let n := c.toNat
  (10 ≤ n && n ≤ 13) || (28 ≤ n && n ≤ 30) || n == 0x85 || n == 0x2028 || n == 0x2029

def linesFrom (keepEnds : Bool) (line : List Char) : List Char → List (List Char)
  | [] => if line.isEmpty then [] else [line.reverse]
  | '\r' :: '\n' :: rest =>
    (if keepEnds then line.reverse ++ ['\r', '\n'] else line.reverse) ::
      linesFrom keepEnds [] rest
  | c :: rest =>
    if isLineEnd c then
      (if keepEnds then (c :: line).reverse else line.reverse) :: linesFrom keepEnds [] rest
    else linesFrom keepEnds (c :: line) rest

/-- The lines of a text; a line end at the very end starts no further line. -/
def lines (keepEnds : Bool) (cs : List Char) : List (List Char) := linesFrom keepEnds [] cs

/-- Every line end of the three common kinds becomes a line feed. -/
def universalNewlines : List Char → List Char
  | [] => []
  | '\r' :: '\n' :: rest => '\n' :: universalNewlines rest
  | '\r' :: rest => '\n' :: universalNewlines rest
  | c :: rest => c :: universalNewlines rest

def padLeft (width : Nat) (fill : Char) (cs : List Char) : List Char :=
  List.replicate (width - cs.length) fill ++ cs

def padRight (width : Nat) (fill : Char) (cs : List Char) : List Char :=
  cs ++ List.replicate (width - cs.length) fill

/-- Centred; the odd blank goes to the left when the width is odd, else to the right. -/
def centre (width : Nat) (fill : Char) (cs : List Char) : List Char :=
  let pad := width - cs.length
  let left := pad / 2 + (if pad % 2 == 1 && width % 2 == 1 then 1 else 0)
  if cs.length ≥ width then cs
  else List.replicate left fill ++ cs ++ List.replicate (pad - left) fill

def joinWith (sep : String) (parts : List String) : String := sep.intercalate parts

/-- Decimal digits of a number. -/
def natDigits (n : Nat) : List Char := Nat.toDigits 10 n

def intDigits (n : Int) : List Char :=
  if n < 0 then '-' :: natDigits n.natAbs else natDigits n.natAbs

def ofInt (n : Int) : String := .ofList (intDigits n)
def ofNat (n : Nat) : String := .ofList (natDigits n)

/-- Digits in a base, at least `width` of them. -/
def digitsBase (base width n : Nat) : List Char := padLeft width '0' (Nat.toDigits base n)

/-!
Quoted texts as they appear in messages and listings: single quotes, or double quotes when the
text holds a single quote and no double one; a backslash before the quote, the backslash and
what has no visible form.
-/

/-- Single quotes unless only they occur inside. -/
def quoteFor (cs : List Char) : Char :=
  if cs.contains '\'' && !cs.contains '"' then '"' else '\''

/-- A character by its number, as escapes in texts write it. -/
def numberEscape (c : Char) : List Char :=
  let n := c.toNat
  if n < 0x100 then '\\' :: 'x' :: digitsBase 16 2 n
  else if n < 0x10000 then '\\' :: 'u' :: digitsBase 16 4 n
  else '\\' :: 'U' :: digitsBase 16 8 n

private def escaped (quote c : Char) : List Char :=
  if c == quote || c == '\\' then ['\\', c]
  else if c == '\n' then ['\\', 'n']
  else if c == '\r' then ['\\', 'r']
  else if c == '\t' then ['\\', 't']
  else if isPrintable c then [c]
  else numberEscape c

/-- A text in which all but ASCII is written by number. -/
def withNumberEscapes (cs : List Char) : List Char :=
  cs.flatMap fun c => if c.toNat < 128 then [c] else numberEscape c

def quotedWith (quote : Char) (cs : List Char) : List Char :=
  quote :: cs.flatMap (escaped quote) ++ [quote]

def quotedChars (cs : List Char) : List Char := quotedWith (quoteFor cs) cs

def quoted (s : String) : String := .ofList (quotedChars s.toList)

private def escapedByte (quote : Char) (b : UInt8) : List Char :=
  let n := b.toNat
  let c := Char.ofNat n
  if c == quote || c == '\\' then ['\\', c]
  else if c == '\n' then ['\\', 'n']
  else if c == '\r' then ['\\', 'r']
  else if c == '\t' then ['\\', 't']
  else if 32 ≤ n && n < 127 then [c]
  else '\\' :: 'x' :: digitsBase 16 2 n

/-- Quoted bytes: as a text of the same values, behind the letter b. -/
def quotedBytes (bytes : List UInt8) : String :=
  let quote := quoteFor (bytes.map fun b => Char.ofNat b.toNat)
  .ofList ('b' :: quote :: bytes.flatMap (escapedByte quote) ++ [quote])

end Stencil.Text

/-!
Filling lines: a text is cut into chunks, which are words, white space and the parts of hyphened
words, and chunks are put on a line as long as they fit. White space at a line break is dropped.
-/
namespace Stencil.Text

/-- How lines are filled. -/
structure WrapStyle where
  width : Nat
  breakLongWords : Bool := true
  breakOnHyphens : Bool := true

private def isGap (c : Char) : Bool :=
  c == ' ' || c == '\t' || c == '\n' || c == '\r' || c == '\x0b' || c == '\x0c'

private def isWrapLetter (c : Char) : Bool := isWordChar c && !isDecimal c

private def isWordPunct (c : Char) : Bool := isWordChar c || "!\"'&.,?".toList.contains c

private def startsWithLetters : List Char → Bool
  | a :: '-' :: b :: _ => isWrapLetter a && isWrapLetter b
  | a :: b :: _ => isWrapLetter a && isWrapLetter b
  | _ => false

/-- A dash of two or more hyphens before a word. -/
private def dashLength? (cs : List Char) : Option Nat :=
  let n := (cs.takeWhile (· == '-')).length
  match cs.drop n with
  | c :: _ => if n ≥ 2 && isWordChar c then some n else none
  | [] => none

/-- Whether a word may end behind a hyphen, given what stands before it and after it. -/
private def mayEndAtHyphen (before after : List Char) : Bool :=
  startsWithLetters after && (match before with
    | a :: b :: more =>
      (isWrapLetter a && isWrapLetter b) ||
        (isWordPunct a && b == '-' && (match more with
          | c :: _ => isWrapLetter c
          | [] => false))
    | _ => false)

/-- The length of the word that goes on here; `before` is what stands before, nearest first. -/
private def wordLength (before : List Char) : List Char → Nat
  | [] => 0
  | c :: rest =>
    if isGap c then 0
    else if c == '-' && mayEndAtHyphen before rest then 1
    else match before with
      | b :: _ =>
        if isWordPunct b && (dashLength? (c :: rest)).isSome then 0
        else 1 + wordLength (c :: before) rest
      | [] => 1 + wordLength (c :: before) rest

private def chunkLength (before cs : List Char) : Nat :=
  match cs with
  | [] => 0
  | c :: rest =>
    if isGap c then (cs.takeWhile isGap).length
    else
      let dash := match before with
        | b :: _ => if isWordPunct b then dashLength? cs else none
        | [] => none
      match dash with
      | some n => n
      | none => 1 + wordLength (c :: before) rest

private def chunksFrom (before : List Char) : Nat → List Char → List (List Char)
  | 0, _ => []
  | _, [] => []
  | fuel + 1, cs =>
    let n := max 1 (chunkLength before cs)
    cs.take n :: chunksFrom ((cs.take n).reverse ++ before) fuel (cs.drop n)

private def simpleChunks : Nat → List Char → List (List Char)
  | 0, _ => []
  | _, [] => []
  | fuel + 1, c :: rest =>
    let same := rest.takeWhile fun d => isGap d == isGap c
    (c :: same) :: simpleChunks fuel (rest.drop same.length)

/-- The chunks of a text; together they are the text. -/
def wrapChunks (s : WrapStyle) (cs : List Char) : List (List Char) :=
  if s.breakOnHyphens then chunksFrom [] (cs.length + 1) cs else simpleChunks (cs.length + 1) cs

private def isBlankChunk (cs : List Char) : Bool := cs.all isBlank

/-- Chunks that fit on a line, and the others. -/
private def fit (room : Nat) : List (List Char) → List (List Char) × List (List Char)
  | [] => ([], [])
  | c :: rest =>
    if c.length ≤ room then
      let (line, more) := fit (room - c.length) rest
      (c :: line, more)
    else ([], c :: rest)

/-- Where a chunk that is too long is cut. -/
private def cutPlace (s : WrapStyle) (room : Nat) (chunk : List Char) : Nat :=
  if s.breakOnHyphens && chunk.length > room then
    match lastIndexOf? (chunk.take room) ['-'] with
    | some h => if h > 0 && (chunk.take h).any (· != '-') then h + 1 else room
    | none => room
  else room

private def dropLastBlank (line : List (List Char)) : List (List Char) :=
  match line.getLast? with
  | some c => if isBlankChunk c then line.dropLast else line
  | none => line

private def fillLines (s : WrapStyle) : Nat → Bool → List (List Char) → List (List Char)
  | 0, _, _ => []
  | _, _, [] => []
  | fuel + 1, first, chunks =>
    let chunks := match chunks with
      | c :: rest => if !first && isBlankChunk c then rest else c :: rest
      | [] => []
    let (line, rest) := fit s.width chunks
    let used := line.flatten.length
    let (line, rest) := match rest with
      | c :: more =>
        if c.length > s.width then
          if s.breakLongWords then
            let n := cutPlace s (s.width - used) c
            (line ++ [c.take n], c.drop n :: more)
          else if line.isEmpty then ([c], more)
          else (line, c :: more)
        else (line, c :: more)
      | [] => (line, [])
    let line := dropLastBlank line
    if line.isEmpty then fillLines s fuel first rest
    else line.flatten :: fillLines s fuel false rest

/-- The lines of a text, filled up to the width. -/
def wrap (s : WrapStyle) (cs : List Char) : List (List Char) :=
  fillLines s (2 * cs.length + 2) true (wrapChunks s cs)

end Stencil.Text
