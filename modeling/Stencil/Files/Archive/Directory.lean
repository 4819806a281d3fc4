import Stencil.Files.Inflate
import Stencil.Text.Codec

/-!
Reading a packed archive. Its end record tells how long the directory before it is, and a row of
the directory tells the name of a member and where its header is. Places are counted from the start
of the archive, which may have other bytes in front. The content of a member is looked at only when
it is asked for.
-/
namespace Stencil.Files.Archive
open Stencil.Text

/-- Why bytes are no archive whose members can be listed. -/
inductive Flaw where
  | notArchive
  | start
  | cut
  | row
  | extra (tag size : Nat)
  | version (tenths : Nat)
  | name (e : Utf8Error)
  | directoryStart | directorySize | memberStart | rowEnd
  deriving DecidableEq, Repr

private def hexWord (n : Nat) : String :=
  .ofList (padLeft 4 '0' (Nat.toDigits 16 n))

/-- What is said about a flaw of the archive at a path. -/
def Flaw.message (path : String) : Flaw → String
  | .notArchive => "File is not a zip file"
  | .start => "Bad offset for central directory"
  | .cut => "Truncated central directory"
  | .row => "Bad magic number for central directory"
  | .extra tag size =>
    "Corrupt extra field " ++ hexWord tag ++ " (size=" ++ ofNat size ++ ")"
  | .version tenths => "zip file version " ++ ofNat (tenths / 10) ++ "." ++ ofNat (tenths % 10)
  | .name e => e.message
  | .directoryStart => "bad central directory offset: " ++ quoted path
  | .directorySize => "bad central directory size or offset: " ++ quoted path
  | .rowEnd => "can't read Zip file: " ++ quoted path
  | .memberStart => "bad local header offset: " ++ quoted path

/-- Why a member has no content. -/
inductive ContentFlaw where
  | ended
  | header
  | cut
  | packed (f : Inflate.Flaw)
  deriving DecidableEq, Repr

/-- A row of the directory: a member's name, whether it is compressed, the length of its bytes, and
the place of its header. -/
structure Row where
  name : String
  compressed : Bool
  size : Nat
  start : Nat
  deriving DecidableEq, Repr

/-- The number in some bytes from a place on, the lowest byte first. -/
private def numberAt (content : Array UInt8) (place : Nat) : Nat → Nat
  | 0 => 0
  | width + 1 => (content.getD place 0).toNat + 256 * numberAt content (place + 1) width

private def bytesAt (content : Array UInt8) (place size : Nat) : List UInt8 :=
  (content.extract place (place + size)).toList

private def isAt (content : Array UInt8) (place : Nat) (mark : List UInt8) : Bool :=
  bytesAt content place mark.length == mark

def rowMark : List UInt8 := [0x50, 0x4B, 1, 2]
def memberMark : List UInt8 := [0x50, 0x4B, 3, 4]
def endMark : List UInt8 := [0x50, 0x4B, 5, 6]

def rowSize : Nat := 46
def headerSize : Nat := 30
def endSize : Nat := 22

/-- The longest comment that may follow the end record. -/
def maxComment : Nat := 65536

/-- The last end record, looking back over so many places. -/
private def lastEnd? (content : Array UInt8) : Nat → Nat → Option Nat
  | 0, _ => none
  | fuel + 1, place =>
    if isAt content place endMark then
      if place + endSize ≤ content.size then some place else none
    else if place == 0 then none
    else lastEnd? content fuel (place - 1)

/-- The place of the end record. -/
def endPlace? (content : Array UInt8) : Option Nat :=
  if content.size < endSize then none
  else
    let last := content.size - endSize
    if isAt content last endMark && numberAt content (last + 20) 2 == 0 then some last
    else lastEnd? content (maxComment + endSize) (content.size - 1)

/-- The letters of the bytes from 128 on, in names that are not marked as Unicode. -/
private def oldLetters : List Char :=
  ("ÇüéâäàåçêëèïîìÄÅÉæÆôöòûùÿÖÜ¢£¥₧ƒáíóúñÑªº¿⌐¬½¼¡«»░▒▓│┤╡╢╖╕╣║╗╝╜╛┐└┴┬├─┼╞╟╚╔╩╦╠═╬╧╨╤╥╙╘╒╓╫╪┘┌" ++
    "█▄▌▐▀αßΓπΣσµτΦΘΩδ∞φε∩≡±≥≤⌠⌡÷≈°∙·√ⁿ²■\u00a0").toList

private def nameOf (unicode : Bool) (content : List UInt8) : Except Flaw String :=
  if unicode then (decodeUtf8 content).mapError .name
  else .ok (.ofList (content.map fun b =>
    if b < 128 then Char.ofNat b.toNat else (oldLetters[b.toNat - 128]?).getD '?'))

/-- The newest form of members that can be read. -/
def maxVersion : Nat := 63

private def checkExtra (content : Array UInt8) (stop : Nat) : Nat → Nat → Except Flaw PUnit
  | 0, _ => .ok ()
  | fuel + 1, place =>
    if stop < place + 4 then .ok ()
    else
      let tag := numberAt content place 2
      let size := numberAt content (place + 2) 2
      if stop < place + 4 + size then .error (.extra tag size)
      else checkExtra content stop fuel (place + 4 + size)

/-- The rows from a place on. -/
private def rowsUntil (content : Array UInt8) (stop : Nat) : Nat → Nat → Except Flaw (List Row)
  | 0, _ => .ok []
  | fuel + 1, place => do
    if stop ≤ place then return []
    if stop < place + rowSize then throw .cut
    if !isAt content place rowMark then throw .row
    let nameSize := numberAt content (place + 28) 2
    let extraSize := numberAt content (place + 30) 2
    let next := place + rowSize + nameSize + extraSize + numberAt content (place + 32) 2
    let isUnicode := (numberAt content (place + 8) 2).testBit 11
    let nameStart := place + rowSize
    let name ← nameOf isUnicode (bytesAt content nameStart (min nameSize (stop - nameStart)))
    let version := numberAt content (place + 6) 1
    if version > maxVersion then throw (.version version)
    let extraStart := min stop (nameStart + nameSize)
    checkExtra content (min stop (extraStart + extraSize)) extraSize extraStart
    if content.size < next then throw .rowEnd
    let row : Row :=
      ⟨name, numberAt content (place + 10) 2 != 0, numberAt content (place + 20) 4,
        numberAt content (place + 42) 4⟩
    return row :: (← rowsUntil content stop fuel next)

/-- The members of an archive, in the order of the directory. -/
def rows (content : Array UInt8) : Except Flaw (List Row) := do
  match endPlace? content with
  | none => throw .notArchive
  | some last =>
    let size := numberAt content (last + 12) 4
    let start := numberAt content (last + 16) 4
    if last < size then throw .start
    let rows ← rowsUntil content last (size + 1) (last - size)
    if last < start then throw .directoryStart
    if last < size + start then throw .directorySize
    if rows.any fun r => start < r.start then throw .memberStart
    return rows.map fun r => { r with start := r.start + (last - size - start) }

/-- The content of a member. -/
def Row.content (r : Row) (archive : Array UInt8) : Except ContentFlaw (List UInt8) := do
  if archive.size < r.start + headerSize then throw .ended
  if !isAt archive r.start memberMark then throw .header
  let start := r.start + headerSize + numberAt archive (r.start + 26) 2 +
    numberAt archive (r.start + 28) 2
  let content := bytesAt archive start r.size
  if content.length < r.size then throw .cut
  if r.compressed then (Inflate.decode content).mapError .packed else return content

end Stencil.Files.Archive
