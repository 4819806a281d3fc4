import Stencil.Text.Utf8
import Stencil.Text.Words

/-!
Bytes written in base 64. In reading, characters outside the alphabet are skipped and enough padding
ends the data.
-/
namespace Stencil.Text

private def base64Value? (c : Char) : Option Nat :=
  if c.isUpper then some (c.toNat - 65)
  else if c.isLower then some (c.toNat - 71)
  else if c.isDigit then some (c.toNat + 4)
  else if c == '+' then some 62
  else if c == '/' then some 63
  else none

/-- The state between characters: how many of a group of four are read, their bits that are not
yet written, and the padding seen. -/
private structure Base64State where
  place : Nat := 0
  bits : Nat := 0
  pads : Nat := 0
  bytes : List UInt8 := []

private def Base64State.add (s : Base64State) (v : Nat) : Base64State :=
  match s.place with
  | 0 => { s with place := 1, bits := v, pads := 0 }
  | 1 => ⟨2, v % 16, 0, s.bytes ++ [(s.bits * 4 + v / 16).toUInt8]⟩
  | 2 => ⟨3, v % 4, 0, s.bytes ++ [(s.bits * 16 + v / 4).toUInt8]⟩
  | _ => ⟨0, 0, 0, s.bytes ++ [(s.bits * 64 + v).toUInt8]⟩

private def base64Loop (s : Base64State) : List Char → Except String (List UInt8)
  | [] =>
    if s.place == 0 then .ok s.bytes
    else if s.place == 1 then
      .error ("Invalid base64-encoded string: number of data characters (" ++
        ofNat (s.bytes.length / 3 * 4 + 1) ++ ") cannot be 1 more than a multiple of 4")
    else .error "Incorrect padding"
  | c :: rest =>
    if c == '=' then
      if 2 ≤ s.place && 4 ≤ s.place + s.pads + 1 then .ok s.bytes
      else base64Loop { s with pads := if 2 ≤ s.place then s.pads + 1 else s.pads } rest
    else
      match base64Value? c with
      | some v => base64Loop (s.add v) rest
      | none => base64Loop s rest

def decodeBase64 (cs : List Char) : Except String (List UInt8) := base64Loop {} cs

private def base64Digit (n : Nat) : Char :=
  if n < 26 then Char.ofNat (n + 65)
  else if n < 52 then Char.ofNat (n + 71)
  else if n < 62 then Char.ofNat (n - 4)
  else if n == 62 then '+' else '/'

private def base64Group (n : Nat) : List Char :=
  [base64Digit (n / 262144 % 64), base64Digit (n / 4096 % 64), base64Digit (n / 64 % 64),
    base64Digit (n % 64)]

/-- Writes bytes; padding completes the last group. -/
def encodeBase64 : List UInt8 → List Char
  | a :: b :: c :: rest =>
    base64Group (a.toNat * 65536 + b.toNat * 256 + c.toNat) ++ encodeBase64 rest
  | [a, b] => (base64Group (a.toNat * 65536 + b.toNat * 256)).take 3 ++ ['=']
  | [a] => (base64Group (a.toNat * 65536)).take 2 ++ ['=', '=']
  | [] => []

end Stencil.Text

/-!
Encodings of texts as bytes. An encoding is found by any of its names; case and punctuation in a
name do not matter. What an encoding has no bytes for is a fault over the longest run of such
characters, which a handler may write in another way.
-/
namespace Stencil.Text

inductive Codec where
  | utf8
  /-- With a mark in front. -/
  | utf8Marked
  | ascii
  | latin1
  | western
  | latin9
  /-- In units of so many bytes; without an order a mark comes in front. -/
  | wide (unit : Nat) (bigFirst : Option Bool)
  deriving DecidableEq, Repr

namespace Codec

/-- A name in lower case with one underscore for each run of punctuation. -/
private def plainName (name : String) : List Char :=
  let keep (c : Char) := c.isAlphanum || c == '.'
  ['_'].intercalate (runsOutside (fun c => !keep c) (name.toList.map Char.toLower))

private def names : List (String × Codec) :=
  (words "utf_8 u8 utf utf8 utf8_ucs2 utf8_ucs4 cp65001").map (·, .utf8) ++
  (words "utf_8_sig").map (·, .utf8Marked) ++
  (words "ascii 646 ansi_x3.4_1968 ansi_x3_4_1968 ansi_x3.4_1986 cp367 csascii ibm367 iso646_us
    iso_646.irv_1991 iso_ir_6 us us_ascii").map (·, .ascii) ++
  (words "latin_1 8859 cp819 csisolatin1 ibm819 iso8859 iso8859_1 iso_8859_1 iso_8859_1_1987
    iso_ir_100 l1 latin latin1").map (·, .latin1) ++
  (words "cp1252 1252 windows_1252").map (·, .western) ++
  (words "iso8859_15 iso_8859_15 l9 latin9").map (·, .latin9) ++
  (words "utf_16 u16 utf16").map (·, .wide 2 none) ++
  (words "utf_16_le unicodelittleunmarked utf_16le").map (·, .wide 2 (some false)) ++
  (words "utf_16_be unicodebigunmarked utf_16be").map (·, .wide 2 (some true)) ++
  (words "utf_32 u32 utf32").map (·, .wide 4 none) ++
  (words "utf_32_le utf_32le").map (·, .wide 4 (some false)) ++
  (words "utf_32_be utf_32be").map (·, .wide 4 (some true))

def find? (name : String) : Option Codec := names.lookup (.ofList (plainName name))

/-- The characters from 128 to 159 of the western encoding; a replacement character is none. -/
private def westernHigh : List Char :=
  [0x20AC, 0xFFFD, 0x201A, 0x192, 0x201E, 0x2026, 0x2020, 0x2021, 0x2C6, 0x2030, 0x160, 0x2039,
    0x152, 0xFFFD, 0x17D, 0xFFFD, 0xFFFD, 0x2018, 0x2019, 0x201C, 0x201D, 0x2022, 0x2013, 0x2014,
    0x2DC, 0x2122, 0x161, 0x203A, 0x153, 0xFFFD, 0x17E, 0x178].map Char.ofNat

private def latin9Changes : List (Nat × Char) :=
  [(0xA4, 0x20AC), (0xA6, 0x160), (0xA8, 0x161), (0xB4, 0x17D), (0xB8, 0x17E), (0xBC, 0x152),
    (0xBD, 0x153), (0xBE, 0x178)].map fun (b, c) => (b, Char.ofNat c)

/-- The character of a byte in an encoding of one byte each. -/
private def charOf? (codec : Codec) (b : UInt8) : Option Char :=
  let n := b.toNat
  match codec with
  | .ascii => if n < 128 then some (Char.ofNat n) else none
  | .western =>
    if 128 ≤ n && n < 160 then (westernHigh[n - 128]?).filter (· != '\uFFFD')
    else some (Char.ofNat n)
  | .latin9 => some ((latin9Changes.lookup n).getD (Char.ofNat n))
  | _ => some (Char.ofNat n)

/-- The byte of a character in an encoding of one byte each. -/
private def byteOf? (codec : Codec) (c : Char) : Option UInt8 :=
  let plain (limit : Nat) : Option UInt8 :=
    if c.toNat < limit then some (UInt8.ofNat c.toNat) else none
  match codec with
  | .ascii => plain 128
  | .western =>
    match westernHigh.idxOf? c with
    | some i => if c == '\uFFFD' then none else some (UInt8.ofNat (128 + i))
    | none => if 128 ≤ c.toNat && c.toNat < 160 then none else plain 256
  | .latin9 =>
    match latin9Changes.find? fun e => e.2 == c with
    | some (b, _) => some (UInt8.ofNat b)
    | none => if (latin9Changes.lookup c.toNat).isSome then none else plain 256
  | _ => plain 256

/-- The name of an encoding of one byte each, and its rule, in complaints. -/
private def complaint : Codec → String × String
  | .ascii => ("ascii", "ordinal not in range(128)")
  | .latin1 => ("latin-1", "ordinal not in range(256)")
  | _ => ("charmap", "character maps to <undefined>")

/-! Writing. -/

/-- Characters that an encoding has no bytes for: where they start, and which they are. -/
structure Unwritable where
  codec : Codec
  start : Nat
  chars : List Char
  deriving DecidableEq, Repr

def Unwritable.message (u : Unwritable) : String :=
  let (name, rule) := complaint u.codec
  let place := match u.chars with
    | [c] => "character '" ++ .ofList (numberEscape c) ++ "' in position " ++ ofNat u.start
    | cs => "characters in position " ++ ofNat u.start ++ "-" ++ ofNat (u.start + cs.length - 1)
  "'" ++ name ++ "' codec can't encode " ++ place ++ ": " ++ rule

/-- What is written for characters that an encoding lacks. -/
inductive Handler where
  | strict | ignore | replace | number | escape
  deriving DecidableEq, Repr

def Handler.find? (name : String) : Option Handler :=
  match name with
  | "strict" | "surrogateescape" | "surrogatepass" => some .strict
  | "ignore" => some .ignore
  | "replace" => some .replace
  | "xmlcharrefreplace" => some .number
  | "backslashreplace" => some .escape
  | _ => none

private def substitute (h : Handler) (c : Char) : Option (List Char) :=
  match h with
  | .strict => none
  | .ignore => some []
  | .replace => some ['?']
  | .number => some ("&#".toList ++ natDigits c.toNat ++ [';'])
  | .escape => some (numberEscape c)

private def narrowFrom (codec : Codec) (handle : Char → Option (List Char)) :
    Nat → List Char → Except Unwritable (List UInt8)
  | _, [] => .ok []
  | pos, c :: rest =>
    match byteOf? codec c with
    | some b => (narrowFrom codec handle (pos + 1) rest).map (b :: ·)
    | none =>
      match handle c with
      | some cs =>
        (narrowFrom codec handle (pos + 1) rest).map
          (cs.map (fun d => UInt8.ofNat d.toNat) ++ ·)
      | none => .error ⟨codec, pos, c :: rest.takeWhile fun d => (byteOf? codec d).isNone⟩

private def unitBytes (size : Nat) (bigFirst : Bool) (n : Nat) : List UInt8 :=
  let bs := (List.range size).map fun i => UInt8.ofNat (n / Nat.pow 256 i % 256)
  if bigFirst then bs.reverse else bs

/-- The units of a character; in units of two bytes a large one takes two. -/
private def unitsOf (size : Nat) (c : Char) : List Nat :=
  let n := c.toNat
  if size == 2 && n ≥ 0x10000 then
    [0xD800 + (n - 0x10000) / 0x400, 0xDC00 + (n - 0x10000) % 0x400]
  else [n]

private def wideBytes (size : Nat) (bigFirst : Bool) (s : String) : List UInt8 :=
  s.toList.flatMap fun c => (unitsOf size c).flatMap (unitBytes size bigFirst)

/-- Writes a text; `handle` says how a character that the encoding lacks is written. -/
def encodeWith (codec : Codec) (handle : Char → Option (List Char)) (s : String) :
    Except Unwritable (List UInt8) :=
  match codec with
  | .utf8 => .ok (encodeUtf8 s)
  | .utf8Marked => .ok (0xEF :: 0xBB :: 0xBF :: encodeUtf8 s)
  | .wide size none => .ok (unitBytes size false 0xFEFF ++ wideBytes size false s)
  | .wide size (some bigFirst) => .ok (wideBytes size bigFirst s)
  | codec => narrowFrom codec handle 0 s.toList

def encode (codec : Codec) (h : Handler) (s : String) : Except Unwritable (List UInt8) :=
  codec.encodeWith (substitute h) s

/-! Reading. -/

/-- Bytes that an encoding cannot read, as complaints tell it. -/
structure Unreadable where
  message : String
  deriving DecidableEq, Repr

private def unreadableByte (name rule : String) (pos : Nat) (b : UInt8) : Unreadable :=
  ⟨"'" ++ name ++ "' codec can't decode byte 0x" ++ .ofList (digitsBase 16 2 b.toNat) ++
    " in position " ++ ofNat pos ++ ": " ++ rule⟩

private def readNarrow (codec : Codec) (h : Handler) :
    Nat → List UInt8 → Except Unreadable (List Char)
  | _, [] => .ok []
  | pos, b :: rest =>
    match charOf? codec b, h with
    | some c, _ => (readNarrow codec h (pos + 1) rest).map (c :: ·)
    | none, .ignore => readNarrow codec h (pos + 1) rest
    | none, .replace => (readNarrow codec h (pos + 1) rest).map ('\uFFFD' :: ·)
    | none, .escape =>
      (readNarrow codec h (pos + 1) rest).map ('\\' :: 'x' :: digitsBase 16 2 b.toNat ++ ·)
    | none, _ =>
      let (name, rule) := complaint codec
      .error (unreadableByte name rule pos b)

private def unitOf (bigFirst : Bool) (bs : List UInt8) : Nat :=
  (if bigFirst then bs else bs.reverse).foldl (fun n b => n * 256 + b.toNat) 0

private def wideName (size : Nat) (bigFirst : Bool) : String :=
  "utf-" ++ ofNat (8 * size) ++ (if bigFirst then "-be" else "-le")

private def readWide (size : Nat) (bigFirst : Bool) :
    Nat → Nat → List UInt8 → Except Unreadable (List Char)
  | 0, _, _ => .ok []
  | _, _, [] => .ok []
  | fuel + 1, pos, b :: rest =>
    let all := b :: rest
    if all.length < size then
      .error (unreadableByte (wideName size bigFirst) "truncated data" pos b)
    else
      let n := unitOf bigFirst (all.take size)
      let more := all.drop size
      if size == 2 && 0xD800 ≤ n && n < 0xDC00 && more.length ≥ 2 then
        let m := unitOf bigFirst (more.take 2)
        let c := Char.ofNat (0x10000 + (n - 0xD800) * 0x400 + (m - 0xDC00))
        (readWide size bigFirst fuel (pos + 4) (more.drop 2)).map (c :: ·)
      else (readWide size bigFirst fuel (pos + size) more).map (Char.ofNat n :: ·)

private def dropMark (mark : List UInt8) (bs : List UInt8) : Option (List UInt8) :=
  if mark.isPrefixOf bs then some (bs.drop mark.length) else none

/-- Reads bytes; a handler says what becomes of those that stand for nothing. -/
def decode (codec : Codec) (h : Handler) (bs : List UInt8) : Except Unreadable String :=
  let utf8 (bs : List UInt8) : Except Unreadable String :=
    match h, decodeUtf8 bs with
    | _, .ok s => .ok s
    | .replace, .error _ => .ok (decodeLenient bs)
    | .ignore, .error _ => .ok (.ofList ((decodeLenient bs).toList.filter (· != '\uFFFD')))
    | _, .error e => .error ⟨e.message⟩
  match codec with
  | .utf8 => utf8 bs
  | .utf8Marked => utf8 ((dropMark [0xEF, 0xBB, 0xBF] bs).getD bs)
  | .wide size (some bigFirst) =>
    (readWide size bigFirst (bs.length + 1) 0 bs).map .ofList
  | .wide size none =>
    match dropMark (unitBytes size false 0xFEFF) bs, dropMark (unitBytes size true 0xFEFF) bs with
    | some rest, _ => (readWide size false (bs.length + 1) size rest).map .ofList
    | none, some rest => (readWide size true (bs.length + 1) size rest).map .ofList
    | none, none => (readWide size false (bs.length + 1) 0 bs).map .ofList
  | codec => (readNarrow codec h 0 bs).map .ofList

end Codec
end Stencil.Text
