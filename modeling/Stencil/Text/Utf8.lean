/-!
Reading bytes as UTF-8. A faulty sequence ends at its first byte that cannot continue it; the
strict reader reports where and why, the lenient reader puts one replacement character for it.
-/
namespace Stencil.Text

inductive Utf8Fault where
  | invalidStart
  | invalidContinuation
  | unexpectedEnd
  deriving DecidableEq, Repr

def Utf8Fault.message : Utf8Fault → String
  | .invalidStart => "invalid start byte"
  | .invalidContinuation => "invalid continuation byte"
  | .unexpectedEnd => "unexpected end of data"

/-- A faulty sequence: where it starts, how many bytes it takes, the first of them. -/
structure Utf8Error where
  fault : Utf8Fault
  start : Nat
  length : Nat
  firstByte : UInt8
  deriving DecidableEq, Repr

private def hexByte (b : UInt8) : String :=
  let digits := Nat.toDigits 16 b.toNat
  .ofList (if digits.length < 2 then '0' :: digits else digits)

def Utf8Error.message (e : Utf8Error) : String :=
  let place := if e.length == 1
    then "byte 0x" ++ hexByte e.firstByte ++ " in position " ++ toString e.start
    else "bytes in position " ++ toString e.start ++ "-" ++ toString (e.start + e.length - 1)
  "'utf-8' codec can't decode " ++ place ++ ": " ++ e.fault.message

/-- One step of reading: a character with the bytes after it, or a fault with the number of
bytes it takes. -/
inductive Utf8Step where
  | char (c : Char) (taken : Nat)
  | fault (f : Utf8Fault) (taken : Nat)

def isContinuation (b : UInt8) : Bool := 0x80 ≤ b && b ≤ 0xBF

/-- The values the second byte may take after a first byte; overlong forms, surrogates and
values above the last code point are refused there. -/
def secondOk (first second : UInt8) : Bool :=
  if first == 0xE0 then 0xA0 ≤ second && second ≤ 0xBF
  else if first == 0xED then 0x80 ≤ second && second ≤ 0x9F
  else if first == 0xF0 then 0x90 ≤ second && second ≤ 0xBF
  else if first == 0xF4 then 0x80 ≤ second && second ≤ 0x8F
  else isContinuation second

def bits (b : UInt8) : Nat := b.toNat % 64

def utf8Step (b : UInt8) (rest : List UInt8) : Utf8Step :=
  if b < 0x80 then .char (Char.ofNat b.toNat) 1
  else if b < 0xC2 || 0xF4 < b then .fault .invalidStart 1
  else match rest with
    | [] => .fault .unexpectedEnd 1
    | c :: rest =>
      if !secondOk b c then .fault .invalidContinuation 1
      else if b < 0xE0 then .char (Char.ofNat (b.toNat % 32 * 64 + bits c)) 2
      else match rest with
        | [] => .fault .unexpectedEnd 2
        | d :: rest =>
          if !isContinuation d then .fault .invalidContinuation 2
          else if b < 0xF0 then
            .char (Char.ofNat ((b.toNat % 16 * 64 + bits c) * 64 + bits d)) 3
          else match rest with
            | [] => .fault .unexpectedEnd 3
            | e :: _ =>
              if !isContinuation e then .fault .invalidContinuation 3
              else .char
                (Char.ofNat (((b.toNat % 8 * 64 + bits c) * 64 + bits d) * 64 + bits e)) 4

def decodeLoop : Nat → Nat → List UInt8 → List Char → Except Utf8Error (List Char)
  | 0, _, _, out => .ok out.reverse
  | _, _, [], out => .ok out.reverse
  | fuel + 1, pos, b :: rest, out =>
    match utf8Step b rest with
    | .char c taken => decodeLoop fuel (pos + taken) (rest.drop (taken - 1)) (c :: out)
    | .fault f taken => .error ⟨f, pos, taken, b⟩

/-- Reads bytes; the first fault is the answer if there is one. -/
def decodeUtf8 (bytes : List UInt8) : Except Utf8Error String :=
  (decodeLoop (bytes.length + 1) 0 bytes []).map .ofList

private def lenientLoop : Nat → List UInt8 → List Char → List Char
  | 0, _, out => out.reverse
  | _, [], out => out.reverse
  | fuel + 1, b :: rest, out =>
    match utf8Step b rest with
    | .char c taken => lenientLoop fuel (rest.drop (taken - 1)) (c :: out)
    | .fault _ taken => lenientLoop fuel (rest.drop (taken - 1)) ('\uFFFD' :: out)

def decodeLenient (bytes : List UInt8) : String :=
  .ofList (lenientLoop (bytes.length + 1) bytes [])

def encodeUtf8 (s : String) : List UInt8 := s.toUTF8.toList

end Stencil.Text
