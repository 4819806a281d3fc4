import Stencil.Decimal.Binary
import Stencil.Text.CaseMap
import Stencil.Text.Words

/-!
Reading numbers. Whole numbers may carry a sign, a base mark and underscores between digits;
decimal fractions and exponents give the nearest number.
-/
namespace Stencil.Decimal
open Stencil.Text

/-- Digits of any script become ASCII digits. -/
def asciiDigit (c : Char) : Char :=
  match decimalValue? c with
  | some n => Char.ofNat (48 + n)
  | none => c

private def digitIn? (base : Nat) (c : Char) : Option Nat :=
  let v := if c.isDigit then some (c.toNat - 48)
    else if c.isLower then some (c.toNat - 87)
    else if c.isUpper then some (c.toNat - 55) else none
  v.filter (· < base)

private def digitsFrom (base : Nat) (afterDigit : Bool) (n : Nat) : List Char → Option Nat
  | [] => if afterDigit then some n else none
  | '_' :: rest => if afterDigit then digitsFrom base false n rest else none
  | c :: rest => (digitIn? base c).bind fun v => digitsFrom base true (n * base + v) rest

/-- Digits in a base, single underscores between them. -/
def digits? (base : Nat) (cs : List Char) : Option Nat := digitsFrom base false 0 cs

/-- The greatest number of digits in which decimal texts of whole numbers are read and written. -/
def digitLimit : Nat := 4300

private def limitText (more : String) : String :=
  "Exceeds the limit (" ++ ofNat digitLimit ++ " digits) for integer string conversion" ++ more ++
    "; use sys.set_int_max_str_digits() to increase the limit"

/-- The complaint about a number that is too long to be written. -/
def tooLongToWrite : String := limitText ""

/-- The complaint about so many digits, which are too many to be read. -/
def tooLongToRead (count : Nat) : String := limitText (": value has " ++ ofNat count ++ " digits")

def cutSign : List Char → Bool × List Char
  | '-' :: rest => (true, rest)
  | '+' :: rest => (false, rest)
  | cs => (false, cs)

/-- The base a mark stands for. -/
def baseOfMark? : List Char → Option (Nat × List Char)
  | '0' :: m :: rest =>
    if m == 'x' || m == 'X' then some (16, rest)
    else if m == 'o' || m == 'O' then some (8, rest)
    else if m == 'b' || m == 'B' then some (2, rest)
    else none
  | _ => none

private def dropUnderscore : List Char → List Char
  | '_' :: rest => rest
  | cs => cs

/-- A whole number in a text. Base 0 reads the mark; a number without one has no leading zeros
then. -/
def int? (base : Nat) (s : String) : Option Int :=
  let (neg, cs) := cutSign ((trimBy isBlank s.toList).map asciiDigit)
  let n := match baseOfMark? cs with
    | some (b, rest) =>
      if base == 0 || base == b then digits? b (dropUnderscore rest) else digits? base cs
    | none =>
      if base == 0 then
        (digits? 10 cs).filter fun n => n == 0 || cs.head? != some '0'
      else digits? base cs
  n.map fun n => if neg then -(Int.ofNat n) else Int.ofNat n

/-- How many digits a whole number in a text has, when they are too many to be read. Bases that
are powers of two have no limit. -/
def excess? (base : Nat) (s : String) : Option Nat :=
  let (_, cs) := cutSign ((trimBy isBlank s.toList).map asciiDigit)
  let count := (cs.filter (· != '_')).length
  let free := [2, 4, 8, 16, 32].contains base || (base == 0 && (baseOfMark? cs).isSome)
  if free || count ≤ digitLimit then none else some count

/-- `mantissa * 10 ^ exponent` as the nearest number; exponents out of reach end at once. -/
def ofScientific (mantissa : Nat) (exponent : Int) : Float :=
  let size := (natDigits mantissa).length
  if mantissa == 0 || exponent + size < -330 then 0.0
  else if exponent + size > 320 then infinity
  else if exponent ≥ 0 then nearest (mantissa * Nat.pow 10 exponent.toNat) 1
  else nearest mantissa (Nat.pow 10 (-exponent).toNat)

private def takeDigits (cs : List Char) : List Char × List Char :=
  (cs.takeWhile fun c => c.isDigit || c == '_', cs.dropWhile fun c => c.isDigit || c == '_')

/-- Underscores stand only between digits. -/
private def plainDigits? (cs : List Char) : Option (List Char) :=
  if cs.isEmpty then some []
  else (digits? 10 cs).map fun _ => cs.filter (· != '_')

private def natOf (cs : List Char) : Nat := cs.foldl (fun n c => n * 10 + (c.toNat - 48)) 0

/-- A decimal number without sign: digits, a fraction, an exponent. -/
def decimal? (cs : List Char) : Option Float := do
  let (whole, rest) := takeDigits cs
  let (part, rest) := match rest with
    | '.' :: more => takeDigits more
    | _ => ([], rest)
  let whole ← plainDigits? whole
  let part ← plainDigits? part
  if whole.isEmpty && part.isEmpty then none
  let exponent ← match rest with
    | [] => some (0 : Int)
    | e :: more =>
      if e == 'e' || e == 'E' then
        let (neg, ds) := cutSign more
        (digits? 10 ds).map fun n => if neg then -(Int.ofNat n) else Int.ofNat n
      else none
  some (ofScientific (natOf (whole ++ part)) (exponent - part.length))

/-- A number in a text; infinities and not-a-number by name. -/
def float? (s : String) : Option Float :=
  let (neg, cs) := cutSign ((trimBy isBlank s.toList).map asciiDigit)
  let name := String.ofList (cs.map Char.toLower)
  let x := if name == "inf" || name == "infinity" then some infinity
    else if name == "nan" then some notANumber
    else decimal? cs
  x.map fun x => if neg then -x else x

end Stencil.Decimal
