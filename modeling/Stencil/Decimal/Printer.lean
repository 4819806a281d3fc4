import Stencil.Decimal.Binary
import Stencil.Text.Words

/-!
Texts of numbers: the fewest digits that read back, a fixed number of places, scientific form
and the general form that chooses between them.
-/
namespace Stencil.Decimal
open Stencil.Text

/-- Digits `d₁d₂…` and a point place `k`, for the value `0.d₁d₂… * 10 ^ k`. -/
structure Digits where
  digits : List Char
  point : Int
  deriving DecidableEq, Repr

/-- `num / den` times a power of ten. -/
private def scaleTen (num den : Nat) (k : Int) : Nat × Nat :=
  if k ≥ 0 then (num * Nat.pow 10 k.toNat, den) else (num, den * Nat.pow 10 (-k).toNat)

private def adjustPoint (num den : Nat) : Nat → Int → Int
  | 0, k => k
  | fuel + 1, k =>
    let (n, d) := scaleTen num den (-k)
    if d ≤ n then adjustPoint num den fuel (k + 1)
    else if n * 10 < d then adjustPoint num den fuel (k - 1)
    else k

/-- The point place of a positive fraction. -/
def pointOf (num den : Nat) : Int :=
  let guess := ((num.log2 : Int) - den.log2) * 30103 / 100000
  adjustPoint num den 8 guess

/-- The decimal on the grid of `n` digits that is nearest among those that read back. -/
private def onGrid? (num den low high gap : Nat) (closed : Bool) (k : Int) (n : Nat) :
    Option Nat :=
  -- the interval ends lie low / gap and high / gap units of the denominator away
  let (sn, sd) := scaleTen num den (n - k)
  let unit := (scaleTen 1 1 (n - k)).1
  let below := sn / sd
  let inside (c : Nat) : Bool :=
    let far := if c * sd ≥ sn then c * sd - sn else sn - c * sd
    let room := (if c * sd ≥ sn then high else low) * unit
    if closed then far * gap ≤ room else far * gap < room
  let down := inside below
  let up := inside (below + 1)
  if down && up then
    some (if 2 * (sn - below * sd) ≤ sd then below else below + 1)
  else if down then some below
  else if up then some (below + 1)
  else none

private def firstGrid (num den low high gap : Nat) (closed : Bool) (k : Int) :
    Nat → Nat → Nat × Nat
  | 0, n => (n, roundDiv (scaleTen num den (n - k)).1 (scaleTen num den (n - k)).2)
  | fuel + 1, n =>
    match onGrid? num den low high gap closed k n with
    | some c => (n, c)
    | none => firstGrid num den low high gap closed k fuel (n + 1)

private def trimZeros (cs : List Char) : List Char := trimRightBy (· == '0') cs

/-- The fewest digits that read back as the same number, and of those the nearest. -/
def shortest (d : Dyadic) : Digits :=
  if d.mantissa == 0 then ⟨['0'], 1⟩
  else
    let (num, den) := d.ratio
    -- half the distance to the neighbours, as quarters of the last place
    let step := if d.exponent ≥ 0 then Nat.pow 2 d.exponent.toNat else 1
    let narrow := d.mantissa == Nat.pow 2 52 && d.exponent > -1074
    let low := if narrow then step else 2 * step
    let k := pointOf num den
    let (n, c) := firstGrid num den low (2 * step) 4 (d.mantissa % 2 == 0) k 17 1
    let cs := natDigits c
    ⟨trimZeros cs, k + (cs.length : Int) - n⟩

/-- How a number is written: where the positional form ends, whether whole numbers keep a
fraction. -/
structure NumberStyle where
  leastPoint : Int
  greatestPoint : Int
  keepFraction : Bool

private def exponentText (e : Int) : List Char :=
  (if e < 0 then ['e', '-'] else ['e', '+']) ++ padLeft 2 '0' (natDigits e.natAbs)

private def placed (style : NumberStyle) (d : Digits) : List Char :=
  let n : Int := d.digits.length
  if d.point < style.leastPoint || style.greatestPoint < d.point then
    (match d.digits with
      | [] => []
      | [c] => [c]
      | c :: rest => c :: '.' :: rest) ++ exponentText (d.point - 1)
  else if d.point ≤ 0 then
    '0' :: '.' :: List.replicate (-d.point).toNat '0' ++ d.digits
  else if n ≤ d.point then
    d.digits ++ List.replicate (d.point - n).toNat '0' ++
      (if style.keepFraction then ['.', '0'] else [])
  else d.digits.take d.point.toNat ++ '.' :: d.digits.drop d.point.toNat

def written (style : NumberStyle) (x : Float) : String :=
  match dyadic? x with
  | none => if x.isNaN then "nan" else if isNegative x then "-inf" else "inf"
  | some d => .ofList ((if d.negative then ['-'] else []) ++ placed style (shortest d))

/-- Positional from 0.0001 up to below 10¹⁶, whole numbers end in a zero place. -/
def plainStyle : NumberStyle := ⟨-3, 16, true⟩

/-- The text of a number wherever it is printed. -/
def text (x : Float) : String := written plainStyle x

/-- The text of the amount of an imaginary number. -/
def imaginaryText (x : Float) : String := written { plainStyle with keepFraction := false } x ++ "j"

/-- The text of a complex number; a real part that is plain zero is left out. -/
def complexText (re im : Float) : String :=
  let part := imaginaryText im
  if re == 0.0 && !isNegative re then part
  else "(" ++ written { plainStyle with keepFraction := false } re ++
    (if part.startsWith "-" then "" else "+") ++ part ++ ")"

/-- The absolute value with a fixed number of places, a half to the even neighbour. -/
def fixedRatio (places num den : Nat) : List Char :=
  let cs := padLeft (places + 1) '0' (natDigits (roundDiv (num * Nat.pow 10 places) den))
  if places == 0 then cs
  else cs.take (cs.length - places) ++ '.' :: cs.drop (cs.length - places)

/-- The absolute value in scientific form. -/
private def scientificRatio (places num den : Nat) : List Char × Int :=
  if num == 0 then
    ('0' :: List.replicate places '0', 0)
  else
    let k := pointOf num den
    let (n, d) := scaleTen num den (places + 1 - k)
    let c := roundDiv n d
    let cs := natDigits c
    if cs.length > places + 1 then (cs.take (places + 1), k) else (cs, k - 1)

private def withPoint (cs : List Char) : List Char :=
  match cs with
  | c :: d :: rest => c :: '.' :: d :: rest
  | cs => cs

private def magnitude (x : Float) (finite : Nat → Nat → List Char) : List Char :=
  match dyadic? x with
  | none => if x.isNaN then "nan".toList else "inf".toList
  | some d => finite d.ratio.1 d.ratio.2

/-- Absolute value, fixed places. -/
def fixedChars (places : Nat) (x : Float) : List Char := magnitude x (fixedRatio places)

/-- Absolute value, scientific form. -/
def scientificChars (places : Nat) (x : Float) : List Char :=
  magnitude x fun num den =>
    let (cs, e) := scientificRatio places num den
    withPoint cs ++ exponentText e

private def dropFraction (cs : List Char) : List Char :=
  if cs.contains '.' then trimRightBy (· == '.') (trimZeros cs) else cs

/-- Absolute value, general form: scientific when the exponent is below -4 or above a limit. -/
def generalUpTo (limit : Int) (precision : Nat) (keepZeros : Bool) (x : Float) : List Char :=
  let p := if precision == 0 then 1 else precision
  magnitude x fun num den =>
    let (cs, e) := scientificRatio (p - 1) num den
    if e < -4 || limit < e then
      let body := withPoint cs
      (if keepZeros then body else dropFraction body) ++ exponentText e
    else
      let body := fixedRatio ((p : Int) - 1 - e).toNat num den
      if keepZeros then body else dropFraction body

/-- Absolute value, general form, where the exponent stays below the precision. -/
def generalChars (precision : Nat) (keepZeros : Bool) (x : Float) : List Char :=
  generalUpTo ((max precision 1 : Nat) - 1) precision keepZeros x

/-- A number with a fixed number of places. -/
def fixed (places : Nat) (x : Float) : String :=
  .ofList ((if isNegative x && !x.isNaN then ['-'] else []) ++ fixedChars places x)

end Stencil.Decimal
