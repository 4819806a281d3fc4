

/-!
Binary floating point numbers as exact fractions. A finite number is a sign, a mantissa and a
power of two; rounding a fraction to the nearest number goes back.
-/
namespace Stencil.Decimal

/-- A finite number: `mantissa * 2 ^ exponent` with a sign. -/
structure Dyadic where
  negative : Bool
  mantissa : Nat
  exponent : Int
  deriving DecidableEq, Repr

/-- The exact value of a finite number; nothing for infinities and what is no number. -/
def dyadic? (x : Float) : Option Dyadic :=
  let bits : Nat := x.toBits.toNat
  let field : Nat := bits / Nat.pow 2 52 % 2048
  let fraction : Nat := bits % Nat.pow 2 52
  if field == 2047 then none
  else if field == 0 then some ⟨decide (bits ≥ Nat.pow 2 63), fraction, -1074⟩
  else some ⟨decide (bits ≥ Nat.pow 2 63), fraction + Nat.pow 2 52, (field : Int) - 1075⟩

/-- Numerator and denominator of the absolute value. -/
def Dyadic.ratio (d : Dyadic) : Nat × Nat :=
  if d.exponent ≥ 0 then (d.mantissa * Nat.pow 2 d.exponent.toNat, 1)
  else (d.mantissa, Nat.pow 2 (-d.exponent).toNat)

/-- Numerator with sign, and denominator. -/
def Dyadic.fraction (d : Dyadic) : Int × Nat :=
  let (num, den) := d.ratio
  (if d.negative then -(Int.ofNat num) else Int.ofNat num, den)

def isNegative (x : Float) : Bool := x.toBits ≥ 0x8000000000000000

def infinity : Float := 1.0 / 0.0
def notANumber : Float := 0.0 / 0.0

/-- The quotient rounded to a whole number, a half to the even neighbour. -/
def roundDiv (num den : Nat) : Nat :=
  let q := num / den
  let r := num % den
  if 2 * r < den then q
  else if den < 2 * r then q + 1
  else if q % 2 == 0 then q else q + 1

/-- The number nearest to a fraction. -/
def nearest (num den : Nat) : Float :=
  if num == 0 || den == 0 then 0.0
  else
    -- a quotient of 53 bits, or fewer where the least exponent stops it
    let size : Int := (num.log2 : Int) - den.log2
    let scaled (e : Int) : Nat × Nat :=
      if e ≥ 0 then (num, den * Nat.pow 2 e.toNat) else (num * Nat.pow 2 (-e).toNat, den)
    let e := size - 52
    let e := if (scaled e).1 / (scaled e).2 ≥ Nat.pow 2 53 then e + 1
      else if (scaled e).1 / (scaled e).2 < Nat.pow 2 52 then e - 1 else e
    let e := max e (-1074)
    let m := roundDiv (scaled e).1 (scaled e).2
    let (m, e) := if m ≥ Nat.pow 2 53 then (m / 2, e + 1) else (m, e)
    if e > 971 then infinity
    else if m < Nat.pow 2 52 then Float.ofBits m.toUInt64
    else Float.ofBits ((e + 1075).toNat * Nat.pow 2 52 + (m - Nat.pow 2 52)).toUInt64

/-- The number nearest to a whole number. -/
def ofInt (n : Int) : Float :=
  if n < 0 then -(nearest n.natAbs 1) else nearest n.natAbs 1

/-- Whole part, toward zero, of a finite number. -/
def truncate? (x : Float) : Option Int :=
  (dyadic? x).map fun d =>
    let (num, den) := d.ratio
    if d.negative then -(Int.ofNat (num / den)) else Int.ofNat (num / den)

/-- The order of two numbers that are not both finite falls to the built-in comparison; the
others compare as fractions. -/
def compareInt (x : Float) (n : Int) : Option Ordering :=
  match dyadic? x with
  | some d =>
    let (num, den) := d.fraction
    some (compare num (n * den))
  | none => if x.isNaN then none else some (if isNegative x then .lt else .gt)

/-!
Rounding numbers to a number of decimal places. A half goes to the even neighbour; a negative number
of places rounds to tens, hundreds and so on.
-/

/-- A floating number at a number of places. -/
def roundedTo (x : Float) (places : Int) : Float :=
  match dyadic? x with
  | none => x
  | some d =>
    if places > 400 then x
    else
      let (num, den) := d.ratio
      let y :=
        if places ≥ 0 then
          let unit := Nat.pow 10 places.toNat
          nearest (roundDiv (num * unit) den) unit
        else if places < -400 then 0.0
        else
          let unit := Nat.pow 10 (-places).toNat
          nearest (roundDiv num (den * unit) * unit) 1
      if isNegative x then -y else y

/-- A whole number at a number of places. -/
def wholeRoundedTo (n places : Int) : Int :=
  if places ≥ 0 then n
  else
    let unit := Nat.pow 10 (min 5000 (-places)).toNat
    let m : Int := roundDiv n.natAbs unit * unit
    if n < 0 then -m else m

end Stencil.Decimal

/-!
Complex numbers of two floating parts. Powers with a small whole exponent are products; other
powers go over the absolute value and the angle.
-/
namespace Stencil.Decimal

structure Complex where
  re : Float
  im : Float

namespace Complex

/-- Why a power has no value. -/
inductive PowerFault where
  | ofZero
  | tooLarge
  deriving DecidableEq, Repr

def ofFloat (x : Float) : Complex := ⟨x, 0.0⟩

def add (a b : Complex) : Complex := ⟨a.re + b.re, a.im + b.im⟩

def sub (a b : Complex) : Complex := ⟨a.re - b.re, a.im - b.im⟩

def mul (a b : Complex) : Complex := ⟨a.re * b.re - a.im * b.im, a.re * b.im + a.im * b.re⟩

def isZero (a : Complex) : Bool := a.re == 0.0 && a.im == 0.0

/-- A quotient; the larger part of the divisor is divided by first. -/
def div? (a b : Complex) : Option Complex :=
  if b.isZero then none
  else if b.re.abs ≥ b.im.abs then
    let ratio := b.im / b.re
    let den := b.re + b.im * ratio
    some ⟨(a.re + a.im * ratio) / den, (a.im - a.re * ratio) / den⟩
  else
    let ratio := b.re / b.im
    let den := b.re * ratio + b.im
    some ⟨(a.re * ratio + a.im) / den, (a.im * ratio - a.re) / den⟩

def abs (a : Complex) : Float :=
  if a.im == 0.0 then a.re.abs
  else if a.re == 0.0 then a.im.abs
  else (a.re * a.re + a.im * a.im).sqrt

/-- A product over the binary digits of the exponent. -/
private def powerBy : Nat → Nat → Complex → Complex → Complex
  | 0, _, r, _ => r
  | fuel + 1, n, r, p =>
    if n == 0 then r else powerBy fuel (n / 2) (if n % 2 == 1 then mul r p else r) (mul p p)

private def viaAngle (a b : Complex) : Complex :=
  let size := a.abs
  let angle := Float.atan2 a.im a.re
  let (len, phase) := (size ^ b.re, angle * b.re)
  let (len, phase) :=
    if b.im == 0.0 then (len, phase)
    else (len * Float.exp (-angle * b.im), phase + b.im * Float.log size)
  ⟨len * Float.cos phase, len * Float.sin phase⟩

/-- The largest whole exponent that is worked out by products. -/
private def maxProduct : Nat := 100

private def checked (a : Complex) : Except PowerFault Complex :=
  if a.re.isInf || a.im.isInf then .error .tooLarge else .ok a

def pow (a b : Complex) : Except PowerFault Complex :=
  let whole := (truncate? b.re).filter fun n =>
    b.im == 0.0 && ofInt n == b.re && n.natAbs ≤ maxProduct
  match whole with
  | some n =>
    let p := powerBy 8 n.natAbs ⟨1.0, 0.0⟩ a
    if n > 0 then checked p
    else match div? ⟨1.0, 0.0⟩ p with
      | some q => checked q
      | none => .error .ofZero
  | none =>
    if a.isZero then
      if b.im != 0.0 || b.re < 0.0 then .error .ofZero else .ok ⟨0.0, 0.0⟩
    else checked (viaAngle a b)

end Complex
end Stencil.Decimal
