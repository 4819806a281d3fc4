import Stencil.Decimal.Binary
import Stencil.Template.Markup

/-!
Operators on values. Whole numbers are exact; mixed with floating numbers they become floating.
Texts and lists can be joined and repeated, and a text can be filled as a pattern.
-/
namespace Stencil.Template
open Stencil.Text

def BinaryOp.symbol : BinaryOp → String
  | .add => "+"
  | .sub => "-"
  | .mul => "*"
  | .div => "/"
  | .floorDiv => "//"
  | .mod => "%"
  | .pow => "** or pow()"

namespace Value

/-- The floating number of a whole number. -/
def floatOfInt (n : Int) : Outcome Float :=
  let x := Decimal.ofInt n
  if (Decimal.dyadic? x).isSome then .ok x
  else raise .overflow "int too large to convert to float"

private def asFloat : Number → Outcome Float
  | .whole n => floatOfInt n
  | .floating x => .ok x

private def divideInts (m n : Int) : Outcome Value :=
  let x := Decimal.nearest m.natAbs n.natAbs
  if (Decimal.dyadic? x).isSome then .ok (float (if (m < 0) != (n < 0) then -x else x))
  else raise .overflow "integer division result too large for a float"

/-- The floor of a quotient of floating numbers, and what is left. -/
def floatDivMod (x y : Float) : Float × Float :=
  match Decimal.dyadic? x, Decimal.dyadic? y with
  | some dx, some dy =>
    let (a, b) := dx.fraction
    let (c, d) := dy.fraction
    -- both over one denominator
    let num := a * d
    let den := c * b
    let q := Int.fdiv num den
    let r := num - q * den
    let signed (n : Int) (x : Float) := if n < 0 then -x else x
    let rest := signed r (Decimal.nearest r.natAbs (b * d))
    let zero := if Decimal.isNegative y then -0.0 else 0.0
    let quotient := if q == 0 then
        (if Decimal.isNegative x != Decimal.isNegative y then -0.0 else 0.0)
      else signed q (Decimal.nearest q.natAbs 1)
    (quotient, if r == 0 then zero else rest)
  | some _, Option.none =>
    if y.isNaN then (y, y)
    else if x == 0.0 || Decimal.isNegative x == Decimal.isNegative y then
      (if Decimal.isNegative x == Decimal.isNegative y then 0.0 else -0.0, x)
    else (-1.0, y)
  | Option.none, _ => (Decimal.notANumber, Decimal.notANumber)

/-- The greatest number of binary digits that a power is worked out to. -/
private def maxPowerSize : Nat := Nat.pow 10 9

private def powInts (m n : Int) : Outcome Value :=
  if n ≥ 0 then
    if m == 0 || m == 1 then .ok (int (if n == 0 then 1 else m))
    else if m == -1 then .ok (int (if Int.emod n 2 == 0 then 1 else -1))
    else if m.natAbs.log2 * n.toNat > maxPowerSize then raise .memory ""
    else .ok (int (Int.pow m n.toNat))
  else if m == 0 then raise .zeroDivision "0.0 cannot be raised to a negative power"
  else do
    let x ← floatOfInt m
    let y ← floatOfInt n
    return float (x ^ y)

private def powComplex (a b : Decimal.Complex) : Outcome Value :=
  match a.pow b with
  | .ok z => .ok (complex z.re z.im)
  | .error .ofZero => raise .zeroDivision "0.0 to a negative or complex power"
  | .error .tooLarge => raise .overflow "complex exponentiation"

private def isFinite (x : Float) : Bool := (Decimal.dyadic? x).isSome

private def powFloats (x y : Float) : Outcome Value :=
  if x == 0.0 && y < 0.0 then raise .zeroDivision "0.0 cannot be raised to a negative power"
  else if x < 0.0 && isFinite x && isFinite y && y.floor != y then
    powComplex (.ofFloat x) (.ofFloat y)
  else
    let z := x ^ y
    if !isFinite z && isFinite x && isFinite y && !z.isNaN then
      raise .overflow "(34, 'Numerical result out of range')"
    else .ok (float z)

private def intOp (op : BinaryOp) (m n : Int) : Outcome Value :=
  match op with
  | .add => .ok (int (m + n))
  | .sub => .ok (int (m - n))
  | .mul => .ok (int (m * n))
  | .div => if n == 0 then raise .zeroDivision "division by zero" else divideInts m n
  | .floorDiv =>
    if n == 0 then raise .zeroDivision "integer division or modulo by zero"
    else .ok (int (Int.fdiv m n))
  | .mod =>
    if n == 0 then raise .zeroDivision "integer modulo by zero" else .ok (int (Int.fmod m n))
  | .pow => powInts m n

private def floatOp (op : BinaryOp) (x y : Float) : Outcome Value :=
  match op with
  | .add => .ok (float (x + y))
  | .sub => .ok (float (x - y))
  | .mul => .ok (float (x * y))
  | .div =>
    if y == 0.0 then raise .zeroDivision "float division by zero" else .ok (float (x / y))
  | .floorDiv =>
    if y == 0.0 then raise .zeroDivision "float floor division by zero"
    else .ok (float (floatDivMod x y).1)
  | .mod =>
    if y == 0.0 then raise .zeroDivision "float modulo" else .ok (float (floatDivMod x y).2)
  | .pow => powFloats x y

private def numberOp (op : BinaryOp) : Number → Number → Outcome Value
  | .whole m, .whole n => intOp op m n
  | a, b => do floatOp op (← asFloat a) (← asFloat b)

private def asComplex? (v : Value) : Option (Outcome Decimal.Complex) :=
  match v with
  | complex x y => some (.ok ⟨x, y⟩)
  | v => v.asNumber?.map fun n => Decimal.Complex.ofFloat <$> asFloat n

private def unsupported {α : Type} (op : BinaryOp) (a b : Value) : Outcome α :=
  typeError ("unsupported operand type(s) for " ++ op.symbol ++ ": " ++ quoted a.kindName ++
    " and " ++ quoted b.kindName)

private def complexOp (op : BinaryOp) (a b : Value) (x y : Decimal.Complex) : Outcome Value :=
  let whole (z : Decimal.Complex) : Outcome Value := .ok (complex z.re z.im)
  match op with
  | .add => whole (x.add y)
  | .sub => whole (x.sub y)
  | .mul => whole (x.mul y)
  | .div =>
    match x.div? y with
    | some z => whole z
    | Option.none => raise .zeroDivision "complex division by zero"
  | .pow => powComplex x y
  | op => unsupported op a b

private def cannotJoin {α : Type} (kind : String) (b : Value) : Outcome α :=
  typeError ("can only concatenate " ++ kind ++ " (not \"" ++ b.kindName ++ "\") to " ++ kind)

private def addText (s : String) (a b : Value) : Outcome Value :=
  match a, b with
  | markup _, markup t => .ok (markup (s ++ t))
  | markup _, b =>
    match b.asText? with
    | some t => .ok (markup (s ++ Markup.protect t))
    | Option.none => unsupported .add a b
  | _, markup t => .ok (markup (Markup.protect s ++ t))
  | _, b =>
    match b.asText? with
    | some t => .ok (str (s ++ t))
    | Option.none => cannotJoin "str" b

private def add (a b : Value) : Outcome Value :=
  match a.asText? with
  | some s => addText s a b
  | Option.none =>
    match a, b with
    | list xs _, list ys _ => .ok (ofList (xs ++ ys))
    | list .., b => cannotJoin "list" b
    | bytes xs, bytes ys => .ok (bytes (xs ++ ys))
    | bytes _, b => typeError ("can't concat " ++ b.kindName ++ " to bytes")
    | a, b =>
      match a.asTuple?, b.asTuple? with
      | some xs, some ys => .ok (tuple (xs ++ ys))
      | some _, Option.none => cannotJoin "tuple" b
      | _, _ => unsupported .add a b

/-- The greatest number that counts items. -/
private def maxCount : Nat := Nat.pow 2 63 - 1

/-- The greatest number of items that fit into memory. -/
private def maxHeld : Nat := Nat.pow 10 11

/-- Items several times over. -/
private def repeatItems {α : Type} (items : List α) (n : Int) : Outcome (List α) :=
  if n.natAbs > maxCount then raise .overflow "cannot fit 'int' into an index-sized integer"
  else if items.length * n.toNat > maxHeld then raise .memory ""
  else if items.isEmpty then .ok []
  else .ok (List.replicate n.toNat items).flatten

/-- A sequence several times over; nothing when the value is no sequence. -/
private def repeated? (v : Value) (n : Int) : Option (Outcome Value) :=
  match v with
  | markup s => some ((repeatItems s.toList n).map fun cs => markup (.ofList cs))
  | list xs _ => some ((repeatItems xs n).map ofList)
  | bytes xs => some ((repeatItems xs n).map bytes)
  | v =>
    match v.asText?, v.asTuple? with
    | some s, _ => some ((repeatItems s.toList n).map fun cs => str (.ofList cs))
    | _, some xs => some ((repeatItems xs n).map tuple)
    | _, _ => Option.none

private def isSequence (v : Value) : Bool := (repeated? v 0).isSome

private def mul (a b : Value) : Outcome Value :=
  let byNonInt (v : Value) : Outcome Value :=
    typeError ("can't multiply sequence by non-int of type " ++ quoted v.kindName)
  match a.asInt?, b.asInt? with
  | Option.none, some n => (repeated? a n).getD (unsupported .mul a b)
  | some n, Option.none => (repeated? b n).getD (unsupported .mul a b)
  | _, _ =>
    if isSequence a then byNonInt b
    else if isSequence b then byNonInt a
    else unsupported .mul a b

/-- Fills a pattern; where nothing is to be filled in, the pattern stays what it is. -/
private def fill (a : Value) (pattern : String) (args : Value) : Outcome Value := do
  match a with
  | typeKind _ | memberKind _ =>
    let _ ← Percent.fill id pattern args
    return a
  | markup _ => (Percent.fill Markup.protect pattern args).map markup
  | _ => (Percent.fill id pattern args).map str

/-- A binary operator on two values. -/
def binary (op : BinaryOp) (a b : Value) : Outcome Value :=
  match a with
  | missing m _ => failMissing m
  | a =>
    match op, a.asText? with
    | .mod, some pattern => fill a pattern b
    | _, _ =>
      match b with
      | missing m _ => failMissing m
      | b =>
        match a.asNumber?, b.asNumber? with
        | some m, some n => numberOp op m n
        | _, _ =>
          match asComplex? a, asComplex? b with
          | some x, some y => do complexOp op a b (← x) (← y)
          | _, _ =>
            match op with
            | .add => add a b
            | .mul => mul a b
            | op => unsupported op a b

def negate : Value → Outcome Value
  | missing m _ => failMissing m
  | float x => .ok (float (-x))
  | complex x y => .ok (complex (-x) (-y))
  | v =>
    match v.asInt? with
    | some n => .ok (int (-n))
    | Option.none => typeError ("bad operand type for unary -: " ++ quoted v.kindName)

def positive : Value → Outcome Value
  | missing m _ => failMissing m
  | float x => .ok (float x)
  | complex x y => .ok (complex x y)
  | v =>
    match v.asInt? with
    | some n => .ok (int n)
    | Option.none => typeError ("bad operand type for unary +: " ++ quoted v.kindName)

private def charOfByte (b : UInt8) : Char := Char.ofNat b.toNat

/-- Whether a value holds another, for values that are no objects. -/
def contains (container x : Value) : Outcome Bool :=
  match container with
  | missing m lenient => if lenient then .ok false else failMissing m
  | dict entries _ | view .keys entries _ => do return (← valueOf? entries x).isSome
  | bytes content =>
    match x, x.asInt? with
    | bytes part, _ => .ok (indexOf? (content.map charOfByte) (part.map charOfByte)).isSome
    | _, some n =>
      if 0 ≤ n && n < 256 then .ok (content.contains n.toNat.toUInt8)
      else raise .value "byte must be in range(0, 256)"
    | _, Option.none => typeError ("a bytes-like object is required, not " ++ quoted x.kindName)
  | range .. | tuple _ | list .. | group .. | view .. => do
    memberOf x (← container.items)
  | record .. => do memberOf x (← container.items)
  | v =>
    match v.asText? with
    | Option.none => typeError ("argument of type " ++ quoted v.kindName ++ " is not iterable")
    | some s =>
      match x.asText? with
      | some part => .ok (textContains part s)
      | Option.none =>
        typeError ("'in <string>' requires string as left operand, not " ++ x.kindName)

end Value
end Stencil.Template
