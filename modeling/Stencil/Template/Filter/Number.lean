import Stencil.Decimal.Binary
import Stencil.Decimal.Reader
import Stencil.Template.Binding
import Stencil.Template.Value.Arithmetic
import Stencil.Template.Value.Items

/-!
Filters that read and round numbers.
-/
namespace Stencil.Template.Filter
open Stencil.Text

private def absolute (v : Value) : Outcome Value :=
  match v with
  | .float x => .ok (.float x.abs)
  | v =>
    match v.asInt? with
    | some n => .ok (.int n.natAbs)
    | none => typeError ("bad operand type for abs(): " ++ quoted v.kindName)

/-- The number a text or a number stands for, if it does. -/
private def real? (v : Value) : Outcome (Option Float) :=
  match v with
  | .missing m _ => Value.failMissing m
  | .float x => .ok (some x)
  | v =>
    match v.asInt?, v.asText? with
    | some n, _ => some <$> Value.floatOfInt n
    | none, some s => .ok (Decimal.float? s)
    | none, none => .ok none

private def real (v : Value) : Outcome Float := do
  match ← real? v, v.asText? with
  | some x, _ => return x
  | none, some s => raise .value ("could not convert string to float: " ++ quoted s)
  | none, none =>
    typeError ("float() argument must be a string or a real number, not " ++ quoted v.kindName)

private def whole (x : Float) : Outcome Int :=
  match Decimal.truncate? x with
  | some n => .ok n
  | none =>
    if x != x then raise .value "cannot convert float NaN to integer"
    else raise .overflow "cannot convert float infinity to integer"

/-- The whole part of the number a text stands for. -/
private def wholeOfReal? (v : Value) : Outcome (Option Int) := do
  match ← real? v with
  | some x => return Decimal.truncate? x
  | none => return none

private def readInt (v : Value) (b : Bound) : Outcome Value := do
  let default := b.get "default" (.int 0)
  let found ← match v with
    | .float x =>
      if x != x then pure none else some <$> whole x
    | v =>
      match v.asInt?, v.asText? with
      | some n, _ => pure (some n)
      | none, some s =>
        let base := ((b.get "base" (.int 10)).asInt?).getD 1
        let n := if base == 0 || (2 ≤ base && base ≤ 36) then Decimal.int? base.toNat s else none
        match n, Decimal.excess? base.toNat s with
        | some n, none => pure (some n)
        | _, _ => wholeOfReal? v
      | none, none => wholeOfReal? v
  return (found.map Value.int).getD default

private def readFloat (v : Value) (b : Bound) : Outcome Value := do
  return ((← real? v).map Value.float).getD (b.get "default" (.float 0.0))

private def roundCommon (v precision : Value) : Outcome Value := do
  match v.asNumber? with
  | none => typeError ("type " ++ v.kindName ++ " doesn't define __round__ method")
  | some n =>
    match precision, n with
    | .none, .whole n => return .int n
    | .none, .floating x => return .int (← whole (if Decimal.dyadic? x |>.isSome then
        Decimal.roundedTo x 0 else x))
    | p, n =>
      match p.asInt? with
      | none => typeError (quoted p.kindName ++ " object cannot be interpreted as an integer")
      | some k =>
        match n with
        | .whole n => return .int (Decimal.wholeRoundedTo n k)
        | .floating x =>
          let y := Decimal.roundedTo x k
          if (Decimal.dyadic? x).isSome && (Decimal.dyadic? y).isNone then
            raise .overflow "rounded value too large to represent"
          return .float y

private def stepTo (up : Bool) (v : Value) : Outcome Int := do
  match v with
  | .missing m _ => Value.failMissing m
  | .float x =>
    let n ← whole x
    let y := Decimal.ofInt n
    if up && y < x then return n + 1
    else if !up && x < y then return n - 1
    else return n
  | v =>
    match v.asInt? with
    | some n => return n
    | none => typeError ("must be real number, not " ++ v.kindName)

private def rounded (v : Value) (b : Bound) : Outcome Value := do
  let precision := b.get "precision" (.int 0)
  let method := b.get "method" (.str "common")
  method.checkKey
  match method.asText? with
  | some "common" => roundCommon v precision
  | some "ceil" | some "floor" =>
    let unit ← Value.binary .pow (.int 10) precision
    let n ← stepTo (method.asText? == some "ceil") (← Value.binary .mul v unit)
    Value.binary .div (.int n) (← Value.binary .pow (.int 10) precision)
  | _ => throw (.runtime "method must be common, ceil or floor")

private def sizeText (v : Value) (b : Bound) : Outcome Value := do
  let x ← real v
  let binary ← (b.get "binary" (.bool false)).truth
  let base : Nat := if binary then 1024 else 1000
  let mark := if binary then "iB" else "B"
  let prefixes := [if binary then "K" else "k", "M", "G", "T", "P", "E", "Z", "Y"]
  if x == 1.0 then return .str "1 Byte"
  if x < Decimal.ofInt base then return .str (ofInt (← whole x) ++ " Bytes")
  let isBelow (i : Nat) : Bool := x < Decimal.ofInt (Nat.pow base (i + 2))
  let place := (prefixes.zipIdx.findIdx? fun (_, i) => isBelow i).getD 7
  let amount := Decimal.ofInt base * x / Decimal.ofInt (Nat.pow base (place + 2))
  return .str (Decimal.fixed 1 amount ++ " " ++ (prefixes[place]?).getD "" ++ mark)

private def defaulted (v : Value) (b : Bound) : Outcome Value := do
  let default := b.get "default_value" (.str "")
  match v with
  | .missing .. => return default
  | v =>
    if ← (b.get "boolean" (.bool false)).truth then
      return if ← v.truth then v else default
    else return v

/-- The filters on numbers and on the presence of a value; nothing for another name. -/
def number? (name : String) (v : Value) (b : Bound) : Option (Outcome Value) :=
  match name with
  | "abs" => some (absolute v)
  | "int" => some (readInt v b)
  | "float" => some (readFloat v b)
  | "round" => some (rounded v b)
  | "filesizeformat" => some (sizeText v b)
  | "default" => some (defaulted v b)
  | "length" => some ((fun (n : Nat) => .int n) <$> v.length)
  | _ => none

end Stencil.Template.Filter
