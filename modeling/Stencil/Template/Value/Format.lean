import Stencil.Template.Value.Items

/-!
Formatting of single values by a specification: fill, alignment, sign, width, grouping, precision
and a code for the kind of presentation.
-/
namespace Stencil.Template
open Stencil.Text

/-- Which side the fill goes to; inside, it goes between the sign and the digits. -/
inductive Alignment where
  | left | right | middle | inside
  deriving DecidableEq, Repr

structure FormatSpec where
  fill : Char := ' '
  align : Alignment
  sign : Option Char := none
  /-- Whether a negative zero loses its sign. -/
  unsignedZero : Bool := false
  alternate : Bool := false
  width : Nat := 0
  grouping : Option Char := none
  precision : Option Nat := none
  code : Option Char := none

namespace FormatSpec

private def alignmentOf? (c : Char) : Option Alignment :=
  match c with
  | '<' => some .left
  | '>' => some .right
  | '^' => some .middle
  | '=' => some .inside
  | _ => none

/-- The greatest number that a specification may hold. -/
private def maxNumber : Nat := 9223372036854775807

private def number (cs : List Char) : Outcome (Option Nat × List Char) :=
  let ds := cs.takeWhile isDecimal
  let n := ds.foldl (fun n c => n * 10 + (decimalValue? c).getD 0) 0
  if n > maxNumber then raise .value "Too many decimal digits in format string"
  else .ok (if ds.isEmpty then none else some n, cs.drop ds.length)

/-- The fill and the alignment that a specification begins with. -/
private def takeAlign : List Char → (Option Char × Option Alignment) × List Char
  | c :: a :: rest =>
    match alignmentOf? a, alignmentOf? c with
    | some side, _ => ((some c, some side), rest)
    | none, some side => ((none, some side), a :: rest)
    | none, none => ((none, none), c :: a :: rest)
  | [c] =>
    match alignmentOf? c with
    | some side => ((none, some side), [])
    | none => ((none, none), [c])
  | [] => ((none, none), [])

private def takeFlag (flag : Char) : List Char → Bool × List Char
  | c :: rest => if c == flag then (true, rest) else (false, c :: rest)
  | [] => (false, [])

private def takeSign : List Char → Option Char × List Char
  | c :: rest => if c == '+' || c == '-' || c == ' ' then (some c, rest) else (none, c :: rest)
  | [] => (none, [])

/-- A code as complaints name it. -/
private def codeText (c : Char) : String :=
  if 32 < c.toNat && c.toNat < 128 then .singleton c
  else "\\x" ++ .ofList (Nat.toDigits 16 c.toNat)

/-- Refuses marks between groups of digits where the code has no digits to group. -/
private def checkGrouping (code mark : Char) : Outcome Unit :=
  if ['d', 'e', 'f', 'g', 'E', 'G', '%', 'F'].contains code then .ok ()
  else if mark == '_' && ['b', 'o', 'x', 'X'].contains code then .ok ()
  else raise .value ("Cannot specify '" ++ .singleton mark ++ "' with '" ++ codeText code ++ "'.")

/-- Reads a specification for a kind of value; `code` is the one that stands for none. -/
def read (kind : String) (align : Alignment) (code : Option Char) (text : String) :
    Outcome FormatSpec := do
  let ((fill, side), rest) := takeAlign text.toList
  let (sign, rest) := takeSign rest
  let (unsignedZero, rest) := takeFlag 'z' rest
  let (alternate, rest) := takeFlag '#' rest
  let (zero, rest) := if fill.isNone then takeFlag '0' rest else (false, rest)
  let align := side.getD (if zero && align == .right then .inside else align)
  let (width, rest) ← number rest
  let (comma, rest) := takeFlag ',' rest
  let (under, rest) := takeFlag '_' rest
  if under && (comma || rest.head? == some ',') then
    raise .value "Cannot specify both ',' and '_'."
  let (precision, rest) ← match rest with
    | '.' :: more =>
      match ← number more with
      | (none, _) => raise .value "Format specifier missing precision"
      | r => pure r
    | _ => pure (none, rest)
  let given ← match rest with
    | [] => pure none
    | [c] => pure (some c)
    | _ =>
      raise .value
        ("Invalid format specifier '" ++ text ++ "' for object of type '" ++ kind ++ "'")
  let grouping := if comma then some ',' else if under then some '_' else none
  match grouping, given.or code with
  | some mark, some c => checkGrouping c mark
  | _, _ => pure ()
  return {
    fill := fill.getD (if zero then '0' else ' '), align := align, sign := sign,
    unsignedZero := unsignedZero, alternate := alternate, width := width.getD 0,
    grouping := grouping, precision := precision, code := given }

private def unknownCode {α : Type} (c : Char) (kind : String) : Outcome α :=
  raise .value ("Unknown format code '" ++ codeText c ++ "' for object of type '" ++ kind ++ "'")

/-- Puts fill around a text; what stands inside goes behind the first part. -/
private def pad (s : FormatSpec) (pre body : List Char) : String :=
  let room := s.width - (pre.length + body.length)
  let filled (n : Nat) := List.replicate n s.fill
  .ofList <| match s.align with
    | .left => pre ++ body ++ filled room
    | .middle => filled (room / 2) ++ pre ++ body ++ filled (room - room / 2)
    | .inside => pre ++ filled room ++ body
    | .right => filled room ++ pre ++ body

private def groupFrom (mark : Char) (size : Nat) : Nat → List Char → List Char
  | _, [] => []
  | n, c :: rest =>
    if n == size then mark :: c :: groupFrom mark size 1 rest
    else c :: groupFrom mark size (n + 1) rest

/-- Zeros that make digits, with the marks between their groups, at least so long. -/
private def zerosFor (size least digits : Nat) : Nat → Nat
  | 0 => 0
  | fuel + 1 =>
    let marks := (digits - 1) / size
    if digits + marks < least then 1 + zerosFor size least (digits + 1) fuel else 0

/-- Digits with marks between groups, counted from the right; zeros that fill up are grouped
too. -/
private def grouped (s : FormatSpec) (size taken : Nat) (digits : List Char) : List Char :=
  match s.grouping with
  | none => digits
  | some mark =>
    let zeros := if s.fill == '0' && s.align == .inside && !digits.isEmpty then
        zerosFor size (s.width - taken) digits.length s.width
      else 0
    (groupFrom mark size 0 (List.replicate zeros '0' ++ digits).reverse).reverse

private def signChars (s : FormatSpec) (negative : Bool) : List Char :=
  if negative then ['-']
  else match s.sign with
    | some '+' => ['+']
    | some ' ' => [' ']
    | _ => []

def ofText (s : FormatSpec) (text : String) : Outcome String := do
  match s.code with
  | none | some 's' => pure ()
  | some c => unknownCode c "str"
  match s.sign with
  | some ' ' => raise .value "Space not allowed in string format specifier"
  | some _ => raise .value "Sign not allowed in string format specifier"
  | none => pure ()
  if s.unsignedZero then
    raise .value "Negative zero coercion (z) not allowed in string format specifier"
  if s.alternate then
    raise .value "Alternate form (#) not allowed in string format specifier"
  if s.align == .inside then
    raise .value "'=' alignment not allowed in string format specifier"
  let cs := match s.precision with
    | some n => text.toList.take n
    | none => text.toList
  return pad s [] cs

private def upperChars (cs : List Char) : List Char := cs.map Char.toUpper

/-- A whole point: digits before it, the rest after it. -/
private def cutPoint (cs : List Char) : List Char × List Char :=
  (cs.takeWhile Char.isDigit, cs.dropWhile Char.isDigit)

private def withPointMark (cs : List Char) : List Char :=
  if cs.contains '.' then cs
  else
    let (whole, rest) := cutPoint cs
    whole ++ '.' :: rest

private def keepOnePlace (cs : List Char) : List Char :=
  if cs.any fun c => c == '.' || c == 'e' || c == 'n' then cs else cs ++ ['.', '0']

/-- The digits of a number without its sign; nothing for an unknown code. -/
private def floatChars? (s : FormatSpec) (x : Float) : Option (List Char) :=
  let p := s.precision.getD 6
  let mark (cs : List Char) := if s.alternate then withPointMark cs else cs
  match s.code with
  | none =>
    match s.precision with
    | none =>
      match (Decimal.text x).toList with
      | '-' :: rest => some rest
      | cs => some cs
    | some n => some (keepOnePlace (Decimal.generalUpTo ((max n 1 : Nat) - 2) n s.alternate x))
  | some 'e' => some (mark (Decimal.scientificChars p x))
  | some 'E' => some (upperChars (mark (Decimal.scientificChars p x)))
  | some 'f' => some (mark (Decimal.fixedChars p x))
  | some 'F' => some (upperChars (mark (Decimal.fixedChars p x)))
  | some 'g' | some 'n' => some (Decimal.generalChars p s.alternate x)
  | some 'G' => some (upperChars (Decimal.generalChars p s.alternate x))
  | some '%' => some (mark (Decimal.fixedChars p (x * 100.0)) ++ ['%'])
  | some _ => none

/-- Whether no digit of a number but zero is shown. -/
private def showsZero (cs : List Char) : Bool :=
  (cs.takeWhile fun c => c != 'e' && c != 'E').all fun c => c == '0' || c == '.' || c == '%'

private def maxPrecision : Nat := 2147483647

def ofFloat (s : FormatSpec) (kind : String) (x : Float) : Outcome String :=
  if s.precision.getD 0 > maxPrecision then raise .value "precision too big"
  else match floatChars? s x with
    | none => unknownCode (s.code.getD ' ') kind
    | some cs =>
      let (whole, rest) := cutPoint cs
      let negative := Decimal.isNegative x && !x.isNaN && !(s.unsignedZero && showsZero cs)
      let sign := signChars s negative
      .ok (pad s sign (grouped s 3 (sign.length + rest.length) whole ++ rest))

private def isFloatCode (c : Char) : Bool := ['e', 'E', 'f', 'F', 'g', 'G', '%'].contains c

/-- The character of a number. -/
private def ofCharacter (s : FormatSpec) (n : Int) : Outcome String := do
  if s.sign.isSome then raise .value "Sign not allowed with integer format specifier 'c'"
  if s.alternate then
    raise .value "Alternate form (#) not allowed with integer format specifier 'c'"
  if n.natAbs > maxNumber then raise .overflow "Python int too large to convert to C long"
  if n < 0 || n > 1114111 then raise .overflow "%c arg not in range(0x110000)"
  return pad s [] [Char.ofNat n.toNat]

def ofInt (s : FormatSpec) (kind : String) (n : Int) : Outcome String := do
  let code := s.code.getD 'd'
  if isFloatCode code then
    let x := Decimal.ofInt n
    if (Decimal.dyadic? x).isNone then raise .overflow "int too large to convert to float"
    return ← ofFloat s kind x
  let written (pre : List Char) (base size : Nat) (cs : List Char → List Char) : String :=
    let digits := cs (Nat.toDigits base n.natAbs)
    let before := signChars s (n < 0) ++ if s.alternate then pre else []
    pad s before (grouped s size before.length digits)
  let whole (text : String) : Outcome String := do
    if s.precision.isSome then raise .value "Precision not allowed in integer format specifier"
    if s.unsignedZero then
      raise .value "Negative zero coercion (z) not allowed in integer format specifier"
    if code == 'c' then ofCharacter s n else return text
  match code with
  | 'd' | 'n' => whole (written [] 10 3 id)
  | 'b' => whole (written ['0', 'b'] 2 4 id)
  | 'o' => whole (written ['0', 'o'] 8 4 id)
  | 'x' => whole (written ['0', 'x'] 16 4 id)
  | 'X' => whole (written ['0', 'X'] 16 4 upperChars)
  | 'c' => whole ""
  | c => unknownCode c kind

end FormatSpec

namespace Value

/-- The text of a value in a format. -/
def formatted (v : Value) (spec : String) : Outcome String := do
  if spec == "" then v.text
  else
    match v with
    | missing m lenient =>
      if lenient then typeError "unsupported format string passed to Undefined.__format__"
      else failMissing m
    | float x => do (← FormatSpec.read "float" .right Option.none spec).ofFloat "float" x
    | v =>
      match v.asInt?, v.asText? with
      | some n, _ => do
        (← FormatSpec.read v.kindName .right (some 'd') spec).ofInt v.kindName n
      | _, some _ => do
        (← FormatSpec.read "str" .left (some 's') spec).ofText (← v.text)
      | _, _ =>
        typeError ("unsupported format string passed to " ++ v.kindName ++ ".__format__")

end Value
end Stencil.Template
