import Stencil.Template.Value.Format

/-!
Filling a pattern whose fields start with a percent sign. Fields take the arguments in order, or
by key from a mapping; every argument has to be used unless they come as a mapping.
-/
namespace Stencil.Template
open Stencil.Text

namespace Percent

private structure Field where
  key : Option String := none
  left : Bool := false
  sign : Option Char := none
  alternate : Bool := false
  zero : Bool := false
  width : Nat := 0
  precision : Option Nat := none

/-- The arguments that are left, and the mapping that keys look into. -/
private structure Supply where
  items : List Value
  mapping : Option Value

private def Supply.next (s : Supply) : Outcome (Value × Supply) :=
  match s.items with
  | v :: rest => .ok (v, { s with items := rest })
  | [] => typeError "not enough arguments for format string"

private def takeKey : Nat → List Char → List Char → Option (List Char × List Char)
  | _, _, [] => none
  | depth, acc, c :: rest =>
    if c == ')' then
      if depth == 0 then some (acc.reverse, rest) else takeKey (depth - 1) (c :: acc) rest
    else takeKey (if c == '(' then depth + 1 else depth) (c :: acc) rest

private def takeFlags (f : Field) : List Char → Field × List Char
  | '-' :: rest => takeFlags { f with left := true } rest
  | '+' :: rest => takeFlags { f with sign := some '+' } rest
  | ' ' :: rest => takeFlags { f with sign := f.sign.or (some ' ') } rest
  | '#' :: rest => takeFlags { f with alternate := true } rest
  | '0' :: rest => takeFlags { f with zero := true } rest
  | rest => (f, rest)

private def takeNumber (cs : List Char) : Nat × List Char :=
  let ds := cs.takeWhile Char.isDigit
  (ds.foldl (fun n c => n * 10 + (c.toNat - 48)) 0, cs.drop ds.length)

private def starred (s : Supply) : Outcome (Int × Supply) := do
  let (v, s) ← s.next
  match v.asInt? with
  | some n => return (n, s)
  | none => typeError "* wants int"

private def takeWidth (f : Field) (s : Supply) : List Char → Outcome (Field × Supply × List Char)
  | '*' :: rest => do
    let (n, s) ← starred s
    return ({ f with width := n.natAbs, left := f.left || n < 0 }, s, rest)
  | cs =>
    let (n, rest) := takeNumber cs
    .ok ({ f with width := n }, s, rest)

private def takePrecision (f : Field) (s : Supply) :
    List Char → Outcome (Field × Supply × List Char)
  | '.' :: '*' :: rest => do
    let (n, s) ← starred s
    return ({ f with precision := some n.toNat }, s, rest)
  | '.' :: rest =>
    let (n, rest) := takeNumber rest
    .ok ({ f with precision := some n }, s, rest)
  | rest => .ok (f, s, rest)

private def padText (f : Field) (cs : List Char) : List Char :=
  if f.left then padRight f.width ' ' cs else padLeft f.width ' ' cs

private def padNumber (f : Field) (negative : Bool) (mark digits : List Char) : List Char :=
  let sign := if negative then ['-'] else f.sign.toList
  if f.zero && !f.left then
    sign ++ mark ++ padLeft (f.width - sign.length - mark.length) '0' digits
  else padText f (sign ++ mark ++ digits)

private def wholeField (f : Field) (mark : List Char) (base : Nat) (capital : Bool) (n : Int) :
    List Char :=
  let digits := padLeft (f.precision.getD 0) '0' (Nat.toDigits base n.natAbs)
  padNumber f (n < 0) (if f.alternate then mark else [])
    (if capital then digits.map Char.toUpper else digits)

private def decimalOf (code : Char) (v : Value) : Outcome Int :=
  match v with
  | .float x =>
    match Decimal.truncate? x with
    | some n => .ok n
    | none =>
      if x.isNaN then raise .value "cannot convert float NaN to integer"
      else raise .overflow "cannot convert float infinity to integer"
  | .missing m _ => Value.failMissing m
  | v =>
    match v.asInt? with
    | some n => .ok n
    | none =>
      typeError ("%" ++ .singleton code ++ " format: a real number is required, not " ++ v.kindName)

private def integerOf (code : Char) (v : Value) : Outcome Int :=
  match v with
  | .missing m _ => Value.failMissing m
  | v =>
    match v.asInt? with
    | some n => .ok n
    | none =>
      typeError ("%" ++ .singleton code ++ " format: an integer is required, not " ++ v.kindName)

private def realOf (v : Value) : Outcome Float :=
  match v with
  | .float x => .ok x
  | .missing m _ => Value.failMissing m
  | v =>
    match v.asInt? with
    | some n => .ok (Decimal.ofInt n)
    | none => typeError ("must be real number, not " ++ v.kindName)

private def realField (f : Field) (code : Char) (x : Float) : List Char :=
  let p := f.precision.getD 6
  let small := code.toLower
  let cs := if small == 'e' then Decimal.scientificChars p x
    else if small == 'f' then Decimal.fixedChars p x
    else Decimal.generalChars p f.alternate x
  let cs := if f.alternate && !cs.contains '.' then
      cs.takeWhile Char.isDigit ++ '.' :: cs.dropWhile Char.isDigit else cs
  padNumber f (Decimal.isNegative x && !x.isNaN) []
    (if code.isUpper then cs.map Char.toUpper else cs)

private def charOf (v : Value) : Outcome Char :=
  match v.asInt?, v.asText? with
  | some n, _ =>
    if 0 ≤ n && n < 0x110000 then .ok (Char.ofNat n.toNat)
    else raise .overflow "%c arg not in range(0x110000)"
  | none, some s =>
    match s.toList with
    | [c] => .ok c
    | _ => typeError "%c requires int or char"
  | none, none => typeError "%c requires int or char"

/-- The listing of a value in ASCII. -/
def asciiListing (v : Value) : String :=
  .ofList (v.listing.toList.flatMap fun c =>
    if c.toNat < 128 then [c]
    else if c.toNat < 0x100 then '\\' :: 'x' :: digitsBase 16 2 c.toNat
    else if c.toNat < 0x10000 then '\\' :: 'u' :: digitsBase 16 4 c.toNat
    else '\\' :: 'U' :: digitsBase 16 8 c.toNat)

private def cutTo (f : Field) (s : String) : List Char :=
  match f.precision with
  | some n => s.toList.take n
  | none => s.toList

private def fieldText (protect : String → String) (f : Field) (code : Char) (place : Nat)
    (v : Value) : Outcome (List Char) := do
  match code with
  | 's' =>
    let s ← match v with
      | .markup s => pure s
      | .int _ | .float _ | .bool _ => v.text
      | v => protect <$> v.text
    return padText f (cutTo f s)
  | 'r' => return padText f (cutTo f (protect v.listing))
  | 'a' => return padText f (cutTo f (protect (asciiListing v)))
  | 'd' | 'i' | 'u' => return wholeField f [] 10 false (← decimalOf code v)
  | 'o' => return wholeField f ['0', 'o'] 8 false (← integerOf code v)
  | 'x' => return wholeField f ['0', 'x'] 16 false (← integerOf code v)
  | 'X' => return wholeField f ['0', 'X'] 16 true (← integerOf code v)
  | 'e' | 'E' | 'f' | 'F' | 'g' | 'G' => return realField f code (← realOf v)
  | 'c' => return padText f [← charOf v]
  | c =>
    raise .value ("unsupported format character " ++ quoted (.singleton c) ++ " (0x" ++
      .ofList (Nat.toDigits 16 c.toNat) ++ ") at index " ++ ofNat place)

private def keyed (s : Supply) (key : String) : Outcome (Value × Supply) :=
  match s.mapping with
  | none => typeError "format requires a mapping"
  | some m =>
    match m with
    | .dict entries _ =>
      match Value.entryNamed? entries key with
      | some v => .ok (v, s)
      | none => raise .key (quoted key)
    | m =>
      typeError (m.kindName ++ " indices must be integers or slices, not str")

private def dropLength : List Char → List Char
  | c :: rest => if c == 'h' || c == 'l' || c == 'L' then rest else c :: rest
  | [] => []

private def fillFrom (protect : String → String) (size : Nat) :
    Nat → Supply → List Char → Outcome (List Char × Supply)
  | 0, s, cs => .ok (cs, s)
  | _, s, [] => .ok ([], s)
  | fuel + 1, s, c :: rest => do
    if c != '%' then
      let (more, s) ← fillFrom protect size fuel s rest
      return (c :: more, s)
    match rest with
    | '%' :: rest =>
      let (more, s) ← fillFrom protect size fuel s rest
      return ('%' :: more, s)
    | _ =>
      let (key, rest) ← match rest with
        | '(' :: inner =>
          match takeKey 0 [] inner with
          | some (k, rest) => pure (some (String.ofList k), rest)
          | none => raise .value "incomplete format key"
        | _ => pure (none, rest)
      let (value, s) ← match key with
        | some k => do
          let (v, s) ← keyed s k
          pure (some v, s)
        | none => pure (none, s)
      let (f, rest) := takeFlags { key := key } rest
      let (f, s, rest) ← takeWidth f s rest
      let (f, s, rest) ← takePrecision f s rest
      match dropLength rest with
      | [] => raise .value "incomplete format"
      | code :: rest =>
        let (v, s) ← match value with
          | some v => pure (v, s)
          | none => s.next
        let text ← fieldText protect f code (size - rest.length - 1) v
        let (more, s) ← fillFrom protect size fuel s rest
        return (text ++ more, s)

private def mappingOf? : Value → Option Value
  | .dict es place => some (.dict es place)
  | .list vs place => some (.list vs place)
  | .bytes content => some (.bytes content)
  | .range a b c => some (.range a b c)
  | .missing m l => some (.missing m l)
  | _ => none

/-- Fills a pattern; `protect` is applied to texts that come from arguments. -/
def fill (protect : String → String) (pattern : String) (args : Value) : Outcome String := do
  let cs := pattern.toList
  let mapping := mappingOf? args
  let (text, s) ← fillFrom protect cs.length (cs.length + 1)
    ⟨(args.asTuple?).getD [args], mapping⟩ cs
  if mapping.isNone && !s.items.isEmpty then
    typeError "not all arguments converted during string formatting"
  return .ofList text

end Percent
end Stencil.Template
