import Stencil.Template.Value.Percent

/-!
Filling a pattern whose fields stand in braces. A field names an argument by place or by name,
follows attributes and items from there, and may give a format, which may hold fields itself.
-/
namespace Stencil.Template
open Stencil.Text

namespace Braces

private structure Supply where
  args : List Value
  named : List (String × Value)
  /-- The next place to take, or nothing once places were given. -/
  next : Nat := 0
  automatic : Option Bool := none
  /-- Whether the pattern is markup, which complains in its own words. -/
  marked : Bool

private inductive Step where
  | attribute (name : String)
  | item (key : String)

private def openBrace : Char := '\x7b'
private def closeBrace : Char := '\x7d'

private def placed (s : Supply) (automatic : Bool) (n : Nat) : Outcome (Value × Supply) :=
  match s.automatic with
  | some before =>
    if before != automatic then
      raise .value (if automatic || s.marked
        then "cannot switch from manual field specification to automatic field numbering"
        else "cannot switch from automatic field numbering to manual field specification")
    else at_
  | none => at_
where
  at_ : Outcome (Value × Supply) :=
    match s.args[n]? with
    | some v => .ok (v, { s with
        next := if automatic then n + 1 else s.next, automatic := some automatic })
    | none =>
      raise .index (if s.marked then "tuple index out of range"
        else "Replacement index " ++ ofNat n ++ " out of range for positional args tuple")

private def argument (s : Supply) (name : String) : Outcome (Value × Supply) :=
  if name == "" then placed s true s.next
  else if name.toList.all Char.isDigit then
    placed s false (name.toList.foldl (fun n c => n * 10 + (c.toNat - 48)) 0)
  else match s.named.lookup name with
    | some v => .ok (v, s)
    | none => raise .key (quoted name)

/-- Splits the name of a field into its argument and the steps from there. -/
private def stepsOf : Nat → List Char → Outcome (List Step)
  | 0, _ => .ok []
  | _, [] => .ok []
  | fuel + 1, '.' :: rest => do
    let name := rest.takeWhile fun c => c != '.' && c != '['
    if name.isEmpty then raise .value "Empty attribute in format string"
    return .attribute (.ofList name) :: (← stepsOf fuel (rest.drop name.length))
  | fuel + 1, '[' :: rest => do
    let key := rest.takeWhile (· != ']')
    match rest.drop key.length with
    | _ :: rest =>
      if key.isEmpty then raise .value "Empty attribute in format string"
      return .item (.ofList key) :: (← stepsOf fuel rest)
    | [] => raise .value "Missing ']' in format string"
  | _, _ => raise .value "Only '.' or '[' may follow ']' in format field specifier"

private def follow (v : Value) : Step → Outcome Value
  | .attribute name =>
    match v with
    | .missing m _ => Value.failMissing m
    | v =>
      match v.attribute? name with
      | .ok (some a) => .ok a
      | .ok none =>
        raise .attribute (quoted v.kindName ++ " object has no attribute " ++ quoted name)
      | .error e => .error e
  | .item key => do
    let isPlace := !key.isEmpty && key.toList.all Char.isDigit
    let k := if isPlace
      then Value.int (key.toList.foldl (fun n c => n * 10 + (c.toNat - 48)) 0) else .str key
    match ← v.item? k with
    | some w => return w
    | none =>
      match v with
      | .dict .. => raise .key k.listing
      | .list .. | .tuple _ | .str _ =>
        if isPlace then raise .index (v.kindName ++ " index out of range")
        else typeError (v.kindName ++ " indices must be integers or slices, not str")
      | v => typeError (quoted v.kindName ++ " object is not subscriptable")

/-- Cuts the inside of a field at its closing brace. -/
private def takeField : Nat → List Char → List Char → Option (List Char × List Char)
  | _, _, [] => none
  | depth, acc, c :: rest =>
    if c == closeBrace then
      if depth == 0 then some (acc.reverse, rest) else takeField (depth - 1) (c :: acc) rest
    else takeField (if c == openBrace then depth + 1 else depth) (c :: acc) rest

private def isNameEnd (c : Char) : Bool := c == '!' || c == ':'

/-- The name of a field up to its conversion or format; brackets protect both marks. -/
private def takeName : List Char → List Char
  | [] => []
  | '[' :: rest =>
    let inner := rest.takeWhile (· != ']')
    '[' :: inner ++ takeName' (rest.drop inner.length) (rest.length)
  | c :: rest => if isNameEnd c then [] else c :: takeName rest
where
  takeName' : List Char → Nat → List Char
    | [], _ => []
    | _, 0 => []
    | c :: rest, fuel + 1 => if isNameEnd c then [] else c :: takeName' rest fuel

private def converted (mark : Option Char) (v : Value) : Outcome Value := do
  match mark with
  | none => return v
  | some 'r' => return .str v.listing
  | some 's' => return .str (← v.text)
  | some 'a' => return .str (Percent.asciiListing v)
  | some c => raise .value ("Unknown conversion specifier " ++ .singleton c)

private def cutSpec (rest : List Char) : Outcome (Option Char × List Char) :=
  match rest with
  | [] => .ok (none, [])
  | ':' :: spec => .ok (none, spec)
  | '!' :: c :: [] => .ok (some c, [])
  | '!' :: c :: ':' :: spec => .ok (some c, spec)
  | '!' :: [] => raise .value "unmatched '\x7b' in format spec"
  | _ => raise .value "expected ':' after conversion specifier"

private def fillFrom (protect : String → String) (nested : Supply → List Char →
    Outcome (String × Supply)) : Nat → Supply → List Char → Outcome (List Char × Supply)
  | 0, s, cs => .ok (cs, s)
  | _, s, [] => .ok ([], s)
  | fuel + 1, s, c :: rest => do
    if c == openBrace then
      match rest with
      | [] => raise .value "Single '\x7b' encountered in format string"
      | d :: more =>
        if d == openBrace then
          let (text, s) ← fillFrom protect nested fuel s more
          return (c :: text, s)
        match takeField 0 [] rest with
        | none => raise .value "expected '\x7d' before end of string"
        | some (inside, after) =>
          let name := takeName inside
          let (mark, spec) ← cutSpec (inside.drop name.length)
          let first := name.takeWhile fun c => c != '.' && c != '['
          let (v, s) ← argument s (.ofList first)
          let steps ← stepsOf name.length (name.drop first.length)
          let v ← steps.foldlM follow v
          let v ← converted mark v
          let (spec, s) ← nested s spec
          let text ← v.formatted spec
          let text := match v with
            | .markup _ | .int _ | .float _ => text
            | _ => protect text
          let (tail, s) ← fillFrom protect nested fuel s after
          return (text.toList ++ tail, s)
    else if c == closeBrace then
      match rest with
      | d :: more =>
        if d == closeBrace then
          let (text, s) ← fillFrom protect nested fuel s more
          return (c :: text, s)
        else raise .value "Single '\x7d' encountered in format string"
      | [] => raise .value "Single '\x7d' encountered in format string"
    else
      let (text, s) ← fillFrom protect nested fuel s rest
      return (c :: text, s)

private def fillNested : Nat → Supply → List Char → Outcome (String × Supply)
  | 0, s, cs =>
    if cs.isEmpty then .ok ("", s) else raise .value "Max string recursion exceeded"
  | depth + 1, s, cs => do
    let (text, s) ← fillFrom id (fillNested depth) (cs.length + 1) s cs
    return (.ofList text, s)

/-- Fills a pattern; `protect` is applied to texts that come from arguments of markup. -/
def fill (protect : Option (String → String)) (pattern : String) (args : List Value)
    (named : List (String × Value)) : Outcome String := do
  let cs := pattern.toList
  let supply : Supply := { args := args, named := named, marked := protect.isSome }
  let (text, _) ← fillFrom (protect.getD id) (fillNested 1) (cs.length + 1) supply cs
  return .ofList text

end Braces
end Stencil.Template
