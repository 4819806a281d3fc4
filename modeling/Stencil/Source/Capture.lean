import Stencil.Data.Plain
import Stencil.Source.Site

/-!
The rules of patterns: no name is captured twice, all alternatives capture the same names, and
nothing that always fits comes before something else. A complaint points at the pattern that was
looked at last.
-/
namespace Stencil.Source

/-- The names captured so far, and the site of the pattern looked at last. -/
structure Captured where
  site : Site
  names : List String := []

namespace Captured

def at_ (k : Captured) (s : Span) : Captured := { k with site := k.site.at_ s }

def refuse {α : Type} (k : Captured) (message : String) : Except Fault α := k.site.refuse message

private def twice (k : Captured) (name : String) : Except Fault Captured :=
  k.refuse ("multiple assignments to name " ++ Text.quoted name ++ " in pattern")

def add (k : Captured) (name : String) : Except Fault Captured := do
  k.site.checkGiven name
  if k.names.contains name then k.twice name else return { k with names := k.names ++ [name] }

private def addOption (k : Captured) : Option String → Except Fault Captured
  | none => .ok k
  | some name => k.add name

/-- Takes over the names that all alternatives capture. -/
private def addAll (k : Captured) : List String → Except Fault Captured
  | [] => .ok k
  | name :: rest =>
    if k.names.contains name then k.twice name
    else addAll { k with names := k.names ++ [name] } rest

/-! Keys of mappings. -/

private def plainConstant : Constant → Plain
  | .none => .none
  | .true => .bool true
  | .false => .bool false
  | .ellipsis => .other "ellipsis"
  | .int n => .int n
  | .float x => .float x
  | .imaginary x => .shown (Decimal.text x ++ "j") (Decimal.text x ++ "j")
  | .str s _ => .str s
  | .bytes content => .bytes content

private def negated : Plain → Option Plain
  | .int n => some (.int (-n))
  | .float x => some (.float (-x))
  | _ => none

/-- The value of a key that is a literal. -/
private def keyValue? : Expr → Option Plain
  | .constant _ c => some (plainConstant c)
  | .unary _ .minus (.constant _ c) => negated (plainConstant c)
  | _ => none

private def numberOf? : Plain → Option Float
  | .bool b => some (if b then 1 else 0)
  | .int n => some (Float.ofInt n)
  | .float x => some x
  | _ => none

private def sameKey (a b : Plain) : Bool :=
  match numberOf? a, numberOf? b with
  | some x, some y => x == y
  | none, none => a.listing == b.listing
  | _, _ => false

private def checkKeys (k : Captured) (seen : List Plain) : List Expr → Except Fault Unit
  | [] => .ok ()
  | e :: rest =>
    match e, keyValue? e with
    | _, some v =>
      if seen.any (sameKey v) then
        k.refuse ("mapping pattern checks duplicate key (" ++ v.listing ++ ")")
      else checkKeys k (v :: seen) rest
    | .attribute .., none => do
      k.site.expr e
      checkKeys k seen rest
    | .binary .., none => checkKeys k seen rest
    | _, none =>
      k.refuse "mapping pattern keys may only match literals and attribute lookups"

private def checkAttributes (k : Captured) : List (String × Span) → Except Fault Unit
  | [] => .ok ()
  | (name, s) :: rest => do
    (k.at_ s).site.checkGiven name
    match rest.find? fun other => other.1 == name with
    | some (_, t) => (k.at_ t).refuse ("attribute name repeated in class pattern: " ++ name)
    | none => checkAttributes k rest

/-! Patterns. -/

private def isWildcard : Pattern → Bool
  | .capture _ none none => true
  | _ => false

private def isStar : Pattern → Bool
  | .star .. => true
  | _ => false

private def isNamelessStar : Pattern → Bool
  | .star _ none => true
  | _ => false

/-- Whether the value of a pattern is one that can be matched. -/
private def isMatchable : Expr → Bool
  | .constant .. | .attribute .. | .unary .. | .binary .. => true
  | _ => false

private def unreachable (k : Captured) : Option String → Except Fault Captured
  | some name =>
    k.refuse ("name capture " ++ Text.quoted name ++ " makes remaining patterns unreachable")
  | none => k.refuse "wildcard makes remaining patterns unreachable"

private def checkSequence (k : Captured) (items : List Pattern) : Except Fault Unit :=
  if 1 < (items.filter isStar).length then
    k.refuse "multiple starred names in sequence pattern"
  else if items.any isStar && 256 ≤ (items.takeWhile fun p => !isStar p).length then
    k.refuse "too many expressions in star-unpacking sequence pattern"
  else .ok ()

mutual

/-- Goes through a pattern; `final` tells that it may fit everything. -/
def pattern (final : Bool) (k : Captured) : Pattern → Except Fault Captured
  | .value s e => do
    let k := k.at_ s
    if isMatchable e then
      k.site.expr e
      return k
    else k.refuse "patterns may only match literals and attribute lookups"
  | .capture s none name =>
    if final then (k.at_ s).addOption name else unreachable (k.at_ s) name
  | .capture s (some inner) name => do
    let k ← pattern final (k.at_ s) inner
    k.addOption name
  | .star s name => (k.at_ s).addOption name
  | .sequence s items => do
    let k := k.at_ s
    checkSequence k items
    if items.all fun p => isWildcard p || isNamelessStar p then return k
    else if items.any isNamelessStar then partsBut (fun p => isWildcard p || isStar p) k items
    else partsBut (fun _ => false) k items
  | .mapping s keys inner rest => do
    let k := k.at_ s
    checkKeys k [] keys
    let k ← partsBut (fun _ => false) k inner
    k.addOption rest
  | .class s cls positional names inner => do
    let k := k.at_ s
    checkAttributes k ((names.map Prod.snd).zip (inner.map Pattern.span))
    k.site.expr cls
    let k ← partsBut isWildcard k positional
    partsBut isWildcard k inner
  | .alternatives s inner => do
    let (found, last) ← choices final none (k.at_ s) inner
    addAll { k with site := last.site } found

/-- The parts of a pattern, of which some are left out. -/
def partsBut (skip : Pattern → Bool) (k : Captured) : List Pattern → Except Fault Captured
  | [] => .ok k
  | p :: rest => do
    if skip p then partsBut skip k rest
    else
      let k ← pattern true k p
      partsBut skip k rest

/-- Alternatives, with the names that the first of them captures. -/
def choices (final : Bool) (first : Option (List String)) (k : Captured) :
    List Pattern → Except Fault (List String × Captured)
  | [] => .ok (first.getD [], k)
  | p :: rest => do
    let k := k.at_ p.span
    let k ← pattern (final && rest.isEmpty) { k with names := [] } p
    match first with
    | none => choices final (some k.names) k rest
    | some names =>
      if names.length == k.names.length && names.all k.names.contains then
        choices final first k rest
      else k.refuse "alternative patterns bind different names"

end

end Captured

/-- Checks the pattern of a case; `final` tells that it may fit everything. -/
def Site.capture (c : Site) (final : Bool) (p : Pattern) : Except Fault Unit := do
  let _ ← Captured.pattern final { site := c } p

end Stencil.Source
