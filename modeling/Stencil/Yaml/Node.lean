import Stencil.Yaml.Token.Stream

/-!
A document as a tree of nodes, each with its tag and the place where it begins. Tags that are not
written follow from the kind of a node, and for plain scalars from their text.
-/
namespace Stencil.Yaml
open Stencil.Text

inductive Node where
  | scalar (tag text : String) (start : Mark)
  | sequence (tag : String) (items : List Node) (start : Mark)
  | mapping (tag : String) (entries : List (Node × Node)) (start : Mark)
  /-- An alias of a node that it is part of. -/
  | self (isMapping : Bool) (start : Mark)

namespace Node

def start : Node → Mark
  | scalar _ _ m | sequence _ _ m | mapping _ _ m | self _ m => m

def tag : Node → String
  | scalar t _ _ | sequence t _ _ | mapping t _ _ => t
  | self .. => ""

/-- What a node is called in complaints. -/
def kindName : Node → String
  | scalar .. => "scalar"
  | sequence .. => "sequence"
  | mapping .. => "mapping"
  | self isMapping _ => if isMapping then "mapping" else "sequence"

/-- The collection that begins at a place, in so many levels of a node. -/
def collectionAt? (m : Mark) : Nat → Node → Option Node
  | 0, _ => none
  | _, scalar .. | _, self .. => none
  | fuel + 1, sequence t items s =>
    if s == m then some (sequence t items s) else items.findSome? (collectionAt? m fuel)
  | fuel + 1, mapping t entries s =>
    if s == m then some (mapping t entries s)
    else entries.findSome? fun (k, v) => (collectionAt? m fuel k).or (collectionAt? m fuel v)

end Node

/-- The tag of a kind of value that every document knows. -/
def coreTag (name : String) : String := "tag:yaml.org,2002:" ++ name

/-! What a plain scalar is taken for. -/

private def isDigitOrLow (c : Char) : Bool := c.isDigit || c == '_'

private def dropSign : List Char → List Char
  | '+' :: rest | '-' :: rest => rest
  | cs => cs

/-- Groups of up to two digits below sixty, behind colons. -/
private def isSixtieth (cs : List Char) : Bool :=
  match cs with
  | [a] => a.isDigit
  | [a, b] => '0' ≤ a && a ≤ '5' && b.isDigit
  | _ => false

private def isRunOf (p : Char → Bool) (cs : List Char) : Bool := !cs.isEmpty && cs.all p

private def startsWithDigit (cs : List Char) : Bool := (cs.headD ' ').isDigit

private def isOctal (c : Char) : Bool := ('0' ≤ c && c ≤ '7') || c == '_'
private def isBit (c : Char) : Bool := c == '0' || c == '1' || c == '_'
private def isHexLow (c : Char) : Bool := (hexValue? c).isSome || c == '_'

def looksWhole (cs : List Char) : Bool :=
  match dropSign cs with
  | ['0'] => true
  | '0' :: 'b' :: rest => isRunOf isBit rest
  | '0' :: 'x' :: rest => isRunOf isHexLow rest
  | '0' :: rest => isRunOf isOctal rest
  | cs =>
    match splitOnChar ':' cs with
    | first :: groups => startsWithDigit first && first.all isDigitOrLow && groups.all isSixtieth
    | [] => false

/-- An exponent with its sign, or nothing. -/
private def isExponent (cs : List Char) : Bool :=
  match cs with
  | [] => true
  | e :: s :: ds => (e == 'e' || e == 'E') && (s == '+' || s == '-') && isRunOf Char.isDigit ds
  | _ => false

private def isFraction (cs : List Char) : Bool :=
  isExponent (cs.dropWhile isDigitOrLow)

/-- Digits before the point; sixtieths leave no exponent behind it. -/
private def isPointed (whole part : List Char) : Bool :=
  match splitOnChar ':' whole with
  | [] => false
  | [w] => startsWithDigit w && w.all isDigitOrLow && isFraction part
  | w :: groups =>
    startsWithDigit w && w.all isDigitOrLow && groups.all isSixtieth && part.all isDigitOrLow

def looksDecimal (cs : List Char) : Bool :=
  let isName (names : List String) (cs : List Char) := names.contains (String.ofList cs)
  if isName [".nan", ".NaN", ".NAN"] cs || isName [".inf", ".Inf", ".INF"] (dropSign cs) then true
  else
    match cs with
    | '.' :: rest => startsWithDigit rest && isFraction rest
    | cs =>
      match cutAt? ['.'] (dropSign cs) with
      | some (whole, part) => isPointed whole part
      | none => false

/-- A number of `least` to `most` digits. -/
private def upTo (least most : Nat) (cs : List Char) : Option (Nat × List Char) :=
  let ds := (cs.take most).takeWhile Char.isDigit
  if least ≤ ds.length
  then some (ds.foldl (fun n c => n * 10 + (c.toNat - 48)) 0, cs.drop ds.length) else none

/-- A day and what follows it. -/
structure Dated where
  year : Nat
  month : Nat
  day : Nat
  rest : List Char

def dated? (cs : List Char) : Option Dated := do
  let (year, cs) ← upTo 4 4 cs
  let (month, cs) ← upTo 1 2 (← dropStart? cs ['-'])
  let (day, cs) ← upTo 1 2 (← dropStart? cs ['-'])
  return ⟨year, month, day, cs⟩

/-- A time of day with its fraction, and an offset in minutes. -/
structure Timed where
  hour : Nat
  minute : Nat
  second : Nat
  fraction : List Char
  offset : Option Int

private def offset? (cs : List Char) : Option (Option Int) :=
  match cs.dropWhile isSpace with
  | [] => if cs.isEmpty then some none else none
  | ['Z'] => some (some 0)
  | s :: rest => do
    let negative ← if s == '+' then some false else if s == '-' then some true else none
    let (hours, rest) ← upTo 1 2 rest
    let (minutes, rest) ← match rest with
      | ':' :: rest => upTo 2 2 rest
      | rest => some (0, rest)
    let n : Int := Int.ofNat (hours * 60 + minutes)
    if rest.isEmpty then some (some (if negative then -n else n)) else none

def timed? (cs : List Char) : Option Timed := do
  let cs ← match cs with
    | 'T' :: rest | 't' :: rest => some rest
    | cs => if isSpace (cs.headD 'x') then some (cs.dropWhile isSpace) else none
  let (hour, cs) ← upTo 1 2 cs
  let (minute, cs) ← upTo 2 2 (← dropStart? cs [':'])
  let (second, cs) ← upTo 2 2 (← dropStart? cs [':'])
  let (fraction, cs) := match cs with
    | '.' :: rest => (rest.takeWhile Char.isDigit, rest.dropWhile Char.isDigit)
    | cs => ([], cs)
  return ⟨hour, minute, second, fraction, ← offset? cs⟩

def looksDated (cs : List Char) : Bool :=
  match dated? cs with
  | some d => if d.rest.isEmpty then cs.length == 10 else (timed? d.rest).isSome
  | none => false

private def truthWords : List String :=
  ["yes", "Yes", "YES", "no", "No", "NO", "true", "True", "TRUE", "false", "False", "FALSE",
   "on", "On", "ON", "off", "Off", "OFF"]

private def nullWords : List String := ["", "~", "null", "Null", "NULL"]

/-- The tag of a plain scalar. -/
def plainTag (text : String) : String :=
  let cs := text.toList
  coreTag <|
    if truthWords.contains text then "bool"
    else if looksDecimal cs then "float"
    else if looksWhole cs then "int"
    else if text == "<<" then "merge"
    else if nullWords.contains text then "null"
    else if looksDated cs then "timestamp"
    else if text == "=" then "value"
    else "str"

end Stencil.Yaml
