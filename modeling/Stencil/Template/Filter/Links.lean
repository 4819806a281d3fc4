import Stencil.Template.Binding
import Stencil.Template.Markup

/-!
Turning addresses in a text into links. An address is a word with a scheme or a well-known ending,
or a mail address; punctuation around a word stays outside the link.
-/
namespace Stencil.Template.Filter
open Stencil.Text

private def isHostChar (c : Char) : Bool := isWordChar c || c == '%' || c == '-'

/-- A character as it counts where case does not: some letters look like ASCII ones. -/
private def folded (c : Char) : Char :=
  if c == 'ſ' then 's'
  else if c == '\u212a' then 'k'
  else if c == 'İ' || c == 'ı' then 'i'
  else c.toLower

private def isTopLabel (cs : List Char) : Bool :=
  (cs.all (fun c => (folded c).isAlpha) && 2 ≤ cs.length && cs.length ≤ 63) ||
    (match dropStart? (cs.map folded) "xn--".toList with
      | some more => 2 ≤ more.length && more.length ≤ 59 &&
          more.all fun c => isWordChar c || c == '%'
      | none => false)

private def commonEndings : List String :=
  ["com", "net", "int", "edu", "gov", "org", "info", "mil"]

/-- A port and a path may follow the host. -/
private def isAddressRest (cs : List Char) : Bool :=
  let afterPort := match cs with
    | ':' :: rest =>
      let ds := rest.takeWhile isDecimal
      if 1 ≤ ds.length && ds.length ≤ 5 then rest.drop ds.length else cs
    | _ => cs
  match afterPort with
  | [] => true
  | c :: _ => c == '/' || c == '?' || c == '#'

private def isHostEnd (c : Char) : Bool := c == ':' || c == '/' || c == '?' || c == '#'

private def labelsOf (cs : List Char) : List (List Char) × List Char :=
  let host := cs.takeWhile fun c => !isHostEnd c
  (splitOnChar '.' host, cs.drop host.length)

private def isNamedHost (cs : List Char) : Bool :=
  let (labels, rest) := labelsOf cs
  (labels.dropLast.all fun l => !l.isEmpty && l.all isHostChar) &&
    isTopLabel (labels.getLast?.getD []) && isAddressRest rest

private def isNumberHost (cs : List Char) : Bool :=
  let (labels, rest) := labelsOf cs
  labels.length == 4 &&
    (labels.all fun l => 1 ≤ l.length && l.length ≤ 3 && l.all isDecimal) && isAddressRest rest

private def isCommonHost (cs : List Char) : Bool :=
  let (labels, rest) := labelsOf cs
  labels.length ≥ 2 &&
    (labels.dropLast.all fun l => 2 ≤ l.length && l.length ≤ 63 && l.all isHostChar) &&
    commonEndings.contains (.ofList ((labels.getLast?.getD []).map folded)) && isAddressRest rest

private def isHexDigit (c : Char) : Bool :=
  isDecimal c || ("abcdef".toList.contains (folded c))

/-- How many groups of at most four digits and perhaps a colon a text takes, if it has no others. -/
private def groupCount? (cs : List Char) : Option Nat :=
  let parts := splitOnChar ':' cs
  let size (part : List Char) := (part.length + 3) / 4
  if parts.all fun p => p.all isHexDigit then
    some ((parts.dropLast.map fun p => max 1 (size p)).foldl (· + ·) 0 +
      size (parts.getLast?.getD []))
  else none

/-- A host of at least two and at most eight groups in brackets. -/
private def isGroupHost (cs : List Char) : Bool :=
  match cs with
  | '[' :: rest =>
    let inner := rest.takeWhile (· != ']')
    match rest.drop inner.length with
    | ']' :: more =>
      match splitOn inner [':'] (some 2) with
      | [first, second, others] =>
        (first.length ≤ 4 && first.all isHexDigit && second.length ≤ 4 &&
          second.all isHexDigit && ((groupCount? others).map (decide <| · ≤ 6)).getD false) &&
          isAddressRest more
      | _ => false
    | _ => false
  | _ => false

/-- Whether a word is the address of a page. -/
private def isPageAddress (cs : List Char) : Bool :=
  let low := cs.map folded
  let after (start : String) := (dropStart? low start.toList).map fun r =>
    cs.drop (cs.length - r.length)
  let schemed := (after "http://").or (after "https://")
  (schemed.map fun h => isNamedHost h || isNumberHost h || isGroupHost h).getD false ||
    ((after "www.").map isNamedHost).getD false || isCommonHost cs

private def isMailAddress (cs : List Char) : Bool :=
  match splitOnRight cs ['@'] (some 1) with
  | [user, host] =>
    let labels := splitOnChar '.' host
    let top := labels.getLast?.getD []
    !user.isEmpty && labels.length ≥ 2 && !top.isEmpty && top.all isWordChar &&
      (match host with
        | c :: _ => isWordChar c
        | [] => false) &&
      host.all fun c => isWordChar c || c == '.' || c == '-'
  | _ => false

private def dropOpening : Nat → List Char → List Char
  | 0, cs => cs
  | fuel + 1, cs =>
    match cs with
    | '(' :: rest | '<' :: rest => dropOpening fuel rest
    | cs => ((dropStart? cs "&lt;".toList).map (dropOpening fuel)).getD cs

/-- Drops closing punctuation; works on the reversed word. -/
private def dropClosing : Nat → List Char → List Char
  | 0, cs => cs
  | fuel + 1, cs =>
    match dropStart? cs ";tg&".toList with
    | some rest => dropClosing fuel rest
    | none =>
      match cs with
      | c :: rest => if ")>.,\n".toList.contains c then dropClosing fuel rest else cs
      | [] => []

/-- Moves closing marks from the tail back while the word has more opening ones. -/
private def balance (opening closing : List Char) (middle tail : List Char) :
    List Char × List Char :=
  let opened := countOf middle opening
  if opened ≤ countOf middle closing then (middle, tail)
  else go (min opened (countOf tail closing)) middle tail
where
  go : Nat → List Char → List Char → List Char × List Char
    | 0, middle, tail => (middle, tail)
    | n + 1, middle, tail =>
      match cutAt? closing tail with
      | some (before, after) => go n (middle ++ before ++ closing) after
      | none => (middle, tail)

structure LinkStyle where
  /-- How many characters of an address are shown. -/
  limit : Value
  rel : String
  target : String
  schemes : List String

private def shortened (s : LinkStyle) (cs : List Char) : Outcome String := do
  match s.limit with
  | .none => return .ofList cs
  | limit =>
    if ← Value.ordered .gt (.int cs.length) limit then
      return (← (← Value.slice (.str (.ofList cs)) .none limit .none).text) ++ "..."
    else return .ofList cs

private def linked (s : LinkStyle) (middle : List Char) : Outcome String := do
  let word := String.ofList middle
  let extra := (if s.rel == "" then "" else " rel=\"" ++ Markup.protect s.rel ++ "\"") ++ s.target
  let toPage (address shown : String) :=
    "<a href=\"" ++ address ++ "\"" ++ extra ++ ">" ++ shown ++ "</a>"
  let toMail (address shown : String) := "<a href=\"" ++ address ++ "\">" ++ shown ++ "</a>"
  if isPageAddress middle then
    let full := word.startsWith "https://" || word.startsWith "http://"
    return toPage (if full then word else "https://" ++ word) (← shortened s middle)
  else match dropStart? middle "mailto:".toList with
    | some mail =>
      if isMailAddress mail then return toMail word (.ofList mail)
      else return withScheme toPage word
    | none =>
      if middle.contains '@' && !word.startsWith "www." && !word.startsWith "@" &&
          !middle.contains ':' && isMailAddress middle then
        return toMail ("mailto:" ++ word) word
      else return withScheme toPage word
where
  withScheme (toPage : String → String → String) (word : String) : String :=
    s.schemes.foldl (fun w scheme =>
      if w != scheme && w.startsWith scheme then toPage w w else w) word

private def linkedWord (s : LinkStyle) (word : List Char) : Outcome String := do
  let middle := dropOpening word.length word
  let head := word.take (word.length - middle.length)
  let kept := (dropClosing middle.length middle.reverse).reverse
  let tail := middle.drop kept.length
  let (middle, tail) := balance ['('] [')'] kept tail
  let (middle, tail) := balance ['<'] ['>'] middle tail
  let (middle, tail) := balance "&lt;".toList "&gt;".toList middle tail
  return .ofList head ++ (← linked s middle) ++ .ofList tail

private def wordsAndGaps : Nat → List Char → List (List Char)
  | 0, _ => []
  | _, [] => []
  | fuel + 1, c :: rest =>
    let same := rest.takeWhile fun d => isBlank d == isBlank c
    (c :: same) :: wordsAndGaps fuel (rest.drop same.length)

/-- A protected text in which addresses are links. -/
def withLinks (s : LinkStyle) (text : String) : Outcome String := do
  let parts ← (wordsAndGaps (text.length + 1) text.toList).mapM fun w =>
    if w.all isBlank then pure (.ofList w) else linkedWord s w
  return joinWith "" parts

private def relOf (rel : List String) (nofollow : Bool) : String :=
  let parts := (rel ++ (if nofollow then ["nofollow"] else []) ++ ["noopener"]).eraseDups
  joinWith " " (parts.mergeSort fun a b => decide (a ≤ b))

/-- The words of a relation; a false value has none. -/
private def relWords (rel : Value) : Outcome (List String) := do
  if !(← rel.truth) then return []
  match rel.asText? with
  | some s => return words s
  | none => raise .attribute (quoted rel.kindName ++ " object has no attribute 'split'")

private def isScheme (cs : List Char) : Bool :=
  let name := cs.takeWhile (· != ':')
  2 ≤ name.length &&
    (name.all fun c => isWordChar c || c == '.' || c == '+' || c == '-') &&
    [":", ":/", "://"].contains (String.ofList (cs.drop name.length))

/-- A scheme of more addresses. -/
private def schemeOf (v : Value) : Outcome String :=
  match v with
  | .missing m _ => Value.failMissing m
  | .bytes _ => typeError "cannot use a string pattern on a bytes-like object"
  | v =>
    match v.asText? with
    | some s =>
      if isScheme s.toList then .ok s
      else .error (.runtime (v.listing ++ " is not a valid URI scheme prefix."))
    | none => typeError ("expected string or bytes-like object, got " ++ quoted v.kindName)

/-- The text of a value with links. -/
def links (escape : Bool) (v : Value) (b : Bound) : Outcome Value := do
  let rel ← relWords (b.get "rel" .none)
  let nofollow ← (b.get "nofollow" (.bool false)).truth
  let schemes ← match b.get "extra_schemes" .none with
    | .none => pure []
    | ss => (← ss.items).mapM schemeOf
  let target := b.get "target" .none
  let source ← Markup.textOf v
  let target ← if ← target.truth then
      pure (" target=\"" ++ (← Markup.textOf target) ++ "\"")
    else pure ""
  let text ← withLinks ⟨b.get "trim_url_limit" .none, relOf rel nofollow, target, schemes⟩ source
  return if escape then .markup text else .str text

end Stencil.Template.Filter
