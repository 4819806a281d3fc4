import Stencil.Template.Access
import Stencil.Template.Json
import Stencil.Template.Value.Methods
import Stencil.Template.Value.Order
import Stencil.Text.Naming
import Stencil.Text.Words

/-!
Filters that change texts. Most work on the text of any value, and markup stays markup.
-/
namespace Stencil.Template.Filter
open Stencil.Text

/-- Calls a text method on the text of a value. -/
private def onText (v : Value) (method : String) (args : List Value) : Outcome Value := do
  match ← v.softText with
  | .markup s => TextMethod.call ⟨s, true⟩ method ⟨args, []⟩
  | w => TextMethod.call ⟨w.asText?.getD "", false⟩ method ⟨args, []⟩

/-- The text of a value that has to be one. -/
private def needText (method : String) (v : Value) : Outcome String :=
  match v with
  | .missing m _ => Value.failMissing m
  | v =>
    match v.asText? with
    | some s => .ok s
    | none =>
      raise .attribute (quoted v.kindName ++ " object has no attribute " ++ quoted method)

private def needInt (v : Value) : Outcome Int := TextMethod.indexOf v

/-! Names. -/

def nameFilters : List (String × (String → String)) :=
  [("slugify", Naming.slugify), ("pascal_case", Naming.pascalCase),
    ("snake_case", Naming.snakeCase), ("camel_case", Naming.camelCase)]

/-- Respells a name. Only a text has a spelling. -/
def respell (filter : String) (v : Value) : Outcome Value :=
  match v with
  | .missing m _ =>
    if filter == "slugify" then Value.failMissing m
    else typeError ("expected string or bytes-like object, got " ++ quoted v.kindName)
  | v =>
    match v.asText?, nameFilters.lookup filter with
    | some s, some f => .ok (.str (f s))
    | _, _ =>
      if filter == "slugify" then
        raise .attribute (quoted v.kindName ++ " object has no attribute 'lower'")
      else typeError ("expected string or bytes-like object, got " ++ quoted v.kindName)

/-! Words and lines. -/

private def isWordBreak (c : Char) : Bool :=
  isBlank c || c == '-' || c == '(' || c == '\x7b' || c == '[' || c == '<'

/-- Every part between breaks begins in upper case and goes on in lower case. -/
private def titleParts : Nat → List Char → List Char
  | 0, _ => []
  | _, [] => []
  | fuel + 1, c :: rest =>
    let same := rest.takeWhile fun d => isWordBreak d == isWordBreak c
    upperChar c ++ lowerChars same ++ titleParts fuel (rest.drop same.length)

private def title (v : Value) : Outcome Value := do
  let s := ((← v.softText).asText?).getD ""
  return .str (.ofList (titleParts (s.length + 1) s.toList))

private def wordCount (v : Value) : Outcome Value := do
  let s := ((← v.softText).asText?).getD ""
  return .int (runsOutside (fun c => !isWordChar c) s.toList).length

private def wrapped (v : Value) (b : Bound) : Outcome Value := do
  let s ← needText "splitlines" v
  let sep ← match b.get "wrapstring" .none with
    | .none => pure "\n"
    | .missing m _ => Value.failMissing m
    | w => needText "join" w
  let style : WrapStyle := ⟨0, ← (b.get "break_long_words" (.bool true)).truth,
    ← (b.get "break_on_hyphens" (.bool true)).truth⟩
  let ls := lines false s.toList
  if ls.isEmpty then return .str ""
  let width := b.get "width" (.int 79)
  if ← Value.ordered .le width (.int 0) then
    raise .value ("invalid width " ++ width.listing ++ " (must be > 0)")
  let n := (width.asInt?.getD 79).toNat
  let texts := ls.map fun l =>
    joinWith sep ((wrap { style with width := n } l).map String.ofList)
  return .str (joinWith sep texts)

private def indented (v : Value) (b : Bound) : Outcome Value := do
  let width := b.get "width" (.int 4)
  let indention ← match width.asText? with
    | some s => pure (Value.str s)
    | none => Value.binary .mul (.str " ") width
  let pad := indention.asText?.getD ""
  match v with
  | .missing m _ => Value.failMissing m
  | .list .. => raise .attribute "'list' object has no attribute 'splitlines'"
  | _ => pure ()
  let s ← match v.asText? with
    | some s => pure s
    | none =>
      typeError ("unsupported operand type(s) for +=: " ++ quoted v.kindName ++ " and 'str'")
  let ls := lines false (s ++ "\n").toList
  let blank ← (b.get "blank" (.bool false)).truth
  let pad := match v with
    | .markup _ => if width.asText?.isSome then Markup.protect pad else pad
    | _ => pad
  let text := match ls with
    | [] => ""
    | l :: rest =>
      let filled := rest.map fun l => if l.isEmpty && !blank then "" else pad ++ String.ofList l
      joinWith "\n" (String.ofList l :: filled)
  let text := if ← (b.get "first" (.bool false)).truth then pad ++ text else text
  return match v with
    | .markup _ => .markup text
    | _ => .str text

private def truncated (v : Value) (b : Bound) : Outcome Value := do
  let length := b.get "length" (.int 255)
  let ending := b.get "end" (.str "...")
  let leeway := match b.get "leeway" .none with
    | .none => Value.int 5
    | w => w
  let endLength : Value := .int (← ending.length)
  let lengthText ← length.text
  if !(← Value.ordered .ge length endLength) then
    raise .assertion ("expected length >= " ++ endLength.listing ++ ", got " ++ lengthText)
  if !(← Value.ordered .ge leeway (.int 0)) then
    raise .assertion ("expected leeway >= 0, got " ++ (← leeway.text))
  let size : Value := .int (← v.length)
  if ← Value.ordered .le size (← Value.binary .add length leeway) then return v
  let head ← v.slice .none (← Value.binary .sub length endLength) .none
  if ← (b.get "killwords" (.bool false)).truth then return ← Value.binary .add head ending
  match ← head.attribute? "rsplit" with
  | some (.method self name) =>
    let (parts, _) ← Method.call self name ⟨[.str " ", .int 1], []⟩
    match parts with
    | .list (first :: _) _ => Value.binary .add first ending
    | _ => return v
  | _ => raise .attribute (quoted head.kindName ++ " object has no attribute 'rsplit'")

/-- Replaces in plain text, or in markup when that is what is put out. -/
private def replaced (escape : Bool) (v : Value) (b : Bound) : Outcome Value := do
  let old := b.get "old" .none
  let new := b.get "new" .none
  let count ← match b.get "count" .none with
    | .none => pure (Value.int (-1))
    | w => pure w
  let isMarkup : Value → Bool
    | .markup _ => true
    | _ => false
  if !escape then
    TextMethod.call ⟨← v.text, false⟩ "replace"
      ⟨[.str (← old.text), .str (← new.text), count], []⟩
  else
    let self ← if isMarkup old || (isMarkup new && !isMarkup v) then
        Value.markup <$> Markup.textOf v
      else v.softText
    let args := [← old.softText, ← new.softText, count]
    onText self "replace" args

/-! Markup. -/

private def protected_ (v : Value) : Outcome Value :=
  match v with
  | .object _ (.module _ text) _ => .ok (.markup text)
  | v => .markup <$> Markup.textOf v

private def attributeText (key value : Value) : Outcome (Option String) := do
  match value with
  | .none | .missing .. => return none
  | _ => pure ()
  let name ← match key.asText? with
    | some s => pure s
    | none => typeError ("expected string or bytes-like object, got " ++ quoted key.kindName)
  let isBad (c : Char) : Bool :=
    c.toNat ≤ 32 && isBlank c && !(28 ≤ c.toNat && c.toNat ≤ 31) || c == '/' || c == '>' || c == '='
  if name.toList.any isBad then
    raise .value ("Invalid character in attribute name: " ++ key.listing)
  return some ((← Markup.textOf key) ++ "=\"" ++ (← Markup.textOf value) ++ "\"")

private def attributeTexts (escape : Bool) (v : Value) (b : Bound) : Outcome Value := do
  let entries ← match v with
    | .dict es _ => pure es
    | .missing m _ => Value.failMissing m
    | v => raise .attribute (quoted v.kindName ++ " object has no attribute 'items'")
  let parts := (← entries.mapM fun (k, w) => attributeText k w).filterMap id
  let text := joinWith " " parts
  let spaced ← (b.get "autospace" (.bool true)).truth
  let text := if spaced && text != "" then " " ++ text else text
  return if escape then .markup text else .str text

private def isUnreserved (c : Char) : Bool := c.isAlphanum || "_.-~".toList.contains c

private def percentEncoded (form : Bool) (s : String) : String :=
  .ofList ((encodeUtf8 s).flatMap fun b =>
    let c := Char.ofNat b.toNat
    if isUnreserved c || (c == '/' && !form) then [c]
    else if c == ' ' && form then ['+']
    else '%' :: upperChars (digitsBase 16 2 b.toNat))

private def isContainer : Value → Bool
  | .tuple _ | .list .. | .dict .. | .group .. | .range .. | .view .. | .record .. => true
  | _ => false

private def urlEncoded (v : Value) : Outcome Value := do
  match v with
  | .missing m _ => Value.failMissing m
  | _ => pure ()
  if !isContainer v then return .str (percentEncoded false (← v.text))
  let entries ← match v with
    | .dict es _ => pure es
    | v => (← v.items).mapM fun w => do
        match ← w.items with
        | [a, b] => return (a, b)
        | ws =>
          if ws.length < 2 then
            raise .value ("not enough values to unpack (expected 2, got " ++
              ofNat ws.length ++ ")")
          else raise .value "too many values to unpack (expected 2)"
  let parts ← entries.mapM fun (k, w) => do
    return percentEncoded true (← k.text) ++ "=" ++ percentEncoded true (← w.text)
  return .str (joinWith "&" parts)

private def formatted (v : Value) (b : Bound) : Outcome Value := do
  if !b.rest.isEmpty && !b.named.isEmpty then
    throw (.runtime "can't handle positional and keyword arguments at the same time")
  let args : Value := if b.named.isEmpty then .tuple b.rest
    else .ofEntries (b.named.map fun (k, w) => (.str k, w))
  if v.asText?.isSome then Value.binary .mod v args
  else Value.binary .mod (← v.softText) args

private def jsonOf (v : Value) (b : Bound) : Outcome Value := do
  let indent ← match b.get "indent" .none with
    | .none => pure none
    | w =>
      match w.asText?, w.asInt? with
      | some s, _ => pure (some s)
      | none, some n => pure (some (.ofList (List.replicate n.toNat ' ')))
      | none, none =>
        typeError ("can't multiply sequence by non-int of type " ++ quoted w.kindName)
  return .markup (← Json.markupText indent v)

/-- The filters on texts; nothing for another name. -/
def text? (escape : Bool) (name : String) (v : Value) (b : Bound) : Option (Outcome Value) :=
  match name with
  | "capitalize" => some (onText v "capitalize" [])
  | "center" => some (onText v "center" [b.get "width" (.int 80)])
  | "lower" => some (onText v "lower" [])
  | "upper" => some (onText v "upper" [])
  | "trim" => some (onText v "strip" [b.get "chars" .none])
  | "title" => some (title v)
  | "wordcount" => some (wordCount v)
  | "wordwrap" => some (wrapped v b)
  | "indent" => some (indented v b)
  | "truncate" => some (truncated v b)
  | "replace" => some (replaced escape v b)
  | "string" => some (if v.asText?.isSome then .ok v else v.softText)
  | "format" => some (formatted v b)
  | "escape" => some (protected_ v)
  | "forceescape" => some (do return .markup (Markup.protect (← v.text)))
  | "safe" => some (do return .markup (← v.text))
  | "striptags" => some (do return .str (Markup.stripTags (← v.text)))
  | "urlencode" => some (urlEncoded v)
  | "xmlattr" => some (attributeTexts escape v b)
  | "tojson" => some (jsonOf v b)
  | name => if (nameFilters.lookup name).isSome then some (respell name v) else none

end Stencil.Template.Filter

/-!
Listings of values over several lines: a container that does not fit on its line puts each item
on a line of its own, a text is cut into parts at white space. The entries of dicts come in the
order of their keys.
-/
namespace Stencil.Template.Filter
open Stencil.Text

private def lineWidth : Int := 80

private def precedes (a b : Value) : Bool :=
  match Value.ordered .lt a b with
  | .ok r => r
  | .error _ => decide (a.kindName < b.kindName)

private def inKeyOrder (es : List (Value × Value)) : List (Value × Value) :=
  es.mergeSort fun a b => !precedes b.1 a.1

mutual

/-- A value with the entries of its dicts in order. -/
private def arranged : Value → Value
  | .list vs place => .list (arrangedItems vs) place
  | .tuple vs => .tuple (arrangedItems vs)
  | .dict es place => .dict (inKeyOrder (arrangedEntries es)) place
  | v => v

private def arrangedItems : List Value → List Value
  | [] => []
  | v :: rest => arranged v :: arrangedItems rest

private def arrangedEntries : List (Value × Value) → List (Value × Value)
  | [] => []
  | (k, v) :: rest => (arranged k, arranged v) :: arrangedEntries rest

end

private def listed (cs : List Char) : List Char := quotedChars cs

/-- The words of a line, each with the white space behind it. -/
private def wordsOf : Nat → List Char → List (List Char)
  | 0, _ => []
  | _, [] => []
  | fuel + 1, cs =>
    let word := cs.takeWhile fun c => !isBlank c
    let rest := cs.drop word.length
    let gap := rest.takeWhile isBlank
    (word ++ gap) :: wordsOf fuel (rest.drop gap.length)

/-- Puts parts together as long as their listing fits; the last one has less room. -/
private def gathered {α : Type} (shown : List α → Int) (width lessAtEnd : Int) :
    List α → List (List α) → List (List α)
  | current, [] => if current.isEmpty then [] else [current]
  | current, part :: rest =>
    let candidate := current ++ part
    let room := if rest.isEmpty then width - lessAtEnd else width
    if shown candidate > room then
      if current.isEmpty then gathered shown width lessAtEnd part rest
      else current :: gathered shown width lessAtEnd part rest
    else gathered shown width lessAtEnd candidate rest

/-- The parts of a text, each of which fits into a width where that can be done. -/
private def textParts (width free : Int) : List (List Char) → List (List Char)
  | [] => []
  | line :: rest =>
    let less := if rest.isEmpty then free else 0
    let own := if (listed line).length ≤ width - less then [listed line]
      else (gathered (fun cs => (listed cs).length) width less []
        (wordsOf (line.length + 1) line)).map listed
    own ++ textParts width free rest

private def fours {α : Type} : Nat → List α → List (List α)
  | 0, _ => []
  | _, [] => []
  | fuel + 1, xs => xs.take 4 :: fours fuel (xs.drop 4)

private def byteParts (width free : Int) (bs : List UInt8) : List (List Char) :=
  -- only a last group of fewer than four has less room
  let less := if bs.length % 4 == 0 then 0 else free
  (gathered (fun bs => (quotedBytes bs).length) width less [] (fours (bs.length + 1) bs)).map
    fun bs => (quotedBytes bs).toList

/-- Parts below each other; the outermost text puts them in brackets. -/
private def stacked (outermost : Bool) (column : Nat) (parts : List (List Char)) : String :=
  let gap := "\n" ++ String.ofList (List.replicate column ' ')
  let body := joinWith gap (parts.map String.ofList)
  if outermost then "(" ++ body ++ ")" else body

/-- Lays a value out from a column, with some room kept free behind it. -/
private def layout : Nat → Bool → Nat → Nat → Value → String
  | 0, _, _, _, v => v.listing
  | fuel + 1, outermost, column, free, v =>
    let shown := v.listing
    if column + shown.length + free ≤ lineWidth then shown
    else
      let gap := ",\n" ++ String.ofList (List.replicate (column + 1) ' ')
      let items (vs : List Value) (closing : Nat) : String :=
        joinWith gap (vs.mapIdx fun i w =>
          layout fuel false (column + 1) (if i + 1 == vs.length then free + closing else 1) w)
      let more : Nat := if outermost then 1 else 0
      match v with
      | .list vs _ => "[" ++ items vs 1 ++ "]"
      | .tuple [w] => "(" ++ items [w] 2 ++ ",)"
      | .tuple vs => "(" ++ items vs 1 ++ ")"
      | .dict es _ =>
        "\x7b" ++ joinWith gap (es.mapIdx fun i (k, w) =>
          let key := k.listing ++ ": "
          key ++ layout fuel false (column + 1 + key.length)
            (if i + 1 == es.length then free + 1 else 1) w) ++ "\x7d"
      | .str s =>
        if s == "" then shown
        else
          let parts := textParts (lineWidth - (column + more)) (free + more) (lines true s.toList)
          if parts.length == 1 then .ofList (parts.headD [])
          else stacked outermost (column + more) parts
      | .bytes bs =>
        if bs.length ≤ 4 then shown
        else stacked outermost (column + more)
          (byteParts (lineWidth - (column + more)) (free + more) bs)
      | _ => shown

/-- A value laid out over lines. -/
def pretty (v : Value) : String := layout (v.depth + 2) true 0 0 (arranged v)

end Stencil.Template.Filter
