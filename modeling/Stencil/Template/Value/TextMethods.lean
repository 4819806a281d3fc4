import Stencil.Template.Binding
import Stencil.Template.Value.Arithmetic
import Stencil.Text.Codec

/-!
The methods of texts. A method of markup answers with markup and protects the texts that it puts
into it.
-/
namespace Stencil.Template
open Stencil.Text

namespace TextMethod

/-- A text whose method is called. -/
structure Receiver where
  text : String
  isMarkup : Bool

private def Receiver.chars (r : Receiver) : List Char := r.text.toList

private def Receiver.wrap (r : Receiver) (s : String) : Value :=
  if r.isMarkup then .markup s else .str s

private def Receiver.wrapChars (r : Receiver) (cs : List Char) : Value := r.wrap (.ofList cs)

private def Receiver.wrapAll (r : Receiver) (parts : List (List Char)) : Value :=
  .ofList (parts.map r.wrapChars)

/-- An argument text as it is put into the text. -/
private def Receiver.take (r : Receiver) (v : Value) (s : String) : String :=
  match v with
  | .markup _ => s
  | _ => if r.isMarkup then Markup.protect s else s

private def refuseAll (name : String) (a : Actuals) : Outcome Unit := a.refuseAll ("str." ++ name)

private def single (name : String) (a : Actuals) : Outcome Value := a.single ("str." ++ name)

private def between (name : String) (least most : Nat) (a : Actuals) : Outcome (List Value) :=
  a.between ("str." ++ name) name least most

private def betweenShown (name : String) (least most : Nat) (a : Actuals) :
    Outcome (List Value) := do
  a.refuseNamed ("str." ++ name)
  a.betweenShown name least most

def indexOf (v : Value) : Outcome Int :=
  match v.asInt? with
  | some n => .ok n
  | none => typeError (quoted v.kindName ++ " object cannot be interpreted as an integer")

private def mustBeText (v : Value) : Outcome String :=
  match v.asText? with
  | some s => .ok s
  | none => typeError ("must be str, not " ++ v.kindName)

private def strip (r : Receiver) (name : String) (f : (Char → Bool) → List Char → List Char)
    (a : Actuals) : Outcome Value := do
  match ← between name 0 1 a with
  | [] | [.none] => return r.wrapChars (f isBlank r.chars)
  | v :: _ =>
    match v.asText? with
    | some s =>
      let set := s.toList
      return r.wrapChars (f set.contains r.chars)
    | none => typeError (name ++ " arg must be None or str")

private def limitOf (v : Option Value) : Outcome (Option Nat) := do
  match v with
  | none => return none
  | some v =>
    let n ← indexOf v
    return if n < 0 then none else some n.toNat

/-- Words with at most `limit` cuts; what is left keeps its white space. -/
private def splitWords : Nat → List Char → List (List Char)
  | 0, cs =>
    let cs := trimLeftBy isBlank cs
    if cs.isEmpty then [] else [cs]
  | limit + 1, cs =>
    let cs := trimLeftBy isBlank cs
    if cs.isEmpty then []
    else
      let w := cs.takeWhile fun c => !isBlank c
      w :: splitWords limit (cs.drop w.length)

private def split (r : Receiver) (name : String) (fromRight : Bool) (a : Actuals) :
    Outcome Value := do
  let args ← a.byName name ["sep", "maxsplit"]
  let limit ← limitOf (args[1]?.getD none)
  match args[0]?.getD none with
  | none | some .none =>
    match limit with
    | none => return r.wrapAll (runsOutside isBlank r.chars)
    | some n =>
      if fromRight then
        return r.wrapAll ((splitWords n r.chars.reverse).map List.reverse).reverse
      else return r.wrapAll (splitWords n r.chars)
  | some v =>
    match v.asText? with
    | none => typeError ("must be str or None, not " ++ v.kindName)
    | some sep =>
      if sep == "" then raise .value "empty separator"
      let cut := if fromRight then splitOnRight else splitOn
      return r.wrapAll (cut r.chars sep.toList limit)

private def partition (r : Receiver) (name : String) (fromRight : Bool) (a : Actuals) :
    Outcome Value := do
  let sep ← mustBeText (← single name a)
  if sep == "" then raise .value "empty separator"
  let (cs, pat) := (r.chars, sep.toList)
  let parts := if fromRight then
      match lastIndexOf? cs pat with
      | some i => [cs.take i, pat, cs.drop (i + pat.length)]
      | none => [[], [], cs]
    else match cutAt? pat cs with
      | some (before, after) => [before, pat, after]
      | none => [cs, [], []]
  return .tuple (parts.map r.wrapChars)

/-- The part of a text that a search looks at, and where it starts. -/
private def window (cs : List Char) (bounds : List Value) : Outcome (Nat × List Char) := do
  let n : Int := cs.length
  let part (default : Int) (v : Option Value) : Outcome Int :=
    match v with
    | none | some .none => .ok default
    | some v =>
      match v.asInt? with
      | some i => .ok (if i < 0 then max 0 (i + n) else i)
      | none => typeError "slice indices must be integers or None or have an __index__ method"
  let start ← part 0 bounds[0]?
  let stop ← part n bounds[1]?
  let stop := min stop n
  return (start.toNat, (cs.take stop.toNat).drop start.toNat)

private def find (r : Receiver) (name : String) (fromRight fails : Bool) (a : Actuals) :
    Outcome Value := do
  let args ← betweenShown name 1 3 a
  let (start, cs) ← window r.chars (args.drop 1)
  let pat ← mustBeText (args.headD .none)
  let found := if fromRight then lastIndexOf? cs pat.toList else indexOf? cs pat.toList
  match (if start > r.chars.length then none else found) with
  | some i => return .int (start + i)
  | none => if fails then raise .value "substring not found" else return .int (-1)

private def count (r : Receiver) (a : Actuals) : Outcome Value := do
  let args ← betweenShown "count" 1 3 a
  let (start, cs) ← window r.chars (args.drop 1)
  let pat ← mustBeText (args.headD .none)
  return .int (if start > r.chars.length then 0 else countOf cs pat.toList)

private def affix (r : Receiver) (name : String) (test : List Char → List Char → Bool)
    (a : Actuals) : Outcome Value := do
  let args ← betweenShown name 1 3 a
  let (start, cs) ← window r.chars (args.drop 1)
  let fits (s : String) : Bool := start ≤ r.chars.length && test cs s.toList
  match args.headD .none with
  | .tuple vs =>
    let rec anyOf : List Value → Outcome Value
      | [] => .ok (.bool false)
      | v :: rest =>
        match v.asText? with
        | some s => if fits s then .ok (.bool true) else anyOf rest
        | none =>
          typeError ("tuple for " ++ name ++ " must only contain str, not " ++ v.kindName)
    anyOf vs
  | v =>
    match v.asText? with
    | some s => return .bool (fits s)
    | none =>
      typeError (name ++ " first arg must be str or a tuple of str, not " ++ v.kindName)

private def padded (r : Receiver) (name : String) (f : Nat → Char → List Char → List Char)
    (a : Actuals) : Outcome Value := do
  let args ← between name 1 2 a
  let width ← indexOf (args.headD .none)
  let fill ← match args[1]? with
    | none => pure ' '
    | some v =>
      match v.asText? with
      | some s =>
        match (r.take v s).toList with
        | [c] => pure c
        | _ => typeError "The fill character must be exactly one character long"
      | none =>
        typeError ("The fill character must be a unicode character, not " ++ v.kindName)
  return r.wrapChars (f width.toNat fill r.chars)

private def zeroFill (width : Nat) : List Char → List Char
  | c :: rest =>
    if c == '+' || c == '-' then c :: padLeft (width - 1) '0' rest
    else padLeft width '0' (c :: rest)
  | [] => padLeft width '0' []

private def replaced (r : Receiver) (a : Actuals) : Outcome Value := do
  let args ← between "replace" 2 3 a
  let part (place : Nat) (v : Value) : Outcome String :=
    match v.asText? with
    | some s => .ok s
    | none =>
      typeError ("replace() argument " ++ ofNat place ++ " must be str, not " ++ v.argumentKind)
  match args with
  | old :: new :: rest =>
    let old ← part 1 old
    let new ← if r.isMarkup then Markup.textOf new else part 2 new
    let limit ← limitOf rest.head?
    return r.wrapChars (replace r.chars old.toList new.toList limit)
  | _ => return .none

private def joined (r : Receiver) (a : Actuals) : Outcome Value := do
  let v ← single "join" a
  let items ← match v.items with
    | .ok vs => pure vs
    | .error (.raised kind m) =>
      if r.isMarkup then raise kind m else typeError "can only join an iterable"
    | .error e => throw e
  let rec texts (i : Nat) : List Value → Outcome (List String)
    | [] => .ok []
    | v :: rest => do
      let s ← match v.asText? with
        | some s => pure (r.take v s)
        | none =>
          if r.isMarkup then Markup.textOf v
          else typeError ("sequence item " ++ ofNat i ++ ": expected str instance, " ++
            v.kindName ++ " found")
      return s :: (← texts (i + 1) rest)
  let parts ← texts 0 items
  let isMarkup := r.isMarkup
  return if isMarkup then .markup (joinWith r.text parts) else .str (joinWith r.text parts)

private def affixRemoved (r : Receiver) (name : String) (f : List Char → List Char → List Char)
    (a : Actuals) : Outcome Value := do
  let v ← single name a
  match v.asText? with
  | some s => return r.wrapChars (f r.chars s.toList)
  | none => typeError (name ++ "() argument must be str, not " ++ v.argumentKind)

private def expandTabs (size : Nat) : Nat → List Char → List Char
  | _, [] => []
  | column, '\t' :: rest =>
    if size == 0 then expandTabs size column rest
    else
      let n := size - column % size
      List.replicate n ' ' ++ expandTabs size (column + n) rest
  | column, c :: rest =>
    c :: expandTabs size (if c == '\n' || c == '\r' then 0 else column + 1) rest

private def every (p : Char → Bool) (r : Receiver) : Bool :=
  !r.chars.isEmpty && r.chars.all p

private def isTitle : Bool → Bool → List Char → Bool
  | seen, _, [] => seen
  | seen, cased, c :: rest =>
    if isUpperCase c || isTitleCase c then !cased && isTitle true true rest
    else if isLowerCase c then cased && isTitle true true rest
    else isTitle seen false rest

/-- Tests of a text that take no arguments. -/
private def property? (r : Receiver) (name : String) : Option Bool :=
  match name with
  | "isalnum" => some (every isAlphanumeric r)
  | "isalpha" => some (every isLetter r)
  | "isascii" => some (r.chars.all fun c => c.toNat < 128)
  | "isdecimal" => some (every isDecimal r)
  | "isdigit" => some (every isDigitChar r)
  | "isidentifier" => some (isIdentifier r.text)
  | "islower" => some (isLowerText r.text)
  | "isnumeric" => some (every isNumeric r)
  | "isprintable" => some (r.chars.all isPrintable)
  | "isspace" => some (every isBlank r)
  | "istitle" => some (isTitle false false r.chars)
  | "isupper" => some (isUpperText r.text)
  | _ => none

/-- Changes of a text that take no arguments. -/
private def spelling? (r : Receiver) (name : String) : Option Value :=
  match name with
  | "capitalize" => some (r.wrap (capitalize r.text))
  | "casefold" => some (r.wrap (caseFold r.text))
  | "lower" => some (r.wrap (lower r.text))
  | "swapcase" => some (r.wrap (swapCase r.text))
  | "title" => some (r.wrap (titleWords r.text))
  | "upper" => some (r.wrap (upper r.text))
  | "__html__" => some (.markup r.text)
  | "unescape" => some (.str (.ofList (Markup.unprotect r.chars)))
  | "striptags" => some (.str (Markup.stripTags r.text))
  | _ => none

private def filled (r : Receiver) (args : List Value) (names : List (String × Value)) :
    Outcome Value := do
  let protect := if r.isMarkup then some Markup.protect else none
  return r.wrap (← Braces.fill protect r.text args names)

/-! Encodings. -/

private def codecOf (name : String) : Outcome Codec :=
  match Codec.find? name with
  | some codec => .ok codec
  | none =>
    if name.toList.contains '\x00' then raise .value "embedded null character"
    else raise .lookup ("unknown encoding: " ++ name)

/-- The encoding that is asked for, and the name of its handler. -/
private def codecArguments (method : String) (a : Actuals) : Outcome (Codec × String) := do
  let args ← a.byName method ["encoding", "errors"]
  let part (i : Nat) (param default : String) : Outcome String :=
    match args[i]?.getD none with
    | none => .ok default
    | some v =>
      match v.asText? with
      | some s => .ok s
      | none =>
        typeError (method ++ "() argument " ++ quoted param ++ " must be str, not " ++
          v.argumentKind)
  let encoding ← part 0 "encoding" "utf-8"
  let errors ← part 1 "errors" "strict"
  return (← codecOf encoding, errors)

private def unknownHandler {α : Type} (name : String) : Outcome α :=
  raise .lookup ("unknown error handler name " ++ quoted name)

private def encoded (r : Receiver) (a : Actuals) : Outcome Value := do
  let (codec, errors) ← codecArguments "encode" a
  match codec.encode ((Codec.Handler.find? errors).getD .strict) r.text with
  | .ok bs => return .bytes bs
  | .error u =>
    if (Codec.Handler.find? errors).isNone then unknownHandler errors
    else raise .unicodeEncode u.message

/-- The text of bytes. -/
def decoded (content : List UInt8) (a : Actuals) : Outcome Value := do
  let (codec, errors) ← codecArguments "decode" a
  match codec.decode ((Codec.Handler.find? errors).getD .strict) content with
  | .ok s => return .str s
  | .error u =>
    if (Codec.Handler.find? errors).isNone then unknownHandler errors
    else raise .unicodeDecode u.message

/-! Tables of characters. -/

private def outOfRange {α : Type} : Outcome α :=
  raise .value "character mapping must be in range(0x110000)"

/-- What a table puts for a character. -/
private def replacement (table : Value) (c : Char) : Outcome (List Char) := do
  let found ← match table with
    | .missing m _ => Value.failMissing m
    | .dict .. | .list .. | .tuple _ | .range .. | .bytes _ => table.item? (.int c.toNat)
    | v =>
      if v.asText?.isSome then v.item? (.int c.toNat)
      else typeError (quoted v.kindName ++ " object is not subscriptable")
  match found with
  | none => return [c]
  | some .none => return []
  | some v =>
    match v.asInt?, v.asText? with
    | some n, _ => if n < 0 || n > 1114111 then outOfRange else return [Char.ofNat n.toNat]
    | none, some s => return s.toList
    | none, none => typeError "character mapping must return integer, None or str"

private def translated (r : Receiver) (a : Actuals) : Outcome Value := do
  let table ← single "translate" a
  return r.wrapChars (← r.chars.mapM (replacement table)).flatten

private def tableKey (k : Value) : Outcome Value :=
  match k.asText?, k.asInt? with
  | some s, _ =>
    match s.toList with
    | [c] => .ok (.int c.toNat)
    | _ => raise .value "string keys in translate table must be of length 1"
  | none, some _ => .ok k
  | none, none => typeError "keys in translate table must be strings or integers"

private def tableText (place : Nat) (v : Value) : Outcome (List Char) :=
  match v.asText? with
  | some s => .ok s.toList
  | none =>
    typeError ("maketrans() argument " ++ ofNat place ++ " must be str, not " ++ v.argumentKind)

/-- A table from a dict, or from characters, those they become, and those that go. -/
private def tableOf (a : Actuals) : Outcome (List (Value × Value)) := do
  let put (es : List (Value × Value)) (c : Char) (v : Value) := Value.putEntry es (.int c.toNat) v
  match ← between "maketrans" 1 3 a with
  | [.dict es _] =>
    es.foldlM (fun table (k, v) => do Value.putEntry table (← tableKey k) v) []
  | x :: y :: rest =>
    let new ← tableText 2 y
    let gone ← match rest with
      | z :: _ => tableText 3 z
      | [] => pure []
    let old ← match x.asText? with
      | some s => pure s.toList
      | none => typeError "first maketrans argument must be a string if there is a second argument"
    if old.length != new.length then
      raise .value "the first two maketrans arguments must have equal length"
    let table ← (old.zip new).foldlM (fun es (c, d) => put es c (.int d.toNat)) []
    gone.foldlM (fun es c => put es c .none) table
  | _ => typeError "if you give only one argument to maketrans it must be a dict"

/-! Calling. -/

/-- The text with fields filled in from a dict; other values fail once a field is looked up. -/
private def filledFrom (r : Receiver) (source : Value) : Outcome Value :=
  match source with
  | .dict entries _ =>
    filled r [] (entries.filterMap fun (k, v) => k.asText?.map fun s => (s, v))
  | v =>
    match filled r [] [] with
    | .error (.raised .key _) =>
      match v, v.asText? with
      | .list .., _ | .tuple _, _ =>
        typeError (v.kindName ++ " indices must be integers or slices, not str")
      | _, some _ => typeError "string indices must be integers, not 'str'"
      | v, none => typeError (quoted v.kindName ++ " object is not subscriptable")
    | o => o

private def withArguments (r : Receiver) (name : String) (a : Actuals) : Outcome Value :=
  match name with
  | "strip" => strip r name trimBy a
  | "lstrip" => strip r name trimLeftBy a
  | "rstrip" => strip r name trimRightBy a
  | "split" => split r name false a
  | "rsplit" => split r name true a
  | "partition" => partition r name false a
  | "rpartition" => partition r name true a
  | "find" => find r name false false a
  | "rfind" => find r name true false a
  | "index" => find r name false true a
  | "rindex" => find r name true true a
  | "count" => count r a
  | "startswith" => affix r name startsWith a
  | "endswith" => affix r name endsWith a
  | "center" => padded r name centre a
  | "ljust" => padded r name padRight a
  | "rjust" => padded r name padLeft a
  | "replace" => replaced r a
  | "join" => joined r a
  | "removeprefix" => affixRemoved r name (fun cs p => (dropStart? cs p).getD cs) a
  | "removesuffix" =>
    affixRemoved r name (fun cs p => if endsWith cs p then cs.take (cs.length - p.length) else cs) a
  | "format" => filled r a.positional a.named
  | "zfill" => do
    let n ← indexOf (← single name a)
    return r.wrapChars (zeroFill n.toNat r.chars)
  | "splitlines" => do
    let args ← a.byName name ["keepends"]
    let keep ← match args.headD none with
      | some v => do pure ((← indexOf v) != 0)
      | none => pure false
    return r.wrapAll (lines keep r.chars)
  | "expandtabs" => do
    let args ← a.byName name ["tabsize"]
    let size ← match args.headD none with
      | some v => indexOf v
      | none => pure 8
    return r.wrapChars (expandTabs size.toNat 0 r.chars)
  | "format_map" => do filledFrom r (← single name a)
  | "encode" => encoded r a
  | "escape" => do return .markup (← Markup.textOf (← single name a))
  | "translate" => translated r a
  | "maketrans" => do return .ofEntries (← tableOf a)
  | _ => typeError ("str." ++ name ++ "() is not available")

/-- The parameters of the methods that markup has of its own, with what stands for those that
are left out. -/
private def markupParams? (name : String) : Option (List String × List (String × Value)) :=
  match name with
  | "replace" => some (["old", "new"], [("count", .int (-1))])
  | "ljust" | "rjust" | "center" => some (["width"], [("fillchar", .str " ")])
  | "strip" | "lstrip" | "rstrip" => some ([], [("chars", .none)])
  | "split" | "rsplit" => some ([], [("sep", .none), ("maxsplit", .int (-1))])
  | "splitlines" => some ([], [("keepends", .bool false)])
  | "expandtabs" => some ([], [("tabsize", .int 8)])
  | "removeprefix" => some (["prefix"], [])
  | "removesuffix" => some (["suffix"], [])
  | "partition" | "rpartition" => some (["sep"], [])
  | "zfill" => some (["width"], [])
  | "translate" => some (["table"], [])
  | "join" => some (["iterable"], [])
  | "format_map" => some (["mapping"], [])
  | "escape" => some (["s"], [])
  | "capitalize" | "casefold" | "lower" | "swapcase" | "title" | "upper" | "unescape" | "striptags"
  | "__html__" => some ([], [])
  | _ => none

/-- The arguments of a method of markup in order. -/
private def markupArguments (name : String) (a : Actuals) : Outcome Actuals := do
  match markupParams? name with
  | none => return a
  | some (required, optional) =>
    let formals : Formals := { required := "self" :: required, optional := optional.map Prod.fst }
    let b ← formals.bind ("Markup." ++ name) (a.push .none)
    return .ofList (required.map (b.get · .none) ++ optional.map fun (n, v) => b.get n v)

/-- Calls a method of a text. -/
def call (r : Receiver) (name : String) (a : Actuals) : Outcome Value := do
  let a ← if r.isMarkup then markupArguments name a else pure a
  match property? r name, spelling? r name with
  | some b, _ =>
    refuseAll name a
    return .bool b
  | none, some v =>
    refuseAll name a
    return v
  | none, none => withArguments r name a

end TextMethod
end Stencil.Template
