import Stencil.Data.Plain
import Stencil.Decimal.Reader
import Stencil.Text.Codec
import Stencil.Yaml.Node.Reader

/-!
Plain values of a document. The content of a collection is looked at after the collections around
it and beside it, level by level, so of two faults the one on the outer level is told.
-/
namespace Stencil.Yaml
open Stencil.Text

/-! Scalars. -/

private def bad {α : Type} (message : String) : Except ScalarFault α := .error (.value message)

/-- Without underscores, and the sign apart. -/
private def signed (text : String) : Except ScalarFault (Bool × List Char) :=
  match text.toList.filter (· != '_') with
  | [] => .error .empty
  | '-' :: rest => .ok (true, rest)
  | '+' :: rest => .ok (false, rest)
  | cs => .ok (false, cs)

private def inBase (base : Nat) (cs : List Char) : Except ScalarFault Int :=
  match Decimal.int? base (.ofList cs) with
  | some n =>
    match Decimal.excess? base (.ofList cs) with
    | some digits => bad (Decimal.tooLongToRead digits)
    | none => .ok n
  | none =>
    bad ("invalid literal for int() with base " ++ ofNat base ++ ": " ++ quoted (.ofList cs))

private def wholeBody (cs : List Char) : Except ScalarFault Int :=
  match cs with
  | [] => .error .empty
  | ['0'] => .ok 0
  | '0' :: 'b' :: rest => inBase 2 rest
  | '0' :: 'x' :: rest => inBase 16 rest
  | '0' :: _ => inBase 8 cs
  | cs =>
    if cs.contains ':' then do
      let groups ← (splitOnChar ':' cs).mapM (inBase 10)
      return groups.foldl (fun n g => n * 60 + g) 0
    else inBase 10 cs

private def whole (text : String) : Except ScalarFault Plain := do
  let (negative, cs) ← signed text
  let n ← wholeBody cs
  return .int (if negative then -n else n)

private def decimalPart (cs : List Char) : Except ScalarFault Float :=
  match Decimal.float? (.ofList cs) with
  | some x => .ok x
  | none => bad ("could not convert string to float: " ++ quoted (.ofList cs))

/-- Groups of sixty from the last one on. -/
private def sixtieths (groups : List Float) : Float :=
  (groups.reverse.foldl (fun (sum, base) g => (sum + g * base, base * 60.0)) (0.0, 1.0)).1

private def decimal (text : String) : Except ScalarFault Plain := do
  let (negative, cs) ← signed (.ofList (lowerChars text.toList))
  let x ← if cs == ".inf".toList then pure Decimal.infinity
    else if cs == ".nan".toList then pure Decimal.notANumber
    else if cs.contains ':' then sixtieths <$> (splitOnChar ':' cs).mapM decimalPart
    else decimalPart cs
  return .float (if negative then -x else x)

private def truth (text : String) : Except ScalarFault Plain :=
  let s := String.ofList (lowerChars text.toList)
  if ["yes", "true", "on"].contains s then .ok (.bool true)
  else if ["no", "false", "off"].contains s then .ok (.bool false)
  else .error (.noEntry s)

private def micros (digits : List Char) : Nat :=
  (padRight 6 '0' (digits.take 6)).foldl (fun n c => n * 10 + (c.toNat - 48)) 0

private def checkedOffset (minutes : Int) : Except ScalarFault Unit :=
  if minutes.natAbs < 1440 then .ok ()
  else bad ("offset must be a timedelta strictly between -timedelta(hours=24) and " ++
    "timedelta(hours=24), not " ++ durationListing minutes ++ ".")

private def moment (text : String) : Except ScalarFault Plain :=
  match dated? text.toList with
  | none => .error .noMatch
  | some d =>
    let day : Day := ⟨d.year, d.month, d.day⟩
    if d.rest.isEmpty then
      match day.fault? with
      | some message => bad message
      | none => .ok (.ofDay day)
    else
      match timed? d.rest with
      | none => .error .noMatch
      | some t => do
        if let some minutes := t.offset then checkedOffset minutes
        let clock : Clock := ⟨t.hour, t.minute, t.second, micros t.fraction⟩
        match day.fault?.or clock.fault? with
        | some message => bad message
        | none => return .ofInstant day clock t.offset

private def binary (text : String) (start : Mark) : Except Fault Plain := do
  if let .error e := Codec.ascii.encode .strict text then
    faultAt ("failed to convert base64 data into ascii: " ++ e.message) start
  match decodeBase64 text.toList with
  | .ok bytes => .ok (.bytes bytes)
  | .error message => faultAt ("failed to decode base64 data: " ++ message) start

private def told {α : Type} : Except ScalarFault α → Except Fault α
  | .ok a => .ok a
  | .error f => .error (.scalar f)

private def noValueFor {α : Type} (tag : String) (start : Mark) : Except Fault α :=
  faultAt ("could not determine a constructor for the tag " ++ quoted tag) start

private def scalarTags : List String :=
  ["null", "bool", "int", "float", "binary", "timestamp", "str"].map coreTag

private def collectionTags : List String := ["omap", "pairs", "set", "seq", "map"].map coreTag

/-- The value of a scalar whose tag asks for one. -/
private def scalarValue (tag text : String) (start : Mark) : Except Fault Plain :=
  if tag == coreTag "str" then .ok (.str text)
  else if tag == coreTag "null" then .ok .none
  else if tag == coreTag "int" then told (whole text)
  else if tag == coreTag "float" then told (decimal text)
  else if tag == coreTag "bool" then told (truth text)
  else if tag == coreTag "timestamp" then told (moment text)
  else if tag == coreTag "binary" then binary text start
  else noValueFor tag start

/-! Mappings. -/

private def isMergeKey (n : Node) : Bool := n.tag == coreTag "merge"
private def isValueKey (n : Node) : Bool := n.tag == coreTag "value"

private def asTextKey : Node → Node
  | .scalar tag text m => .scalar (if tag == coreTag "value" then coreTag "str" else tag) text m
  | n => n

private abbrev Entries := List (Node × Node)

/-- The entries of a mapping with those of merged mappings before them; where several mappings
are merged at once, the last comes first. -/
private def merged (place : Mark) : Nat → Entries → Except Fault Entries
  | 0, entries => .ok entries
  | fuel + 1, entries => do
    let found ← (entries.filter fun (k, _) => isMergeKey k).mapM fun (_, v) =>
      match v with
      | .mapping _ es m => merged m fuel es
      | .self .. => return []
      | .sequence _ vs _ => do
        let parts ← vs.mapM fun
          | .mapping _ es m => merged m fuel es
          | .self true _ => return []
          | v => faultIn "while constructing a mapping" place
              ("expected a mapping for merging, but found " ++ v.kindName) v.start
        return parts.reverse.flatten
      | v => faultIn "while constructing a mapping" place
          ("expected a mapping or list of mappings for merging, but found " ++ v.kindName) v.start
    let own := (entries.filter fun (k, _) => !isMergeKey k).map fun (k, v) => (asTextKey k, v)
    return found.flatten ++ own

/-! Faults, level by level. -/

/-- The text that a node stands for where a scalar is asked for. -/
private def scalarText? : Nat → Node → Option String
  | 0, _ => none
  | _, .scalar _ text _ => some text
  | fuel + 1, .mapping _ es _ =>
    (es.find? fun (k, _) => isValueKey k).bind fun (_, v) => scalarText? fuel v
  | _, _ => none

/-- Whether a node is looked into later. -/
private def isDeferred (n : Node) : Bool := collectionTags.contains n.tag

/-- Checks what can be said of a node at once. -/
private def checkNode (n : Node) : Except Fault Unit :=
  match n with
  | .self .. => .ok ()
  | n =>
    if isDeferred n then .ok ()
    else if scalarTags.contains n.tag then
      match scalarText? (n.tag.length + 64) n with
      | some text => (scalarValue n.tag text n.start).map fun _ => ()
      | none => faultAt ("expected a scalar node, but found " ++ n.kindName) n.start
    else noValueFor n.tag n.start

private def isUnhashable (n : Node) : Bool :=
  match n with
  | .self .. => true
  | n => isDeferred n

private def checkEntries (place : Mark) : Entries → Except Fault Unit
  | [] => .ok ()
  | (k, v) :: rest => do
    checkNode k
    if isUnhashable k then
      faultIn "while constructing a mapping" place "found unhashable key" k.start
    checkNode v
    checkEntries place rest

/-- The single entry of an item of an ordered mapping. -/
private def checkPair (context : String) (place : Mark) (n : Node) : Except Fault (List Node) :=
  match n with
  | .mapping _ [(k, v)] _ => do
    checkNode k
    checkNode v
    return [k, v]
  | .mapping _ es m => faultIn context place
      ("expected a single mapping item, but found " ++ ofNat es.length ++ " items") m
  | n => faultIn context place ("expected a mapping of length 1, but found " ++ n.kindName) n.start

/-- Checks the content of a collection; what is looked into next. -/
private def checkContent (fuel : Nat) (n : Node) : Except Fault (List Node) :=
  let tag := n.tag
  if tag == coreTag "seq" then
    match n with
    | .sequence _ items _ => do
      items.forM checkNode
      return items
    | n => faultAt ("expected a sequence node, but found " ++ n.kindName) n.start
  else if tag == coreTag "map" || tag == coreTag "set" then
    match n with
    | .mapping _ entries m => do
      let entries ← merged m fuel entries
      checkEntries m entries
      return entries.flatMap fun (k, v) => [k, v]
    | n => faultAt ("expected a mapping node, but found " ++ n.kindName) n.start
  else
    let context := if tag == coreTag "omap" then "while constructing an ordered map"
      else "while constructing pairs"
    match n with
    | .sequence _ items m => List.flatten <$> items.mapM (checkPair context m)
    | n => faultIn context n.start ("expected a sequence, but found " ++ n.kindName) n.start

private def checkLevels : Nat → List Node → Except Fault Unit
  | 0, _ => .ok ()
  | fuel + 1, level =>
    if level.isEmpty then .ok ()
    else do
      let parts ← level.mapM (checkContent fuel)
      checkLevels fuel (parts.flatten.filter isDeferred)

/-! Values. -/

/-- Equal keys: numbers by what they count, everything else by how it is listed. -/
private def sameKey (a b : Plain) : Bool :=
  let number : Plain → Option Float
    | .bool b => some (if b then 1.0 else 0.0)
    | .float x => some x
    | _ => none
  match a, b with
  | .int m, .int n => m == n
  | .int m, b => (number b).any fun y => Decimal.ofInt m == y
  | a, .int n => (number a).any fun x => x == Decimal.ofInt n
  | a, b =>
    match number a, number b with
    | some x, some y => x == y
    | none, none => a.listing == b.listing
    | _, _ => false

/-- Sets the value of a key; a key keeps its place and its first spelling. -/
private def put (k v : Plain) : List (Plain × Plain) → List (Plain × Plain)
  | [] => [(k, v)]
  | (k', v') :: rest => if sameKey k' k then (k', v) :: rest else (k', v') :: put k v rest

private def orElse (r : Except Fault Plain) : Plain := r.toOption.getD .none

/-- The value of a node; `around` tells how a collection around it appears from itself on. -/
private def plainOf (around : Mark → Option String) : Nat → Node → Plain
  | 0, _ => .none
  | fuel + 1, n =>
    let tag := n.tag
    match n with
    | .self isMapping start =>
      let listing := if isMapping then "\x7b...\x7d" else "[...]"
      .shown ((around start).getD listing) listing
    | .scalar _ text m => orElse (scalarValue tag text m)
    | .sequence _ items _ =>
      if tag == coreTag "seq" then .list (items.map (plainOf around fuel))
      else
        .list (items.map fun
          | .mapping _ [(k, v)] _ => .tuple [plainOf around fuel k, plainOf around fuel v]
          | _ => .none)
    | .mapping _ entries m =>
      if tag == coreTag "map" || tag == coreTag "set" then
        let all := ((merged m fuel entries).toOption).getD []
        let values := all.foldl (fun es (k, v) =>
          put (plainOf around fuel k) (plainOf around fuel v) es) []
        if tag == coreTag "map" then .dict values else .set (values.map Prod.fst)
      else orElse (scalarValue tag ((scalarText? fuel n).getD "") m)

/-- The value of the one document in a text. -/
def read (text : String) : Except Fault Plain := do
  match ← Node.read text with
  | none => return .none
  | some n =>
    let fuel := text.length + 8
    checkNode n
    checkLevels fuel (if isDeferred n then [n] else [])
    let around (m : Mark) : Option String :=
      (n.collectionAt? m fuel).map fun a => (plainOf (fun _ => none) fuel a).listing
    return plainOf around fuel n

end Stencil.Yaml
