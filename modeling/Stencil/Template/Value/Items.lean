import Stencil.Template.Value.Record

/-!
The items of values: iteration, length, indexing, slices, and the attributes that values have by
their kind.
-/
namespace Stencil.Template
open Stencil.Text

namespace Value

def chars (s : String) : List Value := s.toList.map fun c => str (.singleton c)

def pair (k v : Value) : Value := tuple [k, v]

/-- The numbers of a range. -/
def rangeItems (start stop step : Int) : List Value :=
  (List.range (rangeLength start stop step)).map fun (i : Nat) => int (start + step * i)

private def fieldPairs (fs : List (String × Value)) : List Value :=
  fs.map fun (name, v) => pair (str name) v

def notIterable {α : Type} (v : Value) : Outcome α :=
  typeError (quoted v.kindName ++ " object is not iterable")

/-- The items of a value that is no object. -/
def items : Value → Outcome (List Value)
  | missing m lenient => if lenient then .ok [] else failMissing m
  | str s | markup s => .ok (chars s)
  | typeKind k => .ok (chars k.name)
  | memberKind k => .ok (chars k.name)
  | bytes content => .ok (content.map fun b => int b.toNat)
  | tuple vs | list vs _ => .ok vs
  | group key vs place => .ok [key, list vs place]
  | dict entries _ | view .keys entries _ => .ok (entries.map Prod.fst)
  | view .values entries _ => .ok (entries.map Prod.snd)
  | view .items entries _ => .ok (entries.map fun (k, v) => pair k v)
  | range start stop step => .ok (rangeItems start stop step)
  | record _ fields _ => .ok (fieldPairs fields)
  | v => notIterable v

def length : Value → Outcome Nat
  | missing m lenient => if lenient then .ok 0 else failMissing m
  | str s | markup s => .ok s.length
  | typeKind k => .ok k.name.length
  | memberKind k => .ok k.name.length
  | bytes content => .ok content.length
  | tuple vs | list vs _ => .ok vs.length
  | group .. => .ok 2
  | dict entries _ | view _ entries _ => .ok entries.length
  | range start stop step => .ok (rangeLength start stop step)
  | v => typeError ("object of type " ++ quoted v.kindName ++ " has no len()")

/-- A place counted from the start, or from the end when negative. -/
def placeOf? (size : Nat) (i : Int) : Option Nat :=
  let i := if i < 0 then i + size else i
  if 0 ≤ i && i < size then some i.toNat else Option.none

private def itemAt? (vs : List Value) (key : Value) : Option Value :=
  key.asInt?.bind fun i => (placeOf? vs.length i).bind fun n => vs[n]?

/-- The item of a value that is no object under a key; nothing when it has none. -/
def item? (v key : Value) : Outcome (Option Value) :=
  match v with
  | missing m _ => failMissing m
  | dict entries _ =>
    match valueOf? entries key with
    | .error (.raised ..) => .ok Option.none
    | r => r
  | tuple vs | list vs _ => .ok (itemAt? vs key)
  | group k vs place => .ok (itemAt? [k, list vs place] key)
  | range start stop step =>
    .ok (key.asInt?.bind fun i => (placeOf? (rangeLength start stop step) i).map fun n =>
      int (start + step * n))
  | bytes content =>
    .ok (key.asInt?.bind fun i => (placeOf? content.length i).bind fun n =>
      content[n]?.map fun b => int b.toNat)
  | v =>
    match v.asText? with
    | some s =>
      .ok (key.asInt?.bind fun i => (placeOf? s.length i).bind fun n =>
        s.toList[n]?.map fun c =>
          match v with
          | markup _ => markup (.singleton c)
          | _ => str (.singleton c))
    | Option.none => .ok Option.none

/-! Slices. -/

private def slicePart (default : Int) : Value → Outcome Int
  | none => .ok default
  | v =>
    match v.asInt? with
    | some n => .ok n
    | Option.none =>
      typeError "slice indices must be integers or None or have an __index__ method"

private def clampTo (low high n : Int) : Int :=
  if n < low then low else if n > high then high else n

/-- The places a slice takes, as a range. -/
def sliceRange (size : Nat) (start stop step : Value) : Outcome (Int × Int × Int) := do
  let step ← slicePart 1 step
  if step == 0 then raise .value "slice step cannot be zero"
  let n : Int := size
  let low : Int := if step < 0 then -1 else 0
  let high : Int := if step < 0 then n - 1 else n
  let fix (i : Int) : Int := clampTo low high (if i < 0 then i + n else i)
  let start ← match start with
    | none => pure (if step < 0 then high else low)
    | v => fix <$> slicePart 0 v
  let stop ← match stop with
    | none => pure (if step < 0 then low else high)
    | v => fix <$> slicePart 0 v
  return (start, stop, step)

def slicePlaces (size : Nat) (start stop step : Value) : Outcome (List Nat) := do
  let (start, stop, step) ← sliceRange size start stop step
  return (List.range (rangeLength start stop step)).map fun (i : Nat) => (start + step * i).toNat

private def pick {α : Type} (xs : List α) (places : List Nat) : List α :=
  let xs := xs.toArray
  places.filterMap fun i => xs[i]?

def slice (v start stop step : Value) : Outcome Value := do
  match v with
  | missing m _ => failMissing m
  | list vs _ => return ofList (pick vs (← slicePlaces vs.length start stop step))
  | tuple vs => return tuple (pick vs (← slicePlaces vs.length start stop step))
  | group k vs place =>
    return tuple (pick [k, list vs place] (← slicePlaces 2 start stop step))
  | bytes content => return bytes (pick content (← slicePlaces content.length start stop step))
  | range a b c =>
    let (start, stop, step) ← sliceRange (rangeLength a b c) start stop step
    return range (a + c * start) (a + c * stop) (c * step)
  | dict .. => typeError "unhashable type: 'slice'"
  | v =>
    match v.asText? with
    | some s =>
      let cut := String.ofList (pick s.toList (← slicePlaces s.length start stop step))
      return match v with
        | markup _ => markup cut
        | _ => str cut
    | Option.none => typeError (quoted v.kindName ++ " object is not subscriptable")

/-! Attributes. -/

private def textMethods : List String :=
  ["capitalize", "casefold", "center", "count", "encode", "endswith", "expandtabs", "find",
    "format", "format_map", "index", "isalnum", "isalpha", "isascii", "isdecimal", "isdigit",
    "isidentifier", "islower", "isnumeric", "isprintable", "isspace", "istitle", "isupper",
    "join", "ljust", "lower", "lstrip", "maketrans", "partition", "removeprefix", "removesuffix",
    "replace", "rfind", "rindex", "rjust", "rpartition", "rsplit", "rstrip", "split", "splitlines",
    "startswith", "strip", "swapcase", "title", "translate", "upper", "zfill"]

private def markupMethods : List String := ["__html__", "escape", "striptags", "unescape"]

private def methodNames : Value → List String
  | str _ => textMethods
  | markup _ => textMethods ++ markupMethods
  | typeKind _ | memberKind _ => textMethods
  | bytes _ => ["decode", "hex"]
  | list .. =>
    ["append", "clear", "copy", "count", "extend", "index", "insert", "pop", "remove",
      "reverse", "sort"]
  | tuple _ | group .. | range .. => ["count", "index"]
  | dict .. =>
    ["clear", "copy", "fromkeys", "get", "items", "keys", "pop", "popitem", "setdefault",
      "update", "values"]
  | bool _ | int _ => ["as_integer_ratio", "bit_count", "bit_length", "conjugate"]
  | float _ => ["as_integer_ratio", "conjugate", "hex", "is_integer"]
  | complex .. => ["conjugate"]
  | record .. => ["copy", "dict", "has_attribute", "json", "model_copy", "model_dump",
    "model_dump_json"]
  | object _ kind _ =>
    match kind with
    | .cycler => ["next", "reset"]
    | .loop => ["cycle", "changed"]
    | _ => []
  | _ => []

/-- The name of the class of a value where it is told from others of its name. -/
private def qualifiedKind (v : Value) : String :=
  match v with
  | markup _ | group .. | record .. | typeKind _ | memberKind _ | model _ | missing ..
  | object .. =>
    v.described.dropEnd " object".length |>.toString
  | _ => v.kindName

private def computedField? (fields : List (String × Value)) (name : String) :
    Option (Outcome Value) :=
  let only (k : Model.MemberKind) : Option (Outcome Value) := some (ofList <$> membersOf fields k)
  match name with
  | "full_name" => some (.ok (str (fullName fields)))
  | "methods" => only .method
  | "properties" => only .property
  | "fields" => only .field
  | "values" => only .value
  | _ => Option.none

/-- What a value has by its kind, besides methods. -/
private def ownAttribute? (v : Value) (name : String) : Outcome (Option Value) :=
  match v with
  | bool b => .ok <|
    [("real", int (if b then 1 else 0)), ("imag", int 0), ("numerator", int (if b then 1 else 0)),
      ("denominator", int 1)].lookup name
  | int n => .ok <|
    [("real", int n), ("imag", int 0), ("numerator", int n), ("denominator", int 1)].lookup name
  | float x => .ok ([("real", float x), ("imag", float 0.0)].lookup name)
  | complex x y => .ok ([("real", float x), ("imag", float y)].lookup name)
  | group key vs place => .ok ([("grouper", key), ("list", list vs place)].lookup name)
  | range start stop step =>
    .ok ([("start", int start), ("stop", int stop), ("step", int step)].lookup name)
  | record kind fields _ =>
    match fields.lookup name with
    | some f => .ok (some f)
    | Option.none =>
      match kind, computedField? fields name with
      | .type, some o => some <$> o
      | _, _ => .ok Option.none
  | typeKind k => .ok ([("name", str (upper k.name)), ("value", str k.name)].lookup name)
  | memberKind k => .ok ([("name", str (upper k.name)), ("value", str k.name)].lookup name)
  | model c =>
    .ok <| match name with
    | "classes" => some (ofList (typesOf c .ordinary))
    | "interfaces" => some (ofList (typesOf c .interface))
    | "enums" => some (ofList (typesOf c .enum))
    | "delegates" => some (ofList (typesOf c .delegate))
    | "source_count" => some (int c.sourceCount)
    | _ => Option.none
  | function f => .ok (if name == "__name__" then some (str f.shown) else Option.none)
  | .class full =>
    .ok (if name == "__name__" then some (str (.ofList (Model.lastSegment full.toList)))
      else Option.none)
  | object _ _ shown => .ok (shown.lookup name)
  | _ => .ok Option.none

/-- The attribute of a value. -/
def attribute? (v : Value) (name : String) : Outcome (Option Value) := do
  match ← ownAttribute? v name with
  | some a => return some a
  | Option.none =>
    if (methodNames v).contains name then return some (method v name)
    else if name == "__class__" then return some (.class (qualifiedKind v))
    else return Option.none

end Value
end Stencil.Template
