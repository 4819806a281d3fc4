import Stencil.Template.Json
import Stencil.Template.Value.Order
import Stencil.Template.Value.TextMethods

/-!
Calling the methods of values and the functions that users add. A method gives its result and
what its receiver holds afterwards.
-/
namespace Stencil.Template
open Stencil.Text

namespace Method

private def refuseAll (kind name : String) (a : Actuals) : Outcome Unit :=
  a.refuseAll (kind ++ "." ++ name)

private def single (kind name : String) (a : Actuals) : Outcome Value :=
  a.single (kind ++ "." ++ name)

private def between (kind name : String) (least most : Nat) (a : Actuals) :
    Outcome (List Value) :=
  a.between (kind ++ "." ++ name) name least most

private def placeOf (x : Value) (complaint : String) : Nat → List Value → Outcome Nat
  | _, [] => raise .value complaint
  | i, v :: rest => do if ← Value.equal v x then return i else placeOf x complaint (i + 1) rest

/-- A bound of a search, counted from the end when negative. -/
private def boundOf (size : Nat) (v : Value) : Outcome Nat :=
  match v.asInt? with
  | some n => .ok (min size (if n < 0 then n + size else n).toNat)
  | none => typeError "slice indices must be integers or have an __index__ method"

private def countOf (x : Value) : List Value → Outcome Nat
  | [] => .ok 0
  | v :: rest => do return (← countOf x rest) + (if ← Value.equal v x then 1 else 0)

private def sequence (self : Value) (name : String) (vs : List Value) (a : Actuals) :
    Outcome Value := do
  let kind := match self with
    | .group .. => "tuple"
    | v => v.kindName
  match name, self with
  | "count", _ => return .int (← countOf (← single kind name a) vs)
  | _, .range .. =>
    let x ← single kind name a
    let complaint := match x with
      | .int _ | .bool _ => x.listing ++ " is not in range"
      | _ => "sequence.index(x): x not in sequence"
    return .int (← placeOf x complaint 0 vs)
  | _, _ =>
    match ← between kind name 1 3 a with
    | x :: bounds =>
      let start ← match bounds with
        | v :: _ => boundOf vs.length v
        | [] => pure 0
      let stop ← match bounds with
        | [_, v] => boundOf vs.length v
        | _ => pure vs.length
      let complaint := match self with
        | .list .. => x.listing ++ " is not in list"
        | _ => "tuple.index(x): x not in tuple"
      return .int (← placeOf x complaint start ((vs.take stop).drop start))
    | [] => return .none

private def popped (vs : List Value) (a : Actuals) : Outcome (Value × Value) := do
  let args ← between "list" "pop" 0 1 a
  let i ← match args with
    | [] => pure (-1)
    | v :: _ => TextMethod.indexOf v
  if vs.isEmpty then raise .index "pop from empty list"
  match Value.placeOf? vs.length i with
  | some n => return ((vs[n]?).getD .none, .ofList (vs.eraseIdx n))
  | none => raise .index "pop index out of range"

private def removed (x : Value) : List Value → Outcome (List Value)
  | [] => raise .value "list.remove(x): x not in list"
  | v :: rest => do if ← Value.equal v x then return rest else return v :: (← removed x rest)

private def list (vs : List Value) (name : String) (a : Actuals) : Outcome (Value × Value) := do
  let changed (vs : List Value) : Value × Value := (.none, .ofList vs)
  match name with
  | "append" => return changed (vs ++ [← single "list" name a])
  | "clear" =>
    refuseAll "list" name a
    return changed []
  | "copy" =>
    refuseAll "list" name a
    return (.ofList vs, .ofList vs)
  | "extend" => return changed (vs ++ (← (← single "list" name a).items))
  | "insert" =>
    match ← between "list" name 2 2 a with
    | [i, v] =>
      let i ← TextMethod.indexOf i
      let i := if i < 0 then max 0 (i + vs.length) else min i vs.length
      return changed (vs.take i.toNat ++ v :: vs.drop i.toNat)
    | _ => return changed vs
  | "pop" => popped vs a
  | "remove" => return changed (← removed (← single "list" name a) vs)
  | "reverse" =>
    refuseAll "list" name a
    return changed vs.reverse
  | "sort" =>
    if !a.positional.isEmpty then typeError "sort() takes no positional arguments"
    match a.named.find? fun e => e.1 != "reverse" && e.1 != "key" with
    | some (k, _) => typeError (quoted k ++ " is an invalid keyword argument for sort()")
    | none => pure ()
    let reverse ← match a.named.lookup "reverse" with
      | some v => v.truth
      | none => pure false
    return changed (← sortValues reverse vs)
  | name => return (← sequence (.ofList vs) name vs a, .ofList vs)

private def pairOf (i : Nat) (v : Value) : Outcome (Value × Value) := do
  let items ← match v.items with
    | .ok items => pure items
    | .error (.raised ..) =>
      typeError ("cannot convert dictionary update sequence element #" ++ ofNat i ++
        " to a sequence")
    | .error e => throw e
  match items with
  | [k, w] => return (k, w)
  | items =>
    raise .value ("dictionary update sequence element #" ++ ofNat i ++ " has length " ++
      ofNat items.length ++ "; 2 is required")

/-- Entries of a dict, or pairs of keys and values. -/
def entriesOf : Value → Outcome (List (Value × Value))
  | .dict es _ => .ok es
  | v => do (← v.items).zipIdx.mapM fun (w, i) => pairOf i w

/-- Entries from at most one source and from names. -/
def updated (es : List (Value × Value)) (name : String) (a : Actuals) :
    Outcome (List (Value × Value)) := do
  let more ← match a.positional with
    | [] => pure []
    | [v] => entriesOf v
    | vs => typeError (name ++ " expected at most 1 argument, got " ++ ofNat vs.length)
  let more := more ++ a.named.map fun (k, v) => (.str k, v)
  more.foldlM (fun es (k, v) => Value.putEntry es k v) es

private def without (es : List (Value × Value)) (key : Value) :
    Outcome (List (Value × Value)) :=
  es.filterM fun e => do return !(← Value.equal e.1 key)

private def ofKeys (a : Actuals) : Outcome Value := do
  match ← between "dict" "fromkeys" 1 2 a with
  | keys :: rest =>
    let v := rest.headD .none
    return .ofEntries (← (← keys.items).foldlM (fun es k => Value.putEntry es k v) [])
  | [] => return .none

private def dict (es : List (Value × Value)) (place : Place) (name : String) (a : Actuals) :
    Outcome (Value × Value) := do
  let same (v : Value) : Value × Value := (v, .dict es place)
  match name with
  | "keys" =>
    refuseAll "dict" name a
    return same (.view .keys es place)
  | "values" =>
    refuseAll "dict" name a
    return same (.view .values es place)
  | "items" =>
    refuseAll "dict" name a
    return same (.view .items es place)
  | "copy" =>
    refuseAll "dict" name a
    return same (.ofEntries es)
  | "clear" =>
    refuseAll "dict" name a
    return (.none, .ofEntries [])
  | "popitem" =>
    refuseAll "dict" name a
    match es.getLast? with
    | some (k, v) => return (Value.pair k v, .ofEntries es.dropLast)
    | none => raise .key "'popitem(): dictionary is empty'"
  | "update" => return (.none, .ofEntries (← updated es "update" a))
  | "fromkeys" => return same (← ofKeys a)
  | _ =>
    let args ← between "dict" name 1 2 a
    let key := args.headD .none
    let found ← Value.valueOf? es key
    match name, found with
    | "get", found => return same (found.getD ((args[1]?).getD .none))
    | "setdefault", some v => return same v
    | "setdefault", none =>
      let v := (args[1]?).getD .none
      return (v, .ofEntries (← Value.putEntry es key v))
    | _, some v => return (v, .ofEntries (← without es key))
    | _, none =>
      match args[1]? with
      | some v => return same v
      | none => raise .key key.listing

private def bitCount (n : Nat) : Nat := ((Nat.toDigits 2 n).filter (· == '1')).length

private def hexDigits (n : Nat) : List Char := digitsBase 16 13 n

/-- A floating number in hexadecimal: the first digit is one unless the number is too small. -/
private def hexText (x : Float) : String :=
  let bits := x.toBits.toNat
  let sign := if Decimal.isNegative x then "-" else ""
  let exponent := bits / 0x10000000000000 % 0x800
  let fraction := bits % 0x10000000000000
  match Decimal.dyadic? x with
  | none => Decimal.text x
  | some _ =>
    if x == 0.0 then sign ++ "0x0.0p+0"
    else
      let power : Int := if exponent == 0 then -1022 else (exponent : Int) - 1023
      sign ++ "0x" ++ (if exponent == 0 then "0" else "1") ++ "." ++ .ofList (hexDigits fraction) ++
        "p" ++ (if power < 0 then "" else "+") ++ ofInt power

private def ratioOf (x : Float) : Outcome Value :=
  match Decimal.dyadic? x with
  | none =>
    if x.isNaN then raise .value "cannot convert NaN to integer ratio"
    else raise .overflow "cannot convert Infinity to integer ratio"
  | some d =>
    let (num, den) := d.fraction
    let g := Nat.gcd num.natAbs den
    .ok (.tuple [.int (num / g), .int (den / g)])

private def number (self : Value) (name : String) (a : Actuals) : Outcome Value := do
  let kind := match self with
    | .bool _ => "int"
    | v => v.kindName
  refuseAll kind name a
  match self, name with
  | .float x, "is_integer" =>
    return .bool (match Decimal.truncate? x with
      | some n => Decimal.ofInt n == x
      | none => false)
  | .float x, "hex" => return .str (hexText x)
  | .float x, "as_integer_ratio" => ratioOf x
  | .float x, _ => return .float x
  | .complex x y, _ => return .complex x (-y)
  | v, name =>
    let n := v.asInt?.getD 0
    match name with
    | "conjugate" => return .int n
    | "as_integer_ratio" => return .tuple [.int n, .int 1]
    | "bit_length" => return .int (if n == 0 then 0 else n.natAbs.log2 + 1)
    | _ => return .int (bitCount n.natAbs)

private def bytes (content : List UInt8) (name : String) (a : Actuals) : Outcome Value := do
  match name with
  | "decode" => TextMethod.decoded content a
  | _ =>
    let parts := content.map fun b => String.ofList (digitsBase 16 2 b.toNat)
    match a.positional with
    | [] => return .str (joinWith "" parts)
    | sep :: _ =>
      match sep.asText? with
      | some s => return .str (joinWith s parts)
      | none => typeError ("object of type " ++ quoted sep.kindName ++ " has no len()")

/-! Records. -/

private def hasAttribute (kind : String) (fields : List (String × Value)) (a : Actuals) :
    Outcome Value := do
  let formals : Formals := { required := ["self", "name"] }
  let b ← formals.bind (kind ++ ".has_attribute") (a.push .none)
  match b.get "name" .none with
  | .missing m _ => Value.failMissing m
  | v =>
    match v.asText? with
    | some s => return .bool (← Value.carries fields s)
    | none => raise .attribute (quoted v.kindName ++ " object has no attribute 'rsplit'")

private def copyOf (kind : RecordKind) (fields : List (String × Value)) (a : Actuals) :
    Outcome Value := do
  let formals : Formals := { required := ["self"], namedOnly := ["update", "deep"] }
  let b ← formals.bind "BaseModel.model_copy" (a.push .none)
  let deep ← (b.get "deep" (.bool false)).truth
  let fields := if deep then Value.copiedFields fields else fields
  let more ← match b.get "update" .none with
    | .none => pure []
    | v => entriesOf v
  let fields := more.foldl (fun fs (k, v) => putNamed fs (k.asText?.getD k.listing) v) fields
  return .record kind fields none

private def dumpFormals : Formals :=
  { required := ["self"]
    namedOnly := ["mode", "indent", "include", "exclude", "context", "by_alias", "exclude_unset",
      "exclude_defaults", "exclude_none", "round_trip", "warnings", "serialize_as_any"] }

private def record (kind : RecordKind) (fields : List (String × Value)) (place : Place)
    (name : String) (a : Actuals) : Outcome Value := do
  let self := Value.record kind fields place
  match name with
  | "has_attribute" => hasAttribute self.kindName fields a
  | "copy" | "model_copy" => copyOf kind fields a
  | "dict" | "model_dump" =>
    let b ← dumpFormals.bind "BaseModel.model_dump" (a.push .none)
    return self.dumped ((b.get "mode" (.str "python")).asText? == some "json")
  | _ =>
    let b ← dumpFormals.bind "BaseModel.model_dump_json" (a.push .none)
    return .str (Json.recordText ((b.get "indent" .none).asInt?.map Int.toNat) self)

/-- Calls a method: its result, and what the receiver holds afterwards. -/
def call (self : Value) (name : String) (a : Actuals) : Outcome (Value × Value) := do
  let same (v : Outcome Value) : Outcome (Value × Value) := v.map fun v => (v, self)
  match self with
  | .list vs _ => list vs name a
  | .dict es place => dict es place name a
  | .markup s => same (TextMethod.call ⟨s, true⟩ name a)
  | .record kind fields place => same (record kind fields place name a)
  | .bytes content => same (bytes content name a)
  | .bool _ | .int _ | .float _ | .complex .. => same (number self name a)
  | v =>
    match v.asText? with
    | some s => same (TextMethod.call ⟨s, false⟩ name a)
    | none => do same (sequence v name (← v.items) a)

/-- The methods that change their receiver. -/
def changes (name : String) : Bool :=
  ["append", "clear", "extend", "insert", "pop", "popitem", "remove", "reverse", "setdefault",
    "sort", "update"].contains name

end Method

/-! User functions. -/

namespace FunctionBody

/-- The parameters that go with a body. -/
def params : FunctionBody → List (String × Option Plain)
  | .tag => [("cls", none), ("value", none)]
  | .join => [("a", none), ("b", some (.str "z"))]
  | .nothing => [("value", some .none)]
  | _ => [("value", none)]

private def firstLowered (v : Value) : Outcome Value := do
  let head ← v.slice .none (.int 1) .none
  let first ← match ← head.attribute? "lower" with
    | some (.method self name) => do pure (← Method.call self name {}).1
    | _ => raise .attribute (quoted head.kindName ++ " object has no attribute 'lower'")
  Value.binary .add first (← v.slice (.int 1) .none .none)

private def classText : Value → Outcome String
  | .class name => .ok name
  | .builtin .range => .ok "range"
  | .builtin .dict => .ok "dict"
  | .function f => .ok f.shown
  | .missing m _ => Value.failMissing m
  | v => raise .attribute (quoted v.kindName ++ " object has no attribute '__name__'")

/-- What a body gives for its arguments. -/
def run (body : FunctionBody) (args : List Value) : Outcome Value := do
  match body, args with
  | .upper, v :: _ => return .str (Text.upper (← v.text))
  | .exclaim, v :: _ => return .str (Text.upper (← v.text) ++ "!")
  | .tag, c :: v :: _ => return .str ("<" ++ (← classText c) ++ ":" ++ (← v.text) ++ ">")
  | .lowerFirst, v :: _ => firstLowered v
  | .echo, v :: _ => return v
  | .length, v :: _ => return .int (← v.length)
  | .join, a :: b :: _ => return .str ((← a.text) ++ "-" ++ (← b.text))
  | .refuse, v :: _ => raise .value ("cannot handle " ++ (← v.text))
  | _, _ => return .none

end FunctionBody

def UserFunction.call (f : UserFunction) (a : Actuals) : Outcome Value := do
  f.body.run ((← f.bind a).drop f.skipped)

end Stencil.Template
