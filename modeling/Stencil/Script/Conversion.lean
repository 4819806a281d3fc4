import Stencil.Decimal.Binary
import Stencil.Decimal.Reader
import Stencil.Script.Class
import Stencil.Template.Value.Methods

/-!
Values made by calling the class of their kind: numbers from texts, collections from items, and the
things that go through the items of others.
-/
namespace Stencil.Script
open Stencil.Text
open Stencil.Template (Value Actuals)

/-! Numbers. -/

/-- The whole number that a value may stand for as an index. -/
def indexOf (run : Run) (v : Value) : Eval Int := do
  match ← callSpecial? run v "__index__" [] with
  | some (.int n) => return n
  | some r => typeError ("__index__ returned non-int (type " ++ r.kindName ++ ")")
  | none => lift (Template.TextMethod.indexOf v)

private def readWhole (base : Int) (shown s : String) : Eval Value := do
  match Decimal.int? base.toNat s, Decimal.excess? base.toNat s with
  | some n, none => return .int n
  | some _, some digits => raise "ValueError" (Decimal.tooLongToRead digits)
  | none, _ =>
    raise "ValueError" ("invalid literal for int() with base " ++ ofInt base ++ ": " ++ shown)

private def textOfBytes (content : List UInt8) : String :=
  .ofList (content.map fun b => Char.ofNat b.toNat)

private def cutFloat (x : Float) : Eval Value := do
  match Decimal.truncate? x with
  | some n => return .int n
  | none =>
    if x.isNaN then raise "ValueError" "cannot convert float NaN to integer"
    else raise "OverflowError" "cannot convert float infinity to integer"

private def wholeFrom (run : Run) (v : Value) : Eval Value := do
  match v with
  | .str s => readWhole 10 (quoted s) s
  | .bytes content => readWhole 10 v.listing (textOfBytes content)
  | .float x => cutFloat x
  | v =>
    match v.asInt?, ← callSpecial? run v "__int__" [] with
    | some n, _ => return .int n
    | none, some r => return r
    | none, none =>
      match ← special? run v "__index__" with
      | some _ => return .int (← indexOf run v)
      | none =>
        if isForeign v then return foreign
        else typeError ("int() argument must be a string, a bytes-like object or a real number, " ++
          "not " ++ quoted v.kindName)

private def wholeInBase (run : Run) (v base : Value) : Eval Value := do
  let b ← indexOf run base
  if b != 0 && (b < 2 || 36 < b) then
    raise "ValueError" "int() base must be >= 2 and <= 36, or 0"
  match v with
  | .str s => readWhole b (quoted s) s
  | .bytes content => readWhole b v.listing (textOfBytes content)
  | _ => typeError "int() can't convert non-string with explicit base"

private def makeWhole (run : Run) (a : Actuals) : Eval Value := do
  match ← lift (a.byName "int" ["", "base"]) with
  | [some v, some base] => wholeInBase run v base
  | [some v, none] => wholeFrom run v
  | [none, some _] => typeError "int() missing string argument"
  | _ => return .int 0

private def floatFrom (run : Run) (v : Value) : Eval Value := do
  match v with
  | .float x => return .float x
  | .str s =>
    match Decimal.float? s with
    | some x => return .float x
    | none => raise "ValueError" ("could not convert string to float: " ++ quoted s)
  | v =>
    match v.asInt?, ← callSpecial? run v "__float__" [] with
    | some n, _ => return .float (← lift (Value.floatOfInt n))
    | none, some r => return r
    | none, none =>
      if isForeign v then return foreign
      else typeError ("float() argument must be a string or a real number, not " ++
        quoted v.kindName)

private def complexFrom (wanted : String) (v : Value) : Eval Decimal.Complex := do
  match v with
  | .complex x y => return ⟨x, y⟩
  | .float x => return .ofFloat x
  | v =>
    match v.asInt? with
    | some n => return .ofFloat (← lift (Value.floatOfInt n))
    | none => typeError ("complex() " ++ wanted ++ ", not " ++ quoted v.kindName)

private def makeComplex (a : Actuals) : Eval Value := do
  let made (c : Decimal.Complex) : Value := .complex c.re c.im
  let first := "first argument must be a string or a number"
  match ← lift (a.byName "complex" ["real", "imag"]) with
  | [some (.str s), none] =>
    match Decimal.float? s with
    | some x => return .complex x 0.0
    | none =>
      if s.endsWith "j" || s.endsWith "J" then return foreign
      else raise "ValueError" "complex() arg is a malformed string"
  | [some (.str _), some _] => typeError "complex() can't take second arg if first is a string"
  | [_, some (.str _)] => typeError "complex() second arg can't be a string"
  | [some v, none] => return made (← complexFrom first v)
  | [re, some im] =>
    let re ← complexFrom first (re.getD (.int 0))
    let im ← complexFrom "second argument must be a number" im
    return made (re.add ((Decimal.Complex.mk 0.0 1.0).mul im))
  | _ => return .complex 0.0 0.0

/-! Texts and bytes. -/

private def decodedText (args : List Value) : Eval Value := do
  match args with
  | .bytes content :: more => return ← lift (Template.TextMethod.decoded content ⟨more, []⟩)
  | .str _ :: _ => typeError "decoding str is not supported"
  | v :: _ => typeError ("decoding to str: need a bytes-like object, " ++ v.kindName ++ " found")
  | [] => return .str ""

private def checkText (kind name : String) (v : Value) : Eval PUnit :=
  match v with
  | .str _ => return
  | v => typeError (kind ++ "() argument " ++ quoted name ++ " must be str, not " ++ v.argumentKind)

private def makeText (run : Run) (a : Actuals) : Eval Value := do
  match ← lift (a.byName "str" ["object", "encoding", "errors"]) with
  | [some v, none, none] => return .str (← textOf run v)
  | [v, encoding, errors] =>
    encoding.forM (checkText "str" "encoding")
    errors.forM (checkText "str" "errors")
    decodedText (v.toList ++ encoding.toList ++ errors.toList)
  | _ => return .str ""

private def byteOf (run : Run) (v : Value) : Eval UInt8 := do
  let n ← indexOf run v
  if n < 0 || 255 < n then raise "ValueError" "bytes must be in range(0, 256)"
  else return n.toNat.toUInt8

private def bytesFrom (run : Run) (v : Value) : Eval Value := do
  let refuse : Eval Value :=
    typeError ("cannot convert " ++ quoted v.kindName ++ " object to bytes")
  match v, v.asInt?, ← thing? v with
  | .bytes content, _, _ => return .bytes content
  | _, some n, _ =>
    if n < 0 then raise "ValueError" "negative count"
    else return (← lift (Value.binary .mul (.bytes [0]) (.int n)))
  | .none, none, _ | .float _, none, _ | .class _, none, _ => refuse
  | v, none, some (.instance _) =>
    match ← special? run v "__iter__", ← special? run v "__getitem__" with
    | none, none => refuse
    | _, _ => return .bytes (← (← itemsOf run v).mapM (byteOf run))
  | v, none, _ => return .bytes (← (← itemsOf run v).mapM (byteOf run))

private def makeBytes (run : Run) (a : Actuals) : Eval Value := do
  match ← lift (a.byName "bytes" ["source", "encoding", "errors"]) with
  | [source, encoding, errors] =>
    encoding.forM (checkText "bytes" "encoding")
    errors.forM (checkText "bytes" "errors")
    match source, encoding, errors with
    | some (.str _), none, none => typeError "string argument without an encoding"
    | some (.str s), _, _ =>
      let named := [("encoding", encoding), ("errors", errors)].filterMap fun (n, v) =>
        v.map fun v => (n, v)
      return (← lift (Template.Method.call (.str s) "encode" ⟨[], named⟩)).1
    | some v, none, none => bytesFrom run v
    | none, none, none => return .bytes []
    | _, some _, _ => typeError "encoding without a string argument"
    | _, none, _ => typeError "errors without a string argument"
  | _ => return .bytes []

/-! Collections. -/

private def itemsOfFirst (run : Run) (kind : String) (a : Actuals) : Eval (List Value) := do
  match ← lift (a.between kind kind 0 1) with
  | v :: _ => itemsOf run v
  | [] => return []

private def makeDict (run : Run) (a : Actuals) : Eval Value := do
  let parts ← a.positional.mapM fun v => do present (← listed run v)
  let entries ← lift (Template.Method.updated [] "dict" ⟨parts, a.named⟩)
  settled (.ofEntries entries)

private def makeRange (run : Run) (a : Actuals) : Eval Value := do
  match ← (← lift (a.between "range" "range" 1 3)).mapM (indexOf run) with
  | [stop] => return .range 0 stop 1
  | [start, stop] => return .range start stop 1
  | [start, stop, step] =>
    if step == 0 then raise "ValueError" "range() arg 3 must not be zero"
    else return .range start stop step
  | _ => return foreign

/-! Iterators. -/

private def countFrom (n : Int) : List Value → List Value
  | [] => []
  | v :: rest => .tuple [.int n, v] :: countFrom (n + 1) rest

private def makeEnumerate (run : Run) (a : Actuals) : Eval Value := do
  match ← lift (a.byName "enumerate" ["iterable", "start"]) with
  | [some v, start] =>
    let first ← match start with
      | some n => indexOf run n
      | none => pure 0
    newIterator "enumerate" (.fixed (countFrom first (← itemsOf run v)))
  | _ => typeError "enumerate() missing required argument 'iterable'"

/-- The first items of all lists, then the second ones, and so on up to the end of the shortest. -/
private def inStep : Nat → List (List Value) → List Value
  | 0, _ => []
  | fuel + 1, lists =>
    if lists.isEmpty || lists.any List.isEmpty then []
    else .tuple (lists.filterMap List.head?) :: inStep fuel (lists.map List.tail)

private def makeZip (run : Run) (a : Actuals) : Eval Value := do
  if a.named.length > 1 then
    typeError ("zip() takes at most 1 keyword argument (" ++ ofNat a.named.length ++ " given)")
  match a.named.find? fun e => e.1 != "strict" with
  | some (name, _) => typeError (quoted name ++ " is an invalid keyword argument for zip()")
  | none =>
    let lists ← a.positional.mapM (itemsOf run)
    newIterator "zip" (.fixed (inStep ((lists.headD []).length) lists))

private def makeMap (run : Run) (a : Actuals) : Eval Value := do
  lift (a.refuseNamed "map")
  match a.positional with
  | f :: feed :: more =>
    newIterator "map" (.mapped f (← (feed :: more).mapM (iterate run)))
  | _ => typeError "map() must have at least two arguments."

private def makeFilter (run : Run) (a : Actuals) : Eval Value := do
  match ← lift (a.between "filter" "filter" 2 2) with
  | [f, feed] => newIterator "filter" (.chosen f (← iterate run feed))
  | _ => return foreign

private def makeReversed (run : Run) (a : Actuals) : Eval Value := do
  match ← lift (a.between "reversed" "reversed" 1 1) with
  | [v] =>
    match ← callSpecial? run v "__reversed__" [] with
    | some it => return it
    | none =>
      match ← thing? v, v with
      | none, .class _ => typeError "'type' object is not reversible"
      | none, v =>
        match v with
        | .list .. | .tuple _ | .str _ | .bytes _ | .range .. | .dict .. | .view .. =>
          newIterator "reversed" (.fixed (← itemsOf run v).reverse)
        | v => typeError (quoted v.kindName ++ " object is not reversible")
      | some .foreign, _ => return foreign
      | some (.instance i), v =>
        match ← special? run v "__getitem__" with
        | some _ => newIterator "reversed" (.fixed (← itemsOf run v).reverse)
        | none =>
          if (← get).isOpen i.key then return foreign
          else typeError (quoted v.kindName ++ " object is not reversible")
      | some _, v => typeError (quoted v.kindName ++ " object is not reversible")
  | _ => return foreign

/-! Descriptors and classes. -/

private def makeProperty (a : Actuals) : Eval Value := do
  match ← lift (a.byName "property" ["fget", "fset", "fdel", "doc"]) with
  | get :: set :: delete :: _ =>
    let given (v : Option Value) := v.filter fun v => !isNone v
    newThing "property" (.property (given get) (given set) (given delete))
  | _ => return foreign

private def makeSuper (a : Actuals) : Eval Value := do
  match ← lift (a.between "super" "super()" 0 2) with
  | [] => raise "RuntimeError" "super(): no arguments"
  | [.class start, self] =>
    let m ← get
    let key ← match self with
      | .class key => pure key
      | self => classOf self
    if (m.order key).contains start then newThing "super" (.above key self start)
    else typeError "super(type, obj): obj must be an instance or subtype of type"
  | [.class _] => return foreign
  | v :: _ =>
    if isForeign v then return foreign
    else typeError ("super() argument 1 must be a type, not " ++ v.kindName)

private def nameAndValue : Value × Value → Option (String × Value)
  | (.str name, v) => some (name, v)
  | _ => none

/-- The name of the module that runs. -/
private def runningModule : Eval String := do
  match (← get).modules.getLast?.bind fun x => x.2.entries.lookup "__name__" with
  | some (.str name) => return name
  | _ => return "builtins"

/-- The class of a value, or a new class from a name, bases and what its suite would bind. -/
private def makeType (run : Run) (a : Actuals) : Eval Value := do
  match a.positional, a.named with
  | [v], [] => return .class (← classOf v)
  | [name, bases, names], named =>
    match name, ← surface bases, ← surface names with
    | .str name, .tuple bases, .dict entries _ =>
      makeClass run (← runningModule) name name bases named (entries.filterMap nameAndValue)
    | .str _, .tuple _, v =>
      typeError ("type.__new__() argument 3 must be dict, not " ++ v.kindName)
    | .str _, v, _ => typeError ("type.__new__() argument 2 must be tuple, not " ++ v.kindName)
    | v, _, _ => typeError ("type.__new__() argument 1 must be str, not " ++ v.kindName)
  | _, _ => typeError "type() takes 1 or 3 arguments"

/-- The value that the class of a kind makes. -/
def makeValue (run : Run) (kind : String) (a : Actuals) : Eval Value := do
  match kind with
  | "object" =>
    if a.positional.isEmpty && a.named.isEmpty then
      newThing "object" (.instance { key := "object" })
    else typeError "object() takes no arguments"
  | "str" => makeText run a
  | "int" => makeWhole run a
  | "bool" =>
    match ← lift (a.between "bool" "bool" 0 1) with
    | v :: _ => return .bool (← truthOf run v)
    | [] => return .bool false
  | "float" =>
    match ← lift (a.between "float" "float" 0 1) with
    | v :: _ => floatFrom run v
    | [] => return .float 0.0
  | "complex" => makeComplex a
  | "bytes" => makeBytes run a
  | "list" => settled (.ofList (← itemsOfFirst run kind a))
  | "tuple" => return .tuple (← itemsOfFirst run kind a)
  | "set" => newSet (← distinct (← itemsOfFirst run kind a)) false
  | "frozenset" => newSet (← distinct (← itemsOfFirst run kind a)) true
  | "dict" => makeDict run a
  | "range" => makeRange run a
  | "enumerate" => makeEnumerate run a
  | "zip" => makeZip run a
  | "map" => makeMap run a
  | "filter" => makeFilter run a
  | "reversed" => makeReversed run a
  | "property" => makeProperty a
  | "staticmethod" | "classmethod" =>
    match ← lift (a.between kind kind 1 1) with
    | f :: _ =>
      newThing kind (if kind == "staticmethod" then .static f else .classBound f)
    | [] => return foreign
  | "super" => makeSuper a
  | "type" => makeType run a
  | "slice" =>
    let _ ← lift (a.between "slice" "slice" 1 3)
    return foreign
  | _ => return foreign

end Stencil.Script
