import Stencil.Decimal.Binary
import Stencil.Script.Construct
import Stencil.Script.Expression
import Stencil.Script.Method

/-!
The functions that every module knows by name. What a function says about its arguments is the same
for all of them: how many it takes, and of which kind they have to be.
-/
namespace Stencil.Script
open Stencil.Text
open Stencil.Template (Value Actuals)

private def refuse {α : Type} (before : String) (v : Value) (after : String) : Eval α :=
  typeError (before ++ quoted v.kindName ++ after)

/-! Sizes and texts. -/

private def sizeOf (run : Run) (v : Value) : Eval Value := do
  match v, ← thing? v with
  | _, some .foreign => return foreign
  | _, some (.set items _) => return .int items.length
  | v, some (.instance i) =>
    match ← callSpecial? run v "__len__" [] with
    | some r => return r
    | none =>
      if (← get).isOpen i.key then return foreign
      else refuse "object of type " v " has no len()"
  | v, some _ | v@(.class _), none => refuse "object of type " v " has no len()"
  | v, none => return .int (← lift (← surface v).length)

private def digitsShown (run : Run) (mark : String) (base : Nat) (v : Value) : Eval Value := do
  let n ← indexOf run v
  return .str ((if n < 0 then "-" else "") ++ mark ++ .ofList (digitsBase base 1 n.natAbs))

private def characterOf (run : Run) (v : Value) : Eval Value := do
  let n ← indexOf run v
  if n < 0 || 0x10ffff < n then raise "ValueError" "chr() arg not in range(0x110000)"
  else return .str (.singleton (Char.ofNat n.toNat))

private def codeOf (v : Value) : Eval Value := do
  match v with
  | .str s =>
    match s.toList with
    | [c] => return .int c.toNat
    | cs =>
      typeError ("ord() expected a character, but string of length " ++ ofNat cs.length ++ " found")
  | .bytes [b] => return .int b.toNat
  | .bytes bs =>
    typeError ("ord() expected a character, but string of length " ++ ofNat bs.length ++ " found")
  | v => typeError ("ord() expected string of length 1, but " ++ v.kindName ++ " found")

private def formatted (run : Run) (v : Value) (format : Option Value) : Eval Value := do
  match format with
  | none => return .str (← formattedOf run v "")
  | some (.str f) => return .str (← formattedOf run v f)
  | some f => typeError ("format() argument 2 must be str, not " ++ f.argumentKind)

/-! Numbers. -/

private def absolute (run : Run) (v : Value) : Eval Value := do
  match v with
  | .float x => return .float x.abs
  | .complex x y => return .float (Decimal.Complex.mk x y).abs
  | v =>
    match v.asInt?, ← callSpecial? run v "__abs__" [] with
    | some n, _ => return .int n.natAbs
    | none, some r => return r
    | none, none => refuse "bad operand type for abs(): " v ""

private def nearestWhole (x : Float) : Eval Value := do
  match Decimal.truncate? (if (Decimal.dyadic? x).isSome then Decimal.roundedTo x 0 else x) with
  | some n => return .int n
  | none =>
    if x.isNaN then raise "ValueError" "cannot convert float NaN to integer"
    else raise "OverflowError" "cannot convert float infinity to integer"

private def rounded (run : Run) (v places : Value) : Eval Value := do
  let extra := if isNone places then [] else [places]
  match ← callSpecial? run v "__round__" extra, v.asInt?, v with
  | some r, _, _ => return r
  | none, some n, _ =>
    if isNone places then return .int n
    else return .int (Decimal.wholeRoundedTo n (← indexOf run places))
  | none, none, .float x =>
    if isNone places then nearestWhole x
    else return .float (Decimal.roundedTo x (← indexOf run places))
  | none, none, v => typeError ("type " ++ v.kindName ++ " doesn't define __round__ method")

/-- A power in the remainders of a number, over the binary digits of the exponent. -/
private def powerWithin (modulus x : Int) (exponent : Nat) : Int :=
  (digitsBase 2 1 exponent).foldl
    (fun r d => Int.fmod (r * r * (if d == '1' then x else 1)) modulus) (Int.fmod 1 modulus)

private def power (run : Run) (args : List Value) : Eval Value := do
  match args with
  | [a, b] => binaryOf run .pow a b
  | [a, b, modulus] =>
    match a.asInt?, b.asInt?, modulus.asInt? with
    | some x, some n, some m =>
      if m == 0 then raise "ValueError" "pow() 3rd argument cannot be 0"
      else if n < 0 then return foreign
      else return .int (powerWithin m x n.toNat)
    | _, _, _ => if isNone modulus then binaryOf run .pow a b else return foreign
  | _ => return foreign

private def quotientAndRest (a b : Value) : Eval Value := do
  match a.asInt?, b.asInt? with
  | some m, some n =>
    if n == 0 then raise "ZeroDivisionError" "integer division or modulo by zero"
    else return .tuple [.int (m.fdiv n), .int (m.fmod n)]
  | _, _ =>
    match a.asNumber?, b.asNumber? with
    | some _, some _ =>
      let asFloat (v : Value) : Eval Value := lift (Value.binary .mul v (.float 1.0))
      match ← asFloat a, ← asFloat b with
      | .float x, .float y =>
        if y == 0.0 then raise "ZeroDivisionError" "float divmod()"
        else
          let (q, r) := Value.floatDivMod x y
          return .tuple [.float q, .float r]
      | _, _ => return foreign
    | _, _ =>
      typeError ("unsupported operand type(s) for divmod(): " ++ quoted a.kindName ++ " and " ++
        quoted b.kindName)

private def summed (run : Run) (v start : Value) : Eval Value := do
  let items ← itemsOf run v
  match start with
  | .str _ => typeError "sum() can't sum strings [use ''.join(seq) instead]"
  | .bytes _ => typeError "sum() can't sum bytes [use b''.join(seq) instead]"
  | start => items.foldlM (binaryOf run .add) start

/-! Choosing among items. -/

private def extreme (run : Run) (name : String) (a : Actuals) : Eval Value := do
  match a.named.find? fun e => e.1 != "key" && e.1 != "default" with
  | some (other, _) =>
    typeError (quoted other ++ " is an invalid keyword argument for " ++ name ++ "()")
  | none => pure ()
  let items ← match a.positional with
    | [] => typeError (name ++ " expected at least 1 argument, got 0")
    | [v] => itemsOf run v
    | vs =>
      if (a.named.lookup "default").isSome then
        typeError ("Cannot specify a default for " ++ name ++
          "() with multiple positional arguments")
      else pure vs
  let keyOf (v : Value) : Eval Value := do
    match (a.named.lookup "key").filter fun f => !isNone f with
    | some f => run.call f (.ofList [v])
    | none => return v
  let better := if name == "max" then Source.CompareOp.gt else .lt
  match items with
  | [] =>
    match a.named.lookup "default" with
    | some v => return v
    | none => raise "ValueError" (name ++ "() arg is an empty sequence")
  | first :: rest =>
    let start := (first, ← keyOf first)
    let best ← rest.foldlM (fun best v => do
      let k ← keyOf v
      let isBetter ← truthOf run (← compareOf run better k best.2)
      return if isBetter then (v, k) else best) start
    return best.1

private def sorted (run : Run) (a : Actuals) : Eval Value := do
  match ← lift ((Actuals.ofList a.positional).between "sorted" "sorted" 1 1) with
  | v :: _ => settled (.ofList (← sortItems run (← itemsOf run v) a.named))
  | [] => return foreign

private def nextOf (run : Run) (v : Value) (default : Option Value) : Eval Value := do
  let isIterator ← match ← thing? v with
    | some (.iterator _) | some .foreign => pure true
    | _ => pure (← special? run v "__next__").isSome
  if !isIterator then refuse "" v " object is not an iterator"
  else if isForeign v then return foreign
  else
    match ← run.next v, default with
    | some item, _ => return item
    | none, some d => return d
    | none, none => throw (← newError "StopIteration" [])

/-! Attributes. -/

private def nameFrom (v : Value) : Eval String := do
  match v with
  | .str s => return s
  | v => typeError ("attribute name must be string, not " ++ quoted v.kindName)

private def attributeOr (run : Run) (v name : Value) (default : Option Value) : Eval Value := do
  let name ← nameFrom name
  match default with
  | none => attributeOf run v name
  | some d => orOn "AttributeError" (attributeOf run v name) (pure d)

private def isCallable (run : Run) (v : Value) : Eval Bool := do
  match v, ← thing? v with
  | .class _, _ | .method .., _ => return true
  | _, some (.function ..) | _, some (.builtin _) | _, some (.unbound ..) | _, some (.method ..)
  | _, some (.static _) | _, some .foreign => return true
  | v, some (.instance _) => return (← special? run v "__call__").isSome
  | _, _ => return false

private def namesOf (v : Value) : Eval Value := do
  match v, ← thing? v with
  | _, some (.instance i) => settled (.ofEntries (i.attributes.map fun (n, v) => (.str n, v)))
  | .class _, _ | _, some _ => return foreign
  | _, none => typeError "vars() argument must have __dict__ attribute"

/-- Printing goes nowhere; the texts are made all the same. -/
private def printed (run : Run) (a : Actuals) : Eval Value := do
  let names := ["sep", "end", "file", "flush"]
  match a.named.find? fun e => !names.contains e.1 with
  | some (name, _) => typeError (quoted name ++ " is an invalid keyword argument for print()")
  | none => pure ()
  ["sep", "end"].forM fun name => do
    match a.named.lookup name with
    | none | some .none | some (.str _) => return
    | some v => typeError (name ++ " must be None or a string, not " ++ v.kindName)
  let _ ← a.positional.mapM (textOf run)
  return .none

/-! Files. Settings find none. -/

private def opened (v : Value) : Eval Value := do
  match v with
  | .str path =>
    let e ← newError "FileNotFoundError" [.int 2, .str "No such file or directory"]
    putAttribute e "errno" (.int 2)
    putAttribute e "strerror" (.str "No such file or directory")
    putAttribute e "filename" (.str path)
    throw e
  | _ => return foreign

/-! The functions by name. -/

/-- Marks a class as one of settings. -/
private def mark (run : Run) (a : Actuals) : Eval Value := do
  let formals : Template.Formals := { required := ["cls"] }
  match formals.give markerFunction a.positional a.named with
  | .error m => typeError m
  | .ok g =>
    let v := (g.values.lookup "cls").getD .none
    setAttributeOf run v markAttribute (.bool true)
    return v

/-- The functions that take exactly one argument. -/
private def ofOne? (run : Run) (name : String) : Option (Value → Eval Value) :=
  match name with
  | "len" => some (sizeOf run)
  | "abs" => some (absolute run)
  | "all" => some fun v => do return .bool (← (← itemsOf run v).allM (truthOf run))
  | "any" => some fun v => do return .bool (← (← itemsOf run v).anyM (truthOf run))
  | "ascii" => some fun v => do return .str (← asciiListingOf run v)
  | "repr" => some fun v => do return .str (← listingOf run v)
  | "bin" => some (digitsShown run "0b" 2)
  | "oct" => some (digitsShown run "0o" 8)
  | "hex" => some (digitsShown run "0x" 16)
  | "chr" => some (characterOf run)
  | "ord" => some codeOf
  | "callable" => some fun v => do return .bool (← isCallable run v)
  | "hash" => some fun v => do
    checkKey v
    return foreign
  | "id" => some fun _ => return foreign
  | _ => none

/-- The numbers of arguments that functions take. -/
private def counts : List (String × Nat × Nat) :=
  [("isinstance", 2, 2), ("issubclass", 2, 2), ("getattr", 2, 3), ("hasattr", 2, 2),
   ("setattr", 3, 3), ("delattr", 2, 2), ("divmod", 2, 2), ("format", 1, 2), ("iter", 1, 2),
   ("next", 1, 2), ("vars", 0, 1), ("dir", 0, 1), ("input", 0, 1), ("globals", 0, 0),
   ("locals", 0, 0)]

private def ofSome (run : Run) (name : String) (args : List Value) : Eval Value := do
  match name, args with
  | "isinstance", [v, kind] => return .bool (← isInstance v kind)
  | "issubclass", [v, kind] => return .bool (← isSubclass v kind)
  | "getattr", v :: n :: rest => attributeOr run v n rest.head?
  | "hasattr", [v, n] =>
    let name ← nameFrom n
    let found : Eval Bool := do
      let _ ← attributeOf run v name
      return true
    return .bool (← orOn "AttributeError" found (pure false))
  | "setattr", [v, n, new] =>
    setAttributeOf run v (← nameFrom n) new
    return .none
  | "delattr", [v, n] =>
    deleteAttributeOf run v (← nameFrom n)
    return .none
  | "divmod", [a, b] => quotientAndRest a b
  | "format", v :: rest => formatted run v rest.head?
  | "iter", [v] => iterate run v
  | "next", v :: rest => nextOf run v rest.head?
  | "vars", [v] => namesOf v
  | _, _ => return foreign

/-- Calls a function that every module knows. -/
def callBuiltin (run : Run) (name : String) (a : Actuals) : Eval Value := do
  if name == markerFunction then return ← mark run a
  match ofOne? run name, counts.lookup name with
  | some f, _ => f (← lift (a.single name))
  | none, some (least, most) => ofSome run name (← lift (a.between name name least most))
  | none, none =>
    match name, a.positional with
    | "max", _ | "min", _ => extreme run name a
    | "sorted", _ => sorted run a
    | "sum", _ =>
      match ← lift (a.byName name ["iterable", "start"]) with
      | some v :: start => summed run v ((start.headD none).getD (.int 0))
      | _ => typeError "sum() takes at least 1 positional argument (0 given)"
    | "round", _ =>
      match ← lift (a.byName name ["number", "ndigits"]) with
      | some v :: places => rounded run v ((places.headD none).getD .none)
      | _ => typeError "round() missing required argument 'number' (pos 1)"
    | "pow", _ =>
      match (← lift (a.byName name ["base", "exp", "mod"])).filterMap id with
      | [] => typeError "pow() missing required argument 'base' (pos 1)"
      | [_] => typeError "pow() missing required argument 'exp' (pos 2)"
      | args => power run args
    | "print", _ => printed run a
    | "open", v :: _ => opened v
    | "open", [] => typeError "open() missing required argument 'file' (pos 1)"
    | "exit", args | "quit", args =>
      throw (← run.call (.class "SystemExit") (.ofList (if args.isEmpty then [.none] else args)))
    | name, _ =>
      if name.startsWith "object." then callObjectMethod run (name.drop 7).toString a
      else if name.startsWith "BaseException." then callObjectMethod run (name.drop 14).toString a
      else return foreign

end Stencil.Script
