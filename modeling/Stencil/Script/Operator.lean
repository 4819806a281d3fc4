import Stencil.Script.Items
import Stencil.Template.Value.Arithmetic

/-!
Operators. Numbers, texts and lists are computed with as templates do; sets and the bits of whole
numbers are combined, and classes may say what an operator does with their instances. An operation
on what is foreign gives something foreign.
-/
namespace Stencil.Script
open Stencil.Text
open Stencil.Source (BinaryOp UnaryOp CompareOp)
open Stencil.Template (Value Actuals)

/-- The names of the special methods of an operator, without the underscores, and its sign. -/
private def described : BinaryOp → String × String
  | .add => ("add", "+")
  | .sub => ("sub", "-")
  | .mul => ("mul", "*")
  | .matMul => ("matmul", "@")
  | .div => ("truediv", "/")
  | .mod => ("mod", "%")
  | .floorDiv => ("floordiv", "//")
  | .pow => ("pow", "**")
  | .shiftLeft => ("lshift", "<<")
  | .shiftRight => ("rshift", ">>")
  | .bitOr => ("or", "|")
  | .bitXor => ("xor", "^")
  | .bitAnd => ("and", "&")

private def methodName (before name : String) : String := "__" ++ before ++ name ++ "__"

/-- The sign of an operator in complaints. -/
private def signShown (op : BinaryOp) (inPlace : Bool) : String :=
  match op, inPlace with
  | .pow, false => "** or pow()"
  | op, false => (described op).2
  | op, true => (described op).2 ++ "="

private def unsupported {α : Type} (op : BinaryOp) (inPlace : Bool) (a b : Value) : Eval α :=
  typeError ("unsupported operand type(s) for " ++ signShown op inPlace ++ ": " ++
    quoted a.kindName ++ " and " ++ quoted b.kindName)

private def arithmeticOp? : BinaryOp → Option Template.BinaryOp
  | .add => some .add
  | .sub => some .sub
  | .mul => some .mul
  | .div => some .div
  | .floorDiv => some .floorDiv
  | .mod => some .mod
  | .pow => some .pow
  | _ => none

/-! The bits of whole numbers. A negative number has ones without end in front. -/

/-- The number with all bits turned. -/
private def turned (n : Int) : Int := -n - 1

private def andBits (m n : Int) : Int :=
  match m, n with
  | .ofNat a, .ofNat b => (a &&& b : Nat)
  | .ofNat a, .negSucc b => (a - (a &&& b) : Nat)
  | .negSucc a, .ofNat b => (b - (a &&& b) : Nat)
  | .negSucc a, .negSucc b => .negSucc (a ||| b)

private def orBits (m n : Int) : Int := turned (andBits (turned m) (turned n))

private def xorBits (m n : Int) : Int :=
  match m, n with
  | .ofNat a, .ofNat b => (a ^^^ b : Nat)
  | .ofNat a, .negSucc b | .negSucc a, .ofNat b => .negSucc (a ^^^ b)
  | .negSucc a, .negSucc b => (a ^^^ b : Nat)

private def bitsOf (op : BinaryOp) (m n : Int) : Eval Value := do
  match op with
  | .bitOr => return .int (orBits m n)
  | .bitXor => return .int (xorBits m n)
  | .bitAnd => return .int (andBits m n)
  | _ =>
    if n < 0 then raise "ValueError" "negative shift count"
    else
      match op with
      | .shiftLeft => return .int (m * Nat.pow 2 n.toNat)
      | _ => return .int (Int.fdiv m (Nat.pow 2 n.toNat))

private def onBits? (op : BinaryOp) (a b : Value) : Option (Eval Value) :=
  match arithmeticOp? op, op with
  | some _, _ | none, .matMul => none
  | none, op =>
    match a, b, op with
    | .bool x, .bool y, .bitOr => some (pure (.bool (x || y)))
    | .bool x, .bool y, .bitXor => some (pure (.bool (x != y)))
    | .bool x, .bool y, .bitAnd => some (pure (.bool (x && y)))
    | a, b, op =>
      match a.asInt?, b.asInt? with
      | some m, some n => some (bitsOf op m n)
      | _, _ => none

/-! Sets and dicts. -/

private def without (xs ys : List Value) : Eval (List Value) :=
  xs.filterM fun x => do return !(← holds x ys)

/-- What an operator makes of the items of two sets. -/
private def combined? (op : BinaryOp) (xs ys : List Value) : Option (Eval (List Value)) :=
  match op with
  | .bitOr => some do return xs ++ (← without ys xs)
  | .bitAnd => some do xs.filterM fun x => holds x ys
  | .sub => some (without xs ys)
  | .bitXor => some do return (← without xs ys) ++ (← without ys xs)
  | _ => none

/-- Entries with others put over them. -/
def putAll (entries more : List (Value × Value)) : Eval (List (Value × Value)) :=
  more.foldlM (fun es (k, v) => do
    checkKey k
    lift (Value.putEntry es (← present k) v)) entries

private def onCollections? (op : BinaryOp) (a b : Value) : Eval (Option Value) := do
  match ← thing? a, ← thing? b, op with
  | some (.set xs frozen), some (.set ys _), op =>
    match combined? op xs ys with
    | some items => return some (← newSet (← items) frozen)
    | none => return none
  | none, none, .bitOr =>
    match ← surface a, ← surface b with
    | .dict xs _, .dict ys _ => return some (← settled (.ofEntries (← putAll xs ys)))
    | .class _, .class _ | .class _, .none | .none, .class _ => return some foreign
    | _, _ => return none
  | _, _, _ => return none

/-! Binary operators. -/

/-- What the class of a value says about an operator with another value. -/
private def asked? (run : Run) (v : Value) (name : String) (other : Value) :
    Eval (Option Value) := do
  match ← callSpecial? run v name [other] with
  | some r =>
    match ← thing? r with
    | some (.single "NotImplemented") => return none
    | _ => return some r
  | none => return none

/-- What the classes of the operands say about an operator. -/
private def bySpecial? (run : Run) (name reflected : String) (a b : Value) :
    Eval (Option Value) := do
  match ← asked? run a name b with
  | some r => return some r
  | none => asked? run b reflected a

/-- The texts of things that are filled into a pattern. -/
private def filling (run : Run) (v : Value) : Eval Value := do
  let shown (v : Value) : Eval Value := do
    match v, ← thing? v with
    | .class _, _ | _, some _ => return .str (← textOf run v)
    | v, none => present v
  match v with
  | .tuple vs => return .tuple (← vs.mapM shown)
  | v => shown v

private def operate (run : Run) (op : BinaryOp) (inPlace : Bool) (a b : Value) : Eval Value := do
  if isForeign a || isForeign b then return foreign
  let name := (described op).1
  match ← bySpecial? run (methodName "" name) (methodName "r" name) a b with
  | some r => return r
  | none =>
    match onBits? op a b, ← onCollections? op a b with
    | some r, _ => r
    | none, some r => return r
    | none, none =>
      match arithmeticOp? op, a with
      | none, _ => unsupported op inPlace a b
      | some .mod, .str _ => computed (Value.binary .mod a (← filling run b))
      | some op', a =>
        match Value.binary op' (← present a) (← present b) with
        | .error (.raised .type m) =>
          if m.startsWith "unsupported" then unsupported op inPlace a b else typeError m
        | o => computed o

/-- The result of an operator between two values. -/
def binaryOf (run : Run) (op : BinaryOp) (a b : Value) : Eval Value := operate run op false a b

/-- The result of an operator that may change its left operand. -/
def inPlaceOf (run : Run) (op : BinaryOp) (a b : Value) : Eval Value := do
  match ← callSpecial? run a (methodName "i" (described op).1) [b] with
  | some r => return r
  | none =>
    match op, ← surface a, ← thing? a, ← thing? b with
    | .add, .list items _, _, _ =>
      setContent a (.ofList (items ++ (← itemsOf run b)))
      return a
    | .mul, .list items _, _, none =>
      match b.asInt? with
      | some n =>
        setContent a (.ofList (List.replicate n.toNat items).flatten)
        return a
      | none => operate run op true a b
    | .bitOr, .dict entries _, _, none =>
      let more ← lift (Template.Method.entriesOf (← present b))
      setContent a (.ofEntries (← putAll entries more))
      return a
    | op, _, some (.set xs false), some (.set ys _) =>
      match combined? op xs ys with
      | some items =>
        setThing a (.set (← items) false)
        return a
      | none => operate run op true a b
    | op, _, _, _ => operate run op true a b

/-! Other operators. -/

def unaryOf (run : Run) (op : UnaryOp) (v : Value) : Eval Value := do
  if op == .not then return .bool (!(← truthOf run v))
  if isForeign v then return foreign
  let name := match op with
    | .minus => "__neg__"
    | .plus => "__pos__"
    | _ => "__invert__"
  match ← callSpecial? run v name [] with
  | some r => return r
  | none =>
    match op, v.asInt? with
    | .minus, _ => lift v.negate
    | .plus, _ => lift v.positive
    | _, some n => return .int (turned n)
    | _, none => typeError ("bad operand type for unary ~: " ++ quoted v.kindName)

private def orderOf : CompareOp → Option (Value.OrderOp × String × String)
  | .lt => some (.lt, "__lt__", "__gt__")
  | .le => some (.le, "__le__", "__ge__")
  | .gt => some (.gt, "__gt__", "__lt__")
  | .ge => some (.ge, "__ge__", "__le__")
  | _ => none

private def setsOrdered (op : Value.OrderOp) (xs ys : List Value) : Eval Bool := do
  match op with
  | .lt => return xs.length < ys.length && (← within xs ys)
  | .le => within xs ys
  | .gt => return ys.length < xs.length && (← within ys xs)
  | .ge => within ys xs

private def ordered (run : Run) (op : Value.OrderOp) (name reflected : String) (a b : Value) :
    Eval Value := do
  match ← bySpecial? run name reflected a b with
  | some r => return r
  | none =>
    match ← thing? a, ← thing? b with
    | some (.set xs _), some (.set ys _) => return .bool (← setsOrdered op xs ys)
    | _, _ => return .bool (← lift (Value.ordered op (← present a) (← present b)))

/-- The result of comparing two values. -/
def compareOf (run : Run) (op : CompareOp) (a b : Value) : Eval Value := do
  match op with
  | .is => return .bool (← sameAs a b)
  | .isNot => return .bool (!(← sameAs a b))
  | op =>
    if isForeign a || isForeign b then return foreign
    match op, orderOf op with
    | .eq, _ => return .bool (← equalOf run a b)
    | .ne, _ =>
      match ← callSpecial? run a "__ne__" [b] with
      | some r => return r
      | none => return .bool (!(← equalOf run a b))
    | .in, _ => return .bool (← contains run b a)
    | .notIn, _ => return .bool (!(← contains run b a))
    | _, some (op, name, reflected) => ordered run op name reflected a b
    | _, none => return foreign

end Stencil.Script
