import Stencil.Template.Access
import Stencil.Template.Binding

/-!
The tests that expressions ask for by name: of the kind of a value, of its size, and the
comparisons.
-/
namespace Stencil.Template
open Stencil.Text
open Eval (lift)

namespace Tests

/-- How a test takes its arguments: the name its complaints use, and its parameters. -/
structure Signature where
  shown : String
  params : List String

def comparison? (name : String) : Option (String × CompareOp) :=
  match name with
  | "==" | "eq" | "equalto" => some ("eq", .eq)
  | "!=" | "ne" => some ("ne", .ne)
  | ">" | "gt" | "greaterthan" => some ("gt", .gt)
  | ">=" | "ge" => some ("ge", .ge)
  | "<" | "lt" | "lessthan" => some ("lt", .lt)
  | "<=" | "le" => some ("le", .le)
  | _ => none

def plainTests : List String :=
  ["odd", "even", "divisibleby", "defined", "undefined", "filter", "test", "none", "boolean",
    "false", "true", "integer", "float", "lower", "upper", "string", "mapping", "number",
    "sequence", "iterable", "callable", "sameas", "escaped", "in"]

/-- Whether a test has this name. -/
def isKnown (name : String) : Bool := plainTests.contains name || (comparison? name).isSome

def signatureOf (name : String) : Signature :=
  match name with
  | "divisibleby" => ⟨"test_divisibleby", ["value", "num"]⟩
  | "sameas" => ⟨"test_sameas", ["value", "other"]⟩
  | "in" => ⟨"test_in", ["value", "seq"]⟩
  | "filter" | "test" => ⟨"test_" ++ name, ["env", "value"]⟩
  | name => ⟨"test_" ++ name, ["value"]⟩

/-- Compares two values. -/
def compared (run : Run) (op : CompareOp) (a b : Value) : Eval Bool := do
  let plain (test : Value → Value → Outcome Bool) : Eval Bool := do
    lift (test (← present a) (← present b))
  match op with
  | .eq => plain Value.equal
  | .ne => return !(← plain Value.equal)
  | .lt => plain (Value.ordered .lt)
  | .le => plain (Value.ordered .le)
  | .gt => plain (Value.ordered .gt)
  | .ge => plain (Value.ordered .ge)
  | .in => holdsItem run b a
  | .notIn => return !(← holdsItem run b a)

def isMissing : Value → Bool
  | .missing .. => true
  | _ => false

def isCallable : Value → Bool
  | .missing .. | .method .. | .builtin _ | .function _ | .class _ => true
  | .object _ kind _ =>
    match kind with
    | .joiner | .loop | .routine _ | .block => true
    | _ => false
  | _ => false

def isSequence (v : Value) : Bool :=
  match v with
  | .tuple _ | .list .. | .group .. | .dict .. | .range .. | .bytes _ => true
  | v => v.asText?.isSome

/-- Whether two values are one. Lists, dicts, records and objects are told apart by their places;
beforehand, only small numbers and short texts are one. -/
def same (beforehand : Bool) (a b : Value) : Bool :=
  match a, b with
  | .bool x, .bool y => x == y
  | .int m, .int n => m == n && (!beforehand || decide (-5 ≤ m) && decide (m ≤ 256))
  | .float x, .float y => !beforehand && x.toBits == y.toBits
  | .str s, .str t => s == t && (!beforehand || decide (s.length ≤ 1))
  | .missing .., _ | _, .missing .. => false
  | .tuple xs, .tuple ys =>
    (xs.isEmpty && ys.isEmpty) || (!beforehand && xs.length == ys.length &&
      (match Value.equal a b with
        | .ok r => r
        | .error _ => false))
  | .group _ _ p, .group _ _ q => p.isSome && p == q
  | .view .., _ | .method .., _ => false
  | a, b =>
    match a.place?, b.place? with
    | some p, some q => p == q && a.kindName == b.kindName
    | none, none =>
      a.kindName == b.kindName && (match Value.equal a b with
        | .ok r => r
        | .error _ => false)
    | _, _ => false

def remainder (v num : Value) (expected : Int) : Eval Bool := do
  lift (Value.equal (← lift (Value.binary .mod (← present v) (← present num))) (.int expected))

def known (names : String → Bool) (v : Value) : Eval Bool := do
  lift (← present v).checkKey
  return (v.asText?.map names).getD false

def isIterable (v : Value) : Eval Bool :=
  match v with
  | .missing m false => lift (Value.failMissing m)
  | .missing _ true => return true
  | .object _ (.iterator _) _ => return true
  | v =>
    match v.items with
    | .ok _ => return true
    | .error _ => return false

def decided (run : Run) (name : String) (v other : Value) : Eval Bool := do
  match name with
  | "odd" => remainder v (.int 2) 1
  | "even" => remainder v (.int 2) 0
  | "divisibleby" => remainder v other 0
  | "defined" => return !isMissing v
  | "undefined" => return isMissing v
  | "filter" => do
    let env ← read
    known (Filter.isKnown env.filters) v
  | "test" => known isKnown v
  | "none" => return match v with
    | .none => true
    | _ => false
  | "boolean" => return match v with
    | .bool _ => true
    | _ => false
  | "false" => return match v with
    | .bool b => !b
    | _ => false
  | "true" => return match v with
    | .bool b => b
    | _ => false
  | "integer" => return match v with
    | .int _ => true
    | _ => false
  | "float" => return match v with
    | .float _ => true
    | _ => false
  | "lower" => return isLowerText (← textOf run v)
  | "upper" => return isUpperText (← textOf run v)
  | "string" => return v.asText?.isSome
  | "mapping" => return match v with
    | .dict .. => true
    | _ => false
  | "number" => return match v with
    | .complex .. => true
    | v => v.asNumber?.isSome
  | "sequence" => return isSequence v
  | "iterable" => isIterable v
  | "callable" => return isCallable v
  | "sameas" => return same (← read).beforehand v other
  | "escaped" => return match v with
    | .markup _ => true
    | .object _ (.module ..) _ => true
    | _ => false
  | _ => holdsItem run other v

def builtinArity (shown : String) (a : Actuals) : Outcome Unit := do
  let n := a.positional.length
  if !a.named.isEmpty then typeError (shown ++ "() takes no keyword arguments")
  if shown == "callable" then
    if n != 1 then typeError ("callable() takes exactly one argument (" ++ ofNat n ++ " given)")
  else if n != 2 then typeError (shown ++ " expected 2 arguments, got " ++ ofNat n)

/-- Asks a test, which exists, about the first of the arguments. -/
def ask (run : Run) (name : String) (a : Actuals) : Eval Bool := do
  match comparison? name with
  | some (shown, op) =>
    lift (builtinArity shown a)
    compared run op (a.positional.headD .none) ((a.positional[1]?).getD .none)
  | none =>
    if name == "callable" then
      lift (builtinArity name a)
      return isCallable (a.positional.headD .none)
    let sig := signatureOf name
    let a := if sig.params.contains "env" then a.push .none else a
    let formals : Formals := { required := sig.params }
    let b ← lift (formals.bind sig.shown a)
    let other := ((sig.params.getLast?).bind b.get?).getD .none
    decided run name (b.get "value" .none) other

end Tests
end Stencil.Template
