import Stencil.Source.Grammar.Expression

/-!
The grammar of statements of one line.
-/
namespace Stencil.Source.Grammar
open Stencil.Text
open Reader

/-! Assignments. -/

private def augmentedOps : List (String × BinaryOp) :=
  [("+=", .add), ("-=", .sub), ("*=", .mul), ("@=", .matMul), ("/=", .div), ("%=", .mod),
    ("&=", .bitAnd), ("|=", .bitOr), ("^=", .bitXor), ("<<=", .shiftLeft), (">>=", .shiftRight),
    ("**=", .pow), ("//=", .floorDiv)]

private def augmentedOp : Reader BinaryOp := do
  let t ← satisfy fun t => t.kind == .op && (augmentedOps.lookup t.text).isSome
  return (augmentedOps.lookup t.text).getD .add

private def assignedValue (sub : Phrase) : Reader Expr :=
  orElse (yieldExpression sub) (sub .starExpressions)

private def hinted (sub : Phrase) (t : Token) (target : Expr) (bare : Bool) : Reader Stmt := do
  let _ ← op ":"
  let hint ← sub .expression
  let value ← optional (do let _ ← op "="; assignedValue sub)
  return .annotated (← since t) target hint value bare

private def annotated (sub : Phrase) : Reader Stmt := do
  let t ← peek
  orElse
    (do hinted sub t (nameExpr (← identifier)) true)
    (do
      let target ← orElse
        (do
          let _ ← op "("
          let e ← singleTarget sub
          let _ ← op ")"
          return e)
        (partTarget sub)
      hinted sub t target false)

private def targetAndSign (sub : Phrase) : Reader Expr := do
  let e ← starTargets sub
  let _ ← op "="
  return e

private def assigned (sub : Phrase) : Reader Stmt := do
  let t ← peek
  let targets ← some_ (targetAndSign sub)
  let value ← assignedValue sub
  notAhead (op "=")
  return .assign (← since t) targets value

private def sequenceTarget (sub : Phrase) : Nat → Reader Expr
  | 0 => fail
  | fuel + 1 => firstOf [plainList sub, plainTuple sub,
      do
        let _ ← op "("
        let e ← sequenceTarget sub fuel
        let _ ← op ")"
        return e]

private def explainHinted (sub : Phrase) (size : Nat) : Reader Unit := do
  explained do
    let e ← sequenceTarget sub size
    let _ ← op ":"
    let _ ← sub .expression
    complainAt e.span ("only single target (not " ++ describe e ++ ") can be annotated")
  explained do
    let e ← sub .starNamed
    let _ ← op ","
    let _ ← many (commaItems (sub .starNamed))
    let _ ← op ":"
    let _ ← sub .expression
    complainAt e.span "only single target (not tuple) can be annotated"
  explained do
    let e ← sub .expression
    let _ ← op ":"
    let _ ← sub .expression
    complainAt e.span "illegal target for annotation"

private def explainAssignment (sub : Phrase) : Reader Unit := fun ctx pos trace =>
  (do
    explainHinted sub (ctx.source.tokens.size + 1)
    let settled ← looking (do
      let _ ← many (targetAndSign sub)
      let e ← sub .starExpressions
      let _ ← op "="
      complainTarget .assignment e)
    if !settled then
      explained do
        let _ ← many (targetAndSign sub)
        let e ← yieldExpression sub
        let _ ← op "="
        complainAt e.span "assignment to yield expression not possible"
      explained do
        let e ← sub .starExpressions
        let _ ← augmentedOp
        let _ ← assignedValue sub
        complainAt e.span
          ("'" ++ describe e ++ "' is an illegal expression for augmented assignment")
    : Reader Unit) ctx pos trace

/-- An assignment. Behind the sign of an augmented one a value has to come. -/
private def assignment (sub : Phrase) : Reader Stmt := do
  let t ← peek
  let plain ← optional (orElse (annotated sub) (assigned sub))
  match plain with
  | some s => return s
  | none =>
    let augmented ← optional (do
      let e ← singleTarget sub
      return (e, ← augmentedOp))
    match augmented with
    | some (e, o) =>
      let value ← assignedValue sub
      return .augmented (← since t) e o value
    | none =>
      explained (explainAssignment sub)
      fail

/-! Imports. -/

private def dottedName : Reader String := do
  let parts ← separated "." identifier
  return joinWith "." (parts.map nameOf)

private def renamed (path : Reader String) : Reader ImportName := do
  let t ← peek
  let p ← path
  let a ← optional (do let _ ← word "as"; identifier)
  return ⟨← since t, p, a.map nameOf⟩

private def importStatement : Reader Stmt := do
  let t ← word "import"
  let names ← separated "," (renamed dottedName)
  return .import (← since t) names

private def importDots : Reader Nat := do
  let dots ← many (satisfy fun t => t.kind == .op && (t.text == "." || t.text == "..."))
  return dots.foldl (fun n t => n + t.text.length) 0

private def importedNames : Reader (List ImportName) := do
  let names := separated "," (renamed (do return nameOf (← identifier)))
  firstOf [
    do
      let _ ← op "("
      let ns ← names
      let _ ← optional (op ",")
      let _ ← op ")"
      return ns,
    do
      let ns ← names
      notAhead (op ",")
      return ns,
    do
      let t ← op "*"
      return [⟨t.span, "*", none⟩],
    do
      explained do
        let _ ← names
        let _ ← op ","
        let _ ← ofKind .newline
        complainHere .syntax_ "trailing comma not allowed without surrounding parentheses"
      fail]

private def importFromStatement : Reader Stmt := do
  let t ← word "from"
  let level ← importDots
  let path ← if level > 0 then (fun p => p.getD "") <$> optional dottedName else dottedName
  let _ ← word "import"
  let names ← importedNames
  return .importFrom (← since t) level path names

/-! Other statements of one line. -/

private def deletion (sub : Phrase) : Reader Stmt := do
  let t ← word "del"
  orElse
    (do
      let targets ← commaItems (sub .deletedTarget)
      ahead (satisfy fun t => Token.isOp t ";" || t.kind == .newline)
      return .delete (← since t) targets)
    (do
      explained (do complainTarget .deletion (← sub .starExpressions))
      fail)

private def raising (sub : Phrase) : Reader Stmt := do
  let t ← word "raise"
  match ← optional (sub .expression) with
  | none => return .raise (← since t) none none
  | some e =>
    let cause ← optional (do let _ ← word "from"; sub .expression)
    return .raise (← since t) (some e) cause

private def nameList (keyword : String) (make : Span → List String → Stmt) : Reader Stmt := do
  let t ← word keyword
  let names ← separated "," identifier
  return make (← since t) (names.map nameOf)

private def assertion (sub : Phrase) : Reader Stmt := do
  let t ← word "assert"
  let test ← sub .expression
  let message ← optional (do let _ ← op ","; sub .expression)
  return .assertion (← since t) test message

private def expressionStatement (value : Reader Expr) : Reader Stmt := do
  let t ← peek
  let e ← value
  return .expression (← since t) e

private def keywordStatement (sub : Phrase) (t : Token) : Reader Stmt :=
  if t.kind != .name then fail
  else match t.text with
    | "return" => do
      advance
      let e ← optional (sub .starExpressions)
      return .return (← since t) e
    | "import" => importStatement
    | "from" => importFromStatement
    | "raise" => raising sub
    | "pass" => do advance; return .pass t.span
    | "break" => do advance; return .leave t.span
    | "continue" => do advance; return .continue t.span
    | "del" => deletion sub
    | "yield" => expressionStatement (yieldExpression sub)
    | "assert" => assertion sub
    | "global" => nameList "global" .global
    | "nonlocal" => nameList "nonlocal" .nonlocal
    | _ => fail

private def simpleStatement (sub : Phrase) : Reader Stmt := do
  let t ← peek
  firstOf [assignment sub, expressionStatement (sub .starExpressions), keywordStatement sub t]

/-- Statements of one line, up to its end. -/
def simpleLine (sub : Phrase) : Reader (List Stmt) := do
  let stmts ← separated ";" (simpleStatement sub)
  let _ ← optional (op ";")
  let _ ← ofKind .newline
  return stmts

end Stencil.Source.Grammar
