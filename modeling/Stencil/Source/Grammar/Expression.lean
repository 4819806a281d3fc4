import Stencil.Source.Grammar.Argument
import Stencil.Source.Grammar.Parameter
import Stencil.Source.Literal

/-!
The grammar of expressions. Each rule reads one kind of phrase and is given the readers of the
phrases inside it; the knot is tied once, at the end, by a bound on the nesting. When a source is
explained the rules also recognise common mistakes.
-/
namespace Stencil.Source.Grammar
open Stencil.Text
open Reader

/-! Texts. -/

private def fieldFault (ts : Tokens) (brace : Place) (source : List Char) (f : Fault) : Fault :=
  if f.pointer.shown.isSome then f
  else
    let own := match ts.ending with
      | .fault g => f == g
      | _ => false
    let before := if own then brace.column else brace.bytes
    let back (column : Nat) := if f.line == brace.line then column - before else column
    { f with
      message := if own then f.message else "f-string: " ++ f.message
      pointer := {
        column := back f.pointer.column
        stop := f.pointer.stop.map back
        shown := some (.ofList ((lines false source).getD (f.line - brace.line) [])) } }

/-- Reads the expression of a field in brackets of its own, which stand for the brace. -/
private def fieldExpression (sub : Phrase) (token : Token) (part : TextToken) (left : Nat)
    (source : List Char) : Except Fault Expr :=
  let cs := token.text.toList
  let brace := token.span.start.after (cs.take (cs.length - part.quoteSize - left))
  let source := '(' :: source ++ [')']
  let ts := { tokenizeAt brace source with bytewise := true }
  match ts.readWith (sub .starExpressions) with
  | .ok e => .ok e
  | .error f => .error (fieldFault ts brace source f)

private def textPart (sub : Phrase) (ts : Tokens) (faultAhead : String → Fault) (t : Token) :
    TextPart :=
  let part := TextToken.ofString t.text
  { token := part
    fields := ⟨fieldExpression sub t part, faultAhead⟩
    here := ts.faultAt t.span }

/-- Neighbouring texts, which make one. -/
def texts (sub : Phrase) : Reader Expr := do
  let tokens ← some_ (ofKind .string)
  let span := (tokens.headD default).span.through (tokens.getLast?.getD default).span
  let ahead ← faultAhead
  match tokens.findSome? (·.flaw) with
  | some message => raise (ahead message)
  | none =>
    match joinTexts span (tokens.map (textPart sub (← source) ahead)) with
    | .ok e => return e
    | .error f => raise f

/-! Atoms and what follows them. -/

/-- A number that is not too long. -/
def number : Reader Expr := do
  let t ← ofKind .number
  match numberConstant t.text with
  | .ok c => return .constant t.span c
  | .error count => raise ⟨.syntax_, tooManyDigits count, t.line, { column := 0 }⟩

private def atom (sub : Phrase) : Reader Expr := do
  let t ← peek
  match t.kind with
  | .name =>
    match constantName? t with
    | some c => advance; return .constant t.span c
    | none => return nameExpr (← identifier)
  | .string => texts sub
  | .number => number
  | .op =>
    if t.text == "(" then parenthesised sub
    else if t.text == "[" then bracketed sub
    else if t.text == "\x7b" then braced sub
    else if t.text == "..." then advance; return .constant t.span .ellipsis
    else fail
  | _ => fail

private def trailers (sub : Phrase) (t : Token) : Nat → Expr → Reader Expr
  | 0, e => return e
  | fuel + 1, e => do
    match ← optional (trailer sub t e) with
    | some e => trailers sub t fuel e
    | none => return e

private def primary (sub : Phrase) : Reader Expr := fun ctx pos trace =>
  (do
    let t ← peek
    let e ← sub .atom
    trailers sub t (ctx.source.tokens.size + 1) e : Reader Expr) ctx pos trace

/-! Operators. -/

private def unaryOps : List (String × UnaryOp) := [("+", .plus), ("-", .minus), ("~", .invert)]

private def awaited (sub : Phrase) : Reader Expr := do
  let t ← peek
  if Token.isWord t "await" then
    advance
    let e ← sub .primary
    return .await (← since t) e
  else sub .primary

private def factor (sub : Phrase) : Reader Expr := do
  let t ← peek
  match if t.kind == .op then unaryOps.lookup t.text else none with
  | some op =>
    advance
    let e ← sub .factor
    return .unary (← since t) op e
  | none =>
    let base ← sub .awaited
    match ← optional (do let _ ← op "**"; sub .factor) with
    | some e => return .binary (← since t) base .pow e
    | none => return base

private def chain (ops : List (String × BinaryOp)) (operand : Reader Expr) : Reader Expr := do
  let t ← peek
  let first ← operand
  let rest ← many (do
    let o ← satisfy fun t => t.kind == .op && (ops.lookup t.text).isSome
    let right ← operand
    return ((ops.lookup o.text).getD .add, right, (← since t)))
  return rest.foldl (fun left (op, right, span) => .binary span left op right) first

private def bitOr (sub : Phrase) : Reader Expr :=
  chain [("|", .bitOr)] <|
  chain [("^", .bitXor)] <|
  chain [("&", .bitAnd)] <|
  chain [("<<", .shiftLeft), (">>", .shiftRight)] <|
  chain [("+", .add), ("-", .sub)] <|
  chain [("*", .mul), ("/", .div), ("//", .floorDiv), ("%", .mod), ("@", .matMul)] (sub .factor)

private def compareOps : List (String × CompareOp) :=
  [("==", .eq), ("!=", .ne), ("<", .lt), ("<=", .le), (">", .gt), (">=", .ge)]

private def compareOp : Reader CompareOp := do
  let t ← peek
  if t.kind == .op then
    match compareOps.lookup t.text with
    | some op => advance; return op
    | none => fail
  else if t.kind == .name then
    if t.text == "in" then advance; return .in
    else if t.text == "not" then advance; let _ ← word "in"; return .notIn
    else if t.text == "is" then
      advance
      match ← optional (word "not") with
      | some _ => return .isNot
      | none => return .is
    else fail
  else fail

private def comparison (sub : Phrase) : Reader Expr := do
  let t ← peek
  let first ← sub .bitOr
  let rest ← many (do
    let op ← compareOp
    let right ← sub .bitOr
    return Comparison.mk op right)
  if rest.isEmpty then return first else return .compare (← since t) first rest

private def inversion (sub : Phrase) : Reader Expr := do
  let t ← peek
  if Token.isWord t "not" then
    advance
    let e ← sub .inversion
    return .unary (← since t) .not e
  else comparison sub

private def boolChain (name : String) (op : BoolOp) (operand : Reader Expr) : Reader Expr := do
  let t ← peek
  let first ← operand
  let rest ← many (do let _ ← word name; operand)
  if rest.isEmpty then return first else return .bool (← since t) op (first :: rest)

private def disjunction (sub : Phrase) : Reader Expr :=
  boolChain "or" .or (boolChain "and" .and (sub .inversion))

/-! Whole expressions. -/

private def lambda (sub : Phrase) : Reader Expr := do
  let t ← word "lambda"
  let ps ← parameters sub .lambda
  let _ ← op ":"
  let body ← sub .expression
  return .lambda (← since t) ps body

private def conditional (sub : Phrase) : Reader Expr :=
  orElse (do
    let t ← peek
    let e ← sub .disjunction
    let chosen ← optional (do
      let _ ← word "if"
      let test ← sub .disjunction
      let _ ← word "else"
      return (test, (← sub .expression)))
    match chosen with
    | some (test, other) => return .conditional (← since t) test e other
    | none => return e)
  (lambda sub)

private def oldStatements : List String := ["print", "exec"]

private def isOldStatement : Expr → Bool
  | .name _ id => oldStatements.contains id
  | _ => false

/-- Looks for two expressions side by side; where there are, nothing else is looked for. -/
private def explainNeighbours (sub : Phrase) : Reader Unit := do
  notAhead (orElse
    (do
      let _ ← identifier
      let _ ← ofKind .string)
    (do let _ ← satisfy beginsSoftWord))
  let a ← sub .disjunction
  let b ← quietly (conditional sub)
  if !isOldStatement a && (← previous).depth > 0 then
    complainAt (a.span.through b.span) "invalid syntax. Perhaps you forgot a comma?"

private def explainExpression (sub : Phrase) : Reader Unit := do
  if !(← looking (explainNeighbours sub)) then
    explained do
      let a ← sub .disjunction
      let _ ← word "if"
      let b ← sub .disjunction
      notAhead (orElse (word "else") (op ":"))
      complainAt (a.span.through b.span) "expected 'else' after 'if' expression"
  explained do
    let t ← identifier
    notAhead (op "(")
    let e ← sub .starExpressions
    if oldStatements.contains (nameOf t) then
      complainAt (t.span.through e.span) ("Missing parentheses in call to '" ++ nameOf t ++
        "'. Did you mean " ++ nameOf t ++ "(...)?")

private def expression (sub : Phrase) : Reader Expr := do
  explained (explainExpression sub)
  conditional sub

private def starExpression (sub : Phrase) : Reader Expr := do
  let t ← peek
  if Token.isOp t "*" then
    advance
    let e ← sub .bitOr
    return .starred (← since t) e
  else sub .expression

/-- Looks for an assignment where a value is wanted. -/
private def explainNamed (sub : Phrase) : Reader Unit := do
  let assigns : Reader Unit := notAhead (orElse (op "=") (op ":="))
  explained do
    let e ← sub .expression
    let _ ← op ":="
    let _ ← sub .expression
    complainAt e.span ("cannot use assignment expressions with " ++ describe e)
  explained do
    let t ← identifier
    let _ ← op "="
    let e ← sub .bitOr
    assigns
    complainAt (t.span.through e.span)
      "invalid syntax. Maybe you meant '==' or ':=' instead of '='?"
  explained do
    notAhead (firstOf [plainList sub, plainTuple sub, generator sub,
      do
        let t ← satisfy fun t => (constantName? t).isSome
        return nameExpr t])
    let e ← sub .bitOr
    let _ ← op "="
    let _ ← sub .bitOr
    assigns
    complainAt e.span ("cannot assign to " ++ describe e ++
      " here. Maybe you meant '==' instead of '='?")

private def named (sub : Phrase) : Reader Expr :=
  orElse (namedValue sub) (do
    explained (explainNamed sub)
    let e ← sub .expression
    notAhead (op ":=")
    return e)

private def starNamed (sub : Phrase) : Reader Expr := do
  let t ← peek
  if Token.isOp t "*" then
    advance
    let e ← sub .bitOr
    return .starred (← since t) e
  else sub .named

private def rule (sub : Phrase) : Goal → Reader Expr
  | .expression => remembered .expression (expression sub)
  | .starExpression => remembered .starExpression (starExpression sub)
  | .starExpressions => tupleOr (sub .starExpression)
  | .named => named sub
  | .starNamed => starNamed sub
  | .disjunction => remembered .disjunction (disjunction sub)
  | .inversion => remembered .inversion (inversion sub)
  | .bitOr => remembered .bitOr (bitOr sub)
  | .factor => remembered .factor (factor sub)
  | .awaited => remembered .awaited (awaited sub)
  | .primary => remembered .primary (primary sub)
  | .atom => atom sub
  | .starTarget => remembered .starTarget (starTarget sub)
  | .innerTarget => remembered .innerTarget (innerTarget sub)
  | .deletedTarget => remembered .deletedTarget (deletedTarget sub)
  | .targetPrimary => remembered .targetPrimary (targetPrimary sub)

/-- Reads a phrase that nests less deep than a bound. -/
def phrase : Nat → Phrase
  | 0, _ => fail
  | fuel + 1, g => rule (phrase fuel) g

/-- A bound on nesting that no text of a length exceeds. -/
def nesting (length : Nat) : Nat := 24 * length + 100

end Stencil.Source.Grammar
