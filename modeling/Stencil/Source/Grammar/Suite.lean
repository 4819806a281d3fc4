import Stencil.Source.Grammar.Pattern
import Stencil.Source.Grammar.Statement

/-!
The grammar of statements with suites, and of whole modules. A suite is a line of simple
statements or an indented block; the nesting of blocks is bounded by the number of tokens.
-/
namespace Stencil.Source.Grammar
open Stencil.Text
open Reader

/-- What compound statements are given: the phrases of expressions and a suite. -/
private structure Parts where
  sub : Phrase
  suite : Reader (List Stmt)

/-! Known mistakes. -/

/-- Behind a head the colon is missed at the end of a line, and an indented block behind it. -/
private def explainHead (what : String) (head : Reader Token) : Reader Unit := do
  explained do
    let _ ← head
    let _ ← ofKind .newline
    complainHere .syntax_ "expected ':'"
  explainBlock what head
where
  explainBlock (what : String) (head : Reader Token) : Reader Unit := explained do
    let t ← head
    let _ ← op ":"
    let _ ← ofKind .newline
    notAhead (ofKind .indent)
    complainHere .indentation
      ("expected an indented block after " ++ what ++ " on line " ++ ofNat t.line)

private abbrev explainBlock := explainHead.explainBlock

/-- Something in front of a token, which is answered. -/
private def headed (t : Reader Token) (rest : Reader Unit) : Reader Token := do
  let t ← t
  rest
  return t

private def maybeAsync (keyword : String) : Reader Token := do
  let _ ← optional (word "async")
  word keyword

/-! Conditions and loops. -/

private def elseSuite (p : Parts) : Reader (List Stmt) := do
  explainBlock "'else' statement" (word "else")
  let _ ← word "else"
  let _ ← forced ":"
  p.suite

private def elseSuite? (p : Parts) : Reader (List Stmt) := do
  return (← optional (elseSuite p)).getD []

/-- A condition; what `elif` begins is a condition in the other suite. -/
private def branch (p : Parts) : Nat → String → Reader Stmt
  | 0, _ => fail
  | fuel + 1, keyword => do
    let named : Reader Unit := do
      let _ ← p.sub .named
    explainHead ("'" ++ keyword ++ "' statement") (headed (word keyword) named)
    let t ← word keyword
    let test ← p.sub .named
    let _ ← op ":"
    let body ← p.suite
    let other ← orElse (do return [← branch p fuel "elif"]) (elseSuite? p)
    return .branch (← since t) test body other

private def whileStatement (p : Parts) : Reader Stmt := do
  explainHead "'while' statement" (headed (word "while") (do let _ ← p.sub .named))
  let t ← word "while"
  let test ← p.sub .named
  let _ ← op ":"
  let body ← p.suite
  let other ← elseSuite? p
  return .loop (← since t) test body other

private def forHead (p : Parts) : Reader Expr := do
  let target ← starTargets p.sub
  let _ ← word "in"
  return target

private def forStatement (p : Parts) : Reader Stmt := do
  explainHead "'for' statement" (headed (maybeAsync "for") (do
    let _ ← forHead p
    let _ ← p.sub .starExpressions))
  let t ← peek
  let head ← optional (do
    let async ← optional (word "async")
    let _ ← word "for"
    return (async.isSome, ← forHead p))
  match head with
  | none =>
    explainLoop p.sub
    fail
  | some (async, target) =>
    let source ← p.sub .starExpressions
    let _ ← op ":"
    let body ← p.suite
    let other ← elseSuite? p
    return .each (← since t) async target source body other

/-! Contexts. -/

private def afterItem : Reader Token :=
  satisfy fun t => t.kind == .op && [",", ")", ":"].contains t.text

private def contextItem (p : Parts) : Reader ContextItem :=
  firstOf [
    do
      let e ← p.sub .expression
      let _ ← word "as"
      let target ← p.sub .starTarget
      ahead afterItem
      return ⟨e, some target⟩,
    do
      explained do
        let _ ← p.sub .expression
        let _ ← word "as"
        let e ← p.sub .expression
        ahead afterItem
        complainTarget .assignment e
      return ⟨← p.sub .expression, none⟩]

private def plainItems (item : Reader Expr) (p : Parts) : Reader Unit := do
  let _ ← separated "," (do
    let _ ← item
    optional (do let _ ← word "as"; p.sub .starTarget))

private def contextHeads (p : Parts) : List (Reader Token) :=
  [headed (maybeAsync "with") (plainItems (p.sub .expression) p),
    headed (maybeAsync "with") (do
      let _ ← op "("
      plainItems (tupleOr (p.sub .expression)) p
      let _ ← optional (op ",")
      let _ ← op ")")]

private def contextBody (p : Parts) : Reader Stmt := do
  let t ← peek
  let async ← optional (word "async")
  let _ ← word "with"
  let finish (items : List ContextItem) : Reader Stmt := do
    let _ ← op ":"
    let body ← p.suite
    return .context (← since t) async.isSome items body
  orElse
    (do
      let _ ← op "("
      let items ← commaItems (contextItem p)
      let _ ← op ")"
      finish items)
    (do finish (← separated "," (contextItem p)))

private def contextStatement (p : Parts) : Reader Stmt := do
  for head in contextHeads p do
    explainBlock "'with' statement" head
  orElse (contextBody p) (do
    for head in contextHeads p do
      explained do
        let _ ← head
        let _ ← ofKind .newline
        complainHere .syntax_ "expected ':'"
    fail)

/-! Handlers. -/

private def nameAfterAs : Reader (Option String) := do
  return (← optional (do let _ ← word "as"; identifier)).map nameOf

private def explainHandler (p : Parts) : Reader Unit := do
  let start : Reader Unit := do
    let _ ← word "except"
    let _ ← optional (op "*")
  explained do
    start
    let e ← p.sub .expression
    let _ ← op ","
    let _ ← tupleOr (p.sub .expression)
    let _ ← nameAfterAs
    let _ ← op ":"
    complainFrom e.span "multiple exception types must be parenthesized"
  explained do
    start
    let _ ← p.sub .expression
    let _ ← nameAfterAs
    let _ ← ofKind .newline
    complainHere .syntax_ "expected ':'"
  explained do
    let _ ← word "except"
    let _ ← ofKind .newline
    complainHere .syntax_ "expected ':'"
  explained do
    let _ ← word "except"
    let _ ← op "*"
    let _ ← orElse (ofKind .newline) (op ":")
    complainHere .syntax_ "expected one or more exception types"

private def handlerHead (p : Parts) (grouped : Bool) : Reader (Option Expr × Option String) :=
  orElse
    (do
      let _ ← word "except"
      if grouped then
        let _ ← op "*"
      let e ← p.sub .expression
      return (some e, ← nameAfterAs))
    (do
      if grouped then fail
      let _ ← word "except"
      return (none, none))

private def handler (p : Parts) (grouped : Bool) : Reader Handler := do
  let what := if grouped then "'except*' statement" else "'except' statement"
  explainBlock what (do
    let t ← peek
    let _ ← handlerHead p grouped
    return t)
  let t ← peek
  orElse
    (do
      let (kind, name) ← handlerHead p grouped
      let _ ← op ":"
      let body ← p.suite
      return .mk (← since t) kind name body)
    (do
      explainHandler p
      fail)

private def finalSuite (p : Parts) : Reader (List Stmt) := do
  explainBlock "'finally' statement" (word "finally")
  let _ ← word "finally"
  let _ ← forced ":"
  p.suite

private def explainAttempt (p : Parts) : Reader Unit := do
  explainBlock "'try' statement" (word "try")
  let start : Reader Unit := do
    let _ ← word "try"
    let _ ← op ":"
  explained do
    start
    let _ ← p.suite
    notAhead (orElse (word "except") (word "finally"))
    complainHere .syntax_ "expected 'except' or 'finally' block"
  explained do
    start
    let _ ← many p.suite
    let mixed (first : Bool) : Reader Unit := do
      let _ ← some_ (handler p first)
      let _ ← handler p !first
    orElse (mixed false) (mixed true)
    let _ ← many p.suite
    complainHere .syntax_ "cannot have both 'except' and 'except*' on the same 'try'"

private def attemptStatement (p : Parts) : Reader Stmt := do
  explainAttempt p
  let t ← word "try"
  let _ ← forced ":"
  let body ← p.suite
  match ← optional (finalSuite p) with
  | some final => return .attempt (← since t) false body [] [] final
  | none =>
    let handled (grouped : Bool) : Reader Stmt := do
      let handlers ← some_ (handler p grouped)
      let other ← elseSuite? p
      let final := (← optional (finalSuite p)).getD []
      return .attempt (← since t) grouped body handlers other final
    orElse (handled false) (handled true)

/-! Choices. -/

private def subject (p : Parts) : Reader Expr :=
  orElse
    (do
      let t ← peek
      let first ← p.sub .starNamed
      let _ ← op ","
      let rest ← optional (commaItems (p.sub .starNamed))
      return .tuple (← since t) (first :: rest.getD []))
    (p.sub .named)

private def guard? (p : Parts) : Reader (Option Expr) :=
  optional (do let _ ← word "if"; p.sub .named)

private def case (p : Parts) : Reader Case := do
  explainHead "'case' statement" (headed (word "case") (do
    let _ ← patterns p.sub
    let _ ← guard? p))
  let _ ← word "case"
  let pattern ← patterns p.sub
  let guard ← guard? p
  let _ ← op ":"
  return .mk pattern guard (← p.suite)

private def chooseStatement (p : Parts) : Reader Stmt := do
  let t ← peek
  orElse
    (do
      let _ ← word "match"
      let e ← subject p
      let _ ← op ":"
      let _ ← ofKind .newline
      let _ ← ofKind .indent
      let cases ← some_ (case p)
      let _ ← ofKind .dedent
      return .choose (← since t) e cases)
    (do
      explainHead "'match' statement" (headed (word "match") (do let _ ← subject p))
      fail)

/-! Definitions. -/

private def hintedResult (p : Parts) : Reader (Option Expr) :=
  optional (do let _ ← op "->"; p.sub .expression)

private def functionStatement (p : Parts) (decorators : List Expr) : Reader Stmt := do
  explainBlock "function definition" (headed (maybeAsync "def") (do
    let _ ← identifier
    let _ ← op "("
    let _ ← parameters p.sub .function
    let _ ← op ")"
    let _ ← hintedResult p))
  let t ← peek
  let async ← optional (word "async")
  let _ ← word "def"
  let name ← identifier
  let _ ← forced "("
  let ps ← parameters p.sub .function
  let _ ← op ")"
  let returns ← hintedResult p
  let _ ← forced ":"
  let body ← p.suite
  return .function (← since t) async.isSome (nameOf name) ps returns decorators body

private def bases (p : Parts) : Reader Arguments := do
  return (← optional (parenthesisedArguments p.sub)).getD ⟨[], []⟩

private def classStatement (p : Parts) (decorators : List Expr) : Reader Stmt := do
  explainHead "class definition" (headed (word "class") (do
    let _ ← identifier
    let _ ← bases p))
  let t ← word "class"
  let name ← identifier
  let a ← bases p
  let _ ← op ":"
  let body ← p.suite
  return .class (← since t) (nameOf name) a.positional a.keywords decorators body

private def decorators (p : Parts) : Reader (List Expr) := many (do
  let _ ← op "@"
  let e ← p.sub .named
  let _ ← ofKind .newline
  return e)

private def definition (p : Parts) : Reader Stmt := do
  let ds ← decorators p
  orElse (functionStatement p ds) (classStatement p ds)

private def compoundStatement (p : Parts) (size : Nat) : Reader Stmt := do
  let t ← peek
  if Token.isOp t "@" then definition p
  else if t.kind != .name then fail
  else match t.text with
    | "def" => functionStatement p []
    | "class" => classStatement p []
    | "async" => firstOf [functionStatement p [], contextStatement p, forStatement p]
    | "if" => branch p size "if"
    | "for" => forStatement p
    | "while" => whileStatement p
    | "with" => contextStatement p
    | "try" => attemptStatement p
    | "match" => chooseStatement p
    | _ => fail

private def statement (p : Parts) (size : Nat) : Reader (List Stmt) :=
  orElse (do return [← compoundStatement p size]) (simpleLine p.sub)

private def statements (p : Parts) (size : Nat) : Reader (List Stmt) := do
  return (← some_ (statement p size)).flatten

/-- A suite with blocks nested less deep than a bound. -/
private def suite (sub : Phrase) (size : Nat) : Nat → Reader (List Stmt)
  | 0 => fail
  | fuel + 1 => rememberedSuite (firstOf [
      do
        let _ ← ofKind .newline
        let _ ← ofKind .indent
        let body ← statements ⟨sub, suite sub size fuel⟩ size
        let _ ← ofKind .dedent
        return body,
      simpleLine sub,
      do
        explained do
          let _ ← ofKind .newline
          notAhead (ofKind .indent)
          complainHere .indentation "expected an indented block"
        fail])

private def module (sub : Phrase) (size : Nat) : Reader Module := do
  let body ← optional (statements ⟨sub, suite sub size size⟩ size)
  let _ ← ofKind .eof
  return body.getD []

end Grammar

/-- Reads the source of one expression. -/
def Expr.read (source : String) : Except Fault Expr :=
  let ts := tokenize source
  ts.readWith do
    let e ← Grammar.phrase (Grammar.nesting source.length) .starExpressions
    let _ ← Reader.many (Reader.ofKind .newline)
    let _ ← Reader.ofKind .eof
    return e

/-- Reads the tokens of a module whose source has so many characters. -/
def Module.ofTokens (ts : Tokens) (length : Nat) : Except Fault Module :=
  ts.readWith (Grammar.module (Grammar.phrase (Grammar.nesting length)) (ts.tokens.size + 1))

/-- Reads the source of a module. -/
def Module.read (source : String) : Except Fault Module :=
  Module.ofTokens (tokenize source) source.length

end Stencil.Source
