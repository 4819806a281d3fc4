import Stencil.Source.Grammar.Phrase

/-!
Comprehensions and what stands in brackets: groups, tuples, lists, sets and dictionaries.
-/
namespace Stencil.Source.Grammar
open Reader

/-! Comprehensions. -/

/-- The targets of a loop or an assignment. -/
def starTargets (sub : Phrase) : Reader Expr := tupleOr (sub .starTarget)

/-- Complains about what stands where a loop has its targets. -/
def explainLoop (sub : Phrase) : Reader Unit := explained do
  let _ ← optional (word "async")
  let _ ← word "for"
  complainTarget .loop (← sub .starExpressions)

/-- The words in front of a clause and its targets. -/
private def clauseHead (sub : Phrase) : Reader (Bool × Expr) := do
  let async ← optional (word "async")
  let _ ← word "for"
  let target ← starTargets sub
  let _ ← word "in"
  return (async.isSome, target)

private def clause (sub : Phrase) : Reader Clause := do
  match ← optional (clauseHead sub) with
  | none =>
    explainLoop sub
    fail
  | some (async, target) =>
    let source ← sub .disjunction
    let conditions ← many (do let _ ← word "if"; sub .disjunction)
    return .mk async target source conditions

def clauses (sub : Phrase) : Reader (List Clause) := some_ (clause sub)

/-- The last expression of a clause. -/
def lastOfClause : Clause → Expr
  | .mk _ _ source conditions => conditions.getLast?.getD source

def lastOfClauses (cs : List Clause) : Expr := (cs.getLast?.map lastOfClause).getD default

/-- A name that takes the value of an expression. When the mark is there, the rest has to come. -/
def namedValue (sub : Phrase) : Reader Expr := do
  let t ← identifier
  let _ ← op ":="
  let value ← sub .expression
  return .named (← since t) (nameExpr t) value

/-- An expression, perhaps with a name of its own. -/
def valueOrNamed (sub : Phrase) : Reader Expr :=
  orElse (namedValue sub) do
    let e ← sub .expression
    notAhead (op ":=")
    return e

/-- An expression with a star, as it stands among arguments and in subscripts. A star without an
expression is refused at once. -/
def starredValue (sub : Phrase) : Reader Expr := do
  let t ← op "*"
  let value ← orElse (sub .expression) (complainHere .syntax_ "Invalid star expression")
  return .starred (← since t) value

private def unpackedTarget : String := "iterable unpacking cannot be used in comprehension"
private def bareTarget : String := "did you forget parentheses around the comprehension target?"

private def opens (brackets : List String) : Reader Token :=
  satisfy fun t => t.kind == .op && brackets.contains t.text

private def explainComprehension (sub : Phrase) : Reader Unit := do
  explained do
    let _ ← opens ["[", "(", "\x7b"]
    let e ← starredValue sub
    let _ ← clauses sub
    complainAt e.span unpackedTarget
  explained do
    let _ ← opens ["[", "\x7b"]
    let first ← sub .starNamed
    let _ ← op ","
    let items ← commaItems (sub .starNamed)
    let _ ← clauses sub
    complainAt (first.span.through (items.getLast?.getD first).span) bareTarget
  explained do
    let _ ← opens ["[", "\x7b"]
    let first ← sub .starNamed
    let comma ← op ","
    let _ ← clauses sub
    complainAt (first.span.through comma.span) bareTarget

/-- A comprehension between brackets, made from its item and its clauses. -/
private def comprehension (sub : Phrase) (opening closing : String) (item : Reader Expr)
    (make : Span → Expr → List Clause → Expr) : Reader Expr :=
  orElse (do
    let t ← op opening
    let e ← item
    let cs ← clauses sub
    let _ ← op closing
    return make (← since t) e cs)
  (do
    explainComprehension sub
    fail)

/-- A generator in parentheses. -/
def generator (sub : Phrase) : Reader Expr :=
  comprehension sub "(" ")" (valueOrNamed sub) .generator

/-! Groups and sequences. -/

def yieldExpression (sub : Phrase) : Reader Expr := do
  let t ← word "yield"
  let delegated ← optional (do let _ ← word "from"; sub .expression)
  match delegated with
  | some e => return .yieldFrom (← since t) e
  | none =>
    let e ← optional (sub .starExpressions)
    return .yield (← since t) e

private def tuple (sub : Phrase) : Reader Expr := do
  let t ← op "("
  let items ← optional (do
    let first ← sub .starNamed
    let _ ← op ","
    let rest ← optional (commaItems (sub .starNamed))
    return first :: rest.getD [])
  let _ ← op ")"
  return .tuple (← since t) (items.getD [])

private def explainGroup (sub : Phrase) : Reader Unit := do
  explained do
    let _ ← op "("
    let e ← starredValue sub
    let _ ← op ")"
    complainAt e.span "cannot use starred expression here"
  explained do
    let _ ← op "("
    let stars ← op "**"
    let _ ← sub .expression
    let _ ← op ")"
    complainAt stars.span "cannot use double starred expression here"

private def group (sub : Phrase) : Reader Expr :=
  orElse (do
    let _ ← op "("
    let e ← orElse (yieldExpression sub) (sub .named)
    let _ ← op ")"
    return e)
  (do
    explainGroup sub
    fail)

private def listOf (sub : Phrase) : Reader Expr := do
  let t ← op "["
  let items ← optional (commaItems (sub .starNamed))
  let _ ← op "]"
  return .list (← since t) (items.getD [])

private def setOf (sub : Phrase) : Reader Expr := do
  let t ← op "\x7b"
  let items ← commaItems (sub .starNamed)
  let _ ← op "\x7d"
  return .set (← since t) items

/-! Dictionaries. -/

private def keyAndValue (sub : Phrase) : Reader (Expr × Expr) := do
  let key ← sub .expression
  let _ ← op ":"
  return (key, ← sub .expression)

private def entry (sub : Phrase) : Reader Entry :=
  orElse (do
    let _ ← op "**"
    return .mk none (← sub .bitOr))
  (do
    let (key, value) ← keyAndValue sub
    return .mk (some key) value)

/-- Known mistakes behind the key of an entry. They are looked for at once. -/
private def checkEntryValue (sub : Phrase) : Reader Unit := do
  tried do
    let _ ← sub .expression
    let _ ← op ":"
    let star ← op "*"
    let _ ← sub .bitOr
    complainFrom star.span "cannot use a starred expression in a dictionary value"
  tried do
    let _ ← sub .expression
    let colon ← op ":"
    ahead (opens ["\x7d", ","])
    complainAt colon.span "expression expected after dictionary key and ':'"

private def checkEntries (sub : Phrase) : Reader Unit := do
  tried do
    let _ ← op "\x7b"
    let _ ← separated "," (entry sub)
    let _ ← op ","
    tried do
      let key ← sub .expression
      notAhead (op ":")
      complainKey key.span "':' expected after dictionary key"
    checkEntryValue sub
  tried do
    let _ ← op "\x7b"
    checkEntryValue sub

private def dictOf (sub : Phrase) : Reader Expr :=
  orElse (do
    let t ← op "\x7b"
    let entries ← optional (commaItems (entry sub))
    let _ ← op "\x7d"
    return .dict (← since t) (entries.getD []))
  (do
    checkEntries sub
    fail)

private def dictComprehension (sub : Phrase) : Reader Expr :=
  orElse (do
    let t ← op "\x7b"
    let (key, value) ← keyAndValue sub
    let cs ← clauses sub
    let _ ← op "\x7d"
    return .dictComp (← since t) key value cs)
  (do
    explained do
      let _ ← op "\x7b"
      let stars ← op "**"
      let _ ← sub .bitOr
      let _ ← clauses sub
      let _ ← op "\x7d"
      complainAt stars.span "dict unpacking cannot be used in dict comprehension"
    fail)

/-- What an opening parenthesis begins. -/
def parenthesised (sub : Phrase) : Reader Expr :=
  firstOf [tuple sub, group sub, generator sub]

/-- A list that is written out. -/
def plainList (sub : Phrase) : Reader Expr := listOf sub

/-- A tuple that is written out in parentheses. -/
def plainTuple (sub : Phrase) : Reader Expr := tuple sub

/-- What an opening square bracket begins. -/
def bracketed (sub : Phrase) : Reader Expr :=
  orElse (listOf sub) (comprehension sub "[" "]" (sub .named) .listComp)

/-- What an opening brace begins. -/
def braced (sub : Phrase) : Reader Expr :=
  firstOf [dictOf sub, setOf sub, dictComprehension sub,
    comprehension sub "\x7b" "\x7d" (sub .named) .setComp]

end Stencil.Source.Grammar
