import Stencil.Source.Grammar.Display

/-!
Arguments of calls and class definitions, and subscripts. Positional arguments come first; those
with names may still be mixed with unpacked sequences, until a mapping is unpacked.
-/
namespace Stencil.Source.Grammar
open Reader

/-- The arguments of a call: the positional ones and those with names, each in order. -/
structure Arguments where
  positional : List Expr
  keywords : List Keyword

private inductive Argument where
  | positional (e : Expr)
  | keyword (k : Keyword)

private def Arguments.ofList (items : List Argument) : Arguments where
  positional := items.filterMap fun
    | .positional e => some e
    | _ => none
  keywords := items.filterMap fun
    | .keyword k => some k
    | _ => none

private def Arguments.unpacksMapping (a : Arguments) : Bool :=
  a.keywords.any fun | .mk _ name _ => name.isNone

private def positionalArgument (sub : Phrase) : Reader Argument := do
  let e ← orElse (starredValue sub) (do
    let e ← valueOrNamed sub
    notAhead (op "=")
    return e)
  return .positional e

private def unnamedComparison : String :=
  "invalid syntax. Maybe you meant '==' or ':=' instead of '='?"

private def explainNamedGenerator (sub : Phrase) : Reader Unit := explained do
  let t ← identifier
  let equals ← op "="
  let _ ← sub .expression
  let _ ← clauses sub
  complainAt (t.span.through equals.span) unnamedComparison

private def explainKeyword (sub : Phrase) : Reader Unit := do
  explained do
    let t ← satisfy fun t => (constantName? t).isSome
    let equals ← op "="
    complainAt (t.span.through equals.span) ("cannot assign to " ++ t.text)
  explainNamedGenerator sub
  explained do
    notAhead (do let _ ← identifier; op "=")
    let e ← sub .expression
    let equals ← op "="
    complainAt (e.span.through equals.span)
      "expression cannot contain assignment, perhaps you meant \"==\"?"

private def namedArgument (sub : Phrase) : Reader Argument := do
  let t ← identifier
  let _ ← op "="
  let value ← sub .expression
  return .keyword (.mk (← since t) (some (nameOf t)) value)

private def namedOrStarred (sub : Phrase) : Reader Argument := do
  explainKeyword sub
  orElse (namedArgument sub) (do return .positional (← starredValue sub))

private def namedOrUnpacked (sub : Phrase) : Reader Argument := do
  explainKeyword sub
  orElse (namedArgument sub) (do
    let stars ← op "**"
    let value ← sub .expression
    return .keyword (.mk (← since stars) none value))

private def namedArguments (sub : Phrase) : Reader (List Argument) :=
  firstOf [
    do
      let first ← separated "," (namedOrStarred sub)
      let _ ← op ","
      return first ++ (← separated "," (namedOrUnpacked sub)),
    separated "," (namedOrStarred sub),
    separated "," (namedOrUnpacked sub)]

private def argumentItems (sub : Phrase) : Reader (List Argument) :=
  orElse (do
    let first ← separated "," (positionalArgument sub)
    let more ← optional (do let _ ← op ","; namedArguments sub)
    return first ++ more.getD [])
  (namedArguments sub)

private def argumentList (sub : Phrase) : Reader Arguments := do
  return .ofList (← argumentItems sub)

private def bareGenerator : String := "Generator expression must be parenthesized"

private def explainTwoLists (sub : Phrase) : Reader Unit := do
  let before ← argumentList sub
  let _ ← op ","
  let _ ← argumentItems sub
  complainHere .syntax_ (if before.unpacksMapping
    then "positional argument follows keyword argument unpacking"
    else "positional argument follows keyword argument")

/-- Known mistakes among arguments. A lone generator behind other arguments is one; behind at most
one argument nothing further is looked for. -/
private def explainArguments (sub : Phrase) : Reader Unit := do
  explained do
    let _ ← orElse (do
      let _ ← separated "," (positionalArgument sub)
      let _ ← op ","
      namedArguments sub)
      (namedArguments sub)
    let comma ← op ","
    let _ ← separated "," (do
      let e ← starredValue sub
      notAhead (op "=")
      return e)
    complainFrom comma.span "iterable argument unpacking follows keyword argument unpacking"
  explained do
    let e ← sub .expression
    let cs ← clauses sub
    let _ ← op ","
    let _ ← optional (firstOf [
      do let _ ← argumentItems sub,
      do
        let _ ← sub .expression
        let _ ← clauses sub])
    complainAt (e.span.through (lastOfClauses cs).span) bareGenerator
  explainNamedGenerator sub
  let settled ← looking do
    let before ← argumentList sub
    let cs ← clauses sub
    match before.positional with
    | _ :: _ :: _ =>
      let last := before.positional.getLast?.getD default
      complainAt (last.span.through (lastOfClauses cs).span) bareGenerator
    | _ => return ()
  if !settled then
    explained do
      let _ ← argumentItems sub
      let _ ← op ","
      let e ← sub .expression
      let cs ← clauses sub
      complainAt (e.span.through (lastOfClauses cs).span) bareGenerator
    explained (explainTwoLists sub)

/-- Arguments up to the closing parenthesis, which is left. -/
def arguments (sub : Phrase) : Reader Arguments :=
  orElse (do
    let a ← argumentList sub
    let _ ← optional (op ",")
    ahead (op ")")
    return a)
  (do
    explained (explainArguments sub)
    fail)

/-- Arguments in parentheses, if there are any. -/
def parenthesisedArguments (sub : Phrase) : Reader Arguments := do
  let _ ← op "("
  let a ← optional (arguments sub)
  let _ ← op ")"
  return a.getD ⟨[], []⟩

/-! Subscripts. -/

private def slice (sub : Phrase) : Reader Expr :=
  orElse (do
    let t ← peek
    let lower ← optional (sub .expression)
    let _ ← op ":"
    let upper ← optional (sub .expression)
    let step ← optional (do let _ ← op ":"; optional (sub .expression))
    return .slice (← since t) lower upper (step.getD none))
  (sub .named)

/-- What stands between the brackets of a subscript. -/
def slices (sub : Phrase) : Reader Expr :=
  orElse (do
    let e ← slice sub
    notAhead (op ",")
    return e)
  (do
    let t ← peek
    let items ← commaItems (orElse (slice sub) (starredValue sub))
    return .tuple (← since t) items)

/-!
What can be assigned to or deleted: names, attributes and subscripts, and sequences of them.
-/

/-- A step from an expression to a part of it, or to what it gives when it is called. -/
def trailer (sub : Phrase) (t : Token) (e : Expr) : Reader Expr :=
  firstOf [
    do
      let _ ← op "."
      let name ← identifier
      return .attribute (← since t) e (nameOf name),
    do
      let g ← generator sub
      return .call (← since t) e [g] [],
    do
      let a ← parenthesisedArguments sub
      return .call (← since t) e a.positional a.keywords,
    do
      let _ ← op "["
      let index ← slices sub
      let _ ← op "]"
      return .subscript (← since t) e index]

private def trailerAhead : Reader Token :=
  satisfy fun t => t.kind == .op && ["(", "[", "."].contains t.text

private def stepsFrom (sub : Phrase) (t : Token) : Nat → Expr → Reader Expr
  | 0, e => return e
  | fuel + 1, e => do
    let next ← optional (do
      let e ← trailer sub t e
      ahead trailerAhead
      return e)
    match next with
    | some e => stepsFrom sub t fuel e
    | none => return e

/-- All steps of a target but the last. -/
def targetPrimary (sub : Phrase) : Reader Expr := fun ctx pos trace =>
  (do
    let t ← peek
    let e ← sub .atom
    ahead trailerAhead
    stepsFrom sub t (ctx.source.tokens.size + 1) e : Reader Expr) ctx pos trace

/-- A target that is an attribute or a subscript. -/
def partTarget (sub : Phrase) : Reader Expr :=
  orElse (do
    let t ← peek
    let e ← sub .targetPrimary
    let _ ← op "."
    let name ← identifier
    notAhead trailerAhead
    return .attribute (← since t) e (nameOf name))
  (do
    let t ← peek
    let e ← sub .targetPrimary
    let _ ← op "["
    let index ← slices sub
    let _ ← op "]"
    notAhead trailerAhead
    return .subscript (← since t) e index)

private def nameTarget : Reader Expr := do return nameExpr (← identifier)

private def enclosed (opening closing : String) (item : Reader (List Expr))
    (make : Span → List Expr → Expr) : Reader Expr := do
  let t ← op opening
  let items ← optional item
  let _ ← op closing
  return make (← since t) (items.getD [])

private def targetsWithComma (sub : Phrase) : Reader (List Expr) := do
  let items ← separated "," (sub .starTarget)
  let comma ← optional (op ",")
  if items.length == 1 && comma.isNone then fail else return items

/-- A target inside others, without a star. -/
def innerTarget (sub : Phrase) : Reader Expr :=
  firstOf [partTarget sub, nameTarget,
    do
      let _ ← op "("
      let e ← sub .innerTarget
      let _ ← op ")"
      return e,
    enclosed "(" ")" (targetsWithComma sub) .tuple,
    enclosed "[" "]" (commaItems (sub .starTarget)) .list]

/-- A target that may have one star. -/
def starTarget (sub : Phrase) : Reader Expr :=
  orElse (do
    let t ← op "*"
    notAhead (op "*")
    let e ← sub .starTarget
    return .starred (← since t) e)
  (sub .innerTarget)

private def singleTargetIn (sub : Phrase) : Nat → Reader Expr
  | 0 => fail
  | fuel + 1 => firstOf [partTarget sub, nameTarget,
      do
        let _ ← op "("
        let e ← singleTargetIn sub fuel
        let _ ← op ")"
        return e]

/-- The one target of an augmented or annotated assignment. -/
def singleTarget (sub : Phrase) : Reader Expr := fun ctx pos trace =>
  singleTargetIn sub (ctx.source.tokens.size + 1) ctx pos trace

/-- One of the targets of a deletion. -/
def deletedTarget (sub : Phrase) : Reader Expr :=
  firstOf [partTarget sub, nameTarget,
    do
      let _ ← op "("
      let e ← sub .deletedTarget
      let _ ← op ")"
      return e,
    enclosed "(" ")" (commaItems (sub .deletedTarget)) .tuple,
    enclosed "[" "]" (commaItems (sub .deletedTarget)) .list]

end Stencil.Source.Grammar
