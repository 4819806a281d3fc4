import Stencil.Source.Grammar.Phrase

/-!
Parameters of functions and lambdas. Those without default come first, a slash ends the ones that
are given by position only, a star begins the ones that are given by name only.
-/
namespace Stencil.Source.Grammar
open Reader

/-- How parameters of functions and of lambdas differ: whether they have hints, what follows the
last, and what a lambda is called. -/
structure ParameterStyle where
  hinted : Bool
  stop : String
  noun : String

def ParameterStyle.function : ParameterStyle := ⟨true, ")", "Function"⟩
def ParameterStyle.lambda : ParameterStyle := ⟨false, ":", "Lambda expression"⟩

namespace ParameterStyle

private def atStop (st : ParameterStyle) : Reader Unit := ahead (op st.stop)

/-- A parameter ends with a comma or before what follows the last. -/
private def ended (st : ParameterStyle) : Reader Unit :=
  orElse (do let _ ← op ",") st.atStop

private def bare (sub : Phrase) (st : ParameterStyle) (starredHint : Bool) : Reader Parameter := do
  let t ← identifier
  let hint ←
    if !st.hinted then pure none
    else if starredHint then do
      let _ ← op ":"
      some <$> sub .starExpression
    else optional (do let _ ← op ":"; sub .expression)
  return .mk (← since t) (nameOf t) hint none

private def default_ (sub : Phrase) : Reader Expr := do
  let equals ← op "="
  explained do
    notAhead (sub .expression)
    ahead (satisfy fun t => t.kind == .op && (t.text == ")" || t.text == ","))
    complainAt equals.span "expected default value expression"
  sub .expression

private def withDefault : Parameter → Option Expr → Parameter
  | .mk s name hint _, e => .mk s name hint e

private def plain (sub : Phrase) (st : ParameterStyle) : Reader Parameter := do
  let p ← st.bare sub false
  st.ended
  return p

private def defaulted (sub : Phrase) (st : ParameterStyle) : Reader Parameter := do
  let p ← st.bare sub false
  let e ← default_ sub
  st.ended
  return withDefault p (some e)

private def either (sub : Phrase) (st : ParameterStyle) : Reader Parameter := do
  let p ← st.bare sub false
  let e ← optional (default_ sub)
  st.ended
  return withDefault p e

private def slash (st : ParameterStyle) : Reader Unit := do
  let _ ← op "/"
  st.ended

private def slashPlain (sub : Phrase) (st : ParameterStyle) : Reader (List Parameter) := do
  let ps ← some_ (st.plain sub)
  st.slash
  return ps

private def slashDefaulted (sub : Phrase) (st : ParameterStyle) : Reader (List Parameter) := do
  let ps ← many (st.plain sub)
  let more ← some_ (st.defaulted sub)
  st.slash
  return ps ++ more

private def parameterSpan : Parameter → Span
  | .mk s _ _ _ => s

/-! What follows a star. -/

private def anySlash (sub : Phrase) (st : ParameterStyle) : Reader (List Parameter) :=
  orElse (st.slashPlain sub) (st.slashDefaulted sub)

private def explainStar (sub : Phrase) (st : ParameterStyle) : Reader Unit := do
  let message := "named arguments must follow bare *"
  explained do
    let star ← op "*"
    orElse (do let _ ← op st.stop) (do
      let _ ← op ","
      orElse (do let _ ← op st.stop) (do let _ ← op "**"))
    if st.hinted then complainAt star.span message else complainHere .syntax_ message
  explained do
    let _ ← op "*"
    let _ ← st.bare sub false
    let equals ← op "="
    complainAt equals.span "var-positional argument cannot have default value"
  let starEnd : Reader Unit :=
    orElse (do let _ ← st.plain sub) (do let _ ← op ",")
  explained do
    let _ ← op "*"
    starEnd
    let _ ← many (st.either sub)
    let star ← op "*"
    starEnd
    complainAt star.span "* argument may appear only once"

private def explainDouble (sub : Phrase) (st : ParameterStyle) : Reader Unit := do
  let start : Reader Unit := do
    let _ ← op "**"
    let _ ← st.bare sub false
  let late := "arguments cannot follow var-keyword argument"
  explained do
    start
    let equals ← op "="
    complainAt equals.span "var-keyword argument cannot have default value"
  explained do
    start
    let _ ← op ","
    let p ← st.bare sub false
    complainAt (parameterSpan p) late
  explained do
    start
    let _ ← op ","
    let t ← satisfy fun t => t.kind == .op && ["*", "**", "/"].contains t.text
    complainAt t.span late

/-- Parameters from the first star on. -/
private structure StarPart where
  rest : Option Parameter := none
  keywordOnly : List Parameter := []
  keywords : Option Parameter := none

private def double (sub : Phrase) (st : ParameterStyle) : Reader Parameter := do
  explainDouble sub st
  let _ ← op "**"
  st.plain sub

private def starPart (sub : Phrase) (st : ParameterStyle) : Reader StarPart := do
  explainStar sub st
  let after (rest : Option Parameter) (only : List Parameter) : Reader StarPart := do
    return ⟨rest, only, ← optional (st.double sub)⟩
  firstOf [
    do
      let _ ← op "*"
      let rest ← st.plain sub
      after (some rest) (← many (st.either sub)),
    do
      if !st.hinted then fail
      let _ ← op "*"
      let rest ← st.bare sub true
      st.ended
      after (some rest) (← many (st.either sub)),
    do
      let _ ← op "*"
      let _ ← op ","
      after none (← some_ (st.either sub)),
    do return { keywords := some (← st.double sub) }]

/-! All parameters. -/

private def explainAll (sub : Phrase) (st : ParameterStyle) : Reader Unit := do
  explained do
    let _ ← many (st.plain sub)
    let _ ← orElse (st.slashDefaulted sub) (some_ (st.defaulted sub))
    let p ← st.plain sub
    complainAt (parameterSpan p) "non-default argument follows default argument"
  explained do
    let _ ← many (st.plain sub)
    let first ← op "("
    let _ ← if st.hinted then some_ (st.plain sub) else separated "," (st.bare sub false)
    let _ ← optional (op ",")
    let last ← op ")"
    complainAt (first.span.through last.span) (st.noun ++ " parameters cannot be parenthesized")
  explained do
    let t ← op "/"
    let _ ← op ","
    complainAt t.span "at least one argument must precede /"
  explained do
    let _ ← anySlash sub st
    let _ ← many (st.either sub)
    let t ← op "/"
    complainAt t.span "/ may appear only once"
  explained do
    let _ ← optional (anySlash sub st)
    let _ ← many (st.either sub)
    let _ ← op "*"
    orElse (do let _ ← op ",") (do let _ ← st.plain sub)
    let _ ← many (st.either sub)
    let t ← op "/"
    complainAt t.span "/ must be ahead of *"
  explained do
    let _ ← some_ (st.either sub)
    let _ ← op "/"
    let t ← op "*"
    complainAt t.span "expected comma between / and *"

private def withStar (sub : Phrase) (st : ParameterStyle) (slashed positional : List Parameter) :
    Reader Parameters := do
  let part := (← optional (st.starPart sub)).getD {}
  return .mk slashed positional part.rest part.keywordOnly part.keywords

/-- Parameters, at least one, up to what follows them, which is left. -/
def read (sub : Phrase) (st : ParameterStyle) : Reader Parameters := do
  explainAll sub st
  firstOf [
    do
      let slashed ← st.slashPlain sub
      let ps ← many (st.plain sub)
      st.withStar sub slashed (ps ++ (← many (st.defaulted sub))),
    do
      let slashed ← st.slashDefaulted sub
      st.withStar sub slashed (← many (st.defaulted sub)),
    do
      let ps ← some_ (st.plain sub)
      st.withStar sub [] (ps ++ (← many (st.defaulted sub))),
    do
      let ps ← some_ (st.defaulted sub)
      st.withStar sub [] ps,
    do
      let part ← st.starPart sub
      return .mk [] [] part.rest part.keywordOnly part.keywords]

end ParameterStyle

/-- Parameters, if there are any. -/
def parameters (sub : Phrase) (st : ParameterStyle) : Reader Parameters := do
  return (← optional (st.read sub)).getD (.mk [] [] none [] none)

end Stencil.Source.Grammar
