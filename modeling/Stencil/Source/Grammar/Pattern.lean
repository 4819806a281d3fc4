import Stencil.Source.Grammar.Expression

/-!
The grammar of patterns: literals, names, sequences, mappings and classes, and alternatives of
them.
-/
namespace Stencil.Source.Grammar
open Reader

private def stringToken (t : Token) : Bool := t.kind == .string

private def signedNumber : Reader Expr := do
  let t ← peek
  let minus ← optional (op "-")
  let n ← number
  if minus.isSome then return .unary (← since t) .minus n else return n

private def isImaginary : Expr → Bool
  | .constant _ (.imaginary _) => true
  | _ => false

/-- A number that is real, or imaginary, as its place asks for. -/
private def numberOf (imaginary : Bool) : Reader Expr := do
  let n ← number
  if isImaginary n == imaginary then return n
  else complainAt n.span ((if imaginary then "imaginary" else "real") ++
    " number required in complex literal")

private def complexNumber : Reader Expr := do
  let t ← peek
  let minus ← optional (op "-")
  let n ← numberOf false
  let left ← if minus.isSome then (do return Expr.unary (← since t) .minus n) else pure n
  let sign ← satisfy fun t => Token.isOp t "+" || Token.isOp t "-"
  let right ← numberOf true
  return .binary (← since t) left (if sign.text == "+" then .add else .sub) right

/-- The literals that stand in patterns and as keys. -/
private def literal (sub : Phrase) : Reader Expr :=
  firstOf [
    do
      let n ← signedNumber
      notAhead (satisfy fun t => Token.isOp t "+" || Token.isOp t "-")
      return n,
    complexNumber,
    do
      ahead (satisfy stringToken)
      sub .atom,
    do
      let t ← satisfy fun t => (constantName? t).isSome
      return .constant t.span ((constantName? t).getD .none)]

private def dottedFrom (t : Token) : Nat → Expr → Reader Expr
  | 0, e => return e
  | fuel + 1, e => do
    match ← optional (do let _ ← op "."; identifier) with
    | some name => dottedFrom t fuel (.attribute (← since t) e (nameOf name))
    | none => return e

/-- A name with or without dots. -/
private def dotted : Reader Expr := fun ctx pos trace =>
  (do
    let t ← identifier
    dottedFrom t (ctx.source.tokens.size + 1) (nameExpr t) : Reader Expr) ctx pos trace

/-- A name with at least one dot. -/
private def dottedValue : Reader Expr := do
  let e ← dotted
  match e with
  | .attribute .. => return e
  | _ => fail

private def noContinuation : Reader Unit :=
  notAhead (satisfy fun t => t.kind == .op && [".", "(", "="].contains t.text)

/-- A name that takes what it is matched with. -/
private def captured : Reader String := do
  let t ← satisfy fun t => isFreeName t && t.text != "_"
  noContinuation
  return nameOf t

private def isWildcard (t : Token) : Bool := Token.isWord t "_"

/-! Patterns in patterns are read by a reader that is handed in. -/

private abbrev Inner := Reader Pattern

private def starPattern : Reader Pattern := do
  let t ← op "*"
  orElse
    (do
      let name ← captured
      return .star (← since t) (some name))
    (do
      let _ ← satisfy isWildcard
      return .star (← since t) none)

private def maybeStar (inner : Inner) : Reader Pattern := orElse starPattern inner

/-- Patterns of which the first is followed by a comma. -/
private def openSequence (inner : Inner) : Reader (List Pattern) := do
  let first ← maybeStar inner
  let _ ← op ","
  let rest ← optional (commaItems (maybeStar inner))
  return first :: rest.getD []

private def sequencePattern (inner : Inner) : Reader Pattern := do
  let t ← peek
  let items ← orElse
    (do
      let _ ← op "["
      let items ← optional (commaItems (maybeStar inner))
      let _ ← op "]"
      return items)
    (do
      let _ ← op "("
      let items ← optional (openSequence inner)
      let _ ← op ")"
      return items)
  return .sequence (← since t) (items.getD [])

private def groupPattern (inner : Inner) : Reader Pattern := do
  let _ ← op "("
  let p ← inner
  let _ ← op ")"
  return p

private def mapEntry (sub : Phrase) (inner : Inner) : Reader (Expr × Pattern) := do
  let key ← orElse (literal sub) dottedValue
  let _ ← op ":"
  return (key, ← inner)

private def mappingPattern (sub : Phrase) (inner : Inner) : Reader Pattern := do
  let t ← op "\x7b"
  let rest : Reader String := do
    let _ ← op "**"
    captured
  let close : Reader Unit := do
    let _ ← optional (op ",")
    let _ ← op "\x7d"
  let entries := separated "," (mapEntry sub inner)
  let (items, others) ← firstOf [
    do
      let _ ← op "\x7d"
      return ([], none),
    do
      let name ← rest
      close
      return ([], some name),
    do
      let items ← entries
      let _ ← op ","
      let name ← rest
      close
      return (items, some name),
    do
      let items ← entries
      close
      return (items, none)]
  return .mapping (← since t) (items.map Prod.fst) (items.map Prod.snd) others

private def positionalPatterns (inner : Inner) : Reader (List Pattern) := separated "," inner

private def keywordPatterns (inner : Inner) : Reader (List (Span × String × Pattern)) :=
  separated "," (do
    let t ← identifier
    let _ ← op "="
    let p ← inner
    return (t.span, nameOf t, p))

private def explainClassPattern (inner : Inner) : Reader Unit := explained do
  let _ ← dotted
  let _ ← op "("
  let _ ← optional (do
    let _ ← positionalPatterns inner
    op ",")
  let _ ← keywordPatterns inner
  let _ ← op ","
  let late ← positionalPatterns inner
  let first := late.headD default
  complainAt (first.span.through (late.getLast?.getD first).span)
    "positional patterns follow keyword patterns"

private def classPattern (inner : Inner) : Reader Pattern :=
  orElse
    (do
      let t ← peek
      let cls ← dotted
      let _ ← op "("
      let close : Reader Unit := do
        let _ ← optional (op ",")
        let _ ← op ")"
      let (positional, named) ← firstOf [
        do
          let _ ← op ")"
          return ([], []),
        do
          let ps ← positionalPatterns inner
          close
          return (ps, []),
        do
          let ks ← keywordPatterns inner
          close
          return ([], ks),
        do
          let ps ← positionalPatterns inner
          let _ ← op ","
          let ks ← keywordPatterns inner
          close
          return (ps, ks)]
      return .class (← since t) cls positional (named.map fun k => (k.1, k.2.1))
        (named.map fun k => k.2.2))
    (do
      explainClassPattern inner
      fail)

private def closedPattern (sub : Phrase) (inner : Inner) : Reader Pattern := do
  let t ← peek
  firstOf [
    do
      let e ← literal sub
      return .value (← since t) e,
    do
      let name ← captured
      return .capture (← since t) none (some name),
    do
      let _ ← satisfy isWildcard
      return .capture (← since t) none none,
    do
      let e ← dottedValue
      noContinuation
      return .value (← since t) e,
    groupPattern inner,
    sequencePattern inner,
    mappingPattern sub inner,
    classPattern inner]

private def orPattern (sub : Phrase) (inner : Inner) : Reader Pattern := do
  let t ← peek
  match ← separated "|" (closedPattern sub inner) with
  | [p] => return p
  | ps => return .alternatives (← since t) ps

/-- Known mistakes behind a pattern that wants a name for its value. -/
private def explainCapture (sub : Phrase) : Reader Unit := do
  explained do
    let _ ← word "as"
    let t ← satisfy isWildcard
    complainAt t.span "cannot use '_' as a target"
  explained do
    let _ ← word "as"
    notAhead identifier
    let e ← sub .expression
    complainAt e.span "invalid pattern target"

/-- A pattern that nests less deep than a bound. -/
private def patternIn (sub : Phrase) : Nat → Reader Pattern
  | 0 => fail
  | fuel + 1 => do
    let t ← peek
    let p ← orPattern sub (patternIn sub fuel)
    match ← optional (do let _ ← word "as"; captured) with
    | some name => return .capture (← since t) (some p) (some name)
    | none =>
      explainCapture sub
      return p

/-- A pattern, or several with commas, which fit a sequence. -/
def patterns (sub : Phrase) : Reader Pattern := fun ctx pos trace =>
  (do
    let t ← peek
    let inner := patternIn sub (ctx.source.tokens.size + 1)
    match ← optional (openSequence inner) with
    | some items => return .sequence (← since t) items
    | none => inner : Reader Pattern) ctx pos trace

end Stencil.Source.Grammar
