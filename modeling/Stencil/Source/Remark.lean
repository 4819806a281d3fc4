import Stencil.Source.Fault
import Stencil.Text.Words

/-!
Remarks on code that is accepted but hardly meant: a display that is called or asked for an item
like a comma was forgotten, a literal compared by identity, an assertion of a pair. They come in the
order in which the code is laid out, where the last suite of an attempt stands once for each way
that leads through it.
-/
namespace Stencil.Source
open Stencil.Text

structure Remark where
  line : Nat
  message : String
  deriving DecidableEq, Repr

namespace Remark

/-! Kinds of values that are known from the code alone. -/

private def ofConstant : Constant → String
  | .none => "NoneType"
  | .true | .false => "bool"
  | .ellipsis => "ellipsis"
  | .int _ => "int"
  | .float _ => "float"
  | .imaginary _ => "complex"
  | .str .. => "str"
  | .bytes _ => "bytes"

/-- The kinds of numbers, each wider than those before it. -/
private def numberKinds : List String := ["bool", "int", "float", "complex"]

/-- The kinds of rows of items that are known before the code runs. -/
private def rowKinds : List String := ["str", "bytes", "tuple"]

private def ofUnary? (op : UnaryOp) (kind : String) : Option String :=
  match op with
  | .not => some "bool"
  | .invert => if kind == "bool" || kind == "int" then some "int" else none
  | _ => if numberKinds.contains kind then some (if kind == "bool" then "int" else kind) else none

private def ofBinary? (op : BinaryOp) (a b : String) : Option String :=
  match op, numberKinds.idxOf? a, numberKinds.idxOf? b with
  | .add, some i, some j | .sub, some i, some j | .mul, some i, some j =>
    numberKinds[max 1 (max i j)]?
  | .add, none, none => if a == b then some a else none
  | .mul, none, some j => if j ≤ 1 && rowKinds.contains a then some a else none
  | .mul, some i, none => if i ≤ 1 && rowKinds.contains b then some b else none
  | _, _, _ => none

mutual

/-- The kind of an expression that is worked out before the code runs. -/
def constantKind? : Expr → Option String
  | .constant _ c => some (ofConstant c)
  | .name _ id => if id == "__debug__" then some "bool" else none
  | .unary _ op e => (constantKind? e).bind (ofUnary? op)
  | .binary _ a op b =>
    match constantKind? a, constantKind? b with
    | some a, some b => ofBinary? op a b
    | _, _ => none
  | .tuple _ items => if allConstant items then some "tuple" else none
  | _ => none

def allConstant : List Expr → Bool
  | [] => true
  | e :: rest => (constantKind? e).isSome && allConstant rest

end

/-- The kind of value that an expression gives, where its form tells it. -/
def kind? (e : Expr) : Option String :=
  match e with
  | .tuple .. => some "tuple"
  | .list .. | .listComp .. => some "list"
  | .set .. | .setComp .. => some "set"
  | .dict .. | .dictComp .. => some "dict"
  | .generator .. => some "generator"
  | .lambda .. => some "function"
  | .formatted .. => some "str"
  | e => constantKind? e

/-! The rules. -/

private def missedComma (e : Expr) (what : String) : List Remark :=
  [⟨e.span.start.line, what ++ "; perhaps you missed a comma?"⟩]

/-- On what is called. -/
private def onCall (call callee : Expr) : List Remark :=
  match kind? callee with
  | some "function" | none => []
  | some kind => missedComma call (quoted kind ++ " object is not callable")

/-- On what is asked for an item. -/
private def onItem (whole value index : Expr) : List Remark :=
  match kind? value, kind? index with
  | some kind, index =>
    if ["NoneType", "ellipsis", "bool", "int", "float", "complex", "set", "generator",
        "function"].contains kind then
      missedComma whole (quoted kind ++ " object is not subscriptable")
    else
      match kind, index with
      | "dict", _ | _, none | _, some "int" | _, some "bool" => []
      | kind, some index =>
        missedComma whole (kind ++ " indices must be integers or slices, not " ++ index)
  | none, _ => []

/-- Whether an expression is a literal whose identity means nothing. -/
private def isLiteral (e : Expr) : Bool :=
  match constantKind? e with
  | some "NoneType" | some "bool" | some "ellipsis" | none => false
  | some _ => true

/-- On the first comparison by identity that has a literal beside it. -/
private def onCompare (whole left : Expr) : List Comparison → List Remark
  | [] => []
  | .mk op right :: rest =>
    let line := whole.span.start.line
    match op, isLiteral left || isLiteral right with
    | .is, true => [⟨line, "\"is\" with a literal. Did you mean \"==\"?"⟩]
    | .isNot, true => [⟨line, "\"is not\" with a literal. Did you mean \"!=\"?"⟩]
    | _, _ => onCompare whole right rest

/-- A comparison that is turned around by what stands in front of it. -/
private def negated : Expr → Option Expr
  | .compare s left [.mk .is right] => some (.compare s left [.mk .isNot right])
  | .compare s left [.mk .isNot right] => some (.compare s left [.mk .is right])
  | _ => none

private def onAssertion (s : Span) (test : Expr) : List Remark :=
  match test with
  | .tuple _ (_ :: _) =>
    [⟨s.start.line, "assertion is always true, perhaps remove parentheses?"⟩]
  | _ => []

/-! Expressions. -/

/-- The value that a comparison starts with, and the comparisons. -/
private def comparisonIn : Expr → Option (Expr × List Comparison)
  | .compare _ left rest => some (left, rest)
  | _ => none

/-- What is remarked on the comparison itself, where a negation may stand in front of it. -/
private def onNegated (e : Expr) : List Remark :=
  let e := (negated e).getD e
  match comparisonIn e with
  | some (left, rest) => onCompare e left rest
  | none => []

mutual

/-- The remarks on an expression. -/
def inExpr : Expr → List Remark
  | .constant .. | .name .. => []
  | .formatted _ pieces => inPieces pieces
  | .attribute _ value _ => inExpr value
  | .subscript s value index =>
    onItem (.subscript s value index) value index ++ inExpr value ++ inExpr index
  | .slice _ lower upper step => inOption lower ++ inOption upper ++ inOption step
  | .call s f args keywords =>
    onCall (.call s f args keywords) f ++ inExpr f ++ inAll args ++ inKeywords keywords
  | .unary _ .not (.compare s left rest) =>
    onNegated (.compare s left rest) ++ inExpr left ++ inComparisons rest
  | .unary _ _ operand => inExpr operand
  | .binary _ left _ right => inExpr left ++ inExpr right
  | .bool _ _ operands => inAll operands
  | .compare s left rest =>
    onCompare (.compare s left rest) left rest ++ inExpr left ++ inComparisons rest
  | .conditional _ test body orElse => inExpr test ++ inExpr body ++ inExpr orElse
  | .lambda _ params body => inDefaults params ++ inExpr body
  | .named _ _ value | .starred _ value | .await _ value | .yieldFrom _ value => inExpr value
  | .yield _ value => inOption value
  | .tuple _ items | .list _ items | .set _ items => inAll items
  | .dict _ items => inEntries items
  | .listComp _ item clauses | .setComp _ item clauses | .generator _ item clauses =>
    inClauses (inExpr item) clauses
  | .dictComp _ key value clauses => inClauses (inExpr key ++ inExpr value) clauses

def inOption : Option Expr → List Remark
  | none => []
  | some e => inExpr e

def inAll : List Expr → List Remark
  | [] => []
  | e :: rest => inExpr e ++ inAll rest

def inKeywords : List Keyword → List Remark
  | [] => []
  | .mk _ _ value :: rest => inExpr value ++ inKeywords rest

def inComparisons : List Comparison → List Remark
  | [] => []
  | .mk _ right :: rest => inExpr right ++ inComparisons rest

def inEntries : List Entry → List Remark
  | [] => []
  | .mk key value :: rest => inOption key ++ inExpr value ++ inEntries rest

def inPieces : List Piece → List Remark
  | [] => []
  | .text _ :: rest => inPieces rest
  | .field value _ none :: rest => inExpr value ++ inPieces rest
  | .field value _ (some format) :: rest => inExpr value ++ inPieces format ++ inPieces rest

/-- The remarks on a comprehension, whose first source comes last. -/
def inClauses (item : List Remark) : List Clause → List Remark
  | [] => item
  | .mk _ target source conditions :: rest =>
    inExpr target ++ inAll conditions ++ inLaterClauses rest ++ item ++ inExpr source

def inLaterClauses : List Clause → List Remark
  | [] => []
  | .mk _ target source conditions :: rest =>
    inExpr source ++ inExpr target ++ inAll conditions ++ inLaterClauses rest

def inDefaults : Parameters → List Remark
  | .mk positionalOnly positional _ keywordOnly _ =>
    inDefaultsOf positionalOnly ++ inDefaultsOf positional ++ inDefaultsOf keywordOnly

def inDefaultsOf : List Parameter → List Remark
  | [] => []
  | .mk _ _ _ default :: rest => inOption default ++ inDefaultsOf rest

end

/-- The remarks on a target; what it stands for is only written to. -/
def inTarget : Expr → List Remark
  | .subscript _ value index => inExpr value ++ inExpr index
  | .tuple _ items | .list _ items => inTargets items
  | .starred _ target => inTarget target
  | e => inExpr e
where
  inTargets : List Expr → List Remark
    | [] => []
    | e :: rest => inTarget e ++ inTargets rest

private def inHint : Parameter → List Remark
  | .mk _ _ hint _ => inOption hint

private def inHints : Parameters → List Remark
  | .mk positionalOnly positional rest keywordOnly keywords =>
    (positional ++ positionalOnly ++ rest.toList ++ keywordOnly ++ keywords.toList).flatMap inHint

/-! Statements. -/

/-- Where statements stand: whether hints are kept, and what is remarked on the suites that lie on
the way out of the function and of the loop around. -/
structure Way where
  lazyHints : Bool
  inFunction : Bool := false
  out : List Remark := []
  outOfLoop : List Remark := []

private def Way.through (w : Way) (final : List Remark) : Way :=
  { w with out := final ++ w.out, outOfLoop := final ++ w.outOfLoop }

private def Way.loop (w : Way) : Way := { w with outOfLoop := [] }

private def Way.function (w : Way) : Way := { lazyHints := w.lazyHints, inFunction := true }

private def Way.class (w : Way) : Way := { lazyHints := w.lazyHints }

private def inAnnotated (w : Way) (target hint : Expr) (value : Option Expr) (bare : Bool) :
    List Remark :=
  let given := match value with
    | some v => inExpr v ++ inTarget target
    | none => []
  let parts := match target, value with
    | .attribute _ owner _, none => inExpr owner
    | .subscript _ owner index, none => inExpr owner ++ inExpr index
    | _, _ => []
  let hinted := if w.lazyHints || w.inFunction then [] else inExpr hint
  given ++ (if bare then hinted else parts ++ hinted)

private def inPattern : Pattern → List Remark
  | .value _ e => inExpr e
  | _ => []

mutual

/-- The remarks on a statement. -/
def inStmt (w : Way) : Stmt → List Remark
  | .expression _ value => inExpr value
  | .assign _ targets value => inExpr value ++ targets.flatMap inTarget
  | .annotated _ target hint value bare => inAnnotated w target hint value bare
  | .augmented _ target _ value => inTarget target ++ inExpr value
  | .function _ _ _ params returns decorators body =>
    inAll decorators ++ inDefaults params ++
      (if w.lazyHints then [] else inHints params ++ inOption returns) ++ inStmts w.function body
  | .class _ _ bases keywords decorators body =>
    inAll decorators ++ inStmts w.class body ++ inAll bases ++ inKeywords keywords
  | .return _ value => inOption value ++ w.out
  | .raise _ error cause => inOption error ++ inOption cause
  | .delete _ targets => targets.flatMap inTarget
  | .import .. | .importFrom .. | .global .. | .nonlocal .. | .pass _ => []
  | .assertion s test message => onAssertion s test ++ inExpr test ++ inOption message
  | .leave _ | .continue _ => w.outOfLoop
  | .branch _ test body orElse => inExpr test ++ inStmts w body ++ inStmts w orElse
  | .loop _ test body orElse =>
    inExpr test ++ inStmts w.loop body ++ inExpr test ++ inStmts w orElse
  | .each _ _ target source body orElse =>
    inExpr source ++ inTarget target ++ inStmts w.loop body ++ inStmts w orElse
  | .context _ _ items body =>
    items.flatMap (fun i => inExpr i.value ++ (i.target.map inTarget).getD []) ++ inStmts w body
  | .attempt _ _ body handlers orElse final =>
    let last := inStmts w final
    let inner := w.through last
    inStmts inner body ++ inStmts inner orElse ++ inHandlers inner handlers ++ last ++ last
  | .choose _ subject cases => inExpr subject ++ inCases w cases

def inStmts (w : Way) : List Stmt → List Remark
  | [] => []
  | stmt :: rest => inStmt w stmt ++ inStmts w rest

def inHandlers (w : Way) : List Handler → List Remark
  | [] => []
  | .mk _ kind _ body :: rest => inOption kind ++ inStmts w body ++ inHandlers w rest

def inCases (w : Way) : List Case → List Remark
  | [] => []
  | .mk pattern guard body :: rest =>
    inPattern pattern ++ inOption guard ++ inStmts w body ++ inCases w rest

end

/-- A remark on a line of a file, as it is printed. -/
def shown (file : String) (r : Remark) : String :=
  file ++ ":" ++ ofNat r.line ++ ": SyntaxWarning: " ++ r.message ++ "\n"

end Remark

/-- The remarks on a module. -/
def Module.remarks (m : Module) : List Remark :=
  Remark.inStmts { lazyHints := (m.features.toOption.map (·.lazyHints)).getD false } m

end Stencil.Source
