import Stencil.Source.Grammar.Reader
import Stencil.Text.NormalForm

/-!
What all rules of the grammar share: names and reserved words, what expressions are called in
complaints, and which of them can be assigned to or deleted.
-/
namespace Stencil.Source.Grammar
open Reader

/-- The readers of the phrases inside a rule. -/
abbrev Phrase := Goal → Reader Expr

def reservedWords : List String :=
  ["False", "None", "True", "and", "as", "assert", "async", "await", "break", "class", "continue",
    "def", "del", "elif", "else", "except", "finally", "for", "from", "global", "if", "import",
    "in", "is", "lambda", "nonlocal", "not", "or", "pass", "raise", "return", "try", "while",
    "with", "yield"]

/-- Words that are reserved only where a rule asks for them. -/
def softWords : List String := ["_", "case", "match"]

/-- Whether a name begins one of these words. -/
def beginsSoftWord (t : Token) : Bool :=
  t.kind == .name && softWords.any fun w => w.startsWith t.text

def isFreeName (t : Token) : Bool := t.kind == .name && !reservedWords.contains t.text

def identifier : Reader Token := satisfy isFreeName

/-- The name that a token stands for. -/
def nameOf (t : Token) : String := Text.normalForm t.text

def nameExpr (t : Token) : Expr := .name t.span (nameOf t)

def constantName? (t : Token) : Option Constant :=
  if t.kind != .name then none
  else match t.text with
    | "None" => some .none
    | "True" => some .true
    | "False" => some .false
    | _ => none

/-- What an expression is called in complaints. -/
def describe : Expr → String
  | .constant _ .none => "None"
  | .constant _ .true => "True"
  | .constant _ .false => "False"
  | .constant _ .ellipsis => "ellipsis"
  | .constant .. => "literal"
  | .formatted .. => "f-string expression"
  | .name .. => "name"
  | .attribute .. => "attribute"
  | .subscript .. => "subscript"
  | .slice .. => "slice"
  | .call .. => "function call"
  | .unary .. | .binary .. | .bool .. => "expression"
  | .compare .. => "comparison"
  | .conditional .. => "conditional expression"
  | .lambda .. => "lambda"
  | .named .. => "named expression"
  | .starred .. => "starred"
  | .await .. => "await expression"
  | .yield .. | .yieldFrom .. => "yield expression"
  | .tuple .. => "tuple"
  | .list .. => "list"
  | .set .. => "set display"
  | .dict .. => "dict literal"
  | .listComp .. => "list comprehension"
  | .setComp .. => "set comprehension"
  | .dictComp .. => "dict comprehension"
  | .generator .. => "generator expression"

/-- The three places that take targets. -/
inductive TargetPlace where
  | assignment | loop | deletion
  deriving DecidableEq, Repr

mutual

/-- The part of an expression that cannot be a target, if there is one. -/
def badTarget (place : TargetPlace) : Expr → Option Expr
  | .name .. | .attribute .. | .subscript .. => none
  | .tuple _ items | .list _ items => badTargets place items
  | .starred s value =>
    if place == .deletion then some (.starred s value) else badTarget place value
  | .compare s left (.mk op right :: rest) =>
    if place == .loop then if op == .in then badTarget place left else none
    else some (.compare s left (.mk op right :: rest))
  | e => some e

def badTargets (place : TargetPlace) : List Expr → Option Expr
  | [] => none
  | e :: rest =>
    match badTarget place e with
    | some bad => some bad
    | none => badTargets place rest

end

/-- Complains about the part of an expression that is no target. -/
def complainTarget (place : TargetPlace) (e : Expr) : Reader Unit :=
  match badTarget place e with
  | none => pure ()
  | some bad =>
    complainAt bad.span
      ((if place == .deletion then "cannot delete " else "cannot assign to ") ++ describe bad)

/-- Items with commas between them, perhaps with one behind the last. -/
def commaItems {α : Type} (item : Reader α) : Reader (List α) := do
  let items ← separated "," item
  let _ ← optional (op ",")
  return items

/-- One item stands for itself; with a comma, or with more items, they are a tuple. -/
def tupleOr (item : Reader Expr) : Reader Expr := do
  let t ← peek
  let items ← separated "," item
  let comma ← optional (op ",")
  match items, comma with
  | [e], none => return e
  | items, _ => return .tuple (← since t) items

end Stencil.Source.Grammar
