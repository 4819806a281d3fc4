/-!
Syntax trees of module sources. Every node knows the part of the source it was read from.
Expressions are kept whole, because annotations, bases and aliases are printed again, and
statements are kept whole, because the rules of names and places are checked on them.
-/
namespace Stencil.Source

/-- A place in a source: a line, counted from one, and a column, counted from zero in characters
and in bytes. -/
structure Place where
  line : Nat
  column : Nat
  bytes : Nat
  deriving DecidableEq, Repr, Inhabited

def Place.start : Place := ⟨1, 0, 0⟩

/-- The place behind a character. -/
def Place.next (p : Place) (c : Char) : Place :=
  if c == '\n' then ⟨p.line + 1, 0, 0⟩ else ⟨p.line, p.column + 1, p.bytes + c.utf8Size⟩

/-- The place behind some characters that are read from a place on. -/
def Place.after (p : Place) (cs : List Char) : Place := cs.foldl Place.next p

/-- A part of a source: where it starts, and the place behind it. -/
structure Span where
  start : Place
  stop : Place
  deriving DecidableEq, Repr, Inhabited

/-- From the start of one part to the end of another. -/
def Span.through (s t : Span) : Span := ⟨s.start, t.stop⟩

inductive Constant where
  | none
  | true
  | false
  | ellipsis
  | int (value : Nat)
  | float (value : Float)
  | imaginary (value : Float)
  /-- A text; `marked` records the letter u before its first quote. -/
  | str (value : String) (marked : Bool)
  | bytes (value : List UInt8)

inductive UnaryOp where
  | plus | minus | invert | not
  deriving DecidableEq, Repr

inductive BinaryOp where
  | add | sub | mul | matMul | div | mod | floorDiv | pow
  | shiftLeft | shiftRight | bitOr | bitXor | bitAnd
  deriving DecidableEq, Repr

inductive BoolOp where
  | and | or
  deriving DecidableEq, Repr

inductive CompareOp where
  | eq | ne | lt | le | gt | ge | is | isNot | «in» | notIn
  deriving DecidableEq, Repr

mutual

inductive Expr where
  | constant (span : Span) (value : Constant)
  | formatted (span : Span) (pieces : List Piece)
  | name (span : Span) (id : String)
  | attribute (span : Span) (value : Expr) (attr : String)
  | subscript (span : Span) (value index : Expr)
  | slice (span : Span) (lower upper step : Option Expr)
  | call (span : Span) (function : Expr) (args : List Expr) (keywords : List Keyword)
  | unary (span : Span) (op : UnaryOp) (operand : Expr)
  | binary (span : Span) (left : Expr) (op : BinaryOp) (right : Expr)
  | bool (span : Span) (op : BoolOp) (operands : List Expr)
  | compare (span : Span) (left : Expr) (rest : List Comparison)
  | conditional (span : Span) (test body orElse : Expr)
  | lambda (span : Span) (params : Parameters) (body : Expr)
  | named (span : Span) (target value : Expr)
  | starred (span : Span) (value : Expr)
  | await (span : Span) (value : Expr)
  | yield (span : Span) (value : Option Expr)
  | yieldFrom (span : Span) (value : Expr)
  | tuple (span : Span) (items : List Expr)
  | list (span : Span) (items : List Expr)
  | set (span : Span) (items : List Expr)
  | dict (span : Span) (items : List Entry)
  | listComp (span : Span) (item : Expr) (clauses : List Clause)
  | setComp (span : Span) (item : Expr) (clauses : List Clause)
  | dictComp (span : Span) (key value : Expr) (clauses : List Clause)
  | generator (span : Span) (item : Expr) (clauses : List Clause)

/-- A keyword argument; without a name it unpacks a mapping. -/
inductive Keyword where
  | mk (span : Span) (name : Option String) (value : Expr)

inductive Comparison where
  | mk (op : CompareOp) (right : Expr)

/-- An entry of a mapping display; without a key it unpacks a mapping. -/
inductive Entry where
  | mk (key : Option Expr) (value : Expr)

/-- One for-part of a comprehension with its conditions. -/
inductive Clause where
  | mk (async : Bool) (target source : Expr) (conditions : List Expr)

/-- A piece of a formatted text: plain text, or a field with a conversion letter and a format. -/
inductive Piece where
  | text (s : String)
  | field (value : Expr) (conversion : Option Char) (format : Option (List Piece))

inductive Parameter where
  | mk (span : Span) (name : String) (hint default : Option Expr)

inductive Parameters where
  | mk (positionalOnly positional : List Parameter) (rest : Option Parameter)
      (keywordOnly : List Parameter) (keywords : Option Parameter)

end

instance : Inhabited Expr := ⟨.tuple default []⟩

def Expr.span : Expr → Span
  | .constant s _ | .formatted s _ | .name s _ | .attribute s _ _ | .subscript s _ _
  | .slice s _ _ _ | .call s _ _ _ | .unary s _ _ | .binary s _ _ _ | .bool s _ _ | .compare s _ _
  | .conditional s _ _ _ | .lambda s _ _ | .named s _ _ | .starred s _ | .await s _ | .yield s _
  | .yieldFrom s _ | .tuple s _ | .list s _ | .set s _ | .dict s _ | .listComp s _ _
  | .setComp s _ _ | .dictComp s _ _ _ | .generator s _ _ => s

/-- One imported name: its dotted path and the name it is bound to, if given. -/
structure ImportName where
  span : Span
  path : String
  newName : Option String
  deriving DecidableEq, Repr

/-- What a value is matched with. -/
inductive Pattern where
  /-- A literal, or a dotted name whose value has to be equal. -/
  | value (span : Span) (e : Expr)
  /-- A name that takes the value if the pattern before it fits; without both it takes all. -/
  | capture (span : Span) (pattern : Option Pattern) (name : Option String)
  | star (span : Span) (name : Option String)
  | sequence (span : Span) (items : List Pattern)
  | mapping (span : Span) (keys : List Expr) (patterns : List Pattern) (rest : Option String)
  | class (span : Span) (cls : Expr) (positional : List Pattern) (names : List (Span × String))
      (patterns : List Pattern)
  | alternatives (span : Span) (patterns : List Pattern)

instance : Inhabited Pattern := ⟨.capture default none none⟩

def Pattern.span : Pattern → Span
  | .value s _ | .capture s _ _ | .star s _ | .sequence s _ | .mapping s _ _ _ | .class s _ _ _ _
  | .alternatives s _ => s

/-- A context that a statement enters, and what takes its value. -/
structure ContextItem where
  value : Expr
  target : Option Expr

mutual

inductive Stmt where
  | expression (span : Span) (value : Expr)
  | assign (span : Span) (targets : List Expr) (value : Expr)
  /-- A target with a hint; `bare` tells a plain name without parentheses. -/
  | annotated (span : Span) (target hint : Expr) (value : Option Expr) (bare : Bool)
  | augmented (span : Span) (target : Expr) (op : BinaryOp) (value : Expr)
  | function (span : Span) (async : Bool) (name : String) (params : Parameters)
      (returns : Option Expr) (decorators : List Expr) (body : List Stmt)
  | class (span : Span) (name : String) (bases : List Expr) (keywords : List Keyword)
      (decorators : List Expr) (body : List Stmt)
  | return (span : Span) (value : Option Expr)
  | raise (span : Span) (error cause : Option Expr)
  | delete (span : Span) (targets : List Expr)
  | import (span : Span) (names : List ImportName)
  | importFrom (span : Span) (level : Nat) (path : String) (names : List ImportName)
  | global (span : Span) (names : List String)
  | nonlocal (span : Span) (names : List String)
  | assertion (span : Span) (test : Expr) (message : Option Expr)
  | pass (span : Span)
  | leave (span : Span)
  | continue (span : Span)
  | branch (span : Span) (test : Expr) (body orElse : List Stmt)
  | loop (span : Span) (test : Expr) (body orElse : List Stmt)
  | each (span : Span) (async : Bool) (target source : Expr) (body orElse : List Stmt)
  | context (span : Span) (async : Bool) (items : List ContextItem) (body : List Stmt)
  /-- A suite with handlers; `grouped` tells handlers that take groups of errors. -/
  | attempt (span : Span) (grouped : Bool) (body : List Stmt) (handlers : List Handler)
      (orElse final : List Stmt)
  | choose (span : Span) (subject : Expr) (cases : List Case)

/-- What a suite does with errors of a kind; without a kind it takes all. -/
inductive Handler where
  | mk (span : Span) (kind : Option Expr) (name : Option String) (body : List Stmt)

inductive Case where
  | mk (pattern : Pattern) (guard : Option Expr) (body : List Stmt)

end

def Stmt.span : Stmt → Span
  | .expression s _ | .assign s _ _ | .annotated s _ _ _ _ | .augmented s _ _ _
  | .function s _ _ _ _ _ _ | .class s _ _ _ _ _ | .return s _ | .raise s _ _ | .delete s _
  | .import s _ | .importFrom s _ _ _ | .global s _ | .nonlocal s _ | .assertion s _ _ | .pass s
  | .leave s | .continue s | .branch s _ _ _ | .loop s _ _ _ | .each s _ _ _ _ _ | .context s _ _ _
  | .attempt s _ _ _ _ _ | .choose s _ _ => s

/-- A module source as its statements in order. -/
abbrev Module := List Stmt

end Stencil.Source
