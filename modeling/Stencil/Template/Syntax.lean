/-!
Syntax trees of templates: expressions, and the nodes of a template body. Lines are kept where a
complaint about the whole template can name them.
-/
namespace Stencil.Template

inductive Literal where
  | none
  | bool (b : Bool)
  | int (n : Int)
  | float (x : Float)
  | complex (re im : Float)
  | str (s : String)
  | markup (s : String)

inductive BinaryOp where
  | add | sub | mul | div | floorDiv | mod | pow
  deriving DecidableEq, Repr

inductive CompareOp where
  | eq | ne | lt | le | gt | ge | «in» | notIn
  deriving DecidableEq, Repr

mutual

inductive Expr where
  | literal (value : Literal)
  | name (id : String)
  /-- An attribute of a namespace as a target. -/
  | nsRef (name attr : String)
  | tuple (items : List Expr)
  | list (items : List Expr)
  | dict (items : List (Expr × Expr))
  | attr (value : Expr) (name : String)
  | item (value index : Expr)
  | slice (start stop step : Option Expr)
  | call (function : Expr) (args : Arguments)
  /-- A filter; in a filter block it starts from the text of the block. -/
  | filter (value : Option Expr) (name : String) (args : Arguments) (line : Nat)
  | test (value : Expr) (name : String) (args : Arguments) (line : Nat)
  | neg (value : Expr)
  | pos (value : Expr)
  | not (value : Expr)
  | and (left right : Expr)
  | or (left right : Expr)
  | binary (left : Expr) (op : BinaryOp) (right : Expr)
  | compare (left : Expr) (rest : List (CompareOp × Expr))
  | conditional (test yes : Expr) (no : Option Expr) (line : Nat)
  | concat (items : List Expr)

inductive Arguments where
  | mk (args : List Expr) (named : List (String × Expr)) (rest restNamed : Option Expr)

end

instance : Inhabited Expr := ⟨.literal .none⟩

def Arguments.empty : Arguments := .mk [] [] none none

/-- A parameter of a template function with its default. -/
structure Parameter where
  name : String
  default : Option Expr

inductive Node where
  | text (s : String)
  | print (value : Expr)
  | loop (target source : Expr) (test : Option Expr) (recursive : Bool)
      (body orElse : List Node) (line : Nat)
  | branch (cases : List (Expr × List Node)) (orElse : List Node)
  | set (target value : Expr) (line : Nat)
  | setBlock (target : Expr) (filter : Option Expr) (body : List Node) (line : Nat)
  | define (name : String) (params : List Parameter) (body : List Node) (line : Nat)
  | callBlock (params : List Parameter) (call : Expr) (body : List Node) (line : Nat)
  /-- Names an output and holds its text. -/
  | capture (name : Expr) (body : List Node)
  | filterBlock (filter : Expr) (body : List Node)
  | bind (targets values : List Expr) (body : List Node)
  | block (name : String) (shared required : Bool) (body : List Node) (line : Nat)
  | inherit (template : Expr) (line : Nat)
  | inclusion (template : Expr) (ignoreMissing withContext : Bool)
  | importAs (template : Expr) (name : String) (withContext : Bool)
  | importNames (template : Expr) (names : List (String × String)) (withContext : Bool)
      (line : Nat)
  | escaping (flag : Expr) (body : List Node)

abbrev Body := List Node

end Stencil.Template
