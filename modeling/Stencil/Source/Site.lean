import Stencil.Source.Fault
import Stencil.Source.Names

/-!
The rules of places for expressions: what may wait or yield where, where a starred expression may
stand, and which names cannot be given. The parts of an expression are checked in the order in which
they are worked out, except that the first source of a comprehension comes after its other parts.
-/
namespace Stencil.Source

/-- What a piece of code belongs to. -/
inductive Home where
  | module | classBody | lambda | comprehension
  | function (async : Bool)
  deriving DecidableEq, Repr

/-- What stands around a statement inside its home. -/
inductive Around where
  | loop
  /-- A handler that takes groups of errors. -/
  | groupHandler
  /-- A suite that runs whenever the statement is left, with what the check of it finds. -/
  | finally_ (found : Except Fault Unit)
  | other

structure Site where
  home : Home := .module
  /-- Whether the function around gives its results one by one and may wait. -/
  givesLater : Bool := false
  around : List Around := []
  /-- What is being read. -/
  here : Span := default
  features : Features
  /-- What functions and comprehensions do. -/
  effects : List (Span × Effects)

namespace Site

def refuse {α : Type} (c : Site) (message : String) : Except Fault α :=
  .error (.about c.here message)

def at_ (c : Site) (s : Span) : Site := { c with here := s }

def effectsOf (c : Site) (s : Span) : Effects := (c.effects.lookup s).getD {}

/-- How many statements may stand around another. -/
def maxAround : Nat := 20

def enter (c : Site) (a : Around) : Except Fault Site :=
  if maxAround ≤ c.around.length then c.refuse "too many statically nested blocks"
  else .ok { c with around := a :: c.around }

def isFunction (c : Site) : Bool :=
  match c.home with
  | .module | .classBody => false
  | _ => true

/-- Whether hints are worked out here. -/
def keepsHints (c : Site) : Bool :=
  match c.home with
  | .module | .classBody => true
  | _ => false

def checkGiven (c : Site) (name : String) : Except Fault Unit :=
  if name == fixedName then c.refuse ("cannot assign to " ++ fixedName) else .ok ()

/-- Checks a step out of what stands around; a loop ends it if it is to leave one. -/
def checkLeaving (c : Site) (leavesLoop : Bool) (outside : Except Fault Unit) :
    List Around → Except Fault Unit
  | [] => outside
  | .groupHandler :: _ =>
    c.refuse "'break', 'continue' and 'return' cannot appear in an except* block"
  | .loop :: rest => if leavesLoop then .ok () else checkLeaving c leavesLoop outside rest
  | .finally_ found :: rest => do
    found
    checkLeaving c leavesLoop outside rest
  | .other :: rest => checkLeaving c leavesLoop outside rest

/-- The part of an attribute that complaints point at: only its last line. -/
def attributeSpan (s : Span) (attr : String) : Span :=
  if s.start.line == s.stop.line then s
  else ⟨{ s.stop with bytes := s.stop.bytes - attr.length }, s.stop⟩

private def checkStars (c : Site) (seen : Bool) (place : Nat) : List Expr → Except Fault Unit
  | [] => .ok ()
  | .starred .. :: rest =>
    if seen then c.refuse "multiple starred expressions in assignment"
    else if 256 ≤ place then c.refuse "too many expressions in star-unpacking assignment"
    else checkStars c true (place + 1) rest
  | _ :: rest => checkStars c seen (place + 1) rest

private def sameName : Option String → Keyword → Bool
  | some a, .mk _ (some b) _ => a == b
  | _, _ => false

/-- No keyword may be given twice. -/
def checkKeywords (c : Site) : List Keyword → Except Fault Unit
  | [] => .ok ()
  | .mk _ name _ :: rest => do
    name.forM c.checkGiven
    match rest.find? (sameName name) with
    | some (.mk s _ _) =>
      (c.at_ s).refuse ("keyword argument repeated: " ++ name.getD "")
    | none => checkKeywords c rest

private def parameterNames : Parameters → List String
  | .mk positionalOnly positional rest keywordOnly keywords =>
    (positionalOnly ++ positional ++ rest.toList ++ keywordOnly ++ keywords.toList).map fun
      | .mk _ name _ _ => name

def checkParameters (c : Site) (ps : Parameters) : Except Fault Unit :=
  (parameterNames ps).forM c.checkGiven

private def checkComprehension (c : Site) (generator : Bool) : Except Fault Unit :=
  let isFree := match c.home with
    | .function true | .comprehension => true
    | _ => false
  if (c.effectsOf c.here).awaits && !generator && !isFree then
    c.refuse "asynchronous comprehension outside of an asynchronous function"
  else .ok ()

private def checkAwait (c : Site) : Except Fault Unit :=
  match c.home with
  | .module | .classBody => c.refuse "'await' outside function"
  | .lambda | .function false => c.refuse "'await' outside async function"
  | _ => .ok ()

private def checkYield (c : Site) : Except Fault Unit :=
  if c.isFunction then .ok () else c.refuse "'yield' outside function"

/-- The site of the code inside an expression. -/
def inside (c : Site) (home : Home) : Site := { c with home := home, around := [] }

mutual

def expr (c : Site) : Expr → Except Fault Unit
  | .constant .. | .name .. => .ok ()
  | .formatted s pieces => textPieces (c.at_ s) pieces
  | .attribute s value _ => expr (c.at_ s) value
  | .subscript s value index => do
    expr (c.at_ s) value
    expr (c.at_ s) index
  | .slice s lower upper step => do
    optional (c.at_ s) lower
    optional (c.at_ s) upper
    optional (c.at_ s) step
  | .call s function args keywords_ => do
    let c := c.at_ s
    c.checkKeywords keywords_
    expr c function
    unpacked c args
    keywords c keywords_
  | .unary s _ operand => expr (c.at_ s) operand
  | .binary s left _ right => do
    expr (c.at_ s) left
    expr (c.at_ s) right
  | .bool s _ operands => exprs (c.at_ s) operands
  | .compare s left rest => do
    expr (c.at_ s) left
    comparisons (c.at_ s) rest
  | .conditional s test body orElse => do
    expr (c.at_ s) test
    expr (c.at_ s) body
    expr (c.at_ s) orElse
  | .lambda s params body => do
    let c := c.at_ s
    c.checkParameters params
    defaults c params
    expr (c.inside .lambda) body
  | .named s targetExpr value => do
    expr (c.at_ s) value
    target (c.at_ s) targetExpr
  | .starred s _ => (c.at_ s).refuse "can't use starred expression here"
  | .await s value => do
    checkAwait (c.at_ s)
    expr (c.at_ s) value
  | .yield s value => do
    checkYield (c.at_ s)
    optional (c.at_ s) value
  | .yieldFrom s value => do
    checkYield (c.at_ s)
    if c.home == .function true then (c.at_ s).refuse "'yield from' inside async function"
    expr (c.at_ s) value
  | .tuple s items | .list s items | .set s items => unpacked (c.at_ s) items
  | .dict s items => entries (c.at_ s) items
  | .listComp s item clauses_ | .setComp s item clauses_ => do
    let c := c.at_ s
    checkComprehension c false
    clauses (c.inside .comprehension) true clauses_
    expr (c.inside .comprehension) item
    firstSource c clauses_
  | .dictComp s key value clauses_ => do
    let c := c.at_ s
    checkComprehension c false
    clauses (c.inside .comprehension) true clauses_
    expr (c.inside .comprehension) key
    expr (c.inside .comprehension) value
    firstSource c clauses_
  | .generator s item clauses_ => do
    let c := c.at_ s
    clauses (c.inside .comprehension) true clauses_
    expr (c.inside .comprehension) item
    firstSource c clauses_

def optional (c : Site) : Option Expr → Except Fault Unit
  | none => .ok ()
  | some e => expr c e

def exprs (c : Site) : List Expr → Except Fault Unit
  | [] => .ok ()
  | e :: rest => do
    expr c e
    exprs c rest

/-- Expressions of which each may be starred. -/
def unpacked (c : Site) : List Expr → Except Fault Unit
  | [] => .ok ()
  | .starred _ value :: rest => do
    expr c value
    unpacked c rest
  | e :: rest => do
    expr c e
    unpacked c rest

/-- What is assigned to. -/
def target (c : Site) : Expr → Except Fault Unit
  | .name s id => (c.at_ s).checkGiven id
  | .attribute s value attr => do
    expr (c.at_ s) value
    (c.at_ (attributeSpan s attr)).checkGiven attr
  | .subscript s value index => do
    expr (c.at_ s) value
    expr (c.at_ s) index
  | .starred s _ => (c.at_ s).refuse "starred assignment target must be in a list or tuple"
  | .tuple s items | .list s items => do
    checkStars (c.at_ s) false 0 items
    targets (c.at_ s) items
  | _ => .ok ()

def targets (c : Site) : List Expr → Except Fault Unit
  | [] => .ok ()
  | .starred _ value :: rest => do
    target c value
    targets c rest
  | e :: rest => do
    target c e
    targets c rest

def keywords (c : Site) : List Keyword → Except Fault Unit
  | [] => .ok ()
  | .mk _ _ value :: rest => do
    expr c value
    keywords c rest

def comparisons (c : Site) : List Comparison → Except Fault Unit
  | [] => .ok ()
  | .mk _ right :: rest => do
    expr c right
    comparisons c rest

def entries (c : Site) : List Entry → Except Fault Unit
  | [] => .ok ()
  | .mk key value :: rest => do
    optional c key
    expr c value
    entries c rest

def textPieces (c : Site) : List Piece → Except Fault Unit
  | [] => .ok ()
  | .text _ :: rest => textPieces c rest
  | .field value _ format :: rest => do
    expr c value
    formatPieces c format
    textPieces c rest

def formatPieces (c : Site) : Option (List Piece) → Except Fault Unit
  | none => .ok ()
  | some pieces => textPieces c pieces

def defaults (c : Site) : Parameters → Except Fault Unit
  | .mk positionalOnly positional _ keywordOnly _ => do
    defaultsOf c positionalOnly
    defaultsOf c positional
    defaultsOf c keywordOnly

def defaultsOf (c : Site) : List Parameter → Except Fault Unit
  | [] => .ok ()
  | .mk _ _ _ default :: rest => do
    optional c default
    defaultsOf c rest

/-- The clauses of a comprehension; the source of the first one belongs outside. -/
def clauses (c : Site) (first : Bool) : List Clause → Except Fault Unit
  | [] => .ok ()
  | .mk _ to_ source conditions :: rest => do
    if first then pure () else expr c source
    target c to_
    exprs c conditions
    clauses c false rest

def firstSource (c : Site) : List Clause → Except Fault Unit
  | [] => .ok ()
  | .mk _ _ source _ :: _ => expr c source

end

end Site
end Stencil.Source
