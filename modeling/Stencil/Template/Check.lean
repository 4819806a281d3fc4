import Stencil.Template.Mention
import Stencil.Template.Statement

/-!
Constants of templates. An expression whose value cannot change is worked out before the template
runs, and so is the text that it prints. Names, calls and filters that look around wait for the
run, and so does what fails; a failure that no operator holds back ends the template at once.
-/
namespace Stencil.Template
open Eval (lift)

/-- What is known of a place before the run: the filters of its user, and how texts are protected
there. Where that is `open_`, filters and tests wait for the run. -/
structure Outlook where
  filters : List (String × Value)
  escape : Bool := false
  open_ : Bool := false

namespace Outlook

/-- How deep constants may nest. -/
private def maxNesting : Nat := 500

private def environment (o : Outlook) : Environment :=
  { filters := o.filters, moment := if o.open_ then .beforeOpen else .before }

private def frame (o : Outlook) : Frame :=
  { scope := 0, context := 0, escaping := if o.escape then .on else .off }

private def run : Run := machine maxNesting

/-- The value of a constant with the store it was made in; nothing for what waits for the run. -/
private def value? (o : Outlook) (e : Expr) : Outcome (Option (Value × Store)) :=
  match (evaluate run o.frame e).runOn o.environment {} with
  | (.ok v, store) => .ok (some (v, store))
  | (.error f, _) => if f == .waiting then .ok none else .error f

/-- Whether a constant counts as true. -/
def truth? (o : Outlook) (e : Expr) : Outcome (Option Bool) := do
  match ← o.value? e with
  | some (v, store) => some <$> ((truthOf v).runOn o.environment store).1
  | none => return none

/-- The text that a constant prints. -/
def text? (o : Outlook) (e : Expr) : Outcome (Option String) := do
  match ← o.value? e with
  | some (v, store) => some <$> ((outputOf run o.escape v).runOn o.environment store).1
  | none => return none

mutual

/-- The expression that writes a value, if one does. -/
private def written? : Value → Option Expr
  | .none => some (.literal .none)
  | .bool b => some (.literal (.bool b))
  | .int n => some (.literal (.int n))
  | .float x => some (.literal (.float x))
  | .complex x y => some (.literal (.complex x y))
  | .str s => some (.literal (.str s))
  | .markup s => some (.literal (.markup s))
  | .tuple items => (allWritten? items).map .tuple
  | .list items _ => (allWritten? items).map .list
  | .dict entries _ => (entriesWritten? entries).map .dict
  | _ => none

private def allWritten? : List Value → Option (List Expr)
  | [] => some []
  | v :: rest => do return (← written? v) :: (← allWritten? rest)

private def entriesWritten? : List (Value × Value) → Option (List (Expr × Expr))
  | [] => some []
  | (k, v) :: rest => do return (← written? k, ← written? v) :: (← entriesWritten? rest)

end

/-- A constant as it is written; what waits stays as it is. -/
private def settle (o : Outlook) (e : Expr) : Outcome Expr := do
  match ← o.value? e with
  | some (v, store) => return (written? (store.present v)).getD e
  | none => return e

mutual

/-- An expression with all constants in it worked out, the inner ones first. -/
def fold (o : Outlook) : Expr → Outcome Expr
  | .literal v => return .literal v
  | .name id => return .name id
  | .nsRef name attr => return .nsRef name attr
  | .tuple items => do o.settle (.tuple (← o.foldAll items))
  | .list items => do o.settle (.list (← o.foldAll items))
  | .dict items => do o.settle (.dict (← o.foldPairs items))
  | .attr value name => do o.settle (.attr (← o.fold value) name)
  | .item value index => do o.settle (.item (← o.fold value) (← o.fold index))
  | .slice start stop step => do
    return .slice (← o.foldOption start) (← o.foldOption stop) (← o.foldOption step)
  | .call function args => do return .call (← o.fold function) (← o.foldArguments args)
  | .filter value name args line => do
    o.settle (.filter (← o.foldOption value) name (← o.foldArguments args) line)
  | .test value name args line => do
    o.settle (.test (← o.fold value) name (← o.foldArguments args) line)
  | .neg value => do o.settle (.neg (← o.fold value))
  | .pos value => do o.settle (.pos (← o.fold value))
  | .not value => do o.settle (.not (← o.fold value))
  | .and left right => do o.settle (.and (← o.fold left) (← o.fold right))
  | .or left right => do o.settle (.or (← o.fold left) (← o.fold right))
  | .binary left op right => do o.settle (.binary (← o.fold left) op (← o.fold right))
  | .compare left rest => do o.settle (.compare (← o.fold left) (← o.foldOperands rest))
  | .conditional test yes no line => do
    o.settle (.conditional (← o.fold test) (← o.fold yes) (← o.foldOption no) line)
  | .concat items => do o.settle (.concat (← o.foldAll items))

def foldOption (o : Outlook) : Option Expr → Outcome (Option Expr)
  | some e => some <$> o.fold e
  | none => return none

def foldAll (o : Outlook) : List Expr → Outcome (List Expr)
  | [] => return []
  | e :: rest => do return (← o.fold e) :: (← o.foldAll rest)

def foldPairs (o : Outlook) : List (Expr × Expr) → Outcome (List (Expr × Expr))
  | [] => return []
  | (k, v) :: rest => do return (← o.fold k, ← o.fold v) :: (← o.foldPairs rest)

def foldNamed (o : Outlook) : List (String × Expr) → Outcome (List (String × Expr))
  | [] => return []
  | (name, e) :: rest => do return (name, ← o.fold e) :: (← o.foldNamed rest)

def foldOperands (o : Outlook) : List (CompareOp × Expr) → Outcome (List (CompareOp × Expr))
  | [] => return []
  | (op, e) :: rest => do return (op, ← o.fold e) :: (← o.foldOperands rest)

def foldArguments (o : Outlook) : Arguments → Outcome Arguments
  | .mk args named rest restNamed => do
    return .mk (← o.foldAll args) (← o.foldNamed named) (← o.foldOption rest)
      (← o.foldOption restNamed)

end

mutual

/-- An expression as it is run: displays stay, and the constants in them are worked out. -/
def prepare (o : Outlook) : Expr → Outcome Expr
  | .tuple items => .tuple <$> o.prepareAll items
  | .list items => .list <$> o.prepareAll items
  | .dict items => .dict <$> o.preparePairs items
  | e => if o.open_ then return e else o.fold e

def prepareAll (o : Outlook) : List Expr → Outcome (List Expr)
  | [] => return []
  | e :: rest => do return (← o.prepare e) :: (← o.prepareAll rest)

def preparePairs (o : Outlook) : List (Expr × Expr) → Outcome (List (Expr × Expr))
  | [] => return []
  | (k, v) :: rest => do return (← o.prepare k, ← o.prepare v) :: (← o.preparePairs rest)

end

end Outlook
end Stencil.Template

/-!
Looking a template through before it runs: blocks with one name, filters and tests that do not
exist, parents named in the wrong place, stores to the loop variable. The first complaint in the
order of running is the one that is given. Where a branch may pass a filter by, its absence is
left to the run. Constants are worked out on the way.
-/
namespace Stencil.Template
open Stencil.Text

namespace Check

/-- Where a statement stands. -/
structure Place where
  topLevel : Bool
  /-- At the top level and not in a branch. -/
  plain : Bool
  /-- Branches may pass what stands here by. -/
  soft : Bool
  /-- Output stops once a parent template is known. -/
  guarded : Bool
  outlook : Outlook

private def Place.inner (p : Place) : Place :=
  { p with topLevel := false, plain := false, soft := false }

private def Place.branch (p : Place) : Place := { p with plain := false, soft := true }
private def Place.held (p : Place) : Place := { p.inner with guarded := false }

/-- What is known so far about the parent template. -/
structure Known where
  named : Bool := false
  sure : Bool := false

abbrev Step := StateT Known Reading

private def complain {α : Type} (message : String) (line : Nat) : Step α :=
  throw (.atLine line message)

/-- The filters that the template's user adds. -/
private abbrev Own := List (String × Value)

private def literal : Literal → Step Unit
  | .int n => if (Value.int n).hasTooLong then throw (.failed (.raised .value Decimal.tooLongToWrite))
    else pure ()
  | _ => pure ()

mutual

private def expr (own : Own) (soft : Bool) : Expr → Step Unit
  | .literal v => literal v
  | .name _ | .nsRef .. => pure ()
  | .tuple items | .list items | .concat items => exprs own soft items
  | .dict items => pairs own soft items
  | .attr value _ | .neg value | .pos value | .not value => expr own soft value
  | .item value index => do
    expr own soft value
    expr own soft index
  | .slice start stop step => do
    option own soft start
    option own soft stop
    option own soft step
  | .call function args => do
    expr own soft function
    arguments own soft args
  | .filter value name args line => do
    if !soft && !Filter.isKnown own name then
      complain ("No filter named " ++ quoted name ++ ".") line
    option own soft value
    arguments own soft args
  | .test value name args line => do
    if !soft && !Tests.isKnown name then complain ("No test named " ++ quoted name ++ ".") line
    expr own soft value
    arguments own soft args
  | .and left right | .or left right | .binary left _ right => do
    expr own soft left
    expr own soft right
  | .compare left rest => do
    expr own soft left
    operands own soft rest
  | .conditional test yes no _ => do
    expr own true yes
    expr own true test
    option own true no

private def option (own : Own) (soft : Bool) : Option Expr → Step Unit
  | some e => expr own soft e
  | none => pure ()

private def exprs (own : Own) (soft : Bool) : List Expr → Step Unit
  | [] => pure ()
  | e :: rest => do
    expr own soft e
    exprs own soft rest

private def pairs (own : Own) (soft : Bool) : List (Expr × Expr) → Step Unit
  | [] => pure ()
  | (k, v) :: rest => do
    expr own soft k
    expr own soft v
    pairs own soft rest

private def namedArgs (own : Own) (soft : Bool) : List (String × Expr) → Step Unit
  | [] => pure ()
  | (_, e) :: rest => do
    expr own soft e
    namedArgs own soft rest

private def operands (own : Own) (soft : Bool) : List (CompareOp × Expr) → Step Unit
  | [] => pure ()
  | (_, e) :: rest => do
    expr own soft e
    operands own soft rest

private def arguments (own : Own) (soft : Bool) : Arguments → Step Unit
  | .mk args named rest restNamed => do
    exprs own soft args
    namedArgs own soft named
    option own soft rest
    option own soft restNamed

end

/-- An expression as it is run, once nothing in it is complained about. -/
private def prepared (p : Place) (soft : Bool) (e : Expr) : Step Expr := do
  let e ← p.outlook.prepare e
  expr p.outlook.filters soft e
  return e

private def preparedOption (p : Place) : Option Expr → Step (Option Expr)
  | some e => some <$> prepared p false e
  | none => return none

private def preparedAll (p : Place) : List Expr → Step (List Expr)
  | [] => return []
  | e :: rest => do return (← prepared p p.soft e) :: (← preparedAll p rest)

mutual

/-- The lines where the loop variable is stored in a statement. -/
def loopStores : Node → List Nat
  | .set target _ line => if target.targetNames.contains "loop" then [line] else []
  | .setBlock target _ body line =>
    (if target.targetNames.contains "loop" then [line] else []) ++ loopStoresOf body
  | .loop target _ _ _ body orElse line =>
    (if target.targetNames.contains "loop" then [line] else []) ++ loopStoresOf body ++
      loopStoresOf orElse
  | .branch cases orElse => loopStoresOfCases cases ++ loopStoresOf orElse
  | .define _ _ body _ | .callBlock _ _ body _ | .capture _ body | .filterBlock _ body
  | .bind _ _ body | .block _ _ _ body _ | .escaping _ body => loopStoresOf body
  | _ => []

private def loopStoresOf : List Node → List Nat
  | [] => []
  | n :: rest => loopStores n ++ loopStoresOf rest

private def loopStoresOfCases : List (Expr × List Node) → List Nat
  | [] => []
  | (_, body) :: rest => loopStoresOf body ++ loopStoresOfCases rest

end

/-- A caller parameter without a default, where the body uses its caller. -/
private def parameters (params : List Parameter) (body : Body) (line : Nat) :
    Step Unit := do
  let used := usedOf ["caller"] (mentionsOfBody body)
  if !used.isEmpty && params.any fun p => p.name == "caller" && p.default.isNone then
    complain ("When defining macros or call blocks the special \"caller\" argument must be " ++
      "omitted or be given a default.") line

private def defaults (p : Place) : List Parameter → Step (List Parameter)
  | [] => return []
  | param :: rest => do
    return { param with default := ← preparedOption p param.default } :: (← defaults p rest)

/-- The place inside a part where texts are protected as a flag says. -/
private def Place.escaping (p : Place) (flag : Expr) : Step Place := do
  let outlook ← match ← p.outlook.truth? flag with
    | some escape => pure { p.outlook with escape := escape }
    | none => pure { p.outlook with open_ := true }
  return { p.inner with outlook := outlook }

/-- A flag as it is run: a literal when it is known. -/
private def flagOf (p : Place) (flag : Expr) : Step Expr := do
  match ← p.outlook.truth? flag with
  | some escape => return .literal (.bool escape)
  | none => prepared p false flag

mutual

/-- A statement as it is run, and whether what follows still counts: nothing follows a second
parent template. -/
def node (p : Place) : Node → Step (Node × Bool)
  | .print e => do
    if p.guarded && (← get).sure then return (.print e, true)
    match ← p.outlook.text? e with
    | some text => return (.text text, true)
    | none => return (.print (← prepared p p.soft e), true)
  | .loop target source test recursive body orElse line => do
    let test ← preparedOption p test
    match loopStores (.loop target source test recursive body orElse line) with
    | at_ :: _ => complain "Can't assign to special loop variable in for-loop" at_
    | [] => pure ()
    let source ← if recursive then pure source else prepared p p.soft source
    let body ← nodes p.inner body
    let orElse ← nodes p.inner orElse
    let source ← if recursive then prepared p p.soft source else pure source
    return (.loop target source test recursive body orElse line, true)
  | .branch caseList orElse => do
    let caseList ← cases p.branch caseList
    return (.branch caseList (← nodes p.branch orElse), true)
  | .set target e line => do return (.set target (← prepared p p.soft e) line, true)
  | .setBlock target filter body line => do
    let body ← nodes p.held body
    return (.setBlock target (← preparedOption p filter) body line, true)
  | .define name params body line => do
    parameters params body line
    let params ← defaults p params
    return (.define name params (← nodes p.held body) line, true)
  | .callBlock params call body line => do
    parameters params body line
    let params ← defaults p params
    let body ← nodes p.held body
    return (.callBlock params (← prepared p p.soft call) body line, true)
  | .capture name body => do
    let body ← nodes p.held body
    return (.capture (← prepared p p.soft name) body, true)
  | .filterBlock filter body => do
    let body ← nodes p.inner body
    return (.filterBlock (← prepared p false filter) body, true)
  | .bind targets values body => do
    let values ← preparedAll p values
    return (.bind targets values (← nodes p.inner body), true)
  | .inherit template line => do
    if !p.topLevel then complain "cannot use extend from a non top-level scope" line
    let known ← get
    if known.named && known.sure then return (.inherit template line, false)
    let template ← prepared p p.soft template
    set { named := true, sure := known.sure || p.plain : Known }
    return (.inherit template line, true)
  | .inclusion template ignoreMissing withContext => do
    return (.inclusion (← prepared p p.soft template) ignoreMissing withContext, true)
  | .importAs template name withContext => do
    return (.importAs (← prepared p p.soft template) name withContext, true)
  | .importNames template names withContext line => do
    return (.importNames (← prepared p p.soft template) names withContext line, true)
  | .escaping flag body => do
    let inside ← p.escaping flag
    let flag ← flagOf p flag
    return (.escaping flag (← nodes inside body), true)
  | n => return (n, true)

def nodes (p : Place) : List Node → Step (List Node)
  | [] => return []
  | n :: rest => do
    let (n, goesOn) ← node p n
    if goesOn then return n :: (← nodes p rest) else return n :: rest

def cases (p : Place) : List (Expr × List Node) → Step (List (Expr × List Node))
  | [] => return []
  | (test, body) :: rest => do
    let test ← prepared p true test
    let body ← nodes p body
    return (test, body) :: (← cases p rest)

end

private def distinctBlocks (seen : List String) : List Node → Reading Unit
  | [] => .ok ()
  | .block name _ _ _ line :: rest =>
    if seen.contains name then
      .error (.atLine line ("block " ++ quoted name ++ " defined twice"))
    else distinctBlocks (name :: seen) rest
  | _ :: rest => distinctBlocks seen rest

def blockBodies (p : Place) : List Node → Step (List Block)
  | [] => return []
  | .block name _ required body _ :: rest => do
    return ⟨name, required, ← nodes p body⟩ :: (← blockBodies p rest)
  | _ :: rest => blockBodies p rest

/-- A template as it is run: its body and its blocks. The first complaint about it is the outcome,
if there is one. -/
def template (own : List (String × Value)) (body : Body) : Reading (Body × List Block) := do
  let blocks := blocksOf body
  distinctBlocks [] blocks
  let outlook : Outlook := { filters := own }
  let steps : Step (Body × List Block) := do
    let body ← nodes ⟨true, true, false, anyInherits body, outlook⟩ body
    return (body, ← blockBodies ⟨false, false, false, false, outlook⟩ blocks)
  return (← steps.run {}).1

end Check
end Stencil.Template
