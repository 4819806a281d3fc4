import Stencil.Source.Fault

/-!
The rules of names. A module, a class body, a function and a comprehension are blocks, and a block
notes what it does with each name. A name is declared before its block uses it, a comprehension
keeps its own names, and a name of an enclosing function has to be bound there.
-/
namespace Stencil.Source

inductive BlockKind where
  | module | classBody | function | hint
  deriving DecidableEq, Repr

/-- What a comprehension builds. -/
inductive Builds where
  | list | set | dict | generator
  deriving DecidableEq, Repr

/-- What a block does with a name. -/
structure Usage where
  used : Bool := false
  bound : Bool := false
  imported : Bool := false
  parameter : Bool := false
  hinted : Bool := false
  /-- Whether the name is declared to belong to the module. -/
  shared : Bool := false
  /-- Whether the name is declared to belong to an enclosing function. -/
  borrowed : Bool := false
  /-- Whether a comprehension goes through its items under the name. -/
  iterated : Bool := false
  deriving DecidableEq, Repr

namespace Usage

def union (a b : Usage) : Usage :=
  ⟨a.used || b.used, a.bound || b.bound, a.imported || b.imported, a.parameter || b.parameter,
    a.hinted || b.hinted, a.shared || b.shared, a.borrowed || b.borrowed,
    a.iterated || b.iterated⟩

/-- Whether the block gives the name a value of its own. -/
def binds (u : Usage) : Bool := u.bound || u.parameter || u.imported

end Usage

/-- The name that stands for the checks of assertions; it is a constant. -/
def fixedName : String := "__debug__"

abbrev NameTable := List (String × Usage)

def NameTable.usage (t : NameTable) (name : String) : Usage := (t.lookup name).getD {}

/-- Adds to what a block does with a name; new names come last. -/
def NameTable.note (t : NameTable) (name : String) (u : Usage) : NameTable :=
  if (t.lookup name).isSome then t.map fun e => if e.1 == name then (e.1, e.2.union u) else e
  else t ++ [(name, u)]

/-- A block with the statements that declare names, and the blocks inside. -/
inductive Block where
  | mk (kind : BlockKind) (names : NameTable) (declared : List (String × Span))
      (inner : List Block)

/-- What the code of a block does, without that of the blocks inside. -/
structure Effects where
  yields : Bool := false
  awaits : Bool := false
  /-- What it does with names. -/
  names : NameTable := []
  deriving DecidableEq, Repr

/-- A block that is being read. -/
structure OpenBlock where
  kind : BlockKind
  builds : Option Builds := none
  names : NameTable := []
  declared : List (String × Span) := []
  inner : List Block := []
  /-- Whether the names read now are those of the items of a comprehension. -/
  iterating : Bool := false
  /-- How many sources of comprehensions are being read. -/
  sources : Nat := 0
  effects : Effects := {}

def OpenBlock.awaiting (b : OpenBlock) : OpenBlock :=
  { b with effects := { b.effects with awaits := true } }

structure NameState where
  current : OpenBlock
  /-- The blocks around, the nearest first. -/
  outer : List OpenBlock := []
  /-- The class that hides names with two leading underscores. -/
  owner : Option String := none
  /-- Whether hints are kept as texts. -/
  lazyHints : Bool
  /-- What the blocks that were read do. -/
  effects : List (Span × Effects) := []

abbrev NameCheck := StateT NameState (Except Fault)

namespace NameCheck

def refuse {α : Type} (s : Span) (message : String) : NameCheck α := throw (.about s message)

/-- A name as a class hides it. -/
def hidden (owner : Option String) (name : String) : String :=
  match owner.map fun o => o.toList.dropWhile (· == '_') with
  | some (c :: rest) =>
    if name.startsWith "__" && !name.endsWith "__" then "_" ++ .ofList (c :: rest) ++ name else name
  | _ => name

private def tell (name : String) (before : String) (after : String) : String :=
  before ++ "'" ++ name ++ "'" ++ after

/-- Notes a use of a name in a block. -/
private def noteIn (b : OpenBlock) (owner : Option String) (s : Span) (name : String) (u : Usage) :
    Except Fault OpenBlock :=
  let key := hidden owner name
  let old := b.names.usage key
  if u.parameter && old.parameter then
    .error (.about s (tell name "duplicate argument " " in function definition"))
  else if b.iterating && ((old.union u).shared || (old.union u).borrowed) then
    let what := "comprehension inner loop cannot rebind assignment expression target "
    .error (.about s (tell name what ""))
  else .ok { b with names := b.names.note key { u with iterated := b.iterating } }

private def changeLast (f : OpenBlock → OpenBlock) : List OpenBlock → List OpenBlock
  | [] => []
  | [b] => [f b]
  | b :: rest => b :: changeLast f rest

/-- Notes that a name belongs to the module, in the module. -/
private def share (key : String) : NameCheck Unit :=
  modify fun st =>
    let mark (b : OpenBlock) := { b with names := b.names.note key { shared := true } }
    if st.outer.isEmpty then { st with current := mark st.current }
    else { st with outer := changeLast mark st.outer }

def note (s : Span) (name : String) (u : Usage) : NameCheck Unit := do
  let st ← get
  let b ← noteIn st.current st.owner s name u
  set { st with current := b }
  if u.shared then share (hidden st.owner name)

def bind (s : Span) (name : String) : NameCheck Unit := note s name { bound := true }

private def declare (s : Span) (name : String) : NameCheck Unit :=
  modify fun st =>
    { st with current :=
        { st.current with
          declared := st.current.declared ++ [(hidden st.owner name, s)] } }

/-- Reads a block inside the present one. A comprehension that awaits makes the block around it
await, unless it is a generator. -/
def within (kind : BlockKind) (builds : Option Builds) (s : Span) (p : NameCheck Unit) :
    NameCheck Unit := do
  let st ← get
  let fresh : OpenBlock := { kind := kind, builds := builds, sources := st.current.sources }
  set { st with current := fresh, outer := st.current :: st.outer }
  p
  let done ← get
  match done.outer with
  | [] => return
  | parent :: outer =>
    let b := done.current
    let parent := if kind == .hint then parent
      else { parent with inner := parent.inner ++ [.mk b.kind b.names b.declared b.inner] }
    let passed := b.effects.awaits && b.builds.isSome && b.builds != some .generator
    let parent := if passed then parent.awaiting else parent
    set { done with
      current := parent, outer := outer
      effects := (s, { b.effects with names := b.names }) :: done.effects }

private def awaiting : NameCheck Unit := modify fun st => { st with current := st.current.awaiting }

private def yielding : NameCheck Unit :=
  modify fun st =>
    { st with current :=
        { st.current with effects := { st.current.effects with yields := true } } }

/-- Reads a hint; a hint that is kept as a text is a block of its own. -/
def hint (s : Span) (p : NameCheck Unit) : NameCheck Unit := do
  if (← get).lazyHints then within .hint none s p else p

private def iterating (p : NameCheck Unit) : NameCheck Unit := do
  let turn (on : Bool) (st : NameState) :=
    { st with current := { st.current with iterating := on } }
  modify (turn true)
  p
  modify (turn false)

private def readingSource (p : NameCheck Unit) : NameCheck Unit := do
  let turn (by_ : Nat → Nat) (st : NameState) :=
    { st with current := { st.current with sources := by_ st.current.sources } }
  modify (turn (· + 1))
  p
  modify (turn (· - 1))

private def notInHint (s : Span) (what : String) : NameCheck Unit := do
  if (← get).current.kind == .hint then
    refuse s (tell what "" " can not be used within an annotation")

private def yieldInside : Builds → String
  | .list => "'yield' inside list comprehension"
  | .set => "'yield' inside set comprehension"
  | .dict => "'yield' inside dict comprehension"
  | .generator => "'yield' inside generator expression"

private def notInComprehension (s : Span) : NameCheck Unit := do
  match (← get).current.builds with
  | some b => refuse s (yieldInside b)
  | none => return

/-- Notes a binding of a name that a comprehension makes in the block around it. -/
private def extend (s : Span) (name : String) (seen : List OpenBlock) :
    List OpenBlock → NameCheck Unit
  | [] => return
  | b :: rest => do
    if b.builds.isSome then
      if (b.names.usage name).iterated then
        refuse s (tell name
          "assignment expression cannot rebind comprehension iteration variable " "")
      extend s name (seen ++ [b]) rest
    else
      match b.kind with
      | .classBody =>
        refuse s
          "assignment expression within a comprehension cannot be used in a class body"
      | .function =>
        let shared := (b.names.usage name).shared
        note s name { shared := shared, borrowed := !shared }
        declare s name
        bindOuter seen.length { bound := true }
      | .module =>
        note s name { shared := true }
        declare s name
        bindOuter seen.length { shared := true }
      | .hint => extend s name (seen ++ [b]) rest
where
  /-- Notes a use in the block that so many blocks lie inside of. -/
  bindOuter (depth : Nat) (u : Usage) : NameCheck Unit := do
    let st ← get
    match st.outer[depth - 1]? with
    | none => return
    | some b =>
      let b ← noteIn b st.owner s name u
      set { st with outer := st.outer.set (depth - 1) b }

/-- Notes a name that is bound on the way. -/
private def bindOnTheWay (whole s : Span) (name : String) : NameCheck Unit := do
  let st ← get
  if st.current.sources > 0 then
    refuse whole "assignment expression cannot be used in a comprehension iterable expression"
  if st.current.builds.isSome then extend s name [] (st.current :: st.outer)

/-- How declarations of names are spoken of. -/
private structure Wording where
  with_ : String
  before : String
  hinted : String

private def declareAll (s : Span) (u : Usage) (w : Wording) : List String → NameCheck Unit
  | [] => return
  | name :: rest => do
    let st ← get
    let old := st.current.names.usage (hidden st.owner name)
    if old.parameter then refuse s (tell name "name " (" is parameter and " ++ w.with_))
    if old.used then refuse s (tell name "name " (" is used prior to " ++ w.before))
    if old.hinted then refuse s (tell name "annotated name " (" can't be " ++ w.hinted))
    if old.bound then refuse s (tell name "name " (" is assigned to before " ++ w.before))
    note s name u
    declare s name
    declareAll s u w rest

private def importName (n : ImportName) : NameCheck Unit := do
  let name := n.newName.getD n.path
  if name == "*" then
    if (← get).current.kind != .module then
      refuse n.span "import * only allowed at module level"
  else note n.span (.ofList (name.toList.takeWhile (· != '.'))) { imported := true }

private def parameter : Parameter → NameCheck Unit
  | .mk s name _ _ => note s name { parameter := true }

private def parameters : Parameters → NameCheck Unit
  | .mk positionalOnly positional rest keywordOnly keywords => do
    positionalOnly.forM parameter
    positional.forM parameter
    keywordOnly.forM parameter
    rest.forM parameter
    keywords.forM parameter

mutual

def expr : Expr → NameCheck Unit
  | .constant .. => return
  | .formatted _ pieces => textPieces pieces
  | .name s id => do
    if id != fixedName then note s id { used := true }
    if id == "super" && (← get).current.kind == .function then
      note s "__class__" { used := true }
  | .attribute _ value _ => expr value
  | .subscript _ value index => do expr value; expr index
  | .slice _ lower upper step => do
    optional lower
    optional upper
    optional step
  | .call _ function args keywords_ => do
    expr function
    exprs args
    keywords keywords_
  | .unary _ _ operand => expr operand
  | .binary _ left _ right => do expr left; expr right
  | .bool _ _ operands => exprs operands
  | .compare _ left rest => do expr left; comparisons rest
  | .conditional _ test body orElse => do
    expr test
    expr body
    expr orElse
  | .lambda s params body => do
    defaults params
    within .function none s do
      parameters params
      expr body
  | .named s target value => do
    notInHint s "named expression"
    match target with
    | .name t id => bindOnTheWay s t id
    | _ => return
    expr value
    targetExpr target
  | .starred _ value => expr value
  | .await s value => do
    notInHint s "await expression"
    expr value
    awaiting
  | .yield s value => do
    notInHint s "yield expression"
    optional value
    yielding
    notInComprehension s
  | .yieldFrom s value => do
    notInHint s "yield expression"
    expr value
    yielding
    notInComprehension s
  | .tuple _ items | .list _ items | .set _ items => exprs items
  | .dict _ items => do keys items; values items
  | .listComp s item clauses => comprehension s .list clauses (expr item)
  | .setComp s item clauses => comprehension s .set clauses (expr item)
  | .dictComp s key value clauses =>
    comprehension s .dict clauses do
      expr value
      expr key
  | .generator s item clauses => comprehension s .generator clauses (expr item)

def optional : Option Expr → NameCheck Unit
  | none => return
  | some e => expr e

def exprs : List Expr → NameCheck Unit
  | [] => return
  | e :: rest => do expr e; exprs rest

/-- What stands on the left of an assignment, or is deleted. -/
def targetExpr : Expr → NameCheck Unit
  | .name s id => bind s id
  | .attribute _ value _ => expr value
  | .subscript _ value index => do expr value; expr index
  | .starred _ value => targetExpr value
  | .tuple _ items | .list _ items => targetExprs items
  | _ => return

def targetExprs : List Expr → NameCheck Unit
  | [] => return
  | e :: rest => do targetExpr e; targetExprs rest

def keywords : List Keyword → NameCheck Unit
  | [] => return
  | .mk _ _ value :: rest => do expr value; keywords rest

def comparisons : List Comparison → NameCheck Unit
  | [] => return
  | .mk _ right :: rest => do expr right; comparisons rest

def keys : List Entry → NameCheck Unit
  | [] => return
  | .mk key _ :: rest => do optional key; keys rest

def values : List Entry → NameCheck Unit
  | [] => return
  | .mk _ value :: rest => do expr value; values rest

def textPieces : List Piece → NameCheck Unit
  | [] => return
  | .text _ :: rest => textPieces rest
  | .field value _ format :: rest => do
    expr value
    formatPieces format
    textPieces rest

def formatPieces : Option (List Piece) → NameCheck Unit
  | none => return
  | some pieces => textPieces pieces

def defaults : Parameters → NameCheck Unit
  | .mk positionalOnly positional _ keywordOnly _ => do
    defaultsOf positionalOnly
    defaultsOf positional
    defaultsOf keywordOnly

def defaultsOf : List Parameter → NameCheck Unit
  | [] => return
  | .mk _ _ _ default :: rest => do optional default; defaultsOf rest

/-- The first source belongs to the block around, all else to a block of its own. -/
def comprehension (s : Span) (b : Builds) (clauses : List Clause) (item : NameCheck Unit) :
    NameCheck Unit :=
  match clauses with
  | [] => within .function (some b) s item
  | .mk async target source conditions :: rest => do
    readingSource (expr source)
    within .function (some b) s do
      if async then awaiting
      iterating (targetExpr target)
      exprs conditions
      clausesAfter rest
      item

def clausesAfter : List Clause → NameCheck Unit
  | [] => return
  | .mk async target source conditions :: rest => do
    iterating (targetExpr target)
    readingSource (expr source)
    exprs conditions
    if async then awaiting
    clausesAfter rest

end

private def hintsOf (ps : List Parameter) : NameCheck Unit :=
  ps.forM fun
    | .mk _ _ hint _ => hint.forM expr

private def hints : Parameters → NameCheck Unit
  | .mk positionalOnly positional rest keywordOnly keywords => do
    hintsOf positionalOnly
    hintsOf positional
    hintsOf rest.toList
    hintsOf keywords.toList
    hintsOf keywordOnly

mutual

def pattern : Pattern → NameCheck Unit
  | .value _ e => expr e
  | .capture s inner name => do
    optionalPattern inner
    name.forM (bind s)
  | .star s name => name.forM (bind s)
  | .sequence _ items => patterns items
  | .mapping s keys_ inner rest => do
    keys_.forM expr
    patterns inner
    rest.forM (bind s)
  | .class _ cls positional _ named => do
    expr cls
    patterns positional
    patterns named
  | .alternatives _ inner => patterns inner

def optionalPattern : Option Pattern → NameCheck Unit
  | none => return
  | some p => pattern p

def patterns : List Pattern → NameCheck Unit
  | [] => return
  | p :: rest => do pattern p; patterns rest

end

private def hintedTarget (s : Span) (target : Expr) (bare assigned : Bool) : NameCheck Unit := do
  match target with
  | .name t id =>
    let st ← get
    let u := st.current.names.usage (hidden st.owner id)
    if (u.shared || u.borrowed) && !st.outer.isEmpty && bare then
      refuse s (tell id "annotated name "
        (if u.shared then " can't be global" else " can't be nonlocal"))
    if bare then note t id { hinted := true, bound := true }
    else if assigned then bind t id
  | e => targetExpr e

mutual

def stmt : Stmt → NameCheck Unit
  | .expression _ value => expr value
  | .assign _ targets value => do targetExprs targets; expr value
  | .annotated s target hint_ value bare => do
    hintedTarget s target bare value.isSome
    hint s (expr hint_)
    optional value
  | .augmented _ target _ value => do targetExpr target; expr value
  | .function s _ name params returns decorators body => do
    bind s name
    defaults params
    hint s (hints params)
    returns.forM fun e => hint s (expr e)
    exprs decorators
    within .function none s do
      parameters params
      stmts body
  | .class s name bases keywords_ decorators body => do
    bind s name
    exprs bases
    keywords keywords_
    exprs decorators
    within .classBody none s do
      let owner := (← get).owner
      modify fun st => { st with owner := some name }
      stmts body
      modify fun st => { st with owner := owner }
  | .return _ value => optional value
  | .raise _ error cause => do optional error; optional cause
  | .delete _ targets => targetExprs targets
  | .import _ names | .importFrom _ _ _ names => names.forM importName
  | .global s names =>
    declareAll s { shared := true } ⟨"global", "global declaration", "global"⟩ names
  | .nonlocal s names =>
    declareAll s { borrowed := true } ⟨"nonlocal", "nonlocal declaration", "nonlocal"⟩ names
  | .assertion _ test message => do expr test; optional message
  | .pass _ | .leave _ | .continue _ => return
  | .branch _ test body orElse | .loop _ test body orElse => do
    expr test
    stmts body
    stmts orElse
  | .each _ _ target source body orElse => do
    targetExpr target
    expr source
    stmts body
    stmts orElse
  | .context _ _ items body => do
    items.forM fun i => do
      expr i.value
      i.target.forM targetExpr
    stmts body
  | .attempt _ _ body handlers_ orElse final => do
    stmts body
    stmts orElse
    handlers handlers_
    stmts final
  | .choose _ subject cases_ => do expr subject; cases cases_

def stmts : List Stmt → NameCheck Unit
  | [] => return
  | s :: rest => do stmt s; stmts rest

def handlers : List Handler → NameCheck Unit
  | [] => return
  | .mk s kind name body :: rest => do
    optional kind
    name.forM (bind s)
    stmts body
    handlers rest

def cases : List Case → NameCheck Unit
  | [] => return
  | .mk p guard body :: rest => do
    pattern p
    optional guard
    stmts body
    cases rest

end

end NameCheck

namespace Block

/-- What is known of names while those of a block are gone through: the names that enclosing
functions bind, unless this is the module, and those that the block binds. -/
private structure Known where
  around : Option (List String)
  own : List String := []

private def settleName (declared : List (String × Span)) (k : Known) (name : String) (u : Usage) :
    Except Fault Known :=
  let refuse (message : String) : Except Fault Known :=
    .error (.about ((declared.lookup name).getD default) message)
  let told := "'" ++ name ++ "'"
  if u.shared then
    if u.borrowed then refuse ("name " ++ told ++ " is nonlocal and global")
    else .ok { k with around := k.around.map fun ns => ns.filter (· != name) }
  else if u.borrowed then
    match k.around with
    | none => refuse "nonlocal declaration not allowed at module level"
    | some names =>
      if names.contains name then .ok k
      else refuse ("no binding for nonlocal " ++ told ++ " found")
  else if u.binds then .ok { k with own := name :: k.own }
  else .ok k

mutual

/-- Checks that what a block borrows is bound around it, and all blocks inside. -/
def check (around : Option (List String)) : Block → Except Fault Unit
  | .mk kind names declared inner => do
    let k ← names.foldlM (fun k e => settleName declared k e.1 e.2) ⟨around, []⟩
    let visible := match kind with
      | .classBody => "__class__" :: around.getD []
      | .function => k.own ++ k.around.getD []
      | _ => k.around.getD []
    checkAll visible inner

def checkAll (around : List String) : List Block → Except Fault Unit
  | [] => .ok ()
  | b :: rest => do
    b.check (some around)
    checkAll around rest

end

end Block

/-- Checks the names of a module, and tells what its functions and comprehensions do. -/
def Module.checkNames (m : Module) (lazyHints : Bool) :
    Except Fault (List (Span × Effects)) := do
  let start : NameState := { current := { kind := .module }, lazyHints := lazyHints }
  let ((), st) ← (NameCheck.stmts m).run start
  let b := st.current
  (Block.mk b.kind b.names b.declared b.inner).check none
  return st.effects

end Stencil.Source
