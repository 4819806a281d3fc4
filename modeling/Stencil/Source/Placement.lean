import Stencil.Source.Capture

/-!
The rules of places for statements: where a result may be returned or a loop be left, and what may
follow what. Statements are checked in the order in which they run; a class body comes before the
bases of the class.
-/
namespace Stencil.Source
namespace Site

/-- A target that is deleted. -/
private def deleted (c : Site) : Expr → Except Fault Unit
  | .name s id =>
    if id == fixedName then (c.at_ s).refuse ("cannot delete " ++ fixedName) else .ok ()
  | .tuple _ items | .list _ items => deletedAll c items
  | e => expr c e
where
  deletedAll (c : Site) : List Expr → Except Fault Unit
    | [] => .ok ()
    | e :: rest => do
      deleted c e
      deletedAll c rest

private def hintOf (c : Site) : Parameter → Except Fault Unit
  | .mk _ _ (some (.starred _ value)) _ => c.expr value
  | .mk _ _ hint _ => hint.forM c.expr

private def hints (c : Site) : Parameters → Except Fault Unit
  | .mk positionalOnly positional rest keywordOnly keywords => do
    positional.forM (hintOf c)
    positionalOnly.forM (hintOf c)
    rest.forM (hintOf c)
    keywordOnly.forM (hintOf c)
    keywords.forM (hintOf c)

/-- The parts of a subscript that nothing is assigned to. -/
private def indexParts (c : Site) : Expr → Except Fault Unit
  | .tuple _ items => indexPartsOf c items
  | .slice _ lower upper step => do
    lower.forM c.expr
    upper.forM c.expr
    step.forM c.expr
  | e => c.expr e
where
  indexPartsOf (c : Site) : List Expr → Except Fault Unit
    | [] => .ok ()
    | e :: rest => do
      indexParts c e
      indexPartsOf c rest

private def annotated (c : Site) (to_ hint : Expr) (value : Option Expr) (bare : Bool) :
    Except Fault Unit := do
  match value with
  | some v => do
    c.expr v
    c.target to_
  | none => pure ()
  let keeps := c.keepsHints && !c.features.lazyHints
  match to_ with
  | .name _ id =>
    c.checkGiven id
    if bare && keeps then c.expr hint
  | .attribute _ owner attr =>
    c.checkGiven attr
    if value.isNone then c.expr owner
  | .subscript _ owner index =>
    if value.isNone then
      c.expr owner
      indexParts c index
  | _ => pure ()
  if !bare && keeps then c.expr hint

/-- What an operator assigns to. -/
private def augmented (c : Site) (to_ value : Expr) : Except Fault Unit := do
  let there := c.at_ to_.span
  match to_ with
  | .attribute _ owner _ => there.expr owner
  | .subscript _ owner index =>
    there.expr owner
    there.expr index
  | _ => pure ()
  c.expr value
  match to_ with
  | .name _ id => there.checkGiven id
  | _ => pure ()

private def imported (c : Site) (n : ImportName) : Except Fault Unit :=
  match n.newName with
  | some name => c.checkGiven name
  | none => c.checkGiven (.ofList (n.path.toList.takeWhile (· != '.')))


private def returned (c : Site) (value : Option Expr) : Except Fault Unit := do
  if !c.isFunction then c.refuse "'return' outside function"
  if value.isSome && c.givesLater then c.refuse "'return' with value in async generator"
  value.forM c.expr
  c.checkLeaving false (.ok ()) c.around

private def mustBeAsync (c : Site) (async : Bool) (what : String) : Except Fault Unit :=
  if async && c.home != .function true then
    c.refuse ("'async " ++ what ++ "' outside async function")
  else .ok ()

/-- The site of the body of a function. -/
private def ofFunction (c : Site) (s : Span) (async : Bool) : Site :=
  let e := c.effectsOf s
  { c.inside (.function async) with givesLater := e.yields && (async || e.awaits) }

private def function (c : Site) (s : Span) (async : Bool) (name : String) (params : Parameters)
    (returns : Option Expr) (decorators : List Expr) (body : Site → Except Fault Unit) :
    Except Fault Unit := do
  c.checkParameters params
  c.exprs decorators
  c.defaults params
  if !c.features.lazyHints then
    hints c params
    returns.forM c.expr
  body (c.ofFunction s async)
  c.checkGiven name

/-- Whether a handler without a kind comes before another. -/
private def isEarlyDefault (kind : Option Expr) (rest : List Handler) : Bool :=
  kind.isNone && !rest.isEmpty

/-- Contexts that are entered one after the other. -/
private def contexts (c : Site) : List ContextItem → Except Fault Site
  | [] => .ok c
  | i :: rest => do
    c.expr i.value
    let c ← c.enter .other
    i.target.forM c.target
    contexts c rest

mutual

def stmt (c : Site) : Stmt → Except Fault Unit
  | .expression s value => (c.at_ s).expr value
  | .assign s targets value => do
    (c.at_ s).expr value
    targets.forM (c.at_ s).target
  | .annotated s target hint value bare => annotated (c.at_ s) target hint value bare
  | .augmented s target _ value => augmented (c.at_ s) target value
  | .function s async name params returns decorators body =>
    function (c.at_ s) s async name params returns decorators fun inner => stmts inner body
  | .class s name bases keywords decorators body => do
    let c := c.at_ s
    c.exprs decorators
    stmts (c.inside .classBody) body
    c.checkKeywords keywords
    c.unpacked bases
    c.keywords keywords
    c.checkGiven name
  | .return s value => returned (c.at_ s) value
  | .raise s error cause => do
    (c.at_ s).optional error
    (c.at_ s).optional cause
  | .delete s targets => targets.forM (deleted (c.at_ s))
  | .import s names => names.forM (imported (c.at_ s))
  | .importFrom s _ path names => do
    let c := c.at_ s
    if path == Features.source && c.features.line < s.start.line then
      c.refuse Features.lateMessage
    names.forM (imported c)
  | .global .. | .nonlocal .. | .pass _ => .ok ()
  | .assertion s test message => do
    (c.at_ s).expr test
    (c.at_ s).optional message
  | .leave s =>
    checkLeaving (c.at_ s) true ((c.at_ s).refuse "'break' outside loop") c.around
  | .continue s =>
    checkLeaving (c.at_ s) true ((c.at_ s).refuse "'continue' not properly in loop") c.around
  | .branch s test body orElse => do
    (c.at_ s).expr test
    stmts c body
    stmts c orElse
  | .loop s test body orElse => do
    let inner ← (c.at_ s).enter .loop
    inner.expr test
    stmts inner body
    stmts c orElse
  | .each s async target source body orElse => do
    let c := c.at_ s
    mustBeAsync c async "for"
    if async then c.expr source
    let inner ← c.enter .loop
    if !async then c.expr source
    inner.target target
    stmts inner body
    stmts c orElse
  | .context s async items body => do
    let c := c.at_ s
    mustBeAsync c async "with"
    stmts (← contexts c items) body
  | .attempt s grouped body handlers_ orElse final => do
    let c := c.at_ s
    let last := stmts c final
    let guarded ← if final.isEmpty then pure c else c.enter (.finally_ last)
    if handlers_.isEmpty then stmts guarded body
    else
      stmts (← guarded.enter .other) body
      if !grouped then stmts guarded orElse
      handlers (← guarded.enter (if grouped then .groupHandler else .other)) handlers_
      if grouped then stmts guarded orElse
    last
  | .choose s subject cases_ => do
    (c.at_ s).expr subject
    cases (c.at_ s) cases_

def stmts (c : Site) : List Stmt → Except Fault Unit
  | [] => .ok ()
  | s :: rest => do
    stmt c s
    stmts c rest

def handlers (c : Site) : List Handler → Except Fault Unit
  | [] => .ok ()
  | .mk s kind name body :: rest => do
    let c := c.at_ s
    if isEarlyDefault kind rest then c.refuse "default 'except:' must be last"
    c.optional kind
    name.forM c.checkGiven
    stmts (← c.enter .other) body
    handlers c rest

def cases (c : Site) : List Case → Except Fault Unit
  | [] => .ok ()
  | .mk pattern guard body :: rest => do
    capture c (guard.isSome || rest.isEmpty) pattern
    c.optional guard
    stmts c body
    cases c rest

end

end Site

/-- Checks that everything in a module stands where it may. -/
def Module.checkPlaces (m : Module) (features : Features) (effects : List (Span × Effects)) :
    Except Fault Unit :=
  Site.stmts { features := features, effects := effects } m

/-- Checks a module that was read: its requests for features, its names, and its places. -/
def Module.check (m : Module) : Except Fault Unit := do
  let features ← m.features
  let effects ← m.checkNames features.lazyHints
  m.checkPlaces features effects

end Stencil.Source
