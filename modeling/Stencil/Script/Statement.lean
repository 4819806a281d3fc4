import Stencil.Script.Match

/-!
Statements of settings modules. A statement may end the suite it stands in: it leaves or repeats a
loop, or gives the result of a function.
-/
namespace Stencil.Script
open Stencil.Text
open Stencil.Source
open Stencil.Build (Installed)
open Stencil.Template (Value Actuals)

/-- The name that modules of settings are loaded below. -/
def packageName : String := "_ntgen_config_00000000"

/-- How a statement ends. -/
inductive Flow where
  | next
  | left
  | again
  | returned (v : Value)

/-! Imports. -/

private def importModule (path : String) : Eval PUnit := do
  match Installed.importAll importable none (Installed.above path ++ [path]) with
  | .ok _ => return
  | .error e => raise "ModuleNotFoundError" e.message

private def topOf (path : String) : String := (path.splitOn ".").headD path

private def moduleValue (path : String) : Eval Value := newThing "module" (.module path)

private def importNames (s : Scope) (names : List ImportName) : Eval PUnit :=
  names.forM fun n => do
    importModule n.path
    match n.newName with
    | some name => s.bind name (← moduleValue n.path)
    | none => s.bind (topOf n.path) (← moduleValue (topOf n.path))

private def importedValue (path name : String) : Eval Value := do
  match offered? path name with
  | some (.module path) => moduleValue path
  | some (.value v) => return v
  | none => raise "ImportError" ("cannot import name " ++ quoted name ++ " from " ++ quoted path ++
      " (unknown location)")

private def importFrom (s : Scope) (path : String) (names : List ImportName) : Eval PUnit :=
  names.forM fun n => do
    let wanted := if n.path == "*" then (publicNames path).map fun p => (p, p)
      else [(n.path, n.newName.getD n.path)]
    wanted.forM fun (name, newName) => do s.bind newName (← importedValue path name)

/-- Where the module is that was last loaded under a name. -/
private def Memory.place? (m : Memory) (name : String) : Option Nat :=
  (List.range m.modules.length).reverse.find? fun i => m.loaded[i]? == some name

/-- Why a module is not found. Its package is looked for first, unless it is loaded. -/
private def Memory.notLoaded (m : Memory) (name : String) : List String → Build.ImportError
  | [] => .missing name
  | above :: rest =>
    if (m.place? above).isSome then .notInPackage name above else m.notLoaded above rest

/-- The names that a loaded module offers to those who import everything. -/
private def offeredAll (vars : List (String × Value)) : Eval (List String) := do
  match vars.lookup "__all__" with
  | none => return (vars.map Prod.fst).filter fun name => !name.startsWith "_"
  | some v =>
    return (← lift (← surface v).items).filterMap fun
      | .str name => some name
      | _ => none

/-- Imports from a module that is loaded beside the one that runs. -/
private def importBeside (s : Scope) (path : String) (names : List ImportName) : Eval PUnit := do
  let m ← get
  let name := if path == "" then packageName else packageName ++ "." ++ path
  match m.place? name with
  | none =>
    raise "ModuleNotFoundError" (m.notLoaded name (Installed.above name).reverse).message
  | some i =>
    let vars := m.globals i
    names.forM fun n => do
      if n.path == "*" then
        (← offeredAll vars).forM fun wanted =>
          match vars.lookup wanted with
          | some v => s.bind wanted v
          | none => noAttribute ("module " ++ quoted name) wanted
      else
        match vars.lookup n.path with
        | some v => s.bind (n.newName.getD n.path) v
        | none => raise "ImportError" ("cannot import name " ++ quoted n.path ++ " from " ++
            quoted name ++ " (unknown location)")

/-! Raising. -/

/-- Runs a step; an error that it raises is its outcome. -/
def attempt {α : Type} (step : Eval α) : Eval (Except Value α) :=
  tryCatch (Except.ok <$> step) fun e => return .error e

/-- The error that is raised for a value: itself, or an instance of a class of errors. -/
private def errorFrom? (run : Run) (v : Value) : Eval (Option Value) := do
  match v with
  | .class key =>
    if (← get).isErrorClass key then return some (← run.call v {}) else return none
  | v =>
    if isForeign v then return some (← newError "Exception" [])
    else if ← isError v then return some v
    else return none

private def raiseValue (run : Run) (error : Value) (cause : Option Value) : Eval PUnit := do
  match ← errorFrom? run error with
  | none => typeError "exceptions must derive from BaseException"
  | some e =>
    match cause with
    | none => pure ()
    | some c =>
      match ← errorFrom? run c with
      | none =>
        if isNone c then putAttribute e "__cause__" .none
        else typeError "exception causes must derive from BaseException"
      | some c => putAttribute e "__cause__" c
    throw e

/-- Whether an error is of the kinds that a handler names. -/
private def isHandled (e : Value) : Nat → Value → Eval Bool
  | 0, _ => return false
  | fuel + 1, kind => do
    match kind with
    | .class key =>
      let m ← get
      if m.isErrorClass key then return m.isErrorOf e key
      else typeError "catching classes that do not inherit from BaseException is not allowed"
    | .tuple kinds => kinds.anyM (isHandled e fuel)
    | kind =>
      if isForeign kind then return false
      else typeError "catching classes that do not inherit from BaseException is not allowed"

/-- Runs a step while an error is handled. -/
private def handling {α : Type} (e : Value) (step : Eval α) : Eval α := do
  modify fun m => { m with handled := e :: m.handled }
  let r ← attempt step
  modify fun m => { m with handled := m.handled.drop 1 }
  match r with
  | .ok a => return a
  | .error e => throw e

/-! Loops. -/

/-- Repeats a step while a test holds. The outcome is missing when the test failed. -/
private def repeatWhile (test : Eval Bool) (body : Eval Flow) : Nat → Eval (Option Flow)
  | 0 => raise "MemoryError" ""
  | fuel + 1 => do
    if ← test then
      match ← body with
      | .next | .again => repeatWhile test body fuel
      | .left => return some .next
      | .returned v => return some (.returned v)
    else return none

/-- Takes a step for each item of an iterator. The outcome is missing when all were taken. -/
private def eachUntil (run : Run) (iterator : Value) (body : Value → Eval Flow) :
    Nat → Eval (Option Flow)
  | 0 => raise "MemoryError" ""
  | fuel + 1 => do
    match ← run.next iterator with
    | none => return none
    | some v =>
      match ← body v with
      | .next | .again => eachUntil run iterator body fuel
      | .left => return some .next
      | .returned v => return some (.returned v)

/-! Contexts. -/

/-- What is called when a context is entered and left. -/
private structure Context where
  enter : Value
  leave : Value

private def contextOf? (run : Run) (v : Value) : Eval (Option Context) := do
  if isForeign v then return none
  match ← special? run v "__enter__", ← special? run v "__exit__" with
  | some enter, some leave => return some ⟨enter, leave⟩
  | some _, none =>
    typeError (quoted v.kindName ++
      " object does not support the context manager protocol (missed __exit__ method)")
  | none, _ =>
    let isOpen ← match ← instance? v with
      | some i => pure ((← get).isOpen i.key)
      | none => pure false
    if isOpen then return none
    else typeError (quoted v.kindName ++
      " object does not support the context manager protocol")

/-- Runs a step inside a context, which may swallow an error of the step. -/
private def inContext (run : Run) (v : Value) (step : Value → Eval Flow) : Eval Flow := do
  match ← contextOf? run v with
  | none => step foreign
  | some c =>
    let entered ← run.call c.enter {}
    match ← attempt (step entered) with
    | .ok f =>
      let _ ← run.call c.leave (.ofList [.none, .none, .none])
      return f
    | .error e =>
      let swallowed ← run.call c.leave (.ofList [.class (← classOf e), e, .none])
      if ← truthOf run swallowed then return .next else throw e

/-! Definitions. -/

private def hintOf : Parameter → Option Expr
  | .mk _ _ hint _ => hint

private def allParameters : Parameters → List Parameter
  | .mk positionalOnly positional rest keywordOnly keywords =>
    positional ++ positionalOnly ++ rest.toList ++ keywordOnly ++ keywords.toList

/-- Applies decorators, the nearest first. What is foreign leaves a function or class as it is, but
the class may have more attributes then. -/
private def decorate (run : Run) (decorators : List Value) (v : Value) : Eval Value :=
  decorators.reverse.foldlM (fun v d => do
    if isForeign d then
      match v with
      | .class key => modify fun m => m.changeClass key fun c => { c with «open» := true }
      | _ => pure ()
      return v
    else run.call d (.ofList [v])) v

/-- The name of the module around, as it calls itself. -/
private def moduleNameOf (s : Scope) : Eval String := do
  match (← s.shared).lookup "__name__" with
  | some (.str name) => return name
  | _ => return "builtins"

/-- The scope of the suite of a class. -/
private def classScope (s : Scope) (span : Span) (name : String) (body : List Stmt) :
    Eval Scope := do
  let doc := match explanation body with
    | .none => []
    | v => [("__doc__", v)]
  let vars := [("__module__", Value.str (← moduleNameOf s)), ("__qualname__", .str (s.path ++ name))]
  let i ← newFrame
    { names := (s.effects span).names, vars := vars ++ doc, parent := s.frame, isClass := true }
  return { s with frame := some i, path := s.path ++ name ++ ".", owner := some name }

private def deleteTarget (run : Run) (s : Scope) : Expr → Eval PUnit
  | .name _ id => s.unbind id
  | .attribute _ value attr => do
    deleteAttributeOf run (← evaluate run s value) (NameCheck.hidden s.owner attr)
  | .subscript _ value (.slice _ lower upper step) => do
    let v ← evaluate run s value
    let lower ← evaluateOption run s lower
    let upper ← evaluateOption run s upper
    deleteSlice v lower upper (← evaluateOption run s step)
  | .subscript _ value index => do
    let v ← evaluate run s value
    deleteItem run v (← evaluate run s index)
  | .tuple _ items | .list _ items => deleteTargets run s items
  | _ => return
where
  deleteTargets (run : Run) (s : Scope) : List Expr → Eval PUnit
    | [] => return
    | t :: rest => do
      deleteTarget run s t
      deleteTargets run s rest

/-- Changes what a target holds by an operator. -/
private def augment (run : Run) (s : Scope) (op : BinaryOp) (value : Expr) : Expr → Eval PUnit
  | .name _ id => do
    let old ← s.read id
    s.bind id (← inPlaceOf run op old (← evaluate run s value))
  | .attribute _ owner attr => do
    let attr := NameCheck.hidden s.owner attr
    let v ← evaluate run s owner
    let old ← attributeOf run v attr
    setAttributeOf run v attr (← inPlaceOf run op old (← evaluate run s value))
  | .subscript _ owner (.slice _ lower upper step) => do
    let v ← evaluate run s owner
    let lower ← evaluateOption run s lower
    let upper ← evaluateOption run s upper
    let step ← evaluateOption run s step
    let old ← sliceOf run v lower upper step
    setSlice run v lower upper step (← inPlaceOf run op old (← evaluate run s value))
  | .subscript _ owner index => do
    let v ← evaluate run s owner
    let key ← evaluate run s index
    let old ← itemOf run v key
    setItem run v key (← inPlaceOf run op old (← evaluate run s value))
  | _ => return

/-- Works out the target of a hint that stands alone. -/
private def touchTarget (run : Run) (s : Scope) : Expr → Eval PUnit
  | .attribute _ value _ => do
    let _ ← evaluate run s value
  | .subscript _ value index => do
    let _ ← evaluate run s value
    let _ ← evaluate run s index
  | _ => return

/-- Whether hints of variables are worked out here. -/
private def workOutHints (s : Scope) : Eval Bool := do
  if s.lazyHints then return false
  else return ((← s.frame?).map (·.isClass)).getD true

mutual

/-- Runs a statement. -/
def execute (run : Run) (s : Scope) : Stmt → Eval Flow
  | .expression _ value => do
    let _ ← evaluate run s value
    return .next
  | .assign _ targets value => do
    let v ← evaluate run s value
    targets.forM (bindTarget run s v)
    return .next
  | .annotated _ target hint value bare => do
    match value with
    | some e => bindTarget run s (← evaluate run s e) target
    | none => if bare then pure () else touchTarget run s target
    if ← workOutHints s then
      let _ ← evaluate run s hint
    return .next
  | .augmented _ target op value => do
    augment run s op value target
    return .next
  | .function span waits name params returns decorators body => do
    let ds ← evaluateAll run s decorators
    let defaults ← evaluateDefaults run s params
    if !s.lazyHints then
      let _ ← ((allParameters params).filterMap hintOf ++ returns.toList).mapM (evaluate run s)
    let f ← newFunction s span name params defaults (.body body) waits
    s.bind name (← decorate run ds f)
    return .next
  | .class span name bases keywords decorators body => do
    let ds ← evaluateAll run s decorators
    let bs ← evaluateAll run s bases
    let named ← evaluateKeywords run s foreign [] keywords
    let inner ← classScope s span name body
    let _ ← executeAll run inner body
    let attributes := ((← inner.frame?).map (·.vars)).getD []
    let c ← makeClass run (← moduleNameOf s) (s.path ++ name) name bs named attributes
    match inner.frame with
    | some i => changeFrame i fun f => { f with vars := Template.putNamed f.vars classAround c }
    | none => pure ()
    s.bind name (← decorate run ds c)
    return .next
  | .return _ value => do return .returned (← evaluateOption run s value)
  | .raise _ error cause => do
    match error with
    | none =>
      match (← get).handled with
      | e :: _ => throw e
      | [] => raise "RuntimeError" "No active exception to reraise"
    | some e =>
      let v ← evaluate run s e
      let c ← match cause with
        | some e => some <$> evaluate run s e
        | none => pure none
      raiseValue run v c
      return .next
  | .delete _ targets => do
    targets.forM (deleteTarget run s)
    return .next
  | .import _ names => do
    importNames s names
    return .next
  | .importFrom _ level path names => do
    if level > 1 then raise "ImportError" "attempted relative import beyond top-level package"
    else if level == 1 then importBeside s path names
    else
      importModule path
      importFrom s path names
    return .next
  | .global .. | .nonlocal .. | .pass _ => return .next
  | .assertion _ test message => do
    if ← truthOf run (← evaluate run s test) then return .next
    else
      let args ← match message with
        | some e => do pure [← evaluate run s e]
        | none => pure []
      throw (← newError "AssertionError" args)
  | .leave _ => return .left
  | .continue _ => return .again
  | .branch _ test body orElse => do
    if ← truthOf run (← evaluate run s test) then executeAll run s body
    else executeAll run s orElse
  | .loop _ test body orElse => do
    let holds : Eval Bool := do truthOf run (← evaluate run s test)
    match ← repeatWhile holds (executeAll run s body) maxRounds with
    | some f => return f
    | none => executeAll run s orElse
  | .each _ _ target source body orElse => do
    let iterator ← iterate run (← evaluate run s source)
    let round (v : Value) : Eval Flow := do
      bindTarget run s v target
      executeAll run s body
    match ← eachUntil run iterator round maxRounds with
    | some f => return f
    | none => executeAll run s orElse
  | .context _ _ items body => enterAll run s (executeAll run s body) items
  | .attempt _ _ body handlers orElse final => do
    let guarded : Eval Flow := do
      match ← attempt (executeAll run s body) with
      | .ok .next => executeAll run s orElse
      | .ok f => return f
      | .error e => handle run s e handlers
    let r ← attempt guarded
    match ← executeAll run s final, r with
    | .next, .ok f => return f
    | .next, .error e => throw e
    | f, _ => return f
  | .choose _ subject cases => do choose run s (← evaluate run s subject) cases

/-- Runs statements until one ends the suite. -/
def executeAll (run : Run) (s : Scope) : List Stmt → Eval Flow
  | [] => return .next
  | stmt :: rest => do
    match ← execute run s stmt with
    | .next => executeAll run s rest
    | f => return f

/-- Runs a step inside contexts. -/
def enterAll (run : Run) (s : Scope) (step : Eval Flow) : List ContextItem → Eval Flow
  | [] => step
  | i :: rest => do
    inContext run (← evaluate run s i.value) fun v => do
      i.target.forM (bindTarget run s v)
      enterAll run s step rest

/-- Handles an error by the first handler that names a kind of it. -/
def handle (run : Run) (s : Scope) (e : Value) : List Handler → Eval Flow
  | [] => throw e
  | .mk _ kind name body :: rest => do
    let fitting ← match kind with
      | none => pure true
      | some k => handling e (do isHandled e 100 (← evaluate run s k))
    if fitting then
      name.forM fun n => s.bind n e
      let r ← attempt (handling e (executeAll run s body))
      name.forM fun n => orOn "NameError" (s.unbind n) (pure ())
      match r with
      | .ok f => return f
      | .error e => throw e
    else handle run s e rest

/-- Runs the first suite whose pattern the value fits. -/
def choose (run : Run) (s : Scope) (v : Value) : List Case → Eval Flow
  | [] => return .next
  | .mk pattern guard body :: rest => do
    let fitting ← fits run s v pattern
    let wanted ← match guard with
      | none => pure true
      | some e => if fitting then truthOf run (← evaluate run s e) else pure false
    if fitting && wanted then executeAll run s body else choose run s v rest

end

end Stencil.Script
