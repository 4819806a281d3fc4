import Stencil.Template.Expression

/-!
Running the statements of templates. A statement gives the text it puts out and may set variables,
define functions, capture outputs and make a parent template known.
-/
namespace Stencil.Template
open Stencil.Text
open Eval (broken lift)

/-- Whether the output of a frame is dropped because its template has a parent. -/
def isSilent (f : Frame) : Eval Bool := do
  match f.run with
  | some r => return (((← get).runs[r]?).getD none).isSome
  | none => return false

/-! Assignment. -/

/-- A name is set where it stands; at the top level it is also exported unless it begins with an
underscore. -/
def assignName (f : Frame) (name : String) (v : Value) (exported : Bool) : Eval Unit := do
  setVar f.scope name (some v)
  if f.topLevel then
    changeContext f.context fun c =>
      let others := c.exported.filter (· != name)
      { c with
        vars := putNamed c.vars name v
        exported := if name.startsWith "_" then c.exported
          else if exported then others ++ [name] else others }

def assignAttribute (f : Frame) (name attr : String) (v : Value) : Eval Unit := do
  match ← readName f name with
  | .object place .space _ =>
    match ← objectAt? place with
    | some (.space es) => setObject place (.space (← lift (Value.putEntry es (.str attr) v)))
    | _ => broken "cannot assign attribute on non-namespace object"
  | .dict es place =>
    match ← surface (.dict es place), place with
    | .dict now _, some at_ =>
      setCell at_ (.ofEntries (← lift (Value.putEntry now (.str attr) v)))
    | _, _ => pure ()
  | .list .. => lift (typeError "list indices must be integers or slices, not str")
  | .missing .. => lift (typeError "'MissingType' object does not support item assignment")
  | w => lift (typeError (quoted w.kindName ++ " object does not support item assignment"))

mutual

/-- Sets a target; a tuple takes as many items as it has parts. -/
def assign (run : Run) (f : Frame) : Expr → Value → Eval Unit
  | .name id, v => assignName f id v true
  | .nsRef name attr, v => assignAttribute f name attr v
  | .tuple targets, v => do assignAll run f targets (← unpack run targets.length v)
  | _, _ => pure ()

def assignAll (run : Run) (f : Frame) : List Expr → List Value → Eval Unit
  | t :: ts, v :: vs => do
    assign run f t v
    assignAll run f ts vs
  | _, _ => pure ()

end

def checkSpaces (f : Frame) : List String → Eval Unit
  | [] => pure ()
  | name :: rest => do
    match variableIn (← get) f.scope name with
    | some (some (.object _ .space _)) => checkSpaces f rest
    | _ => broken "cannot assign attribute on non-namespace object"

/-- Whether what a frame holds back comes out as markup. -/
def marksText (f : Frame) : Eval Bool :=
  match f.escaping with
  | .on => return true
  | .off => return false
  | .asFound => escapesNow f

/-! Loops. -/

/-- The frame of one round of a loop, with the target set. -/
def roundFrame (run : Run) (l : LoopBody) (loop : List (String × Value)) (body : Body)
    (v : Value) : Eval Frame := do
  let names := loop.map Prod.fst ++ l.target.targetNames
  let f ← l.frame.inner names loop fun outer d => declareBody outer true d body
  assign run f l.target v
  return f

/-- Whether an item passes the test of a loop. -/
def passes (run : Run) (l : LoopBody) (v : Value) : Eval Bool := do
  match l.test with
  | none => return true
  | some e =>
    let f ← l.frame.inner l.target.targetNames [] fun outer d => d.readsOf outer e
    assign run f l.target v
    truthOf (← evaluate run f e)

/-- Rounds of a loop, as long as its iterator gives items; `texts` are those of the rounds before,
the latest first. -/
def plainRounds (run : Run) (l : LoopBody) (feed : Nat) :
    Nat → List String → Eval (List String)
  | 0, _ => Eval.raise .memory ""
  | fuel + 1, texts => do
    match ← run (.advance feed) with
    | none => return texts.reverse
    | some v =>
      let f ← roundFrame run l [] l.body v
      plainRounds run l feed fuel ((← run (.body f l.body)) :: texts)

/-- Moves a loop on to its next item. -/
def moveOn (run : Run) (place : Nat) (first : Bool) : Eval (Option Value) := do
  match ← objectAt? place with
  | some (.loop s) =>
    let next ← match s.ahead with
      | some v => pure (some v)
      | none => run (.advance s.feed)
    match next with
    | none => return none
    | some v =>
      setObject place (.loop { s with
        index := if first then 0 else s.index + 1
        ahead := none, before := s.current, current := some v })
      return some v
  | _ => return none

/-- Rounds with a loop value; it is one object that moves along. -/
def watchedRounds (run : Run) (l : LoopBody) (place : Nat) :
    Nat → List String → Eval (List String)
  | 0, _ => Eval.raise .memory ""
  | fuel + 1, texts => do
    match ← moveOn run place texts.isEmpty with
    | none => return texts.reverse
    | some v =>
      let f ← roundFrame run l [("loop", .object place .loop [])] l.body v
      watchedRounds run l place fuel ((← run (.body f l.body)) :: texts)

def isWatched (l : LoopBody) : Bool :=
  l.recursive || uses "loop" l.body || hasSharedBlock (l.body ++ l.orElse)

/-- Runs a loop over the items of a value. -/
def runLoop (run : Run) (l : LoopBody) (source : Value) (depth : Nat) : Eval Value := do
  let source ← if l.test.isSome then newIterator "generator" (.waiting (.passing l) source)
    else pure source
  let feed ← iterate source
  let texts ← if isWatched l then do
      let place := (← get).objects.size
      let _ ← newObject .loop (.loop ⟨0, source, feed, none, none, none, none, depth, none, l⟩)
      watchedRounds run l place maxRounds []
    else plainRounds run l feed maxRounds []
  if texts.isEmpty then
    let f ← l.frame.inner [] [] fun outer d => declareBody outer true d l.orElse
    return .str (← run (.body f l.orElse))
  else
    let text := joinWith "" texts
    let marked ← marksText l.frame
    return if l.recursive && marked then .markup text else .str text

/-! Other templates. -/

def loadText (name : String) : Eval Loaded := do
  if (← read).loads then Eval.ask name
  else lift (typeError "no loader for this environment specified")

/-- Loads the template that a value names. -/
def loadNamed (v : Value) : Eval Loaded := do
  if !(← read).loads then loadText ""
  else
    lift v.checkKey
    match v.asText? with
    | some name => loadText name
    | none =>
      lift (Template.raise .attribute (quoted v.kindName ++ " object has no attribute 'split'"))

def firstLoaded (run : Run) (names : List Value) : List Value → Eval Loaded
  | [] => do
    let parts ← names.mapM fun
      | .missing m _ => pure m
      | v => textOf run v
    lift (.error (.notFound ("none of the templates given were found: " ++ joinWith ", " parts)))
  | v :: rest => do
    let attempt : Eval (Option Loaded) := match v with
      | .missing .. => do
        if !(← read).loads then some <$> loadText "" else return none
      | v => Eval.orMissing (loadNamed v)
    match ← attempt with
    | some t => return t
    | none => firstLoaded run names rest

def selectNamed (run : Run) (v : Value) : Eval Loaded := do
  if !(← truthOf v) then
    lift (.error (.notFound "Tried to select from an empty list of templates."))
  else
    let names ← itemsOf run v
    firstLoaded run names names

/-- A value that is no text is a choice of templates. -/
def loadAny (run : Run) (v : Value) : Eval Loaded := do
  match v.asText? with
  | some _ => loadNamed v
  | none => selectNamed run v

def contextOf (t : Loaded) (base : List (String × Value)) : Context :=
  { name := t.name, base := base, blocks := t.blocks.map fun b => (b.name, [b]) }

/-- Runs a template in a context; a parent that becomes known runs after it. -/
def runTemplate (run : Run) (t : Loaded) (context : Nat) : Eval String := do
  let place := (← get).runs.size
  modify fun s => { s with runs := s.runs.push none }
  let given ← if uses "self" t.body then
      pure [("self", ← newObject .self (.self context))]
    else pure []
  let scope ← enter none context (given.map Prod.fst) given fun outer d =>
    declareBody outer true d t.body
  let own ← run (.body { scope := scope, context := context, topLevel := true, run := some place }
    t.body)
  match ((← get).runs[place]?).getD none with
  | some parent => return own ++ (← run (.template parent context))
  | none => return own

def moduleOf (run : Run) (t : Loaded) (base : List (String × Value)) : Eval Value := do
  let context ← newContext (contextOf t base)
  let text ← run (.template t context)
  let c ← contextAt context
  let exported := c.exported.filterMap fun n => (c.vars.lookup n).map fun v => (n, v)
  newObject (.module ((t.name).getD "None") text) (.module exported)

def sharedModule (run : Run) (t : Loaded) : Eval Value := do
  let name := t.name.getD ""
  match (← get).modules.lookup name with
  | some m => return m
  | none =>
    let m ← moduleOf run t (← read).globals
    modify fun s => { s with modules := (name, m) :: s.modules }
    return m

def imported (run : Run) (f : Frame) (template : Expr) (withContext : Bool) :
    Eval Value := do
  let t ← loadNamed (← evaluate run f template)
  if withContext then moduleOf run t (← visibleFrom f) else sharedModule run t

def included (run : Run) (f : Frame) (template : Expr)
    (ignoreMissing withContext : Bool) : Eval String := do
  let v ← evaluate run f template
  let load : Eval Loaded := match template with
    | .tuple _ | .list _ => selectNamed run v
    | _ => loadAny run v
  let found ← if ignoreMissing then Eval.orMissing load else some <$> load
  match found with
  | none => return ""
  | some t =>
    if withContext then
      let context ← newContext (contextOf t (← visibleFrom f))
      run (.template t context)
    else textOf run (← sharedModule run t)

def importName (f : Frame) (module : Value) (line : Nat) (entry : String × String) :
    Eval Unit := do
  let (name, own) := entry
  let found ← match module with
    | .object place .. =>
      match ← objectAt? place with
      | some (.module exported) => pure (exported.lookup name)
      | _ => pure none
    | _ => pure none
  let shown := match module with
    | .object _ (.module template _) _ => template
    | _ => ""
  let v := found.getD (.missing ("the template " ++ quoted shown ++ " (imported on " ++
    position (← contextAt f.context).name line ++ ") does not export the requested name " ++
    quoted name) false)
  assignName f own v false

/-! Blocks and inheritance. -/

def inheritFrom (run : Run) (f : Frame) (template : Expr) : Eval Unit := do
  match f.run with
  | none => pure ()
  | some r =>
    if ← isSilent f then broken "extended multiple times"
    let t ← loadNamed (← evaluate run f template)
    modify fun s => { s with runs := s.runs.setIfInBounds r (some t) }
    changeContext f.context fun c => { c with
      blocks := t.blocks.foldl (fun blocks b =>
        putNamed blocks b.name (((blocks.lookup b.name).getD []) ++ [b])) c.blocks }

def placeBlock (run : Run) (f : Frame) (name : String) (shared required : Bool) :
    Eval String := do
  let silent ← if f.topLevel then isSilent f else pure false
  if silent then return ""
  let context ← if shared then do
      let base ← visibleFrom f
      let c ← contextAt f.context
      newContext { name := c.name, base := base, blocks := c.blocks, escape := c.escape }
    else pure f.context
  let overriding := ((← contextAt f.context).blocks.lookup name).getD []
  if required && overriding.length ≤ 1 then
    broken ("Required block " ++ quoted name ++ " not found")
  renderBlock run context name 0

/-! Statements. -/

/-- The text of a body that is held back. -/
def heldText (run : Run) (f : Frame) (body : Body) : Eval Value := do
  let text ← run (.body f body)
  return if ← marksText f then .markup text else .str text

/-- What is put out without being turned into text has to be one. -/
def mustBeText (v : Value) : Eval String := do
  match v.asText? with
  | some s => return s
  | none =>
    lift (typeError ("sequence item 0: expected str instance, " ++ v.kindName ++ " found"))

def firstTrue (run : Run) (f : Frame) (orElse : Body) : List (Expr × Body) → Eval Body
  | [] => return orElse
  | (test, body) :: rest => do
    if ← truthOf (← evaluate run f test) then return body
    else firstTrue run f orElse rest

def evaluateInto (run : Run) (outer inner : Frame) : List (Expr × Expr) → Eval Unit
  | [] => pure ()
  | (target, e) :: rest => do
    assign run inner target (← evaluate run outer e)
    evaluateInto run outer inner rest

/-- Runs a statement: the text it puts out. -/
def execute (run : Run) (f : Frame) : Node → Eval String
  | .text s => do return if ← isSilent f then "" else s
  | .print e => do
    if ← isSilent f then return ""
    let v ← evaluate run f e
    outputOf run (← marksText f) v
  | .loop target source test recursive body orElse _ => do
    let v ← evaluate run f source
    let l : LoopBody := ⟨target, test, recursive, body, orElse, f⟩
    return (← run (.loop l v 0)).asText?.getD ""
  | .branch cases orElse => do
    let body ← firstTrue run f orElse cases
    run (.body f body)
  | .set target e _ => do
    checkSpaces f target.targetReads
    assign run f target (← evaluate run f e)
    return ""
  | .setBlock target filter body _ => do
    let inner ← { f with run := none }.inner [] [] fun outer d => declareBody outer true d body
    let text ← heldText run inner body
    let v ← match filter with
      | some e => evaluate run { inner with subject := text } e
      | none => pure text
    assign run f target v
    return ""
  | .define name params body _ => do
    let r := Routine.make (some name) params body f
    assignName f name (← newObject (.routine (some name)) (.routine r)) true
    return ""
  | .callBlock params call body _ => do
    let r := Routine.make none params body f
    let caller ← newObject (.routine none) (.routine r)
    match call with
    | .call function args =>
      let callee ← evaluate run f function
      let a ← arguments run f "jinja2.runtime.Context.call" [("caller", caller)] args
      mustBeText (← run (.call (← escapesNow f) callee a))
    | _ => return ""
  | .capture name body => do
    let title ← textOf run (← evaluate run f name)
    let text ← (Routine.make none [] body f).call run {}
    modify fun s => { s with captured := (title, text) :: s.captured }
    return ""
  | .filterBlock filter body => do
    let inner ← f.inner [] [] fun outer d =>
      (declareBody outer true d body).readsOf outer filter
    let text ← heldText run inner body
    mustBeText (← evaluate run { inner with subject := text } filter)
  | .bind targets values body => do
    let names := targets.flatMap Expr.targetNames
    let inner ← f.inner names [] fun outer d => declareBody outer true d body
    evaluateInto run f inner (targets.zip values)
    run (.body inner body)
  | .block name shared required _ _ => placeBlock run f name shared required
  | .inherit template _ => do
    inheritFrom run f template
    return ""
  | .inclusion template ignoreMissing withContext =>
    included run f template ignoreMissing withContext
  | .importAs template name withContext => do
    assignName f name (← imported run f template withContext) false
    return ""
  | .importNames template names withContext line => do
    let m ← imported run f template withContext
    names.forM (importName f m line)
    return ""
  | .escaping flag body => do
    let inner ← f.inner [] [] fun outer d => declareBody outer true (d.readsOf outer flag) body
    let before := (← contextAt f.context).escape
    let escape ← truthOf (← evaluate run inner flag)
    changeContext f.context fun c => { c with escape := escape }
    let escaping := match flag with
      | .literal _ => if escape then Escaping.on else .off
      | _ => .asFound
    let text ← run (.body { inner with escaping := escaping } body)
    changeContext f.context fun c => { c with escape := before }
    return text

/-- Runs statements in order; their texts are put together. -/
def executeAll (run : Run) (f : Frame) : List Node → Eval (List String)
  | [] => return []
  | n :: rest => do return (← execute run f n) :: (← executeAll run f rest)

/-! The machine. -/

/-- How each task is performed, given a way to perform those it asks for. -/
def perform (run : Run) : (t : Task) → Eval t.Result
  | .expr f e => evaluate run f e
  | .body f nodes => do return joinWith "" (← executeAll run f nodes)
  | .call escape callee a => callValue run escape callee a
  | .filter escape name v a => Filter.apply run escape name v a
  | .test name v a => Tests.ask run name (a.push v)
  | .loop l source depth => runLoop run l source depth
  | .template t context => runTemplate run t context
  | .advance place => Filter.advance run (passes run) place

/-- Performs tasks that nest at most so deep. -/
def machine : Nat → Run
  | 0 => fun _ => Eval.raise .recursion "maximum recursion depth exceeded"
  | depth + 1 => perform (machine depth)

end Stencil.Template
