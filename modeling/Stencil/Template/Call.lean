import Stencil.Template.Access
import Stencil.Template.Mention
import Stencil.Template.Value.Methods

/-!
Calling values: the functions of templates, blocks, loops that start anew, the functions that every
template knows, and methods.
-/
namespace Stencil.Template
open Stencil.Text
open Eval (lift)

private def isNoValue : Value → Bool
  | .none => true
  | _ => false

/-! Functions of templates. -/

namespace Routine

private def shownName (r : Routine) : String := (r.name.map quoted).getD "None"

/-- Parameters beyond the positional arguments take their values by name. -/
private def fillNamed (names : List String) (named : List (String × Value)) :
    List (String × Option Value) × List (String × Value) :=
  (names.map fun n => (n, named.lookup n), named.filter fun e => !names.contains e.1)

/-- The values of the parameters; one that is not given has none. -/
def bind (r : Routine) (a : Actuals) : Outcome (List (String × Option Value)) := do
  let names := r.params.map (·.name)
  let count := names.length
  let taken := (names.zip a.positional).map fun (n, v) => (n, some v)
  let (byName, named) := fillNamed (names.drop taken.length) a.named
  let foundCaller := if taken.length == count then names.contains "caller"
    else byName.any fun e => e.1 == "caller"
  let callerValue := match named.lookup "caller" with
    | some v => if isNoValue v then .missing "No caller defined" false else v
    | none => .missing "No caller defined" false
  let caller := if r.caller && !foundCaller then [("caller", some callerValue)] else []
  let named := if caller.isEmpty then named else named.filter fun e => e.1 != "caller"
  let restNamed ← if r.restNamed then
      pure [("kwargs", some (Value.ofEntries (named.map fun (k, v) => (.str k, v))))]
    else match named with
      | [] => pure []
      | (k, _) :: _ =>
        if named.any fun e => e.1 == "caller" then
          typeError ("macro " ++ r.shownName ++ " was invoked with two values for the special " ++
            "caller argument. This is most likely a bug.")
        else typeError ("macro " ++ r.shownName ++ " takes no keyword argument " ++ quoted k)
  let extra := a.positional.drop count
  let rest ← if r.rest then pure [("varargs", some (Value.tuple extra))]
    else if extra.isEmpty then pure []
    else typeError ("macro " ++ r.shownName ++ " takes not more than " ++ ofNat count ++
      " argument(s)")
  return taken ++ byName ++ caller ++ restNamed ++ rest

def fillDefaults (run : Run) (f : Frame) (given : List (String × Option Value)) :
    List Parameter → Eval Unit
  | [] => pure ()
  | p :: rest => do
    match (given.lookup p.name).getD none, p.default with
    | some _, _ => pure ()
    | none, some e => setVar f.scope p.name (some (← run (.expr f e)))
    | none, none =>
      setVar f.scope p.name (some (.missing
        ("parameter " ++ quoted p.name ++ " was not provided") false))
    fillDefaults run f given rest

def declared (r : Routine) (outer : String → Bool) (d : Declared) : Declared :=
  let reads := r.params.flatMap fun p => readsOfOption p.default
  declareBody outer true (d.loads outer reads) r.body

def settledAll : List (String × Option Value) → Eval (List (String × Option Value))
  | [] => return []
  | (name, v) :: rest => do
    let v ← match v with
      | some v => some <$> settled v
      | none => pure none
    return (name, v) :: (← settledAll rest)

/-- The text of the body of a function with arguments. -/
def call (run : Run) (r : Routine) (a : Actuals) : Eval String := do
  let given ← settledAll (← lift (r.bind a))
  let known := given.filterMap fun (n, v) => v.map fun v => (n, v)
  let f ← { r.frame with run := none }.inner (given.map Prod.fst) known r.declared
  fillDefaults run f given r.params
  run (.body f r.body)

end Routine

/-- A function with the special names that its body uses. -/
def Routine.make (name : Option String) (params : List Parameter) (body : Body) (f : Frame) :
    Routine :=
  let used := usedOf ["caller", "kwargs", "varargs"] (mentionsOfBody body)
  let own := params.map (·.name)
  ⟨name, params, body, f, used.contains "caller",
    used.contains "kwargs" && !own.contains "kwargs",
    used.contains "varargs" && !own.contains "varargs"⟩

/-! Blocks. -/

/-- Renders a block of a context; `depth` counts how many blocks of the name override it. -/
def renderBlock (run : Run) (context : Nat) (name : String) (depth : Nat) : Eval String := do
  let c ← contextAt context
  match ((c.blocks.lookup name).getD [])[depth]? with
  | none => lift (Template.raise .key (quoted name))
  | some b =>
    let used := usedOf ["self", "super"] (mentionsOfBody b.body)
    let self ← if used.contains "self" then
        pure [("self", ← newObject .self (.self context))]
      else pure []
    let super ← if used.contains "super" then
        pure [("super", (← blockAt context name (depth + 1)).getD (noParentBlock name))]
      else pure []
    let given := self ++ super
    let scope ← enter none context (given.map Prod.fst) given fun outer d =>
      declareBody outer true d b.body
    run (.body { scope := scope, context := context } b.body)

/-! Functions that every template knows. -/

/-- Iterators are taken as lists of their items. -/
def listed (run : Run) (v : Value) : Eval Value := do
  match v with
  | .object _ (.iterator _) _ => return .ofList (← itemsOf run v)
  | v => return v

def listedArgs (run : Run) (a : Actuals) : Eval Actuals := do
  return { a with positional := ← a.positional.mapM (listed run) }

def rangeOf (a : Actuals) : Outcome Value := do
  if !a.named.isEmpty then typeError "range() takes no keyword arguments"
  match a.positional with
  | [] => typeError "range expected at least 1 argument, got 0"
  | [stop] => return .range 0 (← TextMethod.indexOf stop) 1
  | [start, stop] => return .range (← TextMethod.indexOf start) (← TextMethod.indexOf stop) 1
  | [start, stop, step] =>
    let range := Value.range (← TextMethod.indexOf start) (← TextMethod.indexOf stop)
    let step ← TextMethod.indexOf step
    if step == 0 then raise .value "range() arg 3 must not be zero"
    return range step
  | vs => typeError ("range expected at most 3 arguments, got " ++ ofNat vs.length)

def entriesFor (run : Run) (a : Actuals) : Eval (List (Value × Value)) := do
  lift (Method.updated [] "dict" (← listedArgs run a))

def callBuiltin (run : Run) (b : Builtin) (a : Actuals) : Eval Value := do
  match b with
  | .range => lift (rangeOf a)
  | .dict => return .ofEntries (← entriesFor run a)
  | .space => newObject .space (.space (← entriesFor run a))
  | .cycler =>
    let formals : Formals := { required := ["self"], rest := true }
    let b ← lift (formals.bind "Cycler.__init__" (a.push .none))
    if b.rest.isEmpty then Eval.raise .runtime "at least one item has to be provided"
    else newObject .cycler (.cycler b.rest 0)
  | .joiner =>
    let formals : Formals := { required := ["self"], optional := ["sep"] }
    let b ← lift (formals.bind "Joiner.__init__" (a.push .none))
    newObject .joiner (.joiner (b.get "sep" (.str ", ")) false)
  | .lipsum => return .str ""

/-! Objects. -/

def noArguments (shown : String) (a : Actuals) : Outcome Unit := do
  let formals : Formals := { required := ["self"] }
  let _ ← formals.bind shown (a.push .none)

def callObject (run : Run) (escape : Bool) (place : Nat) (kind : ObjectKind)
    (a : Actuals) : Eval Value := do
  match ← objectAt? place with
  | some (.routine r) =>
    let text ← r.call run a
    return if escape then .markup text else .str text
  | some (.joiner sep used) =>
    lift (noArguments "Joiner.__call__" a)
    if used then return sep
    else
      setObject place (.joiner sep true)
      return .str ""
  | some (.loop s) =>
    let formals : Formals := { required := ["self", "iterable"] }
    let b ← lift (formals.bind "LoopContext.__call__" (a.push .none))
    if s.loop.recursive then run (.loop s.loop (b.get "iterable" .none) (s.depth + 1))
    else
      lift (typeError "The loop must have the 'recursive' marker to be enabled.")
  | some (.block name context depth) =>
    lift (noArguments "BlockReference.__call__" a)
    let text ← renderBlock run context name depth
    return if (← contextAt context).escape then .markup text else .str text
  | _ =>
    lift (typeError (quoted (Value.object place kind []).kindName ++ " object is not callable"))

def sameItems (a b : List Value) : Outcome Bool := Value.equalItems Value.equal a b

def restOnly (shown : String) (a : Actuals) : Outcome (List Value) := do
  let formals : Formals := { required := ["self"], rest := true }
  return (← formals.bind shown (a.push .none)).rest

def callObjectMethod (place : Nat) (name : String) (a : Actuals) : Eval Value := do
  match ← objectAt? place, name with
  | some (.cycler items pos), "next" =>
    lift (noArguments "Cycler.next" a)
    setObject place (.cycler items ((pos + 1) % items.length))
    return (items[pos]?).getD .none
  | some (.cycler items _), _ =>
    lift (noArguments "Cycler.reset" a)
    setObject place (.cycler items 0)
    return .none
  | some (.loop s), "cycle" =>
    match ← lift (restOnly "LoopContext.cycle" a) with
    | [] => lift (typeError "no items for cycling given")
    | vs => return (vs[s.index % vs.length]?).getD .none
  | some (.loop s), _ =>
    let vs ← lift (restOnly "LoopContext.changed" a)
    let now := (← presentArgs (.ofList vs)).positional
    let same ← match s.seen with
      | some old => lift (sameItems (← presentArgs (.ofList old)).positional now)
      | none => pure false
    if same then return .bool false
    else
      setObject place (.loop { s with seen := some vs })
      return .bool true
  | _, _ => return .none

/-- Methods that go through the items of their arguments. -/
def takesItems (name : String) : Bool :=
  name == "join" || name == "extend" || name == "update" || name == "fromkeys"

/-- Calls a method; what its receiver holds afterwards is put at its place. -/
def callMethod (run : Run) (self : Value) (name : String) (a : Actuals) : Eval Value := do
  match self with
  | .object place .. => callObjectMethod place name a
  | self =>
    let a ← if takesItems name then listedArgs run a else pure a
    let (v, after) ← lift (Method.call (← present self) name (← presentArgs a))
    match self.place?, Method.changes name with
    | some place, true => setCell place after
    | _, _ => pure ()
    return v

/-- Calls a value; `escape` tells whether the text of a template function comes out as markup. -/
def callValue (run : Run) (escape : Bool) (callee : Value) (a : Actuals) : Eval Value := do
  match callee with
  | .missing m _ => lift (Value.failMissing m)
  | .builtin b => callBuiltin run b (← presentArgs a) >>= settled
  | .function f => lift (f.call (← presentArgs a)) >>= settled
  | .method self name => callMethod run self name a >>= settled
  | .object place kind _ => callObject run escape place kind a >>= settled
  | v => lift (typeError (quoted v.kindName ++ " object is not callable"))

end Stencil.Template
