import Stencil.Script.Operator

/-!
Expressions of settings modules. A comprehension has names of its own and gathers what it gives; a
generator does so once its first item is asked for.
-/
namespace Stencil.Script
open Stencil.Text
open Stencil.Source
open Stencil.Template (Value Actuals)

def constantValue : Constant → Value
  | .none => .none
  | .true => .bool true
  | .false => .bool false
  | .ellipsis => ellipsis
  | .int n => .int n
  | .float x => .float x
  | .imaginary x => .complex 0.0 x
  | .str s _ => .str s
  | .bytes content => .bytes content

/-! Calls. -/

/-- How a complaint about the arguments of a call names what is called. -/
private def calleeShown (v : Value) : Eval String := do
  let m ← get
  let ofFunction (v : Value) : Eval String := do
    match m.thing? v with
    | some (.function f _) =>
      match (← f.scope.shared).lookup "__name__" with
      | some (.str home) => return home ++ "." ++ f.path ++ "()"
      | _ => return f.path ++ "()"
    | some (.builtin name) => return name ++ "()"
    | some (.unbound kind name) => return kind ++ "." ++ name ++ "()"
    | _ => return v.kindName ++ " object"
  match v with
  | .class key => return m.classListing key ++ "()"
  | .method self name => return self.kindName ++ "." ++ name ++ "()"
  | v =>
    match m.thing? v with
    | some (.method _ f) | some (.static f) => ofFunction f
    | _ => ofFunction v

/-- The arguments that an unpacked value gives. -/
private def unpackedArguments (run : Run) (callee v : Value) : Eval (List Value) := do
  if isForeign v then return []
  tryCatch (itemsOf run v) fun e => do
    let m ← get
    let isMissing := match m.thing? e with
      | some (.instance i) => i.key == "TypeError" && (match i.args with
        | [.str s] => s.endsWith "object is not iterable"
        | _ => false)
      | _ => false
    if isMissing then
      typeError ((← calleeShown callee) ++ " argument after * must be an iterable, not " ++
        v.kindName)
    else throw e

/-- The named arguments that an unpacked mapping adds to those before it. -/
private def namedArguments (callee v : Value) (before : List (String × Value)) :
    Eval (List (String × Value)) := do
  match ← surface v with
  | .dict entries _ =>
    entries.foldlM (fun done (k, v) => do
      match k with
      | .str name =>
        if (done.lookup name).isSome then
          typeError ((← calleeShown callee) ++ " got multiple values for keyword argument " ++
            quoted name)
        else return done ++ [(name, v)]
      | _ => typeError "keywords must be strings") before
  | v =>
    if isForeign v then return before
    else
      typeError ((← calleeShown callee) ++ " argument after ** must be a mapping, not " ++
        v.kindName)

/-- The first argument of the function that runs here. -/
private def firstArgument (f : Frame) : Option Value := (f.vars.head?).map Prod.snd

/-- What stands for the classes above the one around, for the instance at hand. -/
private def classesAbove (s : Scope) : Eval Value := do
  match ← s.frame? with
  | none => raise "RuntimeError" "super(): no arguments"
  | some f =>
    match firstArgument f with
    | none => raise "RuntimeError" "super(): no arguments"
    | some self =>
      match ← orOn "NameError" (some <$> s.read classAround) (pure none) with
      | some (.class start) =>
        let key ← match self with
          | .class key => pure key
          | self => classOf self
        newThing "super" (.above key self start)
      | _ => raise "RuntimeError" "super(): __class__ cell not found"

/-! Texts. -/

private def asciiOf (s : String) : String :=
  .ofList (s.toList.flatMap fun c =>
    if c.toNat < 128 then [c]
    else
      let digits (width : Nat) := padLeft width '0' (Nat.toDigits 16 c.toNat)
      if c.toNat < 256 then '\\' :: 'x' :: digits 2
      else if c.toNat < 65536 then '\\' :: 'u' :: digits 4
      else '\\' :: 'U' :: digits 8)

/-- The listing of a value with letters of the first 128 only. -/
def asciiListingOf (run : Run) (v : Value) : Eval String := do
  return asciiOf (← listingOf run v)

private def converted (run : Run) (conversion : Option Char) (v : Value) : Eval Value := do
  match conversion with
  | some 'r' => return .str (← listingOf run v)
  | some 'a' => return .str (← asciiListingOf run v)
  | some _ => return .str (← textOf run v)
  | none => return v

/-- The text of a value in a format. -/
def formattedOf (run : Run) (v : Value) (format : String) : Eval String := do
  match ← callSpecial? run v "__format__" [.str format] with
  | some (.str s) => return s
  | some r => typeError ("__format__ must return a str, not " ++ r.kindName)
  | none =>
    if format == "" then textOf run v
    else
      match v, ← thing? v with
      | .class _, _ => typeError "unsupported format string passed to type.__format__"
      | _, some .foreign => return ""
      | v, some _ =>
        typeError ("unsupported format string passed to " ++ v.kindName ++ ".__format__")
      | v, none => lift ((← present v).formatted format)

/-! Loops. -/

/-- Takes a step for each item of an iterator. -/
def eachItem (run : Run) (iterator : Value) (step : Value → Eval PUnit) : Nat → Eval PUnit
  | 0 => raise "MemoryError" ""
  | fuel + 1 => do
    match ← run.next iterator with
    | none => return
    | some v =>
      step v
      eachItem run iterator step fuel

/-- Notes a value that the code of a frame gives out. -/
def give (s : Scope) (v : Value) : Eval PUnit :=
  match s.frame with
  | some i => changeFrame i fun f => { f with yielded := v :: f.yielded }
  | none => return

/-- What the code of a frame has given out. -/
def givenBy (s : Scope) : Eval (List Value) := do
  return (((← s.frame?).map (·.yielded)).getD []).reverse

/-- A scope with names of its own inside another. -/
def Scope.within (s : Scope) (span : Span) : Eval Scope := do
  let i ← newFrame { names := (s.effects span).names, parent := s.frame }
  return { s with frame := some i }

/-! Functions. -/

private def parametersWithDefaults : Parameters → List Parameter
  | .mk positionalOnly positional _ keywordOnly _ => positionalOnly ++ positional ++ keywordOnly

/-- A function that is defined here. -/
def newFunction (s : Scope) (span : Span) (name : String) (params : Parameters)
    (defaults : List (String × Value)) (code : Code) (waits : Bool) : Eval Value :=
  newThing "function" (.function
    { name := name, path := s.path ++ name, scope := s, params := params, defaults := defaults
      code := code, effects := s.effects span, waits := waits } [])

/-- How many values a row of targets takes, and whether one of them takes all that is left. -/
def targetCount (targets : List Expr) : Nat × Bool :=
  let isStarred : Expr → Bool
    | .starred .. => true
    | _ => false
  ((targets.filter fun t => !isStarred t).length, targets.any isStarred)

/-- Refuses a number of values that does not fit a row of targets. -/
def checkCount (targets : List Expr) (given : Nat) : Eval PUnit := do
  let (wanted, open_) := targetCount targets
  if given < wanted then
    raise "ValueError" ("not enough values to unpack (expected " ++
      (if open_ then "at least " else "") ++ ofNat wanted ++ ", got " ++ ofNat given ++ ")")
  if given > wanted && !open_ then
    raise "ValueError" ("too many values to unpack (expected " ++ ofNat wanted ++ ")")

mutual

/-- The value that an expression gives. -/
def evaluate (run : Run) (s : Scope) : Expr → Eval Value
  | .constant _ c => return constantValue c
  | .formatted _ pieces => do return .str (← evaluatePieces run s pieces)
  | .name _ id => s.read id
  | .attribute _ value attr => do
    attributeOf run (← evaluate run s value) (NameCheck.hidden s.owner attr)
  | .subscript _ value (.slice _ lower upper step) => do
    let v ← evaluate run s value
    let lower ← evaluateOption run s lower
    let upper ← evaluateOption run s upper
    sliceOf run v lower upper (← evaluateOption run s step)
  | .subscript _ value index => do
    let v ← evaluate run s value
    itemOf run v (← evaluate run s index)
  | .slice .. => return foreign
  | .call _ function args keywords => do
    let f ← evaluate run s function
    let args ← evaluateArguments run s f args
    let named ← evaluateKeywords run s f [] keywords
    match f, args, named with
    | .class "super", [], [] => classesAbove s
    | f, args, named => run.call f ⟨args, named⟩
  | .unary _ op operand => do unaryOf run op (← evaluate run s operand)
  | .binary _ left op right => do
    let a ← evaluate run s left
    binaryOf run op a (← evaluate run s right)
  | .bool _ op operands => evaluateBool run s op operands
  | .compare _ left rest => do evaluateRest run s (← evaluate run s left) rest
  | .conditional _ test body orElse => do
    if ← truthOf run (← evaluate run s test) then evaluate run s body
    else evaluate run s orElse
  | .lambda span params body => do
    let defaults ← evaluateDefaults run s params
    newFunction s span "<lambda>" params defaults (.result body) false
  | .named _ target value => do
    let v ← evaluate run s value
    match target with
    | .name _ id => s.bind id v
    | _ => pure ()
    return v
  | .starred _ value => evaluate run s value
  | .await _ value => do
    let _ ← evaluate run s value
    return foreign
  | .yield _ value => do
    give s (← evaluateOption run s value)
    return .none
  | .yieldFrom _ value => do
    (← itemsOf run (← evaluate run s value)).forM (give s)
    return .none
  | .tuple _ items => do return .tuple (← evaluateAll run s items)
  | .list _ items => do settled (.ofList (← evaluateAll run s items))
  | .set _ items => do
    let items ← evaluateAll run s items
    newSet (← distinct items) false
  | .dict _ items => do settled (.ofEntries (← evaluateEntries run s [] items))
  | .listComp span item clauses => do
    let inner ← evaluateClauses run s span (fun inner => do
      give inner (← evaluate run inner item)) clauses
    settled (.ofList (← givenBy inner))
  | .setComp span item clauses => do
    let inner ← evaluateClauses run s span (fun inner => do
      let v ← evaluate run inner item
      checkKey v
      give inner v) clauses
    newSet (← distinct (← givenBy inner)) false
  | .dictComp span key value clauses => do
    let inner ← evaluateClauses run s span (fun inner => do
      let k ← evaluate run inner key
      let v ← evaluate run inner value
      checkKey k
      give inner (.tuple [k, v])) clauses
    let pairs := (← givenBy inner).filterMap fun
      | .tuple [k, v] => some (k, v)
      | _ => none
    settled (.ofEntries (← putAll [] pairs))
  | .generator span item clauses => do
    match clauses with
    | [] => return foreign
    | .mk _ target source conditions :: rest =>
      let first ← iterate run (← evaluate run s source)
      let inner ← s.within span
      newIterator "generator" (.computed inner item target first conditions rest)

def evaluateOption (run : Run) (s : Scope) : Option Expr → Eval Value
  | none => return .none
  | some e => evaluate run s e

/-- The values of expressions; a starred one gives all of its items. -/
def evaluateAll (run : Run) (s : Scope) : List Expr → Eval (List Value)
  | [] => return []
  | .starred _ value :: rest => do
    let v ← evaluate run s value
    let items ← if isForeign v then pure []
      else tryCatch (itemsOf run v) fun e => do
        match ← thing? v, ← special? run v "__iter__", ← special? run v "__getitem__" with
        | some (.iterator _), _, _ | _, some _, _ | _, _, some _ => throw e
        | _, none, none => typeError ("Value after * must be an iterable, not " ++ v.kindName)
    return items ++ (← evaluateAll run s rest)
  | e :: rest => do
    let v ← evaluate run s e
    return v :: (← evaluateAll run s rest)

/-- The positional arguments of a call. -/
def evaluateArguments (run : Run) (s : Scope) (callee : Value) : List Expr → Eval (List Value)
  | [] => return []
  | .starred _ value :: rest => do
    let items ← unpackedArguments run callee (← evaluate run s value)
    return items ++ (← evaluateArguments run s callee rest)
  | e :: rest => do
    let v ← evaluate run s e
    return v :: (← evaluateArguments run s callee rest)

def evaluateKeywords (run : Run) (s : Scope) (callee : Value) (done : List (String × Value)) :
    List Keyword → Eval (List (String × Value))
  | [] => return done
  | .mk _ (some name) value :: rest => do
    let v ← evaluate run s value
    if (done.lookup name).isSome then
      typeError ((← calleeShown callee) ++ " got multiple values for keyword argument " ++
        quoted name)
    evaluateKeywords run s callee (done ++ [(name, v)]) rest
  | .mk _ none value :: rest => do
    let v ← evaluate run s value
    evaluateKeywords run s callee (← namedArguments callee v done) rest

def evaluateEntries (run : Run) (s : Scope) (done : List (Value × Value)) :
    List Entry → Eval (List (Value × Value))
  | [] => return done
  | .mk (some key) value :: rest => do
    let k ← evaluate run s key
    let v ← evaluate run s value
    evaluateEntries run s (← putAll done [(k, v)]) rest
  | .mk none value :: rest => do
    match ← surface (← evaluate run s value) with
    | .dict entries _ => evaluateEntries run s (← putAll done entries) rest
    | v =>
      if isForeign v then evaluateEntries run s done rest
      else typeError (quoted v.kindName ++ " object is not a mapping")

/-- Operands up to the first that decides. -/
def evaluateBool (run : Run) (s : Scope) (op : BoolOp) : List Expr → Eval Value
  | [] => return .none
  | [e] => evaluate run s e
  | e :: rest => do
    let v ← evaluate run s e
    if (← truthOf run v) == (op == .or) then return v else evaluateBool run s op rest

/-- A chain of comparisons, up to the first that fails. -/
def evaluateRest (run : Run) (s : Scope) (left : Value) : List Comparison → Eval Value
  | [] => return .bool true
  | [.mk op right] => do compareOf run op left (← evaluate run s right)
  | .mk op right :: rest => do
    let r ← evaluate run s right
    let v ← compareOf run op left r
    if ← truthOf run v then evaluateRest run s r rest else return v

def evaluatePieces (run : Run) (s : Scope) : List Piece → Eval String
  | [] => return ""
  | .text t :: rest => do return t ++ (← evaluatePieces run s rest)
  | .field value conversion none :: rest => do
    let v ← evaluate run s value
    let t ← formattedOf run (← converted run conversion v) ""
    return t ++ (← evaluatePieces run s rest)
  | .field value conversion (some format) :: rest => do
    let v ← evaluate run s value
    let v ← converted run conversion v
    let t ← formattedOf run v (← evaluatePieces run s format)
    return t ++ (← evaluatePieces run s rest)

/-- The defaults of parameters, worked out where the function is defined. -/
def evaluateDefaults (run : Run) (s : Scope) : Parameters → Eval (List (String × Value))
  | .mk positionalOnly positional _ keywordOnly _ => do
    let first ← evaluateDefaultsOf run s positionalOnly
    let second ← evaluateDefaultsOf run s positional
    return first ++ second ++ (← evaluateDefaultsOf run s keywordOnly)

def evaluateDefaultsOf (run : Run) (s : Scope) : List Parameter → Eval (List (String × Value))
  | [] => return []
  | .mk _ _ _ none :: rest => evaluateDefaultsOf run s rest
  | .mk _ name _ (some e) :: rest => do
    let v ← evaluate run s e
    return (name, v) :: (← evaluateDefaultsOf run s rest)

/-- Takes a step for each round of a comprehension, whose first source is worked out in the scope
around it. -/
def evaluateClauses (run : Run) (s : Scope) (span : Span) (step : Scope → Eval PUnit) :
    List Clause → Eval Scope
  | [] => return s
  | .mk _ target source conditions :: rest => do
    let first ← iterate run (← evaluate run s source)
    let inner ← s.within span
    eachItem run first (fun v => do
      bindTarget run inner v target
      if ← evaluateConditions run inner conditions then
        evaluateClausesAfter run inner (step inner) rest) maxRounds
    return inner

def evaluateClausesAfter (run : Run) (s : Scope) (step : Eval PUnit) : List Clause → Eval PUnit
  | [] => step
  | .mk _ target source conditions :: rest => do
    let iterator ← iterate run (← evaluate run s source)
    eachItem run iterator (fun v => do
      bindTarget run s v target
      if ← evaluateConditions run s conditions then
        evaluateClausesAfter run s step rest) maxRounds

def evaluateConditions (run : Run) (s : Scope) : List Expr → Eval Bool
  | [] => return true
  | e :: rest => do
    if ← truthOf run (← evaluate run s e) then evaluateConditions run s rest else return false

/-- Gives a value to what stands on the left of an assignment. -/
def bindTarget (run : Run) (s : Scope) (v : Value) : Expr → Eval PUnit
  | .name _ id => s.bind id v
  | .attribute _ value attr => do
    setAttributeOf run (← evaluate run s value) (NameCheck.hidden s.owner attr) v
  | .subscript _ value (.slice _ lower upper step) => do
    let owner ← evaluate run s value
    let lower ← evaluateOption run s lower
    let upper ← evaluateOption run s upper
    setSlice run owner lower upper (← evaluateOption run s step) v
  | .subscript _ value index => do
    let owner ← evaluate run s value
    setItem run owner (← evaluate run s index) v
  | .starred _ value => bindTarget run s v value
  | .tuple _ targets | .list _ targets => do
    if isForeign v then bindTargets run s (List.replicate targets.length foreign) targets
    else
      let items ← itemsToUnpack run v
      checkCount targets items.length
      bindTargets run s items targets
  | _ => return

/-- Gives values to targets in order; a starred one takes what the others leave. -/
def bindTargets (run : Run) (s : Scope) (vs : List Value) : List Expr → Eval PUnit
  | [] => return
  | .starred _ target :: rest => do
    let count := vs.length - rest.length
    bindTarget run s (← settled (.ofList (vs.take count))) target
    bindTargets run s (vs.drop count) rest
  | t :: rest => do
    bindTarget run s (vs.headD .none) t
    bindTargets run s vs.tail rest

end

/-- All that a comprehension gives whose first source is at hand. -/
def generate (run : Run) (s : Scope) (item target : Expr) (first : Value) (conditions : List Expr)
    (rest : List Clause) : Eval (List Value) := do
  let step : Eval PUnit := do give s (← evaluate run s item)
  eachItem run first (fun v => do
    bindTarget run s v target
    if ← evaluateConditions run s conditions then
      evaluateClausesAfter run s step rest) maxRounds
  givenBy s

end Stencil.Script
