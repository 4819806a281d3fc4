import Stencil.Script.Items

/-!
Classes: which values belong to one, in which order a new class looks at those it derives from, and
what may stand as its base. The order keeps that of each base, and that of the bases; where that
cannot be, there is no class.
-/
namespace Stencil.Script
open Stencil.Text
open Stencil.Template (Value Actuals)

/-! Membership. -/

/-- Whether a value is of a class, or of one that derives from it. -/
def isOfClass (v : Value) (key : String) : Eval Bool := do
  return ((← get).order (← classOf v)).contains key

private def memberOf (test : String → Eval Bool) (complaint : String) :
    Nat → Value → Eval Bool
  | 0, _ => return false
  | fuel + 1, kind => do
    match kind with
    | .class key => test key
    | .none => test "NoneType"
    | .tuple kinds => kinds.anyM (memberOf test complaint fuel)
    | kind => if isForeign kind then return false else typeError complaint

def isInstance (v kind : Value) : Eval Bool :=
  let complaint := "isinstance() arg 2 must be a type, a tuple of types, or a union"
  match kind with
  | .none => typeError complaint
  | kind => memberOf (isOfClass v) complaint 100 kind

def isSubclass (v kind : Value) : Eval Bool := do
  match v with
  | .class key =>
    let m ← get
    memberOf (fun k => return (m.order key).contains k)
      "issubclass() arg 2 must be a class, a tuple of classes, or a union" 100 kind
  | v => if isForeign v then return false else typeError "issubclass() arg 1 must be a class"

/-! The order of a class. -/

private def dropHead (key : String) (orders : List (List String)) : List (List String) :=
  orders.map fun l => if l.head? == some key then l.tail else l

/-- Merges orders: the next key is the first head that no tail holds. Where there is none, the
heads that are left are the failure. -/
def merge : Nat → List (List String) → Except (List String) (List String)
  | 0, _ => .ok []
  | fuel + 1, orders =>
    let orders := orders.filter fun l => !l.isEmpty
    let heads := (orders.filterMap List.head?).eraseDups
    if orders.isEmpty then .ok []
    else match heads.find? fun k => !orders.any fun l => l.tail.contains k with
      | none => .error heads
      | some k => (merge fuel (dropHead k orders)).map (k :: ·)

/-- The order behind a class with these bases. -/
def Memory.orderOf (m : Memory) (bases : List String) : Except (List String) (List String) :=
  let orders := bases.map m.order ++ [bases]
  merge (orders.flatten.length + 1) orders

/-! Bases. -/

/-- The classes that give their instances a layout of their own. -/
private def hasLayout (key : String) : Bool :=
  (valueKinds.contains key && key != "object") ||
    ["BaseException", "BaseExceptionGroup", "OSError", "SyntaxError", "ImportError",
      "StopIteration", "SystemExit", "UnicodeDecodeError", "UnicodeEncodeError",
      "UnicodeTranslateError", "AttributeError", "NameError"].contains key

private def checkLayouts (m : Memory) (bases : List String) : Eval PUnit := do
  let layouts := bases.filterMap fun k => (m.order k).find? hasLayout
  let isAbove (a b : String) := (m.order b).contains a
  if layouts.any fun a => layouts.any fun b => !isAbove a b && !isAbove b a then
    typeError "multiple bases have instance lay-out conflict"

/-- What happens to a value that is no class as a base: its kind is called like a kind of
classes. -/
private def refuseBase {α : Type} (v : Value) : Eval α := do
  let kind := v.kindName
  match v with
  | .none => typeError "NoneType takes no arguments"
  | .range .. => typeError "'str' object cannot be interpreted as an integer"
  | .str _ | .bytes _ => typeError (kind ++ "() argument 'encoding' must be str, not tuple")
  | .list .. | .tuple _ | .dict .. | .float _ | .bool _ =>
    typeError (kind ++ " expected at most 1 argument, got 3")
  | v =>
    match ← thing? v with
    | some (.set ..) => typeError (kind ++ " expected at most 1 argument, got 3")
    | some (.function ..) => typeError "function() argument 'code' must be code, not str"
    | some (.method ..) => typeError "method expected 2 arguments, got 3"
    | some (.builtin _) => typeError ("cannot create " ++ quoted kind ++ " instances")
    | some (.static _) | some (.classBound _) =>
      typeError (kind ++ " expected 1 argument, got 3")
    | some (.iterator _) => typeError ("cannot create " ++ quoted kind ++ " instances")
    | some (.single listing) =>
      typeError (listing ++ "Type takes no arguments")
    | _ => typeError (kind ++ "() takes at most 2 arguments (3 given)")

/-- The keys of the bases that are known. -/
def basesOf (bases : List Value) : Eval (List String) := do
  let keys ← bases.filterMapM fun v => do
    match v with
    | .class key => return some key
    | v => if isForeign v then return none else refuseBase v
  match keys.find? finalKinds.contains with
  | some k => typeError ("type " ++ quoted k ++ " is not an acceptable base type")
  | none => return keys

private def freshKey (m : Memory) (path : String) : String :=
  if (m.class? path).isSome then path ++ "#" ++ ofNat m.classes.length else path

/-- A new class: where it is defined, its name, its bases and what its suite has bound. -/
structure NewClass where
  name : String
  path : String
  home : String
  bases : List String
  attributes : List (String × Value)
  «open» : Bool

/-- Puts a new class into memory, and gives its key. -/
def addClass (c : NewClass) : Eval String := do
  let m ← get
  let bases := if c.bases.isEmpty then ["object"] else c.bases
  checkLayouts m bases
  match bases.find? fun k => 1 < bases.count k with
  | some k => typeError ("duplicate base class " ++ m.className k)
  | none =>
    match m.orderOf bases with
    | .error heads =>
      typeError ("Cannot create a consistent method resolution\norder (MRO) for bases " ++
        joinWith ", " (heads.map m.className))
    | .ok above =>
      let key := freshKey m c.path
      modify fun m => m.addClass
        { key := key, name := c.name, path := c.path, home := c.home, bases := bases
          order := key :: above, attributes := c.attributes, «open» := c.open, own := true }
      return key

/-! Making a class. -/

/-- The kind that makes a class with these bases: that of a base which derives from all others. -/
private def makerOf (bases : List Value) : Eval String := do
  let kinds ← (bases.filter fun v => !isForeign v).mapM classOf
  let m ← get
  let isOf (a b : String) := (m.order a).contains b
  let last := kinds.foldl (fun w k => if isOf k w then k else w) (kinds.headD "type")
  if kinds.any fun k => !isOf last k then
    typeError ("metaclass conflict: the metaclass of a derived class must be a (non-strict) " ++
      "subclass of the metaclasses of all its bases")
  else return last

private def initSubclass (run : Run) (key : String) (named : List (String × Value)) :
    Eval PUnit := do
  let m ← get
  match m.bound? ((m.order key).drop 1) "__init_subclass__" with
  | some f =>
    let f := match ← thing? f with
      | some (.classBound f) => f
      | _ => f
    let _ ← run.call f ⟨[.class key], named⟩
  | none =>
    if !named.isEmpty && !m.isOpen key then
      typeError (m.className key ++ ".__init_subclass__() takes no keyword arguments")

private def nameParts (run : Run) (key : String) (attributes : List (String × Value)) :
    Eval PUnit :=
  attributes.forM fun (name, v) => do
    let _ ← callSpecial? run v "__set_name__" [.class key, .str name]

/-- A text that a suite has bound to a special name. -/
private def textBound? (attributes : List (String × Value)) (name : String) : Option String :=
  match attributes.lookup name with
  | some (.str s) => some s
  | _ => none

/-- Makes a class from its bases, the named arguments beside them, and what its suite has bound. -/
def makeClass (run : Run) (home path name : String) (bases : List Value)
    (named : List (String × Value)) (attributes : List (String × Value)) : Eval Value := do
  let kind ← makerOf bases
  let others := named.filter fun e => e.1 != "metaclass"
  let instanceBase ← bases.findM? fun v => do
    return (← instance? v).isSome && (← classOf v) == kind
  let maker := (instanceBase.map fun v => (v, true)).or
    ((named.lookup "metaclass").map fun v => (v, false))
  let attributes := if (attributes.lookup "__module__").isSome then attributes
    else ("__module__", .str home) :: attributes
  let direct : Eval Value := do
    let key ← addClass
      { name := name, path := (textBound? attributes "__qualname__").getD path
        home := (textBound? attributes "__module__").getD home
        bases := ← basesOf bases, attributes := attributes
        «open» := bases.any isForeign || (maker.map fun e => isForeign e.1).getD false }
    nameParts run key attributes
    initSubclass run key others
    return .class key
  let dict : Eval Value := settled (.ofEntries (attributes.map fun (n, v) => (.str n, v)))
  match maker with
  | some (v, true) => run.call (.class (← classOf v)) (.ofList [.str name, .tuple bases, ← dict])
  | some (.class _, false) | none => direct
  | some (v, false) =>
    if isForeign v then direct
    else run.call v ⟨[.str name, .tuple bases, ← dict], others⟩

end Stencil.Script
