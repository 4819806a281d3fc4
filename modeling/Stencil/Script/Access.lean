import Stencil.Script.Scope
import Stencil.Template.Value.Items

/-!
Attributes. An instance asks the properties of its class first, then its own attributes, then its
class; what a class binds a name to may depend on who asks. A class that derives from something
foreign has any attribute.
-/
namespace Stencil.Script
open Stencil.Text
open Stencil.Template (Value Actuals)

/-- Whether a name is one that the language gives a meaning to. -/
def isSpecial (name : String) : Bool := name.startsWith "__" && name.endsWith "__"

/-- What a class binds a name to, as an instance sees it, or the class itself. -/
def bound (run : Run) (self : Option Value) (key : String) (v : Value) : Eval Value := do
  match ← thing? v, self with
  | some (.function ..), some self => newThing "method" (.method self v)
  | some (.static target), _ => return target
  | some (.classBound target), _ => newThing "method" (.method (.class key) target)
  | some (.property (some f) _ _), some self => run.call f (.ofList [self])
  | some (.property none _ _), some _ => raise "AttributeError" "unreadable attribute"
  | _, _ => return v

/-- A special method that the class of an instance defines, ready to be called. -/
def special? (run : Run) (v : Value) (name : String) : Eval (Option Value) := do
  match ← instance? v with
  | none => return none
  | some i =>
    match (← get).attribute? i.key name with
    | some f => return some (← bound run (some v) i.key f)
    | none => return none

/-- Calls a special method of an instance, if its class defines it. -/
def callSpecial? (run : Run) (v : Value) (name : String) (args : List Value) :
    Eval (Option Value) := do
  match ← special? run v name with
  | some f => return some (← run.call f (.ofList args))
  | none => return none

/-! Classes. -/

/-- A value of a kind, to look at what values of the kind have. -/
private def sample? : String → Option Value
  | "str" => some (.str "")
  | "bytes" => some (.bytes [])
  | "int" => some (.int 0)
  | "bool" => some (.bool false)
  | "float" => some (.float 0.0)
  | "complex" => some (.complex 0.0 0.0)
  | "list" => some (.list [] none)
  | "tuple" => some (.tuple [])
  | "dict" => some (.dict [] none)
  | "range" => some (.range 0 0 1)
  | _ => none

/-- Methods of kinds of values that are there, but not known. -/
def unknownMethods : List (String × List String) :=
  [("int", ["to_bytes", "from_bytes"]), ("bool", ["to_bytes", "from_bytes"]),
   ("float", ["fromhex"]), ("range", ["start", "stop", "step"]),
   ("bytes", ["capitalize", "center", "count", "endswith", "expandtabs", "find", "fromhex",
     "index", "isalnum", "isalpha", "isascii", "isdigit", "islower", "isspace", "istitle",
     "isupper", "join", "ljust", "lower", "lstrip", "maketrans", "partition", "removeprefix",
     "removesuffix", "replace", "rfind", "rindex", "rjust", "rpartition", "rsplit", "rstrip",
     "split", "splitlines", "startswith", "strip", "swapcase", "title", "translate", "upper",
     "zfill"]),
   ("frozenset", ["copy", "difference", "intersection", "isdisjoint", "issubset", "issuperset",
     "symmetric_difference", "union"]),
   ("set", ["add", "clear", "copy", "difference", "difference_update", "discard", "intersection",
     "intersection_update", "isdisjoint", "issubset", "issuperset", "pop", "remove",
     "symmetric_difference", "symmetric_difference_update", "union", "update"])]

private def isUnknownMethod (kind name : String) : Bool :=
  ((unknownMethods.lookup kind).getD []).contains name

/-- What the values of a kind have under a name, as the kind has it. -/
private def ofKind? (kind name : String) : Eval (Option Value) := do
  let some v := sample? kind
    | return if isUnknownMethod kind name then some foreign else none
  match ← lift (v.attribute? name) with
  | some (.method ..) => return some (← newThing "method_descriptor" (.unbound kind name))
  | some _ => return some foreign
  | none => return if isUnknownMethod kind name then some foreign else none

/-- What every object does by itself; classes may do it otherwise. -/
def objectMethods : List String := ["__init__", "__new__", "__setattr__", "__getattribute__"]

/-- One of the things that every object does by itself. -/
private def objectMethod (m : Memory) (key name : String) : Eval Value :=
  newThing "wrapper_descriptor" (.builtin
    ((if m.isErrorClass key then "BaseException." else "object.") ++ name))

/-- The names under which errors of some kinds may have been told more. -/
private def toldNames : List (String × List String) :=
  [("OSError", ["errno", "strerror", "filename", "filename2"]),
   ("SyntaxError", ["msg", "filename", "lineno", "offset", "text", "end_lineno", "end_offset",
     "print_file_and_line"]),
   ("ImportError", ["msg", "name", "path"]), ("AttributeError", ["name", "obj"]),
   ("NameError", ["name"]), ("StopIteration", ["value"]), ("SystemExit", ["code"])]

/-- Whether errors of a class have something under a name, told or by themselves. -/
private def isErrorPart (m : Memory) (key name : String) : Bool :=
  m.isErrorClass key && (["args", "with_traceback", "add_note"].contains name ||
    (m.order key).any fun k => ((toldNames.lookup k).getD []).contains name)

private def classValues (keys : List String) : Value := .tuple (keys.map Value.class)

/-- What every class has. -/
private def ofEveryClass? (m : Memory) (key name : String) : Option Value :=
  let c := m.class? key
  match name with
  | "__name__" => some (.str (m.className key))
  | "__qualname__" => some (.str (m.classPath key))
  | "__module__" => some (.str ((c.map (·.home)).getD "builtins"))
  | "__doc__" => some .none
  | "__mro__" => some (classValues (m.order key))
  | "__bases__" => some (classValues ((c.map (·.bases)).getD ["object"]))
  | "__base__" => some (.class (((c.map (·.bases)).getD []).headD "object"))
  | "__class__" => some (.class "type")
  | "mro" => some foreign
  | _ => none

def classAttribute (run : Run) (key name : String) : Eval Value := do
  let m ← get
  match m.attribute? key name with
  | some v => bound run none key v
  | none =>
    match ofEveryClass? m key name with
    | some v => return v
    | none =>
      if objectMethods.contains name && !m.isOpen key then return ← objectMethod m key name
      match ← (m.order key).findSomeM? fun k => ofKind? k name with
      | some v => return v
      | none =>
        if m.isOpen key || isSpecial name || isErrorPart m key name then return foreign
        else noAttribute ("type object " ++ quoted (m.className key)) name

/-! Instances. -/

/-- What errors have besides what they were given. -/
private def ofError? (m : Memory) (self : Value) (name : String) : Option Value :=
  match name with
  | "__cause__" | "__context__" | "__traceback__" => some .none
  | "with_traceback" | "add_note" => some (.method self name)
  | _ =>
    if ((m.kindsOf self).head?.map fun k => isErrorPart m k name).getD false then some .none
    else none

private def missingAttribute (run : Run) (self : Value) (i : Instance) (name : String) :
    Eval Value := do
  let m ← get
  match ← callSpecial? run self "__getattr__" [.str name] with
  | some v => return v
  | none =>
    match if m.isErrorClass i.key then ofError? m self name else none with
    | some v => return v
    | none =>
      match name with
      | "__class__" => return .class i.key
      | "__doc__" => return .none
      | "__module__" => classAttribute run i.key name
      | "__dict__" =>
        settled (.ofEntries (i.attributes.map fun (n, v) => (.str n, v)))
      | _ =>
        if m.isOpen i.key || isSpecial name then return foreign
        else noAttribute (quoted (m.className i.key) ++ " object") name

private def instanceAttribute (run : Run) (self : Value) (i : Instance) (name : String) :
    Eval Value := do
  let m ← get
  let shared := m.attribute? i.key name
  let isProperty := match shared.bind m.thing? with
    | some (.property ..) => true
    | _ => false
  match i.attributes.lookup name, shared with
  | some v, none => return v
  | some v, some p => if isProperty then bound run (some self) i.key p else return v
  | none, some p =>
    if isProperty then
      orOn "AttributeError" (bound run (some self) i.key p) do
        match m.attribute? i.key "__getattr__" with
        | some _ => missingAttribute run self i name
        | none => bound run (some self) i.key p
    else bound run (some self) i.key p
  | none, none => missingAttribute run self i name

/-- The keys of an order behind one of them. -/
private def behind (key : String) (order : List String) : List String :=
  (order.dropWhile (· != key)).drop 1

private def attributeAbove (run : Run) (key : String) (self : Value) (start name : String) :
    Eval Value := do
  let m ← get
  let order := behind start (m.order key)
  let asClass := match self with
    | .class _ => true
    | _ => false
  match m.bound? order name with
  | some v => bound run (if asClass then none else some self) key v
  | none =>
    if objectMethods.contains name && !m.isOpen key then
      let f ← objectMethod m key name
      if name == "__new__" then return f
      else newThing "method-wrapper" (.method self f)
    else if m.isOpen key || isSpecial name || isErrorPart m key name then return foreign
    else noAttribute "'super' object" name

/-! Functions. -/

/-- The text that explains the statements it stands in front of. -/
def explanation : List Source.Stmt → Value
  | .expression _ (.constant _ (.str s _)) :: _ => .str s
  | _ => .none

private def Function.explanation (f : Function) : Value :=
  match f.code with
  | .body stmts => Script.explanation stmts
  | .result _ => .none

private def functionAttribute (v : Value) (f : Function) (attributes : List (String × Value))
    (name : String) : Eval Value := do
  match attributes.lookup name with
  | some v => return v
  | none =>
    match name with
    | "__name__" => return .str f.name
    | "__qualname__" => return .str f.path
    | "__module__" =>
      return (((← f.scope.shared).lookup "__name__").getD .none)
    | "__doc__" => return f.explanation
    | _ =>
      if isSpecial name then return foreign
      else noAttribute (quoted v.kindName ++ " object") name

private def offeredBy (path name : String) : Eval Value := do
  match offered? path name with
  | some (.module path) => newThing "module" (.module path)
  | some (.value v) => return v
  | none => noAttribute ("module " ++ quoted path) name

private def ofProperty? : String → Thing → Option Value
  | "fget", .property get _ _ => some (get.getD .none)
  | "fset", .property _ set _ => some (set.getD .none)
  | "fdel", .property _ _ delete => some (delete.getD .none)
  | "__func__", .static f | "__wrapped__", .static f | "__func__", .classBound f
  | "__wrapped__", .classBound f | "__func__", .method _ f => some f
  | "__self__", .method self _ => some self
  | _, _ => none

private def thingMethods : Thing → List String
  | .property .. => ["getter", "setter", "deleter"]
  | .set _ false => (unknownMethods.lookup "set").getD []
  | .set _ true => (unknownMethods.lookup "frozenset").getD []
  | _ => []

private def thingAttribute (run : Run) (v : Value) (t : Thing) (name : String) : Eval Value := do
  match t with
  | .foreign => return foreign
  | .module path => offeredBy path name
  | .function f attributes => functionAttribute v f attributes name
  | .instance i => instanceAttribute run v i name
  | .above key self start => attributeAbove run key self start name
  | t =>
    match ofProperty? name t with
    | some part => return part
    | none =>
      if (thingMethods t).contains name then return .method v name
      else match t, name with
        | .builtin f, "__name__" | .unbound _ f, "__name__" => return .str f
        | .method _ target, _ =>
          match ← thing? target with
          | some (.function f attributes) => functionAttribute v f attributes name
          | _ => return foreign
        | _, "__class__" => return .class v.kindName
        | _, _ =>
          if isSpecial name then return foreign
          else noAttribute (quoted v.kindName ++ " object") name

/-- The attribute of a value. -/
def attributeOf (run : Run) (v : Value) (name : String) : Eval Value := do
  match v with
  | .class key => classAttribute run key name
  | v =>
    match ← thing? v with
    | some t => thingAttribute run v t name
    | none =>
      match ← lift ((← surface v).attribute? name) with
      | some a => settled a
      | none =>
        if isSpecial name || isUnknownMethod v.kindName name then return foreign
        else noAttribute (quoted v.kindName ++ " object") name

/-! Changing attributes. -/

private def setterOf (key name : String) : Eval (Option (Option Value)) := do
  let m ← get
  match (m.attribute? key name).bind m.thing? with
  | some (.property _ set _) => return some set
  | _ => return none

private def deleterOf (key name : String) : Eval (Option (Option Value)) := do
  let m ← get
  match (m.attribute? key name).bind m.thing? with
  | some (.property _ _ delete) => return some delete
  | _ => return none

private def propertyLacks {α : Type} (key name what : String) : Eval α := do
  raise "AttributeError" ("property " ++ quoted name ++ " of " ++
    quoted ((← get).className key) ++ " object has no " ++ what)

/-- Puts an attribute into an instance, whatever its class says. -/
def putAttribute (self : Value) (name : String) (v : Value) : Eval PUnit := do
  match ← instance? self with
  | some i =>
    setThing self (.instance { i with attributes := Template.putNamed i.attributes name v })
  | none => return

private def changePlain (v : Value) (name : String) : Eval PUnit := do
  match ← lift ((← surface v).attribute? name) with
  | some (.method ..) =>
    raise "AttributeError" (quoted v.kindName ++ " object attribute " ++ quoted name ++
      " is read-only")
  | some _ =>
    raise "AttributeError" ("attribute " ++ quoted name ++ " of " ++ quoted v.kindName ++
      " objects is not writable")
  | none => noAttribute (quoted v.kindName ++ " object") name

private def refuseClassChange {α : Type} (key name : String) : Eval α :=
  typeError ("cannot set " ++ quoted name ++ " attribute of immutable type " ++ quoted key)

private def isBuiltin (m : Memory) (key : String) : Bool :=
  ((m.class? key).map fun c => !c.own && c.home == "builtins").getD true

/-- Gives an attribute to a value. -/
def setAttributeOf (run : Run) (self : Value) (name : String) (v : Value) : Eval PUnit := do
  match self with
  | .class key =>
    if isBuiltin (← get) key then refuseClassChange key name
    else
      modify fun m => m.changeClass key fun c =>
        { c with attributes := Template.putNamed c.attributes name v }
  | self =>
    match ← thing? self with
    | some (.instance i) =>
      match ← callSpecial? run self "__setattr__" [.str name, v], ← setterOf i.key name with
      | some _, _ => return
      | none, some (some f) =>
        let _ ← run.call f (.ofList [self, v])
      | none, some none => propertyLacks i.key name "setter"
      | none, none => putAttribute self name v
    | some (.function f attributes) =>
      setThing self (.function f (Template.putNamed attributes name v))
    | some (.foreign) | some (.module _) | some (.above ..) => return
    | some _ => noAttribute (quoted self.kindName ++ " object") name
    | none => changePlain self name

/-- Takes an attribute away from a value. -/
def deleteAttributeOf (run : Run) (self : Value) (name : String) : Eval PUnit := do
  let m ← get
  match self with
  | .class key =>
    if isBuiltin m key then refuseClassChange key name
    else if ((m.class? key).bind fun c => c.attributes.lookup name).isNone then
      noAttribute ("type object " ++ quoted (m.className key)) name
    else
      modify fun m => m.changeClass key fun c =>
        { c with attributes := c.attributes.filter fun a => a.1 != name }
  | self =>
    match ← thing? self with
    | some (.instance i) =>
      match ← callSpecial? run self "__delattr__" [.str name], ← deleterOf i.key name with
      | some _, _ => return
      | none, some (some f) =>
        let _ ← run.call f (.ofList [self])
      | none, some none => propertyLacks i.key name "deleter"
      | none, none =>
        if (i.attributes.lookup name).isNone then
          noAttribute (quoted (m.className i.key) ++ " object") name
        else
          setThing self
            (.instance { i with attributes := i.attributes.filter fun a => a.1 != name })
    | some (.foreign) | some (.module _) => return
    | some _ => noAttribute (quoted self.kindName ++ " object") name
    | none => changePlain self name

end Stencil.Script
