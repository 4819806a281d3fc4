import Stencil.Model.Symbol
import Stencil.Source.Printer

/-!
The symbols a module declares. Classes are found in the module body and in class bodies, not
inside functions or nested statements; an alias of a callable type at module level is a delegate.
The order is that of the source, an enclosing class before the classes inside it.
-/
namespace Stencil.Model
open Stencil.Source

/-- A parsed module of a unit. -/
structure SourceModule where
  path : String
  name : String
  tree : Module
  project : String
  referenced : Bool := false

/-- The dotted name of an expression; calls and subscripts are looked through. -/
def dotted : Expr → String
  | .name _ id => id
  | .attribute _ value attr =>
    let before := dotted value
    if before == "" then attr else before ++ "." ++ attr
  | .call _ function _ _ => dotted function
  | .subscript _ value _ => dotted value
  | _ => ""

def lastName (name : String) : String := .ofList (lastSegment name.toList)

private def enumBases : List String := ["Enum", "IntEnum", "StrEnum", "Flag", "IntFlag"]
private def interfaceBases : List String := ["Protocol", "ABC"]

/-- The group of a class, by its bases and its metaclass. -/
def classKind (bases : List Expr) (keywords : List Keyword) : TypeKind :=
  let names := bases.map fun b => lastName (dotted b)
  if names.any enumBases.contains then .enum
  else if names.any interfaceBases.contains then .interface
  else if keywords.any fun
      | .mk _ (some "metaclass") value => lastName (dotted value) == "ABCMeta"
      | _ => false
    then .interface
  else .ordinary

/-- Whether an expression is a subscript of the callable type. -/
def isCallableAlias : Expr → Bool
  | .subscript _ value _ => lastName (dotted value) == "Callable"
  | _ => false

private def textOf : Option Expr → String
  | some e => e.text
  | none => ""

/-- A decorator that makes a function the other half of a property. -/
def isAccessorHalf (decorator : String) : Bool :=
  Text.endsWith decorator.toList ".setter".toList ||
    Text.endsWith decorator.toList ".deleter".toList

def functionMember (name : String) (returns : Option Expr) (decorators : List Expr) :
    List Member :=
  let names := decorators.map dotted
  if names.any isAccessorHalf then []
  else
    let simple := names.map lastName
    let isProperty := simple.contains "property" || simple.contains "cached_property"
    [{ name := name, kind := if isProperty then .property else .method,
       typeText := textOf returns, attributes := simple,
       isStatic := simple.contains "staticmethod" || simple.contains "classmethod" }]

/-- The members a statement of a class body declares. -/
def membersOf (fieldKind : MemberKind) : Stmt → List Member
  | .function _ _ name _ returns decorators _ => functionMember name returns decorators
  | .annotated _ (.name _ id) hint _ _ => [⟨id, fieldKind, hint.text, [], false⟩]
  | .assign _ targets _ => targets.flatMap fun
    | .name _ id => [⟨id, fieldKind, "", [], false⟩]
    | _ => []
  | _ => []

private def within (containing name : String) : String :=
  if containing == "" then name else containing ++ "." ++ name

mutual

/-- The types of a class statement: its own and those of the classes in its body. -/
def classTypes (m : SourceModule) (containing : String) : Stmt → List TypeSymbol
  | .class _ name bases keywords decorators body =>
    let kind := classKind bases keywords
    let fieldKind := if kind == .enum then .value else .field
    { name := name, modulePath := m.name, containing := containing, kind := kind,
      attributes := decorators.map dotted, bases := bases.map Expr.text,
      members := body.flatMap (membersOf fieldKind), sourcePath := m.path, project := m.project,
      referenced := m.referenced } :: nestedTypes m (within containing name) body
  | _ => []

def nestedTypes (m : SourceModule) (containing : String) : List Stmt → List TypeSymbol
  | [] => []
  | s :: rest => classTypes m containing s ++ nestedTypes m containing rest

end

private def delegate (m : SourceModule) (name : String) (value : Expr) : TypeSymbol :=
  { name := name, modulePath := m.name, kind := .delegate, signature := value.text,
    sourcePath := m.path, project := m.project, referenced := m.referenced }

/-- The types a statement at module level declares. -/
def statementTypes (m : SourceModule) : Stmt → List TypeSymbol
  | .assign _ [.name _ id] value => if isCallableAlias value then [delegate m id value] else []
  | .annotated _ (.name _ id) hint (some value) _ =>
    if lastName (dotted hint) == "TypeAlias" && isCallableAlias value
    then [delegate m id value] else []
  | s => classTypes m "" s

def moduleTypes (m : SourceModule) : List TypeSymbol := m.tree.flatMap (statementTypes m)

/-- Whether a filter keeps a module. -/
def Filter.keeps (f : Filter) (m : SourceModule) : Bool :=
  !(m.referenced && f.omitReferenced) && f.includes m.name

/-- The types of the kept modules, in their groups. -/
def extract (f : Filter) (modules : List SourceModule) : Groups :=
  .ofList ((modules.filter f.keeps).flatMap moduleTypes)

end Stencil.Model
