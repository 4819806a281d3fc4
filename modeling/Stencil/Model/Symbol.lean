import Stencil.Settings.Problem
import Stencil.Text.Words

/-!
Which modules contribute symbols. A namespace keeps its own module and those nested below it;
without namespaces every module is kept.
-/
namespace Stencil.Model
open Stencil.Text

structure Filter where
  omitReferenced : Bool := false
  namespaces : List String := []
  deriving DecidableEq, Repr

namespace Filter

private def isDot (c : Char) : Bool := c == '.'

/-- Adds a namespace without the dots around it, unless nothing is left or it is there. -/
def add (f : Filter) (space : String) : Filter :=
  let space := String.ofList (trimBy isDot space.toList)
  if space == "" || f.namespaces.contains space then f
  else { f with namespaces := f.namespaces ++ [space] }

/-- Whether a module path is a namespace or lies below it. -/
def covers (space path : String) : Bool :=
  path == space || startsWith path.toList (space.toList ++ ['.'])

def includes (f : Filter) (path : String) : Bool :=
  f.namespaces.isEmpty || f.namespaces.any fun space => covers space path

end Filter
/-!
The symbols a template sees: types with their members, in four groups. An attribute is the name
of a decorator; names of attributes are compared without qualification and without one trailing
suffix.
-/

/-- Which group a type belongs to. -/
inductive TypeKind where
  | ordinary | interface | enum | delegate
  deriving DecidableEq, Repr

inductive MemberKind where
  | method | property | field | value
  deriving DecidableEq, Repr

structure Member where
  name : String
  kind : MemberKind
  typeText : String := ""
  attributes : List String := []
  isStatic : Bool := false
  deriving DecidableEq, Repr

structure TypeSymbol where
  name : String
  modulePath : String := ""
  containing : String := ""
  kind : TypeKind
  attributes : List String := []
  bases : List String := []
  members : List Member := []
  signature : String := ""
  sourcePath : String := ""
  project : String := ""
  referenced : Bool := false
  deriving DecidableEq, Repr

/-- The part of a dotted name after its last dot. -/
def lastSegment (cs : List Char) : List Char := (cs.reverse.takeWhile (· != '.')).reverse

private def attributeSuffix : List Char := "Attribute".toList

/-- The last segment without the suffix, unless it is the suffix alone. -/
def simpleName (name : String) : List Char :=
  let cs := lastSegment name.toList
  if endsWith cs attributeSuffix && cs != attributeSuffix
  then cs.take (cs.length - attributeSuffix.length) else cs

def hasAttribute (attributes : List String) (name : String) : Bool :=
  attributes.any fun a => simpleName a == simpleName name

namespace TypeSymbol

def fullName (t : TypeSymbol) : String :=
  joinWith "." ([t.modulePath, t.containing, t.name].filter (· != ""))

def membersOf (t : TypeSymbol) (kind : MemberKind) : List Member :=
  t.members.filter fun m => m.kind == kind

end TypeSymbol

/-- Types in their four groups, each in order. -/
structure Groups where
  classes : List TypeSymbol := []
  interfaces : List TypeSymbol := []
  enums : List TypeSymbol := []
  delegates : List TypeSymbol := []
  deriving DecidableEq, Repr

namespace Groups

def get (g : Groups) : TypeKind → List TypeSymbol
  | .ordinary => g.classes
  | .interface => g.interfaces
  | .enum => g.enums
  | .delegate => g.delegates

def ofList (ts : List TypeSymbol) : Groups :=
  let only (k : TypeKind) := ts.filter fun t => t.kind == k
  ⟨only .ordinary, only .interface, only .enum, only .delegate⟩

def listing (g : Groups) : String :=
  let part (name : String) (ts : List TypeSymbol) := name ++ "=" ++ ofNat ts.length
  "CodeModel(" ++ joinWith ", " [part "classes" g.classes, part "interfaces" g.interfaces,
    part "enums" g.enums, part "delegates" g.delegates] ++ ")"

end Groups
/-!
Several models seen as one, with what they hold at one moment.
-/

/-- A model that a combined model reads. A live source hands out its own lists, so that a change
to one is a change to the source; a fixed source hands out copies. -/
structure ModelSource where
  live : Bool
  groups : Groups
  deriving DecidableEq, Repr

structure Combined where
  sources : List ModelSource
  deriving DecidableEq, Repr

namespace Combined

def ofGroups (gs : List Groups) : Combined := ⟨gs.map fun g => ⟨false, g⟩⟩

def get (c : Combined) (k : TypeKind) : List TypeSymbol :=
  c.sources.flatMap fun s => s.groups.get k

def groups (c : Combined) : Groups :=
  ⟨c.get .ordinary, c.get .interface, c.get .enum, c.get .delegate⟩

def sourceCount (c : Combined) : Nat := c.sources.length

end Combined
end Stencil.Model

/-!
Types and members from the fields of a record. What a field may not hold is told as a problem;
unknown fields are ignored.
-/
namespace Stencil.Model
open Stencil.Settings

def TypeKind.name : TypeKind → String
  | .ordinary => "class"
  | .interface => "interface"
  | .enum => "enum"
  | .delegate => "delegate"

def MemberKind.name : MemberKind → String
  | .method => "method"
  | .property => "property"
  | .field => "field"
  | .value => "value"

def TypeKind.all : List TypeKind := [.ordinary, .interface, .enum, .delegate]
def MemberKind.all : List MemberKind := [.method, .property, .field, .value]

def Member.ofFields (fs : Fields) : Checked Member :=
  Member.mk <$> required fs "name" text
    <*> required fs "kind" (choice (MemberKind.all.map fun k => (k.name, k)))
    <*> optional fs "type_name" "" text
    <*> optional fs "attributes" [] (list text)
    <*> optional fs "is_static" false flag

private def memberRecord : Plain → Checked Member
  | .dict fs => Member.ofFields fs
  | _ => .fail (.record "MemberDescriptor")

def TypeSymbol.ofFields (fs : Fields) : Checked TypeSymbol :=
  TypeSymbol.mk <$> required fs "name" text
    <*> optional fs "namespace" "" text
    <*> optional fs "containing_type" "" text
    <*> required fs "kind" (choice (TypeKind.all.map fun k => (k.name, k)))
    <*> optional fs "attributes" [] (list text)
    <*> optional fs "bases" [] (list text)
    <*> optional fs "members" [] (list memberRecord)
    <*> optional fs "signature" "" text
    <*> optional fs "source_path" "" text
    <*> optional fs "project_name" "" text
    <*> optional fs "from_referenced" false flag

/-- A filter from the fields of a record; its namespaces are kept as they are. -/
def Filter.ofFields (fs : Fields) : Checked Filter :=
  Filter.mk <$> optional fs "omit_symbols_from_referenced_assemblies" false flag
    <*> optional fs "namespaces" [] (list text)

end Stencil.Model
