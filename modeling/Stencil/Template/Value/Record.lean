import Stencil.Template.Value.Order

/-!
Records: the types and members of a model as templates see them. Every list of a record has a
place of its own, counted from the place of the record, so that a change to it is seen wherever
the record is.
-/
namespace Stencil.Template

namespace Value

/-- Texts as a list at a place. -/
private def strings (ss : List String) (place : Nat) : Value := list (ss.map str) (some place)

/-- The places that a member takes up: its own and that of its attributes. -/
private def memberSize : Nat := 2

/-- A member at a place. -/
def ofMember (m : Model.Member) (place : Nat) : Value :=
  record .member
    [("name", str m.name), ("kind", memberKind m.kind), ("type_name", str m.typeText),
      ("attributes", strings m.attributes (place + 1)), ("is_static", bool m.isStatic)]
    (some place)

/-- The places that a type takes up: its own, those of its three lists and of its members. -/
def typeSize (t : Model.TypeSymbol) : Nat := 4 + memberSize * t.members.length

/-- A type at a place. -/
def ofType (t : Model.TypeSymbol) (place : Nat) : Value :=
  let members := t.members.mapIdx fun i m => ofMember m (place + 4 + memberSize * i)
  record .type
    [("name", str t.name), ("namespace", str t.modulePath), ("containing_type", str t.containing),
      ("kind", typeKind t.kind), ("attributes", strings t.attributes (place + 1)),
      ("bases", strings t.bases (place + 2)), ("members", list members (some (place + 3))),
      ("signature", str t.signature), ("source_path", str t.sourcePath),
      ("project_name", str t.project), ("from_referenced", bool t.referenced)]
    (some place)

def ofTypes : List Model.TypeSymbol → Nat → List Value
  | [], _ => []
  | t :: rest, place => ofType t place :: ofTypes rest (place + typeSize t)

private def sizeOf (ts : List Model.TypeSymbol) : Nat := ts.foldl (fun n t => n + typeSize t) 0

/-- The places that the groups before one take up. -/
private def sizeBefore (c : Model.Combined) (kinds : List Model.TypeKind) : Nat :=
  kinds.foldl (fun n k => n + sizeOf (c.get k)) 0

/-- The types of a group. The groups lie one behind the other, from the first place on. -/
def typesOf (c : Model.Combined) (k : Model.TypeKind) : List Value :=
  ofTypes (c.get k) (sizeBefore c (Model.TypeKind.all.takeWhile (· != k)))

/-- How many places a model takes up. -/
def modelSize (c : Model.Combined) : Nat := sizeBefore c Model.TypeKind.all

mutual

/-- A copy whose lists, dicts and records are new. -/
def copied : Value → Value
  | list items _ => ofList (copiedAll items)
  | tuple items => tuple (copiedAll items)
  | dict entries _ => ofEntries (copiedEntries entries)
  | record kind fields _ => record kind (copiedFields fields) Option.none
  | v => v

def copiedAll : List Value → List Value
  | [] => []
  | v :: rest => copied v :: copiedAll rest

def copiedEntries : List (Value × Value) → List (Value × Value)
  | [] => []
  | (k, v) :: rest => (copied k, copied v) :: copiedEntries rest

def copiedFields : List (String × Value) → List (String × Value)
  | [] => []
  | (name, v) :: rest => (name, copied v) :: copiedFields rest

end

mutual

/-- Records as dicts of their fields; as plain data, kinds are their names. -/
def dumped (plain : Bool) : Value → Value
  | list items _ => ofList (dumpedAll plain items)
  | tuple items => if plain then ofList (dumpedAll plain items) else tuple (dumpedAll plain items)
  | dict entries _ => ofEntries (dumpedEntries plain entries)
  | record _ fields _ => ofEntries (dumpedFields plain fields)
  | typeKind k => if plain then str k.name else typeKind k
  | memberKind k => if plain then str k.name else memberKind k
  | v => v

def dumpedAll (plain : Bool) : List Value → List Value
  | [] => []
  | v :: rest => dumped plain v :: dumpedAll plain rest

def dumpedEntries (plain : Bool) : List (Value × Value) → List (Value × Value)
  | [] => []
  | (k, v) :: rest => (dumped plain k, dumped plain v) :: dumpedEntries plain rest

def dumpedFields (plain : Bool) : List (String × Value) → List (Value × Value)
  | [] => []
  | (name, v) :: rest => (str name, dumped plain v) :: dumpedFields plain rest

end

/-- The members of a record that are of one kind. What has no kind cannot be asked for it. -/
def membersOf (fields : List (String × Value)) (k : Model.MemberKind) : Outcome (List Value) := do
  let members := match fields.lookup "members" with
    | some (list items _) => items
    | _ => []
  members.filterM fun
    | record _ own _ => return match own.lookup "kind" with
      | some (memberKind l) => l == k
      | _ => false
    | missing m _ => failMissing m
    | v => raise .attribute (Text.quoted v.kindName ++ " object has no attribute 'kind'")

/-- The dotted name of a type: the parts that are not empty. -/
def fullName (fields : List (String × Value)) : String :=
  let parts := ["namespace", "containing_type", "name"].filterMap fun n =>
    (fields.lookup n).bind asText?
  Text.joinWith "." (parts.filter (· != ""))

private def anyCarries (name : String) : List Value → Outcome Bool
  | [] => .ok false
  | v :: rest =>
    match v with
    | missing m _ => failMissing m
    | v =>
      match v.asText? with
      | some s =>
        if Model.simpleName s == Model.simpleName name then .ok true else anyCarries name rest
      | Option.none =>
        raise .attribute (Text.quoted v.kindName ++ " object has no attribute 'rsplit'")

/-- Whether a record carries an attribute of a name. -/
def carries (fields : List (String × Value)) (name : String) : Outcome Bool :=
  match fields.lookup "attributes" with
  | some (list items _) => anyCarries name items
  | _ => .ok false

end Value
end Stencil.Template
