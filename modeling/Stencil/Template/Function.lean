import Stencil.Data.Plain

/-!
Functions that users add to templates, and the classes that hold them. A class inherits the
attributes of its bases in the order of its linearisation; its static and class functions become
template functions.
-/
namespace Stencil.Template

/-- What the body of a user function does with its arguments. -/
inductive FunctionBody where
  | upper
  | exclaim
  | tag
  | lowerFirst
  | echo
  | length
  | join
  | nothing
  | refuse
  deriving DecidableEq, Repr

/-- A function: the name its complaints use, its parameters, the class it is bound to. -/
structure UserFunction where
  shown : String
  params : List (String × Option Plain)
  body : FunctionBody
  /-- How many of its first parameters the body does not look at. -/
  skipped : Nat := 0
  /-- The class passed as the first argument, for class functions. -/
  bound : Option String := none

inductive AttributeKind where
  | static
  | classBound
  | instance_
  deriving DecidableEq, Repr

/-- What a class body binds a name to. -/
inductive Attribute where
  | function (kind : AttributeKind) (f : UserFunction)
  | value (v : Plain)

/-- A class. Its name tells it from others; the name that its functions see may be shorter. -/
structure UserClass where
  name : String
  shortName : String := name
  bases : List String := []
  attributes : List (String × Attribute) := []

namespace UserClass

/-- The names of a class and those it inherits from, the class itself first. -/
structure Linear where
  name : String
  order : List String

private def dropHead (name : String) (ls : List (List String)) : List (List String) :=
  ls.map fun l => if l.head? == some name then l.tail else l

/-- Merges orders: the next name is the first head that no tail holds. -/
private def merge : Nat → List (List String) → Option (List String)
  | 0, _ => some []
  | fuel + 1, ls =>
    let ls := ls.filter fun l => !l.isEmpty
    if ls.isEmpty then some []
    else match ls.findSome? fun l => l.head?.filter fun n => !ls.any fun m => m.tail.contains n with
      | none => none
      | some n => (merge fuel (dropHead n ls)).map (n :: ·)

/-- The linearisation of a class over those of its bases. -/
def linearise? (c : UserClass) (known : List Linear) : Option Linear :=
  let orders := c.bases.filterMap fun b => (known.find? fun l => l.name == b).map (·.order)
  let all := orders ++ [c.bases]
  (merge (all.flatten.length + 1) all).map fun rest => ⟨c.name, c.name :: rest⟩

/-- The linearisations of classes, each after its bases. -/
def linearisations (cs : List UserClass) : List Linear :=
  cs.foldl (fun known c => known ++ ((c.linearise? known).getD ⟨c.name, [c.name]⟩ :: [])) []

end UserClass

/-- User classes by name. -/
structure ClassTable where
  classes : List UserClass
  orders : List UserClass.Linear

namespace ClassTable

def ofList (cs : List UserClass) : ClassTable := ⟨cs, UserClass.linearisations cs⟩

def find? (t : ClassTable) (name : String) : Option UserClass :=
  t.classes.find? fun c => c.name == name

def order (t : ClassTable) (name : String) : List String :=
  ((t.orders.find? fun l => l.name == name).map (·.order)).getD [name]

/-- The classes a class looks an attribute up in, itself first. -/
def ancestors (t : ClassTable) (name : String) : List UserClass :=
  (t.order name).filterMap t.find?

/-- The attribute a class has under a name, its own or the first inherited one. -/
def attribute? (t : ClassTable) (name attr : String) : Option Attribute :=
  (t.ancestors name).findSome? fun c => c.attributes.lookup attr

end ClassTable

/-- What calling a name of a class reaches: a function or a plain value. -/
inductive TemplateFunction where
  | function (f : UserFunction)
  | value (v : Plain)

/-- Looks a name up on a class; a class function is bound to that class. -/
def ClassTable.lookup? (t : ClassTable) (name attr : String) : Option TemplateFunction :=
  (t.attribute? name attr).map fun
    | .function .classBound f =>
      .function { f with bound := some (((t.find? name).map (·.shortName)).getD name) }
    | .function _ f => .function f
    | .value v => .value v

private def isOffered : String × Attribute → Bool
  | (name, .function .static _) | (name, .function .classBound _) => !name.startsWith "_"
  | _ => false

/-- The names a class offers, from its farthest ancestor to itself. -/
def ClassTable.offeredNames (t : ClassTable) (name : String) : List String :=
  (t.ancestors name).reverse.flatMap fun c => (c.attributes.filter isOffered).map Prod.fst

/-- Puts a value under a name, which keeps the place it has. -/
def putNamed {α : Type} (entries : List (String × α)) (name : String) (a : α) :
    List (String × α) :=
  if entries.any fun e => e.1 == name then
    entries.map fun e => if e.1 == name then (name, a) else e
  else entries ++ [(name, a)]

theorem any_key_iff {α : Type} {entries : List (String × α)} {name : String} :
    (entries.any fun e => e.1 == name) = true ↔ name ∈ entries.map Prod.fst := by
  rw [List.any_eq_true, List.mem_map]
  exact exists_congr fun e => and_congr_right fun _ => beq_iff_eq

/-- A name that is put keeps its place, and a new one comes last. -/
theorem map_putNamed {α : Type} {entries : List (String × α)} {name : String} {a : α} :
    (putNamed entries name a).map Prod.fst =
      if name ∈ entries.map Prod.fst then entries.map Prod.fst
      else entries.map Prod.fst ++ [name] := by
  have hkeys : (entries.map fun e => if e.1 == name then (name, a) else e).map Prod.fst =
      entries.map Prod.fst := by
    rw [List.map_map]
    refine List.map_congr_left fun e _ => ?_
    by_cases he : e.1 = name
    · simp [he]
    · simp [he]
  unfold putNamed
  by_cases hm : name ∈ entries.map Prod.fst
  · rw [if_pos hm, if_pos (any_key_iff.mpr hm), hkeys]
  · rw [if_neg hm, if_neg fun h => hm (any_key_iff.mp h), List.map_append]
    rfl

theorem nodup_putNamed {α : Type} {entries : List (String × α)} {name : String} {a : α}
    (h : (entries.map Prod.fst).Nodup) : ((putNamed entries name a).map Prod.fst).Nodup := by
  rw [map_putNamed]
  split
  · exact h
  · rename_i hm
    refine List.nodup_append.mpr ⟨h, by simp, fun x hx y hy hxy => hm ?_⟩
    rw [← List.mem_singleton.mp hy, ← hxy]
    exact hx

/-- The functions that classes offer to templates. A later class wins a name, which keeps the
place where it came first. -/
def ClassTable.templateFunctions (t : ClassTable) (names : List String) :
    List (String × TemplateFunction) :=
  names.foldl (fun found name =>
    (t.offeredNames name).foldl (fun found attr =>
      match t.lookup? name attr with
      | some f => putNamed found attr f
      | none => found) found) []

end Stencil.Template
