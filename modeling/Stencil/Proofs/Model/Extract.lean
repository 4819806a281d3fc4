import Mathlib.Data.List.Forall2
import Stencil.Model.Extract

/-!
What a filter does to the types of a unit. A filter looks at modules, before their types are read;
since a type carries the namespace of its module and whether the module is referenced, the filter
can as well look at the types afterwards. Filters made from namespaces know them as a set.
-/
namespace Stencil.Model
open Stencil.Source

variable {m : SourceModule} {ty : TypeSymbol} {f : Filter} {n path : String}

/-- A type carries what its module is known by. -/
structure TypeSymbol.From (m : SourceModule) (ty : TypeSymbol) : Prop where
  modulePath : ty.modulePath = m.name
  referenced : ty.referenced = m.referenced

mutual

theorem from_of_classTypes (m : SourceModule) (containing : String) :
    ∀ (s : Stmt), ∀ ty ∈ classTypes m containing s, ty.From m
  | .class _ name bases keywords decorators body, ty, h => by
    rw [classTypes] at h
    rcases List.mem_cons.mp h with rfl | h
    · exact ⟨rfl, rfl⟩
    · exact from_of_nestedTypes m _ body ty h
  | .expression .., _, h | .assign .., _, h | .annotated .., _, h | .augmented .., _, h
  | .function .., _, h | .return .., _, h | .raise .., _, h | .delete .., _, h | .import .., _, h
  | .importFrom .., _, h | .global .., _, h | .nonlocal .., _, h | .assertion .., _, h
  | .pass .., _, h | .leave .., _, h | .continue .., _, h | .branch .., _, h | .loop .., _, h
  | .each .., _, h | .context .., _, h | .attempt .., _, h | .choose .., _, h => by
    simp [classTypes] at h

theorem from_of_nestedTypes (m : SourceModule) (containing : String) :
    ∀ (ss : List Stmt), ∀ ty ∈ nestedTypes m containing ss, ty.From m
  | [], ty, h => by simp [nestedTypes] at h
  | s :: rest, ty, h => by
    rw [nestedTypes] at h
    rcases List.mem_append.mp h with h | h
    · exact from_of_classTypes m containing s ty h
    · exact from_of_nestedTypes m containing rest ty h

end

theorem from_of_statementTypes {s : Stmt} (h : ty ∈ statementTypes m s) : ty.From m := by
  unfold statementTypes at h
  split at h
  · split at h
    · rw [List.mem_singleton.mp h]
      exact ⟨rfl, rfl⟩
    · simp at h
  · split at h
    · rw [List.mem_singleton.mp h]
      exact ⟨rfl, rfl⟩
    · simp at h
  · exact from_of_classTypes m "" s ty h

theorem from_of_moduleTypes (h : ty ∈ moduleTypes m) : ty.From m := by
  obtain ⟨s, _, hs⟩ := List.mem_flatMap.mp h
  exact from_of_statementTypes hs

/-- Whether a filter would keep the module of a type. -/
def Filter.passes (f : Filter) (ty : TypeSymbol) : Bool :=
  !(ty.referenced && f.omitReferenced) && f.includes ty.modulePath

theorem Filter.passes_eq_keeps (f : Filter) (h : ty.From m) : f.passes ty = f.keeps m := by
  rw [passes, keeps, h.modulePath, h.referenced]

/-- The types of a module pass together. -/
theorem filter_moduleTypes (f : Filter) (m : SourceModule) :
    (moduleTypes m).filter f.passes = if f.keeps m then moduleTypes m else [] := by
  split
  · rename_i hk
    rw [List.filter_eq_self]
    intro ty h
    rw [f.passes_eq_keeps (from_of_moduleTypes h), hk]
  · rename_i hk
    rw [List.filter_eq_nil_iff]
    intro ty h
    rw [f.passes_eq_keeps (from_of_moduleTypes h)]
    exact hk

theorem flatMap_moduleTypes (f : Filter) (ms : List SourceModule) :
    (ms.filter f.keeps).flatMap moduleTypes = (ms.flatMap moduleTypes).filter f.passes := by
  induction ms with
  | nil => rfl
  | cons m rest ih =>
    rw [List.flatMap_cons, List.filter_append, filter_moduleTypes, ← ih]
    by_cases hk : f.keeps m = true
    · rw [List.filter_cons_of_pos hk, List.flatMap_cons, if_pos hk]
    · rw [List.filter_cons_of_neg hk, if_neg hk, List.nil_append]

theorem get_ofList (ts : List TypeSymbol) (k : TypeKind) :
    (Groups.ofList ts).get k = ts.filter fun t => t.kind == k := by
  cases k <;> rfl

theorem keeps_everything (m : SourceModule) : ({} : Filter).keeps m = true := by
  simp [Filter.keeps, Filter.includes]

/-- A group of a filtered unit is the group of the whole unit, filtered type by type. -/
theorem extract_get (f : Filter) (ms : List SourceModule) (k : TypeKind) :
    (extract f ms).get k = ((extract {} ms).get k).filter f.passes := by
  have hall : ms.filter ({} : Filter).keeps = ms :=
    List.filter_eq_self.mpr fun m _ => keeps_everything m
  rw [extract, extract, get_ofList, get_ofList, hall, flatMap_moduleTypes, List.filter_filter,
    List.filter_filter]
  congr 1
  funext ty
  exact Bool.and_comm _ _

/-! The project that a module counts for. -/

/-- A module that is read for another project. -/
def SourceModule.marked (project : String) (referenced : Bool) (m : SourceModule) : SourceModule :=
  { m with project := project, referenced := referenced }

/-- A type that another project declares. -/
def TypeSymbol.marked (project : String) (referenced : Bool) (ty : TypeSymbol) : TypeSymbol :=
  { ty with project := project, referenced := referenced }

variable {project : String} {referenced : Bool}

mutual

theorem classTypes_marked (m : SourceModule) (containing : String) :
    ∀ s : Stmt, classTypes (m.marked project referenced) containing s =
      (classTypes m containing s).map (TypeSymbol.marked project referenced)
  | .class _ name bases keywords decorators body => by
    rw [classTypes, classTypes, List.map_cons, nestedTypes_marked m _ body]
    rfl
  | .expression .. | .assign .. | .annotated .. | .augmented .. | .function .. | .return ..
  | .raise .. | .delete .. | .import .. | .importFrom .. | .global .. | .nonlocal ..
  | .assertion .. | .pass .. | .leave .. | .continue .. | .branch .. | .loop .. | .each ..
  | .context .. | .attempt .. | .choose .. => by
    simp [classTypes]

theorem nestedTypes_marked (m : SourceModule) (containing : String) :
    ∀ ss : List Stmt, nestedTypes (m.marked project referenced) containing ss =
      (nestedTypes m containing ss).map (TypeSymbol.marked project referenced)
  | [] => by simp [nestedTypes]
  | s :: rest => by
    rw [nestedTypes, nestedTypes, List.map_append, classTypes_marked m containing s,
      nestedTypes_marked m containing rest]

end

theorem statementTypes_marked (m : SourceModule) (s : Stmt) :
    statementTypes (m.marked project referenced) s =
      (statementTypes m s).map (TypeSymbol.marked project referenced) := by
  unfold statementTypes
  split
  · split <;> rfl
  · split <;> rfl
  · exact classTypes_marked m "" s

/-- The types of a module are the same for another project, but for its name and whether they are
referenced. -/
theorem moduleTypes_marked (m : SourceModule) : moduleTypes (m.marked project referenced) =
    (moduleTypes m).map (TypeSymbol.marked project referenced) := by
  unfold moduleTypes
  rw [List.map_flatMap]
  exact List.flatMap_congr fun s _ => statementTypes_marked m s

theorem keeps_marked (hf : f.omitReferenced = false) (m : SourceModule) :
    f.keeps (m.marked project referenced) = f.keeps m := by
  simp [Filter.keeps, hf, SourceModule.marked]

theorem flatMap_marked (ms : List SourceModule) :
    (ms.map (SourceModule.marked project referenced)).flatMap moduleTypes =
      (ms.flatMap moduleTypes).map (TypeSymbol.marked project referenced) := by
  rw [List.flatMap_map, List.map_flatMap]
  exact List.flatMap_congr fun m _ => moduleTypes_marked m

/-- A filter that does not look at references treats the modules alike. -/
theorem extract_marked (hf : f.omitReferenced = false) (ms : List SourceModule) (k : TypeKind) :
    (extract f (ms.map (SourceModule.marked project referenced))).get k =
      ((extract f ms).get k).map (TypeSymbol.marked project referenced) := by
  have hkept : (ms.map (SourceModule.marked project referenced)).filter f.keeps =
      (ms.filter f.keeps).map (SourceModule.marked project referenced) := by
    rw [List.filter_map]
    congr 1
    exact List.filter_congr fun m _ => keeps_marked hf m
  rw [extract, extract, get_ofList, get_ofList, hkept, flatMap_marked, List.filter_map]
  rfl

/-! Namespaces. -/

/-- A namespace without the dots around it. -/
def stripped (space : String) : String := .ofList (Text.trimBy (· == '.') space.toList)

/-- A path is a namespace or lies below it. -/
def Nested (space path : String) : Prop :=
  path = space ∨ space.toList ++ ['.'] <+: path.toList

theorem covers_iff : Filter.covers n path = true ↔ Nested n path := by
  simp [Filter.covers, Nested, Text.startsWith]

theorem add_omitReferenced (f : Filter) (space : String) :
    (f.add space).omitReferenced = f.omitReferenced := by
  unfold Filter.add
  dsimp only
  split <;> rfl

/-- A call adds its namespace, unless nothing is left of it or it is there. -/
theorem namespaces_add (f : Filter) (space : String) : (f.add space).namespaces =
    if stripped space = "" ∨ stripped space ∈ f.namespaces then f.namespaces
    else f.namespaces ++ [stripped space] := by
  have hadd : f.add space = if stripped space == "" || f.namespaces.contains (stripped space) then f
      else { f with namespaces := f.namespaces ++ [stripped space] } := rfl
  rw [hadd]
  simp only [Bool.or_eq_true, beq_iff_eq, List.contains_iff_mem]
  split <;> rfl

theorem mem_add (f : Filter) (space : String) :
    n ∈ (f.add space).namespaces ↔ n ∈ f.namespaces ∨ n ≠ "" ∧ stripped space = n := by
  rw [namespaces_add]
  split
  · rename_i h
    constructor
    · exact Or.inl
    · rintro (hn | ⟨hne, rfl⟩)
      · exact hn
      · exact h.resolve_left hne
  · rename_i h
    rw [List.mem_append, List.mem_singleton]
    constructor
    · rintro (hn | rfl)
      · exact Or.inl hn
      · exact Or.inr ⟨fun hempty => h (Or.inl hempty), rfl⟩
    · rintro (hn | ⟨_, rfl⟩)
      · exact Or.inl hn
      · exact Or.inr rfl

theorem includes_iff_nested (f : Filter) (path : String) : f.includes path = true ↔
    f.namespaces = [] ∨ ∃ n ∈ f.namespaces, Nested n path := by
  simp only [Filter.includes, Bool.or_eq_true, List.isEmpty_iff, List.any_eq_true, covers_iff]

theorem foldl_add_omitReferenced (spaces : List String) (f : Filter) :
    (spaces.foldl Filter.add f).omitReferenced = f.omitReferenced := by
  induction spaces generalizing f with
  | nil => rfl
  | cons space rest ih => rw [List.foldl_cons, ih, add_omitReferenced]

theorem mem_foldl_add (spaces : List String) (f : Filter) :
    n ∈ (spaces.foldl Filter.add f).namespaces ↔
      n ∈ f.namespaces ∨ n ≠ "" ∧ ∃ space ∈ spaces, stripped space = n := by
  induction spaces generalizing f with
  | nil => simp
  | cons space rest ih =>
    simp only [List.foldl_cons, ih, mem_add, List.mem_cons, exists_eq_or_imp]
    rw [or_assoc, ← and_or_left]

end Stencil.Model
