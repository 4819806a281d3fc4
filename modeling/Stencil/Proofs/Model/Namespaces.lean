import Mathlib.Data.List.Induction
import Stencil.Proofs.BreadthFirst
import Stencil.Proofs.Model.Extract
import Stencil.Proofs.Text

/-!
Namespaces as lists of names. A filter is made by calls that each name a namespace; it keeps the
different ones in the order of their first call. A module path is let in where the names of a kept
namespace stand at its beginning, so what is let in depends on the calls as a set, and behind the
first namespace every further call can only let in more.
-/
namespace Stencil.Model
open Stencil.Text

variable {f f' : Filter} {calls calls' : List String} {space kept path : String}

/-- The names between the dots of a namespace or a module path. -/
def components (path : String) : List (List Char) := splitOnChar '.' path.toList

/-- What is left of a namespace without the dots around it. -/
structure Strips (space kept : String) : Prop where
  around : ∃ before after, space.toList = before ++ kept.toList ++ after ∧
    ∀ c ∈ before ++ after, c = '.'
  first : kept.toList.head? ≠ some '.'
  last : kept.toList.getLast? ≠ some '.'

/-- The namespaces that calls name, each where it is named first. -/
def namespacesOf (calls : List String) : List String :=
  ((calls.map stripped).filter (· ≠ "")).eraseDups

/-- The filter that calls make, one after the other. -/
def filterOf (omitted : Bool) (calls : List String) : Filter :=
  calls.foldl Filter.add ⟨omitted, []⟩

/-- What a filter keeps of the calls that made it, and what it lets in. -/
structure Keeps (calls : List String) (f : Filter) : Prop where
  stored : f.namespaces = namespacesOf calls
  once : f.namespaces.Nodup
  bare : ∀ n ∈ f.namespaces, n ≠ "" ∧ Strips n n
  includes : ∀ path, f.includes path = true ↔
    f.namespaces = [] ∨ ∃ n ∈ f.namespaces, components n <+: components path

/-! The dots around a namespace. -/

theorem strips_stripped (space : String) : Strips space (stripped space) where
  around := by
    obtain ⟨before, after, hsplit, hall⟩ := trimBy_split (· == '.') space.toList
    exact ⟨before, after, by simpa [stripped] using hsplit, by simpa using hall⟩
  first h := by
    have hdot := trimBy_head (by simpa [stripped] using h)
    simp at hdot
  last h := by
    have hdot := trimBy_getLast (by simpa [stripped] using h)
    simp at hdot

theorem Strips.self (h : Strips space kept) : Strips kept kept where
  around := ⟨[], [], by simp, by simp⟩
  first := h.first
  last := h.last

theorem Strips.stripped_eq (h : Strips space space) : stripped space = space := by
  rw [stripped, trimBy_eq_self, String.ofList_toList]
  · intro c hc
    simpa using fun hdot => h.first (by rw [hc, hdot])
  · intro c hc
    simpa using fun hdot => h.last (by rw [hc, hdot])

/-! Calls. -/

theorem mem_namespacesOf {n : String} :
    n ∈ namespacesOf calls ↔ n ≠ "" ∧ ∃ c ∈ calls, stripped c = n := by
  simp only [namespacesOf, List.mem_eraseDups, List.mem_filter, List.mem_map, decide_eq_true_eq]
  exact and_comm

/-- One more call names one more namespace, unless nothing is left of it or it was named before. -/
theorem namespacesOf_concat (calls : List String) (space : String) :
    namespacesOf (calls ++ [space]) =
    if stripped space = "" ∨ stripped space ∈ namespacesOf calls then namespacesOf calls
    else namespacesOf calls ++ [stripped space] := by
  unfold namespacesOf
  rw [List.map_append, List.filter_append, List.map_singleton]
  by_cases hempty : stripped space = ""
  · rw [if_pos (Or.inl hempty), List.filter_cons_of_neg (by simp [hempty]), List.filter_nil,
      List.append_nil]
  · rw [List.filter_cons_of_pos (by simp [hempty]), List.filter_nil]
    split
    · rename_i h
      exact eraseDups_concat_of_mem (List.mem_eraseDups.mp (h.resolve_left hempty))
    · rename_i h
      exact eraseDups_concat_of_not_mem fun hmem => h (Or.inr (List.mem_eraseDups.mpr hmem))

theorem filterOf_concat (omitted : Bool) (calls : List String) (space : String) :
    filterOf omitted (calls ++ [space]) = (filterOf omitted calls).add space := List.foldl_concat ..

theorem namespaces_filterOf (omitted : Bool) (calls : List String) :
    (filterOf omitted calls).namespaces = namespacesOf calls := by
  induction calls using List.reverseRecOn with
  | nil => rfl
  | append_singleton calls space ih =>
    rw [filterOf_concat, namespaces_add, ih, namespacesOf_concat]

/-! Module paths. -/

theorem nested_iff_components : Nested space path ↔ components space <+: components path := by
  rw [components, components, splitOnChar_prefix_iff, Nested, String.toList_inj]

theorem includes_iff (f : Filter) (path : String) : f.includes path = true ↔
    f.namespaces = [] ∨ ∃ n ∈ f.namespaces, components n <+: components path := by
  simp only [includes_iff_nested, nested_iff_components]

theorem keeps_filterOf (omitted : Bool) (calls : List String) :
    Keeps calls (filterOf omitted calls) where
  stored := namespaces_filterOf omitted calls
  once := by
    rw [namespaces_filterOf]
    exact nodup_eraseDups _
  bare n hn := by
    rw [namespaces_filterOf, mem_namespacesOf] at hn
    obtain ⟨hne, c, _, rfl⟩ := hn
    exact ⟨hne, (strips_stripped c).self⟩
  includes := includes_iff _

/-- Filters whose calls name the same let in the same. -/
theorem Keeps.includes_congr (h : Keeps calls f) (h' : Keeps calls' f')
    (hsame : ∀ c, c ∈ calls ↔ c ∈ calls') (path : String) : f.includes path = f'.includes path := by
  have hmem : ∀ n, n ∈ f.namespaces ↔ n ∈ f'.namespaces := by
    intro n
    simp only [h.stored, h'.stored, mem_namespacesOf, hsame]
  rw [Bool.eq_iff_iff, h.includes, h'.includes]
  simp only [List.eq_nil_iff_forall_not_mem, hmem]

/-- Behind the first namespace, a call lets in what was let in before. -/
theorem includes_add (hf : f.namespaces ≠ []) (space : String) (h : f.includes path = true) :
    (f.add space).includes path = true := by
  rw [includes_iff] at h ⊢
  obtain ⟨n, hn, hprefix⟩ := h.resolve_left hf
  exact .inr ⟨n, (mem_add f space).mpr (.inl hn), hprefix⟩

/-- More calls let in what was let in before. -/
theorem includes_foldl_add (hf : f.namespaces ≠ []) (more : List String)
    (h : f.includes path = true) : (more.foldl Filter.add f).includes path = true := by
  induction more generalizing f with
  | nil => exact h
  | cons space rest ih =>
    refine ih (fun hnil => ?_) (includes_add hf space h)
    obtain ⟨n, hn⟩ := List.exists_mem_of_ne_nil _ hf
    exact List.not_mem_nil (hnil ▸ (mem_add f space).mpr (.inl hn))

/-- A filter that is made by calls keeps what they name, without the dots around it, and lets in the
module paths that begin with it. What it lets in hangs on the calls as a set, and once there is
something that it keeps, more calls only add to it. -/
theorem filterOf_keeps (omitted : Bool) (calls : List String) :
    (∀ space, Strips space (stripped space)) ∧ Keeps calls (filterOf omitted calls) ∧
    (∀ calls', (∀ c, c ∈ calls' ↔ c ∈ calls) → ∀ omitted' path,
      (filterOf omitted' calls').includes path = (filterOf omitted calls).includes path) ∧
    ((filterOf omitted calls).namespaces ≠ [] → ∀ more path,
      (filterOf omitted calls).includes path = true →
        (filterOf omitted (calls ++ more)).includes path = true) := by
  refine ⟨strips_stripped, keeps_filterOf omitted calls, ?_, ?_⟩
  · intro calls' hsame omitted' path
    exact (keeps_filterOf omitted' calls').includes_congr (keeps_filterOf omitted calls) hsame path
  · intro hne more path h
    rw [filterOf, List.foldl_append]
    exact includes_foldl_add hne more h

/-! An example: a namespace that is named twice, with dots around it, and dots alone. -/

def visits : List String := [".app.models.", "shop", "app.models", "..."]

theorem filterOf_visits : (filterOf false visits).namespaces = ["app.models", "shop"] ∧
    (filterOf false visits).includes "app.models.extra" = true ∧
    (filterOf true visits.reverse).includes "app.models.extra" = true ∧
    (filterOf false (visits ++ ["lib"])).includes "app.models.extra" = true := by
  obtain ⟨_, hkeeps, hsame, hgrows⟩ := filterOf_keeps false visits
  have hstored : (filterOf false visits).namespaces = ["app.models", "shop"] := by
    rw [hkeeps.stored]
    decide +kernel
  have hin : (filterOf false visits).includes "app.models.extra" = true :=
    (hkeeps.includes _).mpr (.inr ⟨"app.models", by simp [hstored], by decide +kernel⟩)
  refine ⟨hstored, hin, ?_, hgrows (by simp [hstored]) ["lib"] _ hin⟩
  rw [hsame visits.reverse (fun c => List.mem_reverse), hin]

end Stencil.Model
