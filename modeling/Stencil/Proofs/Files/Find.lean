import Mathlib.Data.List.Basic
import Stencil.Files.Tree
import Stencil.Proofs.Files.Place

/-!
What is found below a directory. Every path that is found ends in a name with the suffix.
-/
namespace Stencil.Files

variable {t : Tree} {root p : Path} {suffix : String} {exclude : String → Bool}

/-- Names whose last one has a suffix. -/
def EndsIn (suffix : String) (names : List String) : Prop :=
  ∃ front last, names = front ++ [last] ∧ matchesSuffix suffix last = true

theorem EndsIn.append {names : List String} (h : EndsIn suffix names) (before : List String) :
    EndsIn suffix (before ++ names) := by
  obtain ⟨front, last, rfl, hlast⟩ := h
  exact ⟨before ++ front, last, (List.append_assoc ..).symm, hlast⟩

theorem mem_byName {α : Type} {xs : List (String × α)} {x : String × α} :
    x ∈ byName xs ↔ x ∈ xs := List.mem_mergeSort

theorem matches_of_ownFiles {entries : List (String × Node)} {name : String}
    (h : name ∈ ownFiles suffix entries) : matchesSuffix suffix name = true := by
  obtain ⟨e, he, rfl⟩ := List.mem_map.mp h
  exact (Bool.and_eq_true_iff.mp (List.mem_filter.mp he).2).2

mutual

theorem Node.find_endsIn (suffix : String) (exclude : String → Bool) (node : Node) :
    ∀ names ∈ node.find suffix exclude, EndsIn suffix names := by
  intro names h
  match node with
  | .file _ => simp [Node.find] at h
  | .dir entries =>
    rw [Node.find, List.mem_append] at h
    rcases h with hown | hbelow
    · obtain ⟨name, hname, rfl⟩ := List.mem_map.mp hown
      exact ⟨[], name, rfl, matches_of_ownFiles (List.mem_mergeSort.mp hname)⟩
    · obtain ⟨⟨n, found⟩, hfound, hn⟩ := List.mem_flatMap.mp hbelow
      obtain ⟨more, hmore, rfl⟩ := List.mem_map.mp hn
      exact (findBelow_endsIn suffix exclude entries _ (mem_byName.mp hfound) more hmore).append [n]

theorem findBelow_endsIn (suffix : String) (exclude : String → Bool)
    (entries : List (String × Node)) :
    ∀ e ∈ findBelow suffix exclude entries, ∀ names ∈ e.2, EndsIn suffix names := by
  intro e he names hn
  match entries with
  | [] => simp [findBelow] at he
  | (name, node) :: rest =>
    simp only [findBelow] at he
    split at he
    · rcases List.mem_cons.mp he with rfl | he
      · exact Node.find_endsIn suffix exclude node names hn
      · exact findBelow_endsIn suffix exclude rest e he names hn
    · exact findBelow_endsIn suffix exclude rest e he names hn

end

/-- What is found has a name with the suffix. -/
theorem Tree.name_of_mem_find (h : p ∈ t.find root suffix exclude) :
    matchesSuffix suffix p.name = true := by
  unfold Tree.find at h
  split at h
  · rename_i node _
    obtain ⟨names, hn, rfl⟩ := List.mem_map.mp h
    obtain ⟨front, last, hlast, hm⟩ :=
      (Node.find_endsIn suffix exclude node names hn).append root.names
    simpa [Path.name, hlast] using hm
  · cases h

theorem Tree.names_of_mem_find (h : p ∈ t.find root suffix exclude) : p.names ≠ [] := by
  unfold Tree.find at h
  split at h
  · rename_i node _
    obtain ⟨names, hn, rfl⟩ := List.mem_map.mp h
    obtain ⟨front, last, hlast, _⟩ :=
      (Node.find_endsIn suffix exclude node names hn).append root.names
    simp [hlast]
  · cases h

end Stencil.Files

/-!
Trees whose entries have names that lead to them: a name is one part of a path, and it does not lead
back. What is found in such a tree has only such names.
-/
namespace Stencil.Files

variable {t : Tree} {root p : Path} {node n : Node} {name suffix : String}
  {exclude : String → Bool} {entries : List (String × Node)}

/-- What an entry can be called. -/
def IsName (name : String) : Prop := Path.ofString name = ⟨.here, [name]⟩ ∧ name ≠ ".."

instance (name : String) : Decidable (IsName name) :=
  inferInstanceAs (Decidable (_ ∧ _))

theorem IsName.div (h : IsName name) (p : Path) : p / name = p.child name := by
  change p.join (Path.ofString name) = _
  rw [h.1]
  rfl

mutual

/-- All entries, here and below, have names of entries. -/
def Node.Proper : Node → Prop
  | .file _ => True
  | .dir entries => ProperBelow entries

def ProperBelow : List (String × Node) → Prop
  | [] => True
  | (name, node) :: rest => IsName name ∧ node.Proper ∧ ProperBelow rest

end

def Tree.Proper (t : Tree) : Prop := t.root.Proper

theorem ProperBelow.of_lookup (h : ProperBelow entries) (hl : entries.lookup name = some n) :
    IsName name ∧ n.Proper := by
  induction entries with
  | nil => simp at hl
  | cons e rest ih =>
    obtain ⟨x, c⟩ := e
    obtain ⟨hx, hc, hrest⟩ := h
    by_cases hn : name = x
    · subst hn
      rw [List.lookup_cons, beq_self_eq_true] at hl
      cases hl
      exact ⟨hx, hc⟩
    · rw [List.lookup_cons, beq_eq_false_iff_ne.mpr hn] at hl
      exact ih hrest hl

theorem ProperBelow.of_mem (h : ProperBelow entries) {e : String × Node} (he : e ∈ entries) :
    IsName e.1 := by
  induction entries with
  | nil => simp at he
  | cons x rest ih =>
    rcases List.mem_cons.mp he with rfl | he
    · exact h.1
    · exact ih h.2.2 he

/-- Whatever lies below has such entries again. -/
theorem Node.Proper.get? {names : List String} (h : node.Proper) (hg : node.get? names = some n) :
    n.Proper := by
  induction names generalizing node with
  | nil =>
    cases hg
    exact h
  | cons x rest ih =>
    cases node with
    | file => simp [Node.get?, child?] at hg
    | dir entries =>
      simp only [Node.get?, child?] at hg
      obtain ⟨c, hc, hg⟩ := Option.bind_eq_some_iff.mp hg
      exact ih (ProperBelow.of_lookup h hc).2 hg

mutual

theorem Node.Proper.find (suffix : String) (exclude : String → Bool) (node : Node)
    (h : node.Proper) : ∀ names ∈ node.find suffix exclude, ∀ x ∈ names, IsName x := by
  intro names hn x hx
  match node with
  | .file _ => simp [Node.find] at hn
  | .dir entries =>
    rw [Node.find, List.mem_append] at hn
    rcases hn with hown | hbelow
    · obtain ⟨name, hname, rfl⟩ := List.mem_map.mp hown
      obtain ⟨e, he, rfl⟩ := List.mem_map.mp (List.mem_mergeSort.mp hname)
      rw [List.mem_singleton.mp hx]
      exact ProperBelow.of_mem h (List.mem_filter.mp he).1
    · obtain ⟨⟨n, found⟩, hfound, hn⟩ := List.mem_flatMap.mp hbelow
      obtain ⟨more, hmore, rfl⟩ := List.mem_map.mp hn
      obtain ⟨hname, hall⟩ :=
        ProperBelow.findBelow suffix exclude entries h _ (mem_byName.mp hfound)
      rcases List.mem_cons.mp hx with rfl | hx
      · exact hname
      · exact hall more hmore x hx

theorem ProperBelow.findBelow (suffix : String) (exclude : String → Bool)
    (entries : List (String × Node)) (h : ProperBelow entries) :
    ∀ e ∈ findBelow suffix exclude entries,
      IsName e.1 ∧ ∀ names ∈ e.2, ∀ x ∈ names, IsName x := by
  intro e he
  match entries with
  | [] => simp [Stencil.Files.findBelow] at he
  | (name, node) :: rest =>
    obtain ⟨hname, hnode, hrest⟩ := h
    simp only [Stencil.Files.findBelow] at he
    split at he
    · rcases List.mem_cons.mp he with rfl | he
      · exact ⟨hname, Node.Proper.find suffix exclude node hnode⟩
      · exact ProperBelow.findBelow suffix exclude rest hrest e he
    · exact ProperBelow.findBelow suffix exclude rest hrest e he

end

/-- A path that is found goes on from the directory by names of entries. -/
theorem Tree.Proper.find (h : t.Proper) (hp : p ∈ t.find root suffix exclude) :
    ∃ names, p = ⟨root.anchor, root.names ++ names⟩ ∧ names ≠ [] ∧ ∀ x ∈ names, IsName x := by
  unfold Tree.find at hp
  split at hp
  · rename_i node hnode
    obtain ⟨names, hn, rfl⟩ := List.mem_map.mp hp
    obtain ⟨ns, hl⟩ := Tree.node_eq_ok hnode
    refine ⟨names, rfl, ?_, Node.Proper.find suffix exclude node
      (Node.Proper.get? h (Tree.locate_eq_node hl)) names hn⟩
    obtain ⟨front, last, rfl, _⟩ := Node.find_endsIn suffix exclude node names hn
    simp
  · cases hp

/-- The last name of what is found is the name of an entry. -/
theorem Tree.Proper.name_of_mem_find (h : t.Proper) (hp : p ∈ t.find root suffix exclude) :
    IsName p.name := by
  obtain ⟨names, rfl, hne, hall⟩ := h.find hp
  obtain ⟨front, last, rfl⟩ := (List.eq_nil_or_concat' names).resolve_left hne
  have hname : Path.name ⟨root.anchor, root.names ++ (front ++ [last])⟩ = last := by
    simp [Path.name]
  rw [hname]
  exact hall last (by simp)

/-- What is found below a resolved directory is resolved. -/
theorem Tree.Proper.resolved_of_mem_find (h : t.Proper) (hr : root.Resolved)
    (hp : p ∈ t.find root suffix exclude) : p.Resolved := by
  obtain ⟨names, rfl, _, hall⟩ := h.find hp
  refine ⟨hr.anchor, fun hm => ?_⟩
  rcases List.mem_append.mp hm with hm | hm
  · exact hr.plain hm
  · exact (hall _ hm).2 rfl

end Stencil.Files
