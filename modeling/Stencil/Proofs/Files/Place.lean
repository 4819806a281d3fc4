import Mathlib.Data.List.Nodup
import Mathlib.Data.List.Perm.Subperm
import Stencil.Files.Tree

/-!
Where paths lead. A path that is followed from the root of a tree ends at a node or at a free name
in a directory, and what it ends at can be looked up by names alone. A path in resolved form holds
no double dots, so it leads along its own names, and two of them lead to different places. The
files of a tree are counted by the places they lie at.
-/
namespace Stencil.Files

namespace Path

/-- An absolute path without double dots, as resolving gives it. -/
structure Resolved (p : Path) : Prop where
  anchor : p.anchor = .root
  plain : ".." ∉ p.names

theorem collapse_eq_self {names : List String} (h : ".." ∉ names) : collapse names = names := by
  have main : ∀ (names back : List String), ".." ∉ names →
      names.foldl (fun back n => if n == ".." then back.tail else n :: back) back =
        names.reverse ++ back := by
    intro names
    induction names with
    | nil => intro back _; rfl
    | cons n rest ih =>
      intro back hn
      simp only [List.mem_cons, not_or] at hn
      rw [List.foldl_cons, ih _ hn.2]
      simp [Ne.symm hn.1]
  rw [collapse, main names [] h]
  simp

theorem not_mem_collapse (names : List String) : ".." ∉ collapse names := by
  have main : ∀ (names back : List String), ".." ∉ back →
      ".." ∉ names.foldl (fun back n => if n == ".." then back.tail else n :: back) back := by
    intro names
    induction names with
    | nil => intro back hb; exact hb
    | cons n rest ih =>
      intro back hb
      rw [List.foldl_cons]
      apply ih
      split
      · exact fun h => hb (List.mem_of_mem_tail h)
      · rename_i hn
        simp only [List.mem_cons, not_or]
        exact ⟨fun h => hn (by simp [← h]), hb⟩
  rw [collapse, List.mem_reverse]
  exact main names [] (by simp)

theorem resolved_resolve (here p : Path) : (resolve here p).Resolved :=
  ⟨rfl, not_mem_collapse _⟩

theorem Resolved.resolve_eq {p : Path} (h : p.Resolved) (here : Path) : resolve here p = p := by
  have habs : p.absolute = true := by simp [absolute, h.anchor]
  obtain ⟨anchor, names⟩ := p
  cases h.anchor
  simp [resolve, join, habs, collapse_eq_self h.plain]

theorem Resolved.eq_of_names {p q : Path} (hp : p.Resolved) (hq : q.Resolved)
    (h : p.names = q.names) : p = q := by
  obtain ⟨_, _⟩ := p
  obtain ⟨_, _⟩ := q
  cases hp.anchor
  cases hq.anchor
  cases h
  rfl

end Path

namespace Node

theorem get?_append (node : Node) (xs ys : List String) :
    node.get? (xs ++ ys) = (node.get? xs).bind fun n => n.get? ys := by
  induction xs generalizing node with
  | nil => simp [get?]
  | cons x xs ih =>
    simp only [List.cons_append, get?]
    cases node.child? x with
    | none => rfl
    | some c => exact ih c

theorem get?_concat (node : Node) (xs : List String) (x : String) :
    node.get? (xs ++ [x]) = (node.get? xs).bind fun n => n.child? x := by
  rw [get?_append]
  simp [get?]

end Node

mutual

/-- The places of the files of a node, by names from there. -/
def Node.places : Node → List (List String)
  | .file _ => [[]]
  | .dir entries => placesBelow entries

def placesBelow : List (String × Node) → List (List String)
  | [] => []
  | (name, node) :: rest => node.places.map (name :: ·) ++ placesBelow rest

end

mutual

theorem Node.length_places : ∀ node : Node, node.places.length = node.fileCount
  | .file _ => rfl
  | .dir entries => by
    simp only [Node.places, Node.fileCount]
    exact length_placesBelow entries

theorem length_placesBelow : ∀ entries, (placesBelow entries).length = countFiles entries
  | [] => rfl
  | (name, node) :: rest => by
    simp only [placesBelow, countFiles, List.length_append, List.length_map]
    rw [node.length_places, length_placesBelow rest]

end

theorem mem_placesBelow {entries : List (String × Node)} {name : String} {c : Node}
    {names : List String} (h : entries.lookup name = some c) (hc : names ∈ c.places) :
    name :: names ∈ placesBelow entries := by
  induction entries with
  | nil => simp at h
  | cons e rest ih =>
    obtain ⟨n, node⟩ := e
    simp only [placesBelow, List.mem_append, List.mem_map]
    by_cases hn : name = n
    · subst n
      simp only [List.lookup_cons, beq_self_eq_true, Option.some.injEq] at h
      subst c
      exact Or.inl ⟨names, hc, rfl⟩
    · simp only [List.lookup_cons, beq_eq_false_iff_ne.mpr hn] at h
      exact Or.inr (ih h)

theorem Node.mem_places {names : List String} :
    ∀ {node : Node} {d : Data}, node.get? names = some (.file d) → names ∈ node.places := by
  induction names with
  | nil =>
    intro node d h
    cases h
    simp [places]
  | cons name rest ih =>
    intro node d h
    cases node with
    | file => simp [get?, child?] at h
    | dir entries =>
      simp only [get?, child?] at h
      obtain ⟨c, hc, h⟩ := Option.bind_eq_some_iff.mp h
      exact mem_placesBelow hc (ih h)

namespace Tree

/-- Trees with the same working directory resolve paths alike. -/
theorem resolve_congr {t t' : Tree} (h : t'.here = t.here) (p : Path) :
    t'.resolve p = t.resolve p := by
  rw [resolve, resolve, h]

/-- What a path ends at is what its names lead to. -/
theorem step_eq_node {root node n : Node} {back names ns : List String}
    (hb : root.get? back.reverse = some node)
    (h : step root back node names = .ok (.node ns n)) : root.get? ns = some n := by
  induction names generalizing back node with
  | nil =>
    simp only [step, Except.ok.injEq, Place.node.injEq] at h
    obtain ⟨rfl, rfl⟩ := h
    exact hb
  | cons name rest ih =>
    simp only [step] at h
    split at h
    · cases h
    · split at h
      · split at h
        · rename_i up hu
          exact ih hu h
        · cases h
      · split at h
        · cases h
        · split at h
          · rename_i c hc
            refine ih ?_ h
            rw [List.reverse_cons, Node.get?_concat, hb]
            exact hc
          · split at h <;> cases h

/-- A free name is one that its directory does not have. -/
theorem step_eq_free {root node : Node} {back names parent : List String} {name : String}
    (hb : root.get? back.reverse = some node)
    (h : step root back node names = .ok (.free parent name)) :
    ∃ entries, root.get? parent = some (.dir entries) ∧ entries.lookup name = none := by
  induction names generalizing back node with
  | nil => simp [step] at h
  | cons first rest ih =>
    simp only [step] at h
    split at h
    · cases h
    · rename_i hdir
      split at h
      · split at h
        · rename_i up hu
          exact ih hu h
        · cases h
      · split at h
        · cases h
        · split at h
          · rename_i c hc
            refine ih ?_ h
            rw [List.reverse_cons, Node.get?_concat, hb]
            exact hc
          · rename_i hc
            split at h
            · simp only [Except.ok.injEq, Place.free.injEq] at h
              obtain ⟨rfl, rfl⟩ := h
              cases node with
              | file => simp [Node.isDir] at hdir
              | dir entries => exact ⟨entries, hb, hc⟩
            · cases h

/-- Without double dots a path leads along its own names. -/
theorem step_plain {root node n : Node} {back names ns : List String} (hp : ".." ∉ names)
    (h : step root back node names = .ok (.node ns n)) : ns = back.reverse ++ names := by
  induction names generalizing back node with
  | nil =>
    simp only [step, Except.ok.injEq, Place.node.injEq] at h
    simp [h.1]
  | cons name rest ih =>
    simp only [List.mem_cons, not_or] at hp
    simp only [step, beq_iff_eq, Ne.symm hp.1, if_false] at h
    split at h
    · cases h
    · split at h
      · cases h
      · split at h
        · simpa using ih hp.2 h
        · split at h <;> cases h

theorem locate_eq_node {t : Tree} {p : Path} {ns : List String} {n : Node}
    (h : t.locate p = .ok (.node ns n)) : t.root.get? ns = some n :=
  step_eq_node rfl h

theorem locate_eq_free {t : Tree} {p : Path} {parent : List String} {name : String}
    (h : t.locate p = .ok (.free parent name)) :
    ∃ entries, t.root.get? parent = some (.dir entries) ∧ entries.lookup name = none :=
  step_eq_free rfl h

theorem node_eq_ok {t : Tree} {p : Path} {n : Node} (h : t.node p = .ok n) :
    ∃ ns, t.locate p = .ok (.node ns n) := by
  simp only [node] at h
  split at h
  · rename_i ns m hl
    cases h
    exact ⟨ns, hl⟩
  · cases h
  · cases h

theorem get?_of_node {t : Tree} {p : Path} {n : Node} (hp : p.Resolved) (h : t.node p = .ok n) :
    t.root.get? p.names = some n := by
  obtain ⟨ns, hl⟩ := node_eq_ok h
  have habs : p.absolute = true := by simp [Path.absolute, hp.anchor]
  have hns : ns = p.names := by
    simp only [locate, habs, if_true] at hl
    simpa using step_plain hp.plain hl
  rw [← hns]
  exact locate_eq_node hl

/-- There are no more resolved paths of files than files. -/
theorem length_le_fileCount {t : Tree} {ps : List Path} (hn : ps.Nodup)
    (hr : ∀ p ∈ ps, p.Resolved) (hf : ∀ p ∈ ps, ∃ d, t.read p = .ok d) :
    ps.length ≤ t.fileCount := by
  have hinj : (ps.map Path.names).Nodup :=
    List.Nodup.map_on (fun p hp q hq h => (hr p hp).eq_of_names (hr q hq) h) hn
  have hsub : ps.map Path.names ⊆ t.root.places := by
    intro names h
    obtain ⟨p, hp, rfl⟩ := List.mem_map.mp h
    obtain ⟨d, hd⟩ := hf p hp
    simp only [read] at hd
    split at hd
    · rename_i hnode
      exact Node.mem_places (get?_of_node (hr p hp) hnode)
    · cases hd
    · cases hd
  have := (hinj.subperm hsub).length_le
  rw [List.length_map, Node.length_places] at this
  exact this

end Tree
end Stencil.Files
