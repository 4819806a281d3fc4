import Stencil.Proofs.Files.Overlay

/-!
Trees as a file system keeps them. In each directory no two entries have one name, and every name
leads to its entry. What is found in such a tree is a file, and it can be read.
-/
namespace Stencil.Files

variable {t : Tree} {root p : Path} {node n : Node} {name suffix : String} {names : List String}
  {exclude : String → Bool} {entries : List (String × Node)}

mutual

/-- All directories, here and below, have names of entries that differ from each other. -/
def Node.Sound : Node → Prop
  | .file _ => True
  | .dir entries => SoundBelow entries

def SoundBelow : List (String × Node) → Prop
  | [] => True
  | (name, node) :: rest => IsName name ∧ name.utf8ByteSize ≤ maxNameBytes ∧
      rest.lookup name = none ∧ node.Sound ∧ SoundBelow rest

end

def Tree.Sound (t : Tree) : Prop := t.root.Sound

theorem SoundBelow.of_mem (h : SoundBelow entries) (hm : (name, node) ∈ entries) :
    IsName name ∧ name.utf8ByteSize ≤ maxNameBytes ∧ entries.lookup name = some node ∧
      node.Sound := by
  induction entries with
  | nil => cases hm
  | cons e rest ih =>
    obtain ⟨x, c⟩ := e
    obtain ⟨hx, hsize, hfree, hc, hrest⟩ := h
    rcases List.mem_cons.mp hm with heq | hm
    · cases heq
      exact ⟨hx, hsize, by rw [List.lookup_cons, beq_self_eq_true], hc⟩
    · obtain ⟨hname, hshort, hlookup, hnode⟩ := ih hrest hm
      have hne : name ≠ x := by
        rintro rfl
        cases hfree.symm.trans hlookup
      refine ⟨hname, hshort, ?_, hnode⟩
      rw [List.lookup_cons, beq_eq_false_iff_ne.mpr hne]
      exact hlookup

theorem SoundBelow.of_lookup (h : SoundBelow entries) (hl : entries.lookup name = some node) :
    node.Sound := by
  obtain ⟨_, hm, rfl⟩ : ∃ x, (x, node) ∈ entries ∧ x = name := by
    obtain ⟨l₁, l₂, heq, _⟩ := List.lookup_eq_some_iff.mp hl
    exact ⟨name, by rw [heq]; simp, rfl⟩
  exact (h.of_mem hm).2.2.2

theorem Node.Sound.get? (h : node.Sound) (hg : node.get? names = some n) : n.Sound := by
  induction names generalizing node with
  | nil =>
    cases hg
    exact h
  | cons x rest ih =>
    cases node with
    | file => simp [Node.get?, child?] at hg
    | dir entries =>
      simp only [Node.get?, child?] at hg
      obtain ⟨c, hc, hg⟩ := Option.bind_eq_some_iff.mp hg
      exact ih (SoundBelow.of_lookup h hc) hg

/-- Names that lead to a file. -/
def LeadsToFile (node : Node) (names : List String) : Prop :=
  (∀ x ∈ names, IsName x) ∧ ∃ d, node.follow names = .ok (.file d)

theorem LeadsToFile.child (h : LeadsToFile node names) (hn : IsName name)
    (hs : name.utf8ByteSize ≤ maxNameBytes) (hl : entries.lookup name = some node) :
    LeadsToFile (.dir entries) (name :: names) := by
  obtain ⟨hall, d, hd⟩ := h
  refine ⟨List.forall_mem_cons.mpr ⟨hn, hall⟩, d, ?_⟩
  rw [Node.follow, if_neg (Nat.not_lt.mpr hs), hl]
  exact hd

mutual

theorem Node.Sound.find (suffix : String) (exclude : String → Bool) (node : Node) (h : node.Sound) :
    ∀ names ∈ node.find suffix exclude, LeadsToFile node names := by
  intro names hn
  match node with
  | .file _ => simp [Node.find] at hn
  | .dir entries =>
    rw [Node.find, List.mem_append] at hn
    rcases hn with hown | hbelow
    · obtain ⟨name, hname, rfl⟩ := List.mem_map.mp hown
      obtain ⟨⟨x, c⟩, he, rfl⟩ := List.mem_map.mp (List.mem_mergeSort.mp hname)
      obtain ⟨he, hfile⟩ := List.mem_filter.mp he
      obtain ⟨hx, hs, hl, _⟩ := SoundBelow.of_mem h he
      cases c with
      | dir => simp [Node.isDir] at hfile
      | file d =>
        have hfile : LeadsToFile (.file d) [] := ⟨by simp, d, rfl⟩
        exact hfile.child hx hs hl
    · obtain ⟨⟨name, found⟩, hfound, hn⟩ := List.mem_flatMap.mp hbelow
      obtain ⟨more, hmore, rfl⟩ := List.mem_map.mp hn
      obtain ⟨c, hc, hall⟩ :=
        SoundBelow.findBelow suffix exclude entries h _ (mem_byName.mp hfound)
      obtain ⟨hx, hs, hl, _⟩ := SoundBelow.of_mem h hc
      exact (hall more hmore).child hx hs hl

theorem SoundBelow.findBelow (suffix : String) (exclude : String → Bool)
    (entries : List (String × Node)) (h : SoundBelow entries) :
    ∀ e ∈ findBelow suffix exclude entries,
      ∃ node, (e.1, node) ∈ entries ∧ ∀ names ∈ e.2, LeadsToFile node names := by
  intro e he
  match entries with
  | [] => simp [Stencil.Files.findBelow] at he
  | (name, node) :: rest =>
    obtain ⟨_, _, _, hnode, hrest⟩ := h
    have hlater : ∀ e ∈ Stencil.Files.findBelow suffix exclude rest, ∃ c,
        (e.1, c) ∈ (name, node) :: rest ∧ ∀ names ∈ e.2, LeadsToFile c names := by
      intro e he
      obtain ⟨c, hc, hall⟩ := SoundBelow.findBelow suffix exclude rest hrest e he
      exact ⟨c, List.mem_cons_of_mem _ hc, hall⟩
    simp only [Stencil.Files.findBelow] at he
    split at he
    · rcases List.mem_cons.mp he with rfl | he
      · exact ⟨node, List.mem_cons_self, Node.Sound.find suffix exclude node hnode⟩
      · exact hlater e he
    · exact hlater e he

end

/-- Names of entries lead on from what lies at a path. -/
theorem Tree.node_below (h : t.node root = .ok node) (hn : ∀ x ∈ names, IsName x) :
    t.node ⟨root.anchor, root.names ++ names⟩ =
      (node.follow names).mapError (failure ⟨root.anchor, root.names ++ names⟩) := by
  have hup : ".." ∉ names := fun hm => (hn _ hm).2 rfl
  obtain ⟨ns, hl⟩ := node_eq_ok h
  have hlocate : t.locate ⟨root.anchor, root.names ++ names⟩ =
      step t.root ns.reverse node names := by
    rw [← step_append hl names]
    have habs : (⟨root.anchor, root.names ++ names⟩ : Path).absolute = root.absolute := rfl
    rw [locate, habs]
    split
    · rfl
    · rw [List.append_assoc]
  rw [← Tree.step_follow t.root ns.reverse hup, Tree.node, hlocate]
  cases step t.root ns.reverse node names with
  | error f => rfl
  | ok pl => cases pl <;> rfl

/-- What is found in a sound tree is a file with a name of an entry. -/
theorem Tree.Sound.file_of_mem_find (h : t.Sound) (hp : p ∈ t.find root suffix exclude) :
    IsName p.name ∧ p.name.utf8ByteSize ≤ maxNameBytes ∧ ∃ d, t.node p = .ok (.file d) := by
  unfold Tree.find at hp
  split at hp
  · rename_i node hnode
    obtain ⟨names, hn, rfl⟩ := List.mem_map.mp hp
    obtain ⟨ns, hl⟩ := Tree.node_eq_ok hnode
    obtain ⟨hall, d, hd⟩ := Node.Sound.find suffix exclude node
      (Node.Sound.get? h (Tree.locate_eq_node hl)) names hn
    obtain ⟨front, last, rfl, _⟩ := Node.find_endsIn suffix exclude node names hn
    have hname : Path.name ⟨root.anchor, root.names ++ (front ++ [last])⟩ = last := by
      simp [Path.name]
    rw [hname]
    refine ⟨hall last (by simp), (Node.follow_eq_ok_iff.mp hd).2 last (by simp), d, ?_⟩
    rw [Tree.node_below hnode hall, hd]
    rfl
  · cases hp

end Stencil.Files
