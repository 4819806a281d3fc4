import Mathlib.Data.List.Induction
import Stencil.Proofs.Files.Sound

/-!
The order of a search. Below a directory a search finds each file that has the suffix and lies in no
excluded directory, once, and nothing else. The files of the directory itself come first, by their
names; what is found in its subdirectories follows, by theirs.
-/
namespace Stencil.Files
open Stencil.Text

variable {t : Tree} {root : Path} {node c : Node} {name suffix : String} {names : List String}
  {exclude : String → Bool} {entries : List (String × Node)}

/-- Sorting by names that differ gives them in strict order. -/
theorem pairwise_mergeSort_names {α : Type} (key : α → String) {xs : List α}
    (h : (xs.map key).Nodup) :
    ((xs.mergeSort fun a b => decide (key a ≤ key b)).map key).Pairwise (· < ·) := by
  have hsorted : (xs.mergeSort fun a b => decide (key a ≤ key b)).Pairwise
      fun a b => decide (key a ≤ key b) = true :=
    List.pairwise_mergeSort (by simpa using fun a b c => String.le_trans)
      (by simpa using fun a b => String.le_total (key a) (key b)) xs
  have hle : ((xs.mergeSort fun a b => decide (key a ≤ key b)).map key).Pairwise (· ≤ ·) :=
    List.pairwise_map.mpr (hsorted.imp of_decide_eq_true)
  have hne := ((List.mergeSort_perm xs fun a b => decide (key a ≤ key b)).map key).nodup_iff.mpr h
  exact (hle.and hne).imp fun ⟨hab, hdiffer⟩ => Std.lt_of_le_of_ne hab hdiffer

theorem pairwise_mergeSort_of_nodup {names : List String} (h : names.Nodup) :
    (names.mergeSort fun a b => decide (a ≤ b)).Pairwise (· < ·) := by
  have hsorted := pairwise_mergeSort_names id (by rwa [List.map_id])
  rwa [List.map_id] at hsorted

/-! A directory and its entries. -/

theorem matchesSuffix_iff :
    matchesSuffix suffix name = true ↔ lowerChars suffix.toList <:+ lowerChars name.toList := by
  rw [matchesSuffix, endsWith, List.isSuffixOf_iff_suffix]

theorem mem_ownFiles : name ∈ ownFiles suffix entries ↔
    ∃ d, (name, .file d) ∈ entries ∧ matchesSuffix suffix name = true := by
  simp only [ownFiles, List.mem_map, List.mem_filter, Bool.and_eq_true, Bool.not_eq_true']
  constructor
  · rintro ⟨⟨x, c⟩, ⟨hm, hfile, hs⟩, rfl⟩
    cases c with
    | file d => exact ⟨d, hm, hs⟩
    | dir => cases hfile
  · rintro ⟨d, hm, hs⟩
    exact ⟨_, ⟨hm, rfl, hs⟩, rfl⟩

/-- A search goes into the subdirectories whose names are not excluded. -/
theorem findBelow_eq (entries : List (String × Node)) : findBelow suffix exclude entries =
    (entries.filter fun e => e.2.isDir && !exclude e.1).map
      fun e => (e.1, e.2.find suffix exclude) := by
  induction entries with
  | nil => rfl
  | cons e rest ih =>
    obtain ⟨name, node⟩ := e
    rw [findBelow, ih, List.filter_cons]
    split <;> rfl

theorem mem_findBelow {e : String × List (List String)} :
    e ∈ findBelow suffix exclude entries ↔ ∃ c, (e.1, c) ∈ entries ∧ c.isDir = true ∧
      exclude e.1 = false ∧ e.2 = c.find suffix exclude := by
  rw [findBelow_eq]
  simp only [List.mem_map, List.mem_filter, Bool.and_eq_true, Bool.not_eq_true']
  constructor
  · rintro ⟨⟨x, c⟩, ⟨hm, hdir, hx⟩, rfl⟩
    exact ⟨c, hm, hdir, hx, rfl⟩
  · rintro ⟨c, hm, hdir, hx, he⟩
    exact ⟨(e.1, c), ⟨hm, hdir, hx⟩, Prod.ext rfl he.symm⟩

/-- What a search finds in a directory lies there, or below an entry that it goes into. -/
theorem mem_find_dir {x : String} {rest : List String} :
    x :: rest ∈ (Node.dir entries).find suffix exclude ↔
      (rest = [] ∧ x ∈ ownFiles suffix entries) ∨
        ∃ c, (x, c) ∈ entries ∧ c.isDir = true ∧ exclude x = false ∧
          rest ∈ c.find suffix exclude := by
  rw [Node.find, List.mem_append]
  apply or_congr
  · simp only [List.mem_map, List.mem_mergeSort, List.cons.injEq]
    constructor
    · rintro ⟨n, hn, rfl, hrest⟩
      exact ⟨hrest.symm, hn⟩
    · rintro ⟨rfl, hx⟩
      exact ⟨x, hx, rfl, rfl⟩
  · simp only [List.mem_flatMap, mem_byName, mem_findBelow, List.mem_map, List.cons.injEq]
    constructor
    · rintro ⟨⟨n, found⟩, ⟨c, hc, hdir, hx, hfound⟩, more, hmore, rfl, rfl⟩
      exact ⟨c, hc, hdir, hx, hfound ▸ hmore⟩
    · rintro ⟨c, hc, hdir, hx, hmore⟩
      exact ⟨(x, _), ⟨c, hc, hdir, hx, rfl⟩, rest, hmore, rfl, rfl⟩

theorem SoundBelow.mem_iff (h : SoundBelow entries) :
    (name, c) ∈ entries ↔ entries.lookup name = some c := by
  constructor
  · exact fun hm => (h.of_mem hm).2.2.1
  · intro hl
    obtain ⟨before, after, rfl, _⟩ := List.lookup_eq_some_iff.mp hl
    simp

theorem SoundBelow.nodup (h : SoundBelow entries) : (entries.map Prod.fst).Nodup := by
  induction entries with
  | nil => exact List.nodup_nil
  | cons e rest ih =>
    obtain ⟨x, c⟩ := e
    obtain ⟨_, _, hfree, _, hrest⟩ := h
    refine List.nodup_cons.mpr ⟨fun hm => ?_, ih hrest⟩
    obtain ⟨⟨y, n⟩, hn, rfl⟩ := List.mem_map.mp hm
    cases hfree.symm.trans (hrest.mem_iff.mp hn)

theorem SoundBelow.nodup_ownFiles (h : SoundBelow entries) : (ownFiles suffix entries).Nodup :=
  h.nodup.sublist (List.filter_sublist.map Prod.fst)

theorem SoundBelow.nodup_below (h : SoundBelow entries) :
    ((Files.findBelow suffix exclude entries).map Prod.fst).Nodup := by
  rw [findBelow_eq, List.map_map]
  exact h.nodup.sublist (List.filter_sublist.map Prod.fst)

/-! What is found below a node. -/

/-- What holds of a directory if it holds of its entries holds of all nodes. -/
theorem Node.entrywise {P : Node → Prop} (file : ∀ d, P (.file d))
    (dir : ∀ entries, (∀ e ∈ entries, P e.2) → P (.dir entries)) (node : Node) : P node := by
  cases node with
  | file d => exact file d
  | dir entries => exact dir entries fun e _ => entrywise file dir e.2
termination_by node
decreasing_by
  rename_i he
  have hsize := List.sizeOf_lt_of_mem he
  obtain ⟨x, c⟩ := e
  simp only [Prod.mk.sizeOf_spec, Node.dir.sizeOf_spec] at hsize ⊢
  omega

/-- Found are the files with the suffix that lie below no excluded directory. -/
theorem Node.Sound.mem_find (h : node.Sound) : names ∈ node.find suffix exclude ↔
    ∃ dirs name d, names = dirs ++ [name] ∧ node.get? names = some (.file d) ∧
      matchesSuffix suffix name = true ∧ ∀ x ∈ dirs, exclude x = false := by
  induction names generalizing node with
  | nil =>
    constructor
    · intro hm
      obtain ⟨front, last, heq, _⟩ := Node.find_endsIn suffix exclude node [] hm
      simp at heq
    · rintro ⟨dirs, name, d, heq, _⟩
      simp at heq
  | cons x rest ih =>
    cases node with
    | file d => simp [Node.find, Node.get?, Node.child?]
    | dir entries =>
      rw [mem_find_dir]
      constructor
      · rintro (⟨rfl, hx⟩ | ⟨c, hc, _, hx, hrest⟩)
        · obtain ⟨d, hd, hs⟩ := mem_ownFiles.mp hx
          refine ⟨[], x, d, rfl, ?_, hs, by simp⟩
          simp [Node.get?, Node.child?, SoundBelow.mem_iff h |>.mp hd]
        · obtain ⟨_, _, hl, hsound⟩ := SoundBelow.of_mem h hc
          obtain ⟨dirs, name, d, rfl, hget, hs, hkept⟩ := (ih hsound).mp hrest
          refine ⟨x :: dirs, name, d, rfl, ?_, hs, List.forall_mem_cons.mpr ⟨hx, hkept⟩⟩
          simp only [Node.get?, Node.child?, hl]
          exact hget
      · rintro ⟨dirs, name, d, heq, hget, hs, hkept⟩
        simp only [Node.get?, Node.child?] at hget
        obtain ⟨c, hl, hget⟩ := Option.bind_eq_some_iff.mp hget
        have hc := (SoundBelow.mem_iff h).mpr hl
        cases dirs with
        | nil =>
          obtain ⟨rfl, rfl⟩ := List.cons_eq_cons.mp heq
          cases hget
          exact Or.inl ⟨rfl, mem_ownFiles.mpr ⟨d, hc, hs⟩⟩
        | cons y dirs =>
          obtain ⟨rfl, rfl⟩ := List.cons_eq_cons.mp heq
          obtain ⟨hx, hkept⟩ := List.forall_mem_cons.mp hkept
          have hdir : c.isDir = true := by
            cases c with
            | dir => rfl
            | file => cases dirs <;> simp [Node.get?, Node.child?] at hget
          exact Or.inr ⟨c, hc, hdir, hx,
            (ih (SoundBelow.of_lookup h hl)).mpr ⟨dirs, name, d, rfl, hget, hs, hkept⟩⟩

theorem Node.Sound.nodup_find (h : node.Sound) : (node.find suffix exclude).Nodup := by
  induction node using Node.entrywise with
  | file => simp [Node.find]
  | dir entries ih =>
    rw [Node.find, List.nodup_append]
    refine ⟨?_, ?_, ?_⟩
    · have hsame : ((ownFiles suffix entries).mergeSort fun a b => decide (a ≤ b)).Nodup :=
        (List.mergeSort_perm ..).nodup_iff.mpr (SoundBelow.nodup_ownFiles h)
      exact hsame.map fun a b hab => List.singleton_injective hab
    · rw [List.nodup_flatMap]
      constructor
      · rintro ⟨n, found⟩ hfound
        obtain ⟨c, hc, _, _, rfl⟩ := mem_findBelow.mp (mem_byName.mp hfound)
        exact (ih _ hc (SoundBelow.of_mem h hc).2.2.2).map (List.cons_injective)
      · -- Two subdirectories have two names, and all that is found in one starts with its name.
        have hnames : ((findBelow suffix exclude entries).map Prod.fst).Nodup :=
          SoundBelow.nodup_below h
        have hdiffer := pairwise_mergeSort_names Prod.fst hnames
        refine (List.pairwise_map.mp hdiffer).imp fun {a b} hab => ?_
        intro names ha hb
        obtain ⟨_, _, rfl⟩ := List.mem_map.mp ha
        obtain ⟨_, _, heq⟩ := List.mem_map.mp hb
        exact String.ne_of_lt hab (List.cons_eq_cons.mp heq).1.symm
    · intro own hown found hfound heq
      subst heq
      obtain ⟨n, _, rfl⟩ := List.mem_map.mp hown
      obtain ⟨⟨x, below⟩, hbelow, hm⟩ := List.mem_flatMap.mp hfound
      obtain ⟨c, _, _, _, rfl⟩ := mem_findBelow.mp (mem_byName.mp hbelow)
      obtain ⟨more, hmore, heq⟩ := List.mem_map.mp hm
      obtain ⟨front, last, rfl, _⟩ := Node.find_endsIn suffix exclude c more hmore
      simp at heq

/-! What is found below a path. -/

theorem Node.Sound.names_of_get? (h : node.Sound) (hg : node.get? names = some c) :
    ∀ x ∈ names, IsName x ∧ x.utf8ByteSize ≤ maxNameBytes := by
  induction names generalizing node with
  | nil => simp
  | cons x rest ih =>
    cases node with
    | file => simp [Node.get?, Node.child?] at hg
    | dir entries =>
      simp only [Node.get?, Node.child?] at hg
      obtain ⟨n, hl, hg⟩ := Option.bind_eq_some_iff.mp hg
      obtain ⟨hx, hsize, _, hn⟩ := SoundBelow.of_mem h ((SoundBelow.mem_iff h).mpr hl)
      exact List.forall_mem_cons.mpr ⟨⟨hx, hsize⟩, ih hn hg⟩

/-- Names of entries lead on from a path as they do from what lies there. -/
theorem Node.Sound.node_below_iff (h : node.Sound) (hr : t.node root = .ok node) :
    ((∀ x ∈ names, IsName x) ∧ t.node ⟨root.anchor, root.names ++ names⟩ = .ok c) ↔
      node.get? names = some c := by
  constructor
  · rintro ⟨hn, hnode⟩
    rw [Tree.node_below hr hn] at hnode
    cases hf : node.follow names with
    | ok n =>
      rw [hf] at hnode
      cases hnode
      exact (Node.follow_eq_ok_iff.mp hf).1
    | error f =>
      rw [hf] at hnode
      cases hnode
  · intro hg
    have hall := h.names_of_get? hg
    have hf := Node.follow_eq_ok_iff.mpr ⟨hg, fun x hx => (hall x hx).2⟩
    refine ⟨fun x hx => (hall x hx).1, ?_⟩
    rw [Tree.node_below hr fun x hx => (hall x hx).1, hf]
    rfl

namespace Tree

theorem find_of_node (h : t.node root = .ok node) : t.find root suffix exclude =
    (node.find suffix exclude).map fun names => ⟨root.anchor, root.names ++ names⟩ := by
  rw [find, h]

/-- A file that a search is for: behind names of entries, and below no excluded directory. -/
structure Sought (t : Tree) (root : Path) (suffix : String) (exclude : String → Bool)
    (dirs : List String) (name : String) : Prop where
  names : ∀ x ∈ dirs ++ [name], IsName x
  file : ∃ d, t.node ⟨root.anchor, root.names ++ (dirs ++ [name])⟩ = .ok (.file d)
  ending : lowerChars suffix.toList <:+ lowerChars name.toList
  kept : ∀ x ∈ dirs, exclude x = false

/-- What a search looks at in one directory: its files with the suffix, and the subdirectories that
it goes into. -/
structure Contents (t : Tree) (root : Path) (suffix : String) (exclude : String → Bool)
    (files dirs : List String) : Prop where
  files_sorted : files.Pairwise (· < ·)
  mem_files : ∀ name, name ∈ files ↔ t.Sought root suffix exclude [] name
  dirs_sorted : dirs.Pairwise (· < ·)
  mem_dirs : ∀ name, name ∈ dirs ↔ IsName name ∧ exclude name = false ∧
    ∃ entries, t.node (root.child name) = .ok (.dir entries)

theorem sought_iff (h : node.Sound) (hr : t.node root = .ok node) {dirs : List String} :
    t.Sought root suffix exclude dirs name ↔ ∃ d, node.get? (dirs ++ [name]) = some (.file d) ∧
      matchesSuffix suffix name = true ∧ ∀ x ∈ dirs, exclude x = false := by
  constructor
  · intro hs
    obtain ⟨d, hd⟩ := hs.file
    exact ⟨d, (h.node_below_iff hr).mp ⟨hs.names, hd⟩, matchesSuffix_iff.mpr hs.ending, hs.kept⟩
  · rintro ⟨d, hg, hs, hkept⟩
    obtain ⟨hn, hd⟩ := (h.node_below_iff hr).mpr hg
    exact ⟨hn, ⟨d, hd⟩, matchesSuffix_iff.mp hs, hkept⟩

theorem node_child_iff (h : SoundBelow entries) (hr : t.node root = .ok (.dir entries)) :
    IsName name ∧ t.node (root.child name) = .ok c ↔ entries.lookup name = some c := by
  have hsound : (Node.dir entries).Sound := h
  have hbelow : (Node.dir entries).get? [name] = entries.lookup name := by
    simp [Node.get?, Node.child?]
  rw [← hbelow, ← hsound.node_below_iff hr]
  simp [Path.child]

theorem contents_dir (h : SoundBelow entries) (hr : t.node root = .ok (.dir entries)) :
    t.Contents root suffix exclude ((ownFiles suffix entries).mergeSort fun a b => decide (a ≤ b))
      ((byName (findBelow suffix exclude entries)).map Prod.fst) where
  files_sorted := pairwise_mergeSort_of_nodup h.nodup_ownFiles
  mem_files := by
    intro name
    have hsound : (Node.dir entries).Sound := h
    rw [List.mem_mergeSort, mem_ownFiles, sought_iff hsound hr]
    simp [Node.get?, Node.child?, h.mem_iff]
  dirs_sorted := pairwise_mergeSort_names Prod.fst h.nodup_below
  mem_dirs := by
    intro name
    have hentry : ∀ name c, (name, c) ∈ entries ↔
        IsName name ∧ t.node (root.child name) = .ok c := by
      intro name c
      rw [h.mem_iff, node_child_iff h hr]
    simp only [List.mem_map, mem_byName, mem_findBelow]
    constructor
    · rintro ⟨e, ⟨c, hc, hdir, hx, _⟩, rfl⟩
      obtain ⟨hn, hc⟩ := (hentry _ _).mp hc
      cases c with
      | dir es => exact ⟨hn, hx, es, hc⟩
      | file => cases hdir
    · rintro ⟨hn, hx, es, hc⟩
      exact ⟨(name, _), ⟨.dir es, (hentry _ _).mpr ⟨hn, hc⟩, rfl, hx, rfl⟩, rfl⟩

/-- What lies below a path is missing where nothing lies at the path. -/
theorem exists_node_above (h : t.node ⟨root.anchor, root.names ++ names⟩ = .ok c) :
    ∃ n, t.node root = .ok n := by
  induction names using List.reverseRecOn generalizing c with
  | nil => exact ⟨c, by simpa using h⟩
  | append_singleton front x ih =>
    obtain ⟨ns, hl⟩ := node_eq_ok h
    have hfront : ∃ ms n, t.locate ⟨root.anchor, root.names ++ front⟩ = .ok (.node ms n) := by
      have habsolute : ∀ more, (⟨root.anchor, more⟩ : Path).absolute = root.absolute := fun _ => rfl
      rw [locate, habsolute] at hl ⊢
      split at hl
      · rename_i ha
        rw [← List.append_assoc] at hl
        obtain ⟨ms, n, hstep, _⟩ := step_concat hl
        exact ⟨ms, n, by rw [if_pos ha]; exact hstep⟩
      · rename_i ha
        rw [← List.append_assoc, ← List.append_assoc] at hl
        obtain ⟨ms, n, hstep, _⟩ := step_concat hl
        exact ⟨ms, n, by rw [if_neg ha, ← List.append_assoc]; exact hstep⟩
    obtain ⟨ms, n, hn⟩ := hfront
    have hnode : t.node ⟨root.anchor, root.names ++ front⟩ = .ok n := by rw [node, hn]
    exact ih hnode

/-- The search goes on in each subdirectory as it would from there. -/
theorem find_dir (h : SoundBelow entries) (hr : t.node root = .ok (.dir entries)) :
    t.find root suffix exclude =
      ((ownFiles suffix entries).mergeSort fun a b => decide (a ≤ b)).map root.child ++
        ((byName (findBelow suffix exclude entries)).map Prod.fst).flatMap
          fun name => t.find (root.child name) suffix exclude := by
  rw [find_of_node hr, Node.find, List.map_append, List.map_map, List.map_flatMap,
    List.flatMap_map]
  congr 1
  refine List.flatMap_congr ?_
  rintro ⟨name, found⟩ he
  obtain ⟨c, hc, _, _, rfl⟩ := mem_findBelow.mp (mem_byName.mp he)
  have hnode : t.node (root.child name) = .ok c :=
    ((node_child_iff h hr).mpr (h.mem_iff.mp hc)).2
  rw [find_of_node hnode, List.map_map]
  refine List.map_congr_left fun more _ => ?_
  simp [Path.child]

/-- What a search has to give. -/
structure Walked (t : Tree) (root : Path) (suffix : String) (exclude : String → Bool)
    (found : List Path) : Prop where
  mem : ∀ p, p ∈ found ↔ ∃ dirs name, p = ⟨root.anchor, root.names ++ (dirs ++ [name])⟩ ∧
    t.Sought root suffix exclude dirs name
  nodup : found.Nodup
  order : ∀ entries, t.node root = .ok (.dir entries) →
    ∃ files dirs, t.Contents root suffix exclude files dirs ∧
      found = files.map root.child ++
        dirs.flatMap fun name => t.find (root.child name) suffix exclude
  nowhere : (∀ entries, t.node root ≠ .ok (.dir entries)) → found = []

theorem Sound.of_node (h : t.Sound) (hr : t.node root = .ok node) : node.Sound := by
  obtain ⟨ns, hl⟩ := node_eq_ok hr
  exact Node.Sound.get? h (locate_eq_node hl)

theorem Sound.mem_find (h : t.Sound) {p : Path} : p ∈ t.find root suffix exclude ↔
    ∃ dirs name, p = ⟨root.anchor, root.names ++ (dirs ++ [name])⟩ ∧
      t.Sought root suffix exclude dirs name := by
  cases hr : t.node root with
  | error e =>
    rw [find, hr]
    constructor
    · intro hp
      cases hp
    · rintro ⟨dirs, name, _, hs⟩
      obtain ⟨d, hd⟩ := hs.file
      obtain ⟨n, hn⟩ := exists_node_above hd
      cases hr.symm.trans hn
  | ok node =>
    have hnode := h.of_node hr
    rw [find_of_node hr, List.mem_map]
    constructor
    · rintro ⟨names, hm, rfl⟩
      obtain ⟨dirs, name, d, rfl, hget, hs, hkept⟩ := hnode.mem_find.mp hm
      exact ⟨dirs, name, rfl, (sought_iff hnode hr).mpr ⟨d, hget, hs, hkept⟩⟩
    · rintro ⟨dirs, name, rfl, hs⟩
      obtain ⟨d, hget, hs, hkept⟩ := (sought_iff hnode hr).mp hs
      exact ⟨_, hnode.mem_find.mpr ⟨dirs, name, d, rfl, hget, hs, hkept⟩, rfl⟩

theorem Sound.nodup_find (h : t.Sound) : (t.find root suffix exclude).Nodup := by
  cases hr : t.node root with
  | error e =>
    rw [find, hr]
    exact List.nodup_nil
  | ok node =>
    rw [find_of_node hr]
    refine (h.of_node hr).nodup_find.map fun a b hab => ?_
    exact List.append_cancel_left (Path.mk.inj hab).2

/-- A search finds what it is for, each file once, in the order of a walk. The name of the directory
that it starts from is not asked. -/
theorem find_walked (h : t.Sound) (root : Path) (suffix : String) (exclude : String → Bool) :
    t.Walked root suffix exclude (t.find root suffix exclude) := by
  constructor
  case mem => exact fun p => h.mem_find
  case nodup => exact h.nodup_find
  case order =>
    intro entries hr
    have hbelow : SoundBelow entries := h.of_node hr
    exact ⟨_, _, contents_dir hbelow hr, find_dir hbelow hr⟩
  case nowhere =>
    intro hnone
    cases hr : t.node root with
    | error e => rw [find, hr]
    | ok node =>
      rw [find_of_node hr]
      cases node with
      | file => simp [Node.find]
      | dir entries => exact absurd hr (hnone entries)

/-- A directory with subdirectories, one of them hidden, and names in both cases. -/
def yard : Tree where
  root := .dir [("yard", .dir [("b", .dir [("One.NT", .file (.ofText "1"))]),
    (".old", .dir [("kept.nt", .file (.ofText "2"))]), ("z.nt", .file (.ofText "3")),
    ("a", .dir [("two.nt", .file (.ofText "4")), ("c.nt", .dir [("x.nt", .file (.ofText "5"))])]),
    ("skip.txt", .file (.ofText "6"))])]
  here := ⟨.root, []⟩

theorem find_yard : yard.Sound ∧ yard.Walked ⟨.root, ["yard"]⟩ ".nt" (·.startsWith ".")
    (yard.find ⟨.root, ["yard"]⟩ ".nt" (·.startsWith ".")) := by
  have hsound : yard.Sound := by
    simp only [Tree.Sound, yard, Node.Sound, SoundBelow]
    decide +kernel
  exact ⟨hsound, find_walked hsound _ _ _⟩

example : (yard.find ⟨.root, ["yard"]⟩ ".nt" (·.startsWith ".")).map Path.toString =
    ["/yard/z.nt", "/yard/a/two.nt", "/yard/a/c.nt/x.nt", "/yard/b/One.NT"] := by cbv

end Tree
end Stencil.Files
