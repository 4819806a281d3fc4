import Stencil.Proofs.Files.Follow
import Stencil.Proofs.Files.Search

/-!
Trees that were written over. Files are written at some places, directories are made at others, and
everything else stays. A search for a suffix that no new name has finds the same files, and a path
leads to what it led to before, unless a file was written there.
-/
namespace Stencil.Files.Tree

variable {suffixes : List String} {W D W' D' : List String → Prop} {t mid t' : Tree} {p : Path}
  {d : Data} {names parent : List String} {name : String} {entries : List (String × Node)}
  {new : Node}

/-- A tree with files written at places of one kind and directories made at places of another
kind, none of which a search for the suffixes finds. -/
structure Overlaid (suffixes : List String) (W D : List String → Prop) (t t' : Tree) : Prop where
  here : t'.here = t.here
  files : ∀ names d, t.kindAt names = some (.file d) →
    ∃ d', t'.kindAt names = some (.file d') ∧ (¬W names → d' = d)
  new : ∀ names, t.kindAt names = none → t'.kindAt names = none ∨
    (t'.kindAt names = some .directory ∧ D names) ∨
      (∃ d, t'.kindAt names = some (.file d)) ∧ W names
  found : ∀ names entries, t.root.get? names = some (.dir entries) →
    ∃ entries', t'.root.get? names = some (.dir entries') ∧ ∀ suffix ∈ suffixes, ∀ exclude,
      (Node.dir entries').find suffix exclude = (Node.dir entries).find suffix exclude

namespace Overlaid

theorem refl (suffixes : List String) (W D : List String → Prop) (t : Tree) :
    Overlaid suffixes W D t t where
  here := rfl
  files := fun _ d h => ⟨d, h, fun _ => rfl⟩
  new := fun _ h => Or.inl h
  found := fun _ entries h => ⟨entries, h, fun _ _ _ => rfl⟩

/-- Every directory stays one. -/
theorem dirs (h : Overlaid suffixes W D t t') (hd : t.kindAt names = some .directory) :
    t'.kindAt names = some .directory := by
  obtain ⟨entries, he⟩ := Node.exists_dir_of_kindAt hd
  obtain ⟨entries', he', _⟩ := h.found names entries he
  rw [kindAt, Node.kindAt, he']
  rfl

theorem sameDirs (h : Overlaid suffixes W D t t') : SameDirs t t' :=
  ⟨h.here, fun _ hd => h.dirs hd⟩

theorem trans (h : Overlaid suffixes W D t mid) (k : Overlaid suffixes W D mid t') :
    Overlaid suffixes W D t t' where
  here := k.here.trans h.here
  files := by
    intro names d hd
    obtain ⟨d₁, hd₁, hsame₁⟩ := h.files names d hd
    obtain ⟨d₂, hd₂, hsame₂⟩ := k.files names d₁ hd₁
    exact ⟨d₂, hd₂, fun hw => (hsame₂ hw).trans (hsame₁ hw)⟩
  new := by
    intro names hn
    rcases h.new names hn with hmid | ⟨hdir, hd⟩ | ⟨⟨d, hfile⟩, hw⟩
    · exact k.new names hmid
    · exact Or.inr (Or.inl ⟨k.dirs hdir, hd⟩)
    · obtain ⟨d', hfile', _⟩ := k.files names d hfile
      exact Or.inr (Or.inr ⟨⟨d', hfile'⟩, hw⟩)
  found := by
    intro names entries he
    obtain ⟨mid, hmid, hfound⟩ := h.found names entries he
    obtain ⟨entries', he', hfound'⟩ := k.found names mid hmid
    exact ⟨entries', he', fun s hs x => (hfound' s hs x).trans (hfound s hs x)⟩

theorem mono (h : Overlaid suffixes W D t t') (hw : ∀ names, W names → W' names)
    (hd : ∀ names, D names → D' names) : Overlaid suffixes W' D' t t' where
  here := h.here
  files := fun names d hk => (h.files names d hk).imp fun _ hk' =>
    ⟨hk'.1, fun hn => hk'.2 fun hn' => hn (hw _ hn')⟩
  new := fun names hn => (h.new names hn).imp id fun hk =>
    hk.imp (fun hk => ⟨hk.1, hd _ hk.2⟩) fun hk => ⟨hk.1, hw _ hk.2⟩
  found := h.found

/-- Something that is put at a place where it fits. -/
theorem put (hp : t.root.get? parent = some (.dir entries)) (hfits : Fits new (entries.lookup name))
    (hs : ∀ s ∈ suffixes, matchesSuffix s name = false)
    (hw : ∀ d, new = .file d → W (parent ++ [name]))
    (hd : new = .dir [] → D (parent ++ [name])) :
    Overlaid suffixes W D t { t with root := Node.put new (parent ++ [name]) t.root } := by
  have hnew : ∀ x more, new.kindAt (x :: more) = none := by
    intro x more
    generalize entries.lookup name = old at hfits
    cases hfits <;> rfl
  have hat : t.kindAt (parent ++ [name]) = (entries.lookup name).map Node.kind := by
    rw [kindAt, Node.kindAt, Node.get?_concat, hp]
    rfl
  have hold : ∀ x more, t.root.kindAt (parent ++ [name] ++ x :: more) = none := by
    intro x more
    rw [List.append_assoc, Node.kindAt_append hp, List.singleton_append, Node.kindAt_dir_cons]
    generalize entries.lookup name = old at hfits
    cases hfits <;> rfl
  have hkind := fun names => Node.kindAt_put_leaf hp hnew hold names
  have hkind' : ∀ names, Tree.kindAt { t with root := Node.put new (parent ++ [name]) t.root }
      names = if names = parent ++ [name] then some new.kind else t.kindAt names := hkind
  refine ⟨rfl, fun names d hf => ?_, fun names hn => ?_, fun names es he => ?_⟩
  · rw [hkind']
    split
    · rename_i hplace
      rw [hplace, hat] at hf
      generalize entries.lookup name = old at hfits hf
      cases hfits with
      | overwrite d' e => exact ⟨d', rfl, fun hn => absurd (hplace ▸ hw d' rfl) hn⟩
      | file => cases hf
      | directory => cases hf
    · exact ⟨d, hf, fun _ => rfl⟩
  · rw [hkind']
    split
    · rename_i hplace
      rw [hplace, hat] at hn
      generalize entries.lookup name = old at hfits hn
      cases hfits with
      | overwrite => cases hn
      | file d => exact Or.inr (Or.inr ⟨⟨d, rfl⟩, hplace ▸ hw d rfl⟩)
      | directory => exact Or.inr (Or.inl ⟨rfl, hplace ▸ hd rfl⟩)
    · exact Or.inl hn
  · obtain ⟨es', he', hfound⟩ := Node.found_put hp hfits he
    exact ⟨es', he', fun s hmem x => hfound s x (hs s hmem)⟩

end Overlaid

/-! Operations. -/

/-- No name of one of the places has a suffix. -/
def Unfound (suffixes : List String) (W : List String → Prop) : Prop :=
  ∀ names, W names → ∀ s ∈ suffixes, ¬EndsIn s names

theorem Unfound.matches_last (h : Unfound suffixes W) (hw : W (parent ++ [name])) :
    ∀ s ∈ suffixes, matchesSuffix s name = false := by
  intro s hs
  by_contra hm
  exact h _ hw s hs ⟨parent, name, rfl, by simpa using hm⟩

theorem overlaid_write (hu : Unfound suffixes W) (h : t.write p d = .ok t')
    (hw : W (t.resolve p).names) : Overlaid suffixes W D t t' := by
  simp only [write] at h
  split at h
  · rename_i ns old hl
    cases h
    have hfile := locate_eq_node hl
    rw [← locate_names hl] at hw
    rcases List.eq_nil_or_concat' ns with rfl | ⟨parent, name, rfl⟩
    · -- The root itself is a file, and nothing lies below it.
      have hroot : t.root = .file old := Option.some.inj hfile
      have hat : ∀ x more, t.kindAt (x :: more) = none := fun x more => by
        rw [kindAt, hroot]
        rfl
      refine ⟨rfl, fun names e hf => ?_, fun names hn => ?_, fun names es he => ?_⟩
      · cases names with
        | nil => exact ⟨d, rfl, fun hn => absurd hw hn⟩
        | cons x more => rw [hat] at hf; cases hf
      · cases names with
        | nil => rw [kindAt, hroot] at hn; cases hn
        | cons x more => exact Or.inl rfl
      · rw [hroot] at he
        cases names <;> simp [Node.get?, Node.child?] at he
    · obtain ⟨entries, hp, hlookup⟩ := Node.dir_of_get?_concat hfile
      exact .put hp (by rw [hlookup]; exact .overwrite d old) (hu.matches_last hw) (fun _ _ => hw)
        fun hdir => by cases hdir
  · cases h
  · rename_i parent name hl
    cases h
    rw [← locate_names hl] at hw
    obtain ⟨entries, hp, hfree⟩ := locate_eq_free hl
    exact .put hp (by rw [hfree]; exact .file d) (hu.matches_last hw) (fun _ _ => hw)
      fun hdir => by cases hdir
  · cases h

theorem overlaid_makeDir (hu : Unfound suffixes D) (h : t.makeDir p = .ok t')
    (hd : D (t.resolve p).names) : Overlaid suffixes W D t t' := by
  simp only [makeDir] at h
  split at h
  · cases h
  · rename_i parent name hl
    cases h
    rw [← locate_names hl] at hd
    obtain ⟨entries, hp, hfree⟩ := locate_eq_free hl
    exact .put hp (by rw [hfree]; exact .directory) (hu.matches_last hd) (fun _ hf => by cases hf)
      fun _ => hd
  · cases h

theorem overlaid_makeDirsFuel (hu : Unfound suffixes D) {fuel : Nat}
    (h : makeDirsFuel fuel t p = .ok t')
    (hd : ∀ names, t.kindAt names = none → t'.kindAt names = some .directory → D names) :
    Overlaid suffixes W D t t' := by
  have hmake : ∀ {t t' : Tree} {p : Path}, t.makeDir p = .ok t' →
      (∀ names, t.kindAt names = none → t'.kindAt names = some .directory → D names) →
      Overlaid suffixes W D t t' := by
    intro t t' p h hd
    exact overlaid_makeDir hu h (hd _ (kindAt_of_makeDir h) (by rw [kindAt_makeDir h, if_pos rfl]))
  induction fuel generalizing t t' p with
  | zero =>
    rw [acceptDir_eq h]
    exact .refl _ _ _ _
  | succ fuel ih =>
    simp only [makeDirsFuel] at h
    split at h
    · rename_i made hmade
      cases h
      exact hmake hmade hd
    · split at h
      · obtain ⟨mid, hmid, h⟩ := bind_eq_ok h
        split at h
        · rename_i made hmade
          cases h
          have hkept := (makeDir_grown hmade).kept
          have hgrown := (makeDirsFuel_grown hmid).kept
          refine (ih hmid fun names hn hdir => ?_).trans (hmake hmade fun names hn hdir => ?_)
          · exact hd names hn (by rw [hkept names (by rw [hdir]; simp), hdir])
          · refine hd names ?_ hdir
            by_contra hsome
            rw [hgrown names hsome] at hn
            exact hsome hn
        · rw [acceptDir_eq h] at hd ⊢
          exact ih hmid hd
      · rw [acceptDir_eq h]
        exact .refl _ _ _ _

theorem overlaid_makeDirs (hu : Unfound suffixes D) (h : t.makeDirs p = .ok t')
    (hd : ∀ names, t.kindAt names = none → t'.kindAt names = some .directory → D names) :
    Overlaid suffixes W D t t' := overlaid_makeDirsFuel hu h hd

/-! What paths lead to. -/

/-- What names lead to in several steps is what the last of them leads to from where the others
do. -/
theorem step_concat {root node : Node} {back xs : List String} {x : String} {pl : Place}
    (h : step root back node (xs ++ [x]) = .ok pl) :
    ∃ ns n, step root back node xs = .ok (.node ns n) ∧ step root ns.reverse n [x] = .ok pl := by
  induction xs generalizing back node with
  | nil => exact ⟨back.reverse, node, rfl, by rw [List.reverse_reverse]; exact h⟩
  | cons y rest ih =>
    rw [List.cons_append, step] at h
    rw [step]
    split at h
    · cases h
    · rename_i hdir
      rw [if_neg hdir]
      split at h
      · rename_i hup
        rw [if_pos hup]
        split at h
        · exact ih h
        · cases h
      · rename_i hup
        rw [if_neg hup]
        split at h
        · cases h
        · rename_i hlong
          rw [if_neg hlong]
          split at h
          · exact ih h
          · split at h
            · rename_i hempty
              simp at hempty
            · cases h

/-- A single name that leads to a file is the name of an entry. -/
theorem step_file {root n : Node} {ns place : List String} {x : String}
    (hn : root.get? ns = some n) (h : step root ns.reverse n [x] = .ok (.node place (.file d))) :
    ∃ entries, n = .dir entries ∧ place = ns ++ [x] ∧ entries.lookup x = some (.file d) ∧
      x ≠ ".." ∧ ¬x.utf8ByteSize > maxNameBytes := by
  cases n with
  | file => simp [step, Node.isDir] at h
  | dir entries =>
    simp only [step, Node.isDir, Bool.not_true, Bool.false_eq_true, if_false] at h
    split at h
    · -- What lies above a directory is one.
      exfalso
      split at h
      · rename_i up hup
        cases h
        rcases List.eq_nil_or_concat' ns with rfl | ⟨front, last, rfl⟩
        · cases hn.symm.trans hup
        · obtain ⟨es, hes, _⟩ := Node.dir_of_get?_concat hn
          rw [List.reverse_append, List.reverse_singleton, List.singleton_append, List.tail_cons,
            List.reverse_reverse, hes] at hup
          cases hup
      · cases h
    · rename_i hup
      split at h
      · cases h
      · rename_i hlong
        split at h
        · rename_i c hc
          cases h
          exact ⟨entries, rfl, by simp, hc, by simpa using hup, hlong⟩
        · split at h <;> cases h

/-- Where directories stay, a path to a file leads to its place. -/
theorem SameDirs.locate_file (hs : SameDirs t t') {old : Data}
    (h : t.locate p = .ok (.node names (.file old))) (hget : t'.root.get? names = some (.file d)) :
    t'.locate p = .ok (.node names (.file d)) := by
  simp only [Tree.locate] at h ⊢
  rw [hs.here]
  generalize (if p.absolute then p.names else t.here.names ++ p.names) = xs at h ⊢
  rcases List.eq_nil_or_concat' xs with rfl | ⟨ys, x, rfl⟩
  · simp only [step, Except.ok.injEq, Place.node.injEq] at h ⊢
    obtain ⟨rfl, hroot⟩ := h
    exact ⟨rfl, Option.some.inj hget⟩
  · obtain ⟨ns, n, hys, hx⟩ := step_concat h
    have hn := step_eq_node rfl hys
    obtain ⟨entries, rfl, rfl, _, hup, hlong⟩ := step_file hn hx
    obtain ⟨entries', hys'⟩ := step_stable (fun _ => hs.dirs _) rfl rfl hys
    rw [step_append hys', step_single hup hlong]
    obtain ⟨es, hes, hlookup⟩ := Node.dir_of_get?_concat hget
    rw [step_eq_node rfl hys'] at hes
    cases hes
    rw [hlookup]
    simp

theorem get?_of_kindAt_file (h : t.kindAt names = some (.file d)) :
    t.root.get? names = some (.file d) := by
  obtain ⟨n, hn, hk⟩ := Option.map_eq_some_iff.mp h
  cases n with
  | file e =>
    rw [hn]
    cases hk
    rfl
  | dir => cases hk

namespace Overlaid

/-- A path to a file leads to a file at the same place. -/
theorem locate_file (ho : Overlaid suffixes W D t t')
    (h : t.locate p = .ok (.node names (.file d))) :
    ∃ d', t'.locate p = .ok (.node names (.file d')) ∧ (¬W names → d' = d) := by
  have hfile := locate_eq_node h
  obtain ⟨d', hd', hsame⟩ := ho.files names d (by rw [kindAt, Node.kindAt, hfile]; rfl)
  exact ⟨d', ho.sameDirs.locate_file h (get?_of_kindAt_file hd'), hsame⟩

theorem exists_file (ho : Overlaid suffixes W D t t') (h : t.node p = .ok (.file d)) :
    ∃ d', t'.node p = .ok (.file d') := by
  obtain ⟨ns, hl⟩ := node_eq_ok h
  obtain ⟨d', hl', _⟩ := ho.locate_file hl
  exact ⟨d', by rw [node, hl']⟩

theorem node_file (ho : Overlaid suffixes W D t t') (h : t.node p = .ok (.file d))
    (hw : ¬W (t.resolve p).names) : t'.node p = .ok (.file d) := by
  obtain ⟨ns, hl⟩ := node_eq_ok h
  obtain ⟨d', hl', hsame⟩ := ho.locate_file hl
  have hns := locate_names hl
  rw [← hns] at hw
  cases hsame hw
  rw [node, hl']

theorem node_dir (ho : Overlaid suffixes W D t t') (h : t.node p = .ok (.dir entries)) :
    ∃ entries', t'.node p = .ok (.dir entries') := by
  obtain ⟨ns, hl⟩ := node_eq_ok h
  obtain ⟨entries', hl'⟩ := ho.sameDirs.locate hl
  exact ⟨entries', by rw [node, hl']⟩

/-- A search below a directory finds the same files. -/
theorem find_eq (ho : Overlaid suffixes W D t t') (h : t.node p = .ok (.dir entries))
    {suffix : String} (hs : suffix ∈ suffixes) (exclude : String → Bool) :
    t'.find p suffix exclude = t.find p suffix exclude := by
  obtain ⟨ns, hl⟩ := node_eq_ok h
  obtain ⟨entries', hl'⟩ := ho.sameDirs.locate hl
  obtain ⟨es, hes, hfound⟩ := ho.found ns entries (locate_eq_node hl)
  rw [locate_eq_node hl'] at hes
  cases hes
  rw [find, find, node, hl', h]
  dsimp only
  rw [hfound suffix hs exclude]

theorem readText_eq (ho : Overlaid suffixes W D t t') (h : t.node p = .ok (.file d))
    (hw : ¬W (t.resolve p).names) : t'.readText p = t.readText p := by
  simp only [readText, read, h, ho.node_file h hw]

end Overlaid

theorem node_of_read (h : t.read p = .ok d) : t.node p = .ok (.file d) := by
  unfold read at h
  split at h
  · rename_i hn
    cases h
    exact hn
  · cases h
  · cases h

theorem node_of_readText {s : String} (h : t.readText p = .ok s) :
    ∃ d, t.node p = .ok (.file d) := by
  simp only [readText] at h
  split at h
  · cases h
  · rename_i d hd
    exact ⟨d, node_of_read hd⟩

/-- The place of a file has the last name of a path to it. -/
theorem endsIn_of_file {suffix : String} (h : t.node p = .ok (.file d)) (hn : p.names ≠ [])
    (hm : matchesSuffix suffix p.name = true) : EndsIn suffix (t.resolve p).names := by
  obtain ⟨ns, hl⟩ := node_eq_ok h
  have hplace := locate_names hl
  obtain ⟨front, last, hlast⟩ := (List.eq_nil_or_concat' p.names).resolve_left hn
  have hname : p.name = last := by simp [Path.name, hlast]
  have hwalk : ∃ start, (if p.absolute then p.names else t.here.names ++ p.names) =
      start ++ [last] := by
    split
    · exact ⟨front, hlast⟩
    · exact ⟨t.here.names ++ front, by rw [hlast, List.append_assoc]⟩
  obtain ⟨start, hstart⟩ := hwalk
  simp only [locate, hstart] at hl
  obtain ⟨ns', n, hfirst, hx⟩ := step_concat hl
  obtain ⟨_, _, hns, _, _, _⟩ := step_file (step_eq_node rfl hfirst) hx
  rw [← hplace, Place.names, hns]
  exact ⟨ns', last, rfl, hname ▸ hm⟩

/-- What is found by a suffix is read as before. -/
theorem Overlaid.readText_found (ho : Overlaid suffixes W D t t') (hu : Unfound suffixes W)
    {suffix s : String} (hs : suffix ∈ suffixes) (hn : p.names ≠ [])
    (hm : matchesSuffix suffix p.name = true) (h : t.readText p = .ok s) :
    t'.readText p = .ok s := by
  obtain ⟨d, hd⟩ := node_of_readText h
  rw [ho.readText_eq hd fun hw => hu _ hw suffix hs (endsIn_of_file hd hn hm), h]

/-! Resolved paths. -/

theorem step_follow (root : Node) (back : List String) {node : Node} {xs : List String}
    (hp : ".." ∉ xs) :
    (match step root back node xs with
      | .ok (.node _ n) => .ok n
      | .ok (.free ..) => .error .missing
      | .error f => .error f) = node.follow xs := by
  induction xs generalizing back node with
  | nil => rfl
  | cons x rest ih =>
    simp only [List.mem_cons, not_or] at hp
    cases node with
    | file => rfl
    | dir entries =>
      simp only [step, Node.isDir, Node.child?, Node.follow, beq_iff_eq, Ne.symm hp.1, if_false,
        Bool.not_true, Bool.false_eq_true]
      by_cases hl : x.utf8ByteSize > maxNameBytes
      · rw [if_pos hl, if_pos hl]
      · rw [if_neg hl, if_neg hl]
        cases entries.lookup x with
        | some c => exact ih _ hp.2
        | none => cases rest <;> rfl

/-- What lies at a resolved path is what its names lead to. -/
theorem node_resolved (hp : p.Resolved) :
    t.node p = (t.root.follow p.names).mapError (failure p) := by
  have habs : p.absolute = true := by simp [Path.absolute, hp.anchor]
  rw [← step_follow t.root [] hp.plain]
  simp only [node, locate, habs, if_true]
  cases step t.root [] t.root p.names with
  | error => rfl
  | ok pl => cases pl <;> rfl

/-- The names of a place are those that were followed, or some of them. -/
theorem step_short {root node n : Node} {back xs ns : List String}
    (h : step root back node xs = .ok (.node ns n))
    (hb : ∀ x ∈ back, x.utf8ByteSize ≤ maxNameBytes) : ∀ x ∈ ns, x.utf8ByteSize ≤ maxNameBytes := by
  induction xs generalizing back node with
  | nil =>
    cases h
    intro x hx
    exact hb x (List.mem_reverse.mp hx)
  | cons y rest ih =>
    rw [step] at h
    split at h
    · cases h
    · split at h
      · split at h
        · exact ih h fun x hx => hb x (List.mem_of_mem_tail hx)
        · cases h
      · split at h
        · cases h
        · rename_i hl
          split at h
          · exact ih h (List.forall_mem_cons.mpr ⟨Nat.le_of_not_lt hl, hb⟩)
          · split at h <;> cases h

/-- What lies at a path lies at its resolved form. -/
theorem node_resolve {n : Node} (h : t.node p = .ok n) : t.node (t.resolve p) = .ok n := by
  obtain ⟨ns, hl⟩ := node_eq_ok h
  have hplace : ns = (t.resolve p).names := locate_names hl
  have hr : (t.resolve p).Resolved := Path.resolved_resolve t.here p
  rw [node_resolved hr, ← hplace,
    Node.follow_eq_ok_iff.mpr ⟨locate_eq_node hl, step_short hl nofun⟩]
  rfl

/-- What can be found at a resolved path. -/
inductive Seen (t : Tree) (p : Path) : Prop where
  | file (d : Data) (h : t.node p = .ok (.file d))
  | directory (entries : List (String × Node)) (h : t.node p = .ok (.dir entries))
  | missing (h : t.node p = .error (failure p .missing))
  | notDirectory (h : t.node p = .error (failure p .notDirectory))
  | tooLong (h : t.node p = .error (failure p .nameTooLong))

theorem seen (t : Tree) (hp : p.Resolved) : Seen t p := by
  have hnode := node_resolved (t := t) hp
  cases hf : t.root.follow p.names with
  | ok n =>
    rw [hf] at hnode
    cases n with
    | file d => exact .file d hnode
    | dir entries => exact .directory entries hnode
  | error f =>
    rw [hf] at hnode
    rcases Node.follow_fault hf with rfl | rfl | rfl
    · exact .missing hnode
    · exact .notDirectory hnode
    · exact .tooLong hnode

theorem isDir_eq_true_iff : t.isDir p = .ok true ↔ ∃ entries, t.node p = .ok (.dir entries) := by
  simp only [isDir]
  cases t.node p with
  | error e =>
    dsimp only
    split <;> simp
  | ok n => cases n <;> simp [Node.isDir]

theorem isDir_file (h : t.node p = .ok (.file d)) : t.isDir p = .ok false := by
  simp only [isDir, h]
  rfl

theorem isDir_fault {f : Fault} (h : t.node p = .error (failure p f)) (hf : f ≠ .nameTooLong) :
    t.isDir p = .ok false := by
  simp only [isDir, h, failure]
  rw [if_neg (by simpa using hf)]

theorem isDir_tooLong (h : t.node p = .error (failure p .nameTooLong)) :
    t.isDir p = .error (failure p .nameTooLong) := by
  simp only [isDir, h, failure]
  rfl

theorem exists_node {n : Node} (h : t.node p = .ok n) : t.exists p = .ok true := by
  simp only [Tree.exists, h]

theorem exists_fault {f : Fault} (h : t.node p = .error (failure p f)) (hf : f ≠ .nameTooLong) :
    t.exists p = .ok false := by
  simp only [Tree.exists, h, failure]
  rw [if_neg (by simpa using hf)]

theorem readText_dir (h : t.node p = .ok (.dir entries)) :
    t.readText p = .error (.file (failure p .isDirectory)) := by
  simp only [readText, read, h]

theorem readText_fault {e : FileError} (h : t.node p = .error e) :
    t.readText p = .error (.file e) := by
  simp only [readText, read, h]

theorem kindAt_of_fault {f : Fault} (hp : p.Resolved) (h : t.node p = .error (failure p f))
    (hf : f ≠ .nameTooLong) : t.kindAt p.names = none := by
  rw [node_resolved hp] at h
  obtain ⟨f', hfollow, he⟩ := exists_of_mapError h
  cases he
  exact Node.kindAt_of_follow_fault hfollow hf

theorem node_child_of_fault {f : Fault} (hp : p.Resolved) (h : t.node p = .error (failure p f))
    (hn : name ≠ "..") : t.node (p.child name) = .error (failure (p.child name) f) := by
  have hc : (p.child name).Resolved :=
    ⟨hp.anchor, by simpa [Path.child] using ⟨hp.plain, Ne.symm hn⟩⟩
  rw [node_resolved hp] at h
  obtain ⟨f', hfollow, he⟩ := exists_of_mapError h
  cases he
  rw [node_resolved hc]
  change (t.root.follow (p.names ++ [name])).mapError _ = _
  rw [Node.follow_append hfollow]
  rfl

theorem kindAt_of_node {n : Node} (hp : p.Resolved) (h : t.node p = .ok n) :
    t.kindAt p.names = some n.kind := by
  rw [kindAt, Node.kindAt, get?_of_node hp h]
  rfl

/-- What holds a file is a directory, unless the file is all that there is. -/
theorem node_parent (hp : p.Resolved) (h : t.node p = .ok (.file d)) :
    p.names = [] ∨ ∃ entries, t.node p.parent = .ok (.dir entries) := by
  obtain ⟨anchor, names⟩ := p
  rcases List.eq_nil_or_concat' names with rfl | ⟨front, last, rfl⟩
  · exact Or.inl rfl
  · have hparent : (Path.parent ⟨anchor, front ++ [last]⟩) = ⟨anchor, front⟩ := by
      simp [Path.parent]
    have hr : (Path.mk anchor front).Resolved := ⟨hp.anchor, fun hm => hp.plain (by simp [hm])⟩
    rw [node_resolved hp] at h
    obtain ⟨hget, hshort⟩ := Node.follow_eq_ok_iff.mp (eq_ok_of_mapError h)
    obtain ⟨entries, hes, _⟩ := Node.dir_of_get?_concat hget
    refine Or.inr ⟨entries, ?_⟩
    rw [hparent, node_resolved hr,
      Node.follow_eq_ok_iff.mpr ⟨hes, fun x hx => hshort x (List.mem_append_left _ hx)⟩]
    rfl

/-- No file is written at or above a path, and no directory is made above it in which the next name
of the path is too long. -/
def Clear (W D : List String → Prop) (p : Path) : Prop :=
  ∀ q, q <+: p.names → ¬W q ∧
    (D q → ∀ x, q ++ [x] <+: p.names → x.utf8ByteSize ≤ maxNameBytes)

theorem Clear.not_written (h : Clear W D p) : ¬W p.names := (h p.names (List.prefix_refl _)).1

namespace Overlaid

theorem grownAlong (ho : Overlaid suffixes W D t t') (hc : Clear W D p) :
    Node.GrownAlong p.names t.root t'.root where
  dirs := fun _ _ hd => ho.dirs hd
  files := fun q d _ hf => (ho.files q d hf).imp fun _ h => h.1
  new := by
    intro q hq hn
    rcases ho.new q hn with h | ⟨hdir, hd⟩ | ⟨_, hw⟩
    · exact Or.inl h
    · exact Or.inr ⟨hdir, (hc q hq).2 hd⟩
    · exact absurd hw (hc q hq).1

/-- What was missing at a path is missing still, or it is a new directory. -/
theorem node_missing (ho : Overlaid suffixes W D t t') (hp : p.Resolved) (hc : Clear W D p)
    (h : t.node p = .error (failure p .missing)) :
    t'.node p = .error (failure p .missing) ∨ ∃ entries, t'.node p = .ok (.dir entries) := by
  rw [node_resolved hp] at h ⊢
  obtain ⟨f, hf, he⟩ := exists_of_mapError h
  cases he
  rcases (ho.grownAlong hc).follow_missing hf with h' | ⟨entries, h'⟩
  · exact Or.inl (by rw [h']; rfl)
  · exact Or.inr ⟨entries, by rw [h']; rfl⟩

theorem node_notDirectory (ho : Overlaid suffixes W D t t') (hp : p.Resolved) (hc : Clear W D p)
    (h : t.node p = .error (failure p .notDirectory)) :
    t'.node p = .error (failure p .notDirectory) := by
  rw [node_resolved hp] at h ⊢
  obtain ⟨f, hf, he⟩ := exists_of_mapError h
  cases he
  rw [(ho.grownAlong hc).follow_notDirectory hf]
  rfl

/-- A file at a path where none was written is an old one. -/
theorem node_file_old (ho : Overlaid suffixes W D t t') (hp : p.Resolved) (hw : ¬W p.names)
    (h : t'.node p = .ok (.file d)) : t.node p = .ok (.file d) := by
  rw [node_resolved hp] at h ⊢
  obtain ⟨hget, hshort⟩ := Node.follow_eq_ok_iff.mp (eq_ok_of_mapError h)
  have hkind' : t'.kindAt p.names = some (.file d) := by
    rw [kindAt, Node.kindAt, hget]
    rfl
  have hold : t.root.get? p.names = some (.file d) := by
    cases hn : t.root.get? p.names with
    | none =>
      have hnone : t.kindAt p.names = none := by rw [kindAt, Node.kindAt, hn]; rfl
      rcases ho.new _ hnone with h' | ⟨h', _⟩ | ⟨_, h'⟩
      · rw [hkind'] at h'
        cases h'
      · rw [hkind'] at h'
        cases h'
      · exact absurd h' hw
    | some n =>
      have hsome : t.kindAt p.names = some n.kind := by rw [kindAt, Node.kindAt, hn]; rfl
      cases n with
      | dir entries =>
        rw [ho.dirs hsome] at hkind'
        cases hkind'
      | file e =>
        obtain ⟨d', hd', hsame⟩ := ho.files _ e hsome
        rw [hkind'] at hd'
        cases hd'
        rw [hsame hw]
  rw [Node.follow_eq_ok_iff.mpr ⟨hold, hshort⟩]
  rfl

/-- A search beside a file finds the same files. -/
theorem find_beside (ho : Overlaid suffixes W D t t') (hp : p.Resolved)
    (h : t.node p = .ok (.file d)) {suffix : String} (hs : suffix ∈ suffixes)
    (exclude : String → Bool) :
    t'.find p.parent suffix exclude = t.find p.parent suffix exclude := by
  rcases node_parent hp h with hnil | ⟨entries, hdir⟩
  · have hparent : p.parent = p := by
      obtain ⟨anchor, names⟩ := p
      cases hnil
      rfl
    obtain ⟨d', h'⟩ := ho.exists_file h
    rw [hparent, find, find, h, h']
    simp only [Node.find]
  · exact ho.find_eq hdir hs exclude

end Overlaid

end Stencil.Files.Tree
