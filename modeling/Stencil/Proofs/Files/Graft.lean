import Stencil.Proofs.Files.Writing

/-!
A tree with one more entry in one of its directories. What is written at or below the entry leaves
such a tree again, and without the entry the tree is the one before. A path to a directory leads to
the same place in every tree that has at least the same directories.
-/
namespace Stencil.Files.Tree

variable {t t' : Tree} {p : Path} {d : Data} {parent more : List String} {name : String}
  {entries : List (String × Node)} {root root' node node' n : Node} {back ns xs ys : List String}

/-- A name that a directory does not have. -/
def Vacant (t : Tree) (parent : List String) (name : String) : Prop :=
  ∃ entries, t.root.get? parent = some (.dir entries) ∧ entries.lookup name = none

/-- A tree with something at a place. -/
def graft (t : Tree) (parent : List String) (name : String) (node : Node) : Tree :=
  { t with root := Node.put node (parent ++ [name]) t.root }

theorem kindAt_graft (h : t.Vacant parent name) (node : Node) (names : List String) :
    (t.graft parent name node).kindAt names =
      if parent ++ [name] <+: names then node.kindAt (names.drop (parent.length + 1))
      else t.kindAt names := by
  obtain ⟨entries, hp, _⟩ := h
  exact Node.kindAt_put hp names

/-- Nothing lies at a vacant place or below. -/
theorem Vacant.kindAt_eq_none (h : t.Vacant parent name) {names : List String}
    (hn : parent ++ [name] <+: names) : t.kindAt names = none := by
  obtain ⟨entries, hp, hf⟩ := h
  obtain ⟨more, rfl⟩ := hn
  rw [List.append_assoc]
  exact kindAt_below_free hp hf more

/-- What lies anywhere in a tree stays. -/
theorem Vacant.kindAt_graft_eq (h : t.Vacant parent name) (node : Node) {names : List String}
    (hn : t.kindAt names ≠ none) : (t.graft parent name node).kindAt names = t.kindAt names := by
  rw [kindAt_graft h, if_neg fun hp => hn (h.kindAt_eq_none hp)]

theorem write_graft (h : t.Vacant parent name)
    (hw : (t.graft parent name node).write p d = .ok t')
    (hp : (t.resolve p).names = parent ++ name :: more) :
    t' = t.graft parent name (Node.put (.file d) more node) := by
  obtain ⟨entries, hdir, _⟩ := h
  rw [write_root hw]
  change { t with root := Node.put (.file d) (t.resolve p).names _ } = _
  rw [hp, graft, Node.put_put hdir]
  rfl

theorem makeDir_graft (h : t.Vacant parent name)
    (hw : (t.graft parent name node).makeDir p = .ok t')
    (hp : (t.resolve p).names = parent ++ name :: more) :
    t' = t.graft parent name (Node.put (.dir []) more node) := by
  obtain ⟨entries, hdir, _⟩ := h
  rw [makeDir_root hw]
  change { t with root := Node.put (.dir []) (t.resolve p).names _ } = _
  rw [hp, graft, Node.put_put hdir]
  rfl

/-! Following paths. -/

theorem step_append (h : step root back node xs = .ok (.node ns n)) (ys : List String) :
    step root back node (xs ++ ys) = step root ns.reverse n ys := by
  induction xs generalizing back node with
  | nil =>
    simp only [step, Except.ok.injEq, Place.node.injEq] at h
    obtain ⟨rfl, rfl⟩ := h
    rw [List.nil_append, List.reverse_reverse]
  | cons x rest ih =>
    simp only [step] at h
    simp only [List.cons_append, step]
    split at h
    · cases h
    · rename_i hdir
      rw [if_neg hdir]
      split at h
      · rename_i hup
        rw [if_pos hup]
        split at h
        · exact ih h
        · cases h
      · rename_i hup
        rw [if_neg hup]
        split at h
        · cases h
        · rename_i hlong
          rw [if_neg hlong]
          split at h
          · exact ih h
          · split at h <;> cases h

/-- What is followed to a directory is one. -/
theorem isDir_of_step (h : step root back node xs = .ok (.node ns (.dir entries))) :
    node.isDir = true := by
  cases xs with
  | nil =>
    simp only [step, Except.ok.injEq, Place.node.injEq] at h
    rw [h.2]
    rfl
  | cons x rest =>
    simp only [step] at h
    split at h
    · cases h
    · rename_i hdir
      simpa using hdir

private theorem kindAt_of_isDir {names : List String} (h : root.get? names = some node)
    (hd : node.isDir = true) : root.kindAt names = some .directory := by
  cases node with
  | file => cases hd
  | dir entries => rw [Node.kindAt, h]; rfl

/-- A path to a directory leads to the same place where the same directories lie. -/
theorem step_stable (hk : ∀ names, root.kindAt names = some .directory →
      root'.kindAt names = some .directory)
    (hb : root.get? back.reverse = some node) (hb' : root'.get? back.reverse = some node')
    (h : step root back node xs = .ok (.node ns (.dir entries))) :
    ∃ entries', step root' back node' xs = .ok (.node ns (.dir entries')) := by
  have hdir' : ∃ entries', node' = .dir entries' := by
    have := hk _ (kindAt_of_isDir hb (isDir_of_step h))
    obtain ⟨entries', hd⟩ := Node.exists_dir_of_kindAt this
    rw [hb'] at hd
    exact ⟨entries', Option.some.inj hd⟩
  obtain ⟨entries', rfl⟩ := hdir'
  induction xs generalizing back node entries' with
  | nil =>
    simp only [step, Except.ok.injEq, Place.node.injEq] at h
    exact ⟨entries', by rw [step, h.1]⟩
  | cons x rest ih =>
    simp only [step] at h
    simp only [step, Node.isDir]
    split at h
    · cases h
    · split at h
      · rename_i hup
        rw [if_pos hup]
        split at h
        · rename_i up hroot
          have hup' := hk _ (kindAt_of_isDir hroot (isDir_of_step h))
          obtain ⟨es, hes⟩ := Node.exists_dir_of_kindAt hup'
          rw [hes]
          exact ih hroot h es hes
        · cases h
      · rename_i hup
        rw [if_neg hup]
        split at h
        · cases h
        · rename_i hlong
          rw [if_neg hlong]
          split at h
          · rename_i c hc
            have hback : root.get? (x :: back).reverse = some c := by
              rw [List.reverse_cons, Node.get?_concat, hb]
              exact hc
            have hc' := hk _ (kindAt_of_isDir hback (isDir_of_step h))
            obtain ⟨es, hes⟩ := Node.exists_dir_of_kindAt hc'
            have hchild : (Node.dir entries').child? x = some (.dir es) := by
              rw [List.reverse_cons, Node.get?_concat, hb'] at hes
              exact hes
            rw [hchild]
            exact ih hback h es hes
          · split at h <;> cases h

/-- The directories of a tree lie in another one as well. -/
structure SameDirs (t t' : Tree) : Prop where
  here : t'.here = t.here
  dirs : ∀ names, t.kindAt names = some .directory → t'.kindAt names = some .directory

theorem SameDirs.refl (t : Tree) : SameDirs t t := ⟨rfl, fun _ h => h⟩

theorem SameDirs.trans {mid : Tree} (h : SameDirs t mid) (k : SameDirs mid t') : SameDirs t t' :=
  ⟨k.here.trans h.here, fun names hd => k.dirs names (h.dirs names hd)⟩

/-- Writing puts a file where no directory is. -/
theorem sameDirs_write (h : t.write p d = .ok t') : SameDirs t t' where
  here := here_write h
  dirs := by
    intro names hd
    rw [kindAt_write h, if_neg, hd]
    rintro rfl
    exact kindAt_of_write h hd

theorem Grown.sameDirs {on : Path → Prop} (h : Grown on t t') : SameDirs t t' where
  here := h.here
  dirs := fun names hd => (h.kept names (by rw [hd]; simp)).trans hd

theorem SameDirs.locate (hs : SameDirs t t') (h : t.locate p = .ok (.node ns (.dir entries))) :
    ∃ entries', t'.locate p = .ok (.node ns (.dir entries')) := by
  simp only [Tree.locate] at h ⊢
  rw [hs.here]
  exact step_stable hs.dirs rfl rfl h

theorem Vacant.sameDirs (h : t.Vacant parent name) (node : Node) :
    SameDirs t (t.graft parent name node) where
  here := rfl
  dirs := by
    intro names hd
    rw [h.kindAt_graft_eq node (by rw [hd]; simp), hd]

theorem locate_child (h : t.locate p = .ok (.node ns n)) (name : String) :
    t.locate (p.child name) = step t.root ns.reverse n [name] := by
  rw [← step_append h [name]]
  change step t.root [] t.root (if p.absolute then p.names ++ [name]
    else t.here.names ++ (p.names ++ [name])) = _
  split
  · rfl
  · rw [List.append_assoc]

/-- A name in a directory is free, or it leads to what the directory has under it. -/
theorem step_single (hn : name ≠ "..") (hl : ¬name.utf8ByteSize > maxNameBytes) :
    step root back (.dir entries) [name] =
      match entries.lookup name with
      | some c => .ok (.node (name :: back).reverse c)
      | none => .ok (.free back.reverse name) := by
  simp only [step, Node.isDir, Node.child?]
  cases entries.lookup name with
  | none => simp [hn, hl]
  | some c => simp [hn, hl]

/-- A free name in the directory that a path leads to. -/
structure Free (t : Tree) (p : Path) (parent : List String) (name : String) : Prop where
  directory : ∃ entries, t.locate p = .ok (.node parent (.dir entries))
  locate : t.locate (p.child name) = .ok (.free parent name)
  notUp : name ≠ ".."

theorem Free.vacant (hf : t.Free p parent name) : t.Vacant parent name := locate_eq_free hf.locate

theorem Free.short (hf : t.Free p parent name) : ¬name.utf8ByteSize > maxNameBytes := by
  intro hl
  obtain ⟨entries, hp⟩ := hf.directory
  have hlocate := hf.locate
  rw [locate_child hp] at hlocate
  simp only [step, Node.isDir, beq_iff_eq, hf.notUp, hl, if_true, if_false, Bool.not_true,
    Bool.false_eq_true] at hlocate
  cases hlocate

/-- What is put at a free name is found there. -/
theorem Free.locate_graft (hf : t.Free p parent name) (node : Node) :
    (t.graft parent name node).locate (p.child name) = .ok (.node (parent ++ [name]) node) := by
  obtain ⟨entries, hp⟩ := hf.directory
  have hl := hf.short
  obtain ⟨es, hes, hfree⟩ := hf.vacant
  obtain ⟨es', hloc⟩ := (hf.vacant.sameDirs node).locate hp
  rw [locate_child hloc, step_single hf.notUp hl]
  have hlook : es'.lookup name = some node := by
    have hget : (t.graft parent name node).root.get? (parent ++ [name]) = some node :=
      Node.get?_put_self hes node
    obtain ⟨es₂, hes₂, hlook⟩ := Node.dir_of_get?_concat hget
    rw [locate_eq_node hloc] at hes₂
    cases hes₂
    exact hlook
  rw [hlook]
  simp

/-- Taking away what was put at a free name leaves the tree that was before. -/
theorem Free.removeAll_graft (hf : t.Free p parent name) (node : Node) :
    (t.graft parent name node).removeAll (p.child name) = t := by
  obtain ⟨es, hdir, hfree⟩ := hf.vacant
  rw [removeAll, hf.locate_graft]
  simp only [graft, Node.remove_put hdir hfree]

/-- A tree with the directories of another one and with a new one, in which there may be more. -/
structure Gains (t : Tree) (parent : List String) (name : String) (t' : Tree) : Prop where
  here : t'.here = t.here
  unit : t'.kindAt (parent ++ [name]) = some .directory
  rest : ∀ names, ¬parent ++ [name] <+: names →
    (t'.kindAt names = some .directory ↔ t.kindAt names = some .directory)

theorem Vacant.gains (h : t.Vacant parent name) (entries : List (String × Node)) :
    t.Gains parent name (t.graft parent name (.dir entries)) where
  here := rfl
  unit := by
    rw [kindAt_graft h, if_pos (List.prefix_refl _), List.drop_of_length_le (by simp)]
    rfl
  rest := by
    intro names hn
    rw [kindAt_graft h, if_neg hn]

theorem Gains.sameDirs (h : t.Gains parent name t') (hv : t.Vacant parent name) :
    SameDirs t t' where
  here := h.here
  dirs := by
    intro names hd
    refine (h.rest names fun hp => ?_).mpr hd
    rw [hv.kindAt_eq_none hp] at hd
    cases hd

/-- The new directory is found at its name. -/
theorem Gains.locate (hf : t.Free p parent name) (h : t.Gains parent name t') :
    ∃ entries, t'.locate (p.child name) = .ok (.node (parent ++ [name]) (.dir entries)) := by
  obtain ⟨entries, hp⟩ := hf.directory
  obtain ⟨es, hes⟩ := (h.sameDirs hf.vacant).locate hp
  obtain ⟨inner, hinner⟩ := Node.exists_dir_of_kindAt h.unit
  obtain ⟨es', hes', hlook⟩ := Node.dir_of_get?_concat hinner
  rw [locate_eq_node hes] at hes'
  cases hes'
  refine ⟨inner, ?_⟩
  rw [locate_child hes, step_single hf.notUp hf.short, hlook]
  simp

/-- Without the new directory, and all in it, the directories are those that were before. -/
theorem Gains.removeAll (hf : t.Free p parent name) (h : t.Gains parent name t')
    (names : List String) : (t'.removeAll (p.child name)).kindAt names = some .directory ↔
      t.kindAt names = some .directory := by
  obtain ⟨entries, hloc⟩ := h.locate hf
  have hkind : (t'.removeAll (p.child name)).kindAt names =
      if parent ++ [name] <+: names then none else t'.kindAt names := by
    rw [Tree.removeAll, hloc]
    exact Node.kindAt_remove parent name t'.root names
  rw [hkind]
  by_cases hp : parent ++ [name] <+: names
  · rw [if_pos hp, hf.vacant.kindAt_eq_none hp]
  · rw [if_neg hp]
    exact h.rest names hp

/-! Resolved names. -/

theorem resolve_append (t : Tree) (p : Path) {rel : List String} (hr : ".." ∉ rel) :
    (t.resolve ⟨p.anchor, p.names ++ rel⟩).names = (t.resolve p).names ++ rel := by
  have hfold : ∀ (rel back : List String), ".." ∉ rel →
      (rel.foldl (fun back n => if n == ".." then back.tail else n :: back) back).reverse =
        back.reverse ++ rel := by
    intro rel
    induction rel with
    | nil => intro back _; simp
    | cons n rest ih =>
      intro back hr
      simp only [List.mem_cons, not_or] at hr
      rw [List.foldl_cons, ih _ hr.2, if_neg (by simpa using Ne.symm hr.1)]
      simp
  rw [resolve_names, resolve_names, show (⟨p.anchor, p.names ++ rel⟩ : Path).absolute =
    p.absolute from rfl, Path.collapse, Path.collapse]
  cases p.absolute with
  | true => exact (congrArg List.reverse List.foldl_append).trans (hfold _ _ hr)
  | false =>
    simp only [Bool.false_eq_true, if_false]
    rw [← List.append_assoc, List.foldl_append, hfold _ _ hr]

theorem resolve_child (t : Tree) (p : Path) (hn : name ≠ "..") :
    (t.resolve (p.child name)).names = (t.resolve p).names ++ [name] :=
  resolve_append t p (by simpa using Ne.symm hn)

/-- The place of a path below a free name. -/
theorem Free.resolve_names (hf : t.Free p parent name) {rel : List String} (hr : ".." ∉ rel)
    (node : Node) : ((t.graft parent name node).resolve ⟨p.anchor, p.names ++ name :: rel⟩).names =
      parent ++ name :: rel := by
  obtain ⟨entries, hp⟩ := hf.directory
  have hpath : (⟨p.anchor, p.names ++ name :: rel⟩ : Path) =
      ⟨(p.child name).anchor, (p.child name).names ++ rel⟩ := by simp [Path.child]
  change (t.resolve _).names = _
  rw [hpath, resolve_append t _ hr, resolve_child t p hf.notUp, ← locate_names hp]
  simp [Place.names]

/-- Writing below what was put at a free name stays below it. -/
theorem Free.write_graft (hf : t.Free p parent name) {q : Path} {rel : List String}
    (hq : q = ⟨p.anchor, p.names ++ name :: rel⟩) (hr : ".." ∉ rel)
    (hw : (t.graft parent name node).write q d = .ok t') :
    t' = t.graft parent name (Node.put (.file d) rel node) := by
  subst hq
  exact Tree.write_graft hf.vacant hw (hf.resolve_names hr node)

/-- The trees with something at a place. -/
def Grafted (t : Tree) (parent : List String) (name : String) (t' : Tree) : Prop :=
  ∃ node, t' = t.graft parent name node

/-- Making directories below what was put at a free name stays below it. -/
theorem Free.makeDirs_graft (hf : t.Free p parent name) {rel : List String} (hr : ".." ∉ rel)
    {q : Path} (hq : q = ⟨p.anchor, p.names ++ name :: rel⟩)
    (hm : (t.graft parent name node).makeDirs q = .ok t') : t.Grafted parent name t' := by
  subst hq
  have main : ∀ (fuel : Nat) (rel : List String) (node : Node) (t' : Tree), ".." ∉ rel →
      makeDirsFuel fuel (t.graft parent name node) ⟨p.anchor, p.names ++ name :: rel⟩ = .ok t' →
        t.Grafted parent name t' := by
    intro fuel
    induction fuel with
    | zero =>
      intro rel node t' _ hm
      exact ⟨node, acceptDir_eq hm⟩
    | succ fuel ih =>
      intro rel node t' hr hm
      simp only [makeDirsFuel] at hm
      split at hm
      · rename_i made hmade
        cases hm
        exact ⟨_, makeDir_graft hf.vacant hmade (hf.resolve_names hr node)⟩
      · rename_i e he
        split at hm
        · rename_i hmissing
          obtain ⟨mid, hmid, hm⟩ := bind_eq_ok hm
          rcases List.eq_nil_or_concat' rel with rfl | ⟨rel, x, rfl⟩
          · -- The directory itself is there, so this is not what is missing.
            have hself : (t.graft parent name node).locate ⟨p.anchor, p.names ++ [name]⟩ = _ :=
              hf.locate_graft node
            simp only [makeDir, hself] at he
            cases he
            simp [failure] at hmissing
          · have hup : (⟨p.anchor, p.names ++ name :: (rel ++ [x])⟩ : Path).parent =
                ⟨p.anchor, p.names ++ name :: rel⟩ := by
              have hlast : p.names ++ name :: (rel ++ [x]) = (p.names ++ name :: rel) ++ [x] := by
                simp
              rw [Path.parent, hlast, List.dropLast_concat]
            rw [hup] at hmid
            obtain ⟨node₁, rfl⟩ := ih rel node mid (fun h => hr (by simp [h])) hmid
            split at hm
            · rename_i made hmade
              cases hm
              exact ⟨_, makeDir_graft hf.vacant hmade (hf.resolve_names hr node₁)⟩
            · exact ⟨node₁, acceptDir_eq hm⟩
        · exact ⟨node, acceptDir_eq hm⟩
  exact main _ rel node t' hr hm

end Stencil.Files.Tree
