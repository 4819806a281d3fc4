import Stencil.Proofs.Project.Unusable

/-!
The entries of a solution. Every item that is listed has its own entry, in the order of the items:
it has a file exactly where something lies at its location, it does not compile exactly where that
is no descriptor that can be read, and a name that the item gives is its name. Only a location with
a name that is too long keeps a solution from being loaded.
-/
namespace Stencil.Project
open Stencil.Files

variable {t : Tree} {p raw file directory solution target : Path} {item : Plain} {path : String}
  {given : Option Plain} {l : Listed} {e : Entry} {items : List Plain}

/-- What an item of a solution says: where a project lies, and a name for it. -/
inductive Item : Plain → String → Option Plain → Prop where
  | path (s : String) : Item (.str s) s none
  | fields {fields : List (Plain × Plain)} {v : Plain} : Plain.valueOf? fields "path" = some v →
      Item (.dict fields) v.text (Plain.valueOf? fields "name")

/-- A solution that can be read, with these items. -/
structure WellFormed (t : Tree) (solution : Path) (fields : List (Plain × Plain))
    (items : List Plain) : Prop where
  read : readSolution t solution = .ok (.dict fields)
  listed : (Plain.valueOf? fields "projects").getD (.list []) = .list items
  items : ∀ item ∈ items, ∃ path given, Item item path given

/-- A path leads through directories to a name that is longer than any name in a directory. -/
def TooLong (t : Tree) (p : Path) : Prop := t.node p = .error (Tree.failure p .nameTooLong)

/-- The entry for what a solution lists, with the file that its location stands for and whether
there is something. -/
structure Represents (t : Tree) (directory : Path) (path : String) (given : Option Plain)
    (file : Path) (there : Bool) (e : Entry) : Prop where
  place : descriptorPath t (t.resolve (directory / path)) = .ok file
  found : t.exists file = .ok there
  located : e.file = if there then some file else none
  barred : e.compiles = false ↔
    there = true ∧ (isDescriptorName file = false ∨ ∃ x, Descriptor.read t file = .error x)
  named : ∀ v, given = some v → v.truth = true → e.name = v.text

/-- The entry that an item becomes. -/
def Becomes (t : Tree) (directory : Path) (item : Plain) (e : Entry) : Prop :=
  ∃ path given file there, Item item path given ∧ Represents t directory path given file there e

/-- A listed descriptor, if there is one, can be read, or it is reported as one that cannot. -/
def Readable (t : Tree) (directory : Path) (item : Plain) : Prop :=
  ∀ path given file, Item item path given →
    descriptorPath t (t.resolve (directory / path)) = .ok file → t.exists file = .ok true →
    isDescriptorName file = true → ReadsWell t file

/-- The name that is given to a project, if it says anything. -/
def nameOf (given : Option Plain) : Option String :=
  given.bind fun v => if v.truth then some v.text else none

theorem nameOf_eq_some {v : Plain} (h : given = some v) (hv : v.truth = true) :
    nameOf given = some v.text := by
  rw [h, nameOf, Option.bind_some, if_pos hv]

theorem Item.unique {path' : String} {given' : Option Plain} (h : Item item path given)
    (h' : Item item path' given') : path' = path ∧ given' = given := by
  cases h with
  | path => cases h'; exact ⟨rfl, rfl⟩
  | fields hv =>
    cases h' with
    | fields hv' =>
      obtain rfl := Option.some.inj (hv.symm.trans hv')
      exact ⟨rfl, rfl⟩

theorem Item.listedProject (h : Item item path given) :
    listedProject solution item = .ok ⟨path, nameOf given⟩ := by
  cases h with
  | path => rfl
  | @fields fields v hv =>
    simp only [Project.listedProject, hv]
    cases Plain.valueOf? fields "name" with
    | none => rfl
    | some name => rfl

/-- The projects that a solution lists are those that its items say. -/
theorem WellFormed.content {fields : List (Plain × Plain)} (h : WellFormed t solution fields items) :
    ∃ name listed, readSolution t solution >>= solutionContent solution = .ok (name, listed) ∧
      List.Forall₂ (fun item l => listedProject solution item = .ok l) items listed := by
  obtain ⟨listed, hlisted⟩ : ∃ listed, items.mapM (listedProject solution) = .ok listed := by
    rw [exists_mapM_eq_ok_iff]
    intro item hitem
    obtain ⟨path, given, hsays⟩ := h.items item hitem
    exact ⟨_, hsays.listedProject⟩
  obtain ⟨name, hname⟩ : ∃ name, solutionContent solution (.dict fields) = .ok (name, listed) := by
    simp only [solutionContent, h.listed, hlisted]
    exact ⟨_, rfl⟩
  refine ⟨name, listed, ?_, mapM_eq_ok_iff.mp hlisted⟩
  rw [h.read]
  exact hname

/-! Locations. -/

/-- A location can be looked at unless it leads to a name that is too long. -/
theorem looked_or_tooLong (hr : raw.Resolved) :
    (∃ file there, descriptorPath t raw = .ok file ∧ t.exists file = .ok there) ∨
      TooLong t raw ∧ ∃ e, descriptorPath t raw = .error e := by
  have plain : ∀ {there}, t.isDir raw = .ok false → t.exists raw = .ok there →
      ∃ file there, descriptorPath t raw = .ok file ∧ t.exists file = .ok there :=
    fun hdir hthere => ⟨raw, _, descriptorPath_plain hdir, hthere⟩
  cases t.seen hr with
  | file d h => exact .inl (plain (Tree.isDir_file h) (Tree.exists_node h))
  | missing h =>
    exact .inl (plain (Tree.isDir_fault h (by decide)) (Tree.exists_fault h (by decide)))
  | notDirectory h =>
    exact .inl (plain (Tree.isDir_fault h (by decide)) (Tree.exists_fault h (by decide)))
  | tooLong h =>
    refine .inr ⟨h, Tree.failure raw .nameTooLong, ?_⟩
    rw [descriptorPath, Tree.isDir_tooLong h]
    rfl
  | directory entries h =>
    refine .inl ⟨inside raw, ?_⟩
    -- The name of a descriptor is short enough for every directory.
    cases t.seen (resolved_inside hr) with
    | file _ hin | directory _ hin => exact ⟨true, descriptorPath_dir h, Tree.exists_node hin⟩
    | missing hin | notDirectory hin =>
      exact ⟨false, descriptorPath_dir h, Tree.exists_fault hin (by decide)⟩
    | tooLong hin =>
      rw [Tree.node_resolved (resolved_inside hr)] at hin
      obtain ⟨f, hf, hfault⟩ := exists_of_mapError hin
      obtain rfl : f = .nameTooLong := (congrArg FileError.fault hfault).symm
      rw [Tree.node_resolved hr] at h
      change t.root.follow (raw.names ++ ["pyproject.toml"]) = _ at hf
      rw [Node.follow_append_ok (eq_ok_of_mapError h), Node.follow, if_neg (by decide +kernel)] at hf
      split at hf <;> cases hf

theorem not_tooLong_of_descriptorPath (h : descriptorPath t raw = .ok file) : ¬TooLong t raw := by
  intro hlong
  rw [descriptorPath, Tree.isDir_tooLong hlong] at h
  cases h

/-- What is listed has an entry where its location can be looked at. -/
theorem exists_entryOf {there : Bool}
    (hplace : descriptorPath t (t.resolve (directory / l.path)) = .ok file)
    (hfound : t.exists file = .ok there)
    (hread : there = true → isDescriptorName file = true → ReadsWell t file) :
    ∃ lines e, entryOf t directory l = .ok (lines, e) := by
  rw [entryOf_eq hplace hfound]
  cases there with
  | false => exact ⟨_, _, rfl⟩
  | true =>
    cases hname : isDescriptorName file with
    | false => exact ⟨_, _, rfl⟩
    | true =>
      cases hd : Descriptor.read t file with
      | ok d => exact ⟨_, _, rfl⟩
      | error x =>
        have hload := hread rfl hname x hd
        simp only [Bool.not_true, Bool.false_eq_true, if_false, hload, if_true]
        exact ⟨_, _, rfl⟩

theorem exists_entriesOf {entry : Listed → Except LoadError (List String × Entry)}
    {listed : List Listed} (h : ∀ l ∈ listed, ∃ lines e, entry l = .ok (lines, e)) :
    ∃ es, (entriesOf entry listed).2 = .ok es := by
  induction listed with
  | nil => exact ⟨[], rfl⟩
  | cons l rest ih =>
    obtain ⟨lines, e, he⟩ := h l List.mem_cons_self
    obtain ⟨es, hes⟩ := ih fun l hl => h l (List.mem_cons_of_mem _ hl)
    refine ⟨e :: es, ?_⟩
    simp only [entriesOf, he]
    rw [hes]
    rfl

/-- An entry that was made for what an item says is what the claims about entries are about. -/
theorem represents_of_lists (h : Lists t directory ⟨path, nameOf given⟩ e) :
    ∃ file there, Represents t directory path given file there e := by
  cases h with
  | @absent file hlies =>
    refine ⟨file, false, hlies.place, hlies.found, rfl, by simp, ?_⟩
    intro v hv htruth
    rw [nameOf_eq_some hv htruth, Option.getD_some]
  | @other file hlies hname =>
    refine ⟨file, true, hlies.place, hlies.found, rfl, by simp [hname], ?_⟩
    intro v hv htruth
    rw [nameOf_eq_some hv htruth, Option.getD_some]
  | @unusable file fault hlies hname hfault =>
    refine ⟨file, true, hlies.place, hlies.found, rfl, ?_, ?_⟩
    · simp [read_of_unusable hfault]
    · intro v hv htruth
      rw [nameOf_eq_some hv htruth, Option.getD_some]
  | @described file d hlies hname hd =>
    refine ⟨file, true, hlies.place, hlies.found, congrArg some (hlies.path_eq hd), by simp [hname, hd], ?_⟩
    intro v hv htruth
    rw [nameOf_eq_some hv htruth, Option.getD_some]

theorem loadSolution_of_entries {name : String} {listed : List Listed} {es : List Entry}
    (h : readSolution t (t.resolve target) >>= solutionContent (t.resolve target) =
      .ok (name, listed))
    (hes : (entriesOf (entryOf t (t.resolve target).parent) listed).2 = .ok es) :
    (loadSolution t target).2 = .ok ⟨name, es⟩ := by
  simp only [loadSolution, h]
  rw [show entriesOf (entryOf t (t.resolve target).parent) listed = (_, .ok es) from
    Prod.ext rfl hes]

/-- What was listed for items says what the items say. -/
theorem eq_of_listedProject (h : Item item path given)
    (hl : listedProject solution item = .ok l) : l = ⟨path, nameOf given⟩ :=
  Except.ok.inj (hl.symm.trans h.listedProject)

theorem becomes_of_listed {listed : List Listed} {es : List Entry}
    (hitems : ∀ item ∈ items, ∃ path given, Item item path given)
    (hlisted : List.Forall₂ (fun item l => listedProject solution item = .ok l) items listed)
    (h : List.Forall₂ (Lists t directory) listed es) :
    List.Forall₂ (Becomes t directory) items es := by
  induction hlisted generalizing es with
  | nil =>
    cases h
    exact .nil
  | @cons item l items listed hl _ ih =>
    obtain ⟨e, es, he, hes, rfl⟩ := List.forall₂_cons_left_iff.mp h
    obtain ⟨path, given, hsays⟩ := hitems item List.mem_cons_self
    rw [eq_of_listedProject hsays hl] at he
    obtain ⟨file, there, hrep⟩ := represents_of_lists he
    exact .cons ⟨path, given, file, there, hsays, hrep⟩
      (ih (fun item hitem => hitems item (List.mem_cons_of_mem _ hitem)) hes)

/-- A solution is loaded exactly when none of its items leads to a name that is too long; then each
item has its own entry. -/
theorem loadSolution_items {fields : List (Plain × Plain)}
    (h : WellFormed t (t.resolve target) fields items)
    (hread : ∀ item ∈ items, Readable t (t.resolve target).parent item) :
    ((∃ w, (loadSolution t target).2 = .ok w) ↔ ∀ item ∈ items, ∀ path given,
      Item item path given → ¬TooLong t (t.resolve ((t.resolve target).parent / path))) ∧
    ∀ w, (loadSolution t target).2 = .ok w →
      List.Forall₂ (Becomes t (t.resolve target).parent) items w.projects := by
  obtain ⟨name, listed, hcontent, hlisted⟩ := h.content
  have loaded : ∀ w, (loadSolution t target).2 = .ok w →
      List.Forall₂ (Lists t (t.resolve target).parent) listed w.projects := by
    intro w hw
    rcases loadSolution_outcome hcontent with ⟨es, hes, hall⟩ | ⟨_, _, fault, hfault, _⟩
    · obtain rfl := Except.ok.inj (hw.symm.trans hes)
      exact hall
    · cases hw.symm.trans hfault
  have becomes := fun w hw => becomes_of_listed h.items hlisted (loaded w hw)
  refine ⟨⟨?_, ?_⟩, becomes⟩
  · rintro ⟨w, hw⟩ item hitem path given hsays
    obtain ⟨e, _, path', given', file, there, hsays', hrep⟩ := exists_partner (becomes w hw) hitem
    obtain ⟨rfl, rfl⟩ := hsays'.unique hsays
    exact not_tooLong_of_descriptorPath hrep.place
  · intro hshort
    obtain ⟨es, hes⟩ : ∃ es, (entriesOf (entryOf t (t.resolve target).parent) listed).2 = .ok es := by
      refine exists_entriesOf fun l hl => ?_
      obtain ⟨item, hitem, hsays⟩ := exists_partner hlisted.flip hl
      obtain ⟨path, given, hitem'⟩ := h.items item hitem
      obtain rfl := eq_of_listedProject hitem' hsays
      rcases looked_or_tooLong (Path.resolved_resolve t.here _) with
        ⟨file, there, hplace, hfound⟩ | ⟨hlong, _⟩
      · refine exists_entryOf hplace hfound ?_
        rintro rfl hname
        exact hread item hitem path given file hitem' hplace hfound hname
      · exact absurd hlong (hshort item hitem path given hitem')
    exact ⟨⟨name, es⟩, loadSolution_of_entries hcontent hes⟩

end Stencil.Project
