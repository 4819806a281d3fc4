import Stencil.Proofs.Project.Listing

/-!
Which files are loaded as solutions. A file is loaded exactly when its text is an empty document or
a mapping, whose projects, if it names any, are a list of items that can enter the workspace; or
when it is any other value that counts as false, which is taken for an empty mapping. What is not
loaded is refused as a solution, except where a place cannot be looked at, where bytes are no text,
where a scalar stands for no value and where a descriptor breaks off.
-/
namespace Stencil.Project
open Stencil.Files

/-- What the text of a file says. -/
def Says (t : Tree) (file : Path) (v : Plain) : Prop :=
  ∃ text, t.readText file = .ok text ∧ Yaml.read text = .ok v

/-- An item in which a project is listed. -/
def Listable (item : Plain) : Prop := ∃ path given, Item item path given

/-- A solution and its items. -/
inductive Solution : Plain → List Plain → Prop where
  | empty : Solution .none []
  | unlisted {fields} : Plain.valueOf? fields "projects" = none → Solution (.dict fields) []
  | listed {fields items} : Plain.valueOf? fields "projects" = some (.list items) →
      (∀ item ∈ items, Listable item) → Solution (.dict fields) items

/-- An item that becomes an entry: its location can be looked at, and its descriptor, if there is
one, can be read or is reported. -/
structure Enters (t : Tree) (directory : Path) (item : Plain) : Prop where
  near : ∀ path given, Item item path given → ¬TooLong t (t.resolve (directory / path))
  readable : Readable t directory item

/-- Why a file is refused as a solution. -/
inductive Refused (t : Tree) (file : Path) : LoadError → Prop where
  | missing {e} : t.readText file = .error (.file e) → e.fault = .missing →
      Refused t file (.notFound file)
  | text {text fault} : t.readText file = .ok text → Yaml.read text = .error fault →
      (∀ s, fault ≠ .scalar s) → Refused t file (.invalid file fault text)
  | shape {v} : Says t file v → v.truth = true →
      (∀ fields, v = .dict fields → ∃ projects, Plain.valueOf? fields "projects" = some projects ∧
        ∀ items, projects ≠ .list items) → Refused t file (.noMapping file)
  /-- The first item in which no project is listed is the one that shows. -/
  | item {fields before item after} : Says t file (.dict fields) →
      Plain.valueOf? fields "projects" = some (.list (before ++ item :: after)) →
      (∀ i ∈ before, Listable i) → ¬Listable item → Refused t file (.badEntry file item.listing)

/-- What else ends the loading of a solution. -/
inductive Interrupted (t : Tree) (file : Path) : LoadError → Prop where
  | place {e} : t.readText file = .error (.file e) → e.fault ≠ .missing →
      Interrupted t file (.unreadable (.file e))
  | bytes {e} : t.readText file = .error (.utf8 e) → Interrupted t file (.unreadable (.utf8 e))
  | scalar {text s} : t.readText file = .ok text → Yaml.read text = .error (.scalar s) →
      Interrupted t file (.invalid file (.scalar s) text)
  | entry {v items item path given x} : Says t file v → Solution v items → item ∈ items →
      Item item path given → Prevents t file.parent ⟨path, nameOf given⟩ x → Interrupted t file x

variable {t : Tree} {file solution target : Path} {v item : Plain} {items : List Plain}
  {x : LoadError}

theorem Refused.isLoadError (h : Refused t file x) : x.isLoadError = true := by
  cases h with
  | @text _ fault _ _ hfault =>
    cases fault with
    | scalar s => exact absurd rfl (hfault s)
    | _ => rfl
  | _ => rfl

theorem Interrupted.not_isLoadError (h : Interrupted t file x) : x.isLoadError = false := by
  cases h with
  | entry _ _ _ _ hx =>
    cases hx with
    | descriptor _ _ hbreaks => exact hbreaks.not_isLoadError
    | _ => rfl
  | _ => rfl

/-! Reading. -/

theorem readSolution_of_document (h : Says t file v) :
    readSolution t file = .ok (if v.truth then v else .dict []) := by
  obtain ⟨text, htext, hread⟩ := h
  simp only [readSolution, htext, hread]

/-- A file says something, or the reason why it does not shows. -/
theorem says_or_error (t : Tree) (file : Path) : (∃ v, Says t file v) ∨
    ∃ x, readSolution t file = .error x ∧ (Refused t file x ∨ Interrupted t file x) := by
  unfold readSolution
  split
  · rename_i e hread
    refine .inr ⟨_, rfl, ?_⟩
    split
    · rename_i hmissing
      exact .inl (.missing hread (beq_iff_eq.mp hmissing))
    · rename_i hother
      exact .inr (.place hread fun h => hother (beq_iff_eq.mpr h))
  · rename_i e hother hread
    cases e with
    | file e => exact absurd rfl (hother e)
    | utf8 e => exact .inr ⟨_, rfl, .inr (.bytes hread)⟩
  · rename_i text hread
    split
    · rename_i fault hfault
      refine .inr ⟨_, rfl, ?_⟩
      cases fault with
      | scalar s => exact .inr (.scalar hread hfault)
      | _ => exact .inl (.text hread hfault (by simp))
    · rename_i v hv
      exact .inl ⟨v, text, hread, hv⟩

/-! Items. -/

theorem listedProject_not_listable (h : ¬Listable item) :
    listedProject solution item = .error (.badEntry solution item.listing) := by
  unfold listedProject
  split
  · exact absurd ⟨_, _, .path _⟩ h
  · split
    · rename_i hv
      exact absurd ⟨_, _, .fields hv⟩ h
    · rfl
  · rfl

/-- The first item in which no project is listed. -/
theorem listable_or_first (items : List Plain) : (∀ item ∈ items, Listable item) ∨
    ∃ before item after, items = before ++ item :: after ∧ (∀ i ∈ before, Listable i) ∧
      ¬Listable item := by
  induction items with
  | nil => exact .inl fun _ h => nomatch h
  | cons item rest ih =>
    by_cases hitem : Listable item
    · rcases ih with hall | ⟨before, bad, after, rfl, hbefore, hbad⟩
      · exact .inl (List.forall_mem_cons.mpr ⟨hitem, hall⟩)
      · exact .inr ⟨item :: before, bad, after, rfl,
          List.forall_mem_cons.mpr ⟨hitem, hbefore⟩, hbad⟩
    · exact .inr ⟨[], item, rest, rfl, by simp, hitem⟩

/-- What a file says is false, a solution, or something that is refused. -/
theorem Says.cases (h : Says t file v) :
    v.truth = false ∨ (∃ items, Solution v items) ∨ ∃ x, Refused t file x := by
  cases htruth : v.truth with
  | false => exact .inl rfl
  | true =>
    right
    by_cases hshape : ∃ fields, v = .dict fields ∧ ∀ projects,
        Plain.valueOf? fields "projects" = some projects → ∃ items, projects = .list items
    · obtain ⟨fields, rfl, hprojects⟩ := hshape
      cases hvalue : Plain.valueOf? fields "projects" with
      | none => exact .inl ⟨_, .unlisted hvalue⟩
      | some projects =>
        obtain ⟨items, rfl⟩ := hprojects projects hvalue
        rcases listable_or_first items with hall | ⟨before, item, after, rfl, hbefore, hitem⟩
        · exact .inl ⟨_, .listed hvalue hall⟩
        · exact .inr ⟨_, .item h hvalue hbefore hitem⟩
    · push Not at hshape
      exact .inr ⟨_, .shape h htruth hshape⟩

/-! Loading. -/

theorem loadSolution_error
    (h : readSolution t (t.resolve target) >>= solutionContent (t.resolve target) = .error x) :
    (loadSolution t target).2 = .error x := by
  simp only [loadSolution, h]

theorem loadSolution_unread (h : readSolution t (t.resolve target) = .error x) :
    (loadSolution t target).2 = .error x := by
  apply loadSolution_error
  rw [h]
  rfl

theorem loadSolution_false (h : Says t (t.resolve target) v) (hfalse : v.truth = false) :
    (loadSolution t target).2 = .ok ⟨(t.resolve target).stem, []⟩ := by
  have hcontent : readSolution t (t.resolve target) >>= solutionContent (t.resolve target) =
      .ok ((t.resolve target).stem, []) := by
    rw [readSolution_of_document h, hfalse]
    rfl
  exact loadSolution_of_entries hcontent rfl

theorem loadSolution_refused (h : Refused t (t.resolve target) x) :
    (loadSolution t target).2 = .error x := by
  apply loadSolution_error
  cases h with
  | missing hread hmissing =>
    simp only [readSolution, hread, hmissing]
    rfl
  | text hread hfault =>
    simp only [readSolution, hread, hfault]
    rfl
  | @shape v hv htruth hshape =>
    rw [readSolution_of_document hv, if_pos htruth]
    cases v with
    | dict fields =>
      obtain ⟨projects, hprojects, hnone⟩ := hshape fields rfl
      change solutionContent (t.resolve target) (.dict fields) = _
      simp only [solutionContent, hprojects, Option.getD_some]
    | _ => rfl
  | @item fields before item after hv hprojects hbefore hitem =>
    have hdict : (Plain.dict fields).truth = true := by
      cases fields with
      | nil => cases hprojects
      | cons => rfl
    have hfirst : (before ++ item :: after).mapM (listedProject (t.resolve target)) =
        .error (.badEntry (t.resolve target) item.listing) := by
      refine mapM_first_error (fun i hi => ?_) (listedProject_not_listable hitem)
      obtain ⟨path, given, hi⟩ := hbefore i hi
      exact ⟨_, hi.listedProject⟩
    rw [readSolution_of_document hv, if_pos hdict]
    change solutionContent (t.resolve target) (.dict fields) = _
    simp only [solutionContent, hprojects, Option.getD_some, hfirst]
    rfl

theorem Solution.wellFormed (h : Solution v items) (hv : Says t file v) :
    ∃ fields, WellFormed t file fields items := by
  have hread := readSolution_of_document hv
  -- A mapping that counts as false is the empty one, and is read as it stands.
  have fields_read : ∀ {fields}, v = .dict fields → readSolution t file = .ok (.dict fields) := by
    rintro fields rfl
    cases fields with
    | nil => exact hread
    | cons => exact hread
  cases h with
  | empty => exact ⟨[], hread, rfl, fun _ hi => nomatch hi⟩
  | @unlisted fields hnone =>
    exact ⟨fields, fields_read rfl, by rw [hnone, Option.getD_none], fun _ hi => nomatch hi⟩
  | @listed fields items hsome hitems =>
    exact ⟨fields, fields_read rfl, by rw [hsome, Option.getD_some], hitems⟩

theorem readsWell_of_lists {l : Listed} {e : Entry} {directory file : Path}
    (h : Lists t directory l e)
    (hplace : descriptorPath t (t.resolve (directory / l.path)) = .ok file)
    (hthere : t.exists file = .ok true) (hname : isDescriptorName file = true) :
    ReadsWell t file := by
  intro x hx
  cases h with
  | absent hlies =>
    obtain rfl := Except.ok.inj (hlies.place.symm.trans hplace)
    cases hlies.found.symm.trans hthere
  | other hlies hother =>
    obtain rfl := Except.ok.inj (hlies.place.symm.trans hplace)
    cases hother.symm.trans hname
  | unusable hlies _ hfault =>
    obtain rfl := Except.ok.inj (hlies.place.symm.trans hplace)
    obtain rfl := Except.error.inj ((read_of_unusable hfault).symm.trans hx)
    exact hfault.isLoadError
  | described hlies _ hread =>
    obtain rfl := Except.ok.inj (hlies.place.symm.trans hplace)
    cases hread.symm.trans hx

/-- An item that was made an entry can enter. -/
theorem enters_of_lists {directory : Path} {path : String} {given : Option Plain} {e : Entry}
    (hitem : Item item path given) (h : Lists t directory ⟨path, nameOf given⟩ e) :
    Enters t directory item where
  near := by
    intro path' given' hitem'
    obtain ⟨rfl, rfl⟩ := hitem.unique hitem'
    obtain ⟨file, there, hrep⟩ := represents_of_lists h
    exact not_tooLong_of_descriptorPath hrep.place
  readable := by
    intro path' given' file hitem' hplace hthere hname
    obtain ⟨rfl, rfl⟩ := hitem.unique hitem'
    exact readsWell_of_lists h hplace hthere hname

/-- A solution is loaded exactly when its items enter; what ends the loading otherwise is none of
its own faults. -/
theorem loadSolution_solution (hv : Says t (t.resolve target) v) (hs : Solution v items) :
    ((∃ w, (loadSolution t target).2 = .ok w) ↔
      ∀ item ∈ items, Enters t (t.resolve target).parent item) ∧
    ∀ x, (loadSolution t target).2 = .error x → Interrupted t (t.resolve target) x := by
  obtain ⟨fields, hform⟩ := hs.wellFormed hv
  obtain ⟨name, listed, hcontent, hlisted⟩ := hform.content
  refine ⟨⟨?_, ?_⟩, ?_⟩
  · rintro ⟨w, hw⟩ item hitem
    obtain ⟨l, hl, hlistedProject⟩ := exists_partner hlisted hitem
    obtain ⟨path, given, hitem'⟩ := hform.items item hitem
    obtain rfl := eq_of_listedProject hitem' hlistedProject
    rcases loadSolution_outcome hcontent with ⟨es, _, hall⟩ | ⟨_, _, fault, hfault, _⟩
    · obtain ⟨e, _, he⟩ := exists_partner hall hl
      exact enters_of_lists hitem' he
    · cases hw.symm.trans hfault
  · intro henters
    exact (loadSolution_items hform fun item hitem => (henters item hitem).readable).1.mpr
      fun item hitem => (henters item hitem).near
  · intro x hx
    rcases loadSolution_outcome hcontent with ⟨es, hes, _⟩ | ⟨l, hl, fault, hfault, hprevents⟩
    · cases hx.symm.trans hes
    · obtain rfl := Except.error.inj (hx.symm.trans hfault)
      obtain ⟨item, hitem, hlistedProject⟩ := exists_partner hlisted.flip hl
      obtain ⟨path, given, hitem'⟩ := hform.items item hitem
      obtain rfl := eq_of_listedProject hitem' hlistedProject
      exact .entry hv hs hitem hitem' hprevents

theorem exists_solution_of_loaded {w : Workspace} (h : (loadSolution t target).2 = .ok w) :
    ∃ v, Says t (t.resolve target) v ∧ (v.truth = false ∨ ∃ items, Solution v items ∧
      ∀ item ∈ items, Enters t (t.resolve target).parent item) := by
  rcases says_or_error t (t.resolve target) with ⟨v, hv⟩ | ⟨x, hx, _⟩
  · refine ⟨v, hv, ?_⟩
    rcases hv.cases with hfalse | ⟨items, hs⟩ | ⟨x, hx⟩
    · exact .inl hfalse
    · exact .inr ⟨items, hs, (loadSolution_solution hv hs).1.mp ⟨w, h⟩⟩
    · cases h.symm.trans (loadSolution_refused hx)
  · cases h.symm.trans (loadSolution_unread hx)

theorem refused_or_interrupted (h : (loadSolution t target).2 = .error x) :
    Refused t (t.resolve target) x ∨ Interrupted t (t.resolve target) x := by
  rcases says_or_error t (t.resolve target) with ⟨v, hv⟩ | ⟨y, hy, hwhy⟩
  · rcases hv.cases with hfalse | ⟨items, hs⟩ | ⟨y, hy⟩
    · cases h.symm.trans (loadSolution_false hv hfalse)
    · exact .inr ((loadSolution_solution hv hs).2 x h)
    · obtain rfl := Except.error.inj (h.symm.trans (loadSolution_refused hy))
      exact .inl hy
  · obtain rfl := Except.error.inj (h.symm.trans (loadSolution_unread hy))
    exact hwhy

/-- An empty list is no solution, and is loaded. -/
example : (loadSolution ⟨.dir [("s.yaml", .file (.ofText "[]"))], ⟨.root, []⟩⟩
    ⟨.here, ["s.yaml"]⟩).2.toOption = some ⟨"s", []⟩ := by
  decide +kernel

end Stencil.Project
