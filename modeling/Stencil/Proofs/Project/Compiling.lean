import Stencil.Project.Unit
import Stencil.Proofs.Project.Loading

/-!
Compiling a project. The modules of a unit are those of the project itself and then those of the
projects that its descriptor reaches, in the breadth-first order in which loading the project finds
them. The two loops keep their queues in different ways and visit the same descriptors.
-/
namespace Stencil.Project
open Stencil.Files
open Stencil.Model

variable {t : Tree} {exclude : String → Bool} {e : Entry} {root d : Descriptor} {file : Path}

namespace Report
variable {α β : Type}

@[simp] theorem result_say (line : String) (r : Report α) : (r.say line).result = r.result := by
  unfold say
  split <;> rfl

@[simp] theorem result_later (r : Report α) : r.later.result = r.result := rfl

@[simp] theorem result_map (f : α → β) (r : Report α) : (r.map f).result = r.result.map f := rfl

@[simp] theorem result_done (a : α) : (done a : Report α).result = .ok a := rfl

end Report

/-- The modules in the sources of a descriptor that is referred to. -/
def modulesOf (t : Tree) (exclude : String → Bool) (d : Descriptor) :
    Except CompileError (List SourceModule) :=
  (sourceFiles t exclude d.directory).mapM (readSource t d.directory d.name true)

/-- The modules of several descriptors, one after another. -/
def modulesOfAll (t : Tree) (exclude : String → Bool) (ds : List Descriptor) :
    Except CompileError (List SourceModule) :=
  (ds.mapM (modulesOf t exclude)).map List.flatten

theorem modulesOfAll_cons (t : Tree) (exclude : String → Bool) (d : Descriptor)
    (ds : List Descriptor) : modulesOfAll t exclude (d :: ds) =
      modulesOf t exclude d >>= fun ms => (modulesOfAll t exclude ds).map (ms ++ ·) := by
  simp only [modulesOfAll, List.mapM_cons]
  cases modulesOf t exclude d with
  | error => rfl
  | ok ms =>
    cases ds.mapM (modulesOf t exclude) with
    | error => rfl
    | ok parts => rfl

/-- A visit that is on its way: `ds` have been visited and `rest` are still to come. -/
private structure Underway (t : Tree) (root : Descriptor) (ds rest : List Descriptor)
    (seen queue : List Path) : Prop where
  order : BreadthFirst (usableReferences t) [root.path] ((root :: (ds ++ rest)).map Descriptor.path)
  visiting : Visiting (usableReferences t) [root.path] ((root :: ds).map Descriptor.path)
    (queue.filter (usable t))
  read : ∀ d ∈ root :: (ds ++ rest), Descriptor.read t d.path = .ok d
  seen : ∀ p, usable t p = true → (p ∈ seen ↔ p ∈ (root :: ds).map Descriptor.path)
  resolved : ∀ p ∈ queue, p.Resolved
  mentioned : ∀ p ∈ queue, Mentioned t root.path p

namespace Underway
variable {ds rest : List Descriptor} {seen queue : List Path} {p : Path}

theorem drop_seen (h : Underway t root ds rest seen (p :: queue)) (hp : p ∈ seen) :
    Underway t root ds rest seen queue where
  order := h.order
  visiting := by
    have hv := h.visiting
    by_cases hu : usable t p = true
    · rw [List.filter_cons_of_pos hu] at hv
      exact hv.skip ((h.seen p hu).mp hp)
    · rwa [List.filter_cons_of_neg hu] at hv
  read := h.read
  seen := h.seen
  resolved := fun q hq => h.resolved q (List.mem_cons_of_mem _ hq)
  mentioned := fun q hq => h.mentioned q (List.mem_cons_of_mem _ hq)

theorem drop_unusable (h : Underway t root ds rest seen (p :: queue)) (hp : ¬usable t p = true) :
    Underway t root ds rest (p :: seen) queue where
  order := h.order
  visiting := by
    have hv := h.visiting
    rwa [List.filter_cons_of_neg hp] at hv
  read := h.read
  seen := by
    intro q hq
    have hne : q ≠ p := fun h => hp (h ▸ hq)
    simp only [List.mem_cons, hne, false_or]
    simpa using h.seen q hq
  resolved := fun q hq => h.resolved q (List.mem_cons_of_mem _ hq)
  mentioned := fun q hq => h.mentioned q (List.mem_cons_of_mem _ hq)

/-- What is read now is what comes next in the order. -/
theorem head (h : Underway t root ds rest seen (p :: queue)) (hp : p ∉ seen)
    (hr : Descriptor.read t p = .ok d) : ∃ later, rest = d :: later := by
  have hu := usable_of_read hr
  have hv := h.visiting
  rw [List.filter_cons_of_pos hu] at hv
  have hn : p ∉ (root :: ds).map Descriptor.path := fun hm => hp ((h.seen p hu).mpr hm)
  have hpre := hv.next_isPrefix hn h.order (by
    rw [← List.cons_append, List.map_append]; exact List.prefix_append _ _)
  rw [← List.cons_append, List.map_append, List.prefix_append_right_inj] at hpre
  obtain ⟨later, hl⟩ := hpre
  obtain ⟨d', rest', rfl, hd', _⟩ := List.map_eq_cons_iff.mp hl.symm
  have hr' := h.read d' (by simp)
  rw [hd', hr] at hr'
  cases hr'
  exact ⟨rest', rfl⟩

theorem visit {later : List Descriptor} (h : Underway t root ds (d :: later) seen (p :: queue))
    (hp : p ∉ seen) (hr : Descriptor.read t p = .ok d) :
    Underway t root (ds ++ [d]) later (p :: seen) (queue ++ d.references) where
  order := by simpa using h.order
  visiting := by
    have hu := usable_of_read hr
    have hv := h.visiting
    have hpath := d.path_eq (h.resolved p (by simp)) hr
    rw [List.filter_cons_of_pos hu] at hv
    have := hv.visit fun hm => hp ((h.seen p hu).mpr hm)
    rw [usableReferences_of_read hr] at this
    rw [List.filter_append, ← List.cons_append, List.map_append, List.map_singleton, hpath]
    exact this
  read := by simpa using h.read
  seen := by
    intro q hq
    have hpath := d.path_eq (h.resolved p (by simp)) hr
    rw [List.mem_cons, h.seen q hq, ← List.cons_append, List.map_append, List.mem_append,
      List.map_singleton, List.mem_singleton, hpath, or_comm]
  resolved := by
    intro q hq
    rcases List.mem_append.mp hq with hq | hq
    · exact h.resolved q (List.mem_cons_of_mem _ hq)
    · exact (Descriptor.placed_of_read hr).references q hq
  mentioned := by
    intro q hq
    rcases List.mem_append.mp hq with hq | hq
    · exact h.mentioned q (List.mem_cons_of_mem _ hq)
    · exact (h.mentioned p (by simp)).reference hr hq

/-- Where the queue is empty, nothing is still to come. -/
theorem finished (h : Underway t root ds rest seen []) : rest = [] := by
  have he := h.order.unique h.visiting.breadthFirst
  have := congrArg List.length he
  simpa using this

theorem length_le (h : Underway t root ds rest seen queue) : ds.length + 1 ≤ t.fileCount := by
  have hr : ∀ d ∈ root :: ds, Descriptor.read t d.path = .ok d := by
    intro d hd
    apply h.read d
    rcases List.mem_cons.mp hd with rfl | hd
    · simp
    · simp [hd]
  exact length_le_of_read h.visiting.nodup hr

end Underway

/-- A descriptor that has been visited gives its modules in front of what comes later. -/
private theorem result_map_modules {later : List Descriptor} {ms : List SourceModule}
    {more : Report (List SourceModule)} (hd : modulesOf t exclude d = .ok ms)
    (hm : more.result = modulesOfAll t exclude later) :
    (more.map (ms ++ ·)).result = modulesOfAll t exclude (d :: later) := by
  rw [modulesOfAll_cons, hd, Report.result_map, hm]
  rfl

/-- What the loop gives is what the descriptors that are still to come give. -/
private theorem visit_underway (hw : ∀ q, Mentioned t root.path q → ReadsWell t q)
    (name : String) (limit : Nat) (seen queue : List Path) :
    ∀ ds rest : List Descriptor, Underway t root ds rest seen queue →
      t.fileCount < limit + ds.length →
      (visit t exclude name limit seen queue).result = modulesOfAll t exclude rest := by
  fun_induction visit t exclude name limit seen queue with
  | case1 limit seen =>
    intro ds rest h _
    rw [h.finished]
    rfl
  | case2 limit seen p queue hp ih =>
    intro ds rest h hl
    exact ih ds rest (h.drop_seen (by simpa using hp)) hl
  | case3 limit seen p queue hp e he hload ih =>
    intro ds rest h hl
    rw [Report.result_say]
    refine ih ds rest (h.drop_unusable ?_) hl
    simp [not_usable_of_error he]
  | case4 limit seen p queue hp e he hload =>
    intro ds rest h _
    exact absurd (hw p (h.mentioned p (by simp)) e he) hload
  | case5 seen p queue hp d hd =>
    -- What has been read are files of their own, so the bound is still ahead of the loop.
    intro ds rest h hl
    have := h.length_le
    omega
  | case6 seen p queue hp d hd limit files e he =>
    intro ds rest h hl
    obtain ⟨later, rfl⟩ := h.head (by simpa using hp) hd
    have hm : modulesOf t exclude d = .error e := he
    rw [modulesOfAll_cons, hm]
    rfl
  | case7 seen p queue hp d hd limit files ms hms more all hempty ih =>
    intro ds rest h hl
    obtain ⟨later, rfl⟩ := h.head (by simpa using hp) hd
    have hm := ih (ds ++ [d]) later (h.visit (by simpa using hp) hd)
      (by rw [List.length_append, List.length_singleton]; omega)
    exact result_map_modules hms hm
  | case8 seen p queue hp d hd limit files ms hms more all hempty ih =>
    intro ds rest h hl
    obtain ⟨later, rfl⟩ := h.head (by simpa using hp) hd
    have hm := ih (ds ++ [d]) later (h.visit (by simpa using hp) hd)
      (by rw [List.length_append, List.length_singleton]; omega)
    exact result_map_modules hms hm

/-- The loop of a project that starts with nothing seen but itself. -/
private theorem visit_root (exclude : String → Bool) {rest : List Descriptor}
    (hr : ∀ d ∈ root :: rest, Descriptor.read t d.path = .ok d)
    (hb : BreadthFirst (usableReferences t) [root.path] ((root :: rest).map Descriptor.path))
    (hw : ∀ q, Mentioned t root.path q → ReadsWell t q) (name : String) {limit : Nat}
    (hl : t.fileCount < limit) :
    (visit t exclude name limit [root.path] root.references).result =
      modulesOfAll t exclude rest := by
  have hroot := hr root (by simp)
  refine visit_underway hw name limit _ _ [] rest ?_ (by simpa using hl)
  refine ⟨hb, ?_, hr, by simp, (Descriptor.placed_of_read hroot).references,
    fun q hq => Mentioned.self.reference hroot hq⟩
  have hv := (Visiting.init (usableReferences t) [root.path]).visit (List.not_mem_nil)
  rw [usableReferences_of_read hroot] at hv
  exact hv

/-! Entries that were loaded. -/

/-- An entry of a workspace that was loaded from the tree. -/
def Loaded (t : Tree) (e : Entry) : Prop :=
  ∃ target w, ((loadProject t target).2 = .ok w ∨ (loadSolution t target).2 = .ok w) ∧
    e ∈ w.projects

/-- The file of an entry is that of a descriptor with the same references. -/
def Entry.Describes (t : Tree) (e : Entry) : Prop :=
  ∀ file, e.file = some file → e.compiles = true →
    ∃ d, Descriptor.read t file = .ok d ∧ d.path = file ∧ d.references = e.references

/-- What is read from references lies at one of them. -/
theorem exists_of_readReferences {name : String} {ps : List Path} {found : List Descriptor}
    (h : (readReferences t name ps).2 = .ok found) (hd : d ∈ found) :
    ∃ p ∈ ps, Descriptor.read t p = .ok d := by
  induction ps generalizing found with
  | nil =>
    cases h
    simp at hd
  | cons p rest ih =>
    have hlater : ∀ {more : List Descriptor}, (readReferences t name rest).2 = .ok more →
        d ∈ more → ∃ q ∈ p :: rest, Descriptor.read t q = .ok d := by
      intro more hmore hd
      obtain ⟨q, hq, hread⟩ := ih hmore hd
      exact ⟨q, List.mem_cons_of_mem _ hq, hread⟩
    simp only [readReferences] at h
    cases hp : Descriptor.read t p with
    | ok r =>
      simp only [hp] at h
      cases hr : (readReferences t name rest).2 with
      | error e => rw [hr] at h; cases h
      | ok more =>
        rw [hr] at h
        cases h
        rcases List.mem_cons.mp hd with rfl | hd
        · exact ⟨p, List.mem_cons_self, hp⟩
        · exact hlater hr hd
    | error e =>
      simp only [hp] at h
      split at h
      · exact hlater h hd
      · cases h

theorem read_of_readReferences {name : String} {ps : List Path} {found : List Descriptor}
    (h : (readReferences t name ps).2 = .ok found) (hd : d ∈ found) :
    Descriptor.read t d.path = .ok d := by
  obtain ⟨p, _, hread⟩ := exists_of_readReferences h hd
  exact Descriptor.read_path hread

/-- The loop adds descriptors that can be read to what is done, the front of the queue first. -/
private theorem addReferenced_result (t : Tree) (limit : Nat) (done : List Entry)
    (queue : List Descriptor) :
    (∀ d ∈ queue, Descriptor.read t d.path = .ok d) → ∀ es : List Entry,
      (addReferenced t limit done queue).2 = .ok es →
      ∃ ds : List Descriptor, es = done ++ ds.map Descriptor.entry ∧
        ∀ d ∈ ds, Descriptor.read t d.path = .ok d := by
  fun_induction addReferenced t limit done queue with
  | case1 limit done =>
    intro _ es h
    cases h
    exact ⟨[], by simp, by simp⟩
  | case2 limit done d rest hany ih =>
    intro hr
    exact ih fun e he => hr e (List.mem_cons_of_mem _ he)
  | case3 done d rest hany =>
    intro _ es h
    cases h
    exact ⟨[], by simp, by simp⟩
  | case4 done d rest hany limit lines e he =>
    intro _ es h
    cases h
  | case5 done d rest hany limit lines found hf more result hmore ih =>
    intro hr es h
    rw [hmore] at ih
    have hfound : ∀ e ∈ rest ++ found, Descriptor.read t e.path = .ok e := by
      intro e he
      rcases List.mem_append.mp he with he | he
      · exact hr e (List.mem_cons_of_mem _ he)
      · exact read_of_readReferences (by rw [hf]) he
    obtain ⟨ds, rfl, hds⟩ := ih hfound es h
    refine ⟨d :: ds, by simp, ?_⟩
    intro e he
    rcases List.mem_cons.mp he with rfl | he
    · exact hr e (by simp)
    · exact hds e he

/-- A project that was loaded has the descriptor of its target in front. -/
private theorem loadProject_result {target : Path} {w : Workspace}
    (h : (loadProject t target).2 = .ok w) :
    ∃ (root : Descriptor) (ds : List Descriptor), rootDescriptor t target = .ok root ∧
      w.projects = (root :: ds).map Descriptor.entry ∧
      ∀ d ∈ root :: ds, Descriptor.read t d.path = .ok d := by
  rw [loadProject_eq] at h
  obtain ⟨root, hroot, h⟩ := bind_eq_ok h
  have hread := read_of_rootDescriptor hroot
  refine ⟨root, ?_⟩
  cases ha : (addReferenced t (t.fileCount + 1) [] [root]).2 with
  | error e => rw [ha] at h; cases h
  | ok es =>
    rw [ha] at h
    cases h
    rw [addReferenced] at ha
    simp only [List.any_nil, Bool.false_eq_true, if_false, List.nil_append] at ha
    cases hf : (readReferences t root.name root.references).2 with
    | error e => rw [show readReferences t root.name root.references = (_, .error e) from
        Prod.ext rfl hf] at ha; cases ha
    | ok found =>
      rw [show readReferences t root.name root.references = (_, .ok found) from
        Prod.ext rfl hf] at ha
      obtain ⟨ds, hds, hr⟩ := addReferenced_result t t.fileCount [root.entry] found
        (fun d hd => read_of_readReferences hf hd) es ha
      refine ⟨ds, hroot, hds, ?_⟩
      intro d hd
      rcases List.mem_cons.mp hd with rfl | hd
      · exact hread
      · exact hr d hd

private theorem describes_entry (h : Descriptor.read t d.path = .ok d) : d.entry.Describes t := by
  intro file hf _
  cases hf
  exact ⟨d, h, rfl, rfl⟩

/-- An entry of a solution has no file, does not compile, or describes what was read. -/
private theorem describes_entryOf {directory : Path} {l : Listed} {lines : List String}
    (h : entryOf t directory l = .ok (lines, e)) : e.Describes t := by
  unfold entryOf at h
  dsimp only at h
  obtain ⟨path, _, h⟩ := bind_eq_ok h
  obtain ⟨found, _, h⟩ := bind_eq_ok h
  intro file hf hc
  split at h
  · cases h
    cases hf
  · split at h
    · cases h
      cases hc
    · split at h
      · rename_i d hd
        cases h
        cases hf
        exact ⟨d, Descriptor.read_path hd, rfl, rfl⟩
      · split at h
        · cases h
          cases hc
        · cases h

theorem entriesOf_cons (entry : Listed → Except LoadError (List String × Entry))
    (l : Listed) (rest : List Listed) : (entriesOf entry (l :: rest)).2 =
      entry l >>= fun found => (entriesOf entry rest).2.map (found.2 :: ·) := by
  rw [entriesOf]
  cases entry l with
  | error => rfl
  | ok found => rfl

private theorem exists_of_entriesOf {entry : Listed → Except LoadError (List String × Entry)}
    {listed : List Listed} {es : List Entry} (h : (entriesOf entry listed).2 = .ok es)
    (he : e ∈ es) : ∃ l lines, entry l = .ok (lines, e) := by
  induction listed generalizing es with
  | nil =>
    cases h
    simp at he
  | cons l rest ih =>
    rw [entriesOf_cons] at h
    obtain ⟨⟨lines, first⟩, hl, h⟩ := bind_eq_ok h
    cases hr : (entriesOf entry rest).2 with
    | error => rw [hr] at h; cases h
    | ok more =>
      rw [hr] at h
      cases h
      rcases List.mem_cons.mp he with rfl | he
      · exact ⟨l, lines, hl⟩
      · exact ih hr he

/-- Whatever is loaded describes the tree. -/
theorem Loaded.describes (h : Loaded t e) : e.Describes t := by
  obtain ⟨target, w, hw, he⟩ := h
  rcases hw with hw | hw
  · obtain ⟨root, ds, _, hds, hr⟩ := loadProject_result hw
    rw [hds] at he
    obtain ⟨d, hd, rfl⟩ := List.mem_map.mp he
    exact describes_entry (hr d hd)
  · simp only [loadSolution] at hw
    split at hw
    · cases hw
    · split at hw
      · cases hw
      · rename_i lines es hes
        cases hw
        obtain ⟨l, lines, hl⟩ := exists_of_entriesOf (congrArg Prod.snd hes) he
        exact describes_entryOf hl

/-! The modules of a unit. -/

/-- The modules are those of the source files below a directory, in the order of the walk. -/
structure ReadFrom (t : Tree) (exclude : String → Bool) (directory : Path) (project : String)
    (referenced : Bool) (ms : List SourceModule) : Prop where
  read : List.Forall₂ (fun file m => readSource t directory project referenced file = .ok m)
    (sourceFiles t exclude directory) ms
  files : ms.map SourceModule.path = (sourceFiles t exclude directory).map Path.toString
  marked : ∀ m ∈ ms, m.project = project ∧ m.referenced = referenced

private theorem marks_of_readSource {directory : Path} {project : String} {referenced : Bool}
    {m : SourceModule} (h : readSource t directory project referenced file = .ok m) :
    m.path = file.toString ∧ m.project = project ∧ m.referenced = referenced := by
  unfold readSource at h
  split at h
  · cases h
  · cases h
  · split at h
    · cases h
    · split at h
      · cases h
      · split at h
        · cases h
        · cases h
          exact ⟨rfl, rfl, rfl⟩

theorem readFrom_of_mapM {directory : Path} {project : String} {referenced : Bool}
    {ms : List SourceModule}
    (h : (sourceFiles t exclude directory).mapM (readSource t directory project referenced) =
      .ok ms) : ReadFrom t exclude directory project referenced ms where
  read := mapM_eq_ok_iff.mp h
  files := by
    have hf := mapM_eq_ok_iff.mp h
    clear h
    generalize sourceFiles t exclude directory = found at hf ⊢
    induction hf with
    | nil => rfl
    | cons hm _ ih => rw [List.map_cons, List.map_cons, ih, (marks_of_readSource hm).1]
  marked := by
    intro m hm
    obtain ⟨file, _, hr⟩ := exists_of_mem_mapM h hm
    exact (marks_of_readSource hr).2

/-- A unit has its own modules, at least one, and then those of the loop. -/
theorem compile_result {u : Unit} (hf : e.file = some file)
    (h : (e.compile t exclude).result = .ok u) : u.project = e.name ∧ u.file = file ∧
      ∃ own more, u.modules = own ++ more ∧ own ≠ [] ∧
        ReadFrom t exclude file.parent e.name false own ∧
        (visit t exclude e.name (t.fileCount + 1) [file] e.references).result = .ok more := by
  simp only [Entry.compile, hf] at h
  split at h
  · cases h
  · rw [Report.result_say] at h
    split at h
    · cases h
    · rename_i hempty
      split at h
      · cases h
      · rename_i own hown
        rw [Report.result_later, Report.result_map] at h
        cases hv : (visit t exclude e.name (t.fileCount + 1) [file] e.references).result with
        | error => rw [hv] at h; cases h
        | ok more =>
          rw [hv] at h
          cases h
          refine ⟨rfl, rfl, own, more, rfl, ?_, readFrom_of_mapM hown, rfl⟩
          rintro rfl
          have := (mapM_eq_ok_iff.mp hown).length_eq
          simp only [List.length_nil, List.length_eq_zero_iff] at this
          simp [this] at hempty

/-- The modules of the sources of a project, none if one of them cannot be read. -/
def ownModules (t : Tree) (exclude : String → Bool) (name : String) (file : Path) :
    List SourceModule :=
  ((sourceFiles t exclude file.parent).mapM
    (readSource t file.parent name false)).toOption.getD []

/-- A project without references compiles to its own modules. -/
theorem compile_ownModules (hf : e.file = some file) (hc : e.compiles = true)
    (hr : e.references = []) (hne : ownModules t exclude e.name file ≠ []) :
    (e.compile t exclude).result = .ok ⟨e.name, file, ownModules t exclude e.name file⟩ := by
  unfold ownModules at hne ⊢
  cases hown : (sourceFiles t exclude file.parent).mapM
      (readSource t file.parent e.name false) with
  | error fault => exact absurd (by rw [hown]; rfl) hne
  | ok own =>
    have hempty : (sourceFiles t exclude file.parent).isEmpty = false := by
      rw [List.isEmpty_eq_false_iff]
      intro h
      rw [h] at hown
      cases hown
      exact hne (by rw [h]; rfl)
    simp only [Entry.compile, hf, hc, hempty, hown, hr]
    rw [visit]
    simp [Except.map, Except.toOption]

private theorem readFrom_of_modulesOfAll {ds : List Descriptor} {ms : List SourceModule}
    (h : modulesOfAll t exclude ds = .ok ms) : ∃ parts, ms = parts.flatten ∧
      List.Forall₂ (fun d part => ReadFrom t exclude d.directory d.name true part) ds parts := by
  simp only [modulesOfAll] at h
  cases hp : ds.mapM (modulesOf t exclude) with
  | error => rw [hp] at h; cases h
  | ok parts =>
    rw [hp] at h
    cases h
    exact ⟨parts, rfl, (mapM_eq_ok_iff.mp hp).imp fun _ _ hd => readFrom_of_mapM hd⟩

/-- Compiling what was loaded: after the modules of the project itself come those of each
descriptor that its references reach, each once and in breadth-first order. The loop ends by itself
and not by its bound. For the root of a loaded project these are the projects loaded after it. -/
theorem compile_breadthFirst (t : Tree) (exclude : String → Bool) (e : Entry) (file : Path)
    (he : Loaded t e) (hf : e.file = some file) (hc : e.compiles = true)
    (hw : ∀ q, Mentioned t file q → ReadsWell t q) :
    ∃ ds : List Descriptor,
      (∀ d ∈ ds, Descriptor.read t d.path = .ok d) ∧
      BreadthFirst (usableReferences t) [file] (file :: ds.map Descriptor.path) ∧
      (∀ q, q ∈ ds.map Descriptor.path ↔
        q ≠ file ∧ Reached (usableReferences t) (e.references.filter (usable t)) q) ∧
      (∀ limit, t.fileCount < limit →
        (visit t exclude e.name limit [file] e.references).result = modulesOfAll t exclude ds) ∧
      (∀ u, (e.compile t exclude).result = .ok u → u.project = e.name ∧ u.file = file ∧
        ∃ own parts, u.modules = own ++ parts.flatten ∧ own ≠ [] ∧
          ReadFrom t exclude file.parent e.name false own ∧
          List.Forall₂ (fun d part => ReadFrom t exclude d.directory d.name true part) ds parts) ∧
      ∀ target w, (loadProject t target).2 = .ok w → w.projects.head? = some e →
        w.projects.tail.map Entry.file = ds.map fun d => some d.path := by
  obtain ⟨root, hroot, rfl, hrefs⟩ := he.describes file hf hc
  obtain ⟨ds, hr, hb, _⟩ := addReferenced_root hroot hw
  have hvisit : ∀ limit, t.fileCount < limit →
      (visit t exclude e.name limit [root.path] root.references).result =
        modulesOfAll t exclude ds := fun _ hl => visit_root exclude hr hb hw e.name hl
  rw [hrefs] at hvisit
  refine ⟨ds, fun d hd => hr d (List.mem_cons_of_mem _ hd), hb, ?_, hvisit, ?_, ?_⟩
  · intro q
    have hnodup := hb.nodup
    rw [List.map_cons, List.nodup_cons] at hnodup
    rw [← hrefs, ← usableReferences_of_read hroot]
    constructor
    · intro hq
      have hne : q ≠ root.path := fun h => hnodup.1 (h ▸ hq)
      exact ⟨hne, (reached_singleton_iff hne).mp ((hb.exact q).mp (List.mem_cons_of_mem _ hq))⟩
    · rintro ⟨hne, hq⟩
      have hm := (hb.exact q).mpr ((reached_singleton_iff hne).mpr hq)
      exact (List.mem_cons.mp hm).resolve_left hne
  · intro u hu
    obtain ⟨hproject, hfile, own, more, hm, hown, hread, hmore⟩ := compile_result hf hu
    rw [hvisit _ (Nat.lt_succ_self _)] at hmore
    obtain ⟨parts, rfl, hparts⟩ := readFrom_of_modulesOfAll hmore
    exact ⟨hproject, hfile, own, parts, hm, hown, hread, hparts⟩
  · intro target w hload hhead
    obtain ⟨first, others, htarget, hprojects, hread⟩ := loadProject_result hload
    have hfirst : first.path = root.path := by
      rw [hprojects] at hhead
      cases hhead
      simpa [Descriptor.entry] using hf
    obtain ⟨rest, _, hb', hlimit⟩ := addReferenced_root (hread first (by simp))
      (by rwa [hfirst])
    have hresult := loadProject_of_root htarget (hlimit _ (Nat.lt_succ_self _))
    rw [hload] at hresult
    cases hresult
    rw [hfirst] at hb'
    have hpaths := hb'.unique hb
    simp only [List.map_cons, List.cons.injEq] at hpaths
    have := congrArg (List.map some) hpaths.2
    simpa [Descriptor.entry, Function.comp_def] using this

theorem loaded_ring : Loaded ring ringRoot.entry := by
  have hread : Descriptor.read ring ringRoot.path = .ok ringRoot := read_ring_a
  obtain ⟨rest, _, _, hlimit⟩ := addReferenced_root hread ring_readsWell
  refine ⟨⟨.here, ["a"]⟩, _, .inl (loadProject_of_root rootDescriptor_ring
    (hlimit _ (Nat.lt_succ_self _))), ?_⟩
  simp

theorem compile_ring : Loaded ring ringRoot.entry ∧
    ringRoot.entry.file = some (ringFile "a") ∧ ringRoot.entry.compiles = true ∧
    (∀ q, Mentioned ring (ringFile "a") q → ReadsWell ring q) ∧
    ∃ ds : List Descriptor, ds.map Descriptor.path = [ringFile "b", ringFile "c"] ∧
      ∀ limit, ring.fileCount < limit →
        (visit ring standardExclude "a" limit [ringFile "a"] ringRoot.references).result =
          modulesOfAll ring standardExclude ds := by
  refine ⟨loaded_ring, rfl, rfl, ring_readsWell, ?_⟩
  obtain ⟨ds, _, hb, _, hvisit, _⟩ := compile_breadthFirst ring standardExclude ringRoot.entry
    (ringFile "a") loaded_ring rfl rfl ring_readsWell
  have hpaths := hb.unique ring_breadthFirst
  simp only [List.cons.injEq, true_and] at hpaths
  exact ⟨ds, hpaths, hvisit⟩

end Stencil.Project
