import Stencil.Project.Loading
import Stencil.Proofs.BreadthFirst
import Stencil.Proofs.Files.Place
import Stencil.Proofs.Result

/-!
Loading a project with what it refers to. Descriptors whose references can be read form a graph on
paths; loading visits what the root reaches in it, each descriptor once and in breadth-first order.
The bound that the loop is given never ends it, since every entry is another file of the tree.
-/
namespace Stencil.Project
open Stencil.Files

/-- What lies at a path can be read as a descriptor, or it is skipped. -/
def ReadsWell (t : Tree) (p : Path) : Prop :=
  ∀ e, Descriptor.read t p = .error e → e.isLoadError = true

/-- The paths that references lead to, whether a descriptor lies there or not. -/
inductive Mentioned (t : Tree) (p : Path) : Path → Prop where
  | self : Mentioned t p p
  | reference {q r d} : Mentioned t p q → Descriptor.read t q = .ok d → r ∈ d.references →
      Mentioned t p r

/-- Whether what lies at a path leads back into a list of paths, or can be skipped. -/
def closedAt (t : Tree) (ps : List Path) (p : Path) : Bool :=
  match Descriptor.read t p with
  | .ok d => d.references.all ps.contains
  | .error e => e.isLoadError

/-- The descriptor at a path, if it can be read. -/
def Descriptor.read? (t : Tree) (p : Path) : Option Descriptor := (Descriptor.read t p).toOption

def usable (t : Tree) (p : Path) : Bool := (Descriptor.read? t p).isSome

/-- The references of a descriptor that can be read; none where there is no descriptor. -/
def usableReferences (t : Tree) (p : Path) : List Path :=
  match Descriptor.read t p with
  | .ok d => d.references.filter (usable t)
  | .error _ => []

/-- The descriptor that a target stands for. -/
def rootDescriptor (t : Tree) (target : Path) : Except LoadError Descriptor :=
  match descriptorPath t (t.resolve target) with
  | .error e => .error (.unreadable (.file e))
  | .ok p => (Descriptor.read t p).mapError .project

section Descriptor

variable {t : Tree} {p q : Path} {d : Descriptor}

theorem Descriptor.read?_eq_some_iff : read? t p = some d ↔ Descriptor.read t p = .ok d := by
  unfold read?
  cases Descriptor.read t p <;> simp [Except.toOption]

theorem Descriptor.read?_eq_none {e : DescriptorError} (h : Descriptor.read t p = .error e) :
    read? t p = none := by
  rw [read?, h]
  rfl

theorem usable_of_read (h : Descriptor.read t p = .ok d) : usable t p = true := by
  rw [usable, Descriptor.read?_eq_some_iff.mpr h]
  rfl

theorem not_usable_of_error {e : DescriptorError} (h : Descriptor.read t p = .error e) :
    usable t p = false := by
  rw [usable, Descriptor.read?_eq_none h]
  rfl

private theorem ofString_pyproject :
    Path.ofString "pyproject.toml" = ⟨.here, ["pyproject.toml"]⟩ := by decide +kernel

private theorem resolved_append (h : p.Resolved) : (p / "pyproject.toml").Resolved := by
  change (p.join (Path.ofString "pyproject.toml")).Resolved
  rw [ofString_pyproject]
  refine ⟨h.anchor, ?_⟩
  simp only [Path.join, Path.absolute, bne_self_eq_false, Bool.false_eq_true, if_false,
    List.mem_append, not_or]
  exact ⟨h.plain, by decide⟩

theorem resolved_descriptorPath (hp : p.Resolved) (h : descriptorPath t p = .ok q) :
    q.Resolved := by
  obtain ⟨isDir, _, h⟩ := bind_eq_ok h
  cases h
  cases isDir with
  | true => exact resolved_append hp
  | false => exact hp

private theorem resolved_reference {directory : Path} {v : Plain}
    (h : reference t directory v = .ok q) : q.Resolved := by
  obtain ⟨s, _, h⟩ := bind_eq_ok h
  split at h
  · rename_i r hr
    cases h
    exact resolved_descriptorPath (Path.resolved_resolve _ _) hr
  · cases h

/-- A descriptor that was read lies in a file at its path, and its references are resolved. -/
structure Descriptor.Placed (t : Tree) (d : Descriptor) : Prop where
  path : d.path.Resolved
  file : ∃ data, t.read d.path = .ok data
  references : ∀ q ∈ d.references, q.Resolved

theorem Descriptor.path_of_read (h : Descriptor.read t p = .ok d) : d.path = t.resolve p := by
  obtain ⟨table, _, h⟩ := bind_eq_ok h
  obtain ⟨name, _, h⟩ := bind_eq_ok h
  obtain ⟨listed, _, h⟩ := bind_eq_ok h
  obtain ⟨references, _, h⟩ := bind_eq_ok h
  cases h
  rfl

private theorem file_of_readTable {v : Plain} (h : readTable t p = .ok v) :
    ∃ data, t.read p = .ok data := by
  simp only [readTable, Tree.readText] at h
  cases hr : t.read p with
  | ok data => exact ⟨data, rfl⟩
  | error e => rw [hr] at h; cases h

theorem Descriptor.placed_of_read (h : Descriptor.read t p = .ok d) : d.Placed t := by
  have hpath := path_of_read h
  obtain ⟨table, ht, h⟩ := bind_eq_ok h
  obtain ⟨name, _, h⟩ := bind_eq_ok h
  obtain ⟨listed, _, h⟩ := bind_eq_ok h
  obtain ⟨references, hr, h⟩ := bind_eq_ok h
  cases h
  refine ⟨Path.resolved_resolve _ _, file_of_readTable ht, ?_⟩
  intro q hq
  obtain ⟨v, _, hv⟩ := exists_of_mem_mapM hr hq
  exact resolved_reference hv

/-- A descriptor is read again at its own path. -/
theorem Descriptor.read_path (h : Descriptor.read t p = .ok d) :
    Descriptor.read t d.path = .ok d := by
  rw [path_of_read h]
  have hr : t.resolve (t.resolve p) = t.resolve p :=
    (Path.resolved_resolve t.here p).resolve_eq t.here
  rw [← h]
  simp only [Descriptor.read, hr]

theorem Descriptor.path_eq (hp : p.Resolved) (h : Descriptor.read t p = .ok d) : d.path = p := by
  rw [path_of_read h]
  exact hp.resolve_eq t.here

end Descriptor

section Reading

variable {t : Tree} {p p₀ q : Path} {d root : Descriptor}

theorem usableReferences_of_read (h : Descriptor.read t p = .ok d) :
    usableReferences t p = d.references.filter (usable t) := by
  simp [usableReferences, h]

/-- Only descriptors are reached, and they are mentioned. -/
theorem mentioned_of_reached (h : Reached (usableReferences t) [p] q) : Mentioned t p q := by
  obtain ⟨n, h⟩ := h
  induction h with
  | start hm => rw [List.mem_singleton.mp hm]; exact .self
  | step _ hm ih =>
    simp only [usableReferences] at hm
    split at hm
    · rename_i d hd
      exact ih.reference hd (List.mem_filter.mp hm).1
    · simp at hm

/-- What is read from references: the descriptors among them, in order. -/
theorem readReferences_result (name : String) {ps : List Path}
    (hw : ∀ p ∈ ps, ReadsWell t p) :
    (readReferences t name ps).2 = .ok (ps.filterMap (Descriptor.read? t)) := by
  induction ps with
  | nil => rfl
  | cons p rest ih =>
    have hrest := ih fun q hq => hw q (List.mem_cons_of_mem _ hq)
    simp only [readReferences]
    cases hr : Descriptor.read t p with
    | ok d =>
      rw [List.filterMap_cons_some (Descriptor.read?_eq_some_iff.mpr hr)]
      simp only [hrest]
      rfl
    | error e =>
      rw [List.filterMap_cons_none (Descriptor.read?_eq_none hr)]
      simp only [hw p (by simp) e hr, if_true, hrest]

theorem filterMap_read_map_path {ps : List Path} (hp : ∀ p ∈ ps, p.Resolved) :
    (ps.filterMap (Descriptor.read? t)).map Descriptor.path =
      ps.filter (usable t) := by
  induction ps with
  | nil => rfl
  | cons p rest ih =>
    have hrest := ih fun q hq => hp q (List.mem_cons_of_mem _ hq)
    cases hr : Descriptor.read t p with
    | ok d =>
      rw [List.filterMap_cons_some (Descriptor.read?_eq_some_iff.mpr hr),
        List.filter_cons_of_pos (usable_of_read hr), List.map_cons, hrest,
        d.path_eq (hp p (by simp)) hr]
    | error e =>
      have hu : ¬usable t p = true := by simp [not_usable_of_error hr]
      rw [List.filterMap_cons_none (Descriptor.read?_eq_none hr), List.filter_cons_of_neg hu, hrest]

/-- Descriptors at their own paths are no more than the files of the tree. -/
theorem length_le_of_read {ds : List Descriptor} (hn : (ds.map Descriptor.path).Nodup)
    (hr : ∀ d ∈ ds, Descriptor.read t d.path = .ok d) : ds.length ≤ t.fileCount := by
  rw [← List.length_map (f := Descriptor.path)]
  apply Tree.length_le_fileCount hn
  · intro p hp
    obtain ⟨d, hd, rfl⟩ := List.mem_map.mp hp
    exact (Descriptor.placed_of_read (hr d hd)).path
  · intro p hp
    obtain ⟨d, hd, rfl⟩ := List.mem_map.mp hp
    exact (Descriptor.placed_of_read (hr d hd)).file

private theorem any_entry_iff {ds : List Descriptor} {p : Path} :
    ((ds.map Descriptor.entry).any fun e => e.file == some p) = true ↔
      p ∈ ds.map Descriptor.path := by
  simp [Descriptor.entry, List.any_eq_true]

/-- The references of what the loop comes to are read without an end of the run. -/
private theorem references_readWell (hw : ∀ q, Mentioned t p₀ q → ReadsWell t q)
    (hd : Descriptor.read t d.path = .ok d) (hr : Reached (usableReferences t) [p₀] d.path) :
    ∀ q ∈ d.references, ReadsWell t q := fun q hq =>
  hw q ((mentioned_of_reached hr).reference hd hq)

/-- The loop visits what the root reaches, whatever has been done so far. -/
private theorem addReferenced_visits (hw : ∀ q, Mentioned t p₀ q → ReadsWell t q) (limit : Nat)
    (done : List Entry) (queue : List Descriptor) :
    ∀ ds : List Descriptor, done = ds.map Descriptor.entry →
      (∀ d ∈ ds ++ queue, Descriptor.read t d.path = .ok d) →
      Visiting (usableReferences t) [p₀] (ds.map Descriptor.path) (queue.map Descriptor.path) →
      t.fileCount < limit + ds.length →
      ∃ es : List Descriptor, (addReferenced t limit done queue).2 = .ok (es.map Descriptor.entry) ∧
        (∀ d ∈ es, Descriptor.read t d.path = .ok d) ∧
        BreadthFirst (usableReferences t) [p₀] (es.map Descriptor.path) := by
  fun_induction addReferenced t limit done queue with
  | case1 limit done =>
    intro ds hd hr hv _
    exact ⟨ds, by rw [hd], fun d hm => hr d (by simp [hm]), hv.breadthFirst⟩
  | case2 limit done d rest hany ih =>
    intro ds hd hr hv hl
    subst hd
    refine ih ds rfl ?_ (hv.skip (any_entry_iff.mp hany)) hl
    intro e he
    apply hr e
    simp only [List.mem_append, List.mem_cons] at he ⊢
    exact he.imp id Or.inr
  | case3 done d rest hany =>
    -- Every entry is a file of its own, so the bound is still ahead of the loop.
    intro ds hd hr hv hl
    have := length_le_of_read hv.nodup fun d hm => hr d (List.mem_append_left _ hm)
    omega
  | case4 done d rest hany limit lines e he =>
    intro ds hd hr hv hl
    have hdr := hr d (by simp)
    have := readReferences_result d.name
      (references_readWell hw hdr (hv.reached d.path (by simp)))
    rw [he] at this
    cases this
  | case5 done d rest hany limit lines found hf more result hmore ih =>
    intro ds hd hr hv hl
    subst hd
    have hdr := hr d (by simp)
    have hfound := readReferences_result d.name
      (references_readWell hw hdr (hv.reached d.path (by simp)))
    rw [hf] at hfound
    cases hfound
    have hpaths : (d.references.filterMap (Descriptor.read? t)).map
        Descriptor.path = usableReferences t d.path := by
      rw [usableReferences_of_read hdr]
      exact filterMap_read_map_path (Descriptor.placed_of_read hdr).references
    rw [hmore] at ih
    refine ih (ds ++ [d]) (by simp) ?_ ?_ ?_
    · intro e he
      simp only [List.append_assoc, List.cons_append, List.nil_append, List.mem_append,
        List.mem_cons, List.mem_filterMap] at he
      rcases he with he | rfl | he | ⟨p, _, he⟩
      · exact hr e (List.mem_append_left _ he)
      · exact hdr
      · exact hr e (by simp [he])
      · exact Descriptor.read_path (Descriptor.read?_eq_some_iff.mp he)
    · rw [List.map_append, List.map_append, hpaths]
      exact hv.visit fun h => hany (any_entry_iff.mpr h)
    · rw [List.length_append, List.length_singleton]
      omega

/-- Descriptors that were read are known by their paths. -/
theorem eq_of_map_path {ds es : List Descriptor}
    (hd : ∀ d ∈ ds, Descriptor.read t d.path = .ok d)
    (he : ∀ d ∈ es, Descriptor.read t d.path = .ok d)
    (h : ds.map Descriptor.path = es.map Descriptor.path) : ds = es := by
  induction ds generalizing es with
  | nil => exact (List.map_eq_nil_iff.mp h.symm).symm
  | cons d ds ih =>
    cases es with
    | nil => cases h
    | cons e es =>
      obtain ⟨hp, hrest⟩ := List.cons_eq_cons.mp h
      have hde : d = e := by
        have h₁ := hd d (by simp)
        rw [hp, he e (by simp)] at h₁
        cases h₁
        rfl
      rw [hde, ih (fun d h => hd d (List.mem_cons_of_mem _ h))
        (fun d h => he d (List.mem_cons_of_mem _ h)) hrest]

/-- The loop on a root, with any bound that is above the number of files. -/
theorem addReferenced_root (hr : Descriptor.read t root.path = .ok root)
    (hw : ∀ q, Mentioned t root.path q → ReadsWell t q) :
    ∃ rest : List Descriptor, (∀ d ∈ root :: rest, Descriptor.read t d.path = .ok d) ∧
      BreadthFirst (usableReferences t) [root.path] ((root :: rest).map Descriptor.path) ∧
      ∀ limit, t.fileCount < limit →
        (addReferenced t limit [] [root]).2 = .ok ((root :: rest).map Descriptor.entry) := by
  have visits := fun limit hl => addReferenced_visits hw limit [] [root] [] rfl (by simpa using hr)
    (Visiting.init _ _) (by simpa using hl)
  obtain ⟨es, _, hread, hb⟩ := visits (t.fileCount + 1) (Nat.lt_succ_self _)
  obtain ⟨rest, rfl⟩ : ∃ rest, es = root :: rest := by
    have ho := hb.order
    rw [List.cons_append, List.eraseDups_cons] at ho
    obtain ⟨d, rest, rfl, hp, _⟩ := List.map_eq_cons_iff.mp ho
    have hd := hread d (by simp)
    rw [hp, hr] at hd
    cases hd
    exact ⟨rest, rfl⟩
  refine ⟨rest, hread, hb, ?_⟩
  intro limit hl
  obtain ⟨es, he, hread', hb'⟩ := visits limit hl
  rw [he, eq_of_map_path hread' hread (hb'.unique hb)]

theorem rootDescriptor_of_read {target : Path}
    (hp : descriptorPath t (t.resolve target) = .ok p) (h : Descriptor.read t p = .ok root) :
    rootDescriptor t target = .ok root := by
  rw [rootDescriptor, hp]
  dsimp only
  rw [h]
  rfl

theorem read_of_rootDescriptor {target : Path} (h : rootDescriptor t target = .ok root) :
    Descriptor.read t root.path = .ok root := by
  simp only [rootDescriptor] at h
  split at h
  · cases h
  · rename_i p _
    cases hr : Descriptor.read t p with
    | error => rw [hr] at h; cases h
    | ok d =>
      rw [hr] at h
      cases h
      exact Descriptor.read_path hr

theorem loadProject_eq (t : Tree) (target : Path) :
    (loadProject t target).2 = rootDescriptor t target >>= fun root =>
      (addReferenced t (t.fileCount + 1) [] [root]).2.map fun entries => ⟨root.name, entries⟩ := by
  simp only [loadProject, rootDescriptor]
  cases descriptorPath t (t.resolve target) with
  | error => rfl
  | ok p =>
    cases hr : Descriptor.read t p with
    | error => simp only [hr]; rfl
    | ok root => simp only [hr]; rfl

theorem loadProject_of_root {target : Path} {es : List Entry}
    (hroot : rootDescriptor t target = .ok root)
    (h : (addReferenced t (t.fileCount + 1) [] [root]).2 = .ok es) :
    (loadProject t target).2 = .ok ⟨root.name, es⟩ := by
  rw [loadProject_eq, hroot]
  change Except.map _ (addReferenced t (t.fileCount + 1) [] [root]).2 = _
  rw [h]
  rfl

/-- Loading a project: its root comes first, then what the root reaches through references that
can be read, each descriptor once and in breadth-first order, with its name and its references. The
loop ends by itself and not by its bound. -/
theorem loadProject_breadthFirst (t : Tree) (target : Path)
    (hw : ∀ root, rootDescriptor t target = .ok root →
      ∀ q, Mentioned t root.path q → ReadsWell t q) :
    (∀ e, rootDescriptor t target = .error e → (loadProject t target).2 = .error e) ∧
    ∀ root, rootDescriptor t target = .ok root →
      ∃ rest : List Descriptor,
        (loadProject t target).2 = .ok ⟨root.name, (root :: rest).map Descriptor.entry⟩ ∧
        (∀ d ∈ root :: rest, Descriptor.read t d.path = .ok d) ∧
        BreadthFirst (usableReferences t) [root.path] ((root :: rest).map Descriptor.path) ∧
        ∀ limit, t.fileCount < limit →
          (addReferenced t limit [] [root]).2 = .ok ((root :: rest).map Descriptor.entry) := by
  constructor
  · intro e he
    rw [loadProject_eq, he]
    rfl
  · intro root hroot
    obtain ⟨rest, hread, hb, hlimit⟩ :=
      addReferenced_root (read_of_rootDescriptor hroot) (hw root hroot)
    exact ⟨rest, loadProject_of_root hroot (hlimit _ (Nat.lt_succ_self _)), hread, hb, hlimit⟩

private theorem closedAt_of_read {ps : List Path} (h : Descriptor.read t p = .ok d) :
    closedAt t ps p = d.references.all ps.contains := by
  rw [closedAt, h]

private theorem closedAt_of_error {ps : List Path} {e : DescriptorError}
    (h : Descriptor.read t p = .error e) : closedAt t ps p = e.isLoadError := by
  rw [closedAt, h]

/-- Paths that lead nowhere else are all that is mentioned, and they can be read or skipped. -/
theorem readsWell_of_closed (ps : List Path) (hp : p ∈ ps)
    (hc : ps.all (closedAt t ps) = true) : ∀ q, Mentioned t p q → ReadsWell t q := by
  have hclosed := fun q hq => List.all_eq_true.mp hc q hq
  have hmem : ∀ q, Mentioned t p q → q ∈ ps := by
    intro q hq
    induction hq with
    | self => exact hp
    | reference _ hd hr ih =>
      have := hclosed _ ih
      simp only [closedAt, hd, List.all_eq_true] at this
      simpa using this _ hr
  intro q hq e he
  have := hclosed q (hmem q hq)
  simpa only [closedAt, he] using this

/-- Three projects that refer to each other in a ring; the first one refers to the second twice
and to one that is missing, the second one to itself. -/
def ring : Tree where
  root := .dir [("w", .dir [
    ("a", .dir [
      ("pyproject.toml", .file (.ofText "tool.ntgen.references=['../b','../x','../b']")),
      ("main.py", .file (.ofText "class A: pass"))]),
    ("b", .dir [
      ("pyproject.toml", .file (.ofText "tool.ntgen.references=['../b','../c']")),
      ("main.py", .file (.ofText "class B: pass"))]),
    ("c", .dir [
      ("pyproject.toml", .file (.ofText "tool.ntgen.references=['../a','../b']")),
      ("main.py", .file (.ofText "class C: pass"))])])]
  here := ⟨.root, ["w"]⟩

/-- The descriptor file of a project of the ring. -/
def ringFile (name : String) : Path := ⟨.root, ["w", name, "pyproject.toml"]⟩

def ringMissing : Path := ⟨.root, ["w", "x"]⟩

def ringRoot : Descriptor := ⟨ringFile "a", "a", [ringFile "b", ringMissing, ringFile "b"]⟩

theorem read_ring_a : Descriptor.read ring (ringFile "a") = .ok ringRoot := by decide +kernel

theorem read_ring_b : Descriptor.read ring (ringFile "b") =
    .ok ⟨ringFile "b", "b", [ringFile "b", ringFile "c"]⟩ := by decide +kernel

theorem read_ring_c : Descriptor.read ring (ringFile "c") =
    .ok ⟨ringFile "c", "c", [ringFile "a", ringFile "b"]⟩ := by decide +kernel

theorem read_ring_missing : Descriptor.read ring ringMissing = .error (.notFound ringMissing) := by
  decide +kernel

theorem ring_readsWell : ∀ q, Mentioned ring (ringFile "a") q → ReadsWell ring q := by
  apply readsWell_of_closed [ringFile "a", ringFile "b", ringFile "c", ringMissing] (by simp)
  simp only [List.all_cons, List.all_nil, closedAt_of_read read_ring_a,
    closedAt_of_read read_ring_b, closedAt_of_read read_ring_c,
    closedAt_of_error read_ring_missing]
  decide

theorem ring_breadthFirst : BreadthFirst (usableReferences ring) [ringFile "a"]
    [ringFile "a", ringFile "b", ringFile "c"] := by
  have ha : usableReferences ring (ringFile "a") = [ringFile "b", ringFile "b"] := by
    rw [usableReferences_of_read read_ring_a]
    simp [ringRoot, usable_of_read read_ring_b, not_usable_of_error read_ring_missing]
  have hb : usableReferences ring (ringFile "b") = [ringFile "b", ringFile "c"] := by
    rw [usableReferences_of_read read_ring_b]
    simp [usable_of_read read_ring_b, usable_of_read read_ring_c]
  have hc : usableReferences ring (ringFile "c") = [ringFile "a", ringFile "b"] := by
    rw [usableReferences_of_read read_ring_c]
    simp [usable_of_read read_ring_a, usable_of_read read_ring_b]
  have ra : Reached (usableReferences ring) [ringFile "a"] (ringFile "a") := ⟨0, .start (by simp)⟩
  have rb : Reached (usableReferences ring) [ringFile "a"] (ringFile "b") :=
    ra.step (by simp [ha])
  have rc : Reached (usableReferences ring) [ringFile "a"] (ringFile "c") :=
    rb.step (by simp [hb])
  apply BreadthFirst.of_order
  · simp only [List.flatMap_cons, List.flatMap_nil, ha, hb, hc]
    decide
  · simp [ra, rb, rc]

theorem rootDescriptor_ring : rootDescriptor ring ⟨.here, ["a"]⟩ = .ok ringRoot := by
  have h : descriptorPath ring (ring.resolve ⟨.here, ["a"]⟩) = .ok (ringFile "a") := by
    decide +kernel
  exact rootDescriptor_of_read h read_ring_a

theorem loadProject_ring :
    (∀ root, rootDescriptor ring ⟨.here, ["a"]⟩ = .ok root →
      ∀ q, Mentioned ring root.path q → ReadsWell ring q) ∧
    ∃ w, (loadProject ring ⟨.here, ["a"]⟩).2 = .ok w ∧
      w.projects.map Entry.file = [ringFile "a", ringFile "b", ringFile "c"].map some := by
  have hw : ∀ root, rootDescriptor ring ⟨.here, ["a"]⟩ = .ok root →
      ∀ q, Mentioned ring root.path q → ReadsWell ring q := by
    intro root h
    rw [rootDescriptor_ring] at h
    cases h
    exact ring_readsWell
  refine ⟨hw, ?_⟩
  obtain ⟨rest, hload, _, hb, _⟩ :=
    (loadProject_breadthFirst ring ⟨.here, ["a"]⟩ hw).2 ringRoot rootDescriptor_ring
  refine ⟨_, hload, ?_⟩
  rw [← hb.unique ring_breadthFirst, List.map_map, List.map_map]
  rfl

end Reading
end Stencil.Project
