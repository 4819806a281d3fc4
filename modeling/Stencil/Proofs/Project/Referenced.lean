import Stencil.Proofs.Model.Extract
import Stencil.Proofs.Project.Unusable

/-!
The sources of a project that is referred to. They are read in the same order, from the same
directory and into the same types as when the project is compiled itself; the types then name the
project as its descriptor does, and not as the solution that lists it.
-/
namespace Stencil.Project
open Stencil.Files
open Stencil.Model

variable {t : Tree} {exclude : String → Bool} {e P Q : Entry} {d : Descriptor}
  {p q file directory target : Path} {ps qs : List Path} {project project' : String}
  {referenced referenced' : Bool} {m : SourceModule} {ms : List SourceModule} {u : Unit}

/-! Sources. -/

/-- What is read from a source does not depend on whom it is read for. -/
theorem readSource_marked (h : readSource t directory project referenced file = .ok m) :
    readSource t directory project' referenced' file = .ok (m.marked project' referenced') := by
  unfold readSource at h ⊢
  split at h
  · cases h
  · cases h
  · split at h
    · cases h
    · rename_i hzero
      simp only [hzero]
      split at h
      · cases h
      · split at h
        · cases h
        · cases h
          rfl

/-- The modules that are read from the sources below a directory are the same for every project, but
for its name and whether they are referenced. -/
theorem ReadFrom.eq_marked {ms' : List SourceModule}
    (h : ReadFrom t exclude directory project referenced ms)
    (h' : ReadFrom t exclude directory project' referenced' ms') :
    ms' = ms.map (SourceModule.marked project' referenced') := by
  have hagain : (sourceFiles t exclude directory).mapM
      (readSource t directory project' referenced') =
        .ok (ms.map (SourceModule.marked project' referenced')) := by
    rw [mapM_eq_ok_iff, List.forall₂_map_right_iff]
    exact h.read.imp fun _ _ => readSource_marked
  exact Except.ok.inj ((mapM_eq_ok_iff.mpr h'.read).symm.trans hagain)

/-! References. -/

/-- A descriptor that is mentioned is reached. -/
theorem reached_of_mentioned (h : Mentioned t p q) (hq : usable t q = true) :
    Reached (usableReferences t) [p] q := by
  induction h with
  | self => exact ⟨0, .start List.mem_cons_self⟩
  | reference _ hd hm ih =>
    refine (ih (usable_of_read hd)).step ?_
    rw [usableReferences_of_read hd, List.mem_filter]
    exact ⟨hm, hq⟩

theorem closedAt_of_references (h : Descriptor.read t p = .ok d) (hs : ∀ x ∈ d.references, x ∈ ps) :
    closedAt t ps p = true := by
  rw [closedAt, h]
  exact List.all_eq_true.mpr fun x hx => List.contains_iff_mem.mpr (hs x hx)

theorem closedAt_mono (h : closedAt t ps p = true) (hs : ∀ x ∈ ps, x ∈ qs) :
    closedAt t qs p = true := by
  unfold closedAt at h ⊢
  split at h
  · rw [List.all_eq_true] at h ⊢
    intro x hx
    exact List.contains_iff_mem.mpr (hs x (List.contains_iff_mem.mp (h x hx)))
  · exact h

/-- How far the loop over references has come. What was seen leads to what was seen or is still to be
looked at; `ds` are descriptors that were read. -/
structure Progress (t : Tree) (ds : List Descriptor) (seen queue : List Path) : Prop where
  closed : ∀ p ∈ seen, closedAt t (seen ++ queue) p = true
  resolved : ∀ p ∈ queue, p.Resolved
  nodup : (ds.map Descriptor.path).Nodup
  read : ∀ d ∈ ds, Descriptor.read t d.path = .ok d ∧ d.path ∈ seen

namespace Progress
variable {ds : List Descriptor} {seen queue : List Path}

theorem again (h : Progress t ds seen (p :: queue)) (hp : p ∈ seen) :
    Progress t ds seen queue where
  closed := by
    intro q hq
    refine closedAt_mono (h.closed q hq) fun x hx => ?_
    rcases List.mem_append.mp hx with hx | hx
    · exact List.mem_append_left _ hx
    · rcases List.mem_cons.mp hx with rfl | hx
      · exact List.mem_append_left _ hp
      · exact List.mem_append_right _ hx
  resolved q hq := h.resolved q (List.mem_cons_of_mem _ hq)
  nodup := h.nodup
  read := h.read

/-- A path is looked at, and what it leads to is added behind the queue. -/
private theorem closed_next {more : List Path} (h : Progress t ds seen (p :: queue))
    (hp : closedAt t (p :: seen ++ (queue ++ more)) p = true) :
    ∀ q ∈ p :: seen, closedAt t (p :: seen ++ (queue ++ more)) q = true := by
  intro q hq
  rcases List.mem_cons.mp hq with rfl | hq
  · exact hp
  · refine closedAt_mono (h.closed q hq) fun x hx => ?_
    simp only [List.mem_append, List.mem_cons] at hx ⊢
    tauto

theorem skip {fault : DescriptorError} (h : Progress t ds seen (p :: queue))
    (hread : Descriptor.read t p = .error fault) (hload : fault.isLoadError = true) :
    Progress t ds (p :: seen) queue where
  closed := by
    have hnext := @closed_next t p ds seen queue [] h (by rw [closedAt, hread]; exact hload)
    rwa [List.append_nil] at hnext
  resolved q hq := h.resolved q (List.mem_cons_of_mem _ hq)
  nodup := h.nodup
  read d hd := ⟨(h.read d hd).1, List.mem_cons_of_mem _ (h.read d hd).2⟩

theorem visit (h : Progress t ds seen (p :: queue)) (hp : p ∉ seen)
    (hread : Descriptor.read t p = .ok d) :
    Progress t (d :: ds) (p :: seen) (queue ++ d.references) where
  closed := h.closed_next (closedAt_of_references hread fun x hx =>
    List.mem_append_right _ (List.mem_append_right _ hx))
  resolved := by
    intro q hq
    rcases List.mem_append.mp hq with hq | hq
    · exact h.resolved q (List.mem_cons_of_mem _ hq)
    · exact (Descriptor.placed_of_read hread).references q hq
  nodup := by
    refine List.nodup_cons.mpr ⟨fun hm => ?_, h.nodup⟩
    obtain ⟨d', hd', heq⟩ := List.mem_map.mp hm
    rw [d.path_eq (h.resolved p List.mem_cons_self) hread] at heq
    exact hp (heq ▸ (h.read d' hd').2)
  read := by
    refine List.forall_mem_cons.mpr ⟨⟨Descriptor.read_path hread, ?_⟩, fun d' hd' => ?_⟩
    · rw [d.path_eq (h.resolved p List.mem_cons_self) hread]
      exact List.mem_cons_self
    · exact ⟨(h.read d' hd').1, List.mem_cons_of_mem _ (h.read d' hd').2⟩

/-- What was read are files of their own. -/
theorem length_le (h : Progress t ds seen queue) : ds.length ≤ t.fileCount :=
  length_le_of_read h.nodup fun d hd => (h.read d hd).1

end Progress

/-- Modules that come after others make up a result. -/
theorem exists_of_map_append {own : List SourceModule} {r : Report (List SourceModule)}
    (h : (r.map (own ++ ·)).result = .ok ms) : ∃ more, r.result = .ok more := by
  rw [Report.result_map] at h
  cases hr : r.result with
  | error fault => rw [hr] at h; cases h
  | ok more => exact ⟨more, rfl⟩

/-- A loop that comes to a result has looked at everything that is referred to. -/
theorem visit_closed (exclude : String → Bool) (name : String) (limit : Nat)
    (seen queue : List Path) : ∀ (ds : List Descriptor) (ms : List SourceModule),
      Progress t ds seen queue → t.fileCount < limit + ds.length →
      (visit t exclude name limit seen queue).result = .ok ms →
      ∃ closed : List Path, (∀ p ∈ seen, p ∈ closed) ∧ closed.all (closedAt t closed) = true := by
  fun_induction visit t exclude name limit seen queue with
  | case1 limit seen =>
    intro ds ms h _ _
    refine ⟨seen, fun p hp => hp, List.all_eq_true.mpr fun p hp => ?_⟩
    simpa using h.closed p hp
  | case2 limit seen p rest hseen ih =>
    intro ds ms h hlimit hms
    exact ih ds ms (h.again (by simpa using hseen)) hlimit hms
  | case3 limit seen p rest hseen fault hread hload ih =>
    intro ds ms h hlimit hms
    rw [Report.result_say] at hms
    obtain ⟨closed, hclosed, hall⟩ := ih ds ms (h.skip hread hload) hlimit hms
    exact ⟨closed, fun q hq => hclosed q (List.mem_cons_of_mem _ hq), hall⟩
  | case4 limit seen p rest hseen fault hread hload =>
    intro _ _ _ _ hms
    cases hms
  | case5 seen p rest hseen d hread =>
    -- The descriptor that is read next is one more file, so the bound is still ahead of the loop.
    intro ds ms h hlimit _
    have hcount := (h.visit (by simpa using hseen) hread).length_le
    rw [List.length_cons] at hcount
    omega
  | case6 seen p rest hseen d hread limit files fault hfault =>
    intro _ _ _ _ hms
    cases hms
  | case7 seen p rest hseen d hread limit files own hown more all hempty ih
  | case8 seen p rest hseen d hread limit files own hown more all hempty ih =>
    intro ds ms h hlimit hms
    obtain ⟨later, hlater⟩ := exists_of_map_append (r := more) hms
    obtain ⟨closed, hclosed, hall⟩ := ih (d :: ds) later (h.visit (by simpa using hseen) hread)
      (by rw [List.length_cons]; omega) hlater
    exact ⟨closed, fun q hq => hclosed q (List.mem_cons_of_mem _ hq), hall⟩

/-- Where a project compiles, everything that is referred to behind it was read or skipped. -/
theorem readsWell_of_compile (he : Loaded t e) (hf : e.file = some file) (hc : e.compiles = true)
    (h : (e.compile t exclude).result = .ok u) : ∀ q, Mentioned t file q → ReadsWell t q := by
  obtain ⟨root, hroot, hpath, hrefs⟩ := he.describes file hf hc
  obtain ⟨_, _, own, more, _, _, _, hmore⟩ := compile_result hf h
  have hstart : Progress t [] [file] e.references := by
    refine ⟨fun p hp => ?_, fun p hp => ?_, List.nodup_nil, by simp⟩
    · rw [List.mem_singleton.mp hp]
      exact closedAt_of_references hroot fun x hx => List.mem_append_right _ (hrefs ▸ hx)
    · exact (Descriptor.placed_of_read hroot).references p (hrefs ▸ hp)
  obtain ⟨closed, hclosed, hall⟩ := visit_closed exclude e.name (t.fileCount + 1) [file]
    e.references [] more hstart (Nat.lt_succ_self _) hmore
  exact readsWell_of_closed closed (hclosed file List.mem_cons_self) hall

theorem compiles_of_compile (h : (e.compile t exclude).result = .ok u) :
    e.compiles = true ∧ ∃ file, e.file = some file := by
  unfold Entry.compile at h
  cases hf : e.file with
  | none => rw [hf] at h; cases h
  | some file =>
    cases hc : e.compiles with
    | true => exact ⟨rfl, file, rfl⟩
    | false =>
      rw [hf, hc] at h
      cases h

/-- A project of a solution that compiles is the descriptor of one that is listed, under the name
that it is given, if it is given one. -/
theorem listed_of_compiles {w : Workspace} (hload : (loadSolution t target).2 = .ok w)
    (he : e ∈ w.projects) (hf : e.file = some file) (hc : e.compiles = true) :
    ∃ name listed, readSolution t (t.resolve target) >>= solutionContent (t.resolve target) =
        .ok (name, listed) ∧
      ∃ l ∈ listed, ∃ d, Lies t (t.resolve target).parent l file true ∧
        Descriptor.read t file = .ok d ∧ e.name = l.name.getD d.name := by
  cases hcontent : readSolution t (t.resolve target) >>= solutionContent (t.resolve target) with
  | error fault =>
    simp only [loadSolution, hcontent] at hload
    cases hload
  | ok content =>
    obtain ⟨name, listed⟩ := content
    refine ⟨name, listed, rfl, ?_⟩
    rcases loadSolution_outcome hcontent with ⟨es, hes, hall⟩ | ⟨_, _, fault, hfault, _⟩
    · obtain rfl := Except.ok.inj (hload.symm.trans hes)
      obtain ⟨l, hl, hlists⟩ := exists_partner hall.flip he
      refine ⟨l, hl, ?_⟩
      cases hlists with
      | absent => cases hf
      | other => cases hc
      | unusable => cases hc
      | @described file' d hlies _ hread =>
        have hpath := hlies.path_eq hread
        obtain rfl : d.path = file := Option.some.inj hf
        exact ⟨d, hpath ▸ hlies, Descriptor.read_path hread, rfl⟩
    · cases hload.symm.trans hfault

/-! Compiling. -/

theorem extract_append (f : Filter) (front back : List SourceModule) (k : TypeKind) :
    (extract f (front ++ back)).get k = (extract f front).get k ++ (extract f back).get k := by
  simp only [extract, get_ofList, List.filter_append, List.flatMap_append]

/-- The modules of a unit are its own, and then those of each descriptor that is mentioned. -/
structure Parts (t : Tree) (exclude : String → Bool) (e : Entry) (file : Path) (u : Unit)
    (ds : List Descriptor) (parts : List (List SourceModule)) : Prop where
  modules : u.modules = u.ownModules ++ u.referencedModules
  own : ReadFrom t exclude file.parent e.name false u.ownModules
  referenced : u.referencedModules = parts.flatten
  read : List.Forall₂ (fun d part => ReadFrom t exclude d.directory d.name true part) ds parts
  reached : ∀ d, Descriptor.read t d.path = .ok d → d.path ≠ file → Mentioned t file d.path → d ∈ ds

theorem compile_parts (he : Loaded t e) (hf : e.file = some file)
    (h : (e.compile t exclude).result = .ok u) : ∃ ds parts, Parts t exclude e file u ds parts := by
  obtain ⟨hcompiles, _⟩ := compiles_of_compile h
  obtain ⟨ds, hread, hb, _, _, hunit, _⟩ := compile_breadthFirst t exclude e file he hf hcompiles
    (readsWell_of_compile he hf hcompiles h)
  obtain ⟨_, _, own, parts, hm, _, hown, hparts⟩ := hunit u h
  have hownMarks : ∀ m ∈ own, m.referenced = false := fun m hm => (hown.marked m hm).2
  have hpartMarks : ∀ m ∈ parts.flatten, m.referenced = true := by
    intro m hm
    obtain ⟨part, hpart, hm⟩ := List.mem_flatten.mp hm
    obtain ⟨d, _, hread⟩ := exists_partner hparts.flip hpart
    exact (hread.marked m hm).2
  have hownModules : u.ownModules = own := by
    rw [Unit.ownModules, hm, List.filter_append, List.filter_eq_self.mpr,
      List.filter_eq_nil_iff.mpr, List.append_nil]
    · intro m hm
      simp [hpartMarks m hm]
    · intro m hm
      simp [hownMarks m hm]
  have hreferenced : u.referencedModules = parts.flatten := by
    rw [Unit.referencedModules, hm, List.filter_append, List.filter_eq_self.mpr hpartMarks,
      List.filter_eq_nil_iff.mpr, List.nil_append]
    intro m hm
    simp [hownMarks m hm]
  refine ⟨ds, parts, ?_, hownModules ▸ hown, hreferenced, hparts, ?_⟩
  · rw [hownModules, hreferenced, hm]
  · intro d hd hne hmentioned
    have hreached := reached_of_mentioned hmentioned (usable_of_read hd)
    have hmem := (List.mem_cons.mp ((hb.exact d.path).mpr hreached)).resolve_left hne
    obtain ⟨d', hd', heq⟩ := List.mem_map.mp hmem
    have hread' := hread d' hd'
    rw [heq, hd] at hread'
    rwa [Except.ok.inj hread']

/-- Types that were read for a project name it. -/
theorem ReadFrom.types_marked (h : ReadFrom t exclude directory project referenced ms) (f : Filter)
    (hf : f.omitReferenced = false) (k : TypeKind) :
    ∀ ty ∈ (extract f ms).get k, ty.project = project ∧ ty.referenced = referenced := by
  intro ty hty
  rw [h.eq_marked h, extract_marked hf] at hty
  obtain ⟨ty', _, rfl⟩ := List.mem_map.mp hty
  exact ⟨rfl, rfl⟩

theorem ReadFrom.types_again {own part : List SourceModule}
    (hown : ReadFrom t exclude directory project false own)
    (hpart : ReadFrom t exclude directory project' true part) (f : Filter)
    (hf : f.omitReferenced = false) (k : TypeKind) :
    (extract f part).get k = ((extract f own).get k).map (TypeSymbol.marked project' true) := by
  rw [hown.eq_marked hpart, extract_marked hf]

/-- A member of a list has a partner at the same place of a list that it is related to. -/
theorem exists_place {α β : Type} {R : α → β → Prop} {xs : List α} {ys : List β}
    (h : List.Forall₂ R xs ys) {x : α} (hx : x ∈ xs) :
    ∃ front y back, ys = front ++ y :: back ∧ R x y := by
  obtain ⟨y, hy, hxy⟩ := exists_partner h hx
  obtain ⟨front, back, rfl⟩ := List.append_of_mem hy
  exact ⟨front, y, back, rfl, hxy⟩

/-- What a unit holds of another project, whose descriptor its project refers to; `part` are the
modules that come from there. -/
structure Rereads (t : Tree) (exclude : String → Bool) (Q : Entry) (file : Path) (d : Descriptor)
    (unit unitQ : Unit) (part : List SourceModule) : Prop where
  descriptor : Descriptor.read t file = .ok d
  referenced : ∃ before after, unit.referencedModules = before ++ part ++ after
  again : ReadFrom t exclude file.parent d.name true part
  own : ReadFrom t exclude file.parent Q.name false unitQ.ownModules
  /-- The types of a unit are its own, and those of the part among the referenced ones. -/
  within : ∀ f k, ∃ before after, (extract f unit.modules).get k =
    (extract f unit.ownModules).get k ++ (before ++ (extract f part).get k ++ after)
  /-- The types differ in the name of the project and in whether they are referenced. -/
  types : ∀ f : Filter, f.omitReferenced = false → ∀ k, (extract f part).get k =
    ((extract f unitQ.ownModules).get k).map (TypeSymbol.marked d.name true)
  named : ∀ f : Filter, f.omitReferenced = false → ∀ k, ∀ ty ∈ (extract f unitQ.ownModules).get k,
    ty.project = Q.name ∧ ty.referenced = false
  /-- They differ in nothing but whether they are referenced where the project has the name of its
  descriptor. -/
  same : Q.name = d.name → ∀ f : Filter, f.omitReferenced = false → ∀ k, (extract f part).get k =
    ((extract f unitQ.ownModules).get k).map fun ty => { ty with referenced := true }

/-- What lies behind a project that was compiled is read again among its referenced modules. -/
theorem rereads_of_mentioned {fileP : Path} {uP uQ : Unit} (hP : Loaded t P) (hQ : Loaded t Q)
    (hp : P.file = some fileP) (hq : Q.file = some file) (hne : file ≠ fileP)
    (hbehind : Mentioned t fileP file) (hd : Descriptor.read t file = .ok d) (hpath : d.path = file)
    (hcP : (P.compile t exclude).result = .ok uP) (hcQ : (Q.compile t exclude).result = .ok uQ) :
    ∃ part, Rereads t exclude Q file d uP uQ part := by
  obtain ⟨ds, parts, hunit⟩ := compile_parts hP hp hcP
  obtain ⟨_, _, hunitQ⟩ := compile_parts hQ hq hcQ
  have hmem : d ∈ ds := by
    refine hunit.reached d (Descriptor.read_path hd) ?_ ?_
    · rwa [hpath]
    · rwa [hpath]
  obtain ⟨front, part, back, rfl, hpart⟩ := exists_place hunit.read hmem
  have hagain : ReadFrom t exclude file.parent d.name true part := by
    rwa [Descriptor.directory, hpath] at hpart
  have hreferenced : uP.referencedModules = front.flatten ++ part ++ back.flatten := by
    rw [hunit.referenced, List.flatten_append, List.flatten_cons, List.append_assoc]
  refine ⟨part, hd, ⟨_, _, hreferenced⟩, hagain, hunitQ.own, ?_, ?_, hunitQ.own.types_marked, ?_⟩
  · intro f k
    refine ⟨(extract f front.flatten).get k, (extract f back.flatten).get k, ?_⟩
    rw [hunit.modules, extract_append, hreferenced, extract_append, extract_append]
  · exact fun f hf k => hunitQ.own.types_again hagain f hf k
  · intro hname f hf k
    rw [hunitQ.own.types_again hagain f hf k]
    refine List.map_congr_left fun ty hty => ?_
    rw [TypeSymbol.marked, ← hname, ← (hunitQ.own.types_marked f hf k ty hty).1]

/-- Two projects of a solution that compile, the first of which refers to the descriptor of the
second, perhaps through others. The sources of the second one are read for the first one into the
same modules and types, in the same order and with the same fields but for two: the types are
referenced, and they name the project as its descriptor does. This is the name of the project unless
the solution gives it another one. -/
theorem compile_referenced {w : Workspace} {fileP : Path} {uP uQ : Unit}
    (hload : (loadSolution t target).2 = .ok w) (hP : P ∈ w.projects) (hQ : Q ∈ w.projects)
    (hp : P.file = some fileP) (hq : Q.file = some file) (hne : file ≠ fileP)
    (hbehind : Mentioned t fileP file) (hcP : (P.compile t exclude).result = .ok uP)
    (hcQ : (Q.compile t exclude).result = .ok uQ) :
    ∃ d part, Rereads t exclude Q file d uP uQ part ∧
      ∃ name listed, readSolution t (t.resolve target) >>= solutionContent (t.resolve target) =
          .ok (name, listed) ∧
        ∃ l ∈ listed, Lies t (t.resolve target).parent l file true ∧
          Q.name = l.name.getD d.name := by
  obtain ⟨name, listed, hcontent, l, hl, d, hlies, hd, hname⟩ :=
    listed_of_compiles hload hQ hq (compiles_of_compile hcQ).1
  obtain ⟨part, hpart⟩ := rereads_of_mentioned ⟨target, w, .inr hload, hP⟩
    ⟨target, w, .inr hload, hQ⟩ hp hq hne hbehind hd (hlies.path_eq hd) hcP hcQ
  exact ⟨d, part, hpart, name, listed, hcontent, l, hl, hlies, hname⟩

/-! An example: a project that refers to another one, which the solution gives a name. -/

def town : Tree where
  root := .dir [
    ("s.yaml", .file (.ofText "projects: [p, \x7bpath: q, name: Core\x7d]")),
    ("p", .dir [("pyproject.toml", .file (.ofText "tool.ntgen.references=['../q']")),
      ("a.py", .file (.ofText "class A: pass"))]),
    ("q", .dir [("pyproject.toml", .file (.ofText "project.name='core-lib'")),
      ("b.py", .file (.ofText "class B: pass"))])]
  here := ⟨.root, []⟩

def townSolution : Path := ⟨.root, ["s.yaml"]⟩

def townFile (name : String) : Path := ⟨.root, [name, "pyproject.toml"]⟩

def townFirst : Entry := { name := "p", file := some (townFile "p"), references := [townFile "q"] }

def townSecond : Entry := { name := "Core", file := some (townFile "q") }

theorem load_town : (loadSolution town townSolution).2 = .ok ⟨"s", [townFirst, townSecond]⟩ := by
  apply eq_ok_of_toOption
  decide +kernel

theorem read_town : Descriptor.read town (townFile "p") = .ok ⟨townFile "p", "p", [townFile "q"]⟩ ∧
    Descriptor.read town (townFile "q") = .ok ⟨townFile "q", "core-lib", []⟩ := by
  decide +kernel

/-- The sources of a project can be read. -/
def canRead (t : Tree) (exclude : String → Bool) (name : String) (referenced : Bool)
    (directory : Path) : Bool :=
  ((sourceFiles t exclude directory).mapM
    (readSource t directory name referenced)).toOption.isSome

theorem exists_of_canRead (h : canRead t exclude project referenced directory = true) :
    ∃ ms, (sourceFiles t exclude directory).mapM (readSource t directory project referenced) =
      .ok ms := by
  obtain ⟨ms, hms⟩ := Option.isSome_iff_exists.mp h
  exact ⟨ms, eq_ok_of_toOption hms⟩

theorem sources_town : canRead town standardExclude "p" false (townFile "p").parent = true ∧
    canRead town standardExclude "core-lib" true (townFile "q").parent = true ∧
    canRead town standardExclude "Core" false (townFile "q").parent = true := by
  decide +kernel

theorem compile_of_sources {own more : List SourceModule} (hf : e.file = some file)
    (hc : e.compiles = true) (hsome : sourceFiles t exclude file.parent ≠ [])
    (hown : (sourceFiles t exclude file.parent).mapM (readSource t file.parent e.name false) =
      .ok own)
    (hmore : (visit t exclude e.name (t.fileCount + 1) [file] e.references).result = .ok more) :
    (e.compile t exclude).result = .ok ⟨e.name, file, own ++ more⟩ := by
  have hempty : (sourceFiles t exclude file.parent).isEmpty = false :=
    List.isEmpty_eq_false_iff.mpr hsome
  simp only [Entry.compile, hf, hc, hempty, hown, Bool.not_true, Bool.false_eq_true, if_false,
    Report.result_say, Report.result_later, Report.result_map, hmore]
  rfl

theorem compile_town : (∃ u, (townFirst.compile town standardExclude).result = .ok u) ∧
    ∃ u, (townSecond.compile town standardExclude).result = .ok u := by
  obtain ⟨hfirst, hreferenced, hsecond⟩ := sources_town
  obtain ⟨own, hown⟩ := exists_of_canRead hfirst
  obtain ⟨part, hpart⟩ := exists_of_canRead hreferenced
  obtain ⟨ownQ, hownQ⟩ := exists_of_canRead hsecond
  have hnil : ∀ seen, (visit town standardExclude "p" town.fileCount seen []).result = .ok [] ∧
      (visit town standardExclude "Core" (town.fileCount + 1) seen []).result = .ok [] := by
    intro seen
    rw [visit, visit]
    exact ⟨rfl, rfl⟩
  have hvisit : (visit town standardExclude "p" (town.fileCount + 1) [townFile "p"]
      [townFile "q"]).result = .ok (part ++ []) := by
    rw [visit_usable "p" town.fileCount [townFile "p"] [] (by decide +kernel) read_town.2 hpart]
    rw [List.nil_append, (hnil _).1]
    rfl
  have hsome : sourceFiles town standardExclude (townFile "p").parent ≠ [] ∧
      sourceFiles town standardExclude (townFile "q").parent ≠ [] := by
    decide +kernel
  exact ⟨⟨_, compile_of_sources rfl rfl hsome.1 hown hvisit⟩,
    ⟨_, compile_of_sources rfl rfl hsome.2 hownQ (hnil _).2⟩⟩

theorem compile_referenced_town :
    (loadSolution town townSolution).2 = .ok ⟨"s", [townFirst, townSecond]⟩ ∧
    Mentioned town (townFile "p") (townFile "q") ∧ townFile "q" ≠ townFile "p" ∧
    ∃ uP uQ, (townFirst.compile town standardExclude).result = .ok uP ∧
      (townSecond.compile town standardExclude).result = .ok uQ ∧ ∃ d part,
        Rereads town standardExclude townSecond (townFile "q") d uP uQ part ∧
          d.name = "core-lib" := by
  obtain ⟨⟨uP, hP⟩, ⟨uQ, hQ⟩⟩ := compile_town
  have hbehind : Mentioned town (townFile "p") (townFile "q") :=
    Mentioned.self.reference read_town.1 List.mem_cons_self
  have hne : townFile "q" ≠ townFile "p" := by decide
  obtain ⟨d, part, hpart, _⟩ := compile_referenced load_town List.mem_cons_self
    (List.mem_cons_of_mem _ List.mem_cons_self) rfl rfl hne hbehind hP hQ
  refine ⟨load_town, hbehind, hne, uP, uQ, hP, hQ, d, part, hpart, ?_⟩
  rw [Except.ok.inj (hpart.descriptor.symm.trans read_town.2)]

end Stencil.Project
