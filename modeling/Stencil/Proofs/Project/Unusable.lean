import Stencil.Proofs.Project.Compiling
import Stencil.Proofs.Project.Reload

/-!
Descriptors that cannot be used. One that is missing or says something wrong is skipped where it is
referred to, and is listed as a project that does not compile. What ends a run instead is a place
that cannot be looked at, a number that is too long, or a table of another shape.
-/
namespace Stencil.Project
open Stencil.Files

variable {t : Tree} {p q : Path} {d root : Descriptor} {x : DescriptorError}

/-- A part of a table, which is empty when it is left out. -/
def part (entries : List (Plain × Plain)) (name : String) : Plain :=
  (Plain.valueOf? entries name).getD (.dict [])

/-- A table in which everything that is looked into is of the kind that is expected. -/
structure WellShaped (entries : List (Plain × Plain)) : Prop where
  project : ∃ project, part entries "project" = .dict project
  tool : ∃ tool, part entries "tool" = .dict tool ∧ (∃ poetry, part tool "poetry" = .dict poetry) ∧
    ∃ own, part tool "ntgen" = .dict own ∧
      ∃ vs, ((Plain.valueOf? own "references").getD (.list [])).itemsOf = .ok vs ∧
        ∀ v ∈ vs, ∃ s, v = .str s

theorem WellShaped.named {entries : List (Plain × Plain)} (h : WellShaped entries)
    (directory : String) : ∃ name, nameIn directory (.dict entries) = .ok name := by
  obtain ⟨project, hproject⟩ := h.project
  obtain ⟨tool, htool, ⟨poetry, hpoetry⟩, _⟩ := h.tool
  unfold part at hproject htool hpoetry
  simp only [nameIn, Plain.nestedFieldOr, Plain.fieldOr, hproject, htool, hpoetry, bind,
    Except.bind, pure, Except.pure]
  split
  · exact ⟨_, rfl⟩
  · exact ⟨_, rfl⟩

theorem WellShaped.listed {entries : List (Plain × Plain)} (h : WellShaped entries) :
    ∃ vs, listedIn (.dict entries) = .ok vs ∧ ∀ v ∈ vs, ∃ s, v = .str s := by
  obtain ⟨tool, htool, _, own, hown, vs, hvs, hall⟩ := h.tool
  unfold part at htool hown
  refine ⟨vs, ?_, hall⟩
  simp only [listedIn, Plain.nestedFieldOr, Plain.fieldOr, htool, hown, bind, Except.bind]
  exact hvs

/-! What reading a descriptor comes to. -/

/-- What lies at a path is no descriptor that can be used: there is nothing, or no table can be read
there. -/
inductive Unusable (t : Tree) (p : Path) : DescriptorError → Prop where
  | missing {e} : t.readText p = .error (.file e) → e.fault = .missing → Unusable t p (.notFound p)
  | text {e} : t.readText p = .error (.utf8 e) → Unusable t p (.invalid p e.message)
  | table {text e} : t.readText p = .ok text → Toml.read text = .error e →
      (∀ digits, e.cause ≠ .tooLong digits) → Unusable t p (.invalid p e.message)

/-- What breaks off the reading of a descriptor. -/
inductive Breaks (t : Tree) (p : Path) : DescriptorError → Prop where
  | place {e} : t.readText p = .error (.file e) → e.fault ≠ .missing → Breaks t p (.unreadable e)
  | number {text e digits} : t.readText p = .ok text → Toml.read text = .error e →
      e.cause = .tooLong digits → Breaks t p (.number digits)
  | shape {entries fault} : readTable t p = .ok (.dict entries) → ¬WellShaped entries →
      Breaks t p (.shape fault)
  /-- A reference leads to a place that cannot be looked at. -/
  | reference {entries vs s e} : readTable t p = .ok (.dict entries) →
      listedIn (.dict entries) = .ok vs → .str s ∈ vs →
      descriptorPath t (t.resolve (p.parent / s)) = .error e → Breaks t p (.unreadable e)

theorem Unusable.isLoadError (h : Unusable t p x) : x.isLoadError = true := by
  cases h <;> rfl

theorem Breaks.not_isLoadError (h : Breaks t p x) : x.isLoadError = false := by
  cases h <;> rfl

theorem readTable_of_unusable (h : Unusable t p x) : readTable t p = .error x := by
  unfold readTable
  cases h with
  | missing hread hmissing => simp only [hread, hmissing, beq_self_eq_true, if_true]
  | text hread => simp only [hread]
  | @table text e hread htable hnumber =>
    simp only [hread, htable]
    obtain ⟨cause, place⟩ := e
    cases cause with
    | tooLong digits => exact absurd rfl (hnumber digits)
    | _ => rfl

theorem read_of_unusable (h : Unusable t (t.resolve p) x) : Descriptor.read t p = .error x :=
  read_of_readTable_error (readTable_of_unusable h)

theorem readTable_outcome (t : Tree) (p : Path) : (∃ entries, readTable t p = .ok (.dict entries)) ∨
    ∃ x, readTable t p = .error x ∧ (Unusable t p x ∨ Breaks t p x) := by
  unfold readTable
  split
  · rename_i e hread
    refine .inr ⟨_, rfl, ?_⟩
    split
    · rename_i hmissing
      exact .inl (.missing hread (beq_iff_eq.mp hmissing))
    · rename_i hother
      exact .inr (.place hread fun h => hother (beq_iff_eq.mpr h))
  · rename_i e hread
    exact .inr ⟨_, rfl, .inl (.text hread)⟩
  · rename_i text hread
    split
    · rename_i digits place htable
      exact .inr ⟨_, rfl, .inr (.number hread htable rfl)⟩
    · rename_i e hnumber htable
      refine .inr ⟨_, rfl, .inl (.table hread htable fun digits hd => ?_)⟩
      obtain ⟨cause, place⟩ := e
      cases hd
      exact hnumber digits place rfl
    · rename_i entries htable
      exact .inl ⟨entries, rfl⟩

theorem exists_of_shaped {α : Type} {y : Except ShapeFault α} (h : shaped y = .error x) :
    ∃ fault, y = .error fault ∧ x = .shape fault := by
  cases y with
  | ok => cases h
  | error fault => exact ⟨fault, rfl, (Except.error.inj h).symm⟩

/-- A reference that cannot be followed is no text, or leads to where nothing can be looked at. -/
theorem reference_error {directory : Path} {v : Plain} (h : reference t directory v = .error x) :
    (∃ fault, x = .shape fault ∧ ∀ s, v ≠ .str s) ∨
      ∃ s e, v = .str s ∧ x = .unreadable e ∧
        descriptorPath t (t.resolve (directory / s)) = .error e := by
  rcases bind_eq_error h with htext | ⟨s, htext, hplace⟩
  · obtain ⟨fault, hfault, rfl⟩ := exists_of_shaped htext
    refine .inl ⟨fault, rfl, ?_⟩
    rintro s rfl
    cases hfault
  · have hs := eq_ok_of_shaped htext
    obtain rfl : v = .str s := by
      cases v <;> cases hs
      rfl
    split at hplace
    · cases hplace
    · rename_i e he
      cases hplace
      exact .inr ⟨s, e, rfl, rfl, he⟩

/-- A table that was read breaks off the reading by its shape or by where its references lead. -/
theorem breaks_of_table {entries : List (Plain × Plain)}
    (htable : readTable t (t.resolve p) = .ok (.dict entries))
    (h : Descriptor.read t p = .error x) : Breaks t (t.resolve p) x := by
  rcases bind_eq_error h with hnone | ⟨table, hread, h⟩
  · rw [htable] at hnone
    cases hnone
  rw [htable] at hread
  cases hread
  rcases bind_eq_error h with hname | ⟨name, _, h⟩
  · obtain ⟨fault, hfault, rfl⟩ := exists_of_shaped hname
    refine .shape htable fun hw => ?_
    obtain ⟨name, hname⟩ := hw.named (t.resolve p).parent.name
    rw [hfault] at hname
    cases hname
  rcases bind_eq_error h with hvs | ⟨vs, hvs, h⟩
  · obtain ⟨fault, hfault, rfl⟩ := exists_of_shaped hvs
    refine .shape htable fun hw => ?_
    obtain ⟨vs, hvs, _⟩ := hw.listed
    exact absurd (hfault.symm.trans hvs) (by simp)
  have hlisted : listedIn (.dict entries) = .ok vs := eq_ok_of_shaped hvs
  rcases bind_eq_error h with hreferences | ⟨references, _, h⟩
  · obtain ⟨v, hv, hreference⟩ := exists_of_mapM_error hreferences
    rcases reference_error hreference with ⟨fault, rfl, hnone⟩ | ⟨s, e, rfl, rfl, hplace⟩
    · refine .shape htable fun hw => ?_
      obtain ⟨vs', hvs', hall⟩ := hw.listed
      rw [hlisted] at hvs'
      cases hvs'
      obtain ⟨s, hs⟩ := hall v hv
      exact hnone s hs
    · exact .reference htable hlisted hv hplace
  · cases h

/-- A descriptor is read, or it cannot be used, or reading it breaks off. -/
theorem read_outcome (t : Tree) (p : Path) : (∃ d, Descriptor.read t p = .ok d) ∨
    ∃ x, Descriptor.read t p = .error x ∧
      (Unusable t (t.resolve p) x ∨ Breaks t (t.resolve p) x) := by
  rcases readTable_outcome t (t.resolve p) with ⟨entries, htable⟩ | ⟨x, htable, hx⟩
  · cases hread : Descriptor.read t p with
    | ok d => exact .inl ⟨d, rfl⟩
    | error x => exact .inr ⟨x, rfl, .inr (breaks_of_table htable hread)⟩
  · exact .inr ⟨x, read_of_readTable_error htable, hx⟩

theorem breaks_of_read (h : Descriptor.read t p = .error x) (hx : ¬x.isLoadError = true) :
    Breaks t (t.resolve p) x := by
  rcases read_outcome t p with ⟨d, hd⟩ | ⟨y, hy, hxy⟩
  · exact absurd (h.symm.trans hd) (by simp)
  · obtain rfl := Except.error.inj (h.symm.trans hy)
    exact hxy.resolve_left fun hu => hx hu.isLoadError

theorem unusable_of_read (h : Descriptor.read t p = .error x) (hx : x.isLoadError = true) :
    Unusable t (t.resolve p) x := by
  rcases read_outcome t p with ⟨d, hd⟩ | ⟨y, hy, hxy⟩
  · exact absurd (h.symm.trans hd) (by simp)
  · obtain rfl := Except.error.inj (h.symm.trans hy)
    exact hxy.resolve_right fun hb => absurd hx (by simp [hb.not_isLoadError])

/-! Listed projects. -/

/-- Where a listed project lies, and whether there is anything. -/
structure Lies (t : Tree) (directory : Path) (l : Listed) (file : Path) (there : Bool) : Prop where
  place : descriptorPath t (t.resolve (directory / l.path)) = .ok file
  found : t.exists file = .ok there

/-- A descriptor that lies where something is listed is known by that place. -/
theorem Lies.path_eq {directory : Path} {l : Listed} {file : Path} {there : Bool}
    (h : Lies t directory l file there) (hd : Descriptor.read t file = .ok d) : d.path = file := by
  rcases descriptorPath_eq_ok h.place with ⟨_, rfl⟩ | ⟨_, rfl⟩
  · exact d.path_eq (resolved_inside (Path.resolved_resolve _ _)) hd
  · exact d.path_eq (Path.resolved_resolve _ _) hd

/-- The entry that a listed project becomes. -/
inductive Lists (t : Tree) (directory : Path) (l : Listed) : Entry → Prop where
  | absent {file} : Lies t directory l file false → Lists t directory l
      { name := l.name.getD (if isDescriptorName file then file.parent.name else file.name)
        file := none }
  | other {file} : Lies t directory l file true → isDescriptorName file = false →
      Lists t directory l { name := l.name.getD file.stem, file := some file, compiles := false }
  | unusable {file fault} : Lies t directory l file true → isDescriptorName file = true →
      Unusable t (t.resolve file) fault → Lists t directory l
        { name := l.name.getD file.parent.name, file := some file, compiles := false }
  | described {file d} : Lies t directory l file true → isDescriptorName file = true →
      Descriptor.read t file = .ok d → Lists t directory l
        { name := l.name.getD d.name, file := some d.path, references := d.references }

/-- What keeps a listed project from becoming an entry. -/
inductive Prevents (t : Tree) (directory : Path) (l : Listed) : LoadError → Prop where
  | place {e} : descriptorPath t (t.resolve (directory / l.path)) = .error e →
      Prevents t directory l (.unreadable (.file e))
  | existence {file e} : descriptorPath t (t.resolve (directory / l.path)) = .ok file →
      t.exists file = .error e → Prevents t directory l (.unreadable (.file e))
  | descriptor {file fault} : Lies t directory l file true → isDescriptorName file = true →
      Breaks t (t.resolve file) fault → Prevents t directory l (.project fault)

theorem entryOf_unplaced {directory : Path} {l : Listed} {e : FileError}
    (hp : descriptorPath t (t.resolve (directory / l.path)) = .error e) :
    entryOf t directory l = .error (.unreadable (.file e)) := by
  unfold entryOf
  rw [hp]
  rfl

theorem entryOf_unfound {directory : Path} {l : Listed} {e : FileError}
    (hp : descriptorPath t (t.resolve (directory / l.path)) = .ok p)
    (hx : t.exists p = .error e) : entryOf t directory l = .error (.unreadable (.file e)) := by
  unfold entryOf
  rw [hp]
  dsimp only [bind, Except.bind]
  rw [hx]

theorem entryOf_outcome (t : Tree) (directory : Path) (l : Listed) :
    (∃ lines e, entryOf t directory l = .ok (lines, e) ∧ Lists t directory l e) ∨
      ∃ fault, entryOf t directory l = .error fault ∧ Prevents t directory l fault := by
  cases hp : descriptorPath t (t.resolve (directory / l.path)) with
  | error e => exact .inr ⟨_, entryOf_unplaced hp, .place hp⟩
  | ok p =>
    cases hx : t.exists p with
    | error e => exact .inr ⟨_, entryOf_unfound hp hx, .existence hp hx⟩
    | ok there =>
      have hlies : Lies t directory l p there := ⟨hp, hx⟩
      rw [entryOf_eq hp hx]
      cases there with
      | false => exact .inl ⟨_, _, rfl, .absent hlies⟩
      | true =>
        cases hn : isDescriptorName p with
        | false => exact .inl ⟨_, _, rfl, .other hlies hn⟩
        | true =>
          cases hread : Descriptor.read t p with
          | ok d => exact .inl ⟨_, _, rfl, .described hlies hn hread⟩
          | error fault =>
            simp only [Bool.not_true, Bool.false_eq_true, if_false]
            by_cases hl : fault.isLoadError = true
            · rw [if_pos hl]
              exact .inl ⟨_, _, rfl, .unusable hlies hn (unusable_of_read hread hl)⟩
            · rw [if_neg hl]
              exact .inr ⟨_, rfl, .descriptor hlies hn (breaks_of_read hread hl)⟩

theorem entriesOf_outcome (t : Tree) (directory : Path) (listed : List Listed) :
    (∃ es, (entriesOf (entryOf t directory) listed).2 = .ok es ∧
      List.Forall₂ (Lists t directory) listed es) ∨
    ∃ l ∈ listed, ∃ fault, (entriesOf (entryOf t directory) listed).2 = .error fault ∧
      Prevents t directory l fault := by
  induction listed with
  | nil => exact .inl ⟨[], rfl, .nil⟩
  | cons l rest ih =>
    rw [entriesOf_cons]
    rcases entryOf_outcome t directory l with ⟨lines, e, hl, hlists⟩ | ⟨fault, hl, hprevents⟩
    · rw [hl]
      rcases ih with ⟨es, hes, hall⟩ | ⟨l', hl', fault, hfault, hprevents⟩
      · exact .inl ⟨e :: es, by rw [hes]; rfl, .cons hlists hall⟩
      · exact .inr ⟨l', List.mem_cons_of_mem _ hl', fault, by rw [hfault]; rfl, hprevents⟩
    · exact .inr ⟨l, List.mem_cons_self, fault, by rw [hl]; rfl, hprevents⟩

/-- A solution is loaded with an entry for each project that it lists, unless a listed project cannot
be looked at or breaks off the reading of its descriptor. -/
theorem loadSolution_outcome {target : Path} {name : String} {listed : List Listed}
    (h : readSolution t (t.resolve target) >>= solutionContent (t.resolve target) =
      .ok (name, listed)) :
    (∃ es, (loadSolution t target).2 = .ok ⟨name, es⟩ ∧
      List.Forall₂ (Lists t (t.resolve target).parent) listed es) ∨
    ∃ l ∈ listed, ∃ fault, (loadSolution t target).2 = .error fault ∧
      Prevents t (t.resolve target).parent l fault := by
  simp only [loadSolution, h]
  rcases entriesOf_outcome t (t.resolve target).parent listed with
    ⟨es, hes, hall⟩ | ⟨l, hl, fault, hfault, hprevents⟩
  · refine .inl ⟨es, ?_, hall⟩
    rw [show entriesOf (entryOf t (t.resolve target).parent) listed = (_, .ok es) from
      Prod.ext rfl hes]
  · refine .inr ⟨l, hl, fault, ?_, hprevents⟩
    rw [show entriesOf (entryOf t (t.resolve target).parent) listed = (_, .error fault) from
      Prod.ext rfl hfault]

/-! References. -/

theorem Mentioned.trans (h : Mentioned t p q) {r : Path} (hr : Mentioned t q r) :
    Mentioned t p r := by
  induction hr with
  | self => exact h
  | reference _ hd hm ih => exact ih.reference hd hm

/-- A place that is mentioned at a path, and that breaks off the reading. -/
structure BreaksBehind (t : Tree) (p : Path) (x : DescriptorError) (q : Path) : Prop where
  mentioned : Mentioned t p q
  read : Descriptor.read t q = .error x
  breaks : Breaks t (t.resolve q) x

theorem BreaksBehind.reference {r : Path} (h : BreaksBehind t r x q)
    (hd : Descriptor.read t p = .ok d) (hr : r ∈ d.references) : BreaksBehind t p x q where
  mentioned := (Mentioned.self.reference hd hr).trans h.mentioned
  read := h.read
  breaks := h.breaks

theorem readReferences_error {name : String} {ps : List Path} {fault : LoadError}
    (h : (readReferences t name ps).2 = .error fault) :
    ∃ p ∈ ps, ∃ x, fault = .project x ∧ BreaksBehind t p x p := by
  induction ps with
  | nil => cases h
  | cons p rest ih =>
    have hlater : (readReferences t name rest).2 = .error fault →
        ∃ q ∈ p :: rest, ∃ x, fault = .project x ∧ BreaksBehind t q x q := fun h =>
      (ih h).imp fun _ hq => ⟨List.mem_cons_of_mem _ hq.1, hq.2⟩
    simp only [readReferences] at h
    cases hread : Descriptor.read t p with
    | ok d =>
      simp only [hread] at h
      cases hrest : (readReferences t name rest).2 with
      | ok found => rw [hrest] at h; cases h
      | error e =>
        rw [hrest] at h
        cases h
        exact hlater hrest
    | error x =>
      simp only [hread] at h
      split at h
      · exact hlater h
      · rename_i hx
        cases h
        exact ⟨p, List.mem_cons_self, x, rfl, .self, hread, breaks_of_read hread hx⟩

/-- The loop fails by a place that is mentioned behind what it still has to add. -/
theorem addReferenced_error (t : Tree) (limit : Nat) (done : List Entry) (queue : List Descriptor)
    (fault : LoadError) : (∀ d ∈ queue, ∃ p, Mentioned t root.path p ∧ Descriptor.read t p = .ok d) →
      (addReferenced t limit done queue).2 = .error fault →
      ∃ q x, fault = .project x ∧ BreaksBehind t root.path x q := by
  fun_induction addReferenced t limit done queue with
  | case1 limit done =>
    intro _ h
    cases h
  | case2 limit done d rest hany ih =>
    intro hq h
    exact ih (fun e he => hq e (List.mem_cons_of_mem _ he)) h
  | case3 done d rest hany =>
    intro _ h
    cases h
  | case4 done d rest hany limit lines e he =>
    intro hq h
    cases h
    obtain ⟨p, hp, hd⟩ := hq d List.mem_cons_self
    obtain ⟨r, hr, x, rfl, hx⟩ := readReferences_error (congrArg Prod.snd he)
    exact ⟨r, x, rfl, hp.trans (hx.reference hd hr).mentioned, hx.read, hx.breaks⟩
  | case5 done d rest hany limit lines found hf more result hmore ih =>
    intro hq h
    rw [hmore] at ih
    refine ih (fun e he => ?_) h
    rcases List.mem_append.mp he with he | he
    · exact hq e (List.mem_cons_of_mem _ he)
    · obtain ⟨p, hp, hd⟩ := hq d List.mem_cons_self
      obtain ⟨r, hr, hread⟩ := exists_of_readReferences (congrArg Prod.snd hf) he
      exact ⟨r, hp.reference hd hr, hread⟩

/-- A project is loaded unless something that is mentioned behind it breaks off the reading. -/
theorem loadProject_error {target : Path} {fault : LoadError}
    (hr : rootDescriptor t target = .ok root) (h : (loadProject t target).2 = .error fault) :
    ∃ q x, fault = .project x ∧ BreaksBehind t root.path x q := by
  rw [loadProject_eq] at h
  rcases bind_eq_error h with hnone | ⟨d, hd, h⟩
  · rw [hr] at hnone
    cases hnone
  rw [hr] at hd
  cases hd
  cases ha : (addReferenced t (t.fileCount + 1) [] [root]).2 with
  | ok es => rw [ha] at h; cases h
  | error e =>
    rw [ha] at h
    cases h
    refine addReferenced_error t _ _ _ _ (fun d hd => ?_) ha
    rw [List.mem_singleton.mp hd]
    exact ⟨root.path, .self, read_of_rootDescriptor hr⟩

/-! Compiling. -/

/-- What stops compiling behind a path that is referred to: a source, or the reading of a
descriptor. -/
inductive Stops (t : Tree) (exclude : String → Bool) (p : Path) : CompileError → Prop where
  | source {q d file fault} : Mentioned t p q → Descriptor.read t q = .ok d →
      file ∈ sourceFiles t exclude d.directory →
      readSource t d.directory d.name true file = .error fault → Stops t exclude p fault
  | reference {q fault} : BreaksBehind t p fault q → Stops t exclude p (.reference fault)

theorem Stops.behind {exclude : String → Bool} {r : Path} {fault : CompileError}
    (h : Stops t exclude r fault) (hd : Descriptor.read t p = .ok d) (hr : r ∈ d.references) :
    Stops t exclude p fault := by
  cases h with
  | source hq hread hfile hfault =>
    exact .source ((Mentioned.self.reference hd hr).trans hq) hread hfile hfault
  | reference hb => exact .reference (hb.reference hd hr)

theorem exists_of_result_map {α β : Type} {r : Report α} {f : α → β} {fault : CompileError}
    (h : (r.map f).result = .error fault) : r.result = .error fault := by
  rw [Report.result_map] at h
  cases hr : r.result with
  | ok => rw [hr] at h; cases h
  | error =>
    rw [hr] at h
    cases h
    rfl

/-- The visit fails by what stops it behind its queue. -/
theorem visit_error (t : Tree) (exclude : String → Bool) (name : String) (limit : Nat)
    (seen queue : List Path) (fault : CompileError) :
    (visit t exclude name limit seen queue).result = .error fault →
      ∃ p ∈ queue, Stops t exclude p fault := by
  -- What stops the visit behind the references of a descriptor stops it behind the descriptor.
  have hmore : ∀ {p d queue}, Descriptor.read t p = .ok d →
      (∃ r ∈ queue ++ d.references, Stops t exclude r fault) →
      ∃ r ∈ p :: queue, Stops t exclude r fault := by
    rintro p d queue hd ⟨r, hr, hstops⟩
    rcases List.mem_append.mp hr with hr | hr
    · exact ⟨r, List.mem_cons_of_mem _ hr, hstops⟩
    · exact ⟨p, List.mem_cons_self, hstops.behind hd hr⟩
  have hlater : ∀ {p queue}, (∃ r ∈ queue, Stops t exclude r fault) →
      ∃ r ∈ p :: queue, Stops t exclude r fault := fun h =>
    h.imp fun _ hr => ⟨List.mem_cons_of_mem _ hr.1, hr.2⟩
  fun_induction visit t exclude name limit seen queue with
  | case1 limit seen =>
    intro h
    cases h
  | case2 limit seen p queue hp ih => exact fun h => hlater (ih h)
  | case3 limit seen p queue hp e he hload ih =>
    intro h
    rw [Report.result_say] at h
    exact hlater (ih h)
  | case4 limit seen p queue hp e he hload =>
    intro h
    cases h
    exact ⟨p, List.mem_cons_self, .reference ⟨.self, he, breaks_of_read he hload⟩⟩
  | case5 seen p queue hp d hd =>
    intro h
    cases h
  | case6 seen p queue hp d hd limit files e he =>
    intro h
    cases h
    obtain ⟨file, hfile, hfault⟩ := exists_of_mapM_error he
    exact ⟨p, List.mem_cons_self, .source .self hd hfile hfault⟩
  | case7 seen p queue hp d hd limit files modules hmodules more all hempty ih =>
    exact fun h => hmore hd (ih (exists_of_result_map h))
  | case8 seen p queue hp d hd limit files modules hmodules more all hempty ih =>
    intro h
    rw [Report.result_later] at h
    exact hmore hd (ih (exists_of_result_map h))

/-- Compiling fails for want of sources, by a source, or by what stops it behind a reference. -/
theorem compile_error {exclude : String → Bool} {e : Entry} {file : Path} {fault : CompileError}
    (hf : e.file = some file) (hc : e.compiles = true)
    (h : (e.compile t exclude).result = .error fault) :
    fault = .noSources file ∨
      (∃ p ∈ sourceFiles t exclude file.parent,
        readSource t file.parent e.name false p = .error fault) ∨
      ∃ p ∈ e.references, Stops t exclude p fault := by
  simp only [Entry.compile, hf, hc, Bool.not_true, Bool.false_eq_true, if_false] at h
  rw [Report.result_say] at h
  split at h
  · cases h
    exact .inl rfl
  · split at h
    · rename_i own hfault
      cases h
      exact .inr (.inl (exists_of_mapM_error hfault))
    · rw [Report.result_later] at h
      exact .inr (.inr (visit_error t _ _ _ _ _ _ (exists_of_result_map h)))

theorem readSource_ne_reference {root p : Path} {project : String} {referenced : Bool} :
    readSource t root project referenced p ≠ .error (.reference x) := by
  intro h
  unfold readSource at h
  split at h
  · cases h
  · cases h
  · split at h
    · cases h
    · split at h
      · cases h
      · split at h <;> cases h

/-- Where compiling fails by a reference, something behind one breaks off the reading. -/
theorem compile_reference {exclude : String → Bool} {e : Entry}
    (h : (e.compile t exclude).result = .error (.reference x)) :
    ∃ p ∈ e.references, ∃ q, BreaksBehind t p x q := by
  cases hf : e.file with
  | none =>
    simp only [Entry.compile, hf] at h
    cases h
  | some file =>
    cases hc : e.compiles with
    | false =>
      simp only [Entry.compile, hf, hc] at h
      cases h
    | true =>
      rcases compile_error hf hc h with hnone | ⟨p, _, hp⟩ | ⟨p, hp, hstops⟩
      · cases hnone
      · exact absurd hp readSource_ne_reference
      · cases hstops with
        | source _ _ _ hfault => exact absurd hfault readSource_ne_reference
        | reference hb => exact ⟨p, hp, _, hb⟩

/-! All of it. -/

/-- What becomes of descriptors that cannot be used, wherever they are read: solutions list them,
projects and compiling pass over them, and only what breaks off the reading ends any of these. -/
structure Contained (t : Tree) : Prop where
  read : ∀ p, (∃ d, Descriptor.read t p = .ok d) ∨ ∃ x, Descriptor.read t p = .error x ∧
    (Unusable t (t.resolve p) x ∧ x.isLoadError = true ∨
      Breaks t (t.resolve p) x ∧ x.isLoadError = false)
  unusable : ∀ p x, Unusable t (t.resolve p) x → Descriptor.read t p = .error x
  solution : ∀ target name listed,
    readSolution t (t.resolve target) >>= solutionContent (t.resolve target) = .ok (name, listed) →
    (∃ es, (loadSolution t target).2 = .ok ⟨name, es⟩ ∧
      List.Forall₂ (Lists t (t.resolve target).parent) listed es) ∨
    ∃ l ∈ listed, ∃ fault, (loadSolution t target).2 = .error fault ∧
      Prevents t (t.resolve target).parent l fault
  project : ∀ target root, rootDescriptor t target = .ok root →
    (∃ w, (loadProject t target).2 = .ok w) ∨
    ∃ q x, (loadProject t target).2 = .error (.project x) ∧ BreaksBehind t root.path x q
  compile : ∀ exclude e x, (Entry.compile t exclude e).result = .error (.reference x) →
    ∃ p ∈ e.references, ∃ q, BreaksBehind t p x q

/-- A descriptor in which the tools are a number. -/
def oddShape : Tree where
  root := .dir [("pyproject.toml", .file (.ofText "tool = 3"))]
  here := ⟨.root, []⟩

example : Descriptor.read oddShape ⟨.root, ["pyproject.toml"]⟩ = .error (.shape (.noFields "int")) := by
  decide +kernel

end Stencil.Project
