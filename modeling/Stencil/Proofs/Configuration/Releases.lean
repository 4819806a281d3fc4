import Stencil.Proofs.Configuration.Stages

/-!
What resolving a configuration takes, it gives back, however it ends. The names that the modules of
an artifact are loaded under are taken out again, and so is the directory of the build with all that
the build has put into it; one that is to be kept is the only directory that is new.
-/
namespace Stencil.Artifact
open Stencil.Files

variable {artifact : Path} {members : List Member} {loaded : List String} {table : Table}
  {name : String}

/-! The names of modules. -/

/-- A table that an artifact has entered names in, all of which are new. -/
structure Table.Over (loaded : List String) (table : Table) : Prop where
  names : ∃ entered, table.loaded = loaded ++ entered ∧ ∀ n ∈ entered, n ∈ table.own
  own : ∀ n ∈ table.own, n ∉ loaded

theorem Table.over_start (loaded : List String) : Over loaded { loaded } where
  names := ⟨[], (List.append_nil _).symm, fun _ h => by cases h⟩
  own := fun _ h => by cases h

theorem Table.Over.enter (h : Over loaded table) (hn : name ∉ loaded) :
    Over loaded (table.enter name) where
  names := by
    obtain ⟨entered, hloaded, hown⟩ := h.names
    have hold : ∀ n ∈ entered, n ∈ table.own ++ [name] := fun n hmem =>
      List.mem_append_left _ (hown n hmem)
    by_cases hthere : table.loaded.contains name
    · exact ⟨entered, by rw [Table.enter, if_pos hthere, hloaded], hold⟩
    · refine ⟨entered ++ [name], ?_, ?_⟩
      · rw [Table.enter, if_neg hthere, hloaded, List.append_assoc]
      · intro n hmem
        rcases List.mem_append.mp hmem with hmem | hmem
        · exact hold n hmem
        · exact List.mem_append_right _ hmem
  own := by
    intro n hmem
    rcases List.mem_append.mp hmem with hmem | hmem
    · exact h.own n hmem
    · rw [List.mem_singleton.mp hmem]
      exact hn

theorem Table.foldl_drop (own names : List String) :
    own.foldl drop names = names.filter fun n => !own.contains n := by
  induction own generalizing names with
  | nil => simp
  | cons name rest ih =>
    rw [List.foldl_cons, ih, Table.drop, List.filter_filter]
    apply List.filter_congr
    intro n _
    rw [List.contains_cons, Bool.not_or, Bool.and_comm]
    rfl

/-- All that was entered is taken out, and nothing else. -/
theorem Table.Over.leave (h : Over loaded table) : table.leave = loaded := by
  obtain ⟨entered, hloaded, hown⟩ := h.names
  have hkept : loaded.filter (fun n => !table.own.contains n) = loaded := by
    refine List.filter_eq_self.mpr fun n hmem => ?_
    have hn : n ∉ table.own := fun ho => h.own n ho hmem
    simpa using hn
  have hgone : entered.filter (fun n => !table.own.contains n) = [] := by
    refine List.filter_eq_nil_iff.mpr fun n hmem => ?_
    simpa using hown n hmem
  rw [Table.leave, Table.foldl_drop, hloaded, List.filter_append, hkept, hgone, List.append_nil]

/-- Modules enter new names and nothing else, up to the one that fails. -/
theorem runAllIn_over (hfresh : ∀ member, privateName member ∉ loaded) (h : table.Over loaded)
    (m : Script.Memory) (names : List String) :
    (runAllIn artifact members table m names).1.Over loaded := by
  induction names generalizing table m with
  | nil => exact h
  | cons member rest ih =>
    unfold runAllIn
    split
    · exact h
    · rename_i found source _
      have henter := h.enter (hfresh member)
      dsimp only
      split
      · exact henter
      · rename_i next _
        exact ih henter next

/-- Loading an artifact leaves no name behind. -/
theorem loadIn_loaded (hfresh : ∀ member, privateName member ∉ loaded) (t : Tree)
    (artifact : Path) : (Configuration.loadIn loaded t artifact).1 = loaded := by
  unfold Configuration.loadIn
  split
  · exact (Table.over_start loaded).leave
  · exact (runAllIn_over hfresh (Table.over_start loaded) _ _).leave

end Stencil.Artifact

namespace Stencil.Resolver
open Stencil.Build (Builder Isolated descriptorName)
open Stencil.Files
open Stencil.Project

variable {r : Resolver} {b : Builder} {t after : Tree} {e : Entry} {u : Project.Unit}
  {place names : List String} {entries : List (String × Node)} {file source directory : Path}

/-! How far resolving gets. -/

/-- Resolving comes to a source that it builds. -/
def Chooses (r : Resolver) (e : Entry) (t : Tree) (source : Path) : Prop :=
  ∃ u rest, (e.compile t r.sourceExclude).result = .ok u ∧
    r.sources t u.file u = source :: rest ∧ t.exists u.file = .ok true

/-- Resolving gets as far as making the directory of a build. -/
def Begins (r : Resolver) (e : Entry) (t : Tree) : Prop :=
  (∃ source, r.Chooses e t source) ∧
    ∃ made directory, Work.Ends r.makeTemporary t made (.ok directory)

/-- What is told of a build changes nothing. -/
theorem quiet_told (built : Except Stop Configuration) : Work.Quiet (told built) := by
  match built with
  | .ok c => exact Work.quiet_pure _
  | .error (.warned message details) =>
    exact (Work.quiet_say _).bind fun _ => (Work.quiet_sayAll _).bind fun _ => Work.quiet_pure _
  | .error (.ended e) => exact Work.quiet_fail _

/-- Configuring builds the first source that there is, or it does nothing. -/
theorem ends_configure_cases {res : Except RunError (Option Configuration)}
    (h : Work.Ends (r.configure e file names) t after res) :
    (after = t ∧ ∀ source rest, r.candidateFiles t file.parent names = source :: rest →
        t.exists file ≠ .ok true) ∨
      ∃ source rest built, r.candidateFiles t file.parent names = source :: rest ∧
        t.exists file = .ok true ∧ Work.Ends (r.buildAndLoad source) t after built := by
  unfold configure at h
  rw [Work.ends_bind_ok (Work.ends_tree_iff.mpr ⟨rfl, rfl⟩)] at h
  cases hfiles : r.candidateFiles t file.parent names with
  | nil =>
    simp only [hfiles] at h
    rw [Work.ends_bind_ok (Work.ends_say_iff.mpr ⟨rfl, rfl⟩), Work.ends_pure_iff] at h
    exact .inl ⟨h.1, fun _ _ hcons => by cases hcons⟩
  | cons source rest =>
    simp only [hfiles] at h
    rw [Work.ends_bind_ok ends_reportFiles] at h
    rcases Work.ends_bind_iff.mp h with ⟨mid, there, hlook, h⟩ | ⟨fault, hlook, _⟩
    · obtain ⟨rfl, hthere⟩ := Work.ends_look_iff.mp hlook
      have hexists := eq_ok_of_mapError hthere.symm
      cases there with
      | false =>
        rw [if_pos (by decide), Work.ends_bind_ok ends_warn, Work.ends_pure_iff] at h
        exact .inl ⟨h.1, fun _ _ _ hthere => by rw [hthere] at hexists; cases hexists⟩
      | true =>
        rw [if_neg (by decide)] at h
        have hbuild := Work.ends_self (r.buildAndLoad source) mid
        rw [Work.ends_bind_ok (Work.ends_attempt_iff.mpr ⟨_, hbuild, rfl⟩)] at h
        rw [← (quiet_told _).ends h] at hbuild
        exact .inr ⟨source, rest, _, rfl, hexists, hbuild⟩
    · obtain ⟨rfl, hfault⟩ := Work.ends_look_iff.mp hlook
      obtain ⟨_, hexists, _⟩ := exists_of_mapError hfault.symm
      exact .inl ⟨rfl, fun _ _ _ hthere => by rw [hthere] at hexists; cases hexists⟩

theorem ends_resolve_uncompiled {fault : CompileError} {res : Except RunError (Option Configuration)}
    (hf : (e.compile t r.sourceExclude).result = .error fault)
    (h : Work.Ends (r.resolve e) t after res) : after = t := by
  unfold resolve at h
  rw [Work.ends_bind_ok (ends_progress_iff.mpr ⟨rfl, rfl⟩),
    Work.ends_bind_ok (Work.ends_tree_iff.mpr ⟨rfl, rfl⟩)] at h
  simp only [hf] at h
  rw [Work.ends_when_iff (Work.ends_sayAll_iff.mpr ⟨rfl, rfl⟩)] at h
  split at h
  · rw [Work.ends_bind_ok ends_warn, Work.ends_pure_iff] at h
    exact h.1
  · exact (Work.ends_fail_iff.mp h).1

/-- A project without a marked class has no sources to choose from. -/
theorem sources_unmarked (hm : r.markedClasses u = []) : r.sources t file u = [] := by
  refine List.eq_nil_iff_forall_not_mem.mpr fun p hp => ?_
  obtain ⟨c, hc, _⟩ := (mem_sources.mp hp).named
  exact markedClasses_ne_nil hc hm

/-- Resolving builds the source that it chooses, or it does nothing. -/
theorem ends_resolve_cases {res : Except RunError (Option Configuration)}
    (h : Work.Ends (r.resolve e) t after res) :
    (after = t ∧ ∀ source, ¬r.Chooses e t source) ∨
      ∃ source built, r.Chooses e t source ∧ Work.Ends (r.buildAndLoad source) t after built := by
  cases hu : (e.compile t r.sourceExclude).result with
  | error fault =>
    refine .inl ⟨ends_resolve_uncompiled hu h, ?_⟩
    rintro source ⟨u, rest, hu', _⟩
    cases hu.symm.trans hu'
  | ok u =>
    by_cases hm : r.markedClasses u = []
    · refine .inl ⟨(h.unique (ends_resolve_unmarked hu hm)).1, ?_⟩
      rintro source ⟨u', rest, hu', hsources, _⟩
      cases hu.symm.trans hu'
      rw [sources_unmarked hm] at hsources
      cases hsources
    · rcases ends_configure_cases ((ends_resolve_marked_iff hu hm).mp h) with
        ⟨hsame, hnone⟩ | ⟨source, rest, built, hfiles, hexists, hbuilt⟩
      · refine .inl ⟨hsame, ?_⟩
        rintro source ⟨u', rest, hu', hsources, hexists⟩
        cases hu.symm.trans hu'
        exact hnone source rest hsources hexists
      · exact .inr ⟨source, built, ⟨u, rest, hu, hfiles, hexists⟩, hbuilt⟩

theorem name_of_chosen (h : r.Chooses e t source) :
    source.name ≠ ".." ∧ source.name ≠ descriptorName := by
  obtain ⟨u, rest, _, hsources, _⟩ := h
  have hmem : source ∈ r.sources t u.file u := by
    rw [hsources]
    exact List.mem_cons_self
  exact name_of_candidate hmem

/-! The directory of a build. -/

/-- The trees that a build leaves which is given a unit at a free name, or which never gets one. -/
def LeftBy (r : Resolver) (t : Tree) (place : List String) (name : String) (mid : Tree) : Prop :=
  (∃ entries, mid = t.graft place name (.dir entries)) ∨ ∃ start, Isolated t place name start ∧
    mid = (r.build ((r.temporary.child name).child descriptorName) true start).tree

/-- A build that is given a unit leaves its directory, and all directories beside it, where they
are. -/
def Tidy (r : Resolver) (t : Tree) : Prop :=
  ∀ place name, t.Free r.temporary place name → Work.Leads (Isolated t place name)
    (r.build ((r.temporary.child name).child descriptorName) true) (t.Gains place name)

/-- The builder is tidy. -/
theorem Builds.tidy (hb : r.Builds b) (t : Tree) : r.Tidy t := by
  intro place name hf mid hmid
  have hunit : t.Gains place name mid := by
    obtain ⟨entries, rfl⟩ := hmid.dir
    exact hf.vacant.gains entries
  have hdirs := Build.build_sameDirs (t := mid) hb.run
    ((r.temporary.child name).child descriptorName) true mid (.refl mid)
  obtain ⟨node, hnode⟩ := Build.build_grafted hf hb.run true mid hmid
  rw [hb.build]
  rw [hnode] at hdirs ⊢
  have hdir := hdirs.dirs _ hunit.unit
  cases node with
  | file d =>
    rw [Tree.kindAt_graft hf.vacant, if_pos (List.prefix_refl _),
      List.drop_of_length_le (by simp)] at hdir
    cases hdir
  | dir entries => exact hf.vacant.gains entries

theorem Tidy.gains (htidy : r.Tidy t) {name : String} {mid : Tree}
    (hf : t.Free r.temporary place name) (h : r.LeftBy t place name mid) :
    t.Gains place name mid := by
  rcases h with ⟨entries, rfl⟩ | ⟨start, hstart, rfl⟩
  · exact hf.vacant.gains entries
  · exact htidy place name hf start hstart

/-- What resolving leaves of the directories of a tree. -/
structure Releases (r : Resolver) (e : Entry) (t : Tree) (place : List String) (after : Tree) :
    Prop where
  idle : ¬r.Begins e t → after = t
  /-- Whatever the build does, its directory is the one that is taken away. -/
  begun : r.Begins e t → ∃ name mid, t.Free r.temporary place name ∧ r.LeftBy t place name mid ∧
    after = r.cleaned (r.temporary.child name) mid
  /-- All directories are those that were before. -/
  taken : r.Tidy t → r.keepBuild = false → ∀ names, after.kindAt names = some .directory ↔
    t.kindAt names = some .directory
  /-- There is one directory more, and it is new. -/
  kept : r.Tidy t → r.keepBuild = true → r.Begins e t →
    ∃ name, t.Vacant place name ∧ t.Gains place name after

theorem releases_same (hn : ¬r.Begins e t) : r.Releases e t place t where
  idle := fun _ => rfl
  begun := fun hb => absurd hb hn
  taken := fun _ _ _ => Iff.rfl
  kept := fun _ _ hb => absurd hb hn

/-- In the end a directory that is not to be kept is taken away. -/
theorem releases_cleaned {name : String} {mid : Tree} (hb : r.Begins e t)
    (hf : t.Free r.temporary place name) (hl : r.LeftBy t place name mid) :
    r.Releases e t place (r.cleaned (r.temporary.child name) mid) where
  idle := fun hn => absurd hb hn
  begun := fun _ => ⟨name, mid, hf, hl, rfl⟩
  taken := by
    intro htidy hkeep names
    rw [cleaned, if_neg (by simp [hkeep])]
    exact (htidy.gains hf hl).removeAll hf names
  kept := by
    intro htidy hkeep _
    rw [cleaned, if_pos hkeep]
    exact ⟨name, hf.vacant, htidy.gains hf hl⟩

/-- What a build takes is given back when it is over, however it is. -/
theorem ends_buildAndLoad_releases (ht : t.locate r.temporary = .ok (.node place (.dir entries)))
    (hc : r.Chooses e t source) {res : Except Stop Configuration}
    (h : Work.Ends (r.buildAndLoad source) t after res) : r.Releases e t place after := by
  unfold buildAndLoad at h
  rcases Work.ends_bind_iff.mp h with ⟨made, directory, hmake, h⟩ | ⟨stop, hmake, _⟩
  · have hbegins : r.Begins e t := ⟨⟨source, hc⟩, made, directory, hmake⟩
    rcases ends_makeTemporary ht hmake with ⟨_, _, hstop⟩ | ⟨n, rfl, hfree, hdirectory⟩
    · cases hstop
    · cases hdirectory
      have hf : t.Free r.temporary place (temporaryName n) :=
        ⟨⟨_, ht⟩, hfree, temporaryName_ne_up n⟩
      have hleft : ∀ {mid res'}, Work.Ends (r.buildIn (r.temporary.child (temporaryName n)) source)
          (t.graft place (temporaryName n) (.dir [])) mid res' →
          r.LeftBy t place (temporaryName n) mid := fun hin =>
        ends_buildIn_of hf (fun start hstart => .inr ⟨start, hstart, rfl⟩)
          (fun entries => .inl ⟨entries, rfl⟩) (name_of_chosen hc) hin
      rcases Work.ends_ending_iff.mp h with ⟨mid, _, hin, hend⟩ | ⟨mid, res', stop, hin, hend, _⟩
      · rw [(hend.unique ends_cleanup_cleaned).1]
        exact releases_cleaned hbegins hf (hleft hin)
      · rw [(hend.unique ends_cleanup_cleaned).1]
        exact releases_cleaned hbegins hf (hleft hin)
  · have hnever : ¬r.Begins e t := by
      rintro ⟨_, made, directory, hok⟩
      cases (hmake.unique hok).2
    rcases ends_makeTemporary ht hmake with ⟨rfl, _⟩ | ⟨_, _, _, hok⟩
    · exact releases_same hnever
    · cases hok

/-- However resolving ends, it leaves the directories that were before, or one more that is to be
kept when a build was begun; and loading an artifact, however that ends, leaves the names of loaded
modules as they were. -/
theorem resolve_releases (ht : t.locate r.temporary = .ok (.node place (.dir entries)))
    (e : Entry) :
    (∀ after res, Work.Ends (r.resolve e) t after res → r.Releases e t place after) ∧
      ∀ loaded mid artifact, (∀ member, Artifact.privateName member ∉ loaded) →
        (Configuration.loadIn loaded mid artifact).1 = loaded ∧
          (Configuration.loadIn loaded mid artifact).2 = Configuration.load mid artifact := by
  constructor
  · intro after res h
    rcases ends_resolve_cases h with ⟨rfl, hnone⟩ | ⟨source, built, hc, hbuilt⟩
    · refine releases_same fun hb => ?_
      obtain ⟨⟨source, hc⟩, _⟩ := hb
      exact hnone source hc
    · exact ends_buildAndLoad_releases ht hc hbuilt
  · intro loaded mid artifact hfresh
    exact ⟨Artifact.loadIn_loaded hfresh mid artifact,
      Artifact.loadIn_eq_load loaded mid artifact⟩

/-! An example: the stall, whose build directory is taken away or kept, and an archive with two
modules of one name, the second of which fails. -/

def twice : Tree where
  root := .dir [("c.zip", .file (.archive
    [("b/c.py", Text.encodeUtf8 "x = 1"), ("c.py", Text.encodeUtf8 "raise ValueError()")]))]
  here := ⟨.root, []⟩

theorem begins_stall : stallResolver.Begins stallEntry stall := by
  have hfirst : (⟨.root, ["p", "p_en.py"]⟩ : Path) ∈
      stallResolver.sources stall stallUnit.file stallUnit :=
    mem_sources.mpr (named_stall.mpr List.mem_cons_self)
  obtain ⟨place, entries, htemporary⟩ := ready_stall.temporary
  obtain ⟨s, hs, _, hmake⟩ := ends_makeTemporary_site htemporary ready_stall.room
  rw [hs] at hmake
  refine ⟨?_, _, _, hmake⟩
  cases hsources : stallResolver.sources stall stallUnit.file stallUnit with
  | nil =>
    rw [hsources] at hfirst
    cases hfirst
  | cons source rest => exact ⟨source, stallUnit, rest, compile_stall, hsources, rfl⟩

theorem resolve_releases_stall :
    stall.locate stallResolver.temporary = .ok (.node ["tmp"] (.dir [])) ∧
      stallResolver.Begins stallEntry stall ∧ stallResolver.Tidy stall ∧
      (∀ after res, Work.Ends (stallResolver.resolve stallEntry) stall after res →
        ∀ names, after.kindAt names = some .directory ↔ stall.kindAt names = some .directory) ∧
      (∀ after res, Work.Ends ({ stallResolver with keepBuild := true }.resolve stallEntry) stall
        after res → ∃ name, stall.Vacant ["tmp"] name ∧ stall.Gains ["tmp"] name after) ∧
      (∀ member, Artifact.privateName member ∉ ["sys"]) ∧
      (Configuration.loadIn ["sys"] twice ⟨.root, ["c.zip"]⟩).1 = ["sys"] := by
  have hbuilds : stallResolver.Builds {} := ⟨fun _ _ => rfl, fun _ _ => rfl⟩
  have hplace : stall.locate stallResolver.temporary = .ok (.node ["tmp"] (.dir [])) := rfl
  have hfresh : ∀ member, Artifact.privateName member ∉ ["sys"] := by
    intro member hmem
    have hname := congrArg String.toList (List.mem_singleton.mp hmem)
    simp [Artifact.privateName, Script.packageName] at hname
  refine ⟨hplace, begins_stall, hbuilds.tidy stall, fun after res h => ?_, fun after res h => ?_,
    hfresh, ?_⟩
  · exact ((resolve_releases hplace stallEntry).1 after res h).taken (hbuilds.tidy stall) rfl
  · have hkeeps : Builds { stallResolver with keepBuild := true } {} :=
      ⟨fun _ _ => rfl, fun _ _ => rfl⟩
    exact ((resolve_releases (r := { stallResolver with keepBuild := true }) hplace
      stallEntry).1 after res h).kept (hkeeps.tidy stall) rfl begins_stall
  · exact ((resolve_releases hplace stallEntry).2 _ twice ⟨.root, ["c.zip"]⟩ hfresh).1

end Stencil.Resolver
