import Mathlib.Data.List.Perm.Subperm
import Stencil.Configuration.Resolve
import Stencil.Proofs.Build.Isolated
import Stencil.Proofs.Configuration.Loading
import Stencil.Proofs.Files.Find
import Stencil.Proofs.Files.Graft
import Stencil.Proofs.Work

/-!
The temporary directory of a build. Its name is one that nothing beside it has: among numbered
names that are one more than the names in use, at least one is free. So making the directory adds
it and changes nothing else.
-/
namespace Stencil.Resolver
open Stencil.Files
open Stencil.Text

variable {r : Resolver} {t after : Tree} {directory : Path} {place : List String}
  {entries : List (String × Node)}

/-- The number of a temporary name can be read off its digits. -/
theorem padLeft_natDigits_injective {width m n : Nat}
    (h : padLeft width '0' (natDigits m) = padLeft width '0' (natDigits n)) : m = n := by
  have hread : ∀ n, Nat.ofDigitChars 10 (padLeft width '0' (natDigits n)) 0 = n := by
    intro n
    rw [padLeft, natDigits, Nat.ofDigitChars_append, Nat.ofDigitChars_replicate_zero, Nat.mul_zero,
      Nat.ofDigitChars_ten_toDigits]
  rw [← hread m, h, hread n]

def temporaryName (n : Nat) : String :=
  temporaryPrefix ++ String.ofList (padLeft 8 '0' (natDigits n))

theorem temporaryName_injective : Function.Injective temporaryName := by
  intro m n h
  have hlist := congrArg String.toList h
  simp only [temporaryName, String.toList_append, String.toList_ofList] at hlist
  exact padLeft_natDigits_injective (List.append_cancel_left hlist)

theorem exists_temporaryName_free (used : List String) :
    ∃ n ∈ List.range (used.length + 1), temporaryName n ∉ used := by
  by_contra hall
  push Not at hall
  have hsub : (List.range (used.length + 1)).map temporaryName ⊆ used := by
    intro name hn
    obtain ⟨n, hr, rfl⟩ := List.mem_map.mp hn
    exact hall n hr
  have hnodup := List.nodup_range.map temporaryName_injective (l := List.range (used.length + 1))
  have hlen := (hnodup.subperm hsub).length_le
  rw [List.length_map, List.length_range] at hlen
  omega

theorem freshName_spec (t : Tree) (directory : Path) :
    (∃ n, freshName t directory = temporaryName n) ∧
      freshName t directory ∉ t.namesIn directory := by
  obtain ⟨n, hn, hfree⟩ := exists_temporaryName_free (t.namesIn directory)
  have hsome : (((List.range ((t.namesIn directory).length + 1)).map temporaryName).find? fun n =>
      !(t.namesIn directory).contains n).isSome := by
    rw [List.find?_isSome]
    exact ⟨_, List.mem_map_of_mem hn, by simpa using hfree⟩
  obtain ⟨name, hname⟩ := Option.isSome_iff_exists.mp hsome
  have hfresh : freshName t directory = name := by
    change (List.find? _ _).getD _ = name
    rw [show (fun n => temporaryPrefix ++ String.ofList (padLeft 8 '0' (natDigits n))) =
      temporaryName from rfl, hname]
    rfl
  rw [hfresh]
  obtain ⟨m, -, hm⟩ := List.mem_map.mp (List.mem_of_find?_eq_some hname)
  refine ⟨⟨m, hm.symm⟩, ?_⟩
  simpa using List.find?_some hname

theorem temporaryName_ne_up (n : Nat) : temporaryName n ≠ ".." := by
  intro h
  have hlist := congrArg String.toList h
  simp [temporaryName, temporaryPrefix] at hlist

theorem freshName_ne_up (t : Tree) (directory : Path) : freshName t directory ≠ ".." := by
  obtain ⟨n, hn⟩ := (freshName_spec t directory).1
  rw [hn]
  exact temporaryName_ne_up n

theorem lookup_eq_none_of_namesIn (h : t.locate directory = .ok (.node place (.dir entries)))
    {name : String} (hn : name ∉ t.namesIn directory) : entries.lookup name = none := by
  rw [Tree.namesIn, Files.Tree.node, h] at hn
  rw [List.lookup_eq_none_iff]
  intro entry he
  rw [List.mem_mergeSort, List.mem_map] at hn
  have hne : name ≠ entry.1 := fun hname => hn ⟨entry, he, hname.symm⟩
  simpa using hne

/-- The name of a temporary directory is free, unless it is too long for a name. -/
theorem locate_freshName (h : t.locate directory = .ok (.node place (.dir entries))) :
    t.locate (directory.child (freshName t directory)) =
        .ok (.free place (freshName t directory)) ∨
      t.locate (directory.child (freshName t directory)) = .error .nameTooLong := by
  have hfree := lookup_eq_none_of_namesIn h (freshName_spec t directory).2
  rw [Tree.locate_child h]
  by_cases hl : (freshName t directory).utf8ByteSize > maxNameBytes
  · refine Or.inr ?_
    simp [Tree.step, Node.isDir, freshName_ne_up, hl]
  · refine Or.inl ?_
    rw [Tree.step_single (freshName_ne_up t directory) hl, hfree]
    simp

/-- Making the directory adds an empty one at a free name, or fails and changes nothing. -/
theorem ends_makeTemporary (h : t.locate r.temporary = .ok (.node place (.dir entries)))
    {res : Except Stop Path} (he : Work.Ends r.makeTemporary t after res) :
    (after = t ∧ ∃ e, res = .error e) ∨ ∃ n, after = t.graft place (temporaryName n) (.dir []) ∧
      t.locate (r.temporary.child (temporaryName n)) = .ok (.free place (temporaryName n)) ∧
      res = .ok (r.temporary.child (temporaryName n)) := by
  unfold makeTemporary at he
  rw [Work.ends_bind_ok (Work.ends_tree_iff.mpr ⟨rfl, rfl⟩)] at he
  rcases locate_freshName h with hloc | hloc
  · refine Or.inr ?_
    obtain ⟨n, hn⟩ := (freshName_spec t r.temporary).1
    rw [hn] at hloc he
    have hmade : t.makeDirs (r.temporary.child (temporaryName n)) =
        .ok (t.graft place (temporaryName n) (.dir [])) := by
      simp only [Tree.makeDirs, Tree.makeDirsFuel, Tree.makeDir, hloc]
      rfl
    rw [Work.ends_bind_ok (Work.ends_change_iff.mpr (Or.inl ⟨by rw [hmade]; rfl, rfl⟩)),
      Work.ends_pure_iff] at he
    exact ⟨n, he.1, hloc, he.2⟩
  · refine Or.inl ?_
    have hfails : ∃ e, t.makeDirs (r.temporary.child (freshName t r.temporary)) = .error e := by
      refine ⟨⟨.nameTooLong, r.temporary.child (freshName t r.temporary)⟩, ?_⟩
      simp only [Tree.makeDirs, Tree.makeDirsFuel, Tree.makeDir, hloc, Tree.acceptDir, Tree.isDir,
        Files.Tree.node, Tree.failure]
      rfl
    obtain ⟨e, hfails⟩ := hfails
    rw [Work.ends_bind_error (Work.ends_change_iff.mpr
      (Or.inr ⟨_, by rw [hfails]; rfl, rfl, rfl⟩))] at he
    exact ⟨he.1, _, he.2⟩

end Stencil.Resolver

/-!
What resolving a configuration leaves behind. The file of a configuration is built in a temporary
directory, and nothing else is touched; the directory is taken away again, so that the tree is the
one before, unless it is to be kept.
-/
namespace Stencil.Resolver
open Stencil.Build (Builder Isolated descriptorName)
open Stencil.Files
open Stencil.Project

variable {r : Resolver} {b : Builder} {t after : Tree} {e : Entry} {place : List String}
  {name : String} {entries : List (String × Node)}

theorem quiet_progress {ε : Type} (text : String) :
    Work.Quiet (r.progress text : Work ε PUnit) := by
  unfold progress
  split
  · exact Work.quiet_say _
  · exact Work.quiet_pure _

theorem ends_progress_iff {ε : Type} {text : String} {s : Except ε PUnit} :
    Work.Ends (r.progress text : Work ε PUnit) t after s ↔ after = t ∧ s = .ok () := by
  unfold progress
  split
  · exact Work.ends_say_iff
  · exact Work.ends_pure_iff

/-- A project without a marked class has the configuration that stands for none. -/
theorem ends_resolve_unmarked {u : Project.Unit}
    (hu : (e.compile t r.sourceExclude).result = .ok u)
    (hm : r.markedClasses u = []) : Work.Ends (r.resolve e) t t (.ok (some {})) := by
  unfold resolve
  rw [Work.ends_bind_ok (ends_progress_iff.mpr ⟨rfl, rfl⟩),
    Work.ends_bind_ok (Work.ends_tree_iff.mpr ⟨rfl, rfl⟩)]
  simp only [hu, hm]
  rw [Work.ends_when_iff (Work.ends_sayAll_iff.mpr ⟨rfl, rfl⟩),
    Work.ends_bind_ok (ends_progress_iff.mpr ⟨rfl, rfl⟩),
    Work.ends_bind_ok (ends_progress_iff.mpr ⟨rfl, rfl⟩)]
  exact Work.ends_pure_iff.mpr ⟨rfl, rfl⟩

theorem quiet_loadBuilt (directory descriptor : Path) :
    Work.Quiet (r.loadBuilt directory descriptor) := by
  unfold loadBuilt
  refine (Work.quiet_look _).bind fun s => (Work.quiet_look _).bind fun there => ?_
  split
  · exact Work.quiet_fail _
  · refine (quiet_progress _).bind fun _ => Work.quiet_tree.bind fun t => ?_
    dsimp only
    split
    · exact (Work.quiet_print _).bind fun _ => Work.quiet_look _
    · exact Work.quiet_look _

/-- The sources that a configuration is built from have names of sources. -/
theorem name_of_candidate {directory source : Path} {names : List String}
    (h : source ∈ r.candidateFiles t directory names) :
    source.name ≠ ".." ∧ source.name ≠ descriptorName := by
  have hfound := (List.mem_filter.mp (List.mem_mergeSort.mp h)).1
  have hsuffix := Tree.name_of_mem_find hfound
  constructor
  · intro hn
    rw [hn] at hsuffix
    revert hsuffix
    decide
  · intro hn
    rw [hn] at hsuffix
    revert hsuffix
    decide

/-- A resolver that builds with a builder whose child processes leave the files as they are. -/
structure Builds (r : Resolver) (b : Builder) : Prop where
  build : ∀ descriptor restore, r.build descriptor restore = b.build descriptor restore
  run : ∀ c, Work.Quiet (b.run c)

/-- What the build makes of a unit, and what holds of a directory that is no unit yet, holds in the
end of a build. -/
theorem ends_buildIn_of {Q : Tree → Prop} (hf : t.Free r.temporary place name)
    (hbuild : Work.Leads (Isolated t place name)
      (r.build ((r.temporary.child name).child descriptorName) true) Q)
    (hdir : ∀ entries, Q (t.graft place name (.dir entries))) {source : Path}
    (hs : source.name ≠ ".." ∧ source.name ≠ descriptorName) {res : Except Stop Configuration}
    (h : Work.Ends (r.buildIn (r.temporary.child name) source) (t.graft place name (.dir []))
      after res) : Q after := by
  unfold buildIn at h
  have hsources : ∀ s ∈ [source], s.name ≠ ".." ∧ s.name ≠ descriptorName := by
    intro s hmem
    rw [List.mem_singleton.mp hmem]
    exact hs
  rcases Work.ends_bind_iff.mp h with ⟨mid, descriptor, hisolate, h⟩ | ⟨e, hisolate, _⟩
  · obtain ⟨made, hmade, hok⟩ := Work.ends_mapError_iff.mp hisolate
    obtain ⟨-, hunit⟩ := Build.ends_isolate hf hsources hmade
    obtain ⟨rfl, hmid⟩ := hunit descriptor (eq_ok_of_mapError hok.symm)
    have hunit : ∀ mid, Isolated t place name mid → Q mid := by
      intro mid hmid
      obtain ⟨entries, rfl⟩ := hmid.dir
      exact hdir entries
    have hbuilt : Work.Leads (Isolated t place name)
        ((r.build ((r.temporary.child name).child descriptorName) true).mapError fun e =>
          Stop.ended (.build e)) Q := Work.leads_mapError hbuild
    have hload : ∀ (result : Build.Result) (text : String), Work.Leads Q
        (if result.success then r.loadBuilt (r.temporary.child name)
            ((r.temporary.child name).child descriptorName)
          else Work.fail (.warned text result.messages)) Q := by
      intro result text
      split
      · exact (quiet_loadBuilt _ _).leads
      · exact (Work.quiet_fail _).leads
    -- What follows is the same with and without the messages before it.
    have hrest := fun text message =>
      (Work.Quiet.leads (P := Isolated t place name) (r.quiet_progress text)).bind
        (fun _ => hbuilt.bind (fun result => hload result message) fun _ h => h) hunit
    split at h
    · exact ((Work.quiet_say _).leads.bind (fun _ => (Work.quiet_say _).leads.bind
        (fun _ => hrest _ _) hunit) hunit).ends hmid h
    · exact (hrest _ _).ends hmid h
  · obtain ⟨made, hmade, _⟩ := Work.ends_mapError_iff.mp hisolate
    obtain ⟨entries, rfl⟩ := (Build.ends_isolate hf hsources hmade).1
    exact hdir entries

/-- Building a configuration in a new directory touches nothing outside of it. -/
theorem ends_buildIn (hf : t.Free r.temporary place name) (hb : r.Builds b) {source : Path}
    (hs : source.name ≠ ".." ∧ source.name ≠ descriptorName) {res : Except Stop Configuration}
    (h : Work.Ends (r.buildIn (r.temporary.child name) source) (t.graft place name (.dir []))
      after res) : t.Grafted place name after := by
  refine ends_buildIn_of hf ?_ (fun entries => ⟨_, rfl⟩) hs h
  rw [hb.build]
  exact Build.build_grafted hf hb.run true

/-- The trees that resolving may leave: the one before, or that one with a build directory which
is kept on request. -/
def Leaves (r : Resolver) (t : Tree) (place : List String) (after : Tree) : Prop :=
  after = t ∨ r.keepBuild = true ∧ ∃ n node, t.Vacant place (temporaryName n) ∧
    after = t.graft place (temporaryName n) node

/-- The directory is taken away when the build is over, unless it is to be kept. -/
theorem leaves_of_cleanup {n : Nat} (hf : t.Free r.temporary place (temporaryName n)) {mid : Tree}
    (hg : t.Grafted place (temporaryName n) mid) {kept : Console.Message}
    {last : Except Stop PUnit} (h : Work.Ends (if r.keepBuild then Work.say kept
      else Work.change fun t => .ok (t.removeAll (r.temporary.child (temporaryName n)))) mid
      after last) : r.Leaves t place after := by
  obtain ⟨node, rfl⟩ := hg
  split at h
  · rename_i hkeep
    obtain ⟨rfl, _⟩ := Work.ends_say_iff.mp h
    exact Or.inr ⟨hkeep, n, node, hf.vacant, rfl⟩
  · refine Or.inl ?_
    rcases Work.ends_change_iff.mp h with ⟨hremoved, _⟩ | ⟨e, hremoved, _⟩
    · rw [← Except.ok.inj hremoved, hf.removeAll_graft]
    · cases hremoved

theorem ends_buildAndLoad (ht : t.locate r.temporary = .ok (.node place (.dir entries)))
    (hb : r.Builds b) {source : Path} (hs : source.name ≠ ".." ∧ source.name ≠ descriptorName)
    {res : Except Stop Configuration} (h : Work.Ends (r.buildAndLoad source) t after res) :
    r.Leaves t place after := by
  unfold buildAndLoad at h
  rcases Work.ends_bind_iff.mp h with ⟨made, directory, hmake, h⟩ | ⟨e, hmake, _⟩
  · rcases ends_makeTemporary ht hmake with ⟨_, e, he⟩ | ⟨n, rfl, hfree, hdirectory⟩
    · cases he
    · cases hdirectory
      have hf : t.Free r.temporary place (temporaryName n) :=
        ⟨⟨_, ht⟩, hfree, temporaryName_ne_up n⟩
      rcases Work.ends_ending_iff.mp h with ⟨mid, u, hin, hend⟩ | ⟨mid, r', e, hin, hend, _⟩
      · exact leaves_of_cleanup hf (ends_buildIn hf hb hs hin) hend
      · exact leaves_of_cleanup hf (ends_buildIn hf hb hs hin) hend
  · rcases ends_makeTemporary ht hmake with ⟨rfl, _⟩ | ⟨n, _, _, he⟩
    · exact Or.inl rfl
    · cases he

theorem quiet_reportFiles (name : String) (source : Path) (ignored : List Path) :
    Work.Quiet (reportFiles name source ignored) := by
  unfold reportFiles
  split
  · exact (Work.quiet_say _).bind fun _ => Work.quiet_sayAll _
  · exact Work.quiet_pure _

theorem leads_configure (ht : t.locate r.temporary = .ok (.node place (.dir entries)))
    (hb : r.Builds b) (file : Path) (names : List String) :
    Work.Leads (· = t) (r.configure e file names) (r.Leaves t place) := by
  have hsame : ∀ mid, mid = t → r.Leaves t place mid := fun _ h => Or.inl h
  unfold configure
  refine Work.leads_tree fun mid hmid => ?_
  subst hmid
  split
  · exact (Work.quiet_say _).leads_bind (fun _ => (Work.quiet_pure _).leads.weaken hsame) hsame
  · rename_i source ignored hfiles
    have hmem : source ∈ r.candidateFiles mid file.parent names := by
      rw [hfiles]
      exact List.mem_cons_self
    have hs := name_of_candidate hmem
    refine (quiet_reportFiles _ _ _).leads_bind (fun _ => ?_) hsame
    refine (Work.quiet_look _).leads_bind (fun there => ?_) hsame
    split
    · exact (Work.quiet_say _).leads_bind (fun _ => (Work.quiet_pure _).leads.weaken hsame) hsame
    · have hbuild : Work.Leads (· = mid) ((r.buildAndLoad source).attempt : Work RunError _)
          (r.Leaves mid place) := by
        rintro _ rfl
        exact ends_buildAndLoad ht hb hs (Work.ends_self (r.buildAndLoad source) _)
      refine hbuild.bind (fun built => ?_) fun _ h => h
      split
      · exact (Work.quiet_pure _).leads
      · exact (Work.quiet_say _).leads_bind (fun _ => (Work.quiet_sayAll _).leads_bind
          (fun _ => (Work.quiet_pure _).leads) fun _ h => h) fun _ h => h
      · exact (Work.quiet_fail _).leads

/-- Resolving leaves the tree as it was, but for a build directory that is kept. -/
theorem ends_resolve (ht : t.locate r.temporary = .ok (.node place (.dir entries)))
    (hb : r.Builds b) {res : Except RunError (Option Configuration)}
    (h : Work.Ends (r.resolve e) t after res) : r.Leaves t place after := by
  have hsame : ∀ mid, mid = t → r.Leaves t place mid := fun _ h => Or.inl h
  have hpure : ∀ c : Option Configuration,
      Work.Leads (· = t) (pure c : Work RunError _) (r.Leaves t place) := fun c =>
    (Work.quiet_pure c).leads.weaken hsame
  refine Work.Leads.ends (P := (· = t)) ?_ rfl h
  unfold resolve
  refine (quiet_progress _).leads_bind (fun _ => Work.leads_tree fun mid _ => ?_) hsame
  refine (Work.quiet_sayAll _).leads_when ?_ hsame
  split
  · split
    · exact (Work.quiet_say _).leads_bind (fun _ => hpure _) hsame
    · exact (Work.quiet_fail _).leads.weaken hsame
  · refine (quiet_progress _).leads_bind (fun _ => ?_) hsame
    split
    · exact (quiet_progress _).leads_bind (fun _ => hpure _) hsame
    · exact (Work.quiet_say _).leads_when (leads_configure ht hb _ _) hsame

/-! What goes wrong while resolving is no fault of a template. -/

/-- An error that the rendering of no template gave. -/
def Unrendered (e : RunError) : Prop := ∀ template messages, e ≠ .render template messages

def Stop.Unrendered : Stop → Prop
  | .warned .. => True
  | .ended e => Resolver.Unrendered e

theorem raises_progress {ε : Type} {E : ε → Prop} (text : String) :
    Work.Raises E (r.progress text) := by
  unfold progress
  split
  · exact Work.raises_say _
  · exact Work.raises_pure _

theorem raises_loadBuilt (directory descriptor : Path) :
    Work.Raises Stop.Unrendered (r.loadBuilt directory descriptor) := by
  have hload : ∀ artifact (stop : ArtifactError → Stop), (∀ fault, Stop.Unrendered (stop fault)) →
      Work.Raises Stop.Unrendered (Work.look fun t =>
        (Configuration.load t artifact).mapError stop) := by
    refine fun artifact stop hstop => Work.raises_look fun t e he => ?_
    obtain ⟨fault, _, rfl⟩ := exists_of_mapError he
    exact hstop fault
  unfold loadBuilt
  refine (Work.raises_look fun t e he => ?_).bind fun s =>
    (Work.raises_look fun t e he => ?_).bind fun there => ?_
  · obtain ⟨fault, _, rfl⟩ := exists_of_mapError he
    exact fun _ _ h => by cases h
  · obtain ⟨fault, _, rfl⟩ := exists_of_mapError he
    exact fun _ _ h => by cases h
  · split
    · exact Work.raises_fail trivial
    · refine (raises_progress _).bind fun _ => Work.raises_tree.bind fun t => ?_
      refine (Work.raises_print _).when (hload _ _ fun fault => ?_)
      cases fault <;> simp [Stop.Unrendered, Resolver.Unrendered]

theorem raises_buildIn (directory source : Path) :
    Work.Raises Stop.Unrendered (r.buildIn directory source) := by
  unfold buildIn
  refine (Work.raises_mapError fun e => ?_).bind fun descriptor => ?_
  · exact fun _ _ h => by cases h
  · have hrest : ∀ text message : String, Work.Raises Stop.Unrendered (do
        r.progress text
        let result ← (r.build descriptor true).mapError fun e => Stop.ended (.build e)
        if result.success then r.loadBuilt directory descriptor
        else Work.fail (.warned message result.messages)) := by
      intro text message
      refine (raises_progress _).bind fun _ => (Work.raises_mapError fun e => ?_).bind
        fun result => ?_
      · exact fun _ _ h => by cases h
      · split
        · exact raises_loadBuilt _ _
        · exact Work.raises_fail trivial
    split
    · exact (Work.raises_say _).bind fun _ => (Work.raises_say _).bind fun _ => hrest _ _
    · exact hrest _ _

theorem raises_buildAndLoad (source : Path) :
    Work.Raises Stop.Unrendered (r.buildAndLoad source) := by
  have hmake : Work.Raises Stop.Unrendered r.makeTemporary := by
    unfold makeTemporary
    refine Work.raises_tree.bind fun t => (Work.raises_change fun t e he => ?_).bind fun _ =>
      Work.raises_pure _
    obtain ⟨fault, _, rfl⟩ := exists_of_mapError he
    exact fun _ _ h => by cases h
  unfold buildAndLoad
  refine hmake.bind fun directory => (raises_buildIn _ _).ending ?_
  split
  · exact Work.raises_say _
  · exact Work.raises_change fun t e he => by cases he

theorem raises_configure (file : Path) (names : List String) :
    Work.Raises Unrendered (r.configure e file names) := by
  have hnone : Work.Raises Unrendered (pure none : Work RunError (Option Configuration)) :=
    Work.raises_pure _
  unfold configure
  refine Work.raises_tree.bind fun t => ?_
  split
  · exact (Work.raises_say _).bind fun _ => hnone
  · have hreport : ∀ name source ignored,
        Work.Raises Unrendered (reportFiles name source ignored) := by
      intro name source ignored
      unfold reportFiles
      split
      · exact (Work.raises_say _).bind fun _ => Work.raises_sayAll _
      · exact Work.raises_pure _
    refine (hreport _ _ _).bind fun _ => (Work.raises_look fun t e he => ?_).bind fun there => ?_
    · obtain ⟨fault, _, rfl⟩ := exists_of_mapError he
      exact fun _ _ h => by cases h
    · split
      · exact (Work.raises_say _).bind fun _ => hnone
      · refine (raises_buildAndLoad _).attempt_bind fun built hbuilt => ?_
        split
        · exact Work.raises_pure _
        · exact (Work.raises_say _).bind fun _ => (Work.raises_sayAll _).bind fun _ => hnone
        · exact Work.raises_fail (hbuilt _ rfl)

/-- A configuration that cannot be had is no fault of a template. -/
theorem raises_resolve (e : Entry) : Work.Raises Unrendered (r.resolve e) := by
  unfold resolve
  refine (raises_progress _).bind fun _ => Work.raises_tree.bind fun t => ?_
  refine (Work.raises_sayAll _).when ?_
  split
  · split
    · exact (Work.raises_say _).bind fun _ => Work.raises_pure _
    · exact Work.raises_fail fun _ _ h => by cases h
  · refine (raises_progress _).bind fun _ => ?_
    split
    · exact (raises_progress _).bind fun _ => Work.raises_pure _
    · exact (Work.raises_say _).when (raises_configure _ _)

end Stencil.Resolver
