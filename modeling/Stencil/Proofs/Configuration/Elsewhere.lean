import Stencil.Proofs.Build.Elsewhere
import Stencil.Proofs.Configuration.Escape

/-!
A configuration that is built at two sites. What is loaded from the artifacts is the same, since
nothing of a site but its place gets into an artifact.
-/
namespace Stencil.Artifact
open Stencil.Files

variable {artifact artifact' : Path} {t t' : Tree}

/-- Failures that escape both, or are warned about both. -/
def sameEscape (e e' : ArtifactError) : Prop := (∃ x, e = .raised x) ↔ ∃ x, e' = .raised x

theorem agree_sourceOf (artifact artifact' : Path) (members : List Member) (member : String) :
    Agree sameEscape Eq (sourceOf artifact members member)
      (sourceOf artifact' members member) := by
  unfold sourceOf
  cases find? members member with
  | none => exact .error Iff.rfl
  | some found =>
    obtain ⟨file, content⟩ := found
    dsimp only
    have hcontent : Agree sameEscape Eq (content.mapError (contentFailure artifact member))
        (content.mapError (contentFailure artifact' member)) := by
      cases content with
      | ok c => exact .ok rfl
      | error f => cases f <;> exact .error (by simp [sameEscape, contentFailure])
    refine hcontent.bind ?_
    rintro c _ rfl
    cases source file c with
    | ok m => exact .ok rfl
    | error e => exact .error Iff.rfl

theorem agree_runAll (artifact artifact' : Path) (members : List Member) (m : Script.Memory)
    (names : List String) : Agree sameEscape Eq (runAll artifact members m names)
      (runAll artifact' members m names) := by
  induction names generalizing m with
  | nil => exact .ok rfl
  | cons member rest ih =>
    unfold runAll
    refine (agree_sourceOf artifact artifact' members member).bind ?_
    rintro ⟨file, source⟩ _ rfl
    dsimp only
    cases run m member source with
    | error x => exact .error Iff.rfl
    | ok next => exact ih next

theorem agree_members (h : Agree Site.anyError Eq (t.node artifact) (t'.node artifact')) :
    Agree sameEscape Eq (members t artifact) (members t' artifact') := by
  unfold Artifact.members Tree.read
  generalize t.node artifact = x at h
  generalize t'.node artifact' = x' at h
  cases h with
  | error => exact .error (by simp [sameEscape])
  | ok h =>
    subst h
    rename_i n
    cases n with
    | dir => exact .error (by simp [sameEscape])
    | file d =>
      cases d with
      | archive ms => exact .ok rfl
      | bytes content =>
        dsimp only
        cases Archive.rows content.toArray with
        | ok rows => exact .ok rfl
        | error f => cases f <;> exact .error (by simp [sameEscape, listingFailure])

/-- The same artifact at two places gives the same configuration, or fails in the same way. -/
theorem agree_load (h : Agree Site.anyError Eq (t.node artifact) (t'.node artifact')) :
    Agree sameEscape Eq (Configuration.load t artifact) (Configuration.load t' artifact') := by
  rw [load_eq_bind, load_eq_bind]
  refine (agree_members h).bind ?_
  rintro ms _ rfl
  refine (agree_runAll artifact artifact' ms .start _).bind ?_
  rintro m _ rfl
  unfold configurationIn
  split
  · exact .refl (E := sameEscape) (fun _ => Iff.rfl) _
  · exact .error (by simp [sameEscape])

end Stencil.Artifact

namespace Stencil.Resolver
open Stencil.Build
open Stencil.Files
open Stencil.Project
open Stencil.Files.Tree (Overlaid Unfound)
open Site (Steps anyError)

variable {r : Resolver} {b : Builder} {s s' : Site} {node : Node} {source : Path} {d : Data}
  {suffixes : List String} {W D : List String → Prop} {A B t after : Tree} {e e' : Entry}
  {u : Project.Unit} {place : List String} {entries : List (String × Node)}

/-- Ways to stop that both end a run, or both are warned about. -/
def sameStop (e e' : Stop) : Prop := (∃ x, e = .ended x) ↔ ∃ x, e' = .ended x

theorem sameStop_ended (x x' : RunError) : sameStop (.ended x) (.ended x') := by simp [sameStop]

theorem sameStop_warned (text text' : String) (details details' : List String) :
    sameStop (.warned text details) (.warned text' details') := by simp [sameStop]

theorem agree_stopped {x x' : Except ArtifactError Configuration}
    (h : Agree Artifact.sameEscape Eq x x') : Agree sameStop Eq (stopped x) (stopped x') := by
  cases h with
  | ok h => exact .ok h
  | @error e e' he =>
    cases e with
    | raised x =>
      obtain ⟨x', rfl⟩ := he.mp ⟨x, rfl⟩
      exact .error (sameStop_ended _ _)
    | _ =>
      cases e' with
      | raised x' =>
        obtain ⟨x, hx⟩ := he.mpr ⟨x', rfl⟩
        cases hx
      | _ => exact .error (sameStop_warned _ _ _ _)

theorem steps_loadBuilt (r : Resolver) (h : HasStub node) :
    Steps s s' node sameStop (fun _ c c' => c = c')
      (r.loadBuilt s.directory (s.inner [descriptorName]))
      (r.loadBuilt s'.directory (s'.inner [descriptorName])) := by
  have hsettings : ∀ s : Site, Build.Settings.read (s.holding node) (s.inner [descriptorName]) =
      .ok stubSettings := by
    intro s
    rw [← s.directory_child]
    exact Isolated.settings s.free ⟨node, rfl, h⟩
  have hup : ".." ∉ ["bin", "Debug", "py3", "Config.zip"] := by decide
  have hexists := Site.agree_exists node s s' hup
  have hnode := Site.agree_node node s s' hup
  rw [← artifact_inner, ← artifact_inner] at hexists hnode
  generalize hx : (s.holding node).exists (stubSettings.artifact s.directory) = x at hexists
  generalize hx' : (s'.holding node).exists (stubSettings.artifact s'.directory) = x' at hexists
  cases hexists with
  | error =>
    unfold loadBuilt
    refine Steps.bind (Q := fun mid a a' => mid = node ∧ a = stubSettings ∧ a' = stubSettings)
      (.look ?_) ?_
    · rw [hsettings, hsettings]
      exact .ok ⟨rfl, rfl, rfl⟩
    · rintro _ _ _ ⟨rfl, rfl, rfl⟩
      refine Steps.bind (Q := fun _ _ _ => False) (.look ?_) (fun _ _ _ h => h.elim)
      rw [hx, hx']
      exact .error (sameStop_ended _ _)
  | ok hsame =>
    subst hsame
    rename_i there
    cases there with
    | true =>
      exact .still (ends_loadBuilt (hsettings s) hx) (ends_loadBuilt (hsettings s') hx')
        (agree_stopped (Artifact.agree_load hnode))
    | false =>
      unfold loadBuilt
      refine Steps.bind (Q := fun mid a a' => mid = node ∧ a = stubSettings ∧ a' = stubSettings)
        (.look ?_) ?_
      · rw [hsettings, hsettings]
        exact .ok ⟨rfl, rfl, rfl⟩
      · rintro _ _ _ ⟨rfl, rfl, rfl⟩
        refine Steps.bind (Q := fun _ a a' => a = false ∧ a' = false) (.look ?_) ?_
        · rw [hx, hx']
          exact .ok ⟨rfl, rfl⟩
        · rintro _ _ _ ⟨rfl, rfl⟩
          exact .fail (sameStop_warned _ _ _ _)

theorem steps_buildIn (hb : r.Builds b) (hc : b.ChecksAlone)
    (hs : s.tree.node source = .ok (.file d)) (hs' : s'.tree.node source = .ok (.file d))
    (hn : IsName source.name) (hd : source.name ≠ descriptorName) :
    Steps s s' (.dir []) sameStop (fun _ c c' => c = c') (r.buildIn s.directory source)
      (r.buildIn s'.directory source) := by
  have hbuild : ∀ (mid : Node) (text text' : String), Stocked mid →
      Steps s s' mid sameStop (fun _ c c' => c = c')
        (r.progress text >>= fun _ =>
          ((r.build (s.inner [descriptorName]) true).mapError fun e => Stop.ended (.build e)) >>=
            fun result => if result.success then
                r.loadBuilt s.directory (s.inner [descriptorName])
              else Work.fail (.warned ("Failed to build config " ++ ("(located at '" ++
                (s.inner [descriptorName]).toString ++ "')")) result.messages))
        (r.progress text' >>= fun _ =>
          ((r.build (s'.inner [descriptorName]) true).mapError fun e => Stop.ended (.build e)) >>=
            fun result => if result.success then
                r.loadBuilt s'.directory (s'.inner [descriptorName])
              else Work.fail (.warned ("Failed to build config " ++ ("(located at '" ++
                (s'.inner [descriptorName]).toString ++ "')")) result.messages)) := by
    intro mid text text' hmid
    refine Steps.bind (Q := fun made (_ _ : PUnit) => made = mid) (.still
      (ends_progress_iff.mpr ⟨rfl, rfl⟩) (ends_progress_iff.mpr ⟨rfl, rfl⟩) (.ok rfl)) ?_
    rintro _ _ _ rfl
    rw [hb.build, hb.build]
    refine ((steps_build hc hmid true).mapError fun _ _ _ => sameStop_ended _ _).bind ?_
    rintro made result result' ⟨hsuccess, hstub⟩
    rw [← hsuccess]
    split
    · rename_i hdone
      exact steps_loadBuilt r (hstub hdone)
    · exact .fail (sameStop_warned _ _ _ _)
  unfold buildIn
  refine ((steps_isolate hs hs' hn hd).mapError fun _ _ _ => sameStop_ended _ _).bind ?_
  rintro mid _ _ ⟨hmid, rfl, rfl⟩
  dsimp only
  split
  · exact .say (.say (hbuild mid _ _ hmid))
  · exact hbuild mid _ _ hmid

/-- The directory at a site is taken away in the end. -/
theorem ends_buildAndLoad_site {res : Except Stop Configuration} (hkeep : r.keepBuild = false)
    (hm : Work.Ends r.makeTemporary s.tree (s.holding (.dir [])) (.ok s.directory))
    (hin : Work.Ends (r.buildIn s.directory source) (s.holding (.dir [])) (s.holding node) res) :
    Work.Ends (r.buildAndLoad source) s.tree s.tree res := by
  unfold buildAndLoad
  rw [Work.ends_bind_ok hm]
  refine Work.ends_ending_iff.mpr (.inl ⟨_, (), hin, ?_⟩)
  rw [hkeep, if_neg (by decide)]
  exact Work.ends_change_iff.mpr (.inl ⟨congrArg Except.ok (s.free.removeAll_graft node), rfl⟩)

/-- Building and loading a file ends alike on two trees that have the file. -/
theorem agree_buildAndLoad (s s' : Site) (hb : r.Builds b) (hc : b.ChecksAlone)
    (hkeep : r.keepBuild = false)
    (hm : Work.Ends r.makeTemporary s.tree (s.holding (.dir [])) (.ok s.directory))
    (hm' : Work.Ends r.makeTemporary s'.tree (s'.holding (.dir [])) (.ok s'.directory))
    (hs : s.tree.node source = .ok (.file d)) (hs' : s'.tree.node source = .ok (.file d))
    (hn : IsName source.name) (hd : source.name ≠ descriptorName) :
    ∃ res res', Work.Ends (r.buildAndLoad source) s.tree s.tree res ∧
      Work.Ends (r.buildAndLoad source) s'.tree s'.tree res' ∧ Agree sameStop Eq res res' := by
  obtain ⟨node, res, res', hin, hin', hres⟩ := steps_buildIn hb hc hs hs' hn hd
  exact ⟨res, res', ends_buildAndLoad_site hkeep hm hin, ends_buildAndLoad_site hkeep hm' hin',
    hres⟩

/-- Where a name is to be had, a directory is made. -/
theorem ends_makeTemporary_site (h : t.locate r.temporary = .ok (.node place (.dir entries)))
    (hl : (freshName t r.temporary).utf8ByteSize ≤ maxNameBytes) :
    ∃ s : Site, s.tree = t ∧ s.path = r.temporary ∧
      Work.Ends r.makeTemporary s.tree (s.holding (.dir [])) (.ok s.directory) := by
  rcases ends_makeTemporary h (Work.ends_self r.makeTemporary t) with ⟨_, e, he⟩ | ⟨n, hn, hfree, hok⟩
  · -- Only a name that is too long is refused.
    rcases locate_freshName h with hloc | hloc
    · unfold makeTemporary at he
      have hmade : t.makeDirs (r.temporary.child (freshName t r.temporary)) =
          .ok (t.graft place (freshName t r.temporary) (.dir [])) := by
        simp only [Tree.makeDirs, Tree.makeDirsFuel, Tree.makeDir, hloc]
        rfl
      have hends : Work.Ends r.makeTemporary t (t.graft place (freshName t r.temporary) (.dir []))
          (.ok (r.temporary.child (freshName t r.temporary))) := by
        unfold makeTemporary
        rw [Work.ends_bind_ok (Work.ends_tree_iff.mpr ⟨rfl, rfl⟩),
          Work.ends_bind_ok (Work.ends_change_iff.mpr (Or.inl ⟨by rw [hmade]; rfl, rfl⟩))]
        exact Work.ends_pure_iff.mpr ⟨rfl, rfl⟩
      cases he.symm.trans hends.result
    · rw [Tree.locate_child h, Tree.step_single (freshName_ne_up t r.temporary)
        (Nat.not_lt.mpr hl)] at hloc
      split at hloc <;> cases hloc
  · exact ⟨⟨t, r.temporary, place, temporaryName n, ⟨_, h⟩, hfree, temporaryName_ne_up n⟩, rfl,
      rfl, hn, hok⟩

theorem ends_resolve_marked_iff {res : Except RunError (Option Configuration)}
    (hu : (e.compile t r.sourceExclude).result = .ok u) (hm : r.markedClasses u ≠ []) :
    Work.Ends (r.resolve e) t after res ↔
      Work.Ends (r.configure e u.file ((r.markedClasses u).map (·.name))) t after res := by
  unfold resolve
  rw [Work.ends_bind_ok (ends_progress_iff.mpr ⟨rfl, rfl⟩),
    Work.ends_bind_ok (Work.ends_tree_iff.mpr ⟨rfl, rfl⟩)]
  simp only [hu]
  rw [Work.ends_when_iff (Work.ends_sayAll_iff.mpr ⟨rfl, rfl⟩),
    Work.ends_bind_ok (ends_progress_iff.mpr ⟨rfl, rfl⟩)]
  split
  · exact Work.ends_bind_ok ends_warn
  · exact Iff.rfl

/-- Without a file that is named after the class there is no configuration. -/
theorem ends_configure_none {file : Path} {names : List String}
    (h : r.candidateFiles t file.parent names = []) :
    Work.Ends (r.configure e file names) t t (.ok none) := by
  unfold configure
  rw [Work.ends_bind_ok (Work.ends_tree_iff.mpr ⟨rfl, rfl⟩), h]
  dsimp only
  rw [Work.ends_bind_ok (Work.ends_say_iff.mpr ⟨rfl, rfl⟩)]
  exact Work.ends_pure_iff.mpr ⟨rfl, rfl⟩

theorem ended_of_makeTemporary {stop : Stop}
    (h : Work.Ends r.makeTemporary t after (.error stop)) : ∃ e, stop = .ended e := by
  unfold makeTemporary at h
  rw [Work.ends_bind_ok (Work.ends_tree_iff.mpr ⟨rfl, rfl⟩)] at h
  rcases Work.ends_bind_iff.mp h with ⟨_, _, _, hpure⟩ | ⟨_, hchange, he⟩
  · cases (Work.ends_pure_iff.mp hpure).2
  · cases he
    rcases Work.ends_change_iff.mp hchange with ⟨_, hx⟩ | ⟨_, hx, _, he⟩
    · cases hx
    · cases he
      obtain ⟨_, _, hx⟩ := exists_of_mapError hx
      exact ⟨_, hx⟩

/-- Ways to stop of one sort have the same conclusion, if any. -/
theorem concluded_agree {x x' : Except Stop Configuration} {found : Option Configuration}
    (h : Agree sameStop Eq x x') (hx : concluded x = .ok found) : concluded x' = .ok found := by
  cases h with
  | ok h => rw [← h, hx]
  | @error stop stop' hs =>
    cases stop with
    | ended e => cases hx
    | warned text details =>
      cases stop' with
      | ended e =>
        obtain ⟨x, hx⟩ := hs.mpr ⟨e, rfl⟩
        cases hx
      | warned => exact hx

/-- What resolving comes to on one tree it comes to on a later one. -/
theorem resolve_later {found : Option Configuration} (hb : r.Builds b) (hc : b.ChecksAlone)
    (hkeep : r.keepBuild = false) (ho : Overlaid suffixes W D A B) (hw : Unfound suffixes W)
    (hpy : ".py" ∈ suffixes) (hu : (e.compile A r.sourceExclude).result = .ok u)
    (hu' : (e'.compile B r.sourceExclude).result = .ok u) (hr : u.file.Resolved)
    (hfile : A.node u.file = .ok (.file d))
    (hsources : ∀ source ∈ A.find u.file.parent ".py" r.exclude,
      IsName source.name ∧ ∃ text, A.readText source = .ok text)
    (ht : A.locate r.temporary = .ok (.node place (.dir entries)))
    (hl : (freshName B r.temporary).utf8ByteSize ≤ maxNameBytes)
    (h : Work.Ends (r.resolve e) A after (.ok found)) :
    after = A ∧ Work.Ends (r.resolve e') B B (.ok found) := by
  by_cases hm : r.markedClasses u = []
  · have hends := ends_resolve_unmarked hu hm
    obtain ⟨rfl, hfound⟩ := h.unique hends
    cases hfound
    exact ⟨rfl, ends_resolve_unmarked hu' hm⟩
  · rw [ends_resolve_marked_iff hu hm] at h
    rw [ends_resolve_marked_iff hu' hm]
    have hcandidates : ∀ names, r.candidateFiles B u.file.parent names =
        r.candidateFiles A u.file.parent names := fun names => by
      rw [candidateFiles, candidateFiles, ho.find_beside hr hfile hpy]
    cases hfiles : r.candidateFiles A u.file.parent ((r.markedClasses u).map (·.name)) with
    | nil =>
      obtain ⟨rfl, hfound⟩ := h.unique (ends_configure_none hfiles)
      cases hfound
      exact ⟨rfl, ends_configure_none (by rw [hcandidates, hfiles])⟩
    | cons source ignored =>
      have hmem : source ∈ r.candidateFiles A u.file.parent ((r.markedClasses u).map (·.name)) := by
        rw [hfiles]
        simp
      have hin := (List.mem_filter.mp (List.mem_mergeSort.mp hmem)).1
      obtain ⟨hname, text, htext⟩ := hsources source hin
      obtain ⟨data, hdata⟩ := Tree.node_of_readText htext
      have hdata' : B.node source = .ok (.file data) := ho.node_file hdata fun hw' =>
        hw _ hw' _ hpy (Tree.endsIn_of_file hdata (Tree.names_of_mem_find hin)
          (Tree.name_of_mem_find hin))
      obtain ⟨data', hfile'⟩ := ho.exists_file hfile
      obtain ⟨entries', ht'⟩ := ho.sameDirs.locate ht
      obtain ⟨s', rfl, _, hmake'⟩ := ends_makeTemporary_site ht' hl
      rcases ends_makeTemporary ht (Work.ends_self r.makeTemporary A) with
        ⟨hsame, stop, hstop⟩ | ⟨n, hn, hfree, hok⟩
      · -- Without a directory the first run would have ended.
        have hbuilt : Work.Ends (r.buildAndLoad source) A A (.error stop) := by
          unfold buildAndLoad
          exact (Work.ends_bind_error ⟨hsame, hstop⟩).mpr ⟨rfl, rfl⟩
        have hA := ends_configure_built (e := e) hfiles (Tree.exists_node hfile) hbuilt
        obtain ⟨fault, rfl⟩ := ended_of_makeTemporary ⟨hsame, hstop⟩
        cases (h.unique hA).2
      · let s : Site := ⟨A, r.temporary, place, temporaryName n, ⟨_, ht⟩, hfree, temporaryName_ne_up n⟩
        obtain ⟨res, res', hres, hres', hagree⟩ := agree_buildAndLoad s s' hb hc hkeep
          ⟨hn, hok⟩ hmake' hdata hdata' hname (name_of_candidate hmem).2
        have hA := ends_configure_built (e := e) hfiles (Tree.exists_node hfile) hres
        have hB := ends_configure_built (e := e') (by rw [hcandidates, hfiles])
          (Tree.exists_node hfile') hres'
        obtain ⟨rfl, hfound⟩ := h.unique hA
        refine ⟨rfl, ?_⟩
        rw [← concluded_agree hagree hfound.symm]
        exact hB

end Stencil.Resolver
