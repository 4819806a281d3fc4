import Mathlib
import Stencil.Proofs.Configuration.Resolve

/-!
What the code of a configuration may do to a run. Where resolving comes to loading an artifact, the
artifact decides how it ends: with its configuration, with none after a warning, or with an error
that escapes.
-/
namespace Stencil.Resolver
open Stencil.Artifact
open Stencil.Files
open Stencil.Project

variable {r : Resolver} {e : Entry} {t mid after : Tree} {artifact : Path} {x : Script.Raised}

/-- Resolving comes to loading an artifact, on the tree that its build has left. -/
def Consults (r : Resolver) (e : Entry) (t mid : Tree) (artifact : Path) : Prop :=
  ∃ u source ignored directory made copied descriptor result s,
    (e.compile t r.sourceExclude).result = .ok u ∧ r.markedClasses u ≠ [] ∧
    r.candidateFiles t u.file.parent ((r.markedClasses u).map (·.name)) = source :: ignored ∧
    t.exists u.file = .ok true ∧
    Work.Ends r.makeTemporary t made (.ok directory) ∧
    Work.Ends (Build.isolate directory [source]) made copied (.ok descriptor) ∧
    Work.Ends (r.build descriptor true) copied mid (.ok result) ∧ result.success = true ∧
    Build.Settings.read mid descriptor = .ok s ∧
    mid.exists (s.artifact directory) = .ok true ∧ artifact = s.artifact directory

/-- How loading ends for what has built the artifact: errors are warned about, but for those that
escape. -/
def stopped : Except ArtifactError Configuration → Except Stop Configuration :=
  Except.mapError fun
    | .raised x => .ended (.raised x)
    | e => .warned e.message e.details

/-- How resolving ends after building and loading. -/
def concluded : Except Stop Configuration → Except RunError (Option Configuration)
  | .ok c => .ok (some c)
  | .error (.warned ..) => .ok none
  | .error (.ended e) => .error e

/-- How resolving ends after loading. -/
def resolved : Except ArtifactError Configuration → Except RunError (Option Configuration)
  | .ok c => .ok (some c)
  | .error (.raised x) => .error (.raised x)
  | .error _ => .ok none

theorem concluded_stopped (loaded : Except ArtifactError Configuration) :
    concluded (stopped loaded) = resolved loaded := by
  cases loaded with
  | ok c => rfl
  | error fault => cases fault <;> rfl

theorem ends_loadBuilt {directory descriptor : Path} {s : Build.Settings}
    (hs : Build.Settings.read t descriptor = .ok s)
    (hthere : t.exists (s.artifact directory) = .ok true) :
    Work.Ends (r.loadBuilt directory descriptor) t t
      (stopped (Configuration.load t (s.artifact directory))) := by
  have hload : Work.Ends (Work.look fun t => stopped (Configuration.load t (s.artifact directory)))
      t t (stopped (Configuration.load t (s.artifact directory))) :=
    Work.ends_look_iff.mpr ⟨rfl, rfl⟩
  unfold loadBuilt
  rw [Work.ends_bind_ok (a := s) (Work.ends_look_iff.mpr ⟨rfl, by rw [hs]; rfl⟩)]
  dsimp only
  rw [Work.ends_bind_ok (a := true) (Work.ends_look_iff.mpr ⟨rfl, by rw [hthere]; rfl⟩),
    if_neg (by decide), Work.ends_bind_ok (ends_progress_iff.mpr ⟨rfl, rfl⟩),
    Work.ends_bind_ok (Work.ends_tree_iff.mpr ⟨rfl, rfl⟩)]
  split
  · exact (Work.ends_bind_ok (Work.ends_print_iff.mpr ⟨rfl, rfl⟩)).mpr hload
  · exact hload

theorem ends_buildIn_built {directory source descriptor : Path} {copied : Tree}
    {result : Build.Result} {s : Build.Settings}
    (hisolate : Work.Ends (Build.isolate directory [source]) t copied (.ok descriptor))
    (hbuild : Work.Ends (r.build descriptor true) copied mid (.ok result))
    (hsuccess : result.success = true) (hs : Build.Settings.read mid descriptor = .ok s)
    (hthere : mid.exists (s.artifact directory) = .ok true) :
    Work.Ends (r.buildIn directory source) t mid
      (stopped (Configuration.load mid (s.artifact directory))) := by
  have hcopy : Work.Ends ((Build.isolate directory [source]).mapError fun e => Stop.ended (.copy e))
      t copied (.ok descriptor) := Work.ends_mapError_iff.mpr ⟨_, hisolate, rfl⟩
  have hbuilt : Work.Ends ((r.build descriptor true).mapError fun e => Stop.ended (.build e))
      copied mid (.ok result) := Work.ends_mapError_iff.mpr ⟨_, hbuild, rfl⟩
  have hload : Work.Ends (if result.success then r.loadBuilt directory descriptor
      else Work.fail (.warned ("Failed to build config " ++ "(located at '" ++
        descriptor.toString ++ "')") result.messages)) mid mid
      (stopped (Configuration.load mid (s.artifact directory))) := by
    rw [if_pos hsuccess]
    exact ends_loadBuilt hs hthere
  unfold buildIn
  rw [Work.ends_bind_ok hcopy]
  dsimp only
  split
  · rw [Work.ends_bind_ok (Work.ends_say_iff.mpr ⟨rfl, rfl⟩),
      Work.ends_bind_ok (Work.ends_say_iff.mpr ⟨rfl, rfl⟩),
      Work.ends_bind_ok (ends_progress_iff.mpr ⟨rfl, rfl⟩), Work.ends_bind_ok hbuilt]
    exact hload
  · rw [Work.ends_bind_ok (ends_progress_iff.mpr ⟨rfl, rfl⟩), Work.ends_bind_ok hbuilt]
    exact hload

/-- Taking the directory away, or keeping it, does not fail. -/
theorem ends_cleanup (r : Resolver) (directory : Path) (t : Tree) :
    ∃ after, Work.Ends (if r.keepBuild then
        Work.say (Console.progress ("Keeping config build directory '" ++ directory.toString ++
          "'"))
      else Work.change fun t => .ok (t.removeAll directory) : Work Stop PUnit) t after
        (.ok ()) := by
  split
  · exact ⟨t, Work.ends_say_iff.mpr ⟨rfl, rfl⟩⟩
  · exact ⟨_, Work.ends_change_iff.mpr (.inl ⟨rfl, rfl⟩)⟩

theorem ends_warn {ε : Type} {text : String} : Work.Ends (warn text : Work ε PUnit) t t (.ok ()) :=
  Work.ends_say_iff.mpr ⟨rfl, rfl⟩

theorem ends_reportFiles {name : String} {source : Path} {ignored : List Path} :
    Work.Ends (reportFiles name source ignored) t t (.ok ()) := by
  unfold reportFiles
  split
  · rw [Work.ends_bind_ok ends_warn]
    exact Work.ends_sayAll_iff.mpr ⟨rfl, rfl⟩
  · exact Work.ends_pure_iff.mpr ⟨rfl, rfl⟩

/-- What is done after building and loading: what was wrong is told, or it ends the run. -/
def told : Except Stop Configuration → Work RunError (Option Configuration)
  | .ok c => pure (some c)
  | .error (.warned message details) => do
    warn message
    Work.sayAll (details.map Console.detail)
    return none
  | .error (.ended e) => Work.fail e

theorem ends_told {work : Work Stop Configuration} {built : Except Stop Configuration}
    (h : Work.Ends work t after built) :
    Work.Ends (work.attempt >>= told) t after (concluded built) := by
  rw [Work.ends_bind_ok (Work.ends_attempt_iff.mpr ⟨_, h, rfl⟩)]
  cases built with
  | ok c => exact Work.ends_pure_iff.mpr ⟨rfl, rfl⟩
  | error stop =>
    cases stop with
    | warned message details =>
      rw [told, Work.ends_bind_ok ends_warn,
        Work.ends_bind_ok (Work.ends_sayAll_iff.mpr ⟨rfl, rfl⟩)]
      exact Work.ends_pure_iff.mpr ⟨rfl, rfl⟩
    | ended e => exact Work.ends_fail_iff.mpr ⟨rfl, rfl⟩

theorem ends_configure_built {u : Project.Unit} {source : Path} {ignored : List Path}
    {names : List String} {built : Except Stop Configuration}
    (hfiles : r.candidateFiles t u.file.parent names = source :: ignored)
    (hthere : t.exists u.file = .ok true)
    (hbuilt : Work.Ends (r.buildAndLoad source) t after built) :
    Work.Ends (r.configure e u.file names) t after (concluded built) := by
  unfold configure
  rw [Work.ends_bind_ok (Work.ends_tree_iff.mpr ⟨rfl, rfl⟩), hfiles]
  dsimp only
  rw [Work.ends_bind_ok ends_reportFiles,
    Work.ends_bind_ok (a := true) (Work.ends_look_iff.mpr ⟨rfl, by rw [hthere]; rfl⟩),
    if_neg (by decide)]
  exact ends_told hbuilt

/-- The artifact that resolving comes to decides how it ends. -/
theorem Consults.ends (h : Consults r e t mid artifact) :
    ∃ after, Work.Ends (r.resolve e) t after (resolved (Configuration.load mid artifact)) := by
  obtain ⟨u, source, ignored, directory, made, copied, descriptor, result, s, hu, hmarked, hfiles,
    hthere, hmake, hisolate, hbuild, hsuccess, hs, hartifact, rfl⟩ := h
  have hin := ends_buildIn_built (r := r) hisolate hbuild hsuccess hs hartifact
  obtain ⟨after, hclean⟩ := ends_cleanup r directory mid
  have hbuilt : Work.Ends (r.buildAndLoad source) t after
      (stopped (Configuration.load mid (s.artifact directory))) := by
    unfold buildAndLoad
    rw [Work.ends_bind_ok hmake]
    exact Work.ends_ending_iff.mpr (.inl ⟨mid, (), hin, hclean⟩)
  have hconfigure := ends_configure_built (e := e) hfiles hthere hbuilt
  refine ⟨after, ?_⟩
  rw [← concluded_stopped]
  unfold resolve
  rw [Work.ends_bind_ok (ends_progress_iff.mpr ⟨rfl, rfl⟩),
    Work.ends_bind_ok (Work.ends_tree_iff.mpr ⟨rfl, rfl⟩)]
  simp only [hu]
  rw [Work.ends_when_iff (Work.ends_sayAll_iff.mpr ⟨rfl, rfl⟩),
    Work.ends_bind_ok (ends_progress_iff.mpr ⟨rfl, rfl⟩)]
  split
  · exact (Work.ends_bind_ok (Work.ends_say_iff.mpr ⟨rfl, rfl⟩)).mpr hconfigure
  · exact hconfigure

/-! Nothing else lets an error of the code escape. -/

theorem loadBuilt_raised {directory descriptor : Path}
    (h : Work.Ends (r.loadBuilt directory descriptor) t after (.error (.ended (.raised x)))) :
    after = t ∧ ∃ s, Build.Settings.read t descriptor = .ok s ∧
      t.exists (s.artifact directory) = .ok true ∧
      Configuration.load t (s.artifact directory) = .error (.raised x) := by
  unfold loadBuilt at h
  rcases Work.ends_bind_iff.mp h with ⟨_, s, hs, hnext⟩ | ⟨_, hs, he⟩
  · obtain ⟨rfl, hs⟩ := Work.ends_look_iff.mp hs
    rcases Work.ends_bind_iff.mp hnext with ⟨_, there, hthere, hlast⟩ | ⟨_, hthere, he⟩
    · obtain ⟨rfl, hthere⟩ := Work.ends_look_iff.mp hthere
      cases there with
      | false =>
        obtain ⟨_, he⟩ := Work.ends_fail_iff.mp hlast
        cases he
      | true =>
        rw [if_neg (by decide), Work.ends_bind_ok (ends_progress_iff.mpr ⟨rfl, rfl⟩),
          Work.ends_bind_ok (Work.ends_tree_iff.mpr ⟨rfl, rfl⟩)] at hlast
        dsimp only at hlast
        rw [Work.ends_when_iff (Work.ends_print_iff.mpr ⟨rfl, rfl⟩), Work.ends_look_iff] at hlast
        obtain ⟨fault, hload, hx⟩ := exists_of_mapError hlast.2.symm
        refine ⟨hlast.1, s, eq_ok_of_mapError hs.symm, eq_ok_of_mapError hthere.symm, ?_⟩
        cases fault <;> cases hx
        exact hload
    · obtain ⟨_, hx⟩ := Work.ends_look_iff.mp hthere
      cases he
      obtain ⟨_, _, hx⟩ := exists_of_mapError hx.symm
      cases hx
  · obtain ⟨_, hx⟩ := Work.ends_look_iff.mp hs
    cases he
    obtain ⟨_, _, hx⟩ := exists_of_mapError hx.symm
    cases hx

theorem buildIn_raised {directory source : Path}
    (h : Work.Ends (r.buildIn directory source) t after (.error (.ended (.raised x)))) :
    ∃ descriptor copied result,
      Work.Ends (Build.isolate directory [source]) t copied (.ok descriptor) ∧
      Work.Ends (r.build descriptor true) copied after (.ok result) ∧ result.success = true ∧
      ∃ s, Build.Settings.read after descriptor = .ok s ∧
        after.exists (s.artifact directory) = .ok true ∧
        Configuration.load after (s.artifact directory) = .error (.raised x) := by
  unfold buildIn at h
  rcases Work.ends_bind_iff.mp h with ⟨copied, descriptor, hisolate, hnext⟩ | ⟨_, hisolate, he⟩
  · obtain ⟨isolated, hisolate, hok⟩ := Work.ends_mapError_iff.mp hisolate
    rw [eq_ok_of_mapError hok.symm] at hisolate
    dsimp only at hnext
    rw [Work.ends_either_iff ((Work.ends_bind_ok (Work.ends_say_iff.mpr ⟨rfl, rfl⟩)).trans
        (Work.ends_bind_ok (Work.ends_say_iff.mpr ⟨rfl, rfl⟩))),
      Work.ends_bind_ok (ends_progress_iff.mpr ⟨rfl, rfl⟩)] at hnext
    rcases Work.ends_bind_iff.mp hnext with ⟨mid, result, hbuild, hlast⟩ | ⟨_, hbuild, he⟩
    · obtain ⟨built, hbuild, hok⟩ := Work.ends_mapError_iff.mp hbuild
      rw [eq_ok_of_mapError hok.symm] at hbuild
      split at hlast
      · rename_i hsuccess
        obtain ⟨rfl, hload⟩ := loadBuilt_raised hlast
        exact ⟨descriptor, copied, result, hisolate, hbuild, hsuccess, hload⟩
      · cases (Work.ends_fail_iff.mp hlast).2
    · obtain ⟨_, _, hx⟩ := Work.ends_mapError_iff.mp hbuild
      cases he
      obtain ⟨_, _, hx⟩ := exists_of_mapError hx.symm
      cases hx
  · obtain ⟨_, _, hx⟩ := Work.ends_mapError_iff.mp hisolate
    cases he
    obtain ⟨_, _, hx⟩ := exists_of_mapError hx.symm
    cases hx

theorem buildAndLoad_raised {source : Path}
    (h : Work.Ends (r.buildAndLoad source) t after (.error (.ended (.raised x)))) :
    ∃ directory made mid, Work.Ends r.makeTemporary t made (.ok directory) ∧
      Work.Ends (r.buildIn directory source) made mid (.error (.ended (.raised x))) := by
  unfold buildAndLoad at h
  rcases Work.ends_bind_iff.mp h with ⟨made, directory, hmake, hnext⟩ | ⟨_, hmake, he⟩
  · refine ⟨directory, made, ?_⟩
    rcases Work.ends_ending_iff.mp hnext with ⟨mid, _, hin, _⟩ | ⟨mid, _, _, _, hclean, _⟩
    · exact ⟨mid, hmake, hin⟩
    · obtain ⟨_, hdone⟩ := ends_cleanup r directory mid
      cases (hdone.unique hclean).2
  · cases he
    unfold makeTemporary at hmake
    rw [Work.ends_bind_ok (Work.ends_tree_iff.mpr ⟨rfl, rfl⟩)] at hmake
    rcases Work.ends_bind_iff.mp hmake with ⟨_, _, _, hpure⟩ | ⟨_, hchange, he⟩
    · cases (Work.ends_pure_iff.mp hpure).2
    · cases he
      rcases Work.ends_change_iff.mp hchange with ⟨_, hx⟩ | ⟨_, hx, _, he⟩
      · cases hx
      · cases he
        obtain ⟨_, _, hx⟩ := exists_of_mapError hx
        cases hx

theorem configure_raised {file : Path} {names : List String}
    (h : Work.Ends (r.configure e file names) t after (.error (.raised x))) :
    ∃ source ignored, r.candidateFiles t file.parent names = source :: ignored ∧
      t.exists file = .ok true ∧
      Work.Ends (r.buildAndLoad source) t after (.error (.ended (.raised x))) := by
  unfold configure at h
  rw [Work.ends_bind_ok (Work.ends_tree_iff.mpr ⟨rfl, rfl⟩)] at h
  split at h
  · rw [Work.ends_bind_ok (Work.ends_say_iff.mpr ⟨rfl, rfl⟩)] at h
    cases (Work.ends_pure_iff.mp h).2
  · rename_i source ignored hfiles
    refine ⟨source, ignored, hfiles, ?_⟩
    rw [Work.ends_bind_ok ends_reportFiles] at h
    rcases Work.ends_bind_iff.mp h with ⟨_, there, hthere, hnext⟩ | ⟨_, hthere, he⟩
    · obtain ⟨rfl, hthere⟩ := Work.ends_look_iff.mp hthere
      cases there with
      | false =>
        rw [if_pos (by decide), warn, Work.ends_bind_ok (Work.ends_say_iff.mpr ⟨rfl, rfl⟩)] at hnext
        cases (Work.ends_pure_iff.mp hnext).2
      | true =>
        refine ⟨eq_ok_of_mapError hthere.symm, ?_⟩
        rw [if_neg (by decide)] at hnext
        rcases Work.ends_bind_iff.mp hnext with ⟨mid, built, hattempt, hlast⟩ | ⟨_, hattempt, _⟩
        · obtain ⟨_, hbuilt, hok⟩ := Work.ends_attempt_iff.mp hattempt
          cases hok
          cases built with
          | ok c => cases (Work.ends_pure_iff.mp hlast).2
          | error stop =>
            cases stop with
            | warned message details =>
              dsimp only at hlast
              rw [Work.ends_bind_ok ends_warn,
                Work.ends_bind_ok (Work.ends_sayAll_iff.mpr ⟨rfl, rfl⟩)] at hlast
              cases (Work.ends_pure_iff.mp hlast).2
            | ended e =>
              obtain ⟨rfl, hx⟩ := Work.ends_fail_iff.mp hlast
              cases hx
              exact hbuilt
        · obtain ⟨_, _, hx⟩ := Work.ends_attempt_iff.mp hattempt
          cases hx
    · obtain ⟨_, hx⟩ := Work.ends_look_iff.mp hthere
      cases he
      obtain ⟨_, _, hx⟩ := exists_of_mapError hx.symm
      cases hx

/-- An error of user code that escapes from resolving has escaped from loading an artifact. -/
theorem consults_of_raised (h : (r.resolve e t).result = .error (.raised x)) :
    ∃ mid artifact, Consults r e t mid artifact ∧
      Configuration.load mid artifact = .error (.raised x) := by
  have hends : Work.Ends (r.resolve e) t (r.resolve e t).tree (.error (.raised x)) := ⟨rfl, h⟩
  unfold resolve at hends
  rw [Work.ends_bind_ok (ends_progress_iff.mpr ⟨rfl, rfl⟩),
    Work.ends_bind_ok (Work.ends_tree_iff.mpr ⟨rfl, rfl⟩)] at hends
  dsimp only at hends
  rw [Work.ends_when_iff (Work.ends_sayAll_iff.mpr ⟨rfl, rfl⟩)] at hends
  cases hu : (e.compile t r.sourceExclude).result with
  | error fault =>
    rw [hu] at hends
    dsimp only at hends
    split at hends
    · rw [Work.ends_bind_ok ends_warn] at hends
      cases (Work.ends_pure_iff.mp hends).2
    · cases (Work.ends_fail_iff.mp hends).2
  | ok u =>
    rw [hu] at hends
    dsimp only at hends
    rw [Work.ends_bind_ok (ends_progress_iff.mpr ⟨rfl, rfl⟩)] at hends
    split at hends
    · rw [Work.ends_bind_ok (ends_progress_iff.mpr ⟨rfl, rfl⟩)] at hends
      cases (Work.ends_pure_iff.mp hends).2
    · rename_i hmarked
      rw [Work.ends_when_iff ends_warn] at hends
      obtain ⟨source, ignored, hfiles, hthere, hbuilt⟩ := configure_raised hends
      obtain ⟨directory, made, mid, hmake, hin⟩ := buildAndLoad_raised hbuilt
      obtain ⟨descriptor, copied, result, hisolate, hbuild, hsuccess, s, hs, hartifact, hload⟩ :=
        buildIn_raised hin
      exact ⟨mid, _, ⟨u, source, ignored, directory, made, copied, descriptor, result, s, hu,
        fun hnil => hmarked hnil, hfiles, hthere, hmake, hisolate, hbuild, hsuccess, hs, hartifact,
        rfl⟩, hload⟩

end Stencil.Resolver

namespace Stencil.Artifact
open Stencil.Files
open Stencil.Project
open Stencil.Resolver (Consults resolved consults_of_raised)

/-- An error that says that the artifact could not be built or loaded. -/
def IsBuildError : ArtifactError → Prop
  | .notOne .. | .raised _ => False
  | _ => True

/-- What becomes of an artifact, and of the resolving that comes to it. -/
structure Outcome (t : Tree) (artifact : Path) (members : List Member) : Prop where
  ended : (∃ c, Configuration.load t artifact = .ok c) ∨
    (∃ e, Configuration.load t artifact = .error e ∧ IsBuildError e) ∨
    (∃ place cs, Configuration.load t artifact = .error (.notOne place cs)) ∨
    ∃ x, Configuration.load t artifact = .error (.raised x)
  escaped : ∀ x, Configuration.load t artifact = .error (.raised x) ↔ Escapes artifact members x
  /-- An ordinary error of a module makes loading fail. -/
  module : ∀ member x, ModuleRaises artifact members member x → x.isA "Exception" = true →
    Configuration.load t artifact = .error (.loading member x.text)
  /-- An ordinary error in making the settings object makes creating it fail. -/
  object : ∀ c x, ConstructorRaises artifact members c x → x.isA "Exception" = true →
    Configuration.load t artifact = .error (.creation c.path x.text)
  /-- Resolving that comes to the artifact has its configuration, or none, or lets the error
  escape. -/
  resolved : ∀ (r : Resolver) (e : Entry) (start : Tree), Consults r e start t artifact →
    ∃ after, Work.Ends (r.resolve e) start after (resolved (Configuration.load t artifact))
  /-- No other error of user code escapes from resolving. -/
  raised : ∀ (r : Resolver) (e : Entry) (start : Tree) (x : Script.Raised),
    (r.resolve e start).result = .error (.raised x) → ∃ mid artifact,
      Consults r e start mid artifact ∧ Configuration.load mid artifact = .error (.raised x)

def faultySource : List UInt8 := Text.encodeUtf8 (Text.joinWith "\n"
  ["from ntgen.editor_config import EditorConfig as E", "class C(E):",
    " namespaces_to_be_searched = property(lambda s: 1 / 0)"])

/-- A tree with an artifact of one module. -/
def archiveTree (content : List UInt8) : Tree where
  root := .dir [("c.zip", .file (.archive [("c.py", content)]))]
  here := ⟨.root, []⟩

def archivePath : Path := ⟨.root, ["c.zip"]⟩

theorem members_archiveTree (content : List UInt8) :
    members (archiveTree content) archivePath = .ok [("c.py", .ok content)] := rfl

theorem find_single (content : Except Archive.ContentFlaw (List UInt8)) :
    find? [("c.py", content)] "c.py" = some ("c.py", content) := by
  have hstem : (Path.ofString "c.py").stem = "c" := by decide +kernel
  simp only [find?, hstem]
  rfl

theorem moduleNames_single (content : Except Archive.ContentFlaw (List UInt8)) :
    moduleNames [("c.py", content)] = ["c.py"] := by
  have hnames : (["c.py"].filter fun n => n.endsWith ".py").mergeSort
      (fun a b => decide (a ≤ b)) = ["c.py"] := by decide +kernel
  exact hnames

/-- Whether running a module and reading its settings ends with a division by zero. -/
def divides (source : Source.Module) : Bool :=
  match Script.runModule "c" source .start with
  | .error _ => false
  | .ok m =>
    match candidates m with
    | [c] =>
      match configurationOf m c with
      | .error (.raised x) => x.kind == "ZeroDivisionError"
      | _ => false
    | _ => false

/-- An artifact of one module whose source can be read. -/
theorem packed_archiveTree {content : List UInt8} {source : Source.Module}
    (h : Artifact.source "c.py" content = .ok source) :
    sourceOf archivePath [("c.py", .ok content)] "c.py" = .ok ("c.py", source) ∧
      Packed (archiveTree content) archivePath [("c.py", .ok content)] := by
  have hsource : sourceOf archivePath [("c.py", .ok content)] "c.py" = .ok ("c.py", source) := by
    unfold sourceOf
    rw [find_single]
    simp only [Except.mapError, bind, Except.bind, h]
    rfl
  refine ⟨hsource, members_archiveTree content, fun member hm _ => ⟨("c.py", source), ?_⟩⟩
  rw [moduleNames_single] at hm
  rw [List.mem_singleton.mp hm]
  exact hsource

theorem load_archiveTree {content : List UInt8} {source : Source.Module}
    (h : Artifact.source "c.py" content = .ok source) (hd : divides source = true) :
    ∃ x, Configuration.load (archiveTree content) archivePath = .error (.raised x) ∧
      x.kind = "ZeroDivisionError" := by
  have hstem : (Path.ofString "c.py").stem = "c" := by decide +kernel
  have hload := load_eq (members_archiveTree content)
  rw [moduleNames_single] at hload
  simp only [runAll, (packed_archiveTree h).1, bind, Except.bind, Artifact.run, hstem] at hload
  unfold divides at hd
  split at hd
  · cases hd
  · rename_i m hrun
    rw [hrun] at hload
    simp only at hload
    split at hd
    · rename_i c hc
      rw [hc] at hload
      split at hd
      · rename_i x hx
        exact ⟨x, hload.trans hx, eq_of_beq hd⟩
      · cases hd
    · cases hd

theorem divides_faultySource : ∃ source, Artifact.source "c.py" faultySource = .ok source ∧
    divides source = true := by
  have hread : (match Artifact.source "c.py" faultySource with
      | .error _ => false
      | .ok source => divides source) = true := by decide +kernel
  split at hread
  · cases hread
  · rename_i source hs
    exact ⟨source, hs, hread⟩

end Stencil.Artifact
