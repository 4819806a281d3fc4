import Stencil.Proofs.Build.Faithful
import Stencil.Proofs.Calling
import Stencil.Proofs.Configuration.Elsewhere
import Stencil.Proofs.Files.Sound
import Stencil.Proofs.Model.Extract
import Stencil.Proofs.Project.Compiling

/-!
The stages of resolving. A project that does not compile, that has no marked class or no source that
is named after one, or whose own file is gone, is settled without a build. Otherwise the first of
those sources is built on its own, once, and what the build leaves decides.
-/
namespace Stencil.Resolver
open Stencil.Build (descriptorName unitOf)
open Stencil.Files
open Stencil.Project

variable {r : Resolver} {t mid after : Tree} {e : Entry} {u : Project.Unit}
  {file source p q directory descriptor : Path} {c : Model.TypeSymbol}

/-! Marked classes and the sources that are named after them. -/

/-- The own classes of a project that have the marker. -/
structure Marked (r : Resolver) (u : Project.Unit) (c : Model.TypeSymbol) : Prop where
  listed : c ∈ (Model.extract {} u.modules).classes
  own : c.referenced = false
  marker : Model.hasAttribute c.attributes r.marker = true

theorem mem_markedClasses : c ∈ r.markedClasses u ↔ r.Marked u c := by
  have hclasses : (Model.extract { omitReferenced := true } u.modules).classes =
      (Model.extract {} u.modules).classes.filter (Model.Filter.passes { omitReferenced := true }) :=
    Model.extract_get _ _ .ordinary
  rw [markedClasses, hclasses, List.mem_filter, List.mem_filter]
  simp only [Model.Filter.passes, Model.Filter.includes, List.isEmpty_nil, Bool.true_or,
    Bool.and_true, Bool.not_eq_true']
  constructor
  · rintro ⟨⟨hc, ho⟩, hm⟩
    exact ⟨hc, ho, hm⟩
  · intro h
    exact ⟨⟨h.listed, h.own⟩, h.marker⟩

theorem markedClasses_eq_nil (h : ∀ c, ¬r.Marked u c) : r.markedClasses u = [] :=
  List.eq_nil_iff_forall_not_mem.mpr fun c hc => h c (mem_markedClasses.mp hc)

theorem markedClasses_ne_nil (h : r.Marked u c) : r.markedClasses u ≠ [] :=
  List.ne_nil_of_mem (mem_markedClasses.mpr h)

/-- The sources beside the file of a project that are named after one of its marked classes. -/
structure NamedAfter (r : Resolver) (t : Tree) (file : Path) (u : Project.Unit) (p : Path) :
    Prop where
  found : p ∈ t.find file.parent ".py" r.exclude
  named : ∃ c, r.Marked u c ∧ Naming.looseForm p.stem = Naming.looseForm c.name

/-- The sources that resolving chooses from. -/
def sources (r : Resolver) (t : Tree) (file : Path) (u : Project.Unit) : List Path :=
  r.candidateFiles t file.parent ((r.markedClasses u).map (·.name))

theorem mem_sources : p ∈ r.sources t file u ↔ r.NamedAfter t file u p := by
  have hnamed : Naming.looseForm p.stem ∈ ((r.markedClasses u).map (·.name)).map Naming.looseForm ↔
      ∃ c, r.Marked u c ∧ Naming.looseForm p.stem = Naming.looseForm c.name := by
    simp only [List.mem_map, mem_markedClasses]
    constructor
    · rintro ⟨_, ⟨c, hc, rfl⟩, hn⟩
      exact ⟨c, hc, hn.symm⟩
    · rintro ⟨c, hc, hn⟩
      exact ⟨_, ⟨c, hc, rfl⟩, hn.symm⟩
  rw [sources, candidateFiles, List.mem_mergeSort, List.mem_filter, List.contains_iff_mem, hnamed]
  constructor
  · rintro ⟨hf, hn⟩
    exact ⟨hf, hn⟩
  · intro h
    exact ⟨h.found, h.named⟩

/-- What paths are compared by. -/
def orderKey (p : Path) : List String := if p.absolute then p.anchor.text :: p.names else p.names

theorem lt_iff : p.lt q = true ↔ orderKey p < orderKey q := decide_eq_true_iff

/-- Paths that start alike are told apart by what they are compared by. -/
theorem eq_of_orderKey (ha : p.anchor = q.anchor) (h : orderKey p = orderKey q) : p = q := by
  obtain ⟨anchor, names⟩ := p
  obtain ⟨_, _⟩ := q
  cases ha
  cases anchor <;> simpa [orderKey, Path.absolute] using h

/-- The first of the sources comes before all others. -/
theorem first_source {rest : List Path} (h : r.sources t file u = source :: rest) :
    r.NamedAfter t file u source ∧
      ∀ q, r.NamedAfter t file u q → q = source ∨ source.lt q = true := by
  have hmem : ∀ q, q ∈ source :: rest ↔ r.NamedAfter t file u q := fun q => by
    rw [← h, mem_sources]
  have hanchor : ∀ {q}, r.NamedAfter t file u q → q.anchor = file.parent.anchor := by
    intro q hq
    have hfound := hq.found
    unfold Tree.find at hfound
    split at hfound
    · obtain ⟨names, _, rfl⟩ := List.mem_map.mp hfound
      rfl
    · cases hfound
  have hle : ∀ p q : Path, (!q.lt p) = true ↔ orderKey p ≤ orderKey q := by
    intro p q
    rw [Bool.not_eq_true', Bool.eq_false_iff, ne_eq, lt_iff, not_lt]
  have hsorted : (source :: rest).Pairwise fun p q => (!q.lt p) = true := by
    rw [← h]
    refine List.pairwise_mergeSort (fun a b c => ?_) (fun a b => ?_) _
    · simp only [hle]
      exact le_trans
    · rw [Bool.or_eq_true, hle, hle]
      exact le_total _ _
  have hfirst := (hmem source).mp List.mem_cons_self
  refine ⟨hfirst, fun q hq => ?_⟩
  rcases List.mem_cons.mp ((hmem q).mpr hq) with heq | hrest
  · exact Or.inl heq
  · rcases ((hle _ _).mp (List.rel_of_pairwise_cons hsorted hrest)).lt_or_eq with hlt | heq
    · exact Or.inr (lt_iff.mpr hlt)
    · exact Or.inl (eq_of_orderKey ((hanchor hq).trans (hanchor hfirst).symm) heq.symm)

/-! Around the build. -/

/-- A resolver that builds in another way. -/
def building (r : Resolver) (build : Path → Bool → Work Build.Fault Build.Result) : Resolver :=
  { r with build }

/-- Resolving ends with a configuration, or without one, on the same tree and with the same messages
whatever a build would do. -/
def Unbuilt (r : Resolver) (e : Entry) (t : Tree) (c : Option Configuration) : Prop :=
  Work.Settled (fun build => (r.building build).resolve e) t t (.ok c)

/-- The tree without the directory of a build, unless it is to be kept. -/
def cleaned (r : Resolver) (directory : Path) (t : Tree) : Tree :=
  if r.keepBuild then t else t.removeAll directory

/-- Where the settings in a descriptor say that the artifact of a directory lies. -/
def ArtifactAt (t : Tree) (directory descriptor artifact : Path) : Prop :=
  ∃ s, Build.Settings.read t descriptor = .ok s ∧ artifact = s.artifact directory

/-- What is done with the result of a build, by the tree that the build leaves. -/
structure Decides (r : Resolver) (directory descriptor : Path)
    (next : Except Build.Fault Build.Result → Work RunError (Option Configuration)) : Prop where
  failed : ∀ result mid, result.success = false →
    Work.Ends (next (.ok result)) mid (r.cleaned directory mid) (.ok none)
  missing : ∀ result mid artifact, result.success = true →
    ArtifactAt mid directory descriptor artifact → mid.exists artifact = .ok false →
    Work.Ends (next (.ok result)) mid (r.cleaned directory mid) (.ok none)
  loaded : ∀ result mid artifact c, result.success = true →
    ArtifactAt mid directory descriptor artifact → mid.exists artifact = .ok true →
    Configuration.load mid artifact = .ok c →
    Work.Ends (next (.ok result)) mid (r.cleaned directory mid) (.ok (some c))
  refused : ∀ result mid artifact fault, result.success = true →
    ArtifactAt mid directory descriptor artifact → mid.exists artifact = .ok true →
    Configuration.load mid artifact = .error fault → (∀ x, fault ≠ .raised x) →
    Work.Ends (next (.ok result)) mid (r.cleaned directory mid) (.ok none)
  /-- An error of the loaded code that loading does not take for a failure. -/
  escaped : ∀ result mid artifact x, result.success = true →
    ArtifactAt mid directory descriptor artifact → mid.exists artifact = .ok true →
    Configuration.load mid artifact = .error (.raised x) →
    Work.Ends (next (.ok result)) mid (r.cleaned directory mid) (.error (.raised x))

/-- What is done with a build that is over, in its directory. -/
def onceBuilt (r : Resolver) (directory descriptor : Path)
    (built : Except Build.Fault Build.Result) : Work Stop Configuration :=
  ((Work.ofExcept built).mapError fun e => Stop.ended (.build e)) >>= fun result =>
    if result.success then r.loadBuilt directory descriptor
    else Work.fail (.warned ("Failed to build config " ++ ("(located at '" ++
      descriptor.toString ++ "')")) result.messages)

/-- What is done with the directory in the end. -/
def cleanup (r : Resolver) (directory : Path) : Work Stop PUnit :=
  if r.keepBuild then
    Work.say (Console.progress ("Keeping config build directory '" ++ directory.toString ++ "'"))
  else Work.change fun t => .ok (t.removeAll directory)

theorem ends_cleanup_cleaned :
    Work.Ends (r.cleanup directory) t (r.cleaned directory t) (.ok ()) := by
  unfold cleanup cleaned
  split
  · exact Work.ends_say_iff.mpr ⟨rfl, rfl⟩
  · exact Work.ends_change_iff.mpr (.inl ⟨rfl, rfl⟩)

theorem ends_onceBuilt {result : Build.Result} {done : Except Stop Configuration}
    (h : Work.Ends (if result.success then r.loadBuilt directory descriptor
      else Work.fail (.warned ("Failed to build config " ++ ("(located at '" ++
        descriptor.toString ++ "')")) result.messages)) mid mid done) :
    Work.Ends ((r.onceBuilt directory descriptor (.ok result)).ending (r.cleanup directory)) mid
      (r.cleaned directory mid) done := by
  have hbuilt : Work.Ends ((Work.ofExcept (.ok result : Except Build.Fault Build.Result)).mapError
      fun e => Stop.ended (.build e)) mid mid (.ok result) :=
    Work.ends_mapError_iff.mpr ⟨_, Work.ends_ofExcept_iff.mpr ⟨rfl, rfl⟩, rfl⟩
  exact Work.ends_ending_iff.mpr
    (.inl ⟨mid, (), (Work.ends_bind_ok hbuilt).mpr h, ends_cleanup_cleaned⟩)

/-- What stops a build with a warning leaves resolving without a configuration. -/
theorem ends_told_warned {work : Work Stop Configuration} {message : String}
    {details : List String} (h : Work.Ends work t after (.error (.warned message details))) :
    Work.Ends (work.attempt >>= told) t after (.ok none) :=
  ends_told h

theorem ends_loadBuilt_missing {artifact : Path}
    (ha : ArtifactAt t directory descriptor artifact) (h : t.exists artifact = .ok false) :
    Work.Ends (r.loadBuilt directory descriptor) t t (.error (.warned
      ("Failed to find built config (looked at '" ++ artifact.toString ++ "')") [])) := by
  obtain ⟨s, hs, rfl⟩ := ha
  unfold loadBuilt
  rw [Work.ends_bind_ok (a := s) (Work.ends_look_iff.mpr ⟨rfl, by rw [hs]; rfl⟩)]
  dsimp only
  rw [Work.ends_bind_ok (a := false) (Work.ends_look_iff.mpr ⟨rfl, by rw [h]; rfl⟩),
    if_pos (by decide)]
  exact Work.ends_fail_iff.mpr ⟨rfl, rfl⟩

/-- The build and what is done after it. -/
def buildWith (r : Resolver) (directory descriptor : Path)
    (build : Path → Bool → Work Build.Fault Build.Result) : Work Stop Configuration :=
  r.progress ("Building config " ++ ("(located at '" ++ descriptor.toString ++ "')")) >>= fun _ =>
    ((build descriptor true).mapError fun e => Stop.ended (.build e)) >>= fun result =>
      if result.success then r.loadBuilt directory descriptor
      else Work.fail (.warned ("Failed to build config " ++ ("(located at '" ++
        descriptor.toString ++ "')")) result.messages)

theorem callsOnce_buildWith :
    Work.CallsOnce (fun build => build descriptor true) (r.buildWith directory descriptor) t t
      (r.onceBuilt directory descriptor) :=
  Work.Reaches.after (ends_progress_iff.mpr ⟨rfl, rfl⟩)
    (((Work.CallsOnce.self _ t).mapError _).bind _)

/-- Building a file calls the build once, on the unit that was made of it. -/
theorem callsOnce_buildIn {made copied : Tree}
    (h : Work.Ends (Build.isolate directory [source]) made copied (.ok descriptor)) :
    Work.CallsOnce (fun build => build descriptor true)
      (fun build => (r.building build).buildIn directory source) made copied
      (r.onceBuilt directory descriptor) := by
  have hcopy : Work.Ends ((Build.isolate directory [source]).mapError fun e => Stop.ended (.copy e))
      made copied (.ok descriptor) := Work.ends_mapError_iff.mpr ⟨_, h, rfl⟩
  refine Work.Reaches.after hcopy ?_
  change Work.CallsOnce _ (fun build => if r.verbose then
      Work.say (Console.progress "Created temporary project with:") >>= fun _ =>
        Work.say (Console.detail source.toString) >>= fun _ => r.buildWith directory descriptor build
    else r.buildWith directory descriptor build) copied copied _
  have hsay : ∀ m : Console.Message, Work.Ends (Work.say m : Work Stop PUnit) copied copied (.ok ()) :=
    fun m => Work.ends_say_iff.mpr ⟨rfl, rfl⟩
  exact .either (.after (hsay _) (.after (hsay _) callsOnce_buildWith)) callsOnce_buildWith

/-- Around the build a directory is made, and in the end taken away. -/
theorem callsOnce_buildAndLoad {s : Site} {called : Tree}
    (hm : Work.Ends r.makeTemporary s.tree (s.holding (.dir [])) (.ok s.directory))
    (hi : Work.Ends (Build.isolate s.directory [source]) (s.holding (.dir [])) called
      (.ok descriptor)) :
    Work.CallsOnce (fun build => build descriptor true)
      (fun build => (r.building build).buildAndLoad source) s.tree called
      fun x => (r.onceBuilt s.directory descriptor x).ending (r.cleanup s.directory) :=
  .after hm ((callsOnce_buildIn hi).ending (r.cleanup s.directory))

section Ways

variable {called : Tree} {ignored : List Path} {names : List String}
  {call : (Path → Bool → Work Build.Fault Build.Result) → Work Build.Fault Build.Result}
  {next : Except Build.Fault Build.Result → Work Stop Configuration}
  {target : (Path → Bool → Work Build.Fault Build.Result) →
    Done RunError (Option Configuration)}

theorem callsOnce_configure (h : Work.CallsOnce call
      (fun build => (r.building build).buildAndLoad source) t called next)
    (hfiles : r.candidateFiles t file.parent names = source :: ignored)
    (hthere : t.exists file = .ok true) :
    Work.CallsOnce call (fun build => (r.building build).configure e file names) t called
      fun x => (next x).attempt >>= told := by
  have hlook : Work.Ends (Work.look fun t => (t.exists file).mapError RunError.file) t t
      (.ok true) := Work.ends_look_iff.mpr ⟨rfl, by rw [hthere]; rfl⟩
  have hcandidates : ∀ build, (r.building build).candidateFiles t file.parent names =
      source :: ignored := fun _ => hfiles
  refine Work.Reaches.after (Work.ends_tree_iff.mpr ⟨rfl, rfl⟩) ?_
  simp only [hcandidates]
  exact .after ends_reportFiles (.after hlook (h.attempt.bind told))

/-- Without a source that is named after a class nothing is built. -/
theorem settled_configure_unnamed (hfiles : r.candidateFiles t file.parent names = []) :
    Work.Settled (fun build => (r.building build).configure e file names) t t (.ok none) := by
  have hcandidates : ∀ build, (r.building build).candidateFiles t file.parent names = [] :=
    fun _ => hfiles
  refine Work.Reaches.after (Work.ends_tree_iff.mpr ⟨rfl, rfl⟩) ?_
  simp only [hcandidates]
  exact .after (Work.ends_say_iff.mpr ⟨rfl, rfl⟩)
    (Work.Ends.settled (Work.ends_pure_iff.mpr ⟨rfl, rfl⟩))

/-- Without the file of the project nothing is built. -/
theorem settled_configure_gone (hgone : t.exists file = .ok false) :
    Work.Settled (fun build => (r.building build).configure e file names) t t (.ok none) := by
  have hlook : Work.Ends (Work.look fun t => (t.exists file).mapError RunError.file) t t
      (.ok false) := Work.ends_look_iff.mpr ⟨rfl, by rw [hgone]; rfl⟩
  cases hfiles : r.candidateFiles t file.parent names with
  | nil => exact settled_configure_unnamed hfiles
  | cons source ignored =>
    have hcandidates : ∀ build, (r.building build).candidateFiles t file.parent names =
        source :: ignored := fun _ => hfiles
    refine Work.Reaches.after (Work.ends_tree_iff.mpr ⟨rfl, rfl⟩) ?_
    simp only [hcandidates]
    exact .after ends_reportFiles (.after hlook (.after ends_warn
      (Work.Ends.settled (Work.ends_pure_iff.mpr ⟨rfl, rfl⟩))))

/-- Compiling comes first, and it is reported. -/
theorem reaches_compiling {w : (Path → Bool → Work Build.Fault Build.Result) → Tree →
      Work RunError (Option Configuration)} (h : Work.Reaches (fun build => w build t) t target) :
    Work.Reaches (fun build => r.progress ("Compiling project '" ++ e.name ++ "'") >>= fun _ =>
      Work.tree >>= fun t => if r.reports then
        Work.sayAll ((e.compile t r.sourceExclude).lines.map Console.progress) >>= fun _ => w build t
      else w build t) t target :=
  .after (ends_progress_iff.mpr ⟨rfl, rfl⟩) (.after (Work.ends_tree_iff.mpr ⟨rfl, rfl⟩)
    (.when (Work.ends_sayAll_iff.mpr ⟨rfl, rfl⟩) h))

/-- Where a project compiles and has marked classes, resolving is configuring. -/
theorem reaches_resolve (hu : (e.compile t r.sourceExclude).result = .ok u)
    (hm : r.markedClasses u ≠ []) (h : Work.Reaches (fun build =>
      (r.building build).configure e u.file ((r.markedClasses u).map (·.name))) t target) :
    Work.Reaches (fun build => (r.building build).resolve e) t target := by
  have hu' : ∀ build, (e.compile t (r.building build).sourceExclude).result = .ok u := fun _ => hu
  have hmarked : ∀ build, (r.building build).markedClasses u = r.markedClasses u := fun _ => rfl
  refine reaches_compiling ?_
  simp only [hu', hmarked]
  refine Work.Reaches.after
    (u := r.progress ("Looking for ntgen config in project '" ++ e.name ++ "'"))
    (ends_progress_iff.mpr ⟨rfl, rfl⟩) ?_
  cases hc : r.markedClasses u with
  | nil => exact absurd hc hm
  | cons c rest =>
    rw [hc] at h
    exact h.when ends_warn

/-- A project that does not compile is settled. -/
theorem unbuilt_uncompiled {fault : CompileError}
    (hf : (e.compile t r.sourceExclude).result = .error fault)
    (hc : fault.isCompilation = true) : Unbuilt r e t none := by
  have hf' : ∀ build, (e.compile t (r.building build).sourceExclude).result = .error fault :=
    fun _ => hf
  refine reaches_compiling ?_
  simp only [hf', hc, if_true]
  exact .after ends_warn (Work.Ends.settled (Work.ends_pure_iff.mpr ⟨rfl, rfl⟩))

/-- A project without a marked class is settled. -/
theorem unbuilt_unmarked (hu : (e.compile t r.sourceExclude).result = .ok u)
    (hm : r.markedClasses u = []) : Unbuilt r e t (some {}) := by
  have hu' : ∀ build, (e.compile t (r.building build).sourceExclude).result = .ok u := fun _ => hu
  have hmarked : ∀ build, (r.building build).markedClasses u = [] := fun _ => hm
  refine reaches_compiling ?_
  simp only [hu', hmarked]
  refine Work.Reaches.after
    (u := r.progress ("Looking for ntgen config in project '" ++ e.name ++ "'"))
    (ends_progress_iff.mpr ⟨rfl, rfl⟩) ?_
  exact .after (u := r.progress ("No class marked @" ++ r.marker ++ " in '" ++ e.name ++ "'"))
    (ends_progress_iff.mpr ⟨rfl, rfl⟩) (Work.Ends.settled (Work.ends_pure_iff.mpr ⟨rfl, rfl⟩))

end Ways

/-! What the build decides. -/

theorem decides_onceBuilt : Decides r directory descriptor fun x =>
    ((r.onceBuilt directory descriptor x).ending (r.cleanup directory)).attempt >>= told := by
  have hload : ∀ {result : Build.Result} {mid : Tree} {artifact : Path}, result.success = true →
      ArtifactAt mid directory descriptor artifact → mid.exists artifact = .ok true →
      Work.Ends (((r.onceBuilt directory descriptor (.ok result)).ending
        (r.cleanup directory)).attempt >>= told) mid (r.cleaned directory mid)
        (resolved (Configuration.load mid artifact)) := by
    rintro result mid _ hsuccess ⟨s, hs, rfl⟩ hthere
    rw [← concluded_stopped]
    refine ends_told (ends_onceBuilt ?_)
    rw [if_pos hsuccess]
    exact ends_loadBuilt hs hthere
  constructor
  case failed =>
    intro result mid hfailed
    apply ends_told_warned
    apply ends_onceBuilt
    rw [if_neg (by simp [hfailed])]
    exact Work.ends_fail_iff.mpr ⟨rfl, rfl⟩
  case missing =>
    intro result mid artifact hsuccess ha hmissing
    apply ends_told_warned
    apply ends_onceBuilt
    rw [if_pos hsuccess]
    exact ends_loadBuilt_missing ha hmissing
  case loaded =>
    intro result mid artifact c hsuccess ha hthere hc
    have hends := hload hsuccess ha hthere
    rwa [hc] at hends
  case refused =>
    intro result mid artifact fault hsuccess ha hthere hfault hraised
    have hends := hload hsuccess ha hthere
    rw [hfault] at hends
    cases fault with
    | raised x => exact absurd rfl (hraised x)
    | _ => exact hends
  case escaped =>
    intro result mid artifact x hsuccess ha hthere hx
    have hends := hload hsuccess ha hthere
    rwa [hx] at hends

/-- A tree of a file system that has a temporary directory with room for one more name. -/
structure Ready (r : Resolver) (t : Tree) : Prop where
  sound : t.Sound
  temporary : ∃ place entries, t.locate r.temporary = .ok (.node place (.dir entries))
  room : (freshName t r.temporary).utf8ByteSize ≤ maxNameBytes

/-- The unit of a source, in a temporary directory of its own, is built once; what the build leaves
decides. -/
def BuiltFrom (r : Resolver) (e : Entry) (t : Tree) (source : Path) : Prop :=
  ∃ (s : Site) (d : Data) (next : _), s.tree = t ∧ s.path = r.temporary ∧
    t.read source = .ok d ∧
    Work.CallsOnce (fun build => build (s.inner [descriptorName]) true)
      (fun build => (r.building build).resolve e) t
      (s.holding (.dir (unitOf source.name d))) next ∧
    Decides r s.directory (s.inner [descriptorName]) next

/-- What resolving a project comes to. -/
structure Stages (r : Resolver) (e : Entry) (t : Tree) : Prop where
  uncompiled : ∀ fault, (e.compile t r.sourceExclude).result = .error fault →
    fault.isCompilation = true → Unbuilt r e t none
  unmarked : ∀ u, (e.compile t r.sourceExclude).result = .ok u → (∀ c, ¬r.Marked u c) →
    Unbuilt r e t (some {})
  unnamed : ∀ u file c, (e.compile t r.sourceExclude).result = .ok u → e.file = some file →
    r.Marked u c → (∀ p, ¬r.NamedAfter t file u p) → Unbuilt r e t none
  gone : ∀ u file c, (e.compile t r.sourceExclude).result = .ok u → e.file = some file →
    r.Marked u c → t.exists file = .ok false → Unbuilt r e t none
  /-- The first of the sources that are named after a marked class is built. -/
  built : ∀ u file p, (e.compile t r.sourceExclude).result = .ok u → e.file = some file →
    r.NamedAfter t file u p → t.exists file = .ok true → ∃ source, r.NamedAfter t file u source ∧
      (∀ q, r.NamedAfter t file u q → q = source ∨ source.lt q = true) ∧ BuiltFrom r e t source

/-- Resolving goes through its stages: a project is settled without a build, or the first source of
a configuration is built once, on its own, and what the build leaves decides. -/
theorem resolve_stages (h : r.Ready t) (e : Entry) : Stages r e t := by
  have hmarked : ∀ {u file c}, (e.compile t r.sourceExclude).result = .ok u →
      e.file = some file → r.Marked u c → u.file = file ∧ r.markedClasses u ≠ [] :=
    fun hu hf hc => ⟨(compile_result hf hu).2.1, markedClasses_ne_nil hc⟩
  constructor
  case uncompiled => exact fun fault hf hc => unbuilt_uncompiled hf hc
  case unmarked => exact fun u hu hm => unbuilt_unmarked hu (markedClasses_eq_nil hm)
  case unnamed =>
    intro u file c hu hf hc hnone
    obtain ⟨rfl, hne⟩ := hmarked hu hf hc
    have hsources : r.sources t u.file u = [] :=
      List.eq_nil_iff_forall_not_mem.mpr fun p hp => hnone p (mem_sources.mp hp)
    exact reaches_resolve hu hne (settled_configure_unnamed hsources)
  case gone =>
    intro u file c hu hf hc hgone
    obtain ⟨rfl, hne⟩ := hmarked hu hf hc
    exact reaches_resolve hu hne (settled_configure_gone hgone)
  case built =>
    intro u file p hu hf hp hthere
    obtain ⟨c, hc, _⟩ := hp.named
    obtain ⟨rfl, hne⟩ := hmarked hu hf hc
    cases hsources : r.sources t u.file u with
    | nil => exact absurd (mem_sources.mpr hp) (by rw [hsources]; simp)
    | cons source ignored =>
      obtain ⟨hfirst, hleast⟩ := first_source hsources
      obtain ⟨hname, hsize, d, hd⟩ := h.sound.file_of_mem_find hfirst.found
      obtain ⟨place, entries, htemporary⟩ := h.temporary
      obtain ⟨s, rfl, hpath, hmake⟩ := ends_makeTemporary_site htemporary h.room
      have hunit := Build.ends_isolate_site hd hname hsize
        (name_of_candidate (mem_sources.mpr hfirst)).2
      refine ⟨source, hfirst, hleast, s, d, _, rfl, hpath, by rw [Tree.read, hd], ?_,
        decides_onceBuilt⟩
      exact reaches_resolve hu hne
        (callsOnce_configure (callsOnce_buildAndLoad hmake hunit) hsources hthere)

/-! An example: three sources are named after the marked class, and the one with the separator comes
first. -/

def stallEntries : List (String × Node) :=
  [("pyproject.toml", .file (.ofText "")), ("p_en.py", .file (.ofText "import pen")),
    ("pen.Py", .file (.ofText "")), ("pen.py", .file (.ofText "@NTEditorFile\nclass Pen: pass"))]

def stall : Tree where
  root := .dir [("tmp", .dir []), ("p", .dir stallEntries)]
  here := ⟨.root, []⟩

def stallFile : Path := ⟨.root, ["p", "pyproject.toml"]⟩

def stallEntry : Entry := { name := "p", file := some stallFile }

def stallResolver : Resolver where
  build := fun descriptor restore => ({} : Build.Builder).build descriptor restore
  temporary := ⟨.root, ["tmp"]⟩

def stallSources : List Path :=
  ["p_en.py", "pen.Py", "pen.py"].map fun name => ⟨.root, ["p", name]⟩

def stallUnit : Project.Unit where
  project := "p"
  file := stallFile
  modules := (stallSources.mapM (readSource stall stallFile.parent "p" false)).toOption.getD []

theorem ready_stall : stallResolver.Ready stall := by
  refine ⟨?_, ⟨_, _, rfl⟩, by decide +kernel⟩
  simp only [Tree.Sound, stall, stallEntries, Node.Sound, SoundBelow]
  decide +kernel

theorem find_stall : stall.find stallFile.parent ".py" standardExclude = stallSources := by
  have hnode : stall.node stallFile.parent = .ok (.dir stallEntries) := rfl
  have hown : ownFiles ".py" stallEntries = ["p_en.py", "pen.Py", "pen.py"] := by decide +kernel
  have hbelow : findBelow ".py" standardExclude stallEntries = [] := by decide +kernel
  rw [Tree.find, hnode]
  simp only [Node.find, hown, hbelow, byName, List.mergeSort_nil]
  rw [List.mergeSort_of_pairwise (by decide)]
  rfl

theorem compile_stall :
    (stallEntry.compile stall standardExclude).result = .ok stallUnit := by
  have hown : ownModules stall standardExclude stallEntry.name stallFile = stallUnit.modules := by
    unfold ownModules sourceFiles
    rw [find_stall]
    rfl
  have hne : ownModules stall standardExclude stallEntry.name stallFile ≠ [] := by
    rw [hown]
    exact List.isEmpty_eq_false_iff.mp (by decide +kernel)
  rw [compile_ownModules rfl rfl rfl hne, hown]
  rfl

/-- These sources, and nothing else, are named after the class. -/
theorem named_stall {p : Path} :
    stallResolver.NamedAfter stall stallFile stallUnit p ↔ p ∈ stallSources := by
  have hclasses : (stallResolver.markedClasses stallUnit).any
      (fun c => Naming.looseForm c.name == "pen") = true := by decide +kernel
  have hstems : ∀ p ∈ stallSources, Naming.looseForm p.stem = "pen" := by decide +kernel
  obtain ⟨c, hc, hn⟩ := List.any_eq_true.mp hclasses
  constructor
  · intro h
    rw [← find_stall]
    exact h.found
  · intro hp
    refine ⟨?_, c, mem_markedClasses.mp hc, (hstems p hp).trans (beq_iff_eq.mp hn).symm⟩
    rw [← find_stall] at hp
    exact hp

theorem resolve_stall : stallResolver.Ready stall ∧
    BuiltFrom stallResolver stallEntry stall ⟨.root, ["p", "p_en.py"]⟩ := by
  have hfirst : stallResolver.NamedAfter stall stallFile stallUnit ⟨.root, ["p", "p_en.py"]⟩ :=
    named_stall.mpr List.mem_cons_self
  have hnone : ∀ q ∈ stallSources, q.lt ⟨.root, ["p", "p_en.py"]⟩ = false := by decide +kernel
  obtain ⟨source, hsource, hleast, hbuilt⟩ := (resolve_stages ready_stall stallEntry).built
    stallUnit stallFile _ compile_stall rfl hfirst rfl
  refine ⟨ready_stall, ?_⟩
  rcases hleast _ hfirst with rfl | hlt
  · exact hbuilt
  · rw [hnone _ (named_stall.mp hsource)] at hlt
    cases hlt

end Stencil.Resolver
