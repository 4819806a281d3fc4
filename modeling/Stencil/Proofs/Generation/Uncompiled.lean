import Stencil.Proofs.CommandLine.Exit
import Stencil.Proofs.Generation.Account
import Stencil.Proofs.Work

/-!
Projects that do not compile. Resolving the configuration of such a project warns and has none, so
that its templates would see the whole workspace, itself included; compiling that fails again, and
the run ends before the first template of the project. A run that succeeds has therefore compiled
every project with templates, each when its turn came.
-/
namespace Stencil.Generation
open Stencil.Files
open Stencil.Project
open Stencil.CommandLine (settle carryOut Surroundings)

variable {g : Generator} {r : Resolver} {t mid after : Tree} {p : Templated} {e : Entry}
  {fault : CompileError} {exclude : String → Bool}

/-- The projects that have their turns before this one are done, and leave a tree for it. -/
def Generator.TurnOn (g : Generator) (t : Tree) (done : List Templated) (p : Templated)
    (mid : Tree) : Prop :=
  done ++ [p] <+: g.projects t ∧ ∃ s, Work.Ends (g.generateProjects done) t mid (.ok s)

/-- An entry that fails to compile on a tree fails because of the project itself. -/
def OnlyCompilation (t : Tree) (exclude : String → Bool) (e : Entry) : Prop :=
  ∀ fault, (e.compile t exclude).result = .error fault → fault.isCompilation = true

/-- The warning about a project that does not compile. -/
def compileWarning (e : Entry) (fault : CompileError) : Printed :=
  .message (Console.warning ("Failed to compile project '" ++ e.name ++ "': " ++ fault.message))

/-! Compiling side by side. -/

/-- The turn in which compiling fails. -/
def failedAt? (r : Report Project.Unit) : Option Nat :=
  match r.result with
  | .error _ => some r.turns.length
  | .ok _ => none

/-- Where some element has a time, the search for the least time finds an element that has one. -/
theorem exists_find?_min {α : Type} {f : α → Option Nat} {l : List α} {a : α} (total : Nat)
    (ha : a ∈ l) (hn : f a ≠ none) :
    ∃ b ∈ l, f b ≠ none ∧
      l.find? (fun x => f x == some ((l.filterMap f).min?.getD total)) = some b := by
  obtain ⟨n, hn⟩ := Option.ne_none_iff_exists'.mp hn
  obtain ⟨least, hleast⟩ : ∃ least, (l.filterMap f).min? = some least := by
    rw [← Option.isSome_iff_exists, List.isSome_min?_iff]
    exact List.ne_nil_of_mem (List.mem_filterMap.mpr ⟨a, ha, hn⟩)
  obtain ⟨c, hc, hfc⟩ := List.mem_filterMap.mp (List.min?_mem hleast)
  rw [hleast, Option.getD_some]
  have hsome : (l.find? fun x => f x == some least).isSome = true := by
    rw [List.find?_isSome]
    exact ⟨c, hc, by rw [hfc, beq_self_eq_true]⟩
  obtain ⟨b, hb⟩ := Option.isSome_iff_exists.mp hsome
  have hfb : (f b == some least) = true := by simpa using List.find?_some hb
  refine ⟨b, List.mem_of_find?_eq_some hb, ?_, hb⟩
  rw [beq_iff_eq.mp hfb]
  exact Option.some_ne_none least

/-- Compiling fails as a whole if one project fails, with the error of one of them. -/
theorem compileAll_error {es : List Entry} (he : e ∈ es)
    (hf : (e.compile t exclude).result = .error fault) :
    ∃ e' ∈ es, ∃ fault', (e'.compile t exclude).result = .error fault' ∧
      (compileAll t exclude es).2 = .error fault' := by
  have hfailed : failedAt? (e.compile t exclude) ≠ none := by
    unfold failedAt?
    rw [hf]
    exact Option.some_ne_none _
  obtain ⟨r, hr, hrf, hfind⟩ := exists_find?_min
    (((es.map (Entry.compile t exclude)).map fun r => r.turns.length).foldl max 0)
    (List.mem_map_of_mem he) hfailed
  obtain ⟨e', he', rfl⟩ := List.mem_map.mp hr
  cases hresult : (e'.compile t exclude).result with
  | ok u =>
    unfold failedAt? at hrf
    rw [hresult] at hrf
    exact absurd rfl hrf
  | error fault' =>
    refine ⟨e', he', fault', hresult, ?_⟩
    have hfirst := congrArg (Option.map Report.result) hfind
    rw [Option.map_some, hresult] at hfirst
    unfold compileAll
    dsimp only
    split
    · rename_i fault'' h
      cases h.symm.trans hfirst
      rfl
    · rename_i h
      exact absurd hfirst (h fault')

/-- Compiling succeeds as a whole if all projects compile, with one unit for each of them. -/
theorem compileAll_eq_ok_iff {es : List Entry} {units : List Project.Unit} :
    (compileAll t exclude es).2 = .ok units ↔
      List.Forall₂ (fun e u => (e.compile t exclude).result = .ok u) es units := by
  constructor
  · intro h
    have hall : ∀ e ∈ es, ∃ u, (e.compile t exclude).result = .ok u := by
      intro e he
      cases hu : (e.compile t exclude).result with
      | ok u => exact ⟨u, rfl⟩
      | error fault =>
        obtain ⟨_, _, fault', _, hfault⟩ := compileAll_error he hu
        cases h.symm.trans hfault
    obtain ⟨units', hunits, hread⟩ := compileAll_ok hall
    cases h.symm.trans hunits
    exact hread
  · intro h
    have hmapM := mapM_eq_ok_iff.mpr h
    obtain ⟨units', hunits, hread⟩ := compileAll_ok (exists_mapM_eq_ok_iff.mp ⟨units, hmapM⟩)
    cases hmapM.symm.trans (mapM_eq_ok_iff.mpr hread)
    exact hunits

/-! A project that does not compile. -/

theorem mem_projects (h : p ∈ g.projects t) :
    p.entry ∈ g.workspace.projects ∧ p.entry.isEligible = true := by
  obtain ⟨hmem, htemplates⟩ := List.mem_filter.mp h
  obtain ⟨e, he, rfl⟩ := List.mem_map.mp hmem
  refine ⟨he, ?_⟩
  dsimp only at htemplates ⊢
  unfold Entry.templates Entry.directory at htemplates
  rw [isEligible_iff]
  cases hfile : e.file with
  | none => simp [hfile] at htemplates
  | some file =>
    cases hc : e.compiles with
    | false => simp [hfile, hc] at htemplates
    | true => exact ⟨rfl, nofun⟩

/-- A project with templates is selected where nothing is asked for. -/
theorem mem_selected_default (h : p ∈ g.projects t) : p.entry ∈ selected g.workspace {} := by
  obtain ⟨hmem, heligible⟩ := mem_projects h
  rw [selected_eq, List.mem_filter, decide_eq_true_eq]
  exact ⟨hmem, (isEligible_iff.mp heligible).1, (isEligible_iff.mp heligible).2, .inl rfl⟩

/-- Resolving warns about a project that does not compile, and gives it no configuration. -/
theorem tells_resolve (hf : (e.compile t r.sourceExclude).result = .error fault)
    (hc : fault.isCompilation = true) :
    Work.Tells (r.resolve e) t t (.ok none) (compileWarning e fault) := by
  unfold Resolver.resolve
  refine (Resolver.ends_progress_iff.mpr ⟨rfl, rfl⟩).bind_tells ?_
  refine (Work.ends_tree_iff.mpr ⟨rfl, rfl⟩).bind_tells ?_
  simp only [hf, hc, if_true]
  have hwarn : Work.Tells (do
      Resolver.warn ("Failed to compile project '" ++ e.name ++ "': " ++ fault.message)
      return none : Work RunError (Option Configuration)) t t (.ok none) (compileWarning e fault) :=
    (Work.tells_say _ t).bind_ends (Work.ends_pure_iff.mpr ⟨rfl, rfl⟩)
  split
  · exact (Work.ends_sayAll_iff.mpr ⟨rfl, rfl⟩).bind_tells hwarn
  · exact hwarn

/-- What compiling fails with ends the run when the project is not to blame. -/
theorem ends_resolve_fault (hf : (e.compile t r.sourceExclude).result = .error fault)
    (hc : fault.isCompilation = false) :
    Work.Ends (r.resolve e) t t (.error (.compile fault)) := by
  unfold Resolver.resolve
  rw [Work.ends_bind_ok (Resolver.ends_progress_iff.mpr ⟨rfl, rfl⟩),
    Work.ends_bind_ok (Work.ends_tree_iff.mpr ⟨rfl, rfl⟩)]
  simp only [hf, hc, Bool.false_eq_true, if_false]
  split
  · rw [Work.ends_bind_ok (Work.ends_sayAll_iff.mpr ⟨rfl, rfl⟩), Work.ends_fail_iff]
    exact ⟨rfl, rfl⟩
  · exact Work.ends_fail_iff.mpr ⟨rfl, rfl⟩

/-- Where there is no configuration the default one is used. -/
theorem ends_configurationOf_none (h : Work.Ends (g.resolve e) t mid (.ok none)) :
    Work.Ends (g.configurationOf e) t mid (.ok {}) := by
  unfold Generator.configurationOf
  rw [Work.ends_bind_ok h]
  dsimp only
  rw [Work.ends_bind_ok (Work.ends_say_iff.mpr ⟨rfl, rfl⟩), Work.ends_pure_iff]
  exact ⟨rfl, rfl⟩

/-- The templates of a project that does not compile have no turn. The default configuration selects
the project itself, so that compiling fails, on the same tree as before. -/
theorem ends_generateProject_uncompiled (hg : g.resolve = r.resolve)
    (hx : r.sourceExclude = g.exclude) (hp : p ∈ g.projects t)
    (hf : (p.entry.compile mid g.exclude).result = .error fault) :
    ∃ e ∈ g.workspace.projects, ∃ fault', (e.compile mid g.exclude).result = .error fault' ∧
      Work.Ends (g.prepare p.entry) mid mid (.error (.compile fault')) ∧
      ∀ templates, Work.Ends (g.generateProject ⟨p.entry, templates⟩) mid mid
        (.error (.compile fault')) := by
  cases hc : fault.isCompilation with
  | true =>
    have hconfig : Work.Ends (g.configurationOf p.entry) mid mid (.ok {}) := by
      refine ends_configurationOf_none ?_
      rw [hg]
      exact (tells_resolve (by rw [hx, hf]) hc).toEnds
    obtain ⟨e, he, fault', hfault', hall⟩ := compileAll_error (mem_selected_default hp) hf
    have hmodel : Work.Ends (g.modelOf {} (selected g.workspace {})) mid mid
        (.error (.compile fault')) := by
      rw [ends_modelOf_iff, hall]
      exact ⟨rfl, rfl⟩
    rw [selected_eq] at he
    refine ⟨e, (List.mem_filter.mp he).1, fault', hfault', ?_, fun templates => ?_⟩
    · unfold Generator.prepare
      rw [Work.ends_bind_ok hconfig, Work.ends_bind_ok (ends_select_iff.mpr ⟨rfl, rfl⟩)]
      exact (Work.ends_bind_error hmodel).mpr ⟨rfl, rfl⟩
    · unfold Generator.generateProject
      rw [Work.ends_bind_ok hconfig, Work.ends_bind_ok (ends_select_iff.mpr ⟨rfl, rfl⟩)]
      exact (Work.ends_bind_error hmodel).mpr ⟨rfl, rfl⟩
  | false =>
    have hresolve : Work.Ends (g.resolve p.entry) mid mid (.error (.compile fault)) := by
      rw [hg]
      exact ends_resolve_fault (by rw [hx, hf]) hc
    have hconfig : Work.Ends (g.configurationOf p.entry) mid mid (.error (.compile fault)) := by
      unfold Generator.configurationOf
      exact (Work.ends_bind_error hresolve).mpr ⟨rfl, rfl⟩
    refine ⟨p.entry, (mem_projects hp).1, fault, hf, ?_, fun templates => ?_⟩
    · unfold Generator.prepare
      exact (Work.ends_bind_error hconfig).mpr ⟨rfl, rfl⟩
    · unfold Generator.generateProject
      exact (Work.ends_bind_error hconfig).mpr ⟨rfl, rfl⟩

/-! The turns of projects. -/

/-- An error after some projects is the error of them all. -/
theorem ends_generateProjects_stopped {done rest : List Templated} {s : Summary} {e : RunError}
    (hdone : Work.Ends (g.generateProjects done) t mid (.ok s))
    (hrest : Work.Ends (g.generateProjects rest) mid after (.error e)) :
    Work.Ends (g.generateProjects (done ++ rest)) t after (.error e) := by
  induction done generalizing t s with
  | nil =>
    obtain ⟨rfl, _⟩ := Work.ends_pure_iff.mp hdone
    exact hrest
  | cons q later ih =>
    rcases Work.ends_bind_iff.mp hdone with ⟨first, files, hq, hlater⟩ | ⟨_, _, hs⟩
    · rw [List.cons_append]
      unfold Generator.generateProjects
      rw [Work.ends_bind_ok hq]
      rcases Work.ends_bind_iff.mp hlater with ⟨_, more, hmore, hpure⟩ | ⟨_, _, hs⟩
      · obtain ⟨rfl, _⟩ := Work.ends_pure_iff.mp hpure
        exact (Work.ends_bind_error (ih hmore)).mpr ⟨rfl, rfl⟩
      · cases hs
    · cases hs

/-- Where all projects succeed, those in front do, and then the others. -/
theorem ends_generateProjects_split {done rest : List Templated} {s : Summary}
    (h : Work.Ends (g.generateProjects (done ++ rest)) t after (.ok s)) :
    ∃ mid s₁ s₂, Work.Ends (g.generateProjects done) t mid (.ok s₁) ∧
      Work.Ends (g.generateProjects rest) mid after (.ok s₂) := by
  induction done generalizing t s with
  | nil => exact ⟨t, {}, s, Work.ends_pure_iff.mpr ⟨rfl, rfl⟩, h⟩
  | cons q later ih =>
    rw [List.cons_append] at h
    rcases Work.ends_bind_iff.mp h with ⟨first, files, hq, h⟩ | ⟨_, _, hs⟩
    · rcases Work.ends_bind_iff.mp h with ⟨_, more, hmore, hpure⟩ | ⟨_, _, hs⟩
      · obtain ⟨rfl, _⟩ := Work.ends_pure_iff.mp hpure
        obtain ⟨mid, s₁, s₂, hdone, hrest⟩ := ih hmore
        have hfront : ∃ s₁, Work.Ends (g.generateProjects (q :: later)) t mid (.ok s₁) :=
          ⟨_, (Work.ends_bind_ok hq).mpr ((Work.ends_bind_ok hdone).mpr
            (Work.ends_pure_iff.mpr ⟨rfl, rfl⟩))⟩
        obtain ⟨s₁, hfront⟩ := hfront
        exact ⟨mid, s₁, s₂, hfront, hrest⟩
      · cases hs
    · cases hs

/-- The calls that a generator carries out on a tree: its own work, or what loads its workspace from
the tree first. -/
inductive Generator.Calls (g : Generator) (t : Tree) : Work Empty CommandLine.Exit → Prop where
  | generate (verbose : Bool) (seconds : Float) : Calls g t (settle verbose seconds g.generate)
  | load {s : Surroundings} {o : Settings.Options} (seconds : Float) :
      (Project.load t o).2 = .ok g.workspace → g = s.generator o g.workspace →
      Calls g t (carryOut s o seconds)

/-- A call settles work that ends like the work of the generator. -/
theorem Generator.Calls.settled {call : Work Empty CommandLine.Exit} (h : g.Calls t call) :
    ∃ verbose seconds work, call = settle verbose seconds work ∧
      ∀ after res, Work.Ends work t after res ↔ Work.Ends g.generate t after res := by
  cases h with
  | generate verbose seconds => exact ⟨verbose, seconds, _, rfl, fun _ _ => Iff.rfl⟩
  | @load s o seconds hload hmade =>
    refine ⟨o.verbose, seconds, _, rfl, fun after res => ?_⟩
    rw [CommandLine.ends_generate_of_load hload, ← hmade]

/-- What becomes of a project that does not compile when its turn comes: it has no configuration,
which is warned about, it is selected like every other project, none of its templates is rendered,
and the run ends with an error of compiling. -/
structure GivenUp (g : Generator) (r : Resolver) (t mid : Tree) (p : Templated)
    (fault : CompileError) : Prop where
  warned : Work.Tells (r.resolve p.entry) mid mid (.ok none) (compileWarning p.entry fault)
  default : Work.Ends (g.configurationOf p.entry) mid mid (.ok {})
  selected : p.entry ∈ selected g.workspace {}
  ended : ∃ fault', fault'.isCompilation = true ∧
    Work.Ends (g.prepare p.entry) mid mid (.error (.compile fault')) ∧
    (∀ templates, Work.Ends (g.generateProject ⟨p.entry, templates⟩) mid mid
      (.error (.compile fault'))) ∧
    Work.Ends g.generate t mid (.error (.compile fault'))
  exit : ∀ call, g.Calls t call → Work.Ends call t mid (.ok .compilation)

/-- A project that does not compile when its turn comes ends the run before its templates, if only
projects are to blame. A run with the exit of success has compiled each project with templates, on
the tree that was there when its turn came. -/
theorem compiles_or_ends (g : Generator) (r : Resolver) (t : Tree) (hg : g.resolve = r.resolve)
    (hx : r.sourceExclude = g.exclude) :
    (∀ done p mid fault, g.TurnOn t done p mid →
      (∀ e ∈ g.workspace.projects, OnlyCompilation mid g.exclude e) →
      (p.entry.compile mid g.exclude).result = .error fault → GivenUp g r t mid p fault) ∧
    (∀ call, g.Calls t call → (call t).result = .ok .done →
      ∀ done p, done ++ [p] <+: g.projects t → ∃ mid, g.TurnOn t done p mid ∧
        ∃ u, (p.entry.compile mid g.exclude).result = .ok u) := by
  constructor
  · rintro done p mid fault ⟨⟨rest, hprojects⟩, s, hdone⟩ honly hf
    have hp : p ∈ g.projects t := by simp [← hprojects]
    have hc := honly _ (mem_projects hp).1 fault hf
    obtain ⟨e, he, fault', hfault', hprepare, htemplates⟩ :=
      ends_generateProject_uncompiled hg hx hp hf
    have hc' := honly e he fault' hfault'
    have hgenerate : Work.Ends g.generate t mid (.error (.compile fault')) := by
      rw [ends_generate_iff, ← hprojects, List.append_assoc]
      refine ends_generateProjects_stopped hdone ?_
      exact (Work.ends_bind_error (htemplates p.templates)).mpr ⟨rfl, rfl⟩
    have hwarned := tells_resolve (r := r) (by rw [hx, hf]) hc
    refine ⟨hwarned, ends_configurationOf_none (hg ▸ hwarned.toEnds), mem_selected_default hp,
      ⟨fault', hc', hprepare, htemplates, hgenerate⟩, ?_⟩
    intro call hcall
    obtain ⟨verbose, seconds, work, rfl, hwork⟩ := hcall.settled
    exact CommandLine.ends_settle_compile ((hwork _ _).mpr hgenerate) hc'
  · rintro call hcall hdone done p ⟨rest, hprojects⟩
    obtain ⟨verbose, seconds, work, rfl, hwork⟩ := hcall.settled
    obtain ⟨after, s, hgenerate⟩ := CommandLine.ok_of_settle_done hdone
    rw [hwork, ends_generate_iff, ← hprojects, List.append_assoc] at hgenerate
    obtain ⟨mid, s₁, s₂, hfront, hrest⟩ := ends_generateProjects_split hgenerate
    refine ⟨mid, ⟨⟨rest, hprojects⟩, s₁, hfront⟩, ?_⟩
    cases hf : (p.entry.compile mid g.exclude).result with
    | ok u => exact ⟨u, rfl⟩
    | error fault =>
      have hp : p ∈ g.projects t := by simp [← hprojects]
      obtain ⟨_, _, fault', _, _, htemplates⟩ := ends_generateProject_uncompiled hg hx hp hf
      have hstop : Work.Ends (g.generateProjects ([p] ++ rest)) mid mid
          (.error (.compile fault')) :=
        (Work.ends_bind_error (htemplates p.templates)).mpr ⟨rfl, rfl⟩
      cases (hstop.unique hrest).2

/-! An example: a source that breaks off, beside a template. -/

def draftEntries : List (String × Node) :=
  [("main.py", .file (.ofText "class")), ("a.nt", .file (.ofText "x"))]

def draft : Tree where
  root := .dir [("tmp", .dir []), ("p", .dir draftEntries)]
  here := ⟨.root, []⟩

def draftProject : Templated := ⟨shelfEntry, [⟨.root, ["p", "a.nt"]⟩]⟩

theorem compile_draft : ∃ fault, (shelfEntry.compile draft standardExclude).result = .error fault ∧
    fault.isCompilation = true := by
  have hread : (match (shelfEntry.compile draft standardExclude).result with
      | .error fault => fault.isCompilation
      | .ok _ => false) = true := by decide +kernel
  cases hf : (shelfEntry.compile draft standardExclude).result with
  | ok u =>
    rw [hf] at hread
    cases hread
  | error fault =>
    rw [hf] at hread
    exact ⟨fault, rfl, hread⟩

theorem turnOn_draft : deskGenerator.TurnOn draft [] draftProject draft := by
  have hfound : draft.find ⟨.root, ["p"]⟩ ".nt" (fun _ => false) = [⟨.root, ["p", "a.nt"]⟩] := by
    have hnode : draft.node ⟨.root, ["p"]⟩ = .ok (.dir draftEntries) := rfl
    have hown : ownFiles ".nt" draftEntries = ["a.nt"] := by decide +kernel
    have hbelow : findBelow ".nt" (fun _ => false) draftEntries = [] := by decide +kernel
    rw [Tree.find, hnode]
    simp only [Node.find, hown, hbelow, byName, List.mergeSort_nil, List.mergeSort_singleton]
    rfl
  have hprojects : deskGenerator.projects draft = [draftProject] := by
    change [(⟨shelfEntry, draft.find ⟨.root, ["p"]⟩ ".nt" fun _ => false⟩ : Templated)].filter
      (fun p => !p.templates.isEmpty) = _
    rw [hfound]
    rfl
  refine ⟨?_, {}, Work.ends_pure_iff.mpr ⟨rfl, rfl⟩⟩
  rw [hprojects]
  exact List.prefix_rfl

/-- The draft is given up, and the project on the desk was compiled when its turn came. -/
theorem compiles_or_ends_draft : deskGenerator.resolve = deskResolver.resolve ∧
    deskResolver.sourceExclude = deskGenerator.exclude ∧
    (∃ fault, deskGenerator.TurnOn draft [] draftProject draft ∧
      (∀ e ∈ deskGenerator.workspace.projects, OnlyCompilation draft deskGenerator.exclude e) ∧
      (shelfEntry.compile draft deskGenerator.exclude).result = .error fault ∧
      GivenUp deskGenerator deskResolver draft draft draftProject fault) ∧
    (settle false 0 deskGenerator.generate desk).result = .ok .done ∧
    ∃ mid, deskGenerator.TurnOn desk [] ⟨shelfEntry, deskTemplates⟩ mid ∧
      ∃ u, (shelfEntry.compile mid deskGenerator.exclude).result = .ok u := by
  refine ⟨rfl, rfl, ?_, ?_⟩
  · obtain ⟨fault, hf, hc⟩ := compile_draft
    have honly : ∀ e ∈ deskGenerator.workspace.projects,
        OnlyCompilation draft deskGenerator.exclude e := by
      intro e he fault' hf'
      rw [List.mem_singleton.mp he] at hf'
      cases hf.symm.trans hf'
      exact hc
    exact ⟨fault, turnOn_draft, honly, hf, (compiles_or_ends deskGenerator deskResolver draft rfl
      rfl).1 [] draftProject draft fault turnOn_draft honly hf⟩
  · obtain ⟨s, hs⟩ := result_desk
    have hdone : Work.Ends (settle false 0 deskGenerator.generate) desk _ (.ok .done) :=
      CommandLine.ends_settle_ok ⟨rfl, hs⟩ fun _ => Work.ends_pure_iff.mpr ⟨rfl, rfl⟩
    refine ⟨hdone.result, (compiles_or_ends deskGenerator deskResolver desk rfl rfl).2 _
      (.generate false 0) hdone.result [] ⟨shelfEntry, deskTemplates⟩ ?_⟩
    rw [projects_desk]
    exact List.prefix_rfl

end Stencil.Generation
