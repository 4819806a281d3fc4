import Stencil.Proofs.Configuration.Resolve
import Stencil.Proofs.Generation.Changes
import Stencil.Proofs.Generation.Selection

/-!
How a run goes. The templates take their turns in order: each is read from the tree that the turns
before it have left, and what it captures is written before the next one. The first error ends the
run. The work of a generator goes as a run does, unless a file cannot be read or written.
-/
namespace Stencil.Generation
open Stencil.Files
open Stencil.Project
open Stencil.Model

/-- What a template captures when its turn comes, with the store that it leaves, or why it has no
turn. Its text is the one that the tree holds by then. -/
def captured (m : Combined) (c : Configuration) (t : Tree) (store : Template.Store)
    (template : Path) : Except RunError (List Template.Output × Template.Store) := do
  let source ← (t.readText template).mapError .read
  let (r, store) := Template.renderOn ⟨[], c.functions, some template, t⟩ store source m
  if r.hasErrors then throw (.render template r.messages) else return (r.outputs, store)

/-- A template and what it captured. -/
structure Turn where
  template : Path
  outputs : List Template.Output

def Turn.changes (turn : Turn) : List Change := turn.outputs.map (.output turn.template)

/-- Turns in a row, each on the tree and the store that the turns before it have left. -/
inductive Turns (m : Combined) (c : Configuration) :
    Tree → Template.Store → List Turn → Tree → Template.Store → Prop where
  | none (t store) : Turns m c t store [] t store
  | turn {t mid after store next last template os rest} :
      captured m c t store template = .ok (os, next) →
      applyAll t (Turn.changes ⟨template, os⟩) = some mid →
      Turns m c mid next rest after last →
      Turns m c t store (⟨template, os⟩ :: rest) after last

/-- What comes before the templates of a project: its configuration and its model. -/
def Generator.prepare (g : Generator) (e : Entry) : Work RunError (Configuration × Combined) := do
  let c ← g.configurationOf e
  let es ← g.select c.settings
  let m ← g.modelOf c.settings es
  return (c, m)

/-- How a run over projects goes: the turns of their templates, all the changes it makes, the tree
it leaves and its result. -/
inductive Run (g : Generator) (keeps : Change → Prop) :
    Tree → List Templated → List Turn → List Change → Tree → Except RunError PUnit → Prop where
  | done (t) : Run g keeps t [] [] [] t (.ok ())
  | project {t mid last after p rest kept c m turns store more changes r} :
      Work.Ends (g.prepare p.entry) t mid (.ok (c, m)) →
      applyAll t kept = some mid → (∀ k ∈ kept, keeps k) →
      Turns m c mid (.ofModel m) turns last store → turns.map Turn.template = p.templates →
      Run g keeps last rest more changes after r →
      Run g keeps t (p :: rest) (turns ++ more) (kept ++ turns.flatMap Turn.changes ++ changes)
        after r
  /-- A template that captures nothing ends the run. -/
  | stopped {t mid last p rest kept c m turns store template later e} :
      Work.Ends (g.prepare p.entry) t mid (.ok (c, m)) →
      applyAll t kept = some mid → (∀ k ∈ kept, keeps k) →
      Turns m c mid (.ofModel m) turns last store →
      p.templates = turns.map Turn.template ++ template :: later →
      captured m c last store template = .error e →
      Run g keeps t (p :: rest) turns (kept ++ turns.flatMap Turn.changes) last (.error e)
  /-- A project without a configuration or a model ends the run. -/
  | unprepared {t mid p rest kept e} :
      Work.Ends (g.prepare p.entry) t mid (.error e) →
      applyAll t kept = some mid → (∀ k ∈ kept, keeps k) →
      Run g keeps t (p :: rest) [] kept mid (.error e)

variable {g : Generator} {r : Resolver} {b : Build.Builder} {m : Combined} {c : Configuration}
  {t mid after : Tree} {store last : Template.Store} {template : Path} {place : List String}
  {entries : List (String × Node)} {keeps : Change → Prop}

/-! Each piece of work is what the run says. -/

theorem ends_generateProject {p : Templated} {res : Except RunError (List Path)}
    (h : Work.Ends (g.generateProject p) t after res) :
    (∃ mid c m, Work.Ends (g.prepare p.entry) t mid (.ok (c, m)) ∧
      Work.Ends (g.renderAll m c (.ofModel m) p.templates) mid after res) ∨
    ∃ e, Work.Ends (g.prepare p.entry) t after (.error e) ∧ res = .error e := by
  unfold Generator.generateProject at h
  unfold Generator.prepare
  rcases Work.ends_bind_iff.mp h with ⟨mid, c, hc, h⟩ | ⟨e, hc, rfl⟩
  · rw [Work.ends_bind_ok (ends_select_iff.mpr ⟨rfl, rfl⟩)] at h
    rcases Work.ends_bind_iff.mp h with ⟨made, m, hm, h⟩ | ⟨e, hm, rfl⟩
    · refine Or.inl ⟨made, c, m, ?_, h⟩
      rw [Work.ends_bind_ok hc, Work.ends_bind_ok (ends_select_iff.mpr ⟨rfl, rfl⟩),
        Work.ends_bind_ok hm]
      exact Work.ends_pure_iff.mpr ⟨rfl, rfl⟩
    · refine Or.inr ⟨e, ?_, rfl⟩
      rw [Work.ends_bind_ok hc, Work.ends_bind_ok (ends_select_iff.mpr ⟨rfl, rfl⟩)]
      exact (Work.ends_bind_error hm).mpr ⟨rfl, rfl⟩
  · exact Or.inr ⟨e, (Work.ends_bind_error hc).mpr ⟨rfl, rfl⟩, rfl⟩

/-- What follows a change of a file starts on the changed tree, unless nothing can be changed. -/
theorem ends_fileChange_bind {α : Type} {f : Tree → Except FileError Tree}
    {next : PUnit → Work RunError α} {res : Except RunError α}
    (h : Work.Ends (Work.change (fun t => (f t).mapError .file) >>= next) t after res) :
    (∃ mid, f t = .ok mid ∧ Work.Ends (next ()) mid after res) ∨ ∃ e, res = .error (.file e) := by
  rcases Work.ends_bind_iff.mp h with ⟨mid, u, hchange, h⟩ | ⟨e, hchange, rfl⟩
  · rcases Work.ends_change_iff.mp hchange with ⟨hf, _⟩ | ⟨e, _, _, he⟩
    · exact Or.inl ⟨mid, eq_ok_of_mapError hf, h⟩
    · cases he
  · rcases Work.ends_change_iff.mp hchange with ⟨_, he⟩ | ⟨e', hf, _, he⟩
    · cases he
    · cases he
      obtain ⟨fault, _, rfl⟩ := exists_of_mapError hf
      exact Or.inr ⟨fault, rfl⟩

theorem ends_fileLook_bind {α β : Type} {f : Tree → Except FileError β}
    {next : β → Work RunError α} {res : Except RunError α}
    (h : Work.Ends (Work.look (fun t => (f t).mapError .file) >>= next) t after res) :
    (∃ a, f t = .ok a ∧ Work.Ends (next a) t after res) ∨ ∃ e, res = .error (.file e) := by
  rcases Work.ends_bind_iff.mp h with ⟨mid, a, hlook, hnext⟩ | ⟨e, hlook, rfl⟩
  · obtain ⟨rfl, ha⟩ := Work.ends_look_iff.mp hlook
    exact Or.inl ⟨a, eq_ok_of_mapError ha.symm, hnext⟩
  · obtain ⟨-, he⟩ := Work.ends_look_iff.mp hlook
    obtain ⟨fault, _, rfl⟩ := exists_of_mapError he.symm
    exact Or.inr ⟨fault, rfl⟩

/-- Writing an output puts it where it belongs, or a file cannot be written. -/
theorem ends_writeOutput {o : Template.Output} {res : Except RunError Path}
    (h : Work.Ends (g.writeOutput template o) t after res) :
    (putOutput t template o = .ok after ∧ res = .ok (outputPath template o)) ∨
      ∃ e, res = .error (.file e) := by
  unfold Generator.writeOutput at h
  rw [Work.ends_bind_ok (ends_progress_iff.mpr ⟨rfl, rfl⟩)] at h
  rcases ends_fileLook_bind h with ⟨there, hthere, h⟩ | hfile
  · have hput : putOutput t template o =
        if there then t.writeText (outputPath template o) o.content
        else (t.makeDirs (outputPath template o).parent).bind fun above =>
          above.writeText (outputPath template o) o.content := by
      have hthere' : t.exists (outputPath template o).parent = .ok there := hthere
      simp only [putOutput, bind, Except.bind, hthere']
    rw [hput]
    cases there with
    | true =>
      rcases ends_fileChange_bind h with ⟨made, hw, h⟩ | hfile
      · obtain ⟨rfl, rfl⟩ := Work.ends_pure_iff.mp h
        rw [if_pos rfl]
        exact Or.inl ⟨hw, rfl⟩
      · exact Or.inr hfile
    | false =>
      simp only [Bool.not_false, if_true] at h
      rw [Work.ends_bind_ok (ends_progress_iff.mpr ⟨rfl, rfl⟩)] at h
      rcases ends_fileChange_bind h with ⟨above, habove, h⟩ | hfile
      · rcases ends_fileChange_bind h with ⟨made, hw, h⟩ | hfile
        · obtain ⟨rfl, rfl⟩ := Work.ends_pure_iff.mp h
          refine Or.inl ⟨?_, rfl⟩
          have habove' : t.makeDirs (outputPath template o).parent = .ok above := habove
          rw [if_neg Bool.false_ne_true, habove', Except.bind]
          exact hw
        · exact Or.inr hfile
      · exact Or.inr hfile
  · exact Or.inr hfile

theorem ends_writeOutputs {os : List Template.Output} {res : Except RunError (List Path)}
    (h : Work.Ends (g.writeOutputs template os) t after res) :
    (applyAll t (Turn.changes ⟨template, os⟩) = some after ∧
      res = .ok (os.map (outputPath template))) ∨ ∃ e, res = .error (.file e) := by
  induction os generalizing t after res with
  | nil =>
    obtain ⟨rfl, rfl⟩ := Work.ends_pure_iff.mp h
    exact Or.inl ⟨rfl, rfl⟩
  | cons o rest ih =>
    rcases Work.ends_bind_iff.mp h with ⟨mid, path, hfirst, h⟩ | ⟨e, hfirst, rfl⟩
    · rcases ends_writeOutput hfirst with ⟨hput, hpath⟩ | ⟨e, he⟩
      · rcases Work.ends_bind_iff.mp h with ⟨made, paths, hrest, h⟩ | ⟨e, hrest, rfl⟩
        · rcases ih hrest with ⟨happly, hpaths⟩ | ⟨e, he⟩
          · cases hpath
            cases hpaths
            obtain ⟨rfl, rfl⟩ := Work.ends_pure_iff.mp h
            refine Or.inl ⟨?_, rfl⟩
            change ((putOutput t template o).toOption).bind _ = _
            rw [hput]
            exact happly
          · cases he
        · rcases ih hrest with ⟨_, hpaths⟩ | ⟨e', he⟩
          · cases hpaths
          · cases he
            exact Or.inr ⟨e', rfl⟩
      · cases he
    · rcases ends_writeOutput hfirst with ⟨_, hpath⟩ | ⟨e', he⟩
      · cases hpath
      · cases he
        exact Or.inr ⟨e', rfl⟩

/-- A template captures nothing and changes nothing, or it has its turn. -/
theorem ends_renderTemplate {res : Except RunError (List Path × Template.Store)}
    (h : Work.Ends (g.renderTemplate m c store template) t after res) :
    (∃ e, captured m c t store template = .error e ∧ after = t ∧ res = .error e) ∨
    (∃ os next, captured m c t store template = .ok (os, next) ∧
      applyAll t (Turn.changes ⟨template, os⟩) = some after ∧
      res = .ok (os.map (outputPath template), next)) ∨ ∃ e, res = .error (.file e) := by
  unfold Generator.renderTemplate at h
  rw [Work.ends_bind_ok (ends_progress_iff.mpr ⟨rfl, rfl⟩)] at h
  unfold captured
  rcases Work.ends_bind_iff.mp h with ⟨mid, source, hlook, hnext⟩ | ⟨e, hlook, rfl⟩
  · obtain ⟨rfl, hsource⟩ := Work.ends_look_iff.mp hlook
    rw [Work.ends_bind_ok (Work.ends_tree_iff.mpr ⟨rfl, rfl⟩)] at hnext
    rw [← hsource]
    simp only [bind, Except.bind]
    generalize Template.renderOn ⟨[], c.functions, some template, mid⟩ store source m =
      rendered at hnext ⊢
    obtain ⟨rendered, next⟩ := rendered
    dsimp only at hnext ⊢
    split at hnext
    · rename_i herrors
      rw [Work.ends_bind_ok (Work.ends_say_iff.mpr ⟨rfl, rfl⟩),
        Work.ends_bind_ok (Work.ends_sayAll_iff.mpr ⟨rfl, rfl⟩), Work.ends_fail_iff] at hnext
      refine Or.inl ⟨.render template rendered.messages, ?_, hnext⟩
      rw [if_pos herrors]
      rfl
    · rename_i herrors
      refine Or.inr ?_
      rw [if_neg herrors]
      rcases Work.ends_bind_iff.mp hnext with ⟨made, paths, hwritten, hpure⟩ | ⟨e, hwritten, rfl⟩
      · rcases ends_writeOutputs hwritten with ⟨happly, hpaths⟩ | ⟨e, he⟩
        · cases hpaths
          obtain ⟨rfl, rfl⟩ := Work.ends_pure_iff.mp hpure
          exact Or.inl ⟨_, _, rfl, happly, rfl⟩
        · cases he
      · rcases ends_writeOutputs hwritten with ⟨_, hpaths⟩ | ⟨fault, he⟩
        · cases hpaths
        · cases he
          exact Or.inr ⟨fault, rfl⟩
  · obtain ⟨rfl, he⟩ := Work.ends_look_iff.mp hlook
    refine Or.inl ⟨e, ?_, rfl, rfl⟩
    rw [← he]
    rfl

/-- The templates of a project have their turns, all of them or those before the first that
captures nothing. -/
theorem ends_renderAll {templates : List Path} {res : Except RunError (List Path)}
    (h : Work.Ends (g.renderAll m c store templates) t after res) :
    (∃ turns last, Turns m c t store turns after last ∧ turns.map Turn.template = templates ∧
      ∃ files, res = .ok files) ∨
    (∃ turns last template later e, Turns m c t store turns after last ∧
      templates = turns.map Turn.template ++ template :: later ∧
      captured m c after last template = .error e ∧ res = .error e) ∨
    ∃ e, res = .error (.file e) := by
  induction templates generalizing t after store res with
  | nil =>
    obtain ⟨rfl, rfl⟩ := Work.ends_pure_iff.mp h
    exact Or.inl ⟨[], store, .none _ _, rfl, [], rfl⟩
  | cons template rest ih =>
    rcases Work.ends_bind_iff.mp h with ⟨mid, ⟨written, next⟩, hturn, h⟩ | ⟨e, hturn, rfl⟩
    · rcases ends_renderTemplate hturn with ⟨e, _, _, he⟩ | ⟨os, next', hos, happly, hres⟩ | ⟨e, he⟩
      · cases he
      · cases hres
        rcases Work.ends_bind_iff.mp h with ⟨made, more, hrest, h⟩ | ⟨e, hrest, rfl⟩
        · obtain ⟨rfl, rfl⟩ := Work.ends_pure_iff.mp h
          rcases ih hrest with ⟨turns, last, hturns, hmap, _⟩ | ⟨_, _, _, _, _, _, _, _, he⟩ |
            ⟨e, he⟩
          · refine Or.inl ⟨_, last, .turn hos happly hturns, ?_, _, rfl⟩
            rw [List.map_cons, hmap]
          · cases he
          · cases he
        · rcases ih hrest with ⟨_, _, _, _, _, he⟩ |
            ⟨turns, last, k, later, e, hturns, hmap, hstop, he⟩ | ⟨e, he⟩
          · cases he
          · cases he
            refine Or.inr (Or.inl ⟨_, last, k, later, _, .turn hos happly hturns, ?_, hstop, rfl⟩)
            rw [List.map_cons, hmap]
            rfl
          · cases he
            exact Or.inr (Or.inr ⟨e, rfl⟩)
      · cases he
    · rcases ends_renderTemplate hturn with ⟨e, hstop, rfl, he⟩ | ⟨_, _, _, _, he⟩ | ⟨e, he⟩
      · cases he
        exact Or.inr (Or.inl ⟨[], store, template, rest, e, .none _ _, rfl, hstop, rfl⟩)
      · cases he
      · cases he
        exact Or.inr (Or.inr ⟨e, rfl⟩)

/-- A build directory that a resolver keeps on request, at its place for temporary files. -/
def Keeps (r : Resolver) (place : List String) (k : Change) : Prop :=
  r.keepBuild = true ∧ ∃ n node, k = .kept place (Resolver.temporaryName n) node

/-- A generator whose resolver only makes changes of one kind, on a tree and on any other where the
directories of that tree are. -/
def Generator.Confined (g : Generator) (keeps : Change → Prop) (t : Tree) : Prop :=
  ∀ e mid, Tree.SameDirs t mid →
    ∃ kept, applyAll mid kept = some (g.resolve e mid).tree ∧ ∀ k ∈ kept, keeps k

theorem Generator.Confined.mono (h : g.Confined keeps t) (hs : Tree.SameDirs t mid) :
    g.Confined keeps mid := fun e after hafter => h e after (hs.trans hafter)

theorem Generator.Confined.imp {keeps' : Change → Prop} (h : g.Confined keeps t)
    (hk : ∀ k, keeps k → keeps' k) : g.Confined keeps' t := by
  intro e mid hmid
  obtain ⟨kept, happly, hkeeps⟩ := h e mid hmid
  exact ⟨kept, happly, fun k hmem => hk k (hkeeps k hmem)⟩

/-- A resolver that builds where temporary files go leaves a build directory at most. -/
theorem confined_resolve (hg : g.resolve = r.resolve) (hb : r.Builds b)
    (ht : t.locate r.temporary = .ok (.node place (.dir entries))) :
    g.Confined (Keeps r place) t := by
  intro e mid hmid
  obtain ⟨entries', hmid⟩ := hmid.locate ht
  rw [hg]
  rcases Resolver.ends_resolve hmid hb (Work.ends_self (r.resolve e) mid) with
    hsame | ⟨hkeep, n, node, hv, hmade⟩
  · exact ⟨[], by rw [hsame]; rfl, fun k hk => nomatch hk⟩
  · refine ⟨[.kept place (Resolver.temporaryName n) node], ?_, ?_⟩
    · rw [hmade]
      simp only [applyAll, Change.apply, if_pos hv, Option.bind_some]
    · intro k hk
      rw [List.mem_singleton.mp hk]
      exact ⟨hkeep, n, node, rfl⟩

/-- Preparing a project leaves what its resolver leaves. -/
theorem ends_prepare (hc : g.Confined keeps t) {e : Entry}
    {res : Except RunError (Configuration × Combined)} (h : Work.Ends (g.prepare e) t after res) :
    ∃ kept, applyAll t kept = some after ∧ ∀ k ∈ kept, keeps k := by
  have hselect : ∀ s, Work.Quiet (g.select s) := fun s t =>
    (ends_select_iff.mp (Work.ends_self (g.select s) t)).1
  have hmodel : ∀ s es, Work.Quiet (g.modelOf s es) := fun s es t =>
    (ends_modelOf_iff.mp (Work.ends_self (g.modelOf s es) t)).1
  have hresolve : Work.Leads (· = t) (g.resolve e) (· = (g.resolve e t).tree) := by
    rintro _ rfl
    rfl
  have hconfigure : Work.Leads (· = t) (g.configurationOf e) (· = (g.resolve e t).tree) := by
    unfold Generator.configurationOf
    refine hresolve.bind (fun found => ?_) fun _ h => h
    split
    · exact (Work.quiet_pure _).leads
    · exact ((Work.quiet_say _).bind fun _ => Work.quiet_pure _).leads
  have hprepare : Work.Leads (· = t) (g.prepare e) (· = (g.resolve e t).tree) :=
    hconfigure.bind (fun c => ((hselect _).bind fun es =>
      (hmodel _ _).bind fun m => Work.quiet_pure _).leads) fun _ h => h
  rw [hprepare.ends rfl h]
  exact hc e t (.refl t)

/-- A project that is selected alone and has no marked class is prepared with its own model. -/
theorem ends_prepare_alone (hg : g.resolve = r.resolve) (hx : r.sourceExclude = g.exclude)
    {e : Entry} {u : Project.Unit} (hu : (e.compile t g.exclude).result = .ok u)
    (hm : r.markedClasses u = []) (hs : selected g.workspace {} = [e]) :
    Work.Ends (g.prepare e) t t (.ok ({}, combinedModel {} [u])) := by
  have hconfigured : Work.Ends (g.configurationOf e) t t (.ok {}) := by
    unfold Generator.configurationOf
    rw [hg, Work.ends_bind_ok (Resolver.ends_resolve_unmarked (by rw [hx, hu]) hm)]
    exact Work.ends_pure_iff.mpr ⟨rfl, rfl⟩
  have hone : ∀ e' ∈ [e], ∃ u, (e'.compile t g.exclude).result = .ok u := by
    intro e' he
    rw [List.mem_singleton.mp he]
    exact ⟨u, hu⟩
  obtain ⟨units, hunits, hall⟩ := compileAll_ok hone
  obtain rfl : units = [u] := by
    obtain ⟨u', rest, hu', hrest, rfl⟩ := List.forall₂_cons_left_iff.mp hall
    cases hrest
    cases hu.symm.trans hu'
    rfl
  have hmodel : Work.Ends (g.modelOf {} [e]) t t (.ok (combinedModel {} [u])) := by
    rw [ends_modelOf_iff, hunits]
    exact ⟨rfl, rfl⟩
  unfold Generator.prepare
  rw [Work.ends_bind_ok hconfigured, Work.ends_bind_ok (ends_select_iff.mpr ⟨rfl, rfl⟩)]
  dsimp only
  rw [hs, Work.ends_bind_ok hmodel]
  exact Work.ends_pure_iff.mpr ⟨rfl, rfl⟩

theorem applyAll_turns {turns : List Turn} (h : Turns m c t store turns after last) :
    applyAll t (turns.flatMap Turn.changes) = some after := by
  induction h with
  | none => rfl
  | turn _ happly _ ih =>
    rw [List.flatMap_cons, applyAll_append, happly]
    exact ih

/-- The work on projects goes as a run does, unless a file cannot be accessed. -/
theorem Generator.Confined.run (hc : g.Confined keeps t) {ps : List Templated}
    {res : Except RunError Summary} (h : Work.Ends (g.generateProjects ps) t after res) :
    (∃ turns changes, Run g keeps t ps turns changes after (res.map fun _ => ())) ∨
      ∃ e, res = .error (.file e) := by
  induction ps generalizing t after res with
  | nil =>
    obtain ⟨rfl, rfl⟩ := Work.ends_pure_iff.mp h
    exact Or.inl ⟨[], [], .done _⟩
  | cons p rest ih =>
    rcases Work.ends_bind_iff.mp h with ⟨mid, files, hp, h⟩ | ⟨e, hp, rfl⟩
    · rcases ends_generateProject hp with ⟨ready, c, m, hready, hall⟩ | ⟨e, _, he⟩
      · obtain ⟨kept, hkept, hkeeps⟩ := ends_prepare hc hready
        rcases ends_renderAll hall with ⟨turns, last, hturns, hmap, _⟩ |
          ⟨_, _, _, _, _, _, _, _, he⟩ | ⟨e, he⟩
        · -- The directories are where they were when the next project comes.
          have hdirs := (sameDirs_applyAll hkept).trans (sameDirs_applyAll (applyAll_turns hturns))
          rcases Work.ends_bind_iff.mp h with ⟨made, more, hrest, h⟩ | ⟨e, hrest, rfl⟩
          · obtain ⟨rfl, rfl⟩ := Work.ends_pure_iff.mp h
            rcases ih (hc.mono hdirs) hrest with ⟨others, changes, hrun⟩ | ⟨e, he⟩
            · exact Or.inl ⟨_, _, .project hready hkept hkeeps hturns hmap hrun⟩
            · cases he
          · rcases ih (hc.mono hdirs) hrest with ⟨others, changes, hrun⟩ | ⟨e', he⟩
            · exact Or.inl ⟨_, _, .project hready hkept hkeeps hturns hmap hrun⟩
            · cases he
              exact Or.inr ⟨e', rfl⟩
        · cases he
        · cases he
      · cases he
    · rcases ends_generateProject hp with ⟨ready, c, m, hready, hall⟩ | ⟨e', hready, he⟩
      · obtain ⟨kept, hkept, hkeeps⟩ := ends_prepare hc hready
        rcases ends_renderAll hall with ⟨_, _, _, _, _, he⟩ |
          ⟨turns, last, k, later, e', hturns, hmap, hstop, he⟩ | ⟨e', he⟩
        · cases he
        · cases he
          exact Or.inl ⟨_, _, .stopped hready hkept hkeeps hturns hmap hstop⟩
        · cases he
          exact Or.inr ⟨e', rfl⟩
      · cases he
        obtain ⟨kept, hkept, hkeeps⟩ := ends_prepare hc hready
        exact Or.inl ⟨_, _, .unprepared hready hkept hkeeps⟩

theorem ends_generateProjects (hg : g.resolve = r.resolve) (hb : r.Builds b) {ps : List Templated}
    (ht : t.locate r.temporary = .ok (.node place (.dir entries))) {res : Except RunError Summary}
    (h : Work.Ends (g.generateProjects ps) t after res) :
    (∃ turns changes, Run g (Keeps r place) t ps turns changes after (res.map fun _ => ())) ∨
      ∃ e, res = .error (.file e) := (confined_resolve hg hb ht).run h

/-- The projects of a run, in the order of the workspace, each with its templates in the order they
are found. -/
def Generator.projects (g : Generator) (t : Tree) : List Templated :=
  templated t g.options.templateExtension (fun _ => false) g.workspace.projects

theorem ends_generate_iff {res : Except RunError Summary} :
    Work.Ends g.generate t after res ↔
      Work.Ends (g.generateProjects (g.projects t)) t after res := by
  unfold Generator.generate
  rw [Work.ends_bind_ok (ends_progress_iff.mpr ⟨rfl, rfl⟩),
    Work.ends_bind_ok (Work.ends_tree_iff.mpr ⟨rfl, rfl⟩),
    Work.ends_bind_ok (Work.ends_sayAll_iff.mpr ⟨rfl, rfl⟩),
    Work.ends_bind_ok (ends_progress_iff.mpr ⟨rfl, rfl⟩)]
  exact Iff.rfl

end Stencil.Generation
