import Stencil.Proofs.Generation.Account

/-!
Runs that are carried out. Where templates have their turns, the work of a generator does what the
turns say; and since it does so in one way only, there is one run of turns on a tree.
-/
namespace Stencil.Generation
open Stencil.Files
open Stencil.Project
open Stencil.Model

variable {g : Generator} {m : Combined} {c : Configuration} {t mid after after' : Tree}
  {store last last' next : Template.Store} {template : Path} {o : Template.Output}
  {os : List Template.Output} {turns turns' : List Turn} {ps : List Templated}
  {changes changes' : List Change} {keeps keeps' : Change → Prop}

theorem ends_fileChange {f : Tree → Except FileError Tree} (h : f t = .ok after) :
    Work.Ends (Work.change fun t => (f t).mapError .file : Work RunError PUnit) t after (.ok ()) :=
  Work.ends_change_iff.mpr (.inl ⟨by rw [h]; rfl, rfl⟩)

theorem ends_writeOutput_ok (h : putOutput t template o = .ok after) :
    Work.Ends (g.writeOutput template o) t after (.ok (outputPath template o)) := by
  obtain ⟨there, hthere, h⟩ := bind_eq_ok h
  have hlook : Work.Ends (Work.look fun t => (t.exists (outputPath template o).parent).mapError
      .file : Work RunError Bool) t t (.ok there) :=
    Work.ends_look_iff.mpr ⟨rfl, by rw [hthere]; rfl⟩
  unfold Generator.writeOutput
  rw [Work.ends_bind_ok (ends_progress_iff.mpr ⟨rfl, rfl⟩)]
  refine (Work.ends_bind_ok hlook).mpr ?_
  cases there with
  | true =>
    exact (Work.ends_bind_ok (ends_fileChange h)).mpr (Work.ends_pure_iff.mpr ⟨rfl, rfl⟩)
  | false =>
    obtain ⟨above, habove, hwrite⟩ := bind_eq_ok h
    simp only [Bool.not_false, if_true]
    rw [Work.ends_bind_ok (ends_progress_iff.mpr ⟨rfl, rfl⟩)]
    refine (Work.ends_bind_ok (ends_fileChange habove)).mpr ?_
    exact (Work.ends_bind_ok (ends_fileChange hwrite)).mpr (Work.ends_pure_iff.mpr ⟨rfl, rfl⟩)

theorem ends_writeOutputs_ok (h : applyAll t (Turn.changes ⟨template, os⟩) = some after) :
    Work.Ends (g.writeOutputs template os) t after (.ok (os.map (outputPath template))) := by
  induction os generalizing t with
  | nil =>
    cases h
    exact Work.ends_pure_iff.mpr ⟨rfl, rfl⟩
  | cons o rest ih =>
    obtain ⟨mid, hput, hrest⟩ := Option.bind_eq_some_iff.mp h
    unfold Generator.writeOutputs
    rw [Work.ends_bind_ok (ends_writeOutput_ok (putOutput_of_apply hput)),
      Work.ends_bind_ok (ih hrest)]
    exact Work.ends_pure_iff.mpr ⟨rfl, rfl⟩

theorem ends_renderTemplate_ok (hc : captured m c t store template = .ok (os, next))
    (h : applyAll t (Turn.changes ⟨template, os⟩) = some after) :
    Work.Ends (g.renderTemplate m c store template) t after
      (.ok (os.map (outputPath template), next)) := by
  obtain ⟨source, hsource, hc⟩ := bind_eq_ok hc
  unfold Generator.renderTemplate
  rw [Work.ends_bind_ok (ends_progress_iff.mpr ⟨rfl, rfl⟩),
    Work.ends_bind_ok (Work.ends_look_iff.mpr ⟨rfl, hsource.symm⟩),
    Work.ends_bind_ok (Work.ends_tree_iff.mpr ⟨rfl, rfl⟩)]
  generalize Template.renderOn ⟨[], c.functions, some template, t⟩ store source m = rendered at hc ⊢
  obtain ⟨rendered, store'⟩ := rendered
  dsimp only at hc ⊢
  split at hc
  · cases hc
  · rename_i herrors
    cases hc
    rw [if_neg herrors, Work.ends_bind_ok (ends_writeOutputs_ok h)]
    exact Work.ends_pure_iff.mpr ⟨rfl, rfl⟩

/-- The paths that a turn writes, in order. -/
def Turn.files (turn : Turn) : List Path := turn.outputs.map (outputPath turn.template)

/-- What a run reports that gave the templates of projects their turns. -/
def summaryOf (ps : List Templated) (turns : List Turn) : Summary where
  projects := ps.map fun p => p.entry.name
  templates := turns.length
  files := turns.flatMap Turn.files

theorem Turns.ends (h : Turns m c t store turns after last) :
    Work.Ends (g.renderAll m c store (turns.map Turn.template)) t after
      (.ok (turns.flatMap Turn.files)) := by
  induction h with
  | none => exact Work.ends_pure_iff.mpr ⟨rfl, rfl⟩
  | turn hc happly _ ih =>
    rw [List.map_cons]
    unfold Generator.renderAll
    rw [Work.ends_bind_ok (ends_renderTemplate_ok hc happly)]
    exact (Work.ends_bind_ok ih).mpr (Work.ends_pure_iff.mpr ⟨rfl, rfl⟩)

/-- What is prepared is followed by the templates. -/
theorem ends_generateProject_of_prepare {p : Templated} {res : Except RunError (List Path)}
    (h : Work.Ends (g.prepare p.entry) t mid (.ok (c, m))) :
    Work.Ends (g.generateProject p) t after res ↔
      Work.Ends (g.renderAll m c (.ofModel m) p.templates) mid after res := by
  unfold Generator.prepare at h
  unfold Generator.generateProject
  rcases Work.ends_bind_iff.mp h with ⟨configured, c', hc, h⟩ | ⟨_, _, hx⟩
  · rw [Work.ends_bind_ok hc]
    rcases Work.ends_bind_iff.mp h with ⟨chosen, es, hes, h⟩ | ⟨_, _, hx⟩
    · rw [Work.ends_bind_ok hes]
      rcases Work.ends_bind_iff.mp h with ⟨modelled, m', hm, h⟩ | ⟨_, _, hx⟩
      · rw [Work.ends_bind_ok hm]
        obtain ⟨rfl, hready⟩ := Work.ends_pure_iff.mp h
        cases hready
        rfl
      · cases hx
    · cases hx
  · cases hx

/-- A run that succeeds is what the work does. -/
theorem Run.ends (h : Run g keeps t ps turns changes after (.ok ())) :
    Work.Ends (g.generateProjects ps) t after (.ok (summaryOf ps turns)) := by
  generalize hres : (Except.ok () : Except RunError PUnit) = res at h
  induction h with
  | done => exact Work.ends_pure_iff.mpr ⟨rfl, rfl⟩
  | @project _ _ _ _ p rest _ _ _ turns _ more _ _ hready _ _ hturns hmap _ ih =>
    have hfiles := hturns.ends (g := g)
    rw [hmap, ← ends_generateProject_of_prepare hready] at hfiles
    have hsummary : summaryOf (p :: rest) (turns ++ more) =
        ⟨p.entry.name :: (summaryOf rest more).projects,
          p.templates.length + (summaryOf rest more).templates,
          turns.flatMap Turn.files ++ (summaryOf rest more).files⟩ := by
      simp only [summaryOf, ← hmap, List.map_cons, List.length_append, List.length_map,
        List.flatMap_append]
    rw [hsummary]
    unfold Generator.generateProjects
    rw [Work.ends_bind_ok hfiles, Work.ends_bind_ok (ih hres)]
    exact Work.ends_pure_iff.mpr ⟨rfl, rfl⟩
  | stopped => cases hres
  | unprepared => cases hres

/-! There is one run. -/

theorem Turns.unique (h : Turns m c t store turns after last)
    (h' : Turns m c t store turns' after' last')
    (hsame : turns'.map Turn.template = turns.map Turn.template) :
    turns' = turns ∧ after' = after ∧ last' = last := by
  induction h generalizing turns' with
  | none =>
    cases List.map_eq_nil_iff.mp hsame
    cases h'
    exact ⟨rfl, rfl, rfl⟩
  | turn hc happly _ ih =>
    cases h' with
    | none => cases hsame
    | turn hc' happly' hrest' =>
      obtain ⟨hfirst, hrest⟩ := List.cons_eq_cons.mp hsame
      cases hfirst
      cases hc.symm.trans hc'
      cases happly.symm.trans happly'
      obtain ⟨rfl, rfl, rfl⟩ := ih hrest' hrest
      exact ⟨rfl, rfl, rfl⟩

/-- Where a run succeeds, each run that does so has the same turns and leaves the same tree. -/
theorem Run.unique (h : Run g keeps t ps turns changes after (.ok ()))
    (h' : Run g keeps' t ps turns' changes' after' (.ok ())) : turns' = turns ∧ after' = after := by
  generalize hres : (Except.ok () : Except RunError PUnit) = res at h
  induction h generalizing turns' changes' with
  | done =>
    cases h'
    exact ⟨rfl, rfl⟩
  | project hready _ _ hturns hmap _ ih =>
    cases h' with
    | project hready' _ _ hturns' hmap' hrest' =>
      obtain ⟨rfl, hsame⟩ := hready'.unique hready
      cases hsame
      obtain ⟨rfl, rfl, _⟩ := hturns.unique hturns' (hmap'.trans hmap.symm)
      obtain ⟨rfl, rfl⟩ := ih hrest' hres
      exact ⟨rfl, rfl⟩
  | stopped => cases hres
  | unprepared => cases hres

theorem Run.imp {res : Except RunError PUnit} (hk : ∀ k, keeps k → keeps' k)
    (h : Run g keeps t ps turns changes after res) :
    Run g keeps' t ps turns changes after res := by
  induction h with
  | done t => exact .done t
  | project hready hkept hkeeps hturns hmap _ ih =>
    exact .project hready hkept (fun k h => hk k (hkeeps k h)) hturns hmap ih
  | stopped hready hkept hkeeps hturns htemplates hstop =>
    exact .stopped hready hkept (fun k h => hk k (hkeeps k h)) hturns htemplates hstop
  | unprepared hready hkept hkeeps =>
    exact .unprepared hready hkept fun k h => hk k (hkeeps k h)

end Stencil.Generation
