import Stencil.CommandLine.Command
import Stencil.Proofs.Generation.Run

/-!
How a call ends. Loading the target changes nothing; what is generated after it decides the exit,
and only work without an error has the exit of success.
-/
namespace Stencil.CommandLine
open Stencil.Files
open Stencil.Settings
open Stencil.Generation
open Stencil.Project

variable {s : Surroundings} {o : Options} {t after : Tree} {w : Workspace} {verbose : Bool}
  {seconds : Float} {work : Work RunError Summary} {e : RunError} {exit : Exit}

/-- What generates for a workspace that was loaded. -/
def Surroundings.generator (s : Surroundings) (o : Options) (w : Workspace) : Generator where
  workspace := w
  options := o
  exclude := o.excludes
  reports := o.verbose
  resolve := (s.resolver o).resolve

theorem ends_loadTarget_iff {r : Except RunError Workspace} :
    Work.Ends (loadTarget o) t after r ↔
      after = t ∧ r = (Project.load t o).2.mapError .load := by
  unfold loadTarget
  rw [Work.ends_bind_ok (Work.ends_tree_iff.mpr ⟨rfl, rfl⟩)]
  dsimp only
  rw [Work.ends_bind_ok (ends_reportIf_iff.mpr ⟨rfl, rfl⟩), Work.ends_ofExcept_iff]

/-- Where the target can be loaded, generating for it is all that happens to the tree. -/
theorem ends_generate_of_load (h : (Project.load t o).2 = .ok w) {r : Except RunError Summary} :
    Work.Ends (generate s o) t after r ↔ Work.Ends (s.generator o w).generate t after r := by
  have hload : Work.Ends (loadTarget o) t t (.ok w) := by
    rw [ends_loadTarget_iff, h]
    exact ⟨rfl, rfl⟩
  unfold generate
  rw [Work.ends_bind_ok hload]
  rfl

theorem ends_forM_print_iff {ps : List Printed} {r : Except Empty PUnit} :
    Work.Ends (ps.forM Work.print) t after r ↔ after = t ∧ r = .ok () := by
  induction ps with
  | nil => exact Work.ends_pure_iff
  | cons p rest ih =>
    rw [List.forM, Work.ends_bind_ok (Work.ends_print_iff.mpr ⟨rfl, rfl⟩)]
    exact ih

theorem failed_ne_done (verbose : Bool) (e : RunError) : (failed verbose e).1 ≠ .done := by
  unfold failed
  dsimp only
  split
  · exact nofun
  · split <;> exact nofun
  · split <;> exact nofun
  · exact nofun

/-- An error of the work or of its report decides the exit. -/
theorem ends_settle_of_reported (h : Work.Ends (reported verbose seconds work) t after (.error e)) :
    Work.Ends (settle verbose seconds work) t after (.ok (failed verbose e).1) := by
  unfold settle
  rw [Work.ends_bind_ok (Work.ends_attempt_iff.mpr ⟨_, h, rfl⟩)]
  dsimp only
  rw [Work.ends_bind_ok (ends_forM_print_iff.mpr ⟨rfl, rfl⟩)]
  exact Work.ends_pure_iff.mpr ⟨rfl, rfl⟩

/-- Work that ends with an error has the exit of that error. -/
theorem ends_settle_error (h : Work.Ends work t after (.error e)) :
    Work.Ends (settle verbose seconds work) t after (.ok (failed verbose e).1) := by
  refine ends_settle_of_reported ?_
  unfold reported
  exact (Work.ends_bind_error h).mpr ⟨rfl, rfl⟩

/-- A project that is to blame for an error gives the exit of compilations. -/
theorem ends_settle_compile {fault : CompileError}
    (h : Work.Ends work t after (.error (.compile fault))) (hf : fault.isCompilation = true) :
    Work.Ends (settle verbose seconds work) t after (.ok .compilation) := by
  have hexit : (failed verbose (.compile fault)).1 = .compilation := by
    simp only [failed, hf, if_true]
  rw [← hexit]
  exact ends_settle_error h

/-- Work that succeeds has the exit of success, unless a table cannot be printed. -/
theorem ends_settle_ok {summary : Summary} (h : Work.Ends work t after (.ok summary))
    (hreport : ∀ t, Work.Ends (summary.report verbose seconds) t t (.ok ())) :
    Work.Ends (settle verbose seconds work) t after (.ok .done) := by
  have hreported : Work.Ends (reported verbose seconds work) t after (.ok summary) := by
    unfold reported
    rw [Work.ends_bind_ok h, Work.ends_bind_ok (hreport _)]
    exact Work.ends_pure_iff.mpr ⟨rfl, rfl⟩
  unfold settle
  rw [Work.ends_bind_ok (Work.ends_attempt_iff.mpr ⟨_, hreported, rfl⟩)]
  exact Work.ends_pure_iff.mpr ⟨rfl, rfl⟩

/-- Only work that succeeds has the exit of success. -/
theorem ok_of_settle_done (h : (settle verbose seconds work t).result = .ok .done) :
    ∃ after summary, Work.Ends work t after (.ok summary) := by
  cases hr : (work t).result with
  | ok summary => exact ⟨_, summary, rfl, hr⟩
  | error e =>
    have hexit : Work.Ends (settle verbose seconds work) t _ _ := ends_settle_error ⟨rfl, hr⟩
    exact absurd (Except.ok.inj (hexit.result.symm.trans h)) (failed_ne_done verbose e)

end Stencil.CommandLine
