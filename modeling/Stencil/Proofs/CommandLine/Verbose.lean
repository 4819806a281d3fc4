import Stencil.Proofs.CommandLine.Exit
import Stencil.Proofs.Generation.Report
import Stencil.Proofs.Work

/-!
What asking to be verbose changes. Two calls whose options differ in nothing else do the same work:
they leave the same tree, and the verbose one prints more. Only the table at the end of a verbose
run can make a difference to the exit: it fails when the names of the projects cannot be shown.
-/
namespace Stencil
open Stencil.Files
open Stencil.Project
open Stencil.Work (Quieter quieter_sayAll)

/-- The options with another choice to be verbose. -/
def Settings.Options.saying (o : Settings.Options) (verbose : Bool) : Settings.Options :=
  { o with verbose := verbose }

/-- A resolver that prints more or less. -/
def Resolver.saying (r : Resolver) (verbose : Bool) : Resolver :=
  { r with verbose := verbose, reports := verbose }

/-! Resolving a configuration. -/

namespace Resolver

variable {r : Resolver} {verbose : Bool} {ε : Type}

theorem saying_verbose : (r.saying verbose).verbose = verbose := rfl
theorem saying_reports : (r.saying verbose).reports = verbose := rfl
theorem saying_sourceExclude : (r.saying verbose).sourceExclude = r.sourceExclude := rfl
theorem saying_build : (r.saying verbose).build = r.build := rfl
theorem saying_markedClasses : (r.saying verbose).markedClasses = r.markedClasses := rfl
theorem saying_candidateFiles : (r.saying verbose).candidateFiles = r.candidateFiles := rfl

theorem quieter_progress (text text' : String) :
    Quieter ((r.saying false).progress text : Work ε PUnit) ((r.saying true).progress text') :=
  Work.speech_say _

theorem quieter_loadBuilt (directory descriptor : Path) :
    Quieter ((r.saying false).loadBuilt directory descriptor)
      ((r.saying true).loadBuilt directory descriptor) := by
  unfold loadBuilt
  refine (Quieter.refl _).bind fun s => (Quieter.refl _).bind fun there => ?_
  split
  · exact .refl _
  · exact (quieter_progress _ _).bind fun _ => .refl _

theorem quieter_buildIn (directory source : Path) :
    Quieter ((r.saying false).buildIn directory source)
      ((r.saying true).buildIn directory source) := by
  unfold buildIn
  refine (Quieter.refl _).bind fun descriptor => ?_
  simp only [saying_verbose, saying_build, Bool.false_eq_true, if_false, if_true]
  refine ((Quieter.bind (quieter_progress _ _) fun _ => ?_).behind (Work.speech_say _)).behind
    (Work.speech_say _)
  refine (Quieter.refl _).bind fun result => ?_
  split
  · exact quieter_loadBuilt _ _
  · exact .refl _

theorem quieter_buildAndLoad (source : Path) :
    Quieter ((r.saying false).buildAndLoad source) ((r.saying true).buildAndLoad source) := by
  unfold buildAndLoad
  exact (Quieter.refl _).bind fun directory => (quieter_buildIn directory source).ending _

theorem quieter_configure (e : Entry) (file : Path) (names : List String) :
    Quieter ((r.saying false).configure e file names) ((r.saying true).configure e file names) := by
  unfold configure
  simp only [saying_candidateFiles]
  refine (Quieter.refl _).bind fun t => ?_
  split
  · exact .refl _
  · refine (Quieter.refl _).bind fun _ => (Quieter.refl _).bind fun there => ?_
    split
    · exact .refl _
    · exact (quieter_buildAndLoad _).attempt.bind fun _ => .refl _

/-- A resolver that is asked to be verbose resolves the same and prints more. -/
theorem quieter_resolve (e : Entry) :
    Quieter ((r.saying false).resolve e) ((r.saying true).resolve e) := by
  unfold resolve
  simp only [saying_reports, saying_sourceExclude, saying_markedClasses, Bool.false_eq_true,
    if_false, if_true]
  refine (quieter_progress _ _).bind fun _ => (Quieter.refl _).bind fun t => ?_
  refine Quieter.behind ?_ (Work.speech_sayAll _)
  split
  · exact .refl _
  · refine (quieter_progress _ _).bind fun _ => ?_
    split
    · exact (quieter_progress _ _).bind fun _ => .refl _
    · split
      · exact (Quieter.refl _).bind fun _ => quieter_configure _ _ _
      · exact quieter_configure _ _ _

end Resolver

/-! Loading and generating. -/

namespace CommandLine
open Stencil.Console (Shown)
open Stencil.Generation

variable {s : Surroundings} {o : Settings.Options} {w : Workspace} {t after : Tree}

/-- The generator of a call whose options ask to be verbose or not. -/
def generatorSaying (s : Surroundings) (o : Settings.Options) (w : Workspace) (verbose : Bool) :
    Generator := s.generator (o.saying verbose) w

theorem quieter_progressIf (text text' : String) :
    Quieter (progressIf false text) (progressIf true text') := Work.speech_say _

theorem quieter_reportIf (lines lines' : List String) :
    Quieter (reportIf false lines) (reportIf true lines') := Work.speech_sayAll _

theorem quieter_progress (text text' : String) :
    Quieter ((generatorSaying s o w false).progress text)
      ((generatorSaying s o w true).progress text') := quieter_progressIf _ _

theorem quieter_loadTarget :
    Quieter (loadTarget (o.saying false)) (loadTarget (o.saying true)) := by
  unfold loadTarget
  exact (Quieter.refl _).bind fun t => (quieter_reportIf _ _).bind fun _ => .refl _

theorem quieter_configurationOf (e : Entry) :
    Quieter ((generatorSaying s o w false).configurationOf e)
      ((generatorSaying s o w true).configurationOf e) := by
  unfold Generator.configurationOf
  exact (Resolver.quieter_resolve (r := s.resolver o) e).bind fun _ => .refl _

theorem quieter_modelOf (settings : Settings.Resolved) (es : List Entry) :
    Quieter ((generatorSaying s o w false).modelOf settings es)
      ((generatorSaying s o w true).modelOf settings es) := by
  unfold Generator.modelOf
  exact (quieter_progress _ _).bind fun _ => (Quieter.refl _).bind fun _ =>
    (quieter_reportIf _ _).bind fun _ => .refl _

theorem quieter_writeOutput (template : Path) (output : Template.Output) :
    Quieter ((generatorSaying s o w false).writeOutput template output)
      ((generatorSaying s o w true).writeOutput template output) := by
  unfold Generator.writeOutput
  refine (quieter_progress _ _).bind fun _ => (Quieter.refl _).bind fun there => ?_
  split
  · exact (quieter_progress _ _).bind fun _ => .refl _
  · exact .refl _

theorem quieter_writeOutputs (template : Path) (outputs : List Template.Output) :
    Quieter ((generatorSaying s o w false).writeOutputs template outputs)
      ((generatorSaying s o w true).writeOutputs template outputs) := by
  induction outputs with
  | nil => exact .refl _
  | cons output rest ih =>
    exact (quieter_writeOutput _ _).bind fun _ => ih.bind fun _ => .refl _

theorem quieter_renderTemplate (m : Model.Combined) (c : Configuration) (store : Template.Store)
    (template : Path) : Quieter ((generatorSaying s o w false).renderTemplate m c store template)
      ((generatorSaying s o w true).renderTemplate m c store template) := by
  unfold Generator.renderTemplate
  refine (quieter_progress _ _).bind fun _ => (Quieter.refl _).bind fun source =>
    (Quieter.refl _).bind fun t => ?_
  dsimp only
  split
  · exact .refl _
  · exact (quieter_writeOutputs _ _).bind fun _ => .refl _

theorem quieter_renderAll (m : Model.Combined) (c : Configuration) (store : Template.Store)
    (templates : List Path) :
    Quieter ((generatorSaying s o w false).renderAll m c store templates)
      ((generatorSaying s o w true).renderAll m c store templates) := by
  induction templates generalizing store with
  | nil => exact .refl _
  | cons template rest ih =>
    exact (quieter_renderTemplate _ _ _ _).bind fun _ => (ih _).bind fun _ => .refl _

theorem quieter_generateProject (p : Templated) :
    Quieter ((generatorSaying s o w false).generateProject p)
      ((generatorSaying s o w true).generateProject p) := by
  unfold Generator.generateProject
  exact (quieter_configurationOf _).bind fun _ => (Quieter.refl _).bind fun _ =>
    (quieter_modelOf _ _).bind fun _ => quieter_renderAll _ _ _ _

theorem quieter_generateProjects (ps : List Templated) :
    Quieter ((generatorSaying s o w false).generateProjects ps)
      ((generatorSaying s o w true).generateProjects ps) := by
  induction ps with
  | nil => exact .refl _
  | cons p rest ih =>
    exact (quieter_generateProject _).bind fun _ => ih.bind fun _ => .refl _

theorem templateReport_sublist (t : Tree) (extension : String) (exclude : String → Bool)
    (es : List Entry) :
    (templateReport t extension exclude false es).Sublist
      (templateReport t extension exclude true es) := by
  unfold templateReport
  induction es with
  | nil => exact List.Sublist.refl _
  | cons e rest ih =>
    rw [List.flatMap_cons, List.flatMap_cons]
    refine List.Sublist.append ?_ ih
    cases e.objection? with
    | some text => exact List.Sublist.refl _
    | none => exact List.nil_sublist _

theorem quieter_generator : Quieter (generatorSaying s o w false).generate
    (generatorSaying s o w true).generate := by
  unfold Generator.generate
  exact (quieter_progress _ _).bind fun _ => (Quieter.refl _).bind fun t =>
    (Work.quieter_sayAll (templateReport_sublist _ _ _ _)).bind fun _ =>
      (quieter_progress _ _).bind fun _ => quieter_generateProjects _

/-- A verbose call loads and generates the same as a quiet one, and prints more. -/
theorem quieter_generate :
    Quieter (generate s (o.saying false)) (generate s (o.saying true)) := by
  unfold generate
  exact quieter_loadTarget.bind fun _ => quieter_generator

/-! The exit. -/

theorem printed_forM_print (ps : List Printed) (t : Tree) :
    ((ps.forM Work.print : Work Empty PUnit) t).printed = ps := by
  induction ps with
  | nil => rfl
  | cons p rest ih =>
    rw [List.forM, Work.printed_bind]
    exact congrArg (p :: ·) ih

theorem printed_settle (verbose : Bool) (seconds : Float) (work : Work RunError Summary)
    (t : Tree) :
    (settle verbose seconds work t).printed = (reported verbose seconds work t).printed ++
      match (reported verbose seconds work t).result with
      | .ok _ => []
      | .error e => (failed verbose e).2 := by
  unfold settle
  rw [Work.printed_attempt_bind]
  congr 1
  cases (reported verbose seconds work t).result with
  | ok => rfl
  | error e =>
    dsimp only
    rw [Work.printed_bind, printed_forM_print, (ends_forM_print_iff.mpr ⟨rfl, rfl⟩).result]
    exact List.append_nil _

/-- What is said about an error is said in a verbose run as well. -/
theorem failed_sublist (e : RunError) : (failed false e).2.Sublist (failed true e).2 := by
  unfold failed
  dsimp only
  have hunexpected : ∀ m : Printed, ([m] : List Printed).Sublist [m, tracePlace] := fun m =>
    List.sublist_append_left [m] [tracePlace]
  split
  · exact .refl _
  · split
    · exact .refl _
    · exact hunexpected _
  · split
    · exact .refl _
    · exact hunexpected _
  · exact hunexpected _

theorem failed_exit (e : RunError) : (failed true e).1 = (failed false e).1 := by
  unfold failed
  dsimp only
  split
  · rfl
  · split <;> rfl
  · split <;> rfl
  · rfl

variable {quiet loud : Work RunError Summary} {seconds seconds' : Float}

theorem printed_settle_error {work : Work RunError Summary} {verbose : Bool} {e : RunError}
    (h : (work t).result = .error e) : (settle verbose seconds work t).printed =
      (work t).printed ++ (failed verbose e).2 := by
  have hends : Work.Ends (reported verbose seconds work) t (work t).tree (.error e) := by
    unfold reported
    exact (Work.ends_bind_error ⟨rfl, h⟩).mpr ⟨rfl, rfl⟩
  rw [printed_settle, hends.result]
  unfold reported
  rw [Work.printed_bind, h]
  simp only [List.append_nil]

theorem printed_settle_quiet {work : Work RunError Summary} {summary : Summary}
    (h : (work t).result = .ok summary) :
    (settle false seconds work t).printed = (work t).printed := by
  have hends : Work.Ends (reported false seconds work) t (work t).tree (.ok summary) := by
    unfold reported
    rw [Work.ends_bind_ok ⟨rfl, h⟩]
    exact ⟨rfl, rfl⟩
  rw [printed_settle, hends.result]
  unfold reported
  rw [Work.printed_bind, h]
  exact (List.append_nil _).trans (List.append_nil _)

theorem prefix_printed_settle (verbose : Bool) (seconds : Float) (work : Work RunError Summary)
    (t : Tree) : (work t).printed <+: (settle verbose seconds work t).printed := by
  rw [printed_settle]
  refine List.IsPrefix.trans ?_ (List.prefix_append _ _)
  unfold reported
  rw [Work.printed_bind]
  exact List.prefix_append _ _

theorem printed_settle_sublist (h : Quieter quiet loud) :
    (settle false seconds quiet t).printed.Sublist (settle true seconds' loud t).printed := by
  cases hq : (quiet t).result with
  | ok summary =>
    rw [printed_settle_quiet hq]
    exact (h.printed t).trans (prefix_printed_settle _ _ _ _).sublist
  | error e =>
    rw [printed_settle_error hq, printed_settle_error ((h.result t).symm.trans hq)]
    exact (h.printed t).append (failed_sublist e)

/-- A verbose run whose table cannot be printed ends like one that meets an unexpected error. -/
theorem ends_settle_not_shown {work : Work RunError Summary} {summary : Summary}
    (h : Work.Ends work t after (.ok summary))
    (hnames : ¬Shown (Text.joinWith ", " summary.projects)) :
    Work.Ends (settle true seconds work) t after (.ok .fatal) := by
  obtain ⟨m, hm⟩ : ∃ m, Work.Ends (summary.report true seconds) after after (.error (.markup m)) :=
    ends_report_not_shown hnames
  refine ends_settle_of_reported (e := .markup m) ?_
  unfold reported
  rw [Work.ends_bind_ok h]
  exact (Work.ends_bind_error hm).mpr ⟨rfl, rfl⟩

/-- Where generating succeeds the quiet call does, and the verbose one if it can show the names. -/
theorem ends_calls_ok {summary : Summary} (seconds seconds' : Float)
    (h : Work.Ends (generate s (o.saying false)) t after (.ok summary)) :
    Work.Ends (carryOut s (o.saying false) seconds) t after (.ok .done) ∧
      (Shown (Text.joinWith ", " summary.projects) →
        Work.Ends (carryOut s (o.saying true) seconds') t after (.ok .done)) ∧
      (¬Shown (Text.joinWith ", " summary.projects) →
        Work.Ends (carryOut s (o.saying true) seconds') t after (.ok .fatal)) :=
  ⟨ends_settle_ok h fun _ => Work.ends_pure_iff.mpr ⟨rfl, rfl⟩,
    fun hnames => ends_settle_ok (quieter_generate.ends_iff.mp h) fun _ => ends_report_shown hnames,
    fun hnames => ends_settle_not_shown (quieter_generate.ends_iff.mp h) hnames⟩

/-- Where generating fails both calls have the exit of the error. -/
theorem ends_calls_error {e : RunError} (seconds seconds' : Float)
    (h : Work.Ends (generate s (o.saying false)) t after (.error e)) :
    Work.Ends (carryOut s (o.saying false) seconds) t after (.ok (failed false e).1) ∧
      Work.Ends (carryOut s (o.saying true) seconds') t after (.ok (failed false e).1) := by
  have hloud : Work.Ends (carryOut s (o.saying true) seconds') t after (.ok (failed true e).1) :=
    ends_settle_error (quieter_generate.ends_iff.mp h)
  rw [failed_exit] at hloud
  exact ⟨ends_settle_error h, hloud⟩

/-- Calls that differ in nothing but the wish to be verbose leave the same tree and have the same
result of generating, and the verbose one prints all that the quiet one prints, in order. They have
the same exit unless everything succeeds and the names of the projects cannot be shown in the table;
then the quiet call succeeds and the verbose one does not. -/
theorem verbose_only_prints (s : Surroundings) (o : Settings.Options) (t : Tree)
    (seconds seconds' : Float) :
    (carryOut s (o.saying true) seconds' t).tree = (carryOut s (o.saying false) seconds t).tree ∧
    (generate s (o.saying true) t).result = (generate s (o.saying false) t).result ∧
    (carryOut s (o.saying false) seconds t).printed.Sublist
      (carryOut s (o.saying true) seconds' t).printed ∧
    ((carryOut s (o.saying true) seconds' t).result =
        (carryOut s (o.saying false) seconds t).result ↔
      ∀ summary, (generate s (o.saying false) t).result = .ok summary →
        Shown (Text.joinWith ", " summary.projects)) ∧
    ∀ summary, (generate s (o.saying false) t).result = .ok summary →
      ¬Shown (Text.joinWith ", " summary.projects) →
      (carryOut s (o.saying false) seconds t).result = .ok .done ∧
        (carryOut s (o.saying true) seconds' t).result = .ok .fatal := by
  have hresult := (quieter_generate (s := s) (o := o)).result t
  have hprinted : (carryOut s (o.saying false) seconds t).printed.Sublist
      (carryOut s (o.saying true) seconds' t).printed := printed_settle_sublist quieter_generate
  have hends := Work.ends_self (generate s (o.saying false)) t
  cases hr : (generate s (o.saying false) t).result with
  | error e =>
    rw [hr] at hends hresult
    obtain ⟨hquiet, hloud⟩ := ends_calls_error seconds seconds' hends
    refine ⟨hloud.tree.trans hquiet.tree.symm, hresult.symm, hprinted, iff_of_true ?_ nofun, nofun⟩
    exact hloud.result.trans hquiet.result.symm
  | ok summary =>
    rw [hr] at hends hresult
    obtain ⟨hquiet, hshown, hnot⟩ := ends_calls_ok seconds seconds' hends
    by_cases hnames : Shown (Text.joinWith ", " summary.projects)
    · have hloud := hshown hnames
      refine ⟨hloud.tree.trans hquiet.tree.symm, hresult.symm, hprinted, iff_of_true ?_ ?_, ?_⟩
      · exact hloud.result.trans hquiet.result.symm
      · rintro _ ⟨⟩
        exact hnames
      · rintro _ ⟨⟩ h
        exact absurd hnames h
    · have hloud := hnot hnames
      refine ⟨hloud.tree.trans hquiet.tree.symm, hresult.symm, hprinted, iff_of_false ?_ ?_, ?_⟩
      · rw [hloud.result, hquiet.result]
        exact nofun
      · exact fun h => hnames (h summary rfl)
      · rintro _ ⟨⟩ _
        exact ⟨hquiet.result, hloud.result⟩

end CommandLine
end Stencil
