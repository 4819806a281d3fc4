import Stencil.Proofs.Files.Refill
import Stencil.Proofs.Generation.Changes

/-!
Outputs that are written twice. After they were written each of them is a file, so that writing them
again makes no directory and adds no name; and when the last output at a place has been written
again, everything is as it was.
-/
namespace Stencil.Generation
open Stencil.Files
open Stencil.Files.Tree (SameDirs Overlaid Unfound Refilled)

variable {t mid t' after : Tree} {template : Path} {o : Template.Output} {names : List String}
  {c : Change} {cs done later : List Change} {suffixes : List String} {W D : List String → Prop}

/-- Changes that are nothing but outputs. -/
def Outputs (cs : List Change) : Prop := ∀ c ∈ cs, c.isOutput = true

theorem Outputs.left (h : Outputs (done ++ later)) : Outputs done :=
  fun c hc => h c (List.mem_append_left _ hc)

theorem Outputs.right (h : Outputs (done ++ later)) : Outputs later :=
  fun c hc => h c (List.mem_append_right _ hc)

theorem exists_output (h : c.isOutput = true) : ∃ template o, c = .output template o := by
  cases c with
  | output template o => exact ⟨template, o, rfl⟩
  | kept => cases h

/-! What is written is there. -/

theorem locate_apply (h : Change.apply t (.output template o) = some t') :
    t'.locate (outputPath template o) = .ok (.node (t.resolve (outputPath template o)).names
      (.file (.ofText o.content))) := by
  obtain ⟨above, habove, hw⟩ := exists_of_putOutput (putOutput_of_apply h)
  rw [Tree.locate_write hw, Tree.resolve, habove.here, Tree.resolve]

theorem kindAt_apply_ne_none (h : c.apply t = some t') (hn : t.kindAt names ≠ none)
    (hc : c.isOutput = true) : t'.kindAt names ≠ none := by
  obtain ⟨template, o, rfl⟩ := exists_output hc
  by_cases hplace : names = (t.resolve (outputPath template o)).names
  · rw [hplace, kindAt_putOutput (putOutput_of_apply h)]
    exact Option.some_ne_none _
  · rcases kindAt_apply h hplace with hsame | ⟨hnone, _⟩
    · rwa [hsame]
    · exact absurd hnone hn

theorem kindAt_applyAll_ne_none (h : applyAll t cs = some after) (hout : Outputs cs)
    (hn : t.kindAt names ≠ none) : after.kindAt names ≠ none := by
  induction cs generalizing t with
  | nil =>
    cases h
    exact hn
  | cons c rest ih =>
    obtain ⟨mid, hc, hrest⟩ := Option.bind_eq_some_iff.mp h
    exact ih hrest (fun d hd => hout d (by simp [hd]))
      (kindAt_apply_ne_none hc hn (hout c (by simp)))

/-- A file stays a file, whatever is written. -/
theorem holds_apply (h : c.apply t = some t') (hc : c.isOutput = true) (hf : t.Holds names) :
    t'.Holds names := by
  obtain ⟨template, o, rfl⟩ := exists_output hc
  rw [Tree.holds_iff] at hf ⊢
  obtain ⟨d, hd⟩ := hf
  by_cases hplace : names = (t.resolve (outputPath template o)).names
  · exact ⟨_, hplace ▸ kindAt_putOutput (putOutput_of_apply h)⟩
  · rcases kindAt_apply h hplace with hsame | ⟨hnone, _⟩
    · exact ⟨d, by rw [hsame, hd]⟩
    · cases hnone.symm.trans hd

theorem holds_applyAll (h : applyAll t cs = some after) (hout : Outputs cs)
    (hf : t.Holds names) : after.Holds names := by
  induction cs generalizing t with
  | nil =>
    cases h
    exact hf
  | cons c rest ih =>
    obtain ⟨mid, hc, hrest⟩ := Option.bind_eq_some_iff.mp h
    exact ih hrest (fun d hd => hout d (by simp [hd])) (holds_apply hc (hout c (by simp)) hf)

theorem resolve_applyAll (h : applyAll t cs = some after) (p : Path) :
    after.resolve p = t.resolve p := Tree.resolve_congr (sameDirs_applyAll h).here p

/-- The path of an output leads to a file from then on. -/
theorem locate_applyAll (h : applyAll t cs = some after) (hout : Outputs cs)
    (hc : .output template o ∈ cs) : ∃ d, after.locate (outputPath template o) =
      .ok (.node (t.resolve (outputPath template o)).names (.file d)) := by
  induction cs generalizing t with
  | nil => cases hc
  | cons c rest ih =>
    obtain ⟨mid, hfirst, hrest⟩ := Option.bind_eq_some_iff.mp h
    have hout' : Outputs rest := fun d hd => hout d (by simp [hd])
    rcases List.mem_cons.mp hc with rfl | hc
    · have hmid := locate_apply hfirst
      obtain ⟨d, hd⟩ := holds_applyAll hrest hout' ⟨_, Tree.locate_eq_node hmid⟩
      exact ⟨d, (sameDirs_applyAll hrest).locate_file hmid hd⟩
    · obtain ⟨d, hd⟩ := ih hrest hout' hc
      rw [Tree.resolve, here_apply hfirst] at hd
      exact ⟨d, hd⟩

/-! Writing it again. -/

/-- What an output writes, and where. -/
def Change.written? (t : Tree) : Change → Option (List String × Data)
  | output template o => some ((t.resolve (outputPath template o)).names, .ofText o.content)
  | kept .. => none

theorem written?_output (t : Tree) (template : Path) (o : Template.Output) :
    Change.written? t (.output template o) =
      some ((t.resolve (outputPath template o)).names, .ofText o.content) := rfl

theorem written?_congr (h : t'.here = t.here) : Change.written? t' = Change.written? t := by
  funext c
  cases c with
  | output => simp only [Change.written?, Tree.resolve, h]
  | kept => rfl

theorem putOutput_refill {d : Data}
    (h : t.locate (outputPath template o) = .ok (.node names (.file d))) :
    putOutput t template o = .ok (t.refill names (.ofText o.content)) := by
  change (t.exists (outputPath template o).parent).bind _ = _
  rw [Tree.exists_parent h, Except.bind, if_pos rfl]
  exact Tree.write_refill h

/-- The paths of outputs that lead to files. -/
def Placed (t : Tree) (cs : List Change) : Prop :=
  ∀ template o, Change.output template o ∈ cs → ∃ d, t.locate (outputPath template o) =
    .ok (.node (t.resolve (outputPath template o)).names (.file d))

theorem Placed.holds (h : Placed t cs) : ∀ w ∈ cs.filterMap (Change.written? t), t.Holds w.1 := by
  intro w hw
  obtain ⟨c, hc, hw⟩ := List.mem_filterMap.mp hw
  cases c with
  | output template o =>
    obtain ⟨d, hd⟩ := h template o hc
    rw [written?_output, Option.some.injEq] at hw
    rw [← hw]
    exact ⟨d, Tree.locate_eq_node hd⟩
  | kept => cases hw

/-- Where all outputs are files, writing them changes what is in the files. -/
theorem applyAll_placed (hout : Outputs cs) (hp : Placed t cs) :
    applyAll t cs = some (t.refillAll (cs.filterMap (Change.written? t))) := by
  induction cs generalizing t with
  | nil => rfl
  | cons c rest ih =>
    obtain ⟨template, o, rfl⟩ := exists_output (hout c (by simp))
    obtain ⟨d, hd⟩ := hp template o (by simp)
    have hholds : t.Holds (t.resolve (outputPath template o)).names := ⟨d, Tree.locate_eq_node hd⟩
    have hfirst := Tree.refilled_refill hholds (.ofText o.content)
    have hrest : Placed (t.refill (t.resolve (outputPath template o)).names (.ofText o.content))
        rest := by
      intro template' o' hm
      obtain ⟨d', hd'⟩ := hp template' o' (by simp [hm])
      obtain ⟨e, he⟩ := hfirst.holds _ ⟨d', Tree.locate_eq_node hd'⟩
      rw [Tree.resolve_congr hfirst.here]
      exact ⟨e, hfirst.sameDirs.locate_file hd' he⟩
    have hput : Change.apply t (.output template o) =
        some (t.refill (t.resolve (outputPath template o)).names (.ofText o.content)) := by
      rw [Change.apply, putOutput_refill hd]
      rfl
    rw [applyAll, hput, Option.bind_some, ih (fun c hc => hout c (by simp [hc])) hrest,
      written?_congr hfirst.here, List.filterMap_cons_some (written?_output t template o),
      Tree.refillAll_cons]

theorem placed_applyAll (h : applyAll t cs = some after) (hout : Outputs cs) : Placed after cs := by
  intro template o hc
  rw [resolve_applyAll h]
  exact locate_applyAll h hout hc

/-- Outputs that are written once more change nothing. -/
theorem applyAll_again (h : applyAll t cs = some after) (hout : Outputs cs) :
    applyAll after cs = some after := by
  have hp := placed_applyAll h hout
  rw [applyAll_placed hout hp, Tree.refillAll_self hp.holds]
  intro before names d later hsplit hlast
  obtain ⟨front, back, rfl, -, hback⟩ := List.filterMap_eq_append_iff.mp hsplit
  obtain ⟨skipped, c, rest, rfl, -, hc, hrest⟩ := List.filterMap_eq_cons_iff.mp hback
  cases c with
  | kept => cases hc
  | output template o =>
    rw [written?_output, Option.some.injEq, Prod.mk.injEq] at hc
    obtain ⟨rfl, rfl⟩ := hc
    rw [resolve_applyAll h]
    rw [← List.append_assoc] at h
    refine kindAt_of_last h fun k hk htouch => ?_
    obtain ⟨template', o', rfl⟩ := exists_output (hout k (by simp [hk]))
    refine hlast ((after.resolve (outputPath template' o')).names, .ofText o'.content) ?_ ?_
    · rw [← hrest]
      exact List.mem_filterMap.mpr ⟨_, hk, written?_output after template' o'⟩
    · rw [resolve_applyAll h, resolve_applyAll h]
      exact htouch.symm

theorem refilled_applyAll (hout : Outputs cs) (hp : Placed t cs) (h : applyAll t cs = some t') :
    Refilled t t' := by
  rw [applyAll_placed hout hp] at h
  cases h
  exact Tree.refilled_refillAll hp.holds

/-! What a search does not find. -/

theorem overlaid_putOutput (hu : Unfound suffixes W) (hd : Unfound suffixes D)
    (h : putOutput t template o = .ok t') (hw : W (t.resolve (outputPath template o)).names)
    (hnew : ∀ names, t.kindAt names = none → t'.kindAt names = some .directory → D names) :
    Overlaid suffixes W D t t' := by
  obtain ⟨there, _, h⟩ := bind_eq_ok h
  split at h
  · exact Tree.overlaid_write hu h hw
  · obtain ⟨above, habove, hput⟩ := bind_eq_ok h
    have hgrown := Tree.makeDirs_grown habove
    refine (Tree.overlaid_makeDirs hd habove fun names hn hdir => hnew names hn ?_).trans
      (Tree.overlaid_write hu hput ?_)
    · rw [Tree.kindAt_write hput, if_neg, hdir]
      intro hplace
      exact Tree.kindAt_of_write hput (hplace ▸ hdir)
    · rw [Tree.resolve_congr hgrown.here]
      exact hw

theorem overlaid_applyAll (hu : Unfound suffixes W) (hd : Unfound suffixes D) (hout : Outputs cs)
    (h : applyAll t cs = some t') (hw : ∀ c ∈ cs, ∀ names, c.Touches t names → W names)
    (hnew : ∀ names, t.kindAt names = none → t'.kindAt names = some .directory → D names) :
    Overlaid suffixes W D t t' := by
  induction cs generalizing t with
  | nil =>
    cases h
    exact .refl _ _ _ _
  | cons c rest ih =>
    obtain ⟨mid, hc, hrest⟩ := Option.bind_eq_some_iff.mp h
    obtain ⟨template, o, rfl⟩ := exists_output (hout c (by simp))
    have hfirst : Overlaid suffixes W D t mid := by
      refine overlaid_putOutput hu hd (putOutput_of_apply hc) (hw (.output template o) (by simp) _ rfl) ?_
      intro names hn hdir
      exact hnew names hn ((sameDirs_applyAll hrest).dirs names hdir)
    refine hfirst.trans (ih (fun c hc => hout c (by simp [hc])) hrest ?_ ?_)
    · intro k hk names ht
      exact hw k (by simp [hk]) names ((touches_congr (here_apply hc)).mp ht)
    · intro names hn hdir
      refine hnew names ?_ hdir
      by_contra hsome
      exact kindAt_apply_ne_none hc hsome rfl hn

/-! Writing everything twice. -/

/-- The places that changes write. -/
def written (t : Tree) (cs : List Change) (names : List String) : Prop :=
  ∃ c ∈ cs, c.Touches t names

/-- The places of new directories. -/
def made (t after : Tree) (names : List String) : Prop :=
  t.kindAt names = none ∧ after.kindAt names = some .directory

/-- How far all changes were made, on a tree for the first time and on the tree that they leave for
the second time. -/
structure Stage (t after : Tree) (all done later : List Change) (A B : Tree) : Prop where
  outputs : Outputs all
  split : all = done ++ later
  early : applyAll t done = some A
  rest : applyAll A later = some after
  late : applyAll after done = some B

namespace Stage

variable {A A' B : Tree} {all : List Change}

theorem start (h : applyAll t all = some after) (hout : Outputs all) :
    Stage t after all [] all t after := ⟨hout, rfl, rfl, h, rfl⟩

theorem whole (h : Stage t after all done later A B) : applyAll t all = some after := by
  rw [h.split, applyAll_append, h.early]
  exact h.rest

/-- What can be changed for the first time can be changed for the second time. -/
theorem step (h : Stage t after all done (cs ++ later) A B) (hA : applyAll A cs = some A') :
    ∃ B', applyAll B cs = some B' ∧ Stage t after all (done ++ cs) later A' B' := by
  have hagain := applyAll_again h.whole h.outputs
  rw [h.split, applyAll_append, h.late, Option.bind_some, applyAll_append] at hagain
  obtain ⟨B', hB, _⟩ := Option.bind_eq_some_iff.mp hagain
  have hrest := h.rest
  rw [applyAll_append, hA] at hrest
  refine ⟨B', hB, h.outputs, by rw [h.split, List.append_assoc], ?_, hrest, ?_⟩
  · rw [applyAll_append, h.early]
    exact hA
  · rw [applyAll_append, h.late]
    exact hB

/-- In the end both trees are the same. -/
theorem finished (h : Stage t after all done [] A B) : A = after ∧ B = after := by
  have hagain := applyAll_again h.whole h.outputs
  have hdone := h.split
  rw [List.append_nil] at hdone
  rw [hdone, h.late] at hagain
  exact ⟨Option.some.inj h.rest, Option.some.inj hagain⟩

theorem refilled (h : Stage t after all done later A B) : Refilled after B := by
  have hplaced : Placed after all := placed_applyAll h.whole h.outputs
  rw [h.split] at hplaced
  exact refilled_applyAll (h.split ▸ h.outputs).left
    (fun template o hc => hplaced template o (List.mem_append_left _ hc)) h.late

variable (hu : Unfound suffixes (written t all)) (hd : Unfound suffixes (made t after))
include hu hd

theorem overlaid_before (h : Stage t after all done later A B) :
    Overlaid suffixes (written t all) (made t after) t A := by
  refine overlaid_applyAll hu hd (h.split ▸ h.outputs).left h.early ?_ fun names hn hdir => ?_
  · exact fun c hc names ht => ⟨c, by rw [h.split]; exact List.mem_append_left _ hc, ht⟩
  · exact ⟨hn, (sameDirs_applyAll h.rest).dirs names hdir⟩

theorem overlaid_rest (h : Stage t after all done later A B) :
    Overlaid suffixes (written t all) (made t after) A after := by
  refine overlaid_applyAll hu hd (h.split ▸ h.outputs).right h.rest ?_ fun names hn hdir => ?_
  · intro c hc names ht
    refine ⟨c, by rw [h.split]; exact List.mem_append_right _ hc, ?_⟩
    exact (touches_congr (sameDirs_applyAll h.early).here).mp ht
  · refine ⟨?_, hdir⟩
    by_contra hsome
    exact kindAt_applyAll_ne_none h.early (h.split ▸ h.outputs).left hsome hn

theorem overlaid_again (h : Stage t after all done later A B) :
    Overlaid suffixes (written t all) (made t after) after B := by
  refine overlaid_applyAll hu hd (h.split ▸ h.outputs).left h.late ?_ fun names hn hdir => ?_
  · intro c hc names ht
    refine ⟨c, by rw [h.split]; exact List.mem_append_left _ hc, ?_⟩
    exact (touches_congr (sameDirs_applyAll h.whole).here).mp ht
  · rw [h.refilled.dirs, hn] at hdir
    cases hdir

end Stage
end Stencil.Generation
