import Stencil.Console.Table
import Stencil.Generation.Run
import Stencil.Proofs.Result
import Stencil.Proofs.Work

/-!
Which tables can be printed. A text without an opening bracket is no styled text and can always be
shown; a table can be printed when its title and all its cells can be shown.
-/
namespace Stencil.Console
open Stencil.Text

/-- A text that can be shown as styled text. -/
def Shown (s : String) : Prop := ∃ cs, plainOf s = .ok cs

theorem shown_of_not_mem {s : String} (h : '[' ∉ s.toList) : Shown s := by
  unfold Shown plainOf
  rw [if_pos (by simpa using h)]
  exact ⟨_, rfl⟩

/-- A table under a title that can be shown can be printed when all its cells can be shown. -/
theorem table_ok_iff {title : String} {rows : List (String × String)} (ht : Shown title) :
    (∃ text, table title rows = .ok text) ↔ ∀ r ∈ rows, Shown r.1 ∧ Shown r.2 := by
  constructor
  · rintro ⟨text, h⟩ r hr
    unfold table at h
    obtain ⟨items, hitems, h⟩ := bind_eq_ok h
    obtain ⟨values, hvalues, h⟩ := bind_eq_ok h
    exact ⟨exists_mapM_eq_ok_iff.mp ⟨items, hitems⟩ r hr,
      exists_mapM_eq_ok_iff.mp ⟨values, hvalues⟩ r hr⟩
  · intro h
    obtain ⟨items, hitems⟩ := exists_mapM_eq_ok_iff.mpr fun r hr => (h r hr).1
    obtain ⟨values, hvalues⟩ := exists_mapM_eq_ok_iff.mpr fun r hr => (h r hr).2
    obtain ⟨head, hhead⟩ := ht
    unfold table
    rw [hitems, hvalues]
    simp only [bind, Except.bind, hhead]
    split
    · exact ⟨_, rfl⟩
    · exact ⟨_, rfl⟩

/-- A closing tag that closes nothing cannot be shown. -/
example : ¬Shown "[/x]" := by
  rintro ⟨cs, h⟩
  have hfails : (plainOf "[/x]").toOption = none := by decide +kernel
  rw [h] at hfails
  cases hfails

end Stencil.Console

/-!
The table of a verbose run. Counts and the duration hold no brackets, so that the names of the
projects alone decide whether the table can be printed.
-/
namespace Stencil
open Stencil.Text

theorem not_mem_joinWith {c : Char} {sep : String} {parts : List String} (hs : c ∉ sep.toList)
    (hp : ∀ p ∈ parts, c ∉ p.toList) : c ∉ (joinWith sep parts).toList := by
  rw [joinWith, String.toList_intercalate]
  induction parts with
  | nil => exact List.not_mem_nil
  | cons p rest ih =>
    have hfirst := hp p List.mem_cons_self
    have hrest := ih fun q hq => hp q (List.mem_cons_of_mem p hq)
    cases rest with
    | nil => simpa using hfirst
    | cons q more =>
      rw [List.map_cons, List.map_cons, List.intercalate_cons_cons, List.append_assoc,
        List.mem_append, List.mem_append, not_or, not_or]
      exact ⟨hfirst, hs, hrest⟩

theorem bracket_not_mem_natDigits (n : Nat) : '[' ∉ natDigits n := by
  intro h
  have hdigit := Nat.isDigit_of_mem_toDigits (by omega) (by omega) h
  revert hdigit
  decide

theorem bracket_not_mem_ofNat (n : Nat) : '[' ∉ (ofNat n).toList := by
  rw [ofNat, String.toList_ofList]
  exact bracket_not_mem_natDigits n

theorem bracket_not_mem_fixedRatio (num den : Nat) : '[' ∉ Decimal.fixedRatio 1 num den := by
  have hdigits : ∀ n, '[' ∉ padLeft 2 '0' (natDigits n) := by
    intro n
    rw [padLeft, List.mem_append, not_or]
    exact ⟨fun h => absurd (List.eq_of_mem_replicate h) (by decide), bracket_not_mem_natDigits n⟩
  rw [Decimal.fixedRatio]
  simp only [Nat.reduceAdd, Nat.reduceBEq, Bool.false_eq_true, if_false, List.mem_append,
    List.mem_cons, not_or]
  exact ⟨fun h => hdigits _ (List.mem_of_mem_take h), by decide,
    fun h => hdigits _ (List.mem_of_mem_drop h)⟩

theorem Duration.bracket_not_mem_text (c : Duration.Clock) : '[' ∉ c.text.toList := by
  have hcount : ∀ (n : Nat) (unit : String), '[' ∉ unit.toList →
      '[' ∉ (ofNat n ++ unit).toList := by
    intro n unit hu
    rw [String.toList_append, List.mem_append, not_or]
    exact ⟨bracket_not_mem_ofNat n, hu⟩
  unfold Duration.Clock.text
  refine not_mem_joinWith (by decide) fun p hp => ?_
  rcases List.mem_append.mp hp with hp | hp
  · rcases List.mem_append.mp hp with hp | hp
    · split at hp
      · rw [List.mem_singleton.mp hp]
        exact hcount _ _ (by decide)
      · cases hp
    · split at hp
      · rw [List.mem_singleton.mp hp]
        exact hcount _ _ (by decide)
      · cases hp
  · rw [List.mem_singleton.mp hp]
    split
    · exact hcount _ _ (by decide)
    · rw [String.toList_append, List.mem_append, not_or, String.toList_ofList]
      exact ⟨bracket_not_mem_fixedRatio _ _, by decide⟩

namespace Generation
open Stencil.Console (Shown shown_of_not_mem table_ok_iff)

theorem bracket_not_mem_durationText (seconds : Float) : '[' ∉ (durationText seconds).toList := by
  unfold durationText Duration.ofFloat?
  split
  · decide
  · cases Decimal.dyadic? seconds with
    | none => decide
    | some d => exact Duration.bracket_not_mem_text _

/-- The table can be printed when the names of the projects can be shown. -/
theorem Summary.table_ok_iff (s : Summary) (seconds : Float) :
    (∃ text, Console.table "Generation Summary" (s.rows seconds) = .ok text) ↔
      Shown (joinWith ", " s.projects) := by
  have hlabel : ∀ label ∈ ["Generation Summary", "Projects", "Templates", "Files written",
      "Duration"], Shown label := by
    intro label hl
    refine shown_of_not_mem ?_
    revert label
    decide
  have hnames : Shown (if joinWith ", " s.projects == "" then "(none)"
      else joinWith ", " s.projects) ↔ Shown (joinWith ", " s.projects) := by
    split
    · rename_i h
      rw [eq_of_beq h]
      exact iff_of_true (shown_of_not_mem (by decide)) (shown_of_not_mem (by decide))
    · exact Iff.rfl
  rw [Console.table_ok_iff (hlabel _ (by simp)), ← hnames]
  constructor
  · intro h
    exact (h _ (List.mem_cons_self ..)).2
  · intro h r hr
    simp only [Summary.rows, List.mem_cons, List.not_mem_nil, or_false] at hr
    rcases hr with rfl | rfl | rfl | rfl
    · exact ⟨hlabel _ (by simp), h⟩
    · exact ⟨hlabel _ (by simp), shown_of_not_mem (bracket_not_mem_ofNat _)⟩
    · exact ⟨hlabel _ (by simp), shown_of_not_mem (bracket_not_mem_ofNat _)⟩
    · exact ⟨hlabel _ (by simp), shown_of_not_mem (bracket_not_mem_durationText _)⟩

variable {s : Summary} {seconds : Float} {t : Files.Tree}

theorem ends_report_shown (h : Shown (joinWith ", " s.projects)) :
    Work.Ends (s.report true seconds) t t (.ok ()) := by
  obtain ⟨text, htext⟩ := (s.table_ok_iff seconds).mpr h
  unfold Summary.report
  rw [if_pos rfl, htext]
  exact Work.ends_print_iff.mpr ⟨rfl, rfl⟩

theorem ends_report_not_shown (h : ¬Shown (joinWith ", " s.projects)) :
    ∃ m, Work.Ends (s.report true seconds) t t (.error (.markup m)) := by
  unfold Summary.report
  rw [if_pos rfl]
  cases htable : Console.table "Generation Summary" (s.rows seconds) with
  | ok text => exact absurd ((s.table_ok_iff seconds).mp ⟨text, htable⟩) h
  | error m => exact ⟨m, Work.ends_fail_iff.mpr ⟨rfl, rfl⟩⟩

end Generation
end Stencil
