import Mathlib
import Stencil.Proofs.Naming.Runs

/-!
Slugs. A text is read as gaps and runs by turns. Replacing the gaps by marks leaves the runs with
one mark between two of them and at most marks at the ends, so what is left when the ends are
trimmed is the runs joined by the mark. White space that was trimmed before lay in the gaps at the
ends, where it is in no run. Where marks are single and at neither end, none of this changes
anything: the slugs are the texts that stay as they are.
-/
namespace Stencil.Text

/-- The maximal runs of a class of characters in a text, in order. What is not of the class is
passed over; a run goes on until something else comes or the text ends. -/
inductive MaximalRuns (p : Char → Bool) : List Char → List (List Char) → Prop
  | nil : MaximalRuns p [] []
  | skip {c : Char} {cs : List Char} {ws : List (List Char)} : p c = false →
      MaximalRuns p cs ws → MaximalRuns p (c :: cs) ws
  | run {w cs : List Char} {ws : List (List Char)} : w ≠ [] → (∀ c ∈ w, p c = true) →
      (∀ d ∈ cs.head?, p d = false) → MaximalRuns p cs ws → MaximalRuns p (w ++ cs) (w :: ws)

/-- Characters of a class with single marks between them and none at the ends. -/
structure Spaced (p : Char → Bool) (mark : Char) (cs : List Char) : Prop where
  mem : ∀ c ∈ cs, p c = true ∨ c = mark
  head : ∀ c ∈ cs.head?, p c = true
  last : ∀ c ∈ cs.getLast?, p c = true
  single : cs.IsChain fun c d => c = mark → p d = true

section MaximalRuns

variable {p : Char → Bool} {mark : Char} {cs : List Char} {ws : List (List Char)}

theorem MaximalRuns.eq_runsOutside (h : MaximalRuns p cs ws) :
    ws = runsOutside (fun c => !p c) cs := by
  induction h with
  | nil => rfl
  | skip hc _ ih => rw [runsOutside_sep (by simp [hc]), ih]
  | @run w cs ws hw hin hend _ ih =>
    have hrun : runsOutside (fun c => !p c) (w ++ cs) = w :: runsOutside (fun c => !p c) cs :=
      runsOutside_run hw (by simpa using hin) (by simpa using hend)
    rw [hrun, ih]

/-- Every text is read in turns of gaps and runs. -/
theorem maximalRuns_runsOutside (p : Char → Bool) :
    ∀ cs : List Char, MaximalRuns p cs (runsOutside (fun c => !p c) cs)
  | [] => .nil
  | c :: cs => by
    cases hc : p c with
    | false =>
      rw [runsOutside_sep (by simp [hc])]
      exact .skip hc (maximalRuns_runsOutside p cs)
    | true =>
      have hin : ∀ d ∈ c :: cs.takeWhile p, p d = true :=
        List.forall_mem_cons.mpr ⟨hc, fun d hd => List.all_eq_true.mp List.all_takeWhile d hd⟩
      have hend : ∀ d ∈ (cs.dropWhile p).head?, p d = false := by
        intro d hd
        have hnot := List.head?_dropWhile_not p cs
        rw [hd] at hnot
        exact hnot
      have hrest := maximalRuns_runsOutside p (cs.dropWhile p)
      have hrun := MaximalRuns.run (List.cons_ne_nil c _) hin hend hrest
      rw [List.cons_append, List.takeWhile_append_dropWhile] at hrun
      rwa [← hrun.eq_runsOutside]
termination_by cs => cs.length
decreasing_by
  · simp
  · have hle := (List.dropWhile_sublist p (l := cs)).length_le
    simp
    omega

theorem maximalRuns_iff : MaximalRuns p cs ws ↔ ws = runsOutside (fun c => !p c) cs := by
  constructor
  · exact MaximalRuns.eq_runsOutside
  · rintro rfl
    exact maximalRuns_runsOutside p cs

theorem MaximalRuns.of_mem (h : MaximalRuns p cs ws) :
    ∀ w ∈ ws, w ≠ [] ∧ ∀ c ∈ w, p c = true := by
  induction h with
  | nil =>
    intro w hw
    cases hw
  | skip _ _ ih => exact ih
  | run hw hin _ _ ih => exact List.forall_mem_cons.mpr ⟨⟨hw, hin⟩, ih⟩

/-- With marks for the gaps a text is its runs joined by the mark, behind a mark where it begins
with a gap and before one where it ends with a gap. -/
theorem MaximalRuns.markRuns_eq (h : MaximalRuns p cs ws) (mark : Char) :
    ∃ after : List Char, (∀ c ∈ after, c = mark) ∧ markRuns (fun c => !p c) mark cs =
      (if cs.head?.any fun c => !p c then [mark] else []) ++ [mark].intercalate ws ++ after := by
  induction h with
  | nil => exact ⟨[], by simp, rfl⟩
  | @skip c cs ws hc _ ih =>
    obtain ⟨after, hafter, hmarked⟩ := ih
    refine ⟨after, hafter, ?_⟩
    rw [markRuns_sep (by simp [hc]), hmarked]
    cases cs.head?.any fun c => !p c <;> simp [hc]
  | @run w cs ws hw hin hend h ih =>
    obtain ⟨after, hafter, hmarked⟩ := ih
    have hhead : ((w ++ cs).head?.any fun c => !p c) = false := by
      cases w with
      | nil => exact absurd rfl hw
      | cons c w => simp [hin c List.mem_cons_self]
    rw [markRuns_append (by simpa using hin), hmarked, hhead]
    cases cs with
    | nil =>
      obtain rfl : ws = [] := h.eq_runsOutside
      exact ⟨after, hafter, by simp⟩
    | cons d cs =>
      have hd : p d = false := hend d rfl
      -- the mark before the next run joins it to this one, or comes last
      cases ws with
      | nil => exact ⟨mark :: after, List.forall_mem_cons.mpr ⟨rfl, hafter⟩, by simp [hd]⟩
      | cons v vs => exact ⟨after, hafter, by simp [hd, List.intercalate_cons_cons]⟩

theorem spaced_run {w : List Char} (h : ∀ c ∈ w, p c = true) : Spaced p mark w where
  mem := fun c hc => Or.inl (h c hc)
  head := fun c hc => h c (List.mem_of_mem_head? hc)
  last := fun c hc => h c (List.mem_of_getLast? hc)
  single := by
    have hpairs : w.Pairwise fun c d => c = mark → p d = true :=
      List.pairwise_of_forall_mem_list fun _ _ d hd _ => h d hd
    exact hpairs.isChain

theorem Spaced.append {xs ys : List Char} (hmark : p mark = false) (hx : Spaced p mark xs)
    (hy : Spaced p mark ys) (hxs : xs ≠ []) (hys : ys ≠ []) :
    Spaced p mark (xs ++ [mark] ++ ys) where
  mem := by
    intro c hc
    rw [List.mem_append, List.mem_append] at hc
    rcases hc with (hc | hc) | hc
    · exact hx.mem c hc
    · exact Or.inr (List.mem_singleton.mp hc)
    · exact hy.mem c hc
  head := by
    rw [List.append_assoc, List.head?_append_of_ne_nil xs hxs]
    exact hx.head
  last := by
    rw [List.getLast?_append_of_ne_nil _ hys]
    exact hy.last
  single := by
    rw [List.append_assoc, List.singleton_append, List.isChain_append, List.isChain_cons]
    refine ⟨hx.single, ⟨fun d hd _ => hy.head d hd, hy.single⟩, ?_⟩
    rintro c hc d - rfl
    rw [hx.last c hc] at hmark
    cases hmark

theorem spaced_intercalate (hmark : p mark = false)
    (h : ∀ w ∈ ws, w ≠ [] ∧ ∀ c ∈ w, p c = true) : Spaced p mark ([mark].intercalate ws) := by
  induction ws with
  | nil => exact spaced_run (by simp)
  | cons w ws ih =>
    obtain ⟨⟨hw, hin⟩, hrest⟩ := List.forall_mem_cons.mp h
    cases ws with
    | nil =>
      rw [List.intercalate_singleton]
      exact spaced_run hin
    | cons v vs =>
      have hne : [mark].intercalate (v :: vs) ≠ [] := by
        rw [intercalate_cons]
        exact List.append_ne_nil_of_left_ne_nil (hrest v List.mem_cons_self).1 _
      rw [List.intercalate_cons_cons]
      exact (spaced_run hin).append hmark (ih hrest) hw hne

/-- Where the marks are single, there is nothing to replace. -/
theorem markRuns_eq_self (hmem : ∀ c ∈ cs, p c = true ∨ c = mark)
    (hsingle : cs.IsChain fun c d => c = mark → p d = true) :
    markRuns (fun c => !p c) mark cs = cs := by
  induction cs with
  | nil => rfl
  | cons c cs ih =>
    rw [List.isChain_cons] at hsingle
    obtain ⟨hc, hrest⟩ := List.forall_mem_cons.mp hmem
    have htail := ih hrest hsingle.2
    cases hp : p c with
    | true => rw [markRuns_cons (by simp [hp]), htail]
    | false =>
      obtain rfl : c = mark := by simpa [hp] using hc
      have hnext : (cs.head?.any fun d => !p d) = false := by
        cases cs with
        | nil => rfl
        | cons d cs => simp [hsingle.1 d rfl rfl]
      rw [markRuns_sep (by simp [hp]), hnext, htail]
      rfl

/-- Once the marks at the ends are gone, the runs are left, joined by the mark. -/
theorem trimBy_markRuns (hmark : p mark = false) (cs : List Char) :
    trimBy (· == mark) (markRuns (fun c => !p c) mark cs) =
      [mark].intercalate (runsOutside (fun c => !p c) cs) := by
  have hruns := maximalRuns_runsOutside p cs
  have hspaced := spaced_intercalate hmark hruns.of_mem
  obtain ⟨after, hafter, hmarked⟩ := hruns.markRuns_eq mark
  rw [hmarked]
  refine trimBy_append ?_ (by simpa using hafter) (fun c hc => beq_mark hmark (hspaced.head c hc))
    (fun c hc => beq_mark hmark (hspaced.last c hc))
  intro c hc
  split at hc
  · exact beq_iff_eq.mpr (List.mem_singleton.mp hc)
  · cases hc

/-- Trimming a text of separators takes nothing from its runs. -/
theorem runsOutside_trimBy {sep q : Char → Bool} (h : ∀ c, q c = true → sep c = true)
    (cs : List Char) : runsOutside sep (trimBy q cs) = runsOutside sep cs := by
  obtain ⟨before, after, hcs, hends⟩ := trimBy_split q cs
  have hbefore : ∀ c ∈ before, sep c = true := fun c hc =>
    h c (hends c (List.mem_append_left after hc))
  have hafter : ∀ c ∈ after, sep c = true := fun c hc =>
    h c (hends c (List.mem_append_right before hc))
  have hend : runsOutside sep (trimBy q cs ++ after) = runsOutside sep (trimBy q cs) := by
    cases after with
    | nil => rw [List.append_nil]
    | cons d after =>
      have hcut := runsOutside_append_gap (List.cons_ne_nil d after) hafter (trimBy q cs) []
      simpa [runsOutside] using hcut
  calc runsOutside sep (trimBy q cs) = runsOutside sep (trimBy q cs ++ after) := hend.symm
    _ = runsOutside sep (before ++ (trimBy q cs ++ after)) := (runsOutside_gap hbefore _).symm
    _ = runsOutside sep cs := by rw [← List.append_assoc, ← hcs]

end MaximalRuns

end Stencil.Text

namespace Stencil.Naming
open Stencil.Text

@[simp] theorem toList_slugify (s : String) : (slugify s).toList = slugChars s.toList :=
  String.toList_ofList

theorem isBlank_of_isSlugChar {c : Char} (h : isSlugChar c = true) : isBlank c = false :=
  isBlank_of_isAlphanum (isAlphanum_of_isSlugChar h)

theorem slugChars_eq (cs : List Char) : slugChars cs =
    ['-'].intercalate (runsOutside (fun c => !isSlugChar c) (lowerChars cs)) := by
  rw [slugChars, trimBy_markRuns (by decide), runsOutside_trimBy]
  intro c hc
  cases hslug : isSlugChar c with
  | false => rfl
  | true =>
    rw [isBlank_of_isSlugChar hslug] at hc
    cases hc

theorem spaced_slugChars (cs : List Char) : Spaced isSlugChar '-' (slugChars cs) := by
  rw [slugChars_eq]
  exact spaced_intercalate (by decide) (maximalRuns_runsOutside isSlugChar (lowerChars cs)).of_mem

theorem lowerChars_of_spaced {cs : List Char} (h : Spaced isSlugChar '-' cs) :
    lowerChars cs = cs := by
  have hascii : IsAscii cs := by
    intro c hc
    rcases h.mem c hc with hc | rfl
    · exact ascii_of_isAlphanum (isAlphanum_of_isSlugChar hc)
    · decide
  have hupper : ∀ c ∈ cs, c.isUpper = false := by
    intro c hc
    rcases h.mem c hc with hc | rfl
    · exact not_isUpper_of_isSlugChar hc
    · decide
  rw [lowerChars_ascii hascii, map_toLower_eq_self hupper]

/-- The slugs are the texts that stay as they are. -/
theorem slugChars_eq_self_iff {cs : List Char} :
    slugChars cs = cs ↔ Spaced isSlugChar '-' cs := by
  constructor
  · intro h
    rw [← h]
    exact spaced_slugChars cs
  · intro h
    have hblank : trimBy isBlank cs = cs :=
      trimBy_eq_self (fun c hc => isBlank_of_isSlugChar (h.head c hc))
        fun c hc => isBlank_of_isSlugChar (h.last c hc)
    have htrim : trimBy (· == '-') cs = cs :=
      trimBy_eq_self (fun c hc => beq_mark rfl (h.head c hc))
        fun c hc => beq_mark rfl (h.last c hc)
    rw [slugChars, lowerChars_of_spaced h, hblank, markRuns_eq_self h.mem h.single, htrim]

/-- The slug of a text is the maximal runs of small letters and digits in its lower case, joined by
single hyphens. So it holds nothing but these and hyphens, with a hyphen at neither end and no two
side by side, and it is its own slug. -/
theorem slugify_maximalRuns (s : String) :
    (∃ ws : List String, slugify s = joinWith "-" ws ∧
      ∀ runs, MaximalRuns isSlugChar (lower s).toList runs ↔ runs = ws.map String.toList) ∧
    (∀ c ∈ (slugify s).toList, isSlugChar c = true ∨ c = '-') ∧
    (slugify s).toList.head? ≠ some '-' ∧
    (slugify s).toList.getLast? ≠ some '-' ∧
    ¬['-', '-'] <:+: (slugify s).toList ∧
    slugify (slugify s) = slugify s := by
  have hspaced := spaced_slugChars s.toList
  have hhyphen : isSlugChar '-' ≠ true := by decide
  rw [toList_slugify]
  refine ⟨?_, hspaced.mem, fun h => hhyphen (hspaced.head '-' h),
    fun h => hhyphen (hspaced.last '-' h), fun h => ?_, ?_⟩
  · refine ⟨(runsOutside (fun c => !isSlugChar c) (lowerChars s.toList)).map String.ofList, ?_,
      fun runs => ?_⟩
    · apply String.toList_injective
      rw [toList_slugify, slugChars_eq, toList_joinWith]
      simp
    · rw [maximalRuns_iff, lower, String.toList_ofList]
      simp
  · have hpair := List.IsChain.infix hspaced.single h
    exact hhyphen (List.isChain_pair.mp hpair rfl)
  · apply String.toList_injective
    rw [toList_slugify, toList_slugify, slugChars_eq_self_iff.mpr hspaced]

/-- A text with a tab and hyphens before its runs, gaps of several characters between them and a
gap at the end. -/
theorem slugify_greeting :
    MaximalRuns isSlugChar (lower "\t--Hello, World 2!_ ").toList
        ["hello".toList, "world".toList, "2".toList] ∧
      slugify "\t--Hello, World 2!_ " = "hello-world-2" ∧
      slugify "hello-world-2" = "hello-world-2" := by
  have hruns : MaximalRuns isSlugChar (lower "\t--Hello, World 2!_ ").toList
      ["hello".toList, "world".toList, "2".toList] := maximalRuns_iff.mpr (by decide +kernel)
  obtain ⟨⟨ws, hjoined, hunique⟩, -, -, -, -, hagain⟩ := slugify_maximalRuns "\t--Hello, World 2!_ "
  have hmap : ["hello", "world", "2"].map String.toList = ws.map String.toList :=
    (hunique _).mp hruns
  have hws : ["hello", "world", "2"] = ws :=
    (List.map_inj_right fun _ _ => String.toList_injective).mp hmap
  have hslug : slugify "\t--Hello, World 2!_ " = "hello-world-2" := by
    rw [hjoined, ← hws]
    decide +kernel
  rw [hslug] at hagain
  exact ⟨hruns, hslug, hagain⟩

end Stencil.Naming
