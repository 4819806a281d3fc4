import Mathlib
import Stencil.Proofs.Text
import Stencil.Text.Naming

/-!
Names that are made of the runs of a text. A gap of separators cuts the runs before it from those
behind it, a gap at an end changes nothing, and words without separators that are joined by one are
the runs of what they are joined to. A mark in the place of each run leaves the parts between them
as they are. Pascal case takes two texts with a gap between them as if they were cased apart. Only
letters have another case, and it is a letter again; what letters and digits have in common does
not depend on it, above all that none is a separator. Pascal case of an ASCII text stands for
itself: it is one word that has its capital already, and gets it back from the camel case.
-/
namespace Stencil.Text

section Runs

variable {sep : Char → Bool} {c d mark : Char} {xs cs : List Char}

theorem runsOutside_sep (h : sep c = true) (cs : List Char) :
    runsOutside sep (c :: cs) = runsOutside sep cs := by
  cases cs <;> simp [runsOutside, h]

/-- A run ends where the text does or a separator comes next. -/
theorem runsOutside_last (hc : sep c = false) (h : ∀ d ∈ cs.head?, sep d = true) :
    runsOutside sep (c :: cs) = [c] :: runsOutside sep cs := by
  cases cs with
  | nil => simp [runsOutside, hc]
  | cons d rest =>
    have hd : sep d = true := h d rfl
    rw [runsOutside, if_neg (by simp [hc])]
    simp [hd]

/-- Where no separator comes next, the run goes on. -/
theorem runsOutside_cons (hc : sep c = false) (hd : sep d = false) (cs : List Char) : ∃ w ws,
    runsOutside sep (d :: cs) = w :: ws ∧ runsOutside sep (c :: d :: cs) = (c :: w) :: ws := by
  induction cs generalizing c d with
  | nil => exact ⟨[d], [], by simp [runsOutside, hd], by simp [runsOutside, hc, hd]; rfl⟩
  | cons e rest ih =>
    have hopen : ∃ w ws, runsOutside sep (d :: e :: rest) = w :: ws := by
      cases he : sep e with
      | true => exact ⟨_, _, runsOutside_last hd (by simp [he])⟩
      | false =>
        obtain ⟨w, ws, -, hcons⟩ := ih hd he
        exact ⟨_, _, hcons⟩
    obtain ⟨w, ws, hrun⟩ := hopen
    refine ⟨w, ws, hrun, ?_⟩
    rw [runsOutside, if_neg (by simp [hc])]
    simp only [hd, Bool.false_eq_true, if_false]
    rw [hrun]
    rfl

theorem runsOutside_gap {gap : List Char} (h : ∀ c ∈ gap, sep c = true) (cs : List Char) :
    runsOutside sep (gap ++ cs) = runsOutside sep cs := by
  induction gap with
  | nil => rfl
  | cons c gap ih =>
    have htail : ∀ d ∈ gap, sep d = true := fun d hd => h d (List.mem_cons_of_mem c hd)
    rw [List.cons_append, runsOutside_sep (h c List.mem_cons_self), ih htail]

theorem runsOutside_run {w : List Char} (hw : w ≠ []) (h : ∀ c ∈ w, sep c = false)
    (hcs : ∀ d ∈ cs.head?, sep d = true) :
    runsOutside sep (w ++ cs) = w :: runsOutside sep cs := by
  induction w with
  | nil => exact absurd rfl hw
  | cons c w ih =>
    have hc : sep c = false := h c List.mem_cons_self
    cases w with
    | nil => exact runsOutside_last hc hcs
    | cons d w =>
      have hrest : ∀ e ∈ d :: w, sep e = false := fun e he => h e (List.mem_cons_of_mem c he)
      obtain ⟨v, vs, hrun, hcons⟩ := runsOutside_cons hc (hrest d List.mem_cons_self) (w ++ cs)
      have hih := ih (List.cons_ne_nil d w) hrest
      rw [List.cons_append, hrun] at hih
      cases hih
      exact hcons

/-- A gap cuts the runs before it from those behind it. -/
theorem runsOutside_append_gap {gap : List Char} (hgap : gap ≠ [])
    (h : ∀ c ∈ gap, sep c = true) (xs ys : List Char) :
    runsOutside sep (xs ++ (gap ++ ys)) = runsOutside sep xs ++ runsOutside sep ys := by
  have hhead : ∀ d ∈ (gap ++ ys).head?, sep d = true := by
    intro d hd
    cases gap with
    | nil => exact absurd rfl hgap
    | cons e gap =>
      obtain rfl : e = d := by simpa using hd
      exact h e List.mem_cons_self
  induction xs with
  | nil => exact runsOutside_gap h ys
  | cons c xs ih =>
    rw [List.cons_append]
    cases hc : sep c with
    | true => rw [runsOutside_sep hc, runsOutside_sep hc, ih]
    | false =>
      cases xs with
      | nil =>
        rw [List.nil_append, runsOutside_last hc hhead, runsOutside_gap h,
          runsOutside_last hc (by simp)]
        rfl
      | cons d xs =>
        cases hd : sep d with
        | true =>
          have hnext : ∀ e ∈ (d :: xs ++ (gap ++ ys)).head?, sep e = true := by simp [hd]
          rw [runsOutside_last hc hnext, ih, runsOutside_last hc (by simp [hd]), List.cons_append]
        | false =>
          obtain ⟨w, ws, hrun, hcons⟩ := runsOutside_cons hc hd xs
          obtain ⟨v, vs, hall, hcons'⟩ := runsOutside_cons hc hd (xs ++ (gap ++ ys))
          rw [List.cons_append, hrun, hall, List.cons_append] at ih
          cases ih
          rw [List.cons_append, hcons', hcons, List.cons_append]

theorem flatten_runsOutside (sep : Char → Bool) (cs : List Char) :
    (runsOutside sep cs).flatten = cs.filter fun c => !sep c := by
  induction cs with
  | nil => rfl
  | cons c cs ih =>
    cases hc : sep c with
    | true => rw [runsOutside_sep hc, ih, List.filter_cons_of_neg (by simp [hc])]
    | false =>
      rw [List.filter_cons_of_pos (by simp [hc]), ← ih]
      cases cs with
      | nil => rw [runsOutside_last hc (by simp)]; rfl
      | cons d cs =>
        cases hd : sep d with
        | true => rw [runsOutside_last hc (by simp [hd])]; rfl
        | false =>
          obtain ⟨w, ws, hrun, hcons⟩ := runsOutside_cons hc hd cs
          rw [hrun, hcons]
          rfl

theorem mem_of_mem_runsOutside {w : List Char} (hw : w ∈ runsOutside sep cs) (hc : c ∈ w) :
    c ∈ cs ∧ sep c = false := by
  have hmem : c ∈ (runsOutside sep cs).flatten := List.mem_flatten_of_mem hw hc
  rw [flatten_runsOutside] at hmem
  simpa using List.mem_filter.mp hmem

theorem nil_notMem_runsOutside (sep : Char → Bool) (cs : List Char) :
    [] ∉ runsOutside sep cs := by
  induction cs with
  | nil => exact List.not_mem_nil
  | cons c cs ih =>
    cases hc : sep c with
    | true => rwa [runsOutside_sep hc]
    | false =>
      cases cs with
      | nil => rw [runsOutside_last hc (by simp)]; simp [runsOutside]
      | cons d cs =>
        cases hd : sep d with
        | true => rw [runsOutside_last hc (by simp [hd])]; simpa using ih
        | false =>
          obtain ⟨w, ws, hrun, hcons⟩ := runsOutside_cons hc hd cs
          rw [hrun, List.mem_cons, not_or] at ih
          rw [hcons]
          simpa using ih.2

/-- Without separators a text is one run. -/
theorem runsOutside_eq_singleton (hcs : cs ≠ []) (h : ∀ c ∈ cs, sep c = false) :
    runsOutside sep cs = [cs] := by
  have hrun : runsOutside sep (cs ++ []) = cs :: runsOutside sep [] :=
    runsOutside_run hcs h (by simp)
  rwa [List.append_nil] at hrun

/-- Words that are joined by a separator are read back as the runs. -/
theorem runsOutside_intercalate (hd : sep d = true) {ws : List (List Char)}
    (h : ∀ w ∈ ws, w ≠ [] ∧ ∀ c ∈ w, sep c = false) :
    runsOutside sep ([d].intercalate ws) = ws := by
  induction ws with
  | nil => rfl
  | cons w ws ih =>
    obtain ⟨hw, hsep⟩ := h w List.mem_cons_self
    have hrest := ih fun v hv => h v (List.mem_cons_of_mem w hv)
    cases ws with
    | nil => rw [List.intercalate_singleton, runsOutside_eq_singleton hw hsep]
    | cons v vs =>
      rw [List.intercalate_cons_cons, List.append_assoc, List.singleton_append,
        runsOutside_run hw hsep (by simp [hd]), runsOutside_sep hd, hrest]

/-! Runs that are replaced by a mark. -/

/-- A mark from outside a class is none of its characters. -/
theorem beq_mark {p : Char → Bool} (hmark : p mark = false) (h : p c = true) :
    (c == mark) = false := by
  rw [beq_eq_false_iff_ne]
  rintro rfl
  rw [h] at hmark
  cases hmark

theorem markRuns_cons (hc : sep c = false) (cs : List Char) :
    markRuns sep mark (c :: cs) = c :: markRuns sep mark cs := by
  rw [markRuns.eq_def]
  simp [hc]

/-- The mark stands where the run ends. -/
theorem markRuns_sep (hc : sep c = true) (cs : List Char) :
    markRuns sep mark (c :: cs) =
      (if cs.head?.any sep then [] else [mark]) ++ markRuns sep mark cs := by
  cases cs with
  | nil => simp [markRuns, hc]
  | cons d cs =>
    rw [markRuns, if_pos hc, List.head?_cons, Option.any_some]
    split <;> rfl

/-- A part without characters of the class stays as it is. -/
theorem markRuns_append (h : ∀ c ∈ xs, sep c = false) (tail : List Char) :
    markRuns sep mark (xs ++ tail) = xs ++ markRuns sep mark tail := by
  induction xs with
  | nil => rfl
  | cons c xs ih =>
    have hrest : ∀ d ∈ xs, sep d = false := fun d hd => h d (List.mem_cons_of_mem c hd)
    rw [List.cons_append, markRuns_cons (h c List.mem_cons_self), ih hrest, List.cons_append]

theorem mem_markRuns (h : c ∈ markRuns sep mark cs) : c = mark ∨ c ∈ cs ∧ sep c = false := by
  induction cs with
  | nil => cases h
  | cons d cs ih =>
    have hrest : c ∈ markRuns sep mark cs → c = mark ∨ c ∈ d :: cs ∧ sep c = false := fun h =>
      (ih h).imp_right fun ⟨hmem, hkept⟩ => ⟨List.mem_cons_of_mem d hmem, hkept⟩
    cases hd : sep d with
    | true =>
      rw [markRuns_sep hd, List.mem_append] at h
      rcases h with h | h
      · split at h
        · cases h
        · exact Or.inl (List.mem_singleton.mp h)
      · exact hrest h
    | false =>
      rw [markRuns_cons hd] at h
      rcases List.mem_cons.mp h with rfl | h
      · exact Or.inr ⟨List.mem_cons_self, hd⟩
      · exact hrest h

end Runs

end Stencil.Text

namespace Stencil.Naming
open Stencil.Text

/-! Letters, digits and their case. -/

section Letters

variable {c : Char}

theorem isAlphanum_of_isUpper (h : c.isUpper = true) : c.isAlphanum = true := by
  simp [Char.isAlphanum, Char.isAlpha, h]

theorem isAlphanum_of_isLower (h : c.isLower = true) : c.isAlphanum = true := by
  simp [Char.isAlphanum, Char.isAlpha, h]

theorem isAlphanum_of_isDigit (h : c.isDigit = true) : c.isAlphanum = true := by
  simp [Char.isAlphanum, h]

/-- From the first digit to the last small letter. -/
theorem bounds_of_isAlphanum (h : c.isAlphanum = true) : 48 ≤ c.toNat ∧ c.toNat ≤ 122 := by
  simp only [Char.isAlphanum, Char.isAlpha, Char.isUpper, Char.isLower, Char.isDigit,
    Bool.or_eq_true, Bool.and_eq_true, decide_eq_true_eq, ge_iff_le, UInt32.le_iff_toNat_le] at h
  change ((65 ≤ c.toNat ∧ c.toNat ≤ 90) ∨ 97 ≤ c.toNat ∧ c.toNat ≤ 122) ∨
    48 ≤ c.toNat ∧ c.toNat ≤ 57 at h
  omega

theorem ascii_of_isAlphanum (h : c.isAlphanum = true) : c.toNat < 128 :=
  Nat.lt_of_le_of_lt (bounds_of_isAlphanum h).2 (by decide)

theorem isBlank_of_isAlphanum (h : c.isAlphanum = true) : isBlank c = false := by
  have hbounds := bounds_of_isAlphanum h
  simp only [isBlank, Bool.or_eq_false_iff, Bool.and_eq_false_iff, decide_eq_false_iff_not,
    beq_eq_false_iff_ne]
  omega

theorem toLower_cases (c : Char) :
    c.toLower = c ∨ c.isAlphanum = true ∧ c.toLower.isAlphanum = true := by
  by_cases h : c.isUpper = true
  · exact Or.inr ⟨isAlphanum_of_isUpper h, isAlphanum_of_isLower (by simp [Char.isAlpha, h])⟩
  · exact Or.inl (Char.toLower_eq_of_not_isUpper h)

theorem map_toLower_eq_self {cs : List Char} (h : ∀ c ∈ cs, c.isUpper = false) :
    cs.map Char.toLower = cs := by
  have hfixed : ∀ c ∈ cs, c.toLower = c := fun c hc =>
    Char.toLower_eq_of_not_isUpper (by simp [h c hc])
  rw [List.map_congr_left hfixed, List.map_id']

theorem toUpper_cases (c : Char) :
    c.toUpper = c ∨ c.isAlphanum = true ∧ c.toUpper.isAlphanum = true := by
  by_cases h : c.isLower = true
  · exact Or.inr ⟨isAlphanum_of_isLower h, isAlphanum_of_isUpper (by simp [Char.isAlpha, h])⟩
  · exact Or.inl (Char.toUpper_eq_of_not_isLower h)

theorem toLower_ascii (hc : c.toNat < 128) : c.toLower.toNat < 128 := by
  obtain h | ⟨-, h⟩ := toLower_cases c
  · rwa [h]
  · exact ascii_of_isAlphanum h

theorem toUpper_ascii (hc : c.toNat < 128) : c.toUpper.toNat < 128 := by
  obtain h | ⟨-, h⟩ := toUpper_cases c
  · rwa [h]
  · exact ascii_of_isAlphanum h

/-- What is the same for all letters and digits does not depend on the case. -/
theorem apply_toLower {α : Type} {f : Char → α} {a : α} (hf : ∀ c, c.isAlphanum = true → f c = a)
    (c : Char) : f c.toLower = f c := by
  obtain h | ⟨hc, h⟩ := toLower_cases c
  · rw [h]
  · rw [hf _ h, hf c hc]

theorem apply_toUpper {α : Type} {f : Char → α} {a : α} (hf : ∀ c, c.isAlphanum = true → f c = a)
    (c : Char) : f c.toUpper = f c := by
  obtain h | ⟨hc, h⟩ := toUpper_cases c
  · rw [h]
  · rw [hf _ h, hf c hc]

theorem beq_of_isAlphanum {mark : Char} (hmark : mark.isAlphanum = false)
    (h : c.isAlphanum = true) : (c == mark) = false :=
  beq_mark hmark h

theorem isSeparator_of_isAlphanum (h : c.isAlphanum = true) : isSeparator c = false := by
  rw [isSeparator, beq_of_isAlphanum rfl h, beq_of_isAlphanum rfl h, isBlank_of_isAlphanum h]
  rfl

theorem isSeparator_toLower (c : Char) : isSeparator c.toLower = isSeparator c :=
  apply_toLower (fun _ => isSeparator_of_isAlphanum) c

theorem isSeparator_toUpper (c : Char) : isSeparator c.toUpper = isSeparator c :=
  apply_toUpper (fun _ => isSeparator_of_isAlphanum) c

theorem isAlphanum_of_isSlugChar (h : isSlugChar c = true) : c.isAlphanum = true := by
  rcases Bool.or_eq_true_iff.mp h with h | h
  · exact isAlphanum_of_isLower h
  · exact isAlphanum_of_isDigit h

theorem not_isUpper_of_isSlugChar (h : isSlugChar c = true) : c.isUpper = false := by
  rw [← Bool.not_eq_true]
  rcases Bool.or_eq_true_iff.mp h with h | h
  · exact Char.not_isUpper_of_isLower h
  · simp only [Char.isDigit, Char.isUpper, Bool.and_eq_true, decide_eq_true_eq, ge_iff_le,
      UInt32.le_iff_toNat_le] at h ⊢
    simp only [Char.reduceVal, UInt32.reduceToNat] at h ⊢
    omega

end Letters

/-! Pascal case and camel case. -/

@[simp] theorem toList_pascalCase (s : String) : (pascalCase s).toList = pascalChars s.toList :=
  String.toList_ofList

@[simp] theorem toList_camelCase (s : String) : (camelCase s).toList = camelChars s.toList :=
  String.toList_ofList

/-- A gap ends the word before it and adds nothing. -/
theorem pascalChars_append_gap {gap : List Char} (hgap : gap ≠ [])
    (h : ∀ c ∈ gap, isSeparator c = true) (xs ys : List Char) :
    pascalChars (xs ++ (gap ++ ys)) = pascalChars xs ++ pascalChars ys := by
  rw [pascalChars, runsOutside_append_gap hgap h, List.flatMap_append]
  rfl

/-- A text without separators is one word. -/
theorem pascalChars_of_word {cs : List Char} (h : ∀ c ∈ cs, isSeparator c = false) :
    pascalChars cs = capitalised cs := by
  cases cs with
  | nil => rfl
  | cons c cs =>
    rw [pascalChars, runsOutside_eq_singleton (List.cons_ne_nil c cs) h, List.flatMap_singleton]

section Ascii

variable {c : Char} {cs : List Char}

theorem capitalised_ascii (hc : c.toNat < 128) (cs : List Char) :
    capitalised (c :: cs) = c.toUpper :: cs := by
  rw [capitalised, upperChar_ascii hc, List.singleton_append]

/-- Pascal case changes nothing but the case of characters that it keeps. -/
theorem exists_of_mem_pascalChars (h : IsAscii cs) (hc : c ∈ pascalChars cs) :
    ∃ d ∈ cs, isSeparator d = false ∧ (c = d ∨ c = d.toUpper) := by
  obtain ⟨w, hw, hc⟩ := List.mem_flatMap.mp hc
  have hkept : ∀ d ∈ w, d ∈ cs ∧ isSeparator d = false := fun d => mem_of_mem_runsOutside hw
  cases w with
  | nil => cases hc
  | cons d w =>
    obtain ⟨hd, hsep⟩ := hkept d List.mem_cons_self
    rw [capitalised_ascii (h d hd)] at hc
    rcases List.mem_cons.mp hc with rfl | hc
    · exact ⟨d, hd, hsep, Or.inr rfl⟩
    · obtain ⟨hcs, hsep'⟩ := hkept c (List.mem_cons_of_mem d hc)
      exact ⟨c, hcs, hsep', Or.inl rfl⟩

theorem isAscii_pascalChars (h : IsAscii cs) : IsAscii (pascalChars cs) := by
  intro c hc
  obtain ⟨d, hd, -, rfl | rfl⟩ := exists_of_mem_pascalChars h hc
  · exact h c hd
  · exact toUpper_ascii (h d hd)

theorem isSeparator_of_mem_pascalChars (h : IsAscii cs) (hc : c ∈ pascalChars cs) :
    isSeparator c = false := by
  obtain ⟨d, hd, hsep, rfl | rfl⟩ := exists_of_mem_pascalChars h hc
  · exact hsep
  · rw [isSeparator_toUpper d, hsep]

/-- Pascal case begins with a capital, or with a character that has none. -/
theorem toUpper_of_head_pascalChars (h : IsAscii cs) (hc : c ∈ (pascalChars cs).head?) :
    c.toUpper = c := by
  cases hruns : runsOutside isSeparator cs with
  | nil => simp [pascalChars, hruns] at hc
  | cons w ws =>
    have hw : w ∈ runsOutside isSeparator cs := by simp [hruns]
    cases w with
    | nil => exact absurd hw (nil_notMem_runsOutside isSeparator cs)
    | cons d w =>
      have hd : d.toNat < 128 := h d (mem_of_mem_runsOutside hw List.mem_cons_self).1
      have hhead : (pascalChars cs).head? = some d.toUpper := by
        rw [pascalChars, hruns, List.flatMap_cons, capitalised_ascii hd, List.cons_append,
          List.head?_cons]
      obtain rfl : d.toUpper = c := by simpa [hhead] using hc
      exact Char.toUpper_toUpper_eq_toUpper d

theorem pascalChars_pascalChars (h : IsAscii cs) :
    pascalChars (pascalChars cs) = pascalChars cs := by
  rw [pascalChars_of_word fun c hc => isSeparator_of_mem_pascalChars h hc]
  have hascii := isAscii_pascalChars h
  have hhead := fun c => @toUpper_of_head_pascalChars c cs h
  cases hp : pascalChars cs with
  | nil => rfl
  | cons c rest =>
    rw [hp] at hascii hhead
    rw [capitalised_ascii (hascii c List.mem_cons_self), hhead c rfl]

/-- Camel case is Pascal case with another first character, from which the capital is made again. -/
theorem camelChars_spec (h : IsAscii cs) : pascalChars cs = [] ∧ camelChars cs = [] ∨
    ∃ c rest, pascalChars cs = c :: rest ∧ camelChars cs = c.toLower :: rest ∧
      c.toNat < 128 ∧ c.toLower.toUpper = c := by
  have hascii := isAscii_pascalChars h
  have hhead := fun c => @toUpper_of_head_pascalChars c cs h
  rw [camelChars]
  cases hp : pascalChars cs with
  | nil => exact Or.inl ⟨rfl, rfl⟩
  | cons c rest =>
    rw [hp] at hascii hhead
    have hc : c.toNat < 128 := hascii c List.mem_cons_self
    refine Or.inr ⟨c, rest, rfl, ?_, hc, ?_⟩
    · simp only [lowerChar_ascii hc, List.singleton_append]
    · rw [Char.toUpper_toLower_eq_toUpper, hhead c rfl]

theorem pascalChars_camelChars (h : IsAscii cs) :
    pascalChars (camelChars cs) = pascalChars cs := by
  have hsep := fun c => @isSeparator_of_mem_pascalChars c cs h
  obtain ⟨hp, hcamel⟩ | ⟨c, rest, hp, hcamel, hc, hup⟩ := camelChars_spec h
  · rw [hp, hcamel]
    rfl
  · rw [hp] at hsep ⊢
    have hword : ∀ d ∈ c.toLower :: rest, isSeparator d = false := by
      intro d hd
      rcases List.mem_cons.mp hd with rfl | hd
      · rw [isSeparator_toLower c, hsep c List.mem_cons_self]
      · exact hsep d (List.mem_cons_of_mem c hd)
    rw [hcamel, pascalChars_of_word hword, capitalised_ascii (toLower_ascii hc), hup]

end Ascii

/-- Pascal case takes a gap between two texts as if they were cased apart. For ASCII texts it is
idempotent and free of separators, and camel case differs from it in the first character only, so
that it can be had back from it. -/
theorem pascalCase_words :
    (∀ x gap y : String, gap ≠ "" → (∀ c ∈ gap.toList, isSeparator c = true) →
      pascalCase (x ++ gap ++ y) = pascalCase x ++ pascalCase y) ∧
    ∀ x : String, IsAscii x.toList →
      pascalCase (pascalCase x) = pascalCase x ∧
      (∀ c ∈ (pascalCase x).toList, isSeparator c = false) ∧
      pascalCase (camelCase x) = pascalCase x ∧
      (camelCase x).length = (pascalCase x).length ∧
      (camelCase x).toList.tail = (pascalCase x).toList.tail := by
  constructor
  · intro x gap y hgap h
    have hlist : gap.toList ≠ [] := fun hnil => hgap (String.toList_eq_nil_iff.mp hnil)
    have happend := pascalChars_append_gap hlist h x.toList y.toList
    apply String.toList_injective
    simpa using happend
  · intro x h
    refine ⟨?_, ?_, ?_, ?_⟩
    · apply String.toList_injective
      simpa using pascalChars_pascalChars h
    · intro c hc
      rw [toList_pascalCase] at hc
      exact isSeparator_of_mem_pascalChars h hc
    · apply String.toList_injective
      simpa using pascalChars_camelChars h
    · rw [← String.length_toList, ← String.length_toList, toList_camelCase, toList_pascalCase]
      obtain ⟨hp, hcamel⟩ | ⟨c, rest, hp, hcamel, -, -⟩ := camelChars_spec h
      · rw [hp, hcamel]
        exact ⟨rfl, rfl⟩
      · rw [hp, hcamel]
        exact ⟨rfl, rfl⟩

/-- Two texts with gaps at their ends as well, and the camel case of their words. -/
theorem pascalCase_account :
    pascalCase ("-user  " ++ "_ \t" ++ "account2 ID") = "UserAccount2ID" ∧
      camelCase "user account2 ID" = "userAccount2ID" ∧
      pascalCase "userAccount2ID" = "UserAccount2ID" := by
  obtain ⟨hgap, hascii⟩ := pascalCase_words
  refine ⟨?_, by decide +kernel, ?_⟩
  · rw [hgap "-user  " "_ \t" "account2 ID" (by decide) (by simp [isSeparator, isBlank])]
    decide +kernel
  · have hback := (hascii "user account2 ID" (by simp [IsAscii])).2.2.1
    have hcamel : camelCase "user account2 ID" = "userAccount2ID" := by decide +kernel
    rw [hcamel] at hback
    rw [hback]
    decide +kernel

end Stencil.Naming
