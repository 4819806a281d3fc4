import Stencil.Proofs.Naming.Runs

/-!
Snake case. Three passes set underscores, and each goes through a part without capitals or gaps and
on with what follows. Where every capital comes after a small letter or a digit, the second pass
alone finds all boundaries, so the words of a snake-case name come back from its Pascal case and its
camel case. A capital after a separator gets an underscore of its own beside the one that the
separator becomes. The result holds no capital and no gap, so a second time nothing changes.
-/
namespace Stencil.Naming
open Stencil.Text

@[simp] theorem toList_snakeCase (s : String) : (snakeCase s).toList = snakeChars s.toList :=
  String.toList_ofList

/-- If the second of two neighbours is a capital, the first is a small letter or a digit. -/
def Rises (c u : Char) : Prop := u.isUpper = true → isSlugChar c = true

/-! The passes. -/

section Passes

variable {c u : Char} {cs xs ys ls tail : List Char}

theorem of_mem_head?_append {p : Char → Prop} (h : ∀ c ∈ xs, p c) (ht : ∀ c ∈ tail.head?, p c) :
    ∀ c ∈ (xs ++ tail).head?, p c := by
  cases xs with
  | nil => exact ht
  | cons d xs =>
    intro c hc
    obtain rfl : d = c := by simpa using hc
    exact h d List.mem_cons_self

theorem splitCapitalised_cons (h : ∀ u ∈ cs.head?, u.isUpper = false) :
    splitCapitalised (c :: cs) = c :: splitCapitalised cs := by
  cases cs with
  | nil => simp [splitCapitalised]
  | cons u rest =>
    cases rest with
    | nil => simp [splitCapitalised]
    | cons l rest =>
      have hu : u.isUpper = false := h u rfl
      rw [splitCapitalised, if_neg (by simp [hu])]

/-- A part without capitals stays as it is. -/
theorem splitCapitalised_append (h : ∀ u ∈ xs, u.isUpper = false)
    (ht : ∀ u ∈ tail.head?, u.isUpper = false) :
    splitCapitalised (xs ++ tail) = xs ++ splitCapitalised tail := by
  induction xs with
  | nil => rfl
  | cons c xs ih =>
    have hrest : ∀ u ∈ xs, u.isUpper = false := fun u hu => h u (List.mem_cons_of_mem c hu)
    rw [List.cons_append, splitCapitalised_cons (of_mem_head?_append hrest ht), ih hrest,
      List.cons_append]

/-- A capital before a run of small letters is marked, and the scan goes on behind the run. -/
theorem splitCapitalised_mark (hc : c ≠ '\n') (hu : u.isUpper = true) (hls : ls ≠ [])
    (hlower : ∀ l ∈ ls, l.isLower = true) (ht : ∀ d ∈ tail.head?, d.isLower = false) :
    splitCapitalised (c :: u :: (ls ++ tail)) = c :: '_' :: u :: (ls ++ splitCapitalised tail) := by
  cases ls with
  | nil => exact absurd rfl hls
  | cons l ls =>
    have hl : l.isLower = true := hlower l List.mem_cons_self
    have hrest : ∀ d ∈ ls, d.isLower = true := fun d hd => hlower d (List.mem_cons_of_mem l hd)
    have htail : tail.takeWhile Char.isLower = [] ∧ tail.dropWhile Char.isLower = tail := by
      cases tail with
      | nil => exact ⟨rfl, rfl⟩
      | cons d tail =>
        have hd : d.isLower = false := ht d rfl
        exact ⟨List.takeWhile_cons_of_neg (by simp [hd]), List.dropWhile_cons_of_neg (by simp [hd])⟩
    rw [List.cons_append, splitCapitalised, if_pos (by simp [hc, hu, hl]),
      List.takeWhile_append_of_pos hrest, List.dropWhile_append_of_pos hrest, htail.1, htail.2]
    simp

theorem head?_splitCapitalised (cs : List Char) : (splitCapitalised cs).head? = cs.head? := by
  fun_cases splitCapitalised cs <;> simp_all

theorem splitHumps_cons (c : Char) (cs : List Char) : splitHumps (c :: cs) =
    c :: (if isSlugChar c && cs.head?.any Char.isUpper then ['_'] else []) ++ splitHumps cs := by
  cases cs with
  | nil => simp [splitHumps]
  | cons u rest =>
    rw [splitHumps, isSlugChar, List.head?_cons, Option.any_some]
    split <;> simp

theorem splitHumps_keep (h : isSlugChar c = false ∨ ∀ u ∈ cs.head?, u.isUpper = false) :
    splitHumps (c :: cs) = c :: splitHumps cs := by
  have hmark : (isSlugChar c && cs.head?.any Char.isUpper) = false := by
    rcases h with h | h
    · simp [h]
    · cases cs with
      | nil => simp
      | cons u cs => simp [h u rfl]
  rw [splitHumps_cons, hmark]
  simp

/-- A part without capitals stays as it is. -/
theorem splitHumps_append (h : ∀ u ∈ xs, u.isUpper = false)
    (ht : ∀ u ∈ tail.head?, u.isUpper = false) :
    splitHumps (xs ++ tail) = xs ++ splitHumps tail := by
  induction xs with
  | nil => rfl
  | cons c xs ih =>
    have hrest : ∀ u ∈ xs, u.isUpper = false := fun u hu => h u (List.mem_cons_of_mem c hu)
    rw [List.cons_append, splitHumps_keep (Or.inr (of_mem_head?_append hrest ht)), ih hrest,
      List.cons_append]

/-- Of what follows, a part looks at the first character only. -/
theorem splitHumps_congr (cs : List Char) (hhead : xs.head? = ys.head?)
    (h : splitHumps xs = splitHumps ys) : splitHumps (cs ++ xs) = splitHumps (cs ++ ys) := by
  induction cs with
  | nil => exact h
  | cons c cs ih =>
    have hnext : (cs ++ xs).head? = (cs ++ ys).head? := by
      cases cs with
      | nil => exact hhead
      | cons d cs => rfl
    rw [List.cons_append, List.cons_append, splitHumps_cons, splitHumps_cons, hnext, ih]

/-- Where each capital comes after a small letter or a digit, the first pass finds no boundary that
the second would miss. -/
theorem splitHumps_splitCapitalised (h : cs.IsChain Rises) :
    splitHumps (splitCapitalised cs) = splitHumps cs := by
  fun_induction splitCapitalised cs with
  | case1 c u l rest hmatch ih =>
    simp only [Bool.and_eq_true] at hmatch
    obtain ⟨⟨-, hu⟩, -⟩ := hmatch
    rw [List.isChain_cons] at h
    have hc : isSlugChar c = true := h.1 u rfl hu
    have htail : (rest.dropWhile Char.isLower).IsChain Rises :=
      h.2.suffix ((List.dropWhile_suffix _).trans ((List.suffix_cons l rest).trans
        (List.suffix_cons u _)))
    have hrest : u :: l :: rest = (u :: l :: rest.takeWhile Char.isLower) ++
        rest.dropWhile Char.isLower := by simp
    have hscan := splitHumps_congr (u :: l :: rest.takeWhile Char.isLower)
      (head?_splitCapitalised (rest.dropWhile Char.isLower)) (ih htail)
    rw [← hrest] at hscan
    simp only [List.cons_append] at hscan ⊢
    have hmark : ∀ rest : List Char,
        splitHumps (c :: '_' :: rest) = c :: '_' :: splitHumps rest := by
      intro rest
      have hplain : ∀ v ∈ ('_' :: rest).head?, v.isUpper = false := by simp
      rw [splitHumps_keep (Or.inr hplain), splitHumps_keep (Or.inl (by decide))]
    rw [hmark, hscan, splitHumps_cons c]
    simp [hc, hu]
  | case2 c u l rest hmatch ih =>
    rw [List.isChain_cons] at h
    have hhead := head?_splitCapitalised (u :: l :: rest)
    exact splitHumps_congr [c] hhead (ih h.2)
  | case3 => rfl

theorem isGap_eq_false_iff : isGap c = false ↔ c ≠ '-' ∧ isBlank c = false := by
  simp [isGap]

/-- Letters and digits are no gaps. -/
theorem kept_of_isAlphanum (h : c.isAlphanum = true) : c ≠ '-' ∧ isBlank c = false :=
  ⟨beq_eq_false_iff_ne.mp (beq_of_isAlphanum rfl h), isBlank_of_isAlphanum h⟩

theorem joinGaps_cons (h : c ≠ '-' ∧ isBlank c = false) (cs : List Char) :
    joinGaps (c :: cs) = c :: joinGaps cs :=
  markRuns_cons (isGap_eq_false_iff.mpr h) cs

/-- A part without hyphens and white space stays as it is. -/
theorem joinGaps_append (h : ∀ c ∈ xs, c ≠ '-' ∧ isBlank c = false) (tail : List Char) :
    joinGaps (xs ++ tail) = xs ++ joinGaps tail :=
  markRuns_append (fun c hc => isGap_eq_false_iff.mpr (h c hc)) tail

theorem joinGaps_eq_self (h : ∀ c ∈ cs, c ≠ '-' ∧ isBlank c = false) : joinGaps cs = cs := by
  have happend := joinGaps_append h []
  simpa [joinGaps, markRuns] using happend

/-- A gap of one character becomes an underscore. -/
theorem joinGaps_gap (hgap : c = '-' ∨ isBlank c = true)
    (h : ∀ d ∈ cs.head?, d ≠ '-' ∧ isBlank d = false) :
    joinGaps (c :: cs) = '_' :: joinGaps cs := by
  have hnext : cs.head?.any isGap = false := by
    cases cs with
    | nil => rfl
    | cons d cs => exact isGap_eq_false_iff.mpr (h d rfl)
  rw [joinGaps, markRuns_sep (by simpa [isGap] using hgap), hnext]
  rfl

end Passes

/-! What is left in snake case. -/

section Left

variable {c : Char} {cs : List Char}

theorem mem_splitCapitalised (h : c ∈ splitCapitalised cs) : c = '_' ∨ c ∈ cs := by
  fun_induction splitCapitalised cs with
  | case1 d u l rest _ ih =>
    simp only [List.cons_append, List.mem_cons, List.mem_append] at h ⊢
    rcases h with h | h | h | h | h | h
    · exact Or.inr (Or.inl h)
    · exact Or.inl h
    · exact Or.inr (Or.inr (Or.inl h))
    · exact Or.inr (Or.inr (Or.inr (Or.inl h)))
    · exact Or.inr (Or.inr (Or.inr (Or.inr ((List.takeWhile_sublist _).mem h))))
    · rcases ih h with h | h
      · exact Or.inl h
      · exact Or.inr (Or.inr (Or.inr (Or.inr ((List.dropWhile_sublist _).mem h))))
  | case2 d u l rest _ ih =>
    rcases List.mem_cons.mp h with rfl | h
    · exact Or.inr List.mem_cons_self
    · rcases ih h with h | h
      · exact Or.inl h
      · exact Or.inr (List.mem_cons_of_mem d h)
  | case3 => exact Or.inr h

theorem mem_splitHumps (h : c ∈ splitHumps cs) : c = '_' ∨ c ∈ cs := by
  induction cs with
  | nil => exact Or.inr h
  | cons d cs ih =>
    rw [splitHumps_cons, List.cons_append, List.mem_cons, List.mem_append] at h
    rcases h with rfl | h | h
    · exact Or.inr List.mem_cons_self
    · split at h
      · exact Or.inl (List.mem_singleton.mp h)
      · cases h
    · rcases ih h with h | h
      · exact Or.inl h
      · exact Or.inr (List.mem_cons_of_mem d h)

theorem mem_joinGaps (h : c ∈ joinGaps cs) :
    c = '_' ∨ c ∈ cs ∧ c ≠ '-' ∧ isBlank c = false :=
  (mem_markRuns h).imp_right fun ⟨hmem, hkept⟩ => ⟨hmem, isGap_eq_false_iff.mp hkept⟩

/-- A character that snake case leaves alone. -/
structure IsSnake (c : Char) : Prop where
  ascii : c.toNat < 128
  isUpperCase_eq : isUpperCase c = false
  isBlank_eq : isBlank c = false
  ne_hyphen : c ≠ '-'

theorem isSnake_toLower (hc : c.toNat < 128) (hblank : isBlank c = false) (hne : c ≠ '-') :
    IsSnake c.toLower where
  ascii := toLower_ascii hc
  isUpperCase_eq := by rw [isUpperCase, if_pos (toLower_ascii hc), Char.isUpper_toLower_eq_false]
  isBlank_eq := by rw [apply_toLower (fun _ => isBlank_of_isAlphanum), hblank]
  ne_hyphen := by
    have hsame : (c.toLower == '-') = (c == '-') :=
      apply_toLower (f := (· == '-')) (fun _ => beq_of_isAlphanum rfl) c
    rwa [← beq_eq_false_iff_ne, hsame, beq_eq_false_iff_ne]

theorem isSnake_of_mem_snakeChars (h : IsAscii cs) (hc : c ∈ snakeChars cs) : IsSnake c := by
  have hkept : ∀ d ∈ joinGaps (splitHumps (splitCapitalised cs)),
      d.toNat < 128 ∧ d ≠ '-' ∧ isBlank d = false := by
    intro d hd
    rcases mem_joinGaps hd with rfl | ⟨hd, hgap⟩
    · decide
    · rcases mem_splitHumps hd with rfl | hd
      · decide
      · rcases mem_splitCapitalised hd with rfl | hd
        · decide
        · exact ⟨h d hd, hgap⟩
  rw [snakeChars, lowerChars_ascii fun d hd => (hkept d hd).1] at hc
  obtain ⟨d, hd, rfl⟩ := List.mem_map.mp hc
  obtain ⟨hascii, hne, hblank⟩ := hkept d hd
  exact isSnake_toLower hascii hblank hne

theorem snakeChars_eq_self (h : ∀ c ∈ cs, IsSnake c) : snakeChars cs = cs := by
  have hupper : ∀ c ∈ cs, c.isUpper = false := by
    intro c hc
    have hcase := (h c hc).isUpperCase_eq
    rwa [isUpperCase, if_pos (h c hc).ascii] at hcase
  have hcap : splitCapitalised cs = cs := by
    have happend : splitCapitalised (cs ++ []) = cs ++ splitCapitalised [] :=
      splitCapitalised_append hupper (by simp)
    simpa [splitCapitalised] using happend
  have hhumps : splitHumps cs = cs := by
    have happend : splitHumps (cs ++ []) = cs ++ splitHumps [] :=
      splitHumps_append hupper (by simp)
    simpa [splitHumps] using happend
  have hgaps : joinGaps cs = cs :=
    joinGaps_eq_self fun c hc => ⟨(h c hc).ne_hyphen, (h c hc).isBlank_eq⟩
  rw [snakeChars, hcap, hhumps, hgaps, lowerChars_ascii fun c hc => (h c hc).ascii,
    map_toLower_eq_self hupper]

end Left

end Stencil.Naming
