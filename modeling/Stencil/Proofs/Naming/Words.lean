import Stencil.Proofs.Naming.Snake

/-!
Snake case of words. Behind a hyphen, an underscore or a space a capital is a boundary of its own:
its underscore stands beside that of the separator, so the mark is single exactly where small words
follow. A name of words of two characters or more, small letters and digits, comes back from its
Pascal case and its camel case, since each capital in them comes after a small letter or a digit.
-/
namespace Stencil.Naming
open Stencil.Text

/-! Words between separators. -/

/-- A word of small letters, with or without a capital before them. -/
structure Word where
  capital : Option Char
  small : List Char
  isUpper_of_mem : ∀ c ∈ capital, c.isUpper = true
  isLower_of_mem : ∀ c ∈ small, c.isLower = true
  small_ne_nil : small ≠ []

namespace Word

def chars (w : Word) : List Char := w.capital.toList ++ w.small

def text (w : Word) : String := .ofList w.chars

/-- What the first pass makes of a word behind a separator. -/
def marked (w : Word) : List Char := if w.capital.isSome then '_' :: w.chars else w.chars

end Word

/-- A character that may stand between two words. -/
def IsMark (c : Char) : Prop := c = '-' ∨ c = '_' ∨ c = ' '

theorem IsMark.not_isUpper {c : Char} (h : IsMark c) : c.isUpper = false := by
  rcases h with rfl | rfl | rfl <;> decide

theorem IsMark.not_isLower {c : Char} (h : IsMark c) : c.isLower = false := by
  rcases h with rfl | rfl | rfl <;> decide

theorem IsMark.not_isSlugChar {c : Char} (h : IsMark c) : isSlugChar c = false := by
  rcases h with rfl | rfl | rfl <;> decide

theorem IsMark.ne_lineFeed {c : Char} (h : IsMark c) : c ≠ '\n' := by
  rcases h with rfl | rfl | rfl <;> decide

namespace Word

variable {sep : Char} {tail : List Char}

theorem isAlphanum_of_mem (w : Word) : ∀ c ∈ w.chars, c.isAlphanum = true := by
  intro c hc
  rcases List.mem_append.mp hc with hc | hc
  · exact isAlphanum_of_isUpper (w.isUpper_of_mem c (by simpa using hc))
  · exact isAlphanum_of_isLower (w.isLower_of_mem c hc)

theorem not_isUpper (w : Word) : ∀ c ∈ w.small, c.isUpper = false :=
  fun c hc => eq_false_of_ne_true (Char.not_isUpper_of_isLower (w.isLower_of_mem c hc))

/-! Each pass goes through a word, at the beginning of a text and behind a separator. -/

theorem splitCapitalised_chars (w : Word) (ht : ∀ c ∈ tail.head?, IsMark c) :
    splitCapitalised (w.chars ++ tail) = w.chars ++ splitCapitalised tail := by
  have hupper : ∀ c ∈ tail.head?, c.isUpper = false := fun c hc => (ht c hc).not_isUpper
  have hsmall := splitCapitalised_append w.not_isUpper hupper
  cases hcap : w.capital with
  | none => simpa [chars, hcap] using hsmall
  | some u =>
    have hu := splitCapitalised_cons (c := u) (of_mem_head?_append w.not_isUpper hupper)
    simp [chars, hcap, hu, hsmall]

/-- Behind a separator a capital is marked. -/
theorem splitCapitalised_behind (w : Word) (hsep : IsMark sep) (ht : ∀ c ∈ tail.head?, IsMark c) :
    splitCapitalised (sep :: (w.chars ++ tail)) = sep :: (w.marked ++ splitCapitalised tail) := by
  have hupper : ∀ c ∈ tail.head?, c.isUpper = false := fun c hc => (ht c hc).not_isUpper
  have hlower : ∀ c ∈ tail.head?, c.isLower = false := fun c hc => (ht c hc).not_isLower
  cases hcap : w.capital with
  | none =>
    have hfirst := splitCapitalised_cons (c := sep) (of_mem_head?_append w.not_isUpper hupper)
    simp [marked, chars, hcap, hfirst, splitCapitalised_append w.not_isUpper hupper]
  | some u =>
    have hmark := splitCapitalised_mark hsep.ne_lineFeed (w.isUpper_of_mem u hcap) w.small_ne_nil
      w.isLower_of_mem hlower
    simp [marked, chars, hcap, hmark]

theorem splitHumps_chars (w : Word) (ht : ∀ c ∈ tail.head?, IsMark c) :
    splitHumps (w.chars ++ tail) = w.chars ++ splitHumps tail := by
  have hupper : ∀ c ∈ tail.head?, c.isUpper = false := fun c hc => (ht c hc).not_isUpper
  have hsmall := splitHumps_append w.not_isUpper hupper
  cases hcap : w.capital with
  | none => simpa [chars, hcap] using hsmall
  | some u =>
    have hu := splitHumps_keep (c := u) (Or.inr (of_mem_head?_append w.not_isUpper hupper))
    simp [chars, hcap, hu, hsmall]

theorem splitHumps_behind (w : Word) (hsep : IsMark sep) (ht : ∀ c ∈ tail.head?, IsMark c) :
    splitHumps (sep :: (w.marked ++ tail)) = sep :: (w.marked ++ splitHumps tail) := by
  have hchars := w.splitHumps_chars ht
  rw [splitHumps_keep (Or.inl hsep.not_isSlugChar), marked]
  split
  · rw [List.cons_append, splitHumps_keep (Or.inl (by decide)), hchars, List.cons_append]
  · rw [hchars]

theorem kept_of_mem_chars (w : Word) : ∀ c ∈ w.chars, c ≠ '-' ∧ isBlank c = false :=
  fun c hc => kept_of_isAlphanum (w.isAlphanum_of_mem c hc)

theorem kept_of_mem_marked (w : Word) : ∀ c ∈ w.marked, c ≠ '-' ∧ isBlank c = false := by
  intro c hc
  rw [marked] at hc
  split at hc
  · rcases List.mem_cons.mp hc with rfl | hc
    · decide
    · exact w.kept_of_mem_chars c hc
  · exact w.kept_of_mem_chars c hc

theorem joinGaps_behind (w : Word) (hsep : IsMark sep) (tail : List Char) :
    joinGaps (sep :: (w.marked ++ tail)) = '_' :: (w.marked ++ joinGaps tail) := by
  have hmarked := joinGaps_append w.kept_of_mem_marked tail
  have hne : w.marked ≠ [] := by
    rw [marked, chars]
    split <;> simp [w.small_ne_nil]
  have hhead : ∀ c ∈ (w.marked ++ tail).head?, c ≠ '-' ∧ isBlank c = false := by
    intro c hc
    cases hm : w.marked with
    | nil => exact absurd hm hne
    | cons d ds =>
      obtain rfl : d = c := by simpa [hm] using hc
      exact w.kept_of_mem_marked d (by simp [hm])
  rcases hsep with rfl | rfl | rfl
  · rw [joinGaps_gap (Or.inl rfl) hhead, hmarked]
  · rw [joinGaps_cons (by decide), hmarked]
  · rw [joinGaps_gap (Or.inr (by decide)) hhead, hmarked]

end Word

/-! The words behind the first one, by induction. -/

section Behind

variable {sep : Char}

theorem isMark_head {f : Word → List Char} (hsep : IsMark sep) (ws : List Word) :
    ∀ c ∈ (ws.flatMap fun w => sep :: f w).head?, IsMark c := by
  intro c hc
  cases ws with
  | nil => cases hc
  | cons w ws =>
    obtain rfl : sep = c := by simpa using hc
    exact hsep

theorem splitCapitalised_separated (hsep : IsMark sep) (ws : List Word) :
    splitCapitalised (ws.flatMap fun w => sep :: w.chars) =
      ws.flatMap fun w => sep :: w.marked := by
  induction ws with
  | nil => simp [splitCapitalised]
  | cons w ws ih =>
    rw [List.flatMap_cons, List.flatMap_cons, List.cons_append,
      w.splitCapitalised_behind hsep (isMark_head hsep ws), ih, List.cons_append]

theorem splitHumps_separated (hsep : IsMark sep) (ws : List Word) :
    splitHumps (ws.flatMap fun w => sep :: w.marked) = ws.flatMap fun w => sep :: w.marked := by
  induction ws with
  | nil => rfl
  | cons w ws ih =>
    rw [List.flatMap_cons, List.cons_append, w.splitHumps_behind hsep (isMark_head hsep ws), ih]

theorem joinGaps_separated (hsep : IsMark sep) (ws : List Word) :
    joinGaps (ws.flatMap fun w => sep :: w.marked) = ws.flatMap fun w => '_' :: w.marked := by
  induction ws with
  | nil => rfl
  | cons w ws ih =>
    rw [List.flatMap_cons, List.flatMap_cons, List.cons_append, w.joinGaps_behind hsep, ih,
      List.cons_append]

end Behind

namespace Word

theorem isAscii_chars (w : Word) : IsAscii w.chars :=
  fun c hc => ascii_of_isAlphanum (w.isAlphanum_of_mem c hc)

theorem isAscii_marked (w : Word) : IsAscii w.marked := by
  intro c hc
  rw [marked] at hc
  split at hc
  · rcases List.mem_cons.mp hc with rfl | hc
    · decide
    · exact w.isAscii_chars c hc
  · exact w.isAscii_chars c hc

theorem toList_text (w : Word) : w.text.toList = w.chars := String.toList_ofList

theorem toList_lower_text (w : Word) : (lower w.text).toList = w.chars.map Char.toLower := by
  rw [lower, String.toList_ofList, toList_text, lowerChars_ascii w.isAscii_chars]

/-- The underscores before a word behind a separator, and the word. -/
theorem toList_mark_lower (w : Word) :
    ((if w.capital.isSome then "__" else "_") ++ lower w.text).toList =
      '_' :: w.marked.map Char.toLower := by
  rw [String.toList_append, toList_lower_text, marked]
  split
  · rw [List.map_cons]
    rfl
  · rfl

/-- No word begins with an underscore. -/
theorem head_ne_underscore (w : Word) : ∀ c ∈ (w.chars.map Char.toLower).head?, c ≠ '_' := by
  intro c hc
  obtain ⟨d, hd, rfl⟩ := List.mem_map.mp (List.mem_of_mem_head? hc)
  have hsame : (d.toLower == '_') = (d == '_') :=
    apply_toLower (f := (· == '_')) (fun _ => beq_of_isAlphanum rfl) d
  rw [← beq_eq_false_iff_ne, hsame, beq_of_isAlphanum rfl (w.isAlphanum_of_mem d hd)]

end Word

/-- The name that the passes leave: a capital behind a separator has two underscores before it. -/
theorem snakeChars_separated {sep : Char} (hsep : IsMark sep) (w : Word) (ws : List Word) :
    snakeChars (w.chars ++ ws.flatMap fun v => sep :: v.chars) =
      w.chars.map Char.toLower ++ ws.flatMap fun v => '_' :: v.marked.map Char.toLower := by
  have hascii : IsAscii (w.chars ++ ws.flatMap fun v => '_' :: v.marked) := by
    intro c hc
    rcases List.mem_append.mp hc with hc | hc
    · exact w.isAscii_chars c hc
    · obtain ⟨v, -, hc⟩ := List.mem_flatMap.mp hc
      rcases List.mem_cons.mp hc with rfl | hc
      · decide
      · exact v.isAscii_marked c hc
  rw [snakeChars, w.splitCapitalised_chars (isMark_head hsep ws), splitCapitalised_separated hsep,
    w.splitHumps_chars (isMark_head hsep ws), splitHumps_separated hsep,
    joinGaps_append w.kept_of_mem_chars, joinGaps_separated hsep, lowerChars_ascii hascii,
    List.map_append, List.map_flatMap]
  rfl

/-- Marks are single where no word behind a separator has a capital. -/
theorem marked_eq_iff (ws : List Word) :
    (ws.flatMap fun v => '_' :: v.marked.map Char.toLower) =
      (ws.flatMap fun v => '_' :: v.chars.map Char.toLower) ↔ ∀ v ∈ ws, v.capital = none := by
  induction ws with
  | nil => simp
  | cons w ws ih =>
    rw [List.flatMap_cons, List.flatMap_cons, List.forall_mem_cons, List.cons_append,
      List.cons_append, List.cons_inj_right]
    cases hcap : w.capital with
    | none =>
      have hmarked : w.marked = w.chars := by simp [Word.marked, hcap]
      rw [hmarked, List.append_cancel_left_eq, ih]
      simp
    | some u =>
      have hhead := w.head_ne_underscore
      have hu : (w.chars.map Char.toLower).head? = some u.toLower := by simp [Word.chars, hcap]
      rw [hu] at hhead
      have hne : u.toLower ≠ '_' := hhead _ rfl
      simp [Word.marked, Word.chars, hcap, Ne.symm hne]

/-- In snake case the words stand in lower case and in order, whatever separator stood between them,
with one underscore before a small word and two before one with a capital. So the words are joined
by single underscores exactly where none but the first has a capital. -/
theorem snakeCase_separated {sep : Char} (hsep : IsMark sep) (w : Word) (ws : List Word) :
    snakeCase (joinWith (.singleton sep) ((w :: ws).map Word.text)) =
        lower w.text ++ String.join (ws.map fun v =>
          (if v.capital.isSome then "__" else "_") ++ lower v.text) ∧
      (snakeCase (joinWith (.singleton sep) ((w :: ws).map Word.text)) =
          joinWith "_" ((w :: ws).map fun v => lower v.text) ↔ ∀ v ∈ ws, v.capital = none) := by
  have hsource : (joinWith (.singleton sep) ((w :: ws).map Word.text)).toList =
      w.chars ++ ws.flatMap fun v => sep :: v.chars := by
    rw [toList_joinWith, String.toList_singleton, List.map_cons, List.map_cons, intercalate_cons,
      w.toList_text, List.map_map, List.flatMap_map]
    simp [Word.toList_text]
  have hname : (joinWith "_" ((w :: ws).map fun v => lower v.text)).toList =
      w.chars.map Char.toLower ++ ws.flatMap fun v => '_' :: v.chars.map Char.toLower := by
    rw [toList_joinWith, List.map_cons, List.map_cons, show "_".toList = ['_'] from rfl,
      intercalate_cons, w.toList_lower_text, List.map_map, List.flatMap_map]
    simp [Word.toList_lower_text]
  have hsnake := snakeChars_separated hsep w ws
  constructor
  · apply String.toList_injective
    rw [toList_snakeCase, hsource, hsnake, String.toList_append, w.toList_lower_text,
      String.toList_join, List.flatMap_map]
    simp only [Word.toList_mark_lower]
  · rw [← String.toList_inj, toList_snakeCase, hsource, hsnake, hname, List.append_cancel_left_eq,
      marked_eq_iff]

/-- Three words on a signpost, the second with a capital behind its hyphen. -/
theorem snakeCase_signpost : IsMark '-' ∧ snakeCase "Some-Thing-else" = "some__thing_else" ∧
    snakeCase "Some-Thing-else" ≠ "some_thing_else" := by
  let some' : Word := ⟨some 'S', "ome".toList, by simp, by simp, by simp⟩
  let thing : Word := ⟨some 'T', "hing".toList, by simp, by simp, by simp⟩
  let other : Word := ⟨none, "else".toList, by simp, by simp, by simp⟩
  have hsep : IsMark '-' := Or.inl rfl
  obtain ⟨hname, hsingle⟩ := snakeCase_separated hsep some' [thing, other]
  have hsource : joinWith (.singleton '-') ([some', thing, other].map Word.text) =
      "Some-Thing-else" := by decide +kernel
  have hjoined : joinWith "_" ([some', thing, other].map fun v => lower v.text) =
      "some_thing_else" := by decide +kernel
  rw [hsource] at hname hsingle
  rw [hjoined] at hsingle
  refine ⟨hsep, hname.trans (by decide +kernel), fun h => ?_⟩
  have hnone := hsingle.mp h thing List.mem_cons_self
  cases hnone

/-! Names in Pascal case and camel case. -/

/-- A word of a snake-case name. -/
structure NameWord where
  first : Char
  rest : List Char
  first_isLower : first.isLower = true
  rest_ne_nil : rest ≠ []
  isSlugChar_of_mem : ∀ c ∈ rest, isSlugChar c = true

namespace NameWord

def chars (w : NameWord) : List Char := w.first :: w.rest

def text (w : NameWord) : String := .ofList w.chars

/-- The word with a capital. -/
def raised (w : NameWord) : List Char := w.first.toUpper :: w.rest

theorem isSlugChar_of_mem_chars (w : NameWord) : ∀ c ∈ w.chars, isSlugChar c = true := by
  intro c hc
  rcases List.mem_cons.mp hc with rfl | hc
  · exact Bool.or_eq_true_iff.mpr (Or.inl w.first_isLower)
  · exact w.isSlugChar_of_mem c hc

theorem first_ascii (w : NameWord) : w.first.toNat < 128 :=
  ascii_of_isAlphanum (isAlphanum_of_isLower w.first_isLower)

theorem isUpper_toUpper (w : NameWord) : w.first.toUpper.isUpper = true :=
  (Char.isUpper_toUpper_eq_isAlpha w.first).trans (by simp [Char.isAlpha, w.first_isLower])

theorem toLower_toUpper_first (w : NameWord) : w.first.toUpper.toLower = w.first := by
  rw [Char.toLower_toUpper_eq_toLower,
    Char.toLower_eq_of_not_isUpper (Char.not_isUpper_of_isLower w.first_isLower)]

theorem capitalised_chars (w : NameWord) : capitalised w.chars = w.raised :=
  capitalised_ascii w.first_ascii w.rest

end NameWord

/-! Pascal case and camel case of a name. -/

theorem pascalChars_name (ws : List NameWord) :
    pascalChars (['_'].intercalate (ws.map NameWord.chars)) = ws.flatMap NameWord.raised := by
  have hwords : ∀ w ∈ ws.map NameWord.chars, w ≠ [] ∧ ∀ c ∈ w, isSeparator c = false := by
    intro w hw
    obtain ⟨v, -, rfl⟩ := List.mem_map.mp hw
    refine ⟨List.cons_ne_nil _ _, fun c hc => ?_⟩
    have hslug := v.isSlugChar_of_mem_chars c hc
    exact isSeparator_of_isAlphanum (isAlphanum_of_isSlugChar hslug)
  rw [pascalChars, runsOutside_intercalate (by decide) hwords, List.flatMap_map]
  simp only [NameWord.capitalised_chars]

theorem camelChars_name (w : NameWord) (ws : List NameWord) :
    camelChars (['_'].intercalate ((w :: ws).map NameWord.chars)) =
      w.chars ++ ws.flatMap NameWord.raised := by
  rw [camelChars, pascalChars_name, List.flatMap_cons, NameWord.raised, List.cons_append]
  simp only [lowerChar_ascii (toUpper_ascii w.first_ascii), w.toLower_toUpper_first]
  rfl

/-! The second pass on the words of a name. -/

section Words

variable {part : List Char}

/-- A part of small letters and digits is followed by a mark where a word comes next. -/
theorem splitHumps_part (hne : part ≠ []) (h : ∀ c ∈ part, isSlugChar c = true) (w : NameWord)
    (tail : List Char) :
    splitHumps (part ++ (w.raised ++ tail)) = part ++ '_' :: splitHumps (w.raised ++ tail) := by
  induction part with
  | nil => exact absurd rfl hne
  | cons c part ih =>
    have hc : isSlugChar c = true := h c List.mem_cons_self
    cases part with
    | nil =>
      rw [List.singleton_append, splitHumps_cons, NameWord.raised, List.cons_append]
      simp [hc, w.isUpper_toUpper]
    | cons d part =>
      have hrest : ∀ e ∈ d :: part, isSlugChar e = true :=
        fun e he => h e (List.mem_cons_of_mem c he)
      have hd : d.isUpper = false := not_isUpper_of_isSlugChar (hrest d List.mem_cons_self)
      rw [List.cons_append, splitHumps_keep (Or.inr (by simp [hd])),
        ih (List.cons_ne_nil d part) hrest]
      rfl

/-- A capital at the beginning of a word has a small character behind it. -/
theorem NameWord.splitHumps_raised (w : NameWord) (tail : List Char) :
    splitHumps (w.raised ++ tail) = w.first.toUpper :: splitHumps (w.rest ++ tail) := by
  have hnext : ∀ c ∈ (w.rest ++ tail).head?, c.isUpper = false := by
    intro c hc
    cases hrest : w.rest with
    | nil => exact absurd hrest w.rest_ne_nil
    | cons d ds =>
      obtain rfl : d = c := by simpa [hrest] using hc
      exact not_isUpper_of_isSlugChar (w.isSlugChar_of_mem d (by simp [hrest]))
  rw [raised, List.cons_append, splitHumps_keep (Or.inr hnext)]

theorem isChain_part (h : ∀ c ∈ part, isSlugChar c = true) : part.IsChain Rises := by
  have hpairs : part.Pairwise Rises := List.pairwise_of_forall_mem_list fun c hc _ _ _ => h c hc
  exact hpairs.isChain

theorem NameWord.isChain_raised (w : NameWord) : w.raised.IsChain Rises := by
  rw [raised, List.isChain_cons]
  refine ⟨fun u hu hupper => ?_, isChain_part w.isSlugChar_of_mem⟩
  rw [not_isUpper_of_isSlugChar (w.isSlugChar_of_mem u (List.mem_of_mem_head? hu))] at hupper
  cases hupper

theorem splitHumps_words (hne : part ≠ []) (h : ∀ c ∈ part, isSlugChar c = true)
    (ws : List NameWord) :
    splitHumps (part ++ ws.flatMap NameWord.raised) =
      part ++ ws.flatMap fun w => '_' :: w.raised := by
  induction ws generalizing part with
  | nil =>
    have hupper : ∀ c ∈ part, c.isUpper = false := fun c hc => not_isUpper_of_isSlugChar (h c hc)
    have happend : splitHumps (part ++ []) = part ++ splitHumps [] :=
      splitHumps_append hupper (by simp)
    simpa [splitHumps] using happend
  | cons w ws ih =>
    rw [List.flatMap_cons, splitHumps_part hne h, w.splitHumps_raised,
      ih w.rest_ne_nil w.isSlugChar_of_mem, List.flatMap_cons, NameWord.raised]
    simp

/-- In Pascal case every capital but the first comes after a small letter or a digit. -/
theorem isChain_words (hchain : part.IsChain Rises)
    (hlast : ∀ c ∈ part.getLast?, isSlugChar c = true) (ws : List NameWord) : (part ++ ws.flatMap NameWord.raised).IsChain Rises := by
  induction ws generalizing part with
  | nil => simpa using hchain
  | cons w ws ih =>
    rw [List.flatMap_cons, ← List.append_assoc]
    apply ih
    · rw [List.isChain_append]
      exact ⟨hchain, w.isChain_raised, fun c hc u _ _ => hlast c hc⟩
    · intro c hc
      have hend : (part ++ w.raised).getLast? = w.rest.getLast? := by
        cases hrest : w.rest with
        | nil => exact absurd hrest w.rest_ne_nil
        | cons d ds => simp [NameWord.raised, hrest, List.getLast?_append, List.getLast?_cons]
      rw [hend] at hc
      exact w.isSlugChar_of_mem c (List.mem_of_getLast? hc)

end Words

/-! Snake case of a name in Pascal case and camel case. -/

namespace NameWord

theorem map_toLower_part {part : List Char} (h : ∀ c ∈ part, isSlugChar c = true) :
    part.map Char.toLower = part :=
  map_toLower_eq_self fun c hc => not_isUpper_of_isSlugChar (h c hc)

theorem map_toLower_chars (w : NameWord) : w.chars.map Char.toLower = w.chars :=
  map_toLower_part w.isSlugChar_of_mem_chars

theorem map_toLower_raised (w : NameWord) : w.raised.map Char.toLower = w.chars := by
  rw [raised, List.map_cons, w.toLower_toUpper_first, map_toLower_part w.isSlugChar_of_mem]
  rfl

theorem isAlphanum_of_mem_raised (w : NameWord) : ∀ c ∈ w.raised, c.isAlphanum = true := by
  intro c hc
  rcases List.mem_cons.mp hc with rfl | hc
  · exact isAlphanum_of_isUpper w.isUpper_toUpper
  · exact isAlphanum_of_isSlugChar (w.isSlugChar_of_mem c hc)

end NameWord

/-- Once the second pass has marked the words, what is left to do is to lower them. -/
theorem snakeChars_marked {part : List Char} {ws : List NameWord}
    (hchain : (part ++ ws.flatMap NameWord.raised).IsChain Rises)
    (hmarks : splitHumps (part ++ ws.flatMap NameWord.raised) =
      part ++ ws.flatMap fun w => '_' :: w.raised)
    (hpart : ∀ c ∈ part, c.isAlphanum = true) :
    snakeChars (part ++ ws.flatMap NameWord.raised) =
      part.map Char.toLower ++ ws.flatMap fun w => '_' :: w.chars := by
  have hletter : ∀ c : Char, c.isAlphanum = true → c.toNat < 128 ∧ c ≠ '-' ∧ isBlank c = false :=
    fun c hc => ⟨ascii_of_isAlphanum hc, kept_of_isAlphanum hc⟩
  have hkept : ∀ c ∈ part ++ ws.flatMap fun w => '_' :: w.raised,
      c.toNat < 128 ∧ c ≠ '-' ∧ isBlank c = false := by
    intro c hc
    rcases List.mem_append.mp hc with hc | hc
    · exact hletter c (hpart c hc)
    · obtain ⟨w, -, hc⟩ := List.mem_flatMap.mp hc
      rcases List.mem_cons.mp hc with rfl | hc
      · decide
      · exact hletter c (w.isAlphanum_of_mem_raised c hc)
  have hgaps := joinGaps_eq_self fun c hc => (hkept c hc).2
  rw [snakeChars, splitHumps_splitCapitalised hchain, hmarks, hgaps,
    lowerChars_ascii fun c hc => (hkept c hc).1, List.map_append, List.map_flatMap]
  simp only [List.map_cons, NameWord.map_toLower_raised]
  rfl

theorem snakeChars_pascalChars (w : NameWord) (ws : List NameWord) :
    snakeChars (pascalChars (['_'].intercalate ((w :: ws).map NameWord.chars))) =
      ['_'].intercalate ((w :: ws).map NameWord.chars) := by
  have hlast : ∀ c ∈ w.raised.getLast?, isSlugChar c = true := by
    intro c hc
    cases hrest : w.rest with
    | nil => exact absurd hrest w.rest_ne_nil
    | cons d ds =>
      rw [NameWord.raised, hrest, List.getLast?_cons_cons, ← hrest] at hc
      exact w.isSlugChar_of_mem c (List.mem_of_getLast? hc)
  have hmarks : splitHumps (w.raised ++ ws.flatMap NameWord.raised) =
      w.raised ++ ws.flatMap fun v => '_' :: v.raised := by
    rw [w.splitHumps_raised, splitHumps_words w.rest_ne_nil w.isSlugChar_of_mem]
    rfl
  rw [pascalChars_name, List.flatMap_cons,
    snakeChars_marked (isChain_words w.isChain_raised hlast ws) hmarks w.isAlphanum_of_mem_raised,
    w.map_toLower_raised, List.map_cons, intercalate_cons, List.flatMap_map]

theorem snakeChars_camelChars (w : NameWord) (ws : List NameWord) :
    snakeChars (camelChars (['_'].intercalate ((w :: ws).map NameWord.chars))) =
      ['_'].intercalate ((w :: ws).map NameWord.chars) := by
  have hlast : ∀ c ∈ w.chars.getLast?, isSlugChar c = true :=
    fun c hc => w.isSlugChar_of_mem_chars c (List.mem_of_getLast? hc)
  have hmarks := splitHumps_words (List.cons_ne_nil _ _) w.isSlugChar_of_mem_chars ws
  have hletter : ∀ c ∈ w.chars, c.isAlphanum = true :=
    fun c hc => isAlphanum_of_isSlugChar (w.isSlugChar_of_mem_chars c hc)
  rw [camelChars_name,
    snakeChars_marked (isChain_words (isChain_part w.isSlugChar_of_mem_chars) hlast ws) hmarks
      hletter, w.map_toLower_chars, List.map_cons, intercalate_cons, List.flatMap_map]

theorem toList_name (ws : List NameWord) :
    (joinWith "_" (ws.map NameWord.text)).toList = ['_'].intercalate (ws.map NameWord.chars) := by
  rw [toList_joinWith, List.map_map]
  congr 1
  exact List.map_congr_left fun w _ => String.toList_ofList

/-- A snake-case name comes back from its Pascal case and from its camel case. Snake case of any
ASCII text is a name that stays as it is: without capitals, white space and hyphens. -/
theorem snakeCase_inverts :
    (∀ ws : List NameWord,
      snakeCase (pascalCase (joinWith "_" (ws.map NameWord.text))) =
          joinWith "_" (ws.map NameWord.text) ∧
        snakeCase (camelCase (joinWith "_" (ws.map NameWord.text))) =
          joinWith "_" (ws.map NameWord.text)) ∧
    ∀ s : String, IsAscii s.toList →
      snakeCase (snakeCase s) = snakeCase s ∧
      ∀ c ∈ (snakeCase s).toList, isUpperCase c = false ∧ isBlank c = false ∧ c ≠ '-' := by
  constructor
  · intro ws
    rw [← String.toList_inj, ← String.toList_inj, toList_snakeCase, toList_snakeCase,
      toList_pascalCase, toList_camelCase, toList_name]
    cases ws with
    | nil => decide +kernel
    | cons w ws => exact ⟨snakeChars_pascalChars w ws, snakeChars_camelChars w ws⟩
  · intro s h
    have hsnake : ∀ c ∈ snakeChars s.toList, IsSnake c := fun c hc => isSnake_of_mem_snakeChars h hc
    rw [← String.toList_inj, toList_snakeCase, toList_snakeCase]
    refine ⟨snakeChars_eq_self hsnake, fun c hc => ?_⟩
    have hc := hsnake c hc
    exact ⟨hc.isUpperCase_eq, hc.isBlank_eq, hc.ne_hyphen⟩

/-- A name whose words end in digits, and a text with gaps and capitals of every kind. -/
theorem snakeCase_label :
    snakeCase (pascalCase "get_h2_of_x1") = "get_h2_of_x1" ∧
      snakeCase (camelCase "get_h2_of_x1") = "get_h2_of_x1" ∧
      IsAscii "HTTPServer -  myX".toList ∧ snakeCase "HTTPServer -  myX" = "http_server_my_x" ∧
      snakeCase "http_server_my_x" = "http_server_my_x" := by
  obtain ⟨hback, hfixed⟩ := snakeCase_inverts
  let words : List NameWord :=
    [⟨'g', "et".toList, rfl, by simp, by simp [isSlugChar]⟩,
      ⟨'h', "2".toList, rfl, by simp, by simp [isSlugChar]⟩,
      ⟨'o', "f".toList, rfl, by simp, by simp [isSlugChar]⟩,
      ⟨'x', "1".toList, rfl, by simp, by simp [isSlugChar]⟩]
  have hname : joinWith "_" (words.map NameWord.text) = "get_h2_of_x1" := by decide +kernel
  have hwords := hback words
  have hascii : IsAscii "HTTPServer -  myX".toList := by simp [IsAscii]
  have hsnake : snakeCase "HTTPServer -  myX" = "http_server_my_x" := by decide +kernel
  have hagain := (hfixed "HTTPServer -  myX" hascii).1
  rw [hname] at hwords
  rw [hsnake] at hagain
  exact ⟨hwords.1, hwords.2, hascii, hsnake, hagain⟩

end Stencil.Naming
