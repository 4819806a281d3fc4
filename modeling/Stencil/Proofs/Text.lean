import Mathlib.Data.List.Basic
import Stencil.Text.CaseMap
import Stencil.Text.Utf8
import Stencil.Text.Words

/-!
Texts as bytes, in lower case and as lines. A text that is encoded as UTF-8 is read back as it was:
reading takes one character at a time, and the bytes of one character are read as that character,
whatever comes after them. In lower case only a sigma depends on what stands around it; any other
end of a text is lowered as it would be alone, and an ASCII text character by character. Pieces that
are joined by a separator are split again. A text that does not start with white space has something
on its first line.
-/
namespace Stencil.Text

/-! Bytes. -/

theorem val_range (c : Char) :
    c.val.toNat < 0xD800 ∨ 0xDFFF < c.val.toNat ∧ c.val.toNat < 0x110000 := c.valid

theorem toNat_ofNat_of_lt {n : Nat} (h : n < 256) : (UInt8.ofNat n).toNat = n := by
  simp [Nat.mod_eq_of_lt h]

private theorem lt_iff {a b : UInt8} : a < b ↔ a.toNat < b.toNat := UInt8.lt_iff_toNat_lt

theorem isContinuation_iff {b : UInt8} :
    isContinuation b = true ↔ 0x80 ≤ b.toNat ∧ b.toNat ≤ 0xBF := by
  simp only [isContinuation, Bool.and_eq_true, decide_eq_true_eq, UInt8.le_iff_toNat_le]
  exact Iff.rfl

/-- Which bytes may come second, in numbers. -/
theorem secondOk_of_range {a b : UInt8} (hb : 0x80 ≤ b.toNat ∧ b.toNat ≤ 0xBF)
    (h₁ : a.toNat = 0xE0 → 0xA0 ≤ b.toNat) (h₂ : a.toNat = 0xED → b.toNat ≤ 0x9F)
    (h₃ : a.toNat = 0xF0 → 0x90 ≤ b.toNat) (h₄ : a.toNat = 0xF4 → b.toNat ≤ 0x8F) :
    secondOk a b = true := by
  unfold secondOk
  simp only [beq_iff_eq, ← UInt8.toNat_inj]
  split
  · rename_i h
    simp only [Bool.and_eq_true, decide_eq_true_eq, UInt8.le_iff_toNat_le]
    exact ⟨h₁ h, hb.2⟩
  · split
    · rename_i h
      simp only [Bool.and_eq_true, decide_eq_true_eq, UInt8.le_iff_toNat_le]
      exact ⟨hb.1, h₂ h⟩
    · split
      · rename_i h
        simp only [Bool.and_eq_true, decide_eq_true_eq, UInt8.le_iff_toNat_le]
        exact ⟨h₃ h, hb.2⟩
      · split
        · rename_i h
          simp only [Bool.and_eq_true, decide_eq_true_eq, UInt8.le_iff_toNat_le]
          exact ⟨hb.1, h₄ h⟩
        · exact isContinuation_iff.mpr hb

section Step

variable {a b d e : UInt8} {v : Nat}

theorem utf8Step_two (ha : a.toNat = v / 64 + 192) (hb : b.toNat = v % 64 + 128)
    (hl : 0x80 ≤ v) (hu : v ≤ 0x7FF) (rest : List UInt8) :
    utf8Step a (b :: rest) = .char (Char.ofNat v) 2 := by
  have hsecond : secondOk a b = true := secondOk_of_range (by omega) (by omega) (by omega)
    (by omega) (by omega)
  have h80 : ¬a < 0x80 := by rw [lt_iff, ha]; simp
  have hC2 : ¬a < 0xC2 := by rw [lt_iff, ha]; simp; omega
  have hF4 : ¬0xF4 < a := by rw [lt_iff, ha]; simp; omega
  have hE0 : a < 0xE0 := by rw [lt_iff, ha]; simp; omega
  have hv : a.toNat % 32 * 64 + bits b = v := by
    rw [bits, ha, hb]
    omega
  unfold utf8Step
  simp [h80, hC2, hF4, hE0, hsecond, hv]

theorem utf8Step_three (ha : a.toNat = v / 4096 + 224) (hb : b.toNat = v / 64 % 64 + 128)
    (hd : d.toNat = v % 64 + 128) (hl : 0x800 ≤ v) (hu : v ≤ 0xFFFF)
    (hs : v < 0xD800 ∨ 0xDFFF < v) (rest : List UInt8) :
    utf8Step a (b :: d :: rest) = .char (Char.ofNat v) 3 := by
  have hsecond : secondOk a b = true := secondOk_of_range (by omega) (by omega) (by omega)
    (by omega) (by omega)
  have hthird : isContinuation d = true := isContinuation_iff.mpr (by omega)
  have h80 : ¬a < 0x80 := by rw [lt_iff, ha]; simp
  have hC2 : ¬a < 0xC2 := by rw [lt_iff, ha]; simp
  have hF4 : ¬0xF4 < a := by rw [lt_iff, ha]; simp; omega
  have hE0 : ¬a < 0xE0 := by rw [lt_iff, ha]; simp
  have hF0 : a < 0xF0 := by rw [lt_iff, ha]; simp; omega
  have hv : (a.toNat % 16 * 64 + bits b) * 64 + bits d = v := by
    rw [bits, bits, ha, hb, hd]
    omega
  unfold utf8Step
  simp [h80, hC2, hF4, hE0, hF0, hsecond, hthird, hv]

theorem utf8Step_four (ha : a.toNat = v / 262144 + 240) (hb : b.toNat = v / 4096 % 64 + 128)
    (hd : d.toNat = v / 64 % 64 + 128) (he : e.toNat = v % 64 + 128) (hl : 0x10000 ≤ v)
    (hu : v < 0x110000) (rest : List UInt8) :
    utf8Step a (b :: d :: e :: rest) = .char (Char.ofNat v) 4 := by
  have hsecond : secondOk a b = true := secondOk_of_range (by omega) (by omega) (by omega)
    (by omega) (by omega)
  have hthird : isContinuation d = true := isContinuation_iff.mpr (by omega)
  have hfourth : isContinuation e = true := isContinuation_iff.mpr (by omega)
  have h80 : ¬a < 0x80 := by rw [lt_iff, ha]; simp
  have hC2 : ¬a < 0xC2 := by rw [lt_iff, ha]; simp
  have hF4 : ¬0xF4 < a := by rw [lt_iff, ha]; simp; omega
  have hE0 : ¬a < 0xE0 := by rw [lt_iff, ha]; simp
  have hF0 : ¬a < 0xF0 := by rw [lt_iff, ha]; simp
  have hv : ((a.toNat % 8 * 64 + bits b) * 64 + bits d) * 64 + bits e = v := by
    rw [bits, bits, bits, ha, hb, hd, he]
    omega
  unfold utf8Step
  simp [h80, hC2, hF4, hE0, hF0, hsecond, hthird, hfourth, hv]

end Step

/-- The bytes of a character are read as the character. -/
theorem utf8Step_encode (c : Char) (tail : List UInt8) : ∃ b rest,
    String.utf8EncodeChar c = b :: rest ∧
      utf8Step b (rest ++ tail) = .char c (rest.length + 1) := by
  have hc := val_range c
  have hchar : Char.ofNat c.val.toNat = c := Char.ofNat_toNat c
  unfold String.utf8EncodeChar
  generalize c.val.toNat = v at hc hchar
  subst hchar
  have hbyte : ∀ n, (UInt8.ofNat (n % 64 + 128)).toNat = n % 64 + 128 := fun n =>
    toNat_ofNat_of_lt (by omega)
  dsimp only
  split
  · rename_i h
    refine ⟨_, _, rfl, ?_⟩
    have hb : (UInt8.ofNat v).toNat = v := toNat_ofNat_of_lt (by omega)
    unfold utf8Step
    rw [if_pos (by rw [lt_iff, hb]; exact Nat.lt_succ_of_le h), hb]
    rfl
  · split
    · refine ⟨_, _, rfl, utf8Step_two ?_ (hbyte v) (by omega) (by omega) _⟩
      rw [toNat_ofNat_of_lt (by omega)]
      omega
    · split
      · refine ⟨_, _, rfl, utf8Step_three ?_ (hbyte _) (hbyte v) (by omega) (by omega)
          (by omega) _⟩
        rw [toNat_ofNat_of_lt (by omega)]
        omega
      · refine ⟨_, _, rfl, utf8Step_four ?_ (hbyte _) (hbyte _) (hbyte v) (by omega)
          (by omega) _⟩
        rw [toNat_ofNat_of_lt (by omega)]
        omega

theorem decodeLoop_encode (cs : List Char) (fuel pos : Nat) (out : List Char)
    (hf : cs.length < fuel) :
    decodeLoop fuel pos (cs.flatMap String.utf8EncodeChar) out = .ok (out.reverse ++ cs) := by
  induction cs generalizing fuel pos out with
  | nil =>
    cases fuel with
    | zero => omega
    | succ fuel => simp [decodeLoop]
  | cons c rest ih =>
    cases fuel with
    | zero => omega
    | succ fuel =>
      obtain ⟨b, more, hb, hstep⟩ := utf8Step_encode c (rest.flatMap String.utf8EncodeChar)
      rw [List.flatMap_cons, hb, List.cons_append, decodeLoop]
      simp only [hstep, Nat.add_sub_cancel, List.drop_left]
      rw [ih fuel _ _ (by simpa using hf)]
      simp

private theorem toList_loop (bs : ByteArray) (i : Nat) (out : List UInt8) :
    ByteArray.toList.loop bs i out = out.reverse ++ bs.data.toList.drop i := by
  fun_induction ByteArray.toList.loop bs i out with
  | case1 i out h ih =>
    have hi : i < bs.data.toList.length := h
    have hget : bs.get! i = bs.data.toList[i] := getElem!_pos bs.data i h
    rw [ih, List.drop_eq_getElem_cons hi, hget]
    simp
  | case2 i out h =>
    have hi : bs.data.toList.length ≤ i := Nat.le_of_not_lt h
    simp [List.drop_eq_nil_of_le hi]

theorem encodeUtf8_eq (s : String) : encodeUtf8 s = s.toList.flatMap String.utf8EncodeChar := by
  have hbytes : s.toUTF8 = s.toList.utf8Encode := (String.utf8Encode_toList).symm
  rw [encodeUtf8, hbytes, ByteArray.toList, toList_loop, List.utf8Encode]
  simp

theorem length_le_encode (cs : List Char) :
    cs.length ≤ (cs.flatMap String.utf8EncodeChar).length := by
  induction cs with
  | nil => simp
  | cons c rest ih =>
    obtain ⟨b, more, hb, _⟩ := utf8Step_encode c []
    rw [List.flatMap_cons, hb, List.length_append, List.length_cons, List.length_cons]
    omega

/-- A text is read back from its bytes. -/
theorem decodeUtf8_encodeUtf8 (s : String) : decodeUtf8 (encodeUtf8 s) = .ok s := by
  rw [decodeUtf8, encodeUtf8_eq,
    decodeLoop_encode _ _ _ _ (Nat.lt_succ_of_le (length_le_encode s.toList))]
  simp [Except.map]

/-- A text without carriage returns keeps its lines. -/
theorem universalNewlines_eq {cs : List Char} (h : '\r' ∉ cs) : universalNewlines cs = cs := by
  fun_induction universalNewlines cs with
  | case1 => rfl
  | case2 rest => simp at h
  | case3 rest => simp at h
  | case4 c rest _ _ ih => rw [ih fun hr => h (List.mem_cons_of_mem _ hr)]

/-! Lower case. -/

/-- What comes last is lowered as it stands, unless it holds a sigma. -/
private theorem lowerFrom_suffix {cs : List Char} (hs : 'σ' ∉ lowerFrom [] cs)
    (hf : 'ς' ∉ lowerFrom [] cs) (before : List Char) : lowerFrom before cs = lowerFrom [] cs := by
  have main : ∀ (cs b b' : List Char), 'σ' ∉ lowerFrom b cs → 'ς' ∉ lowerFrom b cs →
      lowerFrom b' cs = lowerFrom b cs := by
    intro cs
    induction cs with
    | nil => intro _ _ _ _; rfl
    | cons c rest ih =>
      intro b b' hs hf
      simp only [lowerFrom, List.mem_append, not_or] at hs hf ⊢
      by_cases hc : c = 'Σ'
      · exfalso
        simp only [hc, beq_self_eq_true, if_true] at hs hf
        split at hs
        · rename_i h
          simp [h] at hf
        · simp at hs
      · rw [if_neg (by simpa using hc), if_neg (by simpa using hc), ih _ _ hs.2 hf.2]
  exact main cs [] before hs hf

/-- Lowering a text lowers its end. -/
theorem lowerChars_append {xs ys : List Char} (hs : 'σ' ∉ lowerChars ys)
    (hf : 'ς' ∉ lowerChars ys) : ∃ front, lowerChars (xs ++ ys) = front ++ lowerChars ys := by
  have main : ∀ (xs before : List Char),
      ∃ front, lowerFrom before (xs ++ ys) = front ++ lowerFrom [] ys := by
    intro xs
    induction xs with
    | nil => exact fun before => ⟨[], by rw [List.nil_append, lowerFrom_suffix hs hf]; rfl⟩
    | cons c rest ih =>
      intro before
      obtain ⟨front, hfront⟩ := ih (c :: before)
      rw [List.cons_append, lowerFrom, hfront]
      exact ⟨_, (List.append_assoc ..).symm⟩
  exact main xs []

/-! ASCII texts. -/

/-- Only characters below the first 128. -/
def IsAscii (cs : List Char) : Prop := ∀ c ∈ cs, c.toNat < 128

theorem lowerChar_ascii {c : Char} (hc : c.toNat < 128) : lowerChar c = [c.toLower] := if_pos hc

theorem upperChar_ascii {c : Char} (hc : c.toNat < 128) : upperChar c = [c.toUpper] := if_pos hc

theorem lowerFrom_ascii {cs : List Char} (h : IsAscii cs) (before : List Char) :
    lowerFrom before cs = cs.map Char.toLower := by
  induction cs generalizing before with
  | nil => rfl
  | cons c cs ih =>
    have hc : c.toNat < 128 := h c List.mem_cons_self
    have hsigma : c ≠ 'Σ' := by
      rintro rfl
      exact absurd hc (by decide)
    rw [lowerFrom, if_neg (by simpa using hsigma), lowerChar_ascii hc,
      ih fun d hd => h d (List.mem_cons_of_mem c hd)]
    rfl

theorem lowerChars_ascii {cs : List Char} (h : IsAscii cs) :
    lowerChars cs = cs.map Char.toLower := lowerFrom_ascii h []

/-! Trimming. -/

/-- Trimming takes a run away at each end. -/
theorem trimBy_split (p : Char → Bool) (cs : List Char) : ∃ before after,
    cs = before ++ trimBy p cs ++ after ∧ ∀ c ∈ before ++ after, p c = true := by
  refine ⟨cs.takeWhile p, ((cs.dropWhile p).reverse.takeWhile p).reverse, ?_, ?_⟩
  · have hright : trimBy p cs ++ ((cs.dropWhile p).reverse.takeWhile p).reverse =
        cs.dropWhile p := by
      rw [trimBy, trimRightBy, trimLeftBy, ← List.reverse_append, List.takeWhile_append_dropWhile,
        List.reverse_reverse]
    rw [List.append_assoc, hright, List.takeWhile_append_dropWhile]
  · intro c hc
    rcases List.mem_append.mp hc with hc | hc
    · exact List.all_eq_true.mp List.all_takeWhile c hc
    · exact List.all_eq_true.mp List.all_takeWhile c (List.mem_reverse.mp hc)

theorem trimBy_head {p : Char → Bool} {c : Char} {cs : List Char}
    (h : (trimBy p cs).head? = some c) : p c = false := by
  have hprefix : trimBy p cs <+: cs.dropWhile p := by
    rw [trimBy, trimRightBy, ← List.reverse_suffix, List.reverse_reverse]
    exact List.dropWhile_suffix p
  obtain ⟨tail, htail⟩ := hprefix
  have hnot := List.head?_dropWhile_not p cs
  rw [← htail, List.head?_append, h] at hnot
  exact hnot

theorem trimBy_getLast {p : Char → Bool} {c : Char} {cs : List Char}
    (h : (trimBy p cs).getLast? = some c) : p c = false := by
  rw [trimBy, trimRightBy, List.getLast?_reverse] at h
  have hnot := List.head?_dropWhile_not p (trimLeftBy p cs).reverse
  rw [h] at hnot
  exact hnot

theorem dropWhile_eq_self {p : Char → Bool} {cs : List Char}
    (h : ∀ c, cs.head? = some c → p c = false) : cs.dropWhile p = cs := by
  cases cs with
  | nil => rfl
  | cons c rest => rw [List.dropWhile_cons_of_neg (by simp [h c rfl])]

/-- Trimming takes away all that is to be taken away before and behind the rest. -/
theorem trimBy_append {p : Char → Bool} {before cs after : List Char}
    (hbefore : ∀ c ∈ before, p c = true) (hafter : ∀ c ∈ after, p c = true)
    (hfirst : ∀ c, cs.head? = some c → p c = false)
    (hlast : ∀ c, cs.getLast? = some c → p c = false) :
    trimBy p (before ++ cs ++ after) = cs := by
  rw [trimBy, trimLeftBy, List.append_assoc, List.dropWhile_append_of_pos hbefore]
  cases cs with
  | nil =>
    have hall : (after ++ []).dropWhile p = [] := List.dropWhile_append_of_pos hafter
    rw [List.append_nil] at hall
    rw [List.nil_append, hall]
    rfl
  | cons c rest =>
    have hback : ∀ d, (c :: rest).reverse.head? = some d → p d = false := by
      intro d hd
      rw [List.head?_reverse] at hd
      exact hlast d hd
    rw [List.cons_append, List.dropWhile_cons_of_neg (by simp [hfirst c rfl]), trimRightBy,
      ← List.cons_append, List.reverse_append, List.dropWhile_append_of_pos (by simpa using hafter),
      dropWhile_eq_self hback, List.reverse_reverse]

/-- Where nothing is to be taken away at either end, trimming changes nothing. -/
theorem trimBy_eq_self {p : Char → Bool} {cs : List Char}
    (hfirst : ∀ c, cs.head? = some c → p c = false)
    (hlast : ∀ c, cs.getLast? = some c → p c = false) : trimBy p cs = cs := by
  have hnone : ∀ c ∈ ([] : List Char), p c = true := by simp
  simpa using trimBy_append hnone hnone hfirst hlast

/-! Pieces and ends. -/

theorem exists_of_endsWith {s suffix : String} (h : s.endsWith suffix = true) :
    ∃ front, s = front ++ suffix := by
  have hslice : s.toSlice.endsWith suffix = true := h
  cases hd : s.toSlice.dropSuffix? suffix with
  | none =>
    rw [String.Slice.dropSuffix?_eq_none_iff, hslice] at hd
    cases hd
  | some front =>
    obtain ⟨t, ht, heq⟩ := String.Slice.Pattern.Model.eq_append_of_dropSuffix?_eq_some hd
    simp only [String.Slice.Pattern.Model.PatternModel.Matches] at ht
    refine ⟨front.copy, ?_⟩
    simpa [ht] using heq

theorem splitOnChar_ne_nil (sep : Char) (cs : List Char) : splitOnChar sep cs ≠ [] := by
  induction cs with
  | nil => simp [splitOnChar]
  | cons c rest ih =>
    rw [splitOnChar]
    split
    · simp
    · cases hrest : splitOnChar sep rest with
      | nil => exact absurd hrest ih
      | cons w ws => exact List.cons_ne_nil (c :: w) ws

theorem splitOnChar_nil (sep : Char) : splitOnChar sep [] = [[]] := rfl

theorem splitOnChar_sep (sep : Char) (cs : List Char) :
    splitOnChar sep (sep :: cs) = [] :: splitOnChar sep cs := by
  rw [splitOnChar, if_pos (by simp)]

theorem splitOnChar_cons {sep c : Char} (h : c ≠ sep) (cs : List Char) : ∃ w ws,
    splitOnChar sep cs = w :: ws ∧ splitOnChar sep (c :: cs) = (c :: w) :: ws := by
  cases hcs : splitOnChar sep cs with
  | nil => exact absurd hcs (splitOnChar_ne_nil sep cs)
  | cons w ws =>
    refine ⟨w, ws, rfl, ?_⟩
    rw [splitOnChar, if_neg (by simpa using h), hcs]
    rfl

/-- The pieces of a text stand at the beginning of those of another one where the two are equal, and
where the other one goes on with a separator behind it. -/
theorem splitOnChar_prefix_iff {sep : Char} {xs cs : List Char} :
    splitOnChar sep xs <+: splitOnChar sep cs ↔ cs = xs ∨ xs ++ [sep] <+: cs := by
  induction xs generalizing cs with
  | nil =>
    rw [splitOnChar_nil]
    cases cs with
    | nil => simp [splitOnChar_nil]
    | cons c cs =>
      by_cases hc : c = sep
      · subst hc
        simp [splitOnChar_sep]
      · obtain ⟨w, ws, _, hsplit⟩ := splitOnChar_cons hc cs
        simp [hsplit, Ne.symm hc]
  | cons x xs ih =>
    by_cases hx : x = sep
    · subst hx
      rw [splitOnChar_sep]
      cases cs with
      | nil => simp [splitOnChar_nil, splitOnChar_ne_nil]
      | cons c cs =>
        by_cases hc : c = x
        · subst hc
          simp [splitOnChar_sep, ih]
        · obtain ⟨w, ws, _, hsplit⟩ := splitOnChar_cons hc cs
          simp [hsplit, hc, Ne.symm hc]
    · obtain ⟨v, vs, hxs, hx'⟩ := splitOnChar_cons hx xs
      rw [hx']
      cases cs with
      | nil => simp [splitOnChar_nil]
      | cons c cs =>
        by_cases hc : c = sep
        · subst hc
          simp [splitOnChar_sep, hx, Ne.symm hx]
        · obtain ⟨w, ws, hcs, hsplit⟩ := splitOnChar_cons hc cs
          have hih := @ih cs
          rw [hxs, hcs, List.cons_prefix_cons] at hih
          rw [hsplit, List.cons_prefix_cons, List.cons.injEq, and_assoc, hih, List.cons_append,
            List.cons_prefix_cons, List.cons.injEq, and_or_left, @eq_comm _ c x]

/-- Without separators there is one piece. -/
theorem splitOnChar_of_notMem {sep : Char} {cs : List Char} (h : sep ∉ cs) :
    splitOnChar sep cs = [cs] := by
  induction cs with
  | nil => rfl
  | cons c rest ih =>
    simp only [List.mem_cons, not_or] at h
    obtain ⟨w, ws, hrest, heq⟩ := splitOnChar_cons (Ne.symm h.1) rest
    rw [ih h.2] at hrest
    cases hrest
    exact heq

/-- A separator cuts the pieces before it from those behind it. -/
theorem splitOnChar_append_sep (sep : Char) (xs ys : List Char) :
    splitOnChar sep (xs ++ sep :: ys) = splitOnChar sep xs ++ splitOnChar sep ys := by
  induction xs with
  | nil => rw [List.nil_append, splitOnChar_sep, splitOnChar_nil, List.singleton_append]
  | cons x xs ih =>
    by_cases hx : x = sep
    · subst hx
      rw [List.cons_append, splitOnChar_sep, splitOnChar_sep, ih, List.cons_append]
    · obtain ⟨w, ws, hxs, hsplit⟩ := splitOnChar_cons hx xs
      obtain ⟨v, vs, hall, hsplit'⟩ := splitOnChar_cons hx (xs ++ sep :: ys)
      rw [ih, hxs, List.cons_append] at hall
      cases hall
      rw [List.cons_append, hsplit', hsplit, List.cons_append]

theorem intercalate_cons (d : Char) (w : List Char) (ws : List (List Char)) :
    [d].intercalate (w :: ws) = w ++ ws.flatMap fun v => d :: v := by
  induction ws generalizing w with
  | nil => simp
  | cons v ws ih =>
    rw [List.intercalate_cons_cons, ih v, List.flatMap_cons, List.append_assoc,
      List.singleton_append, List.cons_append]

theorem toList_joinWith (sep : String) (parts : List String) :
    (joinWith sep parts).toList = sep.toList.intercalate (parts.map String.toList) :=
  String.toList_intercalate

/-- Pieces without separators that are joined by one are split again. -/
theorem splitOnChar_intercalate {sep : Char} {parts : List (List Char)} (hne : parts ≠ [])
    (h : ∀ p ∈ parts, sep ∉ p) : splitOnChar sep ([sep].intercalate parts) = parts := by
  induction parts with
  | nil => exact absurd rfl hne
  | cons p parts ih =>
    have hp : sep ∉ p := h p List.mem_cons_self
    cases parts with
    | nil => rw [List.intercalate_singleton, splitOnChar_of_notMem hp]
    | cons q parts =>
      have hrest := ih (List.cons_ne_nil q parts) fun r hr => h r (List.mem_cons_of_mem p hr)
      rw [List.intercalate_cons_cons, List.append_assoc, List.singleton_append,
        splitOnChar_append_sep, splitOnChar_of_notMem hp, hrest]
      rfl

theorem bne_of_mem {sep : Char} {cs : List Char} (h : sep ∉ cs) : ∀ c ∈ cs, (c != sep) = true := by
  intro c hc
  rw [bne_iff_ne]
  rintro rfl
  exact h hc

/-- What stands behind the last separator. -/
theorem reverse_takeWhile_append {sep : Char} {ys : List Char} (h : sep ∉ ys) (xs : List Char) :
    ((xs ++ sep :: ys).reverse.takeWhile (· != sep)).reverse = ys := by
  rw [List.reverse_append, List.reverse_cons, List.append_assoc,
    List.takeWhile_append_of_pos (bne_of_mem (by simpa using h))]
  simp

theorem reverse_takeWhile_of_notMem {sep : Char} {cs : List Char} (h : sep ∉ cs) :
    (cs.reverse.takeWhile (· != sep)).reverse = cs := by
  rw [← List.append_nil cs.reverse, List.takeWhile_append_of_pos (bne_of_mem (by simpa using h))]
  simp

/-- An end without separators is the end of the last piece. -/
theorem splitOnChar_append {sep : Char} {tail : List Char} (h : sep ∉ tail) (cs : List Char) :
    ∃ front last, splitOnChar sep (cs ++ tail) = front ++ [last ++ tail] := by
  induction cs with
  | nil => exact ⟨[], [], splitOnChar_of_notMem h⟩
  | cons c rest ih =>
    obtain ⟨front, last, hsplit⟩ := ih
    by_cases hc : c = sep
    · subst hc
      refine ⟨[] :: front, last, ?_⟩
      rw [List.cons_append, splitOnChar, if_pos (by simp), hsplit]
      rfl
    · obtain ⟨w, ws, hrest, heq⟩ := splitOnChar_cons hc (rest ++ tail)
      rw [List.cons_append, heq]
      rw [hsplit] at hrest
      cases front with
      | nil =>
        cases hrest
        exact ⟨[], c :: last, rfl⟩
      | cons x xs =>
        cases hrest
        exact ⟨(c :: w) :: xs, last, rfl⟩

/-- A text of more than one character is neither empty nor a dot. -/
theorem bne_of_length {s : String} (h : 1 < s.length) : (s != "" && s != ".") = true := by
  have hne : ∀ x : String, x.length ≤ 1 → s ≠ x := by
    rintro _ hle rfl
    omega
  simp only [Bool.and_eq_true, bne_iff_ne]
  exact ⟨hne "" (by decide), hne "." (by decide)⟩

/-! Lines. -/

/-- Once there is something on a line, it is one of the lines. -/
theorem exists_line_from {back : List Char} (h : back ≠ []) (cs : List Char) :
    ∃ line ∈ linesFrom false back cs, line ≠ [] := by
  have hback : back.reverse ≠ [] := by simpa using h
  induction cs generalizing back with
  | nil => exact ⟨back.reverse, by simp [linesFrom, h], hback⟩
  | cons c rest ih =>
    unfold linesFrom
    split
    · rename_i heq
      cases heq
    · exact ⟨back.reverse, by simp, hback⟩
    · rename_i heq
      cases heq
      split
      · exact ⟨back.reverse, by simp, hback⟩
      · exact ih (by simp) (by simp)

theorem isBlank_of_isLineEnd {c : Char} (h : isLineEnd c = true) : isBlank c = true := by
  simp only [isLineEnd, isBlank, Bool.or_eq_true, Bool.and_eq_true, decide_eq_true_eq,
    beq_iff_eq] at h ⊢
  omega

/-- A text that does not start with white space. -/
def TrimmedLeft (s : String) : Prop := ∀ c rest, s.toList = c :: rest → isBlank c = false

theorem trimmedLeft_trim (s : String) : TrimmedLeft (trim s) := by
  intro c rest h
  rw [trim, String.toList_ofList, trimBy, trimRightBy] at h
  have hprefix : c :: rest <+: trimLeftBy isBlank s.toList := by
    rw [← h, ← List.reverse_suffix, List.reverse_reverse]
    exact List.dropWhile_suffix _
  obtain ⟨more, hmore⟩ := hprefix
  have hhead := List.head?_dropWhile_not isBlank s.toList
  rw [show s.toList.dropWhile isBlank = c :: (rest ++ more) from hmore.symm] at hhead
  simpa using hhead

/-- A text that does not start with a line end has something on one of its lines. -/
theorem exists_line_of_head {c : Char} (hc : isLineEnd c = false) (rest : List Char) :
    ∃ line ∈ lines false (c :: rest), line ≠ [] := by
  have hstart : lines false (c :: rest) = linesFrom false [c] rest := by
    unfold lines
    rw [linesFrom, if_neg (by simp [hc])]
    rintro tail rfl -
    cases hc
  rw [hstart]
  exact exists_line_from (by simp) rest

theorem exists_line_of_trimmedLeft {s : String} (h : TrimmedLeft s) (hs : s ≠ "") :
    ∃ line ∈ lines false s.toList, line ≠ [] := by
  cases hl : s.toList with
  | nil => exact absurd (String.toList_eq_nil_iff.mp hl) hs
  | cons c rest =>
    refine exists_line_of_head ?_ rest
    by_contra hc
    have hblank := isBlank_of_isLineEnd (by simpa using hc)
    rw [h c rest hl] at hblank
    cases hblank

end Stencil.Text
