import Mathlib.Algebra.Order.Floor.Semifield
import Mathlib.Algebra.Ring.Parity
import Mathlib.Data.Rat.Floor
import Mathlib.Tactic.FieldSimp
import Mathlib.Tactic.Linarith
import Mathlib.Tactic.Ring
import Stencil.Duration
import Stencil.Proofs.Text

/-!
Durations read back from their texts. A text is fields with a unit behind each, so what it shows can
be read from it: hours, minutes, and seconds with or without a place. What is shown is a normal form
that is near the span and keeps the order of spans, since rounding to the nearest whole number does.
One carry is missing: a span that is rounded up to a minute shows sixty seconds and no minute.
-/
namespace Stencil.Decimal
open Stencil.Text

section Rounding

variable {num den num' den' : Nat}

/-- Twice the quotient lies between the odd numbers beside twice the result, and where it is one of
them the result is even. -/
theorem roundDiv_bounds (hden : 0 < den) (num : Nat) :
    2 * num ≤ 2 * (den * roundDiv num den) + den ∧
      2 * (den * roundDiv num den) ≤ 2 * num + den ∧
      (2 * num = 2 * (den * roundDiv num den) + den ∨
        2 * (den * roundDiv num den) = 2 * num + den → Even (roundDiv num den)) := by
  have hsplit := Nat.div_add_mod num den
  have hmod := Nat.mod_lt num hden
  have hnext : den * (num / den + 1) = den * (num / den) + den := Nat.mul_succ _ _
  unfold roundDiv
  dsimp only
  split
  · omega
  · split
    · rw [hnext]
      omega
    · split
      · rename_i heven
        have heven : num / den % 2 = 0 := by simpa using heven
        exact ⟨by omega, by omega, fun _ => Nat.even_iff.mpr heven⟩
      · rename_i hodd
        have hodd : num / den % 2 = 1 := by simpa using hodd
        rw [hnext]
        exact ⟨by omega, by omega, fun _ => Nat.even_iff.mpr (by omega)⟩

/-- A rounded quotient is at most a half away. -/
theorem roundDiv_near (hden : 0 < den) (num : Nat) :
    |(roundDiv num den : ℚ) - num / den| ≤ 1 / 2 := by
  obtain ⟨hlow, hhigh, -⟩ := roundDiv_bounds hden num
  have hd : (0 : ℚ) < den := by exact_mod_cast hden
  have hlow : (2 * num : ℚ) ≤ 2 * (den * roundDiv num den) + den := by exact_mod_cast hlow
  have hhigh : (2 * (den * roundDiv num den) : ℚ) ≤ 2 * num + den := by exact_mod_cast hhigh
  have hquot : (num : ℚ) = num / den * den := by field_simp
  rw [abs_le]
  constructor
  · have h : (num / den : ℚ) * den ≤ (roundDiv num den + 1 / 2) * den := by linarith
    linarith [le_of_mul_le_mul_right h hd]
  · have h : ((roundDiv num den : ℚ) - 1 / 2) * den ≤ num / den * den := by linarith
    linarith [le_of_mul_le_mul_right h hd]

/-- A half goes to the even neighbour. -/
theorem even_roundDiv (hden : 0 < den) (h : |(roundDiv num den : ℚ) - num / den| = 1 / 2) :
    Even (roundDiv num den) := by
  have hd : (den : ℚ) ≠ 0 := by exact_mod_cast hden.ne'
  apply (roundDiv_bounds hden num).2.2
  rcases (abs_eq (by norm_num)).mp h with h | h
  · right
    have hcast : (2 * (den * roundDiv num den) : ℚ) = 2 * num + den := by
      field_simp at h
      linarith
    exact_mod_cast hcast
  · left
    have hcast : (2 * num : ℚ) = 2 * (den * roundDiv num den) + den := by
      field_simp at h
      linarith
    exact_mod_cast hcast

/-- Two numbers that are rounded keep their order. -/
theorem roundDiv_mono (hden : 0 < den) (hden' : 0 < den')
    (h : (num : ℚ) / den ≤ (num' : ℚ) / den') : roundDiv num den ≤ roundDiv num' den' := by
  by_contra hlt
  rw [not_le] at hlt
  have hnear := abs_le.mp (roundDiv_near hden num)
  have hnear' := abs_le.mp (roundDiv_near hden' num')
  have hgap : (roundDiv num' den' : ℚ) + 1 ≤ roundDiv num den := by exact_mod_cast hlt
  -- no room is left between the two, so both are halves and even, but neighbours
  have hhalf : (roundDiv num den : ℚ) - num / den = 1 / 2 := by linarith
  have hhalf' : (roundDiv num' den' : ℚ) - num' / den' = -(1 / 2) := by linarith
  have heven : Even (roundDiv num den) := even_roundDiv hden (by rw [hhalf]; norm_num)
  have heven' : Even (roundDiv num' den') := even_roundDiv hden' (by rw [hhalf']; norm_num)
  have hnext : (roundDiv num den : ℚ) = roundDiv num' den' + 1 := by linarith
  have hnext : roundDiv num den = roundDiv num' den' + 1 := by exact_mod_cast hnext
  rw [hnext, Nat.even_add_one] at heven
  exact heven heven'

/-- What reaches an even number when rounded is at most a half below it. -/
theorem le_roundDiv_iff (hden : 0 < den) (num : Nat) {n : Nat} (hn : Even n) :
    n ≤ roundDiv num den ↔ (n : ℚ) - 1 / 2 ≤ (num : ℚ) / den := by
  have hnear := abs_le.mp (roundDiv_near hden num)
  constructor
  · intro h
    have hcast : (n : ℚ) ≤ roundDiv num den := by exact_mod_cast h
    linarith
  · intro h
    by_contra hlt
    rw [not_le] at hlt
    have hgap : (roundDiv num den : ℚ) + 1 ≤ n := by exact_mod_cast hlt
    have hhalf : (roundDiv num den : ℚ) - num / den = -(1 / 2) := by linarith
    have heven : Even (roundDiv num den) := even_roundDiv hden (by rw [hhalf]; norm_num)
    have hnext : (n : ℚ) = (roundDiv num den + 1 : Nat) := by
      push_cast
      linarith
    have hnext : n = roundDiv num den + 1 := by exact_mod_cast hnext
    rw [hnext, Nat.even_add_one] at hn
    exact hn heven

end Rounding

/-- A number with one place: the digits of its tenths, and a point before the last of them. -/
theorem fixedRatio_one (num den : Nat) :
    fixedRatio 1 num den = natDigits (roundDiv (num * 10) den / 10) ++
      ['.', (roundDiv (num * 10) den % 10).digitChar] := by
  have hdigits : ∀ t : Nat, padLeft 2 '0' (natDigits t) =
      natDigits (t / 10) ++ [(t % 10).digitChar] := by
    intro t
    unfold natDigits padLeft
    by_cases ht : t < 10
    · rw [Nat.toDigits_of_lt_base ht, Nat.div_eq_of_lt ht, Nat.mod_eq_of_lt ht]
      rfl
    · have hlen := Nat.length_toDigits_pos (b := 10) (n := t / 10)
      rw [Nat.toDigits_of_base_le (by omega) (by omega)]
      simp [show 2 - ((Nat.toDigits 10 (t / 10)).length + 1) = 0 by omega]
  rw [fixedRatio]
  simp [hdigits]

end Stencil.Decimal

namespace Stencil.Duration
open Stencil.Text

/-- What a text of a span shows: hours and minutes where it has them, and seconds in tenths. -/
structure Reading where
  hours : Option Nat
  minutes : Option Nat
  tenths : Nat
  deriving DecidableEq, Repr

namespace Reading

def digits? (cs : List Char) : Option Nat :=
  if cs ≠ [] ∧ cs.all Char.isDigit then some (Nat.ofDigitChars 10 cs 0) else none

/-- A whole number with a unit behind it. -/
def amount? (unit : Char) (field : List Char) : Option Nat :=
  if field.getLast? = some unit then digits? field.dropLast else none

/-- Seconds, whole or with one place. -/
def seconds? (field : List Char) : Option Nat :=
  if field.getLast? = some 's' then
    match splitOnChar '.' field.dropLast with
    | [whole] => (digits? whole).map (10 * ·)
    | [whole, [place]] => (digits? whole).bind fun n => (digits? [place]).map (10 * n + ·)
    | _ => none
  else none

/-- The amount that stands first, if it has the unit, and the fields behind it. -/
def takeAmount (unit : Char) : List (List Char) → Option Nat × List (List Char)
  | [] => (none, [])
  | field :: fields =>
    match amount? unit field with
    | some n => (some n, fields)
    | none => (none, field :: fields)

def ofText? (s : String) : Option Reading :=
  let (hours, fields) := takeAmount 'h' (splitOnChar ' ' s.toList)
  let (minutes, fields) := takeAmount 'm' fields
  match fields with
  | [field] => (seconds? field).map (⟨hours, minutes, ·⟩)
  | _ => none

example : ofText? "1h 1m 1s" = some ⟨some 1, some 1, 10⟩ := by decide +kernel

/-- The length that is shown, in seconds. -/
def value (r : Reading) : ℚ := 3600 * r.hours.getD 0 + 60 * r.minutes.getD 0 + r.tenths / 10

/-- Seconds alone are shown. -/
def Brief (r : Reading) : Prop := r.hours = none ∧ r.minutes = none

/-- Only what is positive is shown before the seconds, and no sixty minutes. -/
structure Normal (r : Reading) : Prop where
  hours_pos : ∀ h ∈ r.hours, 0 < h
  minutes_pos : ∀ m ∈ r.minutes, 0 < m
  minutes_lt : ∀ m ∈ r.minutes, m < 60

/-! Fields as they are written. -/

theorem digits?_natDigits (n : Nat) : digits? (natDigits n) = some n := by
  have hdigits : (natDigits n).all Char.isDigit = true := by
    rw [List.all_eq_true]
    exact fun c hc => Nat.isDigit_of_mem_toDigits (by omega) (by omega) hc
  rw [digits?, if_pos ⟨Nat.toDigits_ne_nil, hdigits⟩, natDigits, Nat.ofDigitChars_ten_toDigits]

theorem amount?_of_unit (unit : Char) (n : Nat) :
    amount? unit (natDigits n ++ [unit]) = some n := by
  rw [amount?, if_pos List.getLast?_concat, List.dropLast_concat, digits?_natDigits]

theorem amount?_of_ne {unit other : Char} (h : other ≠ unit) (cs : List Char) :
    amount? unit (cs ++ [other]) = none := by
  rw [amount?, if_neg (by simpa using h)]

theorem notMem_natDigits {c : Char} (hc : c.isDigit = false) (n : Nat) : c ∉ natDigits n := by
  intro h
  rw [Nat.isDigit_of_mem_toDigits (by omega) (by omega) h] at hc
  cases hc

theorem seconds?_whole (n : Nat) : seconds? (natDigits n ++ ['s']) = some (10 * n) := by
  rw [seconds?, if_pos List.getLast?_concat, List.dropLast_concat,
    splitOnChar_of_notMem (notMem_natDigits (by decide) n)]
  simp only [digits?_natDigits, Option.map_some]

theorem seconds?_place (num den : Nat) :
    seconds? (Decimal.fixedRatio 1 num den ++ ['s']) = some (Decimal.roundDiv (num * 10) den) := by
  generalize ht : Decimal.roundDiv (num * 10) den = t
  have hplace : [(t % 10).digitChar] = natDigits (t % 10) :=
    (Nat.toDigits_of_lt_base (Nat.mod_lt t (by omega))).symm
  have hsplit : splitOnChar '.' (natDigits (t / 10) ++ '.' :: [(t % 10).digitChar]) =
      [natDigits (t / 10), [(t % 10).digitChar]] := by
    rw [splitOnChar_append_sep, hplace, splitOnChar_of_notMem (notMem_natDigits (by decide) _),
      splitOnChar_of_notMem (notMem_natDigits (by decide) _)]
    rfl
  rw [seconds?, if_pos List.getLast?_concat, List.dropLast_concat, Decimal.fixedRatio_one, ht,
    hsplit]
  simp only [hplace, digits?_natDigits, Option.bind_some, Option.map_some]
  rw [Nat.div_add_mod]

end Reading

/-! Spans as they are written. -/

/-- An amount is written when it is positive. -/
def positive? (n : Nat) : Option Nat := if 0 < n then some n else none

theorem getD_positive? (n : Nat) : (positive? n).getD 0 = n := by
  unfold positive?
  split
  · rfl
  · exact (Nat.eq_zero_of_not_pos ‹_›).symm

theorem positive?_eq_none_iff {n : Nat} : positive? n = none ↔ n = 0 := by
  unfold positive?
  split <;> simp <;> omega

theorem eq_of_mem_positive? {m n : Nat} (h : m ∈ positive? n) : m = n ∧ 0 < n := by
  unfold positive? at h
  split at h
  · exact ⟨(Option.some.inj h).symm, ‹_›⟩
  · cases h

namespace Clock

/-- What the text of a span shows. -/
def reading (c : Clock) : Reading where
  hours := positive? c.hours
  minutes := positive? c.minutes
  tenths := if c.hours > 0 || c.minutes > 0 then 10 * (c.seconds / c.unit)
    else Decimal.roundDiv (c.seconds * 10) c.unit

def secondsField (c : Clock) : List Char :=
  if c.hours > 0 || c.minutes > 0 then natDigits (c.seconds / c.unit)
  else Decimal.fixedRatio 1 c.seconds c.unit

def fields (c : Clock) : List (List Char) :=
  (positive? c.hours).toList.map (natDigits · ++ ['h']) ++
    (positive? c.minutes).toList.map (natDigits · ++ ['m']) ++ [c.secondsField ++ ['s']]

theorem toList_text (c : Clock) : c.text.toList = [' '].intercalate c.fields := by
  have hamount : ∀ (n : Nat) (unit : String),
      (ofNat n ++ unit).toList = natDigits n ++ unit.toList :=
    fun n unit => by rw [String.toList_append, ofNat, String.toList_ofList]
  rw [text, toList_joinWith, fields, secondsField]
  congr 1
  by_cases hh : 0 < c.hours <;> by_cases hm : 0 < c.minutes <;>
    simp [positive?, hh, hm, hamount]

theorem blank_notMem_fields (c : Clock) : ∀ field ∈ c.fields, ' ' ∉ field := by
  have hdigits : ∀ n, ' ' ∉ natDigits n := Reading.notMem_natDigits (by decide)
  have hseconds : ' ' ∉ c.secondsField := by
    rw [secondsField]
    split
    · exact hdigits _
    · rw [Decimal.fixedRatio_one]
      have hplace : ∀ n, ' ' ≠ (n % 10).digitChar := fun n h => by
        have hdigit := Nat.isDigit_digitChar (n := n % 10)
        rw [← h] at hdigit
        simp [Nat.mod_lt] at hdigit
      simp [hdigits, hplace]
  intro field hfield
  simp only [fields, List.mem_append, List.mem_map, List.mem_singleton] at hfield
  rcases hfield with (⟨n, -, rfl⟩ | ⟨n, -, rfl⟩) | rfl
  · simp [hdigits]
  · simp [hdigits]
  · simp [hseconds]

theorem splitOnChar_text (c : Clock) : splitOnChar ' ' c.text.toList = c.fields := by
  have hne : c.fields ≠ [] := by simp [fields]
  rw [toList_text, splitOnChar_intercalate hne c.blank_notMem_fields]

/-- The amount that stands first is read if it was written. -/
theorem takeAmount_field (unit other : Char) (h : other ≠ unit) (n : Nat) (field : List Char)
    (fields : List (List Char)) :
    Reading.takeAmount unit
        ((positive? n).toList.map (natDigits · ++ [unit]) ++ (field ++ [other]) :: fields) =
      (positive? n, (field ++ [other]) :: fields) := by
  cases hn : positive? n with
  | none => simp [Reading.takeAmount, Reading.amount?_of_ne h]
  | some m => simp [Reading.takeAmount, Reading.amount?_of_unit]

theorem seconds?_secondsField (c : Clock) :
    Reading.seconds? (c.secondsField ++ ['s']) = some c.reading.tenths := by
  rw [secondsField, reading]
  dsimp only
  split
  · exact Reading.seconds?_whole _
  · exact Reading.seconds?_place _ _

/-- A text is read as what it was made to show. -/
theorem ofText?_text (c : Clock) : Reading.ofText? c.text = some c.reading := by
  have hminutes := takeAmount_field 'm' 's' (by decide) c.minutes c.secondsField []
  have hhours : Reading.takeAmount 'h' c.fields = (positive? c.hours,
      (positive? c.minutes).toList.map (natDigits · ++ ['m']) ++ [c.secondsField ++ ['s']]) := by
    rw [fields, List.append_assoc]
    cases hm : positive? c.minutes with
    | none => exact takeAmount_field 'h' 's' (by decide) c.hours c.secondsField []
    | some m => exact takeAmount_field 'h' 'm' (by decide) c.hours (natDigits m) _
  unfold Reading.ofText?
  simp only [splitOnChar_text, hhours, hminutes, seconds?_secondsField, Option.map_some]
  rfl

end Clock

/-! Spans as fractions. -/

section Ratio

variable {num den num' den' : Nat}

/-- The parts of a span are those of its whole seconds. -/
theorem Clock.ofRatio_parts (num den : Nat) : (Clock.ofRatio num den).hours = num / den / 3600 ∧
    (Clock.ofRatio num den).minutes = num / den / 60 % 60 ∧
    (Clock.ofRatio num den).seconds / (Clock.ofRatio num den).unit = num / den % 60 := by
  refine ⟨?_, ?_, Nat.mod_mul_left_div_self num den 60⟩
  · rw [Nat.div_div_eq_div_mul, Nat.mul_comm den]
    rfl
  · rw [Nat.div_div_eq_div_mul, Nat.mul_comm den]
    rfl

/-- What the text of `num / den` seconds shows. -/
def shown (num den : Nat) : Reading := (Clock.ofRatio num den).reading

theorem ofText?_ofRatio (num den : Nat) :
    Reading.ofText? (ofRatio num den) = some (shown num den) := by
  rw [ofRatio, if_neg (Int.not_lt.mpr (Int.natCast_nonneg num)), Int.toNat_natCast,
    Clock.ofText?_text, shown]

/-- Below a minute the seconds stand alone, rounded to a place. -/
theorem shown_of_lt (hden : 0 < den) (h : num / den < 60) :
    shown num den = ⟨none, none, Decimal.roundDiv (num * 10) den⟩ := by
  obtain ⟨hh, hm, -⟩ := Clock.ofRatio_parts num den
  have hhours : (Clock.ofRatio num den).hours = 0 := by omega
  have hminutes : (Clock.ofRatio num den).minutes = 0 := by omega
  have hseconds : (Clock.ofRatio num den).seconds = num :=
    Nat.mod_eq_of_lt (by rwa [← Nat.div_lt_iff_lt_mul hden])
  rw [shown, Clock.reading, hhours, hminutes, hseconds]
  rfl

/-- From a minute on the whole seconds are shown in three parts. -/
theorem shown_of_le (h : 60 ≤ num / den) : shown num den =
    ⟨positive? (num / den / 3600), positive? (num / den / 60 % 60), 10 * (num / den % 60)⟩ := by
  obtain ⟨hh, hm, hs⟩ := Clock.ofRatio_parts num den
  have hlarge :
      ((Clock.ofRatio num den).hours > 0 || (Clock.ofRatio num den).minutes > 0) = true := by
    rw [Bool.or_eq_true, decide_eq_true_eq, decide_eq_true_eq]
    omega
  rw [shown, Clock.reading, if_pos hlarge, hh, hm, hs]

theorem value_of_lt (hden : 0 < den) (h : num / den < 60) :
    (shown num den).value = Decimal.roundDiv (num * 10) den / 10 := by
  rw [shown_of_lt hden h, Reading.value]
  simp

theorem value_of_le (h : 60 ≤ num / den) : (shown num den).value = (num / den : Nat) := by
  rw [shown_of_le h, Reading.value, getD_positive?, getD_positive?]
  generalize num / den = s
  have hparts : 3600 * (s / 3600) + 60 * (s / 60 % 60) + s % 60 = s := by omega
  have hcast : ((3600 * (s / 3600) + 60 * (s / 60 % 60) + s % 60 : Nat) : ℚ) = s := by rw [hparts]
  push_cast at hcast ⊢
  linarith

theorem whole_lt_iff (hden : 0 < den) (num n : Nat) : num / den < n ↔ (num : ℚ) / den < n := by
  have hd : (0 : ℚ) < den := by exact_mod_cast hden
  rw [Nat.div_lt_iff_lt_mul hden, div_lt_iff₀ hd]
  exact_mod_cast Iff.rfl

theorem brief_shown_iff (hden : 0 < den) :
    (shown num den).Brief ↔ (num : ℚ) / den < 60 := by
  have hiff := whole_lt_iff hden num 60
  rw [Nat.cast_ofNat] at hiff
  rw [← hiff]
  by_cases h : num / den < 60
  · rw [shown_of_lt hden h]
    exact ⟨fun _ => h, fun _ => ⟨rfl, rfl⟩⟩
  · rw [shown_of_le (Nat.le_of_not_lt h)]
    refine ⟨fun ⟨hhours, hminutes⟩ => ?_, fun hlt => absurd hlt h⟩
    rw [positive?_eq_none_iff] at hhours hminutes
    omega

theorem ten_mul_div (num den : Nat) : ((num * 10 : Nat) : ℚ) / den = num / den * 10 := by
  push_cast
  ring

theorem roundDiv_le_sixty (hden : 0 < den) (h : num / den < 60) :
    Decimal.roundDiv (num * 10) den ≤ 600 := by
  have hlt : (num : ℚ) / den < 60 := (whole_lt_iff hden num 60).mp h
  have hnear := abs_le.mp (Decimal.roundDiv_near hden (num * 10))
  rw [ten_mul_div] at hnear
  have hround : (Decimal.roundDiv (num * 10) den : ℚ) < 601 := by linarith
  have hround : Decimal.roundDiv (num * 10) den < 601 := by exact_mod_cast hround
  omega

theorem near_of_brief (hden : 0 < den) (h : (shown num den).Brief) :
    |(shown num den).value - num / den| ≤ 1 / 20 := by
  rw [brief_shown_iff hden] at h
  have hlt : num / den < 60 := (whole_lt_iff hden num 60).mpr (by exact_mod_cast h)
  have hnear := abs_le.mp (Decimal.roundDiv_near hden (num * 10))
  rw [ten_mul_div] at hnear
  rw [value_of_lt hden hlt, abs_le]
  constructor <;> linarith

theorem near_of_not_brief (hden : 0 < den) (h : ¬(shown num den).Brief) :
    |(shown num den).value - num / den| < 1 := by
  rw [brief_shown_iff hden] at h
  have hle : 60 ≤ num / den := by
    rw [← Nat.not_lt, whole_lt_iff hden num 60]
    exact_mod_cast h
  have hfloor : (num / den : Nat) = ⌊(num : ℚ) / den⌋₊ := (Nat.floor_div_eq_div num den).symm
  have hlow : (⌊(num : ℚ) / den⌋₊ : ℚ) ≤ num / den := Nat.floor_le (by positivity)
  have hhigh : (num : ℚ) / den < ⌊(num : ℚ) / den⌋₊ + 1 := Nat.lt_floor_add_one _
  rw [value_of_le hle, hfloor, abs_lt]
  constructor <;> linarith

/-- What is shown is the whole seconds from a minute on, and below that the nearest tenths. -/
theorem value_mono (hden : 0 < den) (hden' : 0 < den')
    (h : (num : ℚ) / den ≤ (num' : ℚ) / den') :
    (shown num den).value ≤ (shown num' den').value := by
  have hten : ((num * 10 : Nat) : ℚ) / den ≤ ((num' * 10 : Nat) : ℚ) / den' := by
    rw [ten_mul_div, ten_mul_div]
    linarith
  have hwhole : num / den ≤ num' / den' := by
    rw [← Nat.floor_div_eq_div (K := ℚ) num, ← Nat.floor_div_eq_div (K := ℚ) num']
    exact Nat.floor_mono h
  by_cases hlt : num / den < 60
  · rw [value_of_lt hden hlt]
    by_cases hlt' : num' / den' < 60
    · rw [value_of_lt hden' hlt']
      have hround : (Decimal.roundDiv (num * 10) den : ℚ) ≤ Decimal.roundDiv (num' * 10) den' := by
        exact_mod_cast Decimal.roundDiv_mono hden hden' hten
      linarith
    · have hle' : (60 : ℚ) ≤ (num' / den' : Nat) := by exact_mod_cast Nat.le_of_not_lt hlt'
      have hround : (Decimal.roundDiv (num * 10) den : ℚ) ≤ 600 := by
        exact_mod_cast roundDiv_le_sixty hden hlt
      rw [value_of_le (Nat.le_of_not_lt hlt')]
      linarith
  · have hle : 60 ≤ num / den := Nat.le_of_not_lt hlt
    rw [value_of_le hle, value_of_le (hle.trans hwhole)]
    exact_mod_cast hwhole

theorem normal_shown (hden : 0 < den) : (shown num den).Normal := by
  by_cases h : num / den < 60
  · rw [shown_of_lt hden h]
    exact ⟨by simp, by simp, by simp⟩
  · rw [shown_of_le (Nat.le_of_not_lt h)]
    refine ⟨fun n hn => ?_, fun n hn => ?_, fun n hn => ?_⟩
    · obtain ⟨rfl, hpos⟩ := eq_of_mem_positive? hn
      exact hpos
    · obtain ⟨rfl, hpos⟩ := eq_of_mem_positive? hn
      exact hpos
    · obtain ⟨rfl, -⟩ := eq_of_mem_positive? hn
      exact Nat.mod_lt _ (by omega)

/-- Sixty seconds are shown for the last twentieth of a second before a minute. -/
theorem sixty_le_shown_iff (hden : 0 < den) : 600 ≤ (shown num den).tenths ↔
    1199 / 20 ≤ (num : ℚ) / den ∧ (num : ℚ) / den < 60 := by
  have hbelow := whole_lt_iff hden num 60
  rw [Nat.cast_ofNat] at hbelow
  by_cases h : num / den < 60
  · have hround := Decimal.le_roundDiv_iff hden (num * 10) (n := 600) (by decide)
    rw [ten_mul_div] at hround
    rw [shown_of_lt hden h, hround]
    push_cast
    exact ⟨fun hle => ⟨by linarith, hbelow.mp h⟩, fun ⟨hle, _⟩ => by linarith⟩
  · rw [shown_of_le (Nat.le_of_not_lt h)]
    refine ⟨fun hle => ?_, fun ⟨_, hlt⟩ => absurd (hbelow.mpr hlt) h⟩
    have hmod := Nat.mod_lt (num / den) (show 0 < 60 by omega)
    dsimp only at hle
    omega

/-- The text of a span that is rounded up to a minute. -/
theorem ofRatio_eq_sixty_iff (hden : 0 < den) : ofRatio num den = "60.0s" ↔
    1199 / 20 ≤ (num : ℚ) / den ∧ (num : ℚ) / den < 60 := by
  rw [← sixty_le_shown_iff hden]
  constructor
  · intro h
    have hread := ofText?_ofRatio num den
    rw [h, show Reading.ofText? "60.0s" = some ⟨none, none, 600⟩ by decide +kernel] at hread
    rw [← Option.some.inj hread]
  · intro h
    have hlt : num / den < 60 := (whole_lt_iff hden num 60).mpr ((sixty_le_shown_iff hden).mp h).2
    rw [shown_of_lt hden hlt] at h
    have hround : Decimal.roundDiv (num * 10) den = 600 :=
      Nat.le_antisymm (roundDiv_le_sixty hden hlt) h
    obtain ⟨hh, hm, -⟩ := Clock.ofRatio_parts num den
    have hhours : (Clock.ofRatio num den).hours = 0 := by omega
    have hminutes : (Clock.ofRatio num den).minutes = 0 := by omega
    have hseconds : (Clock.ofRatio num den).seconds = num :=
      Nat.mod_eq_of_lt (by rwa [← Nat.div_lt_iff_lt_mul hden])
    have hfield : (Clock.ofRatio num den).secondsField = "60.0".toList := by
      rw [Clock.secondsField, hhours, hminutes, hseconds]
      simp only [gt_iff_lt, Nat.lt_irrefl, decide_false, Bool.or_self, Bool.false_eq_true, if_false]
      rw [Decimal.fixedRatio_one, show (Clock.ofRatio num den).unit = den from rfl, hround]
      decide
    apply String.toList_injective
    rw [ofRatio, if_neg (Int.not_lt.mpr (Int.natCast_nonneg num)), Int.toNat_natCast,
      Clock.toList_text, Clock.fields, hhours, hminutes, hfield]
    decide

end Ratio

/-- What the text of a span shows is a normal form: hours and minutes are positive where they are
shown, and minutes are below sixty. Seconds alone are off by a twentieth of a second at most, and
beside minutes or hours by less than one. They are below sixty, save for the last twentieth of a
second before a minute, whose text is that of sixty seconds. A longer span never shows less. -/
theorem ofRatio_reading {num den : Nat} (hden : 0 < den) :
    ∃ r, Reading.ofText? (ofRatio num den) = some r ∧ r.Normal ∧
      (r.Brief → |r.value - num / den| ≤ 1 / 20) ∧ (¬r.Brief → |r.value - num / den| < 1) ∧
      (600 ≤ r.tenths ↔ 1199 / 20 ≤ (num : ℚ) / den ∧ (num : ℚ) / den < 60) ∧
      (ofRatio num den = "60.0s" ↔ 1199 / 20 ≤ (num : ℚ) / den ∧ (num : ℚ) / den < 60) ∧
      ∀ num' den' : Nat, 0 < den' → (num : ℚ) / den ≤ (num' : ℚ) / den' →
        ∃ r', Reading.ofText? (ofRatio num' den') = some r' ∧ r.value ≤ r'.value := by
  refine ⟨shown num den, ofText?_ofRatio num den, normal_shown hden, near_of_brief hden,
    near_of_not_brief hden, sixty_le_shown_iff hden, ofRatio_eq_sixty_iff hden, ?_⟩
  intro num' den' hden' hle
  exact ⟨shown num' den', ofText?_ofRatio num' den', value_mono hden hden' hle⟩

/-- A span of 59.96 seconds, between the two bounds. -/
theorem ofRatio_carry : 0 < 100 ∧ (1199 / 20 ≤ (5996 : ℚ) / 100 ∧ (5996 : ℚ) / 100 < 60) ∧
    ofRatio 5996 100 = "60.0s" := by
  obtain ⟨r, -, -, -, -, -, hsixty, -⟩ := @ofRatio_reading 5996 100 (by decide)
  have hspan : 1199 / 20 ≤ (5996 : ℚ) / 100 ∧ (5996 : ℚ) / 100 < 60 := by constructor <;> norm_num
  exact ⟨by decide, hspan, hsixty.mpr (by exact_mod_cast hspan)⟩

end Stencil.Duration
