import Stencil.Proofs.Text
import Stencil.Template.Value.Methods

/-!
Asking for an attribute by a name. A decorator and the name are compared by their last segments, and
each of the two loses one suffix, unless it is the suffix alone. So a name finds a decorator that is
spelled with or without the suffix, and no other; but a name that ends in the suffix before it is
added is another one with the suffix added.
-/
namespace Stencil.Model
open Stencil.Text
open Stencil.Template (Place RecordKind Value)

variable {n p q m s s' : String} {a b front cs : List Char} {attributes : List String}

/-- A name behind a qualification, if there is one. -/
def qualified (scope name : String) : String :=
  if scope = "" then name else scope ++ "." ++ name

/-- The two ways to write a name. -/
def Spelling (n s : String) : Prop := s = n ∨ s = n ++ "Attribute"

/-- A name that does not end in the suffix, or is the suffix. -/
def Unsuffixed (cs : List Char) : Prop := ∀ front, cs = front ++ "Attribute".toList → front = []

/-- A name with the suffix, and the same name without it. -/
def Suffixed (cs front : List Char) : Prop := cs = front ++ "Attribute".toList ∧ front ≠ []

/-- Equal names, or names that differ by one suffix. -/
def Near (a b : List Char) : Prop := a = b ∨ Suffixed a b ∨ Suffixed b a

/-- Names that find each other: they are equal, or one of them has the suffix behind the other one,
which does not end in it. -/
def Alike (a b : List Char) : Prop :=
  a = b ∨ Suffixed a b ∧ Unsuffixed b ∨ Suffixed b a ∧ Unsuffixed a

/-- What tells by some decorators whether it has an attribute, and stays as it is. -/
def TellsBy (attributes : List String) (v : Value) : Prop :=
  ∀ m, Template.Method.call v "has_attribute" (.ofList [.str m]) =
    .ok (.bool (hasAttribute attributes m), v)

/-! Last segments. -/

theorem lastSegment_of_notMem (h : '.' ∉ cs) : lastSegment cs = cs := reverse_takeWhile_of_notMem h

theorem lastSegment_qualified (scope : String) (h : '.' ∉ n.toList) :
    lastSegment (qualified scope n).toList = n.toList := by
  unfold qualified
  split
  · exact lastSegment_of_notMem h
  · simp only [String.toList_append, List.append_assoc]
    exact reverse_takeWhile_append h scope.toList

/-! The suffix. -/

/-- A segment without its suffix, unless it is the suffix alone. -/
def bared (cs : List Char) : List Char :=
  if endsWith cs "Attribute".toList && cs != "Attribute".toList
  then cs.take (cs.length - "Attribute".toList.length) else cs

theorem simpleName_eq (name : String) : simpleName name = bared (lastSegment name.toList) := rfl

theorem bared_suffixed (h : Suffixed cs front) : bared cs = front := by
  obtain ⟨rfl, hne⟩ := h
  unfold bared
  rw [if_pos]
  · simp
  · simp [endsWith, hne]

theorem bared_unsuffixed (h : Unsuffixed cs) : bared cs = cs := by
  unfold bared
  rw [if_neg]
  intro hcond
  simp only [endsWith, Bool.and_eq_true, List.isSuffixOf_iff_suffix, bne_iff_ne] at hcond
  obtain ⟨⟨front, rfl⟩, hne⟩ := hcond
  exact hne (by rw [h front rfl, List.nil_append])

theorem unsuffixed_or_suffixed (cs : List Char) : Unsuffixed cs ∨ ∃ front, Suffixed cs front := by
  by_cases h : Unsuffixed cs
  · exact .inl h
  · simp only [Unsuffixed, not_forall] at h
    obtain ⟨front, heq, hne⟩ := h
    exact .inr ⟨front, heq, hne⟩

theorem Unsuffixed.not_suffixed (h : Unsuffixed cs) : ¬Suffixed cs front :=
  fun hs => hs.2 (h front hs.1)

theorem Suffixed.unique (h : Suffixed cs a) : Suffixed cs b ↔ a = b := by
  constructor
  · intro h'
    exact List.append_cancel_right (h.1.symm.trans h'.1)
  · rintro rfl
    exact h

theorem bared_eq_self_iff : bared cs = cs ↔ Unsuffixed cs := by
  rcases unsuffixed_or_suffixed cs with h | ⟨front, h⟩
  · simp only [bared_unsuffixed h, h]
  · have hshorter : front ≠ cs := by
      rintro rfl
      simpa using h.1
    simp only [bared_suffixed h, hshorter, false_iff]
    exact fun hu => hu.not_suffixed h

instance : DecidablePred Unsuffixed := fun _ => decidable_of_iff _ bared_eq_self_iff

theorem bared_eq_iff : bared a = bared b ↔ Alike a b := by
  unfold Alike
  rcases unsuffixed_or_suffixed a with ha | ⟨f, ha⟩ <;>
    rcases unsuffixed_or_suffixed b with hb | ⟨g, hb⟩
  · rw [bared_unsuffixed ha, bared_unsuffixed hb]
    simp [ha.not_suffixed, hb.not_suffixed]
  · have hne : a ≠ b := by
      rintro rfl
      exact ha.not_suffixed hb
    rw [bared_unsuffixed ha, bared_suffixed hb, hb.unique]
    simp [ha, ha.not_suffixed, hne, eq_comm]
  · have hne : a ≠ b := by
      rintro rfl
      exact hb.not_suffixed ha
    rw [bared_suffixed ha, bared_unsuffixed hb, ha.unique]
    simp [hb, hb.not_suffixed, hne]
  · have hna : ¬Unsuffixed a := fun h => h.not_suffixed ha
    have hnb : ¬Unsuffixed b := fun h => h.not_suffixed hb
    have heq : a = b ↔ f = g := by rw [ha.1, hb.1, List.append_cancel_right_eq]
    rw [bared_suffixed ha, bared_suffixed hb, heq]
    simp [hna, hnb]

theorem Alike.near (h : Alike a b) : Near a b := by
  rcases h with h | ⟨h, _⟩ | ⟨h, _⟩
  · exact .inl h
  · exact .inr (.inl h)
  · exact .inr (.inr h)

theorem Alike.comm : Alike a b ↔ Alike b a := by rw [← bared_eq_iff, eq_comm, bared_eq_iff]

theorem suffixed_append (hn : n ≠ "") : Suffixed (n ++ "Attribute").toList n.toList :=
  ⟨String.toList_append .., by simpa using hn⟩

/-- A name finds itself with the suffix behind it exactly if it does not end in the suffix. -/
theorem alike_append_iff (hn : n ≠ "") :
    Alike (n ++ "Attribute").toList n.toList ↔ Unsuffixed n.toList := by
  rw [← bared_eq_iff, bared_suffixed (suffixed_append hn), eq_comm, bared_eq_self_iff]

theorem alike_spellings (hn : n ≠ "") (hs : Spelling n s) (hs' : Spelling n s') :
    Alike s.toList s'.toList ↔ s = s' ∨ Unsuffixed n.toList := by
  have hlonger : n ++ "Attribute" ≠ n := by simp
  rcases hs with rfl | rfl <;> rcases hs' with rfl | rfl
  · simp [Alike]
  · simp only [Alike.comm.trans (alike_append_iff hn), hlonger.symm, false_or]
  · simp only [alike_append_iff hn, hlonger, false_or]
  · simp [Alike]

/-! Asking. -/

theorem Spelling.notMem (hs : Spelling n s) (hd : '.' ∉ n.toList) : '.' ∉ s.toList := by
  rcases hs with rfl | rfl
  · exact hd
  · simpa using hd

theorem hasAttribute_iff : hasAttribute attributes m = true ↔
    ∃ x ∈ attributes, Alike (lastSegment x.toList) (lastSegment m.toList) := by
  simp only [hasAttribute, List.any_eq_true, beq_iff_eq, simpleName_eq, bared_eq_iff]

theorem carries_strings {fields : List (String × Value)} {place : Place}
    (h : fields.lookup "attributes" = some (.list (attributes.map .str) place)) (m : String) :
    Value.carries fields m = .ok (hasAttribute attributes m) := by
  unfold Value.carries
  rw [h]
  clear h
  induction attributes with
  | nil => rfl
  | cons x rest ih =>
    show (if simpleName x == simpleName m then Except.ok true else _) = _
    by_cases hx : simpleName x == simpleName m
    · simp [hasAttribute, hx]
    · simp only [hx]
      refine ih.trans ?_
      simp [hasAttribute, hx]

theorem tellsBy_record {kind : RecordKind} {fields : List (String × Value)} {place place' : Place}
    (h : fields.lookup "attributes" = some (.list (attributes.map .str) place)) :
    TellsBy attributes (.record kind fields place') := by
  intro m
  change Except.map _ ((Value.carries fields m).bind fun b => .ok (Value.bool b)) = _
  rw [carries_strings h]
  rfl

/-- A qualification is ignored on both sides. So is the suffix, but only one of it: a name that ends
in it finds itself, and itself with one more suffix does not find it. -/
theorem hasAttribute_spellings (hn : n ≠ "") (hd : '.' ∉ n.toList) (p q : String)
    (attributes : List String) :
    (∀ s s', Spelling n s → Spelling n s' →
      (s = s' ∨ Unsuffixed n.toList → qualified p s ∈ attributes →
        hasAttribute attributes (qualified q s') = true) ∧
      (hasAttribute [qualified p s] (qualified q s') = true → s = s' ∨ Unsuffixed n.toList)) ∧
    (∀ m, hasAttribute attributes m = true →
      ∃ x ∈ attributes, Near (lastSegment x.toList) (lastSegment m.toList)) ∧
    (∀ (t : TypeSymbol) place, TellsBy t.attributes (Value.ofType t place)) ∧
    (∀ (u : Member) place, TellsBy u.attributes (Value.ofMember u place)) := by
  refine ⟨fun s s' hs hs' => ?_, fun m hm => ?_, fun t place => tellsBy_record rfl,
    fun u place => tellsBy_record rfl⟩
  · have hlast (scope) := lastSegment_qualified scope (hs.notMem hd)
    have hlast' := lastSegment_qualified q (hs'.notMem hd)
    constructor
    · intro hsame hmem
      refine hasAttribute_iff.mpr ⟨_, hmem, ?_⟩
      rw [hlast p, hlast']
      exact (alike_spellings hn hs hs').mpr hsame
    · intro hfinds
      obtain ⟨x, hx, halike⟩ := hasAttribute_iff.mp hfinds
      rw [List.mem_singleton.mp hx, hlast p, hlast'] at halike
      exact (alike_spellings hn hs hs').mp halike
  · obtain ⟨x, hx, halike⟩ := hasAttribute_iff.mp hm
    exact ⟨x, hx, halike.near⟩

/-- A name in the suffix is not found by itself with the suffix behind it. -/
theorem suffixed_twice_unlike : ¬∀ (n p q : String) (attributes : List String),
    n ≠ "" → '.' ∉ n.toList →
    qualified p n ∈ attributes ∨ qualified p (n ++ "Attribute") ∈ attributes →
    hasAttribute attributes (qualified q n) = true ∧
      hasAttribute attributes (qualified q (n ++ "Attribute")) = true := by
  intro h
  have hboth := h "FooAttribute" "" "" ["FooAttribute"] (by decide) (by decide)
    (.inl (by decide))
  exact absurd hboth.2 (by decide)

theorem hasAttribute_marker : "NTEditorFile" ≠ "" ∧ '.' ∉ "NTEditorFile".toList ∧
    Unsuffixed "NTEditorFile".toList ∧
    hasAttribute ["dataclass", "markers.NTEditorFileAttribute"] "ntgen.NTEditorFile" = true ∧
    hasAttribute ["dataclass", "markers.NTEditorFile"] "NTEditorFileAttribute" = true := by
  have hn : "NTEditorFile" ≠ "" := by decide
  have hd : '.' ∉ "NTEditorFile".toList := by decide
  have hu : Unsuffixed "NTEditorFile".toList := by decide
  exact ⟨hn, hd, hu,
    ((hasAttribute_spellings hn hd "markers" "ntgen" _).1 _ _ (.inr rfl) (.inl rfl)).1
      (.inr hu) (by decide),
    ((hasAttribute_spellings hn hd "markers" "" _).1 _ _ (.inl rfl) (.inr rfl)).1
      (.inr hu) (by decide)⟩

end Stencil.Model
