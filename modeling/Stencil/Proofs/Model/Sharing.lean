import Stencil.Model.Sharing

/-!
What is read of a combined model while others change the lists around it. A group read is what its
sources hold at that moment, one after another, for the sources there were when the combined model
was made. A list that was made for someone who asked is at a place that no source holds, so what is
done to it is not seen in anything read later: two worlds that hold the same at the places of their
sources, and take up new places alike, go on to be read alike.
-/
namespace Stencil.Model.Sharing

variable {α : Type} {m m' : Cells α} {xs : List α} {P Q : Nat → Prop} {place other i n : Nat}
  {lists lists' : Cells TypeSymbol} {s : Source} {ss : List Source} {k : TypeKind} {g : Giver}
  {h : Handle} {f f' : Edit} {c c' : Change} {w w' v : World} {start : Start}

/-! Lists by place. -/

namespace Cells

theorem get_make (m : Cells α) (xs : List α) (place : Nat) :
    (m.make xs).2.get place = if place = m.size then xs else m.get place := by
  unfold make get size
  split
  case isTrue here => simp [here]
  case isFalse away =>
    rcases Nat.lt_or_gt_of_ne away with h | h
    · rw [List.getElem?_append_left h]
    · rw [List.getElem?_eq_none (by simp; omega), List.getElem?_eq_none (by omega)]

theorem get_of_le (h : m.size ≤ place) : m.get place = [] := by
  unfold get
  rw [List.getElem?_eq_none h, Option.getD_none]

@[simp] theorem size_edit (m : Cells α) (place : Nat) (f : List α → List α) :
    (m.edit place f).size = m.size := by
  simp [edit, size]

theorem get_edit (f : List α → List α) (h : place < m.size) :
    (m.edit place f).get place = f (m.get place) := by
  unfold edit get
  rw [List.getElem?_modify_eq, List.getElem?_eq_getElem h]
  rfl

theorem get_edit_of_ne (f : List α → List α) (h : place ≠ other) :
    (m.edit place f).get other = m.get other := by
  unfold edit get
  rw [List.getElem?_modify_ne _ _ h]

theorem mem_get_edit_append {x y : α} (hx : x ∈ (m.edit place (· ++ [y])).get other) :
    x ∈ m.get other ∨ x = y := by
  by_cases here : place = other
  · subst here
    by_cases hlt : place < m.size
    · rw [get_edit _ hlt, List.mem_append, List.mem_singleton] at hx
      exact hx
    · rw [get_of_le (by simpa using hlt)] at hx
      cases hx
  · rw [get_edit_of_ne _ here] at hx
    exact .inl hx

/-- What is in use stays in use and holds the same. -/
structure Grows (m m' : Cells α) : Prop where
  size : m.size ≤ m'.size
  get : ∀ place < m.size, m'.get place = m.get place

theorem Grows.refl (m : Cells α) : Grows m m := ⟨Nat.le_refl _, fun _ _ => rfl⟩

theorem Grows.trans {m'' : Cells α} (h : Grows m m') (h' : Grows m' m'') : Grows m m'' where
  size := Nat.le_trans h.size h'.size
  get place hp := (h'.get place (Nat.lt_of_lt_of_le hp h.size)).trans (h.get place hp)

theorem grows_make (m : Cells α) (xs : List α) : Grows m (m.make xs).2 where
  size := by simp
  get place hp := by rw [get_make, if_neg (Nat.ne_of_lt hp)]

/-- As many places are in use, and certain ones hold the same. -/
structure Agree (P : Nat → Prop) (m m' : Cells α) : Prop where
  size : m.size = m'.size
  get : ∀ place, P place → m.get place = m'.get place

theorem Agree.mono (h : Agree P m m') (hpq : ∀ place, Q place → P place) : Agree Q m m' :=
  ⟨h.size, fun place hq => h.get place (hpq place hq)⟩

/-- Places that are not in use yet hold the same. -/
theorem Agree.unused (h : Agree P m m') : Agree (fun place => P place ∨ m.size ≤ place) m m' where
  size := h.size
  get place hp := by
    rcases hp with hp | hp
    · exact h.get place hp
    · rw [get_of_le hp, get_of_le (h.size ▸ hp)]

theorem Agree.make (h : Agree P m m') (xs : List α) : Agree P (m.make xs).2 (m'.make xs).2 where
  size := by simp [h.size]
  get place hp := by rw [get_make, get_make, h.size, h.get place hp]

theorem Agree.edit (h : Agree P m m') (place : Nat) (f : List α → List α) :
    Agree P (m.edit place f) (m'.edit place f) where
  size := by simp [h.size]
  get other hp := by
    by_cases here : place = other
    · subst here
      by_cases hlt : place < m.size
      · rw [get_edit f hlt, get_edit f (h.size ▸ hlt), h.get place hp]
      · rw [get_of_le (by simpa using hlt), get_of_le (by simpa [← h.size] using hlt)]
    · rw [get_edit_of_ne f here, get_edit_of_ne f here, h.get other hp]

/-- What is done to a place that is not looked at may differ. -/
theorem Agree.edit_of_not (h : Agree P m m') (hp : ¬ P place) (f f' : List α → List α) :
    Agree P (m.edit place f) (m'.edit place f') where
  size := by simp [h.size]
  get other ho := by
    have away : place ≠ other := fun he => hp (he ▸ ho)
    rw [get_edit_of_ne f away, get_edit_of_ne f' away, h.get other ho]

end Cells

open Cells

/-! Sources. -/

namespace Source

theorem contents_congr (h : ∀ place, s.Owns place → lists'.get place = lists.get place) :
    s.contents lists' k = s.contents lists k := by
  cases s with
  | fixed groups => rfl
  | live places => exact h _ ⟨k, rfl⟩

theorem grows_handOut (s : Source) (k : TypeKind) (lists : Cells TypeSymbol) :
    Grows lists (s.handOut k lists).2 := by
  cases s with
  | fixed groups => exact grows_make ..
  | live places => exact .refl _

theorem get_handOut (s : Source) (k : TypeKind) (lists : Cells TypeSymbol) :
    (s.handOut k lists).2.get (s.handOut k lists).1 = s.contents lists k := by
  cases s with
  | fixed groups => exact (get_make ..).trans (if_pos rfl)
  | live places => rfl

theorem grows_create (lists : Cells TypeSymbol) (s : ModelSource) :
    Grows lists (create lists s).2 := by
  unfold create
  split
  · exact (grows_make ..).trans ((grows_make ..).trans ((grows_make ..).trans (grows_make ..)))
  · exact .refl _

end Source

/-- Places of the sources' own lists. -/
def Owned (ss : List Source) (place : Nat) : Prop := ∃ s ∈ ss, s.Owns place

theorem flatMap_contents_congr (h : ∀ place, Owned ss place → lists'.get place = lists.get place) :
    ss.flatMap (Source.contents lists' k) = ss.flatMap (Source.contents lists k) := by
  have same : ∀ s ∈ ss, s.contents lists' k = s.contents lists k :=
    fun s hs => Source.contents_congr fun place hp => h place ⟨s, hs, hp⟩
  rw [List.flatMap_def, List.flatMap_def, List.map_congr_left same]

theorem gather_spec (k : TypeKind) {ss : List Source} {lists : Cells TypeSymbol}
    (h : ∀ place, Owned ss place → place < lists.size) :
    (gather k ss lists).1 = ss.flatMap (Source.contents lists k) ∧
      Grows lists (gather k ss lists).2 := by
  induction ss generalizing lists with
  | nil => exact ⟨rfl, .refl _⟩
  | cons s rest ih =>
    have grown := s.grows_handOut k lists
    have inUse : ∀ place, Owned rest place → place < lists.size :=
      fun place ⟨x, hx, hp⟩ => h place ⟨x, List.mem_cons_of_mem _ hx, hp⟩
    have inUse' : ∀ place, Owned rest place → place < (s.handOut k lists).2.size :=
      fun place hp => Nat.lt_of_lt_of_le (inUse place hp) grown.size
    obtain ⟨same, grows⟩ := ih inUse'
    refine ⟨?_, grown.trans grows⟩
    calc (gather k (s :: rest) lists).1
        = (s.handOut k lists).2.get (s.handOut k lists).1 ++
            (gather k rest (s.handOut k lists).2).1 := rfl
      _ = s.contents lists k ++ rest.flatMap (Source.contents lists k) := by
          rw [s.get_handOut, same,
            flatMap_contents_congr fun place hp => grown.get place (inUse place hp)]

/-- Sources that are asked in two worlds with the same lists answer alike. -/
theorem Source.agree_handOut (h : Agree P lists lists') (hp : ∀ place, s.Owns place → P place) :
    (s.handOut k lists).1 = (s.handOut k lists').1 ∧
      Agree P (s.handOut k lists).2 (s.handOut k lists').2 := by
  cases s with
  | fixed groups => exact ⟨h.size, h.make _⟩
  | live places => exact ⟨rfl, h⟩

theorem agree_gather (h : Agree P lists lists') (hp : ∀ place, Owned ss place → P place) :
    (gather k ss lists).1 = (gather k ss lists').1 ∧
      Agree P (gather k ss lists).2 (gather k ss lists').2 := by
  induction ss generalizing lists lists' with
  | nil => exact ⟨rfl, h⟩
  | cons s rest ih =>
    have own : ∀ place, s.Owns place → P place :=
      fun place ho => hp place ⟨s, List.mem_cons_self, ho⟩
    obtain ⟨-, agree⟩ := s.agree_handOut (k := k) h own
    obtain ⟨same, agree'⟩ := ih agree fun place ⟨x, hx, ho⟩ =>
      hp place ⟨x, List.mem_cons_of_mem _ hx, ho⟩
    refine ⟨?_, agree'⟩
    calc (gather k (s :: rest) lists).1
        = s.contents lists k ++ (gather k rest (s.handOut k lists).2).1 := by
          rw [← s.get_handOut]; rfl
      _ = s.contents lists' k ++ (gather k rest (s.handOut k lists').2).1 := by
          rw [same, Source.contents_congr fun place ho => h.get place (own place ho)]
      _ = (gather k (s :: rest) lists').1 := by
          rw [← s.get_handOut]; rfl

/-- A new source takes up the same places, and nobody has seen these before. -/
theorem agree_create (h : Agree P lists lists') (s : ModelSource) :
    (Source.create lists s).1 = (Source.create lists' s).1 ∧
      Agree P (Source.create lists s).2 (Source.create lists' s).2 := by
  unfold Source.create
  split
  · refine ⟨?_, (((h.make _).make _).make _).make _⟩
    simp only [place_make, size_make, h.size]
  · exact ⟨rfl, h⟩

/-! Worlds. -/

/-- The list was made for whoever asked. -/
def Handle.IsCopy (h : Handle) : Prop := ∀ lists, h.source ≠ some (.live lists)

namespace World

/-- Places that a source has, among the sources that are asked. -/
def Owns (w : World) : Nat → Prop := Owned (w.givenSources ++ w.sources)

theorem owns_of_given {s : Source} (hs : w.givenSources[i]? = some s) (ho : s.Owns place) :
    w.Owns place :=
  ⟨s, List.mem_append_left _ (List.mem_of_getElem? hs), ho⟩

theorem owns_of_sources (ho : Owned w.sources place) : w.Owns place :=
  let ⟨s, hs, hp⟩ := ho
  ⟨s, List.mem_append_right _ hs, hp⟩

/-- Of a world in which the combined model was made from certain sources. -/
structure Holds (start : Start) (w : World) : Prop where
  sources : w.sources = start.sources
  apart : w.given ≠ w.own
  inUse : ∀ place, w.Owns place → place < w.lists.size
  copies : ∀ h ∈ w.kept, h.IsCopy → h.place < w.lists.size ∧ ¬ w.Owns h.place

/-- What a list that is asked for has in it. -/
def current? (w : World) (g : Giver) (k : TypeKind) : Option (List TypeSymbol) :=
  match g with
  | .source i => w.givenSources[i]?.map (Source.contents w.lists k)
  | .combined => some (w.sources.flatMap (Source.contents w.lists k))

/-! Asking for a list. -/

theorem ask?_source (w : World) (i : Nat) (k : TypeKind) :
    w.ask? (.source i) k = w.givenSources[i]?.map fun s =>
      (⟨(s.handOut k w.lists).1, some s⟩, { w with lists := (s.handOut k w.lists).2 }) := rfl

theorem ask?_combined (w : World) (k : TypeKind) :
    w.ask? .combined k = some (⟨(gather k w.sources w.lists).2.size, none⟩,
      { w with lists :=
        ((gather k w.sources w.lists).2.make (gather k w.sources w.lists).1).2 }) := rfl

theorem step_edit (w : World) (g : Giver) (k : TypeKind) (f : Edit) :
    w.step (.edit g k f) = ((w.ask? g k).map fun x => x.2.edit x.1 f).getD w := rfl

theorem step_keep (w : World) (g : Giver) (k : TypeKind) :
    w.step (.keep g k) = ((w.ask? g k).map fun x => x.2.keep x.1).getD w := rfl

theorem step_editKept (w : World) (n : Nat) (f : Edit) :
    w.step (.editKept n f) = (w.kept[n]?.map fun h => w.edit h f).getD w := rfl

theorem Holds.read?_eq (hw : w.Holds start) (g : Giver) (k : TypeKind) :
    w.read? g k = w.current? g k := by
  cases g with
  | source i =>
    calc w.read? (.source i) k
        = w.givenSources[i]?.map fun s =>
            (s.handOut k w.lists).2.get (s.handOut k w.lists).1 := Option.map_map ..
      _ = w.current? (.source i) k := by simp only [Source.get_handOut, current?]
  | combined =>
    have gathered := (gather_spec k fun place ho => hw.inUse place (owns_of_sources ho)).1
    refine congrArg some ((get_make ..).trans ?_)
    rw [if_pos rfl, gathered]

theorem Holds.group_eq (hw : w.Holds start) (k : TypeKind) :
    w.group k = start.sources.flatMap (Source.contents w.lists k) := by
  unfold group
  rw [hw.read?_eq, ← hw.sources]
  rfl

/-- What the combined model holds at this moment. -/
def now (w : World) : Combined where
  sources := w.sources.map fun s => ⟨s matches .live _, .mk
    (s.contents w.lists .ordinary) (s.contents w.lists .interface)
    (s.contents w.lists .enum) (s.contents w.lists .delegate)⟩

/-- A group that is read is that of what the combined model holds. -/
theorem Holds.group_now (hw : w.Holds start) (k : TypeKind) : w.group k = w.now.get k := by
  rw [hw.group_eq, ← hw.sources, Combined.get, now, List.flatMap_map]
  cases k <;> rfl

/-- What asking for a list does: places may be taken up, and a list made for whoever asked has a
new place. -/
structure Asked (w : World) (g : Giver) (k : TypeKind) (h : Handle) (w' : World) : Prop where
  world : w' = { w with lists := w'.lists }
  grows : Grows w.lists w'.lists
  copied : h.IsCopy → w.lists.size ≤ h.place ∧ h.place < w'.lists.size
  shared : ∀ places, h.source = some (.live places) →
    h.place = places k ∧ ∃ i, g = .source i ∧ w.givenSources[i]? = some (.live places)

theorem Holds.asked (hw : w.Holds start) (ha : w.ask? g k = some (h, w')) :
    Asked w g k h w' := by
  cases g with
  | source i =>
    obtain ⟨s, hs, he⟩ := Option.map_eq_some_iff.1 ha
    obtain ⟨rfl, rfl⟩ := Prod.mk.inj he
    refine ⟨rfl, s.grows_handOut k w.lists, fun copy => ?_, ?_⟩
    · cases s with
      | fixed groups => exact ⟨Nat.le_refl _, (size_make ..).symm ▸ Nat.lt_succ_self _⟩
      | live places => exact absurd rfl (copy places)
    · rintro places ⟨⟩
      exact ⟨rfl, i, rfl, hs⟩
  | combined =>
    obtain ⟨rfl, rfl⟩ := Prod.mk.inj (Option.some.inj ha)
    have grows := (gather_spec k fun place ho => hw.inUse place (owns_of_sources ho)).2
    refine ⟨rfl, grows.trans (grows_make ..), fun _ =>
      ⟨grows.size, (size_make ..).symm ▸ Nat.lt_succ_self _⟩, ?_⟩
    rintro places ⟨⟩

/-- A list made for whoever asked is at a place that no source has. -/
theorem Asked.not_owns (ha : Asked w g k h w') (hw : w.Holds start) (hc : h.IsCopy) :
    ¬ w.Owns h.place :=
  fun ho => absurd (hw.inUse _ ho) (Nat.not_lt.2 (ha.copied hc).1)

/-! What every change keeps. -/

theorem holds_combine (start : Start) : (combine start).Holds start where
  sources := rfl
  apart := Nat.zero_ne_one
  inUse := by
    rintro place ⟨s, hs, ho⟩
    have hs : s ∈ start.sources := (List.mem_append.1 hs).elim id id
    exact start.inUse s hs place ho
  copies := by
    intro h hh
    cases hh

theorem Holds.grow (hw : w.Holds start) (hl : w.lists.size ≤ lists.size) :
    ({ w with lists } : World).Holds start where
  sources := hw.sources
  apart := hw.apart
  inUse place ho := Nat.lt_of_lt_of_le (hw.inUse place ho) hl
  copies h hh hc :=
    have ⟨hlt, hn⟩ := hw.copies h hh hc
    ⟨Nat.lt_of_lt_of_le hlt hl, hn⟩

theorem Holds.edit (hw : w.Holds start) (h : Handle) (f : Edit) : (w.edit h f).Holds start :=
  hw.grow (Nat.le_of_eq (size_edit ..).symm)

theorem Holds.keep (hw : w.Holds start)
    (hh : h.IsCopy → h.place < w.lists.size ∧ ¬ w.Owns h.place) : (w.keep h).Holds start where
  sources := hw.sources
  apart := hw.apart
  inUse := hw.inUse
  copies x hx hc := by
    rcases List.mem_append.1 hx with hx | hx
    · exact hw.copies x hx hc
    · obtain rfl := List.mem_singleton.1 hx
      exact hh hc

theorem rosters_addSource (w : World) (s : ModelSource) : (w.addSource s).rosters =
    w.rosters.edit w.given (· ++ [(Source.create w.lists s).1]) := rfl

theorem owns_addSource {s : ModelSource} (ho : (w.addSource s).Owns place) :
    w.Owns place ∨ (Source.create w.lists s).1.Owns place := by
  obtain ⟨x, hx, ho⟩ := ho
  rcases List.mem_append.1 hx with hx | hx
  · rcases mem_get_edit_append hx with hx | rfl
    · exact .inl ⟨x, List.mem_append_left _ hx, ho⟩
    · exact .inr ho
  · rcases mem_get_edit_append hx with hx | rfl
    · exact .inl ⟨x, List.mem_append_right _ hx, ho⟩
    · exact .inr ho

theorem Holds.addSource (hw : w.Holds start) (s : ModelSource) :
    (w.addSource s).Holds start where
  sources := (get_edit_of_ne _ hw.apart).trans hw.sources
  apart := hw.apart
  inUse place ho := by
    rcases owns_addSource ho with ho | ho
    · exact Nat.lt_of_lt_of_le (hw.inUse place ho) (Source.grows_create w.lists s).size
    · exact (Source.owns_create ho).2
  copies h hh hc := by
    obtain ⟨hlt, hn⟩ := hw.copies h hh hc
    refine ⟨Nat.lt_of_lt_of_le hlt (Source.grows_create w.lists s).size, fun ho => ?_⟩
    rcases owns_addSource ho with ho | ho
    · exact hn ho
    · exact Nat.not_lt.2 (Source.owns_create ho).1 hlt

theorem Asked.holds (ha : Asked w g k h w') (hw : w.Holds start) : w'.Holds start :=
  ha.world ▸ hw.grow ha.grows.size

theorem Asked.owns_iff (ha : Asked w g k h w') : w'.Owns place ↔ w.Owns place := by
  rw [ha.world]
  rfl

theorem Holds.step? (hw : w.Holds start) (hs : w.step? c = some w') : w'.Holds start := by
  cases c with
  | edit g k f =>
    obtain ⟨⟨h, v⟩, ha, rfl⟩ := Option.map_eq_some_iff.1 hs
    exact ((hw.asked ha).holds hw).edit h f
  | keep g k =>
    obtain ⟨⟨h, v⟩, ha, rfl⟩ := Option.map_eq_some_iff.1 hs
    have asked := hw.asked ha
    exact (asked.holds hw).keep fun copy =>
      ⟨(asked.copied copy).2, fun ho => asked.not_owns hw copy (asked.owns_iff.1 ho)⟩
  | editKept n f =>
    obtain ⟨h, -, rfl⟩ := Option.map_eq_some_iff.1 hs
    exact hw.edit h f
  | addSource s =>
    obtain rfl := Option.some.inj hs
    exact hw.addSource s

theorem Holds.step (hw : w.Holds start) (c : Change) : (w.step c).Holds start := by
  unfold World.step
  cases hs : w.step? c with
  | none => exact hw
  | some v => exact hw.step? hs

theorem Holds.run (hw : w.Holds start) (cs : List Change) : (w.run cs).Holds start := by
  induction cs generalizing w with
  | nil => exact hw
  | cons c rest ih => exact ih (hw.step c)

/-! Changes by what they reach. -/

/-- A change to a list that a source holds. -/
inductive OnOwn (w : World) : Change → Nat → Edit → Prop
  | asked {i : Nat} {k : TypeKind} {f : Edit} {places : TypeKind → Nat}
      (there : w.givenSources[i]? = some (.live places)) :
      OnOwn w (.edit (.source i) k f) (places k) f
  | held {n : Nat} {f : Edit} {h : Handle} {places : TypeKind → Nat}
      (there : w.kept[n]? = some h) (live : h.source = some (.live places)) :
      OnOwn w (.editKept n f) h.place f

/-- Changes to a list that was made for whoever asked, which differ in what they do to it. -/
inductive OnCopy (w : World) : Change → Change → Prop
  | ofFixed {i : Nat} {k : TypeKind} {f f' : Edit} {groups : Groups}
      (there : w.givenSources[i]? = some (.fixed groups)) :
      OnCopy w (.edit (.source i) k f) (.edit (.source i) k f')
  | ofCombined {k : TypeKind} {f f' : Edit} :
      OnCopy w (.edit .combined k f) (.edit .combined k f')
  | held {n : Nat} {f f' : Edit} {h : Handle}
      (there : w.kept[n]? = some h) (copy : h.IsCopy) :
      OnCopy w (.editKept n f) (.editKept n f')

/-- A change to a list of a source changes that list and nothing else. -/
theorem OnOwn.lists_step (hc : OnOwn w c place f) :
    (w.step c).lists = w.lists.edit place f := by
  cases hc with
  | asked there => simp [World.step, World.step?, ask?, there, Source.handOut, World.edit]
  | held there live => simp [World.step, World.step?, there, World.edit]

/-- Other changes leave the lists that sources hold as they are. -/
theorem Holds.get_step (hw : w.Holds start) (hc : ∀ place f, ¬ w.OnOwn c place f)
    (ho : w.Owns place) : (w.step c).lists.get place = w.lists.get place := by
  unfold World.step
  cases hs : w.step? c with
  | none => rfl
  | some v =>
    cases c with
    | edit g k f =>
      obtain ⟨⟨h, v⟩, ha, rfl⟩ := Option.map_eq_some_iff.1 hs
      have asked := hw.asked ha
      have copy : h.IsCopy := by
        intro places live
        obtain ⟨-, i, rfl, there⟩ := asked.shared places live
        exact hc _ _ (.asked there)
      have away : h.place ≠ place := fun he => asked.not_owns hw copy (he ▸ ho)
      exact (get_edit_of_ne f away).trans (asked.grows.get place (hw.inUse place ho))
    | keep g k =>
      obtain ⟨⟨h, v⟩, ha, rfl⟩ := Option.map_eq_some_iff.1 hs
      exact (hw.asked ha).grows.get place (hw.inUse place ho)
    | editKept n f =>
      obtain ⟨h, there, rfl⟩ := Option.map_eq_some_iff.1 hs
      have copy : h.IsCopy := fun places live => hc _ _ (.held there live)
      have away : h.place ≠ place := fun he =>
        (hw.copies h (List.mem_of_getElem? there) copy).2 (he ▸ ho)
      exact get_edit_of_ne f away
    | addSource s =>
      obtain rfl := Option.some.inj hs
      exact (Source.grows_create w.lists s).get place (hw.inUse place ho)

/-! Worlds that are read alike. -/

/-- Worlds that differ at most in lists that no source holds. -/
structure Alike (w w' : World) : Prop where
  rosters : w.rosters = w'.rosters
  given : w.given = w'.given
  own : w.own = w'.own
  kept : w.kept = w'.kept
  lists : Agree w.Owns w.lists w'.lists

theorem Alike.sources_eq (h : Alike w w') : w.sources = w'.sources := by
  rw [sources, sources, h.rosters, h.own]

theorem Alike.givenSources_eq (h : Alike w w') : w.givenSources = w'.givenSources := by
  rw [givenSources, givenSources, h.rosters, h.given]

theorem Alike.relist (h : Alike w w') (hl : Agree w.Owns lists lists') :
    Alike { w with lists } { w' with lists := lists' } :=
  ⟨h.rosters, h.given, h.own, h.kept, hl⟩

/-- Asked alike, they hand out lists at the same place and with the same in them. -/
theorem Alike.ask? (h : Alike w w') (g : Giver) (k : TypeKind) :
    (w.ask? g k = none ∧ w'.ask? g k = none) ∨
      ∃ x v v', w.ask? g k = some (x, v) ∧ w'.ask? g k = some (x, v') ∧ Alike v v' ∧
        v.lists.get x.place = v'.lists.get x.place := by
  cases g with
  | source i =>
    rw [ask?_source, ask?_source, ← h.givenSources_eq]
    cases hs : w.givenSources[i]? with
    | none => exact .inl ⟨rfl, rfl⟩
    | some s =>
      have own : ∀ place, s.Owns place → w.Owns place := fun place => owns_of_given hs
      obtain ⟨same, agree⟩ := s.agree_handOut (k := k) h.lists own
      refine .inr ⟨_, _, _, rfl, ?_, h.relist agree, ?_⟩
      · rw [same]
        rfl
      · calc (s.handOut k w.lists).2.get (s.handOut k w.lists).1
            = s.contents w.lists k := s.get_handOut ..
          _ = s.contents w'.lists k :=
              Source.contents_congr fun place ho => h.lists.get place (own place ho)
          _ = (s.handOut k w'.lists).2.get (s.handOut k w.lists).1 := by
              rw [same, s.get_handOut]
  | combined =>
    obtain ⟨same, agree⟩ := agree_gather (k := k) h.lists fun place => owns_of_sources
    rw [ask?_combined, ask?_combined, ← h.sources_eq, ← same, ← agree.size]
    refine .inr ⟨_, _, _, rfl, rfl, h.relist (agree.make _), ?_⟩
    rw [get_make, get_make, agree.size, if_pos rfl, if_pos rfl]

theorem Alike.edit (h : Alike w w') (x : Handle) (f : Edit) : Alike (w.edit x f) (w'.edit x f) :=
  h.relist (h.lists.edit x.place f)

theorem Alike.keep (h : Alike w w') (x : Handle) : Alike (w.keep x) (w'.keep x) :=
  ⟨h.rosters, h.given, h.own, congrArg (· ++ [x]) h.kept, h.lists⟩

theorem Alike.addSource (h : Alike w w') (s : ModelSource) :
    Alike (w.addSource s) (w'.addSource s) := by
  obtain ⟨same, agree⟩ := agree_create h.lists.unused s
  refine ⟨?_, h.given, h.own, h.kept, agree.mono fun place ho => ?_⟩
  · rw [rosters_addSource, rosters_addSource, same, h.rosters, h.given]
  · exact (owns_addSource ho).imp_right fun new => (Source.owns_create new).1

theorem Alike.step (h : Alike w w') (c : Change) : Alike (w.step c) (w'.step c) := by
  cases c with
  | edit g k f =>
    rw [step_edit, step_edit]
    rcases h.ask? g k with ⟨absent, absent'⟩ | ⟨x, v, v', found, found', alike, -⟩
    · rw [absent, absent']
      exact h
    · rw [found, found']
      exact alike.edit x f
  | keep g k =>
    rw [step_keep, step_keep]
    rcases h.ask? g k with ⟨absent, absent'⟩ | ⟨x, v, v', found, found', alike, -⟩
    · rw [absent, absent']
      exact h
    · rw [found, found']
      exact alike.keep x
  | editKept n f =>
    rw [step_editKept, step_editKept, ← h.kept]
    cases w.kept[n]? with
    | none => exact h
    | some x => exact h.edit x f
  | addSource s => exact h.addSource s

theorem Alike.run (h : Alike w w') (cs : List Change) : Alike (w.run cs) (w'.run cs) := by
  induction cs generalizing w w' with
  | nil => exact h
  | cons c rest ih => exact ih (h.step c)

theorem Alike.read?_eq (h : Alike w w') (g : Giver) (k : TypeKind) :
    w.read? g k = w'.read? g k := by
  unfold read?
  rcases h.ask? g k with ⟨none, none'⟩ | ⟨x, v, v', some, some', -, same⟩
  · rw [none, none']
  · rw [some, some']
    exact congrArg Option.some same

theorem alike_edit (f f' : Edit) (hn : ¬ w.Owns h.place) : Alike (w.edit h f) (w.edit h f') :=
  ⟨rfl, rfl, rfl, rfl, Agree.edit_of_not ⟨rfl, fun _ _ => rfl⟩ hn f f'⟩

/-- What is done to a list made for whoever asked makes no difference to the sources. -/
theorem Holds.alike (hw : w.Holds start) (hc : w.OnCopy c c') :
    Alike (w.step c) (w.step c') := by
  cases hc with
  | @ofFixed i k f f' groups there =>
    have ha := ask?_source w i k
    rw [there] at ha
    rw [step_edit, step_edit, ha]
    have asked := hw.asked ha
    exact alike_edit f f' fun ho => asked.not_owns hw (by rintro places ⟨⟩) (asked.owns_iff.1 ho)
  | @ofCombined k f f' =>
    have ha := ask?_combined w k
    rw [step_edit, step_edit, ha]
    have asked := hw.asked ha
    exact alike_edit f f' fun ho => asked.not_owns hw (by rintro places ⟨⟩) (asked.owns_iff.1 ho)
  | @held n f f' h there copy =>
    rw [step_editKept, step_editKept, there]
    exact alike_edit f f' (hw.copies h (List.mem_of_getElem? there) copy).2

end World

/-- Whatever is done to the lists around a combined model: a group of it is what the sources it was
made from hold, one after another, and their number stays. A change to a list that a source holds
is seen where that list is held; any other change is not seen in a group, and it makes no difference
to anything read later what is done to a list that a fixed source or the combined model made. -/
theorem run_group (start : Start) (changes : List Change) :
    let w := (World.combine start).run changes
    (∀ k, w.group k = start.sources.flatMap (Source.contents w.lists k)) ∧
    w.sourceCount = start.sources.length ∧
    (∀ c k, (∀ place f, w.OnOwn c place f → (w.step c).group k =
        start.sources.flatMap (Source.contents (w.lists.edit place f) k)) ∧
      ((∀ place f, ¬ w.OnOwn c place f) → (w.step c).group k = w.group k)) ∧
    (∀ c c', w.OnCopy c c' → ∀ later g k,
      ((w.step c).run later).read? g k = ((w.step c').run later).read? g k) := by
  intro w
  have holds : w.Holds start := (World.holds_combine start).run changes
  refine ⟨holds.group_eq, congrArg List.length holds.sources, fun c k => ⟨?_, ?_⟩, ?_⟩
  · intro place f own
    rw [(holds.step c).group_eq, own.lists_step]
  · intro other
    rw [(holds.step c).group_eq, holds.group_eq]
    exact flatMap_contents_congr fun place ho =>
      holds.get_step other (World.owns_of_sources (holds.sources ▸ ho))
  · intro c c' copy later g k
    exact ((holds.alike copy).run later).read?_eq g k

/-- One combined model, read after a live source has grown, a list it handed out was emptied, and
another source was added to the list it was made from. -/
example :
    let t : TypeSymbol := { name := "t", kind := .enum }
    let u : TypeSymbol := { name := "u", kind := .enum }
    let start : Start := .ofModels [⟨true, {}⟩, ⟨false, { enums := [t] }⟩]
    ((World.combine start).run [.edit (.source 0) .enum (.append u), .edit .combined .enum .clear,
      .edit (.source 1) .enum .clear, .addSource ⟨false, { enums := [u] }⟩]).group .enum =
      [u, t] := by
  rfl

end Stencil.Model.Sharing
