import Stencil.Work

/-!
How work ends: with a tree and a result. What is printed on the way is left out. Work that is made
of parts ends as its parts do, one after another, up to the first error.
-/
namespace Stencil.Work
open Stencil.Files

variable {ε δ α β : Type} {w : Work ε α} {t mid after : Tree} {a : α} {e : ε} {r : Except ε α}

/-- Work on a tree ends with another tree and a result. -/
structure Ends (w : Work ε α) (t after : Tree) (r : Except ε α) : Prop where
  tree : (w t).tree = after
  result : (w t).result = r

theorem ends_self (w : Work ε α) (t : Tree) : Ends w t (w t).tree (w t).result := ⟨rfl, rfl⟩

theorem Ends.unique {after' : Tree} {r' : Except ε α} (h : Ends w t after r)
    (h' : Ends w t after' r') : after = after' ∧ r = r' :=
  ⟨h.tree.symm.trans h'.tree, h.result.symm.trans h'.result⟩

theorem ends_bind_ok {next : α → Work ε β} {s : Except ε β} (h : Ends w t mid (.ok a)) :
    Ends (w >>= next) t after s ↔ Ends (next a) mid after s := by
  obtain ⟨ht, hr⟩ := h
  have hbind : ((w >>= next) t).tree = (next a mid).tree ∧
      ((w >>= next) t).result = (next a mid).result := by
    change (Work.bind w next t).tree = _ ∧ (Work.bind w next t).result = _
    unfold Work.bind
    generalize w t = d at ht hr
    obtain ⟨tree, printed, result⟩ := d
    cases ht
    cases hr
    exact ⟨rfl, rfl⟩
  constructor
  · rintro ⟨rfl, rfl⟩
    exact ⟨hbind.1.symm, hbind.2.symm⟩
  · rintro ⟨rfl, rfl⟩
    exact ⟨hbind.1, hbind.2⟩

theorem ends_bind_error {next : α → Work ε β} {s : Except ε β} (h : Ends w t mid (.error e)) :
    Ends (w >>= next) t after s ↔ after = mid ∧ s = .error e := by
  obtain ⟨ht, hr⟩ := h
  have hbind : ((w >>= next) t).tree = mid ∧ ((w >>= next) t).result = .error e := by
    change (Work.bind w next t).tree = _ ∧ (Work.bind w next t).result = _
    unfold Work.bind
    generalize w t = d at ht hr
    obtain ⟨tree, printed, result⟩ := d
    cases ht
    cases hr
    exact ⟨rfl, rfl⟩
  constructor
  · rintro ⟨rfl, rfl⟩
    exact hbind
  · rintro ⟨rfl, rfl⟩
    exact ⟨hbind.1, hbind.2⟩

/-- Two pieces of work in a row: the second one starts where the first one ends, unless that is an
error. -/
theorem ends_bind_iff {next : α → Work ε β} {s : Except ε β} : Ends (w >>= next) t after s ↔
    (∃ mid a, Ends w t mid (.ok a) ∧ Ends (next a) mid after s) ∨
      ∃ e, Ends w t after (.error e) ∧ s = .error e := by
  have hw := ends_self w t
  constructor
  · intro h
    cases hr : (w t).result with
    | ok a =>
      rw [hr] at hw
      exact Or.inl ⟨_, a, hw, (ends_bind_ok hw).mp h⟩
    | error e =>
      rw [hr] at hw
      obtain ⟨rfl, rfl⟩ := (ends_bind_error hw).mp h
      exact Or.inr ⟨e, hw, rfl⟩
  · rintro (⟨mid, a, hw, h⟩ | ⟨e, hw, rfl⟩)
    · exact (ends_bind_ok hw).mpr h
    · exact (ends_bind_error hw).mpr ⟨rfl, rfl⟩

/-- Work in a row that gives something does so in each part. -/
theorem Ends.exists_of_bind {next : α → Work ε β} {b : β} (h : Ends (w >>= next) t after (.ok b)) :
    ∃ mid a, Ends w t mid (.ok a) ∧ Ends (next a) mid after (.ok b) := by
  rcases ends_bind_iff.mp h with hok | ⟨e, _, he⟩
  · exact hok
  · cases he

theorem ends_either_iff {c : Prop} [Decidable c] {w' : Work ε α}
    (h : Ends w' t after r ↔ Ends w t after r) :
    Ends (if c then w' else w) t after r ↔ Ends w t after r := by
  split
  · exact h
  · exact Iff.rfl

/-- Work that is done only sometimes, and that changes nothing, may be left out. -/
theorem ends_when_iff {c : Prop} [Decidable c] {u : Work ε PUnit} (hu : Ends u t t (.ok ())) :
    Ends (if c then u >>= fun _ => w else w) t after r ↔ Ends w t after r :=
  ends_either_iff (ends_bind_ok hu)

@[simp] theorem ends_pure_iff : Ends (pure a) t after r ↔ after = t ∧ r = .ok a := by
  constructor
  · rintro ⟨rfl, rfl⟩
    exact ⟨rfl, rfl⟩
  · rintro ⟨rfl, rfl⟩
    exact ⟨rfl, rfl⟩

@[simp] theorem ends_fail_iff : Ends (fail e) t after r ↔ after = t ∧ r = .error e := by
  constructor
  · rintro ⟨rfl, rfl⟩
    exact ⟨rfl, rfl⟩
  · rintro ⟨rfl, rfl⟩
    exact ⟨rfl, rfl⟩

@[simp] theorem ends_ofExcept_iff {x : Except ε α} :
    Ends (ofExcept x) t after r ↔ after = t ∧ r = x := by
  cases x with
  | ok a => exact ends_pure_iff
  | error e => exact ends_fail_iff

@[simp] theorem ends_look_iff {f : Tree → Except ε α} :
    Ends (look f) t after r ↔ after = t ∧ r = f t := by
  constructor
  · rintro ⟨rfl, rfl⟩
    exact ⟨rfl, rfl⟩
  · rintro ⟨rfl, rfl⟩
    exact ⟨rfl, rfl⟩

@[simp] theorem ends_tree_iff {s : Except ε Tree} :
    Ends (tree : Work ε Tree) t after s ↔ after = t ∧ s = .ok t := ends_look_iff

@[simp] theorem ends_sayAll_iff {ms : List Console.Message} {s : Except ε PUnit} :
    Ends (sayAll ms) t after s ↔ after = t ∧ s = .ok () := by
  constructor
  · rintro ⟨rfl, rfl⟩
    exact ⟨rfl, rfl⟩
  · rintro ⟨rfl, rfl⟩
    exact ⟨rfl, rfl⟩

@[simp] theorem ends_print_iff {p : Printed} {s : Except ε PUnit} :
    Ends (print p) t after s ↔ after = t ∧ s = .ok () := by
  constructor
  · rintro ⟨rfl, rfl⟩
    exact ⟨rfl, rfl⟩
  · rintro ⟨rfl, rfl⟩
    exact ⟨rfl, rfl⟩

@[simp] theorem ends_say_iff {m : Console.Message} {s : Except ε PUnit} :
    Ends (say m) t after s ↔ after = t ∧ s = .ok () := ends_print_iff

@[simp] theorem ends_change_iff {f : Tree → Except ε Tree} {s : Except ε PUnit} :
    Ends (change f) t after s ↔
      (f t = .ok after ∧ s = .ok ()) ∨ ∃ e, f t = .error e ∧ after = t ∧ s = .error e := by
  constructor
  · rintro ⟨rfl, rfl⟩
    unfold change
    cases f t with
    | ok changed => exact Or.inl ⟨rfl, rfl⟩
    | error e => exact Or.inr ⟨e, rfl, rfl, rfl⟩
  · unfold change
    rintro (⟨hf, rfl⟩ | ⟨e, hf, rfl, rfl⟩)
    · constructor <;> simp only [hf]
    · constructor <;> simp only [hf]

theorem Ends.change_ok {f : Tree → Except ε Tree} {u : PUnit}
    (h : Ends (change f) t after (.ok u)) : f t = .ok after := by
  rcases ends_change_iff.mp h with ⟨hf, _⟩ | ⟨e, _, _, he⟩
  · exact hf
  · cases he

theorem ends_attempt_iff {s : Except δ (Except ε α)} :
    Ends (w.attempt : Work δ _) t after s ↔ ∃ r, Ends w t after r ∧ s = .ok r := by
  constructor
  · rintro ⟨rfl, rfl⟩
    exact ⟨_, ends_self w t, rfl⟩
  · rintro ⟨r, ⟨rfl, rfl⟩, rfl⟩
    exact ⟨rfl, rfl⟩

theorem ends_mapError_iff {f : ε → δ} {s : Except δ α} :
    Ends (w.mapError f) t after s ↔ ∃ r, Ends w t after r ∧ s = r.mapError f := by
  constructor
  · rintro ⟨rfl, rfl⟩
    exact ⟨_, ends_self w t, rfl⟩
  · rintro ⟨r, ⟨rfl, rfl⟩, rfl⟩
    exact ⟨rfl, rfl⟩

/-! What work keeps of a tree, however it ends. -/

variable {P Q R : Tree → Prop}

/-- Work leads from trees of one kind to trees of another kind. -/
def Leads (P : Tree → Prop) (w : Work ε α) (Q : Tree → Prop) : Prop := ∀ t, P t → Q (w t).tree

/-- Work that leaves every tree as it is. -/
def Quiet (w : Work ε α) : Prop := ∀ t, (w t).tree = t

theorem Leads.ends (h : Leads P w Q) (hp : P t) (he : Ends w t after r) : Q after := by
  rw [← he.tree]
  exact h t hp

theorem Quiet.ends (h : Quiet w) (he : Ends w t after r) : after = t := by
  rw [← he.tree]
  exact h t

theorem Quiet.leads (h : Quiet w) : Leads P w P := by
  intro t hp
  rw [h t]
  exact hp

theorem Leads.weaken (h : Leads P w Q) (hq : ∀ t, Q t → R t) : Leads P w R :=
  fun t hp => hq _ (h t hp)

theorem Leads.bind {next : α → Work ε β} (hw : Leads P w Q) (hn : ∀ a, Leads Q (next a) R)
    (hqr : ∀ t, Q t → R t) : Leads P (w >>= next) R := by
  intro t hp
  rcases ends_bind_iff.mp (ends_self (w >>= next) t) with ⟨mid, a, hm, he⟩ | ⟨e, he, _⟩
  · exact (hn a).ends (hw.ends hp hm) he
  · exact hqr _ (hw.ends hp he)

theorem Quiet.bind {next : α → Work ε β} (hw : Quiet w) (hn : ∀ a, Quiet (next a)) :
    Quiet (w >>= next) := by
  intro t
  rcases ends_bind_iff.mp (ends_self (w >>= next) t) with ⟨mid, a, hm, he⟩ | ⟨e, he, _⟩
  · rw [(hn a).ends he, hw.ends hm]
  · exact hw.ends he

/-- Work that changes nothing may come first, or come first only sometimes. -/
theorem Quiet.leads_bind {next : α → Work ε β} (hw : Quiet w) (hn : ∀ a, Leads P (next a) Q)
    (hpq : ∀ t, P t → Q t) : Leads P (w >>= next) Q := hw.leads.bind hn hpq

theorem Quiet.leads_when {c : Prop} [Decidable c] {next : Work ε β} (hw : Quiet w)
    (hn : Leads P next Q) (hpq : ∀ t, P t → Q t) :
    Leads P (if c then w >>= fun _ => next else next) Q := by
  split
  · exact hw.leads_bind (fun _ => hn) hpq
  · exact hn

/-- What follows a look at the tree may rely on it. -/
theorem leads_tree {next : Tree → Work ε β} (h : ∀ t, P t → Leads P (next t) Q) :
    Leads P (Work.tree >>= next) Q := by
  intro t hp
  have he := ends_self (Work.tree >>= next) t
  rw [ends_bind_ok (ends_tree_iff.mpr ⟨rfl, rfl⟩)] at he
  exact (h t hp).ends hp he

theorem leads_change {f : Tree → Except ε Tree} (h : ∀ t t', P t → f t = .ok t' → P t') :
    Leads P (change f) P := by
  intro t hp
  rcases ends_change_iff.mp (ends_self (change f) t) with ⟨hf, _⟩ | ⟨e, _, ht, _⟩
  · exact h t _ hp hf
  · rw [ht]
    exact hp

theorem leads_mapError {f : ε → δ} (h : Leads P w Q) : Leads P (w.mapError f) Q := h

theorem quiet_pure (a : α) : Quiet (pure a : Work ε α) := fun _ => rfl

theorem quiet_fail (e : ε) : Quiet (fail e : Work ε α) := fun _ => rfl

theorem quiet_look (f : Tree → Except ε α) : Quiet (look f) := fun _ => rfl

theorem quiet_tree : Quiet (tree : Work ε Tree) := fun _ => rfl

theorem quiet_print (p : Printed) : Quiet (print p : Work ε _) := fun _ => rfl

theorem quiet_say (m : Console.Message) : Quiet (say m : Work ε _) := fun _ => rfl

theorem quiet_sayAll (ms : List Console.Message) : Quiet (sayAll ms : Work ε _) := fun _ => rfl

theorem quiet_ofExcept (x : Except ε α) : Quiet (ofExcept x) := by
  cases x with
  | ok a => exact quiet_pure a
  | error e => exact quiet_fail e

/-- Work after which the last work is done as well ends with its result. -/
theorem ends_ending_iff {last : Work ε Unit} {s : Except ε α} :
    Ends (w.ending last) t after s ↔ (∃ mid u, Ends w t mid s ∧ Ends last mid after (.ok u)) ∨
      ∃ mid r e, Ends w t mid r ∧ Ends last mid after (.error e) ∧ s = .error e := by
  have hw := ends_self w t
  unfold ending
  rw [ends_bind_ok (ends_attempt_iff.mpr ⟨_, hw, rfl⟩), ends_bind_iff]
  constructor
  · rintro (⟨mid, u, hlast, h⟩ | ⟨e, hlast, rfl⟩)
    · obtain ⟨rfl, rfl⟩ := ends_ofExcept_iff.mp h
      exact Or.inl ⟨_, u, hw, hlast⟩
    · exact Or.inr ⟨_, _, e, hw, hlast, rfl⟩
  · rintro (⟨mid, u, ⟨rfl, rfl⟩, hlast⟩ | ⟨mid, r, e, ⟨rfl, rfl⟩, hlast, rfl⟩)
    · exact Or.inl ⟨_, u, hlast, ends_ofExcept_iff.mpr ⟨rfl, rfl⟩⟩
    · exact Or.inr ⟨e, hlast, rfl⟩

/-! The errors of work. -/

variable {E F : ε → Prop} {D : δ → Prop}

/-- Every error of the work is of one kind. -/
def Raises (E : ε → Prop) (w : Work ε α) : Prop := ∀ t e, (w t).result = .error e → E e

theorem Raises.ends (h : Raises E w) (he : Ends w t after (.error e)) : E e := h t e he.result

theorem Raises.bind {next : α → Work ε β} (hw : Raises E w) (hn : ∀ a, Raises E (next a)) :
    Raises E (w >>= next) := by
  intro t e he
  rcases ends_bind_iff.mp ⟨rfl, he⟩ with ⟨mid, a, _, h⟩ | ⟨_, h, hs⟩
  · exact (hn a).ends h
  · cases hs
    exact hw.ends h

theorem raises_pure (a : α) : Raises E (pure a : Work ε α) := fun _ _ h => by cases h

theorem raises_fail (h : E e) : Raises E (fail e : Work ε α) := fun _ _ he => by
  cases he
  exact h

theorem raises_look {f : Tree → Except ε α} (h : ∀ t e, f t = .error e → E e) :
    Raises E (look f) := h

theorem raises_tree : Raises E (tree : Work ε Tree) := fun _ _ h => by cases h

theorem raises_print (p : Printed) : Raises E (print p : Work ε _) := fun _ _ h => by cases h

theorem raises_say (m : Console.Message) : Raises E (say m : Work ε _) := raises_print _

theorem raises_sayAll (ms : List Console.Message) : Raises E (sayAll ms : Work ε _) :=
  fun _ _ h => by cases h

theorem raises_change {f : Tree → Except ε Tree} (h : ∀ t e, f t = .error e → E e) :
    Raises E (change f) := by
  intro t e he
  rcases ends_change_iff.mp ⟨rfl, he⟩ with ⟨_, hs⟩ | ⟨_, hf, _, hs⟩
  · cases hs
  · cases hs
    exact h t e hf

theorem raises_mapError {f : ε → δ} (h : ∀ e, D (f e)) : Raises D (w.mapError f) := by
  intro t e he
  obtain ⟨r, _, hr⟩ := ends_mapError_iff.mp ⟨rfl, he⟩
  cases r with
  | ok => cases hr
  | error e' =>
    cases hr
    exact h e'

theorem Raises.when {c : Prop} [Decidable c] {next : Work ε β} (hw : Raises E w)
    (hn : Raises E next) : Raises E (if c then w >>= fun _ => next else next) := by
  split
  · exact hw.bind fun _ => hn
  · exact hn

theorem Raises.ending {last : Work ε Unit} (hw : Raises E w) (hl : Raises E last) :
    Raises E (w.ending last) := by
  intro t e he
  rcases ends_ending_iff.mp ⟨rfl, he⟩ with ⟨mid, u, h, _⟩ | ⟨mid, r, e', _, h, hs⟩
  · exact hw.ends h
  · cases hs
    exact hl.ends h

/-- What follows an attempt may rely on the kind of its error. -/
theorem Raises.attempt_bind {next : Except ε α → Work δ β} (hw : Raises E w)
    (hn : ∀ r, (∀ e, r = .error e → E e) → Raises D (next r)) : Raises D (w.attempt >>= next) := by
  intro t e he
  rcases ends_bind_iff.mp ⟨rfl, he⟩ with ⟨mid, r, h, hnext⟩ | ⟨_, h, _⟩
  · obtain ⟨s, hs, heq⟩ := ends_attempt_iff.mp h
    cases heq
    refine (hn r ?_).ends hnext
    rintro e rfl
    exact hw.ends hs
  · obtain ⟨s, _, heq⟩ := ends_attempt_iff.mp h
    cases heq

end Stencil.Work

/-!
What work prints. Work tells a message when it prints it on the way to its end. Work is quieter than
other work when it does the same on every tree and prints some of the same, in the same order.
-/
namespace Stencil.Work
open Stencil.Files

variable {ε δ α β : Type} {w w' : Work ε α} {next next' : α → Work ε β} {t mid after : Tree} {a : α}
  {r : Except ε α} {m : Printed}

/-- Work after work prints what the first prints, and then what the second prints unless there is
none. -/
theorem printed_bind (w : Work ε α) (next : α → Work ε β) (t : Tree) :
    ((w >>= next) t).printed = (w t).printed ++
      match (w t).result with
      | .ok a => (next a (w t).tree).printed
      | .error _ => [] := by
  change (Work.bind w next t).printed = _
  unfold Work.bind
  generalize w t = d
  obtain ⟨tree, printed, result⟩ := d
  cases result with
  | ok a => rfl
  | error e => exact (List.append_nil printed).symm

theorem printed_attempt_bind (w : Work ε α) (next : Except ε α → Work δ β) (t : Tree) :
    ((w.attempt >>= next) t).printed =
      (w t).printed ++ (next (w t).result (w t).tree).printed := rfl

/-! Messages that are told. -/

/-- Work on a tree ends, and prints a message on the way. -/
structure Tells (w : Work ε α) (t after : Tree) (r : Except ε α) (m : Printed) : Prop
    extends Ends w t after r where
  printed : m ∈ (w t).printed

theorem tells_say (m : Console.Message) (t : Tree) :
    Tells (say m : Work ε _) t t (.ok ()) (.message m) :=
  ⟨⟨rfl, rfl⟩, List.mem_singleton_self _⟩

/-- What comes later tells it. -/
theorem Ends.bind_tells {s : Except ε β} (h : Ends w t mid (.ok a))
    (hn : Tells (next a) mid after s m) : Tells (w >>= next) t after s m where
  toEnds := (ends_bind_ok h).mpr hn.toEnds
  printed := by
    rw [printed_bind, h.result, h.tree]
    exact List.mem_append_right _ hn.printed

/-- What comes first tells it. -/
theorem Tells.bind_ends {s : Except ε β} (h : Tells w t mid (.ok a) m)
    (hn : Ends (next a) mid after s) : Tells (w >>= next) t after s m where
  toEnds := (ends_bind_ok h.toEnds).mpr hn
  printed := by
    rw [printed_bind]
    exact List.mem_append_left _ h.printed

/-! Work that prints more. -/

/-- Work that does on every tree what other work does and prints no more. -/
structure Quieter (w w' : Work ε α) : Prop where
  tree : ∀ t, (w t).tree = (w' t).tree
  result : ∀ t, (w t).result = (w' t).result
  printed : ∀ t, (w t).printed.Sublist (w' t).printed

theorem Quieter.refl (w : Work ε α) : Quieter w w :=
  ⟨fun _ => rfl, fun _ => rfl, fun _ => List.Sublist.refl _⟩

theorem Quieter.ends_iff (h : Quieter w w') : Ends w t after r ↔ Ends w' t after r := by
  constructor
  · rintro ⟨rfl, rfl⟩
    exact ⟨(h.tree t).symm, (h.result t).symm⟩
  · rintro ⟨rfl, rfl⟩
    exact ⟨h.tree t, h.result t⟩

theorem Quieter.bind (h : Quieter w w') (hn : ∀ a, Quieter (next a) (next' a)) :
    Quieter (w >>= next) (w' >>= next') := by
  have hends : ∀ t after (s : Except ε β),
      Ends (w >>= next) t after s ↔ Ends (w' >>= next') t after s := by
    intro t after s
    simp only [ends_bind_iff, h.ends_iff, (hn _).ends_iff]
  constructor
  · exact fun t => ((hends t _ _).mp (ends_self _ t)).tree.symm
  · exact fun t => ((hends t _ _).mp (ends_self _ t)).result.symm
  · intro t
    rw [printed_bind, printed_bind, h.result, h.tree]
    refine (h.printed t).append ?_
    cases (w' t).result with
    | ok a => exact (hn a).printed _
    | error e => exact List.Sublist.refl _

theorem Quieter.attempt (h : Quieter w w') :
    Quieter (w.attempt : Work δ _) (w'.attempt : Work δ _) where
  tree := h.tree
  result t := congrArg Except.ok (h.result t)
  printed := h.printed

theorem Quieter.mapError (h : Quieter w w') (f : ε → δ) :
    Quieter (w.mapError f) (w'.mapError f) where
  tree := h.tree
  result t := congrArg (Except.mapError f) (h.result t)
  printed := h.printed

theorem Quieter.ending (h : Quieter w w') (last : Work ε Unit) :
    Quieter (w.ending last) (w'.ending last) :=
  h.attempt.bind fun _ => (Quieter.refl last).bind fun _ => .refl _

/-- Messages may be left out. -/
theorem quieter_sayAll {ms ms' : List Console.Message} (h : ms.Sublist ms') :
    Quieter (sayAll ms : Work ε _) (sayAll ms') :=
  ⟨fun _ => rfl, fun _ => rfl, fun _ => h.map _⟩

/-- Work that only prints. -/
def Speech (u : Work ε PUnit) : Prop := Quieter (pure ()) u

theorem speech_say (m : Console.Message) : Speech (say m : Work ε _) :=
  ⟨fun _ => rfl, fun _ => rfl, fun _ => List.nil_sublist _⟩

theorem speech_sayAll (ms : List Console.Message) : Speech (sayAll ms : Work ε _) :=
  ⟨fun _ => rfl, fun _ => rfl, fun _ => List.nil_sublist _⟩

/-- Work that only prints may come first in the louder work. -/
theorem Quieter.behind {u : Work ε PUnit} (h : Quieter w w') (hu : Speech u) :
    Quieter w (u >>= fun _ => w') := hu.bind fun _ => h

end Stencil.Work
