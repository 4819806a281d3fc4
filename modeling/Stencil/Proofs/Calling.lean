import Stencil.Proofs.Work

/-!
Work around one call of other work. What is done before the call is the same whatever is called, and
what is done after it depends on nothing but the tree and the result that the call ends with.
-/
namespace Stencil
open Stencil.Files

variable {κ ε δ ζ α β γ : Type}

/-- What work leaves behind that was done when something had been printed already. -/
def Done.behind (printed : List Printed) (d : Done ε α) : Done ε α :=
  { d with printed := printed ++ d.printed }

namespace Work

/-- Pieces of work that all print the same on a tree and then leave what they are told to. -/
def Reaches (w : κ → Work ε α) (t : Tree) (target : κ → Done ε α) : Prop :=
  ∃ printed, ∀ k, w k t = (target k).behind printed

/-- Pieces of work that all do the same on a tree. -/
def Settled (w : κ → Work ε α) (t after : Tree) (r : Except ε α) : Prop :=
  Reaches w t fun _ => ⟨after, [], r⟩

/-- Work that calls other work once, on some tree, and goes on with how the call has ended. -/
def CallsOnce (call : κ → Work δ γ) (w : κ → Work ε α) (t called : Tree)
    (next : Except δ γ → Work ε α) : Prop :=
  Reaches w t fun k => ((call k).attempt >>= next) called

namespace Reaches

variable {w : κ → Work ε α} {t mid : Tree} {target : κ → Done ε α}

/-- What comes first is the same for all. -/
theorem after {u : Work ε β} {a : β} {w : κ → β → Work ε α} (hu : Ends u t mid (.ok a))
    (h : Reaches (fun k => w k a) mid target) : Reaches (fun k => u >>= w k) t target := by
  obtain ⟨printed, h⟩ := h
  obtain ⟨htree, hresult⟩ := hu
  refine ⟨(u t).printed ++ printed, fun k => ?_⟩
  change Work.bind u (w k) t = _
  unfold Work.bind
  generalize u t = d at htree hresult
  obtain ⟨tree, before, result⟩ := d
  cases htree
  cases hresult
  simp only [h k, Done.behind, List.append_assoc]

theorem either {c : Prop} [Decidable c] {w' : κ → Work ε α} (h : Reaches w t target)
    (h' : Reaches w' t target) : Reaches (fun k => if c then w k else w' k) t target := by
  by_cases hc : c
  · simp only [if_pos hc]
    exact h
  · simp only [if_neg hc]
    exact h'

/-- What comes first may be done only sometimes. -/
theorem when {c : Prop} [Decidable c] {u : Work ε PUnit} (hu : Ends u t t (.ok ()))
    (h : Reaches w t target) :
    Reaches (fun k => if c then u >>= fun _ => w k else w k) t target :=
  (h.after hu).either h

end Reaches

/-- Work that does not ask for anything is settled. -/
theorem Ends.settled {w : Work ε α} {t after : Tree} {r : Except ε α} (h : Ends w t after r) :
    Settled (fun _ : κ => w) t after r := by
  obtain ⟨rfl, rfl⟩ := h
  exact ⟨(w t).printed, fun _ => by simp [Done.behind]⟩

theorem Settled.ends {w : κ → Work ε α} {t after : Tree} {r : Except ε α} (h : Settled w t after r)
    (k : κ) : Ends (w k) t after r := by
  obtain ⟨printed, h⟩ := h
  exact ⟨by rw [h k]; rfl, by rw [h k]; rfl⟩

/-- What comes after an error is not done. -/
theorem Ends.settled_bind {u : Work ε β} {w : κ → β → Work ε α} {t after : Tree} {e : ε}
    (h : Ends u t after (.error e)) : Settled (fun k => u >>= w k) t after (.error e) := by
  obtain ⟨htree, hresult⟩ := h
  refine ⟨(u t).printed, fun k => ?_⟩
  change Work.bind u (w k) t = _
  unfold Work.bind
  generalize u t = d at htree hresult
  obtain ⟨tree, printed, result⟩ := d
  cases htree
  cases hresult
  simp [Done.behind]

namespace CallsOnce

variable {call : κ → Work δ γ} {w : κ → Work ε α} {t called : Tree}
  {next : Except δ γ → Work ε α}

theorem iff : CallsOnce call w t called next ↔ ∃ printed, ∀ k, w k t =
    ((next (call k called).result (call k called).tree).behind (call k called).printed).behind
      printed := Iff.rfl

theorem self (call : κ → Work δ γ) (t : Tree) : CallsOnce call call t t ofExcept := by
  refine iff.mpr ⟨[], fun k => ?_⟩
  generalize call k t = d
  obtain ⟨tree, printed, result⟩ := d
  cases result <;> simp [Done.behind, ofExcept, Work.pure, fail]

/-- How the call ends and what is done then make the whole. -/
theorem ends {k : κ} {mid after : Tree} {x : Except δ γ} {r : Except ε α}
    (h : CallsOnce call w t called next) (hc : Ends (call k) called mid x)
    (hn : Ends (next x) mid after r) : Ends (w k) t after r := by
  obtain ⟨printed, h⟩ := iff.mp h
  obtain ⟨rfl, rfl⟩ := hc
  exact ⟨by rw [h k]; exact hn.tree, by rw [h k]; exact hn.result⟩

theorem mapError (h : CallsOnce call w t called next) (f : ε → ζ) :
    CallsOnce call (fun k => (w k).mapError f) t called fun x => (next x).mapError f := by
  obtain ⟨printed, h⟩ := iff.mp h
  refine iff.mpr ⟨printed, fun k => ?_⟩
  simp only [Work.mapError, h k]
  rfl

theorem attempt (h : CallsOnce call w t called next) :
    CallsOnce call (fun k => ((w k).attempt : Work ζ _)) t called fun x => (next x).attempt := by
  obtain ⟨printed, h⟩ := iff.mp h
  refine iff.mpr ⟨printed, fun k => ?_⟩
  simp only [Work.attempt, h k]
  rfl

/-- What comes later is told how the call has ended. -/
theorem bind (h : CallsOnce call w t called next) (last : α → Work ε β) :
    CallsOnce call (fun k => w k >>= last) t called fun x => next x >>= last := by
  obtain ⟨printed, h⟩ := iff.mp h
  refine iff.mpr ⟨printed, fun k => ?_⟩
  change Work.bind (w k) last t = ((Work.bind _ last _).behind _).behind _
  unfold Work.bind
  rw [h k]
  generalize next _ _ = d
  obtain ⟨tree, later, result⟩ := d
  cases result <;> simp [Done.behind]

theorem ending (h : CallsOnce call w t called next) (last : Work ε Unit) :
    CallsOnce call (fun k => (w k).ending last) t called fun x => (next x).ending last :=
  h.attempt.bind _

end CallsOnce
end Work
end Stencil
