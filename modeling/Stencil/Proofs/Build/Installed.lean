import Stencil.Build.Installed
import Stencil.Proofs.Result

/-!
Looking up what is required. A module is found if its name is known. Looking for another name
imports what stands above it, and that may be an error instead of an answer.
-/
namespace Stencil.Build.Installed
open Stencil.Text

/-- Names that are all known, each imported below the one before it. -/
inductive Imports (known : List Installed) :
    Option Installed → List String → Option Installed → Prop
  | done {parent} : Imports known parent [] parent
  | next {parent name m names last} (h : find? known name = some m)
      (rest : Imports known (some m) names last) : Imports known parent (name :: names) last

variable {known : List Installed} {parent last : Option Installed} {name : String}
  {names absent : List String} {e : ImportError}

/-- The complaint about a name that is not known, by what stands above it. -/
def complaint (above : Option Installed) (name : String) : ImportError :=
  match above.filter fun p => !p.isPackage with
  | some p => .notInPackage name p.name
  | none => .missing name

theorem importAll_known {m : Installed} (h : find? known name = some m) :
    importAll known parent (name :: names) = importAll known (some m) names := by
  rw [importAll, h]

theorem importAll_unknown (h : find? known name = none) :
    importAll known parent (name :: names) = .error (complaint parent name) := by
  rw [importAll, h, complaint]
  cases parent.filter fun p => !p.isPackage <;> rfl

theorem importAll_eq_ok_iff : importAll known parent names = .ok last ↔
    Imports known parent names last := by
  induction names generalizing parent with
  | nil =>
    constructor
    · intro h
      cases h
      exact .done
    · intro h
      cases h
      rfl
  | cons name rest ih =>
    cases hm : find? known name with
    | some m =>
      rw [importAll_known hm, ih]
      constructor
      · exact .next hm
      · intro h
        cases h with
        | next hm' hrest =>
          cases hm.symm.trans hm'
          exact hrest
    | none =>
      rw [importAll_unknown hm]
      constructor
      · intro h
        cases h
      · intro h
        cases h with
        | next hm' => cases hm.symm.trans hm'

theorem importAll_eq_error_iff : importAll known parent names = .error e ↔
    ∃ front up rest above, names = front ++ up :: rest ∧ Imports known parent front above ∧
      find? known up = none ∧ e = complaint above up := by
  induction names generalizing parent with
  | nil =>
    constructor
    · intro h
      cases h
    · rintro ⟨front, up, rest, _, hn, _⟩
      simp at hn
  | cons name rest ih =>
    cases hm : find? known name with
    | some m =>
      rw [importAll_known hm, ih]
      constructor
      · rintro ⟨front, up, more, above, rfl, hfront, hup, he⟩
        exact ⟨name :: front, up, more, above, rfl, .next hm hfront, hup, he⟩
      · rintro ⟨front, up, more, above, hn, hfront, hup, he⟩
        cases hfront with
        | done =>
          cases hn
          cases hm.symm.trans hup
        | next hm' hfront =>
          cases hn
          cases hm.symm.trans hm'
          exact ⟨_, up, more, above, rfl, hfront, hup, he⟩
    | none =>
      rw [importAll_unknown hm]
      constructor
      · intro h
        cases h
        exact ⟨[], name, rest, parent, rfl, .done, hm, rfl⟩
      · rintro ⟨front, up, more, above, hn, hfront, hup, rfl⟩
        cases hfront with
        | done =>
          cases hn
          rfl
        | next hm' =>
          cases hn
          cases hm.symm.trans hm'

/-- A module that is found: its name is not a relative one, and it is known. -/
structure Found (known : List Installed) (name : String) : Prop where
  absolute : name.startsWith "." = false
  known : ∃ m, find? known name = some m

/-- Why looking up a name is an error: it is a relative one; or it is not known, and neither is
something above it, or what stands right above it is no package. -/
inductive Unfindable (known : List Installed) (name : String) : ImportError → Prop
  | relative (h : name.startsWith "." = true) : Unfindable known name (.relative name)
  | above {front up rest found} (absolute : name.startsWith "." = false)
      (unknown : find? known name = none) (names : Installed.above name = front ++ up :: rest)
      (before : Imports known none front found) (missing : find? known up = none) :
      Unfindable known name (complaint found up)
  | noPackage {p} (absolute : name.startsWith "." = false) (unknown : find? known name = none)
      (all : Imports known none (Installed.above name) (some p)) (module : p.isPackage = false) :
      Unfindable known name (.noPath p.name name)

theorem isThere_eq_true_iff : isThere known name = .ok true ↔ Found known name := by
  unfold isThere
  cases hr : name.startsWith "." with
  | true =>
    constructor
    · intro h
      cases h
    · intro h
      cases hr.symm.trans h.absolute
  | false =>
    cases hm : find? known name with
    | some m => exact ⟨fun _ => ⟨hr, m, hm⟩, fun _ => rfl⟩
    | none =>
      constructor
      · intro h
        obtain ⟨p, _, h⟩ := bind_eq_ok h
        cases p with
        | none => cases h
        | some p =>
          dsimp only at h
          split at h <;> cases h
      · rintro ⟨_, m, hm'⟩
        cases hm.symm.trans hm'

theorem isThere_eq_error_iff : isThere known name = .error e ↔ Unfindable known name e := by
  unfold isThere
  cases hr : name.startsWith "." with
  | true =>
    constructor
    · intro h
      cases h
      exact .relative hr
    · intro h
      cases h with
      | relative => rfl
      | above ha => cases hr.symm.trans ha
      | noPackage ha => cases hr.symm.trans ha
  | false =>
    cases hm : find? known name with
    | some m =>
      constructor
      · intro h
        cases h
      · intro h
        cases h with
        | relative h => cases hr.symm.trans h
        | above _ hn => cases hm.symm.trans hn
        | noPackage _ hn => cases hm.symm.trans hn
    | none =>
      change (importAll known none (above name) >>= fun found => match found with
        | some p => if p.isPackage then pure false else throw (.noPath p.name name)
        | none => pure false) = .error e ↔ _
      constructor
      · intro h
        rcases bind_eq_error h with himport | ⟨p, himport, h⟩
        · obtain ⟨front, up, rest, parent, hnames, hfront, hup, rfl⟩ :=
            importAll_eq_error_iff.mp himport
          exact .above hr hm hnames hfront hup
        · cases p with
          | none => cases h
          | some p =>
            dsimp only at h
            split at h
            · cases h
            · rename_i hp
              cases h
              exact .noPackage hr hm (importAll_eq_ok_iff.mp himport) (by simpa using hp)
      · intro h
        cases h with
        | relative h => cases hr.symm.trans h
        | above _ _ hnames hfront hup =>
          rw [importAll_eq_error_iff.mpr ⟨_, _, _, _, hnames, hfront, hup, rfl⟩]
          rfl
        | noPackage _ _ hall hp =>
          rw [importAll_eq_ok_iff.mpr hall]
          simp [bind, Except.bind, hp, throw, throwThe, MonadExceptOf.throw]

/-- Nothing is missing where all names are found. -/
theorem missing_eq_nil_iff : missing known names = .ok [] ↔ ∀ name ∈ names, Found known name := by
  induction names with
  | nil => simp [missing]
  | cons name rest ih =>
    rw [List.forall_mem_cons, ← ih, ← isThere_eq_true_iff, missing]
    cases isThere known name with
    | error e =>
      constructor
      · intro h
        cases h
      · rintro ⟨h, _⟩
        cases h
    | ok there =>
      cases missing known rest with
      | error e =>
        constructor
        · intro h
          cases h
        · rintro ⟨_, h⟩
          cases h
      | ok more => cases there <;> simp [bind, Except.bind, pure, Except.pure]

/-- Looking up names is an error where it is one for some name. -/
theorem missing_error_iff : (∃ e, missing known names = .error e) ↔
    ∃ name ∈ names, ∃ e, Unfindable known name e := by
  induction names with
  | nil => simp [missing]
  | cons name rest ih =>
    rw [missing]
    cases hn : isThere known name with
    | error e =>
      refine ⟨fun _ => ⟨name, List.mem_cons_self, e, isThere_eq_error_iff.mp hn⟩, fun _ => ⟨e, rfl⟩⟩
    | ok there =>
      have hname : ∀ e, ¬Unfindable known name e := fun e h => by
        cases hn.symm.trans (isThere_eq_error_iff.mpr h)
      have hrest : (∃ e, ((Except.ok there : Except ImportError Bool) >>= fun there =>
            missing known rest >>= fun more => pure (if there then more else name :: more)) =
          .error e) ↔ ∃ e, missing known rest = .error e := by
        cases missing known rest <;> simp [bind, Except.bind, pure, Except.pure]
      rw [hrest, ih]
      constructor
      · rintro ⟨n, hm, h⟩
        exact ⟨n, List.mem_cons_of_mem _ hm, h⟩
      · rintro ⟨n, hm, e, h⟩
        rcases List.mem_cons.mp hm with rfl | hm
        · exact absurd h (hname e)
        · exact ⟨n, hm, e, h⟩

end Stencil.Build.Installed
