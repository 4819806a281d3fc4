import Stencil.Proofs.Template.Keeping
import Stencil.Template.Statement

/-!
Calls and expressions capture nothing but what the loops capture that they start anew.
-/
namespace Stencil.Template
open Std.Do
open Keeper (Keeps)
set_option mvcgen.warning false

namespace Keeper
variable [Library] [K : Keeper]

/-! Steps that ask for nothing. -/

@[spec] theorem settledAll_keeps (vs : List (String × Option Value)) :
    Keeps (Routine.settledAll vs) := by
  induction vs with
  | nil => mvcgen [Routine.settledAll]
  | cons e rest ih => mvcgen [Routine.settledAll, ih]

@[spec] theorem callObjectMethod_keeps (place : Nat) (name : String) (a : Actuals) :
    Keeps (callObjectMethod place name a) := by
  mvcgen [callObjectMethod] <;> grind [Object.Plain]

@[spec] theorem literal_keeps (l : Literal) : Keeps (literal l) := by
  mvcgen [literal, literal.written]
  all_goals exact False.elim

@[spec] theorem onlyRunning_keeps {α : Type} : Keeps (onlyRunning : Eval α) := by
  mvcgen [onlyRunning]

/-- While the template runs, what fails does not wait. -/
@[spec] theorem held_keeps {α : Type} {step : Eval α} (h : Keeps step) : Keeps (held step) := by
  mvcgen [held, h]
  rename_i hs hb
  simp [Environment.beforehand, K.running hs] at hb

@[spec] theorem escapesNow_keeps (f : Frame) : Keeps (escapesNow f) := by
  mvcgen [escapesNow]
  exact And.left ‹_›

@[spec] theorem marksText_keeps (f : Frame) : Keeps (marksText f) := by
  mvcgen [marksText]

@[spec] theorem readName_keeps (f : Frame) (name : String) : Keeps (readName f name) := by
  mvcgen [readName]
  exact False.elim

@[spec] theorem spreadNamed_keeps (shown : String) (named : List (String × Value)) (v : Value) :
    Keeps (spreadNamed shown named v) := by
  mvcgen [spreadNamed] invariants
  · post⟨fun _ env s => ⌜K.Holds env s⌝, fun _ _ => ⌜True⌝⟩
  exact id

variable [P : Performs]

/-! Calls. -/

@[spec] theorem listed_keeps (v : Value) : Keeps (listed K.run v) := by
  mvcgen [listed]

@[spec] theorem listedArgs_keeps (a : Actuals) : Keeps (listedArgs K.run a) := by
  mvcgen [listedArgs]

@[spec] theorem entriesFor_keeps (a : Actuals) : Keeps (entriesFor K.run a) := by
  mvcgen [entriesFor]

@[spec] theorem callBuiltin_keeps (b : Builtin) (a : Actuals) :
    Keeps (callBuiltin K.run b a) := by
  mvcgen [callBuiltin] <;> grind [Object.Plain]

/-- A plain template calls no functions of templates and no blocks; a loop that it calls is in the
store where it starts anew. -/
@[spec] theorem callObject_keeps (escape : Bool) (place : Nat) (kind : ObjectKind) (a : Actuals) :
    Keeps (callObject K.run escape place kind a) := by
  refine triple_iff.mpr fun env s v s' h hcall => ?_
  obtain ⟨o, mid, hat, hrest⟩ := gives_bind_iff.mp hcall
  obtain ⟨rfl, rfl⟩ := gives_objectAt_iff.mp hat
  cases ho : mid.objects[place]? with
  | none =>
    rw [ho] at hrest
    exact triple_iff.mp (lift_keeps _) _ _ _ _ h hrest
  | some o =>
    have hplain := (K.plain h).object ho
    rw [ho] at hrest
    cases o with
    | routine r => exact hplain.elim
    | block name context depth => exact hplain.elim
    | loop ls =>
      obtain ⟨b, _, hb, hplay⟩ := gives_bind_iff.mp hrest
      obtain ⟨-, rfl⟩ := gives_lift_iff.mp hb
      cases hrec : ls.loop.recursive with
      | true =>
        rw [if_pos hrec] at hplay
        exact triple_iff.mp (P.loop _ _ _) _ _ _ _ ⟨h, ho, hrec⟩ hplay
      | false =>
        rw [if_neg (by simp [hrec])] at hplay
        exact triple_iff.mp (lift_keeps _) _ _ _ _ h hplay
    | joiner sep used =>
      obtain ⟨_, _, hargs, hjoin⟩ := gives_bind_iff.mp hrest
      obtain ⟨-, rfl⟩ := gives_lift_iff.mp hargs
      cases used with
      | true =>
        obtain ⟨-, rfl⟩ := gives_pure_iff.mp hjoin
        exact h
      | false =>
        have hset : Keeps (do setObject place (.joiner sep true); return Value.str "") := by mvcgen
        exact triple_iff.mp hset _ _ _ _ h hjoin
    | _ => exact triple_iff.mp (lift_keeps _) _ _ _ _ h hrest

@[spec] theorem callMethod_keeps (self : Value) (name : String) (a : Actuals) :
    Keeps (callMethod K.run self name a) := by
  mvcgen [callMethod]

@[spec] theorem callValue_keeps (escape : Bool) (callee : Value) (a : Actuals) :
    Keeps (callValue K.run escape callee a) := by
  mvcgen [callValue]

/-! Expressions. -/

@[spec] theorem concatenated_keeps (f : Frame) (vs : List Value) :
    Keeps (concatenated K.run f vs) := by
  mvcgen [concatenated]

@[spec] theorem spread_keeps (shown : String) (v : Value) : Keeps (spread K.run shown v) := by
  mvcgen [spread]

set_option linter.unusedSectionVars false

mutual

@[spec] theorem evaluate_keeps (f : Frame) : ∀ e, Keeps (evaluate K.run f e)
  | .literal v => by mvcgen [evaluate]
  | .name id => by mvcgen [evaluate]
  | .nsRef name attr => by mvcgen [evaluate]
  | .tuple items => by
    have hitems := evaluateAll_keeps f items
    mvcgen [evaluate, hitems]
  | .list items => by
    have hitems := evaluateAll_keeps f items
    mvcgen [evaluate, hitems]
  | .dict items => by
    have hitems := evaluatePairs_keeps f items
    mvcgen [evaluate, hitems]
  | .attr value name => by
    have hvalue := evaluate_keeps f value
    mvcgen [evaluate, hvalue]
  | .item value index => by
    have hvalue := evaluate_keeps f value
    have hindex := evaluate_keeps f index
    cases index with
    | slice start stop step =>
      have hstart := evaluateOr_keeps f start
      have hstop := evaluateOr_keeps f stop
      have hstep := evaluateOr_keeps f step
      mvcgen [evaluate, hvalue, hstart, hstop, hstep]
    | _ =>
      rw [evaluate.eq_def]
      mvcgen [hvalue, hindex]
  | .slice start stop step => by
    have hstart := evaluateOr_keeps f start
    mvcgen [evaluate, hstart]
  | .call function args => by
    have hfunction := evaluate_keeps f function
    have hargs := arguments_keeps f callShown [] args
    mvcgen [evaluate, hfunction, hargs]
  | .filter (some value) name args line => by
    have hvalue := evaluate_keeps f value
    have hargs := fun shown => arguments_keeps f shown [] args
    mvcgen [evaluate, hvalue, hargs]
  | .filter none name args line => by
    have hargs := fun shown => arguments_keeps f shown [] args
    mvcgen [evaluate, hargs]
  | .test value name args line => by
    have hvalue := evaluate_keeps f value
    have hargs := fun shown => arguments_keeps f shown [] args
    mvcgen [evaluate, hvalue, hargs]
  | .neg value => by
    have hvalue := evaluate_keeps f value
    mvcgen [evaluate, hvalue]
  | .pos value => by
    have hvalue := evaluate_keeps f value
    mvcgen [evaluate, hvalue]
  | .not value => by
    have hvalue := evaluate_keeps f value
    mvcgen [evaluate, hvalue]
  | .and left right => by
    have hleft := evaluate_keeps f left
    have hright := evaluate_keeps f right
    mvcgen [evaluate, hleft, hright]
  | .or left right => by
    have hleft := evaluate_keeps f left
    have hright := evaluate_keeps f right
    mvcgen [evaluate, hleft, hright]
  | .binary left op right => by
    have hleft := evaluate_keeps f left
    have hright := evaluate_keeps f right
    mvcgen [evaluate, hleft, hright]
  | .compare left rest => by
    have hleft := evaluate_keeps f left
    have hrest := fun v => compareAll_keeps f v rest
    mvcgen [evaluate, hleft, hrest]
  | .conditional test yes none line => by
    have htest := evaluate_keeps f test
    have hyes := evaluate_keeps f yes
    mvcgen [evaluate, htest, hyes]
    exact And.left ‹_ ∧ _›
  | .conditional test yes (some no) line => by
    have htest := evaluate_keeps f test
    have hyes := evaluate_keeps f yes
    have hno := evaluate_keeps f no
    mvcgen [evaluate, htest, hyes, hno]
  | .concat items => by
    have hitems := evaluateAll_keeps f items
    mvcgen [evaluate, hitems]

theorem evaluateOr_keeps (f : Frame) : ∀ e, Keeps (evaluateOr K.run f e)
  | none => by mvcgen [evaluateOr]
  | some e => by
    have he := evaluate_keeps f e
    mvcgen [evaluateOr, he]

theorem evaluateAll_keeps (f : Frame) : ∀ es, Keeps (evaluateAll K.run f es)
  | [] => by mvcgen [evaluateAll]
  | e :: rest => by
    have he := evaluate_keeps f e
    have hrest := evaluateAll_keeps f rest
    mvcgen [evaluateAll, he, hrest]

theorem evaluatePairs_keeps (f : Frame) : ∀ es, Keeps (evaluatePairs K.run f es)
  | [] => by mvcgen [evaluatePairs]
  | (k, v) :: rest => by
    have hk := evaluate_keeps f k
    have hv := evaluate_keeps f v
    have hrest := evaluatePairs_keeps f rest
    mvcgen [evaluatePairs, hk, hv, hrest]

theorem evaluateNamed_keeps (f : Frame) : ∀ es, Keeps (evaluateNamed K.run f es)
  | [] => by mvcgen [evaluateNamed]
  | (name, e) :: rest => by
    have he := evaluate_keeps f e
    have hrest := evaluateNamed_keeps f rest
    mvcgen [evaluateNamed, he, hrest]

theorem compareAll_keeps (f : Frame) (v : Value) : ∀ es, Keeps (compareAll K.run f v es)
  | [] => by mvcgen [compareAll]
  | (op, e) :: rest => by
    have he := evaluate_keeps f e
    have hrest := fun w => compareAll_keeps f w rest
    mvcgen [compareAll, he, hrest]

theorem arguments_keeps (f : Frame) (shown : String) (extra : List (String × Value)) :
    ∀ a, Keeps (arguments K.run f shown extra a)
  | .mk args named none none => by
    have hargs := evaluateAll_keeps f args
    have hnamed := evaluateNamed_keeps f named
    mvcgen [arguments, hargs, hnamed]
  | .mk args named none (some restNamed) => by
    have hargs := evaluateAll_keeps f args
    have hnamed := evaluateNamed_keeps f named
    have hrestNamed := evaluate_keeps f restNamed
    mvcgen [arguments, hargs, hnamed, hrestNamed]
  | .mk args named (some rest) none => by
    have hargs := evaluateAll_keeps f args
    have hnamed := evaluateNamed_keeps f named
    have hrest := evaluate_keeps f rest
    mvcgen [arguments, hargs, hnamed, hrest]
  | .mk args named (some rest) (some restNamed) => by
    have hargs := evaluateAll_keeps f args
    have hnamed := evaluateNamed_keeps f named
    have hrest := evaluate_keeps f rest
    have hrestNamed := evaluate_keeps f restNamed
    mvcgen [arguments, hargs, hnamed, hrest, hrestNamed]

end

attribute [spec] evaluateOr_keeps evaluateAll_keeps evaluatePairs_keeps evaluateNamed_keeps
  compareAll_keeps arguments_keeps

/-! Targets. -/

omit P in
@[spec] theorem changeContext_keeps (context : Nat) {change : Context → Context}
    (hchange : ∀ c, (change c).blocks = c.blocks) : Keeps (changeContext context change) := by
  mvcgen [changeContext]
  rename_i env s h t
  exact K.still h rfl ((K.plain h).changeContext hchange)

omit P in
@[spec] theorem assignName_keeps (f : Frame) (name : String) (v : Value) (exported : Bool) :
    Keeps (assignName f name v exported) := by
  mvcgen [assignName]
  exact fun _ _ _ _ => trivial

omit P in
@[spec] theorem assignAttribute_keeps (f : Frame) (name attr : String) (v : Value) :
    Keeps (assignAttribute f name attr v) := by
  mvcgen [assignAttribute] <;> grind [Object.Plain]

mutual

theorem assign_keeps (f : Frame) : ∀ e v, Keeps (assign K.run f e v)
  | e, v => by
    cases e with
    | tuple targets =>
      have hall := assignAll_keeps f targets
      mvcgen [assign, hall]
    | _ => mvcgen [assign]

theorem assignAll_keeps (f : Frame) : ∀ es vs, Keeps (assignAll K.run f es vs)
  | e :: es, v :: vs => by
    have hassign := assign_keeps f e
    have hall := assignAll_keeps f es
    mvcgen [assignAll, hassign, hall]
  | [], _ => by mvcgen [assignAll]
  | _ :: _, [] => by mvcgen [assignAll]

end

attribute [spec] assign_keeps assignAll_keeps

/-! Conditions, and what loops do between their rounds. -/

omit P in
@[spec] theorem isSilent_keeps (f : Frame) :
    ⦃fun env s => ⌜K.Holds env s⌝⦄ isSilent f
    ⦃post⟨fun silent env s => ⌜K.Holds env s ∧ silent = false⌝, fun _ _ => ⌜True⌝⟩⦄ := by
  mvcgen [isSilent]
  rename_i h
  exact ⟨h, (K.plain h).noParent⟩

@[spec] theorem firstTrue_keeps (f : Frame) (orElse : Body) (cases : List (Expr × Body)) :
    Keeps (firstTrue K.run f orElse cases) := by
  induction cases with
  | nil => mvcgen [firstTrue]
  | cons c rest ih => mvcgen [firstTrue, ih]

@[spec] theorem roundFrame_keeps (l : LoopBody) (loop : List (String × Value)) (body : Body)
    (v : Value) : Keeps (roundFrame K.run l loop body v) := by
  mvcgen [roundFrame]

@[spec] theorem passes_keeps (l : LoopBody) (v : Value) : Keeps (passes K.run l v) := by
  mvcgen [passes]

@[spec] theorem moveOn_keeps (place : Nat) (first : Bool) : Keeps (moveOn K.run place first) := by
  mvcgen [moveOn] <;> grind [Object.Plain]

end Keeper
end Stencil.Template
