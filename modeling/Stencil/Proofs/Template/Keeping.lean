import Stencil.Proofs.Template.Plain
import Stencil.Proofs.Template.Triple

/-!
What evaluating expressions does to the outputs that a template has captured: nothing but what the
tasks do that it asks for. So what holds of a store and of every step that captures nothing, and is
kept by those tasks, is kept by the evaluation of every expression.
-/
namespace Stencil.Template
open Std.Do
set_option mvcgen.warning false

/-- What is kept while a plain template runs, by all steps that capture nothing. -/
class Keeper where
  run : Run
  recurs : Bool
  Holds : Environment → Store → Prop
  running : ∀ {env s}, Holds env s → env.moment = .running
  plain : ∀ {env s}, Holds env s → s.Plain recurs
  still : ∀ {env s s'}, Holds env s → s'.captured = s.captured → s'.Plain recurs → Holds env s'

namespace Keeper

/-- A step after which all holds that held before, if it gives something. -/
abbrev Keeps [Library] [K : Keeper] {α : Type} (step : Eval α) : Prop :=
  ⦃fun env s => ⌜K.Holds env s⌝⦄ step ⦃post⟨fun _ env s => ⌜K.Holds env s⌝, fun _ _ => ⌜True⌝⟩⦄

end Keeper

open Keeper (Keeps)

/-- The tasks that expressions ask for keep what holds. -/
class Performs [Library] [K : Keeper] : Prop where
  call : ∀ escape callee a, Keeps (K.run (.call escape callee a))
  filter : ∀ escape name v a, Keeps (K.run (.filter escape name v a))
  test : ∀ name v a, Keeps (K.run (.test name v a))
  advance : ∀ place, Keeps (K.run (.advance place))
  /-- A loop that is in the store starts anew. -/
  loop : ∀ (place : Nat) (s : LoopState) (v : Value),
    ⦃fun env st => ⌜K.Holds env st ∧ st.objects[place]? = some (.loop s) ∧
      s.loop.recursive = true⌝⦄ K.run (.loop s.loop v (s.depth + 1))
    ⦃post⟨fun _ env s => ⌜K.Holds env s⌝, fun _ _ => ⌜True⌝⟩⦄

namespace Keeper
variable [Library] [K : Keeper]

section Tasks
variable [P : Performs]

@[spec] theorem run_call (escape : Bool) (callee : Value) (a : Actuals) :
    Keeps (K.run (.call escape callee a)) := P.call escape callee a

@[spec] theorem run_filter (escape : Bool) (name : String) (v : Value) (a : Actuals) :
    Keeps (K.run (.filter escape name v a)) := P.filter escape name v a

@[spec] theorem run_test (name : String) (v : Value) (a : Actuals) :
    Keeps (K.run (.test name v a)) := P.test name v a

@[spec] theorem run_advance (place : Nat) : Keeps (K.run (.advance place)) := P.advance place

end Tasks

/-! Steps that look at the store or fail. -/

@[spec] theorem lift_keeps {α : Type} (o : Outcome α) : Keeps (Eval.lift o) := by
  intro env s h
  cases o with
  | ok a => exact h
  | error e => trivial

@[spec] theorem objectAt_keeps (place : Nat) :
    ⦃fun env s => ⌜K.Holds env s⌝⦄ objectAt? place
    ⦃post⟨fun o env s => ⌜K.Holds env s ∧ ∀ x, o = some x → x.Plain K.recurs⌝,
      fun _ _ => ⌜True⌝⟩⦄ := by
  mvcgen [objectAt?]
  rename_i h
  exact ⟨h, fun x hx => (K.plain h).object hx⟩

@[spec] theorem present_keeps (v : Value) : Keeps (present v) := by mvcgen [present]

@[spec] theorem presentArgs_keeps (a : Actuals) : Keeps (presentArgs a) := by
  mvcgen [presentArgs]

@[spec] theorem surface_keeps (v : Value) : Keeps (surface v) := by mvcgen [surface]

@[spec] theorem truthOf_keeps (v : Value) : Keeps (truthOf v) := by mvcgen [truthOf]

@[spec] theorem supplyOf_keeps (v : Value) : Keeps (supplyOf v) := by mvcgen [supplyOf]

/-- A plain template has no blocks. -/
@[spec] theorem contextAt_keeps (context : Nat) :
    ⦃fun env s => ⌜K.Holds env s⌝⦄ contextAt context
    ⦃post⟨fun c env s => ⌜K.Holds env s ∧ c.blocks = []⌝, fun _ _ => ⌜True⌝⟩⦄ := by
  mvcgen [contextAt]
  rename_i env s h
  refine ⟨h, ?_⟩
  cases hc : s.contexts[context]? with
  | none => rfl
  | some c => exact (K.plain h).blocks c (Array.mem_of_getElem? hc)

/-! Steps that change the store. -/

@[spec] theorem setObject_keeps (place : Nat) (o : Object) (ho : o.Plain K.recurs) :
    Keeps (setObject place o) := by
  mvcgen [setObject]
  rename_i env s h t
  exact K.still h rfl ((K.plain h).setObject ho)

@[spec] theorem pushObject_keeps (kind : ObjectKind) (o : Object) (ho : o.Plain K.recurs) :
    Keeps (pushObject kind o) := by
  mvcgen [pushObject]
  rename_i env s h t
  exact K.still h rfl ((K.plain h).push ho)

@[spec] theorem newObject_keeps (kind : ObjectKind) (o : Object) (ho : o.Plain K.recurs) :
    Keeps (newObject kind o) := by
  mvcgen [newObject]
  rename_i env s h t
  exact K.still h rfl ((K.plain h).congr rfl rfl rfl)

@[spec] theorem newIterator_keeps (name : String) (supply : Supply) :
    Keeps (newIterator name supply) := by
  mvcgen [newIterator]
  exact fun _ _ _ => trivial

@[spec] theorem settled_keeps (v : Value) : Keeps (settled v) := by
  mvcgen [settled]
  rename_i env s h t
  exact K.still h rfl ((K.plain h).congr rfl rfl rfl)

@[spec] theorem setCell_keeps (place : Nat) (content : Value) : Keeps (setCell place content) := by
  mvcgen [setCell]
  rename_i env s h t
  exact K.still h rfl ((K.plain h).congr rfl rfl rfl)

@[spec] theorem setVar_keeps (scope : Nat) (name : String) (v : Option Value) :
    Keeps (setVar scope name v) := by
  mvcgen [setVar]
  rename_i env s h t
  exact K.still h rfl ((K.plain h).congr rfl rfl rfl)

@[spec] theorem newScope_keeps (sc : Scope) : Keeps (newScope sc) := by
  mvcgen [newScope]
  rename_i env s h t
  exact K.still h rfl ((K.plain h).congr rfl rfl rfl)

@[spec] theorem enter_keeps (parent : Option Nat) (context : Nat) (params : List String)
    (given : List (String × Value)) (declare : (String → Bool) → Declared → Declared) :
    Keeps (enter parent context params given declare) := by
  mvcgen [enter]
  grind

@[spec] theorem inner_keeps (f : Frame) (params : List String) (given : List (String × Value))
    (declare : (String → Bool) → Declared → Declared) :
    Keeps (f.inner params given declare) := by
  mvcgen [Frame.inner]

/-- A loop makes an iterator over what is no iterator yet. -/
@[spec] theorem iterate_keeps (v : Value) : Keeps (iterate v) := by
  have hmake : ∀ {env s} (supply : Supply), K.Holds env s →
      K.Holds env { s with objects := s.objects.push (.iterator supply) } :=
    fun supply h => K.still h rfl ((K.plain h).push trivial)
  mvcgen [iterate]
  all_goals grind

/-! Items and scopes. -/

@[spec] theorem mapM_keeps {α β : Type} {f : α → Eval β} (hf : ∀ a, Keeps (f a)) (as : List α) :
    Keeps (as.mapM f) := by
  induction as with
  | nil => mvcgen
  | cons a rest ih =>
    rw [List.mapM_cons]
    mvcgen [hf, ih]

@[spec] theorem blockAt_keeps (context : Nat) (name : String) (depth : Nat) :
    Keeps (blockAt context name depth) := by
  mvcgen [blockAt] <;> grind

@[spec] theorem objectItem_keeps (place : Nat) (key : Value) : Keeps (objectItem? place key) := by
  mvcgen [objectItem?] <;> grind

@[spec] theorem plainAttribute_keeps (v : Value) (name : String) :
    Keeps (plainAttribute? v name) := by
  mvcgen [plainAttribute?]

section Reaching
variable [Performs]

@[spec] theorem drain_keeps (place fuel : Nat) (taken : List Value) :
    Keeps (drain K.run place fuel taken) := by
  induction fuel generalizing taken with
  | zero =>
    mvcgen [drain]
    exact False.elim
  | succ fuel ih => mvcgen [drain, ih]

@[spec] theorem itemsOf_keeps (v : Value) : Keeps (itemsOf K.run v) := by
  mvcgen [itemsOf] <;> grind [Object.Plain]

@[spec] theorem peek_keeps (place : Nat) (s : LoopState) (hs : s.loop.Plain K.recurs) :
    Keeps (peek K.run place s) := by
  mvcgen [peek]

@[spec] theorem loopLength_keeps (place : Nat) (s : LoopState) (hs : s.loop.Plain K.recurs) :
    Keeps (loopLength K.run place s) := by
  mvcgen [loopLength]

@[spec] theorem loopAttribute_keeps (place : Nat) (s : LoopState) (name : String)
    (hs : s.loop.Plain K.recurs) : Keeps (loopAttribute? K.run place s name) := by
  mvcgen [loopAttribute?]

@[spec] theorem textOf_keeps (v : Value) : Keeps (textOf K.run v) := by
  mvcgen [textOf] <;> grind [Object.Plain]

@[spec] theorem markupOf_keeps (v : Value) : Keeps (markupOf K.run v) := by
  mvcgen [markupOf]

@[spec] theorem outputOf_keeps (escape : Bool) (v : Value) :
    Keeps (outputOf K.run escape v) := by
  mvcgen [outputOf]

@[spec] theorem objectAttribute_keeps (v : Value) (place : Nat) (name : String) :
    Keeps (objectAttribute? K.run v place name) := by
  mvcgen [objectAttribute?] <;> grind [Object.Plain]

@[spec] theorem attributeOf_keeps (v : Value) (name : String) :
    Keeps (attributeOf K.run v name) := by
  mvcgen [attributeOf]

@[spec] theorem itemOf_keeps (v key : Value) : Keeps (itemOf K.run v key) := by
  mvcgen [itemOf]

@[spec] theorem ownAttributeOf_keeps (v : Value) (name : String) :
    Keeps (ownAttributeOf K.run v name) := by
  mvcgen [ownAttributeOf]

@[spec] theorem follow_keeps (default : Value) (path : List Value) (v : Value) :
    Keeps (follow K.run default path v) := by
  induction path generalizing default v with
  | nil => mvcgen [follow]
  | cons key rest ih => mvcgen [follow, ih]

@[spec] theorem takeUntil_keeps (place : Nat) (x : Value) (fuel : Nat) :
    Keeps (takeUntil K.run place x fuel) := by
  induction fuel with
  | zero =>
    mvcgen [takeUntil]
    exact False.elim
  | succ fuel ih => mvcgen [takeUntil, ih]

@[spec] theorem holdsItem_keeps (container x : Value) : Keeps (holdsItem K.run container x) := by
  mvcgen [holdsItem] <;> grind

@[spec] theorem itemsToUnpack_keeps (v : Value) : Keeps (itemsToUnpack K.run v) := by
  mvcgen [itemsToUnpack]

@[spec] theorem unpack_keeps (count : Nat) (v : Value) : Keeps (unpack K.run count v) := by
  mvcgen [unpack]

end Reaching

/-! Filters and tests: first what asks for nothing. -/

section Filtering

@[spec] theorem discard_keeps {α : Type} {x : Eval α} (h : Keeps x) : Keeps (discard x) := by
  change Keeps (Functor.mapConst PUnit.unit x)
  rw [map_const, Function.comp_apply]
  mvcgen [h]

@[spec] theorem remainder_keeps (v num : Value) (expected : Int) :
    Keeps (Tests.remainder v num expected) := by
  mvcgen [Tests.remainder]

@[spec] theorem known_keeps (names : String → Bool) (v : Value) :
    Keeps (Tests.known names v) := by
  mvcgen [Tests.known]

@[spec] theorem isIterable_keeps (v : Value) : Keeps (Tests.isIterable v) := by
  mvcgen [Tests.isIterable]

@[spec] theorem flagOf_keeps (b : Bound) (name : String) (default : Bool) :
    Keeps (Filter.flagOf b name default) := by
  mvcgen [Filter.flagOf]

@[spec] theorem keyed_keeps {key : Value → Eval Value} (hkey : ∀ v, Keeps (key v))
    (vs : List Value) : Keeps (Filter.keyed key vs) := by
  mvcgen [Filter.keyed, hkey]

@[spec] theorem dictSorted_keeps (v : Value) (b : Bound) : Keeps (Filter.dictSorted v b) := by
  mvcgen [Filter.dictSorted]

@[spec] theorem nameOf_keeps (kind : String) (v : Value) : Keeps (Filter.nameOf kind v) := by
  mvcgen [Filter.nameOf]
  exact False.elim

@[spec] theorem filledBatch_keeps (b : Bound) (batch : List Value) :
    Keeps (Filter.filledBatch b batch) := by
  mvcgen [Filter.filledBatch]

@[spec] theorem entries_keeps (v : Value) : Keeps (Filter.entries v) := by
  mvcgen [Filter.entries]

@[spec] theorem stepAlong_keeps (place : Nat) (source : Value) (rest : List Value)
    (taken size seen : Nat) : Keeps (Filter.stepAlong place source rest taken size seen) := by
  mvcgen [Filter.stepAlong]

variable [Performs]

/-! Tests. -/

@[spec] theorem compared_keeps (op : CompareOp) (a b : Value) :
    Keeps (Tests.compared K.run op a b) := by
  mvcgen [Tests.compared]

@[spec] theorem decided_keeps (name : String) (v other : Value) :
    Keeps (Tests.decided K.run name v other) := by
  mvcgen [Tests.decided]

@[spec] theorem ask_keeps (name : String) (a : Actuals) : Keeps (Tests.ask K.run name a) := by
  mvcgen [Tests.ask]

/-! Filters that take items as a whole. -/

@[spec] theorem keyOf_keeps (sensitive : Bool) (default path v : Value) :
    Keeps (Filter.keyOf K.run sensitive default path v) := by
  mvcgen [Filter.keyOf]

@[spec] theorem keysOf_keeps (sensitive : Bool) (paths v : Value) :
    Keeps (Filter.keysOf K.run sensitive paths v) := by
  mvcgen [Filter.keysOf]

@[spec] theorem sorted_keeps (v : Value) (b : Bound) : Keeps (Filter.sorted K.run v b) := by
  mvcgen [Filter.sorted]

@[spec] theorem grouped_keeps (v : Value) (b : Bound) : Keeps (Filter.grouped K.run v b) := by
  mvcgen [Filter.grouped]

@[spec] theorem extremum_keeps (op : Value.OrderOp) (v : Value) (b : Bound) :
    Keeps (Filter.extremum K.run op v b) := by
  mvcgen [Filter.extremum]

@[spec] theorem parts_keeps (path v : Value) : Keeps (Filter.parts K.run path v) := by
  mvcgen [Filter.parts]

@[spec] theorem total_keeps (v : Value) (b : Bound) : Keeps (Filter.total K.run v b) := by
  mvcgen [Filter.total]

@[spec] theorem joined_keeps (escape : Bool) (v : Value) (b : Bound) :
    Keeps (Filter.joined K.run escape v b) := by
  mvcgen [Filter.joined]

@[spec] theorem first_keeps (v : Value) : Keeps (Filter.first K.run v) := by
  mvcgen [Filter.first]

@[spec] theorem last_keeps (v : Value) : Keeps (Filter.last K.run v) := by
  mvcgen [Filter.last]

@[spec] theorem reversed_keeps (v : Value) : Keeps (Filter.reversed K.run v) := by
  mvcgen [Filter.reversed]

@[spec] theorem someItem_keeps (v : Value) : Keeps (Filter.someItem K.run v) := by
  mvcgen [Filter.someItem]

/-! Iterators. What is done with each item is made first, and keeps what holds as well. -/

@[spec] theorem mapping_keeps (escape : Bool) (b : Bound) :
    ⦃fun env s => ⌜K.Holds env s⌝⦄ Filter.mapping K.run escape b
    ⦃post⟨fun f env s => ⌜K.Holds env s ∧ ∀ v, Keeps (f v)⌝, fun _ _ => ⌜True⌝⟩⦄ := by
  mvcgen [Filter.mapping]
  case vc2 h => exact ⟨h, follow_keeps _ _⟩
  case vc4 h =>
    refine ⟨h, fun v => ?_⟩
    mvcgen
  all_goals exact False.elim

@[spec] theorem choice_keeps (byAttribute : Bool) (b : Bound) :
    ⦃fun env s => ⌜K.Holds env s⌝⦄ Filter.choice K.run byAttribute b
    ⦃post⟨fun f env s => ⌜K.Holds env s ∧ ∀ v, Keeps (f v)⌝, fun _ _ => ⌜True⌝⟩⦄ := by
  cases byAttribute with
  | false =>
    mvcgen [Filter.choice]
    all_goals
      refine ⟨‹_›, fun v => ?_⟩
      mvcgen
  | true =>
    mvcgen [Filter.choice]
    all_goals
      refine ⟨‹_›, fun v => ?_⟩
      mvcgen

@[spec] theorem slices_keeps (v : Value) (b : Bound) : Keeps (Filter.slices K.run v b) := by
  mvcgen [Filter.slices]

@[spec] theorem begin_keeps (stage : Stage) (source : Value) :
    Keeps (Filter.begin_ K.run stage source) := by
  mvcgen [Filter.begin_]
  all_goals exact fun h _ => h

variable {passes : LoopBody → Value → Eval Bool}

@[spec] theorem answer_keeps (hpasses : ∀ l v, Keeps (passes l v)) (stage : Stage)
    (held : List Value) (item : Option Value) :
    Keeps (Filter.answer K.run passes stage held item) := by
  mvcgen [Filter.answer, hpasses]
  all_goals
    rename_i h
    exact h.2 _ _ _ h.1

@[spec] theorem work_keeps (hpasses : ∀ l v, Keeps (passes l v)) (place : Nat) (stage : Stage)
    (feed fuel : Nat) (held : List Value) :
    Keeps (Filter.work K.run passes place stage feed fuel held) := by
  induction fuel generalizing held with
  | zero =>
    mvcgen [Filter.work]
    exact False.elim
  | succ fuel ih => mvcgen [Filter.work, hpasses, ih]

@[spec] theorem advance_keeps (hpasses : ∀ l v, Keeps (passes l v)) (place : Nat) :
    Keeps (Filter.advance K.run passes place) := by
  mvcgen [Filter.advance, hpasses] <;> grind

omit [Performs] in
theorem iterator_keeps {escape : Bool} {name : String} {v : Value} {b : Bound}
    {step : Eval Value} (h : Filter.iterator? escape name v b = some step) : Keeps step := by
  obtain ⟨stage, -, rfl⟩ := Option.map_eq_some_iff.mp h
  mvcgen

theorem items_keeps {escape : Bool} {name : String} {v : Value} {b : Bound}
    {step : Eval Value} (h : Filter.items? K.run escape name v b = some step) : Keeps step := by
  unfold Filter.items? at h
  split at h
  all_goals cases h
  all_goals mvcgen

@[spec] theorem perform_keeps (escape : Bool) (name : String) (v : Value) (b : Bound) :
    Keeps (Filter.perform K.run escape name v b) := by
  mvcgen [Filter.perform]
  case vc1 h => exact iterator_keeps h
  case vc2 h => exact items_keeps h _ _ ‹_›

@[spec] theorem apply_keeps (escape : Bool) (name : String) (v : Value) (a : Actuals) :
    Keeps (Filter.apply K.run escape name v a) := by
  mvcgen [Filter.apply]
  exact False.elim

end Filtering
end Keeper
end Stencil.Template
