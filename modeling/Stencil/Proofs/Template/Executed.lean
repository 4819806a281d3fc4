import Stencil.Proofs.Template.Execution
import Stencil.Proofs.Template.Keeping.Expressions

/-!
Every run of such a template that gives a text is an execution: by induction on how deep tasks nest,
and for each statement from what its expressions keep.
-/
namespace Stencil.Template
open Std.Do
open Stencil.Text
open Keeper (Keeps)
set_option mvcgen.warning false

/-! Steps of executions keep what holds. -/

namespace Keeper
variable [Library] [K : Keeper]

@[spec] theorem opened_keeps (f : Frame) (body : Body) : Keeps (opened f body) := by
  mvcgen [opened]

@[spec] theorem elseFrame_keeps (l : LoopBody) : Keeps (elseFrame l) := by
  mvcgen [elseFrame]

@[spec] theorem wheelOf_keeps (l : LoopBody) (source : Value) (level : Nat)
    (hl : l.Plain K.recurs) : Keeps (wheelOf l source level) := by
  mvcgen [wheelOf]

variable [Performs]

@[spec] theorem printed_keeps (f : Frame) (e : Expr) : Keeps (printed K.run f e) := by
  mvcgen [printed]

@[spec] theorem titled_keeps (f : Frame) (name : Expr) : Keeps (titled K.run f name) := by
  mvcgen [titled]

@[spec] theorem next_keeps (w : Wheel) (first : Bool) : Keeps (w.next K.run first) := by
  cases w <;> mvcgen [Wheel.next]

end Keeper

variable [Library] {env : Environment} {recurs : Bool} {d : Nat} {f : Frame} {α : Type}
  {step : Eval α} {a : α} {s s' : Store}

/-- What is kept from a store on: what happens since comes of expressions. -/
@[reducible] def keeper (henv : env.moment = .running) (recurs : Bool) (d : Nat) (origin : Store) :
    Keeper where
  run := machine d
  recurs := recurs
  Holds env' s := env' = env ∧ s.Plain recurs ∧ ∃ es, Executes env recurs .expressions origin es s
  running := by
    rintro _ _ ⟨rfl, -⟩
    exact henv
  plain h := h.2.1
  still := by
    rintro _ s s' ⟨rfl, -, es, hes⟩ hcaptured hplain
    exact ⟨rfl, hplain, es ++ [], hes.trans (.still hcaptured)⟩

/-- What is kept from a store on by steps that ask for nothing. -/
@[reducible] def quiet (henv : env.moment = .running) (recurs : Bool) (origin : Store) :
    Keeper where
  run := machine 0
  recurs := recurs
  Holds env' s := env' = env ∧ s.Plain recurs ∧ s.captured = origin.captured
  running := by
    rintro _ _ ⟨rfl, -⟩
    exact henv
  plain h := h.2.1
  still := by
    rintro _ s s' ⟨rfl, -, h⟩ hcaptured hplain
    exact ⟨rfl, hplain, hcaptured.trans h⟩

variable {henv : env.moment = .running}

theorem expressions_of_keeps (hkeeps : @Keeps _ (keeper henv recurs d s) α step)
    (hs : s.Plain recurs) (hgives : Gives env step s a s') :
    s'.Plain recurs ∧ ∃ es, Executes env recurs .expressions s es s' :=
  (triple_iff.mp hkeeps _ _ _ _ ⟨rfl, hs, [], .still rfl⟩ hgives).2

theorem captured_of_keeps (hkeeps : @Keeps _ (quiet henv recurs s) α step)
    (hs : s.Plain recurs) (hgives : Gives env step s a s') :
    s'.Plain recurs ∧ s'.captured = s.captured :=
  (triple_iff.mp hkeeps _ _ _ _ ⟨rfl, hs, rfl⟩ hgives).2

/-- A plain template has no parent that silences it. -/
theorem isSilent_eq {silent : Bool} (hs : s.Plain recurs)
    (hgives : Gives env (isSilent f) s silent s') : silent = false ∧ s' = s := by
  unfold isSilent at hgives
  split at hgives
  · cases hgives
    exact ⟨hs.noParent, rfl⟩
  · cases hgives
    exact ⟨rfl, rfl⟩

theorem firstTrue_plain {run : Run} {cases : List (Expr × Body)} {orElse body : Body}
    (hcases : plainCases recurs cases = true) (helse : plainBody recurs orElse = true)
    (hgives : Gives env (firstTrue run f orElse cases) s body s') :
    plainBody recurs body = true := by
  induction cases generalizing s with
  | nil =>
    obtain ⟨rfl, -⟩ := gives_pure_iff.mp hgives
    exact helse
  | cons c rest ih =>
    obtain ⟨test, then_⟩ := c
    rw [plainCases, Bool.and_eq_true] at hcases
    simp only [firstTrue, gives_bind_iff] at hgives
    obtain ⟨v, mid, -, b, mid', -, hrest⟩ := hgives
    cases b with
    | true =>
      obtain ⟨rfl, -⟩ := gives_pure_iff.mp hrest
      exact hcases.1
    | false => exact ih hcases.2 hrest

omit [Library] in
/-- The body of an output runs like that of a function without parameters. -/
theorem call_eq (run : Run) (f : Frame) (body : Body) :
    (Routine.make none [] body f).call run {} =
      opened f body >>= fun inner => run (.body inner body) := by
  simp [Routine.call, opened, Routine.make, Routine.fillDefaults]

/-- Looking whether texts are marked changes nothing. -/
theorem marksText_still {marked : Bool} (hgives : Gives env (marksText f) s marked s') :
    s' = s := by
  have hstep : ⦃fun _ st => ⌜st = s⌝⦄ marksText f
      ⦃post⟨fun _ _ st => ⌜st = s⌝, fun _ _ => ⌜True⌝⟩⦄ := by
    mvcgen [marksText, escapesNow, contextAt, -Keeper.marksText_keeps, -Keeper.escapesNow_keeps,
      -Keeper.contextAt_keeps]
  exact triple_iff.mp hstep env s marked s' rfl hgives

/-! Loops, with what they turn on told apart from what they do with it. -/

/-- The texts of the rounds of a loop, those before them included. -/
def Wheel.rounds (run : Run) (l : LoopBody) : Wheel → Nat → List String → Eval (List String)
  | feed place => plainRounds run l place
  | watched place => watchedRounds run l place

omit [Library] in
theorem rounds_succ (run : Run) (l : LoopBody) (w : Wheel) (fuel : Nat) (texts : List String) :
    w.rounds run l (fuel + 1) texts = (do
      match ← w.next run texts.isEmpty with
      | none => return texts.reverse
      | some v =>
        let f ← roundFrame run l w.vars l.body v
        let text ← run (.body f l.body)
        w.rounds run l fuel (text :: texts)) := by
  cases w with
  | feed place => exact bind_congr fun next => by cases next <;> rfl
  | watched place => exact bind_congr fun next => by cases next <;> rfl

/-- What comes of a loop after its rounds. -/
def finished (run : Run) (l : LoopBody) (texts : List String) : Eval Value := do
  if texts.isEmpty then
    let f ← elseFrame l
    return .str (← run (.body f l.orElse))
  else
    let marked ← marksText l.frame
    return if l.recursive && marked then .markup (joinWith "" texts) else .str (joinWith "" texts)

omit [Library] in
theorem runLoop_eq (run : Run) (l : LoopBody) (source : Value) (level : Nat) :
    runLoop run l source level = wheelOf l source level >>= fun w =>
      w.rounds run l maxRounds [] >>= finished run l := by
  unfold runLoop wheelOf
  by_cases htest : l.test.isSome = true <;> by_cases hwatched : isWatched l = true
  all_goals
    simp only [htest, hwatched, if_true, Bool.false_eq_true, if_false, bind_assoc, pure_bind]
    rfl

omit [Library] in
theorem joinWith_append (ts ts' : List String) :
    joinWith "" (ts ++ ts') = joinWith "" ts ++ joinWith "" ts' := by
  have hcons (t : String) (ts : List String) : joinWith "" (t :: ts) = t ++ joinWith "" ts := by
    cases ts with
    | nil => simp [joinWith]
    | cons t' rest => simp [joinWith, String.intercalate_cons_cons]
  induction ts with
  | nil => simp [joinWith]
  | cons t rest ih => rw [List.cons_append, hcons, hcons, ih, String.append_assoc]

/-- A part is executed so that its text is the one that is given, on to another such store. -/
def Shows (env : Environment) (recurs : Bool) (part : Part) (s : Store) (t : String) (s' : Store) :
    Prop :=
  ∃ es, Executes env recurs part s es s' ∧ t = Emission.texts es ∧ s'.Plain recurs

/-- What runs that nest so deep come to. -/
structure Sound (henv : env.moment = .running) (recurs : Bool) (d : Nat) : Prop where
  performs : ∀ origin, @Performs _ (keeper henv recurs d origin)
  body : ∀ {f nodes s t s'}, plainBody recurs nodes = true → s.Plain recurs →
    Gives env (machine d (.body f nodes)) s t s' →
    Shows env recurs (.body d f nodes) s t s'
  loop : ∀ {l v level s a s'}, l.Plain recurs → s.Plain recurs →
    Gives env (machine d (.loop l v level)) s a s' →
    ∃ t, a.asText? = some t ∧ Shows env recurs (.loop d l v level) s t s'

namespace Sound
variable (h : Sound henv recurs d)
include h

/-! Statements. -/

omit h in
theorem text {t t' : String} (hs : s.Plain recurs)
    (hgives : Gives env (execute (machine d) f (.text t)) s t' s') :
    Shows env recurs (.node d f (.text t)) s t' s' := by
  simp only [execute, gives_bind_iff, gives_pure_iff] at hgives
  obtain ⟨silent, mid, hsilent, rfl, rfl⟩ := hgives
  obtain ⟨rfl, rfl⟩ := isSilent_eq hs hsilent
  exact ⟨_, .text, by simp, hs⟩

theorem print {e : Expr} {t : String} (hs : s.Plain recurs)
    (hgives : Gives env (execute (machine d) f (.print e)) s t s') :
    Shows env recurs (.node d f (.print e)) s t s' := by
  rw [execute, gives_bind_iff] at hgives
  obtain ⟨silent, mid, hsilent, hprint⟩ := hgives
  obtain ⟨rfl, rfl⟩ := isSilent_eq hs hsilent
  replace hprint : Gives env (printed (machine d) f e) mid t s' := hprint
  obtain ⟨hs', es, hes⟩ := expressions_of_keeps
    (@Keeper.printed_keeps _ (keeper henv recurs d mid) (h.performs mid) f e) hs hprint
  refine ⟨_, .print hprint hes, ?_, hs'⟩
  simp [hes.texts_eq]

theorem branch {cases : List (Expr × Body)} {orElse : Body} {t : String} (hs : s.Plain recurs)
    (hn : (Node.branch cases orElse).plain recurs = true)
    (hgives : Gives env (execute (machine d) f (.branch cases orElse)) s t s') :
    Shows env recurs (.node d f (.branch cases orElse)) s t s' := by
  rw [Node.plain, Bool.and_eq_true] at hn
  rw [execute, gives_bind_iff] at hgives
  obtain ⟨body, mid, htest, hbody⟩ := hgives
  obtain ⟨hmid, es, hes⟩ := expressions_of_keeps
    (@Keeper.firstTrue_keeps _ (keeper henv recurs d s) (h.performs s) f orElse cases) hs htest
  obtain ⟨es', hes', rfl, hs'⟩ := h.body (firstTrue_plain hn.1 hn.2 htest) hmid hbody
  refine ⟨_, .branch htest hes hes', ?_, hs'⟩
  simp [hes.texts_eq]

theorem ofLoop {target source : Expr} {test : Option Expr} {recursive : Bool} {body orElse : Body}
    {line : Nat} {t : String} (hs : s.Plain recurs)
    (hn : (Node.loop target source test recursive body orElse line).plain recurs = true)
    (hgives : Gives env (execute (machine d) f
      (.loop target source test recursive body orElse line)) s t s') :
    Shows env recurs (.node d f (.loop target source test recursive body orElse line)) s t s' := by
  simp only [Node.plain, Bool.and_eq_true, Bool.or_eq_true] at hn
  simp only [execute, gives_bind_iff, gives_pure_iff] at hgives
  obtain ⟨v, mid, hsource, w, mid', hplay, rfl, rfl⟩ := hgives
  obtain ⟨hmid, es, hes⟩ := expressions_of_keeps
    (@Keeper.evaluate_keeps _ (keeper henv recurs d s) (h.performs s) f source) hs hsource
  obtain ⟨_, hw, es', hes', rfl, hs'⟩ :=
    h.loop ⟨hn.1.2, hn.2, fun hrec => hn.1.1.resolve_left (by simpa using hrec)⟩ hmid hplay
  refine ⟨_, .loop hsource hes hes', ?_, hs'⟩
  simp [hes.texts_eq, hw]

theorem capture {name : Expr} {body : Body} {t : String} (hs : s.Plain recurs)
    (hn : (Node.capture name body).plain recurs = true)
    (hgives : Gives env (execute (machine d) f (.capture name body)) s t s') :
    Shows env recurs (.node d f (.capture name body)) s t s' := by
  rw [Node.plain] at hn
  simp only [execute, call_eq, gives_bind_iff, gives_pure_iff] at hgives
  obtain ⟨v, _, hname, title, mid, htext, text, stop, ⟨inner, start, hopen, hbody⟩,
    _, _, hpush, rfl, rfl⟩ := hgives
  have htitle : Gives env (titled (machine d) f name) s title mid :=
    gives_bind_iff.mpr ⟨v, _, hname, htext⟩
  obtain ⟨hmid, es, hes⟩ := expressions_of_keeps
    (@Keeper.titled_keeps _ (keeper henv recurs d s) (h.performs s) f name) hs htitle
  obtain ⟨hplain, hstart⟩ := captured_of_keeps
    (@Keeper.opened_keeps _ (quiet henv recurs mid) f body) hmid hopen
  obtain ⟨es', hes', rfl, hstop⟩ := h.body hn hplain hbody
  cases hpush
  refine ⟨_, .capture htitle hes hopen hstart hes', ?_, hstop.congr rfl rfl rfl⟩
  simp [hes.texts_eq]

theorem node {n : Node} {t : String} (hs : s.Plain recurs) (hn : n.plain recurs = true)
    (hgives : Gives env (execute (machine d) f n) s t s') :
    Shows env recurs (.node d f n) s t s' := by
  cases n with
  | text t => exact text hs hgives
  | print e => exact h.print hs hgives
  | branch cases orElse => exact h.branch hs hn hgives
  | loop => exact h.ofLoop hs hn hgives
  | capture name body => exact h.capture hs hn hgives
  | _ => cases hn

theorem nodes {nodes : Body} {ts : List String} (hs : s.Plain recurs)
    (hn : plainBody recurs nodes = true)
    (hgives : Gives env (executeAll (machine d) f nodes) s ts s') :
    Shows env recurs (.body (d + 1) f nodes) s (joinWith "" ts) s' := by
  induction nodes generalizing s ts with
  | nil =>
    obtain ⟨rfl, rfl⟩ := gives_pure_iff.mp hgives
    exact ⟨_, .nil, rfl, hs⟩
  | cons n rest ih =>
    rw [plainBody, Bool.and_eq_true] at hn
    simp only [executeAll, gives_bind_iff, gives_pure_iff] at hgives
    obtain ⟨t, mid, hnode, ts, _, hrest, rfl, rfl⟩ := hgives
    obtain ⟨es, hes, rfl, hmid⟩ := h.node hs hn.1 hnode
    obtain ⟨es', hes', hts, hs'⟩ := ih hmid hn.2 hrest
    refine ⟨_, .cons hes hes', ?_, hs'⟩
    rw [← List.singleton_append, joinWith_append, hts, Emission.texts_append]
    simp [joinWith]

/-! Loops. -/

theorem rounds {l : LoopBody} {w : Wheel} {fuel : Nat} {texts : List String} {a : Value}
    (hl : l.Plain recurs) (hs : s.Plain recurs)
    (hgives : Gives env (w.rounds (machine d) l fuel texts >>= finished (machine d) l) s a s') :
    ∃ t, a.asText? = some (joinWith "" texts.reverse ++ t) ∧
      Shows env recurs (.rounds d l w texts.isEmpty) s t s' := by
  induction fuel generalizing s texts with
  | zero =>
    obtain ⟨_, _, hzero, -⟩ := gives_bind_iff.mp hgives
    cases w <;> cases hzero
  | succ fuel ih =>
    rw [rounds_succ, bind_assoc] at hgives
    obtain ⟨next, mid, hnext, hrest⟩ := gives_bind_iff.mp hgives
    obtain ⟨hmid, es, hes⟩ := expressions_of_keeps
      (@Keeper.next_keeps _ (keeper henv recurs d s) (h.performs s) w texts.isEmpty) hs hnext
    cases next with
    | some v =>
      simp only [gives_bind_iff] at hrest
      obtain ⟨out, end_, ⟨f, start, hframe, text, stop, hbody, hrounds⟩, hend⟩ := hrest
      obtain ⟨hstart, es₂, hes₂⟩ := expressions_of_keeps
        (@Keeper.roundFrame_keeps _ (keeper henv recurs d mid) (h.performs mid) l w.vars l.body v)
        hmid hframe
      obtain ⟨es₃, hes₃, rfl, hstop⟩ := h.body hl.body hstart hbody
      obtain ⟨_, ha, es₄, hes₄, rfl, hs'⟩ :=
        ih hstop (gives_bind_iff.mpr ⟨out, end_, hrounds, hend⟩)
      refine ⟨_, ?_, _, .round hnext hes hframe hes₂ hes₃ hes₄, rfl, hs'⟩
      rw [ha, List.reverse_cons, joinWith_append]
      simp [hes.texts_eq, hes₂.texts_eq, joinWith, String.append_assoc]
    | none =>
      obtain ⟨_, last, hpure, hend⟩ := gives_bind_iff.mp hrest
      obtain ⟨rfl, rfl⟩ := gives_pure_iff.mp hpure
      unfold finished at hend
      rw [List.isEmpty_reverse] at hend
      cases htexts : texts.isEmpty with
      | true =>
        rw [htexts] at hnext hend
        simp only [if_true, gives_bind_iff, gives_pure_iff] at hend
        obtain ⟨f, start, hframe, text, _, hbody, rfl, rfl⟩ := hend
        obtain ⟨hplain, hstart⟩ := captured_of_keeps
          (@Keeper.elseFrame_keeps _ (quiet henv recurs last) l) hmid hframe
        obtain ⟨es', hes', rfl, hs'⟩ := h.body hl.orElse hplain hbody
        refine ⟨_, ?_, _, .orElse hnext hes hframe hstart hes', rfl, hs'⟩
        simp [List.isEmpty_iff.mp htexts, hes.texts_eq, joinWith, Value.asText?]
      | false =>
        rw [htexts] at hnext hend
        obtain ⟨marked, _, hmarked, hvalue⟩ := gives_bind_iff.mp hend
        obtain rfl := marksText_still hmarked
        obtain ⟨rfl, rfl⟩ := gives_pure_iff.mp hvalue
        refine ⟨_, ?_, es, .stop hnext hes, rfl, hmid⟩
        rw [hes.texts_eq]
        split <;> simp [Value.asText?]

theorem plays {l : LoopBody} {source a : Value} {level : Nat} (hl : l.Plain recurs)
    (hs : s.Plain recurs) (hgives : Gives env (runLoop (machine d) l source level) s a s') :
    ∃ t, a.asText? = some t ∧ Shows env recurs (.loop (d + 1) l source level) s t s' := by
  rw [runLoop_eq] at hgives
  obtain ⟨w, start, hwheel, hrounds⟩ := gives_bind_iff.mp hgives
  obtain ⟨hplain, hstart⟩ := captured_of_keeps
    (@Keeper.wheelOf_keeps _ (quiet henv recurs s) l source level hl) hs hwheel
  obtain ⟨t, ha, es, hes, ht, hs'⟩ := h.rounds hl hplain hrounds
  refine ⟨t, ?_, es, .play hwheel hstart hes, ht, hs'⟩
  simpa [joinWith] using ha

theorem performs_succ (origin : Store) : @Performs _ (keeper henv recurs (d + 1) origin) := by
  have hperforms := h.performs origin
  let K := keeper henv recurs d origin
  refine @Performs.mk _ (keeper henv recurs (d + 1) origin) ?_ ?_ ?_ ?_ ?_
  · exact fun escape callee a => @Keeper.callValue_keeps _ K hperforms escape callee a
  · exact fun escape name v a => @Keeper.apply_keeps _ K hperforms escape name v a
  · exact fun name v a => @Keeper.ask_keeps _ K hperforms name (a.push v)
  · exact fun place =>
      @Keeper.advance_keeps _ K hperforms _ (@Keeper.passes_keeps _ K hperforms) place
  · intro place ls v
    refine triple_iff.mpr ?_
    rintro _ st a s' ⟨⟨rfl, hst, es, hes⟩, hloop, hrec⟩ hgives
    have hl : ls.loop.Plain recurs := hst.object hloop
    obtain ⟨_, -, es', hes', -, hs'⟩ := h.plays hl hst hgives
    exact ⟨rfl, hs', _, hes.trans (.again (hl.recursive hrec) hloop hrec hes')⟩

/-- Tasks that nest one deeper. -/
theorem succ : Sound henv recurs (d + 1) where
  performs := h.performs_succ
  body := by
    intro f nodes s t s' hn hs hgives
    obtain ⟨ts, _, hall, hjoin⟩ := gives_bind_iff.mp hgives
    obtain ⟨rfl, rfl⟩ := gives_pure_iff.mp hjoin
    exact h.nodes hs hn hall
  loop hl hs hgives := h.plays hl hs hgives

end Sound

/-- Nothing is performed that nests deeper than may be. -/
theorem performs_zero (origin : Store) : @Performs _ (keeper henv recurs 0 origin) := by
  have hfails {t : Task} {P : Environment → Store → Prop}
      {Q : t.Result → Environment → Store → Prop} : ⦃fun env s => ⌜P env s⌝⦄ machine 0 t
      ⦃post⟨fun a env s => ⌜Q a env s⌝, fun _ _ => ⌜True⌝⟩⦄ :=
    triple_iff.mpr fun _ _ _ _ _ hgives => by cases hgives
  exact @Performs.mk _ (keeper henv recurs 0 origin) (fun _ _ _ => hfails)
    (fun _ _ _ _ => hfails) (fun _ _ _ => hfails) (fun _ => hfails) (fun _ _ _ => hfails)

theorem sound (henv : env.moment = .running) (recurs : Bool) (d : Nat) :
    Sound henv recurs d := by
  induction d with
  | zero =>
    exact {
      performs := performs_zero
      body := fun _ _ hgives => by cases hgives
      loop := fun _ _ hgives => by cases hgives }
  | succ d ih => exact ih.succ

end Stencil.Template
