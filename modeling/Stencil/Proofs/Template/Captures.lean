import Stencil.Proofs.Template.Executed

/-!
What rendering gives for templates that are built from texts, expressions, conditions, loops and
captures: the outputs that their execution emits, or, if anything fails, one message and no outputs.
-/
namespace Stencil.Template
open Std.Do
open Keeper (Keeps)
set_option mvcgen.warning false

/-- A template looks up others where its setting says. -/
@[reducible] def Setting.library (s : Setting) : Library := ⟨s.load⟩

/-- How the run of a template with the data ends. -/
def outcome (s : Setting) (store : Store) (source : String) (data : Model.Combined) :
    Reading String :=
  (ran s store source data).1

/-- The frame that the body of a template runs in. -/
def bodyFrame (t : Loaded) (context : Nat) : Eval Frame := do
  let place := (← get).runs.size
  modify fun s => { s with runs := s.runs.push none }
  let given ← if uses "self" t.body then
      pure [("self", ← newObject .self (.self context))]
    else pure []
  let scope ← enter none context (given.map Prod.fst) given fun outer d =>
    declareBody outer true d t.body
  return { scope := scope, context := context, topLevel := true, run := some place }

/-- What happens before the body of a template runs: a context gets the data. -/
def opening (env : Environment) (t : Loaded) (data : Model.Combined) : Eval Frame := do
  let context ← newContext
    { name := none, base := putNamed env.globals "data" (.model data)
      blocks := t.blocks.map fun b => (b.name, [b]) }
  bodyFrame t context

/-- A parent that became known while a template ran goes on after it. -/
def followed (run : Run) (f : Frame) (own : String) : Eval String := do
  let s ← get
  match f.run.bind fun place => (s.runs[place]?).getD none with
  | some parent => return own ++ (← run (.template parent f.context))
  | none => return own

theorem runTemplate_eq (run : Run) (t : Loaded) (context : Nat) :
    runTemplate run t context = bodyFrame t context >>= fun f =>
      run (.body f t.body) >>= followed run f := by
  unfold runTemplate bodyFrame
  cases uses "self" t.body with
  | true =>
    simp only [if_true, bind_assoc, pure_bind]
    rfl
  | false =>
    simp only [Bool.false_eq_true, if_false, bind_assoc, pure_bind]
    rfl

/-- What the body of a template emits when the template runs with the data: the run of the body
gives the text that is emitted, and it is executed so. -/
def Emits (s : Setting) (recurs : Bool) (store : Store) (source : String) (data : Model.Combined)
    (es : List Emission) : Prop :=
  letI := s.library
  ∃ t f start stop, Loaded.read s.ownFilters none source = .ok t ∧
    Gives s.environment (opening s.environment t data) { store with modules := [], captured := [] }
      f start ∧
    Gives s.environment (machine (maxDepth - 1) (.body f t.body)) start (Emission.texts es) stop ∧
    Executes s.environment recurs (.body (maxDepth - 1) f t.body) start es stop

/-- Outputs as they are rendered. -/
def Emission.rendered (es : List Emission) : List Output :=
  (outputsOf es).map fun (name, content) => ⟨name, content⟩

section
variable [Library] [K : Keeper]

@[spec] theorem Keeper.newContext_keeps {c : Context} (hc : c.blocks = []) :
    Keeps (newContext c) := by
  mvcgen [newContext]
  rename_i env s h t
  exact K.still h rfl ((K.plain h).newContext hc)

theorem Keeper.opening_keeps {env : Environment} {t : Loaded} (ht : t.blocks = [])
    (data : Model.Combined) : Keeps (opening env t data) := by
  mvcgen [opening, bodyFrame]
  case vc1 => rw [ht, List.map_nil]
  all_goals
    rename_i h _ _ _ _
    exact K.still h rfl (K.plain h).newRun

end

theorem followed_eq [Library] {env : Environment} {recurs : Bool} {run : Run} {f : Frame}
    {own text : String} {s s' : Store} (hs : s.Plain recurs)
    (hgives : Gives env (followed run f own) s text s') : text = own ∧ s' = s := by
  have hnone : (f.run.bind fun place => (s.runs[place]?).getD none) = none := by
    cases f.run with
    | none => rfl
    | some place =>
      have hparent : ((s.runs[place]?).getD none).isSome = false := hs.noParent
      simpa using hparent
  obtain ⟨_, _, hget, hrest⟩ := gives_bind_iff.mp hgives
  cases hget
  rw [hnone] at hrest
  exact gives_pure_iff.mp hrest

variable {s : Setting} {recurs : Bool} {store after : Store} {source text : String}
  {data : Model.Combined}

/-- A run of such a template that gives a text runs its body, which has no parent. -/
theorem body_of_running {body : Body} (hread : Body.read source = .ok body)
    (hbody : plainBody recurs body = true) (hstore : store.Plain recurs)
    (hrun : ran s store source data = (.ok text, after)) :
    letI := s.library
    ∃ t f start, Loaded.read s.ownFilters none source = .ok t ∧ plainBody recurs t.body = true ∧
      Gives s.environment (opening s.environment t data)
        { store with modules := [], captured := [] } f start ∧
      start.Plain recurs ∧ start.captured = [] ∧
      Gives s.environment (machine (maxDepth - 1) (.body f t.body)) start text after := by
  let _ := s.library
  unfold ran at hrun
  cases ht : Loaded.read s.ownFilters none source with
  | error e =>
    rw [ht] at hrun
    cases hrun
  | ok t =>
    rw [ht] at hrun
    have hrun : (running s store t data).answered s.load = .ok (.ok text, after) := by
      dsimp only at hrun
      cases hx : (running s store t data).answered s.load with
      | error e =>
        rw [hx] at hrun
        cases hrun
      | ok end_ =>
        obtain ⟨r, held⟩ := end_
        rw [hx] at hrun
        cases r with
        | error e => cases hrun
        | ok own =>
          cases hrun
          rfl
    have hplain : plainBody recurs t.body = true ∧ t.blocks = [] := by
      obtain ⟨read, hread', h⟩ := bind_eq_ok ht
      cases hread.symm.trans hread'
      obtain ⟨⟨body', blocks⟩, hcheck, h⟩ := bind_eq_ok h
      cases h
      exact Check.template_plain hbody hcheck
    have htemplate : Gives s.environment
        (opening s.environment t data >>= fun f =>
          machine (maxDepth - 1) (.body f t.body) >>= followed (machine (maxDepth - 1)) f)
        { store with modules := [], captured := [] } text after := by
      rw [opening, bind_assoc]
      simp only [← runTemplate_eq]
      exact hrun
    obtain ⟨f, start, hopen, hrest⟩ := gives_bind_iff.mp htemplate
    obtain ⟨own, stop, hown, hfollowed⟩ := gives_bind_iff.mp hrest
    have henv : s.environment.moment = .running := rfl
    have hfirst : Store.Plain recurs { store with modules := [], captured := [] } :=
      hstore.congr rfl rfl rfl
    obtain ⟨hstart, hcaptured⟩ := captured_of_keeps
      (@Keeper.opening_keeps _ (quiet henv recurs _) s.environment t hplain.2 data) hfirst hopen
    obtain ⟨-, -, -, hstop⟩ := (sound henv recurs (maxDepth - 1)).body hplain.1 hstart hown
    obtain ⟨rfl, rfl⟩ := followed_eq hstop hfollowed
    exact ⟨t, f, start, rfl, hplain.1, hopen, hstart, hcaptured, hown⟩

/-- A run of such a template that gives a text is an execution, and whatever execution it is, what
it emits is the text and what is captured. -/
theorem emits_of_running {body : Body} (hread : Body.read source = .ok body)
    (hbody : plainBody recurs body = true) (hstore : store.Plain recurs)
    (hrun : ran s store source data = (.ok text, after)) :
    (∃ es, Emits s recurs store source data es) ∧ ∀ es, Emits s recurs store source data es →
      Emission.texts es = text ∧ after.captured = (Emission.outputsOf es).reverse := by
  let _ := s.library
  obtain ⟨t, f, start, ht, hplain, hopen, hstart, hcaptured, hown⟩ :=
    body_of_running hread hbody hstore hrun
  constructor
  · have henv : s.environment.moment = .running := rfl
    obtain ⟨es, hes, rfl, -⟩ := (sound henv recurs (maxDepth - 1)).body hplain hstart hown
    exact ⟨es, t, f, start, after, ht, hopen, hown, hes⟩
  · rintro es ⟨t', f', start', stop, ht', hopen', hown', hes⟩
    cases ht.symm.trans ht'
    obtain ⟨rfl, rfl⟩ := hopen.unique hopen'
    obtain ⟨rfl, rfl⟩ := hown.unique hown'
    exact ⟨rfl, by rw [hes.captured_eq, hcaptured, List.append_nil]⟩

theorem renderOn_of_ok {body : Body} (hread : Body.read source = .ok body)
    (hbody : plainBody recurs body = true) (hstore : store.Plain recurs)
    (hok : outcome s store source data = .ok text) :
    (∃ es, Emits s recurs store source data es) ∧ ∀ es, Emits s recurs store source data es →
      Emission.texts es = text ∧
        (renderOn s store source data).1 = { outputs := Emission.rendered es } := by
  cases hrun : ran s store source data with
  | mk r after =>
    obtain rfl : r = .ok text := by rw [← hok, outcome, hrun]
    obtain ⟨hsome, hall⟩ := emits_of_running hread hbody hstore hrun
    refine ⟨hsome, fun es hes => ?_⟩
    obtain ⟨htext, hcaptured⟩ := hall es hes
    refine ⟨htext, ?_⟩
    simp [renderOn, outputsOn, hrun, Except.map, hcaptured, Emission.rendered]

theorem renderOn_of_error {e : Refusal} (herror : outcome s store source data = .error e) :
    (renderOn s store source data).1 =
      { messages := [e.shown s.location], hasErrors := true } := by
  cases hrun : ran s store source data with
  | mk r after =>
    obtain rfl : r = .error e := by rw [← herror, outcome, hrun]
    simp [renderOn, outputsOn, hrun, Except.map]

theorem ofModel_plain (recurs : Bool) (data : Model.Combined) :
    (Store.ofModel data).Plain recurs where
  objects := by simp [Store.ofModel]
  blocks := by simp [Store.ofModel]
  parents := by simp [Store.ofModel]

/-- A capture in a capture in a loop, and text around them. -/
def nestedCaptures : String :=
  "a\x7b% for n in [1, 2] %\x7d\x7b% capture n %\x7db\x7b% capture 'in' %\x7dc" ++
    "\x7b% endcapture %\x7dd\x7b% endcapture %\x7d\x7b% endfor %\x7de"

/-- A failure behind a capture that is complete. -/
def failingLate : String :=
  "\x7b% capture 'out' %\x7da\x7b% endcapture %\x7d\x7b\x7b 1 // 0 \x7d\x7d"

/-- Nothing but the usual filters, and no templates beside. -/
def bare : Setting := { tree := ⟨.dir [], ⟨.here, []⟩⟩ }

example : render bare nestedCaptures ⟨[]⟩ =
    { outputs := [⟨"in", "c"⟩, ⟨"1", "bd"⟩, ⟨"in", "c"⟩, ⟨"2", "bd"⟩] } := by decide +kernel

end Stencil.Template
