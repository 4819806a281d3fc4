import Mathlib
import Stencil.Proofs.Files.Overlay
import Stencil.Template.Renderer

/-!
Steps of templates and what they do. When all templates that are asked for are looked up in one way,
a step on a store gives a value and another store, or it fails; and a step is specified by what
holds before it and, if it gives something, after it. A complaint about a template that is asked for
ends a step, and nothing is given.
-/
namespace Stencil.Template
open Std.Do

/-- A way to look up templates. -/
class Library where
  find : String → Reading Loaded

variable {α β : Type} [Library]

namespace Asking

omit [Library] in
theorem answered_ask (load : String → Reading Loaded) (name : String) (held : Store)
    (next : Outcome Loaded → Asking α) : (ask name held next).answered load =
      match outcomeOf (load name) with
      | .ok found => (next found).answered load
      | .error f => .error (f, held) := by
  cases found : outcomeOf (load name) <;> simp only [answered, found]

theorem answered_bind (x : Asking α) (f : α → Asking β) :
    (x >>= f).answered Library.find =
      x.answered Library.find >>= fun a => (f a).answered Library.find := by
  induction x with
  | done a => rfl
  | ask name held next ih =>
    change (ask name held fun found => next found >>= f).answered Library.find = _
    rw [answered_ask, answered_ask]
    cases outcomeOf (Library.find name) with
    | ok found => exact ih found
    | error f => rfl

omit [Library] in
theorem id_map (x : Asking α) : id <$> x = x := by
  induction x with
  | done a => rfl
  | ask name held next ih => exact congrArg (ask name held) (funext ih)

omit [Library] in
theorem bind_assoc {γ : Type} (x : Asking α) (f : α → Asking β) (g : β → Asking γ) :
    x >>= f >>= g = x >>= fun a => f a >>= g := by
  induction x with
  | done a => rfl
  | ask name held next ih => exact congrArg (ask name held) (funext ih)

instance : LawfulMonad Asking := LawfulMonad.mk' Asking id_map (fun _ _ => rfl) bind_assoc

instance : WP Asking .pure where
  wp x := match x.answered Library.find with
    | .ok a => PredTrans.pure a
    | .error _ => PredTrans.const ⌜True⌝

instance : WPMonad Asking .pure where
  wp_pure _ := rfl
  wp_bind x f := by
    unfold wp instWPPure
    simp only [answered_bind]
    cases x.answered Library.find with
    | ok a => rfl
    | error f => rfl

end Asking

/-! Steps that give something. -/

variable {env : Environment} {s mid s' : Store} {step : Eval α} {next : α → Eval β} {a a' : α}
  {b : β}

/-- A step on a store gives a value and leaves another store. -/
def Gives (env : Environment) (step : Eval α) (s : Store) (a : α) (s' : Store) : Prop :=
  (step.start env s).answered Library.find = .ok (.ok a, s')

/-- What has to hold before a step, looked at where it ends. -/
theorem wp_apply (step : Eval α)
    (Q : PostCond α (.arg Environment (.except Failure (.arg Store .pure))))
    (env : Environment) (s : Store) :
    wp⟦step⟧ Q env s = match (step.start env s).answered Library.find with
      | .ok (.ok a, s') => Q.1 a env s'
      | .ok (.error e, s') => Q.2.1 e s'
      | .error _ => ⌜True⌝ := by
  cases hx : (step.start env s).answered Library.find with
  | ok end_ =>
    obtain ⟨r, s'⟩ := end_
    replace hx : ((ReaderT.run step env).run s).answered Library.find = .ok (r, s') := hx
    simp only [wp, PredTrans.pushArg, PredTrans.pushExcept, PredTrans.apply, StateT.run,
      Functor.map, PredTrans.pure, PredTrans.bind, Function.comp_apply, hx]
    cases r <;> rfl
  | error e =>
    replace hx : ((ReaderT.run step env).run s).answered Library.find = .error e := hx
    simp only [wp, PredTrans.pushArg, PredTrans.pushExcept, PredTrans.apply, StateT.run,
      Functor.map, PredTrans.const, PredTrans.bind, Function.comp_apply, hx]

/-- A step on a store gives one thing at most. -/
theorem Gives.unique {s'' : Store} (h : Gives env step s a s') (h' : Gives env step s a' s'') :
    a = a' ∧ s' = s'' := by
  cases h.symm.trans h'
  exact ⟨rfl, rfl⟩

/-- A step is specified by what it gives. -/
theorem triple_iff {P : Environment → Store → Prop} {Q : α → Environment → Store → Prop} :
    ⦃fun env s => ⌜P env s⌝⦄ step ⦃post⟨fun a env s => ⌜Q a env s⌝, fun _ _ => ⌜True⌝⟩⦄ ↔
      ∀ env s a s', P env s → Gives env step s a s' → Q a env s' := by
  constructor
  · intro h env s a s' hp hgives
    have hpost := h env s hp
    rw [wp_apply, show _ = _ from hgives] at hpost
    exact hpost
  · intro h env s hp
    rw [wp_apply]
    cases hx : (step.start env s).answered Library.find with
    | ok end_ =>
      obtain ⟨r, s'⟩ := end_
      cases r with
      | ok a => exact h env s a s' hp hx
      | error e => trivial
    | error e => trivial

theorem gives_pure_iff : Gives env (pure a) s a' s' ↔ a' = a ∧ s' = s := by
  constructor
  · intro h
    cases h
    exact ⟨rfl, rfl⟩
  · rintro ⟨rfl, rfl⟩
    rfl

theorem gives_lift_iff {o : Outcome α} : Gives env (Eval.lift o) s a s' ↔ o = .ok a ∧ s' = s := by
  constructor
  · intro h
    cases h
    exact ⟨rfl, rfl⟩
  · rintro ⟨rfl, rfl⟩
    rfl

theorem gives_objectAt_iff {place : Nat} {o : Option Object} :
    Gives env (objectAt? place) s o s' ↔ o = s.objects[place]? ∧ s' = s := by
  constructor
  · intro h
    cases h
    exact ⟨rfl, rfl⟩
  · rintro ⟨rfl, rfl⟩
    rfl

/-- Two steps give something where the second one goes on with what the first one gives. -/
theorem gives_bind_iff : Gives env (step >>= next) s b s' ↔
    ∃ a mid, Gives env step s a mid ∧ Gives env (next a) mid b s' := by
  have hstart : (step >>= next).start env s = step.start env s >>= fun x =>
      match x.1 with
      | .ok a => (next a).start env x.2
      | .error e => pure (.error e, x.2) := by
    refine congrArg (step.start env s >>= ·) (funext fun x => ?_)
    obtain ⟨r, mid⟩ := x
    cases r <;> rfl
  unfold Gives
  rw [hstart, Asking.answered_bind]
  cases (step.start env s).answered Library.find with
  | ok end_ =>
    obtain ⟨r, mid⟩ := end_
    cases r with
    | ok a =>
      constructor
      · intro h
        exact ⟨a, mid, rfl, h⟩
      · rintro ⟨_, _, h, hnext⟩
        cases h
        exact hnext
    | error e =>
      constructor
      · intro h
        cases h
      · rintro ⟨_, _, h, _⟩
        cases h
  | error e =>
    constructor
    · intro h
      cases h
    · rintro ⟨_, _, h, _⟩
      cases h

/-! A step that fails gives nothing. -/

@[spec] theorem raise_gives_nothing (kind : ErrorKind) (message : String) :
    ⦃fun _ _ => ⌜True⌝⦄ (Eval.raise kind message : Eval α)
    ⦃post⟨fun _ _ _ => ⌜False⌝, fun _ _ => ⌜True⌝⟩⦄ := fun _ _ _ => trivial

@[spec] theorem broken_gives_nothing (message : String) :
    ⦃fun _ _ => ⌜True⌝⦄ (Eval.broken message : Eval α)
    ⦃post⟨fun _ _ _ => ⌜False⌝, fun _ _ => ⌜True⌝⟩⦄ := fun _ _ _ => trivial

end Stencil.Template

/-!
What rendering sees of a tree: the templates that it asks for, and nothing else. Where they have not
been written over, a template renders on the later tree as it did before.
-/
namespace Stencil.Template
open Stencil.Files
open Stencil.Files.Tree (Overlaid)

variable {suffixes : List String} {W D : List String → Prop} {A B : Tree}

/-- Only the answers that are asked for count. -/
theorem Asking.answered_congr {α : Type} {load load' : String → Reading Loaded} (a : Asking α)
    (h : ∀ name ∈ a.names load, load' name = load name) :
    a.answered load' = a.answered load := by
  induction a with
  | done a => rfl
  | ask name held next ih =>
    have hfirst : load' name = load name := h name (by simp [Asking.names])
    rw [Asking.answered, Asking.answered, hfirst]
    cases hfound : outcomeOf (load name) with
    | ok found => exact ih found fun n hn => h n (by simp [Asking.names, hfound, hn])
    | error f => rfl

/-- The names that the rendering of a template asks for. -/
def asked (s : Setting) (store : Store) (source : String) (data : Model.Combined) : List String :=
  match Loaded.read s.ownFilters none source with
  | .ok t => (running s store t data).names s.load
  | .error _ => []

/-- A template that is looked for where nothing was written is found as before, or not. -/
theorem Loaded.find_later (ho : Overlaid suffixes W D A B) (own : List (String × Value))
    {dir : Path} {name : String}
    (h : ∀ p, fileOf? dir name = some p → p.Resolved ∧ ¬W p.names) :
    Loaded.find own B dir name = Loaded.find own A dir name := by
  unfold Loaded.find
  cases hp : fileOf? dir name with
  | none => rfl
  | some p =>
    obtain ⟨hr, hw⟩ := h p hp
    have hw' : ¬W (A.resolve p).names := by rwa [Tree.resolve, hr.resolve_eq]
    dsimp only
    cases hA : A.node p with
    | ok n =>
      cases n with
      | file d => simp only [ho.node_file hA hw', ho.readText_eq hA hw']
      | dir entries =>
        obtain ⟨entries', hB⟩ := ho.node_dir hA
        rw [hB]
    | error e =>
      cases hB : B.node p with
      | ok n =>
        cases n with
        | file d => cases hA.symm.trans (ho.node_file_old hr hw hB)
        | dir entries => rfl
      | error e => rfl

/-- Names below a directory do not lead above it. -/
theorem resolved_fileOf {dir p : Path} {name : String} (hd : dir.Resolved)
    (h : fileOf? dir name = some p) : p.Resolved := by
  unfold fileOf? piecesOf? at h
  dsimp only at h
  split at h
  · cases h
  · rename_i hup
    cases h
    refine ⟨hd.anchor, fun hm => ?_⟩
    rcases List.mem_append.mp hm with hm | hm
    · exact hd.plain hm
    · exact hup (by simpa using (List.mem_filter.mp hm).1)

theorem renderOn_later (ho : Overlaid suffixes W D A B)
    (filters functions : List (String × TemplateFunction)) {path : Path} {store : Store}
    {source : String} {data : Model.Combined} (hr : path.parent.Resolved)
    (h : ∀ name ∈ asked ⟨filters, functions, some path, A⟩ store source data, ∀ p,
      fileOf? path.parent name = some p → ¬W p.names) :
    renderOn ⟨filters, functions, some path, B⟩ store source data =
      renderOn ⟨filters, functions, some path, A⟩ store source data := by
  have hran : ran ⟨filters, functions, some path, B⟩ store source data =
      ran ⟨filters, functions, some path, A⟩ store source data := by
    unfold asked at h
    unfold ran
    -- The filters of a template are the same wherever it is loaded.
    have hfilters : Setting.ownFilters ⟨filters, functions, some path, B⟩ =
        Setting.ownFilters ⟨filters, functions, some path, A⟩ := rfl
    rw [hfilters]
    cases hread : Loaded.read (Setting.ownFilters ⟨filters, functions, some path, A⟩) none source
      with
    | error e => rfl
    | ok t =>
      rw [hread] at h
      have hanswer : (running ⟨filters, functions, some path, B⟩ store t data).answered
          (Setting.load ⟨filters, functions, some path, B⟩) =
          (running ⟨filters, functions, some path, A⟩ store t data).answered
            (Setting.load ⟨filters, functions, some path, A⟩) :=
        Asking.answered_congr _ fun name hname =>
          Loaded.find_later ho _ fun p hp => ⟨resolved_fileOf hr hp, h name hname p hp⟩
      dsimp only
      rw [hanswer]
  unfold renderOn outputsOn
  rw [hran]
  rfl

end Stencil.Template
