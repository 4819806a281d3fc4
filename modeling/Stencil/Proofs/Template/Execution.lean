import Stencil.Proofs.Template.Plain
import Stencil.Proofs.Template.Triple
import Stencil.Template.Statement

/-!
How templates that are built from texts, expressions, conditions, loops and captures are executed,
told part by part: what each part emits, text and outputs that hold what was emitted in them. The
outputs that a store holds after an execution are those emitted, an inner one before the one around
it.
-/
namespace Stencil.Template
open Eval (lift)

/-- What is emitted: a text, or an output with what was emitted in it. -/
inductive Emission where
  | text (s : String)
  | output (name : String) (inside : List Emission)

namespace Emission

/-- The text that comes of emissions; outputs add nothing to it. -/
def texts : List Emission → String
  | [] => ""
  | .text s :: rest => s ++ texts rest
  | .output .. :: rest => texts rest

mutual

/-- The outputs of an emission as they finish, those inside before the one around them; each holds
the text that comes of what was emitted in it. -/
def outputs : Emission → List (String × String)
  | .text _ => []
  | .output name inside => outputsOf inside ++ [(name, texts inside)]

def outputsOf : List Emission → List (String × String)
  | [] => []
  | e :: rest => e.outputs ++ outputsOf rest

end

/-- What stays of emissions whose text goes elsewhere. -/
def silenced : List Emission → List Emission
  | [] => []
  | .text _ :: rest => silenced rest
  | .output name inside :: rest => .output name inside :: silenced rest

variable {es es' : List Emission}

@[simp] theorem texts_append : texts (es ++ es') = texts es ++ texts es' := by
  induction es with
  | nil => simp [texts]
  | cons e rest ih => cases e <;> simp [texts, ih, String.append_assoc]

@[simp] theorem texts_text (s : String) : texts [.text s] = s := by simp [texts]

@[simp] theorem texts_output (name : String) : texts [.output name es] = "" := rfl

@[simp] theorem outputsOf_append : outputsOf (es ++ es') = outputsOf es ++ outputsOf es' := by
  induction es with
  | nil => rfl
  | cons e rest ih => simp [outputsOf, ih]

@[simp] theorem outputsOf_text (s : String) : outputsOf [.text s] = [] := rfl

@[simp] theorem outputsOf_output (name : String) :
    outputsOf [.output name es] = outputsOf es ++ [(name, texts es)] := by
  simp [outputsOf, outputs]

@[simp] theorem texts_silenced : texts (silenced es) = "" := by
  induction es with
  | nil => rfl
  | cons e rest ih => cases e <;> simp [silenced, texts, ih]

@[simp] theorem outputsOf_silenced : outputsOf (silenced es) = outputsOf es := by
  induction es with
  | nil => rfl
  | cons e rest ih => cases e <;> simp [silenced, outputsOf, outputs, ih]

end Emission

/-! What the parts of a template do between the bodies that they run. -/

/-- The text of an expression that is put out. -/
def printed (run : Run) (f : Frame) (e : Expr) : Eval String := do
  let v ← evaluate run f e
  outputOf run (← marksText f) v

/-- The name of an output. -/
def titled (run : Run) (f : Frame) (name : Expr) : Eval String := do
  textOf run (← evaluate run f name)

/-- The frame that the body of an output runs in: that of a function without parameters. -/
def opened (f : Frame) (body : Body) : Eval Frame := do
  let r := Routine.make none [] body f
  let given ← Routine.settledAll (← lift (r.bind {}))
  let known := given.filterMap fun (n, v) => v.map fun v => (n, v)
  { f with run := none }.inner (given.map Prod.fst) known r.declared

/-- The frame of the body of a loop without items. -/
def elseFrame (l : LoopBody) : Eval Frame :=
  l.frame.inner [] [] fun outer d => declareBody outer true d l.orElse

/-- What a loop turns on: the iterator of its items, or the loop value that moves along. -/
inductive Wheel where
  | feed (place : Nat)
  | watched (place : Nat)

def wheelOf (l : LoopBody) (source : Value) (depth : Nat) : Eval Wheel := do
  let source ← if l.test.isSome then newIterator "generator" (.waiting (.passing l) source)
    else pure source
  let feed ← iterate source
  if isWatched l then
    let place := (← get).objects.size
    let _ ← newObject .loop (.loop ⟨0, source, feed, none, none, none, none, depth, none, l⟩)
    return .watched place
  else return .feed feed

namespace Wheel

def next (run : Run) (first : Bool) : Wheel → Eval (Option Value)
  | feed place => run (.advance place)
  | watched place => moveOn run place first

def vars : Wheel → List (String × Value)
  | feed _ => []
  | watched place => [("loop", .object place .loop [])]

end Wheel

/-! Execution. -/

/-- The parts of a template that are executed: expressions, a statement, a body, a loop, and the
rounds of a loop that are left. Tasks nest at most as deep as the number says. -/
inductive Part where
  | expressions
  | node (depth : Nat) (f : Frame) (n : Node)
  | body (depth : Nat) (f : Frame) (nodes : Body)
  | loop (depth : Nat) (l : LoopBody) (source : Value) (level : Nat)
  | rounds (depth : Nat) (l : LoopBody) (w : Wheel) (first : Bool)

/-- What a part emits when it is executed on a store, and the store afterwards. -/
inductive Executes [Library] (env : Environment) (recurs : Bool) :
    Part → Store → List Emission → Store → Prop
  /-- Expressions capture nothing themselves. -/
  | still {s s' : Store} (hcaptured : s'.captured = s.captured) :
    Executes env recurs .expressions s [] s'
  /-- A loop that starts anew in an expression: its text becomes a value. -/
  | again {s s' : Store} {place d : Nat} {ls : LoopState} {v : Value} {es : List Emission}
      (hrecurs : recurs = true) (hloop : s.objects[place]? = some (.loop ls))
      (hrecursive : ls.loop.recursive = true)
      (hplay : Executes env recurs (.loop d ls.loop v (ls.depth + 1)) s es s') :
    Executes env recurs .expressions s (Emission.silenced es) s'
  | trans {s mid s' : Store} {es es' : List Emission}
      (h : Executes env recurs .expressions s es mid)
      (h' : Executes env recurs .expressions mid es' s') :
    Executes env recurs .expressions s (es ++ es') s'
  | text {s : Store} {d : Nat} {f : Frame} {t : String} :
    Executes env recurs (.node d f (.text t)) s [.text t] s
  | print {s s' : Store} {d : Nat} {f : Frame} {e : Expr} {t : String} {es : List Emission}
      (hprint : Gives env (printed (machine d) f e) s t s')
      (hes : Executes env recurs .expressions s es s') :
    Executes env recurs (.node d f (.print e)) s (es ++ [.text t]) s'
  | branch {s mid s' : Store} {d : Nat} {f : Frame} {cases : List (Expr × Body)}
      {orElse body : Body} {es es' : List Emission}
      (htest : Gives env (firstTrue (machine d) f orElse cases) s body mid)
      (hes : Executes env recurs .expressions s es mid)
      (hbody : Executes env recurs (.body d f body) mid es' s') :
    Executes env recurs (.node d f (.branch cases orElse)) s (es ++ es') s'
  | loop {s mid s' : Store} {d line : Nat} {f : Frame} {target source : Expr} {test : Option Expr}
      {recursive : Bool} {body orElse : Body} {v : Value} {es es' : List Emission}
      (hsource : Gives env (evaluate (machine d) f source) s v mid)
      (hes : Executes env recurs .expressions s es mid)
      (hplay : Executes env recurs (.loop d ⟨target, test, recursive, body, orElse, f⟩ v 0)
        mid es' s') :
    Executes env recurs (.node d f (.loop target source test recursive body orElse line)) s
      (es ++ es') s'
  | capture {s mid start stop : Store} {d : Nat} {f inner : Frame} {name : Expr} {body : Body}
      {title : String} {es es' : List Emission}
      (htitle : Gives env (titled (machine d) f name) s title mid)
      (hes : Executes env recurs .expressions s es mid)
      (hopen : Gives env (opened f body) mid inner start)
      (hstart : start.captured = mid.captured)
      (hbody : Executes env recurs (.body d inner body) start es' stop) :
    Executes env recurs (.node d f (.capture name body)) s (es ++ [.output title es'])
      { stop with captured := (title, Emission.texts es') :: stop.captured }
  | nil {s : Store} {d : Nat} {f : Frame} : Executes env recurs (.body (d + 1) f []) s [] s
  | cons {s mid s' : Store} {d : Nat} {f : Frame} {n : Node} {rest : Body}
      {es es' : List Emission} (hnode : Executes env recurs (.node d f n) s es mid)
      (hrest : Executes env recurs (.body (d + 1) f rest) mid es' s') :
    Executes env recurs (.body (d + 1) f (n :: rest)) s (es ++ es') s'
  | play {s start s' : Store} {d level : Nat} {l : LoopBody} {source : Value} {w : Wheel}
      {es : List Emission} (hwheel : Gives env (wheelOf l source level) s w start)
      (hstart : start.captured = s.captured)
      (hrounds : Executes env recurs (.rounds d l w true) start es s') :
    Executes env recurs (.loop (d + 1) l source level) s es s'
  | round {s₀ s₁ s₂ s₃ s₄ : Store} {d : Nat} {l : LoopBody} {w : Wheel} {first : Bool} {v : Value}
      {f : Frame} {es₁ es₂ es₃ es₄ : List Emission}
      (hnext : Gives env (w.next (machine d) first) s₀ (some v) s₁)
      (h₁ : Executes env recurs .expressions s₀ es₁ s₁)
      (hframe : Gives env (roundFrame (machine d) l w.vars l.body v) s₁ f s₂)
      (h₂ : Executes env recurs .expressions s₁ es₂ s₂)
      (hbody : Executes env recurs (.body d f l.body) s₂ es₃ s₃)
      (hrounds : Executes env recurs (.rounds d l w false) s₃ es₄ s₄) :
    Executes env recurs (.rounds d l w first) s₀ (es₁ ++ es₂ ++ es₃ ++ es₄) s₄
  | stop {s s' : Store} {d : Nat} {l : LoopBody} {w : Wheel} {es : List Emission}
      (hnext : Gives env (w.next (machine d) false) s none s')
      (hes : Executes env recurs .expressions s es s') :
    Executes env recurs (.rounds d l w false) s es s'
  | orElse {s mid start s' : Store} {d : Nat} {l : LoopBody} {w : Wheel} {f : Frame}
      {es es' : List Emission} (hnext : Gives env (w.next (machine d) true) s none mid)
      (hes : Executes env recurs .expressions s es mid)
      (hframe : Gives env (elseFrame l) mid f start) (hstart : start.captured = mid.captured)
      (hbody : Executes env recurs (.body d f l.orElse) start es' s') :
    Executes env recurs (.rounds d l w true) s (es ++ es') s'

namespace Executes
variable [Library] {env : Environment} {recurs : Bool} {part : Part} {s s' : Store}
  {es : List Emission}

/-- Expressions emit no text of their own. -/
theorem texts_eq (h : Executes env recurs .expressions s es s') : Emission.texts es = "" := by
  generalize hpart : Part.expressions = part at h
  induction h with
  | still => rfl
  | again => exact Emission.texts_silenced
  | trans h h' ih ih' => rw [Emission.texts_append, ih hpart, ih' hpart]; rfl
  | _ => cases hpart

/-- Where no loop starts anew, expressions emit nothing. -/
theorem eq_nil (h : Executes env false .expressions s es s') : es = [] := by
  generalize hpart : Part.expressions = part at h
  generalize hrecurs : false = recurs at h
  induction h with
  | still => rfl
  | again hrecurs' => exact absurd (hrecurs.trans hrecurs') Bool.false_ne_true
  | trans h h' ih ih' => rw [ih hpart, ih' hpart, List.append_nil]
  | _ => cases hpart

/-- What is captured is what was captured before and the outputs that are emitted, the latest
first. -/
theorem captured_eq (h : Executes env recurs part s es s') :
    s'.captured = (Emission.outputsOf es).reverse ++ s.captured := by
  induction h with
  | still hcaptured => exact hcaptured
  | again _ _ _ _ ih => rw [Emission.outputsOf_silenced, ih]
  | play _ hstart _ ih => rw [ih, hstart]
  | capture _ _ _ hstart _ ih ih' => simp [ih', hstart, ih]
  | orElse _ _ _ hstart _ ih ih' => simp [ih', hstart, ih]
  | text => rfl
  | nil => rfl
  | print _ _ ih => simp [ih]
  | stop _ _ ih => exact ih
  | trans _ _ ih ih' => simp [ih', ih]
  | branch _ _ _ ih ih' => simp [ih', ih]
  | loop _ _ _ ih ih' => simp [ih', ih]
  | cons _ _ ih ih' => simp [ih', ih]
  | round _ _ _ _ _ _ ih₁ ih₂ ih₃ ih₄ => simp [ih₄, ih₃, ih₂, ih₁]

end Executes
end Stencil.Template
