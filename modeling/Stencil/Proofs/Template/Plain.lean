import Stencil.Proofs.Result
import Stencil.Template.Renderer

/-!
Templates that are built from texts, expressions, conditions, loops and captures, nested to any
depth, and the stores that they run on. Such a store holds no functions of templates, no blocks and
no parent templates, and its loops have such bodies.
-/
namespace Stencil.Template

mutual

/-- Whether a statement is a text, an expression, a condition, a loop or a capture, and all in it
are; `recurs` tells whether loops may start anew. -/
def Node.plain (recurs : Bool) : Node → Bool
  | .text _ | .print _ => true
  | .loop _ _ _ recursive body orElse _ =>
    (!recursive || recurs) && plainBody recurs body && plainBody recurs orElse
  | .branch cases orElse => plainCases recurs cases && plainBody recurs orElse
  | .capture _ body => plainBody recurs body
  | _ => false

def plainBody (recurs : Bool) : List Node → Bool
  | [] => true
  | n :: rest => n.plain recurs && plainBody recurs rest

def plainCases (recurs : Bool) : List (Expr × List Node) → Bool
  | [] => true
  | (_, body) :: rest => plainBody recurs body && plainCases recurs rest

end

variable {recurs : Bool} {s s' : Store} {o : Object} {place : Nat}

/-- A loop with such bodies. -/
structure LoopBody.Plain (recurs : Bool) (l : LoopBody) : Prop where
  body : plainBody recurs l.body = true
  orElse : plainBody recurs l.orElse = true
  recursive : l.recursive = true → recurs = true

/-- An object that such a template makes. -/
def Object.Plain (recurs : Bool) : Object → Prop
  | .routine _ | .block .. => False
  | .loop s => s.loop.Plain recurs
  | _ => True

structure Store.Plain (recurs : Bool) (s : Store) : Prop where
  objects : ∀ o ∈ s.objects, o.Plain recurs
  blocks : ∀ c ∈ s.contexts, c.blocks = []
  parents : ∀ parent ∈ s.runs, parent.isNone

namespace Store.Plain

theorem congr (h : s.Plain recurs) (ho : s'.objects = s.objects) (hc : s'.contexts = s.contexts)
    (hr : s'.runs = s.runs) : s'.Plain recurs where
  objects := by
    rw [ho]
    exact h.objects
  blocks := by
    rw [hc]
    exact h.blocks
  parents := by
    rw [hr]
    exact h.parents

theorem push (h : s.Plain recurs) (ho : o.Plain recurs) :
    Store.Plain recurs { s with objects := s.objects.push o } where
  objects := by
    intro x hx
    rcases Array.mem_push.mp hx with hx | rfl
    · exact h.objects x hx
    · exact ho
  blocks := h.blocks
  parents := h.parents

theorem setObject (h : s.Plain recurs) (ho : o.Plain recurs) :
    Store.Plain recurs { s with objects := s.objects.setIfInBounds place o } where
  objects := by
    intro x hx
    rcases Array.mem_or_eq_of_mem_setIfInBounds hx with hx | rfl
    · exact h.objects x hx
    · exact ho
  blocks := h.blocks
  parents := h.parents

theorem object (h : s.Plain recurs) (ho : s.objects[place]? = some o) : o.Plain recurs :=
  h.objects o (Array.mem_of_getElem? ho)

theorem changeContext {change : Context → Context} (h : s.Plain recurs)
    (hchange : ∀ c, (change c).blocks = c.blocks) :
    Store.Plain recurs { s with contexts := s.contexts.modify place change } where
  objects := h.objects
  blocks := by
    intro c hc
    obtain ⟨i, hi, rfl⟩ := Array.mem_iff_getElem.mp hc
    have hi' : i < s.contexts.size := by simpa using hi
    have hold := h.blocks s.contexts[i] (Array.getElem_mem hi')
    rw [Array.getElem_modify]
    split
    · rw [hchange, hold]
    · exact hold
  parents := h.parents

theorem newContext {c : Context} (h : s.Plain recurs) (hc : c.blocks = []) :
    Store.Plain recurs { s with contexts := s.contexts.push c } where
  objects := h.objects
  blocks := by
    intro x hx
    rcases Array.mem_push.mp hx with hx | rfl
    · exact h.blocks x hx
    · exact hc
  parents := h.parents

theorem newRun (h : s.Plain recurs) :
    Store.Plain recurs { s with runs := s.runs.push none } where
  objects := h.objects
  blocks := h.blocks
  parents := by
    intro x hx
    rcases Array.mem_push.mp hx with hx | rfl
    · exact h.parents x hx
    · rfl

/-- No template runs after another. -/
theorem noParent (h : s.Plain recurs) : ((s.runs[place]?).getD none).isSome = false := by
  cases hr : s.runs[place]? with
  | none => rfl
  | some parent =>
    have hnone := h.parents parent (Array.mem_of_getElem? hr)
    simpa using hnone

end Store.Plain
/-! Looking a template through leaves it plain: an expression that is constant becomes a text, and
nothing else becomes another statement. -/

namespace Check

variable {α β : Type} {recurs : Bool} {k k' : Known}

/-- What two steps give that follow each other. -/
theorem bind_iff {x : Step α} {next : α → Step β} {r : β × Known} :
    (x >>= next) k = .ok r ↔ ∃ a mid, x k = .ok (a, mid) ∧ next a mid = .ok r := by
  change (x k >>= fun r => next r.1 r.2) = .ok r ↔ _
  cases x k with
  | error e =>
    constructor
    · intro h
      cases h
    · rintro ⟨_, _, h, -⟩
      cases h
  | ok r =>
    constructor
    · intro h
      exact ⟨r.1, r.2, rfl, h⟩
    · rintro ⟨_, _, h, hnext⟩
      cases h
      exact hnext

theorem pure_iff {a : α} {r : α × Known} : (pure a : Step α) k = .ok r ↔ r = (a, k) := by
  constructor
  · intro h
    cases h
    rfl
  · rintro rfl
    rfl

mutual

theorem node_plain (p : Place) : ∀ (n : Node) {k k' : Known} {n' : Node} {goesOn : Bool},
    n.plain recurs = true → node p n k = .ok ((n', goesOn), k') → n'.plain recurs = true
  | .text t, _, _, _, _, _, h => by
    cases pure_iff.mp h
    rfl
  | .print e, k, _, _, _, _, h => by
    simp only [node, bind_iff] at h
    obtain ⟨known, mid, -, h⟩ := h
    split at h
    · cases pure_iff.mp h
      rfl
    · obtain ⟨text, mid, -, h⟩ := bind_iff.mp h
      cases text with
      | some text =>
        cases pure_iff.mp h
        rfl
      | none =>
        obtain ⟨e', mid, -, h⟩ := bind_iff.mp h
        cases pure_iff.mp h
        rfl
  | .branch caseList orElse, _, _, _, _, hn, h => by
    rw [Node.plain, Bool.and_eq_true] at hn
    simp only [node, bind_iff, pure_iff] at h
    obtain ⟨caseList', mid, hcases, orElse', last, helse, h⟩ := h
    cases h
    rw [Node.plain, cases_plain _ caseList hn.1 hcases, nodes_plain _ orElse hn.2 helse]
    rfl
  | .capture name body, _, _, _, _, hn, h => by
    rw [Node.plain] at hn
    simp only [node, bind_iff, pure_iff] at h
    obtain ⟨body', mid, hbody, name', last, -, h⟩ := h
    cases h
    exact nodes_plain _ body hn hbody
  | .loop target source test recursive body orElse line, _, _, _, _, hn, h => by
    simp only [Node.plain, Bool.and_eq_true] at hn
    simp only [node, bind_iff] at h
    obtain ⟨test', mid, -, h⟩ := h
    generalize loopStores _ = lines at h
    cases lines with
    | cons line' _ =>
      obtain ⟨_, _, hcomplain, -⟩ := bind_iff.mp h
      cases hcomplain
    | nil =>
      cases recursive with
      | true =>
        simp only [if_true, pure_bind, bind_iff, pure_iff] at h
        obtain ⟨body', _, hbody, orElse', _, helse, source', _, -, h⟩ := h
        cases h
        rw [Node.plain, hn.1.1, nodes_plain _ body hn.1.2 hbody, nodes_plain _ orElse hn.2 helse]
        rfl
      | false =>
        simp only [Bool.false_eq_true, if_false, pure_bind, bind_iff, pure_iff] at h
        obtain ⟨source', _, -, body', _, hbody, orElse', _, helse, h⟩ := h
        cases h
        rw [Node.plain, hn.1.1, nodes_plain _ body hn.1.2 hbody, nodes_plain _ orElse hn.2 helse]
        rfl

theorem nodes_plain (p : Place) : ∀ (body : List Node) {k k' : Known} {body' : List Node},
    plainBody recurs body = true → nodes p body k = .ok (body', k') →
    plainBody recurs body' = true
  | [], _, _, _, _, h => by
    cases pure_iff.mp h
    rfl
  | n :: rest, _, _, _, hbody, h => by
    rw [plainBody, Bool.and_eq_true] at hbody
    simp only [nodes, bind_iff] at h
    obtain ⟨⟨n', goesOn⟩, mid, hn, h⟩ := h
    have hn' := node_plain p n hbody.1 hn
    cases goesOn with
    | true =>
      simp only [if_true, bind_iff, pure_iff] at h
      obtain ⟨rest', _, hrest, h⟩ := h
      cases h
      rw [plainBody, hn', nodes_plain p rest hbody.2 hrest]
      rfl
    | false =>
      cases pure_iff.mp h
      rw [plainBody, hn', hbody.2]
      rfl

theorem cases_plain (p : Place) : ∀ (caseList : List (Expr × List Node)) {k k' : Known}
    {caseList' : List (Expr × List Node)}, plainCases recurs caseList = true →
    cases p caseList k = .ok (caseList', k') → plainCases recurs caseList' = true
  | [], _, _, _, _, h => by
    cases pure_iff.mp h
    rfl
  | (test, body) :: rest, _, _, _, hcases, h => by
    rw [plainCases, Bool.and_eq_true] at hcases
    simp only [cases, bind_iff, pure_iff] at h
    obtain ⟨test', mid, -, body', mid', hbody, rest', last, hrest, h⟩ := h
    cases h
    rw [plainCases, nodes_plain p body hcases.1 hbody, cases_plain p rest hcases.2 hrest]
    rfl

end

mutual

theorem blocks_of_plain : ∀ {n : Node}, n.plain recurs = true → n.blocks = []
  | .text _, _ => rfl
  | .print _, _ => rfl
  | .loop _ _ _ _ body orElse _, h => by
    simp only [Node.plain, Bool.and_eq_true] at h
    rw [Node.blocks, blocksOf_of_plain h.1.2, blocksOf_of_plain h.2]
    rfl
  | .branch caseList orElse, h => by
    rw [Node.plain, Bool.and_eq_true] at h
    rw [Node.blocks, blocksOfCases_of_plain h.1, blocksOf_of_plain h.2]
    rfl
  | .capture _ body, h => by
    rw [Node.blocks, blocksOf_of_plain h]

theorem blocksOf_of_plain : ∀ {body : List Node}, plainBody recurs body = true → blocksOf body = []
  | [], _ => rfl
  | n :: rest, h => by
    rw [plainBody, Bool.and_eq_true] at h
    rw [blocksOf, blocks_of_plain h.1, blocksOf_of_plain h.2]
    rfl

theorem blocksOfCases_of_plain : ∀ {caseList : List (Expr × List Node)},
    plainCases recurs caseList = true → blocksOfCases caseList = []
  | [], _ => rfl
  | (_, body) :: rest, h => by
    rw [plainCases, Bool.and_eq_true] at h
    rw [blocksOfCases, blocksOf_of_plain h.1, blocksOfCases_of_plain h.2]
    rfl

end

/-- A template that is looked through is such a template, without blocks, if it was one. -/
theorem template_plain {own : List (String × Value)} {body body' : Body} {blocks : List Block}
    (hbody : plainBody recurs body = true) (h : template own body = .ok (body', blocks)) :
    plainBody recurs body' = true ∧ blocks = [] := by
  unfold template at h
  rw [blocksOf_of_plain hbody] at h
  dsimp only at h
  obtain ⟨⟨⟩, -, h⟩ := bind_eq_ok h
  obtain ⟨⟨⟨_, _⟩, known⟩, hsteps, h⟩ := bind_eq_ok h
  cases h
  obtain ⟨_, mid, hnodes, hrest⟩ := bind_iff.mp hsteps
  obtain ⟨_, last, hblocks, hpure⟩ := bind_iff.mp hrest
  cases pure_iff.mp hblocks
  cases pure_iff.mp hpure
  exact ⟨nodes_plain _ body hbody hnodes, rfl⟩

end Check
end Stencil.Template
