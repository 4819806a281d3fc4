import Stencil.Proofs.Files.Graft
import Stencil.Template.Renderer

/-!
The changes that a run makes to a tree. An output is written beside its template, and the
directories above it are made where they are missing; a build directory may stay at a name that was
free. Nothing else is touched, and every directory stays one.
-/
namespace Stencil.Generation
open Stencil.Files
open Stencil.Files.Tree (Vacant graft Grown OnWay SameDirs)

variable {t mid t' after : Tree} {template : Path} {o : Template.Output} {names : List String}

/-- Where an output goes. -/
def outputPath (template : Path) (o : Template.Output) : Path := template.parent / o.name

/-- Writes an output beside its template; the directory above it is made if it is missing. -/
def putOutput (t : Tree) (template : Path) (o : Template.Output) : Except FileError Tree := do
  let path := outputPath template o
  if ← t.exists path.parent then t.writeText path o.content
  else (← t.makeDirs path.parent).writeText path o.content

inductive Change where
  | output (template : Path) (o : Template.Output)
  /-- A build directory that stays. -/
  | kept (parent : List String) (name : String) (node : Node)

instance (t : Tree) (parent : List String) (name : String) : Decidable (t.Vacant parent name) :=
  match h : t.root.get? parent with
  | some (.dir entries) =>
    decidable_of_iff (entries.lookup name = none) (by simp [Vacant, h])
  | some (.file _) => isFalse (by simp [Vacant, h])
  | none => isFalse (by simp [Vacant, h])

namespace Change

def apply (t : Tree) : Change → Option Tree
  | output template o => (putOutput t template o).toOption
  | kept parent name node =>
    if t.Vacant parent name then some (t.graft parent name node) else none

def isOutput : Change → Bool
  | output .. => true
  | kept .. => false

/-- The places that a change may fill anew. -/
def Touches (t : Tree) : Change → List String → Prop
  | output template o, names => names = (t.resolve (outputPath template o)).names
  | kept parent name _, names => parent ++ [name] <+: names

/-- The places above an output. -/
def Above (t : Tree) : Change → List String → Prop
  | output template o, names =>
    ∃ q, OnWay (outputPath template o).parent q ∧ names = (t.resolve q).names
  | kept .., _ => False

end Change

/-- Makes changes one after another. -/
def applyAll : Tree → List Change → Option Tree
  | t, [] => some t
  | t, c :: rest => (c.apply t).bind fun t => applyAll t rest

theorem applyAll_append (cs ds : List Change) :
    applyAll t (cs ++ ds) = (applyAll t cs).bind fun t => applyAll t ds := by
  induction cs generalizing t with
  | nil => rfl
  | cons c rest ih =>
    rw [List.cons_append, applyAll, applyAll]
    cases c.apply t with
    | none => rfl
    | some t => exact ih

/-! One change. -/

/-- An output is written on a tree that has the directories above it. -/
theorem exists_of_putOutput (h : putOutput t template o = .ok t') : ∃ above,
    Grown (OnWay (outputPath template o).parent) t above ∧
      above.writeText (outputPath template o) o.content = .ok t' := by
  obtain ⟨there, _, h⟩ := bind_eq_ok h
  split at h
  · exact ⟨t, .refl _ _, h⟩
  · obtain ⟨above, habove, h⟩ := bind_eq_ok h
    exact ⟨above, Tree.makeDirs_grown habove, h⟩

theorem kindAt_putOutput (h : putOutput t template o = .ok t') :
    t'.kindAt (t.resolve (outputPath template o)).names = some (.file (.ofText o.content)) := by
  obtain ⟨above, habove, hw⟩ := exists_of_putOutput h
  rw [Tree.kindAt_write hw, if_pos]
  rw [Tree.resolve_congr habove.here]

theorem putOutput_of_apply (h : Change.apply t (.output template o) = some t') :
    putOutput t template o = .ok t' := eq_ok_of_toOption h

theorem graft_of_apply {parent : List String} {name : String} {node : Node}
    (h : Change.apply t (.kept parent name node) = some t') :
    t.Vacant parent name ∧ t' = t.graft parent name node := by
  simp only [Change.apply] at h
  split at h
  · rename_i hv
    exact ⟨hv, (Option.some.inj h).symm⟩
  · cases h

theorem here_apply {c : Change} (h : c.apply t = some t') : t'.here = t.here := by
  cases c with
  | output template o =>
    obtain ⟨above, habove, hw⟩ := exists_of_putOutput (putOutput_of_apply h)
    rw [Tree.here_write hw, habove.here]
  | kept parent name node =>
    rw [(graft_of_apply h).2]
    rfl

/-- A place that a change does not fill is as before, or it is a new directory above an output. -/
theorem kindAt_apply {c : Change} (h : c.apply t = some t') (hn : ¬c.Touches t names) :
    t'.kindAt names = t.kindAt names ∨
      t.kindAt names = none ∧ t'.kindAt names = some .directory ∧ c.Above t names := by
  cases c with
  | output template o =>
    obtain ⟨above, habove, hw⟩ := exists_of_putOutput (putOutput_of_apply h)
    have hsame : t'.kindAt names = above.kindAt names := by
      rw [Tree.kindAt_write hw, if_neg]
      rw [Tree.resolve, habove.here]
      exact hn
    by_cases hold : t.kindAt names = none
    · rcases habove.new names hold with hnone | ⟨hdir, q, hq⟩
      · exact Or.inl (by rw [hsame, hnone, hold])
      · exact Or.inr ⟨hold, by rw [hsame, hdir], q, hq⟩
    · exact Or.inl (by rw [hsame, habove.kept names hold])
  | kept parent name node =>
    obtain ⟨hv, rfl⟩ := graft_of_apply h
    have hbeside : ¬parent ++ [name] <+: names := hn
    exact Or.inl (by rw [Tree.kindAt_graft hv, if_neg hbeside])

/-- A change leaves every directory where it is. -/
theorem sameDirs_apply {c : Change} (h : c.apply t = some t') : SameDirs t t' := by
  cases c with
  | output template o =>
    obtain ⟨above, habove, hw⟩ := exists_of_putOutput (putOutput_of_apply h)
    refine ⟨here_apply h, fun names hdir => ?_⟩
    have habove' : above.kindAt names = some .directory := by
      rw [habove.kept names (by rw [hdir]; simp), hdir]
    rw [Tree.kindAt_write hw, if_neg, habove']
    intro hplace
    rw [hplace] at habove'
    exact Tree.kindAt_of_write hw habove'
  | kept parent name node =>
    obtain ⟨hv, rfl⟩ := graft_of_apply h
    exact hv.sameDirs node

/-! Changes in a row. -/

theorem touches_congr {c : Change} (h : t'.here = t.here) :
    c.Touches t' names ↔ c.Touches t names := by
  cases c with
  | output => simp only [Change.Touches, Tree.resolve, h]
  | kept => exact Iff.rfl

theorem above_congr {c : Change} (h : t'.here = t.here) :
    c.Above t' names ↔ c.Above t names := by
  cases c with
  | output => simp only [Change.Above, Tree.resolve, h]
  | kept => exact Iff.rfl

theorem sameDirs_applyAll {cs : List Change} (h : applyAll t cs = some after) :
    SameDirs t after := by
  induction cs generalizing t with
  | nil =>
    cases h
    exact .refl _
  | cons c rest ih =>
    obtain ⟨mid, hc, hrest⟩ := Option.bind_eq_some_iff.mp h
    exact (sameDirs_apply hc).trans (ih hrest)

/-- A place that no change fills is as it was, or it is a new directory above an output. -/
theorem kindAt_applyAll {cs : List Change} (h : applyAll t cs = some after)
    (hn : ∀ c ∈ cs, ¬c.Touches t names) : after.kindAt names = t.kindAt names ∨
      t.kindAt names = none ∧ after.kindAt names = some .directory ∧
        ∃ c ∈ cs, c.Above t names := by
  induction cs generalizing t with
  | nil =>
    cases h
    exact Or.inl rfl
  | cons c rest ih =>
    obtain ⟨mid, hc, hrest⟩ := Option.bind_eq_some_iff.mp h
    have hhere := here_apply hc
    have hfirst := kindAt_apply hc (hn c (by simp))
    have hlater := ih hrest fun d hd ht =>
      hn d (List.mem_cons_of_mem _ hd) ((touches_congr hhere).mp ht)
    rcases hlater with hkept | ⟨hnone, hdir, d, hd, habove⟩
    · rw [hkept]
      rcases hfirst with hfirst | ⟨hnone, hdir, habove⟩
      · exact Or.inl hfirst
      · exact Or.inr ⟨hnone, hdir, c, by simp, habove⟩
    · rcases hfirst with hfirst | ⟨_, hmade, _⟩
      · refine Or.inr ⟨by rw [← hfirst, hnone], hdir, d, List.mem_cons_of_mem _ hd, ?_⟩
        exact (above_congr hhere).mp habove
      · rw [hnone] at hmade
        cases hmade

/-- The last output at a place is what lies there in the end. -/
theorem kindAt_of_last {before later : List Change}
    (h : applyAll t (before ++ .output template o :: later) = some after)
    (hn : ∀ c ∈ later, ¬c.Touches t (t.resolve (outputPath template o)).names) :
    after.kindAt (t.resolve (outputPath template o)).names =
      some (.file (.ofText o.content)) := by
  rw [applyAll_append] at h
  obtain ⟨mid, hbefore, h⟩ := Option.bind_eq_some_iff.mp h
  obtain ⟨made, hput, hlater⟩ := Option.bind_eq_some_iff.mp h
  have hmid : mid.here = t.here := (sameDirs_applyAll hbefore).here
  have hmade : made.here = t.here := (here_apply hput).trans hmid
  have hfile := kindAt_putOutput (putOutput_of_apply hput)
  have hplace : mid.resolve (outputPath template o) = t.resolve (outputPath template o) :=
    Tree.resolve_congr hmid _
  rw [hplace] at hfile
  rcases kindAt_applyAll hlater fun c hc ht => hn c hc ((touches_congr hmade).mp ht) with
    hkept | ⟨hnone, _⟩
  · rw [hkept, hfile]
  · rw [hfile] at hnone
    cases hnone

end Stencil.Generation
