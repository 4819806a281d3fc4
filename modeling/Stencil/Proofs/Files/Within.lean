import Mathlib.Data.List.Induction
import Stencil.Proofs.Files.Graft

/-!
Operations inside of something that was put at a free name. They do there what they do on a tree of
its own, whatever lies around.
-/
namespace Stencil.Files

/-- A node as a tree of its own. -/
def Node.alone (node : Node) : Tree := ⟨node, ⟨.root, []⟩⟩

/-- A place below some names. -/
def Place.below (front : List String) : Place → Place
  | .node names n => .node (front ++ names) n
  | .free parent name => .free (front ++ parent) name

/-- What lies below a name in the directory at a path. -/
def Path.inner (p : Path) (name : String) (rel : List String) : Path :=
  ⟨p.anchor, p.names ++ name :: rel⟩

theorem Path.inner_child (p : Path) (name x : String) (rel : List String) :
    (p.inner name rel).child x = p.inner name (rel ++ [x]) := by simp [inner, child]

theorem Path.inner_parent (p : Path) (name x : String) (rel : List String) :
    (p.inner name (rel ++ [x])).parent = p.inner name rel := by
  have hlast : p.names ++ name :: (rel ++ [x]) = (p.names ++ name :: rel) ++ [x] := by simp
  rw [inner, parent, hlast, List.dropLast_concat, inner]

namespace Tree

variable {t : Tree} {p : Path} {d : Data} {parent rel : List String} {name : String} {node : Node}

/-- Names without double dots lead as far from anywhere. -/
theorem step_below {root root' : Node} {back back' xs : List String} (hx : ".." ∉ xs) :
    step root (back' ++ back) node xs =
      (step root' back' node xs).map (Place.below back.reverse) := by
  induction xs generalizing back' node with
  | nil => simp [step, Place.below, Except.map]
  | cons x rest ih =>
    simp only [List.mem_cons, not_or] at hx
    simp only [step, beq_iff_eq, Ne.symm hx.1, if_false]
    split
    · rfl
    · split
      · rfl
      · cases node.child? x with
        | some c => exact @ih c (x :: back') hx.2
        | none =>
          dsimp only
          split
          · simp [Place.below, Except.map]
          · rfl

theorem eq_of_makeDir_error {e : FileError} (h : t.makeDir p = .error e) : e = ⟨e.fault, p⟩ := by
  simp only [makeDir] at h
  split at h <;> cases h <;> rfl

/-- What an operation inside has made of a tree. -/
def regrafted (t : Tree) (parent : List String) (name : String) (q : Path) :
    Except FileError Tree → Except FileError Tree
  | .ok made => .ok (t.graft parent name made.root)
  | .error e => .error ⟨e.fault, q⟩

section Inner

variable (hf : t.Free p parent name) (hr : ".." ∉ rel)
include hf hr

theorem Free.locate_inner : (t.graft parent name node).locate (p.inner name rel) =
    (node.alone.locate ⟨.root, rel⟩).map (Place.below (parent ++ [name])) := by
  have hself := hf.locate_graft node
  have hwalk : (if (p.inner name rel).absolute then (p.inner name rel).names
      else (t.graft parent name node).here.names ++ (p.inner name rel).names) =
      (if (p.child name).absolute then (p.child name).names
        else (t.graft parent name node).here.names ++ (p.child name).names) ++ rel := by
    simp only [Path.inner, Path.child, Path.absolute]
    by_cases ha : (p.anchor != .here) = true
    · simp [ha]
    · simp [ha]
  unfold Tree.locate at hself ⊢
  rw [hwalk, step_append hself]
  have h : step (t.graft parent name node).root ([] ++ (parent ++ [name]).reverse) node rel =
      (step node.alone.root [] node rel).map (Place.below (parent ++ [name]).reverse.reverse) :=
    step_below hr
  rw [List.nil_append, List.reverse_reverse] at h
  exact h

theorem Free.node_inner : (t.graft parent name node).node (p.inner name rel) =
    (node.alone.node ⟨.root, rel⟩).mapError fun e => ⟨e.fault, p.inner name rel⟩ := by
  simp only [Tree.node, hf.locate_inner hr]
  cases node.alone.locate ⟨.root, rel⟩ with
  | error f => rfl
  | ok pl => cases pl <;> rfl

theorem Free.write_inner : (t.graft parent name node).write (p.inner name rel) d =
    t.regrafted parent name (p.inner name rel) (node.alone.write ⟨.root, rel⟩ d) := by
  obtain ⟨entries, hdir, _⟩ := hf.vacant
  simp only [write, hf.locate_inner hr]
  cases node.alone.locate ⟨.root, rel⟩ with
  | error f => rfl
  | ok pl =>
    cases pl with
    | node ns n =>
      cases n with
      | dir es => rfl
      | file old =>
        simp only [Except.map, Place.below, regrafted, graft, List.append_assoc,
          List.singleton_append]
        rw [Node.put_put hdir]
        rfl
    | free par x =>
      simp only [Except.map, Place.below, regrafted, graft, List.append_assoc, List.cons_append]
      rw [Node.put_put hdir]
      rfl

theorem Free.makeDir_inner : (t.graft parent name node).makeDir (p.inner name rel) =
    t.regrafted parent name (p.inner name rel) (node.alone.makeDir ⟨.root, rel⟩) := by
  obtain ⟨entries, hdir, _⟩ := hf.vacant
  simp only [makeDir, hf.locate_inner hr]
  cases node.alone.locate ⟨.root, rel⟩ with
  | error f => rfl
  | ok pl =>
    cases pl with
    | node ns n => rfl
    | free par x =>
      simp only [Except.map, Place.below, regrafted, graft, List.append_assoc, List.cons_append]
      rw [Node.put_put hdir]
      rfl

theorem Free.isDir_inner : (t.graft parent name node).isDir (p.inner name rel) =
    (node.alone.isDir ⟨.root, rel⟩).mapError fun e => ⟨e.fault, p.inner name rel⟩ := by
  simp only [isDir, hf.node_inner hr]
  cases node.alone.node ⟨.root, rel⟩ with
  | ok n => rfl
  | error e =>
    simp only [Except.mapError]
    split <;> rfl

theorem Free.exists_inner : (t.graft parent name node).exists (p.inner name rel) =
    (node.alone.exists ⟨.root, rel⟩).mapError fun e => ⟨e.fault, p.inner name rel⟩ := by
  simp only [Tree.exists, hf.node_inner hr]
  cases node.alone.node ⟨.root, rel⟩ with
  | ok n => rfl
  | error e =>
    simp only [Except.mapError]
    split <;> rfl

theorem Free.acceptDir_inner (f : Fault) :
    (t.graft parent name node).acceptDir (p.inner name rel) ⟨f, p.inner name rel⟩ =
      t.regrafted parent name (p.inner name rel)
        (node.alone.acceptDir ⟨.root, rel⟩ ⟨f, ⟨.root, rel⟩⟩) := by
  simp only [acceptDir, hf.isDir_inner hr]
  cases node.alone.isDir ⟨.root, rel⟩ with
  | error e => rfl
  | ok b => cases b <;> rfl

/-- Making a directory where it may be already. -/
theorem Free.ensureDir_inner :
    (match (t.graft parent name node).makeDir (p.inner name rel) with
      | .ok made => .ok made
      | .error e => (t.graft parent name node).acceptDir (p.inner name rel) e) =
    t.regrafted parent name (p.inner name rel)
      (match node.alone.makeDir ⟨.root, rel⟩ with
        | .ok made => .ok made
        | .error e => node.alone.acceptDir ⟨.root, rel⟩ e) := by
  rw [hf.makeDir_inner hr]
  cases hmake : node.alone.makeDir ⟨.root, rel⟩ with
  | ok made => rfl
  | error e =>
    rw [eq_of_makeDir_error hmake]
    exact hf.acceptDir_inner hr e.fault

end Inner

theorem makeDirsFuel_succ (fuel : Nat) (t : Tree) (p : Path) : makeDirsFuel (fuel + 1) t p =
    match t.makeDir p with
    | .ok made => .ok made
    | .error e =>
      if e.fault == .missing && !p.names.isEmpty then
        (makeDirsFuel fuel t p.parent).bind fun above =>
          match above.makeDir p with
          | .ok made => .ok made
          | .error e => above.acceptDir p e
      else t.acceptDir p e := rfl

/-- The paths above a path inside end at one that is there. An error may name any of them. -/
theorem Free.makeDirs_inner (hf : t.Free p parent name) (node : Node) (hr : ".." ∉ rel) :
    ∃ q, (t.graft parent name node).makeDirs (p.inner name rel) =
      t.regrafted parent name q (node.alone.makeDirs ⟨.root, rel⟩) := by
  have main : ∀ (rel : List String) (fuel : Nat), ".." ∉ rel → rel.length < fuel →
      ∃ q, makeDirsFuel fuel (t.graft parent name node) (p.inner name rel) =
        t.regrafted parent name q (makeDirsFuel (rel.length + 1) node.alone ⟨.root, rel⟩) := by
    intro rel
    induction rel using List.reverseRecOn with
    | nil =>
      intro fuel hr hl
      obtain ⟨fuel, rfl⟩ : ∃ n, fuel = n + 1 := ⟨fuel - 1, by simp at hl; omega⟩
      have hself : node.alone.makeDir ⟨.root, []⟩ = .error ⟨.exists, ⟨.root, []⟩⟩ := rfl
      refine ⟨p.inner name [], ?_⟩
      rw [makeDirsFuel_succ, hf.makeDir_inner hr, List.length_nil, makeDirsFuel_succ, hself]
      exact hf.acceptDir_inner hr .exists
    | append_singleton rel x ih =>
      intro fuel hr hl
      rw [List.length_append, List.length_singleton] at hl ⊢
      obtain ⟨fuel, rfl⟩ : ∃ n, fuel = n + 1 := ⟨fuel - 1, by omega⟩
      have hrel : ".." ∉ rel := fun h => hr (by simp [h])
      have hparent : (⟨.root, rel ++ [x]⟩ : Path).parent = ⟨.root, rel⟩ := by
        simp [Path.parent]
      have hnames : (p.inner name (rel ++ [x])).names.isEmpty = false := by simp [Path.inner]
      have halone : (⟨.root, rel ++ [x]⟩ : Path).names.isEmpty = false := by simp
      obtain ⟨q, hq⟩ := ih fuel hrel (by omega)
      rw [makeDirsFuel_succ, makeDirsFuel_succ, hf.makeDir_inner hr, Path.inner_parent, hparent,
        hnames, halone, hq]
      cases hmake : node.alone.makeDir ⟨.root, rel ++ [x]⟩ with
      | ok made => exact ⟨q, rfl⟩
      | error e =>
        rw [eq_of_makeDir_error hmake]
        dsimp only [regrafted]
        split
        · cases habove : makeDirsFuel (rel.length + 1) node.alone ⟨.root, rel⟩ with
          | error e => exact ⟨q, rfl⟩
          | ok above =>
            have hsame : above = above.root.alone := by
              obtain ⟨root, here⟩ := above
              have hhere := (makeDirsFuel_grown habove).here
              cases hhere
              rfl
            rw [hsame]
            exact ⟨_, hf.ensureDir_inner hr⟩
        · exact ⟨_, hf.acceptDir_inner hr e.fault⟩
  exact main rel _ hr (by simp [Path.inner]; omega)

end Tree
end Stencil.Files
