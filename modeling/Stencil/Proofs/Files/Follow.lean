import Stencil.Proofs.Files.Writing

/-!
Following names without double dots. They lead along the directories that they name, so that what
they lead to can be told from what lies at each of their beginnings; where a tree has grown, what
was missing is missing still, or it is a new directory.
-/
namespace Stencil.Files

namespace Node

variable {root node node' n : Node} {names : List String} {d : Data}

/-- What names without double dots lead to. -/
def follow : Node → List String → Except Fault Node
  | node, [] => .ok node
  | file _, _ :: _ => .error .notDirectory
  | dir entries, name :: rest =>
    if name.utf8ByteSize > maxNameBytes then .error .nameTooLong
    else match entries.lookup name with
      | some c => c.follow rest
      | none => .error .missing

theorem follow_eq_ok_iff : node.follow names = .ok n ↔
    node.get? names = some n ∧ (∀ x ∈ names, x.utf8ByteSize ≤ maxNameBytes) := by
  induction names generalizing node with
  | nil => simp [follow, get?]
  | cons x rest ih =>
    cases node with
    | file => simp [follow, get?, child?]
    | dir entries =>
      simp only [follow, get?, child?, List.forall_mem_cons]
      by_cases hx : x.utf8ByteSize > maxNameBytes
      · simp [hx, Nat.not_le.mpr hx]
      · rw [if_neg hx]
        cases entries.lookup x with
        | none => simp
        | some c => simp [ih, Nat.le_of_not_lt hx]

theorem follow_fault {f : Fault} (h : node.follow names = .error f) :
    f = .missing ∨ f = .notDirectory ∨ f = .nameTooLong := by
  induction names generalizing node with
  | nil => cases h
  | cons x rest ih =>
    cases node with
    | file =>
      cases h
      exact Or.inr (Or.inl rfl)
    | dir entries =>
      rw [follow] at h
      split at h
      · cases h
        exact Or.inr (Or.inr rfl)
      · split at h
        · exact ih h
        · cases h
          exact Or.inl rfl

/-- Where names lead to nothing, nothing lies, unless one of them is too long. -/
theorem kindAt_of_follow_fault {f : Fault} (h : node.follow names = .error f)
    (hf : f ≠ .nameTooLong) : node.kindAt names = none := by
  induction names generalizing node with
  | nil => cases h
  | cons x rest ih =>
    cases node with
    | file => rfl
    | dir entries =>
      rw [follow] at h
      rw [kindAt_dir_cons]
      split at h
      · cases h
        exact absurd rfl hf
      · split at h
        · rename_i c hc
          rw [hc]
          exact ih h
        · rename_i hc
          rw [hc]
          rfl

/-- More names do not lead further. -/
theorem follow_append {f : Fault} (h : node.follow names = .error f) (more : List String) :
    node.follow (names ++ more) = .error f := by
  induction names generalizing node with
  | nil => cases h
  | cons x rest ih =>
    cases node with
    | file => exact h
    | dir entries =>
      rw [follow] at h
      rw [List.cons_append, follow]
      split at h
      · rename_i hl
        rw [if_pos hl, ← h]
      · rename_i hl
        rw [if_neg hl]
        cases hc : entries.lookup x with
        | some c =>
          rw [hc] at h
          exact ih h
        | none =>
          rw [hc] at h
          exact h

/-- More names lead on from where the first ones end. -/
theorem follow_append_ok (h : node.follow names = .ok n) (more : List String) :
    node.follow (names ++ more) = n.follow more := by
  induction names generalizing node with
  | nil =>
    cases h
    rfl
  | cons x rest ih =>
    cases node with
    | file => cases h
    | dir entries =>
      rw [follow] at h
      rw [List.cons_append, follow]
      split at h
      · cases h
      · rename_i hl
        rw [if_neg hl]
        cases hc : entries.lookup x with
        | some c =>
          rw [hc] at h
          exact ih h
        | none =>
          rw [hc] at h
          cases h

/-- A directory on the way along some names that the next of them is not too long for. -/
def Passable (node : Node) (names q : List String) : Prop :=
  node.kindAt q = some .directory ∧ ∀ x, q ++ [x] <+: names → x.utf8ByteSize ≤ maxNameBytes

theorem Passable.child {x : String} {rest q : List String} {entries : List (String × Node)}
    {c : Node} (h : Passable (dir entries) (x :: rest) (x :: q)) (hc : entries.lookup x = some c) :
    Passable c rest q := by
  refine ⟨?_, fun y hy => h.2 y (by simpa using hy)⟩
  rw [← h.1, kindAt_dir_cons, hc]
  rfl

/-- Names through nothing but directories end at a directory or at nothing. -/
private theorem follow_of_dirs (hdir : node.kindAt [] = some .directory)
    (hk : ∀ q, q <+: names → node.kindAt q = none ∨ Passable node names q) :
    node.follow names = .error .missing ∨ ∃ entries, node.follow names = .ok (dir entries) := by
  induction names generalizing node with
  | nil =>
    obtain ⟨entries, h⟩ := exists_dir_of_kindAt hdir
    cases h
    exact Or.inr ⟨entries, rfl⟩
  | cons x rest ih =>
    cases node with
    | file => cases hdir
    | dir entries =>
      have hx : x.utf8ByteSize ≤ maxNameBytes := by
        rcases hk [] (by simp) with h | h
        · cases h
        · exact h.2 x (by simp)
      rw [follow, if_neg (Nat.not_lt.mpr hx)]
      cases hc : entries.lookup x with
      | none => exact Or.inl rfl
      | some c =>
        have hat : ∀ q, q <+: rest → c.kindAt q = none ∨ Passable c rest q := by
          intro q hq
          refine (hk (x :: q) (by simpa using hq)).imp (fun h => ?_) fun h => h.child hc
          rwa [kindAt_dir_cons, hc] at h
        refine ih ((hat [] (by simp)).resolve_left ?_).1 hat
        exact Option.some_ne_none _

/-- A node that has grown along some names: what was there is there, and only directories are new,
which the names lead through. -/
structure GrownAlong (names : List String) (node node' : Node) : Prop where
  dirs : ∀ q, q <+: names → node.kindAt q = some .directory → node'.kindAt q = some .directory
  files : ∀ q d, q <+: names → node.kindAt q = some (.file d) →
    ∃ d', node'.kindAt q = some (.file d')
  new : ∀ q, q <+: names → node.kindAt q = none → node'.kindAt q = none ∨ Passable node' names q

theorem GrownAlong.child {x : String} {rest : List String} {entries entries' : List (String × Node)}
    {c c' : Node} (h : GrownAlong (x :: rest) (dir entries) (dir entries'))
    (hc : entries.lookup x = some c) (hc' : entries'.lookup x = some c') :
    GrownAlong rest c c' := by
  have hat : ∀ q, (dir entries).kindAt (x :: q) = c.kindAt q := fun q => by
    rw [kindAt_dir_cons, hc]
    rfl
  have hat' : ∀ q, (dir entries').kindAt (x :: q) = c'.kindAt q := fun q => by
    rw [kindAt_dir_cons, hc']
    rfl
  refine ⟨fun q hq hd => ?_, fun q d hq hf => ?_, fun q hq hn => ?_⟩
  · rw [← hat']
    exact h.dirs _ (by simpa using hq) (by rw [hat, hd])
  · rw [← hat']
    exact h.files _ d (by simpa using hq) (by rw [hat, hf])
  · rw [← hat']
    exact (h.new _ (by simpa using hq) (by rw [hat, hn])).imp id fun h => h.child hc'

/-- What lies in a directory on the way lies there in the grown one as well. -/
private theorem GrownAlong.exists_child {x : String} {rest : List String}
    {entries entries' : List (String × Node)} {c : Node}
    (h : GrownAlong (x :: rest) (dir entries) (dir entries')) (hc : entries.lookup x = some c) :
    ∃ c', entries'.lookup x = some c' := by
  have hat : (dir entries).kindAt [x] = some c.kind := by
    rw [kindAt_dir_cons, hc]
    rfl
  have hsome : ∃ k, (dir entries').kindAt [x] = some k := by
    cases c with
    | file d =>
      obtain ⟨d', hd'⟩ := h.files [x] d (by simp) hat
      exact ⟨_, hd'⟩
    | dir es => exact ⟨_, h.dirs [x] (by simp) hat⟩
  obtain ⟨k, hk⟩ := hsome
  rw [kindAt_dir_cons] at hk
  obtain ⟨c', hc', _⟩ := Option.bind_eq_some_iff.mp hk
  exact ⟨c', hc'⟩

/-- What was missing is missing still, or it is a new directory. -/
theorem GrownAlong.follow_missing (h : GrownAlong names node node')
    (hf : node.follow names = .error .missing) :
    node'.follow names = .error .missing ∨ ∃ entries, node'.follow names = .ok (dir entries) := by
  induction names generalizing node node' with
  | nil => cases hf
  | cons x rest ih =>
    cases node with
    | file => cases hf
    | dir entries =>
      obtain ⟨entries', hroot⟩ := exists_dir_of_kindAt (h.dirs [] (by simp) rfl)
      cases hroot
      rw [follow] at hf
      split at hf
      · cases hf
      · rename_i hl
        rw [follow, if_neg hl]
        cases hx : entries.lookup x with
        | some c =>
          obtain ⟨c', hc'⟩ := h.exists_child hx
          rw [hx] at hf
          rw [hc']
          exact ih (h.child hx hc') hf
        | none =>
          cases hx' : entries'.lookup x with
          | none => exact Or.inl rfl
          | some c' =>
            have hnone : ∀ q, (dir entries).kindAt (x :: q) = none := fun q => by
              rw [kindAt_dir_cons, hx]
              rfl
            have hat' : ∀ q, (dir entries').kindAt (x :: q) = c'.kindAt q := fun q => by
              rw [kindAt_dir_cons, hx']
              rfl
            have hnew : ∀ q, q <+: rest → c'.kindAt q = none ∨ Passable c' rest q := by
              intro q hq
              refine (h.new (x :: q) (by simpa using hq) (hnone q)).imp (fun h => ?_)
                fun h => h.child hx'
              rwa [← hat']
            refine follow_of_dirs ((hnew [] (by simp)).resolve_left ?_).1 hnew
            exact Option.some_ne_none _

/-- A file that stands in the way does so still. -/
theorem GrownAlong.follow_notDirectory (h : GrownAlong names node node')
    (hf : node.follow names = .error .notDirectory) :
    node'.follow names = .error .notDirectory := by
  induction names generalizing node node' with
  | nil => cases hf
  | cons x rest ih =>
    cases node with
    | file d =>
      obtain ⟨d', hd'⟩ := h.files [] d (by simp) rfl
      cases node' with
      | file => rfl
      | dir => cases hd'
    | dir entries =>
      obtain ⟨entries', hroot⟩ := exists_dir_of_kindAt (h.dirs [] (by simp) rfl)
      cases hroot
      rw [follow] at hf
      split at hf
      · cases hf
      · rename_i hl
        rw [follow, if_neg hl]
        cases hx : entries.lookup x with
        | some c =>
          obtain ⟨c', hc'⟩ := h.exists_child hx
          rw [hx] at hf
          rw [hc']
          exact ih (h.child hx hc') hf
        | none =>
          rw [hx] at hf
          cases hf

end Node

end Stencil.Files
