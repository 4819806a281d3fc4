import Mathlib.Data.List.Perm.Subperm

/-!
Breadth-first order over a graph that is given by its successor lists. The order is stated without
a queue: a list is in breadth-first order when it names what its own members lead to in the order
of first mention. Such a list is unique, and what is fewer steps away stands in front. A queue that
drops what it has met before, when it comes to the front, produces this order.
-/
namespace Stencil

variable {α : Type} [DecidableEq α] {next : α → List α} {start ds es done queue : List α} {a b : α}

theorem nodup_eraseDups : ∀ xs : List α, xs.eraseDups.Nodup
  | [] => by simp
  | x :: xs => by
    rw [List.eraseDups_cons, List.nodup_cons]
    refine ⟨?_, nodup_eraseDups _⟩
    intro h
    simp at h
termination_by xs => xs.length
decreasing_by exact Nat.lt_succ_of_le (List.length_filter_le _ _)

theorem eraseDups_isPrefix (xs ys : List α) : xs.eraseDups <+: (xs ++ ys).eraseDups := by
  rw [List.eraseDups_append]
  exact List.prefix_append _ _

theorem eraseDups_concat_of_mem {xs : List α} (h : a ∈ xs) :
    (xs ++ [a]).eraseDups = xs.eraseDups := by
  rw [List.eraseDups_append]
  simp [List.removeAll, h]

theorem eraseDups_concat_of_not_mem {xs : List α} (h : a ∉ xs) :
    (xs ++ [a]).eraseDups = xs.eraseDups ++ [a] := by
  rw [List.eraseDups_append]
  simp [List.removeAll, h, List.eraseDups_cons]

/-- What at most so many steps from some starting node lead to. -/
inductive Within (next : α → List α) (start : List α) : Nat → α → Prop where
  | start {n a} : a ∈ start → Within next start n a
  | step {n a b} : Within next start n a → b ∈ next a → Within next start (n + 1) b

/-- What any number of steps leads to. -/
def Reached (next : α → List α) (start : List α) (a : α) : Prop := ∃ n, Within next start n a

omit [DecidableEq α] in
theorem Reached.step (h : Reached next start a) (hb : b ∈ next a) : Reached next start b :=
  h.elim fun n h => ⟨n + 1, .step h hb⟩

omit [DecidableEq α] in
/-- Apart from the start itself, one node leads where its successors lead. -/
theorem reached_singleton_iff (h : b ≠ a) : Reached next [a] b ↔ Reached next (next a) b := by
  constructor
  · rintro ⟨n, hn⟩
    have main : ∀ n c, Within next [a] n c → c = a ∨ Reached next (next a) c := by
      intro n c hc
      induction hc with
      | start hm => exact Or.inl (by simpa using hm)
      | step _ hm ih =>
        rcases ih with rfl | ih
        · exact Or.inr ⟨0, .start hm⟩
        · exact Or.inr (ih.step hm)
    exact (main n b hn).resolve_left h
  · rintro ⟨n, hn⟩
    induction hn with
    | start hm => exact ⟨1, .step (.start (by simp)) hm⟩
    | @step n c d _ hm ih =>
      by_cases hc : c = a
      · subst c; exact ⟨1, .step (.start (by simp)) hm⟩
      · exact (ih hc).step hm

/-- A list of all that is reached, each once, in the order in which the start and then the
successors of the members mention it. -/
structure BreadthFirst (next : α → List α) (start ds : List α) : Prop where
  nodup : ds.Nodup
  exact : ∀ a, a ∈ ds ↔ Reached next start a
  order : ds = (start ++ ds.flatMap next).eraseDups
  nearest : ∀ n, ∃ near, near <+: ds ∧ ∀ a, a ∈ near ↔ Within next start n a

/-- What a part of the list mentions stands in front of what the rest mentions. -/
private theorem mentioned_isPrefix (ho : ds = (start ++ ds.flatMap next).eraseDups) {near : List α}
    (hn : near <+: ds) : (start ++ near.flatMap next).eraseDups <+: ds := by
  obtain ⟨rest, rfl⟩ := hn
  rw [ho, List.flatMap_append, ← List.append_assoc]
  exact eraseDups_isPrefix _ _

private theorem nearest_of_order (ho : ds = (start ++ ds.flatMap next).eraseDups) (n : Nat) :
    ∃ near, near <+: ds ∧ ∀ a, a ∈ near ↔ Within next start n a := by
  induction n with
  | zero =>
    refine ⟨start.eraseDups, ?_, ?_⟩
    · conv_rhs => rw [ho]
      exact eraseDups_isPrefix _ _
    · intro a
      rw [List.mem_eraseDups]
      constructor
      · exact .start
      · intro h
        cases h with
        | start hm => exact hm
  | succ n ih =>
    obtain ⟨near, hp, hm⟩ := ih
    refine ⟨_, mentioned_isPrefix ho hp, ?_⟩
    intro a
    simp only [List.mem_eraseDups, List.mem_append, List.mem_flatMap]
    constructor
    · rintro (h | ⟨b, hb, h⟩)
      · exact .start h
      · exact .step ((hm b).mp hb) h
    · intro h
      cases h with
      | start h => exact Or.inl h
      | step hb h => exact Or.inr ⟨_, (hm _).mpr hb, h⟩

/-- The order of mention makes the rest: the list is closed, and nearer nodes come first. -/
theorem BreadthFirst.of_order (ho : ds = (start ++ ds.flatMap next).eraseDups)
    (hs : ∀ a ∈ ds, Reached next start a) : BreadthFirst next start ds where
  nodup := by rw [ho]; exact nodup_eraseDups _
  exact := by
    intro a
    refine ⟨hs a, ?_⟩
    rintro ⟨n, hn⟩
    obtain ⟨near, hp, hm⟩ := nearest_of_order ho n
    exact hp.subset ((hm a).mpr hn)
  order := ho
  nearest := nearest_of_order ho

/-- A part that mentions nothing outside itself is the whole list. -/
private theorem BreadthFirst.length_le (h : BreadthFirst next start ds) (near : List α)
    (hc : ∀ a, a ∈ start ++ near.flatMap next → a ∈ near) : ds.length ≤ near.length := by
  refine (h.nodup.subperm ?_).length_le
  intro a ha
  obtain ⟨n, hn⟩ := (h.exact a).mp ha
  clear ha
  induction hn with
  | start hm => exact hc _ (List.mem_append_left _ hm)
  | step _ hm ih => exact hc _ (List.mem_append_right _ (List.mem_flatMap.mpr ⟨_, ih, hm⟩))

/-- Two such lists agree on any number of places: what the common part mentions is longer than it,
or nothing is missing. -/
private theorem BreadthFirst.take_isPrefix (h : BreadthFirst next start ds)
    (k : BreadthFirst next start es) (n : Nat) : ds.take n <+: es := by
  induction n with
  | zero => simp
  | succ n ih =>
    by_cases hshort : ds.length ≤ n
    · rw [List.take_of_length_le (by omega)] at ih ⊢
      exact ih
    · have hd := mentioned_isPrefix h.order (List.take_prefix n ds)
      have he := mentioned_isPrefix k.order ih
      have hlen : n < (start ++ (ds.take n).flatMap next).eraseDups.length := by
        by_contra hle
        have hp := List.prefix_of_prefix_length_le hd (List.take_prefix n ds)
          (by rw [List.length_take]; omega)
        have := h.length_le (ds.take n)
          (fun a ha => hp.subset (List.mem_eraseDups.mpr ha))
        rw [List.length_take] at this
        omega
      have hp := List.prefix_of_prefix_length_le (List.take_prefix (n + 1) ds) hd
        (by rw [List.length_take]; omega)
      exact hp.trans he

theorem BreadthFirst.unique (h : BreadthFirst next start ds) (k : BreadthFirst next start es) :
    ds = es := by
  have hd := h.take_isPrefix k ds.length
  have he := k.take_isPrefix h es.length
  rw [List.take_length] at hd he
  exact hd.eq_of_length_le he.length_le

/-- A queue at work: what has been taken from it, without repetitions, is what is done, and it has
been fed with the start and with the successors of what is done. -/
structure Visiting (next : α → List α) (start done queue : List α) : Prop where
  taken : ∃ taken, start ++ done.flatMap next = taken ++ queue ∧ done = taken.eraseDups
  reached : ∀ a ∈ done ++ queue, Reached next start a

theorem Visiting.init (next : α → List α) (start : List α) : Visiting next start [] start :=
  ⟨⟨[], by simp⟩, fun _ h => ⟨0, .start (by simpa using h)⟩⟩

theorem Visiting.nodup (h : Visiting next start done queue) : done.Nodup := by
  obtain ⟨taken, _, rfl⟩ := h.taken
  exact nodup_eraseDups _

/-- What was done before is dropped. -/
theorem Visiting.skip (h : Visiting next start done (a :: queue)) (ha : a ∈ done) :
    Visiting next start done queue := by
  obtain ⟨taken, he, hd⟩ := h.taken
  refine ⟨⟨taken ++ [a], by simpa using he, ?_⟩, ?_⟩
  · rw [hd, eraseDups_concat_of_mem]
    rw [hd] at ha
    exact List.mem_eraseDups.mp ha
  · intro b hb
    apply h.reached b
    rcases List.mem_append.mp hb with hb | hb
    · exact List.mem_append_left _ hb
    · exact List.mem_append_right _ (List.mem_cons_of_mem _ hb)

/-- What is new is done, and its successors go to the end of the queue. -/
theorem Visiting.visit (h : Visiting next start done (a :: queue)) (ha : a ∉ done) :
    Visiting next start (done ++ [a]) (queue ++ next a) := by
  obtain ⟨taken, he, hd⟩ := h.taken
  have hreach := h.reached a (by simp)
  refine ⟨⟨taken ++ [a], ?_, ?_⟩, ?_⟩
  · simp only [List.flatMap_append, List.flatMap_cons, List.flatMap_nil, List.append_nil]
    rw [← List.append_assoc, he]
    simp
  · rw [eraseDups_concat_of_not_mem, ← hd]
    rw [hd] at ha
    exact fun h => ha (List.mem_eraseDups.mpr h)
  · intro b hb
    simp only [List.mem_append, List.mem_singleton] at hb
    rcases hb with (hb | rfl) | hb | hb
    · exact h.reached b (List.mem_append_left _ hb)
    · exact hreach
    · exact h.reached b (List.mem_append_right _ (List.mem_cons_of_mem _ hb))
    · exact hreach.step hb

/-- Whatever is new at the front of the queue comes next in the final order. -/
theorem Visiting.next_isPrefix (h : Visiting next start done (a :: queue)) (ha : a ∉ done)
    (hb : BreadthFirst next start ds) (hp : done <+: ds) : done ++ [a] <+: ds := by
  obtain ⟨taken, he, hd⟩ := h.taken
  have hm := mentioned_isPrefix hb.order hp
  have hnew : a ∉ taken := fun h => ha (by rw [hd]; exact List.mem_eraseDups.mpr h)
  rw [he, ← List.singleton_append, ← List.append_assoc] at hm
  rw [hd, ← eraseDups_concat_of_not_mem hnew]
  exact (eraseDups_isPrefix _ _).trans hm

/-- When the queue is empty, everything is done in order. -/
theorem Visiting.breadthFirst (h : Visiting next start done []) :
    BreadthFirst next start done := by
  obtain ⟨taken, he, hd⟩ := h.taken
  apply BreadthFirst.of_order
  · rw [he, List.append_nil]
    exact hd
  · intro a ha
    exact h.reached a (by simpa using ha)

end Stencil
