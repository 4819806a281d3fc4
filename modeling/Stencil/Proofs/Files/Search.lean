import Stencil.Proofs.Files.Find
import Stencil.Proofs.Files.Graft

/-!
Searching a directory after a change. A file that is written, or a directory that is made, is not
seen by a search for a suffix that its name does not have; what the search finds stays the same,
here and in every directory below.
-/
namespace Stencil.Files

/-! Sorting and leaving out. -/

section Sorting

variable {α : Type} {le : α → α → Bool}

/-- Where sorting puts an element: behind what is below it. -/
private theorem exists_mergeSort_cons
    (trans : ∀ a b c, le a b = true → le b c = true → le a c = true)
    (total : ∀ a b, (le a b || le b a) = true) (a : α) (xs : List α) :
    ∃ below above, (a :: xs).mergeSort le = below ++ a :: above ∧
      xs.mergeSort le = below ++ above ∧ (∀ b ∈ below, le a b = false) ∧
      ∀ b ∈ above, le a b = true := by
  obtain ⟨below, above, hsorted, hrest, hbelow⟩ := List.mergeSort_cons trans total a xs
  have hpair := List.pairwise_mergeSort trans total (a :: xs)
  rw [hsorted] at hpair
  exact ⟨below, above, hsorted, hrest, fun b hb => by simpa using hbelow b hb,
    (List.pairwise_cons.mp (List.pairwise_append.mp hpair).2.1).1⟩

private theorem mergeSort_cons_eq (trans : ∀ a b c, le a b = true → le b c = true → le a c = true)
    (total : ∀ a b, (le a b || le b a) = true) (a : α) (xs ys zs : List α)
    (h : xs.mergeSort le = ys ++ zs) (hy : ∀ b ∈ ys, le a b = false)
    (hz : ∀ b ∈ zs, le a b = true) : (a :: xs).mergeSort le = ys ++ a :: zs := by
  obtain ⟨below, above, hsorted, hrest, hbelow, habove⟩ := exists_mergeSort_cons trans total a xs
  have hsplit : ∀ us vs : List α, (∀ b ∈ us, le a b = false) → (∀ b ∈ vs, le a b = true) →
      (us ++ vs).takeWhile (fun b => !le a b) = us := by
    intro us vs hu hv
    rw [List.takeWhile_append_of_pos fun b hb => by simp [hu b hb]]
    cases vs with
    | nil => simp
    | cons v vs => simp [hv v (by simp)]
  rw [hrest] at h
  have hfront : below = ys := by
    rw [← hsplit below above hbelow habove, h, hsplit ys zs hy hz]
  subst hfront
  rw [hsorted, List.append_cancel_left h]

/-- What is left out may be left out before or after sorting. -/
theorem filter_mergeSort (trans : ∀ a b c, le a b = true → le b c = true → le a c = true)
    (total : ∀ a b, (le a b || le b a) = true) (p : α → Bool) (xs : List α) :
    (xs.mergeSort le).filter p = (xs.filter p).mergeSort le := by
  induction xs with
  | nil => simp
  | cons a xs ih =>
    obtain ⟨below, above, hsorted, hrest, hbelow, habove⟩ := exists_mergeSort_cons trans total a xs
    rw [hrest, List.filter_append] at ih
    rw [hsorted, List.filter_append]
    cases hp : p a with
    | false =>
      rw [List.filter_cons_of_neg (by simp [hp]), List.filter_cons_of_neg (by simp [hp]), ih]
    | true =>
      rw [List.filter_cons_of_pos hp, List.filter_cons_of_pos hp]
      exact (mergeSort_cons_eq trans total a _ _ _ ih.symm
        (fun b hb => hbelow b (List.mem_filter.mp hb).1)
        fun b hb => habove b (List.mem_filter.mp hb).1).symm

theorem filter_byName {β : Type} (p : String × β → Bool) (xs : List (String × β)) :
    (byName xs).filter p = byName (xs.filter p) :=
  filter_mergeSort (by simpa using fun a _ b _ c _ hab hbc => String.le_trans hab hbc)
    (by simpa using fun a _ b _ => String.le_total a b) p xs

end Sorting

/-! Searching after a change. -/

section Find

variable {root new c : Node} {entries : List (String × Node)} {name suffix : String}
  {exclude : String → Bool} {parent : List String}

/-- What may be put where something lies: a file over a file, or anything without files of its own
where nothing is. -/
inductive Fits : Node → Option Node → Prop where
  | overwrite (d e : Data) : Fits (.file d) (some (.file e))
  | file (d : Data) : Fits (.file d) none
  | directory : Fits (.dir []) none

theorem putEntry_of_free (h : entries.lookup name = none) :
    Node.putEntry name new entries = entries ++ [(name, new)] := by
  induction entries with
  | nil => rfl
  | cons e rest ih =>
    obtain ⟨n, old⟩ := e
    by_cases hn : name = n
    · simp [hn] at h
    · rw [List.lookup_cons, beq_eq_false_iff_ne.mpr hn] at h
      rw [Node.putEntry, if_neg (by simpa using Ne.symm hn), ih h, List.cons_append]

/-- Something else of the same sort under a name. -/
private theorem ownFiles_putEntry (h : entries.lookup name = some c) (hd : new.isDir = c.isDir) :
    ownFiles suffix (Node.putEntry name new entries) = ownFiles suffix entries := by
  induction entries with
  | nil => simp at h
  | cons e rest ih =>
    obtain ⟨n, old⟩ := e
    by_cases hn : name = n
    · subst hn
      simp only [List.lookup_cons, beq_self_eq_true, Option.some.injEq] at h
      subst h
      simp only [Node.putEntry, beq_self_eq_true, if_true, ownFiles, List.filter_cons, hd]
      split <;> simp
    · rw [List.lookup_cons, beq_eq_false_iff_ne.mpr hn] at h
      have hrest := ih h
      simp only [ownFiles] at hrest
      rw [Node.putEntry, if_neg (by simpa using Ne.symm hn)]
      simp only [ownFiles, List.filter_cons]
      split <;> simp [hrest]

private theorem findBelow_putEntry (h : entries.lookup name = some c) (hd : new.isDir = c.isDir)
    (hf : new.find suffix exclude = c.find suffix exclude) :
    findBelow suffix exclude (Node.putEntry name new entries) =
      findBelow suffix exclude entries := by
  induction entries with
  | nil => simp at h
  | cons e rest ih =>
    obtain ⟨n, old⟩ := e
    by_cases hn : name = n
    · subst hn
      simp only [List.lookup_cons, beq_self_eq_true, Option.some.injEq] at h
      subst h
      simp only [Node.putEntry, beq_self_eq_true, if_true, findBelow, hd, hf]
    · rw [List.lookup_cons, beq_eq_false_iff_ne.mpr hn] at h
      rw [Node.putEntry, if_neg (by simpa using Ne.symm hn), findBelow, findBelow, ih h]

private theorem find_putEntry (h : entries.lookup name = some c) (hd : new.isDir = c.isDir)
    (hf : new.find suffix exclude = c.find suffix exclude) :
    (Node.dir (Node.putEntry name new entries)).find suffix exclude =
      (Node.dir entries).find suffix exclude := by
  rw [Node.find, Node.find, ownFiles_putEntry h hd, findBelow_putEntry h hd hf]

private theorem findBelow_append (xs ys : List (String × Node)) :
    findBelow suffix exclude (xs ++ ys) =
      findBelow suffix exclude xs ++ findBelow suffix exclude ys := by
  induction xs with
  | nil => rfl
  | cons e rest ih =>
    obtain ⟨n, node⟩ := e
    rw [List.cons_append, findBelow, findBelow, ih]
    split <;> rfl

/-- What was found below a directory, without the directories in which nothing was. -/
private theorem flatMap_byName (xs : List (String × List (List String))) :
    ((byName xs).flatMap fun (n, found) => found.map (n :: ·)) =
      (byName (xs.filter fun e => !e.2.isEmpty)).flatMap fun (n, found) => found.map (n :: ·) := by
  rw [← filter_byName]
  induction byName xs with
  | nil => rfl
  | cons e rest ih =>
    obtain ⟨n, found⟩ := e
    cases found with
    | nil => simpa using ih
    | cons names more => simp [ih]

/-- A new name without files that match is not seen. -/
private theorem find_append (hs : matchesSuffix suffix name = false)
    (hn : new.find suffix exclude = []) :
    (Node.dir (entries ++ [(name, new)])).find suffix exclude =
      (Node.dir entries).find suffix exclude := by
  have hown : ownFiles suffix (entries ++ [(name, new)]) = ownFiles suffix entries := by
    simp [ownFiles, hs]
  have hbelow : (findBelow suffix exclude [(name, new)]).filter (fun e => !e.2.isEmpty) = [] := by
    simp only [findBelow, hn]
    split <;> simp
  rw [Node.find, Node.find, hown, findBelow_append, flatMap_byName, List.filter_append, hbelow,
    List.append_nil, ← flatMap_byName]

private theorem isDir_put {names : List String} (hn : names ≠ []) (hd : c.isDir = true) :
    (Node.put new names c).isDir = true := by
  cases c with
  | file => cases hd
  | dir es =>
    match names with
    | [] => exact absurd rfl hn
    | [x] => rfl
    | x :: y :: rest =>
      simp only [Node.put]
      split <;> rfl

private theorem isDir_of_get? {names : List String} (h : c.get? names = some (.dir entries)) :
    c.isDir = true := by
  cases c with
  | file => cases names <;> simp [Node.get?, Node.child?] at h
  | dir => rfl

/-- Nothing else is found where a file or a directory with another name is put. -/
theorem Node.find_put (hp : root.get? parent = some (.dir entries))
    (hfits : Fits new (entries.lookup name)) (hs : matchesSuffix suffix name = false) :
    (put new (parent ++ [name]) root).find suffix exclude = root.find suffix exclude := by
  induction parent generalizing root with
  | nil =>
    cases hp
    rw [List.nil_append, put_single]
    cases hold : entries.lookup name with
    | some c =>
      rw [hold] at hfits
      cases hfits
      exact find_putEntry hold rfl (by rw [Node.find, Node.find])
    | none =>
      rw [putEntry_of_free hold]
      refine find_append hs ?_
      rw [hold] at hfits
      cases hfits with
      | file d => rw [Node.find]
      | directory => simp [Node.find, ownFiles, findBelow, byName]
  | cons x xs ih =>
    cases root with
    | file => simp [get?, child?] at hp
    | dir es =>
      simp only [get?, child?] at hp
      obtain ⟨c, hc, hp⟩ := Option.bind_eq_some_iff.mp hp
      rw [List.cons_append, put_cons hc (by simp)]
      have hdir := isDir_of_get? hp
      exact find_putEntry hc (by rw [hdir, isDir_put (by simp) hdir]) (ih hp)

/-- Directories stay, and nothing else is found in them. -/
theorem Node.found_put (hp : root.get? parent = some (.dir entries))
    (hfits : Fits new (entries.lookup name)) {names : List String} {es : List (String × Node)}
    (h : root.get? names = some (.dir es)) :
    ∃ es', (put new (parent ++ [name]) root).get? names = some (.dir es') ∧
      ∀ suffix exclude, matchesSuffix suffix name = false →
        (Node.dir es').find suffix exclude = (Node.dir es).find suffix exclude := by
  induction parent generalizing root names with
  | nil =>
    cases hp
    rw [List.nil_append, put_single]
    cases names with
    | nil =>
      cases h
      refine ⟨_, rfl, fun suffix exclude hs => ?_⟩
      have hroot : (Node.dir entries).get? [] = some (.dir entries) := rfl
      exact Node.find_put hroot hfits hs
    | cons x rest =>
      simp only [get?, child?, lookup_putEntry] at h ⊢
      by_cases hx : x = name
      · -- What lies there is no directory and has nothing below it.
        exfalso
        rw [hx] at h
        obtain ⟨c, hc, h⟩ := Option.bind_eq_some_iff.mp h
        rw [hc] at hfits
        cases hfits
        cases rest <;> simp [get?, child?] at h
      · rw [if_neg hx]
        exact ⟨es, h, fun _ _ _ => rfl⟩
  | cons x xs ih =>
    cases root with
    | file => simp [get?, child?] at hp
    | dir below =>
      have hsome := hp
      simp only [get?, child?] at hsome
      obtain ⟨c, hc, hcp⟩ := Option.bind_eq_some_iff.mp hsome
      cases names with
      | nil =>
        cases h
        rw [List.cons_append, put_cons hc (by simp)]
        refine ⟨_, rfl, fun suffix exclude hs => ?_⟩
        rw [← put_cons hc (by simp), ← List.cons_append]
        exact Node.find_put hp hfits hs
      | cons y rest =>
        rw [List.cons_append, put_cons hc (by simp)]
        simp only [get?, child?, lookup_putEntry] at h ⊢
        by_cases hy : y = x
        · subst hy
          rw [hc, Option.bind_some] at h
          rw [if_pos rfl, Option.bind_some]
          exact ih hcp h
        · rw [if_neg hy]
          exact ⟨es, h, fun _ _ _ => rfl⟩

end Find

end Stencil.Files
