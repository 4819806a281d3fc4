import Stencil.Proofs.Files.Place
import Stencil.Proofs.Result
import Stencil.Proofs.Text

/-!
What operations leave of a tree. At every place lies nothing, a directory or a file, and the place
of a path is known without the tree. Writing changes what lies at the place of its path and nothing
else; making directories adds those that are missing on the way. What is put at a free name can be
taken away again, and then nothing has changed.
-/
namespace Stencil.Files

/-- What can lie at a place. -/
inductive Kind where
  | directory
  | file (data : Data)
  deriving DecidableEq

def Node.kind : Node → Kind
  | .file d => .file d
  | .dir _ => .directory

/-- What lies at names from a node on. -/
def Node.kindAt (node : Node) (names : List String) : Option Kind := (node.get? names).map Node.kind

namespace Node

variable {root node new c : Node} {entries : List (String × Node)} {name x : String}
  {parent names more : List String}

@[simp] theorem kindAt_nil (node : Node) : node.kindAt [] = some node.kind := rfl

theorem kindAt_dir_cons (entries : List (String × Node)) (x : String) (names : List String) :
    (dir entries).kindAt (x :: names) = (entries.lookup x).bind fun c => c.kindAt names := by
  simp only [kindAt, get?, child?]
  cases entries.lookup x <;> rfl

theorem kindAt_file_cons (d : Data) (x : String) (names : List String) :
    (file d).kindAt (x :: names) = none := rfl

theorem kindAt_append (h : node.get? names = some c) :
    node.kindAt (names ++ more) = c.kindAt more := by
  rw [kindAt, get?_append, h]
  rfl

theorem exists_dir_of_kindAt (h : node.kindAt names = some .directory) :
    ∃ entries, node.get? names = some (dir entries) := by
  obtain ⟨c, hc, hk⟩ := Option.map_eq_some_iff.mp h
  cases c with
  | file => cases hk
  | dir entries => exact ⟨entries, hc⟩

/-- What lies below something lies in a directory. -/
theorem dir_of_get?_concat (h : node.get? (parent ++ [name]) = some c) :
    ∃ entries, node.get? parent = some (dir entries) ∧ entries.lookup name = some c := by
  rw [get?_concat] at h
  obtain ⟨p, hp, hc⟩ := Option.bind_eq_some_iff.mp h
  cases p with
  | file => cases hc
  | dir entries => exact ⟨entries, hp, hc⟩

theorem lookup_putEntry (name : String) (node : Node) (entries : List (String × Node))
    (x : String) : (putEntry name node entries).lookup x =
      if x = name then some node else entries.lookup x := by
  induction entries with
  | nil =>
    by_cases hx : x = name
    · simp [putEntry, hx]
    · simp [putEntry, hx, List.lookup_cons, beq_eq_false_iff_ne.mpr hx]
  | cons e rest ih =>
    obtain ⟨n, old⟩ := e
    by_cases hn : n = name
    · subst n
      by_cases hx : x = name
      · simp [putEntry, hx]
      · simp [putEntry, hx, List.lookup_cons, beq_eq_false_iff_ne.mpr hx]
    · rw [putEntry, if_neg (by simpa using hn), List.lookup_cons, List.lookup_cons, ih]
      by_cases hx : x = n
      · subst x
        simp [hn]
      · simp [beq_eq_false_iff_ne.mpr hx]

theorem putEntry_self (h : entries.lookup name = some c) : putEntry name c entries = entries := by
  induction entries with
  | nil => simp at h
  | cons e rest ih =>
    obtain ⟨n, old⟩ := e
    by_cases hn : n = name
    · subst n
      simp only [List.lookup_cons, beq_self_eq_true, Option.some.injEq] at h
      simp [putEntry, h]
    · rw [List.lookup_cons, beq_eq_false_iff_ne.mpr (Ne.symm hn)] at h
      rw [putEntry, if_neg (by simpa using hn), ih h]

theorem putEntry_putEntry (name : String) (c d : Node) (entries : List (String × Node)) :
    putEntry name c (putEntry name d entries) = putEntry name c entries := by
  induction entries with
  | nil => simp [putEntry]
  | cons e rest ih =>
    obtain ⟨n, old⟩ := e
    by_cases hn : n = name
    · simp [putEntry, hn]
    · simp [putEntry, hn, ih]

/-- A name that was not there is taken away again. -/
theorem filter_putEntry (h : entries.lookup name = none) :
    (putEntry name c entries).filter (fun e => e.1 != name) = entries := by
  induction entries with
  | nil => simp [putEntry]
  | cons e rest ih =>
    obtain ⟨n, old⟩ := e
    by_cases hn : n = name
    · simp [hn] at h
    · rw [List.lookup_cons, beq_eq_false_iff_ne.mpr (Ne.symm hn)] at h
      simp [putEntry, hn, ih h]

theorem lookup_filter_ne (name : String) (entries : List (String × Node)) (x : String) :
    (entries.filter fun e => e.1 != name).lookup x =
      if x = name then none else entries.lookup x := by
  induction entries with
  | nil => simp
  | cons e rest ih =>
    obtain ⟨n, c⟩ := e
    by_cases hn : n = name
    · rw [List.filter_cons_of_neg (by simp [hn]), ih]
      by_cases hx : x = name
      · simp [hx]
      · have hxn : x ≠ n := by rwa [hn]
        simp [hx, List.lookup_cons, beq_eq_false_iff_ne.mpr hxn]
    · rw [List.filter_cons_of_pos (by simpa using hn), List.lookup_cons, List.lookup_cons, ih]
      by_cases hx : x = n
      · simp [hx, hn]
      · simp [beq_eq_false_iff_ne.mpr hx]

theorem put_single (new : Node) (name : String) (entries : List (String × Node)) :
    put new [name] (dir entries) = dir (putEntry name new entries) := rfl

theorem put_cons (h : entries.lookup x = some c) (hm : names ≠ []) :
    put new (x :: names) (dir entries) = dir (putEntry x (put new names c) entries) := by
  cases names with
  | nil => exact absurd rfl hm
  | cons => simp only [put, h]

theorem remove_cons (h : entries.lookup x = some c) (hm : names ≠ []) :
    remove (x :: names) (dir entries) = dir (putEntry x (remove names c) entries) := by
  cases names with
  | nil => exact absurd rfl hm
  | cons => simp only [remove, h]

theorem get?_put_self (h : root.get? parent = some (dir entries)) (new : Node) :
    (put new (parent ++ [name]) root).get? (parent ++ [name]) = some new := by
  induction parent generalizing root with
  | nil =>
    cases h
    rw [List.nil_append, put_single]
    simp [get?, child?, lookup_putEntry]
  | cons x xs ih =>
    cases root with
    | file => simp [get?, child?] at h
    | dir es =>
      simp only [get?, child?] at h
      obtain ⟨c, hc, h⟩ := Option.bind_eq_some_iff.mp h
      rw [List.cons_append, put_cons hc (by simp)]
      simp only [get?, child?, lookup_putEntry, if_true, Option.bind_some]
      exact ih h

/-- Putting something into a directory changes what lies there and below. -/
theorem kindAt_put (h : root.get? parent = some (dir entries)) (names : List String) :
    (put new (parent ++ [name]) root).kindAt names =
      if parent ++ [name] <+: names then new.kindAt (names.drop (parent.length + 1))
      else root.kindAt names := by
  induction parent generalizing root names with
  | nil =>
    cases h
    rw [List.nil_append, put_single]
    cases names with
    | nil => simp [kind]
    | cons m rest =>
      rw [kindAt_dir_cons, kindAt_dir_cons, lookup_putEntry]
      by_cases hm : m = name
      · simp [hm]
      · simp [hm, Ne.symm hm]
  | cons x xs ih =>
    cases root with
    | file => simp [get?, child?] at h
    | dir es =>
      simp only [get?, child?] at h
      obtain ⟨c, hc, h⟩ := Option.bind_eq_some_iff.mp h
      rw [List.cons_append, put_cons hc (by simp)]
      cases names with
      | nil => simp [kind]
      | cons m rest =>
        rw [kindAt_dir_cons, kindAt_dir_cons, lookup_putEntry]
        by_cases hm : m = x
        · subst m
          simp only [if_true, Option.bind_some, List.cons_prefix_cons, true_and,
            List.length_cons, List.drop_succ_cons, hc]
          exact ih h rest
        · simp [hm, Ne.symm hm]

/-- What has nothing below it changes one place, where nothing was below before. -/
theorem kindAt_put_leaf (h : root.get? parent = some (dir entries))
    (hnew : ∀ x more, new.kindAt (x :: more) = none)
    (hold : ∀ x more, root.kindAt (parent ++ [name] ++ x :: more) = none) (names : List String) :
    (put new (parent ++ [name]) root).kindAt names =
      if names = parent ++ [name] then some new.kind else root.kindAt names := by
  rw [kindAt_put h]
  by_cases hp : parent ++ [name] <+: names
  · obtain ⟨more, rfl⟩ := hp
    rw [if_pos (List.prefix_append _ _), List.drop_append_of_le_length (by simp)]
    cases more with
    | nil => simp
    | cons x more =>
      rw [if_neg (by simp), hold]
      simpa using hnew x more
  · rw [if_neg hp, if_neg]
    rintro rfl
    exact hp (List.prefix_refl _)

/-- What is put below something that was put is put into it. -/
theorem put_put (h : root.get? parent = some (dir entries)) (a b : Node) (more : List String) :
    put a (parent ++ name :: more) (put b (parent ++ [name]) root) =
      put (put a more b) (parent ++ [name]) root := by
  induction parent generalizing root with
  | nil =>
    cases h
    rw [List.nil_append, List.nil_append, put_single, put_single]
    cases more with
    | nil => rw [put_single, putEntry_putEntry, put]
    | cons m rest =>
      rw [put_cons (by rw [lookup_putEntry, if_pos rfl]) (by simp), putEntry_putEntry]
  | cons x xs ih =>
    cases root with
    | file => simp [get?, child?] at h
    | dir es =>
      simp only [get?, child?] at h
      obtain ⟨c, hc, h⟩ := Option.bind_eq_some_iff.mp h
      rw [List.cons_append, List.cons_append, put_cons hc (by simp), put_cons hc (by simp),
        put_cons (by rw [lookup_putEntry, if_pos rfl]) (by simp), putEntry_putEntry, ih h]

/-- What is put at a free name and taken away again leaves nothing behind. -/
theorem remove_put (h : root.get? parent = some (dir entries)) (hf : entries.lookup name = none)
    (new : Node) : remove (parent ++ [name]) (put new (parent ++ [name]) root) = root := by
  induction parent generalizing root with
  | nil =>
    cases h
    rw [List.nil_append, put_single]
    simp only [remove, filter_putEntry hf]
  | cons x xs ih =>
    cases root with
    | file => simp [get?, child?] at h
    | dir es =>
      simp only [get?, child?] at h
      obtain ⟨c, hc, h⟩ := Option.bind_eq_some_iff.mp h
      rw [List.cons_append, put_cons hc (by simp),
        remove_cons (by rw [lookup_putEntry, if_pos rfl]) (by simp), putEntry_putEntry, ih h,
        putEntry_self hc]

/-- Where something is taken away nothing is left, and nothing else changes. -/
theorem kindAt_remove (parent : List String) (name : String) (root : Node) (names : List String) :
    (remove (parent ++ [name]) root).kindAt names =
      if parent ++ [name] <+: names then none else root.kindAt names := by
  induction parent generalizing root names with
  | nil =>
    cases names with
    | nil => cases root <;> simp [remove, kind]
    | cons m rest =>
      cases root with
      | file => simp [remove, kindAt_file_cons]
      | dir es =>
        rw [List.nil_append, remove, kindAt_dir_cons, kindAt_dir_cons, lookup_filter_ne]
        by_cases hm : m = name
        · simp [hm]
        · simp [hm, Ne.symm hm]
  | cons x xs ih =>
    cases root with
    | file => cases names <;> simp [remove, kindAt_file_cons]
    | dir es =>
      cases hc : es.lookup x with
      | none =>
        have hsame : remove (x :: xs ++ [name]) (dir es) = dir es := by
          cases xs <;> simp [remove, hc]
        rw [hsame]
        cases names with
        | nil => simp
        | cons m rest =>
          by_cases hm : m = x
          · simp [hm, kindAt_dir_cons, hc]
          · simp [Ne.symm hm]
      | some c =>
        rw [List.cons_append, remove_cons hc (by simp)]
        cases names with
        | nil => simp [kind]
        | cons m rest =>
          rw [kindAt_dir_cons, kindAt_dir_cons, lookup_putEntry]
          by_cases hm : m = x
          · subst m
            simp only [if_true, Option.bind_some, List.cons_prefix_cons, true_and, hc]
            exact ih c rest
          · simp [hm, Ne.symm hm]

end Node

/-- The names that lead to a place from the root. -/
def Place.names : Place → List String
  | .node names _ => names
  | .free parent name => parent ++ [name]

namespace Tree

variable {t t' : Tree} {p q : Path} {d : Data} {place : List String} {pl : Place}

/-- What lies at a place of a tree. -/
def kindAt (t : Tree) (names : List String) : Option Kind := t.root.kindAt names

theorem step_names {root node : Node} {back names : List String}
    (h : step root back node names = .ok pl) :
    pl.names =
      (names.foldl (fun back n => if n == ".." then back.tail else n :: back) back).reverse := by
  induction names generalizing back node with
  | nil =>
    simp only [step, Except.ok.injEq] at h
    rw [← h]
    rfl
  | cons name rest ih =>
    rw [List.foldl_cons]
    simp only [step] at h
    split at h
    · cases h
    · split at h
      · rename_i hup
        rw [if_pos hup]
        split at h
        · exact ih h
        · cases h
      · rename_i hup
        rw [if_neg hup]
        split at h
        · cases h
        · split at h
          · exact ih h
          · split at h
            · rename_i hrest
              cases h
              rw [List.isEmpty_iff.mp hrest]
              simp [Place.names]
            · cases h

theorem resolve_names (t : Tree) (p : Path) : (t.resolve p).names =
    Path.collapse (if p.absolute then p.names else t.here.names ++ p.names) := by
  rw [resolve, Path.resolve, Path.join]
  split <;> rfl

/-- A path leads where its resolved form says, whatever lies there. -/
theorem locate_names (h : t.locate p = .ok pl) : pl.names = (t.resolve p).names := by
  rw [resolve_names]
  exact step_names h

theorem kindAt_below_free {parent : List String} {name : String}
    {entries : List (String × Node)} (hp : t.root.get? parent = some (.dir entries))
    (hf : entries.lookup name = none) (more : List String) :
    t.kindAt (parent ++ name :: more) = none := by
  rw [kindAt, Node.kindAt_append hp, Node.kindAt_dir_cons, hf]
  rfl

theorem write_root (h : t.write p d = .ok t') :
    t' = { t with root := Node.put (.file d) (t.resolve p).names t.root } := by
  simp only [write] at h
  split at h
  · rename_i ns old hl
    cases h
    rw [← locate_names hl, Place.names]
  · cases h
  · rename_i parent name hl
    cases h
    rw [← locate_names hl, Place.names]
  · cases h

theorem makeDir_root (h : t.makeDir p = .ok t') :
    t' = { t with root := Node.put (.dir []) (t.resolve p).names t.root } := by
  simp only [makeDir] at h
  split at h
  · cases h
  · rename_i parent name hl
    cases h
    rw [← locate_names hl, Place.names]
  · cases h

/-- Writing changes what lies at the place of its path. -/
theorem kindAt_write (h : t.write p d = .ok t') (names : List String) : t'.kindAt names =
    if names = (t.resolve p).names then some (.file d) else t.kindAt names := by
  simp only [write] at h
  split at h
  · rename_i ns old hl
    cases h
    have hn := locate_names hl
    have hfile := locate_eq_node hl
    rw [← hn]
    have hbelow : ∀ x more, t.root.kindAt (ns ++ x :: more) = none := fun x more => by
      rw [Node.kindAt_append hfile, Node.kindAt_file_cons]
    rcases List.eq_nil_or_concat' ns with rfl | ⟨parent, name, rfl⟩
    · cases names with
      | nil => rfl
      | cons x more => exact (hbelow x more).symm
    · obtain ⟨entries, hp, _⟩ := Node.dir_of_get?_concat hfile
      exact Node.kindAt_put_leaf hp (Node.kindAt_file_cons d) hbelow names
  · cases h
  · rename_i parent name hl
    cases h
    have hn := locate_names hl
    obtain ⟨entries, hp, hf⟩ := locate_eq_free hl
    rw [← hn]
    refine Node.kindAt_put_leaf hp (Node.kindAt_file_cons d) (fun x more => ?_) names
    rw [List.append_assoc]
    exact kindAt_below_free hp hf _
  · cases h

theorem here_write (h : t.write p d = .ok t') : t'.here = t.here := by rw [write_root h]

/-- A text without carriage returns is read as it was written. -/
theorem readText_of_node {s : String} (h : t.node p = .ok (.file (.ofText s)))
    (hs : '\r' ∉ s.toList) : t.readText p = .ok s := by
  simp only [readText, read, h, Data.ofText, Data.toBytes, Text.decodeUtf8_encodeUtf8,
    Text.universalNewlines_eq hs, String.ofList_toList]

/-- A file is written where none was or over another one. -/
theorem kindAt_of_write (h : t.write p d = .ok t') :
    t.kindAt (t.resolve p).names ≠ some .directory := by
  simp only [write] at h
  split at h
  · rename_i ns old hl
    rw [← locate_names hl, kindAt, Place.names, Node.kindAt, locate_eq_node hl]
    simp [Node.kind]
  · cases h
  · rename_i parent name hl
    obtain ⟨entries, hp, hf⟩ := locate_eq_free hl
    rw [← locate_names hl, Place.names, kindAt_below_free hp hf]
    simp
  · cases h

theorem kindAt_makeDir (h : t.makeDir p = .ok t') (names : List String) : t'.kindAt names =
    if names = (t.resolve p).names then some .directory else t.kindAt names := by
  simp only [makeDir] at h
  split at h
  · cases h
  · rename_i parent name hl
    cases h
    obtain ⟨entries, hp, hf⟩ := locate_eq_free hl
    rw [← locate_names hl]
    refine Node.kindAt_put_leaf hp (fun x more => rfl) (fun x more => ?_) names
    rw [List.append_assoc]
    exact kindAt_below_free hp hf _
  · cases h

theorem kindAt_of_makeDir (h : t.makeDir p = .ok t') : t.kindAt (t.resolve p).names = none := by
  simp only [makeDir] at h
  split at h
  · cases h
  · rename_i parent name hl
    obtain ⟨entries, hp, hf⟩ := locate_eq_free hl
    rw [← locate_names hl]
    exact kindAt_below_free hp hf []
  · cases h

theorem here_makeDir (h : t.makeDir p = .ok t') : t'.here = t.here := by rw [makeDir_root h]

theorem acceptDir_eq {e : FileError} (h : t.acceptDir p e = .ok t') : t' = t := by
  simp only [acceptDir] at h
  split at h <;> cases h
  rfl

/-- A tree with more directories: each of them lies where there was nothing, at the place of one of
some paths. -/
structure Grown (on : Path → Prop) (t t' : Tree) : Prop where
  here : t'.here = t.here
  kept : ∀ names, t.kindAt names ≠ none → t'.kindAt names = t.kindAt names
  new : ∀ names, t.kindAt names = none → t'.kindAt names = none ∨
    t'.kindAt names = some .directory ∧ ∃ q, on q ∧ names = (t.resolve q).names

theorem Grown.refl (on : Path → Prop) (t : Tree) : Grown on t t :=
  ⟨rfl, fun _ _ => rfl, fun _ h => Or.inl h⟩

theorem Grown.trans {on : Path → Prop} {mid : Tree} (h : Grown on t mid) (k : Grown on mid t') :
    Grown on t t' where
  here := by rw [k.here, h.here]
  kept := by
    intro names hn
    have hmid := h.kept names hn
    rw [k.kept names (by rw [hmid]; exact hn), hmid]
  new := by
    intro names hn
    rcases h.new names hn with hmid | ⟨hmid, hq⟩
    · rcases k.new names hmid with hend | ⟨hend, q, hq, hnames⟩
      · exact Or.inl hend
      · refine Or.inr ⟨hend, q, hq, ?_⟩
        rw [hnames, resolve, resolve, h.here]
    · refine Or.inr ⟨?_, hq⟩
      rw [k.kept names (by rw [hmid]; simp), hmid]

theorem Grown.mono {on on' : Path → Prop} (h : Grown on t t') (ho : ∀ q, on q → on' q) :
    Grown on' t t' where
  here := h.here
  kept := h.kept
  new := by
    intro names hn
    rcases h.new names hn with hend | ⟨hend, q, hq, hnames⟩
    · exact Or.inl hend
    · exact Or.inr ⟨hend, q, ho q hq, hnames⟩

/-- The paths that a path passes on its way, itself with them. -/
def OnWay (p q : Path) : Prop := q.anchor = p.anchor ∧ q.names <+: p.names

theorem makeDir_grown (h : t.makeDir p = .ok t') : Grown (OnWay p) t t' where
  here := here_makeDir h
  kept := by
    intro names hn
    rw [kindAt_makeDir h, if_neg]
    rintro rfl
    exact hn (kindAt_of_makeDir h)
  new := by
    intro names hn
    rw [kindAt_makeDir h]
    split
    · rename_i he
      exact Or.inr ⟨rfl, p, ⟨rfl, List.prefix_refl _⟩, he⟩
    · exact Or.inl hn

theorem makeDirsFuel_grown {fuel : Nat} (h : makeDirsFuel fuel t p = .ok t') :
    Grown (OnWay p) t t' := by
  induction fuel generalizing t t' p with
  | zero =>
    rw [acceptDir_eq h]
    exact .refl _ _
  | succ fuel ih =>
    simp only [makeDirsFuel] at h
    split at h
    · rename_i made hmade
      cases h
      exact makeDir_grown hmade
    · split at h
      · obtain ⟨mid, hmid, h⟩ := bind_eq_ok h
        have hparent : Grown (OnWay p) t mid := (ih hmid).mono fun q hq =>
          ⟨hq.1, hq.2.trans (List.dropLast_prefix _)⟩
        split at h
        · rename_i made hmade
          cases h
          exact hparent.trans (makeDir_grown hmade)
        · rw [acceptDir_eq h]
          exact hparent
      · rw [acceptDir_eq h]
        exact .refl _ _

/-- Making directories adds what is missing on the way. -/
theorem makeDirs_grown (h : t.makeDirs p = .ok t') : Grown (OnWay p) t t' := makeDirsFuel_grown h

end Tree
end Stencil.Files
