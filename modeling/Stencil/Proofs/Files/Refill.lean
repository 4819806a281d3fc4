import Stencil.Proofs.Files.Overlay

/-!
Files that are written again where they lie. That changes their content and no name: the same files
and directories are there, in the same order. Contents that are written one after another at places
whose last content lies there already change nothing.
-/
namespace Stencil.Files

namespace Node

variable {root node new c : Node} {entries : List (String × Node)} {x y name : String}
  {xs ys names : List String} {a b d e : Data}

/-! Putting something in the place of something else. -/

theorem put_child (h : entries.lookup x = some c) (new : Node) (rest : List String) :
    put new (x :: rest) (dir entries) = dir (putEntry x (put new rest c) entries) := by
  cases rest with
  | nil => rfl
  | cons => exact put_cons h (by simp)

/-- What leads somewhere leads into a directory. -/
theorem exists_child (h : root.get? (x :: names) = some node) :
    ∃ entries c, root = dir entries ∧ entries.lookup x = some c ∧ c.get? names = some node := by
  cases root with
  | file => cases h
  | dir entries =>
    obtain ⟨c, hc, h⟩ := Option.bind_eq_some_iff.mp h
    exact ⟨entries, c, rfl, hc, h⟩

theorem get?_child (h : entries.lookup x = some c) (rest : List String) :
    (dir entries).get? (x :: rest) = c.get? rest := by
  simp [get?, child?, h]

/-- What lies somewhere already changes nothing there. -/
theorem put_self (h : root.get? names = some node) : put node names root = root := by
  induction names generalizing root with
  | nil =>
    cases h
    rfl
  | cons x rest ih =>
    obtain ⟨entries, c, rfl, hc, h⟩ := exists_child h
    rw [put_child hc, ih h, putEntry_self hc]

theorem put_again (h : root.get? names = some node) (new old : Node) :
    put new names (put old names root) = put new names root := by
  induction names generalizing root with
  | nil => rfl
  | cons x rest ih =>
    obtain ⟨entries, c, rfl, hc, h⟩ := exists_child h
    rw [put_child hc, put_child hc, put_child (by rw [lookup_putEntry, if_pos rfl]), ih h,
      putEntry_putEntry]

theorem putEntry_comm {n m : Node} (hxy : x ≠ y) (hx : entries.lookup x = some c) :
    putEntry x n (putEntry y m entries) = putEntry y m (putEntry x n entries) := by
  induction entries with
  | nil => cases hx
  | cons entry rest ih =>
    obtain ⟨k, old⟩ := entry
    by_cases hkx : k = x
    · subst k
      simp [putEntry, hxy]
    · by_cases hky : k = y
      · subst k
        simp [putEntry, hkx]
      · rw [List.lookup_cons, beq_eq_false_iff_ne.mpr (Ne.symm hkx)] at hx
        simp [putEntry, hkx, hky, ih hx]

/-- Files at different places are written in any order. -/
theorem put_comm (hx : root.get? xs = some (file d)) (hy : root.get? ys = some (file e))
    (hne : xs ≠ ys) (n m : Node) : put n xs (put m ys root) = put m ys (put n xs root) := by
  induction xs generalizing root ys with
  | nil =>
    cases hx
    cases ys with
    | nil => exact absurd rfl hne
    | cons => cases hy
  | cons x xs ih =>
    cases ys with
    | nil =>
      cases hy
      cases hx
    | cons y ys =>
      obtain ⟨entries, c, rfl, hc, hx⟩ := exists_child hx
      by_cases hxy : x = y
      · subst y
        rw [get?_child hc] at hy
        have hne' : xs ≠ ys := fun h => hne (by rw [h])
        rw [put_child hc, put_child hc, put_child (by rw [lookup_putEntry, if_pos rfl]),
          put_child (by rw [lookup_putEntry, if_pos rfl]), putEntry_putEntry, putEntry_putEntry,
          ih hx hy hne']
      · obtain ⟨_, c', heq, hc', hy⟩ := exists_child hy
        cases heq
        rw [put_child hc, put_child hc', put_child (by rw [lookup_putEntry, if_neg hxy, hc]),
          put_child (by rw [lookup_putEntry, if_neg (Ne.symm hxy), hc']), putEntry_comm hxy hc]

/-! What a file that is written again leaves of a node. -/

theorem kindAt_put_file (h : root.get? xs = some (file d)) (a : Data) (ys : List String) :
    (put (file a) xs root).kindAt ys = if ys = xs then some (.file a) else root.kindAt ys := by
  induction xs generalizing root ys with
  | nil =>
    cases h
    cases ys with
    | nil => rfl
    | cons => rfl
  | cons x xs ih =>
    obtain ⟨entries, c, rfl, hc, h⟩ := exists_child h
    rw [put_child hc]
    cases ys with
    | nil => rfl
    | cons y ys =>
      rw [kindAt_dir_cons, kindAt_dir_cons, lookup_putEntry]
      by_cases hyx : y = x
      · subst y
        simp [hc, ih h ys]
      · simp [hyx]

theorem map_fst_putEntry (h : entries.lookup name = some c) (n : Node) :
    (putEntry name n entries).map Prod.fst = entries.map Prod.fst := by
  induction entries with
  | nil => cases h
  | cons entry rest ih =>
    obtain ⟨k, old⟩ := entry
    by_cases hk : k = name
    · simp [putEntry, hk]
    · rw [List.lookup_cons, beq_eq_false_iff_ne.mpr (Ne.symm hk)] at h
      simp [putEntry, hk, ih h]

/-- Every directory has the names that it had. -/
theorem names_put_file (h : root.get? xs = some (file d)) (a : Data)
    (hd : root.get? ys = some (dir entries)) : ∃ entries',
      (put (file a) xs root).get? ys = some (dir entries') ∧
        entries'.map Prod.fst = entries.map Prod.fst := by
  induction xs generalizing root ys with
  | nil =>
    cases h
    cases ys <;> cases hd
  | cons x xs ih =>
    obtain ⟨es, c, rfl, hc, h⟩ := exists_child h
    rw [put_child hc]
    cases ys with
    | nil =>
      cases hd
      exact ⟨_, rfl, map_fst_putEntry hc _⟩
    | cons y ys =>
      obtain ⟨_, c', heq, hc', hd⟩ := exists_child hd
      cases heq
      by_cases hyx : y = x
      · subst y
        cases hc.symm.trans hc'
        rw [get?_child (by rw [lookup_putEntry, if_pos rfl])]
        exact ih h hd
      · rw [get?_child (by rw [lookup_putEntry, if_neg hyx, hc'])]
        exact ⟨entries, hd, rfl⟩

end Node

namespace Tree

variable {t : Tree} {names xs ys : List String} {a b d e : Data} {ws : List (List String × Data)}
  {entries : List (String × Node)}

/-- Whether a file lies at a place. -/
def Holds (t : Tree) (names : List String) : Prop := ∃ d, t.root.get? names = some (.file d)

/-- A tree with other content at a place. -/
def refill (t : Tree) (names : List String) (d : Data) : Tree :=
  { t with root := Node.put (.file d) names t.root }

theorem kindAt_refill (h : t.Holds xs) (d : Data) (ys : List String) :
    (t.refill xs d).kindAt ys = if ys = xs then some (.file d) else t.kindAt ys := by
  obtain ⟨old, h⟩ := h
  exact Node.kindAt_put_file h d ys

theorem holds_iff : t.Holds names ↔ ∃ d, t.kindAt names = some (.file d) :=
  ⟨fun ⟨d, h⟩ => ⟨d, by rw [kindAt, Node.kindAt, h]; rfl⟩,
    fun ⟨d, h⟩ => ⟨d, get?_of_kindAt_file h⟩⟩

theorem Holds.refill (hy : t.Holds ys) (hx : t.Holds xs) (d : Data) : (t.refill xs d).Holds ys := by
  obtain ⟨e, hy⟩ := holds_iff.mp hy
  rw [holds_iff, kindAt_refill hx]
  split
  · exact ⟨d, rfl⟩
  · exact ⟨e, hy⟩

theorem refill_again (h : t.Holds names) (a b : Data) :
    (t.refill names a).refill names b = t.refill names b := by
  obtain ⟨d, h⟩ := h
  rw [Tree.refill, Tree.refill, Tree.refill, Node.put_again h]

theorem refill_comm (hx : t.Holds xs) (hy : t.Holds ys) (hne : xs ≠ ys) (a b : Data) :
    (t.refill xs a).refill ys b = (t.refill ys b).refill xs a := by
  obtain ⟨d, hx⟩ := hx
  obtain ⟨e, hy⟩ := hy
  rw [Tree.refill, Tree.refill, Tree.refill, Tree.refill, Node.put_comm hx hy hne]

theorem refill_self (h : t.kindAt names = some (.file d)) : t.refill names d = t := by
  rw [Tree.refill, Node.put_self (get?_of_kindAt_file h)]

/-- Contents that are written one after another. -/
def refillAll (t : Tree) (ws : List (List String × Data)) : Tree :=
  ws.foldl (fun t w => t.refill w.1 w.2) t

theorem refillAll_cons (t : Tree) (w : List String × Data) (ws : List (List String × Data)) :
    t.refillAll (w :: ws) = (t.refill w.1 w.2).refillAll ws := rfl

/-- What is written over later might as well not be written. -/
theorem refillAll_refill (hx : t.Holds xs) (hs : ∀ w ∈ ws, t.Holds w.1) (hw : ∃ w ∈ ws, w.1 = xs)
    (a : Data) : (t.refill xs a).refillAll ws = t.refillAll ws := by
  induction ws generalizing t with
  | nil => obtain ⟨w, hw, _⟩ := hw; cases hw
  | cons w ws ih =>
    rw [refillAll_cons, refillAll_cons]
    have hfirst := hs w (by simp)
    by_cases hsame : w.1 = xs
    · rw [hsame, refill_again hx]
    · rw [refill_comm hx hfirst (Ne.symm hsame)]
      refine ih (hx.refill hfirst _) (fun v hv => (hs v (by simp [hv])).refill hfirst _) ?_
      obtain ⟨v, hv, hvx⟩ := hw
      rcases List.mem_cons.mp hv with rfl | hv
      · exact absurd hvx hsame
      · exact ⟨v, hv, hvx⟩

/-- Where the last content of each place lies already, nothing changes. -/
theorem refillAll_self (hs : ∀ w ∈ ws, t.Holds w.1)
    (hl : ∀ before names d later, ws = before ++ (names, d) :: later →
      (∀ w ∈ later, w.1 ≠ names) → t.kindAt names = some (.file d)) : t.refillAll ws = t := by
  induction ws with
  | nil => rfl
  | cons w ws ih =>
    have hrest : t.refillAll ws = t := by
      refine ih (fun v hv => hs v (by simp [hv])) fun before names d later h hn => ?_
      exact hl (w :: before) names d later (by rw [h]; rfl) hn
    rw [refillAll_cons]
    by_cases hlast : ∃ v ∈ ws, v.1 = w.1
    · rw [refillAll_refill (hs w (by simp)) (fun v hv => hs v (by simp [hv])) hlast, hrest]
    · push Not at hlast
      rw [refill_self (hl [] w.1 w.2 ws rfl hlast), hrest]

/-- A tree with the same names everywhere, that differs in what is in files. -/
structure Refilled (t t' : Tree) : Prop where
  here : t'.here = t.here
  dirs : ∀ names, t'.kindAt names = some .directory ↔ t.kindAt names = some .directory
  names : ∀ place entries, t.root.get? place = some (.dir entries) → ∃ entries',
    t'.root.get? place = some (.dir entries') ∧ entries'.map Prod.fst = entries.map Prod.fst
  holds : ∀ place, t.Holds place → t'.Holds place

namespace Refilled

variable {mid t' : Tree} {p : Path}

theorem refl (t : Tree) : Refilled t t :=
  ⟨rfl, fun _ => Iff.rfl, fun _ entries h => ⟨entries, h, rfl⟩, fun _ h => h⟩

theorem trans (h : Refilled t mid) (k : Refilled mid t') : Refilled t t' where
  here := k.here.trans h.here
  dirs := fun names => (k.dirs names).trans (h.dirs names)
  names := by
    intro place entries he
    obtain ⟨mid, hmid, hn⟩ := h.names place entries he
    obtain ⟨entries', he', hn'⟩ := k.names place mid hmid
    exact ⟨entries', he', hn'.trans hn⟩
  holds := fun place hp => k.holds place (h.holds place hp)

theorem sameDirs (h : Refilled t t') : SameDirs t t' :=
  ⟨h.here, fun names hd => (h.dirs names).mpr hd⟩

/-- A directory has the same names in it. -/
theorem namesIn_eq (h : Refilled t t') (hd : t.node p = .ok (.dir entries)) :
    t'.namesIn p = t.namesIn p := by
  obtain ⟨ns, hl⟩ := node_eq_ok hd
  obtain ⟨entries', hl'⟩ := h.sameDirs.locate hl
  obtain ⟨es, hes, hsame⟩ := h.names ns entries (locate_eq_node hl)
  rw [locate_eq_node hl'] at hes
  cases hes
  have hd' : t'.node p = .ok (.dir entries') := by rw [node, hl']
  simp only [namesIn, hd, hd', hsame]

end Refilled

theorem refilled_refill (h : t.Holds xs) (d : Data) : Refilled t (t.refill xs d) where
  here := rfl
  dirs := by
    intro names
    rw [kindAt_refill h]
    split
    · rename_i hplace
      obtain ⟨old, hold⟩ := holds_iff.mp h
      rw [hplace, hold]
      exact iff_of_false nofun nofun
    · exact Iff.rfl
  names := by
    intro place entries hd
    obtain ⟨old, h⟩ := h
    exact Node.names_put_file h d hd
  holds := fun place hp => hp.refill h d

theorem refilled_refillAll (hs : ∀ w ∈ ws, t.Holds w.1) : Refilled t (t.refillAll ws) := by
  induction ws generalizing t with
  | nil => exact .refl t
  | cons w ws ih =>
    have hfirst := refilled_refill (hs w (by simp)) w.2
    exact hfirst.trans (ih fun v hv => hfirst.holds _ (hs v (by simp [hv])))

/-! A path that was written. -/

/-- A free name is the last name of its path. -/
theorem step_free {root node : Node} {back xs parent : List String} {name : String}
    (h : step root back node xs = .ok (.free parent name)) : ∃ ys entries, xs = ys ++ [name] ∧
      step root back node ys = .ok (.node parent (.dir entries)) ∧ name ≠ ".." ∧
      ¬name.utf8ByteSize > maxNameBytes := by
  rcases List.eq_nil_or_concat' xs with rfl | ⟨ys, x, rfl⟩
  · cases h
  · obtain ⟨ns, n, hys, hx⟩ := step_concat h
    cases n with
    | file => simp [step, Node.isDir] at hx
    | dir entries =>
      simp only [step, Node.isDir, Bool.not_true, Bool.false_eq_true, if_false] at hx
      split at hx
      · split at hx <;> cases hx
      · rename_i hup
        split at hx
        · cases hx
        · rename_i hlong
          split at hx
          · cases hx
          · simp only [List.isEmpty_nil, if_true, Except.ok.injEq, Place.free.injEq,
              List.reverse_reverse] at hx
            obtain ⟨rfl, rfl⟩ := hx
            exact ⟨ys, entries, rfl, hys, by simpa using hup, hlong⟩

variable {t' : Tree} {p : Path} {parent : List String} {name : String}

/-- Where directories stay, a path to a free name leads to the file that comes there. -/
theorem SameDirs.locate_new (hs : SameDirs t t') (h : t.locate p = .ok (.free parent name))
    (hget : t'.root.get? (parent ++ [name]) = some (.file d)) :
    t'.locate p = .ok (.node (parent ++ [name]) (.file d)) := by
  simp only [Tree.locate] at h ⊢
  rw [hs.here]
  generalize (if p.absolute then p.names else t.here.names ++ p.names) = xs at h ⊢
  obtain ⟨ys, entries, rfl, hys, hup, hlong⟩ := step_free h
  obtain ⟨entries', hys'⟩ := step_stable (fun _ => hs.dirs _) rfl rfl hys
  rw [step_append hys', step_single hup hlong]
  obtain ⟨es, hes, hlookup⟩ := Node.dir_of_get?_concat hget
  rw [step_eq_node rfl hys'] at hes
  cases hes
  rw [hlookup]
  simp

/-- What was written lies at its path. -/
theorem locate_write (h : t.write p d = .ok t') :
    t'.locate p = .ok (.node (t.resolve p).names (.file d)) := by
  have hkind := kindAt_write h
  simp only [write] at h
  split at h
  · rename_i ns old hl
    have hplace : ns = (t.resolve p).names := locate_names hl
    have hfile := get?_of_kindAt_file ((hkind ns).trans (if_pos hplace))
    cases h
    rw [← hplace]
    exact (refilled_refill ⟨old, locate_eq_node hl⟩ d).sameDirs.locate_file hl hfile
  · cases h
  · rename_i parent name hl
    have hplace : parent ++ [name] = (t.resolve p).names := locate_names hl
    have hfile := get?_of_kindAt_file ((hkind (parent ++ [name])).trans (if_pos hplace))
    cases h
    rw [← hplace]
    exact (Vacant.sameDirs (locate_eq_free hl) (.file d)).locate_new hl hfile
  · cases h

theorem node_write (h : t.write p d = .ok t') : t'.node p = .ok (.file d) := by
  rw [node, locate_write h]

theorem exists_parent (h : t.locate p = .ok (.node names (.file d))) :
    t.exists p.parent = .ok true := by
  rcases List.eq_nil_or_concat' p.names with hnil | ⟨front, last, hlast⟩
  · have hparent : p.parent = p := by
      obtain ⟨anchor, xs⟩ := p
      cases hnil
      rfl
    exact exists_node (n := .file d) (by rw [hparent, node, h])
  · have hparent : p.parent = ⟨p.anchor, front⟩ := by rw [Path.parent, hlast, List.dropLast_concat]
    have hwalk : (if p.absolute then p.names else t.here.names ++ p.names) =
        (if p.parent.absolute then p.parent.names else t.here.names ++ p.parent.names) ++
          [last] := by
      rw [hparent, hlast, show Path.absolute ⟨p.anchor, front⟩ = p.absolute from rfl]
      split
      · rfl
      · rw [List.append_assoc]
    rw [locate, hwalk] at h
    obtain ⟨ns, n, hfront, _⟩ := step_concat h
    exact exists_node (n := n) (by rw [node, locate, hfront])

/-! Files at the places of paths. -/

theorem names_eq_iff {q : Path} :
    (t.resolve p).names = (t.resolve q).names ↔ t.resolve p = t.resolve q :=
  ⟨fun h => Path.Resolved.eq_of_names (Path.resolved_resolve t.here p)
    (Path.resolved_resolve t.here q) h, fun h => by rw [h]⟩

theorem kindAt_of_file (h : t.node p = .ok (.file d)) :
    t.kindAt (t.resolve p).names = some (.file d) := by
  obtain ⟨ns, hl⟩ := node_eq_ok h
  have hplace : ns = (t.resolve p).names := locate_names hl
  rw [← hplace, kindAt, Node.kindAt, locate_eq_node hl]
  rfl

/-- Where directories stay, a path to a file leads to any file that comes to its place. -/
theorem SameDirs.node_file (hs : SameDirs t t') (h : t.node p = .ok (.file a))
    (hd : t'.kindAt (t.resolve p).names = some (.file d)) : t'.node p = .ok (.file d) := by
  obtain ⟨ns, hl⟩ := node_eq_ok h
  have hplace : ns = (t.resolve p).names := locate_names hl
  rw [← hplace] at hd
  rw [node, hs.locate_file hl (get?_of_kindAt_file hd)]

/-- A file that is written again where it lies has other content, and nothing else changes. -/
theorem write_refill (h : t.locate p = .ok (.node names (.file a))) :
    t.write p d = .ok (t.refill names d) := by
  rw [write, h]
  rfl

end Tree
end Stencil.Files
