import Stencil.Proofs.Build.Isolated
import Stencil.Proofs.Files.Find
import Stencil.Proofs.Files.Overlay
import Stencil.Proofs.Files.Within

/-!
A unit that is built at two sites: in two directories with names of their own, each in a tree of its
own. The work goes in step, so that both builds succeed or neither does.
-/
namespace Stencil
open Stencil.Files

variable {ε ε' δ δ' α α' β β' : Type}

/-- Results that are both right or both wrong, with what is in them related. -/
inductive Agree (E : ε → ε' → Prop) (Q : α → α' → Prop) : Except ε α → Except ε' α' → Prop where
  | ok {a a'} (h : Q a a') : Agree E Q (.ok a) (.ok a')
  | error {e e'} (h : E e e') : Agree E Q (.error e) (.error e')

namespace Agree

variable {E : ε → ε' → Prop} {F : δ → δ' → Prop} {Q : α → α' → Prop} {S : β → β' → Prop}
  {x : Except ε α} {x' : Except ε' α'}

theorem bind {f : α → Except ε β} {f' : α' → Except ε' β'} (h : Agree E Q x x')
    (hf : ∀ a a', Q a a' → Agree E S (f a) (f' a')) : Agree E S (x >>= f) (x' >>= f') := by
  cases h with
  | ok hq => exact hf _ _ hq
  | error he => exact .error he

theorem mapError {f : ε → δ} {f' : ε' → δ'} (h : Agree E Q x x')
    (hf : ∀ e e', E e e' → F (f e) (f' e')) : Agree F Q (x.mapError f) (x'.mapError f') := by
  cases h with
  | ok hq => exact .ok hq
  | error he => exact .error (hf _ _ he)

theorem refl {E : ε → ε → Prop} (he : ∀ e, E e e) (x : Except ε α) : Agree E Eq x x := by
  cases x with
  | ok a => exact .ok rfl
  | error e => exact .error (he e)

theorem imp {S : α → α' → Prop} (h : Agree E Q x x') (hq : ∀ a a', Q a a' → S a a') :
    Agree E S x x' := by
  cases h with
  | ok h => exact .ok (hq _ _ h)
  | error h => exact .error h

theorem mapM {γ : Type} {f : γ → Except ε α} {f' : γ → Except ε' α} {xs : List γ}
    (h : ∀ c ∈ xs, Agree E Eq (f c) (f' c)) : Agree E Eq (xs.mapM f) (xs.mapM f') := by
  induction xs with
  | nil => exact .ok rfl
  | cons c rest ih =>
    rw [List.mapM_cons, List.mapM_cons]
    refine (h c (by simp)).bind ?_
    rintro a _ rfl
    refine (ih fun c hc => h c (List.mem_cons_of_mem _ hc)).bind ?_
    rintro as _ rfl
    exact .ok rfl

end Agree

/-- A free name in a directory of a tree. -/
structure Site where
  tree : Tree
  path : Path
  parent : List String
  name : String
  free : tree.Free path parent name

namespace Site

/-- The tree with something at the site. -/
def holding (s : Site) (node : Node) : Tree := s.tree.graft s.parent s.name node

/-- A path below the site. -/
def inner (s : Site) (rel : List String) : Path := s.path.inner s.name rel

def directory (s : Site) : Path := s.path.child s.name

variable {s s' : Site} {node : Node} {rel : List String} {d : Data}

theorem directory_child (s : Site) (x : String) : s.directory.child x = s.inner [x] := by
  rw [inner, ← List.nil_append [x], ← Path.inner_child]
  rfl

/-- Work at two sites that hold the same goes in step: it leaves the same at both and ends alike. -/
def Steps (s s' : Site) (node : Node) (E : ε → ε' → Prop) (Q : Node → α → α' → Prop)
    (w : Work ε α) (w' : Work ε' α') : Prop :=
  ∃ node' r r', Work.Ends w (s.holding node) (s.holding node') r ∧
    Work.Ends w' (s'.holding node) (s'.holding node') r' ∧ Agree E (Q node') r r'

namespace Steps

variable {E : ε → ε' → Prop} {F : δ → δ' → Prop} {Q : Node → α → α' → Prop}
  {S : Node → β → β' → Prop} {w : Work ε α} {w' : Work ε' α'} {a : α} {a' : α'}

theorem bind {next : α → Work ε β} {next' : α' → Work ε' β'} (h : Steps s s' node E Q w w')
    (hn : ∀ mid a a', Q mid a a' → Steps s s' mid E S (next a) (next' a')) :
    Steps s s' node E S (w >>= next) (w' >>= next') := by
  obtain ⟨mid, r, r', hw, hw', hr⟩ := h
  cases hr with
  | ok hq =>
    obtain ⟨last, q, q', hnext, hnext', hlast⟩ := hn mid _ _ hq
    exact ⟨last, q, q', (Work.ends_bind_ok hw).mpr hnext, (Work.ends_bind_ok hw').mpr hnext', hlast⟩
  | error he =>
    exact ⟨mid, _, _, (Work.ends_bind_error hw).mpr ⟨rfl, rfl⟩,
      (Work.ends_bind_error hw').mpr ⟨rfl, rfl⟩, .error he⟩

theorem mapError {f : ε → δ} {f' : ε' → δ'} (h : Steps s s' node E Q w w')
    (hf : ∀ e e', E e e' → F (f e) (f' e')) :
    Steps s s' node F Q (w.mapError f) (w'.mapError f') := by
  obtain ⟨mid, r, r', hw, hw', hr⟩ := h
  exact ⟨mid, _, _, Work.ends_mapError_iff.mpr ⟨_, hw, rfl⟩,
    Work.ends_mapError_iff.mpr ⟨_, hw', rfl⟩, hr.mapError hf⟩

/-- Work that changes nothing. -/
theorem still {r : Except ε α} {r' : Except ε' α'}
    (h : Work.Ends w (s.holding node) (s.holding node) r)
    (h' : Work.Ends w' (s'.holding node) (s'.holding node) r') (hr : Agree E (Q node) r r') :
    Steps s s' node E Q w w' := ⟨node, r, r', h, h', hr⟩

theorem pure (h : Q node a a') : Steps s s' node E Q (pure a) (pure a') :=
  still (Work.ends_pure_iff.mpr ⟨rfl, rfl⟩) (Work.ends_pure_iff.mpr ⟨rfl, rfl⟩) (.ok h)

theorem fail {e : ε} {e' : ε'} (h : E e e') : Steps s s' node E Q (Work.fail e) (Work.fail e') :=
  still (Work.ends_fail_iff.mpr ⟨rfl, rfl⟩) (Work.ends_fail_iff.mpr ⟨rfl, rfl⟩) (.error h)

theorem look {f : Tree → Except ε α} {f' : Tree → Except ε' α'}
    (h : Agree E (Q node) (f (s.holding node)) (f' (s'.holding node))) :
    Steps s s' node E Q (Work.look f) (Work.look f') :=
  still (Work.ends_look_iff.mpr ⟨rfl, rfl⟩) (Work.ends_look_iff.mpr ⟨rfl, rfl⟩) h

theorem tree {next : Tree → Work ε α} {next' : Tree → Work ε' α'}
    (h : Steps s s' node E Q (next (s.holding node)) (next' (s'.holding node))) :
    Steps s s' node E Q (Work.tree >>= next) (Work.tree >>= next') := by
  obtain ⟨mid, r, r', hw, hw', hr⟩ := h
  exact ⟨mid, r, r', (Work.ends_bind_ok (Work.ends_tree_iff.mpr ⟨rfl, rfl⟩)).mpr hw,
    (Work.ends_bind_ok (Work.ends_tree_iff.mpr ⟨rfl, rfl⟩)).mpr hw', hr⟩

theorem say {m m' : Console.Message} {next : PUnit → Work ε α} {next' : PUnit → Work ε' α'}
    (h : Steps s s' node E Q (next ()) (next' ())) :
    Steps s s' node E Q (Work.say m >>= next) (Work.say m' >>= next') := by
  obtain ⟨mid, r, r', hw, hw', hr⟩ := h
  exact ⟨mid, r, r', (Work.ends_bind_ok (Work.ends_say_iff.mpr ⟨rfl, rfl⟩)).mpr hw,
    (Work.ends_bind_ok (Work.ends_say_iff.mpr ⟨rfl, rfl⟩)).mpr hw', hr⟩

/-- A change that makes the same of what lies at the sites. -/
theorem change {f : Tree → Except ε Tree} {f' : Tree → Except ε' Tree} {P : Node → Prop}
    (h : Agree E (fun u u' => ∃ made, u = s.holding made ∧ u' = s'.holding made ∧ P made)
      (f (s.holding node)) (f' (s'.holding node))) :
    Steps s s' node E (fun made (_ _ : PUnit) => P made) (Work.change f) (Work.change f') := by
  generalize hx : f (s.holding node) = x at h
  generalize hx' : f' (s'.holding node) = x' at h
  cases h with
  | ok h =>
    obtain ⟨made, rfl, rfl, hp⟩ := h
    exact ⟨made, _, _, Work.ends_change_iff.mpr (.inl ⟨hx, rfl⟩),
      Work.ends_change_iff.mpr (.inl ⟨hx', rfl⟩), .ok hp⟩
  | error he =>
    exact ⟨node, _, _, Work.ends_change_iff.mpr (.inr ⟨_, hx, rfl, rfl⟩),
      Work.ends_change_iff.mpr (.inr ⟨_, hx', rfl, rfl⟩), .error he⟩

end Steps

/-! Files at the sites. -/

/-- Errors that need not be the same. -/
def anyError (_ : ε) (_ : ε') : Prop := True

theorem node_inner (s : Site) (hr : ".." ∉ rel) : (s.holding node).node (s.inner rel) =
    (node.alone.node ⟨.root, rel⟩).mapError fun e => ⟨e.fault, s.inner rel⟩ :=
  s.free.node_inner hr

theorem node_directory (s : Site) (node : Node) : (s.holding node).node s.directory = .ok node :=
  @Site.node_inner node [] s (by simp)

theorem agree_write (s s' : Site) (hr : ".." ∉ rel) {P : Node → Prop}
    (hp : ∀ made, node.alone.write ⟨.root, rel⟩ d = .ok made → P made.root) :
    Agree anyError (fun u u' => ∃ made, u = s.holding made ∧ u' = s'.holding made ∧ P made)
      ((s.holding node).write (s.inner rel) d) ((s'.holding node).write (s'.inner rel) d) := by
  have hw : (s.holding node).write (s.inner rel) d = _ := s.free.write_inner hr
  have hw' : (s'.holding node).write (s'.inner rel) d = _ := s'.free.write_inner hr
  rw [hw, hw']
  cases h : node.alone.write ⟨.root, rel⟩ d with
  | ok made => exact .ok ⟨made.root, rfl, rfl, hp made h⟩
  | error e => exact .error trivial

theorem agree_makeDirs (s s' : Site) (hr : ".." ∉ rel) {P : Node → Prop}
    (hp : ∀ made, node.alone.makeDirs ⟨.root, rel⟩ = .ok made → P made.root) :
    Agree anyError (fun u u' => ∃ made, u = s.holding made ∧ u' = s'.holding made ∧ P made)
      ((s.holding node).makeDirs (s.inner rel)) ((s'.holding node).makeDirs (s'.inner rel)) := by
  obtain ⟨q, hw⟩ : ∃ q, (s.holding node).makeDirs (s.inner rel) = _ :=
    s.free.makeDirs_inner node hr
  obtain ⟨q', hw'⟩ : ∃ q', (s'.holding node).makeDirs (s'.inner rel) = _ :=
    s'.free.makeDirs_inner node hr
  rw [hw, hw']
  cases h : node.alone.makeDirs ⟨.root, rel⟩ with
  | ok made => exact .ok ⟨made.root, rfl, rfl, hp made h⟩
  | error e => exact .error trivial

theorem agree_node (node : Node) (s s' : Site) (hr : ".." ∉ rel) :
    Agree anyError Eq ((s.holding node).node (s.inner rel))
      ((s'.holding node).node (s'.inner rel)) := by
  rw [s.node_inner hr, s'.node_inner hr]
  cases node.alone.node ⟨.root, rel⟩ with
  | ok n => exact .ok rfl
  | error e => exact .error trivial

theorem agree_exists (node : Node) (s s' : Site) (hr : ".." ∉ rel) :
    Agree anyError Eq ((s.holding node).exists (s.inner rel))
      ((s'.holding node).exists (s'.inner rel)) := by
  have hx : (s.holding node).exists (s.inner rel) = _ := s.free.exists_inner hr
  have hx' : (s'.holding node).exists (s'.inner rel) = _ := s'.free.exists_inner hr
  rw [hx, hx']
  cases node.alone.exists ⟨.root, rel⟩ with
  | ok b => exact .ok rfl
  | error e => exact .error trivial

end Site

end Stencil

namespace Stencil.Build
open Stencil.Files
open Stencil.Text
open Site (Steps anyError)

variable {s s' : Site} {node : Node} {source : Path} {d : Data} {b : Builder}
  {entries : List (String × Node)} {name : String} {rel : List String}

/-! Making the unit. -/

/-- A unit as it is made: its descriptor, beside files with names of files. -/
def Stocked (node : Node) : Prop :=
  ∃ entries, node = .dir entries ∧ (∀ e ∈ entries, IsName e.1) ∧
    entries.lookup descriptorName = some (.file (.ofText stubDescriptor))

theorem Stocked.kindAt (h : Stocked node) :
    node.kindAt [descriptorName] = some (.file (.ofText stubDescriptor)) := by
  obtain ⟨entries, rfl, _, hl⟩ := h
  rw [Node.kindAt_dir_cons, hl]
  rfl

theorem fst_of_mem_putEntry {new : Node} {e : String × Node}
    (h : e ∈ Node.putEntry name new entries) : e.1 = name ∨ e ∈ entries := by
  induction entries with
  | nil => exact Or.inl (by rw [List.mem_singleton.mp h])
  | cons x rest ih =>
    obtain ⟨n, old⟩ := x
    rw [Node.putEntry] at h
    split at h
    · rename_i hn
      rcases List.mem_cons.mp h with rfl | h
      · exact Or.inl (by simpa using hn)
      · exact Or.inr (by simp [h])
    · rcases List.mem_cons.mp h with rfl | h
      · exact Or.inr (by simp)
      · exact (ih h).imp id fun h => by simp [h]

theorem root_of_write {made : Tree} (hn : name ≠ "..")
    (h : (Node.dir entries).alone.write ⟨.root, [name]⟩ d = .ok made) :
    made.root = .dir (Node.putEntry name (.file d) entries) := by
  have hplace : ((Node.dir entries).alone.resolve ⟨.root, [name]⟩).names = [name] := by
    rw [Tree.resolve, Path.Resolved.resolve_eq ⟨rfl, by simpa using Ne.symm hn⟩]
  rw [Tree.write_root h, hplace]
  exact Node.put_single _ _ _

/-- The sources that are copied lie elsewhere and stay as they are. -/
theorem copyFile_holding (s : Site) (hs : s.tree.node source = .ok (.file d)) (hr : ".." ∉ rel) :
    copyFile (s.holding node) source (s.inner rel) =
      ((s.holding node).write (s.inner rel) d).mapError .file := by
  obtain ⟨ns, hl⟩ := Tree.node_eq_ok hs
  have hkind : s.tree.kindAt ns = some (.file d) := by
    rw [Tree.kindAt, Node.kindAt, Tree.locate_eq_node hl]
    rfl
  have hbeside : ¬s.parent ++ [s.name] <+: ns := fun hp => by
    rw [s.free.vacant.kindAt_eq_none hp] at hkind
    cases hkind
  have hthere : (s.holding node).locate source = .ok (.node ns (.file d)) := by
    refine (s.free.vacant.sameDirs node).locate_file hl (Tree.get?_of_kindAt_file ?_)
    rw [s.free.vacant.kindAt_graft_eq node (by rw [hkind]; simp), hkind]
  have hother : isSameNode (s.holding node) source (s.inner rel) = false := by
    have hcopy : (s.holding node).locate (s.inner rel) = _ := s.free.locate_inner hr
    unfold isSameNode
    rw [hthere, hcopy]
    cases node.alone.locate ⟨.root, rel⟩ with
    | error f => rfl
    | ok pl =>
      cases pl with
      | free par x => rfl
      | node ns' n =>
        refine beq_eq_false_iff_ne.mpr fun h => hbeside ?_
        rw [h]
        exact List.prefix_append _ _
  have hread : (s.holding node).read source = .ok d := by
    rw [Tree.read, Files.Tree.node, hthere]
  rw [copyFile, hother, hread]
  rfl

theorem steps_isolate (hs : s.tree.node source = .ok (.file d))
    (hs' : s'.tree.node source = .ok (.file d)) (hn : IsName source.name)
    (hd : source.name ≠ descriptorName) :
    Steps s s' (.dir []) anyError (fun made p p' => Stocked made ∧ p = s.inner [descriptorName] ∧
        p' = s'.inner [descriptorName])
      (isolate s.directory [source]) (isolate s'.directory [source]) := by
  have hstub : Steps s s' (.dir []) anyError (fun made (_ _ : PUnit) => Stocked made)
      (Work.change fun t => (t.writeText (s.directory.child descriptorName) stubDescriptor).mapError
        CopyError.file)
      (Work.change fun t =>
        (t.writeText (s'.directory.child descriptorName) stubDescriptor).mapError
          CopyError.file) := by
    simp only [Site.directory_child]
    refine .change ((Site.agree_write s s' (by decide) fun made h => ?_).mapError
      fun _ _ _ => trivial)
    refine ⟨_, root_of_write (by decide) h, ?_, by simp [Node.putEntry]⟩
    intro e he
    rw [List.mem_singleton.mp he]
    decide
  have hcopy : ∀ made, Stocked made → Steps s s' made anyError (fun made (_ _ : PUnit) =>
      Stocked made) (copyAll s.directory [source]) (copyAll s'.directory [source]) := by
    rintro _ ⟨entries, rfl, hnames, hlookup⟩
    have hchange : Steps s s' (.dir entries) anyError (fun made (_ _ : PUnit) => Stocked made)
        (Work.change fun t => copyFile t source (s.directory.child source.name))
        (Work.change fun t => copyFile t source (s'.directory.child source.name)) := by
      have hr : ".." ∉ [source.name] := by simpa using Ne.symm hn.2
      refine .change ?_
      rw [Site.directory_child, Site.directory_child, copyFile_holding s hs hr,
        copyFile_holding s' hs' hr]
      refine (Site.agree_write s s' hr fun made h => ?_).mapError fun _ _ _ => trivial
      refine ⟨_, root_of_write hn.2 h, fun e he => ?_, ?_⟩
      · rcases fst_of_mem_putEntry he with he | he
        · rw [he]
          exact hn
        · exact hnames e he
      · rw [Node.lookup_putEntry, if_neg (Ne.symm hd), hlookup]
    exact hchange.bind fun _ _ _ h => .pure h
  unfold isolate
  refine hstub.bind fun made _ _ h => (hcopy made h).bind fun made _ _ h => .pure ?_
  exact ⟨h, s.directory_child _, s'.directory_child _⟩

/-! Building it. -/

/-- A child that checks sources sees nothing but the directory that it runs in, and leaves the files
as they are. -/
structure Builder.ChecksAlone (b : Builder) : Prop where
  quiet : ∀ c, Work.Quiet (b.run c)
  same : ∀ {t t' : Tree} {p p' : Path} {entries : List (String × Node)} {names : List String},
    t.node p = .ok (.dir entries) → t'.node p' = .ok (.dir entries) → (∀ n ∈ names, IsName n) →
    Agree anyError (fun done done' => done.code = done'.code)
      (b.run (b.checkCommand p names) t).result (b.run (b.checkCommand p' names) t').result

theorem agree_member (hn : IsName name) : Agree anyError Eq
    (member (s.holding node) s.directory name) (member (s'.holding node) s'.directory name) := by
  have hr : ".." ∉ [name] := by simpa using Ne.symm hn.2
  unfold member
  rw [hn.div, hn.div, Site.directory_child, Site.directory_child]
  refine (Site.agree_node node s s' hr).bind ?_
  rintro n _ rfl
  cases n with
  | file d => exact .ok rfl
  | dir entries => exact .ok rfl

/-- Whether a node has the descriptor of units. -/
def HasStub (node : Node) : Prop :=
  node.kindAt [descriptorName] = some (.file (.ofText stubDescriptor))

theorem HasStub.write {made : Tree} (h : HasStub node) (hr : ".." ∉ rel)
    (hrel : rel ≠ [descriptorName]) (hw : node.alone.write ⟨.root, rel⟩ d = .ok made) :
    HasStub made.root := by
  have hplace : (node.alone.resolve ⟨.root, rel⟩).names = rel := by
    rw [Tree.resolve, Path.Resolved.resolve_eq ⟨rfl, hr⟩]
  have hkind := Tree.kindAt_write hw [descriptorName]
  rw [hplace, if_neg (Ne.symm hrel)] at hkind
  exact hkind.trans h

theorem HasStub.makeDirs {made : Tree} (h : HasStub node)
    (hm : node.alone.makeDirs ⟨.root, rel⟩ = .ok made) : HasStub made.root := by
  have hstub : node.alone.kindAt [descriptorName] = some (.file (.ofText stubDescriptor)) := h
  exact ((Tree.makeDirs_grown hm).kept _ (by rw [hstub]; simp)).trans hstub

theorem artifact_inner (s : Site) :
    stubSettings.artifact s.directory = s.inner ["bin", "Debug", "py3", "Config.zip"] := by
  rw [artifact_stub]
  simp [Site.inner, Site.directory, Path.inner, Path.child]

theorem steps_pack (h : HasStub node) {names : List String} (hn : ∀ n ∈ names, IsName n) :
    Steps s s' node anyError (fun made (_ _ : PUnit) => HasStub made)
      (pack (stubSettings.artifact s.directory) s.directory names)
      (pack (stubSettings.artifact s'.directory) s'.directory names) := by
  have hparent : ∀ s : Site, (s.inner ["bin", "Debug", "py3", "Config.zip"]).parent =
      s.inner ["bin", "Debug", "py3"] := fun s => Path.inner_parent _ _ _ ["bin", "Debug", "py3"]
  rw [artifact_inner, artifact_inner]
  unfold pack
  rw [hparent, hparent]
  refine Steps.bind (Q := fun made (_ _ : PUnit) => HasStub made) (.change
    (Site.agree_makeDirs s s' (by decide) fun made hm => h.makeDirs hm)) fun made _ _ h => ?_
  refine Steps.bind (Q := fun made (_ _ : PUnit) => HasStub made) (.change
    (Site.agree_write s s' (by decide) fun made hw => h.write (by decide) (by decide) hw))
    fun made _ _ h => ?_
  refine .change ((Agree.mapM fun n hmem => agree_member (hn n hmem)).bind ?_)
  rintro members _ rfl
  exact Site.agree_write s s' (by decide) fun made hw => h.write (by decide) (by decide) hw

/-- What a build leaves where it succeeds. -/
def BuiltAlike (made : Node) (r r' : Result) : Prop :=
  r.success = r'.success ∧ (r.success = true → HasStub made)

theorem steps_buildSources (hb : b.ChecksAlone) (h : Stocked node) :
    Steps s s' node anyError BuiltAlike (b.buildSources s.directory stubSettings)
      (b.buildSources s'.directory stubSettings) := by
  obtain ⟨entries, rfl, hnames, _⟩ := id h
  have hlisted : ∀ s : Site, sourceNames (s.holding (.dir entries)) s.directory =
      ((entries.map Prod.fst).mergeSort fun a b => decide (a ≤ b)).filter
        fun n => n.endsWith sourceSuffix := by
    intro s
    rw [sourceNames, Tree.namesIn, s.node_directory]
  have hall : ∀ n ∈ ((entries.map Prod.fst).mergeSort fun a b => decide (a ≤ b)).filter
      (fun n => n.endsWith sourceSuffix), IsName n := by
    intro n hn
    obtain ⟨e, he, rfl⟩ := List.mem_map.mp (List.mem_mergeSort.mp (List.mem_filter.mp hn).1)
    exact hnames e he
  unfold Builder.buildSources
  refine .tree ?_
  dsimp only
  rw [hlisted, hlisted]
  split
  · exact .pure ⟨rfl, nofun⟩
  · have hrun : Steps s s' (.dir entries) anyError (fun made done done' =>
        Stocked made ∧ done.code = done'.code) (b.run (b.checkCommand s.directory _))
        (b.run (b.checkCommand s'.directory _)) :=
      Steps.still ⟨hb.quiet _ _, rfl⟩ ⟨hb.quiet _ _, rfl⟩
        ((hb.same (s.node_directory _) (s'.node_directory _) hall).imp fun _ _ hc => ⟨h, hc⟩)
    refine (hrun.mapError fun _ _ _ => trivial).bind fun made done done' ⟨h, hcode⟩ => ?_
    rw [hcode]
    split
    · exact .pure ⟨rfl, nofun⟩
    · exact ((steps_pack h.kindAt hall).mapError fun _ _ _ => trivial).bind
        fun made _ _ h => .pure ⟨rfl, fun _ => h⟩

/-- Builds of the same unit succeed at both sites, or at neither. -/
theorem steps_build (hb : b.ChecksAlone) (h : Stocked node) (restore : Bool) :
    Steps s s' node anyError BuiltAlike (b.build (s.inner [descriptorName]) restore)
      (b.build (s'.inner [descriptorName]) restore) := by
  have hsettings : ∀ s : Site, Settings.read (s.holding node) (s.inner [descriptorName]) =
      .ok stubSettings := by
    intro s
    rw [← s.directory_child]
    exact Isolated.settings s.free ⟨node, rfl, h.kindAt⟩
  have hparent : ∀ s : Site, (s.inner [descriptorName]).parent = s.directory := fun s =>
    Path.inner_parent _ _ _ []
  unfold Builder.build
  refine .tree ?_
  rw [hsettings, hsettings, hparent, hparent]
  dsimp only
  have hlast : ∀ absent : List String, Steps s s' node anyError BuiltAlike
      (if absent.isEmpty then b.buildSources s.directory stubSettings
        else pure (.failed ["Unable to restore: " ++ joinWith ", " absent ++ " not installed"]))
      (if absent.isEmpty then b.buildSources s'.directory stubSettings
        else pure (.failed ["Unable to restore: " ++ joinWith ", " absent ++ " not installed"])) := by
    intro absent
    split
    · exact steps_buildSources hb h
    · exact .pure ⟨rfl, nofun⟩
  split
  · cases hx : (Installed.missing b.installed stubSettings.requires).mapError Fault.requirement with
    | error e => exact .still (Work.ends_bind_iff.mpr (.inr ⟨e, ⟨rfl, rfl⟩, rfl⟩)) (Work.ends_bind_iff.mpr (.inr ⟨e, ⟨rfl, rfl⟩, rfl⟩)) (.error trivial)
    | ok absent => exact hlast absent
  · exact hlast []

/-! The usual builder. -/

/-- What a name leads to in a directory is what the directory has under it. -/
theorem read_beside {t : Tree} {p : Path} (h : t.node p = .ok (.dir entries)) (hn : IsName name) :
    t.read ((t.resolve p).join (.ofString name)) =
      ((Node.dir entries).alone.read ⟨.root, [name]⟩).mapError fun e =>
        ⟨e.fault, (t.resolve p).child name⟩ := by
  have hr : (t.resolve p).Resolved := Path.resolved_resolve t.here p
  have hup : ".." ∉ [name] := by simpa using Ne.symm hn.2
  have hc : ((t.resolve p).child name).Resolved :=
    ⟨hr.anchor, by simpa [Path.child] using ⟨hr.plain, Ne.symm hn.2⟩⟩
  have hchild : (t.resolve p).join (.ofString name) = (t.resolve p).child name := hn.div _
  have hdir := Tree.node_resolve h
  rw [Tree.node_resolved hr] at hdir
  have hnode : t.node ((t.resolve p).child name) =
      ((Node.dir entries).alone.node ⟨.root, [name]⟩).mapError fun e =>
        ⟨e.fault, (t.resolve p).child name⟩ := by
    rw [Tree.node_resolved hc, Tree.node_resolved ⟨rfl, hup⟩]
    change (t.root.follow ((t.resolve p).names ++ [name])).mapError _ = _
    rw [Node.follow_append_ok (eq_ok_of_mapError hdir)]
    change _ = (((Node.dir entries).follow [name]).mapError _).mapError _
    cases (Node.dir entries).follow [name] <;> rfl
  rw [hchild, Tree.read, Tree.read, hnode]
  cases (Node.dir entries).alone.node ⟨.root, [name]⟩ with
  | error e => rfl
  | ok n => cases n <;> rfl

theorem check_eq {w w' : Child.Surroundings}
    (h : Agree (fun e e' : FileError => e.fault = e'.fault) Eq
      (w.tree.read (w.here.join (.ofString name))) (w'.tree.read (w'.here.join (.ofString name)))) :
    Child.check w name = Child.check w' name := by
  unfold Child.check
  generalize w.tree.read (w.here.join (.ofString name)) = x at h
  generalize w'.tree.read (w'.here.join (.ofString name)) = x' at h
  cases h with
  | ok h => rw [h]
  | error h => simp only [h]

theorem checkFrom_congr {found found' : String → Except String String} {names : List String}
    (written : String) (h : ∀ n ∈ names, found n = found' n) :
    Child.checkFrom found written names = Child.checkFrom found' written names := by
  induction names generalizing written with
  | nil => rfl
  | cons n rest ih =>
    rw [Child.checkFrom, Child.checkFrom, h n List.mem_cons_self]
    cases found' n with
    | ok remarks => exact ih _ fun n hn => h n (List.mem_cons_of_mem _ hn)
    | error text => rfl

/-- The usual builder starts an interpreter that sees only its directory. -/
theorem checksAlone_startChild (b : Builder) (hp : b.python = "python3") (hb : b.run = startChild) :
    b.ChecksAlone where
  quiet := fun c => by
    rw [hb]
    exact Work.quiet_look _
  same := by
    intro t t' p p' entries names hd hd' hnames
    have hread : ∀ (t : Tree) (p : Path), t.node p = .ok (.dir entries) → (b.run
        (b.checkCommand p names) t).result = .ok (
          if Child.isOver (.int b.timeout) (Child.checkSources ⟨t, t.resolve p, []⟩ names).time then
            Child.timedOut (b.checkCommand p names).words (.int b.timeout)
          else ⟨(Child.checkSources ⟨t, t.resolve p, []⟩ names).code,
            Child.outputText (Child.checkSources ⟨t, t.resolve p, []⟩ names).out,
            Child.outputText (Child.checkSources ⟨t, t.resolve p, []⟩ names).err⟩) := by
      intro t p hd
      have hran : Child.ran ⟨t, t.resolve p, []⟩ (b.checkCommand p names).words =
          some (Child.checkSources ⟨t, t.resolve p, []⟩ names) := by
        rw [Builder.checkCommand, hp]
        rfl
      rw [hb]
      change Child.Command.run t (b.checkCommand p names) = _
      generalize Child.checkSources ⟨t, t.resolve p, []⟩ names = ended at hran ⊢
      have hcwd : (b.checkCommand p names).cwd = some p := rfl
      have henv : (b.checkCommand p names).environment = [] := rfl
      have htime : (b.checkCommand p names).timeout = .int b.timeout := rfl
      rw [Child.Command.run, Child.Command.directory, hcwd, henv, htime]
      simp only [hd, bind, Except.bind, pure, Except.pure, hran]
      cases Child.isOver (.int b.timeout) ended.time <;> rfl
    have hsame : Child.checkSources ⟨t, t.resolve p, []⟩ names =
        Child.checkSources ⟨t', t'.resolve p', []⟩ names := by
      refine checkFrom_congr "" fun n hn => check_eq ?_
      rw [read_beside hd (hnames n hn), read_beside hd' (hnames n hn)]
      cases (Node.dir entries).alone.read ⟨.root, [n]⟩ with
      | ok d => exact .ok rfl
      | error e => exact .error rfl
    rw [hread t p hd, hread t' p' hd', hsame]
    refine .ok ?_
    split <;> rfl

end Stencil.Build
