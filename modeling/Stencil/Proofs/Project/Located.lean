import Stencil.Proofs.Files.Overlay
import Stencil.Proofs.Project.Loading
import Stencil.Proofs.Text

/-!
The places that a workspace names, on a tree that was written over. A reference leads to the
descriptor that it led to before, if there was one; where there was nothing to be read, there is
still nothing, also where a directory was made.
-/
namespace Stencil.Project
open Stencil.Files
open Stencil.Files.Tree (Overlaid Clear Unfound failure)
open Stencil.Text

variable {suffixes : List String} {W D : List String → Prop} {t X Y A B : Tree}
  {p p' q raw : Path} {d : Descriptor}

/-! Names of descriptors. -/

theorem suffix_append (name : String) :
    ∃ front, name.toList = front ++ (Path.splitSuffix name).2.toList := by
  simp only [Path.splitSuffix]
  split
  · exact ⟨name.toList, by simp⟩
  · exact ⟨_, by rw [String.toList_ofList]; exact (List.take_append_drop _ _).symm⟩

/-- A descriptor has a name with the suffix of descriptors. -/
theorem endsIn_of_isDescriptorName (hp : p.names ≠ []) (h : isDescriptorName p = true) :
    EndsIn ".toml" p.names := by
  refine ⟨p.names.dropLast, p.name, ?_, ?_⟩
  · rw [Path.name, List.getLast?_eq_getLast_of_ne_nil hp]
    exact (List.dropLast_append_getLast hp).symm
  · have hlower : lowerChars p.suffix.toList = ".toml".toList := by
      have hl : lower p.suffix = ".toml" := by simpa [isDescriptorName] using h
      rw [← hl, lower, String.toList_ofList]
    obtain ⟨front, hfront⟩ := suffix_append p.name
    obtain ⟨more, hmore⟩ := @lowerChars_append front p.suffix.toList
      (by rw [hlower]; decide) (by rw [hlower]; decide)
    have hself : lowerChars ".toml".toList = ".toml".toList := by decide +kernel
    rw [matchesSuffix, hself, hfront, endsWith, List.isSuffixOf_iff_suffix]
    exact ⟨more, by rw [← hlower]; exact hmore.symm⟩

/-- The descriptor in a directory. -/
def inside (p : Path) : Path := p.child "pyproject.toml"

theorem div_pyproject (p : Path) : p / "pyproject.toml" = inside p := by
  change p.join (Path.ofString "pyproject.toml") = _
  rw [show Path.ofString "pyproject.toml" = ⟨.here, ["pyproject.toml"]⟩ by decide +kernel]
  rfl

theorem resolved_inside (h : p.Resolved) : (inside p).Resolved := by
  refine ⟨h.anchor, ?_⟩
  simp only [inside, Path.child, List.mem_append, not_or]
  exact ⟨h.plain, by decide⟩

theorem endsIn_inside (p : Path) : EndsIn ".toml" (inside p).names :=
  ⟨p.names, "pyproject.toml", rfl, by decide +kernel⟩

theorem isDescriptorName_inside (p : Path) : isDescriptorName (inside p) = true := by
  have hsuffix : (inside p).suffix = (Path.splitSuffix "pyproject.toml").2 := by
    simp [Path.suffix, Path.name, inside, Path.child]
  rw [isDescriptorName, hsuffix]
  decide +kernel

theorem descriptorPath_dir {entries : List (String × Node)} (h : t.node p = .ok (.dir entries)) :
    descriptorPath t p = .ok (inside p) := by
  rw [descriptorPath, Tree.isDir_eq_true_iff.mpr ⟨entries, h⟩, ← div_pyproject]
  rfl

theorem descriptorPath_plain (h : t.isDir p = .ok false) : descriptorPath t p = .ok p := by
  rw [descriptorPath, h]
  rfl

/-- A location stands for itself, or for the descriptor in the directory that lies there. -/
theorem descriptorPath_eq_ok (h : descriptorPath t raw = .ok p) :
    (∃ entries, t.node raw = .ok (.dir entries)) ∧ p = inside raw ∨
      t.isDir raw = .ok false ∧ p = raw := by
  obtain ⟨isDir, hdir, h⟩ := bind_eq_ok h
  cases h
  cases isDir with
  | true =>
    rw [if_pos rfl, div_pyproject]
    exact Or.inl ⟨Tree.isDir_eq_true_iff.mp hdir, rfl⟩
  | false => exact Or.inr ⟨hdir, rfl⟩

/-! The locations that a descriptor names. -/

def listedIn (table : Plain) : Except ShapeFault (List Plain) := do
  (← table.nestedFieldOr ["tool", "ntgen", "references"] (.list [])).itemsOf

/-- The locations that the references in a file name. -/
def namedBy (t : Tree) (p : Path) : List Path :=
  match readTable t p with
  | .error _ => []
  | .ok table =>
    match listedIn table with
    | .error _ => []
    | .ok vs => vs.filterMap fun v => v.pathText.toOption.map fun s => t.resolve (p.parent / s)

/-- What reading a descriptor takes. -/
structure Reads (t : Tree) (p : Path) (d : Descriptor) (table : Plain) (vs : List Plain) :
    Prop where
  found : readTable t (t.resolve p) = .ok table
  named : nameIn (t.resolve p).parent.name table = .ok d.name
  listed : listedIn table = .ok vs
  references : vs.mapM (reference t (t.resolve p).parent) = .ok d.references
  path : d.path = t.resolve p

theorem eq_ok_of_shaped {α : Type} {x : Except ShapeFault α} {a : α}
    (h : shaped x = .ok a) : x = .ok a := by
  cases x with
  | error => cases h
  | ok b =>
    cases h
    rfl

theorem reads_of_read (h : Descriptor.read t p = .ok d) : ∃ table vs, Reads t p d table vs := by
  obtain ⟨table, htable, h⟩ := bind_eq_ok h
  obtain ⟨name, hname, h⟩ := bind_eq_ok h
  obtain ⟨vs, hvs, h⟩ := bind_eq_ok h
  obtain ⟨references, hreferences, h⟩ := bind_eq_ok h
  cases h
  exact ⟨table, vs, htable, eq_ok_of_shaped hname, eq_ok_of_shaped hvs, hreferences, rfl⟩

theorem Reads.read {table : Plain} {vs : List Plain} (h : Reads t p d table vs) :
    Descriptor.read t p = .ok d := by
  have hlisted : shaped (listedIn table) = .ok vs := by rw [h.listed]; rfl
  have hnamed : shaped (nameIn (t.resolve p).parent.name table) = .ok d.name := by
    rw [h.named]
    rfl
  change (readTable t (t.resolve p)).bind (fun table =>
    (shaped (nameIn (t.resolve p).parent.name table)).bind fun name =>
      (shaped (listedIn table)).bind fun vs =>
        (vs.mapM (reference t (t.resolve p).parent)).bind fun references =>
          .ok ⟨t.resolve p, name, references⟩) = .ok d
  rw [h.found, Except.bind, hnamed, Except.bind, hlisted, Except.bind, h.references, ← h.path]
  rfl

/-- Only a file that is missing or says something wrong is skipped. -/
theorem readTable_of_loadError {e : DescriptorError} (h : Descriptor.read t p = .error e)
    (he : e.isLoadError = true) : readTable t (t.resolve p) = .error e := by
  have hshaped : ∀ {α : Type} {x : Except ShapeFault α}, shaped x ≠ .error e := by
    intro α x hx
    cases x with
    | ok => cases hx
    | error =>
      cases hx
      cases he
  have hreference : ∀ (directory : Path) (v : Plain), reference t directory v ≠ .error e := by
    intro directory v hv
    rcases bind_eq_error hv with hs | ⟨s, _, hv⟩
    · exact hshaped hs
    · split at hv
      · cases hv
      · cases hv
        cases he
  rcases bind_eq_error h with htable | ⟨table, _, h⟩
  · exact htable
  rcases bind_eq_error h with hname | ⟨name, _, h⟩
  · exact absurd hname hshaped
  rcases bind_eq_error h with hvs | ⟨vs, _, h⟩
  · exact absurd hvs hshaped
  rcases bind_eq_error h with hreferences | ⟨references, _, h⟩
  · obtain ⟨v, _, hv⟩ := exists_of_mapM_error hreferences
    exact absurd hv (hreference _ v)
  · cases h

theorem read_of_readTable_error {e : DescriptorError}
    (h : readTable t (t.resolve p) = .error e) : Descriptor.read t p = .error e := by
  change (readTable t (t.resolve p)).bind _ = _
  rw [h]
  rfl

theorem readTable_congr (h : B.node p = A.node p) : readTable B p = readTable A p := by
  simp only [readTable, Tree.readText, Tree.read, h]

/-! On a tree that was written over. -/

/-- What a run reads and what it writes have nothing to do with each other: no file is written at
or above a located place, no new name has the suffix of descriptors, and the locations that are
named at a located place are located as well. -/
structure Sheltered (suffixes : List String) (W D : List String → Prop) (located : Path → Prop)
    (t : Tree) : Prop where
  written : Unfound suffixes W
  made : Unfound suffixes D
  toml : ".toml" ∈ suffixes
  resolved : ∀ p, located p → p.Resolved
  clear : ∀ p, located p → Clear W D p
  closed : ∀ raw p q, located raw → descriptorPath t raw = .ok p → q ∈ namedBy t p → located q

variable {located : Path → Prop}

/-- A location that stands for a descriptor stands for one later as well. -/
theorem exists_descriptorPath (hr : raw.Resolved) (hc : Clear W D raw) (ho : Overlaid suffixes W D X Y)
    (h : descriptorPath X raw = .ok p) : ∃ p', descriptorPath Y raw = .ok p' := by
  have hres : X.resolve raw = raw := hr.resolve_eq X.here
  cases X.seen hr with
  | file d hf =>
    have hw : ¬W (X.resolve raw).names := by rw [hres]; exact hc.not_written
    exact ⟨_, descriptorPath_plain (Tree.isDir_file (ho.node_file hf hw))⟩
  | directory entries hd =>
    obtain ⟨entries', hd'⟩ := ho.node_dir hd
    exact ⟨_, descriptorPath_dir hd'⟩
  | missing hm =>
    rcases ho.node_missing hr hc hm with hm' | ⟨entries, hd⟩
    · exact ⟨_, descriptorPath_plain (Tree.isDir_fault hm' (by decide))⟩
    · exact ⟨_, descriptorPath_dir hd⟩
  | notDirectory hn =>
    exact ⟨_, descriptorPath_plain (Tree.isDir_fault (ho.node_notDirectory hr hc hn) (by decide))⟩
  | tooLong hl =>
    rw [descriptorPath, Tree.isDir_tooLong hl] at h
    cases h

namespace Sheltered

variable (hs : Sheltered suffixes W D located t)
include hs

theorem not_written_inside (p : Path) : ¬W (inside p).names := fun hw =>
  hs.written _ hw _ hs.toml (endsIn_inside p)

theorem not_made_inside (p : Path) : ¬D (inside p).names := fun hd =>
  hs.made _ hd _ hs.toml (endsIn_inside p)

theorem clear_inside (h : Clear W D p) : Clear W D (inside p) := by
  intro q hq
  have hq' : q <+: p.names ++ ["pyproject.toml"] := hq
  rcases List.prefix_concat_iff.mp hq' with rfl | hq
  · exact ⟨hs.not_written_inside p, fun hd => absurd hd (hs.not_made_inside p)⟩
  · refine ⟨(h q hq).1, fun hd x hx => ?_⟩
    have hx' : q ++ [x] <+: p.names ++ ["pyproject.toml"] := hx
    rcases List.prefix_concat_iff.mp hx' with heq | hx
    · cases (List.append_inj' heq rfl).2
      decide
    · exact (h q hq).2 hd x hx

/-- Whatever a location stands for is as clear as the location. -/
theorem clear_path (hr : raw.Resolved) (hc : Clear W D raw) (h : descriptorPath X raw = .ok p) :
    p.Resolved ∧ Clear W D p := by
  rcases descriptorPath_eq_ok h with ⟨_, rfl⟩ | ⟨_, rfl⟩
  · exact ⟨resolved_inside hr, hs.clear_inside hc⟩
  · exact ⟨hr, hc⟩

end Sheltered

/-- Trees that come one after another: a location was looked up on `X` and is followed on `A`; later
it is looked up on `Y` and followed on `B`, where no directory is new. -/
structure Stages (suffixes : List String) (W D : List String → Prop) (t X A Y B : Tree) :
    Prop where
  first : Overlaid suffixes W D t X
  before : Overlaid suffixes W D X A
  lookups : Overlaid suffixes W D X Y
  follows : Overlaid suffixes W D A B
  after : Overlaid suffixes W D Y B
  dirs : ∀ names, B.kindAt names = some .directory → Y.kindAt names = some .directory

/-- What a clear location stands for at two stages. -/
structure Stands (W D : List String → Prop) (X Y : Tree) (raw p p' : Path) : Prop where
  resolved : raw.Resolved
  clear : Clear W D raw
  early : descriptorPath X raw = .ok p
  late : descriptorPath Y raw = .ok p'

section Stands

variable (hs : Sheltered suffixes W D located t) (hst : Stages suffixes W D t X A Y B)
include hs hst

/-- A location that leads to a file leads to the same file later. -/
theorem Stands.file {data : Data} (h : Stands W D X Y raw p p')
    (hf : A.node p = .ok (.file data)) : p' = p ∧ B.node p = .ok (.file data) := by
  obtain ⟨hr, hc⟩ := hs.clear_path h.resolved h.clear h.early
  have hw : ¬W (A.resolve p).names := by
    rw [Tree.resolve, hr.resolve_eq]
    exact hc.not_written
  have hb := hst.follows.node_file hf hw
  refine ⟨?_, hb⟩
  have hp' := h.late
  rcases descriptorPath_eq_ok h.early with ⟨⟨entries, hd⟩, rfl⟩ | ⟨_, rfl⟩
  · obtain ⟨entries', hd'⟩ := hst.lookups.node_dir hd
    rw [descriptorPath_dir hd'] at hp'
    exact (Except.ok.inj hp').symm
  · rcases descriptorPath_eq_ok hp' with ⟨⟨entries, hd⟩, rfl⟩ | ⟨_, rfl⟩
    · obtain ⟨entries', hd'⟩ := hst.after.node_dir hd
      rw [hb] at hd'
      cases hd'
    · rfl

/-- A location that leads to a file led to it from the start. -/
theorem Stands.first {data : Data} (h : Stands W D X Y raw p p')
    (hf : A.node p = .ok (.file data)) :
    t.node p = .ok (.file data) ∧ descriptorPath t raw = .ok p := by
  obtain ⟨hr, hc⟩ := hs.clear_path h.resolved h.clear h.early
  have ht := (hst.first.trans hst.before).node_file_old hr hc.not_written hf
  refine ⟨ht, ?_⟩
  rcases descriptorPath_eq_ok h.early with ⟨_, rfl⟩ | ⟨_, rfl⟩
  · rcases Tree.node_parent hr ht with hnil | ⟨entries, hd⟩
    · simp [inside, Path.child] at hnil
    · have hparent : (inside raw).parent = raw := by simp [inside, Path.child, Path.parent]
      rw [hparent] at hd
      exact descriptorPath_dir hd
  · exact descriptorPath_plain (Tree.isDir_file ht)

omit hs hst in
/-- A location stands for a file as long as it lies there. -/
theorem descriptorPath_later {data : Data} (ho : Overlaid suffixes W D X Y)
    (h : descriptorPath X raw = .ok p) (hf : Y.node p = .ok (.file data)) :
    descriptorPath Y raw = .ok p := by
  rcases descriptorPath_eq_ok h with ⟨⟨entries, hd⟩, rfl⟩ | ⟨_, rfl⟩
  · obtain ⟨entries', hd'⟩ := ho.node_dir hd
    exact descriptorPath_dir hd'
  · exact descriptorPath_plain (Tree.isDir_file hf)

/-- A location that leads to a file would do so if it were looked up now. -/
theorem Stands.now {data : Data} (h : Stands W D X Y raw p p')
    (hf : A.node p = .ok (.file data)) : Stands W D A B raw p p := by
  have hA := descriptorPath_later hst.before h.early hf
  exact ⟨h.resolved, h.clear, hA, descriptorPath_later hst.follows hA (h.file hs hst hf).2⟩

/-- A location that leads nowhere leads nowhere later. -/
theorem Stands.missing (h : Stands W D X Y raw p p')
    (hm : A.node p = .error (failure p .missing)) : B.node p' = .error (failure p' .missing) := by
  -- Nothing lies inside a directory that was not there.
  have hinside : A.node (inside raw) = .error (failure (inside raw) .missing) →
      B.node (inside raw) = .error (failure (inside raw) .missing) := by
    intro hm
    have hri := resolved_inside h.resolved
    rcases hst.follows.node_missing hri (hs.clear_inside h.clear) hm with hb | ⟨es, hb⟩
    · exact hb
    · rcases hst.follows.new _ (Tree.kindAt_of_fault hri hm (by decide)) with hn | ⟨_, hd⟩ | ⟨_, hw⟩
      · rw [Tree.kindAt_of_node hri hb] at hn
        cases hn
      · exact absurd hd (hs.not_made_inside raw)
      · exact absurd hw (hs.not_written_inside raw)
  have hp' := h.late
  rcases descriptorPath_eq_ok h.early with ⟨⟨entries, hd⟩, rfl⟩ | ⟨_, rfl⟩
  · obtain ⟨entries', hd'⟩ := hst.lookups.node_dir hd
    rw [descriptorPath_dir hd'] at hp'
    cases hp'
    exact hinside hm
  · rcases descriptorPath_eq_ok hp' with ⟨_, rfl⟩ | ⟨hdir, rfl⟩
    · exact hinside (Tree.node_child_of_fault h.resolved hm (by decide))
    · rcases hst.follows.node_missing h.resolved h.clear hm with hb | ⟨entries, hb⟩
      · exact hb
      · -- A directory at the location would have been found.
        have hkind := hst.dirs _ (Tree.kindAt_of_node h.resolved hb)
        cases Y.seen h.resolved with
        | file d hy =>
          rw [Tree.kindAt_of_node h.resolved hy] at hkind
          cases hkind
        | directory es hy => cases (Tree.isDir_eq_true_iff.mpr ⟨es, hy⟩).symm.trans hdir
        | missing hy => cases hkind.symm.trans (Tree.kindAt_of_fault h.resolved hy (by decide))
        | notDirectory hy => cases hkind.symm.trans (Tree.kindAt_of_fault h.resolved hy (by decide))
        | tooLong hy => cases (Tree.isDir_tooLong hy).symm.trans hdir

end Stands

/-- What one of the locations stands for on two trees. -/
def Link (W D : List String → Prop) (located : Path → Prop) (X Y : Tree) (p p' : Path) : Prop :=
  ∃ raw, located raw ∧ Stands W D X Y raw p p'

/-- Descriptors at the same place that say the same, and whose references are related. -/
structure Descriptor.Alike (R : Path → Path → Prop) (d d' : Descriptor) : Prop where
  path : d'.path = d.path
  found : R d.path d.path
  name : d'.name = d.name
  references : List.Forall₂ R d.references d'.references

section Link

variable (hs : Sheltered suffixes W D located t) (hst : Stages suffixes W D t X A Y B)
include hs hst

/-- A location is looked up again where a reference names it. -/
theorem reference_later {directory : Path} {v : Plain} (h : reference A directory v = .ok q)
    (hl : ∀ s, v.pathText = .ok s → located (t.resolve (directory / s))) :
    ∃ q', reference B directory v = .ok q' ∧ Link W D located A B q q' := by
  obtain ⟨s, hv, h⟩ := bind_eq_ok h
  have htext : v.pathText = .ok s := by
    cases hv' : v.pathText with
    | error => rw [hv'] at hv; cases hv
    | ok => rw [hv'] at hv; cases hv; rfl
  have hA : A.resolve (directory / s) = t.resolve (directory / s) := by
    rw [Tree.resolve, Tree.resolve, hst.before.here, hst.first.here]
  have hB : B.resolve (directory / s) = t.resolve (directory / s) := by
    rw [← hA, Tree.resolve, Tree.resolve, hst.follows.here]
  rw [hA] at h
  split at h
  · rename_i p hp
    cases h
    have hloc := hl s htext
    have hr := hs.resolved _ hloc
    have hc := hs.clear _ hloc
    obtain ⟨q', hq'⟩ := exists_descriptorPath hr hc hst.follows hp
    refine ⟨q', ?_, _, hloc, hr, hc, hp, hq'⟩
    change (shaped v.pathText).bind _ = _
    rw [hv, Except.bind, hB, hq']
    rfl
  · cases h

/-- A descriptor that is read is read again, with the same name and the same locations. -/
theorem Link.read (h : Link W D located X Y p p') (hd : Descriptor.read A p = .ok d) :
    ∃ d', p' = p ∧ Descriptor.read B p = .ok d' ∧ d.Alike (Link W D located A B) d' := by
  obtain ⟨raw, hloc, h⟩ := h
  obtain ⟨hr, hc⟩ := hs.clear_path h.resolved h.clear h.early
  have hself : ∀ T : Tree, T.resolve p = p := fun T => hr.resolve_eq T.here
  obtain ⟨data, hdata⟩ := (Descriptor.placed_of_read hd).file
  rw [Descriptor.path_of_read hd, hself] at hdata
  have hfile := Tree.node_of_read hdata
  obtain ⟨rfl, hlater⟩ := h.file hs hst hfile
  obtain ⟨hfirst, hstart⟩ := h.first hs hst hfile
  obtain ⟨table, vs, hreads⟩ := reads_of_read hd
  have hfound := hreads.found
  rw [hself] at hfound
  have hnamed : namedBy t p' = vs.filterMap fun v =>
      v.pathText.toOption.map fun s => t.resolve (p'.parent / s) := by
    rw [namedBy, readTable_congr (hfirst.trans hfile.symm), hfound]
    dsimp only
    rw [hreads.listed]
  have hreferences := hreads.references
  rw [hself] at hreferences
  obtain ⟨qs, hqs, hall⟩ := mapM_related (g := reference B p'.parent)
    (R := Link W D located A B) hreferences fun v hv q hq =>
      reference_later hs hst hq fun s hsv => by
        refine hs.closed _ _ _ hloc hstart ?_
        rw [hnamed]
        exact List.mem_filterMap.mpr ⟨v, hv, by rw [hsv]; rfl⟩
  have hreads' : Reads B p' ⟨p', d.name, qs⟩ table vs := by
    refine ⟨?_, ?_, hreads.listed, ?_, ?_⟩
    · rw [hself, readTable_congr (hlater.trans hfile.symm), hfound]
    · rw [hself, ← hself A]
      exact hreads.named
    · rw [hself]
      exact hqs
    · rw [hself]
  have hpath : d.path = p' := by rw [hreads.path, hself]
  exact ⟨⟨p', d.name, qs⟩, rfl, hreads'.read,
    ⟨hpath.symm, ⟨raw, hloc, by rw [hpath]; exact h.now hs hst hfile⟩, rfl, hall⟩⟩

/-- What is skipped is skipped again. -/
theorem Stands.skipped {e : DescriptorError} (h : Stands W D X Y raw p p')
    (hd : Descriptor.read A p = .error e) (he : e.isLoadError = true) :
    ∃ e', Descriptor.read B p' = .error e' ∧ e'.isLoadError = true := by
  obtain ⟨hr, hc⟩ := hs.clear_path h.resolved h.clear h.early
  obtain ⟨hr', _⟩ := hs.clear_path h.resolved h.clear h.late
  have htable := readTable_of_loadError hd he
  rw [Tree.resolve, hr.resolve_eq] at htable
  have hlater : ∀ {e'}, readTable B p' = .error e' → Descriptor.read B p' = .error e' := by
    intro e' h'
    refine read_of_readTable_error ?_
    rwa [Tree.resolve, hr'.resolve_eq]
  have hfault : ∀ {f}, A.node p = .error (failure p f) → f ≠ .missing → False := by
    intro f hf hne
    rw [readTable, Tree.readText_fault hf] at htable
    dsimp only [Tree.failure] at htable
    rw [if_neg (by simpa using hne)] at htable
    cases htable
    cases he
  cases A.seen hr with
  | file data hf =>
    obtain ⟨rfl, hb⟩ := h.file hs hst hf
    exact ⟨e, hlater (by rw [readTable_congr (hb.trans hf.symm), htable]), he⟩
  | directory es hf =>
    rw [readTable, Tree.readText_dir hf] at htable
    cases htable
    cases he
  | missing hm =>
    refine ⟨.notFound p', hlater ?_, rfl⟩
    rw [readTable, Tree.readText_fault (h.missing hs hst hm)]
    rfl
  | notDirectory hn => exact (hfault hn (by decide)).elim
  | tooLong hl => exact (hfault hl (by decide)).elim

end Link

end Stencil.Project
