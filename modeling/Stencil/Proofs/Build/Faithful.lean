import Stencil.Proofs.Build.Elsewhere

/-!
What an isolated unit holds and what building it leaves. The unit of one source is its descriptor
and a copy of the source. If the name of the source ends in the suffix of sources as it is spelled,
the artifact has that source as its only member; a name that ends in it in other letters only is no
source to a build.
-/
namespace Stencil.Build
open Stencil.Files
open Stencil.Text

variable {s : Site} {source : Path} {d : Data} {name : String} {entries : List (String × Node)}
  {b : Builder}

/-- What a unit of one source holds. -/
def unitOf (name : String) (d : Data) : List (String × Node) :=
  [(descriptorName, .file (.ofText stubDescriptor)), (name, .file d)]

theorem write_alone (hn : name ≠ "..") (hs : name.utf8ByteSize ≤ maxNameBytes)
    (hf : entries.lookup name = none) : (Node.dir entries).alone.write ⟨.root, [name]⟩ d =
      .ok (Node.dir (entries ++ [(name, .file d)])).alone := by
  have hlocate : (Node.dir entries).alone.locate ⟨.root, [name]⟩ = .ok (.free [] name) := by
    change Tree.step _ [] (.dir entries) [name] = _
    rw [Tree.step_single hn (Nat.not_lt.mpr hs), hf]
    rfl
  rw [Tree.write, hlocate, ← putEntry_of_free hf]
  rfl

/-- A file is added to the directory at a site. -/
theorem write_holding (hn : name ≠ "..") (hs : name.utf8ByteSize ≤ maxNameBytes)
    (hf : entries.lookup name = none) : (s.holding (.dir entries)).write (s.inner [name]) d =
      .ok (s.holding (.dir (entries ++ [(name, .file d)]))) := by
  have hwrite : (s.holding (.dir entries)).write (s.inner [name]) d = _ :=
    s.free.write_inner (by simpa using hn.symm)
  rw [hwrite, write_alone hn hs hf]
  rfl

/-- Making a unit of a source that can be read leaves its descriptor and the copy. -/
theorem ends_isolate_site (hs : s.tree.node source = .ok (.file d)) (hn : IsName source.name)
    (hl : source.name.utf8ByteSize ≤ maxNameBytes) (hd : source.name ≠ descriptorName) :
    Work.Ends (isolate s.directory [source]) (s.holding (.dir []))
      (s.holding (.dir (unitOf source.name d))) (.ok (s.inner [descriptorName])) := by
  have hstub : Work.Ends (Work.change fun t =>
      (t.writeText (s.directory.child descriptorName) stubDescriptor).mapError CopyError.file)
      (s.holding (.dir []))
      (s.holding (.dir [(descriptorName, .file (.ofText stubDescriptor))])) (.ok ()) := by
    refine Work.ends_change_iff.mpr (.inl ⟨?_, rfl⟩)
    rw [s.directory_child, Tree.writeText, write_holding (by decide) (by decide) rfl]
    rfl
  have hcopy : Work.Ends (Work.change fun t => copyFile t source (s.directory.child source.name))
      (s.holding (.dir [(descriptorName, .file (.ofText stubDescriptor))]))
      (s.holding (.dir (unitOf source.name d))) (.ok ()) := by
    have hfree : List.lookup source.name [(descriptorName, Node.file (.ofText stubDescriptor))] =
        none := by
      rw [List.lookup_cons, beq_eq_false_iff_ne.mpr hd]
      rfl
    refine Work.ends_change_iff.mpr (.inl ⟨?_, rfl⟩)
    rw [s.directory_child, copyFile_holding s hs (by simpa using hn.2.symm),
      write_holding hn.2 hl hfree]
    rfl
  have hall : Work.Ends (copyAll s.directory [source])
      (s.holding (.dir [(descriptorName, .file (.ofText stubDescriptor))]))
      (s.holding (.dir (unitOf source.name d))) (.ok ()) :=
    (Work.ends_bind_ok hcopy).mpr (Work.ends_pure_iff.mpr ⟨rfl, rfl⟩)
  unfold isolate
  rw [Work.ends_bind_ok hstub, Work.ends_bind_ok hall, Work.ends_pure_iff]
  exact ⟨rfl, congrArg _ (s.directory_child _).symm⟩

/-! Where the artifact goes. -/

/-- The directories of the artifact, with what lies in the innermost. -/
def artifactDirs (inside : List (String × Node)) : Node :=
  .dir [("Debug", .dir [("py3", .dir inside)])]

theorem free_alone (hf : entries.lookup "bin" = none) :
    (Node.dir entries).alone.Free ⟨.root, []⟩ [] "bin" := by
  refine ⟨⟨entries, rfl⟩, ?_, by decide⟩
  change Tree.step _ [] (.dir entries) ["bin"] = _
  rw [Tree.step_single (by decide) (by decide), hf]
  rfl

theorem graft_alone (hf : entries.lookup "bin" = none) (node : Node) :
    (Node.dir entries).alone.graft [] "bin" node = (Node.dir (entries ++ [("bin", node)])).alone := by
  rw [← putEntry_of_free hf]
  rfl

theorem makeDir_alone_missing (hf : entries.lookup "bin" = none) (x : String) (rest : List String) :
    (Node.dir entries).alone.makeDir ⟨.root, "bin" :: x :: rest⟩ =
      .error ⟨.missing, ⟨.root, "bin" :: x :: rest⟩⟩ := by
  have hlocate : (Node.dir entries).alone.locate ⟨.root, "bin" :: x :: rest⟩ =
      .error .missing := by
    change Tree.step _ [] (.dir entries) ("bin" :: x :: rest) = _
    rw [Tree.step]
    simp only [Node.isDir, Node.child?, hf]
    rfl
  rw [Tree.makeDir, hlocate]
  rfl

theorem makeDirs_alone (hf : entries.lookup "bin" = none) :
    (Node.dir entries).alone.makeDirs ⟨.root, ["bin", "Debug", "py3"]⟩ =
      .ok (Node.dir (entries ++ [("bin", artifactDirs [])])).alone := by
  have hfree := free_alone hf
  have hfirst : (Node.dir entries).alone.makeDir ⟨.root, ["bin"]⟩ =
      .ok ((Node.dir entries).alone.graft [] "bin" (.dir [])) := by
    rw [Tree.makeDir, show (⟨.root, ["bin"]⟩ : Path) = (⟨.root, []⟩ : Path).child "bin" from rfl,
      hfree.locate]
    rfl
  have hsecond : ((Node.dir entries).alone.graft [] "bin" (.dir [])).makeDir
      ⟨.root, ["bin", "Debug"]⟩ =
        .ok ((Node.dir entries).alone.graft [] "bin" (.dir [("Debug", .dir [])])) := by
    rw [show (⟨.root, ["bin", "Debug"]⟩ : Path) = (⟨.root, []⟩ : Path).inner "bin" ["Debug"] from rfl,
      hfree.makeDir_inner (by decide)]
    rfl
  have hthird : ((Node.dir entries).alone.graft [] "bin" (.dir [("Debug", .dir [])])).makeDir
      ⟨.root, ["bin", "Debug", "py3"]⟩ =
        .ok ((Node.dir entries).alone.graft [] "bin" (artifactDirs [])) := by
    rw [show (⟨.root, ["bin", "Debug", "py3"]⟩ : Path) =
      (⟨.root, []⟩ : Path).inner "bin" ["Debug", "py3"] from rfl, hfree.makeDir_inner (by decide)]
    rfl
  have hparent : (⟨.root, ["bin", "Debug", "py3"]⟩ : Files.Path).parent =
      ⟨.root, ["bin", "Debug"]⟩ := rfl
  have hparent' : (⟨.root, ["bin", "Debug"]⟩ : Files.Path).parent = ⟨.root, ["bin"]⟩ := rfl
  rw [← graft_alone hf, Tree.makeDirs]
  simp only [List.length_cons, List.length_nil, Tree.makeDirsFuel_succ, makeDir_alone_missing hf,
    beq_self_eq_true, hparent, hparent', hfirst, List.isEmpty_cons, Bool.not_false, Bool.and_self,
    if_true, Except.bind, hsecond, hthird]

/-- Writing the artifact, which may be there already. -/
theorem write_artifact {inside : List (String × Node)} (hf : entries.lookup "bin" = none)
    (hi : inside = [] ∨ ∃ old, inside = [("Config.zip", .file old)]) :
    (Node.dir (entries ++ [("bin", artifactDirs inside)])).alone.write
        ⟨.root, ["bin", "Debug", "py3", "Config.zip"]⟩ d =
      .ok (Node.dir (entries ++ [("bin", artifactDirs [("Config.zip", .file d)])])).alone := by
  rw [← graft_alone hf, ← graft_alone hf, show (⟨.root, ["bin", "Debug", "py3", "Config.zip"]⟩ :
    Path) = (⟨.root, []⟩ : Path).inner "bin" ["Debug", "py3", "Config.zip"] from rfl,
    (free_alone hf).write_inner (by decide)]
  rcases hi with rfl | ⟨old, rfl⟩
  · rfl
  · rfl

theorem makeDirs_holding (hf : entries.lookup "bin" = none) :
    (s.holding (.dir entries)).makeDirs (s.inner ["bin", "Debug", "py3"]) =
      .ok (s.holding (.dir (entries ++ [("bin", artifactDirs [])]))) := by
  obtain ⟨q, hq⟩ := s.free.makeDirs_inner (.dir entries)
    (show ".." ∉ ["bin", "Debug", "py3"] by decide)
  have hmake : (s.holding (.dir entries)).makeDirs (s.inner ["bin", "Debug", "py3"]) = _ := hq
  rw [hmake, makeDirs_alone hf]
  rfl

theorem write_artifact_holding {inside : List (String × Node)} (hf : entries.lookup "bin" = none)
    (hi : inside = [] ∨ ∃ old, inside = [("Config.zip", .file old)]) :
    (s.holding (.dir (entries ++ [("bin", artifactDirs inside)]))).write
        (stubSettings.artifact s.directory) d =
      .ok (s.holding (.dir (entries ++ [("bin", artifactDirs [("Config.zip", .file d)])]))) := by
  have hwrite : (s.holding (.dir (entries ++ [("bin", artifactDirs inside)]))).write
      (s.inner ["bin", "Debug", "py3", "Config.zip"]) d = _ := s.free.write_inner (by decide)
  rw [artifact_inner, hwrite, write_artifact hf hi]
  rfl

/-- A file beside the descriptor is packed under its name, with its bytes. -/
theorem member_holding (hn : IsName name) (hs : name.utf8ByteSize ≤ maxNameBytes)
    (hl : entries.lookup name = some (.file d)) :
    member (s.holding (.dir entries)) s.directory name = .ok (name, d.toBytes) := by
  have halone : (Node.dir entries).alone.node ⟨.root, [name]⟩ = .ok (.file d) := by
    have hlocate : (Node.dir entries).alone.locate ⟨.root, [name]⟩ = .ok (.node [name] (.file d)) := by
      change Tree.step _ [] (.dir entries) [name] = _
      rw [Tree.step_single hn.2 (Nat.not_lt.mpr hs), hl]
      rfl
    rw [Files.Tree.node, hlocate]
  have hnode : (s.holding (.dir entries)).node (s.directory / name) = .ok (.file d) := by
    rw [hn.div, s.directory_child, s.node_inner (by simpa using hn.2.symm), halone]
    rfl
  rw [member, hnode]
  rfl

/-- Packing one file leaves an archive with that file alone. -/
theorem ends_pack (hf : entries.lookup "bin" = none) (hn : IsName name)
    (hs : name.utf8ByteSize ≤ maxNameBytes) (hl : entries.lookup name = some (.file d)) :
    Work.Ends (pack (stubSettings.artifact s.directory) s.directory [name])
      (s.holding (.dir entries)) (s.holding (.dir (entries ++
        [("bin", artifactDirs [("Config.zip", .file (.archive [(name, d.toBytes)]))])]))) (.ok ()) := by
  have hparent : (stubSettings.artifact s.directory).parent = s.inner ["bin", "Debug", "py3"] := by
    rw [artifact_inner]
    exact Path.inner_parent _ _ _ ["bin", "Debug", "py3"]
  have hkept : ∀ node, (entries ++ [("bin", node)]).lookup name = some (.file d) := fun node => by
    rw [List.lookup_append, hl]
    rfl
  unfold pack
  rw [hparent, Work.ends_bind_ok (Work.ends_change_iff.mpr (.inl ⟨makeDirs_holding hf, rfl⟩)),
    Work.ends_bind_ok (Work.ends_change_iff.mpr
      (.inl ⟨write_artifact_holding hf (.inl rfl), rfl⟩))]
  refine Work.ends_change_iff.mpr (.inl ⟨?_, rfl⟩)
  rw [List.mapM_cons, member_holding hn hs (hkept _)]
  exact write_artifact_holding hf (.inr ⟨_, rfl⟩)

/-! The build. -/

/-- A builder to which nothing that units require is missing, and whose child accepts a file that it
is given. -/
structure Builder.Accepts (b : Builder) (directory : Path) (name : String) : Prop where
  installed : Installed.missing b.installed stubSettings.requires = .ok []
  checks : ∀ t, ∃ done, Work.Ends (b.run (b.checkCommand directory [name])) t t (.ok done) ∧
    done.code = 0

/-- The names beside a descriptor that are those of sources. -/
theorem sourceNames_unit : sourceNames (s.holding (.dir (unitOf name d))) s.directory =
    if name.endsWith sourceSuffix then [name] else [] := by
  have hlisted : sourceNames (s.holding (.dir (unitOf name d))) s.directory =
      ((([descriptorName, name] : List String).mergeSort fun a b => decide (a ≤ b)).filter
        fun n => n.endsWith sourceSuffix) := by
    rw [sourceNames, Tree.namesIn, s.node_directory]
    rfl
  have hperm := (List.mergeSort_perm [descriptorName, name] fun a b => decide (a ≤ b)).filter
    fun n => n.endsWith sourceSuffix
  have hstub : descriptorName.endsWith sourceSuffix = false := by decide +kernel
  rw [← hlisted, List.filter_cons, hstub, if_neg (by decide), List.filter_cons] at hperm
  split at hperm
  · rename_i h
    rw [if_pos h]
    exact List.perm_singleton.mp hperm
  · rename_i h
    rw [if_neg h]
    exact List.perm_nil.mp hperm

/-- Building a unit comes down to its sources. -/
theorem ends_build_iff {after : Tree} {res : Except Fault Result}
    (hb : Installed.missing b.installed stubSettings.requires = .ok []) :
    Work.Ends (b.build (s.inner [descriptorName]) true) (s.holding (.dir (unitOf name d))) after res ↔
      Work.Ends (b.buildSources s.directory stubSettings) (s.holding (.dir (unitOf name d))) after
        res := by
  have hsettings : Settings.read (s.holding (.dir (unitOf name d))) (s.inner [descriptorName]) =
      .ok stubSettings := by
    rw [← s.directory_child]
    exact Isolated.settings s.free ⟨_, rfl, rfl⟩
  have hparent : (s.inner [descriptorName]).parent = s.directory := Path.inner_parent _ _ _ []
  unfold Builder.build
  rw [Work.ends_bind_ok (Work.ends_tree_iff.mpr ⟨rfl, rfl⟩), hsettings, hparent]
  dsimp only
  rw [if_pos rfl, hb]
  exact Work.ends_bind_ok (a := []) (Work.ends_pure_iff.mpr ⟨rfl, rfl⟩)

/-- A source with the suffix of sources is all that its unit is built to. -/
theorem ends_build_source (hb : b.Accepts s.directory name) (hn : IsName name)
    (hs : name.utf8ByteSize ≤ maxNameBytes) (hsuffix : name.endsWith sourceSuffix = true) :
    Work.Ends (b.build (s.inner [descriptorName]) true) (s.holding (.dir (unitOf name d)))
      (s.holding (.dir (unitOf name d ++
        [("bin", artifactDirs [("Config.zip", .file (.archive [(name, d.toBytes)]))])])))
      (.ok { success := true, artifact := some (stubSettings.artifact s.directory) }) := by
  have hne : name ≠ descriptorName := by
    rintro rfl
    revert hsuffix
    decide +kernel
  have hbin : name ≠ "bin" := by
    rintro rfl
    revert hsuffix
    decide +kernel
  have hfree : (unitOf name d).lookup "bin" = none := by
    rw [unitOf, List.lookup_cons, List.lookup_cons, beq_eq_false_iff_ne.mpr hbin.symm]
    rfl
  have hlookup : (unitOf name d).lookup name = some (.file d) := by
    rw [unitOf, List.lookup_cons, beq_eq_false_iff_ne.mpr hne, List.lookup_cons, beq_self_eq_true]
  obtain ⟨done, hdone, hcode⟩ := hb.checks (s.holding (.dir (unitOf name d)))
  rw [ends_build_iff hb.installed]
  unfold Builder.buildSources
  rw [Work.ends_bind_ok (Work.ends_tree_iff.mpr ⟨rfl, rfl⟩)]
  dsimp only
  rw [sourceNames_unit, if_pos hsuffix, if_neg (by simp),
    Work.ends_bind_ok (Work.ends_mapError_iff.mpr ⟨_, hdone, rfl⟩), if_neg (by simp [hcode]),
    Work.ends_bind_ok (Work.ends_mapError_iff.mpr ⟨_, ends_pack hfree hn hs hlookup, rfl⟩)]
  exact Work.ends_pure_iff.mpr ⟨rfl, rfl⟩

/-- A name without the suffix, as it is spelled, is no source. -/
theorem ends_build_nothing (hb : Installed.missing b.installed stubSettings.requires = .ok [])
    (hsuffix : name.endsWith sourceSuffix = false) :
    Work.Ends (b.build (s.inner [descriptorName]) true) (s.holding (.dir (unitOf name d)))
      (s.holding (.dir (unitOf name d)))
      (.ok (.failed ["Nothing to build in '" ++ s.directory.toString ++ "'"])) := by
  rw [ends_build_iff hb]
  have hnames : sourceNames (s.holding (.dir (unitOf name d))) s.directory = [] := by
    rw [sourceNames_unit, hsuffix]
    rfl
  unfold Builder.buildSources
  rw [Work.ends_bind_ok (Work.ends_tree_iff.mpr ⟨rfl, rfl⟩)]
  dsimp only
  rw [hnames, if_pos List.isEmpty_nil]
  exact Work.ends_pure_iff.mpr ⟨rfl, rfl⟩

end Stencil.Build
