import Stencil.Proofs.Configuration.Stages

/-!
The unit of a source that resolving selects. Resolving takes a suffix in any letters for that of
sources, building only one that is spelled alike. So a unit has its source in any case, and is built
to that source alone, or there is nothing in it to build.
-/
namespace Stencil.Resolver
open Stencil.Build
open Stencil.Files
open Stencil.Project

variable {r : Resolver} {t : Tree} {e : Entry} {u : Project.Unit} {file p q : Path} {b : Builder}

theorem not_lt_of_lt (h : p.lt q = true) : ¬q.lt p = true := by
  rw [lt_iff] at h ⊢
  exact not_lt_of_gt h

/-- What comes of a source in a directory of its own, wherever that is made. -/
structure Isolates (t : Tree) (p : Path) (d : Data) : Prop where
  made : ∀ s : Site, s.tree = t → Work.Ends (isolate s.directory [p]) (s.holding (.dir []))
    (s.holding (.dir (unitOf p.name d))) (.ok (s.inner [descriptorName]))
  built : ∀ (s : Site) (b : Builder), b.Accepts s.directory p.name →
    p.name.endsWith sourceSuffix = true →
    Work.Ends (b.build (s.inner [descriptorName]) true) (s.holding (.dir (unitOf p.name d)))
      (s.holding (.dir (unitOf p.name d ++
        [("bin", artifactDirs [("Config.zip", .file (.archive [(p.name, d.toBytes)]))])])))
      (.ok { success := true, artifact := some (stubSettings.artifact s.directory) })
  /-- A suffix in other letters is none to a build. -/
  unbuilt : ∀ (s : Site) (b : Builder),
    Installed.missing b.installed stubSettings.requires = .ok [] →
    p.name.endsWith sourceSuffix = false →
    Work.Ends (b.build (s.inner [descriptorName]) true) (s.holding (.dir (unitOf p.name d)))
      (s.holding (.dir (unitOf p.name d)))
      (.ok (.failed ["Nothing to build in '" ++ s.directory.toString ++ "'"]))

/-- A selected source has the suffix in some letters. Its unit has the stub and its copy, and how
the suffix is spelled decides what the unit is built to. -/
theorem isolates_named (h : t.Sound) (hp : r.NamedAfter t file u p) :
    matchesSuffix sourceSuffix p.name = true ∧ ∃ d, t.read p = .ok d ∧ Isolates t p d := by
  obtain ⟨hname, hsize, d, hd⟩ := h.file_of_mem_find hp.found
  refine ⟨Tree.name_of_mem_find hp.found, d, by rw [Tree.read, hd], ?_⟩
  constructor
  case made =>
    rintro s rfl
    exact ends_isolate_site hd hname hsize (name_of_candidate (mem_sources.mpr hp)).2
  case built => exact fun s b hb hsuffix => ends_build_source hb hname hsize hsuffix
  case unbuilt => exact fun s b hb hsuffix => ends_build_nothing hb hsuffix

/-- A first source whose suffix is spelled otherwise leaves a project without a configuration. -/
theorem resolve_misspelt (h : r.Ready t)
    (hb : r.build = fun descriptor restore => b.build descriptor restore)
    (hi : Installed.missing b.installed stubSettings.requires = .ok [])
    (hu : (e.compile t r.sourceExclude).result = .ok u) (hf : e.file = some file)
    (hthere : t.exists file = .ok true) (hp : r.NamedAfter t file u p)
    (hfirst : ∀ q, r.NamedAfter t file u q → q = p ∨ p.lt q = true)
    (hsuffix : p.name.endsWith sourceSuffix = false) :
    ∃ after, Work.Ends (r.resolve e) t after (.ok none) := by
  obtain ⟨source, hsource, hleast, s, d, next, rfl, _, _, hcalls, hdecides⟩ :=
    (resolve_stages h e).built u file p hu hf hp hthere
  obtain rfl : source = p := by
    rcases hfirst source hsource with heq | hlt
    · exact heq
    · exact (hleast p hp).elim Eq.symm fun hlt' => absurd hlt' (not_lt_of_lt hlt)
  have hbuild := ends_build_nothing (s := s) (d := d) hi hsuffix
  have hends := hcalls.ends (k := fun descriptor restore => b.build descriptor restore) hbuild
    (hdecides.failed _ _ rfl)
  have hself : r.building r.build = r := rfl
  rw [← hb, hself] at hends
  exact ⟨_, hends⟩

/-! The sources of the example: one of them is spelled otherwise. -/

/-- A builder whose child accepts everything. -/
def lenient : Builder := { run := fun _ => pure ⟨0, "", ""⟩ }

theorem lenient_accepts (directory : Path) (name : String) : lenient.Accepts directory name :=
  ⟨by decide +kernel, fun _ => ⟨_, ⟨rfl, rfl⟩, rfl⟩⟩

theorem isolates_stall : ∃ s : Site, s.tree = stall ∧
    (∃ after, Work.Ends (lenient.build (s.inner [descriptorName]) true)
      (s.holding (.dir (unitOf "p_en.py" (.ofText "import pen")))) after
      (.ok { success := true, artifact := some (stubSettings.artifact s.directory) })) ∧
    Work.Ends (lenient.build (s.inner [descriptorName]) true)
      (s.holding (.dir (unitOf "pen.Py" (.ofText ""))))
      (s.holding (.dir (unitOf "pen.Py" (.ofText ""))))
      (.ok (.failed ["Nothing to build in '" ++ s.directory.toString ++ "'"])) := by
  obtain ⟨place, entries, htemporary⟩ := ready_stall.temporary
  obtain ⟨s, hs, _⟩ := ends_makeTemporary_site htemporary ready_stall.room
  obtain ⟨_, d, hd, hplain⟩ := isolates_named (p := ⟨.root, ["p", "p_en.py"]⟩) ready_stall.sound
    (named_stall.mpr (by decide +kernel))
  obtain ⟨_, d', hd', hother⟩ := isolates_named (p := ⟨.root, ["p", "pen.Py"]⟩) ready_stall.sound
    (named_stall.mpr (by decide +kernel))
  cases hd
  cases hd'
  exact ⟨s, hs, ⟨_, hplain.built s lenient (lenient_accepts _ _) (by decide +kernel)⟩,
    hother.unbuilt s lenient (lenient_accepts s.directory "pen.Py").installed (by decide +kernel)⟩

end Stencil.Resolver
