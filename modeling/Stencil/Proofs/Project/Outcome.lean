import Stencil.Proofs.Files.Sound
import Stencil.Proofs.Project.Unusable

/-!
How compiling ends. The sources that are found in a sound tree can be read and have module names,
so where the references read well, a project compiles, or it does not by a fault that is reported as
its own, or one of its sources holds the zero character.
-/
namespace Stencil.Project
open Stencil.Files

variable {t : Tree} {exclude : String → Bool} {e : Entry} {file root p : Path}
  {fault : CompileError}

/-- What is found below a directory has a module name. -/
theorem moduleName_of_mem_find {suffix : String} (h : p ∈ t.find root suffix exclude) :
    ∃ name, moduleName p root = .ok name := by
  unfold Tree.find at h
  split at h
  · rename_i node _
    obtain ⟨names, hn, rfl⟩ := List.mem_map.mp h
    obtain ⟨front, last, rfl, _⟩ := Node.find_endsIn suffix exclude node names hn
    have hprefix : root.names.isPrefixOf (root.names ++ (front ++ [last])) = true :=
      List.isPrefixOf_iff_prefix.mpr (List.prefix_append _ _)
    have hrelative : Path.relativeTo? ⟨root.anchor, root.names ++ (front ++ [last])⟩ root =
        some ⟨.here, front ++ [last]⟩ := by
      simp [Path.relativeTo?, hprefix]
    unfold moduleName
    rw [hrelative]
    dsimp only
    rw [if_neg (by simp)]
    exact ⟨_, rfl⟩
  · cases h

/-- A file whose text holds the zero character. -/
def HoldsZero (t : Tree) (p : Path) : Prop := ∃ text, t.readText p = .ok text ∧ '\x00' ∈ text.toList

/-- A source of a sound tree fails by what is wrong with it, or by the zero character. -/
theorem readSource_error {project : String} {referenced : Bool} (hs : t.Sound)
    (hp : p ∈ sourceFiles t exclude root)
    (h : readSource t root project referenced p = .error fault) :
    fault.isCompilation = true ∨ fault = .zeroCharacter ∧ HoldsZero t p := by
  obtain ⟨_, _, d, hd⟩ := hs.file_of_mem_find hp
  obtain ⟨name, hname⟩ := moduleName_of_mem_find hp
  have hread : t.read p = .ok d := by rw [Tree.read, hd]
  unfold readSource at h
  split at h
  · rename_i e he
    exfalso
    unfold Tree.readText at he
    rw [hread] at he
    dsimp only at he
    split at he <;> cases he
  · cases h
    exact .inl rfl
  · rename_i text htext
    split at h
    · rename_i hzero
      cases h
      exact .inr ⟨rfl, text, htext, List.contains_iff_mem.mp hzero⟩
    · rw [hname] at h
      split at h
      · cases h
        exact .inl rfl
      · cases h

/-- The sources that compiling a project looks at: its own, and those of what it refers to. -/
inductive Compiled (t : Tree) (exclude : String → Bool) (e : Entry) (file : Path) : Path → Prop where
  | own {source} : source ∈ sourceFiles t exclude file.parent → Compiled t exclude e file source
  | referenced {r q d source} : r ∈ e.references → Mentioned t r q → Descriptor.read t q = .ok d →
      source ∈ sourceFiles t exclude d.directory → Compiled t exclude e file source

/-- A project whose references read well compiles to its own modules and more, or it fails by a
fault of its own, or one of its sources holds the zero character. -/
theorem compile_outcome (exclude : String → Bool) (hs : t.Sound) (hf : e.file = some file)
    (hc : e.compiles = true)
    (hw : ∀ r ∈ e.references, ∀ q, Mentioned t r q → ReadsWell t q) :
    (∃ u, (e.compile t exclude).result = .ok u ∧ u.ownModules ≠ []) ∨
    (∃ fault, (e.compile t exclude).result = .error fault ∧ fault.isCompilation = true) ∨
    (e.compile t exclude).result = .error .zeroCharacter ∧
      ∃ source, Compiled t exclude e file source ∧ HoldsZero t source := by
  cases h : (e.compile t exclude).result with
  | ok u =>
    obtain ⟨_, _, own, more, hmodules, hne, hown, _⟩ := compile_result hf h
    obtain ⟨m, hm⟩ := List.exists_mem_of_ne_nil own hne
    refine .inl ⟨u, rfl, List.ne_nil_of_mem (a := m) (List.mem_filter.mpr ⟨?_, ?_⟩)⟩
    · rw [hmodules]
      exact List.mem_append_left _ hm
    · rw [(hown.marked m hm).2]
      rfl
  | error fault =>
    refine .inr ?_
    have hfault : fault.isCompilation = true ∨
        fault = .zeroCharacter ∧ ∃ source, Compiled t exclude e file source ∧
          HoldsZero t source := by
      rcases compile_error hf hc h with rfl | ⟨p, hp, hread⟩ | ⟨r, hr, hstops⟩
      · exact .inl rfl
      · exact (readSource_error hs hp hread).imp_right fun hz => ⟨hz.1, p, .own hp, hz.2⟩
      · cases hstops with
        | source hq hd hp hread =>
          exact (readSource_error hs hp hread).imp_right fun hz =>
            ⟨hz.1, _, .referenced hr hq hd hp, hz.2⟩
        | reference hb =>
          have hload := hw r hr _ hb.mentioned _ hb.read
          rw [hb.breaks.not_isLoadError] at hload
          cases hload
    rcases hfault with hown | ⟨rfl, hzero⟩
    · exact .inl ⟨fault, rfl, hown⟩
    · exact .inr ⟨rfl, hzero⟩

/-! An example: the only source of a project ends in the zero character. -/

def spoiled : Tree where
  root := .dir [("p", .dir [("main.py", .file (.ofText "x = 1\x00"))])]
  here := ⟨.root, []⟩

def spoiledFile : Path := ⟨.root, ["p", "pyproject.toml"]⟩

def spoiledEntry : Entry := { name := "p", file := some spoiledFile }

theorem compile_spoiled : spoiled.Sound ∧
    (spoiledEntry.compile spoiled standardExclude).result = .error .zeroCharacter ∧ ∃ source,
      Compiled spoiled standardExclude spoiledEntry spoiledFile source ∧
        HoldsZero spoiled source := by
  have hsound : spoiled.Sound := by
    simp only [Tree.Sound, spoiled, Node.Sound, SoundBelow]
    decide +kernel
  have hresult : ((spoiledEntry.compile spoiled standardExclude).result.map fun _ => ()) =
      .error .zeroCharacter := by
    decide +kernel
  refine ⟨hsound, ?_⟩
  rcases compile_outcome standardExclude (e := spoiledEntry) hsound rfl rfl
    (by simp [spoiledEntry]) with ⟨u, hu, _⟩ | ⟨fault, hfault, hown⟩ | h
  · rw [hu] at hresult
    cases hresult
  · rw [hfault] at hresult
    cases hresult
    cases hown
  · exact h

end Stencil.Project
