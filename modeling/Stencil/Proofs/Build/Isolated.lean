import Stencil.Build.Builder
import Stencil.Proofs.Files.Graft
import Stencil.Proofs.Work

/-!
What an isolated unit touches. Its descriptor always says the same, so that its artifact lies below
its directory; making the unit and building it leave everything outside of the directory as it was.
-/
namespace Stencil.Build
open Stencil.Files
open Stencil.Files.Tree (Grafted)
open Stencil.Text

variable {t t' after : Tree} {p : Path} {place : List String} {name : String} {b : Builder}

/-! The settings of an isolated unit. -/

def stubSettings : Settings := ⟨"Config", "py3", ["ntgen"]⟩

theorem stubDescriptor_lines : '\r' ∉ stubDescriptor.toList := by
  rw [stubDescriptor, joinWith, String.toList_intercalate]
  decide +kernel

theorem stubDescriptor_settings : ((Toml.read stubDescriptor).toOption.bind fun entries =>
    (Settings.ofTable "" (.dict entries)).toOption) = some stubSettings := by
  decide +kernel

/-- A project with a name does not ask for that of its directory. -/
theorem ofTable_named {directory other : String} {table : Plain} {s : Settings}
    (h : Settings.ofTable other table = .ok s) (hs : s.name ≠ other) :
    Settings.ofTable directory table = .ok s := by
  obtain ⟨build, hbuild, h⟩ := bind_eq_ok h
  obtain ⟨title, htitle, h⟩ := bind_eq_ok h
  obtain ⟨framework, hframework, h⟩ := bind_eq_ok h
  obtain ⟨listed, hlisted, h⟩ := bind_eq_ok h
  obtain ⟨requires, hrequires, h⟩ := bind_eq_ok h
  unfold Settings.ofTable
  rw [hbuild]
  dsimp only [bind, Except.bind]
  rw [htitle]
  dsimp only
  rw [hframework]
  dsimp only
  rw [hlisted]
  dsimp only
  rw [hrequires]
  cases h
  cases ht : title.truth with
  | false => simp [ht] at hs
  | true => rfl

theorem settings_of_text {descriptor : Path} {text : String} {entries : List (Plain × Plain)}
    {s : Settings} (h : t.readText descriptor = .ok text) (hread : Toml.read text = .ok entries)
    (hs : Settings.ofTable descriptor.parent.name (.dict entries) = .ok s) :
    Settings.read t descriptor = .ok s := by
  simp only [Settings.read, h, hread, hs]

theorem settings_of_stub {descriptor : Path} (h : t.readText descriptor = .ok stubDescriptor) :
    Settings.read t descriptor = .ok stubSettings := by
  obtain ⟨entries, hread, htable⟩ := exists_of_toOption_bind stubDescriptor_settings
  exact settings_of_text h hread (ofTable_named htable (by decide))

theorem artifact_stub (directory : Path) : stubSettings.artifact directory =
    ⟨directory.anchor, directory.names ++ ["bin", "Debug", "py3", "Config.zip"]⟩ := by
  have hdiv : ∀ (d : Path) (s : String), Path.ofString s = ⟨.here, [s]⟩ → d / s = d.child s := by
    intro d s hs
    change d.join (Path.ofString s) = _
    rw [hs]
    rfl
  unfold Settings.artifact
  rw [hdiv _ "bin" (by decide), hdiv _ "Debug" (by decide),
    hdiv _ stubSettings.framework (by decide), hdiv _ (stubSettings.name ++ ".zip") (by decide)]
  simp [Path.child, stubSettings]

/-! The unit in its directory. -/

/-- The trees with a unit in a directory that was not there before. -/
def Isolated (t : Tree) (place : List String) (name : String) (t' : Tree) : Prop :=
  ∃ node, t' = t.graft place name node ∧
    node.kindAt [descriptorName] = some (.file (.ofText stubDescriptor))

theorem Isolated.grafted (h : Isolated t place name t') : t.Grafted place name t' := by
  obtain ⟨node, rfl, _⟩ := h
  exact ⟨node, rfl⟩

/-- The unit is a directory. -/
theorem Isolated.dir (h : Isolated t place name t') :
    ∃ entries, t' = t.graft place name (.dir entries) := by
  obtain ⟨node, rfl, hstub⟩ := h
  cases node with
  | file => cases hstub
  | dir entries => exact ⟨entries, rfl⟩

theorem child_child (p : Path) (name n : String) :
    (p.child name).child n = ⟨p.anchor, p.names ++ name :: [n]⟩ := by simp [Path.child]

/-- What is copied into the unit beside its descriptor leaves it one. -/
theorem copyFile_isolated (hf : t.Free p place name) {source : Path} {n : String} {mid : Tree}
    (hup : n ≠ "..") (hn : n ≠ descriptorName) (h : Isolated t place name mid)
    (hc : copyFile mid source ((p.child name).child n) = .ok t') : Isolated t place name t' := by
  obtain ⟨node, rfl, hstub⟩ := h
  unfold copyFile at hc
  split at hc
  · cases hc
  · split at hc
    · cases hc
    · rename_i d _
      refine ⟨_, hf.write_graft (child_child ..) (by simpa using hup.symm)
        (eq_ok_of_mapError hc), ?_⟩
      cases node with
      | file => cases hstub
      | dir entries =>
        have hroot : (Node.dir entries).get? [] = some (.dir entries) := rfl
        change (Node.put (.file d) ([] ++ [n]) (.dir entries)).kindAt [descriptorName] = _
        rw [Node.kindAt_put hroot, if_neg (by simpa using hn), hstub]

theorem copyAll_isolated (hf : t.Free p place name) {sources : List Path}
    (hs : ∀ source ∈ sources, source.name ≠ ".." ∧ source.name ≠ descriptorName) :
    Work.Leads (Isolated t place name) (copyAll (p.child name) sources)
      (Isolated t place name) := by
  induction sources with
  | nil => exact (Work.quiet_pure ()).leads
  | cons source rest ih =>
    obtain ⟨hup, hn⟩ := hs source (by simp)
    exact Work.Leads.bind
      (Work.leads_change fun mid t' h hc => copyFile_isolated hf hup hn h hc)
      (fun _ => ih fun s h => hs s (List.mem_cons_of_mem _ h)) fun _ h => h

/-- Making a unit in an empty directory. -/
theorem ends_isolate (hf : t.Free p place name) {sources : List Path}
    (hs : ∀ source ∈ sources, source.name ≠ ".." ∧ source.name ≠ descriptorName)
    {res : Except CopyError Path}
    (h : Work.Ends (isolate (p.child name) sources) (t.graft place name (.dir [])) after res) :
    (∃ entries, after = t.graft place name (.dir entries)) ∧ ∀ d, res = .ok d →
      d = (p.child name).child descriptorName ∧ Isolated t place name after := by
  unfold isolate at h
  rcases Work.ends_bind_iff.mp h with ⟨mid, u, hwrite, h⟩ | ⟨e, hwrite, rfl⟩
  · have hmid : Isolated t place name mid := by
      rcases Work.ends_change_iff.mp hwrite with ⟨hw, _⟩ | ⟨e, _, _, he⟩
      · exact ⟨_, hf.write_graft (child_child ..) (by decide) (eq_ok_of_mapError hw), rfl⟩
      · cases he
    rcases Work.ends_bind_iff.mp h with ⟨mid', u, hcopy, h⟩ | ⟨e, hcopy, rfl⟩
    · have hmid' := (copyAll_isolated hf hs).ends hmid hcopy
      obtain ⟨rfl, rfl⟩ := Work.ends_pure_iff.mp h
      exact ⟨hmid'.dir, fun d hd => by cases hd; exact ⟨rfl, hmid'⟩⟩
    · exact ⟨((copyAll_isolated hf hs).ends hmid hcopy).dir, fun d hd => by cases hd⟩
  · rcases Work.ends_change_iff.mp hwrite with ⟨_, he⟩ | ⟨_, _, rfl, _⟩
    · cases he
    · exact ⟨⟨_, rfl⟩, fun d hd => by cases hd⟩

/-- The descriptor of a unit is read as it was written. -/
theorem Isolated.settings (hf : t.Free p place name) (h : Isolated t place name t') :
    Settings.read t' ((p.child name).child descriptorName) = .ok stubSettings := by
  obtain ⟨node, rfl, hstub⟩ := h
  apply settings_of_stub
  refine Tree.readText_of_node ?_ stubDescriptor_lines
  cases node with
  | file => cases hstub
  | dir entries =>
    have hlocate := Tree.locate_child (hf.locate_graft (.dir entries)) descriptorName
    rw [Tree.step_single (by decide) (by decide)] at hlocate
    rw [Node.kindAt_dir_cons] at hstub
    obtain ⟨c, hc, hkind⟩ := Option.bind_eq_some_iff.mp hstub
    rw [hc] at hlocate
    rw [Files.Tree.node, hlocate]
    cases c with
    | dir => cases hkind
    | file d => rw [Kind.file.inj (Option.some.inj hkind)]

/-! Building the unit. -/

theorem pack_grafted (hf : t.Free p place name) (names : List String) :
    Work.Leads (t.Grafted place name) (pack (stubSettings.artifact (p.child name)) (p.child name)
      names) (t.Grafted place name) := by
  have hartifact : stubSettings.artifact (p.child name) =
      ⟨p.anchor, p.names ++ name :: ["bin", "Debug", "py3", "Config.zip"]⟩ := by
    simp [artifact_stub, Path.child]
  have hwrite : ∀ mid t' d, t.Grafted place name mid →
      mid.write (stubSettings.artifact (p.child name)) d = .ok t' → t.Grafted place name t' := by
    rintro mid t' d ⟨node, rfl⟩ hw
    exact ⟨_, hf.write_graft hartifact (by decide) hw⟩
  unfold pack
  refine Work.Leads.bind (Work.leads_change ?_) (fun _ => Work.Leads.bind (Work.leads_change ?_)
    (fun _ => Work.leads_change ?_) fun _ h => h) fun _ h => h
  · rintro mid t' ⟨node, rfl⟩ hm
    have hparent : (stubSettings.artifact (p.child name)).parent =
        ⟨p.anchor, p.names ++ name :: ["bin", "Debug", "py3"]⟩ := by
      rw [hartifact, Path.parent]
      simp
    exact hf.makeDirs_graft (by decide) hparent hm
  · exact fun mid t' h hw => hwrite mid t' _ h hw
  · intro mid t' h hw
    obtain ⟨members, _, hw⟩ := bind_eq_ok hw
    exact hwrite mid t' _ h hw

theorem buildSources_grafted (hf : t.Free p place name) (hb : ∀ c, Work.Quiet (b.run c)) :
    Work.Leads (t.Grafted place name) (b.buildSources (p.child name) stubSettings)
      (t.Grafted place name) := by
  unfold Builder.buildSources
  refine Work.leads_tree fun mid _ => ?_
  dsimp only
  split
  · exact (Work.quiet_pure _).leads
  · refine Work.Leads.bind (Work.leads_mapError (hb _).leads) (fun done => ?_) fun _ h => h
    split
    · exact (Work.quiet_pure _).leads
    · exact Work.Leads.bind (Work.leads_mapError (pack_grafted hf _))
        (fun _ => (Work.quiet_pure _).leads) fun _ h => h

/-- Building a unit touches nothing outside of its directory. -/
theorem build_grafted (hf : t.Free p place name) (hb : ∀ c, Work.Quiet (b.run c)) (restore : Bool) :
    Work.Leads (Isolated t place name) (b.build ((p.child name).child descriptorName) restore)
      (t.Grafted place name) := by
  have hparent : ((p.child name).child descriptorName).parent = p.child name := by
    simp [Path.child, Path.parent]
  unfold Builder.build
  refine Work.leads_tree fun mid hmid => ?_
  -- The descriptor is the one that was written, so the artifact does not lie elsewhere.
  rw [hmid.settings hf, hparent]
  dsimp only
  have hlast : ∀ absent : List String, Work.Leads (Isolated t place name)
      (if absent.isEmpty then b.buildSources (p.child name) stubSettings
        else pure (.failed ["Unable to restore: " ++ joinWith ", " absent ++ " not installed"]))
      (t.Grafted place name) := by
    intro absent
    split
    · exact fun mid h => buildSources_grafted hf hb mid h.grafted
    · exact fun mid h => h.grafted
  split
  · exact Work.Leads.bind (Work.quiet_ofExcept _).leads hlast fun _ h => h.grafted
  · exact Work.Leads.bind (Work.quiet_pure _).leads hlast fun _ h => h.grafted

/-! Building and directories. -/

theorem pack_sameDirs (artifact directory : Path) (names : List String) :
    Work.Leads (t.SameDirs) (pack artifact directory names) t.SameDirs := by
  have hwrite : ∀ mid t' d, t.SameDirs mid → mid.write artifact d = .ok t' → t.SameDirs t' :=
    fun mid t' d h hw => h.trans (Tree.sameDirs_write hw)
  unfold pack
  refine Work.Leads.bind (Work.leads_change ?_) (fun _ => Work.Leads.bind (Work.leads_change ?_)
    (fun _ => Work.leads_change ?_) fun _ h => h) fun _ h => h
  · exact fun mid t' h hm => h.trans (Tree.makeDirs_grown hm).sameDirs
  · exact fun mid t' h hw => hwrite mid t' _ h hw
  · intro mid t' h hw
    obtain ⟨members, _, hw⟩ := bind_eq_ok hw
    exact hwrite mid t' _ h hw

theorem buildSources_sameDirs (hb : ∀ c, Work.Quiet (b.run c)) (directory : Path) (s : Settings) :
    Work.Leads t.SameDirs (b.buildSources directory s) t.SameDirs := by
  unfold Builder.buildSources
  refine Work.leads_tree fun mid _ => ?_
  dsimp only
  split
  · exact (Work.quiet_pure _).leads
  · refine Work.Leads.bind (Work.leads_mapError (hb _).leads) (fun done => ?_) fun _ h => h
    split
    · exact (Work.quiet_pure _).leads
    · exact Work.Leads.bind (Work.leads_mapError (pack_sameDirs _ _ _))
        (fun _ => (Work.quiet_pure _).leads) fun _ h => h

/-- Building takes no directory away. -/
theorem build_sameDirs (hb : ∀ c, Work.Quiet (b.run c)) (descriptor : Path) (restore : Bool) :
    Work.Leads t.SameDirs (b.build descriptor restore) t.SameDirs := by
  unfold Builder.build
  refine Work.leads_tree fun mid _ => ?_
  cases Settings.read mid descriptor with
  | error e =>
    dsimp only
    split
    · exact (Work.quiet_pure _).leads
    · exact (Work.quiet_fail _).leads
  | ok s =>
    have hlast : ∀ absent : List String, Work.Leads t.SameDirs
        (if absent.isEmpty then b.buildSources descriptor.parent s
          else pure (.failed ["Unable to restore: " ++ joinWith ", " absent ++ " not installed"]))
        t.SameDirs := by
      intro absent
      split
      · exact buildSources_sameDirs hb _ _
      · exact (Work.quiet_pure _).leads
    dsimp only
    split
    · exact Work.Leads.bind (Work.quiet_ofExcept _).leads hlast fun _ h => h
    · exact Work.Leads.bind (Work.quiet_pure _).leads hlast fun _ h => h

end Stencil.Build
