import Stencil.Proofs.Build.Outcome
import Stencil.Proofs.Files.Refill
import Stencil.Proofs.Files.Walk

/-!
What a build that returns has done. It has packed the sources beside its descriptor, all of them in
order and as they were, or it has changed nothing and says why. The artifact never lies where a
source does, since the two end in different suffixes.
-/
namespace Stencil.Build
open Stencil.Files
open Stencil.Text

variable {t mid after : Tree} {p directory descriptor artifact : Path} {name : String} {d : Data}
  {s : Settings} {names front : List String} {last : String}

/-! The names of the sources. -/

/-- A source beside a descriptor. -/
structure Source (t : Tree) (directory : Path) (name : String) : Prop where
  isName : IsName name
  suffix : name.endsWith sourceSuffix = true
  file : ∃ d, t.node (directory.child name) = .ok (.file d)

/-- Names of all the sources, each once and in order. -/
structure Sources (t : Tree) (directory : Path) (names : List String) : Prop where
  sorted : names.Pairwise (· < ·)
  mem : ∀ name, name ∈ names ↔ Source t directory name

/-- There is only one way to list the sources. -/
theorem Sources.unique {names' : List String} (h : Sources t directory names)
    (h' : Sources t directory names') : names = names' := by
  have hperm : names.Perm names' := by
    refine (List.perm_ext_iff_of_nodup (h.sorted.imp String.ne_of_lt)
      (h'.sorted.imp String.ne_of_lt)).mpr fun name => ?_
    rw [h.mem, h'.mem]
  exact hperm.eq_of_pairwise (fun _ _ _ _ hab hba => absurd hba (String.lt_asymm hab)) h.sorted
    h'.sorted

/-- No directory beside a descriptor is called like a source. -/
def NoDirectories (t : Tree) (directory : Path) : Prop :=
  ∀ name entries, IsName name → name.endsWith sourceSuffix = true →
    t.node (directory.child name) ≠ .ok (.dir entries)

/-- What has an entry is a directory. -/
theorem exists_dir_of_child {c : Node} (hn : IsName name)
    (h : t.node (directory.child name) = .ok c) :
    ∃ entries, t.node directory = .ok (.dir entries) := by
  have hbelow : t.node ⟨directory.anchor, directory.names ++ [name]⟩ = .ok c := h
  obtain ⟨n, hnode⟩ := Tree.exists_node_above hbelow
  cases n with
  | dir entries => exact ⟨entries, hnode⟩
  | file d =>
    rw [Tree.node_below hnode (by simpa using hn)] at hbelow
    cases hbelow

theorem namesIn_of_dir {entries : List (String × Node)} (h : t.node p = .ok (.dir entries)) :
    t.namesIn p = (entries.map Prod.fst).mergeSort fun a b => decide (a ≤ b) := by
  rw [Tree.namesIn, h]

theorem namesIn_eq_nil (h : ∀ entries, t.node p ≠ .ok (.dir entries)) : t.namesIn p = [] := by
  unfold Tree.namesIn
  split
  · rename_i entries hnode
    exact absurd hnode (h entries)
  · rfl

/-- A build lists the sources. -/
theorem sources_sourceNames (h : t.Sound) (hd : NoDirectories t directory) :
    Sources t directory (sourceNames t directory) := by
  by_cases hdir : ∃ entries, t.node directory = .ok (.dir entries)
  · obtain ⟨entries, hnode⟩ := hdir
    have hbelow : SoundBelow entries := h.of_node hnode
    rw [sourceNames, namesIn_of_dir hnode]
    constructor
    case sorted => exact (pairwise_mergeSort_of_nodup hbelow.nodup).filter _
    case mem =>
      intro name
      rw [List.mem_filter, List.mem_mergeSort, List.mem_map]
      constructor
      · rintro ⟨⟨⟨_, c⟩, hm, rfl⟩, hs⟩
        obtain ⟨hn, hc⟩ := (Tree.node_child_iff hbelow hnode).mpr (hbelow.mem_iff.mp hm)
        cases c with
        | file d => exact ⟨hn, hs, d, hc⟩
        | dir es => exact absurd hc (hd _ es hn hs)
      · intro hs
        obtain ⟨d, hfile⟩ := hs.file
        have hlookup := (Tree.node_child_iff hbelow hnode).mp ⟨hs.isName, hfile⟩
        exact ⟨⟨(name, .file d), hbelow.mem_iff.mpr hlookup, rfl⟩, hs.suffix⟩
  · have hnone : ∀ entries, t.node directory ≠ .ok (.dir entries) := fun es he => hdir ⟨es, he⟩
    rw [sourceNames, namesIn_eq_nil hnone]
    refine ⟨.nil, fun name => ?_⟩
    constructor
    · intro hm
      cases hm
    · intro hs
      obtain ⟨d, hfile⟩ := hs.file
      exact absurd (exists_dir_of_child hs.isName hfile) hdir

/-! Where the artifact lies. -/

theorem names_ofString_append {tail : String} (hs : '/' ∉ tail.toList) (hl : 1 < tail.length)
    (name : String) : ∃ front last, (Path.ofString (name ++ tail)).names =
      front ++ [last ++ tail] := by
  obtain ⟨front, last, hsplit⟩ := splitOnChar_append hs name.toList
  have hlong : 1 < (last.length + tail.length) := by omega
  refine ⟨(front.map String.ofList).filter fun n => n != "" && n != ".", .ofList last, ?_⟩
  have hlast : String.ofList (last ++ tail.toList) = .ofList last ++ tail := by
    rw [String.ofList_append, String.ofList_toList]
  have hkept := bne_of_length (s := String.ofList last ++ tail) (by simpa using hlong)
  rw [Path.ofString, String.toList_append, hsplit]
  simp [hlast, hkept, List.filter_append]

/-- The artifact has its suffix, wherever its settings put it. -/
theorem names_artifact (s : Settings) (directory : Path) :
    ∃ front last, (s.artifact directory).names = front ++ [last ++ ".zip"] := by
  have hslash : '/' ∉ (".zip" : String).toList := by decide
  obtain ⟨front, last, hnames⟩ := names_ofString_append hslash (by decide) s.name
  have hdiv : ∀ (p : Path) (x : String), (p / x).names =
      if (Path.ofString x).absolute then (Path.ofString x).names
      else p.names ++ (Path.ofString x).names := by
    intro p x
    change (p.join (Path.ofString x)).names = _
    unfold Path.join
    split <;> rfl
  unfold Settings.artifact
  rw [hdiv, hnames]
  split
  · exact ⟨front, last, rfl⟩
  · exact ⟨_, last, (List.append_assoc ..).symm⟩

/-- A path leads to a place of its own last name. -/
theorem exists_resolve_concat {x : String} (hx : x ≠ "..") (h : p.names = front ++ [x]) :
    ∃ above, (t.resolve p).names = above ++ [x] := by
  have hnot : ".." ∉ [x] := by simpa using hx.symm
  have happend := t.resolve_append ⟨p.anchor, front⟩ hnot
  rw [← h] at happend
  exact ⟨_, happend⟩

/-- The artifact lies elsewhere than a source. -/
theorem resolve_artifact_ne (hs : Source t directory name) :
    (t.resolve (s.artifact directory)).names ≠ (t.resolve (directory.child name)).names := by
  obtain ⟨front, last, hnames⟩ := names_artifact s directory
  obtain ⟨stem, rfl⟩ := exists_of_endsWith hs.suffix
  have hup : last ++ ".zip" ≠ ".." := by
    intro h
    have hend := congrArg (fun x : String => x.toList.getLast?) h
    simp at hend
  obtain ⟨above, hartifact⟩ := exists_resolve_concat (t := t) hup hnames
  obtain ⟨above', hsource⟩ : ∃ above, (t.resolve (directory.child (stem ++ sourceSuffix))).names =
      above ++ [stem ++ sourceSuffix] := exists_resolve_concat hs.isName.2 rfl
  intro h
  rw [hartifact, hsource] at h
  have hlast := congrArg (fun x : String => x.toList.getLast?)
    (List.singleton_inj.mp (List.append_inj_right' h rfl))
  simp [sourceSuffix] at hlast

/-! What packing leaves. -/

/-- A file that is written at another place, and directories, leave a source as it is. -/
theorem node_kept {old : Data} (hdirs : t.SameDirs after) (h : t.node p = .ok (.file old))
    (hkind : after.kindAt (t.resolve p).names = some (.file old)) :
    after.node p = .ok (.file old) := by
  obtain ⟨ns, hl⟩ := Tree.node_eq_ok h
  rw [← Tree.locate_names hl] at hkind
  rw [Files.Tree.node, hdirs.locate_file hl (Tree.get?_of_kindAt_file hkind)]

theorem kindAt_of_node (h : t.node p = .ok (.file d)) :
    t.kindAt (t.resolve p).names = some (.file d) := by
  obtain ⟨ns, hl⟩ := Tree.node_eq_ok h
  have hroot := Tree.locate_eq_node hl
  rw [← Tree.locate_names hl]
  change (t.root.get? ns).map Node.kind = _
  rw [hroot]
  rfl

/-- An archive of the sources of a directory, each with its bytes. -/
def Archived (t : Tree) (directory : Path) (names : List String)
    (members : List (String × List UInt8)) : Prop :=
  members.map Prod.fst = names ∧
    ∀ m ∈ members, ∃ d, t.read (directory.child m.1) = .ok d ∧ m.2 = d.toBytes

theorem archived_of_mapM {members : List (String × List UInt8)}
    (hs : ∀ name ∈ names, Source t directory name)
    (hkept : ∀ name ∈ names, ∀ d, t.node (directory.child name) = .ok (.file d) →
      mid.node (directory.child name) = .ok (.file d))
    (h : names.mapM (member mid directory) = .ok members) : Archived t directory names members := by
  have hall := mapM_eq_ok_iff.mp h
  have hmember : ∀ name ∈ names, ∀ m, member mid directory name = .ok m →
      m.1 = name ∧ ∃ d, t.read (directory.child name) = .ok d ∧ m.2 = d.toBytes := by
    intro name hn m hm
    obtain ⟨d, hfile⟩ := (hs name hn).file
    rw [member, (hs name hn).isName.div, hkept name hn d hfile] at hm
    cases hm
    exact ⟨rfl, d, by rw [Tree.read, hfile], rfl⟩
  clear h hkept hs
  induction hall with
  | nil => exact ⟨rfl, by simp⟩
  | cons hfirst _ ih =>
    obtain ⟨hname, d, hread, hbytes⟩ := hmember _ List.mem_cons_self _ hfirst
    obtain ⟨hnames, hmembers⟩ := ih fun name hn => hmember name (List.mem_cons_of_mem _ hn)
    refine ⟨by rw [List.map_cons, hname, hnames], List.forall_mem_cons.mpr ⟨?_, hmembers⟩⟩
    rw [hname]
    exact ⟨d, hread, hbytes⟩

/-- Packing leaves the archive of the sources at its place. -/
theorem archived_of_pack (hs : ∀ name ∈ names, Source t directory name)
    (h : Work.Ends (pack (s.artifact directory) directory names) t after (.ok ())) :
    ∃ members, after.read (s.artifact directory) = .ok (.archive members) ∧
      Archived t directory names members := by
  obtain ⟨made, _, hmake, h⟩ := Work.Ends.exists_of_bind h
  obtain ⟨begun, _, hbegin, h⟩ := Work.Ends.exists_of_bind h
  obtain ⟨members, hmembers, hwrite⟩ := bind_eq_ok h.change_ok
  have hgrown := Tree.makeDirs_grown hmake.change_ok
  have hbegun := hbegin.change_ok
  have hdirs : t.SameDirs begun := hgrown.sameDirs.trans (Tree.sameDirs_write hbegun)
  have hplace : made.resolve (s.artifact directory) = t.resolve (s.artifact directory) :=
    Tree.resolve_congr hgrown.here _
  refine ⟨members, ?_, archived_of_mapM hs (fun name hn d hfile => ?_) hmembers⟩
  · rw [Tree.read, Files.Tree.node, Tree.locate_write hwrite]
  · have hkind := kindAt_of_node hfile
    refine node_kept hdirs hfile ?_
    rw [Tree.kindAt_write hbegun, hplace, if_neg (resolve_artifact_ne (hs name hn)).symm,
      hgrown.kept _ (by rw [hkind]; simp), hkind]

/-! The whole build. -/

namespace Builder

variable {b : Builder} {restore : Bool} {r : Result}

/-- What a child is started for: there are settings, what is required is found, and there are
sources. -/
structure Ready (b : Builder) (t : Tree) (descriptor : Path) (restore : Bool) (s : Settings)
    (names : List String) : Prop where
  settings : Settings.read t descriptor = .ok s
  restored : b.Restored restore s
  sources : Sources t descriptor.parent names
  nonempty : names ≠ []

theorem Ready.starts (h : b.Ready t descriptor restore s names) (ht : t.Sound)
    (hd : NoDirectories t descriptor.parent) :
    b.Starts t descriptor restore (b.checkCommand descriptor.parent names)
      (concluded descriptor.parent s names) := by
  obtain rfl := h.sources.unique (sources_sourceNames ht hd)
  exact starts_build h.settings (absentees_eq_nil_iff.mpr h.restored) h.nonempty

/-- Where not everything is there, a build that returns has failed before a child was started. -/
theorem failed_of_not_ready (ht : t.Sound) (hd : NoDirectories t descriptor.parent)
    (hn : ∀ s names, ¬b.Ready t descriptor restore s names)
    (h : Work.Ends (b.build descriptor restore) t after (.ok r)) :
    Failed r ∧ after = t ∧ b.Idle t descriptor restore (.ok r) := by
  rcases b.idle_or_starts t descriptor restore with he | ⟨r', hfailed, hidle⟩ | ⟨s, hs, hr, hne⟩
  · obtain ⟨fault, hidle⟩ := he.idle
    cases (h.unique hidle.ends).2
  · obtain ⟨rfl, heq⟩ := h.unique hidle.ends
    cases heq
    exact ⟨hfailed, rfl, hidle⟩
  · exact absurd ⟨hs, hr, sources_sourceNames ht hd, hne⟩ (hn s _)

/-- A success, with an archive of the sources at the place that the settings tell. -/
structure Delivered (t after : Tree) (directory : Path) (s : Settings) (names : List String)
    (r : Result) : Prop where
  success : r.success = true
  artifact : r.artifact = some (s.artifact directory)
  messages : r.messages = []
  archive : ∃ members, after.read (s.artifact directory) = .ok (.archive members) ∧
    Archived t directory names members

/-- Where everything is there, a build that returns has started a child that ended, and its code
decides. -/
theorem Ready.exists_done (hready : b.Ready t descriptor restore s names) (ht : t.Sound)
    (hd : NoDirectories t descriptor.parent) (hrun : Discreet b.run)
    (h : Work.Ends (b.build descriptor restore) t after (.ok r)) :
    ∃ done, Work.Ends (b.run (b.checkCommand descriptor.parent names)) t t (.ok done) ∧
      (done.code ≠ 0 ∧ Failed r ∧ after = t ∨
        done.code = 0 ∧ Delivered t after descriptor.parent s names r) := by
  have hstarts := hready.starts ht hd
  have hself := Work.ends_self (b.run (b.checkCommand descriptor.parent names)) t
  rw [hrun.quiet _ t] at hself
  cases hres : (b.run (b.checkCommand descriptor.parent names) t).result with
  | error e =>
    rw [hres] at hself
    have hbuild : Work.Ends (b.build descriptor restore) t t (.error (.file e)) :=
      Work.CallsOnce.ends (k := b.run) hstarts hself ends_concluded_error
    cases (h.unique hbuild).2
  | ok done =>
    rw [hres] at hself
    have hnext := Work.ends_self (concluded descriptor.parent s names (.ok done)) t
    obtain ⟨rfl, hr⟩ := h.unique (hstarts.ends hself hnext)
    rw [← hr] at hnext
    refine ⟨done, hself, ?_⟩
    rcases ends_concluded_iff.mp hnext with ⟨hcode, hafter, hr⟩ | ⟨hcode, hpack, hr⟩
    · rw [hr]
      exact .inl ⟨hcode, failed_complaints (hrun.trimmed _ _ _ hself), hafter⟩
    · rw [hr]
      exact .inr ⟨hcode, rfl, rfl, rfl,
        archived_of_pack (fun n hn => (hready.sources.mem n).mp hn) hpack⟩

/-- What a build that returns has come to. -/
structure Returned (b : Builder) (t : Tree) (descriptor : Path) (restore : Bool) (after : Tree)
    (r : Result) : Prop where
  success_iff : r.success = true ↔ ∃ s names done, b.Ready t descriptor restore s names ∧
    Work.Ends (b.run (b.checkCommand descriptor.parent names)) t t (.ok done) ∧ done.code = 0
  started : ∀ s names, b.Ready t descriptor restore s names →
    ∃ next, b.Starts t descriptor restore (b.checkCommand descriptor.parent names) next
  unstarted : (∀ s names, ¬b.Ready t descriptor restore s names) →
    b.Idle t descriptor restore (.ok r)
  delivered : r.success = true → ∀ s names, b.Ready t descriptor restore s names →
    Delivered t after descriptor.parent s names r
  failed : r.success = false → Failed r ∧ after = t

/-- A build that returns succeeds exactly when everything is there and the child accepts the
sources. The child is started once, and only if everything is there. -/
theorem build_returned (ht : t.Sound) (hd : NoDirectories t descriptor.parent)
    (hrun : Discreet b.run) (h : Work.Ends (b.build descriptor restore) t after (.ok r)) :
    b.Returned t descriptor restore after r := by
  constructor
  case success_iff =>
    constructor
    · intro hsuccess
      by_cases hready : ∃ s names, b.Ready t descriptor restore s names
      · obtain ⟨s, names, hready⟩ := hready
        obtain ⟨done, hdone, ⟨_, hfailed, _⟩ | ⟨hcode, _⟩⟩ := hready.exists_done ht hd hrun h
        · cases hsuccess.symm.trans hfailed.unsuccessful
        · exact ⟨s, names, done, hready, hdone, hcode⟩
      · have hfailed := (failed_of_not_ready ht hd (fun s ns hr => hready ⟨s, ns, hr⟩) h).1
        cases hsuccess.symm.trans hfailed.unsuccessful
    · rintro ⟨s, names, done, hready, hdone, hcode⟩
      obtain ⟨done', hdone', ⟨hcode', _⟩ | ⟨_, hdelivered⟩⟩ :=
        hready.exists_done ht hd hrun h
      · cases (hdone.unique hdone').2
        exact absurd hcode hcode'
      · exact hdelivered.success
  case started => exact fun s names hready => ⟨_, hready.starts ht hd⟩
  case unstarted => exact fun hn => (failed_of_not_ready ht hd hn h).2.2
  case delivered =>
    intro hsuccess s names hready
    obtain ⟨done, _, ⟨_, hfailed, _⟩ | ⟨_, hdelivered⟩⟩ := hready.exists_done ht hd hrun h
    · cases hsuccess.symm.trans hfailed.unsuccessful
    · exact hdelivered
  case failed =>
    intro hfalse
    by_cases hready : ∃ s names, b.Ready t descriptor restore s names
    · obtain ⟨s, names, hready⟩ := hready
      obtain ⟨done, _, ⟨_, hfailed, hafter⟩ | ⟨_, hdelivered⟩⟩ :=
        hready.exists_done ht hd hrun h
      · exact ⟨hfailed, hafter⟩
      · cases hfalse.symm.trans hdelivered.success
    · obtain ⟨hfailed, hafter, _⟩ :=
        failed_of_not_ready ht hd (fun s ns hr => hready ⟨s, ns, hr⟩) h
      exact ⟨hfailed, hafter⟩

theorem sound_loft : loft.Sound := by
  simp only [Tree.Sound, loft, Node.Sound, SoundBelow]
  decide +kernel

theorem noDirectories_loft : NoDirectories loft loftFile.parent := by
  intro name entries hn _ h
  have hnode : loft.node loftFile.parent = .ok (.dir [("a.py", .file (.ofText "")),
      ("pyproject.toml", .file (.ofText "tool.ntgen.build.requires = ['missing.sub']"))]) := rfl
  have hmem := (sound_loft.of_node hnode).mem_iff.mpr
    ((Tree.node_child_iff (sound_loft.of_node hnode) hnode).mp ⟨hn, h⟩)
  simp at hmem

/-- A builder whose children accept everything. -/
def lenient : Builder := { run := fun _ => pure ⟨0, "", ""⟩ }

theorem discreet_lenient : Discreet lenient.run where
  quiet _ := Work.quiet_pure _
  trimmed _ _ _ h := by
    cases (Work.ends_pure_iff.mp h).2
    exact ⟨fun _ _ h => (by cases h), fun _ _ h => (by cases h)⟩

theorem workable_lenient : lenient.Workable loft loftFile where
  child _ := ⟨⟨0, "", ""⟩, Work.ends_pure_iff.mpr ⟨rfl, rfl⟩⟩
  written _ hs _ := written_loft hs

/-- Without looking for what is required, a build packs the one source. -/
theorem build_returned_loft : loft.Sound ∧ NoDirectories loft loftFile.parent ∧
    Discreet lenient.run ∧ ∃ after r, Work.Ends (lenient.build loftFile false) loft after (.ok r) ∧
      lenient.Returned loft loftFile false after r ∧ r.success = true := by
  have hsome : sourceNames loft loftFile.parent ≠ [] := by
    rw [sourceNames_loft]
    decide
  have hrestored : lenient.Restored false ⟨"loft", "py3", ["missing.sub"]⟩ := fun h => by cases h
  obtain ⟨after, r, hends, _⟩ :=
    exists_ends_started discreet_lenient workable_lenient read_loft hrestored hsome
  have hreturned := build_returned sound_loft noDirectories_loft discreet_lenient hends
  have hready : lenient.Ready loft loftFile false ⟨"loft", "py3", ["missing.sub"]⟩
      (sourceNames loft loftFile.parent) :=
    ⟨read_loft, hrestored, sources_sourceNames sound_loft noDirectories_loft, hsome⟩
  exact ⟨sound_loft, noDirectories_loft, discreet_lenient, after, r, hends, hreturned,
    hreturned.success_iff.mpr ⟨_, _, ⟨0, "", ""⟩, hready, Work.ends_pure_iff.mpr ⟨rfl, rfl⟩, rfl⟩⟩

end Builder
end Stencil.Build
