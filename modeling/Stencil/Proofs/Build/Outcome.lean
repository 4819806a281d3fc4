import Stencil.Build.Builder
import Stencil.Proofs.Build.Installed
import Stencil.Proofs.Calling
import Stencil.Proofs.Project.Unusable
import Stencil.Proofs.Text

/-!
How a build comes out. Up to its child it only looks: at the descriptor, at what is required and at
the names of the sources. What it finds there settles the build, or the child is started once and
its result decides. Not everything that can be wrong is reported: some descriptors and some names of
requirements end a build without a result.
-/
namespace Stencil.Build.Settings
open Stencil.Project (part)

variable {directory : String} {entries : List (Plain × Plain)}

/-! Settings in a table. -/

/-- A table in which all that settings are looked for in is of the kind that is expected. -/
structure WellShaped (entries : List (Plain × Plain)) : Prop where
  project : ∃ project, part entries "project" = .dict project
  build : ∃ tool own build, part entries "tool" = .dict tool ∧ part tool "ntgen" = .dict own ∧
    part own "build" = .dict build ∧
      ∃ vs, ((Plain.valueOf? build "requires").getD (.list [])).itemsOf = .ok vs

theorem dict_of_fieldOr {v default x : Plain} {name : String} (h : v.fieldOr name default = .ok x) :
    ∃ entries, v = .dict entries ∧ x = (Plain.valueOf? entries name).getD default := by
  cases v with
  | dict entries => exact ⟨entries, rfl, (Except.ok.inj h).symm⟩
  | _ => cases h

theorem ofTable_isOk_iff :
    (∃ s, ofTable directory (.dict entries) = .ok s) ↔ WellShaped entries := by
  constructor
  · rintro ⟨s, h⟩
    obtain ⟨_, hbuild, h⟩ := bind_eq_ok h
    obtain ⟨_, htitle, h⟩ := bind_eq_ok h
    obtain ⟨_, hframework, h⟩ := bind_eq_ok h
    obtain ⟨listed, hlisted, h⟩ := bind_eq_ok h
    obtain ⟨vs, hvs, _⟩ := bind_eq_ok h
    obtain ⟨tool, htool, hbuild⟩ := bind_eq_ok hbuild
    obtain ⟨own, hown, hbuild⟩ := bind_eq_ok hbuild
    obtain ⟨project, hproject, htitle⟩ := bind_eq_ok htitle
    obtain ⟨_, heq, rfl⟩ := dict_of_fieldOr htool
    cases heq
    obtain ⟨toolEntries, htool, rfl⟩ := dict_of_fieldOr hown
    obtain ⟨ownEntries, hown, rfl⟩ := dict_of_fieldOr hbuild
    obtain ⟨buildEntries, hbuild, _⟩ := dict_of_fieldOr hframework
    obtain ⟨_, heq, rfl⟩ := dict_of_fieldOr hlisted
    cases hbuild.symm.trans heq
    obtain ⟨_, heq, rfl⟩ := dict_of_fieldOr hproject
    cases heq
    obtain ⟨projectEntries, hproject, _⟩ := dict_of_fieldOr htitle
    exact ⟨⟨projectEntries, hproject⟩, toolEntries, ownEntries, buildEntries, htool, hown, hbuild,
      vs, hvs⟩
  · rintro ⟨⟨project, hproject⟩, tool, own, build, htool, hown, hbuild, vs, hvs⟩
    unfold part at hproject htool hown hbuild
    simp only [ofTable, Plain.nestedFieldOr, Plain.fieldOr, hproject, htool, hown, hbuild, bind,
      Except.bind, pure, Except.pure, hvs]
    exact ⟨_, rfl⟩

end Stencil.Build.Settings

namespace Stencil.Build.Builder
open Stencil.Files
open Stencil.Text

variable {b : Builder} {t after : Tree} {descriptor directory : Path} {restore : Bool}
  {s : Settings} {names : List String} {r : Result}

/-! The stages of a build. -/

/-- A builder that starts children in another way. -/
def running (b : Builder) (run : Runner) : Builder := { b with run }

/-- A build that ends like this, on the same tree, whatever a child would do: it starts none. -/
def Idle (b : Builder) (t : Tree) (descriptor : Path) (restore : Bool)
    (res : Except Fault Result) : Prop :=
  Work.Settled (fun run => (b.running run).build descriptor restore) t t res

/-- A build that starts one child, with a command and on the same tree, and goes on with what the
child ends with. -/
def Starts (b : Builder) (t : Tree) (descriptor : Path) (restore : Bool) (c : Child.Command)
    (next : Except FileError Child.Completion → Work Fault Result) : Prop :=
  Work.CallsOnce (fun run : Runner => run c)
    (fun run => (b.running run).build descriptor restore) t t next

/-- What is done when the child is over. -/
def concluded (directory : Path) (s : Settings) (names : List String)
    (x : Except FileError Child.Completion) : Work Fault Result := do
  let done ← (Work.ofExcept x).mapError .file
  if done.code != 0 then return .failed (complaints done)
  (pack (s.artifact directory) directory names).mapError .file
  return { success := true, artifact := some (s.artifact directory) }

/-- The names among those required that are missed. Without restoring none is. -/
def absentees (b : Builder) (restore : Bool) (s : Settings) : Except ImportError (List String) :=
  if restore then Installed.missing b.installed s.requires else .ok []

/-- Looking up what is required changes nothing. -/
theorem ends_missing : Work.Ends (Work.ofExcept
      ((Installed.missing b.installed s.requires).mapError Fault.requirement)) t t
      ((b.absentees true s).mapError .requirement) :=
  Work.ends_ofExcept_iff.mpr ⟨rfl, rfl⟩

theorem idle_unread {e : SettingsError} (h : Settings.read t descriptor = .error e) :
    b.Idle t descriptor restore (if e.isReported then
      .ok (.failed ["Cannot read project file '" ++ descriptor.toString ++ "': " ++ e.message])
    else .error (.settings e)) := by
  refine Work.Reaches.after (Work.ends_tree_iff.mpr ⟨rfl, rfl⟩) ?_
  simp only [h]
  split
  · exact Work.Ends.settled (Work.ends_pure_iff.mpr ⟨rfl, rfl⟩)
  · exact Work.Ends.settled (Work.ends_fail_iff.mpr ⟨rfl, rfl⟩)

/-- What is required comes after the settings. -/
theorem reaches_restored {absent : List String} {target : Runner → Done Fault Result}
    (hs : Settings.read t descriptor = .ok s) (ha : b.absentees restore s = .ok absent)
    (h : Work.Reaches (fun run => if absent.isEmpty then
        (b.running run).buildSources descriptor.parent s
      else pure (.failed ["Unable to restore: " ++ joinWith ", " absent ++ " not installed"]))
      t target) :
    Work.Reaches (fun run => (b.running run).build descriptor restore) t target := by
  refine Work.Reaches.after (Work.ends_tree_iff.mpr ⟨rfl, rfl⟩) ?_
  simp only [hs]
  cases restore with
  | true =>
    have hmissing := ends_missing (b := b) (s := s) (t := t)
    rw [ha] at hmissing
    exact Work.Reaches.after hmissing h
  | false =>
    cases ha
    exact Work.Reaches.after (Work.ends_pure_iff.mpr ⟨rfl, rfl⟩) h

theorem idle_unfindable {e : ImportError} (hs : Settings.read t descriptor = .ok s)
    (ha : b.absentees restore s = .error e) :
    b.Idle t descriptor restore (.error (.requirement e)) := by
  refine Work.Reaches.after (Work.ends_tree_iff.mpr ⟨rfl, rfl⟩) ?_
  simp only [hs]
  cases restore with
  | true =>
    have hmissing := ends_missing (b := b) (s := s) (t := t)
    rw [ha] at hmissing
    exact Work.Ends.settled_bind hmissing
  | false => cases ha

theorem idle_absent {name : String} {more : List String}
    (hs : Settings.read t descriptor = .ok s) (ha : b.absentees restore s = .ok (name :: more)) :
    b.Idle t descriptor restore (.ok (.failed
      ["Unable to restore: " ++ joinWith ", " (name :: more) ++ " not installed"])) :=
  reaches_restored hs ha (Work.Ends.settled (Work.ends_pure_iff.mpr ⟨rfl, rfl⟩))

theorem idle_empty (hs : Settings.read t descriptor = .ok s)
    (ha : b.absentees restore s = .ok []) (hn : sourceNames t descriptor.parent = []) :
    b.Idle t descriptor restore
      (.ok (.failed ["Nothing to build in '" ++ descriptor.parent.toString ++ "'"])) := by
  refine reaches_restored hs ha (Work.Reaches.after (Work.ends_tree_iff.mpr ⟨rfl, rfl⟩) ?_)
  simp only [hn]
  exact Work.Ends.settled (Work.ends_pure_iff.mpr ⟨rfl, rfl⟩)

theorem starts_build (hs : Settings.read t descriptor = .ok s)
    (ha : b.absentees restore s = .ok []) (hn : sourceNames t descriptor.parent ≠ []) :
    b.Starts t descriptor restore
      (b.checkCommand descriptor.parent (sourceNames t descriptor.parent))
      (concluded descriptor.parent s (sourceNames t descriptor.parent)) := by
  refine reaches_restored hs ha (Work.Reaches.after (Work.ends_tree_iff.mpr ⟨rfl, rfl⟩) ?_)
  simp only [List.isEmpty_eq_false_iff.mpr hn]
  exact ((Work.CallsOnce.self _ t).mapError _).bind _

/-! What is reported, and what is not. -/

/-- Everything that is required is found, if it is looked for. -/
def Restored (b : Builder) (restore : Bool) (s : Settings) : Prop :=
  restore = true → ∀ name ∈ s.requires, Installed.Found b.installed name

theorem absentees_eq_nil_iff : b.absentees restore s = .ok [] ↔ b.Restored restore s := by
  unfold absentees Restored
  cases restore with
  | true => simpa using Installed.missing_eq_nil_iff
  | false => simp

/-- What ends a build without a result: a descriptor that is no text, that has a number with too
many digits or tables of another shape, and a requirement that cannot even be looked up. -/
inductive Escapes (b : Builder) (t : Tree) (descriptor : Path) (restore : Bool) : Prop
  | text {e} (h : t.readText descriptor = .error (.utf8 e))
  | number {text digits place} (h : t.readText descriptor = .ok text)
      (hn : Toml.read text = .error ⟨.tooLong digits, place⟩)
  | shape {text entries} (h : t.readText descriptor = .ok text)
      (hr : Toml.read text = .ok entries) (hs : ¬Settings.WellShaped entries)
  | requirement {s name e} (hs : Settings.read t descriptor = .ok s) (hr : restore = true)
      (hn : name ∈ s.requires) (h : Installed.Unfindable b.installed name e)

/-- Errors in settings that a build does not report are such descriptors. -/
theorem escapes_of_unreported {e : SettingsError} (h : Settings.read t descriptor = .error e)
    (he : e.isReported = false) : b.Escapes t descriptor restore := by
  unfold Settings.read at h
  split at h
  · cases h
    cases he
  · rename_i htext
    exact .text htext
  · rename_i text htext
    split at h
    · rename_i hread
      exact .number htext hread
    · cases h
      cases he
    · rename_i entries hread
      split at h
      · cases h
      · rename_i hs
        refine .shape htext hread fun hw => ?_
        obtain ⟨s, hok⟩ := Settings.ofTable_isOk_iff.mpr hw
        cases hs.symm.trans hok

/-- In such a case a build ends with a fault, and starts no child. -/
theorem Escapes.idle (h : b.Escapes t descriptor restore) :
    ∃ fault, b.Idle t descriptor restore (.error fault) := by
  have hunread : ∀ {e}, Settings.read t descriptor = .error e → e.isReported = false →
      ∃ fault, b.Idle t descriptor restore (.error fault) := by
    intro e he hr
    have hidle : b.Idle t descriptor restore _ := idle_unread he
    rw [hr] at hidle
    exact ⟨_, hidle⟩
  cases h with
  | @text e h =>
    have hread : Settings.read t descriptor = .error (.text e) := by simp only [Settings.read, h]
    exact hunread hread rfl
  | @number _ digits _ h hn =>
    have hread : Settings.read t descriptor = .error (.number digits) := by
      simp only [Settings.read, h, hn]
    exact hunread hread rfl
  | @shape text entries h hr hs =>
    cases hf : Settings.ofTable descriptor.parent.name (.dict entries) with
    | ok s => exact absurd (Settings.ofTable_isOk_iff.mp ⟨s, hf⟩) hs
    | error f =>
      have hread : Settings.read t descriptor = .error (.shape f) := by
        simp only [Settings.read, h, hr, hf]
      exact hunread hread rfl
  | requirement hs hr hn h =>
    obtain ⟨e, he⟩ := Installed.missing_error_iff.mpr ⟨_, hn, _, h⟩
    exact ⟨_, idle_unfindable hs (by rw [absentees, if_pos hr, he])⟩

/-- A failure that says something, and that has no artifact. -/
structure Failed (r : Result) : Prop where
  unsuccessful : r.success = false
  artifact : r.artifact = none
  messages : r.messages ≠ []

theorem failed_of_mem {messages : List String} {m : String} (hm : m ∈ messages) (h : m ≠ "") :
    Failed (.failed messages) where
  unsuccessful := rfl
  artifact := rfl
  messages := List.ne_nil_of_mem (List.mem_filter.mpr ⟨hm, by simpa using h⟩)

/-- A child whose texts do not start with white space. -/
structure Trimmed (done : Child.Completion) : Prop where
  stdout : TrimmedLeft done.stdout
  stderr : TrimmedLeft done.stderr

/-- A way to start children that changes no file and hands on what they say without white space in
front. -/
structure Discreet (run : Runner) : Prop where
  quiet : ∀ c, Work.Quiet (run c)
  trimmed : ∀ c t done, Work.Ends (run c) t t (.ok done) → Trimmed done

theorem trimmed_run {c : Child.Command} {done : Child.Completion} (h : c.run t = .ok done) :
    Trimmed done := by
  have htimedOut : ∀ words limit, Trimmed (Child.timedOut words limit) := by
    refine fun words limit => ⟨fun c rest h => ?_, fun c rest h => ?_⟩
    · cases h
    · simp only [Child.timedOut, String.toList_append, List.append_assoc] at h
      cases h
      decide
  have houtputs : ∀ code out err,
      Trimmed ⟨code, Child.outputText out, Child.outputText err⟩ :=
    fun _ _ _ => ⟨trimmedLeft_trim _, trimmedLeft_trim _⟩
  unfold Child.Command.run at h
  obtain ⟨here, _, h⟩ := bind_eq_ok h
  split at h
  · cases h
  · split at h
    · cases h
      exact htimedOut _ _
    · cases h
      exact houtputs _ _ _

theorem discreet_startChild : Discreet startChild where
  quiet _ := Work.quiet_look _
  trimmed _ _ _ h := trimmed_run (Work.ends_look_iff.mp h).2.symm

/-- A child that does not accept the sources is told about. -/
theorem failed_complaints {done : Child.Completion} (h : Trimmed done) :
    Failed (.failed (complaints done)) := by
  have hlines : ∀ {s : String}, (∃ line ∈ lines false s.toList, line ≠ []) →
      Failed (.failed ((lines false s.toList).map String.ofList)) := by
    rintro s ⟨line, hline, hne⟩
    exact failed_of_mem (List.mem_map_of_mem hline) (by simpa using hne)
  unfold complaints
  dsimp only
  apply hlines
  split
  · rename_i hs
    exact exists_line_of_trimmedLeft h.stderr (by simpa using hs)
  · split
    · rename_i hs
      exact exists_line_of_trimmedLeft h.stdout (by simpa using hs)
    · rw [String.toList_append]
      exact exists_line_of_head (by decide) _

/-- What is found out before a child is started: the build is settled by a failure or a fault, or
everything is there. -/
theorem idle_or_starts (b : Builder) (t : Tree) (descriptor : Path) (restore : Bool) :
    b.Escapes t descriptor restore ∨
      (∃ r, Failed r ∧ b.Idle t descriptor restore (.ok r)) ∨
      ∃ s, Settings.read t descriptor = .ok s ∧ b.Restored restore s ∧
        sourceNames t descriptor.parent ≠ [] := by
  cases hs : Settings.read t descriptor with
  | error e =>
    cases he : e.isReported with
    | false => exact .inl (escapes_of_unreported hs he)
    | true =>
      have hidle : b.Idle t descriptor restore _ := idle_unread hs
      rw [he] at hidle
      exact .inr (.inl ⟨_, failed_of_mem List.mem_cons_self (by simp), hidle⟩)
  | ok s =>
    cases ha : b.absentees restore s with
    | error e =>
      cases restore with
      | false => cases ha
      | true =>
        obtain ⟨name, hn, _, h⟩ := Installed.missing_error_iff.mp ⟨e, ha⟩
        exact .inl (.requirement hs rfl hn h)
    | ok absent =>
      cases absent with
      | cons name more =>
        exact .inr (.inl ⟨_, failed_of_mem List.mem_cons_self (by simp), idle_absent hs ha⟩)
      | nil =>
        by_cases hn : sourceNames t descriptor.parent = []
        · exact .inr (.inl ⟨_, failed_of_mem List.mem_cons_self (by simp), idle_empty hs ha hn⟩)
        · exact .inr (.inr ⟨s, rfl, absentees_eq_nil_iff.mp ha, hn⟩)

/-- A build returns after its child: with a failure and the tree as it was, or with the artifact. -/
theorem ends_concluded_iff {done : Child.Completion} :
    Work.Ends (concluded directory s names (.ok done)) t after (.ok r) ↔
      (done.code ≠ 0 ∧ after = t ∧ r = .failed (complaints done)) ∨
      (done.code = 0 ∧ Work.Ends (pack (s.artifact directory) directory names) t after (.ok ()) ∧
        r = { success := true, artifact := some (s.artifact directory) }) := by
  have hdone : Work.Ends ((Work.ofExcept (.ok done)).mapError Fault.file) t t (.ok done) :=
    Work.ends_mapError_iff.mpr ⟨_, Work.ends_ofExcept_iff.mpr ⟨rfl, rfl⟩, rfl⟩
  rw [concluded, Work.ends_bind_ok hdone]
  by_cases hc : done.code = 0
  · rw [if_neg (by simp [hc]), Work.ends_bind_iff]
    constructor
    · rintro (⟨mid, u, hpack, h⟩ | ⟨_, _, h⟩)
      · obtain ⟨rfl, hr⟩ := Work.ends_pure_iff.mp h
        obtain ⟨res, hpack, hres⟩ := Work.ends_mapError_iff.mp hpack
        rw [eq_ok_of_mapError hres.symm] at hpack
        exact .inr ⟨hc, hpack, Except.ok.inj hr⟩
      · cases h
    · rintro (⟨hne, _⟩ | ⟨_, hpack, rfl⟩)
      · exact absurd hc hne
      · exact .inl ⟨after, (), Work.ends_mapError_iff.mpr ⟨_, hpack, rfl⟩,
          Work.ends_pure_iff.mpr ⟨rfl, rfl⟩⟩
  · rw [if_pos (by simpa using hc), Work.ends_pure_iff]
    constructor
    · rintro ⟨rfl, hr⟩
      exact .inl ⟨hc, rfl, Except.ok.inj hr⟩
    · rintro (⟨_, rfl, rfl⟩ | ⟨h, _⟩)
      · exact ⟨rfl, rfl⟩
      · exact absurd h hc

/-- A child that cannot be started ends the build. -/
theorem ends_concluded_error {e : FileError} :
    Work.Ends (concluded directory s names (.error e)) t t (.error (.file e)) :=
  (Work.ends_bind_error (Work.ends_mapError_iff.mpr
    ⟨_, Work.ends_ofExcept_iff.mpr ⟨rfl, rfl⟩, rfl⟩)).mpr ⟨rfl, rfl⟩

theorem Idle.ends {res : Except Fault Result} (h : b.Idle t descriptor restore res) :
    Work.Ends (b.build descriptor restore) t t res :=
  Work.Settled.ends h b.run

theorem Starts.ends {c : Child.Command} {done : Child.Completion} {res : Except Fault Result}
    {next : Except FileError Child.Completion → Work Fault Result}
    (h : b.Starts t descriptor restore c next) (hc : Work.Ends (b.run c) t t (.ok done))
    (hn : Work.Ends (next (.ok done)) t after res) :
    Work.Ends (b.build descriptor restore) t after res :=
  Work.CallsOnce.ends (k := b.run) h hc hn

/-- The child can be started where there are sources, and then the artifact can be written. -/
structure Workable (b : Builder) (t : Tree) (descriptor : Path) : Prop where
  child : sourceNames t descriptor.parent ≠ [] → ∃ done, Work.Ends
    (b.run (b.checkCommand descriptor.parent (sourceNames t descriptor.parent))) t t (.ok done)
  written : ∀ s, Settings.read t descriptor = .ok s → sourceNames t descriptor.parent ≠ [] →
    ∃ after, Work.Ends (pack (s.artifact descriptor.parent) descriptor.parent
      (sourceNames t descriptor.parent)) t after (.ok ())

/-- How a build comes out. -/
structure Outcome (b : Builder) (t : Tree) (descriptor : Path) (restore : Bool) : Prop where
  escapes : b.Escapes t descriptor restore → ∃ fault, b.Idle t descriptor restore (.error fault)
  returns : ¬b.Escapes t descriptor restore →
    ∃ after r, Work.Ends (b.build descriptor restore) t after (.ok r)
  failed : ∀ after r, Work.Ends (b.build descriptor restore) t after (.ok r) → r.success = false →
    Failed r ∧ after = t
  /-- Without settings, or without something that is required, no child is started. -/
  early : (∀ s, Settings.read t descriptor = .ok s → ¬b.Restored restore s) →
    ∃ res, b.Idle t descriptor restore res ∧ ∀ r, res = .ok r → Failed r

/-- With everything there the child decides. -/
theorem exists_ends_started (hd : Discreet b.run) (h : b.Workable t descriptor)
    (hs : Settings.read t descriptor = .ok s) (hr : b.Restored restore s)
    (hn : sourceNames t descriptor.parent ≠ []) :
    ∃ after r, Work.Ends (b.build descriptor restore) t after (.ok r) ∧
      (r.success = false → Failed r ∧ after = t) := by
  obtain ⟨done, hdone⟩ := h.child hn
  obtain ⟨written, hwritten⟩ := h.written s hs hn
  have hstarts := starts_build hs (absentees_eq_nil_iff.mpr hr) hn
  by_cases hc : done.code = 0
  · refine ⟨written, _, hstarts.ends hdone (ends_concluded_iff.mpr (.inr ⟨hc, hwritten, rfl⟩)), ?_⟩
    intro hfalse
    cases hfalse
  · exact ⟨t, _, hstarts.ends hdone (ends_concluded_iff.mpr (.inl ⟨hc, rfl, rfl⟩)),
      fun _ => ⟨failed_complaints (hd.trimmed _ _ _ hdone), rfl⟩⟩

/-- A directory whose project requires a module below one that is not installed. -/
def loft : Tree where
  root := .dir [("loft", .dir [("a.py", .file (.ofText "")),
    ("pyproject.toml", .file (.ofText "tool.ntgen.build.requires = ['missing.sub']"))])]
  here := ⟨.root, []⟩

def loftFile : Path := ⟨.root, ["loft", "pyproject.toml"]⟩

theorem read_loft : Settings.read loft loftFile = .ok ⟨"loft", "py3", ["missing.sub"]⟩ := by
  have hread : (Settings.read loft loftFile).toOption =
      some ⟨"loft", "py3", ["missing.sub"]⟩ := by decide +kernel
  exact eq_ok_of_toOption hread

theorem sourceNames_loft : sourceNames loft loftFile.parent = ["a.py"] := by
  have hnames : loft.namesIn loftFile.parent = ["a.py", "pyproject.toml"] :=
    List.mergeSort_of_pairwise (by decide)
  rw [sourceNames, hnames]
  decide +kernel

/-- The child can check sources in a directory. -/
theorem exists_completion {b : Builder} {entries : List (String × Node)}
    (hp : b.python = "python3") (hd : t.node directory = .ok (.dir entries)) :
    ∃ done, Work.Ends (startChild (b.checkCommand directory names)) t t (.ok done) := by
  have hdirectory : (b.checkCommand directory names).directory t = .ok (t.resolve directory) := by
    simp only [Child.Command.directory, checkCommand, hd]
    rfl
  have hran : ∀ w, Child.ran w (b.checkCommand directory names).words =
      some (Child.checkSources w names) := by
    intro w
    rw [checkCommand, hp]
    rfl
  have hrun : ∃ done, (b.checkCommand directory names).run t = .ok done := by
    simp only [Child.Command.run, hdirectory, bind, Except.bind, hran]
    split <;> exact ⟨_, rfl⟩
  obtain ⟨done, hdone⟩ := hrun
  exact ⟨done, Work.ends_look_iff.mpr ⟨rfl, hdone.symm⟩⟩

theorem written_loft (hs : Settings.read loft loftFile = .ok s) :
    ∃ after, Work.Ends (pack (s.artifact loftFile.parent) loftFile.parent
      (sourceNames loft loftFile.parent)) loft after (.ok ()) := by
  cases read_loft.symm.trans hs
  have hpack : (pack (Settings.artifact ⟨"loft", "py3", ["missing.sub"]⟩ loftFile.parent)
      loftFile.parent (sourceNames loft loftFile.parent) loft).result.toOption = some () := by
    rw [sourceNames_loft]
    decide +kernel
  exact ⟨_, rfl, eq_ok_of_toOption hpack⟩

theorem workable_loft : Workable {} loft loftFile where
  child _ := exists_completion rfl rfl
  written _ hs _ := written_loft hs

end Stencil.Build.Builder
