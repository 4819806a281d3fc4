import Stencil.Configuration.Artifact
import Stencil.Proofs.Result

/-!
Loading a configuration from an artifact. The code of its user runs at three points: in the modules,
in making the settings object, and where a setting of that object is read. An ordinary error of the
first two is a failure of the artifact. Reading a setting has no such guard: an error there escapes,
but for one that says that there is no such setting.
-/
namespace Stencil.Artifact
open Stencil.Files

variable {t : Tree} {artifact : Path} {members : List Member} {x : Script.Raised}

/-- Runs modules one after another, whatever names are entered for them. -/
def runAll (artifact : Path) (members : List Member) (m : Script.Memory) :
    List String → Except ArtifactError Script.Memory
  | [] => .ok m
  | member :: rest => do
    let (_, source) ← sourceOf artifact members member
    match run m member source with
    | .error r => throw (if r.isA "Exception" then .loading member r.text else .raised r)
    | .ok m => runAll artifact members m rest

/-- The names in the table have no part in what the modules do. -/
theorem runAllIn_result (table : Table) (m : Script.Memory) (names : List String) :
    (runAllIn artifact members table m names).2 = runAll artifact members m names := by
  induction names generalizing table m with
  | nil => rfl
  | cons member rest ih =>
    unfold runAllIn runAll
    cases sourceOf artifact members member with
    | error e => rfl
    | ok found =>
      simp only [bind, Except.bind]
      cases run m member found.2 with
      | error x => rfl
      | ok m => exact ih _ m

/-- An artifact with members whose sources can all be read: a source that could not be read would
not have been packed. -/
structure Packed (t : Tree) (artifact : Path) (members : List Member) : Prop where
  read : Artifact.members t artifact = .ok members
  source : ∀ member ∈ moduleNames members, find? members member ≠ none →
    ∃ found, sourceOf artifact members member = .ok found

/-- A module raises an error after those before it have run. -/
def ModuleRaises (artifact : Path) (members : List Member) (member : String) (x : Script.Raised) :
    Prop :=
  ∃ before rest m file source, moduleNames members = before ++ member :: rest ∧
    runAll artifact members .start before = .ok m ∧
    sourceOf artifact members member = .ok (file, source) ∧ run m member source = .error x

/-- All modules have run, and there is one settings class. -/
def Ready (artifact : Path) (members : List Member) (m : Script.Memory) (c : Script.ClassRecord) :
    Prop :=
  runAll artifact members .start (moduleNames members) = .ok m ∧ candidates m = [c]

/-- Making the settings object raises an error. -/
def ConstructorRaises (artifact : Path) (members : List Member) (c : Script.ClassRecord)
    (x : Script.Raised) : Prop :=
  ∃ m, Ready artifact members m c ∧ (Script.construct .top c.key {}).outcome m = .error x

/-- Reads one setting of an object. -/
def readSetting (object : Template.Value) (name : String) : Script.Eval Plain := do
  Script.plainOf (← Script.attributeOf .top object name)

/-- Settings are read one after another; one that there is not is passed over. -/
inductive Reading (object : Template.Value) :
    Script.Memory → List String → Script.Memory → Prop where
  | done (m) : Reading object m [] m
  | value {m m' last name rest v} : (readSetting object name).outcome m = .ok (v, m') →
      Reading object m' rest last → Reading object m (name :: rest) last
  | absent {m last name rest x} : (readSetting object name).outcome m = .error x →
      x.isA "AttributeError" = true → Reading object m rest last →
      Reading object m (name :: rest) last

/-- Reading a setting raises an error, and not the one that there is no such setting. -/
def SettingRaises (artifact : Path) (members : List Member) (name : String) (x : Script.Raised) :
    Prop :=
  ∃ m c object made before rest last, Ready artifact members m c ∧
    (Script.construct .top c.key {}).outcome m = .ok (object, made) ∧
    Settings.Resolved.userNames.map Prod.fst = before ++ name :: rest ∧
    Reading object made before last ∧ (readSetting object name).outcome last = .error x ∧
    x.isA "AttributeError" = false

/-! The modules. -/

theorem runAll_append (m : Script.Memory) (before rest : List String) :
    runAll artifact members m (before ++ rest) =
      runAll artifact members m before >>= fun m => runAll artifact members m rest := by
  induction before generalizing m with
  | nil => rfl
  | cons member before ih =>
    simp only [List.cons_append, runAll]
    cases sourceOf artifact members member with
    | error e => rfl
    | ok found =>
      simp only [bind, Except.bind]
      cases run m member found.2 with
      | error x => rfl
      | ok m => exact ih m

/-- What running the modules fails with: a source that cannot be had, or what a module raises. -/
theorem runAll_error {m : Script.Memory} {names : List String} {e : ArtifactError}
    (h : runAll artifact members m names = .error e) :
    ∃ before member rest last, names = before ++ member :: rest ∧
      runAll artifact members m before = .ok last ∧
      (sourceOf artifact members member = .error e ∨
        ∃ file source x, sourceOf artifact members member = .ok (file, source) ∧
          run last member source = .error x ∧
          e = if x.isA "Exception" then .loading member x.text else .raised x) := by
  induction names generalizing m with
  | nil => cases h
  | cons member rest ih =>
    cases hs : sourceOf artifact members member with
    | error e' =>
      simp only [runAll, hs, bind, Except.bind] at h
      cases h
      exact ⟨[], member, rest, m, rfl, rfl, .inl hs⟩
    | ok found =>
      obtain ⟨file, source⟩ := found
      simp only [runAll, hs, bind, Except.bind] at h
      cases hr : run m member source with
      | error x =>
        rw [hr] at h
        exact ⟨[], member, rest, m, rfl, rfl, .inr ⟨file, source, x, hs, hr,
          (Except.error.inj h).symm⟩⟩
      | ok next =>
        rw [hr] at h
        obtain ⟨before, other, later, last, rfl, hbefore, hstop⟩ := ih h
        refine ⟨member :: before, other, later, last, rfl, ?_, hstop⟩
        simp only [runAll, hs, hr, bind, Except.bind]
        exact hbefore

/-- An error of a module ends the modules with the failure that is made of it. -/
theorem runAll_of_raises {member : String} (h : ModuleRaises artifact members member x) :
    runAll artifact members .start (moduleNames members) =
      .error (if x.isA "Exception" then .loading member x.text else .raised x) := by
  obtain ⟨before, rest, m, file, source, hnames, hbefore, hsource, hrun⟩ := h
  rw [hnames, runAll_append, hbefore]
  simp only [bind, Except.bind, runAll, hsource, hrun]
  rfl

/-! The settings. -/

theorem readSettings_cons (object : Template.Value) (m : Script.Memory) (name : String)
    (rest : List String) : readSettings object m (name :: rest) =
      match (readSetting object name).outcome m with
      | .ok (v, m) => (readSettings object m rest).map fun more => (name, v) :: more
      | .error r => if r.isA "AttributeError" then readSettings object m rest else .error r := rfl

theorem readSettings_of_reading {object : Template.Value} {m last : Script.Memory}
    {before rest : List String} (h : Reading object m before last)
    (hx : readSettings object last rest = .error x) :
    readSettings object m (before ++ rest) = .error x := by
  induction h with
  | done => exact hx
  | value hv _ ih =>
    rw [List.cons_append, readSettings_cons, hv]
    dsimp only
    rw [ih hx]
    rfl
  | absent he ha _ ih =>
    rw [List.cons_append, readSettings_cons, he]
    dsimp only
    rw [if_pos ha]
    exact ih hx

/-- Reading settings fails with what the first setting raises that does raise something. -/
theorem readSettings_error_iff {object : Template.Value} {m : Script.Memory}
    {names : List String} : readSettings object m names = .error x ↔
      ∃ before name rest last, names = before ++ name :: rest ∧ Reading object m before last ∧
        (readSetting object name).outcome last = .error x ∧ x.isA "AttributeError" = false := by
  constructor
  · intro h
    induction names generalizing m with
    | nil => cases h
    | cons name rest ih =>
      rw [readSettings_cons] at h
      cases ho : (readSetting object name).outcome m with
      | ok found =>
        obtain ⟨v, next⟩ := found
        rw [ho] at h
        dsimp only at h
        cases hr : readSettings object next rest with
        | ok => rw [hr] at h; cases h
        | error y =>
          rw [hr] at h
          cases h
          obtain ⟨before, other, later, last, rfl, hbefore, hstop⟩ := ih hr
          exact ⟨name :: before, other, later, last, rfl, .value ho hbefore, hstop⟩
      | error y =>
        rw [ho] at h
        dsimp only at h
        split at h
        · rename_i ha
          obtain ⟨before, other, later, last, rfl, hbefore, hstop⟩ := ih h
          exact ⟨name :: before, other, later, last, rfl, .absent ho ha hbefore, hstop⟩
        · rename_i ha
          cases h
          exact ⟨[], name, rest, m, rfl, .done m, ho, Bool.eq_false_iff.mpr ha⟩
  · rintro ⟨before, name, rest, last, rfl, hbefore, ho, ha⟩
    refine readSettings_of_reading hbefore ?_
    rw [readSettings_cons, ho]
    dsimp only
    rw [if_neg (by rw [ha]; exact Bool.false_ne_true)]

/-! The artifact as a whole. -/

theorem loadIn_result (loaded : List String) (t : Tree) (artifact : Path) :
    (Configuration.loadIn loaded t artifact).2 = (Artifact.members t artifact).bind fun members =>
      (runAll artifact members .start (moduleNames members)).bind (configurationIn artifact) := by
  unfold Configuration.loadIn
  cases Artifact.members t artifact with
  | error e => rfl
  | ok members => simp only [Except.bind, runAllIn_result]

/-- What is loaded does not depend on the modules that are loaded already. -/
theorem loadIn_eq_load (loaded : List String) (t : Tree) (artifact : Path) :
    (Configuration.loadIn loaded t artifact).2 = Configuration.load t artifact := by
  rw [Configuration.load, loadIn_result, loadIn_result]

theorem load_eq_bind (t : Tree) (artifact : Path) :
    Configuration.load t artifact = (Artifact.members t artifact).bind fun members =>
      (runAll artifact members .start (moduleNames members)).bind (configurationIn artifact) :=
  loadIn_result [] t artifact

theorem load_eq (h : Artifact.members t artifact = .ok members) :
    Configuration.load t artifact =
      (runAll artifact members .start (moduleNames members)).bind fun m =>
        match candidates m with
        | [c] => configurationOf m c
        | cs => .error (.notOne artifact (cs.map (·.path))) := by
  rw [load_eq_bind, h]
  rfl

theorem load_of_ready {m : Script.Memory} {c : Script.ClassRecord}
    (h : Artifact.members t artifact = .ok members) (hr : Ready artifact members m c) :
    Configuration.load t artifact = configurationOf m c := by
  rw [load_eq h, hr.1]
  simp only [Except.bind, hr.2]

theorem load_of_moduleRaises {member : String} (h : Artifact.members t artifact = .ok members)
    (hx : ModuleRaises artifact members member x) : Configuration.load t artifact =
      .error (if x.isA "Exception" then .loading member x.text else .raised x) := by
  rw [load_eq h, runAll_of_raises hx]
  rfl

theorem load_of_constructorRaises {c : Script.ClassRecord}
    (h : Artifact.members t artifact = .ok members) (hx : ConstructorRaises artifact members c x) :
    Configuration.load t artifact =
      .error (if x.isA "Exception" then .creation c.path x.text else .raised x) := by
  obtain ⟨m, hr, hc⟩ := hx
  rw [load_of_ready h hr]
  unfold configurationOf
  rw [hc]

theorem load_of_settingRaises {name : String} (h : Artifact.members t artifact = .ok members)
    (hx : SettingRaises artifact members name x) :
    Configuration.load t artifact = .error (.raised x) := by
  obtain ⟨m, c, object, made, before, rest, last, hr, hc, hnames, hread, ho, ha⟩ := hx
  rw [load_of_ready h hr]
  unfold configurationOf
  rw [hc]
  dsimp only
  rw [readSettings_error_iff.mpr ⟨before, name, rest, last, hnames, hread, ho, ha⟩]

/-- An error that nothing takes: of a module or of making the settings object, when it is no
ordinary one, or of reading a setting. -/
def Escapes (artifact : Path) (members : List Member) (x : Script.Raised) : Prop :=
  (∃ member, ModuleRaises artifact members member x ∧ x.isA "Exception" = false) ∨
    (∃ c, ConstructorRaises artifact members c x ∧ x.isA "Exception" = false) ∨
    ∃ name, SettingRaises artifact members name x

/-- A configuration is not had because its object cannot be made, or because reading a setting
raises something; or its settings are refused. -/
theorem configurationOf_raised {m : Script.Memory} {c : Script.ClassRecord}
    (h : configurationOf m c = .error (.raised x)) :
    (Script.construct .top c.key {}).outcome m = .error x ∧ x.isA "Exception" = false ∨
      ∃ object made, (Script.construct .top c.key {}).outcome m = .ok (object, made) ∧
        readSettings object made (Settings.Resolved.userNames.map Prod.fst) = .error x := by
  unfold configurationOf at h
  split at h
  · rename_i y hc
    split at h
    · cases h
    · rename_i hn
      cases h
      exact .inl ⟨hc, Bool.eq_false_iff.mpr hn⟩
  · rename_i object made hc
    split at h
    · rename_i y hs
      cases h
      exact .inr ⟨object, made, hc, hs⟩
    · split at h <;> cases h

/-- A source that can be found can be read. -/
theorem Packed.sourceOf_ne (h : Packed t artifact members) {member : String}
    (hm : member ∈ moduleNames members) :
    sourceOf artifact members member ≠ .error (.raised x) := by
  intro hs
  by_cases hf : find? members member = none
  · unfold sourceOf at hs
    rw [hf] at hs
    cases hs
  · obtain ⟨found, hfound⟩ := h.source member hm hf
    cases hs.symm.trans hfound

/-- What escapes from loading is what nothing takes. -/
theorem load_raised_iff (h : Packed t artifact members) :
    Configuration.load t artifact = .error (.raised x) ↔ Escapes artifact members x := by
  constructor
  · intro hload
    rw [load_eq h.read] at hload
    cases hm : runAll artifact members .start (moduleNames members) with
    | error e =>
      rw [hm] at hload
      cases hload
      obtain ⟨before, member, rest, last, hnames, hbefore, hsource | hraises⟩ := runAll_error hm
      · exact absurd hsource (h.sourceOf_ne (by simp [hnames]))
      · obtain ⟨file, source, y, hsource, hrun, hy⟩ := hraises
        split at hy
        · cases hy
        · rename_i hn
          cases hy
          exact .inl ⟨member, ⟨before, rest, last, file, source, hnames, hbefore, hsource, hrun⟩,
            Bool.eq_false_iff.mpr hn⟩
    | ok m =>
      rw [hm] at hload
      simp only [Except.bind] at hload
      split at hload
      · rename_i c hc
        have hr : Ready artifact members m c := ⟨hm, hc⟩
        rcases configurationOf_raised hload with ⟨hx, hn⟩ | ⟨object, made, hx, hs⟩
        · exact .inr (.inl ⟨c, ⟨m, hr, hx⟩, hn⟩)
        · obtain ⟨before, name, rest, last, hnames, hread, ho, ha⟩ := readSettings_error_iff.mp hs
          exact .inr (.inr ⟨name, m, c, object, made, before, rest, last, hr, hx, hnames, hread, ho,
            ha⟩)
      · cases hload
  · rintro (⟨member, hx, hn⟩ | ⟨c, hx, hn⟩ | ⟨name, hx⟩)
    · rw [load_of_moduleRaises h.read hx, if_neg (by rw [hn]; exact Bool.false_ne_true)]
    · rw [load_of_constructorRaises h.read hx, if_neg (by rw [hn]; exact Bool.false_ne_true)]
    · exact load_of_settingRaises h.read hx

end Stencil.Artifact
