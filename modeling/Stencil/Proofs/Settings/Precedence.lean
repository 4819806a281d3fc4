import Stencil.Settings.Options

/-!
Which value a field of the options takes. An override that is set comes first, then the variable of
the field, then its default; a value that the field does not accept is told as a problem of that
field. There is one exception: a text for the timeout that is no whole number ends the reading of
the environment, also where an override would take its place.
-/
namespace Stencil.Settings

/-! Checks that are put together. -/

namespace Checked

variable {α β : Type} {f : Checked (α → β)} {c : Checked α}

def problems : Checked α → List Problem
  | ok _ => []
  | bad ps => ps

theorem map_ok_iff {g : α → β} {b : β} : g <$> c = ok b ↔ ∃ a, c = ok a ∧ g a = b := by
  constructor
  · intro h
    cases c with
    | ok a => exact ⟨a, rfl, Checked.ok.inj h⟩
    | bad ps => cases h
  · rintro ⟨a, rfl, rfl⟩
    rfl

theorem seq_ok_iff {b : β} : f <*> c = ok b ↔ ∃ g a, f = ok g ∧ c = ok a ∧ g a = b := by
  constructor
  · intro h
    cases f with
    | ok g =>
      cases c with
      | ok a => exact ⟨g, a, rfl, rfl, Checked.ok.inj h⟩
      | bad ps => cases h
    | bad ps => cases c <;> cases h
  · rintro ⟨g, a, rfl, rfl, rfl⟩
    rfl

@[simp] theorem problems_map (g : α → β) (c : Checked α) : (g <$> c).problems = c.problems := by
  cases c <;> rfl

/-- All problems are kept, in the order of the checks. -/
@[simp] theorem problems_seq (f : Checked (α → β)) (c : Checked α) :
    (f <*> c).problems = f.problems ++ c.problems := by
  cases f <;> cases c <;> simp [problems, Seq.seq, Checked.and, Checked.map]

theorem within_ok_iff {name : String} {a : α} : c.within name = ok a ↔ c = ok a := by
  cases c <;> simp [within]

theorem problems_within (name : String) :
    (c.within name).problems = c.problems.map (Problem.within name) := by
  cases c <;> rfl

end Checked

/-- A field among others is the first one of its name. -/
theorem valueOf?_append (xs ys : Fields) (name : String) :
    Plain.valueOf? (xs ++ ys) name = (Plain.valueOf? xs name).or (Plain.valueOf? ys name) := by
  unfold Plain.valueOf?
  rw [List.find?_append]
  cases List.find? _ xs <;> rfl

/-! Fields that are set from outside. -/

/-- What can be set from outside: by an override of its name, or by a variable, a text in which
stands for some value. -/
structure Slot where
  name : String
  setBy : Option (String × (String → Plain))

namespace Slot

variable (slot : Slot) (env : List (String × String)) (overrides : Fields)

/-- The override, if there is one with a value. -/
def override? : Option Plain := Plain.valueOf? (overrides.filter isSet) slot.name

/-- What the variable says, if it is set to anything. -/
def fromVariable? : Option Plain :=
  slot.setBy.bind fun (name, ofText) => (setting? env name).map ofText

/-- What is given from outside: an override before a variable. -/
def given? : Option Plain := (slot.override? overrides).or (slot.fromVariable? env)

/-- The entry that the variable adds to a record. -/
def entry : Fields := ((slot.fromVariable? env).map fun v => (.str slot.name, v)).toList

end Slot

/-- A field of the options. -/
structure Field (α : Type) extends Slot where
  default : α
  check : Plain → Checked α

namespace Field

variable {α : Type}

/-- The value of a field: the one that it is given, if it accepts that, or else its default. -/
def checked (f : Field α) (env : List (String × String)) (overrides : Fields) : Checked α :=
  match f.given? env overrides with
  | some v => (f.check v).within f.name
  | none => .ok f.default

/-- A field has the value that it is given, as it accepts it, or else its default. -/
def Takes (f : Field α) (env : List (String × String)) (overrides : Fields) (a : α) : Prop :=
  match f.given? env overrides with
  | some v => f.check v = .ok a
  | none => a = f.default

theorem checked_ok_iff {f : Field α} {env : List (String × String)} {overrides : Fields} {a : α} :
    f.checked env overrides = .ok a ↔ f.Takes env overrides a := by
  unfold checked Takes
  cases f.given? env overrides with
  | some v => exact Checked.within_ok_iff
  | none => exact ⟨fun h => (Checked.ok.inj h).symm, fun h => h ▸ rfl⟩

/-- What is wrong with the value that a field is given. -/
def problems (f : Field α) (env : List (String × String)) (overrides : Fields) : List Problem :=
  match f.given? env overrides with
  | some v => (f.check v).problems.map (Problem.within f.name)
  | none => []

theorem problems_checked (f : Field α) (env : List (String × String)) (overrides : Fields) :
    (f.checked env overrides).problems = f.problems env overrides := by
  unfold checked problems
  cases f.given? env overrides with
  | some v => exact Checked.problems_within f.name
  | none => rfl

end Field

/-- Options whose fields have their defaults. -/
def standardOptions : Options := { target := default, kind := .solution }

def verboseField : Field Bool where
  name := "verbose"
  setBy := some ("NTGEN_VERBOSE", fun s => .bool (truthy s))
  default := standardOptions.verbose
  check := flag

def keepConfigBuildField : Field Bool where
  name := "keep_config_build"
  setBy := some ("NTGEN_KEEP_CONFIG_BUILD", fun s => .bool (truthy s))
  default := standardOptions.keepConfigBuild
  check := flag

def templateExtensionField : Field String where
  name := "template_extension"
  setBy := some ("NTGEN_TEMPLATE_EXTENSION", .str)
  default := standardOptions.templateExtension
  check := extension

def markerAttributeField : Field String where
  name := "marker_attribute"
  setBy := some ("NTGEN_MARKER_ATTRIBUTE", .str)
  default := standardOptions.markerAttribute
  check := text

/-- A text that is no whole number is refused before it is asked what it stands for. -/
def buildTimeoutField : Field Int where
  name := "build_timeout"
  setBy := some ("NTGEN_BUILD_TIMEOUT", fun s => .int ((wholeOf? s).getD 0))
  default := standardOptions.buildTimeout
  check := timeout

def excludedDirsField : Field (List String) where
  name := "exclude_dirs"
  setBy := none
  default := standardOptions.excludedDirs
  check := list text

/-- What can be set from outside, in the order of the fields. -/
def slots : List Slot :=
  [verboseField.toSlot, keepConfigBuildField.toSlot, templateExtensionField.toSlot,
    markerAttributeField.toSlot, buildTimeoutField.toSlot, excludedDirsField.toSlot]

/-- Where the variable of the timeout is set, it holds a whole number. -/
def Readable (env : List (String × String)) : Prop :=
  ∀ s, setting? env "NTGEN_BUILD_TIMEOUT" = some s → (wholeOf? s).isSome = true

theorem readable_or (env : List (String × String)) : Readable env ∨
    ∃ s, setting? env "NTGEN_BUILD_TIMEOUT" = some s ∧ wholeOf? s = none := by
  cases hs : setting? env "NTGEN_BUILD_TIMEOUT" with
  | none => exact Or.inl fun s h => by cases hs.symm.trans h
  | some s =>
    cases hn : wholeOf? s with
    | none => exact Or.inr ⟨s, rfl, hn⟩
    | some n =>
      refine Or.inl fun s' h => ?_
      cases hs.symm.trans h
      rw [hn]
      rfl

/-- Options for a target, each field with the value that it takes. -/
structure Settles (target kind : Plain) (env : List (String × String)) (overrides : Fields)
    (o : Options) : Prop where
  target : path target = .ok o.target
  kind : targetKind kind = .ok o.kind
  verbose : verboseField.Takes env overrides o.verbose
  keepConfigBuild : keepConfigBuildField.Takes env overrides o.keepConfigBuild
  templateExtension : templateExtensionField.Takes env overrides o.templateExtension
  markerAttribute : markerAttributeField.Takes env overrides o.markerAttribute
  buildTimeout : buildTimeoutField.Takes env overrides o.buildTimeout
  excludedDirs : excludedDirsField.Takes env overrides o.excludedDirs

/-- What is wrong with a target and with what the fields are given, field by field. -/
def allProblems (target kind : Plain) (env : List (String × String)) (overrides : Fields) :
    List Problem :=
  (path target).problems.map (Problem.within "target_path") ++
    (targetKind kind).problems.map (Problem.within "target_kind") ++
    verboseField.problems env overrides ++ keepConfigBuildField.problems env overrides ++
    templateExtensionField.problems env overrides ++ markerAttributeField.problems env overrides ++
    buildTimeoutField.problems env overrides ++ excludedDirsField.problems env overrides

/-- How options come out: with the values that their fields take, or with all that is wrong. -/
inductive Verdict (target kind : Plain) (env : List (String × String)) (overrides : Fields) :
    Except OptionsError Options → Prop where
  | accepted {o : Options} : Settles target kind env overrides o →
      Verdict target kind env overrides (.ok o)
  | rejected : (∀ o, ¬Settles target kind env overrides o) →
      Verdict target kind env overrides (.error (.problems (allProblems target kind env overrides)))

variable {α : Type} {target kind : Plain} {env env' : List (String × String)} {overrides : Fields}

/-! The record that options are made from. -/

/-- What variables say. -/
def entries (env : List (String × String)) : Fields := slots.flatMap fun slot => slot.entry env

/-- A target, the overrides that are set and what variables say, in this order. -/
def record (target kind : Plain) (env : List (String × String)) (overrides : Fields) : Fields :=
  [(.str "target_path", target), (.str "target_kind", kind)] ++ overrides.filter isSet ++
    entries env

theorem valueOf?_entry (slot : Slot) (name : String) :
    Plain.valueOf? (slot.entry env) name =
      if slot.name = name then slot.fromVariable? env else none := by
  unfold Slot.entry Plain.valueOf?
  cases slot.fromVariable? env with
  | none => simp
  | some v => by_cases hn : slot.name = name <;> simp [hn]

/-- Where names differ, each entry is found under its own. -/
theorem valueOf?_flatMap {xs : List Slot} (hn : (xs.map Slot.name).Nodup) {slot : Slot}
    (h : slot ∈ xs) :
    Plain.valueOf? (xs.flatMap fun x => x.entry env) slot.name = slot.fromVariable? env := by
  have habsent : ∀ (xs : List Slot) (name : String), name ∉ xs.map Slot.name →
      Plain.valueOf? (xs.flatMap fun x => x.entry env) name = none := by
    intro xs name
    induction xs with
    | nil => exact fun _ => rfl
    | cons x rest ih =>
      intro hname
      rw [List.map_cons, List.mem_cons, not_or] at hname
      rw [List.flatMap_cons, valueOf?_append, valueOf?_entry, if_neg (Ne.symm hname.1),
        ih hname.2, Option.none_or]
  induction xs with
  | nil => cases h
  | cons x rest ih =>
    rw [List.map_cons, List.nodup_cons] at hn
    rw [List.flatMap_cons, valueOf?_append, valueOf?_entry]
    rcases List.mem_cons.mp h with rfl | h
    · rw [if_pos rfl, habsent rest slot.name hn.1, Option.or_none]
    · rw [if_neg (ne_of_mem_of_not_mem (List.mem_map_of_mem h) hn.1).symm, Option.none_or,
        ih hn.2 h]

/-- A field of the record is what it is given from outside. -/
theorem valueOf?_record {slot : Slot} (h : slot ∈ slots) :
    Plain.valueOf? (record target kind env overrides) slot.name = slot.given? env overrides := by
  have hnames : slot.name ≠ "target_path" ∧ slot.name ≠ "target_kind" := by
    have hall : ∀ slot ∈ slots, slot.name ≠ "target_path" ∧ slot.name ≠ "target_kind" := by decide
    exact hall slot h
  have hfirst : Plain.valueOf? [(.str "target_path", target), (.str "target_kind", kind)]
      slot.name = none := by
    simp [Plain.valueOf?, Ne.symm hnames.1, Ne.symm hnames.2]
  have hentry : Plain.valueOf? (entries env) slot.name = slot.fromVariable? env :=
    valueOf?_flatMap (by decide) h
  rw [record, valueOf?_append, valueOf?_append, hfirst, hentry, Option.none_or]
  rfl

/-- A field of the record has the value that it takes. -/
def Shown (target kind : Plain) (env : List (String × String)) (overrides : Fields)
    (f : Field α) : Prop :=
  optional (record target kind env overrides) f.name f.default f.check = f.checked env overrides

theorem shown {f : Field α} (h : f.toSlot ∈ slots) : Shown target kind env overrides f := by
  unfold Shown optional
  rw [valueOf?_record h]
  rfl

/-- Options are made from the values of their fields. -/
theorem ofFields_record : Options.ofFields (record target kind env overrides) =
    Options.mk <$> (path target).within "target_path" <*> (targetKind kind).within "target_kind" <*>
      verboseField.checked env overrides <*> keepConfigBuildField.checked env overrides <*>
      templateExtensionField.checked env overrides <*> markerAttributeField.checked env overrides <*>
      buildTimeoutField.checked env overrides <*> excludedDirsField.checked env overrides := by
  have hverbose : Shown target kind env overrides verboseField := shown (by simp [slots])
  have hkeep : Shown target kind env overrides keepConfigBuildField := shown (by simp [slots])
  have hsuffix : Shown target kind env overrides templateExtensionField := shown (by simp [slots])
  have hmarker : Shown target kind env overrides markerAttributeField := shown (by simp [slots])
  have hseconds : Shown target kind env overrides buildTimeoutField := shown (by simp [slots])
  have hdirs : Shown target kind env overrides excludedDirsField := shown (by simp [slots])
  rw [← hverbose, ← hkeep, ← hsuffix, ← hmarker, ← hseconds, ← hdirs]
  rfl

theorem ofFields_record_ok_iff {o : Options} :
    Options.ofFields (record target kind env overrides) = .ok o ↔
      Settles target kind env overrides o := by
  rw [ofFields_record]
  simp only [Checked.seq_ok_iff, Checked.map_ok_iff, Checked.within_ok_iff, Field.checked_ok_iff]
  constructor
  · rintro ⟨_, dirs, ⟨_, seconds, ⟨_, marker, ⟨_, suffix, ⟨_, keep, ⟨_, verbose, ⟨_, k,
      ⟨t, ht, rfl⟩, hk, rfl⟩, hverbose, rfl⟩, hkeep, rfl⟩, hsuffix, rfl⟩, hmarker, rfl⟩,
      hseconds, rfl⟩, hdirs, rfl⟩
    exact ⟨ht, hk, hverbose, hkeep, hsuffix, hmarker, hseconds, hdirs⟩
  · rintro ⟨ht, hk, hverbose, hkeep, hsuffix, hmarker, hseconds, hdirs⟩
    exact ⟨_, _, ⟨_, _, ⟨_, _, ⟨_, _, ⟨_, _, ⟨_, _, ⟨_, _, ⟨_, ht, rfl⟩, hk, rfl⟩, hverbose, rfl⟩,
      hkeep, rfl⟩, hsuffix, rfl⟩, hmarker, rfl⟩, hseconds, rfl⟩, hdirs, rfl⟩

theorem problems_ofFields_record :
    (Options.ofFields (record target kind env overrides)).problems =
      allProblems target kind env overrides := by
  rw [ofFields_record]
  simp only [Checked.problems_seq, Checked.problems_map, Checked.problems_within,
    Field.problems_checked, allProblems]

/-! The environment. -/

theorem variableEntry_eq (env : List (String × String)) {slot : Slot} {name : String}
    {ofText : String → Plain}
    (h : slot.setBy = some (name, ofText)) :
    variableEntry env name slot.name ofText = slot.entry env := by
  simp only [variableEntry, Slot.entry, Slot.fromVariable?, h, Option.bind_some]
  cases setting? env name <;> rfl

/-- Where the timeout can be read, every variable adds its entry. -/
theorem environmentFields_of_readable (h : Readable env) :
    environmentFields env = .ok (entries env) := by
  have hentries : entries env =
      variableEntry env "NTGEN_VERBOSE" "verbose" (fun s => .bool (truthy s)) ++
      variableEntry env "NTGEN_KEEP_CONFIG_BUILD" "keep_config_build" (fun s => .bool (truthy s)) ++
      variableEntry env "NTGEN_TEMPLATE_EXTENSION" "template_extension" .str ++
      variableEntry env "NTGEN_MARKER_ATTRIBUTE" "marker_attribute" .str ++
      buildTimeoutField.entry env := by
    have hverbose := variableEntry_eq env (show verboseField.setBy = some _ from rfl)
    have hkeep := variableEntry_eq env (show keepConfigBuildField.setBy = some _ from rfl)
    have hsuffix := variableEntry_eq env (show templateExtensionField.setBy = some _ from rfl)
    have hmarker := variableEntry_eq env (show markerAttributeField.setBy = some _ from rfl)
    have hdirs : excludedDirsField.entry env = [] := rfl
    simp only [entries, slots, List.flatMap_cons, List.flatMap_nil, ← hverbose, ← hkeep,
      ← hsuffix, ← hmarker, hdirs, List.append_nil, List.append_assoc]
    rfl
  rw [hentries]
  unfold environmentFields
  cases hs : setting? env "NTGEN_BUILD_TIMEOUT" with
  | none =>
    have hentry : buildTimeoutField.entry env = [] := by
      simp [Slot.entry, Slot.fromVariable?, buildTimeoutField, hs]
    rw [hentry]
    rfl
  | some s =>
    obtain ⟨n, hn⟩ := Option.isSome_iff_exists.mp (h s hs)
    have hentry : buildTimeoutField.entry env = [(.str "build_timeout", .int n)] := by
      simp [Slot.entry, Slot.fromVariable?, buildTimeoutField, hs, hn]
    rw [hentry]
    dsimp only
    rw [hn]
    rfl

theorem environmentFields_unreadable {s : String}
    (hs : setting? env "NTGEN_BUILD_TIMEOUT" = some s) (h : wholeOf? s = none) :
    environmentFields env = .error (.notWhole s) := by
  unfold environmentFields
  rw [hs]
  dsimp only
  rw [h]
  rfl

theorem ofEnvironment_of_readable (h : Readable env) :
    Options.ofEnvironment target kind env overrides =
      (Options.ofFields (record target kind env overrides)).toExcept.mapError .problems := by
  unfold Options.ofEnvironment
  rw [environmentFields_of_readable h]
  rfl

theorem ofEnvironment_unreadable {s : String}
    (hs : setting? env "NTGEN_BUILD_TIMEOUT" = some s) (h : wholeOf? s = none) :
    Options.ofEnvironment target kind env overrides = .error (.notWhole s) := by
  unfold Options.ofEnvironment
  rw [environmentFields_unreadable hs h]
  rfl

theorem verdict_of_readable (h : Readable env) : Verdict target kind env overrides
    (Options.ofEnvironment target kind env overrides) := by
  rw [ofEnvironment_of_readable h]
  have hok : ∀ o, Options.ofFields (record target kind env overrides) = .ok o ↔
      Settles target kind env overrides o := fun o => ofFields_record_ok_iff
  have hbad : (Options.ofFields (record target kind env overrides)).problems =
      allProblems target kind env overrides := problems_ofFields_record
  cases hfields : Options.ofFields (record target kind env overrides) with
  | ok o => exact .accepted ((hok o).mp hfields)
  | bad ps =>
    rw [hfields] at hbad
    obtain rfl : ps = allProblems target kind env overrides := hbad
    refine .rejected fun o ho => ?_
    rw [(hok o).mpr ho] at hfields
    cases hfields

/-- Environments that differ, if at all, in the variables of fields with an override. -/
def SameUnoverridden (overrides : Fields) (env env' : List (String × String)) : Prop :=
  ∀ slot ∈ slots, slot.override? overrides = none → ∀ name ofText,
    slot.setBy = some (name, ofText) → setting? env name = setting? env' name

theorem SameUnoverridden.given? (h : SameUnoverridden overrides env env') {slot : Slot}
    (hslot : slot ∈ slots) : slot.given? env overrides = slot.given? env' overrides := by
  unfold Slot.given?
  cases ho : slot.override? overrides with
  | some v => rfl
  | none =>
    rw [Option.none_or, Option.none_or]
    unfold Slot.fromVariable?
    cases hs : slot.setBy with
    | none => rfl
    | some v =>
      obtain ⟨name, ofText⟩ := v
      rw [Option.bind_some, Option.bind_some]
      dsimp only
      rw [h slot hslot ho name ofText hs]

theorem SameUnoverridden.ofFields_record (h : SameUnoverridden overrides env env') :
    Options.ofFields (record target kind env overrides) =
      Options.ofFields (record target kind env' overrides) := by
  have hfield : ∀ {α : Type} (f : Field α), f.toSlot ∈ slots →
      f.checked env overrides = f.checked env' overrides := by
    intro α f hf
    unfold Field.checked
    rw [h.given? hf]
  rw [Settings.ofFields_record, Settings.ofFields_record, hfield verboseField (by simp [slots]),
    hfield keepConfigBuildField (by simp [slots]), hfield templateExtensionField (by simp [slots]),
    hfield markerAttributeField (by simp [slots]), hfield buildTimeoutField (by simp [slots]),
    hfield excludedDirsField (by simp [slots])]

/-- A field with an override takes that one, a field without takes what its variable says, and any
other its default; a value that a field does not accept is a problem of that field, and all problems
are told. So variables of overridden fields make no difference. A timeout in the environment that is
no whole number is an error for every override. -/
theorem ofEnvironment_precedence (target kind : Plain) (overrides : Fields) :
    (∀ env, Readable env → Verdict target kind env overrides
      (Options.ofEnvironment target kind env overrides)) ∧
    (∀ env s, setting? env "NTGEN_BUILD_TIMEOUT" = some s → wholeOf? s = none →
      Options.ofEnvironment target kind env overrides = .error (.notWhole s)) ∧
    ∀ env env', SameUnoverridden overrides env env' →
      (buildTimeoutField.override? overrides ≠ none → Readable env ∧ Readable env') →
      Options.ofEnvironment target kind env overrides =
        Options.ofEnvironment target kind env' overrides := by
  refine ⟨fun env h => verdict_of_readable h, fun env s hs h => ofEnvironment_unreadable hs h, ?_⟩
  intro env env' hsame htimeout
  have hread : Readable env → Readable env' → Options.ofEnvironment target kind env overrides =
      Options.ofEnvironment target kind env' overrides := by
    intro h h'
    rw [ofEnvironment_of_readable h, ofEnvironment_of_readable h', hsame.ofFields_record]
  by_cases ho : buildTimeoutField.override? overrides = none
  · -- Both environments say the same about the timeout, whether it can be read or not.
    have hs := hsame buildTimeoutField.toSlot (by simp [slots]) ho _ _ rfl
    rcases readable_or env with h | ⟨s, h, hnone⟩
    · exact hread h fun s h' => h s (hs.trans h')
    · rw [ofEnvironment_unreadable h hnone, ofEnvironment_unreadable (hs.symm.trans h) hnone]
  · exact hread (htimeout ho).1 (htimeout ho).2

/-! An example: the timeout and the messages are overridden, the marker is not. -/

def benchOverrides : Fields :=
  [(.str "verbose", .bool true), (.str "marker_attribute", .none), (.str "build_timeout", .int 30)]

def benchEnvironment (verbose seconds : String) : List (String × String) :=
  [("NTGEN_VERBOSE", verbose), ("NTGEN_MARKER_ATTRIBUTE", "Mark"), ("NTGEN_BUILD_TIMEOUT", seconds)]

theorem readable_bench {verbose seconds : String} (hs : seconds ≠ "")
    (h : (wholeOf? seconds).isSome = true) : Readable (benchEnvironment verbose seconds) := by
  intro s hset
  have hlookup : setting? (benchEnvironment verbose seconds) "NTGEN_BUILD_TIMEOUT" =
      some seconds := by
    simp [setting?, benchEnvironment, List.lookup_cons, Option.filter, hs]
  rw [hlookup] at hset
  cases hset
  exact h

theorem ofEnvironment_bench :
    Readable (benchEnvironment "0" "60") ∧ Readable (benchEnvironment "perhaps" " 7 ") ∧
    Verdict (.str "p") (.str "project") (benchEnvironment "0" "60") benchOverrides
      (Options.ofEnvironment (.str "p") (.str "project") (benchEnvironment "0" "60")
        benchOverrides) ∧
    setting? (benchEnvironment "0" "soon") "NTGEN_BUILD_TIMEOUT" = some "soon" ∧
    wholeOf? "soon" = none ∧
    Options.ofEnvironment (.str "p") (.str "project") (benchEnvironment "0" "soon")
      benchOverrides = .error (.notWhole "soon") ∧
    SameUnoverridden benchOverrides (benchEnvironment "0" "60") (benchEnvironment "perhaps" " 7 ") ∧
    Options.ofEnvironment (.str "p") (.str "project") (benchEnvironment "0" "60") benchOverrides =
      Options.ofEnvironment (.str "p") (.str "project") (benchEnvironment "perhaps" " 7 ")
        benchOverrides := by
  obtain ⟨hverdict, hunreadable, hcongr⟩ :=
    ofEnvironment_precedence (.str "p") (.str "project") benchOverrides
  have hread : Readable (benchEnvironment "0" "60") := readable_bench (by decide) (by decide +kernel)
  have hread' : Readable (benchEnvironment "perhaps" " 7 ") :=
    readable_bench (by decide) (by decide +kernel)
  have hsoon : setting? (benchEnvironment "0" "soon") "NTGEN_BUILD_TIMEOUT" = some "soon" := by
    decide
  have hsoon' : wholeOf? "soon" = none := by decide +kernel
  have hsame : SameUnoverridden benchOverrides (benchEnvironment "0" "60")
      (benchEnvironment "perhaps" " 7 ") := by
    intro slot hslot ho name ofText hset
    simp only [slots, List.mem_cons, List.not_mem_nil, or_false] at hslot
    -- Only the marker and fields that no variable differs in are left without an override.
    rcases hslot with rfl | rfl | rfl | rfl | rfl | rfl
    · cases ho
    · cases hset
      decide
    · cases hset
      decide
    · cases hset
      decide
    · cases ho
    · cases hset
  exact ⟨hread, hread', hverdict _ hread, hsoon, hsoon', hunreadable _ _ hsoon hsoon', hsame,
    hcongr _ _ hsame fun _ => ⟨hread, hread'⟩⟩

end Stencil.Settings
