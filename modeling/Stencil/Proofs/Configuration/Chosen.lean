import Mathlib.Data.Finset.Card
import Mathlib.Data.List.Dedup
import Stencil.Proofs.Configuration.Escape
import Stencil.Proofs.Files.Walk
import Stencil.Proofs.Template.Offered

/-!
Which class an artifact is configured by. Its modules run in the order of their names, and each is
loaded once. What counts then is not the settings classes that they define but the names bound to
these: a class with a second name in its module is found twice, and none is chosen.
-/
namespace Stencil.Script

variable {α : Type} {m after : Memory} {i : Nat} {name : String} {c : ClassRecord}
  {v a : Template.Value}

/-! What a module that has run leaves. -/

theorem Eval.loaded_of_outcome {step : Eval α} {x : α} (h : step.outcome m = .ok (x, after)) :
    after.loaded = m.loaded := by
  have hkeeps := step.keeps m
  unfold outcome at h
  split at h
  · rename_i hrun
    cases h
    rw [hrun] at hkeeps
    exact hkeeps
  · split at h <;> cases h

/-- Running a module loads it, and no other. -/
theorem loaded_runModule {source : Source.Module} (h : runModule name source m = .ok after) :
    after.loaded = m.loaded ++ [packageName ++ "." ++ name] := by
  have hentered : (m.enter (packageName ++ "." ++ name) source).loaded =
      m.loaded ++ [packageName ++ "." ++ name] := List.map_append
  unfold runModule at h
  dsimp only at h
  generalize hran : Eval.outcome _ _ = ran at h
  cases ran with
  | error => cases h
  | ok x =>
    cases h
    exact (Eval.loaded_of_outcome hran).trans hentered

/-- Each name of a module is bound once. -/
theorem Memory.nodup_globals (m : Memory) (i : Nat) : ((m.globals i).map Prod.fst).Nodup := by
  unfold globals
  cases m.modules[i]? with
  | none => exact List.nodup_nil
  | some x => exact x.2.distinct

/-! The settings classes of a module. -/

/-- A name that a module binds to a settings class of its own. That is a class derived from the one
that settings derive from, and not that class itself, which says that it is from the module. -/
structure Memory.Binds (m : Memory) (i : Nat) (name : String) (c : ClassRecord) : Prop where
  bound : (m.globals i).lookup name = some (.class c.key)
  known : m.class? c.key = some c
  strict : c.key ≠ settingsClass
  derived : settingsClass ∈ c.order
  own : ∃ home, m.attribute? c.key "__module__" = some (.str home) ∧
    (m.globals i).lookup "__name__" = some (.str home)

theorem Memory.isFrom_iff {key : String} : m.isFrom a key = true ↔
    ∃ home, m.attribute? key "__module__" = some (.str home) ∧ a = .str home := by
  unfold isFrom
  split
  · rename_i x y hx
    rw [hx, beq_iff_eq]
    constructor
    · rintro rfl
      exact ⟨x, rfl, rfl⟩
    · rintro ⟨home, hhome, hy⟩
      cases hhome
      cases hy
      rfl
  · rename_i hne
    constructor
    · intro h
      cases h
    · rintro ⟨home, hhome, rfl⟩
      exact absurd rfl (hne home home hhome)

/-- The key of a class that is found. -/
theorem Memory.key_of_class? {key : String} (h : m.class? key = some c) : c.key = key := by
  simpa using List.find?_some h

theorem Memory.settingsClass?_eq_some_iff (hv : (m.globals i).lookup name = some v) :
    m.settingsClass? i v = some c ↔ m.Binds i name c := by
  cases v with
  | «class» key =>
    simp only [settingsClass?, Option.filter_eq_some_iff, Bool.and_eq_true, bne_iff_ne,
      List.contains_iff_mem, isFrom_iff]
    constructor
    · rintro ⟨hc, ⟨hstrict, hderived⟩, home, hmodule, hhome⟩
      obtain rfl := key_of_class? hc
      refine ⟨hv, hc, hstrict, hderived, home, hmodule, ?_⟩
      cases hl : (m.globals i).lookup "__name__" with
      | none =>
        rw [hl] at hhome
        cases hhome
      | some w =>
        rw [hl] at hhome
        rw [show w = .str home from hhome]
    · rintro ⟨hbound, hc, hstrict, hderived, home, hmodule, hhome⟩
      cases hv.symm.trans hbound
      exact ⟨hc, ⟨hstrict, hderived⟩, home, hmodule, by rw [hhome]; rfl⟩
  | _ =>
    constructor
    · intro h
      cases h
    · intro h
      cases hv.symm.trans h.bound

end Stencil.Script

namespace Stencil.Artifact
open Stencil.Files
open Stencil.Script (Memory ClassRecord)
open Stencil.Text

variable {t : Tree} {artifact : Path} {members : List Member} {m last : Memory}
  {names : List String} {stem name : String} {content : Except Archive.ContentFlaw (List UInt8)}
  {i : Nat} {c : ClassRecord}

/-! The modules of a flat artifact. -/

/-- Modules beside each other, of different names. -/
structure Flat (members : List Member) : Prop where
  distinct : (members.map Prod.fst).Nodup
  named : ∀ name ∈ members.map Prod.fst, ∃ stem, name = stem ++ ".py" ∧ stem ≠ "" ∧
    '/' ∉ stem.toList ∧ '.' ∉ stem.toList

theorem stem_ofString (hne : stem ≠ "") (hs : '/' ∉ stem.toList) :
    (Path.ofString (stem ++ ".py")).stem = stem := by
  have hpieces : splitOnChar '/' (stem ++ ".py").toList = [(stem ++ ".py").toList] :=
    splitOnChar_of_notMem (by simp [hs])
  have hlong : 1 < (stem ++ ".py").length := by
    rw [String.length_append]
    exact Nat.lt_add_left _ (by decide)
  have hname : (Path.ofString (stem ++ ".py")).name = stem ++ ".py" := by
    simp only [Path.name, Path.ofString, hpieces, List.map_cons, List.map_nil, String.ofList_toList,
      List.filter_cons, bne_of_length hlong]
    rfl
  have hchars : (stem ++ ".py").toList = stem.toList ++ ['.', 'p', 'y'] := String.toList_append
  have hstart : stem.toList.length ≠ 0 := by simpa using hne
  rw [Path.stem, hname, Path.splitSuffix, hchars]
  simp [hstart]

theorem find_of_mem (h : Flat members) (hm : (name, content) ∈ members) :
    find? members name = some (name, content) := by
  obtain ⟨stem, rfl, hne, hslash, hdot⟩ := h.named name (List.mem_map_of_mem hm)
  have hlast : ((splitOnChar '.' stem.toList).getLast?.map String.ofList).getD stem = stem := by
    rw [splitOnChar_of_notMem hdot]
    exact String.ofList_toList
  have hpackage : members.reverse.lookup (stem ++ "/__init__.py") = none := by
    refine Template.lookup_eq_none_of_notMem fun hpackage => ?_
    rw [List.map_reverse, List.mem_reverse] at hpackage
    obtain ⟨other, hother, _, hnone, _⟩ := h.named _ hpackage
    have hmem : '/' ∈ (other ++ ".py").toList := by
      rw [← hother]
      simp
    rw [String.toList_append, List.mem_append] at hmem
    exact hmem.elim hnone (by decide)
  have hfile : members.reverse.lookup (stem ++ ".py") = some content := by
    refine Template.lookup_of_mem ?_ (List.mem_reverse.mpr hm)
    rw [List.map_reverse]
    exact List.nodup_reverse.mpr h.distinct
  simp only [find?, stem_ofString hne hslash, hlast, List.findSome?_cons, hpackage, hfile,
    Option.map_none, Option.map_some]

/-- Modules run one after another, each with the source that its own member holds. -/
inductive Runs (members : List Member) : Memory → List String → Memory → Prop
  | done (m : Memory) : Runs members m [] m
  | next {m mid last : Memory} {member : String} {content : List UInt8}
      {source : Source.Module} {rest : List String} (own : (member, .ok content) ∈ members)
      (read : Artifact.source member content = .ok source)
      (ran : run m member source = .ok mid) (more : Runs members mid rest last) :
      Runs members m (member :: rest) last

theorem Runs.runAll (h : Runs members m names last) (hf : Flat members) :
    runAll artifact members m names = .ok last := by
  induction h with
  | done => rfl
  | @next _ _ _ member content source _ own read ran _ ih =>
    have hsource : sourceOf artifact members member = .ok (member, source) := by
      simp only [sourceOf, find_of_mem hf own, Except.mapError, bind, Except.bind, read]
      rfl
    simp only [Artifact.runAll, hsource, bind, Except.bind, ran]
    exact ih

/-- Modules that run are loaded one after another, each once. -/
theorem Runs.loaded (h : Runs members m names last) :
    last.loaded = m.loaded ++ names.map privateName := by
  induction h with
  | done => simp
  | next _ _ ran _ ih =>
    rw [ih, Script.loaded_runModule ran, List.append_assoc]
    rfl

theorem pairwise_moduleNames (h : Flat members) : (moduleNames members).Pairwise (· < ·) :=
  pairwise_mergeSort_of_nodup (h.distinct.sublist List.filter_sublist)

/-! The names of settings classes. -/

/-- All names that modules bind to settings classes of their own, module by module. -/
def bindings (m : Memory) : List (Nat × String × ClassRecord) :=
  (List.range m.modules.length).flatMap fun i =>
    (m.globals i).filterMap fun e => (m.settingsClass? i e.2).map fun c => (i, e.1, c)

/-- There is a candidate for each name. -/
theorem candidates_eq (m : Memory) : candidates m = (bindings m).map (·.2.2) := by
  unfold candidates bindings
  rw [List.map_flatMap]
  refine List.flatMap_congr fun i _ => ?_
  simp only [Memory.settingsClasses, List.map_filterMap, Option.map_map]
  refine List.filterMap_congr fun e _ => ?_
  exact Option.map_id'.symm

theorem mem_bindings : (i, name, c) ∈ bindings m ↔ m.Binds i name c := by
  unfold bindings
  simp only [List.mem_flatMap, List.mem_range, List.mem_filterMap, Option.map_eq_some_iff,
    Prod.mk.injEq]
  constructor
  · rintro ⟨_, _, ⟨_, v⟩, he, _, hc, rfl, rfl, rfl⟩
    exact (Memory.settingsClass?_eq_some_iff
      (Template.lookup_of_mem (m.nodup_globals _) he)).mp hc
  · intro h
    have hm : m.globals i ≠ [] := by
      intro hnil
      have hbound := h.bound
      rw [hnil] at hbound
      cases hbound
    have hi : i < m.modules.length := by
      by_contra hout
      exact hm (by simp [Memory.globals, List.getElem?_eq_none (Nat.le_of_not_lt hout)])
    exact ⟨i, hi, _, Template.mem_of_lookup h.bound, c,
      (Memory.settingsClass?_eq_some_iff h.bound).mpr h, rfl, rfl, rfl⟩

/-- The names are listed in the order of modules, each once. -/
theorem pairwise_bindings (m : Memory) : (bindings m).Pairwise fun x y =>
    x.1 < y.1 ∨ x.1 = y.1 ∧ x.2.1 ≠ y.2.1 := by
  have hwithin : ∀ i, ∀ x ∈ (m.globals i).filterMap fun e =>
      (m.settingsClass? i e.2).map fun c => (i, e.1, c), x.1 = i := by
    intro i x hx
    obtain ⟨e, _, he⟩ := List.mem_filterMap.mp hx
    obtain ⟨c, _, rfl⟩ := Option.map_eq_some_iff.mp he
    rfl
  refine List.pairwise_flatMap.mpr ⟨fun i _ => ?_, ?_⟩
  · refine List.pairwise_filterMap.mpr ((List.pairwise_map.mp (m.nodup_globals i)).imp ?_)
    intro e e' hne x hx y hy
    obtain ⟨_, _, rfl⟩ := Option.map_eq_some_iff.mp hx
    obtain ⟨_, _, rfl⟩ := Option.map_eq_some_iff.mp hy
    exact .inr ⟨rfl, hne⟩
  · refine List.pairwise_lt_range.imp fun {i j} hij x hx y hy => .inl ?_
    rw [hwithin i x hx, hwithin j y hy]
    exact hij

/-- The settings classes that have a name, each once. -/
def settingsKeys (m : Memory) : Finset String := ((bindings m).map (·.2.2.key)).toFinset

theorem mem_settingsKeys {key : String} :
    key ∈ settingsKeys m ↔ ∃ i name c, m.Binds i name c ∧ c.key = key := by
  simp only [settingsKeys, List.mem_toFinset, List.mem_map, Prod.exists, mem_bindings]

/-- No settings class has two names. -/
def NamedOnce (m : Memory) : Prop :=
  ∀ i name j other c, m.Binds i name c → m.Binds j other c → i = j ∧ name = other

/-- Classes of one key are one class. -/
theorem eq_of_key {j : Nat} {other : String} {d : ClassRecord} (hc : m.Binds i name c)
    (hd : m.Binds j other d) (h : c.key = d.key) : c = d := by
  have hknown := hd.known
  rw [← h, hc.known] at hknown
  exact Option.some.inj hknown

theorem nodup_keys_iff : ((bindings m).map (·.2.2.key)).Nodup ↔ NamedOnce m := by
  constructor
  · intro h i name j other c hi hj
    have heq := List.inj_on_of_nodup_map h (mem_bindings.mpr hi) (mem_bindings.mpr hj) rfl
    cases heq
    exact ⟨rfl, rfl⟩
  · intro h
    refine List.pairwise_map.mpr ((pairwise_bindings m).imp_of_mem ?_)
    rintro ⟨i, name, c⟩ ⟨j, other, d⟩ hi hj hne hkey
    obtain ⟨rfl, rfl⟩ : i = j ∧ name = other := by
      cases eq_of_key (mem_bindings.mp hi) (mem_bindings.mp hj) hkey
      exact h i name j other c (mem_bindings.mp hi) (mem_bindings.mp hj)
    simp at hne

/-- There is one name exactly if there is one class and it has no other name. -/
theorem length_bindings_eq_one_iff :
    (bindings m).length = 1 ↔ (settingsKeys m).card = 1 ∧ NamedOnce m := by
  have hcard : NamedOnce m → (settingsKeys m).card = (bindings m).length := by
    intro h
    rw [settingsKeys, List.toFinset_card_of_nodup (nodup_keys_iff.mpr h), List.length_map]
  constructor
  · intro h
    have honce : NamedOnce m := by
      obtain ⟨x, hx⟩ := List.length_eq_one_iff.mp h
      rw [← nodup_keys_iff, hx]
      exact List.nodup_singleton _
    exact ⟨(hcard honce).trans h, honce⟩
  · rintro ⟨hone, honce⟩
    exact (hcard honce).symm.trans hone

/-! The choice. -/

/-- A settings object is made of a class. -/
def Chosen (t : Tree) (artifact : Path) (m : Memory) (c : ClassRecord) : Prop :=
  Configuration.load t artifact = configurationOf m c

theorem configurationOf_ne_notOne {place : Path} {paths : List String} :
    configurationOf m c ≠ .error (.notOne place paths) := by
  unfold configurationOf
  split
  · split <;> simp
  · split
    · simp
    · split <;> simp

/-- What loading an artifact comes to when its modules have run. -/
structure Choice (t : Tree) (artifact : Path) (members : List Member) (m : Memory) : Prop where
  /-- The modules are loaded in the order of their names. -/
  loaded : m.loaded = (moduleNames members).map privateName
  sorted : (moduleNames members).Pairwise (· < ·)
  /-- All names of settings classes, module by module. -/
  listed : ∀ i name c, (i, name, c) ∈ bindings m ↔ m.Binds i name c
  ordered : (bindings m).Pairwise fun x y => x.1 < y.1 ∨ x.1 = y.1 ∧ x.2.1 ≠ y.2.1
  classes : ∀ key, key ∈ settingsKeys m ↔ ∃ i name c, m.Binds i name c ∧ c.key = key
  chosen_iff : (∃ i name c, m.Binds i name c ∧ Chosen t artifact m c) ↔
    (settingsKeys m).card = 1 ∧ NamedOnce m
  /-- Otherwise there is a candidate for each name, also for those of one class. -/
  refused : ¬((settingsKeys m).card = 1 ∧ NamedOnce m) →
    Configuration.load t artifact = .error (.notOne artifact ((bindings m).map (·.2.2.path)))
  /-- The candidates are different classes exactly if none has two names. -/
  distinct_iff : ((bindings m).map (·.2.2.key)).Nodup ↔ NamedOnce m

theorem load_of_runs (h : Artifact.members t artifact = .ok members) (hf : Flat members)
    (hr : Runs members .start (moduleNames members) m) :
    Configuration.load t artifact = match (bindings m).map (·.2.2) with
      | [c] => configurationOf m c
      | cs => .error (.notOne artifact (cs.map (·.path))) := by
  rw [load_eq h, hr.runAll hf, ← candidates_eq]
  rfl

/-- Without names, or with several, no class is chosen. -/
theorem load_of_length_ne (h : Artifact.members t artifact = .ok members) (hf : Flat members)
    (hr : Runs members .start (moduleNames members) m) (hl : (bindings m).length ≠ 1) :
    Configuration.load t artifact =
      .error (.notOne artifact ((bindings m).map (·.2.2.path))) := by
  rw [load_of_runs h hf hr]
  split
  · rename_i c hc
    have hone := congrArg List.length hc
    rw [List.length_map] at hone
    exact absurd hone hl
  · rw [List.map_map]
    rfl

/-- A class is chosen exactly if it is the only settings class and has one name. -/
theorem load_choice (h : Artifact.members t artifact = .ok members) (hf : Flat members)
    (hr : Runs members .start (moduleNames members) m) : Choice t artifact members m := by
  constructor
  case loaded => exact hr.loaded
  case sorted => exact pairwise_moduleNames hf
  case listed => exact fun _ _ _ => mem_bindings
  case ordered => exact pairwise_bindings m
  case classes => exact fun _ => mem_settingsKeys
  case chosen_iff =>
    rw [← length_bindings_eq_one_iff]
    constructor
    · rintro ⟨i, name, c, _, hchosen⟩
      by_contra hlength
      exact configurationOf_ne_notOne (hchosen.symm.trans (load_of_length_ne h hf hr hlength))
    · intro hlength
      obtain ⟨⟨i, name, c⟩, hx⟩ := List.length_eq_one_iff.mp hlength
      refine ⟨i, name, c, mem_bindings.mp (by rw [hx]; exact List.mem_cons_self), ?_⟩
      rw [Chosen, load_of_runs h hf hr, hx]
      rfl
  case refused =>
    rw [← length_bindings_eq_one_iff]
    exact load_of_length_ne h hf hr
  case distinct_iff => exact nodup_keys_iff

/-! An example: a class with a second name. -/

def renamedSource : List UInt8 := Text.encodeUtf8 (Text.joinWith "\n"
  ["from ntgen.editor_config import EditorConfig as E", "class C(E):", " pass", "D = C"])

/-- Whether a module runs, and binds two names to one settings class of its own. -/
def namesTwice (source : Source.Module) : Bool :=
  match run .start "c.py" source with
  | .error _ => false
  | .ok m => (bindings m).map (fun x => (x.2.1, x.2.2.key, x.2.2.path)) ==
      [("C", "C", "C"), ("D", "C", "C")]

theorem namesTwice_renamedSource : ∃ source, Artifact.source "c.py" renamedSource = .ok source ∧
    namesTwice source = true := by
  have hread : (match Artifact.source "c.py" renamedSource with
      | .error _ => false
      | .ok source => namesTwice source) = true := by decide +kernel
  split at hread
  · cases hread
  · rename_i source hs
    exact ⟨source, hs, hread⟩

theorem flat_single (content : Except Archive.ContentFlaw (List UInt8)) :
    Flat [("c.py", content)] where
  distinct := List.nodup_singleton _
  named name hm := by
    refine ⟨"c", ?_, by decide, by decide, by decide⟩
    simpa using hm

/-- The class has two names, so it is found twice and not chosen, although there is no other. -/
theorem load_choice_renamed : ∃ m,
    Artifact.members (archiveTree renamedSource) archivePath = .ok [("c.py", .ok renamedSource)] ∧
    Flat [("c.py", .ok renamedSource)] ∧
    Runs [("c.py", .ok renamedSource)] .start (moduleNames [("c.py", .ok renamedSource)]) m ∧
    Choice (archiveTree renamedSource) archivePath [("c.py", .ok renamedSource)] m ∧
    (settingsKeys m).card = 1 ∧
    Configuration.load (archiveTree renamedSource) archivePath =
      .error (.notOne archivePath ["C", "C"]) := by
  obtain ⟨source, hsource, htwice⟩ := namesTwice_renamedSource
  unfold namesTwice at htwice
  split at htwice
  · cases htwice
  · rename_i m hrun
    have hnames : (bindings m).map (fun x => (x.2.1, x.2.2.key, x.2.2.path)) =
        [("C", "C", "C"), ("D", "C", "C")] := eq_of_beq htwice
    have hkeys : (bindings m).map (·.2.2.key) = ["C", "C"] := by
      simpa [Function.comp_def] using congrArg (List.map (·.2.1)) hnames
    have hpaths : (bindings m).map (·.2.2.path) = ["C", "C"] := by
      simpa [Function.comp_def] using congrArg (List.map (·.2.2)) hnames
    have hruns : Runs [("c.py", .ok renamedSource)] .start
        (moduleNames [("c.py", .ok renamedSource)]) m := by
      rw [moduleNames_single]
      exact .next List.mem_cons_self hsource hrun (.done m)
    have hchoice := load_choice (members_archiveTree renamedSource) (flat_single _) hruns
    have hcard : (settingsKeys m).card = 1 := by
      rw [settingsKeys, hkeys]
      rfl
    have htwo : ¬NamedOnce m := by
      rw [← hchoice.distinct_iff, hkeys]
      decide
    refine ⟨m, members_archiveTree _, flat_single _, hruns, hchoice, hcard, ?_⟩
    rw [hchoice.refused fun h => htwo h.2, hpaths]

end Stencil.Artifact
