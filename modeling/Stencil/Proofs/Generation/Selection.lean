import Stencil.Generation.Run
import Stencil.Proofs.Model.Extract
import Stencil.Proofs.Project.Compiling
import Stencil.Proofs.Result
import Stencil.Proofs.Work

/-!
What the templates of a project see of a workspace. The projects that settings select are compiled
and their modules are filtered; this gives the types of the listed projects that the settings want,
in the order of the workspace. Projects and namespaces count as sets.
-/
namespace Stencil.Generation
open Stencil.Files
open Stencil.Project
open Stencil.Model
open Stencil.Template (Value)

variable {g : Generator} {s s' : Settings.Resolved} {t : Tree} {e : Entry} {ty : TypeSymbol}

/-- A project that can be compiled and that settings list, if they list any. -/
def Listed (s : Settings.Resolved) (e : Entry) : Prop :=
  e.compiles = true ∧ e.file ≠ none ∧ (s.projects = [] ∨ e.name ∈ s.projects)

/-- The namespaces that settings list, without the dots around them; dots alone are none. -/
def spaces (s : Settings.Resolved) : List String := (s.namespaces.map stripped).filter (· ≠ "")

/-- A type that settings want: where it may come from, and in one of the namespaces, if there are
any. -/
def Wanted (s : Settings.Resolved) (ty : TypeSymbol) : Prop :=
  (s.searchInReferenced = true ∨ ty.referenced = false) ∧
    (spaces s = [] ∨ ∃ n ∈ spaces s, Nested n ty.modulePath)

instance (s : Settings.Resolved) : DecidablePred (Listed s) := fun e =>
  inferInstanceAs (Decidable (e.compiles = true ∧ e.file ≠ none ∧
    (s.projects = [] ∨ e.name ∈ s.projects)))

instance (space path : String) : Decidable (Nested space path) :=
  inferInstanceAs (Decidable (path = space ∨ space.toList ++ ['.'] <+: path.toList))

instance (s : Settings.Resolved) : DecidablePred (Wanted s) := fun ty =>
  inferInstanceAs (Decidable ((s.searchInReferenced = true ∨ ty.referenced = false) ∧
    (spaces s = [] ∨ ∃ n ∈ spaces s, Nested n ty.modulePath)))

/-- All types of a group in the compiled unit of a project. -/
def typesOf (t : Tree) (exclude : String → Bool) (k : TypeKind) (e : Entry) : List TypeSymbol :=
  match (e.compile t exclude).result with
  | .ok u => (extract {} u.modules).get k
  | .error _ => []

/-- Settings that differ in the order and the repetition of what they list. -/
structure SameLists (s s' : Settings.Resolved) : Prop where
  projects : ∀ n, n ∈ s.projects ↔ n ∈ s'.projects
  namespaces : ∀ n, n ∈ s.namespaces ↔ n ∈ s'.namespaces
  searchInReferenced : s.searchInReferenced = s'.searchInReferenced

theorem SameLists.listed_iff (h : SameLists s s') : Listed s e ↔ Listed s' e := by
  have hp : s.projects = [] ↔ s'.projects = [] := by
    simp only [List.eq_nil_iff_forall_not_mem, h.projects]
  simp only [Listed, hp, h.projects]

theorem mem_spaces {n : String} :
    n ∈ spaces s ↔ n ≠ "" ∧ ∃ space ∈ s.namespaces, stripped space = n := by
  simp only [spaces, List.mem_filter, List.mem_map, decide_eq_true_eq]
  exact and_comm

theorem SameLists.wanted_iff (h : SameLists s s') : Wanted s ty ↔ Wanted s' ty := by
  simp only [Wanted, List.eq_nil_iff_forall_not_mem, mem_spaces, h.searchInReferenced,
    h.namespaces]

/-- The name under which templates find a group. -/
def groupName : TypeKind → String
  | .ordinary => "classes"
  | .interface => "interfaces"
  | .enum => "enums"
  | .delegate => "delegates"

theorem isEligible_iff : e.isEligible = true ↔ e.compiles = true ∧ e.file ≠ none := by
  rw [Entry.isEligible, Bool.and_eq_true, Option.isSome_iff_ne_none]

theorem selected_eq (w : Workspace) (s : Settings.Resolved) :
    selected w s = w.projects.filter fun e => Listed s e := by
  unfold selected eligible
  split
  · rename_i h
    apply List.filter_congr
    intro e _
    rw [Bool.eq_iff_iff, isEligible_iff, decide_eq_true_eq]
    simp [Listed, List.isEmpty_iff.mp h]
  · rename_i h
    rw [List.filter_filter]
    apply List.filter_congr
    intro e _
    have hne : s.projects ≠ [] := fun h' => h (List.isEmpty_iff.mpr h')
    rw [Bool.eq_iff_iff, Bool.and_eq_true, isEligible_iff, decide_eq_true_eq,
      List.contains_iff_mem]
    simp only [Listed, hne, false_or]
    rw [and_comm, and_assoc]

theorem filter_includes (s : Settings.Resolved) (path : String) :
    s.filter.includes path = true ↔ spaces s = [] ∨ ∃ n ∈ spaces s, Nested n path := by
  have hmem : ∀ n, n ∈ s.filter.namespaces ↔ n ∈ spaces s := by
    intro n
    rw [Settings.Resolved.filter, mem_foldl_add, mem_spaces]
    simp
  simp only [includes_iff_nested, List.eq_nil_iff_forall_not_mem, hmem]

/-- The filter that is made from settings lets through what they want. -/
theorem filter_passes (s : Settings.Resolved) (ty : TypeSymbol) :
    s.filter.passes ty = decide (Wanted s ty) := by
  have homit : s.filter.omitReferenced = !s.searchInReferenced := by
    rw [Settings.Resolved.filter, foldl_add_omitReferenced]
    rfl
  rw [Bool.eq_iff_iff, decide_eq_true_eq, Filter.passes, Bool.and_eq_true, filter_includes, homit,
    Wanted]
  cases ty.referenced <;> cases s.searchInReferenced <;> simp

theorem get_combinedModel (s : Settings.Resolved) (units : List Project.Unit) (k : TypeKind) :
    (combinedModel s units).get k =
      units.flatMap fun u => ((extract {} u.modules).get k).filter fun ty => Wanted s ty := by
  simp only [combinedModel, Combined.ofGroups, Combined.get, List.flatMap_map]
  apply List.flatMap_congr
  intro u _
  rw [extract_get]
  exact List.filter_congr fun ty _ => filter_passes s ty

/-- Projects that all compile are compiled one for one. -/
theorem compileAll_ok {exclude : String → Bool} {es : List Entry}
    (h : ∀ e ∈ es, ∃ u, (e.compile t exclude).result = .ok u) :
    ∃ units, (compileAll t exclude es).2 = .ok units ∧
      List.Forall₂ (fun e u => (e.compile t exclude).result = .ok u) es units := by
  have hunits : ∃ units,
      List.Forall₂ (fun e u => (e.compile t exclude).result = .ok u) es units := by
    induction es with
    | nil => exact ⟨[], .nil⟩
    | cons e rest ih =>
      obtain ⟨u, hu⟩ := h e (by simp)
      obtain ⟨units, hrest⟩ := ih fun e he => h e (List.mem_cons_of_mem _ he)
      exact ⟨u :: units, .cons hu hrest⟩
  obtain ⟨units, hunits⟩ := hunits
  refine ⟨units, ?_, hunits⟩
  have hm : (es.map (Entry.compile t exclude)).mapM Report.result = .ok units := by
    rw [mapM_eq_ok_iff, List.forall₂_map_left_iff]
    exact hunits
  unfold compileAll
  dsimp only
  split
  · rename_i e he
    -- Whatever is found among the reports has an error, and none of them has.
    obtain ⟨r, hr, hre⟩ := Option.map_eq_some_iff.mp he
    obtain ⟨entry, hentry, rfl⟩ := List.mem_map.mp (List.mem_of_find?_eq_some hr)
    obtain ⟨u, hu⟩ := h entry hentry
    rw [hu] at hre
    cases hre
  · exact hm

theorem flatMap_typesOf {exclude : String → Bool} {es : List Entry} {units : List Project.Unit}
    {k : TypeKind} {p : TypeSymbol → Bool}
    (h : List.Forall₂ (fun e u => (e.compile t exclude).result = .ok u) es units) :
    (es.flatMap fun e => (typesOf t exclude k e).filter p) =
      units.flatMap fun u => ((extract {} u.modules).get k).filter p := by
  induction h with
  | nil => rfl
  | cons hu _ ih => rw [List.flatMap_cons, List.flatMap_cons, ih, typesOf, hu]

theorem ends_progressIf_iff {after : Tree} {verbose : Bool} {text : String}
    {r : Except RunError PUnit} :
    Work.Ends (progressIf verbose text) t after r ↔ after = t ∧ r = .ok () := by
  unfold progressIf
  split
  · exact Work.ends_say_iff
  · exact Work.ends_pure_iff

theorem ends_reportIf_iff {after : Tree} {wanted : Bool} {lines : List String}
    {r : Except RunError PUnit} :
    Work.Ends (reportIf wanted lines) t after r ↔ after = t ∧ r = .ok () := by
  unfold reportIf
  split
  · exact Work.ends_sayAll_iff
  · exact Work.ends_pure_iff

theorem ends_progress_iff {after : Tree} {text : String} {r : Except RunError PUnit} :
    Work.Ends (g.progress text) t after r ↔ after = t ∧ r = .ok () := ends_progressIf_iff

theorem ends_select_iff {after : Tree} {r : Except RunError (List Entry)} :
    Work.Ends (g.select s) t after r ↔ after = t ∧ r = .ok (selected g.workspace s) := by
  unfold Generator.select
  rw [Work.ends_bind_ok (Work.ends_sayAll_iff.mpr ⟨rfl, rfl⟩), Work.ends_pure_iff]

/-- The model of projects is made on the tree as it is, and the tree stays. -/
theorem ends_modelOf_iff {after : Tree} {es : List Entry} {r : Except RunError Combined} :
    Work.Ends (g.modelOf s es) t after r ↔ after = t ∧
      r = ((compileAll t g.exclude es).2.mapError .compile).map (combinedModel s) := by
  unfold Generator.modelOf
  rw [Work.ends_bind_ok (ends_progress_iff.mpr ⟨rfl, rfl⟩),
    Work.ends_bind_ok (Work.ends_tree_iff.mpr ⟨rfl, rfl⟩)]
  dsimp only
  rw [Work.ends_bind_ok (ends_reportIf_iff.mpr ⟨rfl, rfl⟩)]
  generalize (compileAll t g.exclude es).2.mapError RunError.compile = compiled
  cases compiled with
  | ok units =>
    rw [Work.ends_bind_ok (Work.ends_ofExcept_iff.mpr ⟨rfl, rfl⟩), Work.ends_pure_iff]
    rfl
  | error e =>
    rw [Work.ends_bind_error (Work.ends_ofExcept_iff.mpr ⟨rfl, rfl⟩)]
    rfl

/-! What templates see. -/

theorem attribute_groupName (m : Combined) (k : TypeKind) :
    Value.attribute? (.model m) (groupName k) = .ok (some (.ofList (Value.typesOf m k))) := by
  cases k <;> rfl

/-- A value that shows a type, wherever it is kept. -/
def Shows (v : Value) (ty : TypeSymbol) : Prop := ∃ place, v = Value.ofType ty place

theorem ofTypes_shows (ts : List TypeSymbol) (place : Nat) :
    List.Forall₂ Shows (Value.ofTypes ts place) ts := by
  induction ts generalizing place with
  | nil => exact .nil
  | cons ty rest ih => exact .cons ⟨place, rfl⟩ (ih _)

theorem typesOf_shows (m : Combined) (k : TypeKind) :
    List.Forall₂ Shows (Value.typesOf m k) (m.get k) := ofTypes_shows _ _

/-- What the model of a project holds, and what its templates see of it. -/
structure Sees (t : Tree) (g : Generator) (s : Settings.Resolved) (m : Combined) : Prop where
  made : Work.Ends (do let es ← g.select s; g.modelOf s es) t t (.ok m)
  types : ∀ k, m.get k = (g.workspace.projects.filter fun e => Listed s e).flatMap fun e =>
    (typesOf t g.exclude k e).filter fun ty => Wanted s ty
  shown : ∀ k, ∃ vs, Value.attribute? (.model m) (groupName k) = .ok (some (.ofList vs)) ∧
    List.Forall₂ Shows vs (m.get k)

/-- Where the listed projects all compile, the templates see the wanted types of each of them, in
the order of the workspace. Settings that list the same in another way show the same. -/
theorem model_types (g : Generator) (s : Settings.Resolved) (t : Tree)
    (h : ∀ e ∈ g.workspace.projects, Listed s e → ∃ u, (e.compile t g.exclude).result = .ok u) :
    ∃ m, Sees t g s m ∧
      ∀ s', SameLists s s' → ∃ m', Sees t g s' m' ∧ ∀ k, m'.get k = m.get k := by
  have main : ∀ s : Settings.Resolved, (∀ e ∈ g.workspace.projects, Listed s e →
      ∃ u, (e.compile t g.exclude).result = .ok u) → ∃ m, Sees t g s m := by
    intro s h
    have hsel : ∀ e ∈ selected g.workspace s, ∃ u, (e.compile t g.exclude).result = .ok u := by
      intro e he
      rw [selected_eq, List.mem_filter, decide_eq_true_eq] at he
      exact h e he.1 he.2
    obtain ⟨units, hunits, hcompiled⟩ := compileAll_ok hsel
    refine ⟨combinedModel s units, ?_, ?_, fun k => ⟨_, attribute_groupName _ k, typesOf_shows _ k⟩⟩
    · rw [Work.ends_bind_ok (ends_select_iff.mpr ⟨rfl, rfl⟩), ends_modelOf_iff, hunits]
      exact ⟨rfl, rfl⟩
    · intro k
      rw [get_combinedModel, ← selected_eq, flatMap_typesOf hcompiled]
  obtain ⟨m, hm⟩ := main s h
  refine ⟨m, hm, ?_⟩
  intro s' hs
  obtain ⟨m', hm'⟩ := main s' fun e he hl => h e he (hs.listed_iff.mpr hl)
  refine ⟨m', hm', ?_⟩
  intro k
  rw [hm'.types, hm.types]
  simp only [hs.listed_iff, hs.wanted_iff]

/-! An example: one project with a module at the top and one in a package. -/

def shelf : Tree where
  root := .dir [("p", .dir [("main.py", .file (.ofText "class A: pass")),
    ("app", .dir [("x.py", .file (.ofText "class B: pass"))])])]
  here := ⟨.root, []⟩

def shelfEntry : Entry := { name := "p", file := some ⟨.root, ["p", "pyproject.toml"]⟩ }

def shelfGenerator : Generator where
  workspace := ⟨"w", [shelfEntry]⟩
  options := { target := ⟨.here, ["p"]⟩, kind := .project }
  exclude := standardExclude
  resolve := fun _ => pure none

def shelfSettings : Settings.Resolved := { projects := ["p", "p"], namespaces := [".app.", "."] }

/-- The names of the types that the settings want of some modules. -/
def wantedNames (ms : List SourceModule) : List String :=
  (((extract {} ms).get .ordinary).filter fun ty => Wanted shelfSettings ty).map TypeSymbol.name

theorem compile_shelf : ∃ u, (shelfEntry.compile shelf standardExclude).result = .ok u ∧
    wantedNames u.modules = ["B"] := by
  have hnames : wantedNames (ownModules shelf standardExclude shelfEntry.name
      ⟨.root, ["p", "pyproject.toml"]⟩) = ["B"] := by decide +kernel
  refine ⟨_, compile_ownModules rfl rfl rfl fun hnil => ?_, hnames⟩
  rw [hnil] at hnames
  cases hnames

theorem model_shelf : (∀ e ∈ shelfGenerator.workspace.projects, Listed shelfSettings e →
      ∃ u, (e.compile shelf standardExclude).result = .ok u) ∧
    ∃ m, Sees shelf shelfGenerator shelfSettings m ∧
      (m.get .ordinary).map TypeSymbol.name = ["B"] := by
  obtain ⟨u, hu, hnames⟩ := compile_shelf
  have h : ∀ e ∈ shelfGenerator.workspace.projects, Listed shelfSettings e →
      ∃ u, (e.compile shelf standardExclude).result = .ok u := by
    intro e he _
    rw [List.mem_singleton.mp he]
    exact ⟨u, hu⟩
  obtain ⟨m, hm, _⟩ := model_types shelfGenerator shelfSettings shelf h
  refine ⟨h, m, hm, ?_⟩
  have hlisted : (shelfGenerator.workspace.projects.filter fun e => Listed shelfSettings e) =
      [shelfEntry] := by decide
  have htypes : typesOf shelf shelfGenerator.exclude .ordinary shelfEntry =
      (extract {} u.modules).get .ordinary := by
    unfold typesOf
    rw [show shelfGenerator.exclude = standardExclude from rfl, hu]
  rw [hm.types, hlisted, List.flatMap_singleton, htypes]
  exact hnames

end Stencil.Generation
