import Stencil.Proofs.Generation.Selection
import Stencil.Proofs.Project.Listing

/-!
The search for templates in what was loaded. Loading, the search and the selection split the
projects of a workspace in the same way: a project with a file that can be compiled is searched and
may be selected; each of the others is warned about once, and nothing is looked for in it.
-/
namespace Stencil.Generation
open Stencil.Files
open Stencil.Project
open Stencil.Text

variable {t : Tree} {e : Entry} {w : Workspace} {extension : String} {exclude : String → Bool}

/-- What the search prints about a project that it looks into, when it is verbose. -/
def searchLines (t : Tree) (extension : String) (exclude : String → Bool) (e : Entry) :
    List Console.Message :=
  [Console.progress ("Looking for templates in project '" ++ e.name ++ "'"),
    Console.progress ("Found " ++ ofNat (e.templates t extension exclude).length ++
      " templates in project")]

/-- The projects that are compiled where a configuration asks for nothing. -/
def standard (w : Workspace) : List Entry := selected w ({} : Configuration).settings

/-- What the search for templates in a workspace comes to. -/
structure Discovers (t : Tree) (extension : String) (exclude : String → Bool) (w : Workspace) :
    Prop where
  taken : ∀ e, e ∈ standard w ↔ e ∈ w.projects ∧ e.compiles = true ∧ e.file ≠ none
  searched : templated t extension exclude w.projects =
    ((standard w).map fun e => ⟨e, e.templates t extension exclude⟩).filter fun p =>
      p.templates ≠ []
  below : ∀ e ∈ standard w, ∃ file, e.file = some file ∧
    e.templates t extension exclude = templatesBelow t file.parent extension exclude
  announced : (templateReport t extension exclude true w.projects).filter (·.kind = .progress) =
    (standard w).flatMap (searchLines t extension exclude)
  skipped : ∀ e ∈ w.projects, e ∉ standard w → e.templates t extension exclude = []
  warned : ∀ verbose, List.Forall₂ (fun e m => e.objection?.map Console.warning = some m)
    (w.projects.filter fun e => e ∉ standard w)
    ((templateReport t extension exclude verbose w.projects).filter (·.kind = .warning))
  compiled : ∀ s, ∀ e ∈ selected w s, e ∈ standard w

theorem standard_eq (w : Workspace) : standard w = w.projects.filter Entry.isEligible := rfl

theorem mem_standard_iff : e ∈ standard w ↔ e ∈ w.projects ∧ e.isEligible = true := by
  rw [standard_eq, List.mem_filter]

/-! One project. -/

/-- What the search prints about one project. -/
def reportOf (t : Tree) (extension : String) (exclude : String → Bool) (verbose : Bool)
    (e : Entry) : List Console.Message :=
  match e.objection? with
  | some text => [Console.warning text]
  | none => if verbose then searchLines t extension exclude e else []

theorem templateReport_eq (t : Tree) (extension : String) (exclude : String → Bool)
    (verbose : Bool) (es : List Entry) :
    templateReport t extension exclude verbose es =
      es.flatMap (reportOf t extension exclude verbose) := rfl

/-- There is an objection to exactly the projects that take no part. -/
theorem objection_eq_none_iff : e.objection? = none ↔ e.isEligible = true := by
  unfold Entry.objection? Entry.isEligible
  cases e.compiles <;> cases e.file <;> simp

theorem exists_objection (h : ¬e.isEligible = true) : ∃ text, e.objection? = some text := by
  cases ho : e.objection? with
  | some text => exact ⟨text, rfl⟩
  | none => exact absurd (objection_eq_none_iff.mp ho) h

theorem reportOf_eligible {verbose : Bool} (h : e.isEligible = true) :
    reportOf t extension exclude verbose e =
      if verbose then searchLines t extension exclude e else [] := by
  rw [reportOf, objection_eq_none_iff.mpr h]

theorem reportOf_objection {verbose : Bool} {text : String} (h : e.objection? = some text) :
    reportOf t extension exclude verbose e = [Console.warning text] := by
  rw [reportOf, h]

theorem templates_eligible (h : e.isEligible = true) : ∃ file, e.file = some file ∧
    e.templates t extension exclude = templatesBelow t file.parent extension exclude := by
  obtain ⟨hcompiles, hfile⟩ := isEligible_iff.mp h
  obtain ⟨file, hfile⟩ := Option.ne_none_iff_exists'.mp hfile
  refine ⟨file, hfile, ?_⟩
  simp only [Entry.templates, Entry.directory, hfile, Option.map_some, hcompiles, if_true]

theorem templates_other (h : ¬e.isEligible = true) : e.templates t extension exclude = [] := by
  unfold Entry.templates Entry.directory
  rw [isEligible_iff, not_and_or, ne_eq, not_not, Bool.not_eq_true] at h
  rcases h with h | h
  · cases e.file with
    | none => rfl
    | some file => simp only [Option.map_some, h, Bool.false_eq_true, if_false]
  · rw [h]
    rfl

/-! All projects. -/

theorem warned_reports (verbose : Bool) (es : List Entry) :
    List.Forall₂ (fun e m => e.objection?.map Console.warning = some m)
      (es.filter fun e => !e.isEligible)
      ((es.flatMap (reportOf t extension exclude verbose)).filter (·.kind = .warning)) := by
  induction es with
  | nil => exact .nil
  | cons e rest ih =>
    rw [List.flatMap_cons, List.filter_append]
    by_cases h : e.isEligible = true
    · have hquiet : (reportOf t extension exclude verbose e).filter (·.kind = .warning) = [] := by
        rw [reportOf_eligible h]
        cases verbose <;> rfl
      rw [List.filter_cons_of_neg (by simp [h]), hquiet]
      exact ih
    · obtain ⟨text, htext⟩ := exists_objection h
      rw [List.filter_cons_of_pos (by simp [h]), reportOf_objection htext]
      exact .cons (by rw [htext]; rfl) ih

theorem announced_reports (es : List Entry) :
    (es.flatMap (reportOf t extension exclude true)).filter (·.kind = .progress) =
      (es.filter Entry.isEligible).flatMap (searchLines t extension exclude) := by
  induction es with
  | nil => rfl
  | cons e rest ih =>
    rw [List.flatMap_cons, List.filter_append, ih]
    by_cases h : e.isEligible = true
    · rw [List.filter_cons_of_pos h, List.flatMap_cons, reportOf_eligible h]
      rfl
    · obtain ⟨text, htext⟩ := exists_objection h
      rw [List.filter_cons_of_neg h, reportOf_objection htext]
      rfl

theorem templated_eligible (es : List Entry) :
    templated t extension exclude es =
      templated t extension exclude (es.filter Entry.isEligible) := by
  induction es with
  | nil => rfl
  | cons e rest ih =>
    unfold templated at ih ⊢
    by_cases h : e.isEligible = true
    · rw [List.filter_cons_of_pos h, List.map_cons, List.map_cons, List.filter_cons,
        List.filter_cons, ih]
    · rw [List.filter_cons_of_neg h, List.map_cons,
        List.filter_cons_of_neg (by simp [templates_other h]), ih]

/-- The search for templates looks into the projects that would be selected where nothing is asked
for, and warns about each of the others. -/
theorem discovers (t : Tree) (extension : String) (exclude : String → Bool) (w : Workspace) :
    Discovers t extension exclude w where
  taken e := by rw [mem_standard_iff, isEligible_iff]
  searched := by
    rw [templated_eligible, ← standard_eq, templated]
    apply List.filter_congr
    intro p _
    cases p.templates <;> simp
  below e he := templates_eligible (mem_standard_iff.mp he).2
  announced := by rw [templateReport_eq, announced_reports, standard_eq]
  skipped e he hout := templates_other fun h => hout (mem_standard_iff.mpr ⟨he, h⟩)
  warned verbose := by
    have hout : (w.projects.filter fun e => e ∉ standard w) =
        w.projects.filter fun e => !e.isEligible := by
      apply List.filter_congr
      intro e he
      simp [mem_standard_iff, he]
    rw [hout, templateReport_eq]
    exact warned_reports verbose w.projects
  compiled s e he := by
    rw [selected_eq, List.mem_filter, decide_eq_true_eq] at he
    exact mem_standard_iff.mpr ⟨he.1, isEligible_iff.mpr ⟨he.2.1, he.2.2.1⟩⟩

def shop : Tree where
  root := .dir [("s.yaml", .file (.ofText "projects: [\x7bpath: a, name: Core\x7d, gone, n.txt]")),
    ("a", .dir [("pyproject.toml", .file (.ofText ""))]), ("n.txt", .file (.ofText ""))]
  here := ⟨.root, []⟩

def shopSolution : Path := ⟨.root, ["s.yaml"]⟩

def shopItems : List Plain :=
  [.dict [(.str "path", .str "a"), (.str "name", .str "Core")], .str "gone", .str "n.txt"]

/-- The texts in the items of the example, as they are read. -/
def textsIn : Except LoadError Plain → Option (List String)
  | .ok (.dict [(.str projects, .list [.dict [(.str path, .str a), (.str name, .str b)], .str c,
      .str d])]) => some [projects, path, a, name, b, c, d]
  | _ => none

theorem read_shop : readSolution shop shopSolution = .ok (.dict [(.str "projects", .list shopItems)]) := by
  have htexts : textsIn (readSolution shop shopSolution) =
      some ["projects", "path", "a", "name", "Core", "gone", "n.txt"] := by
    decide +kernel
  unfold textsIn at htexts
  split at htexts
  · rename_i heq
    simp only [Option.some.injEq, List.cons.injEq, and_true] at htexts
    obtain ⟨rfl, rfl, rfl, rfl, rfl, rfl, rfl⟩ := htexts
    exact heq
  · cases htexts

theorem item_shop {item : Plain} {path : String} {given : Option Plain} (hitem : item ∈ shopItems)
    (h : Item item path given) : path = "a" ∨ path = "gone" ∨ path = "n.txt" := by
  simp only [shopItems, List.mem_cons, List.not_mem_nil, or_false] at hitem
  rcases hitem with rfl | rfl | rfl
  · obtain ⟨rfl, _⟩ := Item.unique (.fields rfl) h
    exact .inl rfl
  · obtain ⟨rfl, _⟩ := Item.unique (.path "gone") h
    exact .inr (.inl rfl)
  · obtain ⟨rfl, _⟩ := Item.unique (.path "n.txt") h
    exact .inr (.inr rfl)

theorem wellFormed_shop :
    WellFormed shop shopSolution [(.str "projects", .list shopItems)] shopItems where
  read := read_shop
  listed := rfl
  items item hitem := by
    simp only [shopItems, List.mem_cons, List.not_mem_nil, or_false] at hitem
    rcases hitem with rfl | rfl | rfl
    · exact ⟨_, _, .fields rfl⟩
    · exact ⟨_, _, .path "gone"⟩
    · exact ⟨_, _, .path "n.txt"⟩

theorem place_shop : descriptorPath shop (shop.resolve (shopSolution.parent / "a")) =
      .ok ⟨.root, ["a", "pyproject.toml"]⟩ ∧
    descriptorPath shop (shop.resolve (shopSolution.parent / "gone")) = .ok ⟨.root, ["gone"]⟩ ∧
    descriptorPath shop (shop.resolve (shopSolution.parent / "n.txt")) =
      .ok ⟨.root, ["n.txt"]⟩ := by
  decide +kernel

theorem readable_shop {item : Plain} (hitem : item ∈ shopItems) :
    Readable shop shopSolution.parent item := by
  intro path given file hsays hplace hthere hname
  rcases item_shop hitem hsays with rfl | rfl | rfl
  · have hread : Descriptor.read shop ⟨.root, ["a", "pyproject.toml"]⟩ =
        .ok ⟨⟨.root, ["a", "pyproject.toml"]⟩, "a", []⟩ := by decide +kernel
    obtain rfl := Except.ok.inj (place_shop.1.symm.trans hplace)
    intro x hx
    cases hread.symm.trans hx
  · have hgone : shop.exists ⟨.root, ["gone"]⟩ = .ok false := by decide +kernel
    obtain rfl := Except.ok.inj (place_shop.2.1.symm.trans hplace)
    cases hgone.symm.trans hthere
  · have hother : isDescriptorName ⟨.root, ["n.txt"]⟩ = false := by decide +kernel
    obtain rfl := Except.ok.inj (place_shop.2.2.symm.trans hplace)
    cases hother.symm.trans hname

end Stencil.Generation
