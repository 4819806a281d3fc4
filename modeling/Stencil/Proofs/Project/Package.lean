import Stencil.Proofs.Model.Namespaces
import Stencil.Project.Unit

/-!
Packages and the modules in them. A filter that is made from the dotted name of a package lets in
the modules whose files lie in its directory, at any depth and its package file among them, and no
others. A source directory in front counts neither for the package nor for a module.
-/
namespace Stencil.Project
open Stencil.Files
open Stencil.Model
open Stencil.Text

variable {names tail : List String}

/-- A name as it stands between the dots of a module path. -/
def IsPart (name : String) : Prop := name ≠ "" ∧ '.' ∉ name.toList

instance : DecidablePred IsPart := fun name =>
  inferInstanceAs (Decidable (name ≠ "" ∧ '.' ∉ name.toList))

/-- The directories that lead from a project to a package. -/
structure Package where
  names : List String
  ne_nil : names ≠ []
  isPart : ∀ n ∈ names, IsPart n
  ne_source : names ≠ ["src"]

/-- A source file in a project: the directories above it, and the two parts of its name. -/
structure SourceFile where
  directories : List String
  stem : String
  suffix : String
  isPart : ∀ n ∈ directories ++ [stem], IsPart n
  suffix_eq : suffix = "" ∨ ∃ kind, IsPart kind ∧ suffix = "." ++ kind

/-- Names without a source directory in front of them. -/
def withoutSource (names : List String) : List String :=
  if 1 < names.length ∧ names.head? = some "src" then names.tail else names

def withoutPackageFile (names : List String) : List String :=
  if names.getLast? = some "__init__" then names.dropLast else names

namespace Package

/-- The names that count for a module path. -/
def parts (p : Package) : List String := withoutSource p.names

def dotted (p : Package) : String := joinWith "." p.parts

/-- A package in the same directory, whose name goes on where that of the other one ends. -/
def Prolongs (p q : Package) : Prop := ∃ above last more, more ≠ "" ∧
  q.names = above ++ [last] ∧ p.names = above ++ [last ++ more]

end Package

namespace SourceFile

def path (f : SourceFile) (root : Path) : Path :=
  ⟨root.anchor, root.names ++ f.directories ++ [f.stem ++ f.suffix]⟩

/-- The names that count for a module path. -/
def parts (f : SourceFile) : List String :=
  withoutPackageFile (withoutSource (f.directories ++ [f.stem]))

/-- A file lies in the directory of a package, or in the one that a source directory holds for it. -/
def Under (f : SourceFile) (p : Package) : Prop :=
  p.names <+: f.directories ∨ "src" :: p.parts <+: f.directories

end SourceFile

/-! The name of a module. -/

theorem dropSourceDir_eq (names : List String) : dropSourceDir names = withoutSource names := by
  unfold dropSourceDir withoutSource
  split
  · simp
  · rename_i h
    cases names with
    | nil => simp
    | cons a rest =>
      cases rest with
      | nil => simp
      | cons b rest => exact absurd rfl (h a b rest)

theorem dropPackageFile_eq (names : List String) :
    dropPackageFile names = withoutPackageFile names := by
  simp only [dropPackageFile, withoutPackageFile, beq_iff_eq]

theorem splitSuffix_stem {stem : String} (h : IsPart stem) : Path.splitSuffix stem = (stem, "") := by
  unfold Path.splitSuffix
  dsimp only
  rw [reverse_takeWhile_of_notMem h.2]
  simp

theorem splitSuffix_kind {stem kind : String} (h : IsPart stem) (hk : IsPart kind) :
    Path.splitSuffix (stem ++ ("." ++ kind)) = (stem, "." ++ kind) := by
  have hname : (stem ++ ("." ++ kind)).toList = stem.toList ++ '.' :: kind.toList := by simp
  have hstem : stem.toList ≠ [] := by simpa using h.1
  have hkind : kind.toList ≠ [] := by simpa using hk.1
  unfold Path.splitSuffix
  dsimp only
  rw [hname, reverse_takeWhile_append hk.2]
  have hstart : (stem.toList ++ '.' :: kind.toList).length - kind.toList.length - 1 =
      stem.toList.length := by
    simp
    omega
  have hshorter : kind.toList.length ≠ stem.toList.length + (kind.toList.length + 1) := by omega
  rw [hstart, if_neg (by simp [hshorter, hstem, hkind]), List.take_left, List.drop_left,
    String.ofList_toList]
  congr 1
  rw [← String.toList_inj]
  simp

namespace SourceFile

variable {f : SourceFile}

theorem splitSuffix_name (f : SourceFile) :
    Path.splitSuffix (f.stem ++ f.suffix) = (f.stem, f.suffix) := by
  have hstem : IsPart f.stem := f.isPart _ (by simp)
  rcases f.suffix_eq with h | ⟨kind, hkind, h⟩
  · rw [h, String.append_empty, splitSuffix_stem hstem]
  · rw [h, splitSuffix_kind hstem hkind]

theorem moduleName_path (f : SourceFile) (root : Path) :
    moduleName (f.path root) root = .ok (joinWith "." f.parts) := by
  have hrelative : Path.relativeTo? (f.path root) root =
      some ⟨.here, f.directories ++ [f.stem ++ f.suffix]⟩ := by
    simp [Path.relativeTo?, path]
  have hstem : (Path.stem ⟨.here, f.directories ++ [f.stem ++ f.suffix]⟩) = f.stem := by
    simp [Path.stem, Path.name, f.splitSuffix_name]
  unfold moduleName
  rw [hrelative]
  dsimp only
  rw [if_neg (by simp), hstem, Path.withName, List.dropLast_concat, dropPackageFile_eq,
    dropSourceDir_eq, parts]

end SourceFile

/-! Names that count. -/

theorem withoutSource_cons (first : String) {rest : List String} (h : rest ≠ []) :
    withoutSource (first :: rest) = if first = "src" then rest else first :: rest := by
  simp [withoutSource, List.length_pos_iff.mpr h]

/-- The names behind a package stay behind it. -/
theorem Package.withoutSource_append (p : Package) (tail : List String) :
    withoutSource (p.names ++ tail) = p.parts ++ tail := by
  obtain ⟨first, rest, hnames⟩ := List.exists_cons_of_ne_nil p.ne_nil
  rw [parts, hnames]
  cases rest with
  | nil =>
    have hfirst : first ≠ "src" := fun h => p.ne_source (by rw [hnames, h])
    simp [withoutSource, hfirst]
  | cons second rest =>
    rw [List.cons_append, withoutSource_cons _ (by simp), withoutSource_cons _ (by simp)]
    split <;> rfl

theorem withoutPackageFile_append (names : List String) {tail : List String} (h : tail ≠ []) :
    withoutPackageFile (names ++ tail) = names ++ withoutPackageFile tail := by
  unfold withoutPackageFile
  rw [List.getLast?_append_of_ne_nil _ h]
  split
  · exact List.dropLast_append_of_ne_nil h
  · rfl

theorem mem_of_withoutSource {n : String} (h : n ∈ withoutSource names) : n ∈ names := by
  unfold withoutSource at h
  split at h
  · exact List.mem_of_mem_tail h
  · exact h

theorem mem_of_withoutPackageFile {n : String} (h : n ∈ withoutPackageFile names) : n ∈ names := by
  unfold withoutPackageFile at h
  split at h
  · exact (List.dropLast_sublist _).subset h
  · exact h

theorem Package.isPart_parts (p : Package) : ∀ n ∈ p.parts, IsPart n :=
  fun n hn => p.isPart n (mem_of_withoutSource hn)

theorem SourceFile.isPart_parts (f : SourceFile) : ∀ n ∈ f.parts, IsPart n :=
  fun n hn => f.isPart n (mem_of_withoutSource (mem_of_withoutPackageFile hn))

theorem Package.parts_ne_nil (p : Package) : p.parts ≠ [] := by
  unfold parts withoutSource
  split
  · rename_i h
    intro hnil
    rw [← List.length_eq_zero_iff, List.length_tail] at hnil
    omega
  · exact p.ne_nil

/-! Dotted names. -/

theorem components_append (a b : String) :
    components (a ++ "." ++ b) = components a ++ components b := by
  simp [components, ← splitOnChar_append_sep]

/-- The names that are joined by dots are those between the dots. -/
theorem components_joinWith (hne : names ≠ []) (h : ∀ n ∈ names, IsPart n) :
    components (joinWith "." names) = names.map String.toList := by
  induction names with
  | nil => exact absurd rfl hne
  | cons n rest ih =>
    have hn : components n = [n.toList] := splitOnChar_of_notMem (h n (by simp)).2
    cases rest with
    | nil => simpa [joinWith] using hn
    | cons m rest =>
      have hrest := ih (by simp) fun x hx => h x (List.mem_cons_of_mem _ hx)
      rw [joinWith, String.intercalate_cons_cons, components_append, hn, List.map_cons]
      rw [joinWith] at hrest
      rw [hrest, List.singleton_append]

theorem Package.components_dotted (p : Package) : components p.dotted = p.parts.map String.toList :=
  components_joinWith p.parts_ne_nil p.isPart_parts

/-- No dots stand around a dotted name: a dot there would be beside an empty name. -/
theorem Package.strips_dotted (p : Package) : Strips p.dotted p.dotted := by
  have hfull : [] ∉ components p.dotted := by
    rw [p.components_dotted, List.mem_map]
    rintro ⟨n, hn, hempty⟩
    exact (p.isPart_parts n hn).1 (String.toList_eq_nil_iff.mp hempty)
  refine ⟨⟨[], [], by simp, by simp⟩, fun hfirst => hfull ?_, fun hlast => hfull ?_⟩
  · obtain ⟨rest, hrest⟩ := List.head?_eq_some_iff.mp hfirst
    rw [components, hrest, splitOnChar_sep]
    exact List.mem_cons_self
  · obtain ⟨front, hfront⟩ := List.getLast?_eq_some_iff.mp hlast
    rw [components, hfront, splitOnChar_append_sep, splitOnChar_nil]
    exact List.mem_append_right _ List.mem_cons_self

theorem Package.dotted_ne_empty (p : Package) : p.dotted ≠ "" := by
  intro h
  have hcomponents := p.components_dotted
  rw [h] at hcomponents
  obtain ⟨n, rest, hparts⟩ := List.exists_cons_of_ne_nil p.parts_ne_nil
  rw [hparts, List.map_cons] at hcomponents
  exact (p.isPart_parts n (by simp [hparts])).1
    (String.toList_eq_nil_iff.mp (List.cons.inj hcomponents).1.symm)

theorem namespaces_dotted (omitted : Bool) (p : Package) :
    (filterOf omitted [p.dotted]).namespaces = [p.dotted] := by
  rw [namespaces_filterOf, namespacesOf, List.map_singleton, p.strips_dotted.stripped_eq,
    List.filter_cons_of_pos (by simp [p.dotted_ne_empty])]
  simp [List.eraseDups_cons]

/-! Modules in a package. -/

/-- A filter for a package lets in a module when its names begin with those of the package. -/
theorem includes_dotted_iff (omitted : Bool) (p : Package) (f : SourceFile) :
    (filterOf omitted [p.dotted]).includes (joinWith "." f.parts) = true ↔
      p.parts <+: f.parts := by
  have hsingle : (filterOf omitted [p.dotted]).includes (joinWith "." f.parts) = true ↔
      p.parts.map String.toList <+: components (joinWith "." f.parts) := by
    rw [includes_iff, namespaces_dotted]
    simp [p.components_dotted]
  rw [hsingle]
  by_cases hnil : f.parts = []
  · -- The package file of the project itself has the empty name.
    rw [hnil, List.prefix_nil, iff_false_intro p.parts_ne_nil, iff_false]
    obtain ⟨n, rest, hparts⟩ := List.exists_cons_of_ne_nil p.parts_ne_nil
    rw [hparts, List.map_cons, show components (joinWith "." []) = [[]] from rfl,
      List.cons_prefix_cons, String.toList_eq_nil_iff]
    exact fun h => (p.isPart_parts n (by simp [hparts])).1 h.1
  · rw [components_joinWith hnil f.isPart_parts,
      List.prefix_map_iff_of_injective fun _ _ => String.toList_inj.mp]

/-- The names of a file under a package begin with those of the package. -/
theorem SourceFile.Under.prefix {f : SourceFile} {p : Package} (h : f.Under p) :
    p.parts <+: f.parts := by
  obtain ⟨rest, hrest⟩ : ∃ rest, withoutSource (f.directories ++ [f.stem]) =
      p.parts ++ (rest ++ [f.stem]) := by
    rcases h with ⟨rest, hrest⟩ | ⟨rest, hrest⟩
    · exact ⟨rest, by rw [← hrest, List.append_assoc, p.withoutSource_append]⟩
    · refine ⟨rest, ?_⟩
      rw [← hrest, List.cons_append, List.cons_append, withoutSource_cons _ (by simp), if_pos rfl,
        List.append_assoc]
  rw [SourceFile.parts, hrest, withoutPackageFile_append _ (by simp)]
  exact List.prefix_append _ _

/-- Two packages side by side differ in their last names alone. -/
theorem Package.Prolongs.parts {p q : Package} (h : p.Prolongs q) : ∃ above last more, more ≠ "" ∧
    q.parts = above ++ [last] ∧ p.parts = above ++ [last ++ more] := by
  obtain ⟨above, last, more, hmore, hq, hp⟩ := h
  rw [Package.parts, Package.parts, hq, hp]
  cases above with
  | nil => exact ⟨[], last, more, hmore, by simp [withoutSource], by simp [withoutSource]⟩
  | cons first above =>
    rw [List.cons_append, List.cons_append, withoutSource_cons _ (by simp),
      withoutSource_cons _ (by simp)]
    by_cases hfirst : first = "src"
    · exact ⟨above, last, more, hmore, if_pos hfirst, if_pos hfirst⟩
    · exact ⟨first :: above, last, more, hmore, if_neg hfirst, if_neg hfirst⟩

/-- No file lies both in a package and in one whose name goes on where that of the package ends. -/
theorem Package.Prolongs.not_prefix {p q : Package} {names : List String} (h : p.Prolongs q)
    (hp : p.parts <+: names) : ¬q.parts <+: names := by
  obtain ⟨above, last, more, hmore, hq, hp'⟩ := h.parts
  intro hprefix
  have hsame : q.parts = p.parts := by
    have hlength : q.parts.length = p.parts.length := by simp [hq, hp']
    exact (List.prefix_of_prefix_length_le hprefix hp (Nat.le_of_eq hlength)).eq_of_length hlength
  rw [hq, hp', List.append_cancel_left_eq, List.singleton_inj] at hsame
  apply hmore
  rw [← String.toList_eq_nil_iff]
  simpa using congrArg String.toList hsame

/-- A filter for a package lets in the modules whose names begin with those of the package, without
source directories and package files: all that lie under it, and none that lie under a package whose
name only begins like its own. -/
theorem includes_package (omitted : Bool) (root : Path) (p : Package) (f : SourceFile) :
    ∃ module, moduleName (f.path root) root = .ok module ∧
      ((filterOf omitted [p.dotted]).includes module = true ↔ p.parts <+: f.parts) ∧
      (f.Under p → (filterOf omitted [p.dotted]).includes module = true) ∧
      ∀ q : Package, q.Prolongs p → f.Under q →
        (filterOf omitted [p.dotted]).includes module = false := by
  refine ⟨_, f.moduleName_path root, includes_dotted_iff omitted p f, ?_, ?_⟩
  · exact fun h => (includes_dotted_iff omitted p f).mpr h.prefix
  · intro q hq h
    rw [← Bool.not_eq_true, includes_dotted_iff]
    exact hq.not_prefix h.prefix

/-! An example: the package file of a package in a package, and a module beside it. -/

def models : Package := ⟨["src", "app", "models"], by decide, by decide, by decide⟩

def modelsOld : Package := ⟨["src", "app", "models_old"], by decide, by decide, by decide⟩

def packageFile : SourceFile :=
  ⟨["src", "app", "models", "extra"], "__init__", ".py", by decide, .inr ⟨"py", by decide, rfl⟩⟩

def oldOrder : SourceFile :=
  ⟨["src", "app", "models_old"], "order", ".py", by decide, .inr ⟨"py", by decide, rfl⟩⟩

theorem includes_models : packageFile.Under models ∧ modelsOld.Prolongs models ∧
    oldOrder.Under modelsOld ∧
    (∃ module, moduleName (packageFile.path ⟨.root, ["p"]⟩) ⟨.root, ["p"]⟩ = .ok module ∧
      (filterOf false ["app.models"]).includes module = true) ∧
    ∃ module, moduleName (oldOrder.path ⟨.root, ["p"]⟩) ⟨.root, ["p"]⟩ = .ok module ∧
      (filterOf false ["app.models"]).includes module = false := by
  have hinner : packageFile.Under models := .inl ⟨["extra"], rfl⟩
  have holder : oldOrder.Under modelsOld := .inl ⟨[], rfl⟩
  have hprolongs : modelsOld.Prolongs models :=
    ⟨["src", "app"], "models", "_old", by decide, rfl, by decide⟩
  have hdotted : models.dotted = "app.models" := by decide +kernel
  obtain ⟨module, hmodule, _, hin, _⟩ :=
    includes_package false ⟨.root, ["p"]⟩ models packageFile
  obtain ⟨module', hmodule', _, _, hout⟩ := includes_package false ⟨.root, ["p"]⟩ models oldOrder
  rw [hdotted] at hin hout
  exact ⟨hinner, hprolongs, holder, ⟨module, hmodule, hin hinner⟩,
    module', hmodule', hout modelsOld hprolongs holder⟩

end Stencil.Project
