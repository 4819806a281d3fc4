import Stencil.Proofs.Template.Offered

/-!
What several classes offer to templates together. The functions of a list of classes are those of
its first part with those of the rest put over them: a name keeps the place where it came first, and
what is called is what a lookup gives on the last class that has something to offer under the name.
-/
namespace Stencil.Template

/-! Entries that are put over others. -/

section Entries

variable {α : Type} {look : String → Option α} {entries more last : List (String × α)}
  {names : List String} {name key : String} {a : α}

/-- Entries with others put over them, one after another. -/
def updated (entries more : List (String × α)) : List (String × α) :=
  more.foldl (fun entries e => putNamed entries e.1 e.2) entries

theorem nodup_updated (h : (entries.map Prod.fst).Nodup) :
    ((updated entries more).map Prod.fst).Nodup := by
  induction more generalizing entries with
  | nil => exact h
  | cons e rest ih => exact ih (nodup_putNamed h)

/-- Names that are there keep their places, and the others come after them. -/
theorem map_updated (h : (more.map Prod.fst).Nodup) : (updated entries more).map Prod.fst =
    entries.map Prod.fst ++ (more.map Prod.fst).filter fun n => n ∉ entries.map Prod.fst := by
  induction more generalizing entries with
  | nil => simp [updated]
  | cons e rest ih =>
    obtain ⟨hfree, hrest⟩ := List.nodup_cons.mp h
    rw [updated, List.foldl_cons]
    refine (ih hrest).trans ?_
    rw [map_putNamed, List.map_cons]
    by_cases he : e.1 ∈ entries.map Prod.fst
    · rw [if_pos he, List.filter_cons_of_neg (by simpa using he)]
    · have hsame : ((rest.map Prod.fst).filter fun n => n ∉ entries.map Prod.fst ++ [e.1]) =
          (rest.map Prod.fst).filter fun n => n ∉ entries.map Prod.fst := by
        refine List.filter_congr fun n hn => ?_
        have hne : n ≠ e.1 := fun heq => hfree (heq ▸ hn)
        simp [hne]
      rw [if_neg he, List.filter_cons_of_pos (by simpa using he), hsame, List.append_assoc]
      rfl

/-- What is put over is found before what was there. -/
theorem lookup_updated (h : (more.map Prod.fst).Nodup) : (updated entries more).lookup key =
    (more.lookup key).or (entries.lookup key) := by
  induction more generalizing entries with
  | nil => simp [updated]
  | cons e rest ih =>
    obtain ⟨n, b⟩ := e
    obtain ⟨hfree, hrest⟩ := List.nodup_cons.mp h
    rw [updated, List.foldl_cons]
    refine (ih hrest).trans ?_
    rw [lookup_putNamed]
    by_cases hk : key = n
    · subst hk
      simp [lookup_eq_none_of_notMem hfree]
    · simp [hk, List.lookup_cons, beq_eq_false_iff_ne.mpr hk]

/-- Entries with distinct names are told by their names in order and what is found under each. -/
theorem eq_of_lookup (h : (entries.map Prod.fst).Nodup)
    (hnames : entries.map Prod.fst = more.map Prod.fst)
    (hlook : ∀ key, entries.lookup key = more.lookup key) : entries = more := by
  induction entries generalizing more with
  | nil =>
    cases more with
    | nil => rfl
    | cons => cases hnames
  | cons e rest ih =>
    cases more with
    | nil => cases hnames
    | cons e' rest' =>
      obtain ⟨n, b⟩ := e
      obtain ⟨n', b'⟩ := e'
      obtain ⟨hfree, hrest⟩ := List.nodup_cons.mp h
      simp only [List.map_cons, List.cons.injEq] at hnames
      obtain ⟨rfl, hnames⟩ := hnames
      have hhead : b = b' := by simpa using hlook n
      refine congrArg₂ List.cons (by rw [hhead]) (ih hrest hnames fun key => ?_)
      by_cases hk : key = n
      · subst hk
        rw [lookup_eq_none_of_notMem hfree, lookup_eq_none_of_notMem (hnames ▸ hfree)]
      · simpa [List.lookup_cons, beq_eq_false_iff_ne.mpr hk] using hlook key

theorem updated_assoc (h : (entries.map Prod.fst).Nodup) (hm : (more.map Prod.fst).Nodup)
    (hl : (last.map Prod.fst).Nodup) :
    updated (updated entries more) last = updated entries (updated more last) := by
  refine eq_of_lookup (nodup_updated (nodup_updated h)) ?_ fun key => ?_
  · rw [map_updated hl, map_updated hm, map_updated (nodup_updated hm), map_updated hl,
      List.filter_append, List.append_assoc, List.filter_filter]
    congr 2
    refine List.filter_congr fun n _ => ?_
    simp only [List.mem_append, List.mem_filter, decide_eq_true_eq, not_or, not_and, not_not]
    grind
  · rw [lookup_updated hl, lookup_updated hm, lookup_updated (nodup_updated hm),
      lookup_updated hl, Option.or_assoc]

/-- Putting what a lookup gives is putting entries that are made of it beforehand. -/
theorem putAll_eq_updated (h : (entries.map Prod.fst).Nodup) :
    putAll look entries names = updated entries (putAll look [] names) := by
  induction names generalizing entries with
  | nil => rfl
  | cons name rest ih =>
    have hempty : (([] : List (String × α)).map Prod.fst).Nodup := List.nodup_nil
    rw [putAll, putAll, List.foldl_cons, List.foldl_cons]
    cases look name with
    | none => exact ih h
    | some a =>
      have hsingle : (([(name, a)] : List (String × α)).map Prod.fst).Nodup :=
        List.nodup_singleton _
      calc putAll look (putNamed entries name a) rest
          = updated (updated entries [(name, a)]) (putAll look [] rest) := ih (nodup_putNamed h)
        _ = updated entries (updated [(name, a)] (putAll look [] rest)) :=
            updated_assoc h hsingle (nodup_putAll hempty)
        _ = updated entries (putAll look [(name, a)] rest) := by rw [← ih hsingle]

end Entries

/-! Several classes. -/

namespace ClassTable

variable {t : ClassTable} {type name : String} {types xs ys : List String} {a : Attribute}
  {f : TemplateFunction}

/-- A type has something to offer under a name: it is public, and some class of its order binds it
to a static or class function. -/
def Contributes (t : ClassTable) (type name : String) : Prop :=
  IsPublic name ∧ BoundOnClass (t.ancestors type) name

/-- The name that a class function sees of the class it is bound to. -/
def shownName (t : ClassTable) (type : String) : String :=
  ((t.find? type).map (·.shortName)).getD type

/-- What a binding is when it is fetched from a type: a class function is bound to that type,
whichever class binds the name. -/
inductive Fetched (t : ClassTable) (type : String) : Attribute → TemplateFunction → Prop where
  | static {g} : Fetched t type (.function .static g) (.function g)
  | instance_ {g} : Fetched t type (.function .instance_ g) (.function g)
  | classBound {g} :
      Fetched t type (.function .classBound g)
        (.function { g with bound := some (t.shownName type) })
  | value {v} : Fetched t type (.value v) (.value v)

/-- The functions that types offer together: each name once; the names that some type contributes;
and under each what is fetched from the last type that contributes it. -/
structure LastWins (t : ClassTable) (types : List String)
    (functions : List (String × TemplateFunction)) : Prop where
  nodup : (functions.map Prod.fst).Nodup
  mem_names : ∀ name, name ∈ functions.map Prod.fst ↔ ∃ type ∈ types, t.Contributes type name
  value : ∀ name f, (name, f) ∈ functions → ∃ before type after a farther,
    types = before ++ type :: after ∧ t.Contributes type name ∧
      (∀ later ∈ after, ¬t.Contributes later name) ∧ t.BindsFirst type name a farther ∧
      t.Fetched type a f

theorem fetched_of_lookup (h : t.lookup? type name = some f) :
    ∃ a farther, t.BindsFirst type name a farther ∧ t.Fetched type a f := by
  obtain ⟨a, ha, hf⟩ := Option.map_eq_some_iff.mp h
  obtain ⟨farther, hbinds⟩ := exists_bindsFirst_iff.mpr ha
  refine ⟨a, farther, hbinds, ?_⟩
  cases a with
  | value => exact hf ▸ .value
  | function kind g =>
    cases kind with
    | static => exact hf ▸ .static
    | classBound => exact hf ▸ .classBound
    | instance_ => exact hf ▸ .instance_

/-- Each type puts its functions over those of the types before it. -/
theorem templateFunctions_eq_foldl (t : ClassTable) (types : List String) :
    t.templateFunctions types =
      types.foldl (fun found type => putAll (t.lookup? type) found (t.offeredNames type)) [] := by
  rw [templateFunctions]
  congr 1
  funext found type
  rw [putAll]
  congr 1
  funext found name
  cases t.lookup? type name <;> rfl

theorem nodup_templateFunctions_foldl {found : List (String × TemplateFunction)}
    (h : (found.map Prod.fst).Nodup) : ((types.foldl (fun found type =>
      putAll (t.lookup? type) found (t.offeredNames type)) found).map Prod.fst).Nodup := by
  induction types generalizing found with
  | nil => exact h
  | cons type rest ih => exact ih (nodup_putAll h)

theorem foldl_putAll_eq_updated {found : List (String × TemplateFunction)}
    (h : (found.map Prod.fst).Nodup) :
    types.foldl (fun found type => putAll (t.lookup? type) found (t.offeredNames type)) found =
      updated found (t.templateFunctions types) := by
  rw [templateFunctions_eq_foldl]
  induction types generalizing found with
  | nil => rfl
  | cons type rest ih =>
    have hempty : (([] : List (String × TemplateFunction)).map Prod.fst).Nodup := List.nodup_nil
    rw [List.foldl_cons, List.foldl_cons, ih (nodup_putAll h), ih (nodup_putAll hempty),
      putAll_eq_updated h, updated_assoc h (nodup_putAll hempty)
        (nodup_templateFunctions_foldl hempty)]

theorem nodup_names_templateFunctions (t : ClassTable) (types : List String) :
    ((t.templateFunctions types).map Prod.fst).Nodup := by
  rw [templateFunctions_eq_foldl]
  exact nodup_templateFunctions_foldl List.nodup_nil

theorem templateFunctions_append (t : ClassTable) (xs ys : List String) :
    t.templateFunctions (xs ++ ys) = updated (t.templateFunctions xs) (t.templateFunctions ys) := by
  rw [← foldl_putAll_eq_updated (nodup_names_templateFunctions t xs), templateFunctions_eq_foldl,
    List.foldl_append, ← templateFunctions_eq_foldl]

theorem lookup_templateFunctions_cons : (t.templateFunctions (type :: types)).lookup name =
    ((t.templateFunctions types).lookup name).or ((t.templateFunctions [type]).lookup name) := by
  rw [← List.singleton_append, templateFunctions_append,
    lookup_updated (nodup_names_templateFunctions t types)]

theorem mem_names_iff (h : t.BindsOnce) : name ∈ (t.templateFunctions types).map Prod.fst ↔
    ∃ type ∈ types, t.Contributes type name := by
  induction types with
  | nil => simp [templateFunctions]
  | cons type rest ih =>
    rw [← lookup_isSome_iff_mem, lookup_templateFunctions_cons, Option.isSome_or, Bool.or_eq_true,
      lookup_isSome_iff_mem, lookup_isSome_iff_mem, ih, mem_names_templateFunctions h,
      List.exists_mem_cons_iff, or_comm]
    rfl

/-- What is found under a name is what a lookup gives on the last type that contributes it. -/
theorem lookup_eq_some (h : t.BindsOnce) (hf : (t.templateFunctions types).lookup name = some f) :
    ∃ before type after, types = before ++ type :: after ∧ t.Contributes type name ∧
      (∀ later ∈ after, ¬t.Contributes later name) ∧ t.lookup? type name = some f := by
  induction types with
  | nil => cases hf
  | cons type rest ih =>
    rw [lookup_templateFunctions_cons] at hf
    cases hrest : (t.templateFunctions rest).lookup name with
    | some g =>
      rw [hrest] at hf
      cases hf
      obtain ⟨before, other, after, rfl, hlast⟩ := ih hrest
      exact ⟨type :: before, other, after, rfl, hlast⟩
    | none =>
      rw [hrest, Option.none_or, lookup_templateFunctions h] at hf
      -- The types behind this one offer nothing under the name, so none of them contributes it.
      have hnone : ¬∃ later ∈ rest, t.Contributes later name := by
        rw [← mem_names_iff h, ← lookup_isSome_iff_mem, hrest]
        exact Bool.false_ne_true
      exact ⟨[], type, rest, rfl, hf.1, fun later hl hc => hnone ⟨later, hl, hc⟩, hf.2⟩

/-- The functions of a list of types are those of its first part, updated with those of the rest;
and under each name the last type that contributes it wins. -/
theorem templateFunctions_combined (h : t.BindsOnce) :
    (∀ xs ys, t.templateFunctions (xs ++ ys) =
      updated (t.templateFunctions xs) (t.templateFunctions ys)) ∧
    ∀ types, t.LastWins types (t.templateFunctions types) := by
  refine ⟨templateFunctions_append t, fun types => ?_⟩
  constructor
  case nodup => exact nodup_names_templateFunctions t types
  case mem_names => exact fun name => mem_names_iff h
  case value =>
    intro name f hf
    obtain ⟨before, type, after, heq, hc, hlast, hlook⟩ :=
      lookup_eq_some h (lookup_of_mem (nodup_names_templateFunctions t types) hf)
    obtain ⟨a, farther, hbinds, hfetched⟩ := fetched_of_lookup hlook
    exact ⟨before, type, after, a, farther, heq, hc, hlast, hbinds, hfetched⟩

/-! An example: two classes with one name in common, one of which inherits a class function. -/

def badge : UserFunction where
  shown := "badge"
  params := [("cls", none), ("text", none)]
  body := .tag

def whisper : UserFunction where
  shown := "whisper"
  params := [("text", none)]
  body := .lowerFirst

def criers : ClassTable := .ofList [
  { name := "Herald", attributes := [("badge", .function .classBound badge),
      ("call", .function .static shout)] },
  { name := "Crier", bases := ["Herald"], attributes := [("hush", .function .static whisper)] },
  { name := "Clerk", attributes := [("call", .function .static whisper),
      ("note", .function .static whisper)] }]

theorem templateFunctions_criers : criers.BindsOnce ∧
    criers.templateFunctions (["Clerk"] ++ ["Crier"]) =
      updated (criers.templateFunctions ["Clerk"]) (criers.templateFunctions ["Crier"]) ∧
    criers.LastWins ["Clerk", "Crier"] (criers.templateFunctions ["Clerk", "Crier"]) := by
  have h : criers.BindsOnce := by
    simp only [BindsOnce, criers, ofList]
    decide
  obtain ⟨happend, hwins⟩ := templateFunctions_combined h
  exact ⟨h, happend ["Clerk"] ["Crier"], hwins ["Clerk", "Crier"]⟩

example : (criers.templateFunctions ["Clerk", "Crier"]).map (fun e => (e.1, match e.2 with
    | .function f => (f.shown, f.bound)
    | .value v => (v.text, none))) =
      [("call", "shout", none), ("note", "whisper", none), ("badge", "badge", some "Crier"),
        ("hush", "whisper", none)] := by
  decide +kernel

end ClassTable

end Stencil.Template
