import Mathlib.Data.List.Nodup
import Stencil.Template.Function

/-!
Which names a class offers to templates. A lookup stops at the first class, in the order of
ancestors, that binds a name; a name is offered where any class in that order binds it to a static
or class function. The two part at the names that a nearer class binds anew, to a plain function or
a value: these are offered too, and what is called is the nearer binding.
-/
namespace Stencil.Template

/-! Entries by name. -/

section Entries

variable {α : Type} {look : String → Option α} {entries : List (String × α)} {names : List String}
  {name key : String} {a : α}

theorem lookup_isSome_iff_mem :
    (entries.lookup key).isSome = true ↔ key ∈ entries.map Prod.fst := by
  rw [List.lookup_isSome_iff, List.mem_map]
  refine exists_congr fun e => and_congr_right fun _ => ?_
  rw [beq_iff_eq, eq_comm]

theorem lookup_eq_none_of_notMem (h : key ∉ entries.map Prod.fst) : entries.lookup key = none := by
  rw [← Option.not_isSome_iff_eq_none, lookup_isSome_iff_mem]
  exact h

/-- Where a name is, its entries get the new value; entries of other names stay. -/
theorem lookup_replace : (entries.map fun e => if e.1 == name then (name, a) else e).lookup key =
    if key = name then (entries.lookup name).map fun _ => a else entries.lookup key := by
  induction entries with
  | nil => simp
  | cons e rest ih =>
    obtain ⟨x, b⟩ := e
    rw [List.map_cons]
    by_cases hx : x = name
    · subst hx
      by_cases hk : key = x
      · simp [hk]
      · have hk' : (key == x) = false := beq_eq_false_iff_ne.mpr hk
        rw [if_pos BEq.rfl, if_neg hk, List.lookup_cons, List.lookup_cons, hk', ih, if_neg hk]
    · have hx' : (name == x) = false := beq_eq_false_iff_ne.mpr (Ne.symm hx)
      rw [if_neg (by simpa using hx), List.lookup_cons, List.lookup_cons, List.lookup_cons, hx', ih]
      by_cases hk : key = x
      · subst hk
        simp [hx]
      · simp [beq_eq_false_iff_ne.mpr hk]

theorem lookup_putNamed : (putNamed entries name a).lookup key =
    if key = name then some a else entries.lookup key := by
  unfold putNamed
  split
  · rename_i hm
    obtain ⟨b, hb⟩ := Option.isSome_iff_exists.mp (lookup_isSome_iff_mem.mpr (any_key_iff.mp hm))
    rw [lookup_replace, hb]
    rfl
  · rename_i hm
    have hfree : entries.lookup name = none :=
      lookup_eq_none_of_notMem fun h => hm (any_key_iff.mpr h)
    rw [List.lookup_append]
    by_cases hk : key = name
    · subst hk
      simp [hfree]
    · simp [hk, List.lookup_cons, beq_eq_false_iff_ne.mpr hk]

theorem lookup_of_mem (h : (entries.map Prod.fst).Nodup) (hm : (key, a) ∈ entries) :
    entries.lookup key = some a := by
  obtain ⟨before, after, rfl⟩ := List.append_of_mem hm
  rw [List.lookup_eq_some_iff]
  refine ⟨before, after, rfl, fun e he => ?_⟩
  rw [List.map_append, List.nodup_append] at h
  have hne := h.2.2 e.1 (List.mem_map_of_mem he) key List.mem_cons_self
  exact bne_iff_ne.mpr (Ne.symm hne)

theorem mem_of_lookup (h : entries.lookup key = some a) : (key, a) ∈ entries := by
  obtain ⟨before, after, rfl, _⟩ := List.lookup_eq_some_iff.mp h
  simp

/-- Puts what a lookup gives under each of some names, one after another. -/
def putAll (look : String → Option α) (entries : List (String × α)) (names : List String) :
    List (String × α) :=
  names.foldl (fun entries name =>
    match look name with
    | some a => putNamed entries name a
    | none => entries) entries

theorem nodup_putAll (h : (entries.map Prod.fst).Nodup) :
    ((putAll look entries names).map Prod.fst).Nodup := by
  induction names generalizing entries with
  | nil => exact h
  | cons name rest ih =>
    rw [putAll, List.foldl_cons]
    cases look name with
    | none => exact ih h
    | some a => exact ih (nodup_putNamed h)

/-- What is put wins over what was there. -/
theorem lookup_putAll : (putAll look entries names).lookup key =
    (if key ∈ names then look key else none).or (entries.lookup key) := by
  induction names generalizing entries with
  | nil => simp [putAll]
  | cons name rest ih =>
    rw [putAll, List.foldl_cons]
    -- A name without a value is passed over; looking it up later gives nothing again.
    cases hl : look name with
    | none =>
      refine ih.trans ?_
      by_cases hk : key = name
      · subst hk
        simp [hl]
      · simp [hk]
    | some a =>
      refine ih.trans ?_
      rw [lookup_putNamed]
      by_cases hk : key = name
      · subst hk
        rw [hl, if_pos rfl, if_pos List.mem_cons_self]
        split <;> rfl
      · simp [hk]

end Entries

/-! What a class binds. -/

/-- A binding that is called on the class: a static or a class function. -/
inductive Attribute.OnClass : Attribute → Prop where
  | static {f} : OnClass (.function .static f)
  | classBound {f} : OnClass (.function .classBound f)

/-- A name that does not start with an underscore. -/
def IsPublic (name : String) : Prop := ¬"_".toList <+: name.toList

namespace ClassTable

variable {t : ClassTable} {type name : String} {a a' : Attribute} {farther : List UserClass}

/-- Classes bind each of their names once. -/
def BindsOnce (t : ClassTable) : Prop := ∀ c ∈ t.classes, (c.attributes.map Prod.fst).Nodup

/-- The first class that binds a name, in the order of ancestors, binds it so; other ancestors stand
behind that class. -/
def BindsFirst (t : ClassTable) (type name : String) (a : Attribute) (farther : List UserClass) :
    Prop :=
  ∃ nearer c, t.ancestors type = nearer ++ c :: farther ∧ c.attributes.lookup name = some a ∧
    ∀ b ∈ nearer, b.attributes.lookup name = none

/-- Some class binds a name to a static or class function. -/
def BoundOnClass (classes : List UserClass) (name : String) : Prop :=
  ∃ c ∈ classes, ∃ a, c.attributes.lookup name = some a ∧ a.OnClass

/-- A public name that is a static or class function of a type. -/
def HasFunction (t : ClassTable) (type name : String) : Prop :=
  IsPublic name ∧ ∃ a farther, t.BindsFirst type name a farther ∧ a.OnClass

/-- A public name whose static or class function is hidden by a nearer binding of another kind. -/
def Hidden (t : ClassTable) (type name : String) : Prop :=
  IsPublic name ∧ ∃ a farther, t.BindsFirst type name a farther ∧ ¬a.OnClass ∧
    BoundOnClass farther name

/-- The functions that a type offers: each name once, with what a lookup on the type gives. Every
name that is a static or class function of the type is there, and no others are, but for those that
are hidden. -/
structure Offers (t : ClassTable) (type : String) (functions : List (String × TemplateFunction)) :
    Prop where
  nodup : (functions.map Prod.fst).Nodup
  mem_names : ∀ name, name ∈ functions.map Prod.fst ↔
    IsPublic name ∧ BoundOnClass (t.ancestors type) name
  value : ∀ name f, (name, f) ∈ functions → t.lookup? type name = some f
  has : ∀ name, t.HasFunction type name → ∃ f, (name, .function f) ∈ functions
  exact_iff : ∀ name, (name ∈ functions.map Prod.fst ↔ t.HasFunction type name) ↔ ¬t.Hidden type name

theorem exists_bindsFirst_iff :
    (∃ farther, t.BindsFirst type name a farther) ↔ t.attribute? type name = some a := by
  rw [attribute?, List.findSome?_eq_some_iff]
  constructor
  · rintro ⟨farther, nearer, c, h⟩
    exact ⟨nearer, c, farther, h⟩
  · rintro ⟨nearer, c, farther, h⟩
    exact ⟨farther, nearer, c, h⟩

theorem BindsFirst.unique {farther' : List UserClass} (h : t.BindsFirst type name a farther)
    (h' : t.BindsFirst type name a' farther') : a = a' :=
  Option.some.inj ((exists_bindsFirst_iff.mp ⟨_, h⟩).symm.trans (exists_bindsFirst_iff.mp ⟨_, h'⟩))

/-- A name that some class binds is bound first by one. -/
theorem BoundOnClass.exists_bindsFirst (h : BoundOnClass (t.ancestors type) name) :
    ∃ a farther, t.BindsFirst type name a farther ∧ (a.OnClass ∨ BoundOnClass farther name) := by
  obtain ⟨c, hc, a, hl, ha⟩ := h
  have hsome : (t.attribute? type name).isSome = true :=
    List.findSome?_isSome_iff.mpr ⟨c, hc, by rw [hl]; rfl⟩
  obtain ⟨first, hfirst⟩ := Option.isSome_iff_exists.mp hsome
  obtain ⟨farther, hbinds⟩ := exists_bindsFirst_iff.mpr hfirst
  refine ⟨first, farther, hbinds, ?_⟩
  obtain ⟨nearer, d, heq, hd, hnone⟩ := hbinds
  rw [heq] at hc
  -- The class is no nearer than the first that binds the name: it is that one, or farther.
  rcases List.mem_append.mp hc with hc | hc
  · cases (hnone c hc).symm.trans hl
  · rcases List.mem_cons.mp hc with rfl | hc
    · cases hd.symm.trans hl
      exact .inl ha
    · exact .inr ⟨c, hc, a, hl, ha⟩

/-- What is bound on a class is a function of the type, or hidden. -/
theorem boundOnClass_iff : BoundOnClass (t.ancestors type) name ↔
    (∃ a farther, t.BindsFirst type name a farther ∧ a.OnClass) ∨
      ∃ a farther, t.BindsFirst type name a farther ∧ ¬a.OnClass ∧ BoundOnClass farther name := by
  constructor
  · intro h
    obtain ⟨a, farther, hbinds, hc⟩ := h.exists_bindsFirst
    by_cases ha : a.OnClass
    · exact .inl ⟨a, farther, hbinds, ha⟩
    · exact .inr ⟨a, farther, hbinds, ha, hc.resolve_left ha⟩
  · rintro (⟨a, farther, ⟨nearer, c, heq, hl, _⟩, ha⟩ |
      ⟨_, farther, ⟨nearer, c, heq, _⟩, _, d, hd, a, hl, ha⟩)
    · exact ⟨c, by simp [heq], a, hl, ha⟩
    · exact ⟨d, by simp [heq, hd], a, hl, ha⟩

theorem BindsOnce.mem_ancestors (h : t.BindsOnce) {c : UserClass} (hc : c ∈ t.ancestors type) :
    (c.attributes.map Prod.fst).Nodup := by
  obtain ⟨n, _, hn⟩ := List.mem_filterMap.mp hc
  exact h c (List.mem_of_find?_eq_some hn)

theorem isPublic_iff : (!name.startsWith "_") = true ↔ IsPublic name := by
  rw [Bool.not_eq_true', ← Bool.not_eq_true, String.startsWith_string_iff]
  rfl

theorem mem_offeredNames (h : t.BindsOnce) :
    name ∈ t.offeredNames type ↔ IsPublic name ∧ BoundOnClass (t.ancestors type) name := by
  simp only [offeredNames, List.mem_flatMap, List.mem_reverse, List.mem_map, List.mem_filter]
  constructor
  · rintro ⟨c, hc, ⟨x, a⟩, ⟨hm, ho⟩, rfl⟩
    have hbound : ∀ ha : a.OnClass, BoundOnClass (t.ancestors type) x := fun ha =>
      ⟨c, hc, a, lookup_of_mem (h.mem_ancestors hc) hm, ha⟩
    cases a with
    | value => cases ho
    | function kind f =>
      cases kind with
      | static => exact ⟨isPublic_iff.mp ho, hbound .static⟩
      | classBound => exact ⟨isPublic_iff.mp ho, hbound .classBound⟩
      | instance_ => cases ho
  · rintro ⟨hp, c, hc, a, hl, ha⟩
    refine ⟨c, hc, (name, a), ⟨mem_of_lookup hl, ?_⟩, rfl⟩
    cases ha with
    | static => exact isPublic_iff.mpr hp
    | classBound => exact isPublic_iff.mpr hp

theorem templateFunctions_single (t : ClassTable) (type : String) :
    t.templateFunctions [type] = putAll (t.lookup? type) [] (t.offeredNames type) := by
  rw [templateFunctions, List.foldl_cons, List.foldl_nil, putAll]
  congr 1
  funext entries name
  cases t.lookup? type name <;> rfl

theorem lookup_templateFunctions (h : t.BindsOnce) {f : TemplateFunction} :
    (t.templateFunctions [type]).lookup name = some f ↔
      (IsPublic name ∧ BoundOnClass (t.ancestors type) name) ∧ t.lookup? type name = some f := by
  rw [templateFunctions_single, lookup_putAll, ← mem_offeredNames h]
  by_cases hn : name ∈ t.offeredNames type
  · simp [hn]
  · simp [hn]

/-- What is bound is found, and a static or class function as a function. -/
theorem exists_lookup (h : t.attribute? type name = some a) :
    ∃ f, t.lookup? type name = some f ∧ (a.OnClass → ∃ g, f = .function g) := by
  rw [lookup?, h]
  refine ⟨_, rfl, fun ha => ?_⟩
  cases ha with
  | static => exact ⟨_, rfl⟩
  | classBound => exact ⟨_, rfl⟩

theorem nodup_templateFunctions (t : ClassTable) (type : String) :
    ((t.templateFunctions [type]).map Prod.fst).Nodup := by
  rw [templateFunctions_single]
  exact nodup_putAll List.nodup_nil

theorem mem_names_templateFunctions (h : t.BindsOnce) :
    name ∈ (t.templateFunctions [type]).map Prod.fst ↔
      IsPublic name ∧ BoundOnClass (t.ancestors type) name := by
  rw [← lookup_isSome_iff_mem, Option.isSome_iff_exists]
  constructor
  · rintro ⟨f, hf⟩
    exact ((lookup_templateFunctions h).mp hf).1
  · intro hbound
    obtain ⟨a, farther, hbinds, _⟩ := hbound.2.exists_bindsFirst
    obtain ⟨f, hf, _⟩ := exists_lookup (exists_bindsFirst_iff.mp ⟨farther, hbinds⟩)
    exact ⟨f, (lookup_templateFunctions h).mpr ⟨hbound, hf⟩⟩

/-- Of the names that are bound on some class, those that are no functions of the type are hidden. -/
theorem hasFunction_iff_not_hidden :
    (IsPublic name ∧ BoundOnClass (t.ancestors type) name ↔ t.HasFunction type name) ↔
      ¬t.Hidden type name := by
  rw [boundOnClass_iff, HasFunction, Hidden]
  constructor
  · rintro hiff ⟨hp, a, farther, hbinds, ha, hc⟩
    obtain ⟨_, a', farther', hbinds', ha'⟩ := hiff.mp ⟨hp, .inr ⟨a, farther, hbinds, ha, hc⟩⟩
    exact ha (hbinds.unique hbinds' ▸ ha')
  · intro hhidden
    constructor
    · rintro ⟨hp, hfirst | hlater⟩
      · exact ⟨hp, hfirst⟩
      · exact absurd ⟨hp, hlater⟩ hhidden
    · rintro ⟨hp, hfirst⟩
      exact ⟨hp, .inl hfirst⟩

/-- A type offers its static and class functions, and besides those that a nearer binding hides. -/
theorem templateFunctions_offers (h : t.BindsOnce) (type : String) :
    t.Offers type (t.templateFunctions [type]) := by
  constructor
  case nodup => exact nodup_templateFunctions t type
  case mem_names => exact fun name => mem_names_templateFunctions h
  case value =>
    intro name f hf
    have hlookup := lookup_of_mem (nodup_templateFunctions t type) hf
    exact ((lookup_templateFunctions h).mp hlookup).2
  case has =>
    rintro name ⟨hp, a, farther, hbinds, ha⟩
    obtain ⟨_, hf, hg⟩ := exists_lookup (exists_bindsFirst_iff.mp ⟨farther, hbinds⟩)
    obtain ⟨g, rfl⟩ := hg ha
    have hbound := boundOnClass_iff.mpr (.inl ⟨a, farther, hbinds, ha⟩)
    exact ⟨g, mem_of_lookup ((lookup_templateFunctions h).mpr ⟨⟨hp, hbound⟩, hf⟩)⟩
  case exact_iff =>
    intro name
    rw [mem_names_templateFunctions h]
    exact hasFunction_iff_not_hidden

/-! An example: a static function that a subclass binds anew. -/

def shout : UserFunction where
  shown := "shout"
  params := [("text", none)]
  body := .upper

def speakers : ClassTable := .ofList [
  { name := "Speaker", attributes := [("shout", .function .static shout),
      ("_hush", .function .static shout), ("call", .function .classBound shout)] },
  { name := "Mute", bases := ["Speaker"], attributes := [("shout", .value (.int 5))] }]

theorem templateFunctions_speakers : speakers.BindsOnce ∧
    speakers.Offers "Mute" (speakers.templateFunctions ["Mute"]) := by
  have h : speakers.BindsOnce := by
    simp only [BindsOnce, speakers, ofList]
    decide
  exact ⟨h, templateFunctions_offers h "Mute"⟩

example : (speakers.templateFunctions ["Mute"]).map (fun e => (e.1, match e.2 with
    | .function f => f.shown
    | .value v => v.text)) = [("shout", "5"), ("call", "shout")] := by
  decide +kernel

end ClassTable

end Stencil.Template
