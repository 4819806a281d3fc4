import Mathlib.Data.List.Forall2
import Stencil.Proofs.Model.Extract
import Stencil.Proofs.Result

/-!
Where a module declares its types. A place in a module is the number of a statement, then that of a
statement in its body, and so on; places are ordered as the source is. A module declares a type at
each class that class bodies alone lead to, and at each alias of a callable type in the module
itself, and these are its types, in that order.
-/
namespace Stencil.Model
open Stencil.Source Stencil.Text

/-! What a class is. -/

section Kind

variable {bases : List Expr} {keywords : List Keyword} {kind : TypeKind}

/-- One of some expressions ends in one of some names. -/
def AnyNamed (names : List String) (es : List Expr) : Prop :=
  ∃ e ∈ es, lastName (dotted e) ∈ names

def HasAbstractMetaclass (keywords : List Keyword) : Prop :=
  ∃ span value, Keyword.mk span (some "metaclass") value ∈ keywords ∧
    lastName (dotted value) = "ABCMeta"

def IsEnum (bases : List Expr) : Prop :=
  AnyNamed ["Enum", "IntEnum", "StrEnum", "Flag", "IntFlag"] bases

def IsInterface (bases : List Expr) (keywords : List Keyword) : Prop :=
  AnyNamed ["Protocol", "ABC"] bases ∨ HasAbstractMetaclass keywords

/-- The kind of a class: enums before interfaces before other classes. -/
inductive IsKind (bases : List Expr) (keywords : List Keyword) : TypeKind → Prop where
  | enum (h : IsEnum bases) : IsKind bases keywords .enum
  | interface (hn : ¬IsEnum bases) (h : IsInterface bases keywords) :
      IsKind bases keywords .interface
  | ordinary (hn : ¬IsEnum bases) (h : ¬IsInterface bases keywords) :
      IsKind bases keywords .ordinary

theorem any_named_iff (names : List String) (es : List Expr) :
    (es.map fun e => lastName (dotted e)).any names.contains = true ↔ AnyNamed names es := by
  simp [AnyNamed]

theorem any_metaclass_iff (keywords : List Keyword) : (keywords.any fun
      | .mk _ (some "metaclass") value => lastName (dotted value) == "ABCMeta"
      | _ => false) = true ↔ HasAbstractMetaclass keywords := by
  rw [List.any_eq_true]
  constructor
  · rintro ⟨k, hk, h⟩
    split at h
    · exact ⟨_, _, hk, beq_iff_eq.mp h⟩
    · cases h
  · rintro ⟨span, value, hk, h⟩
    exact ⟨_, hk, beq_iff_eq.mpr h⟩

theorem isKind_classKind (bases : List Expr) (keywords : List Keyword) :
    IsKind bases keywords (classKind bases keywords) := by
  have henum := any_named_iff ["Enum", "IntEnum", "StrEnum", "Flag", "IntFlag"] bases
  have hinterface := any_named_iff ["Protocol", "ABC"] bases
  have hmeta := any_metaclass_iff keywords
  let names := bases.map fun b => lastName (dotted b)
  change IsKind bases keywords
    (if names.any ["Enum", "IntEnum", "StrEnum", "Flag", "IntFlag"].contains then .enum
    else if names.any ["Protocol", "ABC"].contains then .interface
    else if keywords.any _ then .interface else .ordinary)
  split
  · rename_i h
    exact .enum (henum.mp h)
  · rename_i hn
    have hn : ¬IsEnum bases := fun h => hn (henum.mpr h)
    split
    · rename_i h
      exact .interface hn (.inl (hinterface.mp h))
    · rename_i hbase
      split
      · rename_i h
        exact .interface hn (.inr (hmeta.mp h))
      · rename_i hno
        refine .ordinary hn ?_
        rintro (h | h)
        · exact hbase (hinterface.mpr h)
        · exact hno (hmeta.mpr h)

theorem IsKind.unique {kind' : TypeKind} (h : IsKind bases keywords kind)
    (h' : IsKind bases keywords kind') : kind = kind' := by
  cases h with
  | enum h =>
    cases h' with
    | enum => rfl
    | interface hn | ordinary hn => exact absurd h hn
  | interface hn h =>
    cases h' with
    | enum he => exact absurd he hn
    | interface => rfl
    | ordinary _ ho => exact absurd h ho
  | ordinary hn ho =>
    cases h' with
    | enum he => exact absurd he hn
    | interface _ h => exact absurd h ho
    | ordinary => rfl

end Kind

/-! What is declared where. -/

/-- The type of a class, given the names of the classes around it. -/
def classSymbol (m : SourceModule) (around : List String) (name : String)
    (bases decorators : List Expr) (body : List Stmt) (kind : TypeKind) : TypeSymbol :=
  { name := name, modulePath := m.name, containing := joinWith "." around, kind := kind,
    attributes := decorators.map dotted, bases := bases.map Expr.text,
    members := body.flatMap (membersOf (if kind == .enum then .value else .field)),
    sourcePath := m.path, project := m.project, referenced := m.referenced }

/-- A class that a statement is or holds: at a place below the statement, behind classes only. -/
inductive ClassAt (m : SourceModule) : List String → Stmt → List Nat → TypeSymbol → Prop where
  | self {around span name bases keywords decorators body kind} (hk : IsKind bases keywords kind) :
      ClassAt m around (.class span name bases keywords decorators body) []
        (classSymbol m around name bases decorators body kind)
  | inside {around span name bases keywords decorators body i s place ty} (hs : body[i]? = some s)
      (h : ClassAt m (around ++ [name]) s place ty) :
      ClassAt m around (.class span name bases keywords decorators body) (i :: place) ty

def IsCallable (value : Expr) : Prop :=
  ∃ span base index, value = .subscript span base index ∧ lastName (dotted base) = "Callable"

def aliasSymbol (m : SourceModule) (name : String) (value : Expr) : TypeSymbol :=
  { name := name, modulePath := m.name, kind := .delegate, signature := value.text,
    sourcePath := m.path, project := m.project, referenced := m.referenced }

/-- An alias of a callable type: assigned to one name, plainly or with the hint for aliases. -/
inductive AliasOf (m : SourceModule) : Stmt → TypeSymbol → Prop where
  | plain {span target name value} (h : IsCallable value) :
      AliasOf m (.assign span [.name target name] value) (aliasSymbol m name value)
  | hinted {span target name hint value bare} (ht : lastName (dotted hint) = "TypeAlias")
      (h : IsCallable value) :
      AliasOf m (.annotated span (.name target name) hint (some value) bare)
        (aliasSymbol m name value)

/-- A type that a module declares at a place. -/
inductive Declares (m : SourceModule) : List Nat → TypeSymbol → Prop where
  | ofClass {i s place ty} (hs : m.tree[i]? = some s) (h : ClassAt m [] s place ty) :
      Declares m (i :: place) ty
  | ofAlias {i s ty} (hs : m.tree[i]? = some s) (h : AliasOf m s ty) : Declares m [i] ty

section Located

variable {R S : List Nat → TypeSymbol → Prop} {places : List (List Nat)} {types : List TypeSymbol}

/-- Types with the places where they are declared, in the order of the source. No place is left out
and none is there twice. -/
structure Located (R : List Nat → TypeSymbol → Prop) (places : List (List Nat))
    (types : List TypeSymbol) : Prop where
  ordered : places.Pairwise (· < ·)
  complete : ∀ place ty, R place ty → place ∈ places
  declared : List.Forall₂ R places types

theorem Located.nil (h : ∀ place ty, ¬R place ty) :
    Located R [] [] :=
  ⟨.nil, fun place ty hr => absurd hr (h place ty), .nil⟩

theorem Located.congr (h : Located R places types)
    (hiff : ∀ place ty, R place ty ↔ S place ty) : Located S places types :=
  ⟨h.ordered, fun place ty hs => h.complete place ty ((hiff place ty).mpr hs),
    h.declared.imp fun place ty => (hiff place ty).mp⟩

/-- A place below one of some statements, which are counted from a number on. -/
def Below (R : Stmt → List Nat → TypeSymbol → Prop) (first : Nat) (body : List Stmt)
    (place : List Nat) (ty : TypeSymbol) : Prop :=
  ∃ i below s, place = (first + i) :: below ∧ body[i]? = some s ∧ R s below ty

/-- The types of statements follow each other as the statements do. -/
theorem Located.flatMap (R : Stmt → List Nat → TypeSymbol → Prop) (first : Nat)
    {types : Stmt → List TypeSymbol} {body : List Stmt}
    (h : ∀ s ∈ body, ∃ places, Located (R s) places (types s)) :
    ∃ places, Located (Below R first body) places (body.flatMap types) := by
  induction body generalizing first with
  | nil =>
    refine ⟨[], Located.nil ?_⟩
    rintro place ty ⟨i, below, s, _, hs, _⟩
    cases hs
  | cons s rest ih =>
    obtain ⟨ps, hps⟩ := h s List.mem_cons_self
    obtain ⟨qs, hqs⟩ := ih (first + 1) fun s hs => h s (List.mem_cons_of_mem _ hs)
    refine ⟨ps.map (first :: ·) ++ qs, ?_, ?_, ?_⟩
    · rw [List.pairwise_append]
      refine ⟨?_, hqs.ordered, ?_⟩
      · rw [List.pairwise_map]
        exact hps.ordered.imp fun hlt => List.cons_lt_cons_iff.mpr (Or.inr ⟨rfl, hlt⟩)
      · intro p hp q hq
        obtain ⟨below, _, rfl⟩ := List.mem_map.mp hp
        obtain ⟨ty, _, i, below', s', rfl, _⟩ := exists_partner hqs.declared hq
        exact List.cons_lt_cons_iff.mpr (Or.inl (by omega))
    · rintro _ ty ⟨i, below, s', rfl, hi, hr⟩
      cases i with
      | zero =>
        cases hi
        exact List.mem_append_left _ (List.mem_map.mpr ⟨below, hps.complete _ _ hr, rfl⟩)
      | succ i =>
        refine List.mem_append_right _ (hqs.complete _ ty ⟨i, below, s', ?_, hi, hr⟩)
        rw [Nat.add_right_comm, Nat.add_assoc]
    · rw [List.flatMap_cons]
      refine List.rel_append ?_ ?_
      · rw [List.forall₂_map_left_iff]
        exact hps.declared.imp fun place ty hr => ⟨0, place, s, rfl, rfl, hr⟩
      · refine hqs.declared.imp fun place ty => ?_
        rintro ⟨i, below, s', rfl, hi, hr⟩
        exact ⟨i + 1, below, s', by rw [Nat.add_right_comm, Nat.add_assoc], hi, hr⟩

end Located

/-! What is found. -/

section Found

variable {m : SourceModule} {around : List String} {s : Stmt} {place : List Nat}
  {ty ty' : TypeSymbol} {bases decorators : List Expr} {keywords : List Keyword} {body : List Stmt}
  {name : String} {span : Span}

mutual

/-- Classes have names. -/
def Named : Stmt → Prop
  | .class _ name _ _ _ body => name ≠ "" ∧ NamedBelow body
  | _ => True

def NamedBelow : List Stmt → Prop
  | [] => True
  | s :: rest => Named s ∧ NamedBelow rest

end

theorem NamedBelow.of_mem (h : NamedBelow body) (hs : s ∈ body) : Named s := by
  induction body with
  | nil => cases hs
  | cons s' rest ih =>
    rcases List.mem_cons.mp hs with rfl | hs
    · exact h.1
    · exact ih h.2 hs

/-- What holds of a class if it holds of the statements in its body, and of all other statements,
holds of every statement. -/
theorem bodywise {P : Stmt → Prop}
    (other : ∀ s, (∀ m around place ty, ¬ClassAt m around s place ty) →
      (∀ m containing, classTypes m containing s = []) → P s)
    (ofClass : ∀ span name bases keywords decorators body, (∀ s ∈ body, P s) →
      P (.class span name bases keywords decorators body)) (s : Stmt) : P s := by
  cases s with
  | «class» span name bases keywords decorators body =>
    exact ofClass span name bases keywords decorators body fun s _ => bodywise other ofClass s
  | _ => exact other _ (fun _ _ _ _ h => nomatch h) fun _ _ => by simp [classTypes]
termination_by s
decreasing_by
  rename_i hs
  have hsize := List.sizeOf_lt_of_mem hs
  simp only [Stmt.class.sizeOf_spec]
  omega

theorem nestedTypes_eq (m : SourceModule) (containing : String) (body : List Stmt) :
    nestedTypes m containing body = body.flatMap (classTypes m containing) := by
  induction body with
  | nil => rfl
  | cons s rest ih => rw [nestedTypes, ih, List.flatMap_cons]

theorem joinWith_concat (hn : around ≠ []) :
    joinWith "." (around ++ [name]) = joinWith "." around ++ "." ++ name := by
  rw [joinWith, String.intercalate_append_of_ne_nil hn (by simp)]
  simp [joinWith]

theorem joinWith_eq_empty (h : ∀ x ∈ around, x ≠ "") : joinWith "." around = "" ↔ around = [] := by
  cases around with
  | nil => simp [joinWith]
  | cons x rest =>
    have hx := h x List.mem_cons_self
    cases rest with
    | nil => simpa [joinWith] using hx
    | cons y rest => simp [joinWith, String.intercalate_cons_cons]

theorem classTypes_class (h : ∀ x ∈ around, x ≠ "") :
    classTypes m (joinWith "." around) (.class span name bases keywords decorators body) =
      classSymbol m around name bases decorators body (classKind bases keywords) ::
        body.flatMap (classTypes m (joinWith "." (around ++ [name]))) := by
  have hwithin : (if joinWith "." around == "" then name
      else joinWith "." around ++ "." ++ name) = joinWith "." (around ++ [name]) := by
    by_cases hn : around = []
    · simp [hn, joinWith]
    · rw [if_neg (by simpa [joinWith_eq_empty h] using hn), joinWith_concat hn]
  rw [classTypes, ← hwithin, ← nestedTypes_eq]
  rfl

/-- The types of a statement are those of the classes that it is or holds. -/
theorem exists_located_class (m : SourceModule) (s : Stmt) (hs : Named s)
    (h : ∀ x ∈ around, x ≠ "") :
    ∃ places, Located (ClassAt m around s) places (classTypes m (joinWith "." around) s) := by
  induction s using bodywise generalizing around with
  | other s hnone hempty =>
    rw [hempty]
    exact ⟨[], Located.nil (hnone m around)⟩
  | ofClass span name bases keywords decorators body ih =>
    obtain ⟨hname, hbody⟩ := hs
    have hbelow : ∀ x ∈ around ++ [name], x ≠ "" := by
      rw [List.forall_mem_append]
      exact ⟨h, by simpa using hname⟩
    obtain ⟨places, hplaces⟩ := Located.flatMap (ClassAt m (around ++ [name])) 0
      fun s hs => ih s hs (hbody.of_mem hs) hbelow
    rw [classTypes_class h]
    refine ⟨[] :: places, ?_, ?_, ?_⟩
    · refine List.pairwise_cons.mpr ⟨fun p hp => ?_, hplaces.ordered⟩
      obtain ⟨ty, _, i, below, s, rfl, _⟩ := exists_partner hplaces.declared hp
      exact List.nil_lt_cons ..
    · intro place ty hc
      cases hc with
      | self => exact List.mem_cons_self
      | inside hi hc =>
        exact List.mem_cons_of_mem _ (hplaces.complete _ ty ⟨_, _, _, by rw [Nat.zero_add], hi, hc⟩)
    · refine .cons (.self (isKind_classKind bases keywords)) (hplaces.declared.imp ?_)
      rintro place ty ⟨i, below, s, rfl, hi, hc⟩
      rw [Nat.zero_add]
      exact .inside hi hc

theorem isCallableAlias_iff {value : Expr} : isCallableAlias value = true ↔ IsCallable value := by
  constructor
  · intro h
    unfold isCallableAlias at h
    split at h
    · exact ⟨_, _, _, rfl, beq_iff_eq.mp h⟩
    · cases h
  · rintro ⟨span, base, index, rfl, h⟩
    exact beq_iff_eq.mpr h

/-- What a statement of the module itself declares. -/
def DeclaredBy (m : SourceModule) (s : Stmt) (place : List Nat) (ty : TypeSymbol) : Prop :=
  ClassAt m [] s place ty ∨ place = [] ∧ AliasOf m s ty

theorem exists_located_alias (m : SourceModule) (name : String) (value : Expr) {test : Bool}
    (htest : test = true ↔ AliasOf m s (aliasSymbol m name value))
    (hself : ∀ ty, AliasOf m s ty → ty = aliasSymbol m name value)
    (hnone : ∀ place ty, ¬ClassAt m [] s place ty) :
    ∃ places, Located (DeclaredBy m s) places
      (if test then [aliasSymbol m name value] else []) := by
  split
  · rename_i h
    refine ⟨[[]], List.pairwise_singleton .., ?_, .cons (.inr ⟨rfl, htest.mp h⟩) .nil⟩
    rintro place ty (hc | ⟨rfl, _⟩)
    · exact absurd hc (hnone _ _)
    · exact List.mem_cons_self
  · rename_i h
    refine ⟨[], Located.nil ?_⟩
    rintro place ty (hc | ⟨_, ha⟩)
    · exact hnone _ _ hc
    · obtain rfl := hself ty ha
      exact h (htest.mpr ha)

theorem exists_located_statement (m : SourceModule) (s : Stmt) (hs : Named s) :
    ∃ places, Located (DeclaredBy m s) places (statementTypes m s) := by
  unfold statementTypes
  split
  · rename_i span target name value
    refine exists_located_alias m name value ?_ ?_
      (fun _ _ h => nomatch h)
    · rw [isCallableAlias_iff]
      constructor
      · exact .plain
      · intro h
        cases h with
        | plain hc => exact hc
    · intro ty ha
      cases ha
      rfl
  · rename_i span target name hint value bare
    refine exists_located_alias m name value ?_ ?_
      (fun _ _ h => nomatch h)
    · rw [Bool.and_eq_true, beq_iff_eq, isCallableAlias_iff]
      constructor
      · rintro ⟨ht, hc⟩
        exact .hinted ht hc
      · intro h
        cases h with
        | hinted ht hc => exact ⟨ht, hc⟩
    · intro ty ha
      cases ha
      rfl
  · rename_i hassign hannotated
    obtain ⟨places, hplaces⟩ := exists_located_class m s hs (List.forall_mem_nil _)
    refine ⟨places, hplaces.congr fun place ty => ⟨.inl, ?_⟩⟩
    rintro (hc | ⟨_, ha⟩)
    · exact hc
    · cases ha with
      | plain => exact absurd rfl (hassign _ _ _ _)
      | hinted => exact absurd rfl (hannotated _ _ _ _ _ _)

/-- The types of a module are those that it declares, in the order of the source. -/
theorem exists_located_module (h : NamedBelow m.tree) :
    ∃ places, Located (Declares m) places (moduleTypes m) := by
  obtain ⟨places, hplaces⟩ := Located.flatMap (DeclaredBy m) 0
    fun s hs => exists_located_statement m s (h.of_mem hs)
  refine ⟨places, hplaces.congr fun place ty => ⟨?_, ?_⟩⟩
  · rintro ⟨i, below, s, rfl, hi, hc | ⟨rfl, ha⟩⟩
    · rw [Nat.zero_add]
      exact .ofClass hi hc
    · rw [Nat.zero_add]
      exact .ofAlias hi ha
  · intro hd
    cases hd with
    | ofClass hi hc => exact ⟨_, _, _, by rw [Nat.zero_add], hi, .inl hc⟩
    | ofAlias hi ha => exact ⟨_, _, _, by rw [Nat.zero_add], hi, .inr ⟨rfl, ha⟩⟩

/-- One type is declared at a place. -/
theorem ClassAt.unique (h : ClassAt m around s place ty) (h' : ClassAt m around s place ty') :
    ty = ty' := by
  induction h with
  | self hk =>
    cases h' with
    | self hk' => rw [hk.unique hk']
  | inside hi _ ih =>
    cases h' with
    | inside hi' h' =>
      cases hi.symm.trans hi'
      exact ih h'

theorem AliasOf.unique (h : AliasOf m s ty) (h' : AliasOf m s ty') : ty = ty' := by
  cases h <;> cases h' <;> rfl

theorem Declares.unique (h : Declares m place ty) (h' : Declares m place ty') : ty = ty' := by
  cases h with
  | ofClass hi hc =>
    cases h' with
    | ofClass hi' hc' =>
      cases hi.symm.trans hi'
      exact hc.unique hc'
    | ofAlias hi' ha' =>
      cases hi.symm.trans hi'
      cases ha' <;> cases hc
  | ofAlias hi ha =>
    cases h' with
    | ofClass hi' hc' =>
      cases hi.symm.trans hi'
      cases ha <;> cases hc'
    | ofAlias hi' ha' =>
      cases hi.symm.trans hi'
      exact ha.unique ha'

/-! Full names. -/

theorem joinWith_nested (before : List String) (hn : around ≠ []) :
    joinWith "." (before ++ [joinWith "." around]) = joinWith "." (before ++ around) := by
  by_cases hb : before = []
  · simp [hb, joinWith]
  · rw [joinWith_concat hb, joinWith, joinWith, joinWith,
      String.intercalate_append_of_ne_nil hb hn]

/-- A class is called by its module, the classes around it, and its name. -/
theorem fullName_class {kind : TypeKind} (h : ∀ x ∈ around, x ≠ "") (hn : name ≠ "") :
    (classSymbol m around name bases decorators body kind).fullName =
      joinWith "." ([m.name].filter (· != "") ++ around ++ [name]) := by
  have hparts : (classSymbol m around name bases decorators body kind).fullName =
      joinWith "." (([m.name] ++ [joinWith "." around] ++ [name]).filter (· != "")) := rfl
  have hkept : ∀ {x : String}, x ≠ "" → [x].filter (· != "") = [x] := fun hx => by simp [hx]
  rw [hparts, List.filter_append, List.filter_append, hkept hn]
  by_cases ha : around = []
  · simp [ha, joinWith]
  · have hne : joinWith "." around ≠ "" := fun he => ha ((joinWith_eq_empty h).mp he)
    rw [hkept hne, joinWith_concat (by simp), joinWith_nested _ ha, joinWith_concat (by simp [ha])]

/-- A class is called by the class that it stands in, and its name. -/
theorem fullName_inside_class (hs : Named s) (h : ∀ x ∈ around, x ≠ "")
    (hc : ClassAt m around s place ty) {j : Nat} (hc' : ClassAt m around s (place ++ [j]) ty') :
    ty'.fullName = ty.fullName ++ "." ++ ty'.name := by
  induction hc with
  | @self around span name bases keywords decorators body kind hk =>
    obtain ⟨hname, hbody⟩ := hs
    cases hc' with
    | inside hi hc' =>
      have hinner := hbody.of_mem (List.mem_of_getElem? hi)
      cases hc' with
      | self hk' =>
        have hbelow : ∀ x ∈ around ++ [name], x ≠ "" := by
          rw [List.forall_mem_append]
          exact ⟨h, by simpa using hname⟩
        rw [fullName_class hbelow hinner.1, fullName_class h hname, joinWith_concat (by simp),
          ← List.append_assoc]
        rfl
  | @inside around span name bases keywords decorators body i s place ty hi _ ih =>
    obtain ⟨hname, hbody⟩ := hs
    rw [List.cons_append] at hc'
    cases hc' with
    | inside hi' hc' =>
      cases hi.symm.trans hi'
      refine ih (hbody.of_mem (List.mem_of_getElem? hi)) ?_ hc'
      rw [List.forall_mem_append]
      exact ⟨h, by simpa using hname⟩

/-- A type that is declared inside another is a class inside a class, and named behind it. -/
theorem Declares.fullName_inside (h : NamedBelow m.tree) (hd : Declares m place ty) {j : Nat}
    (hd' : Declares m (place ++ [j]) ty') : ty'.fullName = ty.fullName ++ "." ++ ty'.name := by
  cases hd with
  | @ofClass i s below _ hi hc =>
    rw [List.cons_append] at hd'
    generalize hp : below ++ [j] = inner at hd'
    cases hd' with
    | ofClass hi' hc' =>
      cases hi.symm.trans hi'
      subst hp
      exact fullName_inside_class (h.of_mem (List.mem_of_getElem? hi)) (by simp) hc hc'
    | ofAlias => simp at hp
  | ofAlias hi ha =>
    cases hd' with
    | ofClass hi' hc' =>
      cases hi.symm.trans hi'
      cases ha <;> cases hc'

/-- A module's types are those that it declares. They follow each other as the source does, each in
the group of its kind, and a class inside another is named behind it. -/
theorem moduleTypes_declared (h : NamedBelow m.tree) {f : Filter} (hf : f.keeps m = true) :
    (∃ places, Located (Declares m) places (moduleTypes m)) ∧
    (∀ place ty ty', Declares m place ty → Declares m place ty' → ty = ty') ∧
    (∀ kind, (extract f [m]).get kind = (moduleTypes m).filter fun ty => ty.kind == kind) ∧
    (∀ place j ty ty', Declares m place ty → Declares m (place ++ [j]) ty' →
      ty'.fullName = ty.fullName ++ "." ++ ty'.name) := by
  refine ⟨exists_located_module h, fun place ty ty' => Declares.unique, ?_,
    fun place j ty ty' hd hd' => hd.fullName_inside h hd'⟩
  intro kind
  rw [extract, get_ofList, List.filter_cons_of_pos hf]
  simp

end Found

/-! An example: classes in classes, one inside a function that is left out, and an alias between
them. -/

def gardenName (id : String) : Expr := .name default id

def gardenClass (name : String) (bases : List Expr) (body : List Stmt) : Stmt :=
  .class default name bases [] [] body

def garden : SourceModule where
  path := "garden.py"
  name := "garden"
  project := "park"
  tree := [
    gardenClass "Bed" [] [gardenClass "Colour" [gardenName "Enum"] [],
      .function default false "plant" (.mk [] [] none [] none) none [] [gardenClass "Seed" [] []],
      gardenClass "Row" [] [gardenClass "Stake" [gardenName "ABC"] []]],
    .assign default [gardenName "Watering"]
      (.subscript default (gardenName "Callable") (gardenName "Bed")),
    gardenClass "Gate" [] []]

theorem moduleTypes_garden : NamedBelow garden.tree ∧ ({} : Filter).keeps garden = true ∧
    (∃ places, Located (Declares garden) places (moduleTypes garden)) ∧
    (∀ place ty ty', Declares garden place ty → Declares garden place ty' → ty = ty') ∧
    (∀ kind, (extract {} [garden]).get kind =
      (moduleTypes garden).filter fun ty => ty.kind == kind) ∧
    (∀ place j ty ty', Declares garden place ty → Declares garden (place ++ [j]) ty' →
      ty'.fullName = ty.fullName ++ "." ++ ty'.name) := by
  have hnamed : NamedBelow garden.tree := by
    simp [garden, gardenClass, NamedBelow, Named]
  have hkept : ({} : Filter).keeps garden = true := keeps_everything garden
  exact ⟨hnamed, hkept, moduleTypes_declared hnamed hkept⟩

example : (moduleTypes garden).map (fun ty => (ty.fullName, ty.kind)) =
    [("garden.Bed", .ordinary), ("garden.Bed.Colour", .enum), ("garden.Bed.Row", .ordinary),
      ("garden.Bed.Row.Stake", .interface), ("garden.Watering", .delegate),
      ("garden.Gate", .ordinary)] := by
  decide +kernel

end Stencil.Model
