import Stencil.Proofs.Model.Declared

/-!
Which functions of a class are its members. A function is left out where one of its decorators ends
as those of the second half of a property do; every other function is one member. So the setter and
the deleter of a property that the body defines before are no members of their own. A function that
only looks like a half is left out as well, and a getter that replaces the first half is a second
member. Every other function is a member just where it is no half.
-/
namespace Stencil.Model
open Stencil.Source

variable {body : List Stmt} {i : Nat} {name : String} {returns : Option Expr}
  {decorators : List Expr}

def propertyNames : List String := ["property", "cached_property"]

/-- A decorator ends as those of the second half of a property do. -/
def SpelledAsHalf (decorators : List Expr) : Prop :=
  ∃ d ∈ decorators, ".setter".toList <:+ (dotted d).toList ∨ ".deleter".toList <:+ (dotted d).toList

def IsPropertyCall (value : Expr) : Prop :=
  ∃ span function args keywords, value = .call span function args keywords ∧
    lastName (dotted function) ∈ propertyNames

/-- A statement that defines a property: a function decorated as one, or an assigned call. -/
inductive DefinesProperty (name : String) : Stmt → Prop where
  | decorated {span async params returns decorators inner}
      (h : AnyNamed propertyNames decorators) :
      DefinesProperty name (.function span async name params returns decorators inner)
  | assigned {span targets target value} (ht : Expr.name target name ∈ targets)
      (h : IsPropertyCall value) : DefinesProperty name (.assign span targets value)
  | annotated {span target hint value bare} (h : IsPropertyCall value) :
      DefinesProperty name (.annotated span (.name target name) hint (some value) bare)

/-- A decorator is one of some accessors of a property that a body defines before a statement. -/
def AccessorBy (accessors : List String) (body : List Stmt) (i : Nat) (decorators : List Expr) :
    Prop :=
  ∃ span target name accessor, Expr.attribute span (.name target name) accessor ∈ decorators ∧
    accessor ∈ accessors ∧ name ≠ "" ∧ ∃ j s, j < i ∧ body[j]? = some s ∧ DefinesProperty name s

/-- A function is an accessor half of a property. -/
def IsHalf : List Stmt → Nat → List Expr → Prop := AccessorBy ["getter", "setter", "deleter"]

/-- A function is spelled as a half of a property and is none. -/
def LooksLikeHalf (body : List Stmt) (i : Nat) (decorators : List Expr) : Prop :=
  SpelledAsHalf decorators ∧ ¬IsHalf body i decorators

/-- A function replaces the first half of a property, and is spelled as no second half. -/
def ReplacesFirstHalf (body : List Stmt) (i : Nat) (decorators : List Expr) : Prop :=
  AccessorBy ["getter"] body i decorators ∧ ¬SpelledAsHalf decorators

/-- The member that a function is. -/
structure FunctionMember (name : String) (returns : Option Expr) (decorators : List Expr)
    (member : Member) : Prop where
  name_eq : member.name = name
  property : AnyNamed propertyNames decorators → member.kind = .property
  method : ¬AnyNamed propertyNames decorators → member.kind = .method
  typeText : member.typeText = (returns.map Expr.text).getD ""
  attributes : member.attributes = decorators.map fun d => lastName (dotted d)
  isStatic : member.isStatic = true ↔ AnyNamed ["staticmethod", "classmethod"] decorators

/-- What a function in a body adds to the members: nothing, or one member. It is nothing just where
the function is an accessor half, unless it looks like one or replaces the first. -/
structure FunctionPart (body : List Stmt) (i : Nat) (name : String) (returns : Option Expr)
    (decorators : List Expr) (part : List Member) : Prop where
  spelled : SpelledAsHalf decorators → part = []
  member : ¬SpelledAsHalf decorators →
    ∃ member, part = [member] ∧ FunctionMember name returns decorators member
  second : AccessorBy ["setter", "deleter"] body i decorators → part = []
  exact_iff : (part = [] ↔ IsHalf body i decorators) ↔
    ¬LooksLikeHalf body i decorators ∧ ¬ReplacesFirstHalf body i decorators

def IsFunction (s : Stmt) : Prop :=
  ∃ span async name params returns decorators inner,
    s = .function span async name params returns decorators inner

/-- The members of a class, in one part for each statement of its body. Statements that are no
functions add no methods and no properties. -/
structure MembersBy (body : List Stmt) (members : List Member) (parts : List (List Member)) :
    Prop where
  flatten : members = parts.flatten
  length_eq : parts.length = body.length
  function : ∀ {i span async name params returns decorators inner},
    body[i]? = some (.function span async name params returns decorators inner) →
    ∃ part, parts[i]? = some part ∧ FunctionPart body i name returns decorators part
  other : ∀ {i : Nat} {s part}, body[i]? = some s → parts[i]? = some part → ¬IsFunction s →
    ∀ member ∈ part, member.kind = .field ∨ member.kind = .value

/-! Decorators. -/

theorem spelledAsHalf_iff :
    (decorators.map dotted).any isAccessorHalf = true ↔ SpelledAsHalf decorators := by
  simp [SpelledAsHalf, isAccessorHalf, Text.endsWith, List.isSuffixOf_iff_suffix]

theorem contains_or_iff (decorators : List Expr) (a b : String) :
    (((decorators.map dotted).map lastName).contains a ||
      ((decorators.map dotted).map lastName).contains b) = true ↔ AnyNamed [a, b] decorators := by
  simp only [AnyNamed, Bool.or_eq_true, List.contains_iff_mem, List.mem_map, List.mem_cons,
    List.not_mem_nil, or_false]
  constructor
  · rintro (⟨_, ⟨d, hd, rfl⟩, h⟩ | ⟨_, ⟨d, hd, rfl⟩, h⟩)
    · exact ⟨d, hd, .inl h⟩
    · exact ⟨d, hd, .inr h⟩
  · rintro ⟨d, hd, h | h⟩
    · exact .inl ⟨_, ⟨d, hd, rfl⟩, h⟩
    · exact .inr ⟨_, ⟨d, hd, rfl⟩, h⟩

theorem dotted_accessor {span target : Span} {accessor : String} (hn : name ≠ "") :
    dotted (.attribute span (.name target name) accessor) = name ++ "." ++ accessor := by
  simp [dotted, hn]

/-- The second half of a property is spelled as one. -/
theorem AccessorBy.spelledAsHalf (h : AccessorBy ["setter", "deleter"] body i decorators) :
    SpelledAsHalf decorators := by
  obtain ⟨span, target, name, accessor, hd, hm, hn, _⟩ := h
  refine ⟨_, hd, ?_⟩
  rw [dotted_accessor hn, String.append_assoc, String.toList_append]
  rcases List.mem_pair.mp hm with rfl | rfl
  · exact .inl (List.suffix_append _ _)
  · exact .inr (List.suffix_append _ _)

theorem isHalf_iff : IsHalf body i decorators ↔
    AccessorBy ["getter"] body i decorators ∨ AccessorBy ["setter", "deleter"] body i decorators := by
  constructor
  · rintro ⟨span, target, name, accessor, hd, hm, hdefined⟩
    rcases List.mem_cons.mp hm with hm | hm
    · exact .inl ⟨span, target, name, accessor, hd, List.mem_singleton.mpr hm, hdefined⟩
    · exact .inr ⟨span, target, name, accessor, hd, hm, hdefined⟩
  · rintro (⟨span, target, name, accessor, hd, hm, hdefined⟩ |
      ⟨span, target, name, accessor, hd, hm, hdefined⟩)
    · exact ⟨span, target, name, accessor, hd,
        List.mem_cons.mpr (.inl (List.mem_singleton.mp hm)), hdefined⟩
    · exact ⟨span, target, name, accessor, hd, List.mem_cons_of_mem _ hm, hdefined⟩

/-! What a function adds. -/

theorem functionMember_of_spelled (h : SpelledAsHalf decorators) :
    functionMember name returns decorators = [] := by
  rw [functionMember, if_pos (spelledAsHalf_iff.mpr h)]

theorem functionMember_of_not_spelled (name : String) (returns : Option Expr)
    (h : ¬SpelledAsHalf decorators) :
    ∃ member, functionMember name returns decorators = [member] ∧
      FunctionMember name returns decorators member := by
  have hproperty := contains_or_iff decorators "property" "cached_property"
  have hstatic := contains_or_iff decorators "staticmethod" "classmethod"
  rw [functionMember, if_neg fun hs => h (spelledAsHalf_iff.mp hs)]
  refine ⟨_, rfl, rfl, fun hp => if_pos (hproperty.mpr hp),
    fun hp => if_neg fun hc => hp (hproperty.mp hc), ?_, List.map_map, hstatic⟩
  cases returns <;> rfl

/-- Where being left out is not being a half, the function looks like one or replaces the first. -/
theorem left_out_iff (i : Nat) (hpart : functionMember name returns decorators = [] ↔
      SpelledAsHalf decorators) :
    (functionMember name returns decorators = [] ↔ IsHalf body i decorators) ↔
      ¬LooksLikeHalf body i decorators ∧ ¬ReplacesFirstHalf body i decorators := by
  rw [hpart]
  constructor
  · intro h
    refine ⟨fun hlooks => hlooks.2 (h.mp hlooks.1), fun hfirst => hfirst.2 (h.mpr ?_)⟩
    exact isHalf_iff.mpr (.inl hfirst.1)
  · rintro ⟨hlooks, hfirst⟩
    constructor
    · intro hs
      by_contra hn
      exact hlooks ⟨hs, hn⟩
    · intro hhalf
      rcases isHalf_iff.mp hhalf with hg | hsecond
      · by_contra hs
        exact hfirst ⟨hg, hs⟩
      · exact hsecond.spelledAsHalf

theorem functionPart (body : List Stmt) (i : Nat) (name : String) (returns : Option Expr)
    (decorators : List Expr) :
    FunctionPart body i name returns decorators (functionMember name returns decorators) where
  spelled := functionMember_of_spelled
  member := functionMember_of_not_spelled name returns
  second h := functionMember_of_spelled h.spelledAsHalf
  exact_iff := by
    refine left_out_iff i ⟨fun hnone => ?_, functionMember_of_spelled⟩
    by_contra hs
    obtain ⟨member, hsome, _⟩ := functionMember_of_not_spelled name returns hs
    cases hnone.symm.trans hsome

theorem kind_of_membersOf {fieldKind : MemberKind} {s : Stmt} (hs : ¬IsFunction s) {member : Member}
    (h : member ∈ membersOf fieldKind s) : member.kind = fieldKind := by
  unfold membersOf at h
  split at h
  · exact absurd ⟨_, _, _, _, _, _, _, rfl⟩ hs
  · rw [List.mem_singleton.mp h]
  · obtain ⟨target, _, h⟩ := List.mem_flatMap.mp h
    split at h
    · rw [List.mem_singleton.mp h]
    · cases h
  · cases h

theorem membersBy (fieldKind : MemberKind) (hk : fieldKind = .field ∨ fieldKind = .value)
    (body : List Stmt) :
    MembersBy body (body.flatMap (membersOf fieldKind)) (body.map (membersOf fieldKind)) where
  flatten := List.flatMap_def ..
  length_eq := List.length_map ..
  function {i span async name params returns decorators inner} h := by
    refine ⟨functionMember name returns decorators, ?_, functionPart ..⟩
    rw [List.getElem?_map, h]
    rfl
  other := by
    intro i s part hs hpart hnone member hm
    rw [List.getElem?_map, hs] at hpart
    cases hpart
    rw [kind_of_membersOf hnone hm]
    exact hk

/-- Every class has the members that its body gives it, statement by statement. -/
theorem classTypes_members (m : SourceModule) (containing : String) (span : Span) (name : String)
    (bases : List Expr) (keywords : List Keyword) (decorators : List Expr) (body : List Stmt) :
    ∃ ty rest parts, classTypes m containing (.class span name bases keywords decorators body) =
      ty :: rest ∧ ty.name = name ∧ MembersBy body ty.members parts := by
  refine ⟨_, _, _, classTypes.eq_1 .., rfl, membersBy _ ?_ body⟩
  split
  · exact .inr rfl
  · exact .inl rfl

/-! An example: a property with its halves, and a decorator that ends as theirs do. -/

def gaugeMethod (name : String) (decorator : Expr) : Stmt :=
  .function default false name (.mk [] [] none [] none) none [decorator] []

def gaugeAccessor (target accessor : String) : Expr :=
  .attribute default (.name default target) accessor

def gauge : List Stmt := [
  gaugeMethod "level" (.name default "property"),
  gaugeMethod "level" (gaugeAccessor "level" "setter"),
  gaugeMethod "level" (gaugeAccessor "level" "getter"),
  gaugeMethod "onRise" (gaugeAccessor "events" "setter")]

theorem classTypes_gauge : ∃ ty rest parts,
    classTypes garden "" (.class default "Gauge" [] [] [] gauge) = ty :: rest ∧
      ty.name = "Gauge" ∧ MembersBy gauge ty.members parts :=
  classTypes_members garden "" default "Gauge" [] [] [] gauge

example : (classTypes garden "" (.class default "Gauge" [] [] [] gauge)).map
    (fun ty => ty.members.map fun member => (member.name, member.kind, member.attributes)) =
      [[("level", .property, ["property"]), ("level", .method, ["getter"])]] := by
  decide +kernel

end Stencil.Model
