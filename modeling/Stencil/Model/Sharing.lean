import Stencil.Model.Symbol

/-!
Lists that several users hold at once. A list has a place, and a change to it is seen by all who
have the place. A model that is fixed makes a new list each time it is asked for a group; one that
is live hands out the list it holds. A combined model copies the list of sources it is made from,
and each time it is asked for a group it goes through its sources and makes a new list.
-/
namespace Stencil.Model.Sharing

/-- Lists in use, by place. A place stays in use once it is taken. -/
structure Cells (α : Type) where
  held : List (List α) := []

namespace Cells
variable {α : Type}

def size (m : Cells α) : Nat := m.held.length

def get (m : Cells α) (place : Nat) : List α := m.held[place]?.getD []

/-- A new list, at a place of its own. -/
def make (m : Cells α) (xs : List α) : Nat × Cells α := (m.size, ⟨m.held ++ [xs]⟩)

def edit (m : Cells α) (place : Nat) (f : List α → List α) : Cells α := ⟨m.held.modify place f⟩

end Cells

/-- A model of types, as those who use it hold it. -/
inductive Source where
  | fixed (groups : Groups)
  | live (lists : TypeKind → Nat)

namespace Source

/-- The place of the list a source hands out for a group. -/
def handOut (s : Source) (k : TypeKind) (m : Cells TypeSymbol) : Nat × Cells TypeSymbol :=
  match s with
  | .fixed g => m.make (g.get k)
  | .live lists => (lists k, m)

/-- What a group of a source holds now. -/
def contents (m : Cells TypeSymbol) (k : TypeKind) : Source → List TypeSymbol
  | .fixed g => g.get k
  | .live lists => m.get (lists k)

/-- The place is that of one of the source's own lists. -/
def Owns (s : Source) (place : Nat) : Prop :=
  match s with
  | .fixed _ => False
  | .live lists => ∃ k, lists k = place

/-- A source made from what it is to hold; a live one takes a new place for each group. -/
def create (m : Cells TypeSymbol) (s : ModelSource) : Source × Cells TypeSymbol :=
  if s.live then
    let classes := m.make s.groups.classes
    let interfaces := classes.2.make s.groups.interfaces
    let enums := interfaces.2.make s.groups.enums
    let delegates := enums.2.make s.groups.delegates
    (.live fun
      | .ordinary => classes.1
      | .interface => interfaces.1
      | .enum => enums.1
      | .delegate => delegates.1, delegates.2)
  else (.fixed s.groups, m)

end Source

/-- The types of a group in all sources: each is asked for its list, one after another. -/
def gather (k : TypeKind) : List Source → Cells TypeSymbol → List TypeSymbol × Cells TypeSymbol
  | [], m => ([], m)
  | s :: rest, m =>
    let (place, m) := s.handOut k m
    let (others, m') := gather k rest m
    (m.get place ++ others, m')

/-- Who is asked for a list: a source, by its number in the list the combined model was made
from, or the combined model. -/
inductive Giver where
  | source (number : Nat)
  | combined
  deriving DecidableEq, Repr

/-- A list as it was handed out, with the source it is from; none when it is from the combined
model. -/
structure Handle where
  place : Nat
  source : Option Source

structure World where
  lists : Cells TypeSymbol
  rosters : Cells Source
  /-- The list of sources the combined model was made from. -/
  given : Nat
  /-- The list of sources the combined model holds. -/
  own : Nat
  /-- Lists handed out earlier that someone still holds. -/
  kept : List Handle := []

abbrev Edit := List TypeSymbol → List TypeSymbol

def Edit.append (t : TypeSymbol) : Edit := fun ts => ts ++ [t]
def Edit.clear : Edit := fun _ => []

inductive Change where
  /-- Asks for a list and changes it. -/
  | edit (g : Giver) (k : TypeKind) (f : Edit)
  /-- Asks for a list and holds it for later. -/
  | keep (g : Giver) (k : TypeKind)
  /-- Changes a list held from earlier. -/
  | editKept (number : Nat) (f : Edit)
  /-- Adds to the list of sources the combined model was made from. -/
  | addSource (s : ModelSource)

namespace World

def givenSources (w : World) : List Source := w.rosters.get w.given

def sources (w : World) : List Source := w.rosters.get w.own

def sourceCount (w : World) : Nat := w.sources.length

/-- The list that is handed out; nothing when there is no such source. -/
def ask? (w : World) (g : Giver) (k : TypeKind) : Option (Handle × World) :=
  match g with
  | .source i => w.givenSources[i]?.map fun s =>
    let (place, m) := s.handOut k w.lists
    (⟨place, some s⟩, { w with lists := m })
  | .combined =>
    let (ts, m) := gather k w.sources w.lists
    let (place, m) := m.make ts
    some (⟨place, none⟩, { w with lists := m })

/-- What is found in a list that is asked for. -/
def read? (w : World) (g : Giver) (k : TypeKind) : Option (List TypeSymbol) :=
  (w.ask? g k).map fun (h, w) => w.lists.get h.place

/-- What is found in a group of the combined model. -/
def group (w : World) (k : TypeKind) : List TypeSymbol := (w.read? .combined k).getD []

def groups (w : World) : Groups :=
  ⟨w.group .ordinary, w.group .interface, w.group .enum, w.group .delegate⟩

def edit (w : World) (h : Handle) (f : Edit) : World :=
  { w with lists := w.lists.edit h.place f }

def keep (w : World) (h : Handle) : World := { w with kept := w.kept ++ [h] }

def addSource (w : World) (s : ModelSource) : World :=
  let (s, m) := Source.create w.lists s
  { w with lists := m, rosters := w.rosters.edit w.given (· ++ [s]) }

/-- The world after a change; nothing when a source or a list it names is not there. -/
def step? (w : World) : Change → Option World
  | .edit g k f => (w.ask? g k).map fun (h, w) => w.edit h f
  | .keep g k => (w.ask? g k).map fun (h, w) => w.keep h
  | .editKept n f => w.kept[n]?.map fun h => w.edit h f
  | .addSource s => some (w.addSource s)

/-- A change that fails leaves everything as it was. -/
def step (w : World) (c : Change) : World := (w.step? c).getD w

def run (w : World) (cs : List Change) : World := cs.foldl step w

end World

/-- The lists in use and the sources a combined model is to be made from; each list a source
holds is in use. Two sources may hold the same list. -/
structure Start where
  lists : Cells TypeSymbol := {}
  sources : List Source := []
  inUse : ∀ s ∈ sources, ∀ place, s.Owns place → place < lists.size

/-- A combined model is made: it keeps a copy of the list of sources. -/
def World.combine (start : Start) : World :=
  let rosters : Cells Source := {}
  let (given, rosters) := rosters.make start.sources
  let (own, rosters) := rosters.make (rosters.get given)
  { lists := start.lists, rosters, given, own }

namespace Cells
variable {α : Type}

@[simp] theorem size_make (m : Cells α) (xs : List α) : (m.make xs).2.size = m.size + 1 := by
  simp [make, size]

@[simp] theorem place_make (m : Cells α) (xs : List α) : (m.make xs).1 = m.size := rfl

end Cells

theorem Source.size_create (m : Cells TypeSymbol) (s : ModelSource) :
    (create m s).2.size = if s.live then m.size + 4 else m.size := by
  unfold create
  split <;> simp

/-- The lists of a new source are new. -/
theorem Source.owns_create {m : Cells TypeSymbol} {s : ModelSource} {place : Nat}
    (h : (create m s).1.Owns place) : m.size ≤ place ∧ place < (create m s).2.size := by
  rw [size_create]
  unfold create at h
  split at h
  case isTrue live =>
    obtain ⟨k, rfl⟩ := h
    rw [if_pos live]
    cases k <;> simp only [Cells.place_make, Cells.size_make] <;> omega
  case isFalse => exact h.elim

/-- One more source, with lists of its own. -/
def Start.add (start : Start) (s : ModelSource) : Start where
  lists := (Source.create start.lists s).2
  sources := start.sources ++ [(Source.create start.lists s).1]
  inUse := by
    intro x hx place ho
    rcases List.mem_append.1 hx with hx | hx
    · have := start.inUse x hx place ho
      have := Source.size_create start.lists s
      split at this <;> omega
    · obtain rfl := List.mem_singleton.1 hx
      exact (Source.owns_create ho).2

def Start.ofModels (ss : List ModelSource) : Start := ss.foldl add ⟨{}, [], by simp⟩

end Stencil.Model.Sharing
