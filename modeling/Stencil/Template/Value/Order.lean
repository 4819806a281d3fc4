import Stencil.Decimal.Binary
import Stencil.Template.Value.Listing

/-!
Comparing values: equality, order, membership, and which values may be keys. Numbers of all kinds
compare by size; a missing value takes part in no comparison.
-/
namespace Stencil.Template
open Stencil.Text

/-- A number: whole, or floating. -/
inductive Number where
  | whole (n : Int)
  | floating (x : Float)

def Number.order? : Number → Number → Option Ordering
  | .whole a, .whole b => some (compare a b)
  | .floating x, .whole b => Decimal.compareInt x b
  | .whole a, .floating y => (Decimal.compareInt y a).map Ordering.swap
  | .floating x, .floating y =>
    if x < y then some .lt else if y < x then some .gt else if x == y then some .eq else none

namespace Value

def asNumber? : Value → Option Number
  | bool b => some (.whole (if b then 1 else 0))
  | int n => some (.whole n)
  | float x => some (.floating x)
  | _ => Option.none

/-- The items of a fixed sequence. -/
def asTuple? : Value → Option (List Value)
  | tuple items => some items
  | group key items place => some [key, list items place]
  | _ => Option.none

/-- The number of items of a range. -/
def rangeLength (start stop step : Int) : Nat :=
  if step > 0 then ((stop - start + step - 1) / step).toNat
  else if step < 0 then ((start - stop - step - 1) / (-step)).toNat
  else 0

mutual

/-- How deep containers nest in a value. -/
def depth : Value → Nat
  | tuple items | list items _ => depthOfItems items + 1
  | group key items _ => max (depth key) (depthOfItems items) + 2
  | dict entries _ | view _ entries _ => depthOfEntries entries + 1
  | record _ fields _ => depthOfFields fields + 1
  | _ => 0

def depthOfItems : List Value → Nat
  | [] => 0
  | v :: rest => max (depth v) (depthOfItems rest)

def depthOfEntries : List (Value × Value) → Nat
  | [] => 0
  | (k, v) :: rest => max (max (depth k) (depth v)) (depthOfEntries rest)

def depthOfFields : List (String × Value) → Nat
  | [] => 0
  | (_, v) :: rest => max (depth v) (depthOfFields rest)

end

/-- Where the content of a value is kept, for a value that has content of its own. -/
def place? : Value → Place
  | list _ p | dict _ p | record _ _ p => p
  | object p .. => some p
  | _ => Option.none

private def isOne (p q : Place) : Bool := p.isSome && p == q

private def rangesEqual (i j k l m n : Int) : Bool :=
  let size := rangeLength i j k
  size == rangeLength l m n && (size == 0 || (i == l && (size == 1 || k == n)))

private def sameFunction (f g : UserFunction) : Bool :=
  f.shown == g.shown && f.body == g.body && f.bound == g.bound

/-- Equality of values that are no containers. -/
private def equalPlain (a b : Value) : Bool :=
  match a.asNumber?, b.asNumber? with
  | some m, some n => m.order? n == some .eq
  | _, _ =>
    match a.asText?, b.asText? with
    | some s, some t => s == t
    | _, _ =>
      match a, b with
      | none, none => true
      | bytes x, bytes y => x == y
      | range i j k, range l m n => rangesEqual i j k l m n
      | model s, model t => decide (s = t)
      | builtin x, builtin y => x == y
      | .class x, .class y => x == y
      | object i .., object j .. => i == j
      | complex x y, complex u v => x == u && y == v
      | complex x y, b => y == 0.0 && ((b.asNumber?.bind (·.order? (.floating x))) == some .eq)
      | a, complex u v => v == 0.0 && ((a.asNumber?.bind (·.order? (.floating u))) == some .eq)
      | function f, function g => sameFunction f g
      | _, _ => false

/-- Items compare in order until two differ. -/
def equalItems (eq : Value → Value → Outcome Bool) : List Value → List Value → Outcome Bool
  | [], [] => .ok true
  | x :: xs, y :: ys => do
    if ← eq x y then equalItems eq xs ys else return false
  | _, _ => .ok false

/-- The first entry with a key. -/
def findEntry (eq : Value → Value → Outcome Bool) (key : Value) :
    List (Value × Value) → Outcome (Option Value)
  | [] => .ok Option.none
  | (k, v) :: rest => do
    if ← eq k key then return some v else findEntry eq key rest

private def equalEntries (eq : Value → Value → Outcome Bool) (withValues : Bool)
    (ys : List (Value × Value)) : List (Value × Value) → Outcome Bool
  | [] => .ok true
  | (k, v) :: rest => do
    match ← findEntry eq k ys with
    | Option.none => return false
    | some w =>
      let same ← if withValues then eq v w else pure true
      if same then equalEntries eq withValues ys rest else return false

private def equalStep (eq : Value → Value → Outcome Bool) (a b : Value) : Outcome Bool :=
  let entries (withValues : Bool) (xs ys : List (Value × Value)) :=
    if xs.length != ys.length then .ok false else equalEntries eq withValues ys xs
  match a, b with
  | missing m false, _ => failMissing m
  | _, missing m false => failMissing m
  | missing _ true, missing _ true => .ok true
  | missing .., _ => .ok false
  | _, missing .. => .ok false
  | list xs p, list ys q => if isOne p q then .ok true else equalItems eq xs ys
  | dict xs p, dict ys q => if isOne p q then .ok true else entries true xs ys
  | record k xs p, record l ys q =>
    if isOne p q then .ok true
    else if k != l then .ok false
    else entries true (xs.map fun (n, v) => (str n, v)) (ys.map fun (n, v) => (str n, v))
  | view .keys xs _, view .keys ys _ => entries false xs ys
  | view .items xs _, view .items ys _ => entries true xs ys
  | a, b =>
    match a.asTuple?, b.asTuple? with
    | some xs, some ys => equalItems eq xs ys
    | _, _ => .ok (equalPlain a b)

private def equalWithin : Nat → Value → Value → Outcome Bool
  | 0 => equalStep fun a b => .ok (equalPlain a b)
  | fuel + 1 => equalStep (equalWithin fuel)

def equal (a b : Value) : Outcome Bool := equalWithin (max a.depth b.depth) a b

/-! Order. -/

inductive OrderOp where
  | lt | le | gt | ge
  deriving DecidableEq, Repr

def OrderOp.symbol : OrderOp → String
  | .lt => "<"
  | .le => "<="
  | .gt => ">"
  | .ge => ">="

def OrderOp.holds (op : OrderOp) (o : Ordering) : Bool :=
  match op, o with
  | .lt, .lt | .le, .lt | .le, .eq | .gt, .gt | .ge, .gt | .ge, .eq => true
  | _, _ => false

private def orderItems (op : OrderOp) (cmp : Value → Value → Outcome Bool) :
    List Value → List Value → Outcome Bool
  | x :: xs, y :: ys => do
    if ← equal x y then orderItems op cmp xs ys else cmp x y
  | [], [] => .ok (op.holds .eq)
  | [], _ :: _ => .ok (op.holds .lt)
  | _ :: _, [] => .ok (op.holds .gt)

private def orderStep (op : OrderOp) (cmp : Value → Value → Outcome Bool) (a b : Value) :
    Outcome Bool :=
  let refuse : Outcome Bool :=
    typeError (quoted op.symbol ++ " not supported between instances of " ++
      quoted a.kindName ++ " and " ++ quoted b.kindName)
  match a, b with
  | missing m _, _ => failMissing m
  | _, missing m _ => failMissing m
  | list xs _, list ys _ => orderItems op cmp xs ys
  | bytes xs, bytes ys => .ok (op.holds (compare xs ys))
  | _, _ =>
    match a.asNumber?, b.asNumber? with
    | some m, some n => .ok (((m.order? n).map op.holds).getD false)
    | _, _ =>
      match a.asText?, b.asText? with
      | some s, some t => .ok (op.holds (compare s t))
      | _, _ =>
        match a.asTuple?, b.asTuple? with
        | some xs, some ys => orderItems op cmp xs ys
        | _, _ => refuse

private def orderWithin (op : OrderOp) : Nat → Value → Value → Outcome Bool
  | 0 => orderStep op fun _ _ => .ok false
  | fuel + 1 => orderStep op (orderWithin op fuel)

def ordered (op : OrderOp) (a b : Value) : Outcome Bool :=
  orderWithin op (max a.depth b.depth) a b

/-! Keys. -/

private def refuseKey (v : Value) : Outcome Unit :=
  typeError ("unhashable type: " ++ quoted v.kindName)

mutual

/-- Refuses values that cannot be keys. -/
def checkKey : Value → Outcome Unit
  | missing m lenient => if lenient then .ok () else failMissing m
  | tuple items => checkKeys items
  | list items p => refuseKey (list items p)
  | dict entries p => refuseKey (dict entries p)
  | group .. => refuseKey (ofList [])
  | view part entries p => refuseKey (view part entries p)
  | record kind fields p => refuseKey (record kind fields p)
  | object p (.item "set") shown => refuseKey (object p (.item "set") shown)
  | _ => .ok ()

def checkKeys : List Value → Outcome Unit
  | [] => .ok ()
  | v :: rest => do
    checkKey v
    checkKeys rest

end

/-- The value under a key. -/
def valueOf? (entries : List (Value × Value)) (key : Value) : Outcome (Option Value) := do
  checkKey key
  findEntry equal key entries

/-- Puts a value under a key, which keeps its place. -/
def putEntry (entries : List (Value × Value)) (key value : Value) :
    Outcome (List (Value × Value)) := do
  checkKey key
  go entries
where
  go : List (Value × Value) → Outcome (List (Value × Value))
    | [] => .ok [(key, value)]
    | (k, v) :: rest => do
      if ← equal k key then return (k, value) :: rest
      else return (k, v) :: (← go rest)

/-- Builds a dict; of equal keys the first gives the place and the last the value. -/
def dictOf (pairs : List (Value × Value)) : Outcome (List (Value × Value)) :=
  pairs.foldlM (fun entries (k, v) => putEntry entries k v) []

def entryNamed? (entries : List (Value × Value)) (name : String) : Option Value :=
  (entries.find? fun e => e.1.asText? == some name).map Prod.snd

/-! Membership. -/

private def holds (x : Value) : List Value → Outcome Bool
  | [] => .ok false
  | v :: rest => do
    if ← equal x v then return true else holds x rest

/-- Membership of items. -/
def memberOf (x : Value) (items : List Value) : Outcome Bool := holds x items

/-- Whether a text occurs in a text. -/
def textContains (part whole : String) : Bool := (indexOf? whole.toList part.toList).isSome

end Value
/-!
Sorting with a comparison that can fail. The sort is stable; it takes the ascending or strictly
descending run at the start and inserts the items after it one by one, so the first comparison
that fails is between the first items that do not compare.
-/

namespace Sorting

/-- An item and the value it is sorted by. -/
structure Keyed (α : Type) where
  key : Value
  item : α

variable {α : Type}

private def less (a b : Keyed α) : Outcome Bool := Value.ordered .lt a.key b.key

/-- The length of the run at the start of the items after `last`. -/
private def runAfter (descending : Bool) (last : Keyed α) : List (Keyed α) → Outcome Nat
  | [] => .ok 0
  | x :: rest => do
    if (← less x last) == descending then return (← runAfter descending x rest) + 1
    else return 0

/-- Where an item goes in a sorted array: behind all items that are not greater. -/
private def placeIn (xs : Array (Keyed α)) (x : Keyed α) : Nat → Nat → Nat → Outcome Nat
  | 0, lo, _ => .ok lo
  | fuel + 1, lo, hi =>
    if lo < hi then
      let mid := (lo + hi) / 2
      match xs[mid]? with
      | none => .ok lo
      | some y => do
        if ← less x y then placeIn xs x fuel lo mid else placeIn xs x fuel (mid + 1) hi
    else .ok lo

private def insertAll (xs : Array (Keyed α)) : List (Keyed α) → Outcome (Array (Keyed α))
  | [] => .ok xs
  | x :: rest => do
    let i ← placeIn xs x (xs.size + 1) 0 xs.size
    insertAll ((xs.extract 0 i).push x ++ xs.extract i xs.size) rest

private def ascending : List (Keyed α) → Outcome (List (Keyed α))
  | x :: y :: rest => do
    let descending ← less y x
    let n := (← runAfter descending y rest) + 2
    let run := (x :: y :: rest).take n
    let run := if descending then run.reverse else run
    return (← insertAll run.toArray ((x :: y :: rest).drop n)).toList
  | xs => .ok xs

/-- The items in the order of their keys. -/
def byKey (reverse : Bool) (xs : List (Keyed α)) : Outcome (List α) := do
  let sorted ← if reverse then List.reverse <$> ascending xs.reverse else ascending xs
  return sorted.map (·.item)

end Sorting

/-- Values in order. -/
def sortValues (reverse : Bool) (vs : List Value) : Outcome (List Value) :=
  Sorting.byKey reverse (vs.map fun v => ⟨v, v⟩)

end Stencil.Template
