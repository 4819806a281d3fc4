import Stencil.Script.Text
import Stencil.Template.Value.Methods

/-!
The items of values: equality, going through items, membership, and the items under keys. Classes
may say for their instances what these mean.
-/
namespace Stencil.Script
open Stencil.Text
open Stencil.Template (Value Actuals)

/-! Equality. -/

/-- Whether a special method decided. -/
private def decided? (run : Run) (r : Option Value) : Eval (Option Bool) := do
  match r with
  | none => return none
  | some v =>
    match ← thing? v with
    | some (.single "NotImplemented") => return none
    | _ => return some (← truthOf run v)

private def setItems? (v : Value) : Eval (Option (List Value)) := do
  match ← thing? v with
  | some (.set items _) => return some items
  | _ => return none

private def equalPlain (a b : Value) : Eval Bool := do
  lift (Template.Value.equal (← present a) (← present b))

/-- Whether items hold a value. -/
def holds (x : Value) : List Value → Eval Bool
  | [] => return false
  | v :: rest => do
    if ← equalPlain v x then return true else holds x rest

/-- Whether all of some items are among others. -/
def within (xs ys : List Value) : Eval Bool := xs.allM fun x => holds x ys

/-- Whether two values are equal. -/
def equalOf (run : Run) (a b : Value) : Eval Bool := do
  match ← decided? run (← callSpecial? run a "__eq__" [b]) with
  | some r => return r
  | none =>
    match ← decided? run (← callSpecial? run b "__eq__" [a]) with
    | some r => return r
    | none =>
      match ← setItems? a, ← setItems? b with
      | some xs, some ys =>
        return xs.length == ys.length && (← within xs ys)
      | _, _ => equalPlain a b

/-- Whether two values are one and the same. -/
def sameAs (a b : Value) : Eval Bool := do
  match a, b with
  | .list _ p, .list _ q | .dict _ p, .dict _ q => return p.isSome && p == q
  | .object p _ _, .object q _ _ => return p == q
  | a, b => return a.kindName == b.kindName && (← equalPlain a b)

/-- Refuses values that cannot be keys. -/
def checkKey (v : Value) : Eval PUnit := do
  match ← instance? v with
  | some i =>
    let m ← get
    if (m.attribute? i.key "__eq__").isSome && (m.attribute? i.key "__hash__").isNone then
      typeError ("unhashable type: " ++ quoted (m.className i.key))
  | none =>
    let _ ← lift (← present v).checkKey
    return

/-- Items without those that are equal to one before; all have to be fit for keys. -/
def distinct (items : List Value) : Eval (List Value) :=
  items.foldlM (fun done v => do
    checkKey v
    if ← holds v done then return done else return done ++ [v]) []

/-! Going through items. -/

def notIterable {α : Type} (v : Value) : Eval α :=
  typeError (quoted v.kindName ++ " object is not iterable")

private def iteratorKind : Value → String
  | .list .. => "list_iterator"
  | .tuple _ => "tuple_iterator"
  | .str _ => "str_iterator"
  | .bytes _ => "bytes_iterator"
  | .range .. => "range_iterator"
  | .view .values .. => "dict_valueiterator"
  | .view .items .. => "dict_itemiterator"
  | _ => "dict_keyiterator"

/-- The greatest number of rounds that a loop takes. -/
def maxRounds : Nat := 1000000

/-- What an instance gives for the numbers from one on, until it has no more. -/
private def byNumber (run : Run) (getItem : Value) : Nat → Nat → Eval (List Value)
  | 0, _ => return []
  | fuel + 1, n => do
    match ← orOn "IndexError" (some <$> run.call getItem (.ofList [.int n])) (pure none) with
    | none => return []
    | some v => return v :: (← byNumber run getItem fuel (n + 1))

/-- The iterator over the items of a value. -/
def iterate (run : Run) (v : Value) : Eval Value := do
  match v with
  | .class _ => notIterable v
  | v =>
    match ← thing? v with
    | some (.iterator _) => return v
    | some .foreign => newIterator "object" (.fixed [])
    | some (.set items _) => newIterator "set_iterator" (.fixed items)
    | some (.instance i) =>
      match ← callSpecial? run v "__iter__" [], ← special? run v "__getitem__" with
      | some it, _ =>
        match ← thing? it, ← special? run it "__next__" with
        | some (.iterator _), _ | some .foreign, _ | _, some _ => return it
        | _, none =>
          typeError ("iter() returned non-iterator of type " ++ quoted it.kindName)
      | none, some getItem =>
        newIterator "iterator" (.fixed (← byNumber run getItem maxRounds 0))
      | none, none =>
        if (← get).isOpen i.key then newIterator "object" (.fixed [])
        else notIterable v
    | some _ => notIterable v
    | none =>
      let now ← surface v
      let items ← lift now.items
      match v with
      | .list .. | .dict .. | .view .. =>
        newIterator (iteratorKind v) (.along v 0 items.length)
      | v => newIterator (iteratorKind v) (.fixed items)

private def drain (run : Run) (iterator : Value) : Nat → List Value → Eval (List Value)
  | 0, _ => raise "MemoryError" ""
  | fuel + 1, taken => do
    match ← run.next iterator with
    | some v => drain run iterator fuel (v :: taken)
    | none => return taken.reverse

/-- The items of a value. -/
def itemsOf (run : Run) (v : Value) : Eval (List Value) := do
  match v with
  | .list .. | .tuple _ | .dict .. | .str _ => lift (← surface v).items
  | v => drain run (← iterate run v) maxRounds []

/-- Lists in place of values that only this language has and that have items. -/
def listed (run : Run) (v : Value) : Eval Value := do
  match ← thing? v with
  | some (.iterator _) | some (.set ..) | some .foreign => settled (.ofList (← itemsOf run v))
  | some (.instance _) =>
    match ← special? run v "__iter__", ← special? run v "__getitem__" with
    | none, none => return v
    | _, _ => settled (.ofList (← itemsOf run v))
  | _ => return v

private def holdsNext (run : Run) (iterator x : Value) : Nat → Eval Bool
  | 0 => return false
  | fuel + 1 => do
    match ← run.next iterator with
    | none => return false
    | some v => if ← equalOf run v x then return true else holdsNext run iterator x fuel

/-- Whether a container holds a value. -/
def contains (run : Run) (container x : Value) : Eval Bool := do
  let refuse : Eval Bool :=
    typeError ("argument of type " ++ quoted container.kindName ++ " is not iterable")
  match container with
  | .class _ => typeError "argument of type 'type' is not iterable"
  | container =>
    match ← thing? container with
    | none => lift ((← present container).contains (← present x))
    | some (.set items _) =>
      checkKey x
      holds x items
    | some (.iterator _) => holdsNext run container x maxRounds
    | some (.instance _) =>
      match ← callSpecial? run container "__contains__" [x] with
      | some r => truthOf run r
      | none =>
        match ← special? run container "__iter__", ← special? run container "__getitem__" with
        | none, none => refuse
        | _, _ => holdsNext run (← iterate run container) x maxRounds
    | some _ => refuse

/-! Items under keys. -/

private def placeIn (what others : String) (size : Nat) (key : Value) : Eval Nat := do
  match key.asInt? with
  | some n =>
    match Template.Value.placeOf? size n with
    | some place => return place
    | none => raise "IndexError" (what ++ " out of range")
  | none => typeError (others ++ key.kindName)

def notSubscriptable {α : Type} (v : Value) : Eval α :=
  typeError (quoted v.kindName ++ " object is not subscriptable")

private def generic : List String :=
  ["list", "dict", "tuple", "set", "frozenset", "type", "enumerate", "BaseExceptionGroup",
    "ExceptionGroup"]

private def classItem (run : Run) (key : String) (item : Value) : Eval Value := do
  let m ← get
  match m.attribute? key "__class_getitem__" with
  | some f =>
    let f := match ← thing? f with
      | some (.classBound f) => f
      | _ => f
    run.call f (.ofList [.class key, item])
  | none =>
    if m.isOpen key || (m.order key).any generic.contains then return foreign
    else typeError ("type " ++ quoted (m.className key) ++ " is not subscriptable")

private def plainItem (v key : Value) : Eval Value := do
  match ← surface v with
  | .dict entries _ =>
    checkKey key
    match ← lift (Value.valueOf? entries (← present key)) with
    | some v => return v
    | none => noKey key
  | .list items _ =>
    let n ← placeIn "list index" "list indices must be integers or slices, not " items.length key
    return items.getD n .none
  | .tuple items =>
    let n ← placeIn "tuple index" "tuple indices must be integers or slices, not " items.length key
    return items.getD n .none
  | .str s =>
    match key.asInt? with
    | some _ =>
      let n ← placeIn "string index" "" s.length key
      return .str (.ofList ((s.toList.drop n).take 1))
    | none => typeError ("string indices must be integers, not " ++ quoted key.kindName)
  | .bytes content =>
    let n ← placeIn "index" "byte indices must be integers or slices, not " content.length key
    return .int (content.getD n 0).toNat
  | .range start stop step =>
    let n ← placeIn "range object index" "range indices must be integers or slices, not "
      (Value.rangeLength start stop step) key
    return .int (start + step * n)
  | v => notSubscriptable v

/-- The item of a value under a key. -/
def itemOf (run : Run) (v key : Value) : Eval Value := do
  match v with
  | .class k => classItem run k key
  | v =>
    match ← thing? v with
    | some .foreign => return foreign
    | some (.instance i) =>
      match ← callSpecial? run v "__getitem__" [key] with
      | some item => return item
      | none => if (← get).isOpen i.key then return foreign else notSubscriptable v
    | some _ => notSubscriptable v
    | none => if isForeign key then return foreign else plainItem v key

/-- A part of a value, from one place to another by steps. -/
def sliceOf (run : Run) (v lower upper step : Value) : Eval Value := do
  match v with
  | .class k => classItem run k foreign
  | v =>
    match ← thing? v with
    | some .foreign => return foreign
    | some (.instance i) =>
      match ← callSpecial? run v "__getitem__" [foreign] with
      | some item => return item
      | none => if (← get).isOpen i.key then return foreign else notSubscriptable v
    | some _ => notSubscriptable v
    | none => computed ((← surface v).slice lower upper step)

/-! Changing items. -/

private def noAssignment {α : Type} (v : Value) : Eval α :=
  typeError (quoted v.kindName ++ " object does not support item assignment")

/-- Sequences and instances refuse a number in words of their own. -/
private def noDeletion {α : Type} (v key : Value) : Eval α := do
  let m ← get
  let isOrdered := match v, m.thing? v with
    | .tuple _, _ | .str _, _ | .bytes _, _ | .range .., _ | .view .., _ => true
    | _, some (.set ..) => true
    | _, some (.instance i) => ((m.class? i.key).map (·.own)).getD true
    | _, _ => false
  typeError (quoted v.kindName ++ " object " ++
    (if isOrdered && key.asInt?.isSome then "doesn't" else "does not") ++ " support item deletion")

private def listPlace (items : List Value) (key : Value) : Eval Nat :=
  placeIn "list assignment index" "list indices must be integers or slices, not " items.length key

/-- Puts a value under a key of a dict or list. -/
def setItem (run : Run) (v key value : Value) : Eval PUnit := do
  match ← thing? v with
  | some .foreign => return
  | some (.instance i) =>
    match ← callSpecial? run v "__setitem__" [key, value] with
    | some _ => return
    | none => if (← get).isOpen i.key then return else noAssignment v
  | some _ => noAssignment v
  | none =>
    match v, ← surface v with
    | .class _, _ => typeError "'type' object does not support item assignment"
    | v, .dict entries _ =>
      checkKey key
      setContent v (.ofEntries (← lift (Value.putEntry entries (← present key) value)))
    | v, .list items _ => setContent v (.ofList (items.set (← listPlace items key) value))
    | v, _ => noAssignment v

private def replaceFrom (start : Nat) (count : Nat) (with_ items : List Value) : List Value :=
  items.take start ++ with_ ++ items.drop (start + count)

private def setPlaces : List Nat → List Value → List Value → List Value
  | p :: ps, v :: vs, items => setPlaces ps vs (items.set p v)
  | _, _, items => items

/-- Puts items in place of a part of a list. -/
def setSlice (run : Run) (v lower upper step value : Value) : Eval PUnit := do
  match ← thing? v, ← surface v with
  | some .foreign, _ => return
  | none, .list items _ =>
    let new ← orOn "TypeError" (itemsOf run value) (typeError "can only assign an iterable")
    let places ← lift (Value.slicePlaces items.length lower upper step)
    let (start, stop, stride) ← lift (Value.sliceRange items.length lower upper step)
    if stride == 1 then
      setContent v (.ofList (replaceFrom start.toNat (stop - start).toNat new items))
    else if places.length != new.length then
      raise "ValueError" ("attempt to assign sequence of size " ++ ofNat new.length ++
        " to extended slice of size " ++ ofNat places.length)
    else setContent v (.ofList (setPlaces places new items))
  | none, .dict .. => typeError "unhashable type: 'slice'"
  | _, _ => noAssignment v

/-- Takes away what is under a key. -/
def deleteItem (run : Run) (v key : Value) : Eval PUnit := do
  match ← thing? v with
  | some .foreign => return
  | some (.instance i) =>
    match ← callSpecial? run v "__delitem__" [key] with
    | some _ => return
    | none => if (← get).isOpen i.key then return else noDeletion v key
  | some _ => noDeletion v key
  | none =>
    match v, ← surface v with
    | .class _, _ => typeError "'type' object does not support item deletion"
    | v, .dict entries _ =>
      checkKey key
      let k ← present key
      match ← lift (Value.valueOf? entries k) with
      | none => noKey key
      | some _ =>
        let rest ← entries.filterM fun e => do return !(← equalPlain e.1 k)
        setContent v (.ofEntries rest)
    | v, .list items _ => setContent v (.ofList (items.eraseIdx (← listPlace items key)))
    | v, _ => noDeletion v key

/-- Takes away a part of a list. -/
def deleteSlice (v lower upper step : Value) : Eval PUnit := do
  match ← thing? v, ← surface v with
  | some .foreign, _ => return
  | none, .list items _ =>
    let places ← lift (Value.slicePlaces items.length lower upper step)
    let kept := items.zipIdx.filter fun e => !places.contains e.2
    setContent v (.ofList (kept.map Prod.fst))
  | none, .dict .. => typeError "unhashable type: 'slice'"
  | _, _ => noDeletion v foreign

/-! Unpacking. -/

/-- The items of a value that several targets take. -/
def itemsToUnpack (run : Run) (v : Value) : Eval (List Value) := do
  let refuse : Eval (List Value) := do
    typeError ("cannot unpack non-iterable " ++ v.kindName ++ " object")
  match v with
  | .class _ => refuse
  | v =>
    match ← thing? v with
    | some (.iterator _) | some (.set ..) => itemsOf run v
    | some (.instance i) =>
      match ← special? run v "__iter__", ← special? run v "__getitem__" with
      | none, none => if (← get).isOpen i.key then return [] else refuse
      | _, _ => itemsOf run v
    | some _ => refuse
    | none =>
      match (← surface v).items with
      | .ok items => return items
      | .error _ => refuse

end Stencil.Script
