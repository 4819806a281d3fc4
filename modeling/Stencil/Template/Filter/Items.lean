import Stencil.Template.Access
import Stencil.Template.Value.Methods

/-!
Filters that take items as a whole: ordering, grouping, joining and adding. A key for the items is
an attribute path; texts are compared without regard to case unless asked otherwise.
-/
namespace Stencil.Template.Filter
open Stencil.Text
open Eval (lift)

/-- A value to compare by. -/
def foldCase (sensitive : Bool) (v : Value) : Value :=
  if sensitive then v
  else match v with
    | .markup s => .markup (lower s)
    | v => (v.asText?.map fun s => Value.str (lower s)).getD v

def flagOf (b : Bound) (name : String) (default : Bool) : Eval Bool :=
  truthOf (b.get name (.bool default))

/-- The key of an item under one path. -/
def keyOf (run : Run) (sensitive : Bool) (default path v : Value) : Eval Value := do
  return foldCase sensitive (← present (← follow run default (pathOf path) v))

/-- The key of an item under several paths between commas. -/
def keysOf (run : Run) (sensitive : Bool) (paths v : Value) : Eval Value := do
  let ps := match paths.asText? with
    | some s => (splitOnChar ',' s.toList).map fun p => Value.str (.ofList p)
    | none => [paths]
  return .ofList (← ps.mapM fun p => keyOf run sensitive .none p v)

def keyed (key : Value → Eval Value) (vs : List Value) :
    Eval (List (Sorting.Keyed Value)) :=
  vs.mapM fun v => do return ⟨← key v, v⟩

def sorted (run : Run) (v : Value) (b : Bound) : Eval Value := do
  let sensitive ← flagOf b "case_sensitive" false
  let reverse ← flagOf b "reverse" false
  let vs ← itemsOf run v
  return .ofList (← lift (Sorting.byKey reverse
    (← keyed (keysOf run sensitive (b.get "attribute" .none)) vs)))

/-- Runs of items with equal keys. -/
def runs : List (Sorting.Keyed Value) → Outcome (List (Value × List Value))
  | [] => .ok []
  | x :: rest => do
    match ← runs rest with
    | (k, vs) :: more =>
      if ← Value.equal x.key k then return (x.key, x.item :: vs) :: more
      else return (x.key, [x.item]) :: (k, vs) :: more
    | [] => return [(x.key, [x.item])]

def grouped (run : Run) (v : Value) (b : Bound) : Eval Value := do
  let sensitive ← flagOf b "case_sensitive" false
  let path := b.get "attribute" .none
  let default := b.get "default" .none
  let vs ← itemsOf run v
  let pairs ← keyed (keyOf run sensitive default path) vs
  let inOrder ← lift (Sorting.byKey false (pairs.map fun x => ⟨x.key, x⟩))
  let groups ← lift (runs inOrder)
  return .ofList (← groups.mapM fun (k, items) => do
    let key ← match sensitive, items with
      | false, first :: _ => keyOf run true default path first
      | _, _ => pure k
    return .group key items none)

/-- The first item that no other one precedes. -/
def extreme (op : Value.OrderOp) (best : Sorting.Keyed Value) :
    List (Sorting.Keyed Value) → Outcome Value
  | [] => .ok best.item
  | x :: rest => do
    if ← Value.ordered op x.key best.key then extreme op x rest else extreme op best rest

def extremum (run : Run) (op : Value.OrderOp) (v : Value) (b : Bound) : Eval Value := do
  let sensitive ← flagOf b "case_sensitive" false
  match ← itemsOf run v with
  | [] => return .missing "No aggregated item, sequence was empty." false
  | vs =>
    match ← keyed (keyOf run sensitive .none (b.get "attribute" .none)) vs with
    | x :: rest => lift (extreme op x rest)
    | [] => return .none

/-- The items of a value, or what a path leads to from each. -/
def parts (run : Run) (path v : Value) : Eval (List Value) := do
  let vs ← itemsOf run v
  match path with
  | .none => return vs
  | path => vs.mapM (follow run .none (pathOf path))

def total (run : Run) (v : Value) (b : Bound) : Eval Value := do
  let start := b.get "start" (.int 0)
  let vs ← parts run (b.get "attribute" .none) v
  match start with
  | .bytes _ => lift (typeError "sum() can't sum bytes [use b''.join(seq) instead]")
  | start =>
    if start.asText?.isSome then
      lift (typeError "sum() can't sum strings [use ''.join(seq) instead]")
    else
      let s ← get
      lift (vs.foldlM (fun sum v => Value.binary .add sum (s.present v)) start)

def joined (run : Run) (escape : Bool) (v : Value) (b : Bound) : Eval Value := do
  let sep := b.get "d" (.str "")
  let vs ← parts run (b.get "attribute" .none) v
  if !escape then
    let mark ← textOf run sep
    return .str (joinWith mark (← vs.mapM (textOf run)))
  let isMarkup : Value → Bool
    | .markup _ | .object _ (.module ..) _ => true
    | _ => false
  if isMarkup sep || vs.any isMarkup then
    return .markup (joinWith (← markupOf run sep) (← vs.mapM (markupOf run)))
  else return .str (joinWith (← textOf run sep) (← vs.mapM (textOf run)))

def first (run : Run) (v : Value) : Eval Value := do
  let place ← iterate v
  return (← run (.advance place)).getD (.missing "No first item, sequence was empty." false)

def isReversible : Value → Bool
  | .tuple _ | .list .. | .dict .. | .group .. | .range .. | .view .. | .bytes _ => true
  | v => v.asText?.isSome

def last (run : Run) (v : Value) : Eval Value := do
  match v with
  | .missing m false => lift (Value.failMissing m)
  | .missing .. => return .missing "No last item, sequence was empty." false
  | v =>
    if !isReversible v then
      lift (typeError (quoted v.kindName ++ " object is not reversible"))
    else
      let vs ← itemsOf run v
      return vs.getLast?.getD (.missing "No last item, sequence was empty." false)

def reverseName : Value → String
  | .list .. => "list_reverseiterator"
  | .dict .. | .view .keys .. => "dict_reversekeyiterator"
  | .view .values .. => "dict_reversevalueiterator"
  | .view .items .. => "dict_reverseitemiterator"
  | .range .. => "range_iterator"
  | _ => "reversed"

def reversed (run : Run) (v : Value) : Eval Value := do
  match v with
  | .missing m false => lift (Value.failMissing m)
  | .markup s => return .markup (.ofList s.toList.reverse)
  | v =>
    match v.asText? with
    | some s => return .str (.ofList s.toList.reverse)
    | none =>
      if isReversible v then
        newIterator (reverseName v) (.fixed (← itemsOf run v).reverse)
      else match v with
        | .object _ (.iterator _) _ | .record .. => return .ofList (← itemsOf run v).reverse
        | _ => lift (.error (.runtime "argument must be iterable"))

def dictSorted (v : Value) (b : Bound) : Eval Value := do
  let sensitive ← flagOf b "case_sensitive" false
  let reverse ← flagOf b "reverse" false
  let byKey ← match (b.get "by" (.str "key")).asText? with
    | some "key" => pure true
    | some "value" => pure false
    | _ => lift (.error (.runtime "You can only sort by either \"key\" or \"value\""))
  match v with
  | .dict es _ =>
    let keyed : List (Sorting.Keyed Value) := es.map fun (k, w) =>
      ⟨foldCase sensitive (if byKey then k else w), Value.pair k w⟩
    return .ofList (← lift (Sorting.byKey reverse keyed))
  | .missing m _ => lift (Value.failMissing m)
  | v =>
    lift (Template.raise .attribute (quoted v.kindName ++ " object has no attribute 'items'"))

def someItem (run : Run) (v : Value) : Eval Value := do
  match v with
  | .object .. => lift (typeError ("object of type " ++ quoted v.kindName ++ " has no len()"))
  | v =>
    if (← lift v.length) == 0 then return .missing "No random item, sequence was empty." false
    else itemOf run v (.int 0)

/-- The filters on items; nothing for another name. -/
def items? (run : Run) (escape : Bool) (name : String) (v : Value) (b : Bound) :
    Option (Eval Value) :=
  match name with
  | "sort" => some (sorted run v b)
  | "groupby" => some (grouped run v b)
  | "min" => some (extremum run .lt v b)
  | "max" => some (extremum run .gt v b)
  | "sum" => some (total run v b)
  | "join" => some (joined run escape v b)
  | "first" => some (first run v)
  | "last" => some (last run v)
  | "reverse" => some (reversed run v)
  | "dictsort" => some (dictSorted v b)
  | "random" => some (someItem run v)
  | "list" => some (do return .ofList (← itemsOf run v))
  | "attr" => some (do
      match v with
      | .missing m _ => lift (Value.failMissing m)
      | v => ownAttributeOf run v (← textOf run (b.get "name" .none)))
  | _ => none

end Stencil.Template.Filter
