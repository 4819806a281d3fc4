import Stencil.Template.Binding
import Stencil.Template.Filter.Items

/-!
Iterators: items that are made when they are asked for. An iterator over a list or a dict sees the
changes that are made meanwhile; one behind a filter asks the iterator that feeds it, and what is
wrong with the filter shows when the first item is asked for.
-/
namespace Stencil.Template.Filter
open Stencil.Text
open Eval (broken lift)

/-- A name given as a value; only a text names something. -/
def nameOf (kind : String) (v : Value) : Eval String := do
  let v ← present v
  lift v.checkKey
  match v.asText? with
  | some name => return name
  | none => broken ("No " ++ kind ++ " named " ++ v.listing ++ ".")

/-- What each item becomes. -/
def mapping (run : Run) (escape : Bool) (b : Bound) : Eval (Value → Eval Value) := do
  match b.rest, b.named.lookup "attribute" with
  | [], some path =>
    let default := (b.named.lookup "default").getD .none
    match b.named.find? fun e => e.1 != "attribute" && e.1 != "default" with
    | some (other, _) => broken ("Unexpected keyword argument " ++ quoted other)
    | none => return follow run default (pathOf path)
  | [], none => broken "map requires a filter argument"
  | filter :: args, _ =>
    return fun item => do
      let name ← nameOf "filter" filter
      run (.filter escape name item ⟨args, b.named⟩)

/-- Whether each item is chosen. -/
def choice (run : Run) (byAttribute : Bool) (b : Bound) :
    Eval (Value → Eval Bool) := do
  let (reach, args) ← match byAttribute, b.rest with
    | false, args => pure ((fun v => pure v : Value → Eval Value), args)
    | true, path :: args => pure (follow run .none (pathOf path), args)
    | true, [] => broken "Missing parameter for attribute name"
  match args with
  | [] => return fun item => do truthOf (← reach item)
  | test :: args =>
    return fun item => do
      let v ← reach item
      let name ← nameOf "test" test
      run (.test name v ⟨args, b.named⟩)

/-! Batches and slices. -/

def isNone : Value → Bool
  | .none => true
  | _ => false

/-- A last batch with its missing items filled in. -/
def filledBatch (b : Bound) (batch : List Value) : Eval Value := do
  let count := b.get "linecount" .none
  let filler := b.get "fill_with" .none
  let short ← if isNone filler then pure false
    else lift (Value.ordered .lt (.int batch.length) count)
  if short then
    let room := (count.asInt?.getD 0).toNat - batch.length
    return .ofList (batch ++ List.replicate room filler)
  else return .ofList batch

def slicesFrom (size extra : Nat) (filler : Value) (fill : Bool) :
    Nat → Nat → List Value → List Value
  | _, 0, _ => []
  | i, n + 1, vs =>
    let own := size + (if i < extra then 1 else 0)
    let part := vs.take own ++ (if fill && i ≥ extra then [filler] else [])
    .ofList part :: slicesFrom size extra filler fill (i + 1) n (vs.drop own)

def slices (run : Run) (v : Value) (b : Bound) : Eval (List Value) := do
  let vs ← itemsOf run v
  let count := b.get "slices" .none
  let filler := b.get "fill_with" .none
  let _ ← lift (Value.binary .floorDiv (.int vs.length) count)
  let _ ← lift (Value.binary .mod (.int vs.length) count)
  match count.asInt? with
  | none =>
    lift (typeError (quoted count.kindName ++ " object cannot be interpreted as an integer"))
  | some n =>
    let n := n.toNat
    return slicesFrom (vs.length / n) (vs.length % n) filler (!isNone filler) 0 n vs

def entries (v : Value) : Eval Supply := do
  match v with
  | .missing .. => return .fixed []
  | .dict es place => supplyOf (.view .items es place)
  | _ => lift (typeError "Can only get item pairs from a mapping.")

/-! Asking. -/

/-- Begins a stage: what its items come from. -/
def begin_ (run : Run) (stage : Stage) (source : Value) : Eval Supply := do
  let fed : Eval Supply := do return .working stage (← iterate source) []
  let unlessEmpty (prepare : Eval Unit) : Eval Supply := do
    if ← truthOf source then
      prepare
      fed
    else return .fixed []
  match stage with
  | .map escape b => unlessEmpty (discard (mapping run escape b))
  | .choose _ byAttribute b => unlessEmpty (discard (choice run byAttribute b))
  | .slice b => return .fixed (← slices run source b)
  | .entries => entries source
  | .unique _ | .batch _ | .passing _ => fed

/-- What a stage answers to an item, or to the end of the items. -/
inductive Answer where
  | yield (v : Value) (held : List Value)
  | pass (held : List Value)
  | finish (last : Option Value)

def answer (run : Run) (passes : LoopBody → Value → Eval Bool) (stage : Stage)
    (held : List Value) (item : Option Value) : Eval Answer := do
  match item, stage with
  | none, .batch b =>
    if held.isEmpty then return .finish none else return .finish (some (← filledBatch b held))
  | none, _ => return .finish none
  | some v, .map escape b => do
    let f ← mapping run escape b
    return .yield (← f v) []
  | some v, .choose keep byAttribute b => do
    let f ← choice run byAttribute b
    return if (← f v) == keep then .yield v [] else .pass []
  | some v, .unique b => do
    let sensitive ← flagOf b "case_sensitive" false
    let key ← keyOf run sensitive .none (b.get "attribute" .none) v
    lift key.checkKey
    if ← lift (Value.memberOf key held) then return .pass held else return .yield v (held ++ [key])
  | some v, .batch b => do
    if ← lift (Value.equal (.int held.length) (b.get "linecount" .none)) then
      return .yield (.ofList held) [v]
    else return .pass (held ++ [v])
  | some v, .passing l => return if ← passes l v then .yield v [] else .pass []
  | some v, _ => return .yield v []

/-- Asks a stage until it gives an item or ends. -/
def work (run : Run) (passes : LoopBody → Value → Eval Bool) (place : Nat)
    (stage : Stage) (feed : Nat) : Nat → List Value → Eval (Option Value)
  | 0, _ => Eval.raise .memory ""
  | fuel + 1, held => do
    match ← answer run passes stage held (← run (.advance feed)) with
    | .yield v held =>
      setObject place (.iterator (.working stage feed held))
      some <$> settled v
    | .pass held => work run passes place stage feed fuel held
    | .finish last =>
      setObject place (.iterator (.fixed []))
      match last with
      | some v => some <$> settled v
      | none => return none

/-- The next item of a list or dict as it is now. -/
def stepAlong (place : Nat) (source : Value) (rest : List Value) (taken size seen : Nat) :
    Eval (Option Value) := do
  let changes := (← get).changes
  let rest ← if changes == seen then pure rest else do
    let now ← surface source
    let items ← lift now.items
    match now with
    | .list .. => pure (items.drop taken)
    | _ =>
      if items.length == size then pure (items.drop taken)
      else Eval.raise .runtime "dictionary changed size during iteration"
  match rest with
  | [] =>
    setObject place (.iterator (.fixed []))
    return none
  | v :: rest =>
    setObject place (.iterator (.along source rest (taken + 1) size changes))
    some <$> settled v

/-- The next item of an iterator; nothing when it has ended. -/
def advance (run : Run) (passes : LoopBody → Value → Eval Bool) (place : Nat) :
    Eval (Option Value) := do
  match ← objectAt? place with
  | some (.iterator (.fixed (v :: rest))) =>
    setObject place (.iterator (.fixed rest))
    some <$> settled v
  | some (.iterator (.along source rest taken size seen)) =>
    stepAlong place source rest taken size seen
  | some (.iterator (.waiting stage source)) =>
    let supply ← begin_ run stage source
    setObject place (.iterator supply)
    run (.advance place)
  | some (.iterator (.working stage feed held)) =>
    work run passes place stage feed maxRounds held
  | _ => return none

def stage? (escape : Bool) (name : String) (b : Bound) : Option Stage :=
  match name with
  | "map" => some (.map escape b)
  | "select" => some (.choose true false b)
  | "reject" => some (.choose false false b)
  | "selectattr" => some (.choose true true b)
  | "rejectattr" => some (.choose false true b)
  | "unique" => some (.unique b)
  | "batch" => some (.batch b)
  | "slice" => some (.slice b)
  | "items" => some .entries
  | _ => none

/-- The filters that give iterators; nothing for another name. -/
def iterator? (escape : Bool) (name : String) (v : Value) (b : Bound) : Option (Eval Value) :=
  (stage? escape name b).map fun stage => newIterator "generator" (.waiting stage v)

end Stencil.Template.Filter
