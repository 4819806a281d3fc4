import Stencil.Script.Access

/-!
The texts of values, and which values count as true. A class may say how its instances are shown;
an error is shown by what it was made with.
-/
namespace Stencil.Script
open Stencil.Text
open Stencil.Template (Value Actuals)

/-- A text that a special method gives. -/
private def textFrom (name : String) (v : Value) : Eval String := do
  match v with
  | .str s => return s
  | v =>
    if isForeign v then return ""
    else typeError (name ++ " returned non-string (type " ++ v.kindName ++ ")")

/-- What an error was made with. -/
def Instance.args (i : Instance) : List Value :=
  match i.attributes.lookup "args" with
  | some (.tuple vs) => vs
  | _ => []

private def inBraces (items : List String) : String := "\x7b" ++ joinWith ", " items ++ "\x7d"

/-- The listing of items in parentheses; a single one has a comma, unless it is an argument. -/
private def inParentheses (asArguments : Bool) (items : List String) : String :=
  match items with
  | [item] => "(" ++ item ++ (if asArguments then ")" else ",)")
  | items => "(" ++ joinWith ", " items ++ ")"

private def plainThing : Value → Thing → String
  | _, .single listing => listing
  | _, .function f _ => "<function " ++ f.path ++ ">"
  | _, .builtin name => "<built-in function " ++ name ++ ">"
  | _, .module path => "<module " ++ quoted path ++ ">"
  | v, _ => "<" ++ v.kindName ++ " object>"

/-- The listing of a value inside lists and dicts at some places. -/
private def listingWithin (run : Run) : Nat → List Nat → Value → Eval String
  | 0, _, _ =>
    raise "RecursionError" "maximum recursion depth exceeded while getting the repr of an object"
  | fuel + 1, within, v => do
    let all (within : List Nat) (vs : List Value) : Eval (List String) :=
      vs.mapM (listingWithin run fuel within)
    match ← surface v with
    | .list items place =>
      let inner := place.toList ++ within
      if place.any within.contains then return "[...]"
      else return "[" ++ joinWith ", " (← all inner items) ++ "]"
    | .tuple items => return inParentheses false (← all within items)
    | .dict entries place =>
      let inner := place.toList ++ within
      if place.any within.contains then return "\x7b...\x7d"
      else
        let keys ← all inner (entries.map Prod.fst)
        let values ← all inner (entries.map Prod.snd)
        return inBraces (keys.zipWith (fun k v => k ++ ": " ++ v) values)
    | .int n => lift (Value.int n).text
    | .class key => return "<class " ++ quoted ((← get).classListing key) ++ ">"
    | v =>
      match ← thing? v with
      | none => return (← present v).listing
      | some (.set [] false) => return "set()"
      | some (.set [] true) => return "frozenset()"
      | some (.set items frozen) =>
        let shown := inBraces (← all within items)
        return if frozen then "frozenset(" ++ shown ++ ")" else shown
      | some (.instance i) =>
        match ← callSpecial? run v "__repr__" [] with
        | some s => textFrom "__repr__" s
        | none =>
          let m ← get
          if m.isErrorClass i.key then
            return m.className i.key ++ inParentheses true (← all within i.args)
          else return "<" ++ m.classListing i.key ++ " object>"
      | some (.static f) => return "<staticmethod(" ++ (← listingWithin run fuel within f) ++ ")>"
      | some (.classBound f) =>
        return "<classmethod(" ++ (← listingWithin run fuel within f) ++ ")>"
      | some t => return plainThing v t

/-- The greatest depth to which values are listed. -/
def maxListingDepth : Nat := 990

/-- How a value appears inside other values. -/
def listingOf (run : Run) (v : Value) : Eval String := listingWithin run maxListingDepth [] v

/-! Errors. -/

/-- What an error was told under a name, unless it is nothing. -/
private def Instance.told? (i : Instance) (name : String) : Option Value :=
  (i.attributes.lookup name).filter fun v => !isNone v

/-- The text of an error of the system: the number of the fault, what it is, and the files. -/
private def systemText? (listing text : Value → Eval String) (i : Instance) :
    Eval (Option String) := do
  match i.attributes.lookup "errno", i.attributes.lookup "strerror" with
  | some number, some fault =>
    let start := "[Errno " ++ (← text number) ++ "] " ++ (← text fault)
    match i.told? "filename", i.told? "filename2" with
    | none, _ => return some start
    | some file, none => return some (start ++ ": " ++ (← listing file))
    | some file, some other =>
      return some (start ++ ": " ++ (← listing file) ++ " -> " ++ (← listing other))
  | _, _ => return none

/-- The line that a complaint about a source tells. -/
def Instance.line? (i : Instance) : Option Nat :=
  match i.attributes.lookup "lineno" with
  | some (.int n) => some n.toNat
  | _ => none

/-- The place that a complaint about a source tells. -/
def Instance.sourcePlace (i : Instance) : String :=
  let file := match i.attributes.lookup "filename" with
    | some (.str f) => some (String.ofList ((splitOnChar '/' f.toList).getLast?.getD []))
    | _ => none
  match file, i.line? with
  | some f, some n => " (" ++ f ++ ", line " ++ ofNat n ++ ")"
  | some f, none => " (" ++ f ++ ")"
  | none, some n => " (line " ++ ofNat n ++ ")"
  | none, none => ""

private def plainText (v : Value) : Eval String := do
  match v with
  | .str s => return s
  | v => lift (← present v).text

private def groupText (text : Value → Eval String) (message parts : Value) : Eval String := do
  let count := (((← surface parts).items).toOption.map List.length).getD 0
  return (← text message) ++ " (" ++ ofNat count ++ " sub-exception" ++
    (if count == 1 then "" else "s") ++ ")"

/-- The text of an error without the place in a source that it may tell. -/
def errorMessage (listing text : Value → Eval String) (i : Instance) : Eval String := do
  match i.shown with
  | some s => return s
  | none =>
    let kinds := (← get).order i.key
    let listed : Eval String := do
      match i.args with
      | [] => return ""
      | [v] => text v
      | vs => listing (.tuple vs)
    if kinds.contains "KeyError" then
      match i.args with
      | [v] => listing v
      | _ => listed
    else if kinds.contains "OSError" then
      match ← systemText? listing text i with
      | some s => return s
      | none => listed
    else if kinds.contains "SyntaxError" then text ((i.attributes.lookup "msg").getD .none)
    else
      match i.attributes.lookup "message", i.attributes.lookup "exceptions" with
      | some message, some parts =>
        if kinds.contains "BaseExceptionGroup" then groupText text message parts else listed
      | _, _ => listed

/-- The text of a value as far as so many texts may lie inside each other. -/
private def textWithin (run : Run) : Nat → Value → Eval String
  | 0, v => plainText v
  | fuel + 1, v => do
    match v with
    | .str s => return s
    | v =>
      match ← instance? v with
      | none => listingOf run v
      | some i =>
        match ← callSpecial? run v "__str__" [] with
        | some s => textFrom "__str__" s
        | none =>
          let m ← get
          if m.isErrorClass i.key then
            let message ← errorMessage (listingOf run) (textWithin run fuel) i
            return if (m.order i.key).contains "SyntaxError" then message ++ i.sourcePlace
              else message
          else listingOf run v

/-- The text of a value as it is printed. -/
def textOf (run : Run) (v : Value) : Eval String := textWithin run maxListingDepth v

/-! Truth. -/

/-- Whether a value counts as true. -/
def truthOf (run : Run) (v : Value) : Eval Bool := do
  match ← thing? v with
  | none =>
    match v with
    | .class _ => return true
    | v => lift (← surface v).truth
  | some (.set items _) => return !items.isEmpty
  | some (.instance _) =>
    match ← callSpecial? run v "__bool__" [] with
    | some (.bool b) => return b
    | some r =>
      if isForeign r then return true
      else typeError ("__bool__ should return bool, returned " ++ r.kindName)
    | none =>
      match ← callSpecial? run v "__len__" [] with
      | some r => return r.asInt? != some 0
      | none => return true
  | some _ => return true

end Stencil.Script
