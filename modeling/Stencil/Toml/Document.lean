import Stencil.Toml.Scalar

/-!
Tables while a document is read: where a key leads, and which keys are closed. A frozen key
closes all that is nested in it; a declared key is closed to a second declaration only.
-/
namespace Stencil.Toml

abbrev Entries := List (Plain × Plain)

/-- Sets the value of a name, which keeps its place or comes last. -/
def setEntry (name : String) (value : Plain) : Entries → Entries
  | [] => [(.str name, value)]
  | (.str n, old) :: rest =>
    if n == name then (.str n, value) :: rest else (.str n, old) :: setEntry name value rest
  | e :: rest => e :: setEntry name value rest

/-- Changes the table that a key leads to; tables on the way are made when they are missing.
The last table of an array stands for the array if arrays may be entered. -/
def changeAt (entersArrays : Bool) (change : Entries → Except Cause Entries) :
    List String → Entries → Except Cause Entries
  | [], es => change es
  | name :: rest, es =>
    let inner (es : Entries) := changeAt entersArrays change rest es
    match Plain.valueOf? es name with
    | none => (inner []).map fun t => setEntry name (.dict t) es
    | some (.dict t) => (inner t).map fun t => setEntry name (.dict t) es
    | some (.list vs) =>
      match if entersArrays then vs.getLast? else none with
      | some (.dict t) =>
        (inner t).map fun t => setEntry name (.list (vs.dropLast ++ [.dict t])) es
      | _ => .error .overwritten
    | some _ => .error .overwritten

/-- Adds a new value. -/
def addNew (taken : Cause) (name : String) (value : Plain) (es : Entries) :
    Except Cause Entries :=
  match Plain.valueOf? es name with
  | some _ => .error taken
  | none => .ok (es ++ [(.str name, value)])

/-- Adds an empty table to an array of tables, which may be new. -/
def addTable (name : String) (es : Entries) : Except Cause Entries :=
  match Plain.valueOf? es name with
  | none => .ok (es ++ [(.str name, .list [.dict []])])
  | some (.list vs) => .ok (setEntry name (.list (vs ++ [.dict []])) es)
  | some _ => .error .overwritten

/-- Which keys are closed; pending ones become declared at the next heading. -/
structure Marks where
  frozen : List (List String) := []
  declared : List (List String) := []
  pending : List (List String) := []
  deriving DecidableEq, Repr

namespace Marks

def isFrozen (m : Marks) (key : List String) : Bool := m.frozen.any fun f => f.isPrefixOf key

def isDeclared (m : Marks) (key : List String) : Bool := m.declared.contains key

def freeze (m : Marks) (key : List String) : Marks := { m with frozen := key :: m.frozen }

def declare (m : Marks) (key : List String) : Marks := { m with declared := key :: m.declared }

def await (m : Marks) (key : List String) : Marks := { m with pending := key :: m.pending }

def settle (m : Marks) : Marks := { m with declared := m.pending ++ m.declared, pending := [] }

/-- Opens a key and all that is nested in it. -/
def release (m : Marks) (key : List String) : Marks :=
  { m with
    frozen := m.frozen.filter fun k => !key.isPrefixOf k
    declared := m.declared.filter fun k => !key.isPrefixOf k }

end Marks

/-- Whether a value closes its key. -/
def isContainer : Plain → Bool
  | .dict _ | .list _ => true
  | _ => false

/-!
Reading a document of tables: headings, arrays of tables, and keys with values. The result is one
table; the first fault ends the reading.
-/
open Stencil.Text

private def isBareKeyChar (c : Char) : Bool := c.isAlphanum || c == '-' || c == '_'

private def keyPart (cs : List Char) : Read String :=
  match quotedKey? cs with
  | some r => r.map fun (text, rest) => (.ofList text, rest)
  | none =>
    let bare := cs.takeWhile isBareKeyChar
    if bare.isEmpty then stop .keyStart cs else .ok (.ofList bare, cs.drop bare.length)

private def keyParts : Nat → List Char → Except Stop (List String × List Char)
  | 0, cs => stop .keyStart cs
  | fuel + 1, cs => do
    let (name, rest) ← keyPart cs
    match rest.dropWhile isSpace with
    | '.' :: rest =>
      let (names, rest) ← keyParts fuel (rest.dropWhile isSpace)
      return (name :: names, rest)
    | rest => return ([name], rest)

/-- A key: names between dots. -/
private def keyOf (cs : List Char) : Read (List String) := keyParts (cs.length + 1) cs

/-- Drops a comment, if one starts here. -/
private def dropComment : List Char → Except Stop (List Char)
  | '#' :: rest =>
    let text := rest.takeWhile (· != '\n')
    match text.find? isControl with
    | some c => .error ⟨.invalid c, rest.dropWhile fun c => !isControl c⟩
    | none => .ok (rest.drop text.length)
  | cs => .ok cs

/-- Drops white space, line ends and comments between the items of an array. -/
private def dropGaps : Nat → List Char → Except Stop (List Char)
  | 0, cs => .ok cs
  | fuel + 1, cs =>
    match cs.dropWhile isSpaceOrLine with
    | '#' :: rest =>
      match dropComment ('#' :: rest) with
      | .ok rest => dropGaps fuel rest
      | .error e => .error e
    | rest => .ok rest

private def gaps (cs : List Char) : Except Stop (List Char) := dropGaps (cs.length + 1) cs

private def placed {α : Type} (rest : List Char) : Except Cause α → Except Stop α
  | .ok a => .ok a
  | .error c => .error ⟨c, rest⟩

/-- The rule for one pair of a table on one line. -/
private def addPair (m : Marks) (es : Entries) (key : List String) (value : Plain) :
    Except Cause Entries :=
  if m.isFrozen key then .error (.frozen key)
  else
    let name := key.getLast?.getD ""
    changeAt false (addNew (.duplicate name) name value) key.dropLast es

mutual

private def valueAt : Nat → List Char → Except Stop (Plain × List Char)
  | 0, cs => stop .value cs
  | fuel + 1, cs =>
    match quotedValue? cs with
    | some r => r.map fun (text, rest) => (.str (.ofList text), rest)
    | none =>
      match truth? cs with
      | some r => .ok r
      | none =>
        match cs with
        | '[' :: rest => do
          match ← gaps rest with
          | ']' :: rest => return (.list [], rest)
          | rest => arrayItems fuel [] rest
        | '\x7b' :: rest =>
          match rest.dropWhile isSpace with
          | '\x7d' :: rest => .ok (.dict [], rest)
          | rest => tablePairs fuel {} [] rest
        | cs => scalar cs

private def arrayItems : Nat → List Plain → List Char → Except Stop (Plain × List Char)
  | 0, _, cs => stop .unclosedArray cs
  | fuel + 1, back, cs => do
    let (v, rest) ← valueAt fuel cs
    match ← gaps rest with
    | ']' :: rest => return (.list (v :: back).reverse, rest)
    | ',' :: rest =>
      match ← gaps rest with
      | ']' :: rest => return (.list (v :: back).reverse, rest)
      | rest => arrayItems fuel (v :: back) rest
    | rest => stop .unclosedArray rest

private def tablePairs :
    Nat → Marks → Entries → List Char → Except Stop (Plain × List Char)
  | 0, _, _, cs => stop .unclosedTable cs
  | fuel + 1, m, es, cs => do
    let ((key, v), rest) ← pairAt fuel cs
    let es ← placed rest (addPair m es key v)
    match rest.dropWhile isSpace with
    | '\x7d' :: rest => return (.dict es, rest)
    | ',' :: rest =>
      tablePairs fuel (if isContainer v then m.freeze key else m) es (rest.dropWhile isSpace)
    | rest => stop .unclosedTable rest

private def pairAt : Nat → List Char → Except Stop ((List String × Plain) × List Char)
  | 0, cs => stop .equalsSign cs
  | fuel + 1, cs => do
    match ← keyOf cs with
    | (key, '=' :: rest) =>
      let (v, rest) ← valueAt fuel (rest.dropWhile isSpace)
      return ((key, v), rest)
    | (_, rest) => stop .equalsSign rest

end

/-- A document as far as it is read: its content, its marks, and the heading in force. -/
private structure State where
  content : Entries := []
  marks : Marks := {}
  heading : List String := []

/-- A heading: the table it names is made, unless it was declared before. -/
private def State.openTable (s : State) (key : List String) : Except Cause State := do
  if s.marks.isDeclared key || s.marks.isFrozen key then throw (.declaredTwice key)
  let content ← changeAt true .ok key s.content
  return ⟨content, s.marks.declare key, key⟩

/-- A heading of an array: a new table at its end. -/
private def State.appendTable (s : State) (key : List String) : Except Cause State := do
  if s.marks.isFrozen key then throw (.frozen key)
  let content ← changeAt true (addTable (key.getLast?.getD "")) key.dropLast s.content
  return ⟨content, (s.marks.release key).declare key, key⟩

/-- Marks the tables that a dotted key passes. -/
private def passTables (heading : List String) :
    List String → List String → Marks → Except Cause Marks
  | _, [], m | _, [_], m => .ok m
  | done, name :: rest, m =>
    let key := done ++ [name]
    if m.isDeclared (heading ++ key) then .error (.redefined (heading ++ key))
    else passTables heading key rest (m.await (heading ++ key))

private def State.addValue (s : State) (key : List String) (value : Plain) :
    Except Cause State := do
  let marks ← passTables s.heading [] key s.marks
  let parent := s.heading ++ key.dropLast
  if marks.isFrozen parent then throw (.frozen parent)
  let content ← changeAt true (addNew .overwritten (key.getLast?.getD "") value) parent s.content
  return { s with
    content := content
    marks := if isContainer value then marks.freeze (s.heading ++ key) else marks }

/-- One statement, which starts here. -/
private def statement (s : State) : List Char → Except Stop (State × List Char)
  | '[' :: '[' :: rest => do
    let s := { s with marks := s.marks.settle }
    let (key, rest) ← keyOf (rest.dropWhile isSpace)
    let s ← placed rest (s.appendTable key)
    match rest with
    | ']' :: ']' :: rest => return (s, rest)
    | rest => stop .tablesEnd rest
  | '[' :: rest => do
    let s := { s with marks := s.marks.settle }
    let (key, rest) ← keyOf (rest.dropWhile isSpace)
    let s ← placed rest (s.openTable key)
    match rest with
    | ']' :: rest => return (s, rest)
    | rest => stop .tableEnd rest
  | '#' :: rest => .ok (s, '#' :: rest)
  | c :: rest =>
    if isBareKeyChar c || c == '"' || c == '\'' then do
      let ((key, v), rest) ← pairAt (2 * rest.length + 4) (c :: rest)
      return (← placed rest (s.addValue key v), rest)
    else stop .statement (c :: rest)
  | [] => .ok (s, [])

private def statements : Nat → State → List Char → Except Stop State
  | 0, s, _ => .ok s
  | fuel + 1, s, cs =>
    match cs.dropWhile isSpace with
    | [] => .ok s
    | '\n' :: rest => statements fuel s rest
    | cs => do
      let (s, rest) ← statement s cs
      match ← dropComment (rest.dropWhile isSpace) with
      | [] => return s
      | '\n' :: rest => statements fuel s rest
      | rest => throw ⟨.lineEnd, rest⟩

/-- Reads a document, whose only line ends are line feeds. -/
def read (text : String) : Except Error Entries :=
  match statements (text.length + 1) {} text.toList with
  | .ok s => .ok s.content
  | .error e => .error (e.toError text.toList)

end Stencil.Toml
