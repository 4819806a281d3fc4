import Stencil.Script.Conversion
import Stencil.Script.Text

/-!
What errors are told when they are made. Errors of the system get the number of a fault, complaints
about a source its place, groups the errors they hold; every error keeps its arguments.
-/
namespace Stencil.Script
open Stencil.Text
open Stencil.Template (Value Actuals)

private def tellAll (self : Value) (told : List (String × Value)) : Eval PUnit :=
  told.forM fun (name, v) => putAttribute self name v

/-- The kinds of errors for the numbers of faults of the system. -/
private def kindOfNumber? : Value → Option String
  | .int n =>
    match n with
    | 1 | 13 => some "PermissionError"
    | 2 => some "FileNotFoundError"
    | 3 => some "ProcessLookupError"
    | 4 => some "InterruptedError"
    | 10 => some "ChildProcessError"
    | 11 | 114 | 115 => some "BlockingIOError"
    | 17 => some "FileExistsError"
    | 20 => some "NotADirectoryError"
    | 21 => some "IsADirectoryError"
    | 32 | 108 => some "BrokenPipeError"
    | 103 => some "ConnectionAbortedError"
    | 104 => some "ConnectionResetError"
    | 110 => some "TimeoutError"
    | 111 => some "ConnectionRefusedError"
    | _ => none
  | _ => none

private def tellSystem (self : Value) (args : List Value) : Eval PUnit := do
  match args with
  | number :: fault :: more =>
    if more.length ≤ 3 then
      tellAll self [("errno", number), ("strerror", fault)]
      let file := more.headD .none
      if !isNone file then
        tellAll self [("args", .tuple [number, fault]), ("filename", file)]
        more[2]?.forM fun other => putAttribute self "filename2" other
  | _ => return

private def tellSource (self : Value) (args : List Value) : Eval PUnit := do
  args.head?.forM fun v => putAttribute self "msg" v
  match args with
  | [_, place] =>
    let parts ← lift (← surface place).items
    let wrong (bound : String) (count : Nat) : Eval PUnit :=
      typeError ("function takes " ++ bound ++ ofNat count ++ " arguments (" ++
        ofNat parts.length ++ " given)")
    if parts.length < 4 then wrong "at least " 4
    else if parts.length > 6 then wrong "at most " 6
    else if parts.length == 5 then
      typeError "end_offset must be provided when end_lineno is provided"
    else
      tellAll self
        (["filename", "lineno", "offset", "text", "end_lineno", "end_offset"].zip parts)
  | _ => return

/-- Arguments that are told by name alone. -/
private def tellNamed (self : Value) (shown : String) (names : List String) (a : Actuals) :
    Eval PUnit := do
  match a.named.find? fun e => !names.contains e.1 with
  | some (name, _) =>
    typeError (quoted name ++ " is an invalid keyword argument for " ++ shown ++ "()")
  | none => tellAll self a.named

/-! Texts that cannot be coded. -/

private def charShown (c : Char) : String :=
  let digits (width : Nat) := String.ofList (digitsBase 16 width c.toNat)
  if c.toNat < 256 then "\\x" ++ digits 2
  else if c.toNat < 65536 then "\\u" ++ digits 4
  else "\\U" ++ digits 8

private def codingText (encoding verb whole : String) (single : Option String) (start stop : Int)
    (reason : String) : String :=
  let codec := quoted encoding ++ " codec can't " ++ verb ++ " " ++ whole
  match if stop == start + 1 then single else none with
  | some c => codec ++ " " ++ c ++ " in position " ++ ofInt start ++ ": " ++ reason
  | none =>
    codec ++ "s in position " ++ ofInt start ++ "-" ++ ofInt (stop - 1) ++ ": " ++ reason

private def tellCoding (self : Value) (count : Nat) (args : List Value) : Eval PUnit := do
  if args.length != count then
    typeError ("function takes exactly " ++ ofNat count ++ " arguments (" ++ ofNat args.length ++
      " given)")
  let shown := match args with
    | [.str encoding, .bytes content, .int start, .int stop, .str reason] =>
      some (codingText encoding "decode" "byte"
        ((content[start.toNat]?).map fun b => "0x" ++ .ofList (digitsBase 16 2 b.toNat))
        start stop reason)
    | [.str encoding, .str s, .int start, .int stop, .str reason] =>
      some (codingText encoding "encode" "character"
        ((s.toList[start.toNat]?).map fun c => quoted (charShown c)) start stop reason)
    | _ => none
  match ← instance? self with
  | some i => setThing self (.instance { i with shown := shown })
  | none => return

/-! Groups. -/

/-- Checks what a group of errors is made with, and finds the kind of the group. -/
private def groupKey (key : String) (a : Actuals) : Eval (String × List (String × Value)) := do
  let m ← get
  let shown := "BaseExceptionGroup.__new__()"
  match a.positional with
  | [.str message, parts] =>
    let items ← match ← surface parts with
      | .list items _ | .tuple items => pure items
      | _ => typeError "second argument (exceptions) must be a sequence"
    if items.isEmpty then
      raise "ValueError" "second argument (exceptions) must be a non-empty sequence"
    match items.findIdx? fun e => !m.isErrorOf e "BaseException" with
    | some n =>
      raise "ValueError" ("Item " ++ ofNat n ++
        " of second argument (exceptions) is not an exception")
    | none =>
      let ordinary := items.all fun e => m.isErrorOf e "Exception"
      if (m.order key).contains "Exception" && !ordinary then
        typeError (if key == "ExceptionGroup" then "Cannot nest BaseExceptions in an ExceptionGroup"
          else "Cannot nest BaseExceptions in " ++ quoted (m.className key))
      let key := if key == "BaseExceptionGroup" && ordinary then "ExceptionGroup" else key
      return (key, [("message", .str message), ("exceptions", .tuple items)])
  | [message, _] => typeError (shown ++ " argument 1 must be str, not " ++ message.kindName)
  | args =>
    typeError (shown ++ " takes exactly 2 arguments (" ++ ofNat args.length ++ " given)")

/-! Making errors. -/

/-- A new error of a class, which only has its arguments yet. -/
def freshError (key : String) (a : Actuals) : Eval Value := do
  let m ← get
  let (key, told) ←
    if (m.order key).contains "BaseExceptionGroup" then groupKey key a
    else
      match key, a.positional with
      | "OSError", number :: _ :: _ => pure ((kindOfNumber? number).getD key, [])
      | key, _ => pure (key, [])
  newThing (m.className key)
    (.instance { key := key, attributes := ("args", .tuple a.positional) :: told })

/-- Tells an error what it was made with. -/
def tellError (self : Value) (a : Actuals) : Eval PUnit := do
  let m ← get
  let kinds := m.kindsOf self
  let shown := m.className (kinds.headD "")
  let args := a.positional
  let only : Eval PUnit := do
    lift (a.refuseNamed shown)
    putAttribute self "args" (.tuple args)
  if kinds.contains "OSError" then
    only
    tellSystem self args
  else if kinds.contains "SyntaxError" then
    only
    tellSource self args
  else if kinds.contains "ImportError" then
    putAttribute self "args" (.tuple args)
    tellNamed self "ImportError" ["name", "path"] a
    if let [message] := args then putAttribute self "msg" message
  else if kinds.contains "AttributeError" then
    putAttribute self "args" (.tuple args)
    tellNamed self "AttributeError" ["name", "obj"] a
  else if kinds.contains "NameError" then
    putAttribute self "args" (.tuple args)
    tellNamed self "NameError" ["name"] a
  else
    only
    if kinds.contains "StopIteration" then putAttribute self "value" (args.headD .none)
    else if kinds.contains "SystemExit" then
      putAttribute self "code" (match args with
        | [] => .none
        | [v] => v
        | vs => .tuple vs)
    else if kinds.contains "UnicodeTranslateError" then tellCoding self 4 args
    else if kinds.contains "UnicodeDecodeError" || kinds.contains "UnicodeEncodeError" then
      tellCoding self 5 args

/-!
Calling a class. A class may say how its instances are made and how they start; the kinds of values
and errors have ways of their own.
-/

/-- A new instance of a class that keeps nothing of its arguments. -/
def freshInstance (key : String) : Eval Value := do
  newThing ((← get).className key) (.instance { key := key })

/-- The kind of values that a class derives from, if its instances are plain values. -/
private def valueKindOf? (m : Memory) (key : String) : Option String :=
  (m.order key).find? fun k => k != "object" && valueKinds.contains k

/-- What a class makes when it does not say how. -/
private def makeByDefault (run : Run) (key : String) (a : Actuals) : Eval Value := do
  let m ← get
  if m.isErrorClass key then freshError key a
  else
    match valueKindOf? m key with
    | some kind => makeValue run kind a
    | none => freshInstance key

/-- What starts the instances of a class, ready to be called. -/
private def starter? (run : Run) (key : String) (self : Value) : Eval (Option Value) := do
  match (← get).attribute? key "__init__" with
  | some f => return some (← bound run (some self) key f)
  | none => return none

private def startWith (run : Run) (start : Value) (a : Actuals) : Eval PUnit := do
  let r ← run.call start a
  if !isNone r && !isForeign r then
    typeError ("__init__() should return None, not " ++ quoted r.kindName)

/-- Calls a class: makes a value, an error or an instance, and starts it. -/
def construct (run : Run) (key : String) (a : Actuals) : Eval Value := do
  if valueKinds.contains key then return ← makeValue run key a
  let maker := (← get).attribute? key "__new__"
  let self ← match maker with
    | some f =>
      let f := match ← thing? f with
        | some (.static f) => f
        | _ => f
      run.call f (a.push (.class key))
    | none => makeByDefault run key a
  let m ← get
  match (← instance? self).map (·.key) with
  | none => return self
  | some own =>
    if !(m.order own).contains key then return self
    match ← starter? run own self with
    | some start => startWith run start a
    | none =>
      if m.isErrorClass own then tellError self a
      else if maker.isNone && !m.isOpen own && !(a.positional.isEmpty && a.named.isEmpty) then
        typeError (m.className own ++ "() takes no arguments")
    return self

/-! What every object does by itself, called by name. -/

private def expectedSelf (what : String) (args : List Value) : Eval Value := do
  match args with
  | [] => typeError ("unbound method object." ++ what ++ "() needs an argument")
  | self :: _ => return self

/-- Makes an instance of the class that comes first, without starting it. -/
private def makeFirst (a : Actuals) : Eval Value := do
  match a.positional with
  | .class key :: rest =>
    let m ← get
    if m.isErrorClass key then freshError key { a with positional := rest }
    else if (valueKindOf? m key).isSome then return foreign
    else if !(rest.isEmpty && a.named.isEmpty) && (m.attribute? key "__new__").isSome then
      typeError "object.__new__() takes exactly one argument (the type to instantiate)"
    else if !(rest.isEmpty && a.named.isEmpty) && (m.attribute? key "__init__").isNone then
      typeError (m.className key ++ "() takes no arguments")
    else freshInstance key
  | [] => typeError "object.__new__(): not enough arguments"
  | v :: _ =>
    typeError ("object.__new__(X): X is not a type object (" ++ v.kindName ++ ")")

/-- Starts an instance in the way of every object. -/
private def startFirst (a : Actuals) : Eval PUnit := do
  let self ← expectedSelf "__init__" a.positional
  if ← isError self then tellError self { a with positional := a.positional.tail }
  else if !(a.positional.tail.isEmpty && a.named.isEmpty) then
    let m ← get
    let key ← classOf self
    if m.isOpen key then return
    else if (m.attribute? key "__init__").isSome then
      typeError "object.__init__() takes exactly one argument (the instance to initialize)"
    else if (m.attribute? key "__new__").isNone then
      typeError (m.className key ++ "() takes no arguments")

/-- Calls one of the things that every object does by itself. -/
def callObjectMethod (run : Run) (name : String) (a : Actuals) : Eval Value := do
  match name, a.positional with
  | "__new__", _ => makeFirst a
  | "__init__", _ =>
    startFirst a
    return .none
  | "__setattr__", [self, .str name, v] =>
    putAttribute self name v
    return .none
  | "__getattribute__", [self, .str name] => attributeOf run self name
  | _, args =>
    let _ ← expectedSelf name args
    let expected := if name == "__setattr__" then 2 else 1
    typeError ("expected " ++ ofNat expected ++ " argument" ++
      (if expected == 1 then "" else "s") ++ ", got " ++ ofNat (args.length - 1))

end Stencil.Script
