import Stencil.Build.Installed
import Stencil.Script.Memory

/-!
Raising errors. The kinds of errors are classes that derive from one another; an error is an
instance of one, and carries the arguments that it was made with.
-/
namespace Stencil.Script
open Stencil.Text
open Stencil.Template (Value Actuals)

/-- The kinds of errors, each after the kind that it derives from. -/
def errorKinds : List (String × String) :=
  [("BaseException", "object"), ("BaseExceptionGroup", "BaseException"),
   ("GeneratorExit", "BaseException"), ("KeyboardInterrupt", "BaseException"),
   ("SystemExit", "BaseException"), ("Exception", "BaseException"),
   ("ArithmeticError", "Exception"), ("FloatingPointError", "ArithmeticError"),
   ("OverflowError", "ArithmeticError"), ("ZeroDivisionError", "ArithmeticError"),
   ("AssertionError", "Exception"), ("AttributeError", "Exception"), ("BufferError", "Exception"),
   ("EOFError", "Exception"), ("ImportError", "Exception"), ("ModuleNotFoundError", "ImportError"),
   ("LookupError", "Exception"), ("IndexError", "LookupError"), ("KeyError", "LookupError"),
   ("MemoryError", "Exception"), ("NameError", "Exception"), ("UnboundLocalError", "NameError"),
   ("OSError", "Exception"), ("BlockingIOError", "OSError"), ("ChildProcessError", "OSError"),
   ("ConnectionError", "OSError"), ("BrokenPipeError", "ConnectionError"),
   ("ConnectionAbortedError", "ConnectionError"), ("ConnectionRefusedError", "ConnectionError"),
   ("ConnectionResetError", "ConnectionError"), ("FileExistsError", "OSError"),
   ("FileNotFoundError", "OSError"), ("InterruptedError", "OSError"),
   ("IsADirectoryError", "OSError"), ("NotADirectoryError", "OSError"),
   ("PermissionError", "OSError"), ("ProcessLookupError", "OSError"), ("TimeoutError", "OSError"),
   ("ReferenceError", "Exception"), ("RuntimeError", "Exception"),
   ("NotImplementedError", "RuntimeError"), ("RecursionError", "RuntimeError"),
   ("StopAsyncIteration", "Exception"), ("StopIteration", "Exception"),
   ("SyntaxError", "Exception"), ("IndentationError", "SyntaxError"),
   ("TabError", "IndentationError"), ("SystemError", "Exception"), ("TypeError", "Exception"),
   ("ValueError", "Exception"), ("UnicodeError", "ValueError"),
   ("UnicodeDecodeError", "UnicodeError"), ("UnicodeEncodeError", "UnicodeError"),
   ("UnicodeTranslateError", "UnicodeError"), ("Warning", "Exception"),
   ("BytesWarning", "Warning"), ("DeprecationWarning", "Warning"), ("EncodingWarning", "Warning"),
   ("FutureWarning", "Warning"), ("ImportWarning", "Warning"),
   ("PendingDeprecationWarning", "Warning"), ("ResourceWarning", "Warning"),
   ("RuntimeWarning", "Warning"), ("SyntaxWarning", "Warning"), ("UnicodeWarning", "Warning"),
   ("UserWarning", "Warning")]

/-- Other names of kinds of errors. -/
def errorNames : List (String × String) :=
  [("EnvironmentError", "OSError"), ("IOError", "OSError")]

/-- An error of a kind with its arguments. -/
def newError (kind : String) (args : List Value) (shown : Option String := none) : Eval Value :=
  newThing kind (.instance { key := kind, attributes := [("args", .tuple args)], shown := shown })

/-- Raises an error of a kind with a message. -/
def raise {α : Type} (kind message : String) : Eval α := do throw (← newError kind [.str message])

def typeError {α : Type} (message : String) : Eval α := raise "TypeError" message

/-- Raises the error of looking for a key that is not there. -/
def noKey {α : Type} (key : Value) : Eval α := do throw (← newError "KeyError" [key])

def noAttribute {α : Type} (owner name : String) : Eval α :=
  raise "AttributeError" (owner ++ " has no attribute " ++ quoted name)

/-- Raises an error whose text is known, but not what it was made with. -/
private def raiseShown {α : Type} (kind text : String) : Eval α := do
  throw (← newError kind [.str text] (some text))

/-- The outcome of computing with values. -/
def lift {α : Type} : Template.Outcome α → Eval α
  | .ok a => pure a
  | .error (.raised kind m) => raiseShown kind.name m
  | .error (.undefined m) | .error (.runtime m) | .error (.notFound m) => raise "RuntimeError" m

/-- The value of a computation with values, which may be new. -/
def computed (o : Template.Outcome Value) : Eval Value := do settled (← lift o)

/-- The kinds of an error, from its own to the most general. -/
def Memory.kindsOf (m : Memory) (error : Value) : List String :=
  match m.thing? error with
  | some (.instance i) => m.order i.key
  | _ => []

/-- Whether a class is one of errors. -/
def Memory.isErrorClass (m : Memory) (key : String) : Bool :=
  (m.order key).contains "BaseException"

def Memory.isErrorOf (m : Memory) (error : Value) (kind : String) : Bool :=
  (m.kindsOf error).contains kind

/-- Whether a value is an error. -/
def isError (v : Value) : Eval Bool := do return (← get).isErrorOf v "BaseException"

/-- Runs a step; an error of a kind gives way to another step. -/
def orOn {α : Type} (kind : String) (step : Eval α) (other : Eval α) : Eval α :=
  tryCatch step fun e => do
    if (← get).isErrorOf e kind then other else throw e

end Stencil.Script

/-!
What every module of settings knows without defining it: the names of the language, the modules
that can be imported, and the class that settings derive from.
-/
namespace Stencil.Script
open Stencil.Build
open Stencil.Template (Value Actuals)

/-- The kinds of values that are named as classes. -/
def valueKinds : List String :=
  ["object", "type", "int", "bool", "float", "complex", "str", "bytes", "bytearray", "list",
    "tuple", "dict", "set", "frozenset", "range", "slice", "property", "staticmethod",
    "classmethod", "super", "memoryview", "enumerate", "zip", "map", "filter", "reversed"]

/-- The kinds of values that no class derives from. -/
def finalKinds : List String :=
  ["bool", "NoneType", "range", "slice", "function", "method", "memoryview", "ellipsis",
    "NotImplementedType", "builtin_function_or_method"]

/-- The functions that can be called by name. -/
def functionNames : List String :=
  ["abs", "aiter", "all", "anext", "any", "ascii", "bin", "breakpoint", "callable", "chr",
    "compile", "delattr", "dir", "divmod", "eval", "exec", "exit", "format", "getattr", "globals",
    "hasattr", "hash", "help", "hex", "id", "input", "isinstance", "issubclass", "iter", "len",
    "locals", "max", "min", "next", "oct", "open", "ord", "pow", "print", "quit", "repr", "round",
    "setattr", "sorted", "sum", "vars", "__import__", "__build_class__", "copyright", "credits",
    "license"]

/-- The class that settings derive from. -/
def settingsClass : String := "EditorConfig"

/-- The function that marks a settings class. -/
def markerFunction : String := "NTEditorFile"

/-- The mark of a settings class. -/
def markAttribute : String := "__ntgen_editor_file__"

def settingsModule : String := "ntgen.editor_config"

/-- The things that are there from the start; the functions are found by their names. -/
def standardThings : List Thing :=
  [.foreign, .single "Ellipsis", .single "NotImplemented"] ++
    (markerFunction :: functionNames).map .builtin

private def standardFunction? (name : String) : Option Value :=
  ((markerFunction :: functionNames).idxOf? name).map fun i =>
    .object (i + 3) (.item (if i == 0 then "function" else "builtin_function_or_method")) []

/-- What a name means when nothing has defined it. -/
def standardName? (name : String) : Option Value :=
  if name == markerFunction then none
  else if (errorKinds.lookup name).isSome || valueKinds.contains name then some (.class name)
  else match name with
    | "ExceptionGroup" => some (.class name)
    | "Ellipsis" => some ellipsis
    | "NotImplemented" => some notImplemented
    | "__debug__" => some (.bool true)
    | "__build_class__" | "__loader__" | "__spec__" | "__builtins__" => some foreign
    | _ => ((errorNames.lookup name).map Value.class).or (standardFunction? name)

private def errorRecords : List (String × String) → List ClassRecord → List ClassRecord
  | [], done => done
  | (name, base) :: rest, done =>
    let above := (done.find? fun c => c.key == base).map (·.order)
    errorRecords rest
      (done ++ [{ key := name, bases := [base], order := name :: above.getD ["object"] }])

private def valueRecord (kind : String) : ClassRecord :=
  { key := kind
    order := match kind with
      | "object" => ["object"]
      | "bool" => ["bool", "int", "object"]
      | kind => [kind, "object"] }

private def groupRecord : ClassRecord :=
  { key := "ExceptionGroup", bases := ["BaseExceptionGroup", "Exception"]
    order := ["ExceptionGroup", "BaseExceptionGroup", "Exception", "BaseException", "object"] }

/-- The settings class with the values it gives to settings. -/
private def settingsRecord : ClassRecord :=
  { key := settingsClass, home := settingsModule, bases := ["object"],
    order := [settingsClass, "object"],
    attributes :=
      [("types_that_contain_custom_functions", .tuple []),
       ("projects_to_be_searched", .tuple []),
       ("namespaces_to_be_searched", .tuple []),
       ("search_in_referenced_projects_and_assemblies", .bool true)] }

/-- Memory before any module has run. -/
def Memory.start : Memory :=
  { things := standardThings.toArray
    classes := valueKinds.map valueRecord ++ errorRecords errorKinds [] ++
      [groupRecord, settingsRecord] }

/-- The modules that can be imported. -/
def importable : List Installed :=
  Installed.standard ++
    ["__future__", "abc", "argparse", "ast", "asyncio", "base64", "bisect", "builtins", "calendar",
      "contextlib", "copy", "csv", "dataclasses", "datetime", "decimal", "enum", "fractions",
      "functools", "glob", "hashlib", "heapq", "inspect", "io", "itertools", "keyword", "locale",
      "logging", "math", "numbers", "operator", "pathlib", "pickle", "platform", "pprint",
      "pydantic", "random", "re", "secrets", "shutil", "signal", "socket", "statistics", "string",
      "struct", "subprocess", "sysconfig", "tempfile", "textwrap", "threading", "time",
      "traceback", "types", "typing", "uuid", "warnings", "weakref", "zipfile", "zlib"].map
      (fun n => ⟨n, false⟩) ++
    [⟨"collections", true⟩, ⟨"collections.abc", false⟩, ⟨"importlib", true⟩,
      ⟨"importlib.util", false⟩, ⟨"urllib", true⟩, ⟨"urllib.parse", false⟩]

/-- What can be got from a module under a name: a module below it, a value, or a part of a module
whose parts are not known. -/
inductive Offered where
  | module (path : String)
  | value (v : Value)

def offered? (path name : String) : Option Offered :=
  if (Installed.find? importable (path ++ "." ++ name)).isSome then
    some (.module (path ++ "." ++ name))
  else if path == settingsModule then
    if name == settingsClass then some (.value (.class settingsClass))
    else if name == markerFunction then (standardFunction? name).map .value
    else if ["annotations", "Sequence", "TypeVar", "T"].contains name then some (.value foreign)
    else if name == "__name__" then some (.value (.str path))
    else if name.startsWith "__" then some (.value foreign)
    else none
  else if path == "ntgen" then
    if name == "__version__" then some (.value (.str "0.1.0"))
    else if name.startsWith "__" then some (.value foreign)
    else none
  else if path == "builtins" then (standardName? name).map .value
  else some (.value foreign)

/-- The names that a module offers to those who import everything. -/
def publicNames (path : String) : List String :=
  if path == settingsModule then
    ["annotations", "Sequence", "TypeVar", "T", markerFunction, settingsClass]
  else []

end Stencil.Script
