/-!
The ways a template fails: a complaint about its text, a rule broken while it runs, or an error that
a value or a function raises. What runs never complains about a text.
-/
namespace Stencil.Template

/-- The kinds of errors that values and functions raise. -/
inductive ErrorKind where
  | type | value | attribute | key | index | lookup | unknownName | malformed | zeroDivision
  | overflow | recursion | memory | assertion | unicodeDecode | unicodeEncode | isDirectory
  | runtime
  deriving DecidableEq, Repr

def ErrorKind.name : ErrorKind → String
  | .type => "TypeError"
  | .value => "ValueError"
  | .attribute => "AttributeError"
  | .key => "KeyError"
  | .index => "IndexError"
  | .lookup => "LookupError"
  | .unknownName => "NameError"
  | .malformed => "SyntaxError"
  | .zeroDivision => "ZeroDivisionError"
  | .overflow => "OverflowError"
  | .recursion => "RecursionError"
  | .memory => "MemoryError"
  | .assertion => "AssertionError"
  | .unicodeDecode => "UnicodeDecodeError"
  | .unicodeEncode => "UnicodeEncodeError"
  | .isDirectory => "IsADirectoryError"
  | .runtime => "RuntimeError"

/-- A complaint about the text of a template. -/
structure SyntaxFault where
  message : String
  line : Nat
  deriving DecidableEq, Repr

/-- The ways a run fails. -/
inductive Failure where
  /-- A missing value was used. -/
  | undefined (message : String)
  /-- A rule of templates was broken while running. -/
  | runtime (message : String)
  /-- No template of a name. -/
  | notFound (message : String)
  | raised (kind : ErrorKind) (message : String)
  deriving DecidableEq, Repr

abbrev Outcome := Except Failure

def raise {α : Type} (kind : ErrorKind) (message : String) : Outcome α :=
  .error (.raised kind message)

def typeError {α : Type} (message : String) : Outcome α := raise .type message

/-- What has no value before the template runs. -/
def Failure.waiting : Failure := .runtime ""

/-- Why a template gives nothing: there is a complaint about its text or about that of a template
that it asks for, or its run fails. -/
inductive Refusal where
  | fault (f : SyntaxFault)
  | failed (e : Failure)
  deriving DecidableEq, Repr

abbrev Reading := Except Refusal

/-- A complaint about a line of a template. -/
def Refusal.atLine (line : Nat) (message : String) : Refusal := .fault ⟨message, line⟩

/-- What is computed while a text is read may fail. -/
instance : MonadLift Outcome Reading where
  monadLift o := o.mapError .failed

/-- What a run goes on with after a template was read for it; a complaint ends it. -/
def outcomeOf {α : Type} : Reading α → Except SyntaxFault (Outcome α)
  | .ok a => .ok (.ok a)
  | .error (.failed e) => .ok (.error e)
  | .error (.fault f) => .error f

end Stencil.Template
