import Stencil.Source.Syntax

/-!
Complaints about a source. A complaint names a line, and a display of it may point at some columns
of that line.
-/
namespace Stencil.Source

inductive FaultKind where
  | syntax_
  | indentation
  | tabs
  deriving DecidableEq, Repr

def FaultKind.name : FaultKind → String
  | .syntax_ => "SyntaxError"
  | .indentation => "IndentationError"
  | .tabs => "TabError"

/-- The columns that a display points at, counted from one; the second is behind the last. Without
it one column is meant. What is shown instead of the line of the source may be given. -/
structure Pointer where
  column : Nat
  stop : Option Nat := none
  shown : Option String := none
  deriving DecidableEq, Repr

structure Fault where
  kind : FaultKind
  message : String
  line : Nat
  pointer : Pointer
  deriving DecidableEq, Repr

/-- A complaint about a part of a source that was read; its columns count bytes. -/
def Fault.about (s : Span) (message : String) : Fault :=
  ⟨.syntax_, message, s.start.line,
    { column := s.start.bytes + 1, stop := some (s.stop.bytes + 1) }⟩

/-!
The features that a module asks for. Such a request stands at the beginning of the module, where
only a text that explains the module may come before it.
-/

/-- What the requests of a module ask for, and the line of the last one. -/
structure Features where
  lazyHints : Bool := false
  line : Nat := 0
  deriving DecidableEq, Repr

namespace Features

/-- The module that features are imported from. -/
def source : String := "__future__"

def known : List String :=
  ["nested_scopes", "generators", "division", "absolute_import", "with_statement",
    "print_function", "unicode_literals", "barry_as_FLUFL", "generator_stop", "annotations"]

private def refuse (s : Span) (column : Nat) (message : String) : Except Fault Features :=
  .error ⟨.syntax_, message, s.start.line, { column := column }⟩

/-- Takes the features of one request. -/
def request (f : Features) (s : Span) : List ImportName → Except Fault Features
  | [] => .ok { f with line := s.start.line }
  | n :: rest =>
    if known.contains n.path then
      request { f with lazyHints := f.lazyHints || n.path == "annotations" } s rest
    else
      refuse s (s.start.bytes + 1)
        (if n.path == "braces" then "not a chance"
        else "future feature " ++ n.path ++ " is not defined")

def lateMessage : String := "from __future__ imports must occur at the beginning of the file"

/-- Goes through statements; `done` tells that no request may follow, except that one on the same
line is only complained about. -/
def collect (f : Features) (done : Bool) (line : Nat) : List Stmt → Except Fault Features
  | [] => .ok f
  | stmt :: rest =>
    let s := stmt.span
    if done && line < s.start.line then .ok f
    else match stmt with
      | .importFrom _ _ path names =>
        if path != source then collect f true s.start.line rest
        else if done then refuse s s.start.bytes lateMessage
        else do collect (← f.request s names) done s.start.line rest
      | _ => collect f true s.start.line rest

end Features

/-- The features of a module. -/
def Module.features (m : Module) : Except Fault Features :=
  match m with
  | .expression _ (.constant _ (.str ..)) :: rest => Features.collect {} false 0 rest
  | stmts => Features.collect {} false 0 stmts

end Stencil.Source
