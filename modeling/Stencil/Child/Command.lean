import Stencil.Data.Plain
import Stencil.Decimal.Reader
import Stencil.Files.Tree
import Stencil.Source.Encoded
import Stencil.Source.Remark
import Stencil.Text.Escape

/-!
What a child process leaves behind: its exit code, what it wrote, and how long it ran.
-/
namespace Stencil.Child
open Stencil.Files

/-- Output of a program that ended by itself; a negative code tells the signal that ended it. -/
structure Ending where
  code : Int := 0
  out : List Char := []
  err : List Char := []
  /-- Seconds. -/
  time : Float := 0.0

/-- What a program sees. -/
structure Surroundings where
  tree : Tree
  /-- The absolute path of its working directory. -/
  here : Path
  environment : List (String × String)

/-- Raw bytes that a program writes, as characters of the same code. -/
def bytesOf (cs : List Char) : List UInt8 := cs.map fun c => c.toNat.toUInt8

/-- A text as the bytes a program would write, each as a character. -/
def rawChars (s : String) : List Char := (Text.encodeUtf8 s).map fun b => Char.ofNat b.toNat

/-!
Printing with a pattern, as the command of that name does: escapes in the pattern stand for bytes,
and the pattern is used again while arguments are left.
-/
open Stencil.Text

/-- The escape behind a backslash, and what follows it. -/
private def escape : List Char → List Char × List Char
  | [] => (['\\'], [])
  | c :: rest =>
    if (octalDigit? c).isSome then
      let (n, after) := takeOctal (c :: rest)
      ([Char.ofNat (n % 256)], after)
    else
      match c with
      | 'a' => (['\x07'], rest)
      | 'b' => (['\x08'], rest)
      | 'f' => (['\x0c'], rest)
      | 'n' => (['\n'], rest)
      | 'r' => (['\r'], rest)
      | 't' => (['\t'], rest)
      | 'v' => (['\x0b'], rest)
      | '\\' => (['\\'], rest)
      | c => (['\\', c], rest)

private def numberText (arg : String) : List Char :=
  intDigits ((Decimal.int? 0 arg).getD 0)

/-- One pass over the pattern: what it prints and the arguments it leaves. -/
private def pass : Nat → List Char → List String → List Char × List String
  | 0, _, args => ([], args)
  | _, [], args => ([], args)
  | fuel + 1, '\\' :: rest, args =>
    let (cs, rest) := escape rest
    let (more, args) := pass fuel rest args
    (cs ++ more, args)
  | fuel + 1, '%' :: '%' :: rest, args =>
    let (more, args) := pass fuel rest args
    ('%' :: more, args)
  | fuel + 1, '%' :: c :: rest, args =>
    let arg := args.headD ""
    let cs := match c with
      | 'd' | 'i' => numberText arg
      | 'c' => (rawChars arg).take 1
      | _ => rawChars arg
    let (more, args) := pass fuel rest args.tail
    (cs ++ more, args)
  | fuel + 1, c :: rest, args =>
    let (more, args) := pass fuel rest args
    (rawChars (.singleton c) ++ more, args)

private def passes (pattern : List Char) : Nat → List String → List Char
  | 0, _ => []
  | fuel + 1, args =>
    let (cs, left) := pass (pattern.length + 1) pattern args
    if left.isEmpty || left.length == args.length then cs else cs ++ passes pattern fuel left

/-- What printing with a pattern writes. -/
def formatted (pattern : String) (args : List String) : List Char :=
  passes pattern.toList (args.length + 1) args

/-- The escapes of a text that the shell's own echo resolves. -/
def withEscapes : Nat → List Char → List Char
  | 0, cs => cs
  | _, [] => []
  | fuel + 1, '\\' :: rest =>
    let (cs, rest) := escape rest
    cs ++ withEscapes fuel rest
  | fuel + 1, c :: rest => c :: withEscapes fuel rest

/-!
The check of source files by a child interpreter. The first file that it cannot read or accept
ends it with a complaint; on files that it accepts it may remark something. A plain fault is shown
with its line and with marks below the columns that it points at; other faults are told in one line.
-/

private def indent : String := "    "

/-- The marks below a line, from which so many characters were taken off in front. -/
private def marks (line : List Char) (taken : Nat) (p : Source.Pointer) : String :=
  let first := p.column - 1
  if p.column ≤ taken then ""
  else
    let stop := match p.stop with
      | none | some 0 => p.column + 1
      | some n => if n == p.column then n + 1 else n
    let blank (c : Char) := if isBlank c then c else ' '
    indent ++ .ofList ((line.take (first - taken)).map blank) ++
      .ofList (List.replicate (stop - 1 - first) '^') ++ "\n"

private def lineShown (line : String) (p : Source.Pointer) : String :=
  let all := trimRightBy (· == '\n') line.toList
  let kept := trimLeftBy (fun c => c == ' ' || c == '\n' || c == '\x0c') all
  indent ++ .ofList kept ++ "\n" ++ marks kept (all.length - kept.length) p

/-- A fault with the line it is in. -/
def faultShown (name line : String) (f : Source.Fault) : String :=
  match f.kind with
  | .indentation | .tabs =>
    "Sorry: " ++ f.kind.name ++ ": " ++ f.message ++ " (" ++ name ++ ", line " ++
      ofNat f.line ++ ")"
  | .syntax_ =>
    "  File \"" ++ name ++ "\", line " ++ ofNat f.line ++ "\n" ++
      (if f.line == 0 then "" else lineShown (f.pointer.shown.getD line) f.pointer) ++
      "SyntaxError: " ++ f.message ++ "\n"

/-- The remarks on a source, each with the line it is on. -/
private def remarksShown (name : String) (content : List UInt8) (m : Source.Module) : String :=
  joinWith "" (m.remarks.map fun r =>
    let line := Source.Encoded.strippedLine content r.line
    r.shown name ++ (if line == "" then "" else "  " ++ line ++ "\n"))

/-- Checks one source file: what is wrong with it, or what is remarked on it. -/
def check (w : Surroundings) (name : String) : Except String String :=
  match w.tree.read (w.here.join (.ofString name)) with
  | .error e => .error (FileError.message ⟨e.fault, .ofString name⟩)
  | .ok data =>
    match Source.Module.ofBytes data.toBytes with
    | .ok m => .ok (remarksShown name data.toBytes m)
    | .error .zeroByte =>
      .error "Sorry: ValueError: source code string cannot contain null bytes"
    | .error (.fault f line) => .error (faultShown name line f)

/-- Goes through names in order with a check, after some text that was written before. -/
def checkFrom (found : String → Except String String) (written : String) : List String → Ending
  | [] => { err := rawChars written }
  | name :: rest =>
    match found name with
    | .ok remarks => checkFrom found (written ++ remarks) rest
    | .error text => { code := 1, err := rawChars (written ++ text) }

/-- Checks files in order. -/
def checkSources (w : Surroundings) (names : List String) : Ending := checkFrom (check w) "" names

/-!
Small programs that a command may start: they print, wait, show files, check sources or do
nothing.
-/

private def written (cs : List Char) : Ending := { out := cs }
private def refused (message : String) : Ending := { code := 1, err := rawChars (message ++ "\n") }

private def echoText (args : List String) : List Char :=
  match args with
  | "-n" :: rest => rawChars (joinWith " " rest)
  | args => rawChars (joinWith " " args ++ "\n")

private def unitSeconds (c : Char) : Option Float :=
  match c with
  | 's' => some 1.0
  | 'm' => some 60.0
  | 'h' => some 3600.0
  | 'd' => some 86400.0
  | _ => none

private def seconds? (s : String) : Option Float :=
  match Decimal.float? s with
  | some x => some x
  | none =>
    match s.toList.reverse with
    | c :: rest => do return (← Decimal.float? (.ofList rest.reverse)) * (← unitSeconds c)
    | [] => none

private def wait (args : List String) : Ending :=
  match args.mapM seconds? with
  | some (x :: xs) => { time := xs.foldl (· + ·) x }
  | _ => refused "sleep: missing operand"

private def show_ (w : Surroundings) : List String → Ending
  | [] => {}
  | name :: rest =>
    let after := show_ w rest
    let path := w.here.join (.ofString name)
    match w.tree.read path with
    | .ok d =>
      { after with out := (d.toBytes.map fun b => Char.ofNat b.toNat) ++ after.out }
    | .error e =>
      { after with
        code := 1
        err := rawChars ("cat: " ++ name ++ ": " ++ e.fault.text ++ "\n") ++ after.err }

/-- Runs a program by its name; nothing when there is no such program. -/
def program? (w : Surroundings) (name : String) (args : List String) : Option Ending :=
  match name with
  | "echo" => some (written (echoText args))
  | "printf" =>
    match args with
    | pattern :: rest => some (written (formatted pattern rest))
    | [] => some (refused "printf: missing operand")
  | "pwd" => some (written (rawChars (w.here.toString ++ "\n")))
  | "cat" => some (show_ w args)
  | "sleep" => some (wait args)
  | "python3" | "python" =>
    match args with
    | "-m" :: "py_compile" :: names => some (checkSources w names)
    | _ => some {}
  | "true" => some {}
  | "false" => some { code := 1 }
  | _ => none

end Stencil.Child

/-!
A small command language: commands one after another, joined so that the second depends on the
first, quotes, variables, and output sent elsewhere.
-/
namespace Stencil.Child
open Stencil.Text

/-- How a command follows the one before it. -/
private inductive Joint where
  | always | onSuccess | onFailure
  deriving DecidableEq

/-- Where the two outputs of a command go. -/
private inductive Target where
  | out | err | nowhere
  deriving DecidableEq

private structure SimpleCommand where
  joint : Joint
  words : List String
  out : Target := .out
  err : Target := .err

private def isVariableChar (c : Char) : Bool := c.isAlphanum || c == '_'

/-- The value of a variable that is named here, and what follows the name. -/
private def variable_ (w : Surroundings) (cs : List Char) : Option (String × List Char) :=
  let value (name : List Char) := (w.environment.lookup (.ofList name)).getD ""
  match cs with
  | '$' :: rest => some ("$$", rest)
  | '\x7b' :: rest =>
    let name := rest.takeWhile isVariableChar
    match rest.drop name.length with
    | '\x7d' :: after => some (value name, after)
    | _ => none
  | cs =>
    let name := cs.takeWhile isVariableChar
    if name.isEmpty then none else some (value name, cs.drop name.length)

/-- What is being read: the word so far, backwards, and whether there is one. -/
private structure Reading where
  word : List Char := []
  hasWord : Bool := false
  words : List String := []
  joint : Joint := .always
  out : Target := .out
  err : Target := .err
  done : List SimpleCommand := []

private def Reading.add (r : Reading) (cs : List Char) : Reading :=
  { r with word := cs.reverse ++ r.word, hasWord := true }

private def Reading.endWord (r : Reading) : Reading :=
  if r.hasWord then
    { r with word := [], hasWord := false, words := r.words ++ [.ofList r.word.reverse] }
  else r

private def Reading.endCommand (r : Reading) (next : Joint) : Reading :=
  let r := r.endWord
  if r.words.isEmpty then { r with joint := next }
  else
    { joint := next, done := r.done ++ [⟨r.joint, r.words, r.out, r.err⟩] }

/-- A value outside quotes falls into words at its blanks. -/
private def Reading.addSplit (r : Reading) (value : String) : Reading :=
  value.toList.foldl (fun r c =>
    if c == ' ' || c == '\t' || c == '\n' then r.endWord else r.add [c]) r

private def redirect? (cs : List Char) : Option ((Reading → Reading) × List Char) :=
  let sends (s : String) (f : Reading → Reading) :=
    (dropStart? cs s.toList).map fun rest => (f, rest)
  (sends ">&2" fun r => { r with out := .err }).or <|
  (sends "1>&2" fun r => { r with out := .err }).or <|
  (sends "2>&1" fun r => { r with err := r.out }).or <|
  (sends "2>/dev/null" fun r => { r with err := .nowhere }).or <|
  (sends "2> /dev/null" fun r => { r with err := .nowhere }).or <|
  (sends ">/dev/null" fun r => { r with out := .nowhere }).or
    (sends "> /dev/null" fun r => { r with out := .nowhere })

private def readScript (w : Surroundings) : Nat → Reading → List Char → Option (List SimpleCommand)
  | 0, r, _ => some (r.endCommand .always).done
  | _, r, [] => some (r.endCommand .always).done
  | fuel + 1, r, c :: rest =>
    match if r.hasWord then none else redirect? (c :: rest) with
    | some (f, rest) => readScript w fuel (f r.endWord) rest
    | none =>
      match c, rest with
      | '\'', rest =>
        let text := rest.takeWhile (· != '\'')
        if text.length == rest.length then none
        else readScript w fuel (r.add text) (rest.drop (text.length + 1))
      | '"', rest => quotedPart w fuel { r with hasWord := true } rest
      | '\\', d :: rest => readScript w fuel (r.add [d]) rest
      | '$', rest =>
        match variable_ w rest with
        | some (value, rest) => readScript w fuel (r.addSplit value) rest
        | none => readScript w fuel (r.add ['$']) rest
      | '&', '&' :: rest => readScript w fuel (r.endCommand .onSuccess) rest
      | '|', '|' :: rest => readScript w fuel (r.endCommand .onFailure) rest
      | ';', rest | '\n', rest => readScript w fuel (r.endCommand .always) rest
      | ' ', rest | '\t', rest => readScript w fuel r.endWord rest
      | '>', '&' :: '2' :: rest => readScript w fuel { r.endWord with out := .err } rest
      | c, rest => readScript w fuel (r.add [c]) rest
where
  quotedPart (w : Surroundings) : Nat → Reading → List Char → Option (List SimpleCommand)
    | 0, _, _ => none
    | _, _, [] => none
    | fuel + 1, r, '"' :: rest => readScript w fuel r rest
    | fuel + 1, r, '\\' :: d :: rest =>
      let kept := if d == '"' || d == '\\' || d == '$' then [d] else ['\\', d]
      quotedPart w fuel (r.add kept) rest
    | fuel + 1, r, '$' :: rest =>
      match variable_ w rest with
      | some (value, rest) => quotedPart w fuel (r.add value.toList) rest
      | none => quotedPart w fuel (r.add ['$']) rest
    | fuel + 1, r, c :: rest => quotedPart w fuel (r.add [c]) rest

private def signalNumber (s : String) : Int :=
  match s with
  | "-KILL" => 9
  | "-TERM" => 15
  | "-INT" => 2
  | "-HUP" => 1
  | s => ((Decimal.int? 10 (.ofList (s.toList.drop 1))).getD 15)

private def wholeOf (s : String) : Int := ((Decimal.int? 10 s).getD 0) % 256

/-- What a command does: its ending, and whether the shell ends with it. -/
private def perform (w : Surroundings) (last : Int) (c : SimpleCommand) : Ending × Bool :=
  match c.words with
  | "exit" :: args => ({ code := (args.head?.map wholeOf).getD last }, true)
  | ":" :: _ => ({}, false)
  | ["kill", signal, "$$"] => ({ code := -signalNumber signal }, true)
  | ["kill", "$$"] => ({ code := -15 }, true)
  | "exec" :: name :: args =>
    (((program? w name args).getD
      { code := 127, err := rawChars ("sh: 1: exec: " ++ name ++ ": not found\n") }), true)
  | "echo" :: args =>
    let (ends, args) := match args with
      | "-n" :: rest => (false, rest)
      | args => (true, args)
    let cs := rawChars (joinWith " " args)
    ({ out := withEscapes (cs.length + 1) cs ++ (if ends then ['\n'] else []) }, false)
  | name :: args =>
    (((program? w name args).getD
      { code := 127, err := rawChars ("sh: 1: " ++ name ++ ": not found\n") }), false)
  | [] => ({}, false)

private def sent (c : SimpleCommand) (e : Ending) : Ending :=
  let pick (t : Target) :=
    (if c.out == t then e.out else []) ++ (if c.err == t then e.err else [])
  { e with out := pick .out, err := pick .err }

private def runs (joint : Joint) (last : Int) : Bool :=
  match joint with
  | .always => true
  | .onSuccess => last == 0
  | .onFailure => last != 0

private def runFrom (w : Surroundings) (done : Ending) : List SimpleCommand → Ending
  | [] => done
  | c :: rest =>
    if runs c.joint done.code then
      let (e, stops) := perform w done.code c
      let e := sent c e
      let done := ⟨e.code, done.out ++ e.out, done.err ++ e.err, done.time + e.time⟩
      if stops then done else runFrom w done rest
    else runFrom w done rest

/-- Runs a script. -/
def shell (w : Surroundings) (script : String) : Ending :=
  match readScript w (2 * script.length + 2) {} script.toList with
  | some commands => runFrom w {} commands
  | none =>
    { code := 2, err := rawChars "sh: 1: Syntax error: Unterminated quoted string\n" }

/-!
Running a command in a directory with a time limit. A command that takes too long answers -1 and
says so; else its outputs are read as text, with the white space at both ends dropped.
-/
open Stencil.Files

/-- What running a command gives. -/
structure Completion where
  code : Int
  stdout : String
  stderr : String
  deriving DecidableEq, Repr

structure Command where
  words : List String
  cwd : Option Path := none
  timeout : Plain := .int 120
  environment : List (String × String) := []

/-- What a command comes to; nothing where there is no such program. -/
def ran (w : Surroundings) (words : List String) : Option Ending :=
  match words with
  | ["sh", "-c", script] => some (shell w script)
  | name :: args => program? w name args
  | [] => none

/-- Whether a time is too long for a limit. -/
def isOver (limit : Plain) (time : Float) : Bool :=
  match limit with
  | .int n => Decimal.ofInt n ≤ time && time > 0.0
  | .float x => x ≤ time && time > 0.0
  | _ => false

def timedOut (words : List String) (limit : Plain) : Completion :=
  ⟨-1, "", "Command timed out after " ++ limit.text ++ "s: " ++ joinWith " " words⟩

/-- The text of what a program wrote. -/
def outputText (cs : List Char) : String := trim (decodeLenient (bytesOf cs))

/-- The directory that a command runs in. -/
def Command.directory (t : Tree) (c : Command) : Except FileError Path :=
  match c.cwd with
  | none => return t.here
  | some p => do
    match ← t.node p with
    | .dir _ => return t.resolve p
    | .file _ => throw ⟨.notDirectory, p⟩

/-- Runs a command. A missing directory and a missing program are file errors. -/
def Command.run (t : Tree) (c : Command) : Except FileError Completion := do
  let here ← c.directory t
  match ran ⟨t, here, c.environment⟩ c.words with
  | none => throw ⟨.missing, .ofString (c.words.headD "")⟩
  | some e =>
    if isOver c.timeout e.time then return timedOut c.words c.timeout
    else return ⟨e.code, outputText e.out, outputText e.err⟩

end Stencil.Child
