import Stencil.Settings.Options
import Stencil.Text.Words

/-!
The flags of the command line and the ways to write them: a letter behind one dash, letters in a
row behind one dash, or a name behind two dashes, which may be cut short as long as it names one
flag. No flag takes a value.
-/
namespace Stencil.CommandLine
open Stencil.Text

inductive Flag where
  | help | solution | project | verbose | keepConfigBuild
  deriving DecidableEq, Repr

namespace Flag

def all : List Flag := [help, solution, project, verbose, keepConfigBuild]

def letter? : Flag → Option Char
  | help => some 'h'
  | solution => some 's'
  | project => some 'p'
  | verbose => some 'v'
  | keepConfigBuild => none

def name : Flag → String
  | help => "--help"
  | solution => "--solution"
  | project => "--project"
  | verbose => "--verbose"
  | keepConfigBuild => "--keep-config-build"

/-- The spellings of a flag, the letter first. -/
def spellings (f : Flag) : List String :=
  (f.letter?.map fun c => String.ofList ['-', c]).toList ++ [f.name]

def ofLetter? (c : Char) : Option Flag := all.find? fun f => f.letter? == some c

/-- The flags whose name starts with a text. -/
def startingWith (cs : List Char) : List Flag := all.filter fun f => startsWith f.name.toList cs

end Flag

/-- What a user did wrong on the command line. -/
inductive UsageError where
  | ambiguous (word : String) (flags : List Flag)
  | unwantedValue (flag : Flag) (value : String)
  | conflict (flag earlier : Flag)
  | missingTarget
  | unrecognized (words : List String)
  deriving DecidableEq, Repr

namespace UsageError

private def about (f : Flag) (text : String) : String :=
  "argument " ++ joinWith "/" f.spellings ++ ": " ++ text

def message : UsageError → String
  | ambiguous word flags =>
    "ambiguous option: " ++ word ++ " could match " ++ joinWith ", " (flags.map Flag.name)
  | unwantedValue flag value => about flag ("ignored explicit argument " ++ quoted value)
  | conflict flag earlier =>
    about flag ("not allowed with argument " ++ joinWith "/" earlier.spellings)
  | missingTarget => "the following arguments are required: target"
  | unrecognized words => "unrecognized arguments: " ++ joinWith " " words

end UsageError

/-- A word of the command line. -/
inductive Word where
  | operand (text : String)
  | separator
  | flags (fs : List Flag)
  /-- What looks like a flag and is none. -/
  | unknown (text : String)
  /-- A flag that is given a value; it is wrong when its turn comes. -/
  | withValue (flag : Flag) (value : String)
  deriving DecidableEq, Repr

namespace Word

private def isFraction (cs : List Char) : Bool :=
  match cs.dropWhile isDecimal with
  | '.' :: places => !places.isEmpty && places.all isDecimal
  | _ => false

/-- Whether what follows a dash makes a negative number; a line feed may end it. -/
def isNumber (cs : List Char) : Bool :=
  let cs := if cs.getLast? == some '\n' then cs.dropLast else cs
  (!cs.isEmpty && cs.all isDecimal) || isFraction cs

/-- A word with a dash that starts no flag. Numbers and words with a blank are operands. -/
private def other (word : List Char) : Word :=
  if isNumber (word.drop 1) || word.contains ' ' then .operand (.ofList word)
  else .unknown (.ofList word)

/-- The flags of letters in a row, after those that are known. -/
private def ofLetters (known : List Flag) (f : Flag) : List Char → Word
  | [] => .flags (known ++ [f])
  | c :: rest =>
    match Flag.ofLetter? c with
    | some g => ofLetters (known ++ [f]) g rest
    | none => .withValue f (.ofList (c :: rest))

/-- A word that starts with a letter of a flag. A sign may stand before the letters that follow. -/
private def ofLetter (f : Flag) : List Char → Word
  | ['='] => .withValue f ""
  | '=' :: rest => ofLetters [] f rest
  | rest => ofLetters [] f rest

/-- A word with two dashes in front. -/
private def ofName (word : List Char) : Except UsageError Word :=
  let name := word.takeWhile (· != '=')
  match Flag.startingWith name with
  | [] => .ok (other word)
  | [f] =>
    match word.drop name.length with
    | _ :: value => .ok (.withValue f (.ofList value))
    | [] => .ok (.flags [f])
  | fs => .error (.ambiguous (.ofList word) fs)

/-- Reads a word that no separator comes before. -/
def read (s : String) : Except UsageError Word :=
  match s.toList with
  | ['-', '-'] => .ok .separator
  | '-' :: '-' :: rest => ofName ('-' :: '-' :: rest)
  | '-' :: c :: rest =>
    match Flag.ofLetter? c with
    | some f => .ok (ofLetter f rest)
    | none => .ok (other ('-' :: c :: rest))
  | _ => .ok (.operand s)

/-- Reads words; all words behind a separator are operands. -/
def readAll : List String → Except UsageError (List Word)
  | [] => .ok []
  | s :: rest => do
    match ← read s with
    | .separator => return .separator :: rest.map .operand
    | w => return w :: (← readAll rest)

end Word
/-!
The arguments of the program, read from the words of a command line. Words are taken in order: the
first operand is the target, and the flags for a solution and a project exclude each other. A call
for help ends the reading where it stands.
-/
open Stencil.Settings

structure Arguments where
  target : String
  kind : Option TargetKind := none
  verbose : Bool := false
  keepConfigBuild : Bool := false
  deriving DecidableEq, Repr

/-- Why no arguments come of words. -/
inductive Refusal where
  | help
  | usage (e : UsageError)
  deriving DecidableEq, Repr

/-- What the words so far have given. -/
private structure Reading where
  target : Option String := none
  kind : Option TargetKind := none
  verbose : Bool := false
  keepConfigBuild : Bool := false
  /-- Whether the word before was the target. -/
  atTarget : Bool := false
  unknown : List String := []

namespace Reading

private def choose (r : Reading) (kind : TargetKind) (flag other : Flag) : Except Refusal Reading :=
  if r.kind.isNone || r.kind == some kind then .ok { r with kind := some kind }
  else .error (.usage (.conflict flag other))

private def take (r : Reading) : Flag → Except Refusal Reading
  | .help => .error .help
  | .solution => r.choose .solution .solution .project
  | .project => r.choose .project .project .solution
  | .verbose => .ok { r with verbose := true }
  | .keepConfigBuild => .ok { r with keepConfigBuild := true }

/-- Takes a word. A separator counts with the target next to it and is unknown elsewhere. -/
private def word (r : Reading) (w : Word) : Except Refusal Reading :=
  let next := { r with atTarget := false }
  match w with
  | .operand s =>
    if r.target.isNone then .ok { r with target := some s, atTarget := true }
    else .ok { next with unknown := r.unknown ++ [s] }
  | .separator =>
    if r.target.isNone || r.atTarget then .ok next
    else .ok { next with unknown := r.unknown ++ ["--"] }
  | .flags fs => fs.foldlM take next
  | .unknown s => .ok { next with unknown := r.unknown ++ [s] }
  | .withValue flag value => .error (.usage (.unwantedValue flag value))

private def finish (r : Reading) : Except Refusal Arguments :=
  match r.target with
  | none => .error (.usage .missingTarget)
  | some target =>
    if r.unknown.isEmpty then .ok ⟨target, r.kind, r.verbose, r.keepConfigBuild⟩
    else .error (.usage (.unrecognized r.unknown))

end Reading

def Arguments.read (words : List String) : Except Refusal Arguments := do
  let ws ← (Word.readAll words).mapError .usage
  let r ← ws.foldlM Reading.word {}
  r.finish

def usageLine : String := "usage: ntgen [-h] [-s | -p] [-v] [--keep-config-build] target\n"

/-- What a wrong command line is answered with. -/
def UsageError.text (e : UsageError) : String :=
  usageLine ++ "ntgen: error: " ++ e.message ++ "\n"

private def helpColumn : Nat := 23

/-- A row of the help text: what it explains, and the lines that explain it. -/
private def helpRow (title : String) (explained : List String) : String :=
  match explained with
  | [] => "  " ++ title ++ "\n"
  | first :: rest =>
    let start := String.ofList (padRight helpColumn ' ' ("  " ++ title).toList)
    let blank := String.ofList (List.replicate helpColumn ' ')
    joinWith "" ((start ++ first) :: rest.map (blank ++ ·) |>.map (· ++ "\n"))

def Flag.explained : Flag → List String
  | help => ["show this help message and exit"]
  | solution => ["Target is a solution"]
  | project => ["Target is a project"]
  | verbose => ["Print step-by-step progress"]
  | keepConfigBuild =>
    ["Keep the temporary directory used to build each", "project's config"]

def helpText : String :=
  usageLine ++
  "\nGenerate source files from .nt templates and project symbols\n" ++
  "\npositional arguments:\n" ++
  helpRow "target" ["Solution file or project descriptor"] ++
  "\noptions:\n" ++
  joinWith "" (Flag.all.map fun f => helpRow (joinWith ", " f.spellings) f.explained) ++
  "\nExamples:\n" ++
  "  ntgen demo.yaml --solution\n" ++
  "  ntgen app/pyproject.toml --project --verbose\n"

end Stencil.CommandLine
