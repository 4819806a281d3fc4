import Stencil.CommandLine.Command
import Stencil.Files.Listing

/-!
The program. It reads the directories that a call may look at, carries out the call on what it has
read, and writes what has changed. A call removes nothing but what it has made itself.
-/
namespace Stencil.Program
open Stencil.Files

/-- How deep directories are read. -/
def depthLimit : Nat := 64

/-- How often what was read may lead to further directories. -/
def roundLimit : Nat := 32

/-- Adds what lies at a place of the disk, and below it. -/
def readBelow : Nat → String → Tree → IO Tree
  | 0, _, t => return t
  | depth + 1, place, t => do
    let there := (← IO.currentDir) / place
    if ← there.isDir then
      let names := (← there.readDir).map fun e => e.fileName
      names.foldlM (fun t n => readBelow depth (place ++ "/" ++ n) t)
        (t.plant (.ofString place) .emptyDir)
    else if ← there.pathExists then
      let content ← IO.FS.readBinFile place
      return t.plant (.ofString place) (.file (.bytes content.toList))
    else return t

/-- Adds the names in a directory, as empty directories. -/
def readNames (place : String) (t : Tree) : IO Tree := do
  let there := (← IO.currentDir) / place
  let entries ← if ← there.isDir then there.readDir else pure #[]
  return entries.foldl (fun t e => t.plant (.ofString (place ++ "/" ++ e.fileName)) .emptyDir)
    (t.plant (.ofString place) .emptyDir)

/-- The directory to read for a place. -/
def directoryOf (p : Path) : IO Path := do
  if ← ((← IO.currentDir) / p.toString).isDir then return p else return p.parent

/-- Reads the directories of the places that are not read yet, and those they lead to. -/
def readPlaces (o : Settings.Options) :
    Nat → List Path → List Path → Tree → IO Tree
  | 0, _, _, t => return t
  | rounds + 1, done, places, t => do
    let directories ← (places.map t.resolve).mapM directoryOf
    let isNew (d : Path) : Bool := done.all fun p => (d.relativeTo? p).isNone
    match (directories.filter isNew).eraseDups with
    | [] => return t
    | fresh =>
      let t ← fresh.foldlM (fun t d => readBelow depthLimit d.toString t) t
      readPlaces o rounds (done ++ fresh) (Project.placesOf t o) t

/-- Writes what has changed. -/
def writeChanges (before after : Tree) : IO PUnit :=
  (before.changes after (.ofString "/")).forM fun c => do
    let p := Path.ofString ("/" ++ c.place)
    match c.now with
    | some (.file d) =>
      IO.FS.createDirAll p.parent.toString
      IO.FS.writeBinFile p.toString ⟨d.toBytes.toArray⟩
    | some .emptyDir => IO.FS.createDirAll p.toString
    | none => pure ()

/-- The variables that settings are read from. -/
def readEnvironment : IO (List (String × String)) := do
  let values ← Settings.variableNames.mapM fun n => return (← IO.getEnv n).map fun v => (n, v)
  return values.filterMap id

def answer (a : CommandLine.Answer) : IO UInt32 := do
  IO.print a.output
  IO.eprint a.errors
  return a.exit.code.toUInt32

/-- Carries out options on the disk. -/
def perform (o : Settings.Options) : IO UInt32 := do
  let start ← IO.monoMsNow
  let here := Path.ofString (← IO.currentDir).toString
  let temporary := (← IO.getEnv "TMPDIR").getD "/tmp"
  let empty ← readNames temporary ⟨.dir [], here⟩
  let before ← readPlaces o roundLimit [] [here, o.target] empty
  let done := CommandLine.generate { temporary := .ofString temporary } o before
  writeChanges before done.tree
  let seconds := ((← IO.monoMsNow) - start).toFloat / 1000.0
  answer (CommandLine.answerOf (CommandLine.settle o.verbose seconds (fun _ => done) before))

end Stencil.Program

def main (words : List String) : IO UInt32 := do
  match Stencil.CommandLine.readOptions (← Stencil.Program.readEnvironment) words with
  | .error a => Stencil.Program.answer a
  | .ok o => Stencil.Program.perform o
