import Stencil.Text.Words

/-!
Paths as sequences of names. Reading a path drops empty names and single dots and keeps double
dots; a path never touches the file tree.
-/
namespace Stencil.Files
open Stencil.Text

/-- Where a path starts. Exactly two slashes in front are a root of their own. -/
inductive Anchor where
  | here | root | otherRoot
  deriving DecidableEq, Repr, Inhabited

def Anchor.text : Anchor → String
  | .here => ""
  | .root => "/"
  | .otherRoot => "//"

structure Path where
  anchor : Anchor
  names : List String
  deriving DecidableEq, Repr, Inhabited

namespace Path

def absolute (p : Path) : Bool := p.anchor != .here

private def anchorOf (s : String) : Anchor :=
  match (s.toList.takeWhile (· == '/')).length with
  | 0 => .here
  | 2 => .otherRoot
  | _ => .root

def ofString (s : String) : Path :=
  ⟨anchorOf s, ((splitOnChar '/' s.toList).map String.ofList).filter fun n => n != "" && n != "."⟩

def toString (p : Path) : String :=
  if p.names.isEmpty && !p.absolute then "." else p.anchor.text ++ joinWith "/" p.names

instance : ToString Path := ⟨toString⟩

/-- A path from here; an absolute path starts anew. -/
def join (p q : Path) : Path := if q.absolute then q else ⟨p.anchor, p.names ++ q.names⟩

instance : HDiv Path String Path := ⟨fun p s => p.join (ofString s)⟩

/-- What has a name in the directory at a path. -/
def child (p : Path) (name : String) : Path := ⟨p.anchor, p.names ++ [name]⟩

def parent (p : Path) : Path := ⟨p.anchor, p.names.dropLast⟩

/-- The last name; empty for a root. -/
def name (p : Path) : String := p.names.getLast?.getD ""

/-- Cuts a name at its last dot, unless the dot is its first or last character. -/
def splitSuffix (name : String) : String × String :=
  let cs := name.toList
  let tail := (cs.reverse.takeWhile (· != '.')).reverse
  let start := cs.length - tail.length - 1
  if tail.length == cs.length || tail.isEmpty || start == 0 then (name, "")
  else (.ofList (cs.take start), .ofList (cs.drop start))

def stem (p : Path) : String := (splitSuffix p.name).1
def suffix (p : Path) : String := (splitSuffix p.name).2

def withName (p : Path) (name : String) : Path := ⟨p.anchor, p.names.dropLast ++ [name]⟩

/-- The names after a common beginning. -/
def relativeTo? (p root : Path) : Option Path :=
  if p.anchor == root.anchor && root.names.isPrefixOf p.names
  then some ⟨.here, p.names.drop root.names.length⟩ else none

/-- Takes each double dot together with the name before it. -/
def collapse (names : List String) : List String :=
  (names.foldl (fun back n => if n == ".." then back.tail else n :: back) []).reverse

/-- The absolute path from a directory, without double dots. -/
def resolve (here : Path) (p : Path) : Path :=
  ⟨.root, collapse (here.join p).names⟩

/-- Order by names, an absolute path first. -/
def lt (p q : Path) : Bool :=
  let key (p : Path) := if p.absolute then p.anchor.text :: p.names else p.names
  decide (key p < key q)

/-- The path as it appears inside a listing of a handle. -/
def listed (p : Path) : String := "PosixPath(" ++ quoted p.toString ++ ")"

end Path
end Stencil.Files
