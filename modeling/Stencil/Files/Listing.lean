import Stencil.Files.Tree

/-!
A tree as a list of what lies below a directory, and what differs between two trees. Directories
are listed only when they are empty, with a slash behind their names.
-/
namespace Stencil.Files

/-- What is listed at a place. -/
inductive Listed where
  | file (data : Data)
  | emptyDir
  deriving DecidableEq, Repr

mutual

/-- What lies at a place and below it. -/
def Node.listed (place : String) : Node → List (String × Listed)
  | .file d => [(place, .file d)]
  | .dir [] => [(place ++ "/", .emptyDir)]
  | .dir entries => listedBelow place entries

def listedBelow (place : String) : List (String × Node) → List (String × Listed)
  | [] => []
  | (name, node) :: rest => node.listed (place ++ "/" ++ name) ++ listedBelow place rest

end

/-- What lies below a directory, by names from there. -/
def Tree.listing (t : Tree) (p : Path) : List (String × Listed) :=
  match t.node p with
  | .ok (.dir entries) => (listedBelow "" entries).map fun (n, l) => (.ofList (n.toList.drop 1), l)
  | _ => []

/-- Puts what was listed at a path, with the directories above it. What cannot be put is left
out. -/
def Tree.plant (t : Tree) (p : Path) : Listed → Tree
  | .emptyDir => (t.makeDirs p).toOption.getD t
  | .file d =>
    let t := (t.makeDirs p.parent).toOption.getD t
    (t.write p d).toOption.getD t

/-- A difference at a place: what lies there now, or nothing. -/
structure Change where
  place : String
  now : Option Listed
  deriving DecidableEq, Repr

/-- What is new or different below a directory, then what is gone. -/
def Tree.changes (before after : Tree) (p : Path) : List Change :=
  let old := before.listing p
  let new := after.listing p
  ((new.filter fun (n, l) => old.lookup n != some l).map fun (n, l) => ⟨n, some l⟩) ++
    (old.filter fun (n, _) => (new.lookup n).isNone).map fun (n, _) => ⟨n, none⟩

end Stencil.Files
