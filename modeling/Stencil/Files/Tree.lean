import Stencil.Files.Path
import Stencil.Text.CaseMap
import Stencil.Text.Utf8

/-!
The bytes of a packed archive: for every member a header, its name and its content as it is, then
a directory of the members and an end record. Numbers are written low byte first, and the content
is guarded by its cyclic redundancy check.
-/
namespace Stencil.Files.Archive
open Stencil.Text

abbrev Member := String × List UInt8

private def littleEndian : Nat → Nat → List UInt8
  | 0, _ => []
  | width + 1, n => UInt8.ofNat n :: littleEndian width (n / 256)

private def checkBit (c : UInt32) : UInt32 :=
  if c &&& 1 == 1 then (c >>> 1) ^^^ 0xEDB88320 else c >>> 1

private def checkByte (c : UInt32) (b : UInt8) : UInt32 :=
  (List.range 8).foldl (fun c _ => checkBit c) (c ^^^ b.toUInt32)

/-- The cyclic redundancy check of some bytes. -/
def checksum (bytes : List UInt8) : UInt32 :=
  (bytes.foldl checkByte 0xFFFFFFFF) ^^^ 0xFFFFFFFF

/-- What the header of a member and its row in the directory have in common: version, flags,
method, a fixed time, check, both sizes and the length of the name. -/
private def described (m : Member) : List UInt8 :=
  littleEndian 2 20 ++ littleEndian 2 0x800 ++ littleEndian 2 0 ++ littleEndian 2 0 ++
  littleEndian 2 0x21 ++ littleEndian 4 (checksum m.2).toNat ++
  littleEndian 4 m.2.length ++ littleEndian 4 m.2.length ++
  littleEndian 2 (encodeUtf8 m.1).length

private def memberBytes (m : Member) : List UInt8 :=
  [0x50, 0x4B, 3, 4] ++ described m ++ littleEndian 2 0 ++ encodeUtf8 m.1 ++ m.2

private def rowBytes (start : Nat) (m : Member) : List UInt8 :=
  [0x50, 0x4B, 1, 2] ++ littleEndian 2 20 ++ described m ++
  littleEndian 2 0 ++ littleEndian 2 0 ++ littleEndian 2 0 ++ littleEndian 2 0 ++
  littleEndian 4 0 ++ littleEndian 4 start ++ encodeUtf8 m.1

private def rowsFrom (start : Nat) : List Member → List UInt8
  | [] => []
  | m :: rest => rowBytes start m ++ rowsFrom (start + (memberBytes m).length) rest

def toBytes (members : List Member) : List UInt8 :=
  let body := members.flatMap memberBytes
  let rows := rowsFrom 0 members
  body ++ rows ++ [0x50, 0x4B, 5, 6] ++ littleEndian 2 0 ++ littleEndian 2 0 ++
    littleEndian 2 members.length ++ littleEndian 2 members.length ++
    littleEndian 4 rows.length ++ littleEndian 4 body.length ++ littleEndian 2 0

end Stencil.Files.Archive

/-!
A file tree and the operations on it. Directories list their entries by name; a file holds
bytes or is a packed archive. Every operation answers with the new tree or with the fault and
the path that met it, and touches nothing but the place its path leads to.
-/
namespace Stencil.Files
open Stencil.Text

/-- What a file holds. -/
inductive Data where
  | bytes (content : List UInt8)
  | archive (members : List (String × List UInt8))
  deriving DecidableEq, Repr

def Data.ofText (s : String) : Data := .bytes (encodeUtf8 s)

inductive Node where
  | file (data : Data)
  | dir (entries : List (String × Node))

namespace Node

def isDir : Node → Bool
  | file _ => false
  | dir _ => true

def child? : Node → String → Option Node
  | file _, _ => none
  | dir entries, name => entries.lookup name

def get? : Node → List String → Option Node
  | node, [] => some node
  | node, name :: rest => (node.child? name).bind fun c => c.get? rest

/-- Replaces or adds one entry, which keeps its place or comes last. -/
def putEntry (name : String) (node : Node) : List (String × Node) → List (String × Node)
  | [] => [(name, node)]
  | (n, old) :: rest => if n == name then (n, node) :: rest else (n, old) :: putEntry name node rest

/-- Puts a node at a place whose directories exist; anything else stays. -/
def put (new : Node) : List String → Node → Node
  | [], _ => new
  | _ :: _, file data => file data
  | name :: rest, dir entries =>
    match rest with
    | [] => dir (putEntry name new entries)
    | _ :: _ =>
      match entries.lookup name with
      | some c => dir (putEntry name (put new rest c) entries)
      | none => dir entries

def remove : List String → Node → Node
  | [], node => node
  | _ :: _, file data => file data
  | name :: rest, dir entries =>
    match rest with
    | [] => dir (entries.filter fun e => e.1 != name)
    | _ :: _ =>
      match entries.lookup name with
      | some c => dir (putEntry name (remove rest c) entries)
      | none => dir entries

end Node

mutual

/-- How many files a node holds. -/
def Node.fileCount : Node → Nat
  | .file _ => 1
  | .dir entries => countFiles entries

def countFiles : List (String × Node) → Nat
  | [] => 0
  | (_, node) :: rest => node.fileCount + countFiles rest

end

/-- Why an operation on a place fails. -/
inductive Fault where
  | missing
  | exists
  | notDirectory
  | isDirectory
  | nameTooLong
  deriving DecidableEq, Repr

def Fault.number : Fault → Nat
  | .missing => 2
  | .exists => 17
  | .notDirectory => 20
  | .isDirectory => 21
  | .nameTooLong => 36

def Fault.text : Fault → String
  | .missing => "No such file or directory"
  | .exists => "File exists"
  | .notDirectory => "Not a directory"
  | .isDirectory => "Is a directory"
  | .nameTooLong => "File name too long"

/-- A fault and the path that met it, as it was spelled. -/
structure FileError where
  fault : Fault
  path : Path
  deriving DecidableEq, Repr

def FileError.message (e : FileError) : String :=
  "[Errno " ++ ofNat e.fault.number ++ "] " ++ e.fault.text ++ ": " ++ quoted e.path.toString

/-- A tree and the directory that relative paths start from. -/
structure Tree where
  root : Node
  here : Path

def Tree.fileCount (t : Tree) : Nat := t.root.fileCount

/-- Where a path leads: to a node, or to a free name in an existing directory. -/
inductive Place where
  | node (names : List String) (node : Node)
  | free (parent : List String) (name : String)

/-- The longest name a directory takes, in bytes. -/
def maxNameBytes : Nat := 255

def Tree.step (root : Node) : List String → Node → List String → Except Fault Place
  | back, node, [] => .ok (.node back.reverse node)
  | back, node, name :: rest =>
    if !node.isDir then .error .notDirectory
    else if name == ".." then
      match root.get? back.tail.reverse with
      | some up => step root back.tail up rest
      | none => .error .missing
    else if name.utf8ByteSize > maxNameBytes then .error .nameTooLong
    else match node.child? name with
      | some c => step root (name :: back) c rest
      | none => if rest.isEmpty then .ok (.free back.reverse name) else .error .missing

namespace Tree

/-- Follows a path; double dots lead to the directory above. -/
def locate (t : Tree) (p : Path) : Except Fault Place :=
  step t.root [] t.root (if p.absolute then p.names else t.here.names ++ p.names)

def failure (p : Path) (f : Fault) : FileError := ⟨f, p⟩

/-- The node at a path. -/
def node (t : Tree) (p : Path) : Except FileError Node :=
  match t.locate p with
  | .ok (.node _ n) => .ok n
  | .ok (.free ..) => .error (failure p .missing)
  | .error f => .error (failure p f)

/-- Whether there is something at a path. Only a name that is too long is an error. -/
def «exists» (t : Tree) (p : Path) : Except FileError Bool :=
  match t.node p with
  | .ok _ => .ok true
  | .error e => if e.fault == .nameTooLong then .error e else .ok false

def isDir (t : Tree) (p : Path) : Except FileError Bool :=
  match t.node p with
  | .ok n => .ok n.isDir
  | .error e => if e.fault == .nameTooLong then .error e else .ok false

def read (t : Tree) (p : Path) : Except FileError Data :=
  match t.node p with
  | .ok (.file d) => .ok d
  | .ok (.dir _) => .error (failure p .isDirectory)
  | .error e => .error e

/-- Writes a whole file, which may be new; its directory exists. -/
def write (t : Tree) (p : Path) (d : Data) : Except FileError Tree :=
  match t.locate p with
  | .ok (.node names (.file _)) => .ok { t with root := Node.put (.file d) names t.root }
  | .ok (.node _ (.dir _)) => .error (failure p .isDirectory)
  | .ok (.free parent name) =>
    .ok { t with root := Node.put (.file d) (parent ++ [name]) t.root }
  | .error f => .error (failure p f)

def makeDir (t : Tree) (p : Path) : Except FileError Tree :=
  match t.locate p with
  | .ok (.node ..) => .error (failure p .exists)
  | .ok (.free parent name) => .ok { t with root := Node.put (.dir []) (parent ++ [name]) t.root }
  | .error f => .error (failure p f)

def acceptDir (t : Tree) (p : Path) (e : FileError) : Except FileError Tree :=
  match t.isDir p with
  | .ok true => .ok t
  | .ok false => .error e
  | .error e => .error e

def makeDirsFuel : Nat → Tree → Path → Except FileError Tree
  | 0, t, p => acceptDir t p ⟨.missing, p⟩
  | fuel + 1, t, p =>
    match makeDir t p with
    | .ok t => .ok t
    | .error e =>
      if e.fault == .missing && !p.names.isEmpty then do
        let t ← makeDirsFuel fuel t p.parent
        match makeDir t p with
        | .ok t => .ok t
        | .error e => acceptDir t p e
      else acceptDir t p e

/-- Makes a directory and what is missing above it; an existing directory is fine. -/
def makeDirs (t : Tree) (p : Path) : Except FileError Tree :=
  makeDirsFuel (p.names.length + 1) t p

/-- Takes away what lies at a path, a directory with all its content. -/
def removeAll (t : Tree) (p : Path) : Tree :=
  match t.locate p with
  | .ok (.node names _) => { t with root := Node.remove names t.root }
  | _ => t

/-- Takes away a file. -/
def removeFile (t : Tree) (p : Path) : Except FileError Tree :=
  match t.read p with
  | .ok _ => .ok (t.removeAll p)
  | .error e => .error e

/-- The names in a directory, in order; none where there is no directory. -/
def namesIn (t : Tree) (p : Path) : List String :=
  match t.node p with
  | .ok (.dir entries) => (entries.map Prod.fst).mergeSort fun a b => decide (a ≤ b)
  | _ => []

end Tree

/-- Why a text cannot be read. -/
inductive ReadError where
  | file (e : FileError)
  | utf8 (e : Utf8Error)
  deriving DecidableEq, Repr

def ReadError.message : ReadError → String
  | .file e => e.message
  | .utf8 e => e.message

/-- The bytes of a file. -/
def Data.toBytes : Data → List UInt8
  | .bytes content => content
  | .archive members => Archive.toBytes members

/-- The text of a file, with line feeds as its only line ends. -/
def Tree.readText (t : Tree) (p : Path) : Except ReadError String :=
  match t.read p with
  | .error e => .error (.file e)
  | .ok d =>
    match decodeUtf8 d.toBytes with
    | .error e => .error (.utf8 e)
    | .ok s => .ok (.ofList (universalNewlines s.toList))

def Tree.writeText (t : Tree) (p : Path) (s : String) : Except FileError Tree :=
  t.write p (.ofText s)

/-- The absolute form of a path, without double dots. -/
def Tree.resolve (t : Tree) (p : Path) : Path := Path.resolve t.here p

end Stencil.Files

/-!
Listing the files below a directory. Each directory gives its own matching files in name order,
then those of its kept subdirectories in name order.
-/
namespace Stencil.Files
open Stencil.Text

def byName {α : Type} (xs : List (String × α)) : List (String × α) :=
  xs.mergeSort fun a b => decide (a.1 ≤ b.1)

/-- Whether a name ends in a suffix, ignoring case. -/
def matchesSuffix (suffix name : String) : Bool :=
  endsWith (lowerChars name.toList) (lowerChars suffix.toList)

/-- The matching files directly in a directory. -/
def ownFiles (suffix : String) (entries : List (String × Node)) : List String :=
  (entries.filter fun e => !e.2.isDir && matchesSuffix suffix e.1).map Prod.fst

mutual

/-- The paths, as names below a directory, of its matching files. -/
def Node.find (suffix : String) (exclude : String → Bool) : Node → List (List String)
  | .file _ => []
  | .dir entries =>
    ((ownFiles suffix entries).mergeSort fun a b => decide (a ≤ b)).map (fun n => [n]) ++
      (byName (findBelow suffix exclude entries)).flatMap fun (n, found) => found.map (n :: ·)

def findBelow (suffix : String) (exclude : String → Bool) :
    List (String × Node) → List (String × List (List String))
  | [] => []
  | (name, node) :: rest =>
    let more := findBelow suffix exclude rest
    if node.isDir && !exclude name then (name, node.find suffix exclude) :: more else more

end

/-- The files under a directory whose names end in a suffix. Subdirectories with an excluded name
are left out; the name of the directory itself is not asked. -/
def Tree.find (t : Tree) (root : Path) (suffix : String) (exclude : String → Bool) : List Path :=
  match t.node root with
  | .ok node => (node.find suffix exclude).map fun names => ⟨root.anchor, root.names ++ names⟩
  | .error _ => []

end Stencil.Files
