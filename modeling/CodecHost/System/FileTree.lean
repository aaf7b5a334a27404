import CodecHost.Directory
import CodecHost.System.SharedObject

/-! Files, directories and symbolic links below a working directory. A path is
followed name by name from the directory it starts at, and every link on the way
is replaced by its target, up to a number of links that no path may exceed. One
file may have many names, and a name that is removed leaves the file as it is. -/
namespace CodecHost

/-- The number of a file, directory or link. -/
abbrev Inode := Nat

inductive FileContent where
  | data (bytes : Bytes)
  | module (object : SharedObject)

inductive Node where
  | file (content : FileContent)
  /-- The names stand in the order in which reading the directory reports them. -/
  | directory (parent : Inode) (entries : List (Bytes × Inode))
  | link (target : Bytes)

def Node.kind : Node → FileKind
  | file _ => .file
  | directory _ _ => .directory
  | link _ => .symlink

/-- A node's number is its place. -/
structure FileTree where
  nodes : Array Node

namespace FileTree

/-- Where absolute paths start. -/
def top : Inode := 0

/-- Where all other paths start. -/
def workingDirectory : Inode := 1

/-- A tree with an empty working directory, which lies outside all that absolute
paths name. -/
def empty : FileTree := ⟨#[.directory top [], .directory top []]⟩

def node? (t : FileTree) (i : Inode) : Option Node := t.nodes[i]?

def dot : Bytes := [0x2E]

def dots : Bytes := [0x2E, 0x2E]

/-- The longest name a file can have. -/
def maxNameLength : Nat := 255

/-- The length that no path may reach. -/
def pathLimit : Nat := 4096

/-- How many links one path may lead through. -/
def maxLinks : Nat := 40

/-- The names on a path, in order. A path that ends in a separator means the
directory itself, which is the name `.` in it. -/
def steps (path : Bytes) : List Bytes :=
  let pieces := Bytes.splitOn Path.separator path
  let ending := match pieces.getLast? with
    | some [] | none => dot
    | some name => name
  pieces.dropLast.filter (· ≠ []) ++ [ending]

/-- The directory that a path starts at, when `here` is the current one. -/
def start (path : Bytes) (here : Inode) : Inode :=
  if path.head? = some Path.separator then top else here

/-- Follows names from a directory. `links` is how many links may still be met. -/
def walk (t : FileTree) (links : Nat) (here : Inode) : List Bytes → Except IoError Inode
  | [] => .ok here
  | name :: rest =>
    match t.node? here with
    | some (.directory parent entries) =>
      if name = dot then walk t links here rest
      else if name = dots then walk t links parent rest
      else if maxNameLength < name.length then .error .nameTooLong
      else
        match entries.lookup name with
        | none => .error .notFound
        | some child =>
          match t.node? child with
          | some (.link target) =>
            match links with
            | 0 => .error .tooManyLinks
            | left + 1 => walk t left (start target here) (steps target ++ rest)
          | _ => walk t links child rest
    | _ => .error .notADirectory
termination_by names => (links, names.length)

/-- The file or directory that a path leads to. -/
def locate (t : FileTree) (path : Bytes) : Except IoError Inode :=
  if path.contains 0 then .error .zeroByteInName
  else if path.isEmpty then .error .notFound
  else if pathLimit ≤ path.length then .error .nameTooLong
  else walk t maxLinks (start path workingDirectory) (steps path)

/-- The bytes of the file at a path. -/
def read (t : FileTree) (path : Path) : Except IoError Bytes :=
  match t.locate path.bytes with
  | .error cause => .error cause
  | .ok i =>
    match t.node? i with
    | some (.file (.data bytes)) => .ok bytes
    | some (.file (.module _)) => .ok SharedObject.image
    | _ => .error .isADirectory

/-- An entry of a directory with its own kind; a link is not followed. -/
def entry (t : FileTree) (name : Bytes) (i : Inode) : DirEntry :=
  match t.node? i with
  | some node => .named name (.ok node.kind)
  | none => .named name (.error .notFound)

/-- What reading the directory at a path gives. -/
def listing (t : FileTree) (path : Path) : Listing :=
  match t.locate path.bytes with
  | .error cause => .error cause
  | .ok i =>
    match t.node? i with
    | some (.directory _ entries) => .ok (entries.map fun (name, child) => t.entry name child)
    | _ => .error .notADirectory

/-! Changes. Each leaves the tree as it is when there is no place for what it
adds. -/

/-- Gives a node another name, behind those that its directory has. -/
def addName (t : FileTree) (directory : Inode) (label : Bytes) (i : Inode) : FileTree :=
  match t.node? directory with
  | some (.directory parent entries) =>
    ⟨t.nodes.setIfInBounds directory (.directory parent (entries ++ [(label, i)]))⟩
  | _ => t

/-- Adds a node under a new name. -/
def add (t : FileTree) (directory : Inode) (label : Bytes) (node : Node) : FileTree :=
  addName ⟨t.nodes.push node⟩ directory label t.nodes.size

/-- The directory of a name inside another, which is made if nothing has the name. -/
def enter (place : FileTree × Inode) (label : Bytes) : FileTree × Inode :=
  let (t, here) := place
  match t.walk maxLinks here [label] with
  | .ok next => (t, next)
  | .error _ => (t.add here label (.directory here []), t.nodes.size)

/-- Follows the first names of a path and makes the directories that are missing. -/
def enterAll (t : FileTree) (path : Path) (labels : List Bytes) : FileTree × Inode :=
  labels.foldl enter (t, start path.bytes workingDirectory)

/-- The inode behind a name in a directory; a link is not followed. -/
def child? (t : FileTree) (directory : Inode) (label : Bytes) : Option Inode :=
  match t.node? directory with
  | some (.directory _ entries) => entries.lookup label
  | _ => none

/-- The last name on a path. -/
def lastStep (path : Path) : Bytes := (steps path.bytes).getLast?.getD dot

/-- The directory that holds the last name on a path, made if it is missing. -/
def enterParent (t : FileTree) (path : Path) : FileTree × Inode :=
  t.enterAll path (steps path.bytes).dropLast

def makeDirectory (t : FileTree) (path : Path) : FileTree := (t.enterAll path (steps path.bytes)).1

/-- Writes a file. A file that is there is written over and stays the same file. -/
def write (t : FileTree) (path : Path) (content : FileContent) : FileTree :=
  let (t, directory) := t.enterParent path
  match t.walk maxLinks directory [lastStep path] with
  | .ok i =>
    match t.node? i with
    | some (.file _) => ⟨t.nodes.setIfInBounds i (.file content)⟩
    | _ => t
  | .error _ =>
    match t.child? directory (lastStep path) with
    | some _ => t
    | none => t.add directory (lastStep path) (.file content)

/-- Makes a symbolic link. -/
def makeLink (t : FileTree) (path : Path) (target : Bytes) : FileTree :=
  let (t, directory) := t.enterParent path
  match t.child? directory (lastStep path) with
  | some _ => t
  | none => t.add directory (lastStep path) (.link target)

/-- The inode of the last name on a path; a link there is not followed. -/
def locateName (t : FileTree) (path : Path) : Option (Inode × Inode) :=
  match t.walk maxLinks (start path.bytes workingDirectory) (steps path.bytes).dropLast with
  | .ok directory => (t.child? directory (lastStep path)).map fun i => (directory, i)
  | .error _ => none

/-- Gives a file another name. -/
def makeHardLink (t : FileTree) (path existing : Path) : FileTree :=
  match t.locateName existing with
  | none => t
  | some (_, i) =>
    let (t, directory) := t.enterParent path
    match t.child? directory (lastStep path) with
    | some _ => t
    | none => t.addName directory (lastStep path) i

/-- Takes a name away from a file or a link. -/
def remove (t : FileTree) (path : Path) : FileTree :=
  match t.locateName path with
  | none => t
  | some (directory, i) =>
    match t.node? i, t.node? directory with
    | some (.directory _ _), _ => t
    | _, some (.directory parent entries) =>
      ⟨t.nodes.setIfInBounds directory
        (.directory parent (entries.filter fun (label, _) => label ≠ lastStep path))⟩
    | _, _ => t

end FileTree
end CodecHost
