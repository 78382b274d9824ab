import ReleasePreview.Files.Error
import ReleasePreview.Files.Path

/-! A tree of files and directories, and where a path leads in it. -/
namespace ReleasePreview

/-- What a file lets be done with it. -/
structure FileMode where
  executable : Bool := false
  readable : Bool := true
  removable : Bool := true
deriving Repr, DecidableEq

/-- Usually a file can be read and removed, whether or not it is a program. -/
instance : Coe Bool FileMode := ⟨fun executable => { executable }⟩

inductive FileNode where
  | directory
  | file (content : List UInt8) (mode : FileMode)
  /-- A symbolic link, with the path it stands for. -/
  | link (target : String)
deriving Repr, DecidableEq

/-- Only a file can refuse to be removed. -/
def FileNode.isRemovable : FileNode → Bool
  | .file _ mode => mode.removable
  | .directory | .link _ => true

/-- The names from the root down to a node. -/
abbrev Place := List String

/-- The path of a place. -/
def Place.path (p : Place) : String := "/" ++ "/".intercalate p

/-- The nodes below the root, by their places. -/
structure FileTree where
  nodes : List (Place × FileNode) := []
deriving Repr, DecidableEq

namespace FileTree

/-- The node at a place. The root is a directory. -/
def node? (t : FileTree) (p : Place) : Option FileNode :=
  if p.isEmpty then some .directory else t.nodes.lookup p

/-- The tree without the node at a place. -/
def erase (t : FileTree) (p : Place) : FileTree := ⟨t.nodes.filter fun e => e.1 ≠ p⟩

/-- The tree without a place and everything below it. -/
def eraseAll (t : FileTree) (p : Place) : FileTree :=
  ⟨t.nodes.filter fun e => !p.isPrefixOf e.1⟩

/-- As `eraseAll`, but what cannot be removed stays, with the directories above it. -/
def eraseRemovable (t : FileTree) (p : Place) : FileTree :=
  let kept := t.nodes.filter fun e => p.isPrefixOf e.1 && !e.2.isRemovable
  ⟨t.nodes.filter fun e => !p.isPrefixOf e.1 || kept.any fun k => e.1.isPrefixOf k.1⟩

/-- The tree with a node at a place, whatever was there before. -/
def set (t : FileTree) (p : Place) (node : FileNode) : FileTree :=
  ⟨(p, node) :: (t.erase p).nodes⟩

/-- The names in a directory. -/
def children (t : FileTree) (p : Place) : List String :=
  t.nodes.filterMap fun e => if e.1.dropLast = p then e.1.getLast? else none

/-- How far names lead without following a link. -/
inductive Stride where
  /-- All the way: to a place, with a node or not. -/
  | arrived (p : Place)
  /-- To a link in a directory, with names still to be followed behind it. -/
  | link (directory : Place) (target : String) (rest : List String)
deriving Repr, DecidableEq

/-- The longest name, in bytes. -/
def maxName : Nat := 255

/-- The place of a name in a directory. -/
def enter (p : Place) (name : String) : Place :=
  if name = "." then p
  else if name = ".." then p.dropLast
  else p ++ [name]

/-- Goes along names from a place up to the first link. With `follow` a link at the end counts as
well. -/
def stride (t : FileTree) (follow : Bool) (p : Place) : List String → Except FileError Stride
  | [] => .ok (.arrived p)
  | name :: rest =>
    match t.node? p with
    | none => .error .notFound
    | some (.file _ _) => .error .notDirectory
    | some (.link _) => .error .notDirectory
    | some .directory =>
      if maxName < name.utf8ByteSize then .error .nameTooLong
      else
        let next := enter p name
        match t.node? next with
        | some (.link target) =>
          if rest.isEmpty && !follow then .ok (.arrived next) else .ok (.link p target rest)
        | _ => t.stride follow next rest

/-- Follows names from a place through at most `links` links. -/
def walk (t : FileTree) (follow : Bool) (links : Nat) (p : Place) (names : List String) :
    Except FileError Place :=
  match t.stride follow p names, links with
  | .error e, _ => .error e
  | .ok (.arrived p), _ => .ok p
  | .ok (.link _ _ _), 0 => .error .tooManyLinks
  | .ok (.link directory target rest), links + 1 =>
    t.walk follow links (if Path.isAbsolute target then [] else directory)
      (Path.names target ++ rest)

/-- The number of links that may be followed on one way. -/
def maxLinks : Nat := 40

/-- The longest path, in bytes. -/
def maxPath : Nat := 4095

/-- Refuses a path that leads nowhere by its text alone. -/
def checkPath (path : String) : Except FileError Unit :=
  if path.toList.contains '\x00' then .error .nullInPath
  else if maxPath < path.utf8ByteSize then .error .nameTooLong
  else .ok ()

/-- The place that a path leads to from a directory, however long the path is. -/
def follow (t : FileTree) (directory : Place) (path : String) (followLast : Bool) :
    Except FileError Place :=
  if path.isEmpty then .error .notFound
  else t.walk followLast maxLinks (if Path.isAbsolute path then [] else directory) (Path.names path)

/-- The place that a path leads to from a directory. There may be no node yet, but everything
before it is there. -/
def resolve (t : FileTree) (directory : Place) (path : String) (followLast : Bool) :
    Except FileError Place := do
  checkPath path
  t.follow directory path followLast

/-- The place of the node that a path leads to, links followed. The path is gone along name by
name, so it may be of any length. -/
def canonical (t : FileTree) (directory : Place) (path : String) : Except FileError Place := do
  if path.toList.contains '\x00' then throw .nullInPath
  let p ← t.follow directory path true
  if (t.node? p).isSome then return p else throw .notFound

/-- The node that a path leads to, links followed. -/
def find (t : FileTree) (directory : Place) (path : String) : Except FileError FileNode := do
  match t.node? (← t.resolve directory path true) with
  | some node => return node
  | none => throw .notFound

def isFile (t : FileTree) (directory : Place) (path : String) : Bool :=
  match t.find directory path with
  | .ok (.file _ _) => true
  | _ => false

def isDirectory (t : FileTree) (directory : Place) (path : String) : Bool :=
  match t.find directory path with
  | .ok .directory => true
  | _ => false

end FileTree

end ReleasePreview
