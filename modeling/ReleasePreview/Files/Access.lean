import ReleasePreview.Files.Tree
import ReleasePreview.Text.Utf8

/-! Reading and changing files by their paths, relative to a directory. -/
namespace ReleasePreview.FileTree

def read (t : FileTree) (directory : Place) (path : String) : Except FileError (List UInt8) := do
  match ← t.find directory path with
  | .file content mode => if mode.readable then return content else throw .permissionDenied
  | _ => throw .isDirectory

/-- The bytes of a script. A directory is read as an empty one. -/
def readScript (t : FileTree) (directory : Place) (path : String) : Except FileError (List UInt8) :=
  match t.read directory path with
  | .error .isDirectory => .ok []
  | bytes => bytes

def readText (t : FileTree) (directory : Place) (path : String) : Except FileError String := do
  match Text.Utf8.decode? (← t.read directory path) with
  | some s => return s
  | none => throw .notText

/-- The text of a file that need not be there. -/
def readText? (t : FileTree) (directory : Place) (path : String) :
    Except FileError (Option String) :=
  match t.readText directory path with
  | .ok s => .ok (some s)
  | .error .notFound => .ok none
  | .error e => .error e

/-- The entries of a directory, links not followed. -/
def list (t : FileTree) (directory : Place) (path : String) :
    Except FileError (List (String × FileNode)) := do
  let p ← t.resolve directory path true
  match t.node? p with
  | none => throw .notFound
  | some .directory =>
    return (t.children p).filterMap fun name => (t.node? (p ++ [name])).map (name, ·)
  | some _ => throw .notDirectory

/-- Writes a file over what it was. A file keeps its mode, and a new one is not executable. -/
def write (t : FileTree) (directory : Place) (path : String) (content : List UInt8) :
    Except FileError FileTree := do
  let p ← t.resolve directory path true
  match t.node? p with
  | none => return t.set p (.file content false)
  | some (.file _ mode) => return t.set p (.file content mode)
  | some _ => throw .isDirectory

/-- Removes a file or a link. A file may refuse it. -/
def remove (t : FileTree) (directory : Place) (path : String) : Except FileError FileTree := do
  let p ← t.resolve directory path false
  match t.node? p with
  | none => throw .notFound
  | some .directory => throw .isDirectory
  | some node => if node.isRemovable then return t.erase p else throw .permissionDenied

/-- Makes a directory where nothing is. -/
def makeDirectoryAt (t : FileTree) (start : Place) (names : List String) :
    Except FileError FileTree := do
  let p ← t.walk false maxLinks start names
  match t.node? p with
  | none => return t.set p .directory
  | some _ => throw .alreadyExists

def makeDirectory (t : FileTree) (directory : Place) (path : String) :
    Except FileError FileTree := do
  let p ← t.resolve directory path false
  if (t.node? p).isSome then throw .alreadyExists
  return t.set p .directory

def isDirectoryAt (t : FileTree) (start : Place) (names : List String) : Bool :=
  match t.walk true maxLinks start names with
  | .ok p => t.node? p = some .directory
  | .error _ => false

/-- Makes a directory unless there is one. -/
def ensureDirectoryAt (t : FileTree) (start : Place) (names : List String) :
    Except FileError FileTree :=
  match t.makeDirectoryAt start names with
  | .ok t => .ok t
  | .error e => if t.isDirectoryAt start names then .ok t else .error e

/-- Makes a directory and the missing ones above it. The names are given from the last one. What
was made before an error stays. -/
def makeDirectoriesAt (t : FileTree) (start : Place) :
    List String → FileTree × Except FileError Unit
  | [] => (t, .ok ())
  | name :: above =>
    let names := (name :: above).reverse
    match t.ensureDirectoryAt start names with
    | .ok t => (t, .ok ())
    | .error .notFound =>
      match t.makeDirectoriesAt start above with
      | (t, .error e) => (t, .error e)
      | (t, .ok ()) =>
        match t.ensureDirectoryAt start names with
        | .ok t => (t, .ok ())
        | .error e => (t, .error e)
    | .error e => (t, .error e)

def makeDirectories (t : FileTree) (directory : Place) (path : String) :
    FileTree × Except FileError Unit :=
  match checkPath path with
  | .error e => (t, .error e)
  | .ok () =>
    t.makeDirectoriesAt (if Path.isAbsolute path then [] else directory)
      ((Path.names path).filter (· ≠ ".")).reverse

end ReleasePreview.FileTree
