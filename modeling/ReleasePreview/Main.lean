import ReleasePreview.CommandLine.Run
import ReleasePreview.Shell.System

/-!
The program. It takes a picture of the files that a command may look at, runs the command on it, and
writes down what has changed. There is no network behind it: the package site never answers.
-/
namespace ReleasePreview.Main

open CommandLine

/-- The variables that are looked at. -/
def variableNames : List String :=
  ["DOCPREVIEW_COMPILER_BIN", "DOCPREVIEW_COMPILER_TIMEOUT_SECS", "DOCPREVIEW_PACKAGE_SITE",
    "DOCPREVIEW_LOG_FORMAT", "ELM_HOME", "HOME"]

def environment : IO Environment := do
  let bindings ← variableNames.filterMapM fun name => do
    return (← IO.getEnv name).map (name, ·)
  return { bindings }

/-- The paths that a command is given. -/
def paths : Invocation → List String
  | .preview directory => [directory]
  | .apiDiff file => file.toList
  | .contentDiff published current publishedReadme currentReadme =>
    [published, current] ++ publishedReadme.toList ++ currentReadme.toList
  | .latest _ => []
  | .sources => []

def placeOf (path : String) : Place := Path.names path

abbrev Picture := List (Place × FileNode)

/-- A file. One that begins as a script does is taken to be executable. -/
def fileNode (bytes : List UInt8) : FileNode := .file bytes ([35, 33].isPrefixOf bytes)

def readFile (p : Place) : IO Picture := do
  try
    return [(p, fileNode (← IO.FS.readBinFile p.path).toList)]
  catch
    | .permissionDenied .. => return [(p, .file [] { readable := false })]
    | _ => return []

/-- Everything below a directory, so many levels down. -/
def readBelow : (levels : Nat) → Place → IO Picture
  | 0, _ => return []
  | levels + 1, p => do
    try
      let directory ← IO.FS.realPath p.path
      let parts ← (← directory.readDir).toList.mapM fun entry => do
        let q := p ++ [entry.fileName]
        match (← entry.path.symlinkMetadata).type with
        | .dir => return (q, FileNode.directory) :: (← readBelow levels q)
        | .file => readFile q
        | .symlink =>
          try
            return [(q, FileNode.link (← IO.FS.realPath entry.path).toString)]
          catch _ => return [(q, FileNode.link entry.fileName)]
        | .other => return []
      return parts.flatten
    catch _ => return []

/-- The directories above a place, with what makes each of them a project. -/
def readAbove (p : Place) : IO Picture := do
  let parts ← (Project.ancestors p).mapM fun directory => do
    let files ← [Project.manifestFile, Project.readmeFile].mapM fun name =>
      readFile (directory ++ [name])
    return (if directory.isEmpty then [] else [(directory, FileNode.directory)]) ++ files.flatten
  return parts.flatten

/-- How deep below a directory files are looked for. -/
def maxLevels : Nat := 16

/-- A file or a directory, with what is above and below it. -/
def readAround (path : String) : IO Picture := do
  try
    let p := placeOf (← IO.FS.realPath path).toString
    if ← (← IO.FS.realPath path).isDir then
      return (← readAbove p) ++ (← readBelow maxLevels p)
    else return (← readAbove p.dropLast) ++ (← readFile p)
  catch _ => return []

/-- Every place once, as it was seen first. -/
def treeOf (picture : Picture) : FileTree :=
  picture.foldr (fun (p, node) t => t.set p node) {}

/-- Writes what has changed. -/
def writeChanges (old new : FileTree) : IO Unit := do
  for (p, _) in old.nodes do
    if (new.node? p).isNone then
      try IO.FS.removeFile p.path catch _ => pure ()
  for (p, node) in new.nodes.reverse do
    if old.node? p ≠ some node then
      match node with
      | .directory => IO.FS.createDirAll p.path
      | .file content _ => IO.FS.writeBinFile p.path ⟨content.toArray⟩
      | .link _ => pure ()

/-- What the program finds. -/
def host (args : List String) : IO Host := do
  let environment ← environment
  let directory := placeOf (← IO.currentDir).toString
  let given :=
    match request environment args with
    | .ok r => paths r.invocation
    | .error _ => []
  let pictures ← ([directory.path, environment.cache.root, environment.compilerProgram] ++
    given).mapM readAround
  let input ←
    match request environment args with
    | .ok { invocation := .apiDiff none, .. } => (← IO.getStdin).readBinToEnd
    | _ => pure ByteArray.empty
  return {
    surroundings := { files := treeOf pictures.flatten, directory }
    environment
    input := input.toList
    system := Shell.system }

def run (args : List String) : IO UInt32 := do
  let host ← host args
  let r := host.reply args
  writeChanges host.surroundings.files r.files
  (← IO.getStdout).putStr r.output
  (← IO.getStderr).putStr r.errors
  return UInt32.ofNat r.code

end ReleasePreview.Main

def main (args : List String) : IO UInt32 := ReleasePreview.Main.run args
