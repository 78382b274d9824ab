import ReleasePreview.Awk.Command
import ReleasePreview.Shell.Main
import ReleasePreview.StreamEditor.Run
import ReleasePreview.Tools.Blocks
import ReleasePreview.Tools.Calculating
import ReleasePreview.Tools.Calendar
import ReleasePreview.Tools.Characters
import ReleasePreview.Tools.Columns
import ReleasePreview.Tools.Comparing
import ReleasePreview.Tools.Copying
import ReleasePreview.Tools.Dumping
import ReleasePreview.Tools.Finding
import ReleasePreview.Tools.Listing
import ReleasePreview.Tools.Running
import ReleasePreview.Tools.Searching
import ReleasePreview.Tools.Sorting

/-! The programs that are there, by their names. -/
namespace ReleasePreview.Tools

/-- The statuses of programs that could not write to the standard output. -/
def failureStatuses : List (String × Nat) :=
  [("awk", 2), ("diff", 2), ("env", 125), ("expr", 3), ("grep", 2), ("ls", 2), ("sed", 4),
    ("sort", 2)]

/-- Complains if a program could not write to the standard output. Gives the status. -/
def closing (tool : String) (c : ProgramCall) (status : Nat) : Program Nat := do
  let failure ← Program.failure
  match failure.filter fun _ => tool ≠ "dd" with
  | none => return status
  | some e =>
    let (usual, closed) := ("standard output", "write error")
    complain c (match tool with
      | "awk" => s!"close failed on file \"/dev/stdout\" ({e.reason})"
      | "diff" => s!"{usual}: {e.reason}"
      | "cat" => s!"{if e = .badDescriptor then usual else closed}: {e.reason}"
      | "yes" => s!"{usual}: {e.reason}"
      | "find" | "tee" => s!"'{usual}': {e.reason}"
      | "md5sum" | "wc" => closed
      | "sed" => s!"couldn't flush stdout: {e.reason}"
      | "sort" => s!"fflush failed: 'standard output': {e.reason}"
      | _ => s!"{closed}: {e.reason}")
    if tool = "find" || tool = "sort" then complain c "write error"
    return (failureStatuses.lookup tool).getD 1

def table : List (String × Tool) :=
  [("[", bracket), ("arch", constant "x86_64"), ("awk", Awk.awk), ("base64", base64),
    ("basename", basename), ("cat", cat), ("chmod", chmod), ("chown", succeed), ("cmp", cmp),
    ("comm", comm), ("cp", cp), ("cut", cut), ("date", date), ("dd", dd), ("diff", diff),
    ("dirname", dirname), ("echo", echo), ("egrep", egrep), ("env", env), ("expand", expand),
    ("expr", expr), ("false", failure), ("fgrep", fgrep), ("find", find), ("fold", fold),
    ("grep", grep), ("head", head), ("hostname", constant "localhost"), ("id", userId),
    ("ln", ln), ("ls", ls), ("mawk", Awk.awk), ("mkdir", mkdir), ("mktemp", mktemp), ("mv", mv),
    ("nawk", Awk.awk), ("nice", nice), ("nl", nl), ("nohup", nohup), ("nproc", constant "1"),
    ("od", od), ("paste", paste), ("printenv", printenv), ("printf", printf), ("pwd", pwd),
    ("readlink", readlink), ("realpath", realpath), ("rev", rev), ("rm", rm), ("rmdir", rmdir),
    ("sed", StreamEditor.sed), ("seq", seq), ("sleep", sleep), ("sort", sort), ("stat", stat),
    ("sync", succeed), ("tac", tac), ("tail", tail), ("tee", tee), ("test", test),
    ("timeout", timeout), ("touch", touch), ("tr", tr), ("true", succeed), ("truncate", truncate),
    ("tty", tty), ("uname", uname), ("uniq", uniq), ("unlink", unlink), ("wc", wc),
    ("which", which), ("whoami", constant "root"), ("xargs", xargs), ("yes", yes)]

end ReleasePreview.Tools

/-! Programs in the tree of files: what a file is as a program, and how a process becomes that. -/
namespace ReleasePreview

/-- A file as a program: the tool that it is in the end, the name by which that one knows itself if
a script asks for it, and the arguments in front of those of the call. -/
structure Image where
  tool : String
  name : Option String := none
  args : List String := []
deriving Repr, DecidableEq

namespace Image

/-- The bytes that files of tools begin with. -/
def magic : List UInt8 := [127, 69, 76, 70]

/-- The content of the file of a tool. -/
def contentOf (tool : String) : List UInt8 := magic ++ Text.Octets.toBytes tool

def isGap (c : Char) : Bool := c = ' ' || c = '\t'

/-- The bytes of a script that are looked at for the path of its interpreter. -/
def lineLimit : Nat := 255

/-- The path on the first line of a script, and the argument that the rest of the line is. -/
def interpreter? (content : List UInt8) : Option (String × List String) :=
  match (Text.Octets.ofBytes (content.take lineLimit)).toList with
  | '#' :: '!' :: rest =>
    let line := rest.takeWhile (· ≠ '\n')
    let isWhole := line.length < rest.length || content.length < lineLimit
    let line := line.dropWhile isGap
    let name := line.takeWhile fun c => !isGap c && c ≠ '\x00'
    let arg := ((line.drop name.length).dropWhile isGap).reverse.dropWhile isGap
    if name.isEmpty || (!isWhole && name.length = line.length) then none
    else some (String.ofList name, if arg.isEmpty then [] else [String.ofList arg.reverse])
  | _ => none

/-- A script may have another script for its interpreter, but not through more levels. -/
def maxLevels : Nat := 5

/-- The program of a path. -/
def atPath (t : FileTree) (directory : Place) : (levels : Nat) → String → Except FileError Image
  | levels, path =>
    match t.find directory (Text.Octets.readable path), levels with
    | .ok (.file content { executable := true, .. }), levels =>
      if magic.isPrefixOf content then
        .ok { tool := Text.Octets.ofBytes (content.drop magic.length) }
      else match interpreter? content, levels with
        | none, _ => .error .badFormat
        | some _, 0 => .error .tooManyLinks
        | some (name, args), levels + 1 => do
          let image ← atPath t directory levels name
          return { image with
            name := image.name.or (some name)
            args := image.args ++ args ++ [path] }
    | .ok _, _ => .error .permissionDenied
    | .error e, _ => .error e

/-- The tool of a name. -/
def toolOf (name : String) : Tools.Tool :=
  if name = "sh" || name = "dash" || name = "bash" then Shell.shell
  else fun launch c => do
    Tools.closing name c (← ((Tools.table.lookup name).getD fun _ _ => return 0) launch c)

/-- What a process gives up when it becomes another program. -/
def forget : Program Unit := Program.tell fun number w => w.change number fun r =>
  { r with descriptors := r.descriptors.filter (!·.isPrivate), caught := [], failure := none }

/-- Turns processes into the programs of the tree, so many times one after the other. -/
def launcher : (times : Nat) → Launcher
  | 0 => fun _ _ => return .notFound
  | times + 1 => fun path call => do
    match ← Program.files fun t directory => atPath t directory maxLevels path with
    | .error e => return e
    | .ok image =>
      forget
      let status ← toolOf image.tool (launcher times)
        { call with name := image.name.getD call.name, args := image.args ++ call.args }
      Program.exit status

/-- The directories and programs that there are besides a project. -/
def standardNodes : List (Place × FileNode) :=
  let names := ["bash", "dash", "sh"] ++ Tools.table.map (·.1)
  [(["bin"], .link "usr/bin"), (["dev"], .directory), (["dev", "full"], .file [] false),
    (["dev", "null"], .file [] false), (["dev", "zero"], .file [] false), (["etc"], .directory),
    (["root"], .directory),
    (["tmp"], .directory), (["usr"], .directory), (["usr", "bin"], .directory),
    (["var"], .directory), (["var", "tmp"], .directory),
    (["etc", "passwd"],
      .file (Text.Octets.toBytes "root:x:0:0:root:/root:/bin/sh\n") false)] ++
    names.map fun name => (["usr", "bin", name], .file (contentOf name) true)

/-- A tree with the standard nodes that it does not have. -/
def equipped (t : FileTree) : FileTree :=
  ⟨t.nodes ++ standardNodes.filter fun (p, _) => (t.node? p).isNone⟩

/-- A tree without the standard nodes that another one does not have. -/
def stripped (before t : FileTree) : FileTree :=
  ⟨t.nodes.filter fun (p, node) =>
    (before.node? p).isSome || !standardNodes.contains (p, node)⟩

end Image

end ReleasePreview
