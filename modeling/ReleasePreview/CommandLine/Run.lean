import ReleasePreview.CommandLine.Failure
import ReleasePreview.CommandLine.Invocation
import ReleasePreview.Compiler.Command
import ReleasePreview.Json.Render
import ReleasePreview.Preview.Build
import ReleasePreview.Preview.Json
import ReleasePreview.Source.Summary

/-! Running a command line. Output is written only if the command succeeds. -/
namespace ReleasePreview.CommandLine

/-- What a run finds. -/
structure Host where
  surroundings : Surroundings
  environment : Environment := {}
  input : List UInt8 := []
  /-- The programs that can be started. -/
  system : System

namespace Host

def readText (h : Host) (path : String) : Except Failure String :=
  (h.surroundings.files.readText h.surroundings.directory path).mapError (.notRead path)

def readDocs (h : Host) (path : String) : Except Failure Docs := do
  (Json.decodeText Docs.decode (← h.readText path)).mapError (.notDecoded path)

/-- The text of a report from a file or from the standard input. -/
def readReport (h : Host) : Option String → Except Failure String
  | some path => h.readText path
  | none =>
    match Text.Utf8.decode? h.input with
    | some raw => .ok raw
    | none => .error (.inputNotRead .notText)

def compiler (h : Host) : Compiler :=
  CompilerCommand.compiler ⟨h.environment.compilerProgram, h.environment.compilerTimeout * 1000⟩
    h.system

/-- The changes between two files of documentation, and between two readmes. The inputs are read in
the order of the arguments. -/
def contentDiff (h : Host) (published current : String)
    (publishedReadme currentReadme : Option String) : Except Failure (Option ContentDiff) := do
  let publishedDocs ← h.readDocs published
  let currentDocs ← h.readDocs current
  let publishedReadme ← publishedReadme.mapM h.readText
  let currentReadme ← currentReadme.mapM h.readText
  return contentDiff? publishedDocs currentDocs publishedReadme currentReadme

/-- Previews the project of a directory, and the files after it. -/
def preview (h : Host) (directory : String) : Except Failure Update × FileTree :=
  let w := h.surroundings
  match Project.openAt w.files w.directory directory with
  | .error e => (.error (.notOpened directory e), w.files)
  | .ok p =>
    let b := p.preview h.compiler h.environment.registry w
    (b.result.mapError .notPreviewed, b.files)

/-- The latest version of a package. -/
def latest (h : Host) (p : PackageName) : Option Version :=
  (h.environment.registry.latestVersion h.surroundings p).result.toOption.join

/-- What a command prints, and the files after it. -/
def run (h : Host) : Invocation → Except Failure Json × FileTree
  | .preview directory =>
    let (update, files) := h.preview directory
    (update.map Update.toJson, files)
  | .apiDiff file =>
    ((h.readReport file).map fun raw => Update.orNull ApiReport.toJson (Report.parse? raw),
      h.surroundings.files)
  | .contentDiff published current publishedReadme currentReadme =>
    ((h.contentDiff published current publishedReadme currentReadme).map
      (Update.orNull ContentDiff.toJson), h.surroundings.files)
  | .latest p => (.ok (Update.orNull Version.toJson (h.latest p)), h.surroundings.files)
  | .sources =>
    (.ok (.array (h.environment.registry.summaries.map SourceSummary.toJson)),
      h.surroundings.files)

end Host

/-- What a run leaves: the exit code, what is written to both outputs, and the files. -/
structure Reply where
  code : Nat
  output : String := ""
  errors : String := ""
  files : FileTree

def versionText : String := "docpreview 0.1.0\n"

def helpText : String :=
  "Preview package documentation and diff it against the latest release\n\n" ++
  "Usage: docpreview [--log-format pretty|json] COMMAND\n\n" ++
  "Commands:\n" ++
  "  preview [--dir DIR]\n" ++
  "  api-diff [FILE]\n" ++
  "  content-diff --published FILE --current FILE [--published-readme FILE]\n" ++
  "               [--current-readme FILE]\n" ++
  "  latest AUTHOR/PROJECT\n" ++
  "  sources\n"

/-- Runs a command line. -/
def Host.reply (h : Host) (args : List String) : Reply :=
  let files := h.surroundings.files
  match request h.environment args with
  | .error .version => { code := 0, output := versionText, files }
  | .error .help => { code := 0, output := helpText, files }
  | .error .misuse => { code := 2, errors := helpText, files }
  | .ok r =>
    match h.run r.invocation with
    | (.ok json, files) => { code := 0, output := json.prettyText ++ "\n", files }
    | (.error e, files) => { code := 1, errors := e.text, files }

end ReleasePreview.CommandLine
