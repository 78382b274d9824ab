import ReleasePreview.Compiler.Basic
import ReleasePreview.Docs.Json
import ReleasePreview.Files.Access
import ReleasePreview.Text.Blank

/-!
The compiler as a program. A build writes the documentation to a file, which is removed before the
program starts, so what is read afterwards is what the program has written.
-/
namespace ReleasePreview

/-- A program and its time limit. -/
structure CompilerCommand where
  program : String
  milliseconds : Nat
deriving Repr, DecidableEq

namespace CompilerCommand

/-- Where the documentation is written, in the directory of a project. -/
def outputDirectory (directory : String) : String := Path.join directory "elm-stuff/docpreview"

def output (directory : String) : String := Path.join directory "elm-stuff/docpreview/docs.json"

/-- The standard output of a program that succeeds. -/
def report (c : CompilerCommand) : Run → Except BackendError String
  | .notSpawned why => .error (.notSpawned c.program why)
  | .timedOut => .error (.timeout c.program (c.milliseconds / 1000))
  | .finished (.exited 0) stdout _ => .ok (Text.Utf8.decodeLenient stdout)
  | .finished ending _ stderr =>
    .error (.exitStatus c.program ending.status? (Text.trimmed (Text.Utf8.decodeLenient stderr)))

def run (c : CompilerCommand) (system : System) (args : List String) (files : FileTree)
    (directory : String) : FileTree × Except BackendError String :=
  let (files, run) := system c.milliseconds ⟨c.program, args, directory⟩ files
  (files, c.report run)

/-- Makes the directory of the output. -/
def makeOutputDirectory (directory : String) (files : FileTree) :
    FileTree × Except BackendError Unit :=
  match files.makeDirectories [] (outputDirectory directory) with
  | (files, .error e) => (files, .error (.notCreated (outputDirectory directory) e))
  | (files, .ok ()) => (files, .ok ())

/-- Removes an output that is there. -/
def clearOutput (directory : String) (files : FileTree) : FileTree × Except BackendError Unit :=
  match files.remove [] (output directory) with
  | .ok files => (files, .ok ())
  | .error .notFound => (files, .ok ())
  | .error e => (files, .error (.notCleared (output directory) e))

def readOutput (directory : String) (files : FileTree) : Except BackendError String :=
  (files.readText [] (output directory)).mapError (.notRead (output directory))

def decodeOutput (directory raw : String) : Except BackendError Docs :=
  (Json.decodeText Docs.decode raw).mapError (.malformedOutput (output directory))

end CompilerCommand

/-- The stages of building a documentation, in their order. -/
inductive DocsStage where
  /-- The directory of the output is made. -/
  | directory
  /-- An old output is removed. -/
  | clearing
  /-- The program runs. -/
  | running
  /-- The output is read. -/
  | reading
  | decoding
deriving Repr, DecidableEq

/-- A build of the documentation as far as it has come: the stages it has entered, and the files. -/
structure DocsProgress where
  stages : List DocsStage := []
  files : FileTree

/-- A part of a build of the documentation. -/
abbrev Documenting := ExceptT BackendError (StateM DocsProgress)

/-- Enters a stage, which may change files and may fail. -/
def Documenting.enter {α : Type} (stage : DocsStage)
    (act : FileTree → FileTree × Except BackendError α) : Documenting α := do
  let (files, answer) := act (← get).files
  modify fun s => { stages := s.stages ++ [stage], files }
  MonadExcept.ofExcept answer

/-- The outcome of a build of the documentation, the stages it went through, and the files it
left. -/
structure DocsBuild where
  result : Except BackendError Docs
  stages : List DocsStage
  files : FileTree

namespace CompilerCommand

/-- Has the documentation written and reads it. -/
def producing (c : CompilerCommand) (system : System) (directory : String) :
    Documenting Docs := do
  let _ ← Documenting.enter .running fun files =>
    c.run system ["make", "--docs=" ++ output directory] files directory
  let raw ← Documenting.enter .reading fun files => (files, readOutput directory files)
  Documenting.enter .decoding fun files => (files, decodeOutput directory raw)

/-- The stages of a build. The first one that fails is the last one. -/
def documenting (c : CompilerCommand) (system : System) (directory : String) :
    Documenting Docs := do
  Documenting.enter .directory (makeOutputDirectory directory)
  Documenting.enter .clearing (clearOutput directory)
  c.producing system directory

/-- Builds the documentation. -/
def document (c : CompilerCommand) (system : System) (files : FileTree) (directory : String) :
    DocsBuild :=
  let (result, s) := (c.documenting system directory).run.run { files }
  { result, stages := s.stages, files := s.files }

def buildDocs (c : CompilerCommand) (system : System) (files : FileTree) (directory : String) :
    FileTree × Except BackendError Docs :=
  let build := c.document system files directory
  (build.files, build.result)

def compiler (c : CompilerCommand) (system : System) : Compiler where
  buildDocs := c.buildDocs system
  diff := c.run system ["diff"]

end CompilerCommand

end ReleasePreview
