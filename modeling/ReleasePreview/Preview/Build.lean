import ReleasePreview.Compiler.Basic
import ReleasePreview.ContentDiff.Compare
import ReleasePreview.Preview.Error
import ReleasePreview.Preview.Update
import ReleasePreview.Project.Open
import ReleasePreview.Report.Scan
import ReleasePreview.Source.Baseline

/-!
Previewing a package: its documentation is built, the compiler reports the changes, and both are
put beside the published state.
-/
namespace ReleasePreview

/-- What a build does. The published state is resolved beside the other steps, so its place among
them is of no account. -/
inductive BuildStep where
  | resolve (package : PackageName)
  | compile (call : CompilerCall)
  | readReadme
deriving DecidableEq

/-- A build as far as it has come: its steps, the calls it made on sources, and the files it
leaves. -/
structure Progress where
  steps : List BuildStep := []
  sourceCalls : List Call := []
  files : FileTree

/-- A part of a build. -/
abbrev Building := ExceptT PreviewError (StateM Progress)

namespace Building

/-- Resolves the published state of a package. A source that crashes leaves it unknown. -/
def resolve (registry : Registry) (w : Surroundings) (p : PackageName) :
    Building (Option Baseline) := do
  let inquiry := registry.baseline w p
  modify fun s => { s with
    steps := s.steps ++ [.resolve p]
    sourceCalls := s.sourceCalls ++ inquiry.calls }
  return inquiry.result.toOption.join

/-- Runs a command of the compiler in a directory. -/
def compile {α : Type} (call : CompilerCall) (command : FileTree → String → FileTree × α)
    (directory : String) : Building α := do
  let (files, answer) := command (← get).files directory
  modify fun s => { s with steps := s.steps ++ [.compile call], files }
  return answer

def readReadme (p : Project) : Building (Option String) := do
  modify fun s => { s with steps := s.steps ++ [.readReadme] }
  MonadExcept.ofExcept (p.readme (← get).files)

end Building

/-- The outcome of a preview, what it did for it, and the files it left. -/
structure Build where
  result : Except PreviewError Update
  steps : List BuildStep
  sourceCalls : List Call
  files : FileTree

namespace Build

def compilerCalls (b : Build) : List CompilerCall :=
  b.steps.filterMap fun
    | .compile call => some call
    | _ => none

/-- The packages whose published state was resolved. -/
def resolved (b : Build) : List PackageName :=
  b.steps.filterMap fun
    | .resolve p => some p
    | _ => none

end Build

namespace Project

/-- What is put together once the documentation is built. Without a published state nothing is
compared, and a report that failed or says nothing is left out. -/
def update (m : PackageManifest) (docs : Docs) (report : Except BackendError String)
    (baseline : Option Baseline) (readme : Option String) : Update where
  name := some m.name
  version := some m.version
  publishedVersion := baseline.map (·.version)
  docs := docs
  readme := readme
  diff := report.toOption.bind Report.parse?
  contentDiff := baseline.bind fun b => contentDiff? b.docs (some docs) b.readme readme

/-- The parts of a preview in their order. The published state is resolved even if the build fails,
and the readme is read last. -/
def building (p : Project) (compiler : Compiler) (registry : Registry) (w : Surroundings) :
    Building Update := do
  match p.package? with
  | none => throw (.unsupported p.root.path)
  | some m =>
    let baseline ← Building.resolve registry w m.name
    match ← Building.compile .buildDocs compiler.buildDocs p.root.path with
    | .error e => throw (.compiler e)
    | .ok docs =>
      let report ← Building.compile .diff compiler.diff p.root.path
      let readme ← Building.readReadme p
      return update m docs report baseline readme

/-- Previews a project. -/
def preview (p : Project) (compiler : Compiler) (registry : Registry) (w : Surroundings) : Build :=
  let (result, s) := (p.building compiler registry w).run.run { files := w.files }
  { result, steps := s.steps, sourceCalls := s.sourceCalls, files := s.files }

/-- A project with the registry of its baselines in a line of a log. -/
def previewText (p : Project) (registry : Registry) : String :=
  "Previewer \x7b project: " ++ p.text ++ ", baseline: " ++ registry.baselineText ++ ", .. \x7d"

end Project

end ReleasePreview
