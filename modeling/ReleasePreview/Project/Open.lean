import ReleasePreview.Files.Access
import ReleasePreview.Preview.Error
import ReleasePreview.Project.Json
import ReleasePreview.Text.Unprintable

/-!
Projects in a file tree. The project of a path is in the nearest directory at or above it that has
a manifest.
-/
namespace ReleasePreview

/-- A project by the place of its root directory. -/
structure Project where
  root : Place
  manifest : Manifest
deriving DecidableEq

namespace Project

def manifestFile : String := "elm.json"

def readmeFile : String := "README.md"

/-- A place and the directories above it, from the deepest one. -/
def ancestors (p : Place) : List Place :=
  (List.range (p.length + 1)).map fun up => p.take (p.length - up)

/-- The path of a file in a directory. -/
def fileIn (p : Place) (name : String) : String := Path.join p.path name

/-- The nearest directory with a manifest, at a place or above it. -/
def nearest? (files : FileTree) (p : Place) : Option Place :=
  (ancestors p).find? fun dir => files.isFile [] (fileIn dir manifestFile)

def readManifest (files : FileTree) (path : String) : Except PreviewError Manifest := do
  let raw ← (files.readText [] path).mapError (.inaccessible path)
  (Json.decodeText Manifest.decode raw).mapError (.invalidManifest path)

/-- Opens the project that contains a path, which may be relative to a directory. -/
def openAt (files : FileTree) (directory : Place) (path : String) :
    Except PreviewError Project := do
  let p ← (files.canonical directory path).mapError (.inaccessible path)
  match nearest? files p with
  | none => throw (.noProject p.path)
  | some root => return { root, manifest := ← readManifest files (fileIn root manifestFile) }

def package? (p : Project) : Option PackageManifest := p.manifest.package?

/-- The text of the readme, if there is one. -/
def readme (p : Project) (files : FileTree) : Except PreviewError (Option String) :=
  let path := fileIn p.root readmeFile
  (files.readText? [] path).mapError (.inaccessible path)

/-- The project in a line of a log. -/
def text (p : Project) : String :=
  let package :=
    match p.package? with
    | some m => "Some(PackageName \x7b author: " ++ Text.quoted m.name.author ++ ", project: " ++
        Text.quoted m.name.project ++ " \x7d)"
    | none => "None"
  "Project \x7b root: " ++ Text.quoted p.root.path ++ ", package: " ++ package ++ ", .. \x7d"

end Project

end ReleasePreview
