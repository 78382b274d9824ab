import ReleasePreview.Docs.Json
import ReleasePreview.Files.Access
import ReleasePreview.Source.Basic

/-! The compiler's package cache: a directory for every author, project and version. -/
namespace ReleasePreview

/-- A cache by its root directory. -/
structure PackageCache where
  root : String
deriving Repr, DecidableEq

namespace PackageCache

/-- The release of the compiler whose packages are cached. -/
def compilerRelease : String := "0.19.1"

/-- The cache in a home directory of the compiler. -/
def ofHome (home : String) : PackageCache :=
  ⟨Path.join (Path.join home compilerRelease) "packages"⟩

def packagePath (c : PackageCache) (p : PackageName) : String :=
  Path.join (Path.join c.root p.author) p.project

def versionPath (c : PackageCache) (p : PackageName) (v : Version) : String :=
  Path.join (c.packagePath p) v.text

def docsPath (c : PackageCache) (p : PackageName) (v : Version) : String :=
  Path.join (c.versionPath p v) "docs.json"

def readmePath (c : PackageCache) (p : PackageName) (v : Version) : String :=
  Path.join (c.versionPath p v) "README.md"

/-- The version that an entry of a package's directory stands for: only directories count. -/
def entryVersion? : String × FileNode → Option Version
  | (name, .directory) => Version.parse? name
  | _ => none

def versions (c : PackageCache) (w : Surroundings) (p : PackageName) :
    Except BackendError (List Version) :=
  let path := c.packagePath p
  match w.files.list w.directory path with
  | .ok entries => .ok (entries.filterMap entryVersion?)
  | .error .notFound => .ok []
  | .error e => .error (.inaccessible path e)

/-- The text of a file that may be missing. -/
def text? (w : Surroundings) (path : String) : Except BackendError (Option String) :=
  (w.files.readText? w.directory path).mapError (.inaccessible path)

def docs (c : PackageCache) (w : Surroundings) (p : PackageName) (v : Version) :
    Except BackendError (Option Docs) := do
  let path := c.docsPath p v
  (← text? w path).mapM fun raw => (Json.decodeText Docs.decode raw).mapError (.malformed path)

def readme (c : PackageCache) (w : Surroundings) (p : PackageName) (v : Version) :
    Except BackendError (Option String) :=
  text? w (c.readmePath p v)

def source (c : PackageCache) : Source where
  id := "cache"
  label := "Local package cache"
  versions w p := .ofExcept (c.versions w p)
  docs w p v := .ofExcept (c.docs w p v)
  readme w p v := .ofExcept (c.readme w p v)

end PackageCache

end ReleasePreview
