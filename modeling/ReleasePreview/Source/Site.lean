import ReleasePreview.Docs.Json
import ReleasePreview.Http.Reply
import ReleasePreview.Package.Releases
import ReleasePreview.Source.Basic

/-! The package site, which answers over HTTP. -/
namespace ReleasePreview

/-- A site by its base URL, which has no slash at its end. -/
structure PackageSite where
  baseUrl : String
deriving Repr, DecidableEq

namespace PackageSite

def ofUrl (url : String) : PackageSite :=
  ⟨String.ofList (url.toList.reverse.dropWhile (· = '/')).reverse⟩

/-- What is asked for about a package. -/
def tail : Query → String
  | .versions => "releases.json"
  | .docs v => v.text ++ "/docs.json"
  | .readme v => v.text ++ "/README.md"

def url (s : PackageSite) (p : PackageName) (q : Query) : String :=
  s.baseUrl ++ "/packages/" ++ p.author ++ "/" ++ p.project ++ "/" ++ tail q

/-- What a reply to a request means. What is not found is absent. -/
def body? (url : String) : Http.Reply → Except BackendError (Option String)
  | .lost why => .error (.notRequested url why)
  | .answer status body =>
    if status = 404 then .ok none
    else if Http.isSuccess status then
      match body with
      | .ok body => .ok (some body)
      | .error why => .error (.notReceived url why)
    else .error (.unexpectedStatus url status)

/-- Asks for a URL. -/
def fetch (url : String) : ExceptT BackendError Http.Exchange (Option String) :=
  .mk (.get url fun reply => .done (body? url reply))

/-- The versions in the body of an answer. -/
def listing (raw : String) : Except BackendError (List Version) :=
  (Json.decodeText Releases.decode raw).mapError .malformedListing

/-- The documentation in the body of an answer. -/
def documentation (url raw : String) : Except BackendError Docs :=
  (Json.decodeText Docs.decode raw).mapError (.malformedAnswer url)

def versions (s : PackageSite) (p : PackageName) :
    ExceptT BackendError Http.Exchange (List Version) := do
  match ← fetch (s.url p .versions) with
  | some raw => listing raw
  | none => return []

def docs (s : PackageSite) (p : PackageName) (v : Version) :
    ExceptT BackendError Http.Exchange (Option Docs) := do
  let url := s.url p (.docs v)
  match ← fetch url with
  | some raw => return some (← documentation url raw)
  | none => return none

def readme (s : PackageSite) (p : PackageName) (v : Version) :
    ExceptT BackendError Http.Exchange (Option String) :=
  fetch (s.url p (.readme v))

def source (s : PackageSite) : Source where
  id := "remote"
  label := "Package site"
  versions w p := .ofExcept ((s.versions p).run.run w.site)
  docs w p v := .ofExcept ((s.docs p v).run.run w.site)
  readme w p v := .ofExcept ((s.readme p v).run.run w.site)

end PackageSite

end ReleasePreview
