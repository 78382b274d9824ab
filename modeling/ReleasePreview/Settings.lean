import ReleasePreview.Decimal.Natural
import ReleasePreview.Source.Cache
import ReleasePreview.Source.Registry
import ReleasePreview.Source.Site
import ReleasePreview.Text.Blank

/-! What is configured by environment variables. -/
namespace ReleasePreview

/-- Environment variables, and the home directory that the account has without them. -/
structure Environment where
  bindings : List (String × String) := []
  accountHome : Option String := none
deriving Repr, DecidableEq

namespace Environment

def get? (e : Environment) (name : String) : Option String := e.bindings.lookup name

/-- The home directory: an empty variable counts as none. -/
def home? (e : Environment) : Option String :=
  match e.get? "HOME" with
  | some home => if home.isEmpty then e.accountHome else some home
  | none => e.accountHome

def compilerProgram (e : Environment) : String := (e.get? "DOCPREVIEW_COMPILER_BIN").getD "elm"

def maxSeconds : Nat := 18446744073709551615

def defaultTimeout : Nat := 60

/-- A number of seconds: a positive integer of 64 bits, with blanks around it and a plus sign
before it at will. -/
def seconds? (s : String) : Option Nat := do
  let digits :=
    match Text.trim s.toList with
    | '+' :: digits => digits
    | digits => digits
  let n ← Decimal.natural? digits
  guard (0 < n ∧ n ≤ maxSeconds)
  return n

/-- How many seconds the compiler may run. What is no number of seconds is ignored. -/
def compilerTimeout (e : Environment) : Nat :=
  ((e.get? "DOCPREVIEW_COMPILER_TIMEOUT_SECS").bind seconds?).getD defaultTimeout

def cache (e : Environment) : PackageCache :=
  .ofHome ((e.get? "ELM_HOME").getD ((e.home?.map (Path.join · ".elm")).getD ".elm"))

def site (e : Environment) : PackageSite :=
  .ofUrl ((e.get? "DOCPREVIEW_PACKAGE_SITE").getD "https://package.elm-lang.org")

/-- The cache is asked before the site. -/
def registry (e : Environment) : Registry :=
  (Registry.empty.register e.cache.source).register e.site.source

end Environment

end ReleasePreview
