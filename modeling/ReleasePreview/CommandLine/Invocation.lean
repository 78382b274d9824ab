import ReleasePreview.CommandLine.Arguments
import ReleasePreview.Logging
import ReleasePreview.Package.Name
import ReleasePreview.Settings

/-! The commands of the program, and how they are read from its arguments. -/
namespace ReleasePreview.CommandLine

inductive Invocation where
  /-- Previews the project of a directory. -/
  | preview (directory : String)
  /-- Reads a report from a file or from the standard input. -/
  | apiDiff (file : Option String)
  | contentDiff (published current : String) (publishedReadme currentReadme : Option String)
  /-- The latest version of a package. -/
  | latest (package : PackageName)
  | sources
deriving DecidableEq

/-- A command and the form of the log. -/
structure Request where
  profile : Logging.Profile
  invocation : Invocation
deriving DecidableEq

def logFormat : String := "log-format"

def profile? : String → Option Logging.Profile
  | "pretty" => some .development
  | "json" => some .production
  | _ => none

/-- The option for the log is taken at every level. -/
def formOf (options : List String) : Form where
  options := logFormat :: options
  accepts name value := name ≠ logFormat || (profile? value).isSome

def firstForm : Form := { formOf [] with hasVersion := true, endsAtWord := true }

/-- Reads what is left of a command line behind the name of a command. -/
def invocation (name : String) (args : List String) : Except Stop (Given × Invocation) := do
  let read (form : Form) : Except Stop Given := do return (← readLevel form {} args).1
  match name with
  | "preview" =>
    let g ← read (formOf ["dir"])
    return (g, .preview ((g.option? "dir").getD "."))
  | "api-diff" =>
    let g ← read { formOf [] with maxWords := 1 }
    return (g, .apiDiff g.words.head?)
  | "content-diff" =>
    let g ← read (formOf ["published", "current", "published-readme", "current-readme"])
    match g.option? "published", g.option? "current" with
    | some published, some current =>
      return (g, .contentDiff published current (g.option? "published-readme")
        (g.option? "current-readme"))
    | _, _ => throw .misuse
  | "latest" =>
    let name? (word : String) := (PackageName.parse word).toOption
    let g ← read { formOf [] with maxWords := 1, acceptsWord := fun word => (name? word).isSome }
    match g.words.head?.bind name? with
    | some p => return (g, .latest p)
    | none => throw .misuse
  | "sources" => return (← read (formOf []), .sources)
  | _ => throw .misuse

def commandNames : List String :=
  ["preview", "api-diff", "content-diff", "latest", "sources", "help"]

/-- The form of the log: of the command's own options, of those before it, of the environment. The
environment has to be right if it is looked at for either level. -/
def profileOf (environment : Environment) (outer inner : Given) : Except Stop Logging.Profile :=
  let given (g : Given) := (g.option? logFormat).bind profile?
  match given inner, given outer, environment.get? "DOCPREVIEW_LOG_FORMAT" with
  | some p, some _, _ => .ok p
  | p, q, none => .ok ((p.orElse fun _ => q).getD .default)
  | p, q, some value =>
    match profile? value with
    | none => .error .misuse
    | some r => .ok ((p.orElse fun _ => q).getD r)

/-- Reads a command line. -/
def request (environment : Environment) (args : List String) : Except Stop Request := do
  let (outer, rest) ← readLevel firstForm {} args
  match rest with
  | [] => throw .misuse
  | "help" :: names => throw (if names.length ≤ 1 && names.all commandNames.contains then .help
      else .misuse)
  | name :: args =>
    let (inner, invocation) ← invocation name args
    return { profile := ← profileOf environment outer inner, invocation }

end ReleasePreview.CommandLine
