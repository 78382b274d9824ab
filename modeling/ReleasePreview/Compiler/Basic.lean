import ReleasePreview.Backend.Error
import ReleasePreview.Docs.Basic
import ReleasePreview.Files.Tree

/-!
Compilers, as far as they are needed here: they document a project and report its changes. What
becomes of a program that is started.
-/
namespace ReleasePreview

/-- Both commands work in a directory, given by its path, and may change files. -/
structure Compiler where
  buildDocs : FileTree → (directory : String) → FileTree × Except BackendError Docs
  diff : FileTree → (directory : String) → FileTree × Except BackendError String

inductive CompilerCall where
  | buildDocs
  | diff
deriving Repr, DecidableEq

def CompilerCall.text : CompilerCall → String
  | buildDocs => "build_docs"
  | diff => "diff"

/-- A compiler whose answers are written down beforehand. It changes no file. -/
def Compiler.scripted (docs : Except BackendError Docs) (report : Except BackendError String) :
    Compiler where
  buildDocs files _ := (files, docs)
  diff files _ := (files, report)

/-- A program with its arguments, and the directory it runs in. -/
structure Launch where
  program : String
  args : List String
  directory : String
deriving Repr, DecidableEq

/-- A null character would end a text too early. -/
def Launch.hasNull (l : Launch) : Bool :=
  (l.program :: l.directory :: l.args).any fun s => s.toList.contains '\x00'

/-- How a program ends that is not stopped for its running time. -/
inductive Ending where
  | exited (status : Nat)
  /-- Killed by a signal. -/
  | killed
deriving Repr, DecidableEq

/-- The exit status, if there is one. -/
def Ending.status? : Ending → Option Nat
  | exited status => some status
  | killed => none

/-- What becomes of a launch. -/
inductive Run where
  | notSpawned (why : FileError)
  /-- Stopped when its time was over. -/
  | timedOut
  | finished (ending : Ending) (stdout stderr : List UInt8)
deriving Repr, DecidableEq

/-- What programs do with the files they find, within a number of milliseconds. -/
abbrev System := (milliseconds : Nat) → Launch → FileTree → FileTree × Run

end ReleasePreview
