import ReleasePreview.Text.Split
import ReleasePreview.Report.Line

/-!
Reading a report line by line. A section lasts until the next banner; blank lines and lines that
say nothing in their section are passed over.
-/
namespace ReleasePreview.Report

/-- The section that the next line belongs to. Within a module's section `index` is the place of
the module's record, and `list` the heading last seen. -/
inductive Section where
  | outside
  | addedModules
  | removedModules
  | module (index : Nat) (list : Option ChangeKind)
deriving Repr, DecidableEq

/-- A report as far as it has been read. -/
structure Scan where
  report : ApiReport
  place : Section
deriving Repr, DecidableEq

/-- Adds a name that is not there yet. -/
def insertNew (names : List String) (name : String) : List String :=
  if names.contains name then names else names ++ [name]

namespace Scan

def start (m : Magnitude) : Scan := ⟨{ magnitude := m }, .outside⟩

/-- Opens the section of a module: its record is made if there is none, and used again if there
is. -/
def openModule (s : Scan) (name : String) : Scan :=
  let modules := s.report.changedModules
  match modules.findIdx? fun m => m.name = name with
  | some index => { s with place := .module index none }
  | none =>
    ⟨{ s.report with changedModules := modules ++ [{ name }] }, .module modules.length none⟩

def openSection (s : Scan) : Banner → Scan
  | .addedModules => { s with place := .addedModules }
  | .removedModules => { s with place := .removedModules }
  | .module name => s.openModule name
  | .closing => { s with place := .outside }

/-- Records a symbol in the record at an index. -/
def recordSymbol (s : Scan) (index : Nat) (kind : ChangeKind) (symbol : String) : Scan :=
  let modules := s.report.changedModules.modify index fun m => m.record kind symbol
  { s with report := { s.report with changedModules := modules } }

/-- Takes a line that is no banner and not blank. -/
def content (s : Scan) (line trimmed : List Char) : Scan :=
  match s.place with
  | .outside => s
  | .addedModules =>
    if isIndented line then
      let names := insertNew s.report.addedModules (String.ofList trimmed)
      { s with report := { s.report with addedModules := names } }
    else s
  | .removedModules =>
    if isIndented line then
      let names := insertNew s.report.removedModules (String.ofList trimmed)
      { s with report := { s.report with removedModules := names } }
    else s
  | .module index list =>
    match heading? trimmed with
    | some kind => { s with place := .module index (some kind) }
    | none =>
      match list, symbol? trimmed with
      | some kind, some symbol => s.recordSymbol index kind symbol
      | _, _ => s

/-- Takes a line. -/
def step (s : Scan) (line : List Char) : Scan :=
  let trimmed := Text.trim line
  if isBanner trimmed then s.openSection (banner trimmed)
  else if trimmed.isEmpty then s
  else s.content line trimmed

end Scan

/-- Reads a report, if its first line announces one. -/
def scan? (raw : List Char) : Option Scan :=
  match Text.lines raw with
  | [] => none
  | first :: rest => (announcement? first).map fun m => rest.foldl Scan.step (.start m)

/-- The report that a text holds. Nothing that follows the announcement makes it fail. -/
def parse? (raw : String) : Option ApiReport := (scan? raw.toList).map (·.report)

end ReleasePreview.Report
