/-! The changes to a package's interface, as the compiler's report classifies them. -/
namespace ReleasePreview

/-- How severe the changes are altogether. -/
inductive Magnitude where
  | major
  | minor
  | patch
deriving Repr, DecidableEq

namespace Magnitude

def text : Magnitude → String
  | major => "MAJOR"
  | minor => "MINOR"
  | patch => "PATCH"

def all : List Magnitude := [major, minor, patch]

/-- The magnitude of a word in capitals. -/
def parse (s : String) : Except String Magnitude :=
  match all.find? fun m => m.text = s with
  | some m => .ok m
  | none => .error s

/-- The refusal of a word that names no magnitude. -/
def refusal (s : String) : String := "unknown change magnitude: " ++ s

end Magnitude

/-- What happened to a symbol. -/
inductive ChangeKind where
  | added
  | changed
  | removed
deriving Repr, DecidableEq

/-- The symbols of one module that changed, in the order of the report. -/
structure ModuleReport where
  name : String
  added : List String := []
  changed : List String := []
  removed : List String := []
deriving Repr, DecidableEq

namespace ModuleReport

/-- All symbols, whatever happened to them. -/
def symbols (m : ModuleReport) : List String := m.added ++ m.changed ++ m.removed

def contains (m : ModuleReport) (symbol : String) : Bool := m.symbols.contains symbol

def isEmpty (m : ModuleReport) : Bool := m.symbols.isEmpty

/-- Records a symbol, unless the module has it already under any heading. -/
def record (m : ModuleReport) (kind : ChangeKind) (symbol : String) : ModuleReport :=
  if m.contains symbol then m
  else
    match kind with
    | .added => { m with added := m.added ++ [symbol] }
    | .changed => { m with changed := m.changed ++ [symbol] }
    | .removed => { m with removed := m.removed ++ [symbol] }

end ModuleReport

/-- A report: modules added and removed, and the changes within the others. -/
structure ApiReport where
  magnitude : Magnitude
  addedModules : List String := []
  removedModules : List String := []
  changedModules : List ModuleReport := []
deriving Repr, DecidableEq

namespace ApiReport

/-- The changes recorded for a module. -/
def module? (r : ApiReport) (name : String) : Option ModuleReport :=
  r.changedModules.find? fun m => m.name = name

/-- No module and no symbol has changed. -/
def isEmpty (r : ApiReport) : Bool :=
  r.addedModules.isEmpty && r.removedModules.isEmpty && r.changedModules.all (·.isEmpty)

end ApiReport

end ReleasePreview
