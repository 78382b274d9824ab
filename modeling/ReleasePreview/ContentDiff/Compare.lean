import ReleasePreview.Docs.Basic
import ReleasePreview.ContentDiff.Basic

/-!
Comparing two states of a package. Only what both have is compared: a module or declaration counts
as the same if it has the same name, and of several published ones the last stands for all.
-/
namespace ReleasePreview

/-- What the four kinds of documented things have in common: a name, a comment and a signature. -/
class Declaration (α : Type) where
  name : α → String
  comment : α → String
  /-- The declared types agree. -/
  sameSignature : α → α → Bool
  /-- The declaration on one line. -/
  annotation : α → String

/-- Type parameters, each after a space. -/
def parameters (args : List String) : String := String.join (args.map (" " ++ ·))

def typing (name type : String) : String := name ++ " : " ++ type

namespace DocConstructor

def text (c : DocConstructor) : String := " ".intercalate (c.name :: c.args)

end DocConstructor

instance : Declaration DocValue where
  name v := v.name
  comment v := v.comment
  sameSignature a b := a.type = b.type
  annotation v := typing v.name v.type

instance : Declaration DocOperator where
  name o := o.name
  comment o := o.comment
  sameSignature a b := a.type = b.type
  annotation o := typing o.name o.type

instance : Declaration DocAlias where
  name a := a.name
  comment a := a.comment
  sameSignature a b := a.type = b.type ∧ a.args = b.args
  annotation a := "type alias " ++ a.name ++ parameters a.args ++ " = " ++ a.type

instance : Declaration DocUnion where
  name u := u.name
  comment u := u.comment
  sameSignature a b := a.constructors = b.constructors ∧ a.args = b.args
  annotation u :=
    let head := "type " ++ u.name ++ parameters u.args
    if u.constructors.isEmpty then head
    else head ++ " = " ++ " | ".intercalate (u.constructors.map (·.text))

namespace ItemDiff

/-- Compares two declarations of one name. -/
def between {α : Type} [Declaration α] (published current : α) : ItemDiff where
  comment :=
    if Declaration.comment published = Declaration.comment current then none
    else lineDiff (Declaration.comment published) (Declaration.comment current)
  oldAnnotation :=
    if Declaration.sameSignature published current then none
    else some (Declaration.annotation published)

end ItemDiff

namespace ModuleDiff

/-- The published declaration of a name. -/
def counterpart? {α : Type} [Declaration α] (published : List α) (name : String) : Option α :=
  published.reverse.find? fun d => Declaration.name d = name

/-- The changed declarations of one kind, in the order of the current ones. -/
def changes {α : Type} [Declaration α] (published current : List α) : List (String × ItemDiff) :=
  current.filterMap fun d => do
    let old ← counterpart? published (Declaration.name d)
    let diff := ItemDiff.between old d
    guard !diff.isEmpty
    return (Declaration.name d, diff)

/-- Compares two modules of one name. Where declarations share a name, a later change replaces an
earlier one. -/
def between (published current : DocModule) : ModuleDiff where
  items := .ofList <|
    changes published.values current.values ++ changes published.operators current.operators ++
    changes published.aliases current.aliases ++ changes published.unions current.unions

end ModuleDiff

namespace ContentDiff

/-- The published module of a name. -/
def counterpart? (published : Docs) (name : String) : Option DocModule :=
  published.reverse.find? fun m => m.name = name

/-- The changed modules, in the order of the current ones. -/
def changes (published current : Docs) : List (String × ModuleDiff) :=
  current.filterMap fun m => do
    let old ← counterpart? published m.name
    let diff := ModuleDiff.between old m
    guard !diff.isEmpty
    return (m.name, diff)

/-- Compares two readmes, if both are there. -/
def readmeChange : Option String → Option String → Option (List DiffLine)
  | some published, some current =>
    if published = current then none else lineDiff published current
  | _, _ => none

end ContentDiff

/-- Compares the published and the current state of a package. There is no comparison without the
documentation of both, and none without a change. -/
def contentDiff? (publishedDocs currentDocs : Option Docs)
    (publishedReadme currentReadme : Option String) : Option ContentDiff := do
  let diff : ContentDiff :=
    { modules := .ofList (ContentDiff.changes (← publishedDocs) (← currentDocs))
      readme := ContentDiff.readmeChange publishedReadme currentReadme }
  guard !diff.isEmpty
  return diff

end ReleasePreview
