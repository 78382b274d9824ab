import ReleasePreview.Text.Unprintable

/-! Package names: an author and a project, with a slash between them. -/
namespace ReleasePreview

/-- Neither part of a name is empty, and neither has a slash in it. -/
def PackageName.IsPart (s : String) : Prop := s ≠ "" ∧ '/' ∉ s.toList

instance (s : String) : Decidable (PackageName.IsPart s) :=
  inferInstanceAs (Decidable (_ ∧ _))

structure PackageName where
  author : String
  project : String
  author_isPart : PackageName.IsPart author
  project_isPart : PackageName.IsPart project
deriving DecidableEq

namespace PackageName

def text (p : PackageName) : String := p.author ++ "/" ++ p.project

/-- The refusal of a text that is no package name. -/
def refusal (s : String) : String :=
  "invalid package name " ++ Text.quoted s ++ ": expected AUTHOR/PROJECT"

/-- The name of two parts. Where one of them is not fit, the error is the text of both. -/
def ofParts (author project : String) : Except String PackageName :=
  if h : IsPart author ∧ IsPart project then .ok ⟨author, project, h.1, h.2⟩
  else .error (author ++ "/" ++ project)

/-- A text that is no package name is its own error. -/
def parse (s : String) : Except String PackageName :=
  match s.toList.dropWhile (· != '/') with
  | [] => .error s
  | _ :: project => ofParts (String.ofList (s.toList.takeWhile (· != '/'))) (String.ofList project)

end PackageName

end ReleasePreview
