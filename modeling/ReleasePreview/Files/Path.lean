import ReleasePreview.Text.Split

/-! Paths as texts: names with slashes between them, absolute if there is a slash at the front. -/
namespace ReleasePreview.Path

def isAbsolute (path : String) : Bool := path.toList.head? = some '/'

/-- A path below another one. An absolute path stands for itself. -/
def join (base part : String) : String :=
  if isAbsolute part || base.isEmpty then part
  else if base.toList.getLast? = some '/' then base ++ part
  else base ++ "/" ++ part

/-- The names to be followed from left to right. A slash at the end asks for a directory, as a
single dot does. -/
def names (path : String) : List String :=
  let parts := (Text.split '/' path.toList).filter (!·.isEmpty)
  let slashAtEnd := path.toList.getLast? = some '/'
  (parts.map String.ofList) ++ (if slashAtEnd && !parts.isEmpty then ["."] else [])

end ReleasePreview.Path
