import ReleasePreview.Preview.Error
import ReleasePreview.Text.Split

/-! Failures as they are reported, each with its causes. -/
namespace ReleasePreview.CommandLine

inductive Failure where
  | notOpened (path : String) (why : PreviewError)
  | notPreviewed (why : PreviewError)
  | notRead (path : String) (why : FileError)
  | notDecoded (path : String) (why : Json.DecodeError)
  /-- The standard input cannot be read. -/
  | inputNotRead (why : FileError)
deriving Repr, DecidableEq

namespace Failure

def message : Failure → String
  | notOpened path _ => "failed to open project at " ++ path
  | notPreviewed why => why.message
  | notRead path _ => "failed to read " ++ path
  | notDecoded path _ => "failed to decode docs from " ++ path
  | inputNotRead _ => "failed to read diff report from stdin"

/-- The causes, each one behind the one before it. -/
def causes : Failure → List String
  | notOpened _ why => why.message :: why.cause?.toList
  | notPreviewed why => why.cause?.toList
  | notRead _ why => [why.message]
  | notDecoded _ why => [why.message]
  | inputNotRead why => [why.message]

/-- The lines of a text, one under the other behind a first margin. -/
def indented (first rest text : String) : String :=
  first ++ ("\n" ++ rest).intercalate ((Text.split '\n' text.toList).map String.ofList)

/-- The causes are numbered if there are several. The numbers stand in five columns. -/
def causesText : List String → String
  | [] => ""
  | [cause] => "\n\nCaused by:\n" ++ indented "    " "    " cause
  | causes =>
    "\n\nCaused by:" ++ String.join (causes.zipIdx.map fun (cause, i) =>
      "\n" ++ indented s!"    {i}: " "       " cause)

def text (f : Failure) : String := "Error: " ++ f.message ++ causesText f.causes ++ "\n"

end Failure

end ReleasePreview.CommandLine
