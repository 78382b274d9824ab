/-! How log messages are written. They never stand between the output. -/
namespace ReleasePreview.Logging

inductive Profile where
  | development
  | production
  | test
deriving Repr, DecidableEq

def Profile.text : Profile → String
  | development => "Development"
  | production => "Production"
  | test => "Test"

def Profile.default : Profile := .development

/-- The filter that is used when none is set. -/
def defaultFilter : String := "docpreview=info"

end ReleasePreview.Logging
