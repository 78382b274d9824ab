/-! What goes wrong with files, with the messages of the operating system. -/
namespace ReleasePreview

inductive FileError where
  | notFound
  | badFormat
  | permissionDenied
  | alreadyExists
  | notDirectory
  | isDirectory
  | nameTooLong
  | notEmpty
  | tooManyLinks
  | badDescriptor
  | brokenPipe
  | noSpace
  | noDevice
  /-- The content is not UTF-8. -/
  | notText
  /-- The path has a null character in it. -/
  | nullInPath
  /-- What a program is started with has a null character in it. -/
  | nullInLaunch
deriving Repr, DecidableEq

namespace FileError

def reason : FileError → String
  | notFound => "No such file or directory"
  | badFormat => "Exec format error"
  | permissionDenied => "Permission denied"
  | alreadyExists => "File exists"
  | notDirectory => "Not a directory"
  | isDirectory => "Is a directory"
  | nameTooLong => "File name too long"
  | notEmpty => "Directory not empty"
  | tooManyLinks => "Too many levels of symbolic links"
  | badDescriptor => "Bad file descriptor"
  | brokenPipe => "Broken pipe"
  | noSpace => "No space left on device"
  | noDevice => "No such device or address"
  | notText => "stream did not contain valid UTF-8"
  | nullInPath => "file name contained an unexpected NUL byte"
  | nullInLaunch => "nul byte found in provided data"

/-- The number of the operating system for the error, if it is one of its own. -/
def number? : FileError → Option Nat
  | notFound => some 2
  | badFormat => some 8
  | permissionDenied => some 13
  | alreadyExists => some 17
  | notDirectory => some 20
  | isDirectory => some 21
  | nameTooLong => some 36
  | notEmpty => some 39
  | tooManyLinks => some 40
  | badDescriptor => some 9
  | brokenPipe => some 32
  | noSpace => some 28
  | noDevice => some 6
  | notText => none
  | nullInPath => none
  | nullInLaunch => none

def message (e : FileError) : String :=
  match e.number? with
  | some n => s!"{e.reason} (os error {n})"
  | none => e.reason

end FileError

end ReleasePreview
