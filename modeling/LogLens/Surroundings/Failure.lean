/-!
# Failing files and streams

Why a file cannot be opened or read, or why an end of a stream fails. The wording is that of the
system, with the number that the system gives to the failure; a text that is not UTF-8 is no failure
of the system and has no number. Every further failure of the system brings its own wording.
-/

namespace LogLens

/-- Why a file or an end of a stream fails. -/
inductive IoFailure where
  | notFound
  | permissionDenied
  | brokenPipe
  | notDirectory
  | isDirectory
  | nameTooLong
  | notText
  | other (text : String)
  deriving DecidableEq, Repr

/-- The wording of a failure. -/
def IoFailure.message : IoFailure → String
  | notFound => "No such file or directory (os error 2)"
  | permissionDenied => "Permission denied (os error 13)"
  | brokenPipe => "Broken pipe (os error 32)"
  | notDirectory => "Not a directory (os error 20)"
  | isDirectory => "Is a directory (os error 21)"
  | nameTooLong => "File name too long (os error 36)"
  | notText => "stream did not contain valid UTF-8"
  | other text => text

end LogLens
