import ExportAudit.Path

/-!
# What an analysis asks of the files

An analysis reads whole files as text and asks what stands at a path.  A file that
cannot be read has a reason.  The questions are a record of functions, so an
analysis is a function of their answers, **whatever the files are.**
-/

namespace ExportAudit

set_option autoImplicit false

/-- Why a file cannot be read. -/
inductive FileError where
  | notFound
  | permissionDenied
  | notDirectory
  | isDirectory
  | tooManyLinks
  /-- The content is not text. -/
  | notText
  deriving DecidableEq, Repr

/-- The wording of a reason. -/
def FileError.message : FileError → String
  | .notFound => "No such file or directory (os error 2)"
  | .permissionDenied => "Permission denied (os error 13)"
  | .notDirectory => "Not a directory (os error 20)"
  | .isDirectory => "Is a directory (os error 21)"
  | .tooManyLinks => "Too many levels of symbolic links (os error 40)"
  | .notText => "stream did not contain valid UTF-8"

/-- A name in a directory. -/
structure Child where
  name : String
  /-- The name stands for a file itself, not for a link to one. -/
  isPlainFile : Bool
  deriving DecidableEq, Repr

/-- The files as an analysis sees them. -/
structure Files where
  /-- The text of a file. -/
  readText : Path → Except FileError String
  /-- Something stands at a path. -/
  present : Path → Bool
  /-- A file stands at a path, directly or through links. -/
  isFile : Path → Bool
  /-- A directory stands at a path, directly or through links. -/
  isDirectory : Path → Bool
  /-- The names in a directory. -/
  children : Path → List Child

end ExportAudit
