/-!
# File failures

## Main definitions

* `FileFailure` — why a file or directory cannot be used.
* `FileFailure.message` — the operating system's wording.
-/

namespace AsmPair

/-- Why a file or directory cannot be used. -/
inductive FileFailure where
  /-- There is nothing under the name. -/
  | notFound : FileFailure
  /-- There is something under the name already. -/
  | alreadyExists : FileFailure
  /-- A directory is needed and there is a file. -/
  | notADirectory : FileFailure
  /-- A file is needed and there is a directory. -/
  | isADirectory : FileFailure
  /-- A name has more bytes than a directory can keep, or a path too many. -/
  | nameTooLong : FileFailure
  /-- The file holds no text. -/
  | notText : FileFailure
  /-- The operating system has another reason, which it words itself. -/
  | other (reason : String) : FileFailure
  deriving DecidableEq, Repr

/-- The wording of a failure. -/
def FileFailure.message : FileFailure → String
  | .notFound => "No such file or directory (os error 2)"
  | .alreadyExists => "File exists (os error 17)"
  | .notADirectory => "Not a directory (os error 20)"
  | .isADirectory => "Is a directory (os error 21)"
  | .nameTooLong => "File name too long (os error 36)"
  | .notText => "stream did not contain valid UTF-8"
  | .other reason => reason

end AsmPair
