import AsmPair.Files.Failure

/-!
# Disks

What a program can ask of the files around it.  The program is written for any disk; it runs on
the real one, and theorems speak about a disk that is a value.

## Main definitions

* `Disk` — reading, listing and writing files, in some monad.
-/

namespace AsmPair

/-- What can be asked of the files around a program.  Paths are texts. -/
structure Disk (m : Type → Type) where
  /-- The text of a file. -/
  read : String → m (Except FileFailure String)
  /-- The names in a directory, in any order. -/
  names : String → m (Except FileFailure (List String))
  /-- Whether there is something under a path. -/
  holds : String → m Bool
  /-- Make a directory and the directories above it, as far as they are missing. -/
  makeFolder : String → m (Except FileFailure Unit)
  /-- Write a text to a file, which is made if it is missing. -/
  write : String → String → m (Except FileFailure Unit)

end AsmPair
