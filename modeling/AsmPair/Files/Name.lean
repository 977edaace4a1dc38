import AsmPair.Text.Case
import AsmPair.Text.Pieces

/-!
# File names

A path is a text of pieces with slashes between them.  Empty pieces and single dots stand for
nothing, two dots for the directory above.  The last dot of a file name sets off its extension,
unless it is the first character.

## Main definitions

* `pathPieces` — the pieces of a path.
* `fileName?` — the file name at the end of a path.
* `splitName`, `stemOf`, `hasExtension` — the parts of a file name.
* `withExtension` — a file name with another extension.
* `within` — the path of a file in a directory.
* `moduleNameOf` — the name of the module in a file.
-/

namespace AsmPair.Files

/-- The pieces of a path between the slashes. -/
def pathPieces (path : String) : List String :=
  (Text.pieces (· == '/') path.toList).map String.ofList

/-- Whether a piece of a path stands for nothing. -/
def isIdle (piece : String) : Bool := piece == "" || piece == "."

/-- The file name at the end of a path; a path may end in no name. -/
def fileName? (path : String) : Option String :=
  ((pathPieces path).filter fun p => !isIdle p).getLast?.filter (· != "..")

/-- The stem of a file name and the extension after its last dot, if it has one. -/
def splitName (name : String) : String × Option String :=
  match Text.cut? (· == '.') name.toList.reverse with
  | some (extension, stem) =>
    if stem.isEmpty then (name, none)
    else (String.ofList stem.reverse, some (String.ofList extension.reverse))
  | none => (name, none)

/-- The stem of a file name. -/
def stemOf (name : String) : String := (splitName name).1

/-- A file name with another extension.  Where nothing but a dot stands before the old one, two
dots are left when it is taken off; they lead to the directory above and take no extension. -/
def withExtension (extension name : String) : String :=
  if stemOf name = "." then ".." else stemOf name ++ "." ++ extension

/-- Whether a file name has an extension, up to the case of ASCII letters. -/
def hasExtension (extension name : String) : Bool :=
  (splitName name).2.any fun e => Text.sameLetters e extension

/-- The path of a file in a directory. -/
def within (dir name : String) : String :=
  if dir.toList.getLast? = some '/' then dir ++ name else dir ++ "/" ++ name

/-- The name of the module in a file: the stem of the file name, or the path if there is none. -/
def moduleNameOf (path : String) : String :=
  match fileName? path with
  | some name => stemOf name
  | none => path

end AsmPair.Files
