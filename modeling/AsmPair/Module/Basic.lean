import AsmPair.Feature
import AsmPair.Operand.Template

/-!
# Assembler modules

A module is a source text that an assembler accepts on its own: a prologue, the instructions
under test, a branch target between four fillers, and an epilogue.

## Main definitions

* `AsmModule` — a module, with its instructions as written lines.
* `AsmModule.source` — its source text.
* `AsmModule.requiredFeature?` — the feature it needs beyond the base 8086.
-/

namespace AsmPair

/-- A module under test. -/
structure AsmModule where
  /-- The name, short enough for a file name of eight letters. -/
  name : String
  /-- What the module covers. -/
  title : String
  /-- The feature of the forms it covers. -/
  feature : Feature
  /-- The label where the program starts. -/
  entryLabel : String
  /-- The instructions under test, as written lines. -/
  body : List String
  deriving DecidableEq, Repr

namespace AsmModule

/-- The number of instructions under test; fillers do not count. -/
def instructions (m : AsmModule) : Nat := m.body.length

/-- The number of instructions of several modules. -/
def total (ms : List AsmModule) : Nat := ms.foldr (fun m n => m.instructions + n) 0

/-- The feature a module needs beyond the base 8086. -/
def requiredFeature? (m : AsmModule) : Option Feature :=
  if m.feature = .cpu8086 then none else some m.feature

/-- The lines before the instructions: the frame, the processor directive that the feature
needs, and the title as a comment. -/
def opening (m : AsmModule) : List String :=
  ["    IDEAL", "    SEGMENT image", "    ASSUME CS:image, DS:image, SS:image, ES:image",
    "    ORG 0100h", m.entryLabel ++ ":"] ++
  m.feature.directive?.toList.map ("    " ++ ·) ++
  ["    ; " ++ m.title, ""]

/-- The lines after the instructions: two fillers on each side of the branch target, so that
every branch goes forward, and the end of the frame. -/
def closing (m : AsmModule) : List String :=
  ["    nop", "    nop", Template.targetLabel ++ ":", "    nop", "    nop", "", "    ENDS", "",
    "END " ++ m.entryLabel]

/-- All lines of a module. -/
def sourceLines (m : AsmModule) : List String := m.opening ++ m.body ++ m.closing

/-- The source text of a module. -/
def source (m : AsmModule) : String := String.join (m.sourceLines.map (· ++ "\n"))

end AsmModule

end AsmPair
