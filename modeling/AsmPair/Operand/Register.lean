import AsmPair.Text.Case

/-!
# Registers

The registers of the 8086, upper case and in the order in which the instruction encoding numbers
them.

## Main definitions

* `byteRegisters`, `wordRegisters`, `segmentTargets`, `segmentSources` — the register names.
* `isRegister` — whether an operand names a register, up to the case of its letters.
-/

namespace AsmPair.Operand

/-- The general registers of eight bits. -/
def byteRegisters : List String := ["AL", "CL", "DL", "BL", "AH", "CH", "DH", "BH"]

/-- The general registers of sixteen bits. -/
def wordRegisters : List String := ["AX", "CX", "DX", "BX", "SP", "BP", "SI", "DI"]

/-- The segment registers that can be loaded. -/
def segmentTargets : List String := ["DS", "ES", "SS"]

/-- The segment registers that can be stored; the code segment is one of them. -/
def segmentSources : List String := ["DS", "ES", "SS", "CS"]

/-- The positions of the coprocessor stack that are tried: the top without a number, the top,
its neighbour and the far end. -/
def stackPositions : List String := ["ST", "ST(0)", "ST(1)", "ST(7)"]

/-- Whether an operand names a general or segment register; the case of its letters does not
matter. -/
def isRegister (op : String) : Bool :=
  (byteRegisters ++ wordRegisters ++ segmentSources).any fun r => Text.sameLetters r op

end AsmPair.Operand
