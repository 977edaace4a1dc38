import AsmPair.Operand.Memory
import AsmPair.Operand.Register

/-!
# Operand templates

A template says what an operand slot of an instruction accepts.  It is written in the shorthand
of the processor reference manual, and it stands for a fixed list of operands that reaches every
encoding once rather than every value.

## Main definitions

* `Template` — what an operand slot accepts.
* `Template.shorthand`, `Template.ofShorthand?` — the manual's shorthand.
* `Template.operands` — the operands a template stands for.
* `Template.cardinality` — how many there are.
* `Template.isLarge` — whether the operands are split over several modules.
-/

namespace AsmPair

/-- The register classes. -/
inductive RegisterClass where
  /-- The general registers of eight bits. -/
  | byte : RegisterClass
  /-- The general registers of sixteen bits. -/
  | word : RegisterClass
  /-- The segment registers that can be loaded. -/
  | segmentTarget : RegisterClass
  /-- The segment registers that can be stored. -/
  | segmentSource : RegisterClass
  deriving DecidableEq, Repr

/-- The registers of a class. -/
def RegisterClass.names : RegisterClass → List String
  | .byte => Operand.byteRegisters
  | .word => Operand.wordRegisters
  | .segmentTarget => Operand.segmentTargets
  | .segmentSource => Operand.segmentSources

/-- The width of an operand that a general register can hold. -/
inductive Scalar where
  /-- Eight bits. -/
  | byte : Scalar
  /-- Sixteen bits. -/
  | word : Scalar
  deriving DecidableEq, Repr

/-- The width of memory that holds a scalar. -/
def Scalar.width : Scalar → Operand.Width
  | .byte => .byte
  | .word => .word

/-- The general registers that hold a scalar. -/
def Scalar.registers : Scalar → List String
  | .byte => Operand.byteRegisters
  | .word => Operand.wordRegisters

/-- The pointers in memory that are wider than a scalar. -/
inductive FarPointer where
  /-- A segment and an offset in it. -/
  | segmentOffset : FarPointer
  /-- The limit and base of a descriptor table. -/
  | tableDescriptor : FarPointer
  deriving DecidableEq, Repr

/-- The width of memory that holds a far pointer. -/
def FarPointer.width : FarPointer → Operand.Width
  | .segmentOffset => .dword
  | .tableDescriptor => .fword

/-- The reach of a branch. -/
inductive Branch where
  /-- A conditional jump or loop, which is always short. -/
  | conditional : Branch
  /-- A jump that is made short. -/
  | short : Branch
  /-- A jump or call within the segment. -/
  | near : Branch
  deriving DecidableEq, Repr

/-- The kinds of immediate operand. -/
inductive Immediate where
  /-- Eight bits with a sign. -/
  | signedByte : Immediate
  /-- Eight bits without a sign. -/
  | unsignedByte : Immediate
  /-- Sixteen bits. -/
  | word : Immediate
  deriving DecidableEq, Repr

/-- The value that is tried for a kind of immediate operand. -/
def Immediate.value : Immediate → String
  | .signedByte => "7fh"
  | .unsignedByte => "99h"
  | .word => "7fffh"

/-- What an operand slot of an instruction accepts. -/
inductive Template where
  /-- A token that selects an opcode of its own. -/
  | literal (token : String) : Template
  /-- A register or count that the opcode implies. -/
  | implicit (token : String) : Template
  /-- Any register of a class. -/
  | register (cls : RegisterClass) : Template
  /-- Memory that holds a scalar. -/
  | memory (scalar : Scalar) : Template
  /-- Memory that holds a far pointer. -/
  | farPointer (pointer : FarPointer) : Template
  /-- Memory or a general register. -/
  | registerOrMemory (scalar : Scalar) : Template
  /-- Memory at an offset that the accumulator moves encode. -/
  | offset (scalar : Scalar) : Template
  /-- Memory at a fixed address, for the coprocessor. -/
  | direct (width : Operand.Width) : Template
  /-- The target of a branch. -/
  | branch (reach : Branch) : Template
  /-- An immediate value. -/
  | immediate (kind : Immediate) : Template
  /-- A position of the coprocessor stack. -/
  | stack : Template
  deriving DecidableEq, Repr

namespace Template

/-- The label that every branch goes to. -/
def targetLabel : String := "_target"

/-- The operands that a template stands for, in their fixed order. -/
def operands : Template → List String
  | literal token => [token]
  | implicit token => [token]
  | register cls => cls.names
  | memory scalar => Operand.memory scalar.width
  | farPointer pointer => Operand.memory pointer.width
  | registerOrMemory scalar => Operand.memory scalar.width ++ scalar.registers
  | offset scalar => [Operand.atOffset scalar.width]
  | direct width => [Operand.atOffset width]
  | branch .conditional => [targetLabel]
  | branch .short => ["SHORT " ++ targetLabel]
  | branch .near => ["NEAR " ++ targetLabel]
  | immediate kind => [kind.value]
  | stack => Operand.stackPositions

/-- How many operands a template stands for. -/
def cardinality : Template → Nat
  | register cls => cls.names.length
  | memory _ => 120
  | farPointer _ => 120
  | registerOrMemory _ => 128
  | stack => 4
  | _ => 1

theorem length_operands (t : Template) : t.operands.length = t.cardinality := by
  match t with
  | literal _ | implicit _ | register _ | offset _ | direct _ | immediate _ | stack => rfl
  | branch .conditional | branch .short | branch .near => rfl
  | memory scalar => exact Operand.length_memory _
  | farPointer pointer => exact Operand.length_memory _
  | registerOrMemory scalar =>
    rw [operands, List.length_append, Operand.length_memory]
    cases scalar <;> rfl

/-- Whether the operands of a template are so many that they are split over several modules. -/
def isLarge : Template → Bool
  | memory _ | farPointer _ | registerOrMemory _ => true
  | _ => false

/-! ### The manual's shorthand -/

/-- The shorthand of a template. -/
def shorthand : Template → String
  | literal token => token
  | implicit token => token
  | register .byte => "r8"
  | register .word => "r16"
  | register .segmentTarget => "Sreg"
  | register .segmentSource => "SregCS"
  | memory .byte => "m8"
  | memory .word => "m16"
  | farPointer .segmentOffset => "m16:16"
  | farPointer .tableDescriptor => "m16:32"
  | registerOrMemory .byte => "r/m8"
  | registerOrMemory .word => "r/m16"
  | offset .byte => "moffs8"
  | offset .word => "moffs16"
  | direct .byte => "byte"
  | direct .word => "word"
  | direct .dword => "dword"
  | direct .fword => "fword"
  | direct .qword => "qword"
  | direct .tbyte => "tbyte"
  | branch .conditional => "rel8"
  | branch .short => "short"
  | branch .near => "rel16"
  | immediate .signedByte => "imm8"
  | immediate .unsignedByte => "imm8u"
  | immediate .word => "imm16"
  | stack => "stack"

/-- The templates that can be written in shorthand. -/
def written : List Template :=
  [implicit "AL", implicit "AX", implicit "CL", implicit "DX", implicit "ST", implicit "1",
    literal "3", register .byte, register .word, register .segmentTarget,
    register .segmentSource, memory .byte, memory .word, farPointer .segmentOffset,
    farPointer .tableDescriptor, registerOrMemory .byte, registerOrMemory .word, offset .byte,
    offset .word, direct .byte, direct .word, direct .dword, direct .fword, direct .qword,
    direct .tbyte, branch .conditional, branch .short, branch .near, immediate .signedByte,
    immediate .unsignedByte, immediate .word, stack]

/-- The template with a shorthand. -/
def ofShorthand? (s : String) : Option Template := written.find? fun t => t.shorthand == s

theorem ofShorthand?_eq_some {s : String} {t : Template} (h : ofShorthand? s = some t) :
    t ∈ written ∧ t.shorthand = s :=
  ⟨List.mem_of_find?_eq_some h, by simpa using List.find?_some h⟩

/-- A template that can be written is found by its shorthand. -/
theorem ofShorthand?_shorthand {t : Template} (h : t ∈ written) :
    ofShorthand? t.shorthand = some t := by
  revert t
  decide

end Template

end AsmPair
