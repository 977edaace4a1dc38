/-!
# Memory operands

Memory is reached through eight bases, each without displacement, with one of eight bits or with
one of sixteen, and each with any of the segment overrides or none.  The base `BP` without
displacement has no encoding of its own: its place is taken by a bare address.

## Main definitions

* `Width` — the width of the memory that an operand names.
* `bases`, `overrides` — the parts of an address.
* `memory` — the memory operands of a width, 120 of them.
* `atOffset` — the memory operand at a fixed address.
-/

namespace AsmPair.Operand

/-- The width of the memory that an operand names. -/
inductive Width where
  /-- Eight bits. -/
  | byte : Width
  /-- Sixteen bits. -/
  | word : Width
  /-- Thirty-two bits. -/
  | dword : Width
  /-- Forty-eight bits. -/
  | fword : Width
  /-- Sixty-four bits. -/
  | qword : Width
  /-- Eighty bits. -/
  | tbyte : Width
  deriving DecidableEq, Repr

/-- The size keyword of a width. -/
def Width.keyword : Width → String
  | .byte => "BYTE"
  | .word => "WORD"
  | .dword => "DWORD"
  | .fword => "FWORD"
  | .qword => "QWORD"
  | .tbyte => "TBYTE"

/-- The segment overrides, the first of which is none. -/
def overrides : List String := ["", "CS:", "DS:", "ES:", "SS:"]

/-- The address bases, in the order in which the encoding numbers them. -/
def bases : List String := ["BX+SI", "BX+DI", "BP+SI", "BP+DI", "SI", "DI", "BP", "BX"]

/-- What is written for a base without displacement. -/
def undisplaced (base : String) : String := if base = "BP" then "1234h" else base

/-- The addresses without override: each base without displacement, then each with one of eight
bits, then each with one of sixteen. -/
def addresses : List String :=
  bases.map undisplaced ++ bases.map (· ++ "+7fh") ++ bases.map (· ++ "+7fffh")

/-- A memory operand of a width. -/
def bracketed (width : Width) (address : String) : String :=
  "[" ++ width.keyword ++ " " ++ address ++ "]"

/-- The memory operands of a width: all addresses for one override after the other. -/
def memory (width : Width) : List String :=
  overrides.flatMap fun o => addresses.map fun a => bracketed width (o ++ a)

/-- The memory operand at a fixed offset. -/
def atOffset (width : Width) : String := bracketed width "90a0h"

@[simp] theorem length_memory (width : Width) : (memory width).length = 120 := by
  cases width <;> rfl

end AsmPair.Operand
