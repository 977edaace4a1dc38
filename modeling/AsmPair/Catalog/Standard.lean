import AsmPair.Catalog.Basic

/-!
# The standard catalog

Every instruction of the 8086 and the 80286 and of their coprocessors, in the notation of the
processor reference manual.  A mnemonic that is listed several times has several encodings.

## Main definitions

* `standardTables` — the tables of the five features.
* `Catalog.standard` — the catalog they make.
-/

namespace AsmPair

/-! ### Instructions without operands -/

/-- The operand-less instructions of the 8086. -/
def bare8086 : List String := [
  "AAA", "AAD", "AAM", "AAS", "CBW", "CLC", "CLD", "CLI", "CMC", "CMPSB", "CMPSW", "CWD", "DAA",
  "DAS", "HLT", "INTO", "IRET", "IRETW", "LAHF", "LODSB", "LODSW", "MOVSB", "MOVSW", "NOP",
  "POPF", "POPFW", "PUSHF", "PUSHFW", "REP   MOVSB", "REP   MOVSW", "REP   STOSB", "REP   STOSW",
  "REPE  CMPSB", "REPE  CMPSW", "REPE  SCASB", "REPE  SCASW", "REPNE CMPSB", "REPNE CMPSW",
  "REPNE SCASB", "REPNE SCASW", "RET", "RETF", "RETN", "SAHF", "SCASB", "SCASW", "STC", "STD",
  "STI", "STOSB", "STOSW", "WAIT", "XLATB"]

/-- The operand-less instructions of the 8087. -/
def bare8087 : List String := [
  "F2XM1", "FABS", "FADD", "FADDP", "FCHS", "FCLEX", "FNCLEX", "FCOM", "FCOMP", "FCOMPP",
  "FDECSTP", "FDISI", "FNDISI", "FDIV", "FDIVP", "FDIVR", "FDIVRP", "FENI", "FNENI", "FFREE",
  "FINCSTP", "FINIT", "FNINIT", "FLD", "FLDLG2", "FLDLN2", "FLDL2E", "FLDL2T", "FLDPI", "FLDZ",
  "FLD1", "FMUL", "FMULP", "FNOP", "FPATAN", "FPREM", "FPTAN", "FRNDINT", "FSCALE", "FSQRT",
  "FST", "FSTP", "FSUB", "FSUBP", "FSUBR", "FSUBRP", "FTST", "FXAM", "FXCH", "FXTRACT", "FYL2X",
  "FYL2XP1", "FWAIT"]

/-- The operand-less instructions that the 80286 adds. -/
def bare286 : List String := [
  "INSB", "INSW", "LEAVE", "OUTSB", "OUTSW", "PUSHA", "REP INSB", "REP INSW", "REP OUTSB",
  "REP OUTSW"]

/-- The operand-less protected-mode instructions of the 80286. -/
def bare286Protected : List String := [
  "CLTS"]

/-- The operand-less instructions that the 80287 adds. -/
def bare287 : List String := [
  "FSETPM"]

/-! ### Instructions with operands -/

/-- The instructions of the 8086 with operands. -/
def forms8086 : List (String × List String) := [
  ("ADC", ["r/m8", "r8"]), ("ADC", ["r/m16", "r16"]), ("ADC", ["r8", "r/m8"]),
  ("ADC", ["r16", "r/m16"]), ("ADC", ["AL", "imm8"]), ("ADC", ["AX", "imm16"]),
  ("ADC", ["r/m8", "imm8"]), ("ADC", ["r/m16", "imm16"]), ("ADC", ["r/m16", "imm8"]),
  ("ADD", ["AL", "imm8"]), ("ADD", ["AX", "imm16"]), ("ADD", ["r/m8", "imm8"]),
  ("ADD", ["r/m16", "imm16"]), ("ADD", ["r/m16", "imm8"]), ("ADD", ["r/m8", "r8"]),
  ("ADD", ["r/m16", "r16"]), ("ADD", ["r8", "r/m8"]), ("ADD", ["r16", "r/m16"]),
  ("AND", ["r/m8", "r8"]), ("AND", ["r/m16", "r16"]), ("AND", ["r8", "r/m8"]),
  ("AND", ["r16", "r/m16"]), ("AND", ["AL", "imm8"]), ("AND", ["AX", "imm16"]),
  ("AND", ["r/m8", "imm8"]), ("AND", ["r/m16", "imm16"]), ("AND", ["r/m16", "imm8"]),
  ("CALL", ["rel16"]), ("CALL", ["r/m16"]), ("CMP", ["AL", "imm8"]), ("CMP", ["AX", "imm16"]),
  ("CMP", ["r/m8", "imm8"]), ("CMP", ["r/m16", "imm16"]), ("CMP", ["r/m16", "imm8"]),
  ("CMP", ["r/m8", "r8"]), ("CMP", ["r/m16", "r16"]), ("CMP", ["r8", "r/m8"]),
  ("CMP", ["r16", "r/m16"]), ("DEC", ["r/m8"]), ("DEC", ["r/m16"]), ("DEC", ["r16"]),
  ("DIV", ["r/m8"]), ("DIV", ["r/m16"]), ("IDIV", ["r/m8"]), ("IDIV", ["r/m16"]),
  ("IMUL", ["r/m8"]), ("IMUL", ["r/m16"]), ("IN", ["AL", "imm8"]), ("IN", ["AX", "imm8"]),
  ("IN", ["AL", "DX"]), ("IN", ["AX", "DX"]), ("INC", ["r/m8"]), ("INC", ["r/m16"]),
  ("INC", ["r16"]), ("INT", ["3"]), ("INT", ["imm8"]), ("JA", ["rel8"]), ("JAE", ["rel8"]),
  ("JB", ["rel8"]), ("JBE", ["rel8"]), ("JC", ["rel8"]), ("JCXZ", ["rel8"]), ("JE", ["rel8"]),
  ("JZ", ["rel8"]), ("JG", ["rel8"]), ("JGE", ["rel8"]), ("JL", ["rel8"]), ("JLE", ["rel8"]),
  ("JNA", ["rel8"]), ("JNAE", ["rel8"]), ("JNB", ["rel8"]), ("JNBE", ["rel8"]),
  ("JNC", ["rel8"]), ("JNE", ["rel8"]), ("JNG", ["rel8"]), ("JNGE", ["rel8"]), ("JNL", ["rel8"]),
  ("JNLE", ["rel8"]), ("JNO", ["rel8"]), ("JNP", ["rel8"]), ("JNS", ["rel8"]), ("JNZ", ["rel8"]),
  ("JO", ["rel8"]), ("JP", ["rel8"]), ("JPE", ["rel8"]), ("JPO", ["rel8"]), ("JS", ["rel8"]),
  ("JZ", ["rel8"]), ("JMP", ["short"]), ("JMP", ["rel16"]), ("JMP", ["r/m16"]),
  ("LEA", ["r16", "m16"]), ("LOOP", ["rel8"]), ("LOOPE", ["rel8"]), ("LOOPZ", ["rel8"]),
  ("LOOPNE", ["rel8"]), ("LOOPNZ", ["rel8"]), ("MOV", ["r/m8", "r8"]), ("MOV", ["r/m16", "r16"]),
  ("MOV", ["r8", "r/m8"]), ("MOV", ["r16", "r/m16"]), ("MOV", ["r/m16", "SregCS"]),
  ("MOV", ["Sreg", "r/m16"]), ("MOV", ["AL", "moffs8"]), ("MOV", ["AX", "moffs16"]),
  ("MOV", ["moffs8", "AL"]), ("MOV", ["moffs16", "AX"]), ("MOV", ["r8", "imm8"]),
  ("MOV", ["r16", "imm16"]), ("MOV", ["r/m8", "imm8"]), ("MOV", ["r/m16", "imm16"]),
  ("MUL", ["r/m8"]), ("MUL", ["r/m16"]), ("NEG", ["r/m8"]), ("NEG", ["r/m16"]),
  ("NOT", ["r/m8"]), ("NOT", ["r/m16"]), ("OR", ["AL", "imm8"]), ("OR", ["AX", "imm16"]),
  ("OR", ["r/m8", "imm8"]), ("OR", ["r/m16", "imm16"]), ("OR", ["r/m16", "imm8"]),
  ("OR", ["r/m8", "r8"]), ("OR", ["r/m16", "r16"]), ("OR", ["r8", "r/m8"]),
  ("OR", ["r16", "r/m16"]), ("OUT", ["imm8", "AL"]), ("OUT", ["imm8", "AX"]),
  ("OUT", ["DX", "AL"]), ("OUT", ["DX", "AX"]), ("POP", ["m16"]), ("POP", ["r16"]),
  ("PUSH", ["m16"]), ("PUSH", ["r16"]), ("RCL", ["r/m8", "1"]), ("RCL", ["r/m8", "CL"]),
  ("RCL", ["r/m16", "1"]), ("RCL", ["r/m16", "CL"]), ("RCR", ["r/m8", "1"]),
  ("RCR", ["r/m8", "CL"]), ("RCR", ["r/m16", "1"]), ("RCR", ["r/m16", "CL"]),
  ("ROL", ["r/m8", "1"]), ("ROL", ["r/m8", "CL"]), ("ROL", ["r/m16", "1"]),
  ("ROL", ["r/m16", "CL"]), ("ROR", ["r/m8", "1"]), ("ROR", ["r/m8", "CL"]),
  ("ROR", ["r/m16", "1"]), ("ROR", ["r/m16", "CL"]), ("SAL", ["r/m8", "1"]),
  ("SAL", ["r/m8", "CL"]), ("SAL", ["r/m16", "1"]), ("SAL", ["r/m16", "CL"]),
  ("SAR", ["r/m8", "1"]), ("SAR", ["r/m8", "CL"]), ("SAR", ["r/m16", "1"]),
  ("SAR", ["r/m16", "CL"]), ("SHL", ["r/m8", "1"]), ("SHL", ["r/m8", "CL"]),
  ("SHL", ["r/m16", "1"]), ("SHL", ["r/m16", "CL"]), ("SHR", ["r/m8", "1"]),
  ("SHR", ["r/m8", "CL"]), ("SHR", ["r/m16", "1"]), ("SHR", ["r/m16", "CL"]),
  ("SBB", ["AL", "imm8"]), ("SBB", ["AX", "imm16"]), ("SBB", ["r/m8", "imm8"]),
  ("SBB", ["r/m16", "imm16"]), ("SBB", ["r/m16", "imm8"]), ("SBB", ["r/m8", "r8"]),
  ("SBB", ["r/m16", "r16"]), ("SBB", ["r8", "r/m8"]), ("SBB", ["r16", "r/m16"]),
  ("SUB", ["AL", "imm8"]), ("SUB", ["AX", "imm16"]), ("SUB", ["r/m8", "imm8"]),
  ("SUB", ["r/m16", "imm16"]), ("SUB", ["r/m16", "imm8"]), ("SUB", ["r/m8", "r8"]),
  ("SUB", ["r/m16", "r16"]), ("SUB", ["r8", "r/m8"]), ("SUB", ["r16", "r/m16"]),
  ("TEST", ["AL", "imm8"]), ("TEST", ["AX", "imm16"]), ("TEST", ["r/m8", "imm8"]),
  ("TEST", ["r/m16", "imm16"]), ("TEST", ["r/m8", "r8"]), ("TEST", ["r/m16", "r16"]),
  ("TEST", ["r8", "r/m8"]), ("TEST", ["r16", "r/m16"]), ("XCHG", ["r/m8", "r8"]),
  ("XCHG", ["r8", "r/m8"]), ("XCHG", ["r/m16", "r16"]), ("XCHG", ["r16", "r/m16"]),
  ("XCHG", ["AX", "r16"]), ("XCHG", ["r16", "AX"]), ("XOR", ["AL", "imm8"]),
  ("XOR", ["AX", "imm16"]), ("XOR", ["r/m8", "imm8"]), ("XOR", ["r/m16", "imm16"]),
  ("XOR", ["r/m16", "imm8"]), ("XOR", ["r/m8", "r8"]), ("XOR", ["r/m16", "r16"]),
  ("XOR", ["r8", "r/m8"]), ("XOR", ["r16", "r/m16"])]

/-- The instructions of the 8087 with operands. -/
def forms8087 : List (String × List String) := [
  ("FADD", ["ST", "stack"]), ("FADD", ["stack", "ST"]), ("FADD", ["dword"]), ("FADD", ["qword"]),
  ("FADDP", ["stack", "ST"]), ("FBLD", ["tbyte"]), ("FBSTP", ["tbyte"]), ("FCOM", ["stack"]),
  ("FCOM", ["dword"]), ("FCOM", ["qword"]), ("FCOMP", ["stack"]), ("FCOMP", ["dword"]),
  ("FCOMP", ["qword"]), ("FDIV", ["ST", "stack"]), ("FDIV", ["stack", "ST"]),
  ("FDIV", ["dword"]), ("FDIV", ["qword"]), ("FDIVP", ["stack", "ST"]),
  ("FDIVR", ["ST", "stack"]), ("FDIVR", ["stack", "ST"]), ("FDIVR", ["dword"]),
  ("FDIVR", ["qword"]), ("FDIVRP", ["stack", "ST"]), ("FFREE", ["stack"]), ("FIADD", ["word"]),
  ("FIADD", ["dword"]), ("FICOM", ["word"]), ("FICOM", ["dword"]), ("FICOMP", ["word"]),
  ("FICOMP", ["dword"]), ("FIDIV", ["word"]), ("FIDIV", ["dword"]), ("FIDIVR", ["word"]),
  ("FIDIVR", ["dword"]), ("FILD", ["word"]), ("FILD", ["dword"]), ("FILD", ["qword"]),
  ("FIMUL", ["word"]), ("FIMUL", ["dword"]), ("FIST", ["word"]), ("FIST", ["dword"]),
  ("FISTP", ["word"]), ("FISTP", ["dword"]), ("FISTP", ["qword"]), ("FISUB", ["word"]),
  ("FISUB", ["dword"]), ("FISUBR", ["word"]), ("FISUBR", ["dword"]), ("FLD", ["dword"]),
  ("FLD", ["qword"]), ("FLD", ["tbyte"]), ("FLD", ["stack"]), ("FLDCW", ["word"]),
  ("FMUL", ["dword"]), ("FMUL", ["qword"]), ("FMUL", ["ST", "stack"]), ("FMUL", ["stack", "ST"]),
  ("FMULP", ["stack", "ST"]), ("FST", ["dword"]), ("FST", ["qword"]), ("FST", ["stack"]),
  ("FSTP", ["dword"]), ("FSTP", ["qword"]), ("FSTP", ["tbyte"]), ("FSTP", ["stack"]),
  ("FSTCW", ["word"]), ("FNSTCW", ["word"]), ("FSTSW", ["word"]), ("FNSTSW", ["word"]),
  ("FSUB", ["ST", "stack"]), ("FSUB", ["stack", "ST"]), ("FSUB", ["dword"]), ("FSUB", ["qword"]),
  ("FSUBP", ["stack", "ST"]), ("FSUBR", ["ST", "stack"]), ("FSUBR", ["stack", "ST"]),
  ("FSUBR", ["dword"]), ("FSUBR", ["qword"]), ("FSUBRP", ["stack", "ST"]), ("FXCH", ["stack"])]

/-- The instructions with operands that the 80286 adds. -/
def forms286 : List (String × List String) := [
  ("BOUND", ["r16", "m16"]), ("ENTER", ["imm16", "imm8u"]), ("IMUL", ["r16", "imm8"]),
  ("IMUL", ["r16", "r/m16", "imm8"]), ("IMUL", ["r16", "r/m16", "imm16"]), ("PUSH", ["imm16"]),
  ("PUSH", ["imm8"]), ("RCL", ["r/m8", "imm8"]), ("RCL", ["r/m16", "imm8"]),
  ("RCR", ["r/m8", "imm8"]), ("RCR", ["r/m16", "imm8"]), ("ROL", ["r/m8", "imm8"]),
  ("ROL", ["r/m16", "imm8"]), ("ROR", ["r/m8", "imm8"]), ("ROR", ["r/m16", "imm8"]),
  ("SAL", ["r/m8", "imm8"]), ("SAL", ["r/m16", "imm8"]), ("SAR", ["r/m8", "imm8"]),
  ("SAR", ["r/m16", "imm8"]), ("SHL", ["r/m8", "imm8"]), ("SHL", ["r/m16", "imm8"]),
  ("SHR", ["r/m8", "imm8"]), ("SHR", ["r/m16", "imm8"])]

/-- The protected-mode instructions of the 80286 with operands. -/
def forms286Protected : List (String × List String) := [
  ("ARPL", ["r/m16", "r16"]), ("LAR", ["r16", "r/m16"]), ("LGDT", ["m16:32"]),
  ("LIDT", ["m16:32"]), ("LLDT", ["r/m16"]), ("LMSW", ["r/m16"]), ("LSL", ["r16", "r/m16"]),
  ("LTR", ["r/m16"]), ("SGDT", ["m16:32"]), ("SIDT", ["m16:32"]), ("SLDT", ["r/m16"]),
  ("SMSW", ["r/m16"]), ("STR", ["r/m16"]), ("VERR", ["r/m16"]), ("VERW", ["r/m16"])]

/-! ### The catalog -/

/-- The tables of the five features. -/
def standardTables : List Table := [
  ⟨.cpu8086, bare8086, forms8086⟩,
  ⟨.fpu8087, bare8087, forms8087⟩,
  ⟨.cpu286, bare286, forms286⟩,
  ⟨.cpu286Protected, bare286Protected, forms286Protected⟩,
  ⟨.fpu287, bare287, []⟩]

/-- The catalog of the standard tables.  Their entries are all written in known shorthands, so
reading them gives no error. -/
def Catalog.standard : Catalog :=
  match Catalog.build standardTables with
  | .ok c => c
  | .error _ => ⟨[]⟩

theorem Catalog.build_standardTables :
    Catalog.build standardTables = .ok Catalog.standard := by
  have h : (Catalog.build standardTables).isOk = true := by decide +kernel
  unfold Catalog.standard
  cases hb : Catalog.build standardTables with
  | ok c => rfl
  | error e => rw [hb] at h; cases h

end AsmPair
