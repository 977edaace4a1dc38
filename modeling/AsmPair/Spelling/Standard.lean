import AsmPair.Spelling.Rule

/-!
# The standard spelling rules

The spellings that a disassembler for the 8086, the 80286 and their coprocessors may use, in the
order in which they are tried.

## Main definitions

* `conditionalJumps` — the conditional jumps that have two names.
* `standardRules` — the rules.
-/

namespace AsmPair

/-- The conditional jumps that have two names, with the name a disassembler prefers. -/
def conditionalJumps : List (String × String) :=
  [("jc", "jb"), ("jz", "je"), ("jna", "jbe"), ("jnae", "jb"), ("jnb", "jae"), ("jnbe", "ja"),
    ("jnc", "jae"), ("jng", "jle"), ("jnge", "jl"), ("jnl", "jge"), ("jnle", "jg"),
    ("jnp", "jpo"), ("jnz", "jne"), ("jp", "jpe")]

/-- The standard spelling rules, in the order in which they are tried. -/
def standardRules : List Rule := [
  ⟨"conditional jump synonym", .rename conditionalJumps⟩,
  ⟨"loop synonym", .rename [("loopz", "loope"), ("loopnz", "loopne")]⟩,
  ⟨"shift synonym", .rename [("sal", "shl")]⟩,
  ⟨"exchange as no-op", .exchange "xchg ax, ax" "nop"⟩,
  ⟨"width-suffixed push/pop", .addSuffix ["iret", "popf", "pushf", "popa", "pusha"] "w" false⟩,
  ⟨"near return", .addSuffix ["ret"] "n" false⟩,
  ⟨"near return with pop count", .addSuffix ["ret"] "n" true⟩,
  ⟨"breakpoint", .exchange "int 3" "int3"⟩,
  ⟨"operand size elided", .elideSize⟩,
  ⟨"lea as mov", .leaAsMov⟩,
  ⟨"commutative operands", .swapOperands ["test", "xchg"]⟩,
  ⟨"duplicate multiply source", .dropDuplicate "imul"⟩,
  ⟨"wait as fwait", .exchange "wait" "fwait"⟩,
  ⟨"no-wait control",
    .rename [("fnclex", "fclex"), ("fndisi", "fdisi"), ("fneni", "feni"), ("fninit", "finit")]⟩,
  ⟨"pop arithmetic without suffix", .dropSuffix ["faddp", "fsubp", "fsubrp"] "p"⟩,
  ⟨"implicit st(1)",
    .explicitOperands ["fcom", "fcomp", "ffree", "fld", "fst", "fstp", "fxch"] "" ["st(1)"]⟩,
  ⟨"pop with explicit pair",
    .explicitOperands ["fdivp", "fdivrp", "fmulp"] "" ["st(1)", "st"]⟩,
  ⟨"non-pop as pop pair",
    .explicitOperands ["fdiv", "fdivr", "fmul"] "p" ["st(1)", "st"]⟩,
  ⟨"implicit st destination", .implicitDestination⟩,
  ⟨"default stack position elided", .dropDefault ["fcom", "fcomp", "fxch"] "st(1)"⟩,
  ⟨"stack top spelling", .numberedTop⟩]

theorem nodup_names_standardRules : (standardRules.map Rule.name).Nodup := by decide

end AsmPair
