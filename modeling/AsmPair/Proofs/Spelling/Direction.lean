import AsmPair.Proofs.Spelling.Confusion
import Mathlib.Algebra.Order.BigOperators.Group.List
import Mathlib.Algebra.Order.Ring.Nat

/-!
# The direction of the standard rules

A spelling rule leads from what is typed to what a disassembler writes, and not back.  There are two
exceptions, pairs of lines that the standard rules turn into each other: the operands of a `test` or
`xchg` the other way round, and an `fcom`, `fcomp` or `fxch` with its `st(1)` written or left out.
All else is a matter of the table.  Two rules do not undo each other if their mnemonics or operand
counts do not fit together, or if neither makes up for what the other does to the length of the
operands.

## Main definitions

* `Respelling.back` — the scope of the lines that a respelling bridges, the decoded one first.
* `extent`, `Respelling.growth?` — how long operands are, and how a respelling changes that.
* `Respelling.isNotUndoneBy` — the decidable check that a respelling does not undo another.

## Main results

* `not_bridges_of_isNotUndoneBy` — the check is sound.
* `isNotUndoneBy_standardRules` — the standard rules pass it, with the two exceptions.
* `bridged_both_ways_iff` — the lines that the standard rules turn into each other.
-/

namespace AsmPair

/-! ### Bridged lines, the decoded one first -/

namespace Mnemonics

/-- The condition on two mnemonics in the other order. -/
def flip : Mnemonics → Mnemonics
  | among pairs => among (pairs.map Prod.swap)
  | kept start => kept start

theorem holds_flip {s : Mnemonics} {m n : String} (h : s.Holds m n) : s.flip.Holds n m := by
  cases s with
  | among pairs => exact List.mem_map.mpr ⟨(m, n), h, rfl⟩
  | kept start =>
    obtain ⟨rfl, hstart⟩ := h
    exact ⟨rfl, hstart⟩

end Mnemonics

namespace Respelling

variable {source decoded : Line}

/-- The mnemonics and operand counts of the lines that a respelling can bridge, with the decoded
line taken as the first of the two. -/
def back : Respelling → Scope
  | elideSize => { mnemonics := .kept [], least := 1, balanced? := some true }
  | dropDuplicate mnemonic =>
    { mnemonics := .among [(mnemonic, mnemonic)]
      least := 2, most? := some 2, balanced? := some false }
  | explicitOperands mnemonics suffix operands =>
    { mnemonics := (explicitOperands mnemonics suffix operands).scope.mnemonics.flip
      least := if operands.isEmpty then 0 else 1 }
  | implicitDestination =>
    { mnemonics := .kept ['f'], least := 1, most? := some 1, balanced? := some false }
  | dropDefault mnemonics operand =>
    { mnemonics := (dropDefault mnemonics operand).scope.mnemonics.flip
      most? := some 0, balanced? := some false }
  | numberedTop => { mnemonics := .kept [], least := 1, balanced? := some true }
  | t => { mnemonics := t.scope.mnemonics.flip }

/-- Lines that a respelling bridges are in its scope, seen from the decoded line. -/
theorem back_holds_of_bridges {t : Respelling} (h : t.Bridges source decoded) :
    t.back.Holds decoded source := by
  have hscope := scope_holds_of_respell? h
  have hm := Mnemonics.holds_flip hscope.mnemonics
  cases t with
  | elideSize =>
    obtain ⟨-, -, k, -, hd⟩ := elideSize_bridges_iff.mp h
    have hleast : 1 ≤ source.operands.length := hscope.least
    exact ⟨hm, by simpa [back, hd] using hleast, by simp [back], by simp [back, hd]⟩
  | dropDuplicate mnemonic =>
    obtain ⟨-, -, x, z, ho, hd⟩ := dropDuplicate_bridges_iff.mp h
    exact ⟨hm, by simp [back, hd], by simp [back, hd], by simp [back, ho, hd]⟩
  | explicitOperands mnemonics suffix operands =>
    obtain ⟨-, -, -, hd⟩ := explicitOperands_eq_some_iff.mp h
    refine ⟨hm, ?_, by simp [back], by simp [back]⟩
    by_cases hempty : operands = []
    · simp [back, hempty]
    · have hne : decoded.operands ≠ [] := by
        rw [hd]
        exact Line.reread_ne_nil hempty
      have hleast : 1 ≤ decoded.operands.length := List.length_pos_iff.mpr hne
      simpa [back, hempty] using hleast
  | implicitDestination =>
    obtain ⟨-, -, x, ho, hd⟩ := implicitDestination_bridges_iff.mp h
    exact ⟨hm, by simp [back, hd], by simp [back, hd], by simp [back, ho, hd]⟩
  | dropDefault mnemonics operand =>
    obtain ⟨-, -, ho, hd, -⟩ := dropDefault_eq_some_iff.mp h
    exact ⟨hm, by simp [back], by simp [back, hd], by simp [back, ho, hd]⟩
  | numberedTop =>
    obtain ⟨-, hlen, -, -⟩ := numberedTop_bridges_iff.mp h
    have hleast : 1 ≤ source.operands.length := hscope.least
    exact ⟨hm, by simpa [back, hlen] using hleast, by simp [back], by simp [back, hlen]⟩
  | rename | addSuffix | exchange | leaAsMov | swapOperands | dropSuffix =>
    exact ⟨hm, Nat.zero_le _, by simp [back], by simp [back]⟩

end Respelling

/-! ### The length of operands -/

/-- How many characters a list of operands has. -/
def extent (ops : List String) : Nat := (ops.map String.length).sum

theorem length_withoutSize_le (k op : String) : (withoutSize k op).length ≤ op.length := by
  rw [← String.length_toList, ← String.length_toList, withoutSize, String.toList_ofList]
  exact Text.length_substFirst_le (by simp [sizeMarker]) op.toList

theorem length_withoutSize_lt {k op : String} (h : sizeMarker k <+: op.toList) :
    (withoutSize k op).length < op.length := by
  obtain ⟨rest, hrest⟩ := h
  rw [← String.length_toList, ← String.length_toList, toList_withoutSize hrest.symm, ← hrest,
    sizeMarker]
  simp only [List.length_cons, List.length_append]
  omega

namespace Line.TopNumbered

variable {source decoded : Line}

/-- Numbered stack tops are longer. -/
theorem extent_lt (h : source.TopNumbered decoded) :
    extent source.operands < extent decoded.operands := by
  obtain ⟨-, hops, hne⟩ := h
  generalize source.operands = ops at hops hne ⊢
  generalize decoded.operands = ops' at hops hne ⊢
  induction hops with
  | nil => exact absurd rfl hne
  | @cons op op' ops ops' hop hops ih =>
    rw [extent, extent, List.map_cons, List.map_cons, List.sum_cons, List.sum_cons]
    have hle : op.length ≤ op'.length := by
      rcases hop with rfl | ⟨rfl, rfl⟩
      · exact Nat.le_refl _
      · decide
    by_cases heq : ops' = ops
    · -- then it is the first operand that is numbered
      subst heq
      rcases hop with rfl | ⟨rfl, rfl⟩
      · exact absurd rfl hne
      · exact Nat.add_lt_add_right (by decide) _
    · exact Nat.add_lt_add_of_le_of_lt hle (ih heq)

/-- A memory operand is no stack top, so it was there before. -/
theorem mem_of_isBracketed (h : source.TopNumbered decoded) {op : String}
    (hop : op ∈ decoded.operands) (hb : isBracketed op = true) : op ∈ source.operands := by
  obtain ⟨i, hi, rfl⟩ := List.mem_iff_getElem.mp hop
  have hi' : i < source.operands.length := h.operands.length_eq ▸ hi
  have hpair := h.operands.get hi' hi
  rw [List.get_eq_getElem, List.get_eq_getElem] at hpair
  rcases hpair with heq | ⟨-, htop⟩
  · rw [heq]
    exact List.getElem_mem hi'
  · change decoded.operands[i] = "st(0)" at htop
    rw [htop] at hb
    exact absurd hb (by decide)

end Line.TopNumbered

namespace Respelling

variable {source decoded : Line}

/-- How the source operands compare with the decoded ones in length, where that is known. -/
def growth? : Respelling → Option Ordering
  | elideSize => some .gt
  | swapOperands _ => some .eq
  | numberedTop => some .lt
  | _ => none

theorem compare_extent_of_bridges {t : Respelling} {o : Ordering} (ht : t.growth? = some o)
    (h : t.Bridges source decoded) :
    compare (extent source.operands) (extent decoded.operands) = o := by
  cases t with
  | elideSize =>
    cases ht
    obtain ⟨-, -, k, hk, hd⟩ := elideSize_bridges_iff.mp h
    obtain ⟨-, ⟨op, hop, hstart⟩, -⟩ := of_elidedKeyword?_eq_some hk
    rw [Nat.compare_eq_gt, extent, extent, hd, List.map_map]
    exact List.sum_lt_sum _ _ (fun op _ => length_withoutSize_le k op)
      ⟨op, hop, length_withoutSize_lt hstart⟩
  | swapOperands mnemonics =>
    cases ht
    obtain ⟨-, -, x, y, ho, hd⟩ := swapOperands_bridges_iff.mp h
    rw [Nat.compare_eq_eq, extent, extent, ho, hd]
    simp [Nat.add_comm]
  | numberedTop =>
    cases ht
    rw [Nat.compare_eq_lt]
    exact (numberedTop_bridges_iff_topNumbered.mp h).extent_lt
  | rename | addSuffix | exchange | leaAsMov | dropDuplicate | dropSuffix | explicitOperands
  | implicitDestination | dropDefault => cases ht

/-! ### Respellings that undo each other -/

/-- A size that was left out does not come back with the number of a stack top. -/
theorem not_elideSize_and_numberedTop (h : elideSize.Bridges source decoded)
    (h' : numberedTop.Bridges decoded source) : False := by
  have htop := numberedTop_bridges_iff_topNumbered.mp h'
  have hnone : elideSize.respell? source decoded = none :=
    elideSize_eq_none_of_mem fun _ hop hb => htop.mem_of_isBracketed hop hb
  rw [Bridges, hnone] at h
  cases h

/-- Whether it is known at sight that `t'` does not lead back where `t` has led. -/
def isNotUndoneBy (t t' : Respelling) : Bool :=
  t.scope.apart t'.back || t'.scope.apart t.back ||
    (t.growth?.any fun o => t'.growth?.any fun o' => o' != o.swap) ||
    (t == elideSize && t' == numberedTop) || (t == numberedTop && t' == elideSize)

theorem not_bridges_of_isNotUndoneBy {t t' : Respelling} (h : t.isNotUndoneBy t' = true)
    (hb : t.Bridges source decoded) : ¬ t'.Bridges decoded source := by
  intro hb'
  simp only [isNotUndoneBy, Bool.or_eq_true, Bool.and_eq_true, beq_iff_eq] at h
  rcases h with (((hap | hap) | hgrowth) | ⟨rfl, rfl⟩) | ⟨rfl, rfl⟩
  · exact Scope.not_both_hold_of_apart hap (scope_holds_of_respell? hb)
      (back_holds_of_bridges hb')
  · exact Scope.not_both_hold_of_apart hap (scope_holds_of_respell? hb')
      (back_holds_of_bridges hb)
  · rw [Option.any_eq_true] at hgrowth
    obtain ⟨o, ho, hgrowth⟩ := hgrowth
    rw [Option.any_eq_true] at hgrowth
    obtain ⟨o', ho', hne⟩ := hgrowth
    rw [← compare_extent_of_bridges ho hb, ← compare_extent_of_bridges ho' hb', Nat.compare_swap,
      bne_self_eq_false] at hne
    cases hne
  · exact not_elideSize_and_numberedTop hb hb'
  · exact not_elideSize_and_numberedTop hb' hb

end Respelling

/-! ### The table -/

/-- The standard respelling that writes out an `st(1)`. -/
def writtenPosition : Respelling :=
  .explicitOperands ["fcom", "fcomp", "ffree", "fld", "fst", "fstp", "fxch"] "" ["st(1)"]

/-- The standard respelling that leaves out an `st(1)`. -/
def elidedPosition : Respelling := .dropDefault ["fcom", "fcomp", "fxch"] "st(1)"

/-- No standard rule undoes another, except for exchanges of operands and for the `st(1)` that one
rule writes out and the other leaves out. -/
theorem isNotUndoneBy_standardRules : ∀ r ∈ standardRules, ∀ r' ∈ standardRules,
    r.respelling.isNotUndoneBy r'.respelling = true ∨ (r.respelling, r'.respelling) ∈
      [(.swapOperands ["test", "xchg"], .swapOperands ["test", "xchg"]),
        (writtenPosition, elidedPosition), (elidedPosition, writtenPosition)] := by
  decide

variable {source decoded : Line}

/-- The decoded line has an `st(1)` that the source line leaves out. -/
theorem elidedPosition_bridges_iff : elidedPosition.Bridges decoded source ↔
    source.mnemonic = decoded.mnemonic ∧ source.mnemonic ∈ ["fcom", "fcomp", "fxch"] ∧
      source.operands = [] ∧ decoded.operands = ["st(1)"] := by
  rw [Respelling.Bridges, elidedPosition, Respelling.dropDefault_eq_some_iff]
  constructor
  · rintro ⟨hm, hmem, hd, ho, -⟩
    exact ⟨hm.symm, hm ▸ hmem, ho, hd⟩
  · rintro ⟨hm, hmem, ho, hd⟩
    refine ⟨hm.symm, hm ▸ hmem, hd, ho, ?_⟩
    rw [← hm, ← ho, Line.ofParts_eta]

/-- An `st(1)` that is left out in one direction is written in the other. -/
theorem writtenPosition_bridges_of_elidedPosition (h : elidedPosition.Bridges decoded source) :
    writtenPosition.Bridges source decoded := by
  obtain ⟨hm, hmem, ho, hd⟩ := elidedPosition_bridges_iff.mp h
  have hsub : ["fcom", "fcomp", "fxch"] ⊆
      ["fcom", "fcomp", "ffree", "fld", "fst", "fstp", "fxch"] := by
    decide
  refine Respelling.explicitOperands_eq_some_iff.mpr ⟨hsub hmem, ho, ?_, ?_⟩
  · rw [String.append_empty, hm]
  · rw [← hd, Line.ofParts_eta]

/-- The standard rules write and leave out the `st(1)` of an `fcom`, `fcomp` or `fxch`. -/
theorem firstApplicable?_of_position (h : elidedPosition.Bridges decoded source) :
    (∃ r, firstApplicable? standardRules source decoded = some (r, decoded)) ∧
      ∃ r, firstApplicable? standardRules decoded source = some (r, source) := by
  have hwritten : (Rule.mk "implicit st(1)" writtenPosition).Bridges source decoded :=
    writtenPosition_bridges_of_elidedPosition h
  have helided : (Rule.mk "default stack position elided" elidedPosition).Bridges decoded source :=
    h
  exact ⟨⟨_, firstApplicable?_of_bridges_of_swap (by decide) hwritten (by rintro ⟨⟩)⟩,
    ⟨_, firstApplicable?_of_bridges_of_swap (by decide) helided (by rintro ⟨⟩)⟩⟩

theorem Line.Exchanged.symm (h : source.Exchanged decoded) : decoded.Exchanged source := by
  obtain ⟨hm, x, y, ho, hd⟩ := h
  exact ⟨hm.symm, y, x, hd, ho⟩

/-- **The lines that the standard rules turn into each other.**  Of two lines, some rule is the
first to apply and makes the first line into the second, and also the other way round, exactly if
they are a `test` or `xchg` with the two operands exchanged, or an `fcom`, `fcomp` or `fxch`,
without operands on one side and with the sole operand `st(1)` on the other. -/
theorem bridged_both_ways_iff (a d : Line) :
    (∃ r, firstApplicable? standardRules a d = some (r, d)) ∧
        (∃ r, firstApplicable? standardRules d a = some (r, a)) ↔
      a.mnemonic ∈ ["test", "xchg"] ∧ a.Exchanged d ∨
        a.mnemonic = d.mnemonic ∧ a.mnemonic ∈ ["fcom", "fcomp", "fxch"] ∧
          (a.operands = [] ∧ d.operands = ["st(1)"] ∨
            a.operands = ["st(1)"] ∧ d.operands = []) := by
  constructor
  · rintro ⟨⟨r, h⟩, ⟨r', h'⟩⟩
    obtain ⟨hr, hb⟩ := mem_of_firstApplicable? h
    obtain ⟨hr', hb'⟩ := mem_of_firstApplicable? h'
    change r.respelling.Bridges a d at hb
    change r'.respelling.Bridges d a at hb'
    rcases isNotUndoneBy_standardRules r hr r' hr' with hone | hpair
    · exact absurd hb' (Respelling.not_bridges_of_isNotUndoneBy hone hb)
    · simp only [List.mem_cons, Prod.mk.injEq, List.not_mem_nil, or_false] at hpair
      rcases hpair with ⟨hswap, -⟩ | ⟨-, helided⟩ | ⟨helided, -⟩
      · rw [hswap] at hb
        obtain ⟨hm, hmem, hops⟩ := Respelling.swapOperands_bridges_iff.mp hb
        exact .inl ⟨hmem, hm, hops⟩
      · rw [helided] at hb'
        obtain ⟨hm, hmem, ha, hd⟩ := elidedPosition_bridges_iff.mp hb'
        exact .inr ⟨hm, hmem, .inl ⟨ha, hd⟩⟩
      · rw [helided] at hb
        obtain ⟨hm, hmem, hd, ha⟩ := elidedPosition_bridges_iff.mp hb
        exact .inr ⟨hm.symm, hm ▸ hmem, .inr ⟨ha, hd⟩⟩
  · rintro (⟨hmem, hops⟩ | ⟨hm, hmem, ⟨ha, hd⟩ | ⟨ha, hd⟩⟩)
    · exact ⟨⟨_, firstApplicable?_of_exchanged hmem hops⟩,
        ⟨_, firstApplicable?_of_exchanged (hops.1 ▸ hmem) hops.symm⟩⟩
    · exact firstApplicable?_of_position (elidedPosition_bridges_iff.mpr ⟨hm, hmem, ha, hd⟩)
    · have hback := elidedPosition_bridges_iff.mpr ⟨hm.symm, hm ▸ hmem, hd, ha⟩
      exact (firstApplicable?_of_position hback).symm

/-- A jump has no way back, and an `fxch` has. -/
example :
    firstApplicable? standardRules (.parse "jb _target") (.parse "jc _target") = none ∧
      (firstApplicable? standardRules (.parse "fxch st(1)") (.parse "fxch")).map
        (fun q => (q.1.name, q.2.text)) = some ("default stack position elided", "fxch") := by
  decide

end AsmPair
