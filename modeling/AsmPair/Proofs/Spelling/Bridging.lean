import AsmPair.Proofs.Line.Text
import AsmPair.Proofs.Spelling.Scope

/-!
# Pairs of lines that a respelling bridges

A respelling that applies need not make the two lines equal.  Where it does, the decoded operands
are known from the source operands.  Most respellings that keep the mnemonic never touch a memory
operand: what is in brackets in the source line stands in the decoded line as well.

## Main results

* `elideSize_bridges_iff`, ..., `numberedTop_bridges_iff` — the pairs that are bridged.
* `mem_operands_of_keepsBracketed` — memory operands are kept.
-/

namespace AsmPair

/-! ### Operands with a part left out -/

section Substitution

variable {c : Char} {sub cs : List Char}

/-- A text still begins as it did where a part is exchanged for its first character. -/
theorem Text.head?_substFirst (c : Char) (sub cs : List Char) :
    (substFirst (c :: sub) [c] cs).head? = cs.head? := by
  cases cs with
  | nil => rfl
  | cons d cs =>
    rcases substFirst_cons_cases (c :: sub) [c] d cs with ⟨rest, hrest, heq⟩ | ⟨-, heq⟩
    · rw [heq, hrest]
      rfl
    · rw [heq]
      rfl

/-- No separator comes up where a part is exchanged for its first character. -/
theorem Text.not_hasSeparator_substFirst (hc : c ≠ ',') (h : hasSeparator cs = false) :
    hasSeparator (substFirst (c :: sub) [c] cs) = false := by
  rw [← Bool.not_eq_true, hasSeparator_iff] at h ⊢
  induction cs with
  | nil => exact h
  | cons d cs ih =>
    rcases substFirst_cons_cases (c :: sub) [c] d cs with ⟨rest, hrest, heq⟩ | ⟨-, heq⟩
    · rw [hrest] at h
      rw [heq, List.singleton_append, List.infix_cons_iff, List.cons_prefix_cons]
      rintro (⟨rfl, -⟩ | hlater)
      · exact hc rfl
      · exact h (hlater.trans (List.suffix_append _ _).isInfix)
    · rw [List.infix_cons_iff] at h
      rw [heq, List.infix_cons_iff]
      rintro (hfirst | hlater)
      · -- the separator would begin with `d`, and the character after `d` is still there
        rw [List.cons_prefix_cons] at hfirst
        obtain ⟨rfl, t, ht⟩ := hfirst
        have hhead := head?_substFirst c sub cs
        rw [← ht] at hhead
        obtain ⟨cs', rfl⟩ := List.head?_eq_some_iff.mp hhead.symm
        exact h (.inl ⟨cs', rfl⟩)
      · exact ih (fun hcs => h (.inr hcs)) hlater

/-- Leaving out a size brings no separator into an operand. -/
theorem separate_withoutSize {k op : String} (h : Text.hasSeparator op.toList = false) :
    Text.hasSeparator (withoutSize k op).toList = false := by
  rw [withoutSize, String.toList_ofList]
  exact Text.not_hasSeparator_substFirst (by decide) h

end Substitution

/-! ### Bridged lines -/

/-- The keyword that is left out stands in a source operand and not in the decoded line. -/
theorem of_elidedKeyword?_eq_some {source decoded : Line} {k : String}
    (h : elidedKeyword? source decoded = some k) :
    k ∈ sizeKeywords ∧ (∃ op ∈ source.operands, sizeMarker k <+: op.toList) ∧
      ¬ sizeMarker k <:+: decoded.text.toList := by
  have hfound := List.find?_some h
  simp only [Bool.and_eq_true, List.any_eq_true, Bool.not_eq_true', ← Bool.not_eq_true,
    Text.holds_iff, Text.startsWith_iff] at hfound
  exact ⟨List.mem_of_find?_eq_some h, hfound⟩

namespace Respelling

variable {source decoded : Line}

theorem elideSize_bridges_iff :
    elideSize.Bridges source decoded ↔
      source.mnemonic = decoded.mnemonic ∧
        sizeImplied source.mnemonic source.operands = true ∧
          ∃ k, elidedKeyword? source decoded = some k ∧
            decoded.operands = source.operands.map (withoutSize k) := by
  have hsep : ∀ k, ∀ op ∈ source.operands.map (withoutSize k),
      Text.hasSeparator op.toList = false := by
    intro k op hop
    obtain ⟨x, hx, rfl⟩ := List.mem_map.mp hop
    exact separate_withoutSize (source.separate x hx)
  rw [Bridges, elideSize_eq_some_iff]
  constructor
  · rintro ⟨k, hk, hm, hsize, hl⟩
    exact ⟨hm, hsize, k, hk, ((Line.ofParts_eq_iff (hsep k)).mp hl.symm).2.symm⟩
  · rintro ⟨hm, hsize, k, hk, hd⟩
    exact ⟨k, hk, hm, hsize, ((Line.ofParts_eq_iff (hsep k)).mpr ⟨hm, hd.symm⟩).symm⟩

/-- A line made of some operands of another line. -/
private theorem eq_ofParts_iff {m : String} {ops : List String}
    (h : ∀ op ∈ ops, op ∈ source.operands) :
    decoded = Line.ofParts m ops ↔ m = decoded.mnemonic ∧ ops = decoded.operands := by
  have hsep : ∀ op ∈ ops, Text.hasSeparator op.toList = false :=
    fun op hop => source.separate op (h op hop)
  rw [eq_comm, Line.ofParts_eq_iff hsep]

theorem swapOperands_bridges_iff {mnemonics : List String} :
    (swapOperands mnemonics).Bridges source decoded ↔
      source.mnemonic = decoded.mnemonic ∧ source.mnemonic ∈ mnemonics ∧
        ∃ x y, source.operands = [x, y] ∧ decoded.operands = [y, x] := by
  rw [Bridges, swapOperands_eq_some_iff]
  constructor
  · rintro ⟨hm, hmem, -, x, y, ho, hl⟩
    have hsub : ∀ op ∈ [y, x], op ∈ source.operands := by rw [ho]; simp
    exact ⟨hm, hmem, x, y, ho, ((eq_ofParts_iff hsub).mp hl).2.symm⟩
  · rintro ⟨hm, hmem, x, y, ho, hd⟩
    have hsub : ∀ op ∈ [y, x], op ∈ source.operands := by rw [ho]; simp
    exact ⟨hm, hmem, by rw [hd]; rfl, x, y, ho, (eq_ofParts_iff hsub).mpr ⟨hm, hd.symm⟩⟩

theorem dropDuplicate_bridges_iff {mnemonic : String} :
    (dropDuplicate mnemonic).Bridges source decoded ↔
      source.mnemonic = decoded.mnemonic ∧ source.mnemonic = mnemonic ∧
        ∃ x z, source.operands = [x, x, z] ∧ decoded.operands = [x, z] := by
  rw [Bridges, dropDuplicate_eq_some_iff]
  constructor
  · rintro ⟨hm, hs, -, x, z, ho, hl⟩
    have hsub : ∀ op ∈ [x, z], op ∈ source.operands := by rw [ho]; simp
    exact ⟨hm, hs, x, z, ho, ((eq_ofParts_iff hsub).mp hl).2.symm⟩
  · rintro ⟨hm, hs, x, z, ho, hd⟩
    have hsub : ∀ op ∈ [x, z], op ∈ source.operands := by rw [ho]; simp
    refine ⟨hm, hs, by rw [hd]; rfl, x, z, ho, ?_⟩
    exact (eq_ofParts_iff hsub).mpr ⟨hs.symm.trans hm, hd.symm⟩

theorem implicitDestination_bridges_iff :
    implicitDestination.Bridges source decoded ↔
      source.mnemonic = decoded.mnemonic ∧ Text.startsWith ['f'] source.mnemonic.toList = true ∧
        ∃ x, source.operands = ["st", x] ∧ decoded.operands = [x] := by
  rw [Bridges, implicitDestination_eq_some_iff]
  constructor
  · rintro ⟨hm, hf, -, x, ho, hl⟩
    have hsub : ∀ op ∈ [x], op ∈ source.operands := by rw [ho]; simp
    exact ⟨hm, hf, x, ho, ((eq_ofParts_iff hsub).mp hl).2.symm⟩
  · rintro ⟨hm, hf, x, ho, hd⟩
    have hsub : ∀ op ∈ [x], op ∈ source.operands := by rw [ho]; simp
    exact ⟨hm, hf, by rw [hd]; rfl, x, ho, (eq_ofParts_iff hsub).mpr ⟨hm, hd.symm⟩⟩

/-- Numbering stack tops brings no separator into an operand. -/
theorem separate_numberTop {op facing : String} (h : Text.hasSeparator op.toList = false) :
    Text.hasSeparator (numberTop op facing).toList = false := by
  rw [numberTop]
  split
  · rfl
  · exact h

theorem numberedTop_bridges_iff :
    numberedTop.Bridges source decoded ↔
      source.mnemonic = decoded.mnemonic ∧
        decoded.operands.length = source.operands.length ∧
          decoded.operands ≠ source.operands ∧
            List.zipWith numberTop source.operands decoded.operands = decoded.operands := by
  have hsep : ∀ op ∈ List.zipWith numberTop source.operands decoded.operands,
      Text.hasSeparator op.toList = false := by
    intro op hop
    obtain ⟨i, hi⟩ := List.mem_iff_getElem?.mp hop
    obtain ⟨x, y, hx, -, rfl⟩ := List.getElem?_zipWith_eq_some.mp hi
    exact separate_numberTop (source.separate x (List.mem_of_getElem? hx))
  rw [Bridges, numberedTop_eq_some_iff, eq_comm (a := decoded), Line.ofParts_eq_iff hsep]
  constructor
  · rintro ⟨hm, hlen, hne, -, hd⟩
    exact ⟨hm, hlen, by rwa [hd] at hne, hd⟩
  · rintro ⟨hm, hlen, hne, hd⟩
    exact ⟨hm, hlen, by rwa [hd], hm, hd⟩

end Respelling

/-! ### Memory operands -/

/-- Whether an operand starts with a bracket, as memory operands do. -/
def isBracketed (op : String) : Bool := Text.startsWith ['['] op.toList

theorem isBracketed_of_sizeMarker {k op : String} (h : sizeMarker k <+: op.toList) :
    isBracketed op = true := by
  rw [isBracketed, Text.startsWith_iff]
  exact List.IsPrefix.trans (List.prefix_append ['['] _) h

namespace Respelling

variable {source decoded : Line}

/-- Whether it is known at sight that memory operands are kept wherever lines are bridged. -/
def keepsBracketed : Respelling → Bool
  | swapOperands _ => true
  | dropDuplicate _ => true
  | implicitDestination => true
  | dropDefault _ operand => !isBracketed operand
  | numberedTop => true
  | _ => false

theorem mem_operands_of_keepsBracketed {t : Respelling} (ht : t.keepsBracketed = true)
    (h : t.Bridges source decoded) {op : String} (hop : op ∈ source.operands)
    (hb : isBracketed op = true) : op ∈ decoded.operands := by
  cases t with
  | swapOperands mnemonics =>
    obtain ⟨-, -, x, y, ho, hd⟩ := swapOperands_bridges_iff.mp h
    rw [ho] at hop
    rw [hd]
    simp only [List.mem_cons, List.not_mem_nil, or_false] at hop ⊢
    exact hop.symm
  | dropDuplicate mnemonic =>
    obtain ⟨-, -, x, z, ho, hd⟩ := dropDuplicate_bridges_iff.mp h
    rw [ho] at hop
    rw [hd]
    simpa using hop
  | implicitDestination =>
    obtain ⟨-, -, x, ho, hd⟩ := implicitDestination_bridges_iff.mp h
    rw [ho] at hop
    rw [hd]
    -- the stack top, which is left out, is not in brackets
    rcases List.mem_cons.mp hop with rfl | hop
    · exact absurd hb (by decide)
    · exact hop
  | dropDefault mnemonics operand =>
    obtain ⟨-, -, ho, -, -⟩ := dropDefault_eq_some_iff.mp h
    rw [ho, List.mem_singleton] at hop
    rw [keepsBracketed, ← hop, hb] at ht
    cases ht
  | numberedTop =>
    obtain ⟨-, hlen, -, hd⟩ := numberedTop_bridges_iff.mp h
    obtain ⟨i, hi, rfl⟩ := List.mem_iff_getElem.mp hop
    have hst : source.operands[i] ≠ "st" := by
      intro hs
      rw [hs] at hb
      exact absurd hb (by decide)
    have hop' : numberTop source.operands[i] decoded.operands[i] = source.operands[i] := by
      rw [numberTop, if_neg fun hs => hst hs.1]
    rw [← hd, List.mem_iff_getElem?]
    refine ⟨i, List.getElem?_zipWith_eq_some.mpr ⟨_, _, ?_, ?_, hop'⟩⟩
    · exact List.getElem?_eq_getElem hi
    · exact List.getElem?_eq_getElem (hlen ▸ hi)
  | rename | addSuffix | exchange | elideSize | leaAsMov | dropSuffix | explicitOperands =>
    cases ht

/-- No size is left out where all memory operands of the source line are decoded operands. -/
theorem elideSize_eq_none_of_mem
    (h : ∀ op ∈ source.operands, isBracketed op = true → op ∈ decoded.operands) :
    elideSize.respell? source decoded = none := by
  rw [Option.eq_none_iff_forall_ne_some]
  intro l hl
  obtain ⟨k, hk, -⟩ := elideSize_eq_some_iff.mp hl
  obtain ⟨-, ⟨op, hop, hstart⟩, hnot⟩ := of_elidedKeyword?_eq_some hk
  -- the operand with the size keyword stands in the decoded line, keyword and all
  have hd := h op hop (isBracketed_of_sizeMarker hstart)
  exact hnot (hstart.isInfix.trans (Line.infix_text hd))

/-- No size is left out where memory operands are kept. -/
theorem elideSize_eq_none {t : Respelling} (ht : t.keepsBracketed = true)
    (h : t.Bridges source decoded) : elideSize.respell? source decoded = none :=
  elideSize_eq_none_of_mem fun _ hop hb => mem_operands_of_keepsBracketed ht h hop hb

end Respelling

end AsmPair
