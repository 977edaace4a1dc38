import AsmPair.Proofs.Module.Listing
import AsmPair.Proofs.Spelling.Elision

/-!
# Sizes that the rest of a line implies

Where a size is left out that the mnemonic or a register implies, it can be put back, and the source
line is the only one of its decoded line.  So it is in the standard catalog: all its lines have one
memory operand at most, and where the rule about sizes applies, the size is implied.  The rule does
not look at this.  It asks whether there is an opcode or a register that may imply a size, and not
which size it is, so other lines lose their size with it.

## Main definitions

* `impliedKeyword?` — the size keyword that a mnemonic and register operands imply.
* `ElidesImplied` — the size that is left out of a line is implied by the rest of it.
* `Form.impliesSize` — the decidable check that the size in a form is implied.

## Main results

* `eq_of_elidesImplied` — an implied size is not lost.
* `elidesImplied_line` — the sizes in the standard catalog are implied.
* `elision_loses_sizes_only` — what leaving out a size loses.
-/

namespace AsmPair

/-! ### Implied sizes -/

/-- The size of the memory operand under a mnemonic whose opcode fixes it.  A call or jump through
memory is taken to be near. -/
def opcodeKeyword (mnemonic : String) : String :=
  if ["lgdt", "lidt", "sgdt", "sidt"].contains mnemonic then "fword"
  else if ["lds", "les"].contains mnemonic then "dword"
  else "word"

/-- The size of the memory operand beside a register. -/
def registerKeyword (register : String) : String :=
  if Operand.byteRegisters.any (Text.sameLetters · register) then "byte" else "word"

/-- The size keyword that a mnemonic and register operands imply, if they imply one. -/
def impliedKeyword? (mnemonic : String) (operands : List String) : Option String :=
  if sizedByOpcode.contains mnemonic then some (opcodeKeyword mnemonic)
  else if shifts.contains mnemonic then none
  else (operands.find? Operand.isRegister).map registerKeyword

section Registers

variable {k op r : String}

/-- Registers are kept and none come up where a size is left out. -/
theorem isRegister_withoutSize (hk : k ∈ sizeKeywords) (op : String) :
    Operand.isRegister (withoutSize k op) = Operand.isRegister op := by
  by_cases h : '[' ∈ op.toList
  · have hleft := (bracket_mem_withoutSize hk).mpr h
    rw [Bool.eq_false_iff.mpr fun hr => not_bracket_of_isRegister hr hleft,
      Bool.eq_false_iff.mpr fun hr => not_bracket_of_isRegister hr h]
  · rw [withoutSize_of_not_bracket h]

/-- What is implied does not change where a size is left out. -/
theorem impliedKeyword?_map_withoutSize (hk : k ∈ sizeKeywords) (m : String)
    (ops : List String) :
    impliedKeyword? m (ops.map (withoutSize k)) = impliedKeyword? m ops := by
  have hfind : (ops.map (withoutSize k)).find? Operand.isRegister =
      ops.find? Operand.isRegister := by
    have hcomp : Operand.isRegister ∘ withoutSize k = Operand.isRegister :=
      funext fun op => by rw [Function.comp_apply, isRegister_withoutSize hk]
    rw [List.find?_map, hcomp]
    cases h : ops.find? Operand.isRegister with
    | none => rfl
    | some r =>
      have hr := not_bracket_of_isRegister (List.find?_some h)
      rw [Option.map_some, withoutSize_of_not_bracket hr]
  rw [impliedKeyword?, impliedKeyword?, hfind]

theorem sameLetters_lowered (hop : ∀ c ∈ op.toList, c.toNat < 0x80) (r : String) :
    Text.sameLetters r (Text.lowered op) = Text.sameLetters r op := by
  have hmap : (op.toList.map Char.toLower).map Char.toLower = op.toList.map Char.toLower := by
    rw [List.map_map]
    exact List.map_congr_left fun c hc =>
      Text.forall_ascii (P := fun c => c.toLower.toLower = c.toLower) (by decide) (hop c hc)
  rw [Text.sameLetters, Text.sameLetters, Line.toList_lowered hop, hmap]

theorem isRegister_lowered (hop : ∀ c ∈ op.toList, c.toNat < 0x80) :
    Operand.isRegister (Text.lowered op) = Operand.isRegister op := by
  simp only [Operand.isRegister, sameLetters_lowered hop]

theorem registerKeyword_lowered (hop : ∀ c ∈ op.toList, c.toNat < 0x80) :
    registerKeyword (Text.lowered op) = registerKeyword op := by
  simp only [registerKeyword, sameLetters_lowered hop]

end Registers

/-! ### The operands of a template -/

/-- The size keyword of a width, in lower case. -/
def Operand.Width.lowerKeyword (width : Operand.Width) : String :=
  String.ofList (width.keyword.toList.map Char.toLower)

namespace Template

open Operand

/-- The width of the memory operands of a template, if it has any. -/
def width? : Template → Option Width
  | memory scalar | registerOrMemory scalar | offset scalar => some scalar.width
  | farPointer pointer => some pointer.width
  | direct width => some width
  | literal _ | implicit _ | register _ | branch _ | immediate _ | stack => none

/-- The registers among the operands of a template. -/
def registers : Template → List String
  | literal token | implicit token => [token].filter isRegister
  | register cls => cls.names
  | registerOrMemory scalar => scalar.registers
  | memory _ | farPointer _ | offset _ | direct _ | branch _ | immediate _ | stack => []

/-- The size keyword that all registers of a template imply, if it has any. -/
def registerKeyword? (t : Template) : Option String := t.registers.head?.map registerKeyword

variable {t : Template} {op : String} {width : Width}

theorem not_space_lowerKeyword (width : Width) : ' ' ∉ width.lowerKeyword.toList := by
  cases width <;> decide

/-- A memory operand in lower case. -/
theorem map_toLower_bracketed (width : Width) (address : String) :
    (bracketed width address).toList.map Char.toLower = sizeMarker width.lowerKeyword ++
      (address.toList.map Char.toLower ++ [']']) := by
  rw [toList_bracketed, sizeMarker, Width.lowerKeyword, String.toList_ofList]
  simp

theorem count_bracket_bracketed {address : String}
    (h : '[' ∉ address.toList.map Char.toLower) :
    ((bracketed width address).toList.map Char.toLower).count '[' = 1 := by
  have hwidth : '[' ∉ width.lowerKeyword.toList := by cases width <;> decide
  rw [map_toLower_bracketed, sizeMarker, List.cons_append, List.count_cons_self,
    List.count_eq_zero.mpr (by simp [hwidth, h])]

theorem exists_bracketed_of_mem_memory (h : op ∈ Operand.memory width) :
    ∃ address, op = bracketed width address ∧ '[' ∉ address.toList.map Char.toLower := by
  obtain ⟨o, ho, h⟩ := List.mem_flatMap.mp h
  obtain ⟨a, ha, rfl⟩ := List.mem_map.mp h
  have hletters : ∀ s ∈ overrides ++ addresses, '[' ∉ s.toList.map Char.toLower := by decide
  refine ⟨o ++ a, rfl, ?_⟩
  rw [String.toList_append, List.map_append, List.mem_append, not_or]
  exact ⟨hletters o (List.mem_append_left _ ho), hletters a (List.mem_append_right _ ha)⟩

theorem eq_atOffset_of_not_isLarge : ∀ t ∈ written, t.isLarge = false → ∀ op ∈ t.operands,
    '[' ∈ op.toList → t.width?.any (fun width => op == atOffset width) = true := by
  decide

/-- An operand in brackets is memory of the width that the template has. -/
theorem exists_bracketed_of_mem_operands (ht : t ∈ written) (h : op ∈ t.operands)
    (hop : '[' ∈ op.toList) : ∃ width address, t.width? = some width ∧
      op = bracketed width address ∧ '[' ∉ address.toList.map Char.toLower := by
  match hlarge : t.isLarge with
  | false =>
    obtain ⟨width, hwidth, heq⟩ := (Option.any_eq_true _ _).mp
      (eq_atOffset_of_not_isLarge t ht hlarge op h hop)
    exact ⟨width, "90a0h", hwidth, eq_of_beq heq, by decide⟩
  | true =>
    match t, hlarge with
    | memory scalar, _ =>
      obtain ⟨address, hop, haddress⟩ := exists_bracketed_of_mem_memory h
      exact ⟨scalar.width, address, rfl, hop, haddress⟩
    | farPointer pointer, _ =>
      obtain ⟨address, hop, haddress⟩ := exists_bracketed_of_mem_memory h
      exact ⟨pointer.width, address, rfl, hop, haddress⟩
    | registerOrMemory scalar, _ =>
      rcases List.mem_append.mp h with h | h
      · obtain ⟨address, hop, haddress⟩ := exists_bracketed_of_mem_memory h
        exact ⟨scalar.width, address, rfl, hop, haddress⟩
      · exact absurd hop (not_bracket_of_mem_registers scalar op h)

/-- In lower case such an operand starts with the keyword of the width. -/
theorem prefix_lowered (ht : t ∈ written) (h : op ∈ t.operands)
    (hop : '[' ∈ (Text.lowered op).toList) : ∃ width, t.width? = some width ∧
      sizeMarker width.lowerKeyword <+: (Text.lowered op).toList := by
  rw [toList_lowered_operand ht h] at hop ⊢
  have hbracket : '[' ∈ op.toList := by
    by_contra hnot
    exact Text.not_mem_map_toLower (by decide) (plain_of_mem_operands ht h).ascii hnot hop
  obtain ⟨width, address, hwidth, rfl, -⟩ := exists_bracketed_of_mem_operands ht h hbracket
  refine ⟨width, hwidth, ?_⟩
  rw [map_toLower_bracketed]
  exact List.prefix_append _ _

/-- An operand has one bracket at most, and none if the template has no width. -/
theorem count_bracket_lowered_le (ht : t ∈ written) (h : op ∈ t.operands) :
    (Text.lowered op).toList.count '[' ≤ if t.width?.isSome then 1 else 0 := by
  rw [toList_lowered_operand ht h]
  by_cases hbracket : '[' ∈ op.toList
  · obtain ⟨width, address, hwidth, rfl, haddress⟩ :=
      exists_bracketed_of_mem_operands ht h hbracket
    rw [hwidth, count_bracket_bracketed haddress]
    exact Nat.le_refl 1
  · rw [List.count_eq_zero.mpr
      (Text.not_mem_map_toLower (by decide) (plain_of_mem_operands ht h).ascii hbracket)]
    exact Nat.zero_le _

/-- The operands of a template that are registers. -/
theorem mem_registers_of_not_isLarge : ∀ t ∈ written, t.isLarge = false → ∀ op ∈ t.operands,
    isRegister op = true → op ∈ t.registers := by
  decide

theorem mem_registers (ht : t ∈ written) (h : op ∈ t.operands) (hop : isRegister op = true) :
    op ∈ t.registers := by
  have hmemory : ∀ width, op ∉ Operand.memory width := fun width hmem =>
    not_bracket_of_isRegister hop (bracket_mem_of_mem_memory hmem)
  match hlarge : t.isLarge with
  | false => exact mem_registers_of_not_isLarge t ht hlarge op h hop
  | true =>
    match t, hlarge with
    | memory scalar, _ => exact absurd h (hmemory _)
    | farPointer pointer, _ => exact absurd h (hmemory _)
    | registerOrMemory scalar, _ => exact (List.mem_append.mp h).resolve_left (hmemory _)

/-- The registers of a template imply the same size. -/
theorem registerKeyword?_eq_some : ∀ t ∈ written, ∀ r ∈ t.registers,
    t.registerKeyword? = some (registerKeyword r) := by
  decide

end Template

/-! ### The lines of a form -/

/-- Whether the size in a form is that of the opcode, or that of all registers of the form, or left
open by a shift. -/
def Form.impliesSize (f : Form) : Bool :=
  let mnemonic := Text.lowered f.mnemonic
  f.templates.all fun t => t.width?.all fun width =>
    if sizedByOpcode.contains mnemonic then opcodeKeyword mnemonic == width.lowerKeyword
    else shifts.contains mnemonic ||
      f.templates.all fun u => u.registerKeyword?.all (· == width.lowerKeyword)

theorem impliesSize_of_mem_standard : ∀ f ∈ Catalog.standard.forms, f.impliesSize = true := by
  decide +kernel

section Lines

variable {f : Form} {row : List String} {decoded : Line} {k : String}

theorem exists_template_of_mem_rows (h : row ∈ f.rows) :
    ∀ x ∈ row, ∃ t ∈ f.templates, x ∈ t.operands := by
  refine forall_of_mem_product ?_ (f.rows_perm_product.mem_iff.mp h)
  intro s hs x hx
  obtain ⟨t, ht, rfl⟩ := List.mem_map.mp hs
  exact ⟨t, ht, hx⟩

theorem operands_line (hf : f.IsRead) (h : row ∈ f.rows) :
    (f.line row).operands = row.map Text.lowered :=
  operands_ofRow hf.mem_written (f.rows_perm_product.mem_iff.mp h) _

/-- The size that is left out of a line of a form is implied by its mnemonic or by a register. -/
theorem impliedKeyword?_line (hf : f.IsRead) (hsize : f.impliesSize = true) (hrow : row ∈ f.rows)
    (hk : elidedKeyword? (f.line row) decoded = some k)
    (himplied : sizeImplied (f.line row).mnemonic (f.line row).operands = true) :
    impliedKeyword? (f.line row).mnemonic (f.line row).operands = some k := by
  obtain ⟨hmem, ⟨op, hop, hstart⟩, -⟩ := of_elidedKeyword?_eq_some hk
  rw [operands_line hf hrow] at hop himplied ⊢
  obtain ⟨x, hx, rfl⟩ := List.mem_map.mp hop
  obtain ⟨t, ht, hxt⟩ := exists_template_of_mem_rows hrow x hx
  -- the keyword is that of the width of the slot
  obtain ⟨width, hwidth, rfl⟩ : ∃ width, t.width? = some width ∧ width.lowerKeyword = k := by
    obtain ⟨width, hwidth, hstarts⟩ := Template.prefix_lowered (hf.mem_written t ht) hxt
      (hstart.subset List.mem_cons_self)
    exact ⟨width, hwidth, eq_of_prefix_sizeMarker (Template.not_space_lowerKeyword width)
      (not_space_of_mem_sizeKeywords k hmem) hstarts hstart⟩
  have hform := List.all_eq_true.mp hsize t ht
  rw [hwidth, Option.all_some] at hform
  change impliedKeyword? (Text.lowered f.mnemonic) _ = _
  change sizeImplied (Text.lowered f.mnemonic) _ = true at himplied
  rw [impliedKeyword?]
  split at hform
  · next hopcode => rw [if_pos hopcode, eq_of_beq hform]
  · next hopcode =>
    rw [Bool.not_eq_true] at hopcode
    rw [sizeImplied, hopcode, Bool.false_or, Bool.and_eq_true, Bool.not_eq_true'] at himplied
    rw [himplied.1, Bool.false_or, List.all_eq_true] at hform
    rw [hopcode, if_neg Bool.false_ne_true, himplied.1, if_neg Bool.false_ne_true]
    cases hr : (row.map Text.lowered).find? Operand.isRegister with
    | none =>
      obtain ⟨r, hmemr, hregister⟩ := List.any_eq_true.mp himplied.2
      exact absurd hregister (List.find?_eq_none.mp hr r hmemr)
    | some r =>
      have hregister := List.find?_some hr
      obtain ⟨y, hy, rfl⟩ := List.mem_map.mp (List.mem_of_find?_eq_some hr)
      obtain ⟨u, hu, hyu⟩ := exists_template_of_mem_rows hrow y hy
      have hascii := (Template.plain_of_mem_operands (hf.mem_written u hu) hyu).ascii
      rw [isRegister_lowered hascii] at hregister
      have hkeyword := Template.registerKeyword?_eq_some u (hf.mem_written u hu) y
        (Template.mem_registers (hf.mem_written u hu) hyu hregister)
      have hwidth := hform u hu
      rw [hkeyword, Option.all_some] at hwidth
      rw [Option.map_some, registerKeyword_lowered hascii, eq_of_beq hwidth]

end Lines

/-! ### Implied sizes are not lost -/

/-- How many brackets the operands of a line open. -/
def Line.brackets (l : Line) : Nat := (l.operands.map fun op => op.toList.count '[').sum

/-- The size that is left out of a source line is implied by the rest of the line. -/
def ElidesImplied (source decoded : Line) : Prop :=
  ∃ k, elidedKeyword? source decoded = some k ∧
    impliedKeyword? source.mnemonic source.operands = some k

section Source

variable {source source' decoded : Line} {k : String}

theorem withoutSize_eq_self (hk : k ∈ sizeKeywords) {op : String}
    (h : '[' ∉ (withoutSize k op).toList) : withoutSize k op = op :=
  withoutSize_of_not_bracket fun hop => h ((bracket_mem_withoutSize hk).mpr hop)

theorem not_prefix_of_not_bracket (hk : k ∈ sizeKeywords) {op : String}
    (h : '[' ∉ (withoutSize k op).toList) : ¬ sizeMarker k <+: op.toList :=
  fun hstart => h ((bracket_mem_withoutSize hk).mpr (hstart.subset List.mem_cons_self))

/-- An operand with the keyword is known from what is left of it. -/
theorem eq_of_withoutSize_eq {x y : String} (hx : sizeMarker k <+: x.toList)
    (hy : sizeMarker k <+: y.toList) (h : withoutSize k x = withoutSize k y) : x = y := by
  obtain ⟨rest, hrest⟩ := hx
  obtain ⟨rest', hrest'⟩ := hy
  have hleft := congrArg String.toList h
  rw [toList_withoutSize hrest.symm, toList_withoutSize hrest'.symm, List.cons.injEq] at hleft
  apply String.toList_injective
  rw [← hrest, ← hrest', hleft.2]

/-- Operands without brackets are what is left of them. -/
theorem eq_map_withoutSize (hk : k ∈ sizeKeywords) {xs : List String}
    (h : ∀ op ∈ xs.map (withoutSize k), '[' ∉ op.toList) : xs = xs.map (withoutSize k) := by
  induction xs with
  | nil => rfl
  | cons x xs ih =>
    rw [List.map_cons, List.forall_mem_cons] at h
    rw [List.map_cons, ← ih h.2, withoutSize_eq_self hk h.1]

/-- Operands of which one has the keyword are known from what is left of them, if that has only one
bracket. -/
theorem eq_of_map_withoutSize_eq (hk : k ∈ sizeKeywords) {xs ys : List String}
    (hxs : ∃ x ∈ xs, sizeMarker k <+: x.toList) (hys : ∃ y ∈ ys, sizeMarker k <+: y.toList)
    (hcount : ((xs.map (withoutSize k)).map fun op => op.toList.count '[').sum ≤ 1)
    (h : xs.map (withoutSize k) = ys.map (withoutSize k)) : xs = ys := by
  have hnone : ∀ {zs : List String}, (∀ op ∈ zs.map (withoutSize k), '[' ∉ op.toList) →
      ¬ ∃ z ∈ zs, sizeMarker k <+: z.toList := by
    rintro zs hzs ⟨z, hz, hstart⟩
    exact not_prefix_of_not_bracket hk (hzs _ (List.mem_map_of_mem hz)) hstart
  induction xs generalizing ys with
  | nil => exact absurd hxs (by simp)
  | cons x xs ih =>
    cases ys with
    | nil => cases h
    | cons y ys =>
      rw [List.map_cons, List.map_cons, List.cons.injEq] at h
      rw [List.map_cons, List.map_cons, List.sum_cons] at hcount
      rw [List.exists_mem_cons_iff] at hxs hys
      by_cases hbracket : '[' ∈ (withoutSize k x).toList
      · -- the keyword is in the first operand, and no other is in brackets
        have hpos := List.count_pos_iff.mpr hbracket
        have hzero : ((xs.map (withoutSize k)).map fun op => op.toList.count '[').sum = 0 := by
          omega
        have hrest : ∀ op ∈ xs.map (withoutSize k), '[' ∉ op.toList := by
          intro op hop
          rw [List.sum_eq_zero_iff_forall_eq_nat] at hzero
          exact List.count_eq_zero.mp (hzero _ (List.mem_map.mpr ⟨op, hop, rfl⟩))
        have hrest' : ∀ op ∈ ys.map (withoutSize k), '[' ∉ op.toList := h.2 ▸ hrest
        rw [eq_of_withoutSize_eq (hxs.resolve_right (hnone hrest))
          (hys.resolve_right (hnone hrest')) h.1, eq_map_withoutSize hk hrest,
          eq_map_withoutSize hk hrest', h.2]
      · have hbracket' := h.1 ▸ hbracket
        rw [← withoutSize_eq_self hk hbracket, h.1, withoutSize_eq_self hk hbracket',
          ih (hxs.resolve_left (not_prefix_of_not_bracket hk hbracket))
            (hys.resolve_left (not_prefix_of_not_bracket hk hbracket')) ?_ h.2]
        omega

/-- No bracket is left out with a size. -/
theorem brackets_eq_of_bridges (h : Respelling.elideSize.Bridges source decoded) :
    decoded.brackets = source.brackets := by
  obtain ⟨-, -, k, hk, hd⟩ := Respelling.elideSize_bridges_iff.mp h
  obtain ⟨hmem, -, -⟩ := of_elidedKeyword?_eq_some hk
  have hcount : ∀ op, (withoutSize k op).toList.count '[' = op.toList.count '[' :=
    fun op => ((filled_withoutSize k op).count_bracket hmem).symm
  rw [Line.brackets, Line.brackets, hd, List.map_map]
  simp only [Function.comp_def, hcount]

/-- **An implied size is not lost**, if the line has no second bracket that it could belong to. -/
theorem eq_of_elidesImplied (hbrackets : decoded.brackets ≤ 1)
    (h : Respelling.elideSize.Bridges source decoded)
    (h' : Respelling.elideSize.Bridges source' decoded) (himplied : ElidesImplied source decoded)
    (himplied' : ElidesImplied source' decoded) : source = source' := by
  obtain ⟨k, hk, hmnemonic⟩ := himplied
  obtain ⟨k', hk', hmnemonic'⟩ := himplied'
  obtain ⟨hm, -, k₁, hk₁, hd⟩ := Respelling.elideSize_bridges_iff.mp h
  obtain ⟨hm', -, k₂, hk₂, hd'⟩ := Respelling.elideSize_bridges_iff.mp h'
  cases hk.symm.trans hk₁
  cases hk'.symm.trans hk₂
  obtain ⟨hmem, hsource, -⟩ := of_elidedKeyword?_eq_some hk
  obtain ⟨hmem', hsource', -⟩ := of_elidedKeyword?_eq_some hk'
  -- what is implied is read off the decoded line
  rw [hm, ← impliedKeyword?_map_withoutSize hmem, ← hd] at hmnemonic
  rw [hm', ← impliedKeyword?_map_withoutSize hmem', ← hd', hmnemonic, Option.some.injEq]
    at hmnemonic'
  subst hmnemonic'
  refine Line.ext (hm.trans hm'.symm)
    (eq_of_map_withoutSize_eq hmem hsource hsource' ?_ (hd.symm.trans hd'))
  rw [← hd]
  exact hbrackets

end Source

/-! ### The standard catalog -/

/-- The forms of the standard catalog have one memory operand at most. -/
theorem countP_width_le_one : ∀ f ∈ Catalog.standard.forms,
    f.templates.countP (fun t => t.width?.isSome) ≤ 1 := by
  decide +kernel

/-- The operands of a combination have no more brackets than there are templates with a width. -/
theorem sum_count_bracket_le {ts : List Template} (hts : ∀ t ∈ ts, t ∈ Template.written)
    {row : List String} (hrow : row ∈ product (ts.map Template.operands)) :
    ((row.map Text.lowered).map fun op => op.toList.count '[').sum ≤
      ts.countP fun t => t.width?.isSome := by
  induction ts generalizing row with
  | nil =>
    rw [List.mem_singleton.mp hrow]
    exact Nat.zero_le _
  | cons t ts ih =>
    obtain ⟨x, row, rfl⟩ := List.exists_cons_of_length_eq_add_one (length_of_mem_product hrow)
    obtain ⟨hx, hrow⟩ := cons_mem_product.mp hrow
    rw [List.forall_mem_cons] at hts
    rw [List.map_cons, List.map_cons, List.sum_cons, List.countP_cons, Nat.add_comm]
    exact Nat.add_le_add (ih hts.2 hrow) (Template.count_bracket_lowered_le hts.1 hx)

section Catalog

variable {f : Form} {row : List String} {decoded : Line}

/-- The lines of the standard catalog have one bracket at most. -/
theorem brackets_line_le_one (hf : f ∈ Catalog.standard.forms) (hrow : row ∈ f.rows) :
    (f.line row).brackets ≤ 1 := by
  have hread := Catalog.isRead_of_mem_standard f hf
  rw [Line.brackets, operands_line hread hrow]
  exact (sum_count_bracket_le hread.mem_written (f.rows_perm_product.mem_iff.mp hrow)).trans
    (countP_width_le_one f hf)

/-- **The sizes in the standard catalog are implied** where they are left out. -/
theorem elidesImplied_line (hf : f ∈ Catalog.standard.forms) (hrow : row ∈ f.rows)
    (h : Respelling.elideSize.Bridges (f.line row) decoded) :
    decoded.brackets ≤ 1 ∧ ElidesImplied (f.line row) decoded := by
  obtain ⟨-, himplied, k, hk, -⟩ := Respelling.elideSize_bridges_iff.mp h
  refine ⟨(brackets_eq_of_bridges h).trans_le (brackets_line_le_one hf hrow), k, hk, ?_⟩
  exact impliedKeyword?_line (Catalog.isRead_of_mem_standard f hf)
    (impliesSize_of_mem_standard f hf) hrow hk himplied

/-- Two lines of the standard catalog that are spelled like one decoded line are the same. -/
theorem line_eq_of_bridges {g : Form} {row' : List String} (hf : f ∈ Catalog.standard.forms)
    (hg : g ∈ Catalog.standard.forms) (hrow : row ∈ f.rows) (hrow' : row' ∈ g.rows)
    (h : Respelling.elideSize.Bridges (f.line row) decoded)
    (h' : Respelling.elideSize.Bridges (g.line row') decoded) : f.line row = g.line row' := by
  obtain ⟨hbrackets, himplied⟩ := elidesImplied_line hf hrow h
  exact eq_of_elidesImplied hbrackets h h' himplied (elidesImplied_line hg hrow' h').2

end Catalog

/-! ### What leaving out a size loses -/

/-- The standard rule that leaves out a size. -/
def sizeElision : Rule := ⟨"operand size elided", .elideSize⟩

theorem sizeElision_mem_standardRules : sizeElision ∈ standardRules := by decide

/-- **What leaving out a size loses.**  Two lines that the rule spells like one decoded line are the
same if their sizes are the same.  They are the same as well if there is only one bracket and both
sizes are implied by the rest of the lines.  All lines of the standard catalog are such lines, so no
two of them are spelled alike.  But the rule does not ask whether it is the implied size that it
leaves out: wherever it applies, any size that the decoded line does not have could have been left
out as well. -/
theorem elision_loses_sizes_only (d : Line) :
    (∀ a₁ a₂, sizeElision.Bridges a₁ d → sizeElision.Bridges a₂ d →
      (a₁ = a₂ ↔ a₁.sizes = a₂.sizes)) ∧
    (∀ a₁ a₂, sizeElision.Bridges a₁ d → sizeElision.Bridges a₂ d → d.brackets ≤ 1 →
      ElidesImplied a₁ d → ElidesImplied a₂ d → a₁ = a₂) ∧
    (∀ f ∈ Catalog.standard.forms, ∀ row ∈ f.rows, sizeElision.Bridges (f.line row) d →
      d.brackets ≤ 1 ∧ ElidesImplied (f.line row) d ∧
        ∀ g ∈ Catalog.standard.forms, ∀ row' ∈ g.rows, sizeElision.Bridges (g.line row') d →
          f.line row = g.line row') ∧
    ∀ a, sizeElision.Bridges a d → ∀ k ∈ sizeKeywords, ¬ sizeMarker k <:+: d.text.toList →
      elidedKeyword? (d.withSize k) d = some k ∧ sizeElision.Bridges (d.withSize k) d := by
  refine ⟨fun _ _ => eq_iff_sizes_eq, fun _ _ h h' hbrackets => eq_of_elidesImplied hbrackets h h',
    fun f hf row hrow h => ?_, fun _ h _ => withSize_bridges h⟩
  obtain ⟨hbrackets, himplied⟩ := elidesImplied_line hf hrow h
  exact ⟨hbrackets, himplied, fun g hg row' hrow' => line_eq_of_bridges hf hg hrow hrow' h⟩

/-- A call through a near pointer is a line of the catalog, and its size is implied.  A call through
a far pointer has another size, and it is spelled the same. -/
theorem elision_loses_size_of_call :
    let d := Line.parse "call [bx]"
    let near := Line.parse "call [word bx]"
    let far := Line.parse "call [dword bx]"
    d.brackets ≤ 1 ∧ ElidesImplied near d ∧ near.sizes ≠ far.sizes ∧
      elidedKeyword? (d.withSize "dword") d = some "dword" ∧ d.withSize "dword" = far := by
  intro d near far
  obtain ⟨hsizes, -, hcatalog, hany⟩ := elision_loses_sizes_only d
  have hnear : sizeElision.Bridges near d := by
    unfold Rule.Bridges Respelling.Bridges
    decide +kernel
  have hfar : sizeElision.Bridges far d := by
    unfold Rule.Bridges Respelling.Bridges
    decide +kernel
  let f : Form := ⟨"CALL", [.registerOrMemory .word], .cpu8086, 82, 2⟩
  have hf : f ∈ Catalog.standard.forms := by decide +kernel
  have hrow : ["[WORD BX]"] ∈ f.rows := by decide +kernel
  have hline : f.line ["[WORD BX]"] = near := by decide +kernel
  have himplied := hcatalog f hf _ hrow (hline ▸ hnear)
  rw [hline] at himplied
  refine ⟨himplied.1, himplied.2.1, fun h => ?_, (hany near hnear "dword" ?_ ?_).1, ?_⟩
  · exact absurd ((hsizes near far hnear hfar).mpr h) (by decide +kernel)
  · decide
  · rw [← Text.holds_iff]
    decide +kernel
  · decide +kernel

/-- A call through a near pointer and one through a far pointer are told apart by nothing but their
sizes, and the rule spells them the same. -/
theorem near_and_far_call_spelled_alike :
    let near := Line.parse "call [word bx]"
    let far := Line.parse "call [dword bx]"
    let d := Line.parse "call [bx]"
    near ≠ far ∧ sizeElision.Bridges near d ∧ sizeElision.Bridges far d ∧
      firstApplicable? standardRules near d = some (sizeElision, d) ∧
      firstApplicable? standardRules far d = some (sizeElision, d) := by
  unfold Rule.Bridges Respelling.Bridges
  decide +kernel

end AsmPair
