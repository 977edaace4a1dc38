import AsmPair.Proofs.Line.Reading
import AsmPair.Proofs.Operand.Written

/-!
# Generated operands in lower case

A listing shows operands in lower case.  No two operands of a template become the same in this
way: apart from `f` and `h`, which only stand in displacements, the letters of an address are
capitals.  A memory operand has one space, between its size keyword and its address.

## Main definitions

* `Operand.IsSized` — an operand with one space in its brackets, if it has any.

## Main results

* `Template.eq_of_lowered_eq` — an operand of a template is told by its lower-case form.
* `Template.isSized_lowered` — the lower-case form of an operand of a template is sized.
-/

namespace AsmPair

open Text

namespace Operand

/-- An operand that has no comma and that has, where it is in brackets, one space, which is the one
between a size keyword and an address. -/
structure IsSized (op : String) : Prop where
  /-- There is no comma. -/
  not_comma : ',' ∉ op.toList
  /-- Where there is a bracket, there is one space. -/
  count_space : '[' ∈ op.toList → op.toList.count ' ' = 1

/-! ### Memory operands -/

/-- The letter of an address whose lower-case form is given. -/
def addressLetter (c : Char) : Char := if c = 'f' ∨ c = 'h' then c else c.toUpper

theorem map_addressLetter : ∀ s ∈ overrides ++ addresses,
    (s.toList.map Char.toLower).map addressLetter = s.toList := by
  decide

/-- An address with an override is told by its lower-case form. -/
theorem map_addressLetter_append {o a : String} (ho : o ∈ overrides) (ha : a ∈ addresses) :
    ((o ++ a).toList.map Char.toLower).map addressLetter = (o ++ a).toList := by
  rw [String.toList_append, List.map_append, List.map_append,
    map_addressLetter o (List.mem_append_left _ ho),
    map_addressLetter a (List.mem_append_right _ ha)]

/-- A memory operand is told by its lower-case form. -/
theorem eq_of_map_toLower_eq_of_mem_memory {width : Width} {x y : String} (hx : x ∈ memory width)
    (hy : y ∈ memory width) (h : x.toList.map Char.toLower = y.toList.map Char.toLower) :
    x = y := by
  obtain ⟨o, ho, hx⟩ := List.mem_flatMap.mp hx
  obtain ⟨a, ha, rfl⟩ := List.mem_map.mp hx
  obtain ⟨p, hp, hy⟩ := List.mem_flatMap.mp hy
  obtain ⟨b, hb, rfl⟩ := List.mem_map.mp hy
  simp only [toList_bracketed, List.map_append, List.map_cons] at h
  -- the keyword and the brackets are the same on both sides
  have haddress : (o ++ a).toList.map Char.toLower = (p ++ b).toList.map Char.toLower :=
    List.append_cancel_right (List.cons.inj (List.append_cancel_left h)).2
  have hparts : (o ++ a).toList = (p ++ b).toList := by
    rw [← map_addressLetter_append ho ha, haddress, map_addressLetter_append hp hb]
  rw [String.toList_injective hparts]

/-- A memory operand has one space, in front of its address. -/
theorem count_space_of_mem_memory {width : Width} {op : String} (h : op ∈ memory width) :
    op.toList.count ' ' = 1 := by
  obtain ⟨o, ho, h⟩ := List.mem_flatMap.mp h
  obtain ⟨a, ha, rfl⟩ := List.mem_map.mp h
  have hkeyword : ('[' :: width.keyword.toList).count ' ' = 0 := by cases width <;> decide
  have hletters : ∀ s ∈ overrides ++ addresses, s.toList.count ' ' = 0 := by decide
  rw [toList_bracketed, String.toList_append, List.count_append, List.count_cons_self,
    List.count_append, List.count_append, hkeyword, hletters o (List.mem_append_left _ ho),
    hletters a (List.mem_append_right _ ha)]
  rfl

end Operand

namespace Template

variable {t : Template}

/-! ### The operands of a template -/

theorem toList_lowered_operand (ht : t ∈ written) {op : String} (h : op ∈ t.operands) :
    (lowered op).toList = op.toList.map Char.toLower :=
  Line.toList_lowered (plain_of_mem_operands ht h).ascii

/-- The few operands of a template that is not split over modules. -/
theorem eq_of_map_toLower_eq_of_not_isLarge : ∀ t ∈ written, t.isLarge = false →
    ∀ x ∈ t.operands, ∀ y ∈ t.operands,
      x.toList.map Char.toLower = y.toList.map Char.toLower → x = y := by
  decide

theorem eq_of_map_toLower_eq_of_mem_registers (scalar : Scalar) : ∀ x ∈ scalar.registers,
    ∀ y ∈ scalar.registers, x.toList.map Char.toLower = y.toList.map Char.toLower → x = y := by
  cases scalar <;> decide

/-- A register never reads like a memory operand. -/
theorem map_toLower_ne_of_mem_registers {scalar : Scalar} {width : Operand.Width} {r op : String}
    (hr : r ∈ scalar.registers) (hop : op ∈ Operand.memory width) :
    r.toList.map Char.toLower ≠ op.toList.map Char.toLower := by
  have hregister : '[' ∉ r.toList.map Char.toLower :=
    not_mem_map_toLower (by decide) (plain_registers scalar r hr).ascii
      (not_bracket_of_mem_registers scalar r hr)
  intro h
  apply hregister
  rw [h]
  exact List.mem_map.mpr ⟨'[', Operand.bracket_mem_of_mem_memory hop, rfl⟩

/-- An operand of a template is told by its lower-case form. -/
theorem eq_of_lowered_eq (ht : t ∈ written) {x y : String} (hx : x ∈ t.operands)
    (hy : y ∈ t.operands) (h : lowered x = lowered y) : x = y := by
  have hmap : x.toList.map Char.toLower = y.toList.map Char.toLower := by
    rw [← toList_lowered_operand ht hx, h, toList_lowered_operand ht hy]
  match hlarge : t.isLarge with
  | false => exact eq_of_map_toLower_eq_of_not_isLarge t ht hlarge x hx y hy hmap
  | true =>
    match t, hlarge with
    | memory scalar, _ => exact Operand.eq_of_map_toLower_eq_of_mem_memory hx hy hmap
    | farPointer pointer, _ => exact Operand.eq_of_map_toLower_eq_of_mem_memory hx hy hmap
    | registerOrMemory scalar, _ =>
      rcases List.mem_append.mp hx with hx | hx <;> rcases List.mem_append.mp hy with hy | hy
      · exact Operand.eq_of_map_toLower_eq_of_mem_memory hx hy hmap
      · exact absurd hmap.symm (map_toLower_ne_of_mem_registers hy hx)
      · exact absurd hmap (map_toLower_ne_of_mem_registers hx hy)
      · exact eq_of_map_toLower_eq_of_mem_registers scalar x hx y hy hmap

theorem count_space_of_not_isLarge : ∀ t ∈ written, t.isLarge = false →
    ∀ op ∈ t.operands, '[' ∈ op.toList → op.toList.count ' ' = 1 := by
  decide

theorem count_space_of_mem_operands (ht : t ∈ written) :
    ∀ op ∈ t.operands, '[' ∈ op.toList → op.toList.count ' ' = 1 :=
  forall_mem_operands count_space_of_not_isLarge
    (fun _ _ hop _ => Operand.count_space_of_mem_memory hop)
    (fun scalar r hr hbracket => absurd hbracket (not_bracket_of_mem_registers scalar r hr)) ht

/-- The lower-case form of an operand of a template is sized. -/
theorem isSized_lowered (ht : t ∈ written) {op : String} (h : op ∈ t.operands) :
    Operand.IsSized (lowered op) where
  not_comma := (Line.tidy_lowered_of_plain (plain_of_mem_operands ht h)).2.2
  count_space := by
    intro hop
    have hascii := (plain_of_mem_operands ht h).ascii
    rw [toList_lowered_operand ht h] at hop ⊢
    have hbracket : '[' ∈ op.toList := by
      by_contra hnot
      exact not_mem_map_toLower (by decide) hascii hnot hop
    rw [count_map_toLower (by decide) hascii, count_space_of_mem_operands ht op h hbracket]

end Template

end AsmPair
