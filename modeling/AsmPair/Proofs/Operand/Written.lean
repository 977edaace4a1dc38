import AsmPair.Operand.Template
import AsmPair.Proofs.Text.Words
import Mathlib.Data.List.Nodup

/-!
# The texts of generated operands

Every template that can be written in shorthand generates plain texts, and none of them twice.
The memory operands are too many to be compared one by one; an operand tells its address, and an
address tells its override by the colon.

## Main results

* `nodup_operands` — no template generates an operand twice.
* `plain_of_mem_operands` — the operands of a template with a shorthand are plain texts.
-/

namespace AsmPair

namespace Operand

/-! ### Memory operands -/

theorem toList_bracketed (width : Width) (address : String) :
    (bracketed width address).toList =
      ('[' :: width.keyword.toList) ++ ' ' :: (address.toList ++ [']']) := by
  unfold bracketed
  simp only [String.toList_append, List.append_assoc]
  rfl

theorem bracket_mem_of_mem_memory {width : Width} {op : String} (h : op ∈ memory width) :
    '[' ∈ op.toList := by
  obtain ⟨o, -, h⟩ := List.mem_flatMap.mp h
  obtain ⟨a, -, rfl⟩ := List.mem_map.mp h
  rw [toList_bracketed]
  exact List.mem_cons_self

/-- A memory operand tells its address. -/
theorem bracketed_injective (width : Width) : Function.Injective (bracketed width) := by
  intro a b h
  have hlist := congrArg String.toList h
  rw [toList_bracketed, toList_bracketed] at hlist
  have htail := (List.cons.inj (List.append_cancel_left hlist)).2
  exact String.toList_injective (List.append_cancel_right htail)

theorem nodup_addresses : addresses.Nodup := by decide

theorem not_colon_of_mem_addresses : ∀ a ∈ addresses, ':' ∉ a.toList := by decide

theorem empty_or_colon_of_mem_overrides : ∀ o ∈ overrides,
    o = "" ∨ (o.toList.length = 3 ∧ ':' ∈ o.toList) := by
  decide

/-- An address with an override tells the override. -/
theorem override_eq_of_append_eq {o p a b : String} (ho : o ∈ overrides) (hp : p ∈ overrides)
    (ha : a ∈ addresses) (hb : b ∈ addresses) (h : o ++ a = p ++ b) : o = p := by
  have hlist : o.toList ++ a.toList = p.toList ++ b.toList := by
    rw [← String.toList_append, h, String.toList_append]
  rcases empty_or_colon_of_mem_overrides o ho with rfl | ⟨holen, hocolon⟩
  · rcases empty_or_colon_of_mem_overrides p hp with rfl | ⟨-, hpcolon⟩
    · rfl
    · have hmem : ':' ∈ a.toList := by
        rw [String.toList_empty, List.nil_append] at hlist
        rw [hlist]
        exact List.mem_append_left _ hpcolon
      exact absurd hmem (not_colon_of_mem_addresses a ha)
  · rcases empty_or_colon_of_mem_overrides p hp with rfl | ⟨hplen, -⟩
    · have hmem : ':' ∈ b.toList := by
        rw [String.toList_empty, List.nil_append] at hlist
        rw [← hlist]
        exact List.mem_append_left _ hocolon
      exact absurd hmem (not_colon_of_mem_addresses b hb)
    · exact String.toList_injective (List.append_inj_left hlist (by rw [holen, hplen]))

/-- No memory operand is generated twice. -/
theorem nodup_memory (width : Width) : (memory width).Nodup := by
  rw [memory, List.nodup_flatMap]
  have hnodup : overrides.Nodup := by decide
  refine ⟨fun o _ => ?_, hnodup.imp_of_mem fun {o p} ho hp hne op hop hop' => ?_⟩
  · refine nodup_addresses.map fun a b h => ?_
    have happend := congrArg String.toList (bracketed_injective width h)
    rw [String.toList_append, String.toList_append] at happend
    exact String.toList_injective (List.append_cancel_left happend)
  · obtain ⟨a, ha, rfl⟩ := List.mem_map.mp hop
    obtain ⟨b, hb, heq⟩ := List.mem_map.mp hop'
    exact hne (override_eq_of_append_eq hp ho hb ha (bracketed_injective width heq)).symm

/-- The letters of an address and of an override are plain, and no blanks. -/
theorem plain_letters_of_mem : ∀ s ∈ overrides ++ addresses,
    s.toList.all (fun c => Text.isPlain c && !Text.isBlank c) = true := by
  decide

theorem plain_keyword (width : Width) : Text.Plain ('[' :: width.keyword.toList) := by
  cases width <;> decide

/-- Memory operands are plain texts of two words. -/
theorem plain_of_mem_memory {width : Width} {op : String} (h : op ∈ memory width) :
    Text.Plain op.toList := by
  obtain ⟨o, ho, h⟩ := List.mem_flatMap.mp h
  obtain ⟨a, ha, rfl⟩ := List.mem_map.mp h
  rw [toList_bracketed]
  apply Text.plain_append_space (plain_keyword width)
  have hletters : ∀ c ∈ (o ++ a).toList ++ [']'],
      Text.isPlain c = true ∧ Text.isBlank c = false := by
    have hall : ((o ++ a).toList ++ [']']).all
        (fun c => Text.isPlain c && !Text.isBlank c) = true := by
      rw [String.toList_append, List.all_append, List.all_append,
        plain_letters_of_mem o (List.mem_append_left _ ho),
        plain_letters_of_mem a (List.mem_append_right _ ha)]
      rfl
    intro c hc
    simpa using List.all_eq_true.mp hall c hc
  exact Text.plain_of_isWord ⟨List.append_ne_nil_of_right_ne_nil _ (List.cons_ne_nil _ _),
    fun c hc => (hletters c hc).2⟩ fun c hc => (hletters c hc).1

end Operand

namespace Template

/-! ### The operands of a template -/

/-- A memory operand begins with a bracket, a register has none. -/
theorem not_bracket_of_mem_registers (scalar : Scalar) : ∀ r ∈ scalar.registers,
    '[' ∉ r.toList := by
  cases scalar <;> decide

/-- No template generates an operand twice. -/
theorem nodup_operands (t : Template) : t.operands.Nodup := by
  match t with
  | literal _ | implicit _ | offset _ | direct _ | immediate _ => exact List.nodup_singleton _
  | branch .conditional | branch .short | branch .near => exact List.nodup_singleton _
  | register cls => cases cls <;> decide
  | stack => decide
  | memory scalar => exact Operand.nodup_memory _
  | farPointer pointer => exact Operand.nodup_memory _
  | registerOrMemory scalar =>
    rw [operands, List.nodup_append']
    refine ⟨Operand.nodup_memory _, by cases scalar <;> decide, ?_⟩
    intro op hmem hreg
    exact not_bracket_of_mem_registers scalar op hreg (Operand.bracket_mem_of_mem_memory hmem)

/-- The few operands of a template that is not split over modules. -/
theorem plain_of_not_isLarge : ∀ t ∈ written, t.isLarge = false →
    ∀ op ∈ t.operands, Text.Plain op.toList := by
  decide

theorem plain_registers (scalar : Scalar) : ∀ r ∈ scalar.registers, Text.Plain r.toList := by
  cases scalar <;> decide

/-- What holds of the few operands of the other templates, of every memory operand and of every
register holds of all operands of the templates with a shorthand. -/
theorem forall_mem_operands {P : String → Prop}
    (hfew : ∀ t ∈ written, t.isLarge = false → ∀ op ∈ t.operands, P op)
    (hmemory : ∀ width, ∀ op ∈ Operand.memory width, P op)
    (hregister : ∀ scalar : Scalar, ∀ r ∈ scalar.registers, P r) {t : Template}
    (ht : t ∈ written) : ∀ op ∈ t.operands, P op := by
  match hlarge : t.isLarge with
  | false => exact hfew t ht hlarge
  | true =>
    match t, hlarge with
    | memory scalar, _ => exact hmemory _
    | farPointer pointer, _ => exact hmemory _
    | registerOrMemory scalar, _ =>
      exact List.forall_mem_append.mpr ⟨hmemory _, hregister scalar⟩

/-- The operands of a template with a shorthand are plain texts. -/
theorem plain_of_mem_operands {t : Template} (ht : t ∈ written) {op : String}
    (h : op ∈ t.operands) : Text.Plain op.toList :=
  forall_mem_operands plain_of_not_isLarge (fun _ _ hop => Operand.plain_of_mem_memory hop)
    plain_registers ht op h

end Template

end AsmPair
