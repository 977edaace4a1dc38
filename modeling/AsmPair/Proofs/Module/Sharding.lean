import AsmPair.Proofs.Form.Read
import AsmPair.Proofs.Module.Product
import AsmPair.Proofs.Operand.Written
import Mathlib.Algebra.GroupWithZero.Nat
import Mathlib.Data.List.Forall2
import Mathlib.Data.List.GetD

/-!
# Sharding

The modules of a form hold its operand combinations in batches.  How the combinations are cut
into batches depends on the capacity of the composer; which combinations there are, and in which
order, does not.

## Main definitions

* `Form.sets`, `Form.outer?`, `Form.rows` — the combinations of a form, in order.
* `Composer.batches` — the combinations of each module.
* `Form.moduleNames` — the names that its modules may have.

## Main results

* `Composer.compose_eq_ok_iff` — when there are modules, and which.
* `Composer.flatMap_body_of_compose` — the instructions of all modules, whatever the capacity.
* `Composer.sharding_is_lossless` — nothing is lost or repeated.
-/

namespace AsmPair

/-! ### The combinations of a form -/

namespace Form

/-- The operands of each slot. -/
def sets (f : Form) : List (List String) := f.templates.map Template.operands

/-- The position of the slot whose operands are split over modules. -/
def outer? (f : Form) : Option Nat := f.templates.findIdx? Template.isLarge

/-- The operand combinations of a form, in the order in which its modules hold them. -/
def rows (f : Form) : List (List String) :=
  match f.outer? with
  | none => product f.sets
  | some position => Composer.pinned f.sets position (f.sets.getD position [])

/-- The names that the modules of a form may have. -/
def moduleNames (f : Form) : List String :=
  match f.outer? with
  | none => [f.baseName]
  | some _ => shardLetters.map fun letter => f.baseName ++ letter.toString

variable {f : Form}

theorem lt_length_sets {position : Nat} (h : f.outer? = some position) :
    position < f.sets.length := by
  obtain ⟨hlt, -⟩ := List.findIdx?_eq_some_iff_getElem.mp h
  unfold sets
  rwa [List.length_map]

/-- The combinations are those of the product of the operand lists. -/
theorem rows_perm_product (f : Form) : f.rows.Perm (product f.sets) := by
  unfold rows
  split
  · exact List.Perm.refl _
  · next position h =>
    have hlt := lt_length_sets h
    rw [List.getD_eq_getElem _ _ hlt]
    exact Composer.pinned_perm_product hlt

/-- If only the first slot may be large, the order is that of the product. -/
theorem rows_eq_product (h : ∀ t ∈ f.templates.tail, t.isLarge = false) :
    f.rows = product f.sets := by
  unfold rows
  split
  · rfl
  · next position houter =>
    have hlt := lt_length_sets houter
    obtain ⟨hlt', hlarge, -⟩ := List.findIdx?_eq_some_iff_getElem.mp houter
    have hzero : position = 0 := by
      by_contra hne
      -- otherwise a slot of the tail would be large
      obtain ⟨p, rfl⟩ := Nat.exists_eq_succ_of_ne_zero hne
      have hmem : f.templates[p + 1] ∈ f.templates.tail := by
        rw [← List.getElem_tail (by rw [List.length_tail]; omega)]
        exact List.getElem_mem _
      rw [h _ hmem] at hlarge
      cases hlarge
    subst hzero
    obtain ⟨s, ss, hsets⟩ := List.exists_cons_of_length_pos hlt
    rw [hsets]
    exact Composer.pinned_zero s ss

@[simp] theorem length_rows (f : Form) :
    f.rows.length = (f.templates.map Template.cardinality).prod := by
  rw [f.rows_perm_product.length_eq, length_product]
  unfold sets
  rw [List.map_map]
  congr 1
  exact List.map_congr_left fun t _ => t.length_operands

theorem nodup_rows (f : Form) : f.rows.Nodup := by
  rw [f.rows_perm_product.nodup_iff]
  apply nodup_product
  intro s hs
  obtain ⟨t, -, rfl⟩ := List.mem_map.mp hs
  exact t.nodup_operands

/-- A combination has one operand for each slot. -/
theorem length_of_mem_rows {row : List String} (h : row ∈ f.rows) :
    row.length = f.templates.length := by
  have hlen := length_of_mem_product (f.rows_perm_product.mem_iff.mp h)
  unfold sets at hlen
  rwa [List.length_map] at hlen

/-- The operands in the combinations of a form that was read are plain texts. -/
theorem plain_of_mem_rows (hf : f.IsRead) {row : List String} (h : row ∈ f.rows) :
    ∀ op ∈ row, Text.Plain op.toList := by
  refine forall_of_mem_product ?_ (f.rows_perm_product.mem_iff.mp h)
  intro s hs op hop
  obtain ⟨t, ht, rfl⟩ := List.mem_map.mp hs
  exact Template.plain_of_mem_operands (hf.mem_written t ht) hop

theorem shape_eq_ok_iff {s : Shape} : f.shape = .ok s ↔
    f.templates.length ≤ maxOperands ∧ f.templates.countP Template.isLarge ≤ 1 ∧
      s = ⟨f.templates, f.outer?⟩ := by
  unfold shape
  split
  · next h => simp only [reduceCtorEq, false_iff]; omega
  · next h =>
    split
    · next h' => simp only [reduceCtorEq, false_iff]; omega
    · next h' =>
      rw [Except.ok.injEq, eq_comm]
      constructor
      · intro hs
        exact ⟨by omega, by omega, hs⟩
      · exact fun hs => hs.2.2

end Form

/-! ### The modules of a form -/

namespace Composer

variable {c : Composer} {f : Form} {ms : List AsmModule}

/-- The combinations of each module of a form. -/
def batches (c : Composer) (f : Form) : List (List (List String)) :=
  match f.outer? with
  | none => [product f.sets]
  | some position =>
    (chunks c.capacity (f.sets.getD position [])).map (pinned f.sets position)

/-- The batches together are all combinations, whatever the capacity. -/
@[simp] theorem flatten_batches (c : Composer) (f : Form) : (c.batches f).flatten = f.rows := by
  unfold batches Form.rows
  split
  · exact List.flatten_singleton
  · rw [← List.flatMap_def, flatMap_pinned_chunks]

/-- **When a form has modules, and which.**  It must have a permitted shape and not more batches
than there are names. -/
theorem compose_eq_ok_iff : c.compose f = .ok ms ↔
    f.templates.length ≤ maxOperands ∧ f.templates.countP Template.isLarge ≤ 1 ∧
      (c.batches f).length ≤ f.moduleNames.length ∧
      ms = List.zipWith (c.shard f) f.moduleNames (c.batches f) := by
  unfold compose
  cases hs : f.shape with
  | error e =>
    constructor
    · intro h; cases h
    · rintro ⟨hlen, hcount, -, -⟩
      have hok : f.shape = .ok ⟨f.templates, f.outer?⟩ :=
        Form.shape_eq_ok_iff.mpr ⟨hlen, hcount, rfl⟩
      rw [hs] at hok
      cases hok
  | ok s =>
    obtain ⟨hlen, hcount, rfl⟩ := Form.shape_eq_ok_iff.mp hs
    unfold batches Form.moduleNames
    cases houter : f.outer? with
    | none =>
      simp only [Except.ok.injEq, hlen, hcount, true_and]
      exact ⟨fun h => ⟨Nat.le_refl 1, h.symm⟩, fun h => h.2.symm⟩
    | some position =>
      simp only [List.length_map, List.zipWith_map, hlen, hcount, true_and]
      split
      · next h =>
        constructor
        · intro he; cases he
        · rintro ⟨hle, -⟩
          exact absurd hle (Nat.not_le_of_lt h)
      · next h =>
        rw [Except.ok.injEq, eq_comm]
        exact ⟨fun hms => ⟨Nat.le_of_not_lt h, hms⟩, fun hms => hms.2⟩

/-- Every module holds its batch, in order. -/
theorem forall₂_shard_of_compose (h : c.compose f = .ok ms) :
    List.Forall₂ (fun m rows => ∃ name, m = c.shard f name rows) ms (c.batches f) := by
  obtain ⟨-, -, hlen, rfl⟩ := compose_eq_ok_iff.mp h
  -- there are enough names, so no batch is lost when the two lists are put together
  generalize f.moduleNames = names at hlen
  generalize c.batches f = batches at hlen
  induction batches generalizing names with
  | nil =>
    rw [List.zipWith_nil_right]
    exact List.Forall₂.nil
  | cons rows batches ih =>
    cases names with
    | nil => simp at hlen
    | cons name names =>
      exact List.Forall₂.cons ⟨name, rfl⟩ (ih names (Nat.le_of_succ_le_succ hlen))

theorem mem_rows_of_mem_batches {rows : List (List String)} (hrows : rows ∈ c.batches f)
    {row : List String} (hrow : row ∈ rows) : row ∈ f.rows := by
  rw [← flatten_batches c f]
  exact List.mem_flatten.mpr ⟨rows, hrows, hrow⟩

/-- **The instructions of all modules are the combinations, whatever the capacity.** -/
theorem flatMap_body_of_compose (h : c.compose f = .ok ms) :
    ms.flatMap AsmModule.body = f.rows.map (instruction f.mnemonic) := by
  rw [← flatten_batches c f]
  have hshard := forall₂_shard_of_compose h
  clear h
  generalize c.batches f = batches at hshard
  induction hshard with
  | nil => rfl
  | cons hm hrest ih =>
    obtain ⟨name, rfl⟩ := hm
    rw [List.flatMap_cons, List.flatten_cons, List.map_append, ih]
    rfl

/-! ### Written instructions -/

/-- A written instruction is a mnemonic in its column with a list of operands after it. -/
theorem toList_instruction (mnemonic : String) (ops : List String) :
    (instruction mnemonic ops).toList =
      ("    " ++ Text.alignLeft 6 mnemonic ++ " ").toList ++
        Text.listed (ops.map String.toList) := by
  unfold instruction
  rw [String.toList_append, Text.toList_intercalate_comma]

/-- Operand lists of one length are told apart by what is written for them. -/
theorem instruction_injective {mnemonic : String} {ops ops' : List String}
    (hlen : ops.length = ops'.length) (hops : ∀ op ∈ ops, Text.Plain op.toList)
    (hops' : ∀ op ∈ ops', Text.Plain op.toList)
    (h : instruction mnemonic ops = instruction mnemonic ops') : ops = ops' := by
  by_cases hnil : ops = []
  · rw [hnil, List.length_nil] at hlen
    rw [hnil, List.eq_nil_of_length_eq_zero hlen.symm]
  have hnil' : ops' ≠ [] := by
    intro hnil'
    rw [hnil', List.length_nil] at hlen
    exact hnil (List.eq_nil_of_length_eq_zero hlen)
  have hlist := congrArg String.toList h
  rw [toList_instruction, toList_instruction] at hlist
  have hlisted := congrArg Text.separated (List.append_cancel_left hlist)
  have hseparate : ∀ os : List String, os ≠ [] → (∀ op ∈ os, Text.Plain op.toList) →
      Text.separated (Text.listed (os.map String.toList)) = os.map String.toList := by
    intro os hne hos
    apply Text.separated_listed
    · rwa [Ne, List.map_eq_nil_iff]
    · intro p hp
      obtain ⟨op, hop, rfl⟩ := List.mem_map.mp hp
      exact (hos op hop).not_hasSeparator
  rw [hseparate ops hnil hops, hseparate ops' hnil' hops'] at hlisted
  exact List.map_injective_iff.mpr (fun _ _ heq => String.toList_injective heq) hlisted

/-- The combinations of a form that was read are written as different instructions. -/
theorem nodup_instructions (hf : f.IsRead) :
    (f.rows.map (instruction f.mnemonic)).Nodup := by
  refine f.nodup_rows.map_on fun row hrow row' hrow' h => ?_
  have hlen : row.length = row'.length := by
    rw [Form.length_of_mem_rows hrow, Form.length_of_mem_rows hrow']
  exact instruction_injective hlen (Form.plain_of_mem_rows hf hrow)
    (Form.plain_of_mem_rows hf hrow') h

/-! ### What sharding keeps -/

/-- **Sharding neither loses nor repeats a combination.**  The instructions of all modules
together are those of the plain product, each once; they come in the order of the product unless a
slot after the first is large, and in the same order under every capacity. -/
theorem sharding_is_lossless (hf : f.IsRead) (h : c.compose f = .ok ms) :
    let plain := (product (f.templates.map Template.operands)).map (instruction f.mnemonic)
    (ms.flatMap AsmModule.body).Nodup ∧
    (ms.flatMap AsmModule.body).Perm plain ∧
    ((∀ t ∈ f.templates.tail, t.isLarge = false) → ms.flatMap AsmModule.body = plain) ∧
    (∀ (c' : Composer) ms', c'.compose f = .ok ms' →
      ms'.flatMap AsmModule.body = ms.flatMap AsmModule.body) ∧
    (ms.map AsmModule.instructions).sum = (f.templates.map Template.cardinality).prod := by
  intro plain
  have hbody := flatMap_body_of_compose h
  refine ⟨?_, ?_, ?_, ?_, ?_⟩
  · rw [hbody]
    exact nodup_instructions hf
  · rw [hbody]
    exact f.rows_perm_product.map _
  · intro hfirst
    rw [hbody, Form.rows_eq_product hfirst]
    rfl
  · intro c' ms' h'
    rw [hbody, flatMap_body_of_compose h']
  · have hsum : (ms.map AsmModule.instructions).sum = (ms.flatMap AsmModule.body).length := by
      rw [List.length_flatMap]
      rfl
    rw [hsum, hbody, List.length_map, f.length_rows]

/-- A form with 8 registers and 120 memory operands, in three modules or in one. -/
theorem sharding_of_second_slot :
    let f : Form :=
      { mnemonic := "LDS", templates := [.register .word, .farPointer .segmentOffset],
        feature := .cpu8086 }
    f.IsRead ∧ ∃ ms ms',
      (ofCapacity 50 "start").compose f = .ok ms ∧ ms.length = 3 ∧
      (ofCapacity 128 "main").compose f = .ok ms' ∧ ms'.length = 1 ∧
      (ms.flatMap AsmModule.body).Nodup ∧
      ms'.flatMap AsmModule.body = ms.flatMap AsmModule.body ∧
      (ms.map AsmModule.instructions).sum = 960 := by
  intro f
  have hread : Form.read "lds" ["r16", "m16:16"] .cpu8086 = .ok f := rfl
  have hf : f.IsRead := Form.isRead_of_read hread
  have hms : (ofCapacity 50 "start").compose f = .ok (List.zipWith
      ((ofCapacity 50 "start").shard f) f.moduleNames ((ofCapacity 50 "start").batches f)) :=
    compose_eq_ok_iff.mpr ⟨by decide, by decide, by decide +kernel, rfl⟩
  have hms' : (ofCapacity 128 "main").compose f = .ok (List.zipWith
      ((ofCapacity 128 "main").shard f) f.moduleNames ((ofCapacity 128 "main").batches f)) :=
    compose_eq_ok_iff.mpr ⟨by decide, by decide, by decide +kernel, rfl⟩
  obtain ⟨hnodup, -, -, hsame, hsum⟩ := sharding_is_lossless hf hms
  exact ⟨hf, _, _, hms, by decide +kernel, hms', by decide +kernel, hnodup, hsame _ _ hms',
    hsum.trans (by decide)⟩

end Composer

end AsmPair
