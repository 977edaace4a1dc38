import AsmPair.Spelling.Rule
import Mathlib.Data.List.Basic

/-!
# What a respelling makes of a line

For each respelling, the lines it applies to and the line that comes of it.  Everything else that
is known about spelling rules follows from these equivalences; the definition of
`Respelling.respell?` is not opened again.

## Main definitions

* `Respelling.Bridges`, `Rule.Bridges` — a source line becomes the decoded line that faces it.

## Main results

* `rename_eq_some_iff`, ..., `numberedTop_eq_some_iff` — when a respelling applies, and what
  comes of it.
-/

namespace AsmPair

/-- The respelling turns the source line into the decoded line that faces it. -/
def Respelling.Bridges (t : Respelling) (source decoded : Line) : Prop :=
  t.respell? source decoded = some decoded

/-- The rule turns the source line into the decoded line that faces it. -/
def Rule.Bridges (r : Rule) (source decoded : Line) : Prop :=
  r.respelling.Bridges source decoded

namespace Respelling

variable {source decoded l : Line}

-- opened in this section only: later modules go by the equivalences below
attribute [local simp] respell?

/-- A choice between a line and nothing. -/
private theorem ite_eq_some_iff {p : Prop} [Decidable p] {x : Line} :
    (if p then some x else none) = some l ↔ p ∧ l = x := by
  rw [Option.ite_none_right_eq_some, Option.some.injEq, eq_comm]

/-! ### Other mnemonics -/

theorem rename_eq_some_iff {pairs : List (String × String)} :
    (rename pairs).respell? source decoded = some l ↔
      (source.mnemonic, decoded.mnemonic) ∈ pairs ∧ l = source.withMnemonic decoded.mnemonic := by
  simp only [respell?, List.contains_iff_mem]
  exact ite_eq_some_iff

theorem addSuffix_eq_some_iff {mnemonics : List String} {suffix : String} {withOperands : Bool} :
    (addSuffix mnemonics suffix withOperands).respell? source decoded = some l ↔
      source.mnemonic ∈ mnemonics ∧ source.operands.isEmpty = !withOperands ∧
        decoded.mnemonic = source.mnemonic ++ suffix ∧
          l = source.withMnemonic decoded.mnemonic := by
  have hne : source.operands.isEmpty ≠ withOperands ↔
      source.operands.isEmpty = !withOperands := by
    cases source.operands.isEmpty <;> cases withOperands <;> decide
  simp only [respell?, Bool.and_eq_true, List.contains_iff_mem, bne_iff_ne, beq_iff_eq]
  rw [ite_eq_some_iff, hne, and_assoc, and_assoc]
  -- the suffix is added to the source mnemonic, which gives the decoded one
  refine and_congr_right fun _ => and_congr_right fun _ => and_congr_right fun hm => ?_
  rw [hm]

theorem exchange_eq_some_iff {old new : String} :
    (exchange old new).respell? source decoded = some l ↔
      source.text = old ∧ decoded.mnemonic = (Line.parse new).mnemonic ∧ l = Line.parse new := by
  simp only [respell?]
  rw [ite_eq_some_iff, and_assoc]

theorem dropSuffix_eq_some_iff {mnemonics : List String} {suffix : String} :
    (dropSuffix mnemonics suffix).respell? source decoded = some l ↔
      source.mnemonic ∈ mnemonics ∧ source.mnemonic = decoded.mnemonic ++ suffix ∧
        source.operands = [] ∧ l = Line.ofParts decoded.mnemonic [] := by
  have hstem : ∀ stem, Text.before? suffix.toList source.mnemonic.toList = some stem ↔
      source.mnemonic = String.ofList stem ++ suffix := by
    intro stem
    rw [Text.before?_eq_some_iff, ← String.toList_inj, String.toList_append, String.toList_ofList]
  simp only [respell?, Bool.and_eq_true, List.contains_iff_mem, List.isEmpty_iff, beq_iff_eq]
  split
  · next h =>
    constructor
    · intro he; cases he
    · rintro ⟨-, hm, -⟩
      have hs := (hstem decoded.mnemonic.toList).mpr (by rw [String.ofList_toList]; exact hm)
      rw [h] at hs
      cases hs
  · next stem h =>
    have hs := (hstem stem).mp h
    rw [ite_eq_some_iff]
    constructor
    · rintro ⟨⟨⟨hmem, ho⟩, hd⟩, rfl⟩
      rw [hd]
      exact ⟨hmem, hs, ho, rfl⟩
    · rintro ⟨hmem, hm, ho, rfl⟩
      have hd : decoded.mnemonic = String.ofList stem :=
        (String.append_left_inj suffix).mp (hm.symm.trans hs)
      rw [hd]
      exact ⟨⟨⟨hmem, ho⟩, rfl⟩, rfl⟩

theorem explicitOperands_eq_some_iff {mnemonics : List String} {suffix : String}
    {operands : List String} :
    (explicitOperands mnemonics suffix operands).respell? source decoded = some l ↔
      source.mnemonic ∈ mnemonics ∧ source.operands = [] ∧
        decoded.mnemonic = source.mnemonic ++ suffix ∧
          l = Line.ofParts decoded.mnemonic operands := by
  simp only [respell?, Bool.and_eq_true, List.contains_iff_mem, List.isEmpty_iff, beq_iff_eq]
  rw [ite_eq_some_iff, and_assoc, and_assoc]
  refine and_congr_right fun _ => and_congr_right fun _ => and_congr_right fun hm => ?_
  rw [hm]

theorem leaAsMov_eq_some_iff :
    leaAsMov.respell? source decoded = some l ↔
      source.mnemonic = "lea" ∧ decoded.mnemonic = "mov" ∧
        ∃ target address a, source.operands = [target, address] ∧
          wordAddress? address = some a ∧ l = Line.ofParts "mov" [target, a] := by
  simp only [respell?]
  rw [Option.ite_none_right_eq_some, and_assoc]
  refine and_congr_right fun _ => and_congr_right fun _ => ?_
  split
  · next target address ho =>
    rw [Option.map_eq_some_iff]
    constructor
    · rintro ⟨a, ha, rfl⟩
      exact ⟨target, address, a, ho, ha, rfl⟩
    · rintro ⟨x, y, a, hxy, ha, rfl⟩
      rw [ho] at hxy
      cases hxy
      exact ⟨a, ha, rfl⟩
  · next ho =>
    constructor
    · intro he; cases he
    · rintro ⟨x, y, -, hxy, -⟩; exact absurd hxy (ho x y)

/-! ### The same mnemonic -/

theorem elideSize_eq_some_iff :
    elideSize.respell? source decoded = some l ↔
      ∃ k, elidedKeyword? source decoded = some k ∧ source.mnemonic = decoded.mnemonic ∧
        sizeImplied source.mnemonic source.operands = true ∧
          l = Line.ofParts source.mnemonic (source.operands.map (withoutSize k)) := by
  simp only [respell?]
  cases elidedKeyword? source decoded with
  | none => simp
  | some k =>
    simp only [Option.some.injEq, exists_eq_left']
    rw [ite_eq_some_iff, and_assoc]

theorem swapOperands_eq_some_iff {mnemonics : List String} :
    (swapOperands mnemonics).respell? source decoded = some l ↔
      source.mnemonic = decoded.mnemonic ∧ source.mnemonic ∈ mnemonics ∧
        decoded.operands.length = 2 ∧
          ∃ x y, source.operands = [x, y] ∧ l = Line.ofParts source.mnemonic [y, x] := by
  simp only [respell?, List.contains_iff_mem]
  rw [Option.ite_none_right_eq_some, and_assoc]
  refine and_congr_right fun _ => and_congr_right fun _ => ?_
  split
  · next x y u v hs hd =>
    rw [hd, Option.some.injEq]
    constructor
    · rintro rfl
      exact ⟨rfl, x, y, hs, rfl⟩
    · rintro ⟨-, x', y', hxy, rfl⟩
      rw [hs] at hxy
      cases hxy
      rfl
  · next hno =>
    constructor
    · intro he; cases he
    · rintro ⟨hlen, x, y, hs, -⟩
      obtain ⟨u, v, hd⟩ := List.length_eq_two.mp hlen
      exact absurd hd (hno x y u v hs)

theorem dropDuplicate_eq_some_iff {mnemonic : String} :
    (dropDuplicate mnemonic).respell? source decoded = some l ↔
      source.mnemonic = decoded.mnemonic ∧ source.mnemonic = mnemonic ∧
        decoded.operands.length = 2 ∧
          ∃ x z, source.operands = [x, x, z] ∧ l = Line.ofParts mnemonic [x, z] := by
  simp only [respell?]
  rw [Option.ite_none_right_eq_some, and_assoc]
  refine and_congr_right fun _ => and_congr_right fun _ => ?_
  split
  · next x y z u v hs hd =>
    rw [hd, Option.ite_none_right_eq_some, Option.some.injEq]
    constructor
    · rintro ⟨rfl, rfl⟩
      exact ⟨rfl, x, z, hs, rfl⟩
    · rintro ⟨-, x', z', hxz, rfl⟩
      rw [hs] at hxz
      cases hxz
      exact ⟨rfl, rfl⟩
  · next hno =>
    constructor
    · intro he; cases he
    · rintro ⟨hlen, x, z, hs, -⟩
      obtain ⟨u, v, hd⟩ := List.length_eq_two.mp hlen
      exact absurd hd (hno x x z u v hs)

theorem implicitDestination_eq_some_iff :
    implicitDestination.respell? source decoded = some l ↔
      source.mnemonic = decoded.mnemonic ∧ Text.startsWith ['f'] source.mnemonic.toList = true ∧
        decoded.operands.length = 1 ∧
          ∃ x, source.operands = ["st", x] ∧ l = Line.ofParts source.mnemonic [x] := by
  simp only [respell?]
  rw [Option.ite_none_right_eq_some, and_assoc]
  refine and_congr_right fun _ => and_congr_right fun _ => ?_
  split
  · next x y u hs hd =>
    rw [hd, Option.ite_none_right_eq_some, Option.some.injEq]
    constructor
    · rintro ⟨rfl, rfl⟩
      exact ⟨rfl, y, hs, rfl⟩
    · rintro ⟨-, y', hy, rfl⟩
      rw [hs] at hy
      cases hy
      exact ⟨rfl, rfl⟩
  · next hno =>
    constructor
    · intro he; cases he
    · rintro ⟨hlen, x, hs, -⟩
      obtain ⟨u, hd⟩ := List.length_eq_one_iff.mp hlen
      exact absurd hd (hno _ x u hs)

theorem dropDefault_eq_some_iff {mnemonics : List String} {operand : String} :
    (dropDefault mnemonics operand).respell? source decoded = some l ↔
      source.mnemonic = decoded.mnemonic ∧ source.mnemonic ∈ mnemonics ∧
        source.operands = [operand] ∧ decoded.operands = [] ∧
          l = Line.ofParts source.mnemonic [] := by
  simp only [respell?, List.contains_iff_mem]
  rw [ite_eq_some_iff, and_assoc, and_assoc, and_assoc]

theorem numberedTop_eq_some_iff :
    numberedTop.respell? source decoded = some l ↔
      source.mnemonic = decoded.mnemonic ∧
        decoded.operands.length = source.operands.length ∧
          List.zipWith numberTop source.operands decoded.operands ≠ source.operands ∧
            l = Line.ofParts source.mnemonic
              (List.zipWith numberTop source.operands decoded.operands) := by
  simp only [respell?]
  rw [Option.ite_none_right_eq_some, Option.ite_none_left_eq_some, and_assoc, Option.some.injEq,
    eq_comm (b := l)]

end Respelling

end AsmPair
