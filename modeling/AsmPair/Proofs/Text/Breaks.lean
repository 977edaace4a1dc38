import AsmPair.Proofs.Text.Lowering
import AsmPair.Proofs.Text.Spacing

/-!
# Lowering piece by piece

The lower-case form of a letter depends on its neighbours, but never across a blank or a comma:
such a character has no case and is not looked through.  So a text that is cut there can be
lowered piece by piece, and its words can be lowered one by one.

## Main definitions

* `IsBreak` — a character across which no letter is seen.

## Main results

* `lower_append_break` — what stands before and after a break is lowered by itself.
* `pieces_lower`, `words_lower` — the pieces and the words of a lowered text.
* `lower_map_toLower` — the case of ASCII letters does not matter to the lowered text.
* `map_words_pieces_append` — blanks beside a cut belong to no word of a piece.
-/

namespace AsmPair.Text

/-! ### Breaks -/

/-- A character that is lowered already and across which no letter is seen. -/
structure IsBreak (c : Char) : Prop where
  /-- Lowering leaves it as it is. -/
  lowered : IsLowered c
  /-- It is no letter with a case. -/
  not_cased : isCased c = false
  /-- It is not looked through. -/
  not_ignorable : isCaseIgnorable c = false

instance (c : Char) : Decidable (IsBreak c) :=
  decidable_of_iff (IsLowered c ∧ isCased c = false ∧ isCaseIgnorable c = false)
    ⟨fun ⟨h, h', h''⟩ => ⟨h, h', h''⟩, fun h => ⟨h.1, h.2, h.3⟩⟩

theorem isBreak_comma : IsBreak ',' := by decide

theorem isBreak_of_isBlank {c : Char} (h : isBlank c = true) : IsBreak c := by
  have hpoints : ∀ n ∈ blankPoints, IsBreak (Char.ofNat n) :=
    List.all_iff_forall_prop.mp (by decide +kernel)
  have hc := hpoints c.toNat (mem_blankPoints_of_isBlank h)
  rwa [Char.ofNat_toNat] at hc

theorem startsCased_cons (c : Char) (cs : List Char) :
    startsCased (c :: cs) = if isCaseIgnorable c then startsCased cs else isCased c := by
  unfold startsCased
  by_cases hc : isCaseIgnorable c = true
  · rw [if_pos hc, List.dropWhile_cons_of_pos hc]
  · rw [if_neg hc, List.dropWhile_cons_of_neg hc]

section Break

variable {c : Char}

/-- What follows a break is not seen from before it. -/
theorem IsBreak.startsCased_append (hc : IsBreak c) (xs ys : List Char) :
    startsCased (xs ++ c :: ys) = startsCased xs := by
  induction xs with
  | nil =>
    rw [List.nil_append, startsCased_cons, hc.not_ignorable, hc.not_cased]
    rfl
  | cons x xs ih => rw [List.cons_append, startsCased_cons, startsCased_cons, ih]

/-- What stands before a break does not matter to what follows it. -/
theorem IsBreak.lowerAfter_append (hc : IsBreak c) (near far ys : List Char) :
    lowerAfter (near ++ c :: far) ys = lowerAfter near ys := by
  induction ys generalizing near with
  | nil => rfl
  | cons y ys ih =>
    rw [lowerAfter_cons, lowerAfter_cons, ← List.cons_append, ih]
    unfold isFinal
    rw [hc.startsCased_append]

theorem IsBreak.lowerAfter_append_cons (hc : IsBreak c) (before xs ys : List Char) :
    lowerAfter before (xs ++ c :: ys) = lowerAfter before xs ++ c :: lower ys := by
  induction xs generalizing before with
  | nil =>
    have hfar := hc.lowerAfter_append [] before ys
    rw [List.nil_append] at hfar
    rw [List.nil_append, lowerAfter_cons, if_neg hc.lowered.ne_sigma, hc.lowered.lowerChar_eq,
      hfar]
    rfl
  | cons x xs ih =>
    rw [List.cons_append, lowerAfter_cons, lowerAfter_cons, ih, List.append_assoc]
    unfold isFinal
    rw [hc.startsCased_append]

/-- **What stands before and after a break is lowered by itself.** -/
theorem lower_append_break (hc : IsBreak c) (xs ys : List Char) :
    lower (xs ++ c :: ys) = lower xs ++ c :: lower ys :=
  hc.lowerAfter_append_cons [] xs ys

end Break

/-! ### Lowered pieces -/

section Pieces

variable {p : Char → Bool}

/-- A text that is cut at breaks only, none of which lowering makes, is lowered piece by piece. -/
theorem pieces_lower (hbreak : ∀ c, p c = true → IsBreak c)
    (hmade : ∀ cs, (∀ c ∈ cs, p c = false) → ∀ d ∈ lower cs, p d = false) (cs : List Char) :
    pieces p (lower cs) = (pieces p cs).map lower := by
  -- the induction is on what is not cut yet, behind a piece that goes on
  have hpiece : ∀ xs, (∀ c ∈ xs, p c = false) →
      pieces p (lower (xs ++ cs)) = (pieces p (xs ++ cs)).map lower := by
    induction cs with
    | nil =>
      intro xs hxs
      rw [List.append_nil, pieces_of_not hxs, pieces_of_not (hmade xs hxs)]
      rfl
    | cons c cs ih =>
      intro xs hxs
      by_cases hc : p c = true
      · have hrest := ih [] (by simp)
        rw [List.nil_append] at hrest
        rw [lower_append_break (hbreak c hc), pieces_append_cut hc, pieces_append_cut hc,
          pieces_of_not hxs, pieces_of_not (hmade xs hxs), hrest, List.map_append]
        rfl
      · rw [List.append_cons]
        apply ih
        intro d hd
        rcases List.mem_append.mp hd with hd | hd
        · exact hxs d hd
        · rw [List.mem_singleton.mp hd]
          exact Bool.eq_false_iff.mpr hc
  exact hpiece [] (by simp)

theorem not_isBlank_of_mem_lowerAfter {before cs : List Char}
    (hcs : ∀ c ∈ cs, isBlank c = false) {d : Char} (h : d ∈ lowerAfter before cs) :
    isBlank d = false := by
  induction cs generalizing before with
  | nil => cases h
  | cons c cs ih =>
    rcases mem_lowerAfter_cons h with ⟨-, rfl | rfl⟩ | h | h
    · decide
    · decide
    · exact (isWord_lowerChar (hcs c List.mem_cons_self)).not_blank d h
    · exact ih (fun e he => hcs e (List.mem_cons_of_mem c he)) h

theorem lowerChar_ne_nil (c : Char) : lowerChar c ≠ [] := by
  unfold lowerChar
  split
  · exact List.cons_ne_nil _ _
  · split <;> exact List.cons_ne_nil _ _

@[simp] theorem lower_eq_nil_iff {cs : List Char} : lower cs = [] ↔ cs = [] := by
  refine ⟨fun h => ?_, fun h => by rw [h]; rfl⟩
  cases cs with
  | nil => rfl
  | cons c cs =>
    have hfirst := (List.append_eq_nil_iff.mp h).1
    split at hfirst
    · split at hfirst <;> cases hfirst
    · exact absurd hfirst (lowerChar_ne_nil c)

/-- **The words of a text are lowered one by one.** -/
theorem words_lower (cs : List Char) : words (lower cs) = (words cs).map lower := by
  unfold words
  rw [pieces_lower (fun c => isBreak_of_isBlank)
    fun xs hxs d hd => not_isBlank_of_mem_lowerAfter hxs hd, List.filter_map]
  congr 1
  apply List.filter_congr
  intro w _
  rw [Function.comp_apply, Bool.eq_iff_iff, Bool.not_eq_true', Bool.not_eq_true', 
    List.isEmpty_eq_false_iff, List.isEmpty_eq_false_iff, Ne, lower_eq_nil_iff]

/-- A list between commas is lowered piece by piece. -/
theorem pieces_comma_lower (cs : List Char) :
    pieces (· == ',') (lower cs) = (pieces (· == ',') cs).map lower := by
  apply pieces_lower
  · intro c hc
    rw [eq_of_beq hc]
    exact isBreak_comma
  · intro xs hxs d hd
    rw [Bool.eq_false_iff]
    intro hcomma
    rw [eq_of_beq hcomma] at hd
    exact absurd (hxs ',' (mem_of_mem_lower (by decide) hd)) (by decide)

end Pieces

/-! ### ASCII letters -/

@[simp] theorem isCased_toLower (c : Char) : isCased c.toLower = isCased c :=
  apply_toLower (by decide) c

@[simp] theorem isCaseIgnorable_toLower (c : Char) :
    isCaseIgnorable c.toLower = isCaseIgnorable c :=
  apply_toLower (by decide) c

@[simp] theorem lowerChar_toLower (c : Char) : lowerChar c.toLower = lowerChar c :=
  apply_toLower (by decide) c

theorem toLower_eq_sigma_iff {c : Char} : c.toLower = 'Σ' ↔ c = 'Σ' := by
  have hsame : (c.toLower == 'Σ') = (c == 'Σ') := @apply_toLower Bool (· == 'Σ') (by decide) c
  rw [← beq_iff_eq, hsame, beq_iff_eq]

theorem startsCased_map_toLower (cs : List Char) :
    startsCased (cs.map Char.toLower) = startsCased cs := by
  induction cs with
  | nil => rfl
  | cons c cs ih =>
    rw [List.map_cons, startsCased_cons, startsCased_cons, ih, isCased_toLower,
      isCaseIgnorable_toLower]

theorem lowerAfter_map_toLower (before cs : List Char) :
    lowerAfter (before.map Char.toLower) (cs.map Char.toLower) = lowerAfter before cs := by
  induction cs generalizing before with
  | nil => rfl
  | cons c cs ih =>
    have hrest := ih (c :: before)
    rw [List.map_cons] at hrest
    rw [List.map_cons, lowerAfter_cons, lowerAfter_cons, hrest, lowerChar_toLower]
    unfold isFinal
    simp only [toLower_eq_sigma_iff, startsCased_map_toLower]

/-- The case of ASCII letters does not matter to the lowered text. -/
@[simp] theorem lower_map_toLower (cs : List Char) : lower (cs.map Char.toLower) = lower cs :=
  lowerAfter_map_toLower [] cs

/-! ### Blanks beside a cut -/

section Blanks

variable {p : Char → Bool} {bs : List Char}

/-- What follows a text without cuts belongs to the last piece. -/
theorem exists_pieces_append (hbs : ∀ b ∈ bs, p b = false) (xs : List Char) :
    ∃ ps q, pieces p xs = ps ++ [q] ∧ pieces p (xs ++ bs) = ps ++ [q ++ bs] := by
  induction xs with
  | nil => exact ⟨[], [], rfl, pieces_of_not hbs⟩
  | cons x xs ih =>
    obtain ⟨ps, q, hxs, happend⟩ := ih
    rw [List.cons_append, pieces_cons, pieces_cons, hxs, happend]
    split
    · exact ⟨[] :: ps, q, rfl, rfl⟩
    · cases ps with
      | nil => exact ⟨[], x :: q, rfl, rfl⟩
      | cons r rs => exact ⟨(x :: r) :: rs, q, rfl, rfl⟩

variable (hp : ∀ c, isBlank c = true → p c = false) (hbs : ∀ b ∈ bs, isBlank b = true)
include hp hbs

/-- Blanks at the end of a text belong to no word of its pieces. -/
theorem map_words_pieces_append (xs : List Char) :
    (pieces p (xs ++ bs)).map words = (pieces p xs).map words := by
  obtain ⟨ps, q, hxs, happend⟩ := exists_pieces_append (fun b hb => hp b (hbs b hb)) xs
  rw [hxs, happend, List.map_append, List.map_append, List.map_singleton, List.map_singleton,
    words_append_blanks hbs]

/-- Blanks at the front of a text belong to no word of its pieces. -/
theorem map_words_pieces_blanks_append (ys : List Char) :
    (pieces p (bs ++ ys)).map words = (pieces p ys).map words := by
  obtain ⟨q, qs, hq⟩ := List.exists_cons_of_ne_nil (pieces_ne_nil p ys)
  rw [pieces_append_of_not (fun b hb => hp b (hbs b hb)) hq, hq, List.map_cons, List.map_cons,
    words_blanks_append hbs]

end Blanks

end AsmPair.Text
