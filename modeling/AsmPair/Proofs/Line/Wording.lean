import AsmPair.Proofs.Line.Relisting

/-!
# The words that a line is read by

A raw line is read by the words in front of its comment: the label that the first word begins with
is left out, and the words are lowered one by one.  The operands are read by the words between
commas.  So where the words of two raw lines agree, the lines do.

## Main definitions

* `dropLabel` — the words of a line without its label.
* `ofWords?` — the line that words hold, if there are any.

## Main results

* `words_code` — what a raw line says, in words.
* `ofRaw?_eq_ofWords?` — what a raw line is read by.
* `operandsOf_lowered` — what the operands are read by.
-/

namespace AsmPair.Line

open Text

/-! ### Comments -/

theorem withoutComment_append_of_not_mem {xs : List Char} (h : ';' ∉ xs) (ys : List Char) :
    withoutComment (xs ++ ys) = xs ++ withoutComment ys := by
  unfold withoutComment
  apply List.takeWhile_append_of_pos
  intro c hc
  apply bne_iff_ne.mpr
  rintro rfl
  exact h hc

/-- Behind a semicolon everything is comment. -/
theorem withoutComment_append_of_mem {xs : List Char} (h : ';' ∈ xs) (ys : List Char) :
    withoutComment (xs ++ ys) = withoutComment xs := by
  induction xs with
  | nil => cases h
  | cons x xs ih =>
    unfold withoutComment at ih ⊢
    rw [List.cons_append, List.takeWhile_cons, List.takeWhile_cons]
    split
    · next hx =>
      rw [ih ((List.mem_cons.mp h).resolve_left fun heq => (bne_iff_ne.mp hx) heq.symm)]
    · rfl

@[simp] theorem withoutComment_append_comment (line text : List Char) :
    withoutComment (line ++ ';' :: text) = withoutComment line := by
  by_cases h : ';' ∈ line
  · exact withoutComment_append_of_mem h _
  · rw [withoutComment_append_of_not_mem h, withoutComment_of_not_mem h]
    exact List.append_nil line

theorem semicolon_not_mem_of_isBlank {bs : List Char} (hbs : ∀ b ∈ bs, isBlank b = true) :
    ';' ∉ bs :=
  fun h => absurd (hbs ';' h) (by decide)

theorem semicolon_not_mem_of_isLabel {label : List Char} (h : isLabel label = true) :
    ';' ∉ label :=
  fun hmem => absurd ((isLabelPart_of_isName (isName_of_isLabel h)).2 ';' hmem) (by decide)

/-! ### Labels -/

/-- The words of a line without the label that the first of them begins with. -/
def dropLabel : List (List Char) → List (List Char)
  | [] => []
  | w :: ws => words (withoutLabel w) ++ ws

theorem dropLabel_append {ws : List (List Char)} (hne : ws ≠ []) (more : List (List Char)) :
    dropLabel (ws ++ more) = dropLabel ws ++ more := by
  obtain ⟨w, ws, rfl⟩ := List.exists_cons_of_ne_nil hne
  exact (List.append_assoc _ _ _).symm

theorem withoutLabel_label {label : List Char} (h : isLabel label = true) (rest : List Char) :
    withoutLabel (label ++ ':' :: rest) = trim rest := by
  unfold withoutLabel
  rw [cut?_label h]
  exact if_pos h

/-- A text is left as it is, or it begins with a label. -/
theorem withoutLabel_eq_self_or (cs : List Char) : withoutLabel cs = cs ∨
    ∃ label rest, isLabel label = true ∧ cs = label ++ ':' :: rest := by
  unfold withoutLabel
  split
  · next label rest hcut =>
    split
    · next hlabel => exact .inr ⟨label, rest, hlabel, (cut?_beq_eq_some_iff.mp hcut).1⟩
    · exact .inl rfl
  · exact .inl rfl

/-- Words are left as they are, or the first of them begins with a label. -/
theorem dropLabel_eq_self_or {ws : List (List Char)} (hws : ∀ w ∈ ws, IsWord w) :
    dropLabel ws = ws ∨
      ∃ label rest ws', isLabel label = true ∧ ws = (label ++ ':' :: rest) :: ws' := by
  cases ws with
  | nil => exact .inl rfl
  | cons w ws =>
    rcases withoutLabel_eq_self_or w with hself | ⟨label, rest, hlabel, rfl⟩
    · left
      rw [dropLabel, hself, words_of_isWord (hws w List.mem_cons_self)]
      rfl
    · exact .inr ⟨label, rest, ws, hlabel, rfl⟩

/-- A label and its colon hold no blank. -/
theorem not_isBlank_of_label {label : List Char} (h : isLabel label = true) :
    ∀ c ∈ label ++ [':'], isBlank c = false := by
  intro c hc
  rcases List.mem_append.mp hc with hc | hc
  · exact isBlank_of_isLabelPart ((isLabelPart_of_isName (isName_of_isLabel h)).2 c hc)
  · rw [List.mem_singleton.mp hc]
    rfl

/-- Behind a label are the words of what follows its colon. -/
theorem dropLabel_words_label {label : List Char} (h : isLabel label = true) (rest : List Char) :
    dropLabel (words (label ++ ':' :: rest)) = words rest := by
  obtain ⟨q, qs, hq⟩ := List.exists_cons_of_ne_nil (pieces_ne_nil isBlank rest)
  have hfirst : words (label ++ ':' :: rest) =
      (label ++ ':' :: q) :: qs.filter fun w => !w.isEmpty := by
    unfold words
    rw [List.append_cons, pieces_append_of_not (not_isBlank_of_label h) hq,
      List.filter_cons_of_pos (by simp), ← List.append_cons]
  have hq' : words q = [q].filter fun w => !w.isEmpty := by
    unfold words
    rw [pieces_of_not (not_of_mem_pieces (hq ▸ List.mem_cons_self))]
  rw [hfirst, dropLabel, withoutLabel_label h, words_trim, hq', ← List.filter_append,
    List.singleton_append, ← hq]
  rfl

/-- Where the first word begins with a label, a trimmed text does. -/
theorem exists_label_of_words_trim {cs label t : List Char} {ws : List (List Char)}
    (h : words (trim cs) = (label ++ ':' :: t) :: ws) :
    ∃ rest, trim cs = label ++ ':' :: rest := by
  obtain ⟨bs, rest, hbs, hsplit⟩ := exists_blanks_of_words_eq_cons h
  cases bs with
  | nil => exact ⟨t ++ rest, by rw [hsplit]; simp⟩
  | cons b bs =>
    obtain ⟨c, t', htrim, hc⟩ := @exists_cons_of_trim_ne_nil cs (by rw [hsplit]; simp)
    rw [htrim] at hsplit
    rw [(List.cons.inj hsplit).1, hbs b List.mem_cons_self] at hc
    cases hc

/-- **What a raw line says, in words.** -/
theorem words_code (raw : List Char) :
    words (code raw) = dropLabel (words (withoutComment raw)) := by
  rw [← words_trim (withoutComment raw)]
  unfold code
  rcases withoutLabel_eq_self_or (trim (withoutComment raw)) with hself | ⟨label, rest, hlabel, hcs⟩
  · rcases @dropLabel_eq_self_or (words (trim (withoutComment raw)))
      fun w hw => isWord_of_mem_words hw with hdrop | ⟨label, t, ws, hlabel, hwords⟩
    · rw [hself, hdrop]
    · obtain ⟨rest, hcs⟩ := exists_label_of_words_trim hwords
      rw [hcs, withoutLabel_label hlabel, words_trim, dropLabel_words_label hlabel]
  · rw [hcs, withoutLabel_label hlabel, words_trim, dropLabel_words_label hlabel]

/-! ### Lines -/

/-- The line that words hold, if there are any. -/
def ofWords? (ws : List (List Char)) : Option Line := if ws.isEmpty then none else some (ofWords ws)

theorem code_eq_nil_iff (raw : List Char) : code raw = [] ↔ words (code raw) = [] := by
  obtain ⟨cs, hcode, -⟩ := exists_code_eq_trim raw
  refine ⟨fun h => by rw [h]; rfl, fun h => ?_⟩
  by_contra hne
  rw [hcode] at h hne
  obtain ⟨c, t, htrim, hc⟩ := exists_cons_of_trim_ne_nil hne
  have hblank := words_eq_nil_iff.mp h c (by rw [htrim]; exact List.mem_cons_self)
  rw [hc] at hblank
  cases hblank

theorem ofRaw?_eq_of_code (raw : List Char) :
    ofRaw? (String.ofList raw) = ofWords? ((words (code raw)).map lower) := by
  unfold ofRaw? ofWords?
  simp only [String.toList_ofList, parse_eq_ofWords, words_lower, List.isEmpty_iff,
    List.map_eq_nil_iff, code_eq_nil_iff raw]

/-- **A raw line is read by the words in front of its comment.** -/
theorem ofRaw?_eq_ofWords? (raw : List Char) : ofRaw? (String.ofList raw) =
    ofWords? ((dropLabel (words (withoutComment raw))).map lower) := by
  rw [ofRaw?_eq_of_code, words_code]

/-- Operands are read by the words between commas. -/
theorem operandsOf_lowered {cs : List Char} (h : words cs ≠ []) :
    operandsOf ((words cs).map lower) = ((pieces (· == ',') cs).map words).map fun ws =>
      String.ofList (joined [' '] (ws.map lower)) := by
  have hlower : words (lower cs) ≠ [] := by
    rw [words_lower, Ne, List.map_eq_nil_iff]
    exact h
  rw [← words_lower, operandsOf_words hlower, pieces_comma_lower, List.map_map, List.map_map]
  apply List.map_congr_left
  intro p _
  rw [Function.comp_apply, Function.comp_apply, spaced, words_lower]

/-! ### ASCII letters -/

@[simp] theorem toLower_toLower (c : Char) : c.toLower.toLower = c.toLower :=
  apply_toLower (by decide) c

@[simp] theorem beq_colon_toLower (c : Char) : (c.toLower == ':') = (c == ':') :=
  @apply_toLower Bool (· == ':') (by decide) c

@[simp] theorem bne_semicolon_toLower (c : Char) : (c.toLower != ';') = (c != ';') :=
  @apply_toLower Bool (· != ';') (by decide) c

@[simp] theorem isLabelStart_toLower (c : Char) : isLabelStart c.toLower = isLabelStart c :=
  apply_toLower (by decide) c

@[simp] theorem isLabelPart_toLower (c : Char) : isLabelPart c.toLower = isLabelPart c :=
  apply_toLower (by decide) c

@[simp] theorem isLabel_map_toLower (cs : List Char) :
    isLabel (cs.map Char.toLower) = isLabel cs := by
  cases cs with
  | nil => rfl
  | cons c cs =>
    have hpart : isLabelPart ∘ Char.toLower = isLabelPart := funext isLabelPart_toLower
    have hlower : Char.toLower ∘ Char.toLower = Char.toLower := funext toLower_toLower
    rw [List.map_cons, isLabel, isLabel, isLabelStart_toLower, List.all_map, hpart,
      ← List.map_cons, List.map_map, hlower]

@[simp] theorem withoutComment_map_toLower (raw : List Char) :
    withoutComment (raw.map Char.toLower) = (withoutComment raw).map Char.toLower := by
  have hsign : (· != ';') ∘ Char.toLower = (· != ';') := funext bne_semicolon_toLower
  unfold withoutComment
  rw [List.takeWhile_map, hsign]

@[simp] theorem withoutLabel_map_toLower (cs : List Char) :
    withoutLabel (cs.map Char.toLower) = (withoutLabel cs).map Char.toLower := by
  unfold withoutLabel
  rw [cut?_map beq_colon_toLower]
  cases cut? (· == ':') cs with
  | none => rfl
  | some r =>
    obtain ⟨label, rest⟩ := r
    simp only [Option.map_some, isLabel_map_toLower, trim_map isBlank_toLower]
    split <;> rfl

/-- What a raw line says does not depend on the case of ASCII letters, but for this case. -/
@[simp] theorem code_map_toLower (raw : List Char) :
    code (raw.map Char.toLower) = (code raw).map Char.toLower := by
  unfold code
  rw [withoutComment_map_toLower, trim_map isBlank_toLower, withoutLabel_map_toLower]

/-- The case of ASCII letters does not matter to a raw line. -/
@[simp] theorem ofRaw?_map_toLower (raw : List Char) :
    ofRaw? (String.ofList (raw.map Char.toLower)) = ofRaw? (String.ofList raw) := by
  have hlower : lower ∘ List.map Char.toLower = lower := funext lower_map_toLower
  rw [ofRaw?_eq_of_code, ofRaw?_eq_of_code, code_map_toLower, words_map_toLower, List.map_map,
    hlower]

end AsmPair.Line
