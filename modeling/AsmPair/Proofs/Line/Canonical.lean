import AsmPair.Proofs.Line.Reading
import AsmPair.Proofs.Line.Text
import AsmPair.Proofs.Text.Lowering

/-!
# Canonical form

The text of a line that was read is read as this line again: its words split at the same place, its
operands are cut at the same commas although some may be empty, and its letters are lower case
already.

## Main results

* `mem_text_ofWords` — what the text of a line consists of.
* `ofWords_words_text` — the words of the text make the same line.
* `parse_text` — the text of a line that was read is read as this line.
* `parse_is_canonical` — reading and writing lines agree.
-/

namespace AsmPair.Line

open Text

/-! ### Where the mnemonic ends -/

theorem splitMnemonic_fst_ne_nil {ws : List (List Char)} (h : ws ≠ []) :
    (splitMnemonic ws).1 ≠ [] := by
  fun_cases splitMnemonic ws with
  | case1 => exact absurd rfl h
  | case2 w => exact List.cons_ne_nil w []
  | case3 w v ws hw r => exact List.cons_ne_nil w r.1
  | case4 w v ws hw => exact List.cons_ne_nil w []

/-- What follows the mnemonic does not move its end, as long as something follows it. -/
theorem splitMnemonic_fst_append {ws rest : List (List Char)}
    (h : rest = [] ↔ (splitMnemonic ws).2 = []) :
    splitMnemonic ((splitMnemonic ws).1 ++ rest) = ((splitMnemonic ws).1, rest) := by
  fun_induction splitMnemonic ws with
  | case1 =>
    rw [h.mpr rfl]
    rfl
  | case2 w =>
    rw [h.mpr rfl]
    rfl
  | case3 w v ws hw r ih =>
    have hr : r.1 ≠ [] := splitMnemonic_fst_ne_nil (List.cons_ne_nil v ws)
    rw [List.cons_append,
      splitMnemonic_cons_of_lead hw (List.append_ne_nil_of_left_ne_nil hr rest), ih h]
  | case4 w v ws hw =>
    rw [List.singleton_append, splitMnemonic_cons_of_not_lead (Bool.eq_false_iff.mpr hw)]

/-! ### The operands -/

section Words

variable {ws : List (List Char)}

theorem operandsOf_eq (hws : ∀ w ∈ ws, IsWord w) (hne : ws ≠ []) :
    operandsOf ws =
      (pieces (· == ',') (joined [' '] ws)).map fun p => String.ofList (spaced p) := by
  have h := @operandsOf_words (joined [' '] ws) (by rwa [words_joined hws])
  rwa [words_joined hws] at h

/-- An operand has single spaces between its words, and its characters are none but theirs. -/
theorem chars_of_mem_operandsOf (hws : ∀ w ∈ ws, IsWord w) {op : String} (h : op ∈ operandsOf ws) :
    Tidy op.toList ∧ ',' ∉ op.toList ∧ ∀ c ∈ op.toList, c = ' ' ∨ ∃ w ∈ ws, c ∈ w := by
  have hne : ws ≠ [] := by
    rintro rfl
    cases h
  rw [operandsOf_eq hws hne] at h
  obtain ⟨p, hp, rfl⟩ := List.mem_map.mp h
  rw [String.toList_ofList]
  refine ⟨tidy_spaced p, fun hc => ?_, fun c hc => ?_⟩
  · rcases mem_spaced hc with hc | hc
    · exact absurd hc (by decide)
    · exact absurd (not_of_mem_pieces hp ',' hc) (by decide)
  · refine (mem_spaced hc).elim Or.inl fun hc => ?_
    -- a piece stands in the joined words, so its characters come from a word or are spaces
    have hjoined : c ∈ joined [' '] ws := by
      have hflat : c ∈ (pieces (· == ',') (joined [' '] ws)).flatten :=
        List.mem_flatten.mpr ⟨p, hp, hc⟩
      rw [flatten_pieces] at hflat
      exact List.mem_of_mem_filter hflat
    exact (mem_joined hjoined).imp_left List.mem_singleton.mp

/-- The list of the operands has words: it has a comma, or it is the one operand. -/
theorem words_listed_operandsOf_eq_nil (hws : ∀ w ∈ ws, IsWord w) :
    words (listed ((operandsOf ws).map String.toList)) = [] ↔ ws = [] := by
  refine ⟨fun hnil => ?_, fun h => by rw [h]; rfl⟩
  by_contra hne
  rw [operandsOf_eq hws hne, List.map_map] at hnil
  by_cases hcomma : ',' ∈ joined [' '] ws
  · obtain ⟨xs, ys, hcut⟩ := List.append_of_mem hcomma
    rw [hcut, pieces_append_cut rfl, List.map_append] at hnil
    unfold listed at hnil
    rw [joined_append (by simp [pieces_ne_nil]) (by simp [pieces_ne_nil])] at hnil
    have hblank := words_eq_nil_iff.mp hnil ',' (by simp)
    exact absurd hblank (by decide)
  · rw [pieces_of_not (beq_eq_false_of_not_mem hcomma), List.map_singleton, Function.comp_apply,
      String.toList_ofList] at hnil
    unfold listed at hnil
    rw [joined_singleton, tidy_joined hws, words_joined hws] at hnil
    exact hne hnil

/-- Operands are read again from the list that they are written as. -/
theorem operandsOf_words_listed_operandsOf (hws : ∀ w ∈ ws, IsWord w) :
    operandsOf (words (listed ((operandsOf ws).map String.toList))) = operandsOf ws := by
  by_cases hne : ws = []
  · rw [hne]
    rfl
  rw [operandsOf_words_listed _ fun h => hne ((words_listed_operandsOf_eq_nil hws).mp h),
    List.map_map]
  · simp [Function.comp_def]
  · intro p hp
    obtain ⟨op, hop, rfl⟩ := List.mem_map.mp hp
    obtain ⟨htidy, hcomma, -⟩ := chars_of_mem_operandsOf hws hop
    exact ⟨htidy, hcomma⟩

/-! ### The text of a line -/

theorem mem_of_mem_splitMnemonic {w : List Char}
    (h : w ∈ (splitMnemonic ws).1 ∨ w ∈ (splitMnemonic ws).2) : w ∈ ws := by
  rw [← splitMnemonic_append ws]
  exact List.mem_append.mpr h

theorem isWord_splitMnemonic (hws : ∀ w ∈ ws, IsWord w) :
    (∀ w ∈ (splitMnemonic ws).1, IsWord w) ∧ ∀ w ∈ (splitMnemonic ws).2, IsWord w :=
  ⟨fun w hw => hws w (mem_of_mem_splitMnemonic (Or.inl hw)),
    fun w hw => hws w (mem_of_mem_splitMnemonic (Or.inr hw))⟩

theorem toList_mnemonic_ofWords (ws : List (List Char)) :
    (ofWords ws).mnemonic.toList = joined [' '] (splitMnemonic ws).1 := by
  rw [ofWords, mnemonic_ofParts, String.toList_ofList]

theorem operands_ofWords (hws : ∀ w ∈ ws, IsWord w) :
    (ofWords ws).operands = operandsOf (splitMnemonic ws).2 := by
  apply operands_ofParts
  intro op hop
  have hrest := (isWord_splitMnemonic hws).2
  exact not_hasSeparator_of_no_comma (chars_of_mem_operandsOf hrest hop).2.1

/-- The text of a line consists of the characters of its words, of spaces and of commas. -/
theorem mem_text_ofWords (hws : ∀ w ∈ ws, IsWord w) {c : Char}
    (h : c ∈ (ofWords ws).text.toList) : c ∈ [',', ' '] ∨ ∃ w ∈ ws, c ∈ w := by
  have hspace : c = ' ' → c ∈ [',', ' '] := by
    rintro rfl
    decide
  rcases mem_text h with h | h | ⟨op, hop, hc⟩
  · exact Or.inl h
  · rw [toList_mnemonic_ofWords] at h
    rcases mem_joined h with h | ⟨w, hw, hc⟩
    · exact Or.inl (hspace (List.mem_singleton.mp h))
    · exact Or.inr ⟨w, mem_of_mem_splitMnemonic (Or.inl hw), hc⟩
  · rw [operands_ofWords hws] at hop
    have hrest := (isWord_splitMnemonic hws).2
    rcases (chars_of_mem_operandsOf hrest hop).2.2 c hc with hc | ⟨w, hw, hc⟩
    · exact Or.inl (hspace hc)
    · exact Or.inr ⟨w, mem_of_mem_splitMnemonic (Or.inr hw), hc⟩

/-- The words of the text are those of the mnemonic and those of the operand list. -/
theorem words_text_ofWords (hws : ∀ w ∈ ws, IsWord w) :
    words (ofWords ws).text.toList = (splitMnemonic ws).1 ++
      words (listed ((operandsOf (splitMnemonic ws).2).map String.toList)) := by
  have hmnemonic : words (ofWords ws).mnemonic.toList = (splitMnemonic ws).1 := by
    rw [toList_mnemonic_ofWords]
    exact words_joined (isWord_splitMnemonic hws).1
  by_cases hnil : (ofWords ws).operands = []
  · rw [text_of_nil hnil, hmnemonic, ← operands_ofWords hws, hnil]
    exact (List.append_nil _).symm
  · rw [toList_text_of_ne_nil hnil, words_append_blank rfl, hmnemonic, operands_ofWords hws]

/-- **The words of the text make the same line.** -/
theorem ofWords_words_text (hws : ∀ w ∈ ws, IsWord w) :
    ofWords (words (ofWords ws).text.toList) = ofWords ws := by
  have hrest := (isWord_splitMnemonic hws).2
  rw [words_text_ofWords hws]
  unfold ofWords
  simp only [splitMnemonic_fst_append (words_listed_operandsOf_eq_nil hrest),
    operandsOf_words_listed_operandsOf hrest]

end Words

/-! ### Lines that were read -/

theorem isLowered_text_parse (raw : String) : ∀ c ∈ (parse raw).text.toList, IsLowered c := by
  intro c hc
  rw [parse_eq_ofWords] at hc
  rcases mem_text_ofWords (fun _ hw => isWord_of_mem_words hw) hc with hc | ⟨w, hw, hc⟩
  · have hsigns : ∀ d ∈ [',', ' '], IsLowered d := List.all_iff_forall_prop.mp (by decide +kernel)
    exact hsigns c hc
  · exact isLowered_of_mem_lower (mem_of_mem_words hw hc)

/-- **The text of a line that was read is read as this line.** -/
@[simp] theorem parse_text (raw : String) : parse (parse raw).text = parse raw := by
  rw [parse_eq_ofWords (parse raw).text, lower_of_isLowered (isLowered_text_parse raw),
    parse_eq_ofWords raw, ofWords_words_text fun _ hw => isWord_of_mem_words hw]

theorem operands_parse (raw : String) :
    ∀ op ∈ (parse raw).operands, Tidy op.toList ∧ ',' ∉ op.toList := by
  have hwords : ∀ w ∈ words (lower raw.toList), IsWord w := fun _ hw => isWord_of_mem_words hw
  rw [parse_eq_ofWords, operands_ofWords hwords]
  intro op hop
  obtain ⟨htidy, hcomma, -⟩ := chars_of_mem_operandsOf (isWord_splitMnemonic hwords).2 hop
  exact ⟨htidy, hcomma⟩

/-- **Lines are canonical.**  The text of a line that was read is read as this line, and its parts
make this line, so its text tells a line that was read from all others.  A mnemonic and operands
without separators are the parts of the line that they make. -/
theorem parse_is_canonical :
    (∀ raw, parse (parse raw).text = parse raw ∧
      ofParts (parse raw).mnemonic (parse raw).operands = parse raw ∧
        ∀ op ∈ (parse raw).operands, ',' ∉ op.toList) ∧
    (∀ raw raw', (parse raw).text = (parse raw').text → parse raw = parse raw') ∧
    ∀ (m : String) (ops : List String), (∀ op ∈ ops, hasSeparator op.toList = false) →
      (ofParts m ops).mnemonic = m ∧ (ofParts m ops).operands = ops := by
  refine ⟨fun raw => ⟨parse_text raw, ofParts_eta _, fun op hop => (operands_parse raw op hop).2⟩,
    fun raw raw' htext => ?_, fun m ops hops => ⟨mnemonic_ofParts m ops, operands_ofParts hops⟩⟩
  rw [← parse_text raw, htext, parse_text raw']

/-- A lock word belongs to the mnemonic, empty operands are kept, and a comma without a space may
stand in an operand. -/
theorem parse_is_canonical_with_empty_operands :
    (parse "LOCK\tMov ,Ax,, ").operands = ["", "ax", "", ""] ∧
      parse "lock mov , ax, , " = parse "LOCK\tMov ,Ax,, " ∧
        parse "Lock MOV ,aX , , " = parse "LOCK\tMov ,Ax,, " ∧
          (ofParts "mov" ["a,", " b"]).operands = ["a,", " b"] := by
  have htext : (parse "LOCK\tMov ,Ax,, ").text = "lock mov , ax, , " := by decide +kernel
  have hsame : (parse "Lock MOV ,aX , , ").text = (parse "LOCK\tMov ,Ax,, ").text := by
    decide +kernel
  obtain ⟨hread, htell, hparts⟩ := parse_is_canonical
  exact ⟨by decide +kernel, htext ▸ (hread _).1, htell _ _ hsame, (hparts _ _ (by decide)).2⟩

end AsmPair.Line
