import AsmPair.Proofs.Text.Joined
import AsmPair.Text.Case
import Mathlib.Data.List.Basic

/-!
# The words of a text

Reading a line goes by its words only: outer blanks and runs of blanks do not matter.  A text is
tidy if it is written as its words with single spaces between them.

## Main definitions

* `IsWord` — a text that is one word.
* `Tidy` — a text with single spaces between its words.
* `Plain` — a tidy text without the characters that structure a line.

## Main results

* `words_append_blank` — a blank separates the words before it from those after it.
* `words_joined` — words are found again in the text that joins them.
* `words_trim` — outer blanks belong to no word.
* `tidy_append_space` — tidy texts put together are tidy.
-/

namespace AsmPair.Text

/-! ### Words -/

/-- A text that is one word: it is not empty and holds no blank. -/
structure IsWord (w : List Char) : Prop where
  /-- It is not empty. -/
  ne_nil : w ≠ []
  /-- It holds no blank. -/
  not_blank : ∀ c ∈ w, isBlank c = false

theorem isWord_of_mem_words {cs w : List Char} (h : w ∈ words cs) : IsWord w :=
  ⟨ne_nil_of_mem_words h, not_isBlank_of_mem_words h⟩

@[simp] theorem words_nil : words [] = [] := rfl

/-- No blank is a comma, so a list is cut at its commas whatever its blanks are. -/
theorem beq_comma_of_isBlank (c : Char) (h : isBlank c = true) : (c == ',') = false := by
  apply beq_false_of_ne
  rintro rfl
  exact absurd h (by decide)

/-- A blank separates the words before it from those after it. -/
theorem words_append_blank {c : Char} (hc : isBlank c = true) (xs ys : List Char) :
    words (xs ++ c :: ys) = words xs ++ words ys := by
  unfold words
  rw [pieces_append_cut hc, List.filter_append]

theorem words_cons_blank {c : Char} (hc : isBlank c = true) (cs : List Char) :
    words (c :: cs) = words cs := words_append_blank hc [] cs

/-- Blanks at the front belong to no word. -/
theorem words_blanks_append {bs : List Char} (hbs : ∀ b ∈ bs, isBlank b = true)
    (cs : List Char) : words (bs ++ cs) = words cs := by
  induction bs with
  | nil => rfl
  | cons b bs ih =>
    rw [List.cons_append, words_cons_blank (hbs b List.mem_cons_self),
      ih fun d hd => hbs d (List.mem_cons_of_mem b hd)]

/-- Blanks at the end belong to no word. -/
theorem words_append_blanks {bs : List Char} (hbs : ∀ b ∈ bs, isBlank b = true)
    (cs : List Char) : words (cs ++ bs) = words cs := by
  cases bs with
  | nil => rw [List.append_nil]
  | cons b bs =>
    have hrest : words bs = [] := by
      have h := words_blanks_append (fun d hd => hbs d (List.mem_cons_of_mem b hd)) []
      rwa [List.append_nil] at h
    rw [words_append_blank (hbs b List.mem_cons_self), hrest, List.append_nil]

/-- A text that begins without blanks has its first word begin this way. -/
theorem words_append_of_not_blank {xs : List Char} (hne : xs ≠ [])
    (hxs : ∀ c ∈ xs, isBlank c = false) (ys : List Char) :
    ∃ t ws, words (xs ++ ys) = (xs ++ t) :: ws := by
  obtain ⟨q, qs, hq⟩ := List.exists_cons_of_ne_nil (pieces_ne_nil isBlank ys)
  refine ⟨q, qs.filter fun w => !w.isEmpty, ?_⟩
  unfold words
  rw [pieces_append_of_not hxs hq, List.filter_cons_of_pos]
  simp [hne]

theorem words_of_isWord {w : List Char} (h : IsWord w) : words w = [w] := by
  unfold words
  rw [pieces_of_not h.not_blank, List.filter_cons_of_pos, List.filter_nil]
  simp [h.ne_nil]

/-- Words are found again in the text that joins them. -/
theorem words_joined {ws : List (List Char)} (h : ∀ w ∈ ws, IsWord w) :
    words (joined [' '] ws) = ws := by
  fun_induction joined [' '] ws with
  | case1 => rfl
  | case2 w => exact words_of_isWord (h w List.mem_cons_self)
  | case3 w v ws ih =>
    have hrest := ih fun u hu => h u (List.mem_cons_of_mem w hu)
    rw [List.append_assoc, List.singleton_append, words_append_blank rfl,
      words_of_isWord (h w List.mem_cons_self), hrest]
    rfl

/-! ### Outer blanks -/

theorem trimLeft_of_head {c : Char} (hc : isBlank c = false) (cs : List Char) :
    trimLeft (c :: cs) = c :: cs := by
  rw [trimLeft, List.dropWhile_cons_of_neg]
  simp [hc]

/-- What is trimmed at the front are blanks. -/
theorem exists_blanks_trimLeft (cs : List Char) :
    ∃ bs, (∀ b ∈ bs, isBlank b = true) ∧ cs = bs ++ trimLeft cs :=
  ⟨cs.takeWhile isBlank, List.all_eq_true.mp List.all_takeWhile,
    List.takeWhile_append_dropWhile.symm⟩

/-- What is trimmed at the end are blanks. -/
theorem exists_blanks_trimRight (cs : List Char) :
    ∃ bs, (∀ b ∈ bs, isBlank b = true) ∧ cs = trimRight cs ++ bs := by
  induction cs with
  | nil => exact ⟨[], by simp, rfl⟩
  | cons c cs ih =>
    obtain ⟨bs, hbs, heq⟩ := ih
    rw [trimRight_cons]
    split
    · next h =>
      rw [Bool.and_eq_true, List.isEmpty_iff] at h
      rw [h.1, List.nil_append] at heq
      refine ⟨c :: bs, fun b hb => ?_, by rw [heq, List.nil_append]⟩
      rcases List.mem_cons.mp hb with rfl | hb
      · exact h.2
      · exact hbs b hb
    · exact ⟨bs, hbs, congrArg (c :: ·) heq⟩

/-- Outer blanks belong to no word. -/
@[simp] theorem words_trim (cs : List Char) : words (trim cs) = words cs := by
  obtain ⟨front, hfront, hleft⟩ := exists_blanks_trimLeft cs
  obtain ⟨back, hback, hright⟩ := exists_blanks_trimRight (trimLeft cs)
  calc words (trim cs) = words (trim cs ++ back) := (words_append_blanks hback _).symm
    _ = words (trimLeft cs) := congrArg words hright.symm
    _ = words (front ++ trimLeft cs) := (words_blanks_append hfront _).symm
    _ = words cs := congrArg words hleft.symm

/-- Nothing is trimmed in front of the last character that is no blank. -/
theorem trimRight_append_cons {d : Char} (hd : isBlank d = false) (xs ys : List Char) :
    trimRight (xs ++ d :: ys) = xs ++ d :: trimRight ys := by
  induction xs with
  | nil =>
    rw [List.nil_append, trimRight_cons, hd, Bool.and_false]
    rfl
  | cons c xs ih =>
    have hne : (xs ++ d :: trimRight ys).isEmpty = false := by
      rw [List.isEmpty_eq_false_iff]
      exact List.append_ne_nil_of_right_ne_nil _ (List.cons_ne_nil _ _)
    rw [List.cons_append, trimRight_cons, ih, hne, Bool.false_and]
    rfl

/-- A trimmed text is a part of the text. -/
theorem infix_trim (cs : List Char) : trim cs <:+: cs := by
  obtain ⟨back, -, hright⟩ := exists_blanks_trimRight (trimLeft cs)
  have hfront : trim cs <+: trimLeft cs := ⟨back, hright.symm⟩
  exact hfront.isInfix.trans (List.dropWhile_suffix isBlank).isInfix

/-- A trimmed text does not begin with a blank. -/
theorem exists_cons_of_trim_ne_nil {cs : List Char} (h : trim cs ≠ []) :
    ∃ c t, trim cs = c :: t ∧ isBlank c = false := by
  have hleft : trimLeft cs ≠ [] := by
    intro hnil
    rw [trim, hnil] at h
    exact h rfl
  obtain ⟨c, t, heq⟩ := List.exists_cons_of_ne_nil hleft
  have hc : isBlank c = false := by
    have hdrop : cs.dropWhile isBlank = c :: t := heq
    have hhead := List.head?_dropWhile_not isBlank cs
    rw [hdrop] at hhead
    exact hhead
  refine ⟨c, trimRight t, ?_, hc⟩
  rw [trim, heq]
  exact trimRight_append_cons hc [] t

/-! ### Tidy texts -/

/-- A text with single spaces between its words and no other blanks. -/
def Tidy (cs : List Char) : Prop := spaced cs = cs

theorem tidy_joined {ws : List (List Char)} (h : ∀ w ∈ ws, IsWord w) :
    Tidy (joined [' '] ws) := by
  unfold Tidy spaced
  rw [words_joined h]

theorem tidy_spaced (cs : List Char) : Tidy (spaced cs) :=
  tidy_joined fun _ hw => isWord_of_mem_words hw

theorem tidy_of_isWord {w : List Char} (h : IsWord w) : Tidy w :=
  tidy_joined fun _ hv => List.mem_singleton.mp hv ▸ h

theorem Tidy.joined_words {cs : List Char} (h : Tidy cs) : joined [' '] (words cs) = cs := h

/-- The blanks of joined words are the spaces between them. -/
theorem eq_space_of_mem_joined {ws : List (List Char)} (hws : ∀ w ∈ ws, IsWord w) {c : Char}
    (hc : c ∈ joined [' '] ws) (hblank : isBlank c = true) : c = ' ' := by
  rcases mem_joined hc with hc | ⟨w, hw, hc⟩
  · exact List.mem_singleton.mp hc
  · have hnot := (hws w hw).not_blank c hc
    rw [hblank] at hnot
    cases hnot

theorem Tidy.eq_space_of_isBlank {cs : List Char} (h : Tidy cs) {c : Char} (hc : c ∈ cs)
    (hblank : isBlank c = true) : c = ' ' := by
  rw [← h.joined_words] at hc
  exact eq_space_of_mem_joined (fun _ hw => isWord_of_mem_words hw) hc hblank

theorem Tidy.words_ne_nil {cs : List Char} (h : Tidy cs) (hne : cs ≠ []) : words cs ≠ [] := by
  intro hws
  rw [← h.joined_words, hws] at hne
  exact hne rfl

theorem Tidy.exists_last_word {cs : List Char} (h : Tidy cs) (hne : cs ≠ []) :
    ∃ ws w, words cs = ws ++ [w] :=
  (List.eq_nil_or_concat' (words cs)).resolve_left (h.words_ne_nil hne)

/-- Two tidy texts with a space between them. -/
theorem tidy_append_space {xs ys : List Char} (hxs : Tidy xs) (hys : Tidy ys) (hx : xs ≠ [])
    (hy : ys ≠ []) : Tidy (xs ++ ' ' :: ys) := by
  unfold Tidy spaced
  rw [words_append_blank rfl, joined_append (hxs.words_ne_nil hx) (hys.words_ne_nil hy),
    hxs.joined_words, hys.joined_words, List.append_assoc, List.singleton_append]

/-- A tidy text ends without a blank. -/
theorem Tidy.trimRight_eq {cs : List Char} (h : Tidy cs) : trimRight cs = cs := by
  by_cases hne : cs = []
  · rw [hne, trimRight_nil]
  obtain ⟨ws, w, hws⟩ := h.exists_last_word hne
  have hmem : w ∈ words cs := by
    rw [hws]
    exact List.mem_append_right _ List.mem_cons_self
  have hw : IsWord w := isWord_of_mem_words hmem
  obtain ⟨v, d, rfl⟩ := (List.eq_nil_or_concat' w).resolve_left hw.ne_nil
  have hd : isBlank d = false := hw.not_blank d (List.mem_append_right _ List.mem_cons_self)
  have heq : cs = joined [' '] (ws ++ [v]) ++ [d] := by
    rw [joined_concat_append, ← hws, h.joined_words]
  rw [heq, trimRight_append_cons hd, trimRight_nil]

/-- A tidy text begins without a blank. -/
theorem Tidy.trimLeft_eq {cs : List Char} (h : Tidy cs) : trimLeft cs = cs := by
  by_cases hne : cs = []
  · rw [hne]
    rfl
  obtain ⟨w, ws, hws⟩ := List.exists_cons_of_ne_nil (h.words_ne_nil hne)
  have hmem : w ∈ words cs := by
    rw [hws]
    exact List.mem_cons_self
  have hw : IsWord w := isWord_of_mem_words hmem
  obtain ⟨c, v, rfl⟩ := List.exists_cons_of_ne_nil hw.ne_nil
  have hc : isBlank c = false := hw.not_blank c List.mem_cons_self
  obtain ⟨t, ht⟩ : ∃ t, cs = c :: t := by
    rw [← h.joined_words, hws]
    cases ws with
    | nil => exact ⟨v, rfl⟩
    | cons u us => exact ⟨v ++ [' '] ++ joined [' '] (u :: us), rfl⟩
  rw [ht, trimLeft_of_head hc]

theorem Tidy.trim_eq {cs : List Char} (h : Tidy cs) : trim cs = cs := by
  rw [trim, h.trimLeft_eq, h.trimRight_eq]

/-! ### Plain texts -/

/-- An ASCII character that neither ends an operand nor starts a comment. -/
def isPlain (c : Char) : Bool := c.toNat < 0x80 && c != ',' && c != ';'

/-- A tidy text of plain characters that is not empty. -/
structure Plain (cs : List Char) : Prop where
  /-- It has single spaces between its words. -/
  tidy : Tidy cs
  /-- It is not empty. -/
  ne_nil : cs ≠ []
  /-- Its characters are plain. -/
  chars : ∀ c ∈ cs, isPlain c = true

instance (cs : List Char) : Decidable (Tidy cs) :=
  inferInstanceAs (Decidable (spaced cs = cs))

instance (cs : List Char) : Decidable (Plain cs) :=
  decidable_of_iff (Tidy cs ∧ cs ≠ [] ∧ cs.all isPlain = true)
    ⟨fun ⟨h, h', h''⟩ => ⟨h, h', List.all_eq_true.mp h''⟩,
      fun h => ⟨h.tidy, h.ne_nil, List.all_eq_true.mpr h.chars⟩⟩

theorem isPlain_iff {c : Char} : isPlain c = true ↔ c.toNat < 0x80 ∧ c ≠ ',' ∧ c ≠ ';' := by
  simp only [isPlain, Bool.and_eq_true, decide_eq_true_eq, bne_iff_ne, ne_eq, and_assoc]

theorem Plain.ascii {cs : List Char} (h : Plain cs) : ∀ c ∈ cs, c.toNat < 0x80 :=
  fun c hc => (isPlain_iff.mp (h.chars c hc)).1

theorem Plain.not_comma {cs : List Char} (h : Plain cs) : ',' ∉ cs :=
  fun hc => (isPlain_iff.mp (h.chars ',' hc)).2.1 rfl

theorem Plain.not_hasSeparator {cs : List Char} (h : Plain cs) : hasSeparator cs = false :=
  not_hasSeparator_of_no_comma h.not_comma

/-- A single word of plain characters. -/
theorem plain_of_isWord {w : List Char} (hw : IsWord w) (h : ∀ c ∈ w, isPlain c = true) :
    Plain w := ⟨tidy_of_isWord hw, hw.ne_nil, h⟩

/-- Two plain texts with a space between them. -/
theorem plain_append_space {xs ys : List Char} (hxs : Plain xs) (hys : Plain ys) :
    Plain (xs ++ ' ' :: ys) where
  tidy := tidy_append_space hxs.tidy hys.tidy hxs.ne_nil hys.ne_nil
  ne_nil := List.append_ne_nil_of_left_ne_nil hxs.ne_nil _
  chars := by
    intro c hc
    rcases List.mem_append.mp hc with hc | hc
    · exact hxs.chars c hc
    · rcases List.mem_cons.mp hc with rfl | hc
      · rfl
      · exact hys.chars c hc

end AsmPair.Text
