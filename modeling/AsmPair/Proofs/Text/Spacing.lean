import AsmPair.Proofs.Text.Words

/-!
# Pieces of spaced texts

Collapsing the blanks of a text and cutting it at signs can be done in either order: the trimmed
pieces of the collapsed text are the collapsed pieces of the text.

## Main results

* `flatten_words` — the words of a text are its characters without the blanks.
* `map_trim_pieces_spaced` — the two orders agree.
-/

namespace AsmPair.Text

/-! ### Characters of pieces and words -/

@[simp] theorem flatten_consFirst (c : Char) (ps : List (List Char)) :
    (consFirst c ps).flatten = c :: ps.flatten := by
  cases ps <;> rfl

/-- Cutting a text loses the characters that it is cut at. -/
@[simp] theorem flatten_pieces (p : Char → Bool) (cs : List Char) :
    (pieces p cs).flatten = cs.filter fun c => !p c := by
  induction cs with
  | nil => rfl
  | cons c cs ih =>
    rw [pieces_cons]
    split
    · next hc => rw [List.flatten_cons, List.nil_append, ih, List.filter_cons_of_neg (by simp [hc])]
    · next hc => rw [flatten_consFirst, ih, List.filter_cons_of_pos (by simp [hc])]

/-- The words of a text are its characters without the blanks. -/
@[simp] theorem flatten_words (cs : List Char) :
    (words cs).flatten = cs.filter fun c => !isBlank c := by
  unfold words
  rw [List.flatten_filter_not_isEmpty, flatten_pieces]

theorem mem_of_mem_words {cs w : List Char} (hw : w ∈ words cs) {c : Char} (hc : c ∈ w) :
    c ∈ cs := by
  have hflat : c ∈ (words cs).flatten := List.mem_flatten.mpr ⟨w, hw, hc⟩
  rw [flatten_words] at hflat
  exact List.mem_of_mem_filter hflat

/-- Spacing a text adds nothing but spaces. -/
theorem mem_spaced {cs : List Char} {c : Char} (h : c ∈ spaced cs) : c = ' ' ∨ c ∈ cs := by
  rcases mem_joined h with h | ⟨w, hw, hc⟩
  · exact Or.inl (List.mem_singleton.mp h)
  · exact Or.inr (mem_of_mem_words hw hc)

theorem words_eq_nil_iff {cs : List Char} : words cs = [] ↔ ∀ c ∈ cs, isBlank c = true := by
  constructor
  · intro h c hc
    have hflat := flatten_words cs
    rw [h, List.flatten_nil, eq_comm, List.filter_eq_nil_iff] at hflat
    simpa using hflat c hc
  · intro h
    simpa using words_append_blanks h []

/-- A text with words has words wherever it stands. -/
theorem words_ne_nil_of_part {xs ys : List Char} (h : xs <:+: ys) (hx : words xs ≠ []) :
    words ys ≠ [] := by
  intro hy
  exact hx (words_eq_nil_iff.mpr fun c hc => words_eq_nil_iff.mp hy c (h.subset hc))

/-- A piece that comes first stands at the front of the text. -/
theorem prefix_of_pieces {p : Char → Bool} {cs q : List Char} {qs : List (List Char)}
    (h : pieces p cs = q :: qs) : q <+: cs := by
  induction cs generalizing q qs with
  | nil =>
    cases h
    exact List.nil_prefix
  | cons c cs ih =>
    rw [pieces_cons] at h
    split at h
    · cases h
      exact List.nil_prefix
    · obtain ⟨r, rs, hr⟩ := List.exists_cons_of_ne_nil (pieces_ne_nil p cs)
      rw [hr, consFirst_cons] at h
      cases h
      exact List.cons_prefix_cons.mpr ⟨rfl, ih hr⟩

/-- A text begins with its first word, behind blanks. -/
theorem exists_blanks_of_words_eq_cons {cs w : List Char} {ws : List (List Char)}
    (h : words cs = w :: ws) :
    ∃ bs rest, (∀ b ∈ bs, isBlank b = true) ∧ cs = bs ++ (w ++ rest) := by
  obtain ⟨bs, hbs, hsplit⟩ := exists_blanks_trimLeft cs
  rw [hsplit, words_blanks_append hbs] at h
  have hhead := List.head?_dropWhile_not isBlank cs
  cases htrim : trimLeft cs with
  | nil =>
    rw [htrim] at h
    cases h
  | cons c t =>
    have hdrop : cs.dropWhile isBlank = c :: t := htrim
    rw [hdrop] at hhead
    have hc : isBlank c = false := hhead
    obtain ⟨q, qs, hq⟩ := List.exists_cons_of_ne_nil (pieces_ne_nil isBlank t)
    have hfirst : words (c :: t) = (c :: q) :: qs.filter fun w => !w.isEmpty := by
      unfold words
      rw [pieces_cons, hc, if_neg Bool.false_ne_true, hq, consFirst_cons,
        List.filter_cons_of_pos rfl]
    rw [htrim, hfirst] at h
    obtain ⟨rfl, -⟩ := List.cons.inj h
    obtain ⟨rest, rfl⟩ := prefix_of_pieces hq
    exact ⟨bs, rest, hbs, by rw [hsplit, htrim, List.cons_append]⟩

/-! ### Texts that begin without a blank -/

/-- A text that does not begin with a blank. -/
def BeginsFirm (cs : List Char) : Prop := ∀ c ∈ cs.head?, isBlank c = false

@[simp] theorem beginsFirm_cons {c : Char} {cs : List Char} :
    BeginsFirm (c :: cs) ↔ isBlank c = false := by
  simp [BeginsFirm]

theorem exists_blank_of_not_beginsFirm {cs : List Char} (h : ¬ BeginsFirm cs) :
    ∃ d ds, cs = d :: ds ∧ isBlank d = true := by
  cases cs with
  | nil => exact absurd (by simp [BeginsFirm]) h
  | cons d ds =>
    rw [beginsFirm_cons, Bool.not_eq_false] at h
    exact ⟨d, ds, rfl, h⟩

theorem BeginsFirm.trimLeft_eq {cs : List Char} (h : BeginsFirm cs) : trimLeft cs = cs := by
  cases cs with
  | nil => rfl
  | cons c cs => exact trimLeft_of_head (beginsFirm_cons.mp h) cs

theorem BeginsFirm.of_isPrefix {q cs : List Char} (h : BeginsFirm cs) (hq : q <+: cs) :
    BeginsFirm q := by
  obtain ⟨t, rfl⟩ := hq
  cases q with
  | nil => simp [BeginsFirm]
  | cons c q => exact beginsFirm_cons.mpr (beginsFirm_cons.mp h)

theorem Tidy.beginsFirm {cs : List Char} (h : Tidy cs) : BeginsFirm cs := by
  cases cs with
  | nil => simp [BeginsFirm]
  | cons c cs =>
    rw [beginsFirm_cons, Bool.eq_false_iff]
    intro hc
    -- a blank in front would be trimmed
    have hleft := h.trimLeft_eq
    rw [trimLeft, List.dropWhile_cons_of_pos hc] at hleft
    have hlen := congrArg List.length hleft
    have hle := (List.dropWhile_suffix isBlank (l := cs)).length_le
    rw [List.length_cons] at hlen
    omega

/-! ### Spacing step by step -/

theorem spaced_cons_blank {c : Char} (hc : isBlank c = true) (cs : List Char) :
    spaced (c :: cs) = spaced cs := by
  unfold spaced
  rw [words_cons_blank hc]

theorem isWord_singleton {c : Char} (hc : isBlank c = false) : IsWord [c] :=
  ⟨List.cons_ne_nil c [], fun _ hd => List.mem_singleton.mp hd ▸ hc⟩

/-- Within a word nothing is collapsed. -/
theorem spaced_cons_of_beginsFirm {c : Char} (hc : isBlank c = false) {cs : List Char}
    (h : BeginsFirm cs) : spaced (c :: cs) = c :: spaced cs := by
  cases cs with
  | nil => exact tidy_of_isWord (isWord_singleton hc)
  | cons d cs =>
    have hd := beginsFirm_cons.mp h
    obtain ⟨q, qs, hq⟩ := List.exists_cons_of_ne_nil (pieces_ne_nil isBlank cs)
    unfold spaced words
    simp only [pieces_cons, hc, hd, hq, consFirst_cons, Bool.false_eq_true, if_false,
      List.filter_cons, List.isEmpty_cons, Bool.not_false, if_true]
    cases qs.filter fun w => !w.isEmpty <;> rfl

/-- The blanks after a word are collapsed to one space, or dropped at the end. -/
theorem spaced_cons_blank_cons {c d : Char} (hc : isBlank c = false) (hd : isBlank d = true)
    (cs : List Char) : spaced (c :: d :: cs) = c :: trimRight (' ' :: spaced cs) := by
  have hwords : words (c :: d :: cs) = [c] :: words cs := by
    rw [← List.singleton_append, words_append_blank hd, words_of_isWord (isWord_singleton hc)]
    rfl
  rw [trimRight_cons, (tidy_spaced cs).trimRight_eq]
  unfold spaced
  rw [hwords]
  cases h : words cs with
  | nil => rfl
  | cons w ws =>
    have hne : (joined [' '] (w :: ws)).isEmpty = false := by
      rw [List.isEmpty_eq_false_iff]
      intro hnil
      have hw : w <:+: joined [' '] (w :: ws) := infix_joined List.mem_cons_self
      rw [hnil] at hw
      exact ne_nil_of_mem_words (h ▸ List.mem_cons_self) (List.infix_nil.mp hw)
    rw [hne]
    rfl

/-! ### Spacing and cutting -/

/-- Nothing is trimmed in front of a character that is no blank. -/
theorem trim_cons {c : Char} (hc : isBlank c = false) (cs : List Char) :
    trim (c :: cs) = c :: trimRight cs := by
  rw [trim, trimLeft_of_head hc, trimRight_cons, hc, Bool.and_false]
  rfl

/-- A space in front of a text stands in front of its first piece, and both are dropped where
nothing follows. -/
theorem pieces_trimRight_space {p : Char → Bool} (hspace : p ' ' = false) {cs q : List Char}
    {qs : List (List Char)} (hcs : Tidy cs) (h : pieces p cs = q :: qs) :
    ∃ q', pieces p (trimRight (' ' :: cs)) = q' :: qs ∧ trim q' = trim q ∧
      trimRight q' = trimRight (' ' :: q) := by
  rw [trimRight_cons, hcs.trimRight_eq]
  split
  · next hnone =>
    rw [Bool.and_eq_true, List.isEmpty_iff] at hnone
    rw [hnone.1, pieces_nil] at h
    obtain ⟨rfl, rfl⟩ := List.cons.inj h
    exact ⟨[], rfl, rfl, rfl⟩
  · exact ⟨' ' :: q, by rw [pieces_cons, hspace, h]; rfl, rfl, rfl⟩

/-- A character that cuts nothing belongs to the first piece. -/
theorem exists_cons_of_pieces_cons {p : Char → Bool} {c : Char} {cs q : List Char}
    {qs : List (List Char)} (hc : p c = false) (h : pieces p (c :: cs) = q :: qs) :
    ∃ t, q = c :: t := by
  obtain ⟨t, ts, ht⟩ := List.exists_cons_of_ne_nil (pieces_ne_nil p cs)
  rw [pieces_cons, hc, if_neg Bool.false_ne_true, ht, consFirst_cons] at h
  exact ⟨t, (List.cons.inj h).1.symm⟩

/-- **The trimmed pieces of a spaced text are the spaced pieces of the text.** -/
theorem map_trim_pieces_spaced {p : Char → Bool} (hp : ∀ c, isBlank c = true → p c = false)
    (cs : List Char) : (pieces p (spaced cs)).map trim = (pieces p cs).map spaced := by
  induction cs with
  | nil => rfl
  | cons c cs ih =>
    obtain ⟨q, qs, hq⟩ := List.exists_cons_of_ne_nil (pieces_ne_nil p (spaced cs))
    obtain ⟨r, rs, hr⟩ := List.exists_cons_of_ne_nil (pieces_ne_nil p cs)
    rw [hq, hr, List.map_cons, List.map_cons] at ih
    obtain ⟨hfirst, hrest⟩ := List.cons.inj ih
    -- a spaced text begins without a blank, and so does its first piece
    have hqfirm : BeginsFirm q := (tidy_spaced cs).beginsFirm.of_isPrefix (prefix_of_pieces hq)
    have hqright : trimRight q = spaced r := by rw [← hfirst, trim, hqfirm.trimLeft_eq]
    by_cases hc : isBlank c = true
    · rw [spaced_cons_blank hc, hq, pieces_cons, hp c hc, if_neg Bool.false_ne_true, hr,
        consFirst_cons, List.map_cons, List.map_cons, spaced_cons_blank hc, hfirst, hrest]
    rw [Bool.not_eq_true] at hc
    by_cases hcs : BeginsFirm cs
    -- `c` goes on with the word after it
    · have hrfirm : BeginsFirm r := hcs.of_isPrefix (prefix_of_pieces hr)
      rw [spaced_cons_of_beginsFirm hc hcs, pieces_cons, pieces_cons, hq, hr]
      split
      · rw [List.map_cons, List.map_cons, List.map_cons, List.map_cons, hfirst, hrest]
        rfl
      · rw [consFirst_cons, consFirst_cons, List.map_cons, List.map_cons, trim_cons hc, hqright,
          hrest, spaced_cons_of_beginsFirm hc hrfirm]
    -- `c` ends a word
    · obtain ⟨d, ds, rfl, hd⟩ := exists_blank_of_not_beginsFirm hcs
      obtain ⟨t, rfl⟩ := exists_cons_of_pieces_cons (hp d hd) hr
      rw [spaced_cons_blank hd] at hq hqright
      obtain ⟨q', hq', htrim, hright⟩ := pieces_trimRight_space (hp ' ' rfl) (tidy_spaced ds) hq
      have hgap : trimRight (' ' :: q) = trimRight (' ' :: spaced t) := by
        rw [trimRight_cons, trimRight_cons, (tidy_spaced t).trimRight_eq, hqright]
      rw [spaced_cons_blank_cons hc hd, pieces_cons, pieces_cons, hr, hq']
      split
      · rw [List.map_cons, List.map_cons, List.map_cons, List.map_cons, htrim, hfirst, hrest]
        rfl
      · rw [consFirst_cons, consFirst_cons, List.map_cons, List.map_cons, trim_cons hc, hright,
          hgap, hrest, spaced_cons_blank_cons hc hd]

end AsmPair.Text
