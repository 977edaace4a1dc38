import AsmPair.Proofs.Text.Words

/-!
# Letter case and words

Neither lowering nor raising the letters of a text makes or removes a blank, so the words of the
text stay apart where they were.

## Main results

* `not_mem_map_toLower`, `count_map_toLower` — signs stay and none are made.
* `words_map_toLower` — the words of a lowered ASCII text.
* `tidy_map_toLower` — a tidy text is tidy when lowered.
* `tidy_upper` — a tidy text is tidy when raised, whatever its letters become.
-/

namespace AsmPair.Text

/-! ### ASCII letters -/

/-- What holds of the first 128 characters holds of every ASCII character. -/
theorem forall_ascii {P : Char → Prop} (h : ∀ n < 0x80, P (Char.ofNat n)) {c : Char}
    (hc : c.toNat < 0x80) : P c := by
  have hP := h c.toNat hc
  rwa [Char.ofNat_toNat] at hP

theorem toLower_of_not_ascii {c : Char} (hc : ¬ c.toNat < 0x80) : c.toLower = c := by
  unfold Char.toLower
  rw [dif_neg]
  rintro ⟨-, h⟩
  have hZ : c.toNat ≤ 90 := h
  omega

/-- What does not tell the two cases of the ASCII letters apart does not see them lowered. -/
theorem apply_toLower {α : Type} {f : Char → α}
    (h : ∀ n < 0x80, f (Char.ofNat n).toLower = f (Char.ofNat n)) (c : Char) :
    f c.toLower = f c := by
  by_cases hc : c.toNat < 0x80
  · exact forall_ascii (P := fun c => f c.toLower = f c) h hc
  · rw [toLower_of_not_ascii hc]

@[simp] theorem isBlank_toLower (c : Char) : isBlank c.toLower = isBlank c :=
  apply_toLower (by decide) c

/-- A character that is no letter does not come from lowering. -/
theorem not_mem_map_toLower {d : Char} {cs : List Char}
    (hd : ∀ n < 0x80, (Char.ofNat n).toLower = d → Char.ofNat n = d)
    (hascii : ∀ c ∈ cs, c.toNat < 0x80) (h : d ∉ cs) : d ∉ cs.map Char.toLower := by
  intro hmem
  obtain ⟨c, hc, heq⟩ := List.mem_map.mp hmem
  have hcd := forall_ascii (P := fun c => c.toLower = d → c = d) hd (hascii c hc) heq
  exact h (hcd ▸ hc)

/-- A character that is no letter stands in a lowered text as often as before. -/
theorem count_map_toLower {d : Char} {cs : List Char}
    (hd : ∀ n < 0x80, (Char.ofNat n).toLower = d ↔ Char.ofNat n = d)
    (hascii : ∀ c ∈ cs, c.toNat < 0x80) : (cs.map Char.toLower).count d = cs.count d := by
  rw [List.count_eq_countP, List.countP_map, List.count_eq_countP]
  refine List.countP_congr fun c hc => ?_
  have hcd := forall_ascii (P := fun c => c.toLower = d ↔ c = d) hd (hascii c hc)
  simpa using hcd

/-! ### Lowered words -/

/-- Exchanging characters within and outside a class cuts a text at the same places. -/
theorem pieces_map {p : Char → Bool} {f : Char → Char} (hf : ∀ c, p (f c) = p c)
    (cs : List Char) : pieces p (cs.map f) = (pieces p cs).map (List.map f) := by
  induction cs with
  | nil => rfl
  | cons c cs ih =>
    rw [List.map_cons, pieces_cons, pieces_cons, hf, ih]
    split
    · rfl
    · obtain ⟨q, qs, hq⟩ := List.exists_cons_of_ne_nil (pieces_ne_nil p cs)
      rw [hq]
      rfl

theorem cut?_map {p : Char → Bool} {f : Char → Char} (hf : ∀ c, p (f c) = p c) (cs : List Char) :
    cut? p (cs.map f) = (cut? p cs).map fun r => (r.1.map f, r.2.map f) := by
  induction cs with
  | nil => rfl
  | cons c cs ih =>
    rw [List.map_cons]
    cases hc : p c with
    | true => rw [cut?_cons_of_pos hc, cut?_cons_of_pos ((hf c).trans hc)]; rfl
    | false =>
      rw [cut?_cons_of_neg hc, cut?_cons_of_neg ((hf c).trans hc), ih, Option.map_map,
        Option.map_map]
      rfl

theorem trim_map {f : Char → Char} (hf : ∀ c, isBlank (f c) = isBlank c) (cs : List Char) :
    trim (cs.map f) = (trim cs).map f := by
  have hright : ∀ ds : List Char, trimRight (ds.map f) = (trimRight ds).map f := by
    intro ds
    induction ds with
    | nil => rfl
    | cons d ds ih =>
      rw [List.map_cons, trimRight_cons, trimRight_cons, ih, hf, List.isEmpty_map]
      split <;> rfl
  have hblank : isBlank ∘ f = isBlank := funext hf
  unfold trim trimLeft
  rw [List.dropWhile_map, hblank, hright]

theorem joined_map (f : Char → Char) (sep : List Char) (ps : List (List Char)) :
    joined (sep.map f) (ps.map (List.map f)) = (joined sep ps).map f := by
  fun_induction joined sep ps with
  | case1 => rfl
  | case2 p => rfl
  | case3 p q ps ih =>
    rw [List.map_cons] at ih
    rw [List.map_cons, List.map_cons, joined_cons_cons, ih, List.map_append, List.map_append]

theorem words_map_toLower (cs : List Char) :
    words (cs.map Char.toLower) = (words cs).map (List.map Char.toLower) := by
  unfold words
  rw [pieces_map isBlank_toLower, List.filter_map]
  congr 1
  apply List.filter_congr
  intro w _
  simp [List.isEmpty_map]

theorem spaced_map_toLower (cs : List Char) :
    spaced (cs.map Char.toLower) = (spaced cs).map Char.toLower := by
  unfold spaced
  rw [words_map_toLower]
  exact joined_map Char.toLower [' '] (words cs)

theorem tidy_map_toLower {cs : List Char} (h : Tidy cs) : Tidy (cs.map Char.toLower) := by
  unfold Tidy
  rw [spaced_map_toLower, h]

/-! ### Raised words -/

/-- The code points of the blank characters. -/
def blankPoints : List Nat :=
  [0x09, 0x0A, 0x0B, 0x0C, 0x0D, 0x20, 0x85, 0xA0, 0x1680, 0x2000, 0x2001, 0x2002, 0x2003, 0x2004,
    0x2005, 0x2006, 0x2007, 0x2008, 0x2009, 0x200A, 0x2028, 0x2029, 0x202F, 0x205F, 0x3000]

theorem mem_blankPoints_of_isBlank {c : Char} (h : isBlank c = true) :
    c.toNat ∈ blankPoints := by
  simp only [isBlank, Bool.or_eq_true, Bool.and_eq_true, beq_iff_eq, decide_eq_true_eq] at h
  simp only [blankPoints, List.mem_cons, List.not_mem_nil, or_false]
  omega

/-- No run of the table reaches a blank. -/
theorem upperRuns_avoid_blanks : ∀ r ∈ upperRuns, ∀ b ∈ blankPoints,
    b < r.image ∨ r.image + (r.last - r.first) < b := by
  decide +kernel

theorem upperExpansions_avoid_blanks : ∀ e ∈ upperExpansions,
    e.2 ≠ [] ∧ ∀ n ∈ e.2, isBlank (Char.ofNat n) = false := by
  decide

/-- The character of a code point has this code point, if there is such a character. -/
theorem ofNat_cases (n : Nat) : (Char.ofNat n).toNat = n ∨ Char.ofNat n = '\x00' := by
  by_cases hvalid : n.isValidChar
  · left
    have hof : Char.ofNat n = Char.ofNatAux n hvalid := dif_pos hvalid
    rw [hof]
    rfl
  · exact Or.inr (dif_neg hvalid)

theorem CaseRun.image?_eq_some_iff {r : CaseRun} {m n : Nat} :
    r.image? m = some n ↔
      (r.first ≤ m ∧ m ≤ r.last ∧ (m - r.first) % r.step = 0) ∧ r.image + (m - r.first) = n := by
  rw [CaseRun.image?, Option.ite_none_right_eq_some, Option.some.injEq]

/-- What a letter becomes, if it becomes several, stands in the table. -/
theorem mem_upperExpansions_of_lookup {n : Nat} {ns : List Nat}
    (h : upperExpansions.lookup n = some ns) : (n, ns) ∈ upperExpansions := by
  obtain ⟨before, after, htable, -⟩ := List.lookup_eq_some_iff.mp h
  rw [htable]
  exact List.mem_append_right _ List.mem_cons_self

/-- A character that no run of a table makes comes from nothing but itself. -/
theorem toNat_mapRuns_ne {runs : List CaseRun} {p : Nat} (hp : p ≠ 0)
    (havoid : ∀ r ∈ runs, p < r.image ∨ r.image + (r.last - r.first) < p) {c : Char}
    (hc : c.toNat ≠ p) : (mapRuns runs c).toNat ≠ p := by
  unfold mapRuns
  split
  · next n hn =>
    obtain ⟨r, hr, himage⟩ := List.exists_of_findSome?_eq_some hn
    have hrange := CaseRun.image?_eq_some_iff.mp himage
    have hout := havoid r hr
    rcases ofNat_cases n with hof | hof
    · rw [hof]
      omega
    · rw [hof]
      exact hp.symm
  · exact hc

theorem isBlank_mapRuns {runs : List CaseRun} (havoid : ∀ r ∈ runs, ∀ b ∈ blankPoints,
    b < r.image ∨ r.image + (r.last - r.first) < b) {c : Char} (hc : isBlank c = false) :
    isBlank (mapRuns runs c) = false := by
  rw [Bool.eq_false_iff]
  intro hblank
  have hmem := mem_blankPoints_of_isBlank hblank
  have hzero : (mapRuns runs c).toNat ≠ 0 := by
    intro h0
    rw [h0] at hmem
    exact absurd hmem (by decide)
  refine toNat_mapRuns_ne hzero (fun r hr => havoid r hr _ hmem) (fun heq => ?_) rfl
  rw [← Char.toNat_inj.mp heq, hc] at hblank
  cases hblank

/-- What becomes of a character that is no blank is one word. -/
theorem isWord_upperChar {c : Char} (hc : isBlank c = false) : IsWord (upperChar c) := by
  unfold upperChar
  split
  · next hascii =>
    have hup := forall_ascii (P := fun c => isBlank c = false → isBlank c.toUpper = false)
      (by decide) hascii hc
    exact ⟨List.cons_ne_nil _ _, fun d hd => List.mem_singleton.mp hd ▸ hup⟩
  · split
    · next ns hns =>
      obtain ⟨hne, hall⟩ := upperExpansions_avoid_blanks _ (mem_upperExpansions_of_lookup hns)
      refine ⟨fun h => hne (List.map_eq_nil_iff.mp h), fun d hd => ?_⟩
      obtain ⟨n, hn, rfl⟩ := List.mem_map.mp hd
      exact hall n hn
    · have hmap := isBlank_mapRuns upperRuns_avoid_blanks hc
      exact ⟨List.cons_ne_nil _ _, fun d hd => List.mem_singleton.mp hd ▸ hmap⟩

theorem isWord_upper {w : List Char} (h : IsWord w) : IsWord (upper w) := by
  constructor
  · obtain ⟨c, cs, rfl⟩ := List.exists_cons_of_ne_nil h.ne_nil
    have hc := isWord_upperChar (h.not_blank c List.mem_cons_self)
    exact List.append_ne_nil_of_left_ne_nil hc.ne_nil _
  · intro d hd
    obtain ⟨c, hc, hd⟩ := List.mem_flatMap.mp hd
    exact (isWord_upperChar (h.not_blank c hc)).not_blank d hd

theorem upper_joined (ws : List (List Char)) :
    upper (joined [' '] ws) = joined [' '] (ws.map upper) := by
  fun_induction joined [' '] ws with
  | case1 => rfl
  | case2 w => rfl
  | case3 w v ws ih =>
    unfold upper at ih ⊢
    rw [List.map_cons] at ih
    rw [List.flatMap_append, List.flatMap_append, ih]
    rfl

/-- A tidy text is tidy when raised. -/
theorem tidy_upper {cs : List Char} (h : Tidy cs) : Tidy (upper cs) := by
  rw [← h.joined_words, upper_joined]
  apply tidy_joined
  intro v hv
  obtain ⟨w, hw, rfl⟩ := List.mem_map.mp hv
  exact isWord_upper (isWord_of_mem_words hw)

end AsmPair.Text
