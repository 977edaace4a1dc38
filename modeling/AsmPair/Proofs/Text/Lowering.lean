import AsmPair.Proofs.Text.Case
import Mathlib.Data.Bool.AllAny

/-!
# Lowered texts

Lowering leaves a lowered text as it is, in whatever context it stands: no letter that it makes has
a lower-case form of its own, and in particular none is an upper-case sigma, whose form depends on
its neighbours.  Signs such as the semicolon are not made from anything else.

## Main definitions

* `CaseRun.avoids` — whether the letters that one run makes lie outside of another run.
* `IsLowered` — a character that lowering leaves as it is, in every context.
* `IsNative` — an ASCII character that is made from ASCII characters only.
* `IsKeyword` — a lowered word of such characters.
* `IsSign` — an ASCII character that is no letter.

## Main results

* `isLowered_of_mem_lower`, `lower_of_isLowered` — lowering makes such characters and keeps them.
* `lowered_eq_iff` — the texts that are lowered to a given keyword.
* `mem_of_mem_lower` — a sign comes from nothing but itself.
* `isWord_lowerChar` — what becomes of a character that is no blank is no blank.
-/

namespace AsmPair.Text

/-! ### Runs of letters -/

/-- Whether no letter that the first run makes belongs to the second one: the two lie apart, or one
has the even and the other the odd code points. -/
def CaseRun.avoids (r r' : CaseRun) : Bool :=
  (r.image + (r.last - r.first)).blt r'.first || r'.last.blt r.image ||
    (r'.step == 2 && (r.step == 2 || r.first == r.last) && r.image % 2 != r'.first % 2)

theorem CaseRun.image?_eq_none_of_avoids {r r' : CaseRun} (h : r.avoids r' = true) {m n : Nat}
    (hn : r.image? m = some n) : r'.image? n = none := by
  obtain ⟨hm, rfl⟩ := CaseRun.image?_eq_some_iff.mp hn
  unfold CaseRun.image?
  rw [if_neg]
  rintro ⟨hfirst, hlast, hstep⟩
  simp only [CaseRun.avoids, Bool.or_eq_true, Bool.and_eq_true, Nat.blt_eq, beq_iff_eq,
    bne_iff_ne] at h
  rcases h with (h | h) | ⟨⟨h2, h⟩, hodd⟩
  · omega
  · omega
  -- both steps are two, or the first run is a single letter
  · rw [h2] at hstep
    rcases h with h | h
    · rw [h] at hm
      omega
    · omega

/-- Where every run of a table avoids every run, what a run makes belongs to none. -/
theorem CaseRun.image?_eq_none_of_all_avoids {runs : List CaseRun}
    (havoid : ∀ r ∈ runs, runs.all r.avoids = true) {r : CaseRun} (hr : r ∈ runs) {m n : Nat}
    (h : r.image? m = some n) : ∀ r' ∈ runs, r'.image? n = none := fun r' hr' =>
  r.image?_eq_none_of_avoids (List.all_eq_true.mp (havoid r hr) r' hr') h

theorem lowerRuns_avoid_lowerRuns : ∀ r ∈ lowerRuns, lowerRuns.all r.avoids = true := by
  decide +kernel

/-! ### Characters that are lowered already -/

/-- A character that lowering leaves as it is, in every context. -/
structure IsLowered (c : Char) : Prop where
  /-- Its form does not depend on its neighbours. -/
  ne_sigma : c ≠ 'Σ'
  /-- It is its own lower-case form. -/
  lowerChar_eq : lowerChar c = [c]

instance (c : Char) : Decidable (IsLowered c) :=
  decidable_of_iff (c ≠ 'Σ' ∧ lowerChar c = [c]) ⟨fun ⟨h, h'⟩ => ⟨h, h'⟩, fun h => ⟨h.1, h.2⟩⟩

theorem isLowered_of_ascii {c : Char} (hc : c.toNat < 0x80) (h : c.toLower = c) :
    IsLowered c where
  ne_sigma := by rintro rfl; exact absurd hc (by decide)
  lowerChar_eq := by rw [lowerChar_of_ascii hc, h]

theorem isLowered_toLower {c : Char} (hc : c.toNat < 0x80) : IsLowered c.toLower := by
  have hlower : ∀ n < 0x80, (Char.ofNat n).toLower.toNat < 0x80 ∧
      (Char.ofNat n).toLower.toLower = (Char.ofNat n).toLower := by decide
  have h := hlower c.toNat hc
  rw [Char.ofNat_toNat] at h
  exact isLowered_of_ascii h.1 h.2

/-- A character beyond ASCII that no run holds is lowered already. -/
theorem isLowered_of_no_run {c : Char} (hc : ¬ c.toNat < 0x80) (hi : c.toNat ≠ 0x130)
    (h : ∀ r ∈ lowerRuns, r.image? c.toNat = none) : IsLowered c where
  ne_sigma := by
    rintro rfl
    exact absurd h (by decide +kernel)
  lowerChar_eq := by
    unfold lowerChar mapRuns
    rw [if_neg hc, if_neg hi, List.findSome?_eq_none_iff.mpr h]

theorem lowerRuns_image_range : ∀ r ∈ lowerRuns,
    (0x80 ≤ r.image ∨ r.image = 0x6B ∧ r.first = r.last) ∧
      (0x130 < r.image ∨ r.image + (r.last - r.first) < 0x130) := by
  decide +kernel

/-- What a run makes is lowered already. -/
theorem isLowered_of_image? {r : CaseRun} (hr : r ∈ lowerRuns) {m n : Nat}
    (h : r.image? m = some n) : IsLowered (Char.ofNat n) := by
  have hnone := CaseRun.image?_eq_none_of_all_avoids lowerRuns_avoid_lowerRuns hr h
  obtain ⟨hascii, hi⟩ := lowerRuns_image_range r hr
  have hm := CaseRun.image?_eq_some_iff.mp h
  rcases ofNat_cases n with hof | hof
  · rcases hascii with hascii | ⟨hk, hsingle⟩
    · refine isLowered_of_no_run ?_ ?_ (by rwa [hof])
      all_goals omega
    -- the Kelvin sign is the only character beyond ASCII that becomes an ASCII letter by a run
    · obtain rfl : n = 0x6B := by omega
      exact isLowered_of_ascii (by decide) (by decide)
  · rw [hof]
    exact isLowered_of_ascii (by decide) (by decide)

theorem isLowered_of_mem_lowerChar {c d : Char} (h : d ∈ lowerChar c) : IsLowered d := by
  unfold lowerChar at h
  split at h
  · next hc =>
    rw [List.mem_singleton.mp h]
    exact isLowered_toLower hc
  · next hc =>
    split at h
    -- checked over the list, since a check over a set of characters runs through all there are
    · have hdotted : ∀ d ∈ ['i', '\u0307'], IsLowered d :=
        List.all_iff_forall_prop.mp (by decide +kernel)
      exact hdotted d h
    · next hi =>
      obtain rfl := List.mem_singleton.mp h
      unfold mapRuns
      split
      · next n hn =>
        obtain ⟨r, hr, himage⟩ := List.exists_of_findSome?_eq_some hn
        exact isLowered_of_image? hr himage
      · next hn => exact isLowered_of_no_run hc hi (List.findSome?_eq_none_iff.mp hn)

/-! ### Lowered texts -/

/-- What becomes of one character, given what stands before and after it. -/
theorem mem_lowerAfter_cons {before : List Char} {c d : Char} {cs : List Char}
    (h : d ∈ lowerAfter before (c :: cs)) :
    (c = 'Σ' ∧ (d = 'ς' ∨ d = 'σ')) ∨ d ∈ lowerChar c ∨ d ∈ lowerAfter (c :: before) cs := by
  rw [lowerAfter_cons, List.mem_append] at h
  rcases h with h | h
  · split at h
    · next hc =>
      refine Or.inl ⟨hc, ?_⟩
      split at h
      · exact Or.inl (List.mem_singleton.mp h)
      · exact Or.inr (List.mem_singleton.mp h)
    · exact Or.inr (Or.inl h)
  · exact Or.inr (Or.inr h)

theorem isLowered_of_mem_lowerAfter {before cs : List Char} {d : Char}
    (h : d ∈ lowerAfter before cs) : IsLowered d := by
  induction cs generalizing before with
  | nil => cases h
  | cons c cs ih =>
    rcases mem_lowerAfter_cons h with ⟨-, rfl | rfl⟩ | h | h
    · decide +kernel
    · decide +kernel
    · exact isLowered_of_mem_lowerChar h
    · exact ih h

/-- Lowering makes characters that are lowered already. -/
theorem isLowered_of_mem_lower {cs : List Char} {d : Char} (h : d ∈ lower cs) : IsLowered d :=
  isLowered_of_mem_lowerAfter h

theorem lowerAfter_of_isLowered {cs : List Char} (h : ∀ c ∈ cs, IsLowered c)
    (before : List Char) : lowerAfter before cs = cs := by
  induction cs generalizing before with
  | nil => rfl
  | cons c cs ih =>
    have hc : IsLowered c := h c List.mem_cons_self
    rw [lowerAfter_cons, if_neg hc.ne_sigma, hc.lowerChar_eq,
      ih fun d hd => h d (List.mem_cons_of_mem c hd)]
    rfl

/-- **A lowered text is lowered already.** -/
theorem lower_of_isLowered {cs : List Char} (h : ∀ c ∈ cs, IsLowered c) : lower cs = cs :=
  lowerAfter_of_isLowered h []

/-! ### ASCII forms -/

/-- An ASCII character that comes from no other one by the table.  The Kelvin sign becomes a k, and
the null character stands for invalid code points. -/
structure IsNative (d : Char) : Prop where
  /-- It is not the null character. -/
  ne_null : d ≠ '\x00'
  /-- It is an ASCII character. -/
  ascii : d.toNat < 0x80
  /-- It is no k. -/
  ne_k : d ≠ 'k'

instance (d : Char) : Decidable (IsNative d) :=
  decidable_of_iff (d ≠ '\x00' ∧ d.toNat < 0x80 ∧ d ≠ 'k')
    ⟨fun ⟨h, h', h''⟩ => ⟨h, h', h''⟩, fun h => ⟨h.1, h.2, h.3⟩⟩

/-- A run makes no such character from another one. -/
theorem eq_of_mapRuns_lowerRuns {c d : Char} (hd : IsNative d) (h : mapRuns lowerRuns c = d) :
    c = d := by
  have hascii := hd.ascii
  have hk : d.toNat ≠ 0x6B := fun hk => hd.ne_k (Char.toNat_inj.mp hk)
  have hzero : d.toNat ≠ 0 := fun h => hd.ne_null (Char.toNat_inj.mp h)
  by_contra hc
  refine toNat_mapRuns_ne hzero (fun r hr => ?_) (fun heq => hc (Char.toNat_inj.mp heq))
    (congrArg Char.toNat h)
  obtain ⟨himage | ⟨himage, hsingle⟩, -⟩ := lowerRuns_image_range r hr
  · exact Or.inl (by omega)
  · omega

theorem lowerChar_eq_toLower {c : Char} (h : ∀ d ∈ lowerChar c, IsNative d) :
    lowerChar c = [c.toLower] := by
  unfold lowerChar at h ⊢
  split at h
  · next hc => rw [if_pos hc]
  · next hc =>
    split at h
    · exact absurd (h '\u0307' (by simp)).ascii (by decide)
    · have hd := h _ (List.mem_singleton_self _)
      exact absurd (eq_of_mapRuns_lowerRuns hd rfl ▸ hd.ascii) hc

/-- Where lowering makes such characters only, it lowers the ASCII letters and nothing else. -/
theorem lowerAfter_eq_map_toLower {before cs : List Char}
    (h : ∀ d ∈ lowerAfter before cs, IsNative d) : lowerAfter before cs = cs.map Char.toLower := by
  induction cs generalizing before with
  | nil => rfl
  | cons c cs ih =>
    rw [lowerAfter_cons, List.forall_mem_append] at h
    obtain ⟨hc, hcs⟩ := h
    rw [lowerAfter_cons, ih hcs, List.map_cons]
    split at hc
    -- neither form of a sigma is an ASCII character
    · split at hc
      · exact absurd (hc _ (List.mem_singleton_self _)).ascii (by decide)
      · exact absurd (hc _ (List.mem_singleton_self _)).ascii (by decide)
    · next hsigma =>
      rw [if_neg hsigma, lowerChar_eq_toLower hc]
      rfl

/-- **A text has such a form exactly if its ASCII letters alone make it.**  So it does not matter
whether other letters are lowered, also where characters are exchanged afterwards. -/
theorem map_lower_eq_iff {g : Char → Char} (hg : ∀ d, IsNative (g d) → IsNative d)
    {cs ds : List Char} (hds : ∀ d ∈ ds, IsNative d) :
    (lower cs).map g = ds ↔ (cs.map Char.toLower).map g = ds := by
  constructor
  · rintro rfl
    have hnative : ∀ d ∈ lower cs, IsNative d :=
      fun d hd => hg d (hds _ (List.mem_map_of_mem hd))
    rw [lower, lowerAfter_eq_map_toLower hnative]
  · rintro rfl
    have hascii : ∀ c ∈ cs, c.toNat < 0x80 := by
      intro c hc
      have hnative := hg _ (hds _ (List.mem_map_of_mem (List.mem_map_of_mem hc)))
      by_contra hnot
      rw [toLower_of_not_ascii hnot] at hnative
      exact hnot hnative.ascii
    rw [lower_of_ascii hascii]

/-- A word that is lowered already and that texts are lowered to by their ASCII letters alone. -/
structure IsKeyword (w : String) : Prop where
  /-- Its characters are not made from others beyond ASCII. -/
  isNative : ∀ d ∈ w.toList, IsNative d
  /-- No letter of it is upper-case. -/
  map_toLower : w.toList.map Char.toLower = w.toList

instance (w : String) : Decidable (IsKeyword w) :=
  decidable_of_iff
    (w.toList.all (fun d => decide (IsNative d)) = true ∧ w.toList.map Char.toLower = w.toList)
    ⟨fun ⟨h, h'⟩ => ⟨List.all_iff_forall_prop.mp h, h'⟩,
      fun h => ⟨List.all_iff_forall_prop.mpr h.1, h.2⟩⟩

/-- A text is lowered to such a word exactly if the two have the same letters. -/
theorem lowered_eq_iff {s w : String} (hw : IsKeyword w) :
    lowered s = w ↔ sameLetters s w = true := by
  have h : (lower s.toList).map id = w.toList ↔ (s.toList.map Char.toLower).map id = w.toList :=
    map_lower_eq_iff (fun _ hd => hd) hw.isNative
  rw [List.map_id, List.map_id] at h
  rw [lowered, ← String.toList_inj, String.toList_ofList, h, sameLetters, beq_iff_eq,
    hw.map_toLower]

/-! ### Signs and blanks -/

/-- An ASCII character other than the letters and the null character. -/
structure IsSign (d : Char) : Prop where
  /-- It is not the null character, which stands for invalid code points. -/
  ne_null : d ≠ '\x00'
  /-- It is an ASCII character. -/
  ascii : d.toNat < 0x80
  /-- It is no letter. -/
  not_letter : d.isAlpha = false

instance (d : Char) : Decidable (IsSign d) :=
  decidable_of_iff (d ≠ '\x00' ∧ d.toNat < 0x80 ∧ d.isAlpha = false)
    ⟨fun ⟨h, h', h''⟩ => ⟨h, h', h''⟩, fun h => ⟨h.1, h.2, h.3⟩⟩

theorem IsSign.isNative {d : Char} (h : IsSign d) : IsNative d where
  ne_null := h.ne_null
  ascii := h.ascii
  ne_k := by rintro rfl; exact absurd h.not_letter (by decide)

section Signs

variable {d : Char}

theorem eq_of_mem_lowerChar (hd : IsSign d) {c : Char} (h : d ∈ lowerChar c) : c = d := by
  unfold lowerChar at h
  split at h
  · next hc =>
    have hsigns : ∀ n < 0x80, (Char.ofNat n).toLower.isAlpha = false →
        Char.ofNat n = (Char.ofNat n).toLower := by decide
    obtain rfl := List.mem_singleton.mp h
    exact forall_ascii (P := fun c => c.toLower.isAlpha = false → c = c.toLower) hsigns hc
      hd.not_letter
  · split at h
    · have hdotted : ∀ e ∈ ['i', '\u0307'], e.toNat < 0x80 → e.isAlpha = true :=
        List.all_iff_forall_prop.mp (by decide)
      have hletter := hdotted d h hd.ascii
      rw [hd.not_letter] at hletter
      cases hletter
    · exact eq_of_mapRuns_lowerRuns hd.isNative (List.mem_singleton.mp h).symm

theorem mem_of_mem_lowerAfter (hd : IsSign d) {before cs : List Char}
    (h : d ∈ lowerAfter before cs) : d ∈ cs := by
  induction cs generalizing before with
  | nil => cases h
  | cons c cs ih =>
    rcases mem_lowerAfter_cons h with ⟨-, rfl | rfl⟩ | h | h
    · exact absurd hd (by decide)
    · exact absurd hd (by decide)
    · rw [eq_of_mem_lowerChar hd h]
      exact List.mem_cons_self
    · exact List.mem_cons_of_mem c (ih h)

/-- A sign of ASCII comes from nothing but itself. -/
theorem mem_of_mem_lower (hd : IsSign d) {cs : List Char} (h : d ∈ lower cs) : d ∈ cs :=
  mem_of_mem_lowerAfter hd h

end Signs

/-- No run of the table reaches a blank. -/
theorem lowerRuns_avoid_blanks : ∀ r ∈ lowerRuns, ∀ b ∈ blankPoints,
    b < r.image ∨ r.image + (r.last - r.first) < b := by
  decide +kernel

/-- What becomes of a character that is no blank is one word. -/
theorem isWord_lowerChar {c : Char} (hc : isBlank c = false) : IsWord (lowerChar c) := by
  unfold lowerChar
  split
  · exact ⟨List.cons_ne_nil _ _, fun d hd => by rw [List.mem_singleton.mp hd, isBlank_toLower, hc]⟩
  · split
    · exact ⟨List.cons_ne_nil _ _, List.all_iff_forall_prop.mp (by decide)⟩
    · have hmap := isBlank_mapRuns lowerRuns_avoid_blanks hc
      exact ⟨List.cons_ne_nil _ _, fun d hd => List.mem_singleton.mp hd ▸ hmap⟩

end AsmPair.Text
