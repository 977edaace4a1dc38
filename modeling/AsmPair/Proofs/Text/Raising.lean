import AsmPair.Proofs.Text.Lowering
import AsmPair.Proofs.Text.Spacing

/-!
# Raised texts

Raising leaves a raised text as it is.  Up to the case of ASCII letters it leaves every text as it
is that has no other letter with an upper-case form of its own.

## Main definitions

* `IsRaised` — a character that raising leaves as it is.
* `IsRaisedBeyondAscii` — a text in which raising changes at most the ASCII letters.

## Main results

* `isRaised_of_mem_upper` — raising makes such characters only.
* `map_toLower_upper` — what raising does not change, if the case of ASCII letters does not count.
-/

namespace AsmPair.Text

/-! ### Characters that are raised already -/

/-- A character that raising leaves as it is. -/
def IsRaised (c : Char) : Prop := upperChar c = [c]

instance (c : Char) : Decidable (IsRaised c) := inferInstanceAs (Decidable (upperChar c = [c]))

theorem isRaised_toUpper {c : Char} (hc : c.toNat < 0x80) : IsRaised c.toUpper :=
  forall_ascii (P := fun c => IsRaised c.toUpper) (by decide) hc

/-- A character beyond ASCII that the tables do not hold is raised already. -/
theorem isRaised_of_no_entry {c : Char} (hc : ¬ c.toNat < 0x80)
    (hexpansion : upperExpansions.lookup c.toNat = none)
    (hrun : ∀ r ∈ upperRuns, r.image? c.toNat = none) : IsRaised c := by
  unfold IsRaised upperChar mapRuns
  rw [if_neg hc, hexpansion, List.findSome?_eq_none_iff.mpr hrun]

theorem upperRuns_avoid_upperRuns : ∀ r ∈ upperRuns, upperRuns.all r.avoids = true := by
  decide +kernel

theorem upperRuns_avoid_upperExpansions : ∀ r ∈ upperRuns, ∀ e ∈ upperExpansions,
    e.1 < r.image ∨ r.image + (r.last - r.first) < e.1 := by
  decide +kernel

/-- Two letters beyond ASCII become an ASCII letter: the dotless i and the long s. -/
theorem upperRuns_image_range : ∀ r ∈ upperRuns,
    0x80 ≤ r.image ∨ r.first = r.last ∧ (r.image = 0x49 ∨ r.image = 0x53) := by
  decide +kernel

theorem upperExpansions_raised : ∀ e ∈ upperExpansions, ∀ n ∈ e.2, IsRaised (Char.ofNat n) := by
  decide +kernel

/-- What a run makes is raised already. -/
theorem isRaised_of_image? {r : CaseRun} (hr : r ∈ upperRuns) {m n : Nat}
    (h : r.image? m = some n) : IsRaised (Char.ofNat n) := by
  have hnone := CaseRun.image?_eq_none_of_all_avoids upperRuns_avoid_upperRuns hr h
  have hm := CaseRun.image?_eq_some_iff.mp h
  rcases ofNat_cases n with hof | hof
  · rcases upperRuns_image_range r hr with hascii | ⟨hsingle, himage⟩
    · refine isRaised_of_no_entry (by omega) ?_ (by rwa [hof])
      rw [hof, List.lookup_eq_none_iff]
      intro e he
      have hout := upperRuns_avoid_upperExpansions r hr e he
      rw [bne_iff_ne]
      omega
    · have hletter : n = 0x49 ∨ n = 0x53 := by omega
      rcases hletter with rfl | rfl <;> decide
  · rw [hof]
    decide

theorem isRaised_of_mem_upperChar {c d : Char} (h : d ∈ upperChar c) : IsRaised d := by
  unfold upperChar at h
  split at h
  · next hc =>
    rw [List.mem_singleton.mp h]
    exact isRaised_toUpper hc
  · next hc =>
    split at h
    · next ns hns =>
      obtain ⟨n, hn, rfl⟩ := List.mem_map.mp h
      exact upperExpansions_raised _ (mem_upperExpansions_of_lookup hns) n hn
    · next hns =>
      obtain rfl := List.mem_singleton.mp h
      unfold mapRuns
      split
      · next n hn =>
        obtain ⟨r, hr, himage⟩ := List.exists_of_findSome?_eq_some hn
        exact isRaised_of_image? hr himage
      · next hn => exact isRaised_of_no_entry hc hns (List.findSome?_eq_none_iff.mp hn)

/-- **Raising makes characters that are raised already.** -/
theorem isRaised_of_mem_upper {cs : List Char} {d : Char} (h : d ∈ upper cs) : IsRaised d := by
  obtain ⟨c, -, hd⟩ := List.mem_flatMap.mp h
  exact isRaised_of_mem_upperChar hd

/-- A blank has no case. -/
theorem isRaised_of_isBlank {c : Char} (h : isBlank c = true) : IsRaised c := by
  have hpoints : ∀ n ∈ blankPoints, IsRaised (Char.ofNat n) := by decide +kernel
  have hc := hpoints c.toNat (mem_blankPoints_of_isBlank h)
  rwa [Char.ofNat_toNat] at hc

/-! ### Texts that are raised beyond ASCII -/

/-- Raising changes no character of a text other than ASCII letters. -/
def IsRaisedBeyondAscii (cs : List Char) : Prop := ∀ c ∈ cs, c.toNat < 0x80 ∨ IsRaised c

instance (cs : List Char) : Decidable (IsRaisedBeyondAscii cs) := List.decidableBAll _ cs

/-- **A text that is raised beyond ASCII stays as it is when raised**, if the case of ASCII letters
does not count. -/
theorem map_toLower_upper {cs : List Char} (h : IsRaisedBeyondAscii cs) :
    (upper cs).map Char.toLower = cs.map Char.toLower := by
  unfold upper
  induction cs with
  | nil => rfl
  | cons c cs ih =>
    have hc : (upperChar c).map Char.toLower = [c.toLower] := by
      rcases h c List.mem_cons_self with hascii | hraised
      · rw [upperChar_of_ascii hascii]
        exact forall_ascii (P := fun c => [c.toUpper].map Char.toLower = [c.toLower]) (by decide)
          hascii
      · rw [hraised]
        rfl
    rw [List.flatMap_cons, List.map_append, hc,
      ih fun d hd => h d (List.mem_cons_of_mem c hd)]
    rfl

/-- Spacing a text does not change whether it is raised beyond ASCII. -/
theorem isRaisedBeyondAscii_spaced {cs : List Char} :
    IsRaisedBeyondAscii (spaced cs) ↔ IsRaisedBeyondAscii cs := by
  constructor
  · intro h c hc
    by_cases hblank : isBlank c = true
    · exact Or.inr (isRaised_of_isBlank hblank)
    -- a character that is no blank stands in a word
    · have hmem : c ∈ (words cs).flatten := by
        rw [flatten_words]
        exact List.mem_filter.mpr ⟨hc, by simpa using hblank⟩
      obtain ⟨w, hw, hcw⟩ := List.mem_flatten.mp hmem
      exact h c ((infix_joined hw).subset hcw)
  · intro h c hc
    rcases mem_spaced hc with rfl | hc
    · exact Or.inl (by decide)
    · exact h c hc

/-- Two texts that differ in the case of ASCII letters only are raised beyond ASCII alike. -/
theorem isRaisedBeyondAscii_of_map_toLower_eq {cs ds : List Char}
    (h : cs.map Char.toLower = ds.map Char.toLower) (hcs : IsRaisedBeyondAscii cs) :
    IsRaisedBeyondAscii ds := by
  intro d hd
  by_cases hascii : d.toNat < 0x80
  · exact Or.inl hascii
  · have hmem : d.toLower ∈ cs.map Char.toLower := h ▸ List.mem_map_of_mem hd
    obtain ⟨c, hc, heq⟩ := List.mem_map.mp hmem
    rw [toLower_of_not_ascii hascii] at heq
    -- lowering makes no character beyond ASCII from an ASCII letter
    have hc' : ¬ c.toNat < 0x80 := by
      intro hc'
      have hlower := forall_ascii (P := fun c => c.toLower.toNat < 0x80) (by decide) hc'
      rw [heq] at hlower
      exact hascii hlower
    rw [toLower_of_not_ascii hc'] at heq
    exact heq ▸ hcs c hc

end AsmPair.Text
