import AsmPair.Proofs.Module.Listing

/-!
# Comparisons of framed listings

A comparison looks at the bodies of two listings only.  A frame around a listing moves the indices
of a mismatch by the length of its prologue, and changes nothing else.

## Main definitions

* `Comparison.shifted` — a comparison with lines put in front of the two listings.

## Main results

* `Walk.verdict_of_start` — bodies that begin later give mismatches that lie later.
* `compare_framed` — frames of any shape around two listings only shift what is found.
-/

namespace AsmPair

/-- The same mismatch, behind some more lines in each listing. -/
def Mismatch.shifted (source decoded : Nat) (mm : Mismatch) : Mismatch :=
  { mm with sourceIndex := source + mm.sourceIndex, decodedIndex := decoded + mm.decodedIndex }

/-- The same verdict, behind some more lines in each listing. -/
def Verdict.shifted (source decoded : Nat) : Verdict → Verdict
  | .matched => .matched
  | .mismatch mm => .mismatch (mm.shifted source decoded)

/-- The same comparison, behind some more lines in each listing. -/
def Comparison.shifted (source decoded : Nat) (c : Comparison) : Comparison :=
  { c with verdict := c.verdict.shifted source decoded }

/-- Where the bodies begin later, a mismatch lies later. -/
theorem Walk.verdict_of_start {w : Walk} {as bs : List Line} (hs : w.source.length ≤ as.length)
    (hd : w.decoded.length ≤ bs.length) (n k : Nat) :
    w.verdict ⟨n, as⟩ ⟨k, bs⟩ = (w.verdict ⟨0, as⟩ ⟨0, bs⟩).shifted n k := by
  unfold Walk.verdict
  split
  · rfl
  · simp only [Verdict.shifted, Mismatch.shifted, Framed.stop, Nat.zero_add]
    rw [Nat.add_sub_assoc hs, Nat.add_sub_assoc hd]

/-- **A comparison depends on frames only in the indices of a mismatch.**  Two listings that have
no frame are put into frames of any shape, each into its own.  The steps, the verdict, and the
kind, the rule and the lines of a mismatch stay as they are; its indices are shifted by the lengths
of the prologues. -/
theorem compare_framed {m : Matcher} (hlabel : isEntryLabel m.entryLabel = true)
    {source decoded prologue₁ prologue₂ epilogue₁ epilogue₂ : List Line}
    (hsource : IsFrameless m.entryLabel source) (hdecoded : IsFrameless m.entryLabel decoded)
    (hprologue₁ : IsPrologue m.entryLabel prologue₁)
    (hprologue₂ : IsPrologue m.entryLabel prologue₂)
    (hepilogue₁ : IsEpilogue epilogue₁) (hepilogue₂ : IsEpilogue epilogue₂) :
    m.compare (prologue₁ ++ source ++ epilogue₁) (prologue₂ ++ decoded ++ epilogue₂) =
      (m.compare source decoded).shifted prologue₁.length prologue₂.length := by
  have hspace := space_not_mem_lowered_label hlabel
  obtain ⟨hs, hd⟩ := walk_suffix m.rules source decoded
  unfold Matcher.compare
  simp only [framed_append hspace hprologue₁ hsource hepilogue₁,
    framed_append hspace hprologue₂ hdecoded hepilogue₂, framed_of_isFrameless hspace hsource,
    framed_of_isFrameless hspace hdecoded]
  rw [Walk.verdict_of_start hs.length_le hd.length_le]
  rfl

/-- Frames of different shapes around listings that differ, one of them without any prologue. -/
theorem compare_framed_at_divergence :
    let m : Matcher := ⟨standardRules, "main"⟩
    let source : List Line := [.parse "nop", .parse "inc ax"]
    let decoded : List Line := [.parse "nop", .parse "dec ax"]
    let prologue : List Line := [.parse "org 0100h", .parse "main:"]
    let epilogue : List Line := [.parse "ends", .parse "end main"]
    m.compare (prologue ++ source ++ epilogue) ([] ++ decoded ++ [.parse "end"]) =
        (m.compare source decoded).shifted 2 0 ∧
      (m.compare source decoded).shifted 2 0 =
        ⟨.mismatch ⟨.divergence, 3, 1, [.parse "inc ax"], [.parse "dec ax"], none⟩, [.equal]⟩ := by
  intro m source decoded prologue epilogue
  have hlabel : isEntryLabel m.entryLabel = true := by decide
  have hnop : (Line.parse "nop").Unframed m.entryLabel :=
    unframed_of_mnemonic (space_not_mem_lowered_label hlabel) (by decide) (by decide)
  have hsource : IsFrameless m.entryLabel source :=
    ⟨by rintro l ⟨⟩; exact hnop, by rintro l ⟨⟩; decide⟩
  have hdecoded : IsFrameless m.entryLabel decoded :=
    ⟨by rintro l ⟨⟩; exact hnop, by rintro l ⟨⟩; decide⟩
  have hprologue : IsPrologue m.entryLabel prologue :=
    ⟨[.origin, .entryLabel], by decide, .cons (by decide) (.cons (by decide) .nil)⟩
  have hnone : IsPrologue m.entryLabel [] := ⟨[], by decide, .nil⟩
  have hepilogue : IsEpilogue epilogue :=
    ⟨some (.parse "ends"), some (.parse "end main"), rfl, by rintro l ⟨⟩; rfl, by rintro l ⟨⟩; rfl⟩
  have hend : IsEpilogue [.parse "end"] :=
    ⟨none, some (.parse "end"), rfl, by simp, by rintro l ⟨⟩; rfl⟩
  exact ⟨compare_framed hlabel hsource hdecoded hprologue hnone hepilogue hend, by decide⟩

end AsmPair
