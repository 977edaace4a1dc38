import AsmPair.Proofs.Comparison.Mismatch

/-!
# Listings that are exhausted

Where a stream is incomplete, one of the two listings is exhausted.  The index that a mismatch has
for it is the end of its body, where the epilogue begins.  So the index is the length of the whole
listing only if no epilogue was cut off.

## Main definitions

* `HasEpilogue` — a listing that ends in an epilogue.
* `Mismatch.IsExhausted` — the index at the end of a body.

## Main results

* `isEpilogue_drop_stop`, `stop_eq_length_iff` — what comes after a body.
* `exhausted_index_of_compare` — the index of the listing that is exhausted.
-/

namespace AsmPair

/-! ### What comes after a body -/

/-- A listing that closes its segment or ends its program with the last line after its prologue. -/
def HasEpilogue (label : String) (ls : List Line) : Prop :=
  ∃ l ∈ (ls.drop (framed label ls).start).getLast?, l.mnemonic = "ends" ∨ l.mnemonic = "end"

section Epilogue

variable {label : String} {ls : List Line}

/-- What is dropped at an end is one line of the mnemonic, if there is one. -/
theorem exists_dropEnd (mnemonic : String) (ls : List Line) :
    ∃ last? : Option Line, ls = dropEnd mnemonic ls ++ last?.toList ∧
      (∀ l ∈ last?, l.mnemonic = mnemonic) ∧
        (last? = none ↔ ∀ l ∈ ls.getLast?, l.mnemonic ≠ mnemonic) := by
  cases hlast : ls.getLast? with
  | none =>
    have hnone : ∀ l ∈ (none : Option Line), l.mnemonic ≠ mnemonic := by simp
    refine ⟨none, ?_, by simp, iff_of_true rfl hnone⟩
    rw [dropEnd_eq_self (hlast ▸ hnone), Option.toList_none, List.append_nil]
  | some l =>
    obtain ⟨before, rfl⟩ := List.getLast?_eq_some_iff.mp hlast
    by_cases hl : l.mnemonic = mnemonic
    · refine ⟨some l, by rw [dropEnd_concat hl, Option.toList_some], ?_, ?_⟩
      · rintro _ ⟨⟩
        exact hl
      · exact iff_of_false (Option.some_ne_none l) fun h => h l rfl hl
    · have hne : ∀ k ∈ some l, k.mnemonic ≠ mnemonic := by
        rintro _ ⟨⟩
        exact hl
      refine ⟨none, ?_, by simp, iff_of_true rfl hne⟩
      rw [dropEnd_eq_self (hlast ▸ hne), Option.toList_none, List.append_nil]

/-- After the body come at most two lines, and none exactly if the listing has no epilogue. -/
theorem exists_epilogue (label : String) (ls : List Line) :
    ∃ closing? ending? : Option Line,
      ls.drop (framed label ls).stop = closing?.toList ++ ending?.toList ∧
        (∀ l ∈ closing?, l.mnemonic = "ends") ∧ (∀ l ∈ ending?, l.mnemonic = "end") ∧
          (closing? = none ∧ ending? = none ↔ ¬ HasEpilogue label ls) := by
  have hbody : (framed label ls).body =
      dropEnd "ends" (dropEnd "end" (ls.drop (framed label ls).start)) := rfl
  obtain ⟨ending?, heq, hending, hnone⟩ := exists_dropEnd "end" (ls.drop (framed label ls).start)
  obtain ⟨closing?, heq', hclosing, hnone'⟩ :=
    exists_dropEnd "ends" (dropEnd "end" (ls.drop (framed label ls).start))
  rw [← hbody] at heq'
  refine ⟨closing?, ending?, ?_, hclosing, hending, ?_⟩
  · unfold Framed.stop
    rw [← List.drop_drop, heq, heq', List.append_assoc, List.drop_left]
  · unfold HasEpilogue
    rw [hnone']
    constructor
    · rintro ⟨hends, hend⟩ ⟨l, hl, hl'⟩
      have hne := hnone.mp hend
      -- where no end of the program is dropped, the two ends are those of the same lines
      rw [dropEnd_eq_self hne] at hends
      exact hl'.elim (hends l hl) (hne l hl)
    · intro hopen
      have hne : ∀ l ∈ (ls.drop (framed label ls).start).getLast?, l.mnemonic ≠ "end" :=
        fun l hl hl' => hopen ⟨l, hl, .inr hl'⟩
      rw [dropEnd_eq_self hne]
      exact ⟨fun l hl hl' => hopen ⟨l, hl, .inl hl'⟩, hnone.mpr hne⟩

/-- What comes after a body is an epilogue. -/
theorem isEpilogue_drop_stop (label : String) (ls : List Line) :
    IsEpilogue (ls.drop (framed label ls).stop) := by
  obtain ⟨closing?, ending?, heq, hclosing, hending, -⟩ := exists_epilogue label ls
  exact ⟨closing?, ending?, heq, hclosing, hending⟩

theorem stop_le_length (label : String) (ls : List Line) :
    (framed label ls).stop ≤ ls.length := by
  rw [← length_take_stop]
  exact List.length_take_le' _ _

/-- A body reaches to the end of its listing exactly if there is no epilogue. -/
theorem stop_eq_length_iff : (framed label ls).stop = ls.length ↔ ¬ HasEpilogue label ls := by
  obtain ⟨closing?, ending?, heq, -, -, hnone⟩ := exists_epilogue label ls
  rw [← hnone]
  constructor
  · intro hstop
    rw [hstop, List.drop_length, eq_comm, List.append_eq_nil_iff, Option.toList_eq_nil_iff,
      Option.toList_eq_nil_iff] at heq
    exact heq
  · rintro ⟨rfl, rfl⟩
    exact Nat.le_antisymm (stop_le_length label ls) (List.drop_eq_nil_iff.mp heq)

end Epilogue

/-! ### The index at the end of a body -/

/-- A listing that is exhausted at an index: no line of it is shown and the index is the end of its
body.  So the epilogue comes next, and the index is the length of the listing exactly if there is
none. -/
structure Mismatch.IsExhausted (label : String) (ls : List Line) (index : Nat)
    (remainder : List Line) : Prop where
  /-- There is no line to show. -/
  remainder_eq : remainder = []
  /-- The body ends at the index. -/
  index_eq : index = (framed label ls).stop
  /-- The epilogue begins at the index. -/
  isEpilogue : IsEpilogue (ls.drop index)
  /-- Without an epilogue the index is the length of the listing. -/
  eq_length_iff : index = ls.length ↔ ¬ HasEpilogue label ls

section Index

variable {label : String} {ls remainder : List Line} {index : Nat}

/-- There is a line to show at each place before the end of the body. -/
theorem Mismatch.IsPlace.remainder_eq_nil_iff (h : IsPlace label ls index remainder) :
    remainder = [] ↔ index = (framed label ls).stop := by
  have hstop := stop_le_length label ls
  have hle := h.le_stop
  rw [h.remainder_eq, ← List.length_eq_zero_iff, List.length_take, List.length_drop]
  unfold context
  omega

theorem Mismatch.IsPlace.isExhausted (h : IsPlace label ls index remainder)
    (hindex : index = (framed label ls).stop) : IsExhausted label ls index remainder := by
  refine ⟨h.remainder_eq_nil_iff.mpr hindex, hindex, ?_, ?_⟩
  · rw [hindex]
    exact isEpilogue_drop_stop label ls
  · rw [hindex]
    exact stop_eq_length_iff

end Index

/-- **The index of the listing that is exhausted.**  Where a stream is incomplete, exactly one of
the listings is exhausted and the other one has lines left.  The index of the exhausted listing is
the end of its body, where its epilogue begins, and this is the length of the listing exactly if it
has no epilogue. -/
theorem exhausted_index_of_compare {m : Matcher} {source decoded : List Line} {mm : Mismatch}
    (h : (m.compare source decoded).verdict = .mismatch mm)
    (hkind : mm.kind = .incompleteStream) :
    (Mismatch.IsExhausted m.entryLabel source mm.sourceIndex mm.sourceRemainder ∧
        mm.decodedRemainder ≠ []) ∨
      (Mismatch.IsExhausted m.entryLabel decoded mm.decodedIndex mm.decodedRemainder ∧
        mm.sourceRemainder ≠ []) := by
  have hfaithful := (isFaithful_of_compare h).1
  have hone := (hfaithful.incomplete hkind).1
  by_cases hsource : mm.sourceIndex = (framed m.entryLabel source).stop
  · refine .inl ⟨hfaithful.source_place.isExhausted hsource, ?_⟩
    rw [Ne, hfaithful.decoded_place.remainder_eq_nil_iff]
    exact hone.mp hsource
  · have hdecoded : mm.decodedIndex = (framed m.entryLabel decoded).stop := by
      by_contra hne
      exact hsource (hone.mpr hne)
    refine .inr ⟨hfaithful.decoded_place.isExhausted hdecoded, ?_⟩
    rwa [Ne, hfaithful.source_place.remainder_eq_nil_iff]

/-- A decoded listing without an epilogue is exhausted at its length, whatever frames the source
listing. -/
theorem exhausted_index_without_epilogue :
    let source : List Line := [.parse "ideal", .parse "org 0100h", .parse "nop", .parse "int 3",
      .parse "ends", .parse "end start"]
    let decoded : List Line := [.parse "org 0100h", .parse "nop"]
    let mm : Mismatch :=
      { kind := .incompleteStream, sourceIndex := 3, decodedIndex := 2
        sourceRemainder := [.parse "int 3"], decodedRemainder := [], rule? := none }
    (Matcher.standard.compare source decoded).verdict = .mismatch mm ∧
      mm.decodedIndex = decoded.length ∧
        Mismatch.IsExhausted "start" decoded mm.decodedIndex mm.decodedRemainder := by
  intro source decoded mm
  have hverdict : (Matcher.standard.compare source decoded).verdict = .mismatch mm := by decide
  rcases exhausted_index_of_compare hverdict rfl with ⟨hsource, -⟩ | ⟨hdecoded, -⟩
  · exact absurd hsource.remainder_eq (List.cons_ne_nil _ _)
  · exact ⟨hverdict, rfl, hdecoded⟩

/-- A source listing with an epilogue is exhausted in front of it, one line before its end. -/
theorem exhausted_index_before_epilogue :
    let source : List Line := [.parse "nop", .parse "ends"]
    let decoded : List Line := [.parse "nop", .parse "nop"]
    let mm : Mismatch :=
      { kind := .incompleteStream, sourceIndex := 1, decodedIndex := 1
        sourceRemainder := [], decodedRemainder := [.parse "nop"], rule? := none }
    (Matcher.standard.compare source decoded).verdict = .mismatch mm ∧
      mm.sourceIndex ≠ source.length := by
  decide

end AsmPair
