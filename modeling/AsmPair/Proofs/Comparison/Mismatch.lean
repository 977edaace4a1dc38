import AsmPair.Proofs.Comparison.Alignment
import AsmPair.Proofs.Line.Framing

/-!
# What a mismatch says about the listings

A mismatch counts lines of the whole listings, the frames included, and shows the lines that come
next in the bodies.  It is a divergence if both bodies go on there, and then it tells which rule
was applied in vain.  Under the standard rules the source line it names is the furthest that any
alignment reaches.

## Main definitions

* `Unbridged` — two lines in front of a walk that stops there.
* `Mismatch.IsPlace` — an index and the lines from there on, in one listing.
* `Mismatch.IsFaithful` — a mismatch that is true of two listings.

## Main results

* `stop_of_walk` — why a walk stops.
* `isFaithful_of_compare` — the mismatch that a comparison finds is true of the listings, and no
  alignment reaches further.
-/

namespace AsmPair

/-! ### Why a walk stops -/

/-- Nothing bridges the source line `a` and the decoded line `d`, which is in front of `rest`; the
rule is the one that applies to the two lines. -/
structure Unbridged (rules : List Rule) (a d : Line) (rest : List Line) (rule? : Option String) :
    Prop where
  /-- The lines are not equal. -/
  ne : a ≠ d
  /-- The decoded line is no wait that could be passed over. -/
  not_absorbed : absorbsWait a d rest = false
  /-- The rule is the first that applies, if there is one. -/
  rule_eq : rule? = (firstApplicable? rules a d).map fun q => q.1.name
  /-- That rule does not make the lines equal. -/
  respelled_ne : ∀ q ∈ firstApplicable? rules a d, q.2 ≠ d

/-- A walk stops at the end of a listing or in front of two lines that nothing bridges. -/
theorem stop_of_walk (rules : List Rule) (as bs : List Line) :
    ((walk rules as bs).source = [] ∨ (walk rules as bs).decoded = []) ∧
        (walk rules as bs).rule? = none ∨
      ∃ a as' d bs', (walk rules as bs).source = a :: as' ∧
        (walk rules as bs).decoded = d :: bs' ∧
          Unbridged rules a d bs' (walk rules as bs).rule? := by
  fun_induction walk rules as bs with
  | case1 as b bs ih => exact ih
  | case2 a as b bs _ _ ih => exact ih
  | case3 a as bs r b _ _ _ ih => exact ih
  | case4 a as b bs hne hwait r l hfirst hl =>
    refine .inr ⟨a, as, b, bs, rfl, rfl, hne, by simpa using hwait, ?_, ?_⟩
    · rw [hfirst]
      rfl
    · rw [hfirst]
      rintro q hq
      cases hq
      exact hl
  | case5 a as b bs hne hwait hfirst =>
    refine .inr ⟨a, as, b, bs, rfl, rfl, hne, by simpa using hwait, ?_, ?_⟩
    · rw [hfirst]
      rfl
    · rw [hfirst]
      rintro q hq
      cases hq
  | case6 as bs hnil =>
    refine .inl ⟨?_, rfl⟩
    cases as with
    | nil => exact .inl rfl
    | cons a as =>
      cases bs with
      | nil => exact .inr rfl
      | cons b bs => exact absurd rfl (hnil a as b bs rfl)

/-! ### Places in a listing -/

/-- An index into a listing and the lines that a mismatch shows from there on. -/
structure Mismatch.IsPlace (label : String) (ls : List Line) (index : Nat)
    (remainder : List Line) : Prop where
  /-- The index is not before the body. -/
  start_le : (framed label ls).start ≤ index
  /-- It is not after the end of the body. -/
  le_stop : index ≤ (framed label ls).stop
  /-- The lines are the next ones up to the end of the body, if they are not too many. -/
  remainder_eq :
    remainder = (ls.drop index).take (min Mismatch.context ((framed label ls).stop - index))

section Place

variable {label : String} {ls rest : List Line}

/-- The end of a body begins at the index that is as far from the end of the body. -/
theorem drop_take_stop (h : rest <:+ (framed label ls).body) :
    (ls.take (framed label ls).stop).drop ((framed label ls).stop - rest.length) = rest := by
  have hsuffix : rest <:+ ls.take (framed label ls).stop := by
    rw [take_stop]
    exact h.trans (List.suffix_append _ _)
  have hdrop := List.suffix_iff_eq_drop.mp hsuffix
  rw [length_take_stop] at hdrop
  exact hdrop.symm

theorem length_le_stop (h : rest <:+ (framed label ls).body) :
    (framed label ls).start ≤ (framed label ls).stop - rest.length ∧
      rest.length ≤ (framed label ls).stop := by
  have hle : rest.length ≤ (framed label ls).body.length := h.length_le
  unfold Framed.stop
  omega

theorem isPlace_of_suffix (h : rest <:+ (framed label ls).body) :
    Mismatch.IsPlace label ls ((framed label ls).stop - rest.length)
      (rest.take Mismatch.context) := by
  obtain ⟨hstart, hle⟩ := length_le_stop h
  refine ⟨hstart, Nat.sub_le _ _, ?_⟩
  have hdrop := drop_take_stop h
  rw [List.drop_take, Nat.sub_sub_self hle] at hdrop
  rw [Nat.sub_sub_self hle, ← List.take_take, hdrop]

/-- The body is at its end where nothing is left of it. -/
theorem eq_stop_iff (h : rest <:+ (framed label ls).body) :
    (framed label ls).stop - rest.length = (framed label ls).stop ↔ rest = [] := by
  obtain ⟨-, hle⟩ := length_le_stop h
  rw [← List.length_eq_zero_iff]
  omega

/-- What is left of the body are the lines of the listing from the index on. -/
theorem getElem?_of_suffix (h : rest <:+ (framed label ls).body) (k : Nat) (l : Line) :
    rest[k]? = some l ↔
      (framed label ls).stop - rest.length + k < (framed label ls).stop ∧
        ls[(framed label ls).stop - rest.length + k]? = some l := by
  have hdrop := congrArg (·[k]?) (drop_take_stop h)
  simp only [List.getElem?_drop] at hdrop
  rw [← hdrop, List.getElem?_take, Option.ite_none_right_eq_some]

end Place

/-! ### Mismatches -/

/-- What a mismatch says is true of the two listings. -/
structure Mismatch.IsFaithful (rules : List Rule) (label : String) (source decoded : List Line)
    (mm : Mismatch) : Prop where
  /-- The source index and the source lines belong together. -/
  source_place : IsPlace label source mm.sourceIndex mm.sourceRemainder
  /-- The decoded index and the decoded lines belong together. -/
  decoded_place : IsPlace label decoded mm.decodedIndex mm.decodedRemainder
  /-- At a divergence both bodies go on, with lines that differ; the decoded line is no wait that
  could be passed over, and the rule is the first that applies, which does not make the lines
  equal. -/
  divergence : mm.kind = .divergence →
    mm.sourceIndex < (framed label source).stop ∧
    mm.decodedIndex < (framed label decoded).stop ∧
    ∃ a d, source[mm.sourceIndex]? = some a ∧ decoded[mm.decodedIndex]? = some d ∧ a ≠ d ∧
      ¬ (d.isWait = true ∧ a.isWait = false ∧
        mm.decodedIndex + 1 < (framed label decoded).stop ∧
          decoded[mm.decodedIndex + 1]? = some a) ∧
      mm.rule? = (firstApplicable? rules a d).map (fun q => q.1.name) ∧
      ∀ q ∈ firstApplicable? rules a d, q.2 ≠ d
  /-- Where a stream is incomplete, one of the bodies is at its end and the other is not. -/
  incomplete : mm.kind = .incompleteStream →
    (mm.sourceIndex = (framed label source).stop ↔
      mm.decodedIndex ≠ (framed label decoded).stop) ∧ mm.rule? = none

/-- The indices of a mismatch are as far from the ends of the bodies as the walk was. -/
theorem Walk.indices_of_mismatch {w : Walk} {source decoded : Framed} {mm : Mismatch}
    (h : w.verdict source decoded = .mismatch mm) :
    mm.sourceIndex = source.stop - w.source.length ∧
      mm.decodedIndex = decoded.stop - w.decoded.length := by
  unfold Walk.verdict at h
  split at h
  · cases h
  · cases h
    exact ⟨rfl, rfl⟩

/-- The mismatch of a walk over two bodies is true of the listings. -/
theorem Mismatch.isFaithful_of_walk {rules : List Rule} {label : String}
    {source decoded : List Line} {mm : Mismatch}
    (h : (walk rules (framed label source).body (framed label decoded).body).verdict
      (framed label source) (framed label decoded) = .mismatch mm) :
    mm.IsFaithful rules label source decoded := by
  obtain ⟨hs, hd⟩ := walk_suffix rules (framed label source).body (framed label decoded).body
  have hstop := stop_of_walk rules (framed label source).body (framed label decoded).body
  -- from here on the walk matters only through what is left of the bodies
  generalize walk rules (framed label source).body (framed label decoded).body = w at *
  unfold Walk.verdict at h
  split at h
  · cases h
  · next hne =>
    cases h
    rcases hstop with ⟨hnil, hrule⟩ | ⟨a, as, d, bs, hsource, hdecoded, hun⟩
    · refine ⟨isPlace_of_suffix hs, isPlace_of_suffix hd, fun hkind => ?_, fun _ => ⟨?_, hrule⟩⟩
      · have hempty : (w.source.isEmpty || w.decoded.isEmpty) = true := by
          rcases hnil with hnil | hnil <;> simp [hnil]
        rw [if_pos hempty] at hkind
        cases hkind
      · rw [eq_stop_iff hs, Ne, eq_stop_iff hd]
        rw [Bool.and_eq_true, List.isEmpty_iff, List.isEmpty_iff] at hne
        tauto
    · refine ⟨isPlace_of_suffix hs, isPlace_of_suffix hd, fun _ => ?_, fun hkind => ?_⟩
      · have ha := (getElem?_of_suffix hs 0 a).mp (by rw [hsource]; rfl)
        have hb := (getElem?_of_suffix hd 0 d).mp (by rw [hdecoded]; rfl)
        refine ⟨ha.1, hb.1, a, d, ha.2, hb.2, hun.ne, ?_, hun.rule_eq, hun.respelled_ne⟩
        rintro ⟨hwait, hkeep, hnext⟩
        have hhead : bs.head? = some a := by
          have h1 := (getElem?_of_suffix hd 1 a).mpr hnext
          rwa [hdecoded, List.getElem?_cons_succ, ← List.head?_eq_getElem?] at h1
        have habs := absorbsWait_iff.mpr ⟨hwait, hkeep, hhead⟩
        rw [hun.not_absorbed] at habs
        cases habs
      · rw [hsource, hdecoded] at hkind
        cases hkind

/-! ### How far alignments reach -/

/-- Where rules keep waits, no alignment of the beginnings of two listings reaches into what a walk
leaves of the source listing. -/
theorem length_le_of_aligned {rules : List Rule} (h : KeepsWaits rules) {as bs as' bs' : List Line}
    (hal : Aligned rules as' bs') (has : as' <+: as) (hbs : bs' <+: bs) :
    as'.length + (walk rules as bs).source.length ≤ as.length := by
  obtain ⟨as₂, rfl⟩ := has
  obtain ⟨bs₂, rfl⟩ := hbs
  rw [(rest_walk_of_aligned h hal as₂ bs₂).1, List.length_append]
  have hle := (walk_suffix rules as₂ bs₂).1.length_le
  omega

/-- **A mismatch is true of the listings, and no alignment reaches further.**  The mismatch that a
comparison finds has its indices in the two bodies and shows the lines that follow there.  At a
divergence nothing bridges the two lines in front, and the rule is the one that applied in vain;
where a stream is incomplete, exactly one body is at its end.  With the standard rules, no
alignment of a beginning of the source body with a beginning of the decoded body goes beyond the
source index. -/
theorem isFaithful_of_compare {m : Matcher} {source decoded : List Line} {mm : Mismatch}
    (h : (m.compare source decoded).verdict = .mismatch mm) :
    mm.IsFaithful m.rules m.entryLabel source decoded ∧
      (m.rules = standardRules → ∀ as bs, as <+: (framed m.entryLabel source).body →
        bs <+: (framed m.entryLabel decoded).body → Aligned m.rules as bs →
          (framed m.entryLabel source).start + as.length ≤ mm.sourceIndex) := by
  refine ⟨Mismatch.isFaithful_of_walk h, fun hrules as bs has hbs hal => ?_⟩
  have hkeeps : KeepsWaits m.rules := hrules ▸ keepsWaits_standardRules
  have hle := length_le_of_aligned hkeeps hal has hbs
  rw [(Walk.indices_of_mismatch h).1]
  unfold Framed.stop
  omega

/-- A divergence behind a prologue, at a rule that renames the line but keeps its operand size. -/
theorem isFaithful_of_kept_size :
    let source : List Line := [.parse "ideal", .parse "org 0100h", .parse "nop",
      .parse "sal [byte bx], 1", .parse "ends"]
    let decoded : List Line := [.parse "nop", .parse "shl [bx], 1"]
    let mm : Mismatch :=
      { kind := .divergence, sourceIndex := 3, decodedIndex := 1
        sourceRemainder := [.parse "sal [byte bx], 1"]
        decodedRemainder := [.parse "shl [bx], 1"]
        rule? := some "shift synonym" }
    (Matcher.standard.compare source decoded).verdict = .mismatch mm ∧
      mm.IsFaithful standardRules "start" source decoded ∧
        ∀ as bs, as <+: [Line.parse "nop", .parse "sal [byte bx], 1"] → bs <+: decoded →
          Aligned standardRules as bs → 2 + as.length ≤ 3 := by
  intro source decoded mm
  have hverdict : (Matcher.standard.compare source decoded).verdict = .mismatch mm := by decide
  obtain ⟨hfaithful, hfurthest⟩ := isFaithful_of_compare hverdict
  exact ⟨hverdict, hfaithful, hfurthest rfl⟩

end AsmPair
