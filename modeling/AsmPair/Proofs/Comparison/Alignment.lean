import AsmPair.Comparison.Verdict
import AsmPair.Proofs.Spelling.Scope
import Mathlib.Data.List.Forall2

/-!
# Alignments of two listings

The walk over two listings looks one line ahead and takes no step back.  An alignment is what it
is meant to find: a cut of the decoded listing into blocks, one for each source line, where a block
is an equal line, the source line in another spelling, or a wait in front of an equal line.  The
walk finds an alignment if there is one, as long as no rule spells a line as a wait that is not a
wait itself.

## Main definitions

* `Block`, `Aligned` — alignments.
* `KeepsWaits` — the condition on the rules.

## Main results

* `aligned_of_finished`, `finished_of_aligned` — the walk reaches both ends only, and always,
  along an alignment.
* `compare_matched_iff_aligned` — listings match under the standard rules exactly if their bodies
  are aligned.
-/

namespace AsmPair

/-! ### Alignments -/

/-- The decoded lines that may stand for one source line. -/
inductive Block (rules : List Rule) (a : Line) : List Line → Prop where
  /-- The line itself. -/
  | equal : Block rules a [a]
  /-- A line that the first applicable rule makes of it. -/
  | respelled {r : Rule} {d : Line} (h : firstApplicable? rules a d = some (r, d)) :
    Block rules a [d]
  /-- The line itself after a wait, if it is not a wait. -/
  | wait {w : Line} (hw : w.isWait = true) (ha : a.isWait = false) : Block rules a [w, a]

/-- The decoded lines can be cut into blocks, one for each source line. -/
def Aligned (rules : List Rule) (source decoded : List Line) : Prop :=
  ∃ blocks, List.Forall₂ (Block rules) source blocks ∧ blocks.flatten = decoded

namespace Aligned

variable {rules : List Rule} {a : Line} {as bs : List Line}

@[simp] theorem nil_iff : Aligned rules [] bs ↔ bs = [] := by
  constructor
  · rintro ⟨blocks, hblocks, rfl⟩
    rw [List.forall₂_nil_left_iff.mp hblocks]
    rfl
  · rintro rfl
    exact ⟨[], List.Forall₂.nil, rfl⟩

@[simp] theorem cons_iff : Aligned rules (a :: as) bs ↔
    ∃ block rest, Block rules a block ∧ Aligned rules as rest ∧ bs = block ++ rest := by
  constructor
  · rintro ⟨blocks, hblocks, rfl⟩
    obtain ⟨block, others, hb, hothers, rfl⟩ := List.forall₂_cons_left_iff.mp hblocks
    exact ⟨block, others.flatten, hb, ⟨others, hothers, rfl⟩, List.flatten_cons⟩
  · rintro ⟨block, rest, hb, ⟨others, hothers, rfl⟩, rfl⟩
    exact ⟨block :: others, List.Forall₂.cons hb hothers, List.flatten_cons⟩

/-- A first block is all that an alignment of one more line needs. -/
theorem cons {block : List Line} (hb : Block rules a block) (h : Aligned rules as bs) :
    Aligned rules (a :: as) (block ++ bs) :=
  cons_iff.mpr ⟨block, bs, hb, h, rfl⟩

/-- Where the decoded lines start with the source line, that line is a block: no wait can stand
for it. -/
theorem of_cons_self (ha : a.isWait = false) (h : Aligned rules (a :: as) (a :: bs)) :
    Aligned rules as bs := by
  obtain ⟨block, rest, hb, hrest, he⟩ := cons_iff.mp h
  cases hb with
  | equal =>
    injection he with _ he
    exact he ▸ hrest
  | respelled _ =>
    injection he with _ he
    exact he ▸ hrest
  | wait hw _ =>
    injection he with hwa _
    rw [hwa, hw] at ha
    cases ha

end Aligned

/-! ### Steps of the walk -/

theorem absorbsWait_iff {a b : Line} {bs : List Line} :
    absorbsWait a b bs = true ↔ b.isWait = true ∧ a.isWait = false ∧ bs.head? = some a := by
  rw [absorbsWait, Bool.and_eq_true, Bool.and_eq_true, Bool.not_eq_true', beq_iff_eq, and_assoc]

variable {rules : List Rule}

/-- A wait in front of an equal line is passed over, and then that line. -/
theorem walk_wait {a w : Line} (hw : w.isWait = true) (ha : a.isWait = false)
    (as bs : List Line) :
    walk rules (a :: as) (w :: a :: bs) =
      ((walk rules as bs).after .equal).after .waitAbsorbed := by
  have hne : a ≠ w := by
    rintro rfl
    rw [hw] at ha
    cases ha
  rw [walk, if_neg hne, if_pos (absorbsWait_iff.mpr ⟨hw, ha, rfl⟩), walk_cons_self]

/-- A line in another spelling is passed, if nothing is to be absorbed. -/
theorem walk_alias {a d : Line} {r : Rule} (hne : a ≠ d) {bs : List Line}
    (hwait : absorbsWait a d bs = false) (h : firstApplicable? rules a d = some (r, d))
    (as : List Line) :
    walk rules (a :: as) (d :: bs) = (walk rules as bs).after (.alias r.name) := by
  rw [walk, if_neg hne, if_neg (by rw [hwait]; exact Bool.false_ne_true), h]
  exact if_pos rfl

namespace Walk

/-- Both listings have been walked to the end. -/
def Finished (w : Walk) : Prop := w.source = [] ∧ w.decoded = []

@[simp] theorem verdict_eq_matched_iff {w : Walk} {source decoded : Framed} :
    w.verdict source decoded = .matched ↔ w.Finished := by
  rw [verdict, Finished, ← List.isEmpty_iff, ← List.isEmpty_iff, ← Bool.and_eq_true]
  constructor
  · intro h
    split at h
    · next he => exact he
    · cases h
  · intro h
    rw [if_pos h]

end Walk

/-- The walk reaches both ends along an alignment only. -/
theorem aligned_of_finished {as bs : List Line} (h : (walk rules as bs).Finished) :
    Aligned rules as bs := by
  fun_induction walk rules as bs with
  | case1 as b bs ih => exact (ih h).cons .equal
  | case2 a as b bs _ habs ih =>
    obtain ⟨hb, ha, hhead⟩ := absorbsWait_iff.mp habs
    obtain ⟨bs', rfl⟩ := List.head?_eq_some_iff.mp hhead
    -- the next step passes `a`, so what comes after it is aligned
    exact (Aligned.of_cons_self ha (ih h)).cons (.wait hb ha)
  | case3 a as bs r b _ _ hfirst ih => exact (ih h).cons (.respelled hfirst)
  | case4 => cases h.1
  | case5 => cases h.1
  | case6 as bs _ =>
    obtain ⟨hs, hd⟩ := h
    change as = [] at hs
    change bs = [] at hd
    rw [hs, hd]
    exact Aligned.nil_iff.mpr rfl

/-! ### Rules that keep waits -/

/-- No line that is not a wait is spelled as a wait. -/
def KeepsWaits (rules : List Rule) : Prop :=
  ∀ a d r, firstApplicable? rules a d = some (r, d) → d.isWait = true → a.isWait = true

/-- The walk passes any block, and goes on after it. -/
theorem rest_walk_block (h : KeepsWaits rules) {a : Line} {block : List Line}
    (hb : Block rules a block) (as bs : List Line) :
    (walk rules (a :: as) (block ++ bs)).source = (walk rules as bs).source ∧
      (walk rules (a :: as) (block ++ bs)).decoded = (walk rules as bs).decoded := by
  cases hb with
  | equal =>
    rw [List.singleton_append, walk_cons_self]
    exact ⟨rfl, rfl⟩
  | @respelled r d hfirst =>
    rw [List.singleton_append]
    by_cases hne : a = d
    · rw [← hne, walk_cons_self]
      exact ⟨rfl, rfl⟩
    · have hwait : absorbsWait a d bs = false := by
        rw [← Bool.not_eq_true, absorbsWait_iff]
        rintro ⟨hd, ha, -⟩
        rw [h a d r hfirst hd] at ha
        cases ha
      rw [walk_alias hne hwait hfirst]
      exact ⟨rfl, rfl⟩
  | wait hw ha =>
    rw [List.cons_append, List.singleton_append, walk_wait hw ha]
    exact ⟨rfl, rfl⟩

/-- The walk passes aligned listings, and goes on after them. -/
theorem rest_walk_of_aligned (h : KeepsWaits rules) {as bs : List Line}
    (hal : Aligned rules as bs) (as' bs' : List Line) :
    (walk rules (as ++ as') (bs ++ bs')).source = (walk rules as' bs').source ∧
      (walk rules (as ++ as') (bs ++ bs')).decoded = (walk rules as' bs').decoded := by
  induction as generalizing bs with
  | nil =>
    rw [Aligned.nil_iff.mp hal]
    exact ⟨rfl, rfl⟩
  | cons a as ih =>
    obtain ⟨block, rest, hb, hrest, rfl⟩ := Aligned.cons_iff.mp hal
    obtain ⟨hsource, hdecoded⟩ := rest_walk_block h hb (as ++ as') (rest ++ bs')
    obtain ⟨ihsource, ihdecoded⟩ := ih hrest
    rw [List.cons_append, List.append_assoc]
    exact ⟨hsource.trans ihsource, hdecoded.trans ihdecoded⟩

/-- The walk reaches both ends wherever there is an alignment. -/
theorem finished_of_aligned (h : KeepsWaits rules) {as bs : List Line}
    (hal : Aligned rules as bs) : (walk rules as bs).Finished := by
  have hrest := rest_walk_of_aligned h hal [] []
  rwa [List.append_nil, List.append_nil, walk_nil_left] at hrest

/-! ### The standard rules -/

/-- Whether the source mnemonic is a wait wherever the decoded one is. -/
def Mnemonics.keepsWaits : Mnemonics → Bool
  | among pairs => pairs.all fun p => !waitMnemonics.contains p.2 || waitMnemonics.contains p.1
  | kept _ => true

theorem Mnemonics.wait_of_keepsWaits {s : Mnemonics} (h : s.keepsWaits = true) {m n : String}
    (hs : s.Holds m n) (hn : waitMnemonics.contains n = true) :
    waitMnemonics.contains m = true := by
  match s with
  | among pairs =>
    have hp := List.all_eq_true.mp h (m, n) hs
    rwa [hn, Bool.not_true, Bool.false_or] at hp
  | kept start =>
    obtain ⟨rfl, -⟩ := hs
    exact hn

/-- A table keeps waits if the scopes of its rules do. -/
theorem keepsWaits_of_scopes (h : ∀ r ∈ rules, r.respelling.scope.mnemonics.keepsWaits = true) :
    KeepsWaits rules := by
  intro a d r hfirst hd
  obtain ⟨hmem, hrespell⟩ := mem_of_firstApplicable? hfirst
  have hscope := Respelling.scope_holds_of_respell? hrespell
  exact Mnemonics.wait_of_keepsWaits (h r hmem) hscope.mnemonics hd

theorem keepsWaits_standardRules : KeepsWaits standardRules :=
  keepsWaits_of_scopes (by decide)

/-- **Listings match under the standard rules exactly if their bodies are aligned**: the decoded
body can be cut into one block for each line of the source body.  In particular no step of the walk
loses an alignment. -/
theorem compare_matched_iff_aligned (label : String) (source decoded : List Line) :
    ((Matcher.ofLabel label).compare source decoded).verdict = .matched ↔
      Aligned standardRules (framed label source).body (framed label decoded).body := by
  rw [Matcher.compare, Walk.verdict_eq_matched_iff]
  exact ⟨aligned_of_finished, finished_of_aligned keepsWaits_standardRules⟩

end AsmPair
