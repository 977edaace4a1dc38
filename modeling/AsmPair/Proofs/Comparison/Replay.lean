import AsmPair.Proofs.Comparison.Mismatch

/-!
# Replaying the steps of a comparison

The steps that a comparison reports can be checked against the two listings without the walk that
found them.  A replay starts where the bodies start.  It takes one step after the other, as long as
the lines in front allow the step, and ends where the comparison says that it ended.

## Main definitions

* `Position` — a place in each of two listings.
* `Step.isLegal`, `Step.advance?`, `replay?` — the check of one step and of a list of steps.
* `WaitsPaired` — a wait is passed over in front of equal lines only.

## Main results

* `replay?_walk` — the steps of a walk can be replayed to where the walk ended.
* `length_walk` — how many lines of each listing the steps of a walk pass.
* `replay?_compare_steps` — the steps of a comparison account for its verdict.
-/

namespace AsmPair

/-! ### The check -/

/-- A place in each of two listings. -/
structure Position where
  /-- How many source lines come before it. -/
  source : Nat
  /-- How many decoded lines come before it. -/
  decoded : Nat
  deriving DecidableEq, Repr

namespace Step

/-- Whether a step may be taken with the source line `a` and the decoded line `d` in front. -/
def isLegal (rules : List Rule) (a d : Line) : Step → Bool
  | equal => a == d
  | waitAbsorbed => d.isWait && !a.isWait
  | .alias name => (firstApplicable? rules a d).any fun q => q.1.name == name && q.2 == d

/-- How many source lines a step passes.  It passes one decoded line in any case. -/
def sourceLines : Step → Nat
  | equal => 1
  | waitAbsorbed => 0
  | .alias _ => 1

/-- The position after a step, if both listings have a line in front that allows it. -/
def advance? (rules : List Rule) (source decoded : List Line) (p : Position) (step : Step) :
    Option Position :=
  match source[p.source]?, decoded[p.decoded]? with
  | some a, some d =>
    if step.isLegal rules a d then some ⟨p.source + step.sourceLines, p.decoded + 1⟩ else none
  | _, _ => none

end Step

/-- The position after a list of steps, if each of them may be taken. -/
def replay? (rules : List Rule) (source decoded : List Line) :
    Position → List Step → Option Position
  | p, [] => some p
  | p, step :: steps =>
    (step.advance? rules source decoded p).bind fun q => replay? rules source decoded q steps

/-- Each wait that is passed over is followed by a step over equal lines. -/
def WaitsPaired (steps : List Step) : Prop :=
  ∀ k, steps[k]? = some .waitAbsorbed → steps[k + 1]? = some .equal

/-- Where a verdict says that the walk over two bodies ended. -/
def Verdict.position (source decoded : Framed) : Verdict → Position
  | .matched => ⟨source.stop, decoded.stop⟩
  | .mismatch m => ⟨m.sourceIndex, m.decodedIndex⟩

/-! ### Replaying a walk -/

variable {rules : List Rule}

/-- A legal step goes past the lines in front. -/
theorem replay?_cons_of_isLegal {a d : Line} {step : Step} (h : step.isLegal rules a d = true)
    (xs ys as bs : List Line) (steps : List Step) :
    replay? rules (xs ++ a :: as) (ys ++ d :: bs) ⟨xs.length, ys.length⟩ (step :: steps) =
      replay? rules (xs ++ a :: as) (ys ++ d :: bs)
        ⟨xs.length + step.sourceLines, ys.length + 1⟩ steps := by
  have hstep : step.advance? rules (xs ++ a :: as) (ys ++ d :: bs) ⟨xs.length, ys.length⟩ =
      some ⟨xs.length + step.sourceLines, ys.length + 1⟩ := by
    unfold Step.advance?
    simp only [List.getElem?_append_right (Nat.le_refl _), Nat.sub_self, List.getElem?_cons_zero]
    rw [if_pos h]
  rw [replay?, hstep, Option.bind_some]

/-- A legal step that passes a line of each listing. -/
theorem replay?_cons_both {a d : Line} {step : Step} (h : step.isLegal rules a d = true)
    (hone : step.sourceLines = 1) (xs ys as bs : List Line) (steps : List Step) :
    replay? rules (xs ++ a :: as) (ys ++ d :: bs) ⟨xs.length, ys.length⟩ (step :: steps) =
      replay? rules ((xs ++ [a]) ++ as) ((ys ++ [d]) ++ bs)
        ⟨(xs ++ [a]).length, (ys ++ [d]).length⟩ steps := by
  rw [replay?_cons_of_isLegal h, hone, List.length_append, List.length_append, List.append_assoc,
    List.append_assoc]
  rfl

/-- **The steps of a walk can be replayed to where the walk ended**, whatever lines `xs` and `ys`
come before the listings that are walked. -/
theorem replay?_walk (rules : List Rule) (xs ys as bs : List Line) :
    replay? rules (xs ++ as) (ys ++ bs) ⟨xs.length, ys.length⟩ (walk rules as bs).steps =
      some ⟨(xs ++ as).length - (walk rules as bs).source.length,
        (ys ++ bs).length - (walk rules as bs).decoded.length⟩ := by
  -- the lines that were passed become part of `xs` and `ys`
  fun_induction walk rules as bs generalizing xs ys with
  | case1 as b bs ih =>
    have hlegal : Step.equal.isLegal rules b b = true := beq_self_eq_true b
    have h := ih (xs ++ [b]) (ys ++ [b])
    rw [← replay?_cons_both hlegal rfl, List.append_assoc, List.append_assoc] at h
    exact h
  | case2 a as b bs _ habs ih =>
    obtain ⟨hb, ha, -⟩ := absorbsWait_iff.mp habs
    have hlegal : Step.waitAbsorbed.isLegal rules a b = true := by
      rw [Step.isLegal, hb, ha]
      rfl
    have h := ih xs (ys ++ [b])
    rw [List.length_append, List.length_singleton, List.append_assoc] at h
    exact (replay?_cons_of_isLegal hlegal xs ys as bs _).trans h
  | case3 a as bs r b _ _ hfirst ih =>
    have hlegal : (Step.alias r.name).isLegal rules a b = true := by
      rw [Step.isLegal, hfirst]
      simp
    have h := ih (xs ++ [a]) (ys ++ [b])
    rw [← replay?_cons_both hlegal rfl, List.append_assoc, List.append_assoc] at h
    exact h
  | case4 | case5 | case6 => simp [replay?]

/-! ### Counting steps -/

/-- Each step passes one decoded line, and one source line unless it passes over a wait. -/
theorem length_walk (rules : List Rule) (as bs : List Line) :
    bs.length = (walk rules as bs).steps.length + (walk rules as bs).decoded.length ∧
      as.length + (walk rules as bs).steps.count .waitAbsorbed =
        (walk rules as bs).steps.length + (walk rules as bs).source.length := by
  fun_induction walk rules as bs with
  | case1 as b bs ih =>
    simp only [Walk.steps_after, Walk.source_after, Walk.decoded_after, List.length_cons]
    rw [List.count_cons_of_ne (by decide)]
    omega
  | case2 a as b bs _ _ ih =>
    simp only [Walk.steps_after, Walk.source_after, Walk.decoded_after, List.length_cons,
      List.count_cons_self] at ih ⊢
    omega
  | case3 a as bs r b _ _ _ ih =>
    simp only [Walk.steps_after, Walk.source_after, Walk.decoded_after, List.length_cons]
    rw [List.count_cons_of_ne (by simp)]
    omega
  | case4 | case5 | case6 => simp

namespace WaitsPaired

theorem cons {step : Step} {steps : List Step} (h : WaitsPaired steps)
    (hstep : step = .waitAbsorbed → steps.head? = some .equal) : WaitsPaired (step :: steps) := by
  intro k hk
  cases k with
  | zero =>
    rw [List.getElem?_cons_zero, Option.some.injEq] at hk
    rw [List.getElem?_cons_succ, ← List.head?_eq_getElem?]
    exact hstep hk
  | succ k =>
    rw [List.getElem?_cons_succ] at hk ⊢
    exact h k hk

theorem tail {step : Step} {steps : List Step} (h : WaitsPaired (step :: steps)) :
    WaitsPaired steps := by
  intro k hk
  have hstep := h (k + 1)
  rw [List.getElem?_cons_succ, List.getElem?_cons_succ] at hstep
  exact hstep hk

/-- At most every other step passes over a wait. -/
theorem two_mul_count_le : ∀ {steps : List Step}, WaitsPaired steps →
    2 * steps.count .waitAbsorbed ≤ steps.length
  | [], _ => Nat.le_refl _
  | .waitAbsorbed :: steps, h => by
    have hnext : steps.head? = some .equal := by
      rw [List.head?_eq_getElem?]
      exact h 0 rfl
    obtain ⟨rest, rfl⟩ := List.head?_eq_some_iff.mp hnext
    have ih := two_mul_count_le h.tail.tail
    rw [List.count_cons_self, List.count_cons_of_ne (by decide), List.length_cons,
      List.length_cons]
    omega
  | .equal :: steps, h | .alias name :: steps, h => by
    have ih := two_mul_count_le h.tail
    rw [List.count_cons_of_ne (by simp), List.length_cons]
    omega

end WaitsPaired

/-- A walk passes over a wait only in front of equal lines. -/
theorem waitsPaired_walk (rules : List Rule) (as bs : List Line) :
    WaitsPaired (walk rules as bs).steps := by
  fun_induction walk rules as bs with
  | case1 as b bs ih => exact ih.cons (by simp)
  | case2 a as b bs _ habs ih =>
    obtain ⟨-, -, hhead⟩ := absorbsWait_iff.mp habs
    obtain ⟨bs', rfl⟩ := List.head?_eq_some_iff.mp hhead
    refine ih.cons fun _ => ?_
    rw [walk_cons_self]
    rfl
  | case3 a as bs r b _ _ _ ih => exact ih.cons (by simp)
  | case4 | case5 | case6 => intro k hk; simp at hk

/-! ### Comparisons -/

/-- A comparison ends where its walk over the bodies ends. -/
theorem Walk.position_verdict (w : Walk) (source decoded : Framed) :
    (w.verdict source decoded).position source decoded =
      ⟨source.stop - w.source.length, decoded.stop - w.decoded.length⟩ := by
  match h : w.verdict source decoded with
  | .matched =>
    obtain ⟨hs, hd⟩ := Walk.verdict_eq_matched_iff.mp h
    rw [hs, hd]
    rfl
  | .mismatch mm =>
    obtain ⟨hs, hd⟩ := Walk.indices_of_mismatch h
    rw [← hs, ← hd]
    rfl

/-- **The steps of a comparison account for its verdict.**  Replayed from the starts of the two
bodies, each of them may be taken, and they end at the ends of both bodies if the listings match,
and where the mismatch was found if they do not.  Waits are passed over in front of equal lines
only; where the listings match, their number is what the decoded body is longer by, and it is not
greater than the length of the source body. -/
theorem replay?_compare_steps (m : Matcher) (source decoded : List Line) :
    let a := framed m.entryLabel source
    let b := framed m.entryLabel decoded
    let c := m.compare source decoded
    replay? m.rules (source.take a.stop) (decoded.take b.stop) ⟨a.start, b.start⟩ c.steps =
        some (c.verdict.position a b) ∧
      WaitsPaired c.steps ∧
      (c.verdict = .matched →
        b.body.length = a.body.length + c.steps.count .waitAbsorbed ∧
          c.steps.count .waitAbsorbed ≤ a.body.length) := by
  intro a b c
  have hpaired : WaitsPaired c.steps := waitsPaired_walk m.rules a.body b.body
  refine ⟨?_, hpaired, fun hmatched => ?_⟩
  · have hreplay := replay?_walk m.rules (source.take a.start) (decoded.take b.start) a.body b.body
    rw [← take_stop, ← take_stop, length_take_start, length_take_start, length_take_stop,
      length_take_stop] at hreplay
    exact hreplay.trans (congrArg some (Walk.position_verdict _ _ _).symm)
  · obtain ⟨hs, hd⟩ := Walk.verdict_eq_matched_iff.mp hmatched
    have hsteps : b.body.length = c.steps.length ∧
        a.body.length + c.steps.count .waitAbsorbed = c.steps.length := by
      have hlength := length_walk m.rules a.body b.body
      rwa [hs, hd, List.length_nil, Nat.add_zero] at hlength
    have hle := hpaired.two_mul_count_le
    omega

/-- A step over lines that differ is refused. -/
example : replay? standardRules [.parse "nop"] [.parse "wait"] ⟨0, 0⟩ [.equal] = none := by
  decide

end AsmPair
