import AsmPair.Proofs.Comparison.Extension

/-!
# Divergences are local

A walk looks at one decoded line beyond the two lines in front, to see whether a wait may be passed
over, and at nothing further.  Where it stops in front of two lines and another decoded line, what
comes after these lines has no part in it: the same beginnings lead to the same steps and to the
same stop, whatever follows them.

## Main results

* `exists_walk_of_stop` — a walk that stopped does so as well with other lines after the stop.
* `divergence_is_local` — the beginnings of two bodies decide where they diverge.
-/

namespace AsmPair

/-! ### What a walk looks at -/

section Walk

variable {rules : List Rule} {a d next : Line} {as bs as₂ bs₂ : List Line}

/-- Whether a wait is passed over depends on the next decoded line only. -/
theorem absorbsWait_congr {rest rest' : List Line} (h : rest.head? = rest'.head?) (a b : Line) :
    absorbsWait a b rest = absorbsWait a b rest' := by
  unfold absorbsWait
  rw [h]

/-- Lines that nothing bridges stay so if the decoded line after them stays. -/
theorem Unbridged.congr {rest rest' : List Line} {rule? : Option String}
    (h : Unbridged rules a d rest rule?) (hrest : rest.head? = rest'.head?) :
    Unbridged rules a d rest' rule? :=
  ⟨h.ne, absorbsWait_congr hrest a d ▸ h.not_absorbed, h.rule_eq, h.respelled_ne⟩

/-- Lines behind another one are not in front. -/
theorem head?_append_cons (xs : List Line) (l : Line) (ys ys' : List Line) :
    (xs ++ l :: ys).head? = (xs ++ l :: ys').head? := by
  cases xs <;> rfl

/-- The lines that a walk passed lead to its stop, by the same steps, in front of other lines as
well, as long as nothing bridges the lines of the stop. -/
theorem exists_walk_of_unbridged (hs : (walk rules as bs).source = a :: as₂)
    (hd : (walk rules as bs).decoded = d :: next :: bs₂)
    (hun : Unbridged rules a d (next :: bs₂) (walk rules as bs).rule?) :
    ∃ passed passed', as = passed ++ a :: as₂ ∧ bs = passed' ++ d :: next :: bs₂ ∧
      ∀ as' bs', walk rules (passed ++ a :: as') (passed' ++ d :: next :: bs') =
        ⟨(walk rules as bs).steps, a :: as', d :: next :: bs', (walk rules as bs).rule?⟩ := by
  fun_induction walk rules as bs with
  | case1 as b bs ih =>
    obtain ⟨xs, ys, rfl, rfl, hwalk⟩ := ih hs hd hun
    refine ⟨b :: xs, b :: ys, rfl, rfl, fun as' bs' => ?_⟩
    rw [List.cons_append, List.cons_append, walk_cons_self, hwalk]
    rfl
  | case2 x as b bs hne habs ih =>
    obtain ⟨xs, ys, hxs, rfl, hwalk⟩ := ih hs hd hun
    refine ⟨xs, b :: ys, hxs, rfl, fun as' bs' => ?_⟩
    -- the source line in front was not passed with the wait
    have hfront : (xs ++ a :: as').head? = some x := by
      rw [head?_append_cons xs a as' as₂, ← hxs]
      rfl
    obtain ⟨zs, hzs⟩ := List.head?_eq_some_iff.mp hfront
    have habs' : absorbsWait x b (ys ++ d :: next :: bs') = true :=
      absorbsWait_congr (head?_append_cons ys d _ _) x b ▸ habs
    rw [List.cons_append, hzs, walk, if_neg hne, if_pos habs', ← hzs, hwalk]
    rfl
  | case3 x as bs r b hne habs hfirst ih =>
    obtain ⟨xs, ys, rfl, rfl, hwalk⟩ := ih hs hd hun
    refine ⟨x :: xs, b :: ys, rfl, rfl, fun as' bs' => ?_⟩
    have habs' : absorbsWait x b (ys ++ d :: next :: bs') = false := by
      rw [absorbsWait_congr (head?_append_cons ys d _ (next :: bs₂))]
      simpa using habs
    rw [List.cons_append, List.cons_append, walk_alias hne habs' hfirst, hwalk]
    rfl
  -- at the stop itself nothing has been passed
  | case4 | case5 | case6 =>
    refine ⟨[], [], hs, hd, fun as' bs' => ?_⟩
    have hun' : Unbridged rules a d (next :: bs') _ := hun.congr rfl
    exact walk_of_unbridged hun' as'

/-- **What comes after the stop of a walk has no part in it.** -/
theorem exists_walk_of_stop {steps : List Step} {rule? : Option String}
    (h : walk rules as bs = ⟨steps, a :: as₂, d :: next :: bs₂, rule?⟩) :
    ∃ passed passed', as = passed ++ a :: as₂ ∧ bs = passed' ++ d :: next :: bs₂ ∧
      ∀ as' bs', walk rules (passed ++ a :: as') (passed' ++ d :: next :: bs') =
        ⟨steps, a :: as', d :: next :: bs', rule?⟩ := by
  have hs : (walk rules as bs).source = a :: as₂ := congrArg Walk.source h
  have hd : (walk rules as bs).decoded = d :: next :: bs₂ := congrArg Walk.decoded h
  have hun : Unbridged rules a d (next :: bs₂) (walk rules as bs).rule? := by
    rcases stop_of_walk rules as bs with ⟨hnil | hnil, -⟩ | ⟨a', as', d', bs', hs', hd', hun⟩
    · rw [hs] at hnil
      cases hnil
    · rw [hd] at hnil
      cases hnil
    · rw [hs] at hs'
      rw [hd] at hd'
      cases hs'
      cases hd'
      exact hun
  have hothers := exists_walk_of_unbridged hs hd hun
  rwa [h] at hothers

end Walk

/-! ### Where a comparison diverges -/

/-- The index of a mismatch is as far into the body as lines were passed. -/
theorem Framed.stop_sub_length {f : Framed} {passed rest : List Line}
    (h : f.body = passed ++ rest) : f.stop - rest.length = f.start + passed.length := by
  unfold stop
  rw [h, List.length_append, ← Nat.add_assoc, Nat.add_sub_cancel]

section Compare

variable {m : Matcher} {source decoded : List Line} {mm : Mismatch}

/-- Where a comparison diverges, both bodies go on, and the walk stopped in front of what is left of
them. -/
theorem exists_stop_of_divergence (h : (m.compare source decoded).verdict = .mismatch mm)
    (hkind : mm.kind = .divergence) :
    ∃ xs a as ys d bs, (framed m.entryLabel source).body = xs ++ a :: as ∧
      (framed m.entryLabel decoded).body = ys ++ d :: bs ∧
      mm.sourceIndex = (framed m.entryLabel source).start + xs.length ∧
      mm.decodedIndex = (framed m.entryLabel decoded).start + ys.length ∧
      walk m.rules (framed m.entryLabel source).body (framed m.entryLabel decoded).body =
        ⟨(m.compare source decoded).steps, a :: as, d :: bs, mm.rule?⟩ := by
  obtain ⟨⟨xs, hxs⟩, ys, hys⟩ := walk_suffix m.rules (framed m.entryLabel source).body
    (framed m.entryLabel decoded).body
  unfold Matcher.compare at h ⊢
  dsimp only at h ⊢
  generalize walk m.rules (framed m.entryLabel source).body (framed m.entryLabel decoded).body = w
    at *
  unfold Walk.verdict at h
  split at h
  · cases h
  · cases h
    have hgoes : ¬ (w.source.isEmpty || w.decoded.isEmpty) = true := by
      intro hempty
      rw [if_pos hempty] at hkind
      cases hkind
    rw [Bool.or_eq_true, not_or, List.isEmpty_iff, List.isEmpty_iff] at hgoes
    obtain ⟨a, as, hs⟩ := List.exists_cons_of_ne_nil hgoes.1
    obtain ⟨d, bs, hd⟩ := List.exists_cons_of_ne_nil hgoes.2
    refine ⟨xs, a, as, ys, d, bs, hs ▸ hxs.symm, hd ▸ hys.symm, Framed.stop_sub_length hxs.symm,
      Framed.stop_sub_length hys.symm, ?_⟩
    rw [← hs, ← hd]

/-- A list that agrees with another one as far as its beginning goes begins in the same way. -/
theorem prefix_of_take_eq {front rest ls : List Line} {n : Nat} (hn : front.length = n)
    (h : ls.take n = (front ++ rest).take n) : front <+: ls := by
  rw [List.take_left' hn] at h
  exact h ▸ List.take_prefix n ls

/-- **A divergence is decided locally.**  Two bodies that diverge, the decoded one not at its last
line, do so because of the lines up to there and the next decoded line.  Bodies that agree with them
so far diverge at the same place, after the same steps and at the same rule, whatever follows. -/
theorem divergence_is_local {source' decoded' : List Line} {i j : Nat}
    (h : (m.compare source decoded).verdict = .mismatch mm) (hkind : mm.kind = .divergence)
    (hi : mm.sourceIndex = (framed m.entryLabel source).start + i)
    (hj : mm.decodedIndex = (framed m.entryLabel decoded).start + j)
    (hnext : j + 1 < (framed m.entryLabel decoded).body.length)
    (hsource : (framed m.entryLabel source').body.take (i + 1) =
      (framed m.entryLabel source).body.take (i + 1))
    (hdecoded : (framed m.entryLabel decoded').body.take (j + 2) =
      (framed m.entryLabel decoded).body.take (j + 2)) :
    (m.compare source' decoded').steps = (m.compare source decoded).steps ∧
      ∃ mm', (m.compare source' decoded').verdict = .mismatch mm' ∧ mm'.kind = .divergence ∧
        mm'.sourceIndex = (framed m.entryLabel source').start + i ∧
        mm'.decodedIndex = (framed m.entryLabel decoded').start + j ∧ mm'.rule? = mm.rule? := by
  obtain ⟨xs, a, as, ys, d, bs, hxs, hys, hsindex, hdindex, hstop⟩ :=
    exists_stop_of_divergence h hkind
  obtain rfl : i = xs.length := by omega
  obtain rfl : j = ys.length := by omega
  -- the decoded body goes on behind the stop
  obtain ⟨next, bs, rfl⟩ : ∃ next bs', bs = next :: bs' := by
    apply List.exists_cons_of_ne_nil
    rintro rfl
    rw [hys, List.length_append, List.length_singleton] at hnext
    omega
  obtain ⟨passed, passed', hpassed, hpassed', hwalk⟩ := exists_walk_of_stop hstop
  obtain rfl : xs = passed := List.append_cancel_right (hxs.symm.trans hpassed)
  obtain rfl : ys = passed' := List.append_cancel_right (hys.symm.trans hpassed')
  rw [hxs, List.append_cons] at hsource
  rw [hys, List.append_cons, List.append_cons] at hdecoded
  obtain ⟨as', has'⟩ := prefix_of_take_eq (by simp) hsource
  obtain ⟨bs', hbs'⟩ := prefix_of_take_eq (by simp) hdecoded
  rw [← List.append_cons] at has'
  rw [← List.append_cons, ← List.append_cons] at hbs'
  have hwalk' : walk m.rules (framed m.entryLabel source').body
      (framed m.entryLabel decoded').body =
      ⟨(m.compare source decoded).steps, a :: as', d :: next :: bs', mm.rule?⟩ :=
    has' ▸ hbs' ▸ hwalk as' bs'
  have hsteps := congrArg Walk.steps hwalk'
  have hverdict := congrArg
    (Walk.verdict · (framed m.entryLabel source') (framed m.entryLabel decoded')) hwalk'
  exact ⟨hsteps, _, hverdict, rfl, Framed.stop_sub_length has'.symm,
    Framed.stop_sub_length hbs'.symm, rfl⟩

end Compare

/-- A divergence at a rule that renames the line but keeps its operand size, and the same one in
other frames and in front of other lines. -/
theorem divergence_is_local_behind_frames :
    let source : List Line := [.parse "nop", .parse "sal [byte bx], 1", .parse "inc ax"]
    let decoded : List Line := [.parse "nop", .parse "shl [bx], 1", .parse "dec ax"]
    let source' : List Line := [.parse "ideal", .parse "org 0100h", .parse "nop",
      .parse "sal [byte bx], 1", .parse "ends"]
    let decoded' : List Line := [.parse "ideal", .parse "nop", .parse "shl [bx], 1",
      .parse "dec ax", .parse "int 3"]
    let mm : Mismatch :=
      { kind := .divergence, sourceIndex := 1, decodedIndex := 1
        sourceRemainder := [.parse "sal [byte bx], 1", .parse "inc ax"]
        decodedRemainder := [.parse "shl [bx], 1", .parse "dec ax"]
        rule? := some "shift synonym" }
    (Matcher.standard.compare source decoded).verdict = .mismatch mm ∧
      (Matcher.standard.compare source' decoded').steps = [.equal] ∧
      ∃ mm', (Matcher.standard.compare source' decoded').verdict = .mismatch mm' ∧
        mm'.kind = .divergence ∧ mm'.sourceIndex = 2 + 1 ∧ mm'.decodedIndex = 1 + 1 ∧
        mm'.rule? = some "shift synonym" := by
  intro source decoded source' decoded' mm
  have hverdict : (Matcher.standard.compare source decoded).verdict = .mismatch mm := by decide
  obtain ⟨hsteps, mm', hmm', hkind, hsindex, hdindex, hrule⟩ :=
    @divergence_is_local Matcher.standard source decoded mm source' decoded' 1 1 hverdict rfl
      (by decide) (by decide) (by decide) (by decide) (by decide)
  exact ⟨hverdict, hsteps.trans (by decide), mm', hmm', hkind, hsindex, hdindex, hrule⟩

/-- At the last decoded line it does matter what follows: a wait is absorbed in front of an
instruction that waits. -/
example :
    (Matcher.standard.compare [.parse "fld st1"] [.parse "wait"]).verdict.isMatch = false ∧
      (Matcher.standard.compare [.parse "fld st1"]
        [.parse "wait", .parse "fld st1"]).verdict.isMatch = true := by decide

end AsmPair
