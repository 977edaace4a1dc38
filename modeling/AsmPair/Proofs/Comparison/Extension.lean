import AsmPair.Proofs.Comparison.Mismatch

/-!
# Rules put at the end of a table

Whoever adds spelling rules to a table adds them at its end.  A walk with the longer table takes all
the steps of the walk with the shorter one, and goes on from the place where that one stopped.  It
can go further only where no rule of the shorter table applied: a rule that applies without making
the lines equal still decides, and the end of a listing is an end under any rules.

## Main definitions

* `Walk.afterAll` — a walk with more steps in front.
* `Walk.IsFinal` — a walk that stopped for a reason that more rules do not remove.
* `Matcher.extended` — a matcher with more rules.

## Main results

* `walk_append_rules` — a walk with more rules goes on where the walk without them stopped.
* `walk_append_rules_of_isFinal` — it goes no further if that walk is final.
* `compare_extended` — rules at the end of a table lose no match, and no step of a comparison.
-/

namespace AsmPair

/-! ### Walks that go on -/

/-- A walk with more steps in front. -/
def Walk.afterAll (steps : List Step) (w : Walk) : Walk := { w with steps := steps ++ w.steps }

namespace Walk

variable (steps : List Step) (w : Walk)

@[simp] theorem steps_afterAll : (w.afterAll steps).steps = steps ++ w.steps := rfl

@[simp] theorem source_afterAll : (w.afterAll steps).source = w.source := rfl

@[simp] theorem decoded_afterAll : (w.afterAll steps).decoded = w.decoded := rfl

@[simp] theorem afterAll_mk (source decoded : List Line) (rule? : Option String) :
    afterAll steps ⟨[], source, decoded, rule?⟩ = ⟨steps, source, decoded, rule?⟩ := by
  rw [afterAll, List.append_nil]

theorem afterAll_append (steps others : List Step) (w : Walk) :
    w.afterAll (steps ++ others) = (w.afterAll others).afterAll steps := by
  rw [afterAll, List.append_assoc]
  rfl

end Walk

variable {rules : List Rule}

/-- A rule that decides between two lines still does so in front of more rules. -/
theorem firstApplicable?_append_of_eq_some {a d : Line} {q : Rule × Line}
    (h : firstApplicable? rules a d = some q) (more : List Rule) :
    firstApplicable? (rules ++ more) a d = some q := by
  rw [firstApplicable?_append, h, Option.some_or]

/-- **A walk with more rules goes on where the walk without them stopped.** -/
theorem walk_append_rules (rules more : List Rule) (as bs : List Line) :
    walk (rules ++ more) as bs =
      (walk (rules ++ more) (walk rules as bs).source (walk rules as bs).decoded).afterAll
        (walk rules as bs).steps := by
  fun_induction walk rules as bs with
  | case1 as b bs ih =>
    rw [walk_cons_self]
    exact congrArg (Walk.after .equal) ih
  | case2 a as b bs hne habs ih =>
    rw [walk, if_neg hne, if_pos habs]
    exact congrArg (Walk.after .waitAbsorbed) ih
  | case3 a as bs r b hne habs hfirst ih =>
    have hmore := firstApplicable?_append_of_eq_some hfirst more
    rw [walk_alias hne (by simpa using habs) hmore]
    exact congrArg (Walk.after (.alias r.name)) ih
  | case4 | case5 | case6 => rfl

/-! ### Walks that stop for good -/

/-- The walk came to the end of a listing, or to two lines for which a rule was applied in vain. -/
def Walk.IsFinal (w : Walk) : Prop :=
  w.source = [] ∨ w.decoded = [] ∨ w.rule?.isSome = true

/-- Lines that nothing bridges stay so if a rule was applied to them in vain. -/
theorem Unbridged.append {a d : Line} {rest : List Line} {rule? : Option String}
    (h : Unbridged rules a d rest rule?) (hrule : rule?.isSome = true) (more : List Rule) :
    Unbridged (rules ++ more) a d rest rule? := by
  obtain ⟨q, hq⟩ : ∃ q, firstApplicable? rules a d = some q := by
    rwa [h.rule_eq, Option.isSome_map, Option.isSome_iff_exists] at hrule
  have hmore : firstApplicable? (rules ++ more) a d = firstApplicable? rules a d :=
    (firstApplicable?_append_of_eq_some hq more).trans hq.symm
  refine ⟨h.ne, h.not_absorbed, ?_, ?_⟩
  · rw [hmore]
    exact h.rule_eq
  · rw [hmore]
    exact h.respelled_ne

/-- A walk stops where nothing bridges the lines in front. -/
theorem walk_of_unbridged {a d : Line} {rest : List Line} {rule? : Option String}
    (h : Unbridged rules a d rest rule?) (as : List Line) :
    walk rules (a :: as) (d :: rest) = ⟨[], a :: as, d :: rest, rule?⟩ := by
  rw [walk, if_neg h.ne, if_neg (by rw [h.not_absorbed]; exact Bool.false_ne_true), h.rule_eq]
  cases hfirst : firstApplicable? rules a d with
  | none => rfl
  | some q => exact if_neg (h.respelled_ne q hfirst)

/-- **A walk that is final is the same with more rules.** -/
theorem walk_append_rules_of_isFinal {as bs : List Line} (h : (walk rules as bs).IsFinal)
    (more : List Rule) : walk (rules ++ more) as bs = walk rules as bs := by
  have hstop := stop_of_walk rules as bs
  rw [walk_append_rules]
  generalize walk rules as bs = w at *
  obtain ⟨steps, source, decoded, rule?⟩ := w
  rcases hstop with ⟨hnil | hnil, hrule⟩ | ⟨a, as', d, bs', hs, hd, hun⟩
  · cases hnil
    cases hrule
    rw [walk_nil_left, Walk.afterAll_mk]
  · cases hnil
    cases hrule
    rw [walk_nil_right, Walk.afterAll_mk]
  · cases hs
    cases hd
    have hrule : rule?.isSome = true := by
      rcases h with h | h | h
      · cases h
      · cases h
      · exact h
    rw [walk_of_unbridged (hun.append hrule more), Walk.afterAll_mk]

/-! ### Comparisons with more rules -/

/-- A matcher with more rules, which are tried after its own. -/
def Matcher.extended (m : Matcher) (more : List Rule) : Matcher :=
  { m with rules := m.rules ++ more }

/-- A walk that ends in a match is final. -/
theorem Walk.isFinal_of_matched {w : Walk} {source decoded : Framed}
    (h : w.verdict source decoded = .matched) : w.IsFinal :=
  .inl (verdict_eq_matched_iff.mp h).1

/-- A walk that ends in a mismatch is final if a listing is at its end or a rule is named. -/
theorem Walk.isFinal_of_mismatch {w : Walk} {source decoded : Framed} {mm : Mismatch}
    (h : w.verdict source decoded = .mismatch mm)
    (hmm : mm.kind = .incompleteStream ∨ mm.rule?.isSome = true) : w.IsFinal := by
  unfold Walk.verdict at h
  split at h
  · cases h
  · cases h
    rcases hmm with hkind | hrule
    · have hempty : (w.source.isEmpty || w.decoded.isEmpty) = true := by
        by_contra hno
        rw [if_neg hno] at hkind
        cases hkind
      rw [Bool.or_eq_true, List.isEmpty_iff, List.isEmpty_iff] at hempty
      exact hempty.imp_right .inl
    · exact .inr (.inr hrule)

/-- **Rules at the end of a table lose no match.**  A comparison with more rules takes all the steps
of the comparison without them.  It finds the same, with the same steps, if the listings match; it
does so as well if they do not, unless they diverge at two lines to which no rule applied. -/
theorem compare_extended (m : Matcher) (more : List Rule) (source decoded : List Line) :
    let c := m.compare source decoded
    let c' := (m.extended more).compare source decoded
    c.steps <+: c'.steps ∧
      (c.verdict = .matched → c' = c) ∧
      (∀ mm, c.verdict = .mismatch mm →
        mm.kind = .incompleteStream ∨ mm.rule?.isSome = true → c' = c) := by
  intro c c'
  have hfinal : (walk m.rules (framed m.entryLabel source).body
      (framed m.entryLabel decoded).body).IsFinal → c' = c := by
    intro h
    change (m.extended more).compare source decoded = m.compare source decoded
    unfold Matcher.compare Matcher.extended
    simp only [walk_append_rules_of_isFinal h more]
  refine ⟨?_, fun hmatched => ?_, fun mm hmm hkind => ?_⟩
  · change _ <+: (walk (m.rules ++ more) _ _).steps
    rw [walk_append_rules]
    exact List.prefix_append _ _
  · exact hfinal (Walk.isFinal_of_matched hmatched)
  · exact hfinal (Walk.isFinal_of_mismatch hmm hkind)

/-- Without rules a walk stops at the first line in another spelling, and with rules it goes on. -/
example :
    let source : List Line := [.parse "nop", .parse "jc _target"]
    let decoded : List Line := [.parse "nop", .parse "jb _target"]
    ((Matcher.mk [] "start").compare source decoded).steps = [.equal] ∧
      (((Matcher.mk [] "start").extended standardRules).compare source decoded).steps =
        [.equal, .alias "conditional jump synonym"] := by
  decide

end AsmPair
