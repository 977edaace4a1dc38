import AsmPair.Proofs.Comparison.Extension

/-!
# Waits in front of equal lines

A disassembler may show a wait in front of an instruction that was assembled with one.  A listing
with such waits put in matches the listing without them under any rules: each line is passed as an
equal one, after its wait if it has one, and no rule is asked.  No other listings match without a
rule.  What counts as a wait is the mnemonic alone, so a decoded line that goes on after its wait
is passed over whole.

## Main definitions

* `Waited` — a line with the wait in front of it.
* `absorbedLines` — the decoded lines that are passed over.

## Main results

* `walk_flatMap_shown` — a walk passes lines that have waits put in front of them.
* `exists_waited_of_finished` — a walk that ends without a rule has passed such lines.
* `compare_matched_without_alias_iff` — the listings that match without a rule.
* `absorbed_of_compare` — what is passed over.
* `absorbed_waits_stand_alone` — the same, if the decoded waits have no operands.
-/

namespace AsmPair

/-! ### Lines with waits in front of them -/

/-- A line and the wait that is shown in front of it, if there is one.  No wait is shown in front
of a wait. -/
structure Waited where
  /-- The line. -/
  line : Line
  /-- The wait in front of it. -/
  wait? : Option Line
  /-- The wait is one, and the line is none. -/
  isWait : ∀ w ∈ wait?, w.isWait = true ∧ line.isWait = false

namespace Waited

/-- A line with no wait in front of it. -/
def plain (l : Line) : Waited := ⟨l, none, by simp⟩

/-- The decoded lines: the wait, if there is one, and the line. -/
def shown (p : Waited) : List Line := p.wait?.toList ++ [p.line]

/-- The steps over them. -/
def steps (p : Waited) : List Step := p.wait?.toList.map (fun _ => .waitAbsorbed) ++ [.equal]

/-- Where the line itself is the first that is shown, no wait is in front of it. -/
theorem shown_of_head? {p : Waited} {ls : List Line} (h : (p.shown ++ ls).head? = some p.line) :
    p.shown = [p.line] := by
  obtain ⟨l, wait?, hwait⟩ := p
  cases wait? with
  | none => rfl
  | some w =>
    obtain ⟨hw, hl⟩ := hwait w rfl
    have hwl : w = l := Option.some.inj h
    rw [hwl, hl] at hw
    cases hw

theorem alias_not_mem_steps (p : Waited) (name : String) : .alias name ∉ p.steps := by
  simp [steps]

end Waited

variable {rules : List Rule}

/-- A walk passes a line and the wait in front of it. -/
theorem walk_shown (rules : List Rule) (p : Waited) (as bs : List Line) :
    walk rules (p.line :: as) (p.shown ++ bs) = (walk rules as bs).afterAll p.steps := by
  obtain ⟨l, wait?, hwait⟩ := p
  cases wait? with
  | none => exact walk_cons_self rules l as bs
  | some w =>
    obtain ⟨hw, hl⟩ := hwait w rfl
    exact walk_wait hw hl as bs

/-- **A walk passes lines that have waits put in front of them**, whatever the rules are. -/
theorem walk_flatMap_shown (rules : List Rule) (ps : List Waited) (as bs : List Line) :
    walk rules (ps.map Waited.line ++ as) (ps.flatMap Waited.shown ++ bs) =
      (walk rules as bs).afterAll (ps.flatMap Waited.steps) := by
  induction ps with
  | nil => rfl
  | cons p ps ih =>
    rw [List.map_cons, List.cons_append, List.flatMap_cons, List.append_assoc, walk_shown, ih,
      List.flatMap_cons, Walk.afterAll_append]

/-- **A walk that ends without a rule has passed lines with waits put in front of them.** -/
theorem exists_waited_of_finished {as bs : List Line} (h : (walk rules as bs).Finished)
    (halias : ∀ name, .alias name ∉ (walk rules as bs).steps) :
    ∃ ps : List Waited, as = ps.map Waited.line ∧ bs = ps.flatMap Waited.shown := by
  fun_induction walk rules as bs with
  | case1 as b bs ih =>
    have hrest : ∀ name, .alias name ∉ (walk rules as bs).steps :=
      fun name hmem => halias name (List.mem_cons_of_mem _ hmem)
    obtain ⟨ps, rfl, rfl⟩ := ih h hrest
    exact ⟨.plain b :: ps, rfl, rfl⟩
  | case2 a as b bs _ habs ih =>
    obtain ⟨hb, ha, hhead⟩ := absorbsWait_iff.mp habs
    have hrest : ∀ name, .alias name ∉ (walk rules (a :: as) bs).steps :=
      fun name hmem => halias name (List.mem_cons_of_mem _ hmem)
    obtain ⟨ps, has, hbs⟩ := ih h hrest
    obtain ⟨p, ps, rfl, rfl, rfl⟩ := List.map_eq_cons_iff.mp has.symm
    rw [List.flatMap_cons] at hbs
    -- the line after the wait has no other wait in front of it
    rw [hbs] at hhead
    have hshown := Waited.shown_of_head? hhead
    refine ⟨⟨p.line, some b, fun w hw => ?_⟩ :: ps, rfl, ?_⟩
    · cases hw
      exact ⟨hb, ha⟩
    · rw [hbs, hshown]
      rfl
  | case3 a as bs r b _ _ hfirst ih => exact absurd List.mem_cons_self (halias r.name)
  | case4 | case5 => cases h.1
  | case6 as bs _ =>
    obtain ⟨hs, hd⟩ := h
    change as = [] at hs
    change bs = [] at hd
    exact ⟨[], hs, hd⟩

/-- What the comparison finds is a match, with these steps. -/
theorem compare_eq_matched_iff {m : Matcher} {source decoded : List Line} {steps : List Step} :
    m.compare source decoded = ⟨.matched, steps⟩ ↔
      (walk m.rules (framed m.entryLabel source).body (framed m.entryLabel decoded).body).Finished ∧
        (walk m.rules (framed m.entryLabel source).body
          (framed m.entryLabel decoded).body).steps = steps := by
  rw [Matcher.compare, Comparison.mk.injEq, Walk.verdict_eq_matched_iff]

/-- **Listings match without a rule exactly if waits are all that is put in.**  Under any rules, the
steps of a match name no rule exactly if the decoded body is the source body with at most one wait
in front of each line that is no wait; the steps are then, line by line, an equal one, after the
passing of a wait if there is one.  In particular a listing matches itself. -/
theorem compare_matched_without_alias_iff (m : Matcher) (source decoded : List Line) :
    (∀ steps, m.compare source decoded = ⟨.matched, steps⟩ ∧ (∀ name, .alias name ∉ steps) ↔
      ∃ ps : List Waited, (framed m.entryLabel source).body = ps.map Waited.line ∧
        (framed m.entryLabel decoded).body = ps.flatMap Waited.shown ∧
          steps = ps.flatMap Waited.steps) ∧
      m.compare source source =
        ⟨.matched, List.replicate (framed m.entryLabel source).body.length .equal⟩ := by
  have hwalk : ∀ ps : List Waited, walk m.rules (ps.map Waited.line) (ps.flatMap Waited.shown) =
      ⟨ps.flatMap Waited.steps, [], [], none⟩ := by
    intro ps
    have h := walk_flatMap_shown m.rules ps [] []
    rwa [List.append_nil, List.append_nil, walk_nil_left, Walk.afterAll_mk] at h
  refine ⟨fun steps => ?_, ?_⟩
  · rw [compare_eq_matched_iff]
    constructor
    · rintro ⟨⟨hfinished, rfl⟩, halias⟩
      obtain ⟨ps, hs, hd⟩ := exists_waited_of_finished hfinished halias
      refine ⟨ps, hs, hd, ?_⟩
      rw [hs, hd, hwalk]
    · rintro ⟨ps, hs, hd, rfl⟩
      rw [hs, hd, hwalk]
      refine ⟨⟨⟨rfl, rfl⟩, rfl⟩, fun name hmem => ?_⟩
      obtain ⟨p, -, hp⟩ := List.mem_flatMap.mp hmem
      exact p.alias_not_mem_steps name hp
  · rw [compare_eq_matched_iff, walk_self]
    exact ⟨⟨rfl, rfl⟩, rfl⟩

/-! ### What is passed over -/

/-- The decoded lines that the steps of a walk pass over.  Each step passes one decoded line. -/
def absorbedLines : List Step → List Line → List Line
  | .waitAbsorbed :: steps, d :: ds => d :: absorbedLines steps ds
  | _ :: steps, _ :: ds => absorbedLines steps ds
  | _, _ => []

/-- Only waits are passed over. -/
theorem isWait_of_mem_absorbedLines {as bs : List Line} {l : Line}
    (h : l ∈ absorbedLines (walk rules as bs).steps bs) : l ∈ bs ∧ l.isWait = true := by
  fun_induction walk rules as bs with
  | case1 as b bs ih =>
    obtain ⟨hmem, hwait⟩ := ih h
    exact ⟨List.mem_cons_of_mem b hmem, hwait⟩
  | case2 a as b bs _ habs ih =>
    rw [Walk.steps_after, absorbedLines] at h
    rcases List.mem_cons.mp h with rfl | h
    · exact ⟨List.mem_cons_self, (absorbsWait_iff.mp habs).1⟩
    · obtain ⟨hmem, hwait⟩ := ih h
      exact ⟨List.mem_cons_of_mem b hmem, hwait⟩
  | case3 a as bs r b _ _ _ ih =>
    obtain ⟨hmem, hwait⟩ := ih h
    exact ⟨List.mem_cons_of_mem b hmem, hwait⟩
  | case4 | case5 | case6 => cases h

/-- A wait is one of two lines exactly if it has no operands. -/
theorem Line.stands_alone_iff {l : Line} (h : l.isWait = true) :
    (l = .ofParts "wait" [] ∨ l = .ofParts "fwait" []) ↔ l.operands = [] := by
  have hm : l.mnemonic = "wait" ∨ l.mnemonic = "fwait" := by
    simpa [isWait, waitMnemonics] using h
  constructor
  · rintro (rfl | rfl) <;> rfl
  · intro hops
    exact hm.imp (fun hm => Line.ext hm hops) (fun hm => Line.ext hm hops)

/-- **What is passed over.**  Each decoded line that a comparison passes over is a wait of the
decoded body, and it stands alone exactly if it has no operands. -/
theorem absorbed_of_compare {m : Matcher} {source decoded : List Line} :
    ∀ l ∈ absorbedLines (m.compare source decoded).steps (framed m.entryLabel decoded).body,
      l ∈ (framed m.entryLabel decoded).body ∧ l.isWait = true ∧
        ((l = .ofParts "wait" [] ∨ l = .ofParts "fwait" []) ↔ l.operands = []) := by
  intro l hl
  obtain ⟨hmem, hwait⟩ := isWait_of_mem_absorbedLines hl
  exact ⟨hmem, hwait, Line.stands_alone_iff hwait⟩

/-- **What is passed over stands alone, if the decoded waits do.**  Where no wait of the decoded
body has operands, each decoded line that a comparison passes over is the line `wait` or the line
`fwait`, with nothing behind it. -/
theorem absorbed_waits_stand_alone {m : Matcher} {source decoded : List Line}
    (hwaits : ∀ l ∈ (framed m.entryLabel decoded).body, l.isWait = true → l.operands = []) :
    ∀ l ∈ absorbedLines (m.compare source decoded).steps (framed m.entryLabel decoded).body,
      l = .ofParts "wait" [] ∨ l = .ofParts "fwait" [] := by
  intro l hl
  obtain ⟨hmem, hwait, halone⟩ := absorbed_of_compare l hl
  exact halone.mpr (hwaits l hmem hwait)

/-- Two waits that stand alone, one of each spelling. -/
theorem absorbed_waits_of_both_spellings :
    let source : List Line := [.parse "fld [dword 90a0h]", .parse "fadd st, st(1)"]
    let decoded : List Line := [.parse "fwait", .parse "fld [dword 90a0h]", .parse "wait",
      .parse "fadd st, st(1)", .parse "ends"]
    (∀ l ∈ (framed "start" decoded).body, l.isWait = true → l.operands = []) ∧
      (Matcher.standard.compare source decoded).verdict = .matched ∧
        ∀ l ∈ absorbedLines (Matcher.standard.compare source decoded).steps
            (framed "start" decoded).body,
          l = .ofParts "wait" [] ∨ l = .ofParts "fwait" [] := by
  intro source decoded
  have hwaits : ∀ l ∈ (framed "start" decoded).body, l.isWait = true → l.operands = [] := by
    decide
  exact ⟨hwaits, by decide, absorbed_waits_stand_alone (m := Matcher.standard) hwaits⟩

/-- A decoded line that holds an instruction behind its wait is passed over as well, so that two
loads match one. -/
theorem instruction_behind_wait_absorbed :
    let source : List Line := [.parse "fld [dword 90a0h]"]
    let decoded : List Line := [.parse "fwait fld [dword 90a0h]", .parse "fld [dword 90a0h]"]
    let c := Matcher.standard.compare source decoded
    c.verdict = .matched ∧
      absorbedLines c.steps (framed "start" decoded).body =
        [.ofParts "fwait" ["fld [dword 90a0h]"]] ∧
      ¬ ∀ l ∈ absorbedLines c.steps (framed "start" decoded).body,
        l = .ofParts "wait" [] ∨ l = .ofParts "fwait" [] := by
  decide

end AsmPair
