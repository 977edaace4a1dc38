import AsmPair.Proofs.Spelling.Bridging
import AsmPair.Spelling.Standard
import Mathlib.Data.List.Pairwise

/-!
# The order of the standard rules

The first rule that applies decides, even if a later one would bridge the two lines.  In the
standard table this does no harm, with one exception: where `test` and `xchg` have an operand
`st`, the exchange of operands applies before the stack top can be numbered.  Whether a rule gives
way to a later one is checked on the table alone, rule by rule; the check is sound for all lines.

## Main definitions

* `Respelling.yieldsTo` — the decidable check that a respelling gives way to another.

## Main results

* `respell?_eq_none_of_yieldsTo` — the check is sound.
* `yieldsTo_standardRules` — the standard rules give way to later ones, with one exception.
* `bridging_rule_unique_and_first` — at most one standard rule bridges two lines, and apart from
  the exception that rule is the first that applies.
-/

namespace AsmPair

namespace Respelling

variable {source decoded : Line}

/-- Whether it is known at sight that `t` applies to no lines that `t'` bridges. -/
def yieldsTo (t t' : Respelling) : Bool :=
  t.scope.apart t'.scope || (t == .elideSize && t'.keepsBracketed)

theorem respell?_eq_none_of_yieldsTo {t t' : Respelling} (hy : t.yieldsTo t' = true)
    (h : t'.Bridges source decoded) : t.respell? source decoded = none := by
  rw [yieldsTo, Bool.or_eq_true, Bool.and_eq_true, beq_iff_eq] at hy
  rcases hy with hap | ⟨rfl, hk⟩
  · rw [Option.eq_none_iff_forall_ne_some]
    intro l hl
    exact Scope.not_both_hold_of_apart hap (scope_holds_of_respell? hl)
      (scope_holds_of_respell? h)
  · exact elideSize_eq_none hk h

/-! ### Numbered stack tops -/

theorem zipWith_numberTop_of_not_mem : ∀ {ops facing : List String},
    facing.length = ops.length → "st" ∉ ops → List.zipWith numberTop ops facing = ops
  | [], _, _, _ => by simp
  | _ :: _, [], hlen, _ => by simp at hlen
  | op :: ops, f :: facing, hlen, hst => by
    have hop : op ≠ "st" := fun h => hst (by rw [h]; exact List.mem_cons_self)
    have ih := zipWith_numberTop_of_not_mem (by simpa using hlen)
      fun h => hst (List.mem_cons_of_mem op h)
    rw [List.zipWith_cons_cons, ih, numberTop, if_neg fun h => hop h.1]

/-- Only a line with a stack top has one to be numbered. -/
theorem st_mem_of_numberedTop (h : numberedTop.Bridges source decoded) :
    "st" ∈ source.operands := by
  obtain ⟨-, hlen, hne, hd⟩ := numberedTop_bridges_iff.mp h
  by_contra hst
  rw [zipWith_numberTop_of_not_mem hlen hst] at hd
  exact hne hd.symm

/-- Lines are not equal both after an exchange of operands and after numbering a stack top. -/
theorem not_swapOperands_and_numberedTop {mnemonics : List String}
    (h : (swapOperands mnemonics).Bridges source decoded)
    (h' : numberedTop.Bridges source decoded) : False := by
  obtain ⟨-, -, x, y, ho, hd⟩ := swapOperands_bridges_iff.mp h
  obtain ⟨-, -, hne, hz⟩ := numberedTop_bridges_iff.mp h'
  rw [ho, hd, List.zipWith_cons_cons, List.zipWith_cons_cons, List.zipWith_nil_left] at hz
  injection hz with hy hx
  injection hx with hx
  have hxy : x ≠ y := by
    rintro rfl
    exact hne (hd.trans ho.symm)
  rw [numberTop] at hx hy
  -- each of the two operands would have to be the numbered one
  split at hy
  · next hst =>
    rw [if_neg fun hst' => absurd (hst.2.symm.trans hst'.1) (by decide)] at hx
    exact hxy hx.symm
  · exact hxy hy

end Respelling

/-! ### The table -/

/-- A rule of the standard table gives way to every later rule, except that the exchange of
operands comes before the numbering of stack tops. -/
theorem yieldsTo_standardRules : standardRules.Pairwise fun r r' =>
    r.respelling.yieldsTo r'.respelling = true ∨
      r.respelling = .swapOperands ["test", "xchg"] ∧ r'.respelling = .numberedTop := by
  decide

/-- The rule that decides, found by looking at the rules before it. -/
theorem firstApplicable?_eq_some_iff {rules : List Rule} {source decoded : Line} {r : Rule}
    {l : Line} : firstApplicable? rules source decoded = some (r, l) ↔
      ∃ before after, rules = before ++ r :: after ∧ r.respell? source decoded = some l ∧
        ∀ q ∈ before, q.respell? source decoded = none := by
  rw [firstApplicable?, List.findSome?_eq_some_iff]
  constructor
  · rintro ⟨before, q, after, he, hq, hb⟩
    obtain ⟨l', hl', heq⟩ := Option.map_eq_some_iff.mp hq
    cases heq
    exact ⟨before, after, he, hl', fun q hq => Option.map_eq_none_iff.mp (hb q hq)⟩
  · rintro ⟨before, after, he, hr, hb⟩
    exact ⟨before, r, after, he, Option.map_eq_some_iff.mpr ⟨l, hr, rfl⟩,
      fun q hq => Option.map_eq_none_iff.mpr (hb q hq)⟩

/-- Two rules of the standard table do not bridge the same lines. -/
theorem eq_of_bridges {source decoded : Line} {r r' : Rule} (hr : r ∈ standardRules)
    (hr' : r' ∈ standardRules) (h : r.Bridges source decoded) (h' : r'.Bridges source decoded) :
    r = r' := by
  have hpair : standardRules.Pairwise fun q q' =>
      ¬ (q.Bridges source decoded ∧ q'.Bridges source decoded) := by
    refine yieldsTo_standardRules.imp fun {q q'} hq ⟨hb, hb'⟩ => ?_
    rcases hq with hy | ⟨hs, hn⟩
    · have hnone := Respelling.respell?_eq_none_of_yieldsTo hy hb'
      rw [Rule.Bridges, Respelling.Bridges, hnone] at hb
      cases hb
    · rw [Rule.Bridges, hs] at hb
      rw [Rule.Bridges, hn] at hb'
      exact Respelling.not_swapOperands_and_numberedTop hb hb'
  by_contra hne
  have hsymm : Std.Symm fun q q' : Rule =>
      ¬ (q.Bridges source decoded ∧ q'.Bridges source decoded) :=
    ⟨fun q q' hq hq' => hq hq'.symm⟩
  exact hpair.forall hr hr' hne ⟨h, h'⟩

/-- A standard rule that bridges two lines is the first that applies, unless it numbers a stack
top and the exchange of operands applies as well. -/
theorem firstApplicable?_of_bridges_of_swap {source decoded : Line} {r : Rule}
    (hr : r ∈ standardRules) (h : r.Bridges source decoded)
    (hswap : r.respelling = .numberedTop →
      (Respelling.swapOperands ["test", "xchg"]).respell? source decoded = none) :
    firstApplicable? standardRules source decoded = some (r, decoded) := by
  obtain ⟨before, after, he⟩ := List.append_of_mem hr
  refine firstApplicable?_eq_some_iff.mpr ⟨before, after, he, h, fun q hq => ?_⟩
  have hpair := yieldsTo_standardRules
  rw [he, List.pairwise_append] at hpair
  rcases hpair.2.2 q hq r List.mem_cons_self with hy | ⟨hs, hn⟩
  · exact Respelling.respell?_eq_none_of_yieldsTo hy h
  · rw [Rule.respell?, hs]
    exact hswap hn

/-- A standard rule that bridges two lines is the first that applies, unless it numbers a stack
top of a line whose operands could be exchanged. -/
theorem firstApplicable?_of_bridges {source decoded : Line} {r : Rule} (hr : r ∈ standardRules)
    (h : r.Bridges source decoded)
    (hst : ¬ (source.mnemonic ∈ ["test", "xchg"] ∧ "st" ∈ source.operands)) :
    firstApplicable? standardRules source decoded = some (r, decoded) := by
  refine firstApplicable?_of_bridges_of_swap hr h fun hn => ?_
  -- the exchange of operands does not apply to other mnemonics
  rw [Rule.Bridges, hn] at h
  have hmem := Respelling.st_mem_of_numberedTop h
  rw [Option.eq_none_iff_forall_ne_some]
  intro l hl
  exact hst ⟨(Respelling.swapOperands_eq_some_iff.mp hl).2.1, hmem⟩

/-- **No standard rule shadows another.**  At most one rule of the standard table bridges two
lines.  It is then the first rule that applies, unless the source line is a `test` or an `xchg`
with an operand `st`; so the comparison, which tries no second rule, accepts whatever some rule
of the table accepts. -/
theorem bridging_rule_unique_and_first (source decoded : Line) :
    (∀ r ∈ standardRules, ∀ r' ∈ standardRules,
      r.respell? source decoded = some decoded → r'.respell? source decoded = some decoded →
        r = r') ∧
    (¬ ((source.mnemonic = "test" ∨ source.mnemonic = "xchg") ∧ "st" ∈ source.operands) →
      (∀ r ∈ standardRules, r.respell? source decoded = some decoded →
        firstApplicable? standardRules source decoded = some (r, decoded)) ∧
      ((∃ r, firstApplicable? standardRules source decoded = some (r, decoded)) ↔
        ∃ r ∈ standardRules, r.respell? source decoded = some decoded)) := by
  refine ⟨fun r hr r' hr' h h' => eq_of_bridges hr hr' h h', fun hst => ?_⟩
  have hfirst : ∀ r ∈ standardRules, r.respell? source decoded = some decoded →
      firstApplicable? standardRules source decoded = some (r, decoded) := by
    intro r hr h
    refine firstApplicable?_of_bridges hr h ?_
    rintro ⟨hm, hop⟩
    exact hst ⟨by simpa using hm, hop⟩
  refine ⟨hfirst, ?_, ?_⟩
  · rintro ⟨r, hr⟩
    obtain ⟨before, after, he, h, -⟩ := firstApplicable?_eq_some_iff.mp hr
    exact ⟨r, by rw [he]; exact List.mem_append_right _ List.mem_cons_self, h⟩
  · rintro ⟨r, hr, h⟩
    exact ⟨r, hfirst r hr h⟩

/-- An exchange of operands with a sized memory operand, which the earlier rule about sizes
leaves alone. -/
theorem exchange_with_memory_first :
    firstApplicable? standardRules (.parse "xchg [byte bx], al") (.parse "xchg al, [byte bx]") =
      some (⟨"commutative operands", .swapOperands ["test", "xchg"]⟩,
        .parse "xchg al, [byte bx]") ∧
    ∀ r ∈ standardRules,
      r.respell? (.parse "xchg [byte bx], al") (.parse "xchg al, [byte bx]") =
        some (.parse "xchg al, [byte bx]") →
      r = ⟨"commutative operands", .swapOperands ["test", "xchg"]⟩ := by
  have hunique := bridging_rule_unique_and_first
    (.parse "xchg [byte bx], al") (.parse "xchg al, [byte bx]")
  refine ⟨(hunique.2 (by decide)).1 _ (by decide) (by decide), ?_⟩
  intro r hr h
  exact hunique.1 r hr _ (by decide) h (by decide)

/-- With an operand `st` the exchange of operands comes first and makes nothing equal. -/
example :
    (firstApplicable? standardRules (.parse "xchg st, ax") (.parse "xchg st(0), ax")).map
      (fun q => (q.1.name, q.2.text)) = some ("commutative operands", "xchg ax, st") := by
  decide

end AsmPair
