import AsmPair.Proofs.Spelling.Outcome

/-!
# Where a spelling rule can apply

Whether a respelling applies to a pair of lines depends on their mnemonics and on how many operands
they have, up to a closer look at the operands.  The scope of a respelling is what mnemonics and
counts say about it.  Scopes can be compared without any lines: two respellings with scopes apart
never apply to the same pair.

## Main definitions

* `mnemonicsOf` — the mnemonics of the lines that are written as a text.
* `Mnemonics`, `Scope` — conditions on two mnemonics and on operand counts.
* `Respelling.scope` — the scope of a respelling.
* `Scope.apart` — the decidable check that two scopes have no pair of lines in common.

## Main results

* `scope_holds_of_respell?` — a respelling applies in its scope only.
* `not_both_hold_of_apart` — the check is sound.
-/

namespace AsmPair

/-! ### Mnemonics of written lines -/

/-- The texts that stand before a space of a text, and the text itself. -/
def mnemonicsOf : List Char → List (List Char)
  | [] => [[]]
  | c :: cs => (if c = ' ' then [[]] else []) ++ (mnemonicsOf cs).map (c :: ·)

theorem mem_mnemonicsOf {rest : List Char} (h : ∀ c ∈ rest.head?, c = ' ') (m : List Char) :
    m ∈ mnemonicsOf (m ++ rest) := by
  induction m with
  | nil =>
    cases rest with
    | nil => exact List.mem_singleton_self _
    | cons c cs =>
      have hc : c = ' ' := h c rfl
      rw [List.nil_append, mnemonicsOf, if_pos hc]
      exact List.mem_append_left _ (List.mem_singleton_self _)
  | cons c m ih =>
    rw [List.cons_append, mnemonicsOf]
    exact List.mem_append_right _ (List.mem_map.mpr ⟨m, ih, rfl⟩)

/-- A written line shows its mnemonic, with nothing or with a space after it. -/
theorem mnemonic_mem_mnemonicsOf (l : Line) :
    l.mnemonic.toList ∈ mnemonicsOf l.text.toList := by
  rw [Line.text]
  split
  · have hnil : ∀ c ∈ ([] : List Char).head?, c = ' ' := by simp
    have h := mem_mnemonicsOf hnil l.mnemonic.toList
    rwa [List.append_nil] at h
  · rw [String.toList_append, String.toList_append, List.append_assoc]
    exact mem_mnemonicsOf (by intro c hc; simpa using hc.symm) _

/-! ### Scopes -/

/-- A condition on a source and a decoded mnemonic. -/
inductive Mnemonics where
  /-- The two are one of the pairs. -/
  | among (pairs : List (String × String)) : Mnemonics
  /-- The two are equal and start with a text. -/
  | kept (start : List Char) : Mnemonics

namespace Mnemonics

/-- Whether two mnemonics meet the condition. -/
def Holds : Mnemonics → String → String → Prop
  | among pairs, m, n => (m, n) ∈ pairs
  | kept start, m, n => m = n ∧ Text.startsWith start m.toList = true

/-- Whether no pair is a mnemonic twice that starts with the text. -/
def noneKept (start : List Char) (pairs : List (String × String)) : Bool :=
  pairs.all fun p => !(p.1 == p.2 && Text.startsWith start p.1.toList)

/-- Whether two conditions exclude each other. -/
def apart : Mnemonics → Mnemonics → Bool
  | among pairs, among others => pairs.all fun p => !others.contains p
  | among pairs, kept start => noneKept start pairs
  | kept start, among pairs => noneKept start pairs
  | kept _, kept _ => false

theorem not_kept_of_noneKept {start : List Char} {pairs : List (String × String)}
    (h : noneKept start pairs = true) {m n : String} (hp : (m, n) ∈ pairs) :
    ¬ (kept start).Holds m n := by
  rintro ⟨rfl, hs⟩
  have hm := List.all_eq_true.mp h _ hp
  simp [hs] at hm

theorem not_both_hold {s t : Mnemonics} (h : s.apart t = true) {m n : String}
    (hs : s.Holds m n) (ht : t.Holds m n) : False := by
  match s, t with
  | among pairs, among others =>
    have hp := List.all_eq_true.mp h _ hs
    rw [Bool.not_eq_true', ← Bool.not_eq_true, List.contains_iff_mem] at hp
    exact hp ht
  | among pairs, kept start => exact not_kept_of_noneKept h hs ht
  | kept start, among pairs => exact not_kept_of_noneKept h ht hs
  | kept _, kept _ => cases h

end Mnemonics

/-- A condition on the mnemonics and the operand counts of two lines. -/
structure Scope where
  /-- The condition on the mnemonics. -/
  mnemonics : Mnemonics
  /-- The least number of source operands. -/
  least : Nat := 0
  /-- The greatest number of source operands, if there is one. -/
  most? : Option Nat := none
  /-- Whether there are as many decoded operands as source operands, if that is known. -/
  balanced? : Option Bool := none

namespace Scope

/-- Whether two lines meet the condition. -/
structure Holds (s : Scope) (source decoded : Line) : Prop where
  /-- The mnemonics meet their condition. -/
  mnemonics : s.mnemonics.Holds source.mnemonic decoded.mnemonic
  /-- There are not too few source operands. -/
  least : s.least ≤ source.operands.length
  /-- There are not too many. -/
  most : ∀ m ∈ s.most?, source.operands.length ≤ m
  /-- The two numbers of operands compare as they should. -/
  balanced : ∀ b ∈ s.balanced?, b = decide (source.operands.length = decoded.operands.length)

/-- Whether two conditions exclude each other. -/
def apart (s t : Scope) : Bool :=
  s.mnemonics.apart t.mnemonics || s.most?.any (· < t.least) || t.most?.any (· < s.least) ||
    (s.balanced?.any fun b => t.balanced?.any fun c => b != c)

/-- A greatest number that is below the least one of another condition. -/
theorem not_both_count {s t : Scope} {source decoded : Line}
    (h : s.most?.any (· < t.least) = true) (hs : s.Holds source decoded)
    (ht : t.Holds source decoded) : False := by
  rw [Option.any_eq_true] at h
  obtain ⟨m, hm, hlt⟩ := h
  rw [decide_eq_true_eq] at hlt
  have hle := hs.most m hm
  have hge := ht.least
  omega

/-- Conditions that exclude each other have no pair of lines in common. -/
theorem not_both_hold_of_apart {s t : Scope} {source decoded : Line} (h : s.apart t = true)
    (hs : s.Holds source decoded) (ht : t.Holds source decoded) : False := by
  simp only [apart, Bool.or_eq_true] at h
  rcases h with ((h | h) | h) | h
  · exact Mnemonics.not_both_hold h hs.mnemonics ht.mnemonics
  · exact not_both_count h hs ht
  · exact not_both_count h ht hs
  · rw [Option.any_eq_true] at h
    obtain ⟨b, hb, h⟩ := h
    rw [Option.any_eq_true] at h
    obtain ⟨c, hc, hne⟩ := h
    rw [hs.balanced b hb, ht.balanced c hc, bne_self_eq_false] at hne
    cases hne

end Scope

/-! ### The scope of a respelling -/

namespace Respelling

/-- The mnemonics and operand counts of the lines that a respelling can apply to. -/
def scope : Respelling → Scope
  | rename pairs => { mnemonics := .among pairs }
  | addSuffix mnemonics suffix withOperands =>
    { mnemonics := .among (mnemonics.map fun m => (m, m ++ suffix))
      least := if withOperands then 1 else 0
      most? := if withOperands then none else some 0 }
  | exchange old new =>
    { mnemonics :=
        .among ((mnemonicsOf old.toList).map fun m =>
          (String.ofList m, (Line.parse new).mnemonic)) }
  | elideSize => { mnemonics := .kept [], least := 1 }
  | leaAsMov => { mnemonics := .among [("lea", "mov")], least := 2, most? := some 2 }
  | swapOperands mnemonics =>
    { mnemonics := .among (mnemonics.map fun m => (m, m))
      least := 2, most? := some 2, balanced? := some true }
  | dropDuplicate mnemonic =>
    { mnemonics := .among [(mnemonic, mnemonic)]
      least := 3, most? := some 3, balanced? := some false }
  | dropSuffix mnemonics suffix =>
    { mnemonics := .among (mnemonics.filterMap fun m =>
        (Text.before? suffix.toList m.toList).map fun stem => (m, String.ofList stem))
      most? := some 0 }
  | explicitOperands mnemonics suffix _ =>
    { mnemonics := .among (mnemonics.map fun m => (m, m ++ suffix)), most? := some 0 }
  | implicitDestination =>
    { mnemonics := .kept ['f'], least := 2, most? := some 2, balanced? := some false }
  | dropDefault mnemonics _ =>
    { mnemonics := .among (mnemonics.map fun m => (m, m))
      least := 1, most? := some 1, balanced? := some false }
  | numberedTop => { mnemonics := .kept [], least := 1, balanced? := some true }

/-- A size is left out of some operand. -/
theorem operands_ne_nil_of_elidedKeyword? {source decoded : Line} {k : String}
    (h : elidedKeyword? source decoded = some k) : source.operands ≠ [] := by
  have hk := List.find?_some h
  intro ho
  simp [ho] at hk

/-- A respelling applies in its scope only. -/
theorem scope_holds_of_respell? {t : Respelling} {source decoded l : Line}
    (h : t.respell? source decoded = some l) : t.scope.Holds source decoded := by
  cases t with
  | rename pairs =>
    obtain ⟨hp, -⟩ := rename_eq_some_iff.mp h
    exact ⟨hp, Nat.zero_le _, by simp [scope], by simp [scope]⟩
  | addSuffix mnemonics suffix withOperands =>
    obtain ⟨hm, ho, hd, -⟩ := addSuffix_eq_some_iff.mp h
    have hp : (source.mnemonic, decoded.mnemonic) ∈ mnemonics.map fun m => (m, m ++ suffix) :=
      List.mem_map.mpr ⟨_, hm, by rw [hd]⟩
    cases withOperands with
    | false =>
      have hn : source.operands = [] := by simpa using ho
      exact ⟨hp, Nat.zero_le _, by simp [scope, hn], by simp [scope]⟩
    | true =>
      have hn : source.operands ≠ [] := by simpa using ho
      exact ⟨hp, List.length_pos_iff.mpr hn, by simp [scope], by simp [scope]⟩
  | exchange old new =>
    obtain ⟨rfl, hd, -⟩ := exchange_eq_some_iff.mp h
    refine ⟨?_, Nat.zero_le _, by simp [scope], by simp [scope]⟩
    refine List.mem_map.mpr ⟨_, mnemonic_mem_mnemonicsOf source, ?_⟩
    rw [hd, String.ofList_toList]
  | elideSize =>
    obtain ⟨k, hk, hm, -⟩ := elideSize_eq_some_iff.mp h
    have hn := operands_ne_nil_of_elidedKeyword? hk
    exact ⟨⟨hm, rfl⟩, List.length_pos_iff.mpr hn, by simp [scope], by simp [scope]⟩
  | leaAsMov =>
    obtain ⟨hs, hd, x, y, a, ho, -⟩ := leaAsMov_eq_some_iff.mp h
    refine ⟨?_, by simp [scope, ho], by simp [scope, ho], by simp [scope]⟩
    rw [hs, hd]
    exact List.mem_singleton_self _
  | swapOperands mnemonics =>
    obtain ⟨hm, hmem, hlen, x, y, ho, -⟩ := swapOperands_eq_some_iff.mp h
    refine ⟨?_, by simp [scope, ho], by simp [scope, ho], by simp [scope, ho, hlen]⟩
    exact List.mem_map.mpr ⟨_, hmem, by rw [← hm]⟩
  | dropDuplicate mnemonic =>
    obtain ⟨hm, hs, hlen, x, z, ho, -⟩ := dropDuplicate_eq_some_iff.mp h
    refine ⟨?_, by simp [scope, ho], by simp [scope, ho], by simp [scope, ho, hlen]⟩
    rw [← hm, hs]
    exact List.mem_singleton_self _
  | dropSuffix mnemonics suffix =>
    obtain ⟨hmem, hm, ho, -⟩ := dropSuffix_eq_some_iff.mp h
    refine ⟨?_, Nat.zero_le _, by simp [scope, ho], by simp [scope]⟩
    refine List.mem_filterMap.mpr ⟨_, hmem, Option.map_eq_some_iff.mpr
      ⟨decoded.mnemonic.toList, ?_, by rw [String.ofList_toList]⟩⟩
    rw [Text.before?_eq_some_iff, hm, String.toList_append]
  | explicitOperands mnemonics suffix operands =>
    obtain ⟨hmem, ho, hd, -⟩ := explicitOperands_eq_some_iff.mp h
    refine ⟨?_, Nat.zero_le _, by simp [scope, ho], by simp [scope]⟩
    exact List.mem_map.mpr ⟨_, hmem, by rw [hd]⟩
  | implicitDestination =>
    obtain ⟨hm, hf, hlen, x, ho, -⟩ := implicitDestination_eq_some_iff.mp h
    exact ⟨⟨hm, hf⟩, by simp [scope, ho], by simp [scope, ho], by simp [scope, ho, hlen]⟩
  | dropDefault mnemonics operand =>
    obtain ⟨hm, hmem, ho, hd, -⟩ := dropDefault_eq_some_iff.mp h
    refine ⟨?_, by simp [scope, ho], by simp [scope, ho], by simp [scope, ho, hd]⟩
    exact List.mem_map.mpr ⟨_, hmem, by rw [← hm]⟩
  | numberedTop =>
    obtain ⟨hm, hlen, hne, -⟩ := numberedTop_eq_some_iff.mp h
    have hn : source.operands ≠ [] := by
      rintro ho
      rw [ho] at hne
      exact hne rfl
    exact ⟨⟨hm, rfl⟩, List.length_pos_iff.mpr hn, by simp [scope], by simp [scope, hlen]⟩

end Respelling

end AsmPair
