import AsmPair.Proofs.Module.Product
import AsmPair.Proofs.Operand.Lowered
import AsmPair.Proofs.Spelling.Precedence

/-!
# Combinations that a rule takes for each other

The combinations of an instruction form differ in their operands only.  A spelling rule that made
two of them equal would hide that a disassembler confuses two registers or two addresses.  Most
rules never face two lines of one form, as they change the mnemonic or the number of operands.
Three do.  One leaves out a size keyword, but every generated operand in brackets has one.  The
other two exchange operands and number stack tops, and this is all that they can hide.

## Main definitions

* `Line.ofRow` — the line that a combination of operands is listed as.
* `Line.Exchanged`, `Line.TopNumbered` — the two differences that are not told.

## Main results

* `scope_standardRules` — the standard rules that can face two lines of one form.
* `not_elideSize_bridges` — a size is never left out on the decoded side only.
* `bridged_iff_exchanged_or_topNumbered` — what the standard rules hide between two lines of one
  form.
* `combinations_told_apart` — which combinations of a form the standard rules take for each other.
-/

namespace AsmPair

namespace Line

/-- The line that a combination of operands is listed as. -/
def ofRow (mnemonic : String) (row : List String) : Line :=
  .ofParts mnemonic (row.map Text.lowered)

/-- The same two operands, the other way round. -/
def Exchanged (source decoded : Line) : Prop :=
  source.mnemonic = decoded.mnemonic ∧
    ∃ x y, source.operands = [x, y] ∧ decoded.operands = [y, x]

/-- The same operands, but for stack tops that are numbered. -/
structure TopNumbered (source decoded : Line) : Prop where
  /-- The mnemonic is kept. -/
  mnemonic : source.mnemonic = decoded.mnemonic
  /-- An operand is kept, or it is a stack top that is numbered. -/
  operands : List.Forall₂ (fun op op' => op' = op ∨ (op = "st" ∧ op' = "st(0)"))
    source.operands decoded.operands
  /-- There is a stack top that is numbered. -/
  numbered : decoded.operands ≠ source.operands

end Line

/-! ### Rules that face two lines of one form -/

/-- The scope of two different lines with the same mnemonic and equally many operands. -/
def formScope : Scope := { mnemonics := .kept [], least := 1, balanced? := some true }

/-- Most of the standard rules apply to no two lines of one form. -/
theorem scope_standardRules : ∀ r ∈ standardRules, r.respelling.scope.apart formScope = true ∨
    r.respelling ∈ [.elideSize, .swapOperands ["test", "xchg"], .numberedTop] := by
  decide

variable {source decoded : Line}

/-! ### Numbered stack tops -/

theorem numberTop_eq_facing_iff {op facing : String} :
    numberTop op facing = facing ↔ facing = op ∨ (op = "st" ∧ facing = "st(0)") := by
  rw [numberTop]
  split
  · next hst => simp [hst]
  · next hst => rw [or_iff_left hst, eq_comm]

theorem zipWith_numberTop_eq_facing_iff : ∀ {ops facing : List String},
    facing.length = ops.length ∧ List.zipWith numberTop ops facing = facing ↔
      List.Forall₂ (fun op op' => op' = op ∨ (op = "st" ∧ op' = "st(0)")) ops facing
  | [], [] => by simp
  | [], _ :: _ => by simp
  | _ :: _, [] => by simp
  | op :: ops, f :: facing => by
    rw [List.forall₂_cons, ← zipWith_numberTop_eq_facing_iff, List.zipWith_cons_cons,
      List.cons.injEq, numberTop_eq_facing_iff, List.length_cons, List.length_cons,
      Nat.add_right_cancel_iff]
    tauto

/-- The rule about stack tops bridges no other lines than those it is made for. -/
theorem numberedTop_bridges_iff_topNumbered :
    Respelling.numberedTop.Bridges source decoded ↔ source.TopNumbered decoded := by
  rw [Respelling.numberedTop_bridges_iff]
  constructor
  · rintro ⟨hm, hlen, hne, hd⟩
    exact ⟨hm, zipWith_numberTop_eq_facing_iff.mp ⟨hlen, hd⟩, hne⟩
  · rintro ⟨hm, hops, hne⟩
    obtain ⟨hlen, hd⟩ := zipWith_numberTop_eq_facing_iff.mpr hops
    exact ⟨hm, hlen, hne, hd⟩

/-! ### Sizes left out -/

/-- What is left of an operand that starts with a size keyword. -/
theorem toList_withoutSize {k op : String} {rest : List Char}
    (h : op.toList = sizeMarker k ++ rest) : (withoutSize k op).toList = '[' :: rest := by
  rw [withoutSize, String.toList_ofList, h, Text.substFirst_append (sizeMarker_ne_nil k)]
  rfl

/-- With a size keyword a space is left out. -/
theorem count_space_sizeMarker (k : String) (rest : List Char) :
    ('[' :: rest).count ' ' < (sizeMarker k ++ rest).count ' ' := by
  have hspace : 0 < (sizeMarker k).count ' ' := by
    rw [List.count_pos_iff, sizeMarker]
    exact List.mem_cons_of_mem _ (List.mem_append_right _ (List.mem_singleton_self _))
  rw [List.count_cons_of_ne (by decide), List.count_append]
  omega

/-- A size is never left out on the decoded side only: every operand in brackets has one. -/
theorem not_elideSize_bridges (hsource : ∀ op ∈ source.operands, Operand.IsSized op)
    (hdecoded : ∀ op ∈ decoded.operands, Operand.IsSized op) :
    ¬ Respelling.elideSize.Bridges source decoded := by
  intro h
  obtain ⟨-, -, k, hk, hd⟩ := Respelling.elideSize_bridges_iff.mp h
  obtain ⟨-, ⟨op, hop, rest, hrest⟩, -⟩ := of_elidedKeyword?_eq_some hk
  have hleft := toList_withoutSize hrest.symm
  have hmem : withoutSize k op ∈ decoded.operands := by
    rw [hd]
    exact List.mem_map.mpr ⟨op, hop, rfl⟩
  -- both operands are in brackets, but the second one has a space less
  have hspace := (hsource op hop).count_space (by rw [← hrest]; exact List.mem_cons_self)
  have hspace' := (hdecoded _ hmem).count_space (by rw [hleft]; exact List.mem_cons_self)
  have hless := count_space_sizeMarker k rest
  rw [hrest, ← hleft, hspace, hspace'] at hless
  exact absurd hless (Nat.lt_irrefl 1)

/-! ### Two lines of one form -/

namespace Respelling

/-- Between two lines of one form, operands are exchanged wherever there are two of them. -/
theorem swapOperands_eq_none_iff (hform : formScope.Holds source decoded)
    {mnemonics : List String} : (swapOperands mnemonics).respell? source decoded = none ↔
      ¬ (source.mnemonic ∈ mnemonics ∧ source.operands.length = 2) := by
  have hlen : source.operands.length = decoded.operands.length := by
    simpa using hform.balanced true rfl
  rw [Option.eq_none_iff_forall_ne_some]
  constructor
  · rintro h ⟨hm, htwo⟩
    obtain ⟨x, y, ho⟩ := List.length_eq_two.mp htwo
    exact h _ (swapOperands_eq_some_iff.mpr
      ⟨hform.mnemonics.1, hm, hlen ▸ htwo, x, y, ho, rfl⟩)
  · intro h l hl
    obtain ⟨-, hm, htwo, -⟩ := swapOperands_eq_some_iff.mp hl
    exact h ⟨hm, hlen.trans htwo⟩

end Respelling

/-- The exchange of operands was tried before a stack top is numbered. -/
theorem swapOperands_eq_none_of_numberedTop {r : Rule} {l : Line}
    (h : firstApplicable? standardRules source decoded = some (r, l))
    (hr : r.respelling = .numberedTop) :
    (Respelling.swapOperands ["test", "xchg"]).respell? source decoded = none := by
  obtain ⟨before, after, he, -, hbefore⟩ := firstApplicable?_eq_some_iff.mp h
  have hmem : ⟨"commutative operands", .swapOperands ["test", "xchg"]⟩ ∈ standardRules := by
    decide
  have hpair : standardRules.Pairwise fun q q' =>
      q.respelling = .numberedTop → q'.respelling ≠ .swapOperands ["test", "xchg"] := by
    decide
  rw [he, List.pairwise_append, List.pairwise_cons] at hpair
  rw [he, List.mem_append, List.mem_cons] at hmem
  rcases hmem with hmem | rfl | hmem
  · exact hbefore _ hmem
  · cases hr
  · exact absurd rfl (hpair.2.1.1 _ hmem hr)

/-- No rule comes before the exchange of the operands of a `test` or `xchg`. -/
theorem firstApplicable?_of_exchanged (hmnemonic : source.mnemonic ∈ ["test", "xchg"])
    (h : source.Exchanged decoded) : firstApplicable? standardRules source decoded =
      some (⟨"commutative operands", .swapOperands ["test", "xchg"]⟩, decoded) :=
  firstApplicable?_of_bridges_of_swap (by decide)
    (Respelling.swapOperands_bridges_iff.mpr ⟨h.1, hmnemonic, h.2⟩) (by rintro ⟨⟩)

/-- **What the standard rules hide between two lines of one form** whose memory operands all have
their size: the exchange of the operands of a `test` or `xchg`, and the numbers of stack tops where
there is no such exchange to be tried first. -/
theorem bridged_iff_exchanged_or_topNumbered (hform : formScope.Holds source decoded)
    (hsource : ∀ op ∈ source.operands, Operand.IsSized op)
    (hdecoded : ∀ op ∈ decoded.operands, Operand.IsSized op) :
    (∃ r, firstApplicable? standardRules source decoded = some (r, decoded)) ↔
      source.mnemonic ∈ ["test", "xchg"] ∧ source.Exchanged decoded ∨
        source.TopNumbered decoded ∧
          ¬ (source.mnemonic ∈ ["test", "xchg"] ∧ source.operands.length = 2) := by
  constructor
  · rintro ⟨r, h⟩
    obtain ⟨hmem, hr⟩ := mem_of_firstApplicable? h
    have hbridges : r.respelling.Bridges source decoded := hr
    rcases scope_standardRules r hmem with hapart | hrule
    · exact (Scope.not_both_hold_of_apart hapart (Respelling.scope_holds_of_respell? hr) hform).elim
    · simp only [List.mem_cons, List.not_mem_nil, or_false] at hrule
      rcases hrule with hrule | hrule | hrule
      · rw [hrule] at hbridges
        exact absurd hbridges (not_elideSize_bridges hsource hdecoded)
      · rw [hrule] at hbridges
        obtain ⟨hm, hmnemonic, hops⟩ := Respelling.swapOperands_bridges_iff.mp hbridges
        exact .inl ⟨hmnemonic, hm, hops⟩
      · rw [hrule] at hbridges
        exact .inr ⟨numberedTop_bridges_iff_topNumbered.mp hbridges,
          (Respelling.swapOperands_eq_none_iff hform).mp
            (swapOperands_eq_none_of_numberedTop h hrule)⟩
  · rintro (⟨hmnemonic, hm, hops⟩ | ⟨htop, hswap⟩)
    · exact ⟨_, firstApplicable?_of_exchanged hmnemonic ⟨hm, hops⟩⟩
    · exact ⟨⟨"stack top spelling", .numberedTop⟩,
        firstApplicable?_of_bridges_of_swap (by decide)
          (numberedTop_bridges_iff_topNumbered.mpr htop)
          fun _ => (Respelling.swapOperands_eq_none_iff hform).mpr hswap⟩

/-! ### Combinations of a form -/

section Rows

variable {ts : List Template} {row : List String}

/-- The operands of a listed combination are sized. -/
theorem isSized_of_mem_row (hts : ∀ t ∈ ts, t ∈ Template.written)
    (hrow : row ∈ product (ts.map Template.operands)) :
    ∀ op ∈ row.map Text.lowered, Operand.IsSized op := by
  have hsets : ∀ s ∈ ts.map Template.operands, ∀ x ∈ s, Operand.IsSized (Text.lowered x) := by
    intro s hs x hx
    obtain ⟨t, ht, rfl⟩ := List.mem_map.mp hs
    exact Template.isSized_lowered (hts t ht) hx
  intro op hop
  obtain ⟨x, hx, rfl⟩ := List.mem_map.mp hop
  exact forall_of_mem_product hsets hrow x hx

theorem operands_ofRow (hts : ∀ t ∈ ts, t ∈ Template.written)
    (hrow : row ∈ product (ts.map Template.operands)) (m : String) :
    (Line.ofRow m row).operands = row.map Text.lowered := by
  have hsized := isSized_of_mem_row hts hrow
  exact Line.operands_ofParts fun op hop =>
    Text.not_hasSeparator_of_no_comma (hsized op hop).not_comma

/-- Different combinations of a form have different operands when listed. -/
theorem eq_of_map_lowered_eq (hts : ∀ t ∈ ts, t ∈ Template.written) {xs ys : List String}
    (hxs : xs ∈ product (ts.map Template.operands))
    (hys : ys ∈ product (ts.map Template.operands))
    (h : xs.map Text.lowered = ys.map Text.lowered) : xs = ys := by
  refine eq_of_map_eq_of_mem_product (fun s hs x hx y hy hxy => ?_) hxs hys h
  obtain ⟨t, ht, rfl⟩ := List.mem_map.mp hs
  exact Template.eq_of_lowered_eq (hts t ht) hx hy hxy

/-- Two different combinations of a form are in its scope. -/
theorem formScope_holds_ofRow (hts : ∀ t ∈ ts, t ∈ Template.written) {xs ys : List String}
    (hxs : xs ∈ product (ts.map Template.operands))
    (hys : ys ∈ product (ts.map Template.operands)) (hne : xs ≠ ys) (m : String) :
    formScope.Holds (Line.ofRow m xs) (Line.ofRow m ys) := by
  have hlen : xs.length = ys.length := by
    rw [length_of_mem_product hxs, length_of_mem_product hys]
  have hnil : xs ≠ [] := by
    rintro rfl
    exact hne (List.length_eq_zero_iff.mp hlen.symm).symm
  refine ⟨⟨rfl, rfl⟩, ?_, by simp [formScope], ?_⟩
  · rw [operands_ofRow hts hxs, List.length_map]
    exact List.length_pos_iff.mpr hnil
  · intro b hb
    cases hb
    rw [operands_ofRow hts hxs, operands_ofRow hts hys, List.length_map, List.length_map, hlen]
    simp

/-- **Which combinations of a form are told apart.**  Two different choices of operands for the same
templates are listed as different lines, whatever the mnemonic.  Some rule of the standard table
is the first to apply and makes them equal all the same exactly if the mnemonic is `test` or `xchg`
and the two operands are exchanged, or if stack tops are written with their number and are not the
two operands of a `test` or `xchg`. -/
theorem combinations_told_apart (m : String)
    (hts : ∀ t ∈ ts, ∃ s, Template.ofShorthand? s = some t) {xs ys : List String}
    (hxs : xs ∈ product (ts.map Template.operands))
    (hys : ys ∈ product (ts.map Template.operands)) (hne : xs ≠ ys) :
    Line.ofRow m xs ≠ Line.ofRow m ys ∧
      ((∃ r, firstApplicable? standardRules (Line.ofRow m xs) (Line.ofRow m ys) =
          some (r, Line.ofRow m ys)) ↔
        (m = "test" ∨ m = "xchg") ∧ (Line.ofRow m xs).Exchanged (Line.ofRow m ys) ∨
          (Line.ofRow m xs).TopNumbered (Line.ofRow m ys) ∧
            ¬ ((m = "test" ∨ m = "xchg") ∧ xs.length = 2)) := by
  have hwritten : ∀ t ∈ ts, t ∈ Template.written := by
    intro t ht
    obtain ⟨s, hs⟩ := hts t ht
    exact (Template.ofShorthand?_eq_some hs).1
  have hxops := operands_ofRow hwritten hxs m
  have hyops := operands_ofRow hwritten hys m
  refine ⟨fun h => hne ?_, ?_⟩
  · apply eq_of_map_lowered_eq hwritten hxs hys
    rw [← hxops, h, hyops]
  · have hx : ∀ op ∈ (Line.ofRow m xs).operands, Operand.IsSized op := by
      rw [hxops]
      exact isSized_of_mem_row hwritten hxs
    have hy : ∀ op ∈ (Line.ofRow m ys).operands, Operand.IsSized op := by
      rw [hyops]
      exact isSized_of_mem_row hwritten hys
    have hform := formScope_holds_ofRow hwritten hxs hys hne m
    have hmnemonic : (Line.ofRow m xs).mnemonic ∈ ["test", "xchg"] ↔ m = "test" ∨ m = "xchg" := by
      simp [Line.ofRow]
    rw [bridged_iff_exchanged_or_topNumbered hform hx hy, hmnemonic, hxops, List.length_map]

/-- A stack top in the second slot, with and without its number: the lines are different, and a rule
makes them equal. -/
theorem stack_top_told_by_number :
    Line.ofRow "fadd" ["ST", "ST"] ≠ Line.ofRow "fadd" ["ST", "ST(0)"] ∧
    (∃ r, firstApplicable? standardRules (Line.ofRow "fadd" ["ST", "ST"])
      (Line.ofRow "fadd" ["ST", "ST(0)"]) = some (r, Line.ofRow "fadd" ["ST", "ST(0)"])) ∧
    (Line.ofRow "fadd" ["ST", "ST"]).TopNumbered (Line.ofRow "fadd" ["ST", "ST(0)"]) := by
  have hts : ∀ t ∈ [Template.implicit "ST", Template.stack],
      ∃ s, Template.ofShorthand? s = some t := by
    rw [List.forall_mem_cons, List.forall_mem_singleton]
    exact ⟨⟨"ST", by decide⟩, ⟨"stack", by decide⟩⟩
  have hxs : ["ST", "ST"] ∈ product ([.implicit "ST", .stack].map Template.operands) := by decide
  have hys : ["ST", "ST(0)"] ∈ product ([.implicit "ST", .stack].map Template.operands) := by
    decide
  obtain ⟨hne, hiff⟩ := combinations_told_apart "fadd" hts hxs hys (by decide)
  have hfirst : ∃ r, firstApplicable? standardRules (Line.ofRow "fadd" ["ST", "ST"])
      (Line.ofRow "fadd" ["ST", "ST(0)"]) = some (r, Line.ofRow "fadd" ["ST", "ST(0)"]) :=
    ⟨⟨"stack top spelling", .numberedTop⟩, by decide⟩
  have hnumbered := (hiff.mp hfirst).resolve_left fun h => absurd h.1 (by decide)
  exact ⟨hne, hfirst, hnumbered.1⟩

end Rows

end AsmPair
