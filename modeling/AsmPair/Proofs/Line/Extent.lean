import AsmPair.Proofs.Comparison.Exhaustion
import Mathlib.Order.Bounds.Basic

/-!
# The extent of a frame

The prologue of a listing is found in a single pass over the kinds of prologue line, and each kind
takes the next line if it can.  Taking a line early is never a mistake, as it leaves more kinds for
the lines after it.  So no prologue is longer than the one that is found, whichever kinds its
lines are thought to be of.  At the end of a listing there are two lines at most to be dropped, and
neither is looked for among the lines of the prologue.

## Main definitions

* `prologueEnds` — where a prologue of a listing can end.
* `epilogueStarts` — where an epilogue of a listing can begin, once its prologue is cut off.

## Main results

* `length_le_prologueLength` — the pass finds the longest prologue.
* `framed_is_widest` — a frame is the longest prologue and the longest epilogue after it.
-/

namespace AsmPair

/-- The positions of a listing that are the end of a prologue. -/
def prologueEnds (label : String) (ls : List Line) : Set Nat :=
  {n | n ≤ ls.length ∧ IsPrologue label (ls.take n)}

/-- The positions of a listing, from the end of its prologue on, where an epilogue begins. -/
def epilogueStarts (start : Nat) (ls : List Line) : Set Nat :=
  {n | start ≤ n ∧ n ≤ ls.length ∧ IsEpilogue (ls.drop n)}

/-! ### The longest prologue -/

/-- The lines that the pass takes are of kinds in order. -/
theorem exists_kinds_take_prologueLength (label : String) (order : List FrameLine)
    (ls : List Line) : ∃ kinds, kinds.Sublist order ∧
      List.Forall₂ (fun k l => FrameLine.recognizes label l k = true) kinds
        (ls.take (prologueLength label order ls)) := by
  fun_induction prologueLength label order ls with
  | case1 => exact ⟨[], List.nil_sublist _, .nil⟩
  | case2 => exact ⟨[], List.nil_sublist _, .nil⟩
  | case3 k ks l ls hk ih =>
    obtain ⟨kinds, hsub, hkinds⟩ := ih
    exact ⟨k :: kinds, hsub.cons_cons k, .cons hk hkinds⟩
  | case4 k ks l ls _ ih =>
    obtain ⟨kinds, hsub, hkinds⟩ := ih
    exact ⟨kinds, hsub.cons k, hkinds⟩

/-- The pass takes at least the lines of any prologue. -/
theorem length_le_prologueLength {label : String} {kinds order : List FrameLine}
    {prologue : List Line} (hsub : kinds.Sublist order)
    (hkinds : List.Forall₂ (fun k l => FrameLine.recognizes label l k = true) kinds prologue)
    (rest : List Line) : prologue.length ≤ prologueLength label order (prologue ++ rest) := by
  obtain ⟨later, heq⟩ := exists_prologueLength_append hsub hkinds rest
  rw [heq]
  exact Nat.le_add_right _ _

/-- What comes before a body is the longest prologue of the listing. -/
theorem isGreatest_start (label : String) (ls : List Line) :
    IsGreatest (prologueEnds label ls) (framed label ls).start := by
  refine ⟨⟨?_, ?_⟩, ?_⟩
  · exact prologueLength_le_length label FrameLine.inOrder ls
  · exact exists_kinds_take_prologueLength label FrameLine.inOrder ls
  · rintro n ⟨hn, kinds, hsub, hkinds⟩
    have hle := length_le_prologueLength hsub hkinds (ls.drop n)
    rwa [List.length_take_of_le hn, List.take_append_drop] at hle

/-! ### The longest epilogue -/

/-- An epilogue is dropped at least.  Where one of its two lines is missing, the line before it may
be taken for that one. -/
theorem dropEnd_append_isPrefix {epilogue : List Line} (hepilogue : IsEpilogue epilogue)
    (front : List Line) : dropEnd "ends" (dropEnd "end" (front ++ epilogue)) <+: front := by
  obtain ⟨closing?, ending?, rfl, hclosing, hending⟩ := hepilogue
  cases closing? with
  | none =>
    have hend : dropEnd "end" (front ++ ending?.toList) <+: front := by
      cases ending? with
      | none =>
        rw [Option.toList_none, List.append_nil]
        exact dropEnd_isPrefix "end" front
      | some e => exact (dropEnd_concat (hending e rfl) front).symm ▸ List.prefix_refl front
    rw [Option.toList_none, List.nil_append]
    exact (dropEnd_isPrefix "ends" _).trans hend
  | some c =>
    have hend : dropEnd "end" (front ++ ([c] ++ ending?.toList)) = front ++ [c] := by
      rw [← List.append_assoc]
      cases ending? with
      | none =>
        rw [Option.toList_none, List.append_nil]
        apply dropEnd_eq_self
        rw [List.getLast?_concat]
        rintro l ⟨⟩
        rw [hclosing c rfl]
        decide
      | some e => exact dropEnd_concat (hending e rfl) _
    rw [Option.toList_some, hend]
    exact (dropEnd_concat (hclosing c rfl) front).symm ▸ List.prefix_refl front

theorem IsEpilogue.length_le {epilogue : List Line} (h : IsEpilogue epilogue) :
    epilogue.length ≤ 2 := by
  obtain ⟨closing?, ending?, rfl, -, -⟩ := h
  rw [List.length_append]
  exact Nat.add_le_add (Option.length_toList_le) (Option.length_toList_le)

section Extent

variable (label : String) (ls : List Line)

theorem start_le_stop : (framed label ls).start ≤ (framed label ls).stop :=
  Nat.le_add_right _ _

/-- What comes after a body is the longest epilogue behind the prologue. -/
theorem isLeast_stop :
    IsLeast (epilogueStarts (framed label ls).start ls) (framed label ls).stop := by
  refine ⟨⟨start_le_stop label ls, stop_le_length label ls, isEpilogue_drop_stop label ls⟩, ?_⟩
  rintro n ⟨hstart, hn, hepilogue⟩
  -- behind the prologue, the lines up to `n` and the epilogue
  have hsplit : ls.drop (framed label ls).start =
      (ls.take n).drop (framed label ls).start ++ ls.drop n := by
    rw [← List.drop_append_of_le_length (by rwa [List.length_take_of_le hn]),
      List.take_append_drop]
  have hbody : (framed label ls).body <+: (ls.take n).drop (framed label ls).start := by
    change dropEnd "ends" (dropEnd "end" (ls.drop (framed label ls).start)) <+: _
    rw [hsplit]
    exact dropEnd_append_isPrefix hepilogue _
  have hle := hbody.length_le
  rw [List.length_drop, List.length_take_of_le hn] at hle
  unfold Framed.stop
  omega

/-- **A frame is the longest prologue of a listing and the longest epilogue behind it.**  The body
is what lies between them.  The two never overlap, a prologue has at most six lines and an
epilogue at most two. -/
theorem framed_is_widest :
    IsGreatest (prologueEnds label ls) (framed label ls).start ∧
      IsLeast (epilogueStarts (framed label ls).start ls) (framed label ls).stop ∧
      (framed label ls).body = (ls.take (framed label ls).stop).drop (framed label ls).start ∧
      (framed label ls).start ≤ (framed label ls).stop ∧
      (framed label ls).stop ≤ ls.length ∧
      (framed label ls).start ≤ 6 ∧ ls.length ≤ (framed label ls).stop + 2 := by
  refine ⟨isGreatest_start label ls, isLeast_stop label ls, ?_, start_le_stop label ls,
    stop_le_length label ls, ?_, ?_⟩
  · rw [take_stop]
    exact (List.drop_left' (length_take_start label ls)).symm
  · exact prologueLength_le_kinds label FrameLine.inOrder ls
  · have hle := (isEpilogue_drop_stop label ls).length_le
    rw [List.length_drop] at hle
    omega

end Extent

/-- The mode comes before the origin, so a mode behind an origin belongs to the body. -/
example : let f := framed "start" [.parse "org 0100h", .parse "ideal", .parse "ends", .parse "end"]
    (f.start, f.stop) = (1, 2) := by decide

end AsmPair
