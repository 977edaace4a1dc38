import AsmPair.Line.Frame
import AsmPair.Proofs.Line.Text
import Mathlib.Data.List.Forall2

/-!
# Cutting a listing at its frame

A prologue ends at the first line that no kind of prologue line recognizes.  Instructions are told
from the frame by their mnemonic: an entry label holds no space and ends in a colon.  So lines
that do not look like a frame themselves are found again in any frame that they are put into.

## Main definitions

* `Line.Unframed` — a line that is no part of any prologue.
* `IsPrologue`, `IsEpilogue`, `IsFrameless` — the parts of a framed listing.
* `framePrologue` — the lines that every module begins with.

## Main results

* `unframed_of_mnemonic` — instructions are no part of a prologue.
* `framed_append` — a prologue and an epilogue are cut off, and nothing else.
* `take_stop` — where the body stands in its listing.
-/

namespace AsmPair

/-! ### Lines outside of a prologue -/

/-- A line that no kind of prologue line recognizes. -/
def Line.Unframed (label : String) (l : Line) : Prop :=
  ∀ k : FrameLine, k.recognizes label l = false

/-- The mnemonics of prologue lines. -/
def FrameLine.mnemonics : List String := ["ideal", "segment", "assume", "org"] ++ processors

/-- An instruction is told from the frame by its mnemonic. -/
theorem unframed_of_mnemonic {label : String} {l : Line}
    (hlabel : ' ' ∉ (Text.lowered label).toList) (hcolon : ':' ∉ l.mnemonic.toList)
    (hm : l.mnemonic ∉ FrameLine.mnemonics) : l.Unframed label := by
  have hne : ∀ m ∈ FrameLine.mnemonics, l.mnemonic ≠ m := by
    intro m hmem heq
    exact hm (heq ▸ hmem)
  intro k
  cases k with
  | mode =>
    refine beq_false_of_ne fun heq => ?_
    have hspace : ' ' ∉ l.text.toList := by
      rw [heq]
      decide
    exact hne "ideal" (by decide) ((Line.mnemonic_eq_text hspace).trans heq)
  | segment => exact beq_false_of_ne (hne "segment" (by decide))
  | assume => exact beq_false_of_ne (hne "assume" (by decide))
  | origin => exact beq_false_of_ne (hne "org" (by decide))
  | entryLabel =>
    refine beq_false_of_ne fun heq => ?_
    have hspace : ' ' ∉ l.text.toList := by
      rw [heq, String.toList_append, List.mem_append, not_or]
      exact ⟨hlabel, by decide⟩
    -- the mnemonic would end in the colon of the label
    apply hcolon
    rw [Line.mnemonic_eq_text hspace, heq, String.toList_append]
    exact List.mem_append_right _ List.mem_cons_self
  | processor =>
    rw [Bool.eq_false_iff]
    intro hmem
    exact hm (List.mem_append_right _ (List.contains_iff_mem.mp hmem))

theorem prologueLength_of_recognizes {label : String} {k : FrameLine} {l : Line}
    (h : k.recognizes label l = true) (ks : List FrameLine) (ls : List Line) :
    prologueLength label (k :: ks) (l :: ls) = prologueLength label ks ls + 1 := by
  rw [prologueLength, if_pos h]

theorem prologueLength_of_not_recognizes {label : String} {k : FrameLine} {l : Line}
    (h : k.recognizes label l = false) (ks : List FrameLine) (ls : List Line) :
    prologueLength label (k :: ks) (l :: ls) = prologueLength label ks (l :: ls) := by
  rw [prologueLength, if_neg (by rw [h]; exact Bool.false_ne_true)]

/-- A prologue ends in front of such a line. -/
theorem prologueLength_of_unframed {label : String} {l : Line} (h : l.Unframed label)
    (kinds : List FrameLine) (ls : List Line) : prologueLength label kinds (l :: ls) = 0 := by
  induction kinds with
  | nil => rfl
  | cons k ks ih => rw [prologueLength_of_not_recognizes (h k), ih]

/-! ### Bodies in their listings -/

section Position

variable {label : String} {ls rest : List Line}

@[simp] theorem length_take_start (label : String) (ls : List Line) :
    (ls.take (framed label ls).start).length = (framed label ls).start :=
  List.length_take_of_le (prologueLength_le_length label FrameLine.inOrder ls)

/-- Up to the end of its body, a listing is its prologue and its body. -/
theorem take_stop (label : String) (ls : List Line) :
    ls.take (framed label ls).stop =
      ls.take (framed label ls).start ++ (framed label ls).body := by
  unfold Framed.stop
  rw [List.take_add, ← List.prefix_iff_eq_take.mp (body_isPrefix label ls)]

@[simp] theorem length_take_stop (label : String) (ls : List Line) :
    (ls.take (framed label ls).stop).length = (framed label ls).stop := by
  rw [take_stop, List.length_append, length_take_start]
  rfl

end Position

/-! ### Frames -/

/-- The lines of a prologue.  Each is of a kind of its own, the kinds are in order, and any of them
may be missing. -/
def IsPrologue (label : String) (ls : List Line) : Prop :=
  ∃ kinds, kinds.Sublist FrameLine.inOrder ∧
    List.Forall₂ (fun k l => FrameLine.recognizes label l k = true) kinds ls

/-- The lines of an epilogue: the end of the segment and the end of the program, each of which may
be missing. -/
def IsEpilogue (ls : List Line) : Prop :=
  ∃ closing? ending? : Option Line, ls = closing?.toList ++ ending?.toList ∧
    (∀ l ∈ closing?, l.mnemonic = "ends") ∧ ∀ l ∈ ending?, l.mnemonic = "end"

/-- Lines that do not begin with a prologue and do not end in an epilogue. -/
structure IsFrameless (label : String) (ls : List Line) : Prop where
  /-- The first line is no part of a prologue. -/
  first : ∀ l ∈ ls.head?, l.Unframed label
  /-- The last line closes no segment and ends no program. -/
  last : ∀ l ∈ ls.getLast?, l.mnemonic ≠ "ends" ∧ l.mnemonic ≠ "end"

section Frame

variable {label : String} {kinds order : List FrameLine} {prologue body epilogue rest : List Line}

/-- A prologue is recognized to its end at least.  A kind that comes earlier in the order may take
a line that is meant for a later one, but the kinds after that are still to come. -/
theorem exists_prologueLength_append (hsub : kinds.Sublist order)
    (hkinds : List.Forall₂ (fun k l => FrameLine.recognizes label l k = true) kinds prologue)
    (rest : List Line) : ∃ later,
      prologueLength label order (prologue ++ rest) =
        prologue.length + prologueLength label later rest := by
  induction order generalizing kinds prologue with
  | nil =>
    rw [List.sublist_nil.mp hsub] at hkinds
    rw [List.forall₂_nil_left_iff.mp hkinds]
    exact ⟨[], (Nat.zero_add _).symm⟩
  | cons k order ih =>
    cases hkinds with
    | nil => exact ⟨k :: order, (Nat.zero_add _).symm⟩
    | @cons k₀ l kinds prologue hl hkinds =>
      rw [List.cons_append]
      by_cases hk : FrameLine.recognizes label l k = true
      · obtain ⟨later, heq⟩ := ih hsub.tail hkinds
        refine ⟨later, ?_⟩
        rw [prologueLength_of_recognizes hk, heq, List.length_cons, Nat.add_right_comm]
      · have hsub' : (k₀ :: kinds).Sublist order := by
          rcases List.sublist_cons_iff.mp hsub with h | ⟨ks, hks, -⟩
          · exact h
          · cases hks
            exact absurd hl hk
        rw [prologueLength_of_not_recognizes (Bool.eq_false_iff.mpr hk)]
        exact ih hsub' (List.Forall₂.cons hl hkinds)

/-- A prologue is recognized up to its end, if no kind of prologue line recognizes the line after
it. -/
theorem prologueLength_append (hsub : kinds.Sublist order)
    (hkinds : List.Forall₂ (fun k l => FrameLine.recognizes label l k = true) kinds prologue)
    (hrest : ∀ l ∈ rest.head?, l.Unframed label) :
    prologueLength label order (prologue ++ rest) = prologue.length := by
  obtain ⟨later, heq⟩ := exists_prologueLength_append hsub hkinds rest
  have hzero : prologueLength label later rest = 0 := by
    cases rest with
    | nil => exact Nat.le_zero.mp (prologueLength_le_length label later [])
    | cons l rest => exact prologueLength_of_unframed (hrest l rfl) later rest
  rw [heq, hzero, Nat.add_zero]

theorem dropEnd_concat {m : String} {l : Line} (h : l.mnemonic = m) (ls : List Line) :
    dropEnd m (ls ++ [l]) = ls := by
  unfold dropEnd
  rw [List.getLast?_concat]
  simp only [h, if_true, List.dropLast_concat]

theorem dropEnd_eq_self {m : String} {ls : List Line} (h : ∀ l ∈ ls.getLast?, l.mnemonic ≠ m) :
    dropEnd m ls = ls := by
  unfold dropEnd
  split
  · next l hl => rw [if_neg (h l hl)]
  · rfl

/-- An epilogue is dropped, and nothing before it. -/
theorem dropEnd_append (hlast : ∀ l ∈ body.getLast?, l.mnemonic ≠ "ends" ∧ l.mnemonic ≠ "end")
    (hepilogue : IsEpilogue epilogue) :
    dropEnd "ends" (dropEnd "end" (body ++ epilogue)) = body := by
  obtain ⟨closing?, ending?, rfl, hclosing, hending⟩ := hepilogue
  have hprogram : dropEnd "end" (body ++ (closing?.toList ++ ending?.toList)) =
      body ++ closing?.toList := by
    rw [← List.append_assoc]
    cases ending? with
    | some e => exact dropEnd_concat (hending e rfl) _
    | none =>
      rw [Option.toList_none, List.append_nil]
      apply dropEnd_eq_self
      cases closing? with
      | none =>
        rw [Option.toList_none, List.append_nil]
        exact fun l hl => (hlast l hl).2
      | some c =>
        rw [Option.toList_some, List.getLast?_concat]
        rintro l ⟨⟩
        rw [hclosing c rfl]
        decide
  rw [hprogram]
  cases closing? with
  | none =>
    rw [Option.toList_none, List.append_nil]
    exact dropEnd_eq_self fun l hl => (hlast l hl).1
  | some c => exact dropEnd_concat (hclosing c rfl) _

/-- The first line of an epilogue is no part of a prologue. -/
theorem unframed_of_isEpilogue (hlabel : ' ' ∉ (Text.lowered label).toList)
    (hepilogue : IsEpilogue epilogue) : ∀ l ∈ epilogue.head?, l.Unframed label := by
  have hunframed : ∀ l : Line, l.mnemonic = "ends" ∨ l.mnemonic = "end" → l.Unframed label := by
    rintro l (hl | hl) <;> refine unframed_of_mnemonic hlabel ?_ ?_ <;> rw [hl] <;> decide
  obtain ⟨closing?, ending?, rfl, hclosing, hending⟩ := hepilogue
  intro l hl
  cases closing? with
  | some c =>
    cases hl
    exact hunframed l (.inl (hclosing l rfl))
  | none =>
    cases ending? with
    | some e =>
      cases hl
      exact hunframed l (.inr (hending l rfl))
    | none => cases hl

/-- **A prologue and an epilogue are cut off, and nothing else.** -/
theorem framed_append (hlabel : ' ' ∉ (Text.lowered label).toList)
    (hprologue : IsPrologue label prologue) (hbody : IsFrameless label body)
    (hepilogue : IsEpilogue epilogue) :
    framed label (prologue ++ body ++ epilogue) = ⟨prologue.length, body⟩ := by
  obtain ⟨kinds, hsub, hkinds⟩ := hprologue
  have hfirst : ∀ l ∈ (body ++ epilogue).head?, l.Unframed label := by
    cases body with
    | nil => exact unframed_of_isEpilogue hlabel hepilogue
    | cons l ls => exact hbody.first
  unfold framed
  rw [List.append_assoc]
  simp only [prologueLength_append hsub hkinds hfirst, List.drop_left,
    dropEnd_append hbody.last hepilogue]

/-- Lines without a frame are all body. -/
theorem framed_of_isFrameless (hlabel : ' ' ∉ (Text.lowered label).toList)
    (hbody : IsFrameless label body) : framed label body = ⟨0, body⟩ := by
  have hprologue : IsPrologue label [] := ⟨[], List.nil_sublist _, .nil⟩
  have hepilogue : IsEpilogue [] := ⟨none, none, rfl, by simp, by simp⟩
  have hframed := framed_append hlabel hprologue hbody hepilogue
  rwa [List.nil_append, List.append_nil] at hframed

end Frame

/-! ### The prologues of modules -/

/-- The lines that every module begins with. -/
def framePrologue : List Line :=
  [.ofParts "ideal" [], .ofParts "segment" ["image"],
    .ofParts "assume" ["cs:image", "ds:image", "ss:image", "es:image"], .ofParts "org" ["0100h"]]

/-- The lines that every module begins with, and after them the entry label and the processor
directive where they are kept, are a prologue. -/
theorem isPrologue_framePrologue {label : String} {kept? directive? : Option Line}
    (hkept : ∀ e ∈ kept?, FrameLine.recognizes label e .entryLabel = true)
    (hdirective : ∀ d ∈ directive?, FrameLine.recognizes label d .processor = true) :
    IsPrologue label (framePrologue ++ kept?.toList ++ directive?.toList) := by
  have hcommon : List.Forall₂ (fun k l => FrameLine.recognizes label l k = true)
      [.mode, .segment, .assume, .origin] framePrologue :=
    .cons rfl (.cons rfl (.cons rfl (.cons rfl .nil)))
  have hoptional : ∀ {l? : Option Line} {k : FrameLine},
      (∀ l ∈ l?, k.recognizes label l = true) →
        List.Forall₂ (fun k l => FrameLine.recognizes label l k = true)
          (l?.toList.map fun _ => k) l?.toList := by
    intro l? k h
    cases l? with
    | none => exact .nil
    | some l => exact .cons (h l rfl) .nil
  refine ⟨_, ?_, List.rel_append (List.rel_append hcommon (hoptional hkept))
    (hoptional hdirective)⟩
  -- the order is the same whichever of the two is missing
  cases kept? <;> cases directive? <;> simp only [Option.toList_none, Option.toList_some,
    List.map_nil, List.map_singleton] <;> decide

end AsmPair
