import AsmPair.Line.Basic
import AsmPair.Proofs.Text.Joined

/-!
# Lines and their texts

## Main results

* `Line.ofParts_eq_iff` — operands without separators are the operands of the line they make.
* `Line.text_of_nil`, `Line.toList_text_of_ne_nil` — the two forms of a written line.
* `Line.infix_text`, `Line.mem_text`, `Line.filter_text` — what a written line consists of.
-/

namespace AsmPair.Line

theorem ofParts_eq_iff {m : String} {ops : List String} {l : Line}
    (h : ∀ op ∈ ops, Text.hasSeparator op.toList = false) :
    ofParts m ops = l ↔ m = l.mnemonic ∧ ops = l.operands := by
  rw [Line.ext_iff, mnemonic_ofParts, operands_ofParts h]

/-- A written line without operands. -/
theorem text_of_nil {l : Line} (h : l.operands = []) : l.text = l.mnemonic := by
  unfold text
  rw [h]
  rfl

/-- A written line with operands. -/
theorem toList_text_of_ne_nil {l : Line} (h : l.operands ≠ []) :
    l.text.toList =
      l.mnemonic.toList ++ ' ' :: Text.listed (l.operands.map String.toList) := by
  rw [text, if_neg (by rwa [List.isEmpty_iff]), String.toList_append, String.toList_append,
    Text.toList_intercalate_comma, List.append_assoc]
  rfl

/-- A written line begins with its mnemonic. -/
theorem prefix_text (l : Line) : l.mnemonic.toList <+: l.text.toList := by
  by_cases hops : l.operands = []
  · exact text_of_nil hops ▸ List.prefix_refl _
  · exact toList_text_of_ne_nil hops ▸ List.prefix_append _ _

/-- Where spaces and commas do not count, a written line is its mnemonic and its operands. -/
theorem filter_text {p : Char → Bool} (hspace : p ' ' = false) (hcomma : p ',' = false)
    (l : Line) : l.text.toList.filter p =
      (l.mnemonic.toList ++ (l.operands.map String.toList).flatten).filter p := by
  by_cases hops : l.operands = []
  · rw [text_of_nil hops, hops, List.map_nil, List.flatten_nil, List.append_nil]
  · have hsep : [',', ' '].filter p = [] := by
      rw [List.filter_cons_of_neg (by simp [hcomma]), List.filter_cons_of_neg (by simp [hspace]),
        List.filter_nil]
    rw [toList_text_of_ne_nil hops, List.filter_append,
      List.filter_cons_of_neg (by simp [hspace]), Text.listed, Text.filter_joined hsep,
      List.filter_append]

/-- A line without a space is its mnemonic. -/
theorem mnemonic_eq_text {l : Line} (h : ' ' ∉ l.text.toList) : l.mnemonic = l.text := by
  by_cases hops : l.operands = []
  · exact (text_of_nil hops).symm
  · rw [toList_text_of_ne_nil hops] at h
    exact absurd (List.mem_append_right _ List.mem_cons_self) h

/-- The text of a line consists of its mnemonic, its operands, spaces and commas. -/
theorem mem_text {l : Line} {c : Char} (h : c ∈ l.text.toList) :
    c ∈ [',', ' '] ∨ c ∈ l.mnemonic.toList ∨ ∃ op ∈ l.operands, c ∈ op.toList := by
  by_cases hops : l.operands = []
  · rw [text_of_nil hops] at h
    exact Or.inr (Or.inl h)
  · rw [toList_text_of_ne_nil hops, List.mem_append, List.mem_cons] at h
    rcases h with h | rfl | h
    · exact Or.inr (Or.inl h)
    · exact Or.inl (by simp)
    · refine (Text.mem_joined h).imp_right fun hp => Or.inr ?_
      obtain ⟨p, hp, hc⟩ := hp
      obtain ⟨op, hop, rfl⟩ := List.mem_map.mp hp
      exact ⟨op, hop, hc⟩

/-- An operand stands in the written line. -/
theorem infix_text {l : Line} {op : String} (h : op ∈ l.operands) :
    op.toList <:+: l.text.toList := by
  have hne : l.operands ≠ [] := List.ne_nil_of_mem h
  have hop : op.toList <:+: Text.listed (l.operands.map String.toList) :=
    Text.infix_joined (List.mem_map.mpr ⟨op, h, rfl⟩)
  rw [toList_text_of_ne_nil hne]
  exact hop.trans ((List.suffix_cons _ _).trans (List.suffix_append _ _)).isInfix

end AsmPair.Line
