import AsmPair.Text.Separator

/-!
# Canonical lines

A line of a listing is a mnemonic with a list of operands.  It is written with one space after
the mnemonic and `", "` between the operands, so an operand itself holds no such separator;
with that, the written text and the place where its mnemonic ends determine the line.

## Main definitions

* `Line` — a mnemonic and its operands.
* `Line.ofParts` — the line that a mnemonic and any list of operands are written as.
* `Line.text` — the written line.
* `Line.withMnemonic` — the same operands under another mnemonic.
-/

namespace AsmPair

/-- An instruction or directive line in canonical form. -/
@[ext] structure Line where
  /-- The mnemonic, with the repeat and lock words in front of it. -/
  mnemonic : String
  /-- The operands, in order. -/
  operands : List String
  /-- No operand holds a separator. -/
  separate : ∀ op ∈ operands, Text.hasSeparator op.toList = false
  deriving DecidableEq

namespace Line

/-- The operands that a reader finds in a written list of operands. -/
def reread (ops : List String) : List String :=
  if ops.isEmpty then []
  else (Text.separated (Text.listed (ops.map String.toList))).map String.ofList

theorem separate_reread (ops : List String) :
    ∀ op ∈ reread ops, Text.hasSeparator op.toList = false := by
  intro op h
  rw [reread] at h
  split at h
  · simp at h
  · obtain ⟨p, hp, rfl⟩ := List.mem_map.mp h
    rw [String.toList_ofList]
    exact Text.not_hasSeparator_of_mem_separated hp

theorem reread_ne_nil {ops : List String} (h : ops ≠ []) : reread ops ≠ [] := by
  rw [reread, if_neg (by rwa [List.isEmpty_iff]), Ne, List.map_eq_nil_iff]
  exact Text.separated_ne_nil _

theorem reread_of_separate {ops : List String}
    (h : ∀ op ∈ ops, Text.hasSeparator op.toList = false) : reread ops = ops := by
  cases ops with
  | nil => rfl
  | cons op ops =>
    rw [reread, List.isEmpty_cons, if_neg Bool.false_ne_true, Text.separated_listed (by simp)]
    · simp [List.map_map, Function.comp_def]
    · intro p hp
      obtain ⟨q, hq, rfl⟩ := List.mem_map.mp hp
      exact h q hq

/-- The line that a mnemonic and a list of operands are written as.  An operand that holds a
separator counts as several. -/
def ofParts (mnemonic : String) (ops : List String) : Line :=
  ⟨mnemonic, reread ops, separate_reread ops⟩

/-- The written line. -/
def text (l : Line) : String :=
  if l.operands.isEmpty then l.mnemonic
  else l.mnemonic ++ " " ++ ", ".intercalate l.operands

/-- The same operands under another mnemonic. -/
def withMnemonic (l : Line) (mnemonic : String) : Line := { l with mnemonic }

@[simp] theorem mnemonic_ofParts (m : String) (ops : List String) :
    (ofParts m ops).mnemonic = m := rfl

theorem operands_ofParts {m : String} {ops : List String}
    (h : ∀ op ∈ ops, Text.hasSeparator op.toList = false) :
    (ofParts m ops).operands = ops := reread_of_separate h

@[simp] theorem mnemonic_withMnemonic (l : Line) (m : String) :
    (l.withMnemonic m).mnemonic = m := rfl

@[simp] theorem operands_withMnemonic (l : Line) (m : String) :
    (l.withMnemonic m).operands = l.operands := rfl

/-- A line is made of its own parts. -/
@[simp] theorem ofParts_eta (l : Line) : ofParts l.mnemonic l.operands = l :=
  Line.ext rfl (reread_of_separate l.separate)

end Line

end AsmPair
