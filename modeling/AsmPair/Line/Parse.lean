import AsmPair.Line.Basic
import AsmPair.Text.Case

/-!
# Reading canonical lines

A raw line is lowered and its runs of blanks are collapsed.  Its first word is the mnemonic;
repeat and lock words belong to the mnemonic that follows them, so `REP   MOVSB` is one mnemonic
without operands.  The rest of the line is the operand list, cut at commas.

## Main definitions

* `Line.isLead` — the repeat and lock words.
* `Line.splitMnemonic` — the words of the mnemonic and the words after them.
* `Line.parse` — the line that a raw text stands for.
-/

namespace AsmPair.Line

/-- The words that belong to the mnemonic after them. -/
def leadWords : List String := ["rep", "repe", "repz", "repne", "repnz", "lock"]

/-- Whether a word belongs to the mnemonic after it. -/
def isLead (w : List Char) : Bool := leadWords.contains (String.ofList w)

/-- The words of the mnemonic and the words after them.  A lead word with nothing after it is
itself the mnemonic. -/
def splitMnemonic : List (List Char) → List (List Char) × List (List Char)
  | [] => ([], [])
  | [w] => ([w], [])
  | w :: v :: ws =>
    if isLead w then
      let r := splitMnemonic (v :: ws)
      (w :: r.1, r.2)
    else ([w], v :: ws)

@[simp] theorem splitMnemonic_cons_of_not_lead {w : List Char} (hw : isLead w = false)
    (ws : List (List Char)) : splitMnemonic (w :: ws) = ([w], ws) := by
  cases ws with
  | nil => rfl
  | cons v ws => rw [splitMnemonic, hw, if_neg Bool.false_ne_true]

@[simp] theorem splitMnemonic_cons_of_lead {w : List Char} (hw : isLead w = true)
    {ws : List (List Char)} (hws : ws ≠ []) :
    splitMnemonic (w :: ws) = (w :: (splitMnemonic ws).1, (splitMnemonic ws).2) := by
  obtain ⟨v, ws, rfl⟩ := List.exists_cons_of_ne_nil hws
  rw [splitMnemonic, if_pos hw]

/-- The operands written in the words after the mnemonic. -/
def operandsOf (ws : List (List Char)) : List String :=
  if ws.isEmpty then []
  else (Text.pieces (· == ',') (Text.joined [' '] ws)).map fun p => String.ofList (Text.trim p)

/-- The line that a raw text stands for.  Comments and labels are not looked for. -/
def parse (raw : String) : Line :=
  let parts := splitMnemonic (Text.words (Text.lower raw.toList))
  ofParts (String.ofList (Text.joined [' '] parts.1)) (operandsOf parts.2)

/-- The words are those of the mnemonic and those after it. -/
theorem splitMnemonic_append (ws : List (List Char)) :
    (splitMnemonic ws).1 ++ (splitMnemonic ws).2 = ws := by
  fun_induction splitMnemonic ws with
  | case1 => rfl
  | case2 w => rfl
  | case3 w v ws _ r ih => simpa [r] using ih
  | case4 w v ws _ => rfl

end AsmPair.Line
