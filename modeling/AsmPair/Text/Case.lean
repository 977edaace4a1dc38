import AsmPair.Text.CaseTable

/-!
# Letter case

The lower- and upper-case forms of a text after the Unicode Standard.  A letter may become
several characters: an upper-case dotted I becomes an i and a combining dot, a sharp s becomes
two letters.  The form of one letter depends on its neighbours: an upper-case sigma becomes a
final sigma at the end of a word and a plain one elsewhere.

## Main definitions

* `isCased`, `isCaseIgnorable` — the two properties that the sigma rule refers to.
* `isFinal before after` — whether a letter between the two texts ends a word.
* `lower`, `upper` — the lower- and upper-case forms of a text.
* `sameLetters` — equality up to the case of ASCII letters.
-/

namespace AsmPair.Text

/-! ### Properties of characters -/

/-- Whether one of the ranges holds the code point. -/
def inRanges (ranges : List (Nat × Nat)) (n : Nat) : Bool :=
  ranges.any fun r => r.1 ≤ n && n ≤ r.2

/-- A letter that has a case and is not looked through. -/
def isCased (c : Char) : Bool :=
  if c.toNat < 0x80 then c.isAlpha else inRanges casedRanges c.toNat

/-- A character that is looked through when the neighbours of a letter decide its form, such as
an apostrophe, a full stop or a combining accent. -/
def isCaseIgnorable (c : Char) : Bool :=
  if c.toNat < 0x80 then c == '\'' || c == '.' || c == ':' || c == '^' || c.toNat == 0x60
  else inRanges caseIgnorableRanges c.toNat

/-- Whether the first character that is not looked through has a case. -/
def startsCased (cs : List Char) : Bool :=
  match cs.dropWhile isCaseIgnorable with
  | [] => false
  | c :: _ => isCased c

/-- Whether a letter ends a word: a letter with a case comes before it and none after it.  The
text before it is given backwards. -/
def isFinal (before after : List Char) : Bool := startsCased before && !startsCased after

/-! ### Maps of single characters -/

/-- The image of a character under a table of runs; characters outside the runs stay. -/
def mapRuns (runs : List CaseRun) (c : Char) : Char :=
  match runs.findSome? fun r => r.image? c.toNat with
  | some n => Char.ofNat n
  | none => c

/-- The lower-case form of one character, away from the sigma rule. -/
def lowerChar (c : Char) : List Char :=
  if c.toNat < 0x80 then [c.toLower]
  else if c.toNat = 0x130 then ['i', '\u0307']
  else [mapRuns lowerRuns c]

/-- The upper-case form of one character. -/
def upperChar (c : Char) : List Char :=
  if c.toNat < 0x80 then [c.toUpper]
  else
    match upperExpansions.lookup c.toNat with
    | some ns => ns.map Char.ofNat
    | none => [mapRuns upperRuns c]

/-! ### Maps of texts -/

/-- The lower-case form of what follows the text `before`, which is given backwards. -/
def lowerAfter (before : List Char) : List Char → List Char
  | [] => []
  | c :: cs =>
      (if c = 'Σ' then (if isFinal before cs then ['ς'] else ['σ']) else lowerChar c) ++
        lowerAfter (c :: before) cs

/-- The lower-case form of a text. -/
def lower (cs : List Char) : List Char := lowerAfter [] cs

/-- The upper-case form of a text. -/
def upper (cs : List Char) : List Char := cs.flatMap upperChar

/-- `lower` on strings. -/
def lowered (s : String) : String := String.ofList (lower s.toList)

/-- Equality of two texts up to the case of ASCII letters. -/
def sameLetters (s t : String) : Bool := s.toList.map Char.toLower == t.toList.map Char.toLower

@[simp] theorem lowerAfter_nil (before : List Char) : lowerAfter before [] = [] := rfl

theorem lowerAfter_cons (before : List Char) (c : Char) (cs : List Char) :
    lowerAfter before (c :: cs) =
      (if c = 'Σ' then (if isFinal before cs then ['ς'] else ['σ']) else lowerChar c) ++
        lowerAfter (c :: before) cs := rfl

theorem lowerChar_of_ascii {c : Char} (h : c.toNat < 0x80) : lowerChar c = [c.toLower] := by
  simp [lowerChar, h]

theorem upperChar_of_ascii {c : Char} (h : c.toNat < 0x80) : upperChar c = [c.toUpper] := by
  simp [upperChar, h]

/-- An ASCII text is lowered letter by letter, whatever stands before it. -/
theorem lowerAfter_of_ascii {cs : List Char} (h : ∀ c ∈ cs, c.toNat < 0x80)
    (before : List Char) : lowerAfter before cs = cs.map Char.toLower := by
  induction cs generalizing before with
  | nil => rfl
  | cons c cs ih =>
    have hc : c.toNat < 0x80 := h c List.mem_cons_self
    have hσ : c ≠ 'Σ' := by rintro rfl; exact absurd hc (by decide)
    rw [lowerAfter_cons, if_neg hσ, lowerChar_of_ascii hc,
      ih (fun d hd => h d (List.mem_cons_of_mem _ hd))]
    rfl

/-- An ASCII text is lowered letter by letter. -/
theorem lower_of_ascii {cs : List Char} (h : ∀ c ∈ cs, c.toNat < 0x80) :
    lower cs = cs.map Char.toLower := lowerAfter_of_ascii h []

end AsmPair.Text
