import AsmPair.Text.Blank

/-!
# Cutting texts into pieces

A text is cut at every character of a class, which gives one piece more than there are cuts.
Words, lines and comma-separated lists are all read this way; they differ in the class and in
what is done with empty pieces.

## Main definitions

* `pieces p cs` — the pieces of `cs` between the characters of the class `p`.
* `joined sep ps` — the pieces again in one text, with `sep` between them.
* `words` — the maximal runs of characters that are not blank.
* `spaced` — a text with every run of blanks collapsed to one space and none at the ends.
* `lines` — the lines of a text, each ended by a line feed that a carriage return may precede.
* `cut? p cs` — what stands before and after the first character of the class `p`.
-/

namespace AsmPair.Text

/-! ### Pieces -/

/-- Put a character in front of the first piece. -/
def consFirst (c : Char) : List (List Char) → List (List Char)
  | [] => [[c]]
  | p :: ps => (c :: p) :: ps

/-- The pieces of a text between the characters of the class `p`; there is always at least one. -/
def pieces (p : Char → Bool) (cs : List Char) : List (List Char) :=
  cs.foldr (fun c ps => if p c then [] :: ps else consFirst c ps) [[]]

@[simp] theorem consFirst_nil (c : Char) : consFirst c [] = [[c]] := rfl

@[simp] theorem consFirst_cons (c : Char) (p : List Char) (ps : List (List Char)) :
    consFirst c (p :: ps) = (c :: p) :: ps := rfl

theorem consFirst_ne_nil (c : Char) (ps : List (List Char)) : consFirst c ps ≠ [] := by
  cases ps <;> simp

@[simp] theorem pieces_nil (p : Char → Bool) : pieces p [] = [[]] := rfl

theorem pieces_cons (p : Char → Bool) (c : Char) (cs : List Char) :
    pieces p (c :: cs) = if p c then [] :: pieces p cs else consFirst c (pieces p cs) := rfl

theorem pieces_ne_nil (p : Char → Bool) (cs : List Char) : pieces p cs ≠ [] := by
  cases cs with
  | nil => simp
  | cons c cs =>
    rw [pieces_cons]
    split
    · simp
    · exact consFirst_ne_nil _ _

/-- No piece holds a character of the class. -/
theorem not_of_mem_pieces {p : Char → Bool} {cs piece : List Char} (h : piece ∈ pieces p cs) :
    ∀ c ∈ piece, p c = false := by
  induction cs generalizing piece with
  | nil => simp_all
  | cons d cs ih =>
    rw [pieces_cons] at h
    split at h
    -- at a cut the first piece is empty
    · rcases List.mem_cons.mp h with rfl | h
      · simp
      · exact ih h
    · rename_i hd
      cases hps : pieces p cs with
      | nil => exact absurd hps (pieces_ne_nil p cs)
      | cons q qs =>
        rw [hps, consFirst_cons] at h
        rcases List.mem_cons.mp h with rfl | h
        · intro c hc
          rcases List.mem_cons.mp hc with rfl | hc
          · simpa using hd
          · exact ih (by rw [hps]; exact List.mem_cons_self) c hc
        · exact ih (by rw [hps]; exact List.mem_cons_of_mem _ h)

/-- Pieces put into one text, with `sep` between them. -/
def joined (sep : List Char) : List (List Char) → List Char
  | [] => []
  | [p] => p
  | p :: q :: ps => p ++ sep ++ joined sep (q :: ps)

@[simp] theorem joined_nil (sep : List Char) : joined sep [] = [] := rfl

@[simp] theorem joined_singleton (sep p : List Char) : joined sep [p] = p := rfl

@[simp] theorem joined_cons_cons (sep p q : List Char) (ps : List (List Char)) :
    joined sep (p :: q :: ps) = p ++ sep ++ joined sep (q :: ps) := rfl

/-! ### Words -/

/-- The maximal runs of characters that are not blank. -/
def words (cs : List Char) : List (List Char) :=
  (pieces isBlank cs).filter fun w => !w.isEmpty

/-- A text with its runs of blanks collapsed to one space and none left at the ends. -/
def spaced (cs : List Char) : List Char := joined [' '] (words cs)

theorem ne_nil_of_mem_words {cs w : List Char} (h : w ∈ words cs) : w ≠ [] := by
  have h2 := (List.mem_filter.mp h).2
  intro hw
  simp [hw] at h2

theorem not_isBlank_of_mem_words {cs w : List Char} (h : w ∈ words cs) :
    ∀ c ∈ w, isBlank c = false :=
  not_of_mem_pieces (List.mem_filter.mp h).1

/-! ### Lines -/

/-- A line without the carriage return that belongs to its end. -/
def dropReturn (l : List Char) : List Char :=
  if l.getLast? = some '\r' then l.dropLast else l

/-- The lines of a text.  Every line feed ends one; a text that does not end with a line feed
has one more line, in which a carriage return at the end is an ordinary character. -/
def lines (cs : List Char) : List (List Char) :=
  let ps := pieces (· == '\n') cs
  ps.dropLast.map dropReturn ++ ps.getLast?.toList.filter fun l => !l.isEmpty

/-- `lines` on strings. -/
def linesOf (s : String) : List String := (lines s.toList).map String.ofList

/-! ### Cuts -/

/-- What stands before and after the first character of the class `p`, if there is one. -/
def cut? (p : Char → Bool) : List Char → Option (List Char × List Char)
  | [] => none
  | c :: cs => if p c then some ([], cs) else (cut? p cs).map fun r => (c :: r.1, r.2)

@[simp] theorem cut?_nil (p : Char → Bool) : cut? p [] = none := rfl

@[simp] theorem cut?_cons_of_pos {p : Char → Bool} {c : Char} (h : p c = true) (cs : List Char) :
    cut? p (c :: cs) = some ([], cs) := if_pos h

@[simp] theorem cut?_cons_of_neg {p : Char → Bool} {c : Char} (h : p c = false) (cs : List Char) :
    cut? p (c :: cs) = (cut? p cs).map fun r => (c :: r.1, r.2) := by
  rw [cut?, h, if_neg Bool.false_ne_true]

theorem eq_of_cut?_eq_some {p : Char → Bool} {cs before after : List Char}
    (h : cut? p cs = some (before, after)) :
    ∃ c, p c = true ∧ cs = before ++ c :: after ∧ ∀ d ∈ before, p d = false := by
  induction cs generalizing before with
  | nil => simp at h
  | cons c cs ih =>
    cases hc : p c with
    | true =>
      rw [cut?_cons_of_pos hc] at h
      cases h
      exact ⟨c, hc, rfl, List.forall_mem_nil _⟩
    | false =>
      rw [cut?_cons_of_neg hc] at h
      obtain ⟨r, hr, he⟩ := Option.map_eq_some_iff.mp h
      cases he
      obtain ⟨d, hd, rfl, hall⟩ := ih hr
      exact ⟨d, hd, rfl, List.forall_mem_cons.mpr ⟨hc, hall⟩⟩

end AsmPair.Text
