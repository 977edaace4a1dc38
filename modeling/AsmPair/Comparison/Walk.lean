import AsmPair.Line.Basic
import AsmPair.Spelling.Rule

/-!
# Walking two listings

A source listing and a decoded one are walked side by side.  At each step the two lines in
front are bridged because they are equal, because the decoded one is a wait that the
disassembler shows in front of an equal line, or because the first spelling rule that applies
turns one into the other.  The walk goes on as long as a step is possible; no step is ever taken
back.

## Main definitions

* `Step` — what bridges the lines in front.
* `Line.isWait`, `absorbsWait` — when a wait is passed over.
* `Walk`, `walk` — the steps that were taken and what is left of the listings.
-/

namespace AsmPair

/-- What bridges the lines in front of a walk. -/
inductive Step where
  /-- The two lines are equal. -/
  | equal : Step
  /-- A decoded wait is passed over; the line after it equals the source line. -/
  | waitAbsorbed : Step
  /-- The named rule turns the source line into the decoded one. -/
  | alias (rule : String) : Step
  deriving DecidableEq, Repr

/-- The mnemonics of a wait. -/
def waitMnemonics : List String := ["wait", "fwait"]

/-- Whether a line is a wait. -/
def Line.isWait (l : Line) : Bool := waitMnemonics.contains l.mnemonic

/-- Whether the decoded line `b` is a wait that may be passed over in front of the source line
`a`, where `rest` are the decoded lines after it. -/
def absorbsWait (a b : Line) (rest : List Line) : Bool :=
  b.isWait && !a.isWait && rest.head? == some a

/-- Where a walk ended. -/
structure Walk where
  /-- The steps that were taken. -/
  steps : List Step
  /-- The source lines that are left. -/
  source : List Line
  /-- The decoded lines that are left. -/
  decoded : List Line
  /-- The rule that applied to the lines in front without making them equal. -/
  rule? : Option String
  deriving DecidableEq

/-- A walk with one more step in front. -/
def Walk.after (step : Step) (w : Walk) : Walk := { w with steps := step :: w.steps }

@[simp] theorem Walk.steps_after (step : Step) (w : Walk) :
    (w.after step).steps = step :: w.steps := rfl

@[simp] theorem Walk.source_after (step : Step) (w : Walk) : (w.after step).source = w.source :=
  rfl

@[simp] theorem Walk.decoded_after (step : Step) (w : Walk) :
    (w.after step).decoded = w.decoded := rfl

/-- Walk a source and a decoded listing side by side. -/
def walk (rules : List Rule) : List Line → List Line → Walk
  | a :: as, b :: bs =>
    if a = b then (walk rules as bs).after .equal
    -- the line after the wait equals `a`, so the next step is `equal`
    else if absorbsWait a b bs then (walk rules (a :: as) bs).after .waitAbsorbed
    else
      match firstApplicable? rules a b with
      | some (r, l) =>
        if l = b then (walk rules as bs).after (.alias r.name)
        -- rules further down the table are not tried
        else ⟨[], a :: as, b :: bs, some r.name⟩
      | none => ⟨[], a :: as, b :: bs, none⟩
  | as, bs => ⟨[], as, bs, none⟩

@[simp] theorem walk_nil_left (rules : List Rule) (bs : List Line) :
    walk rules [] bs = ⟨[], [], bs, none⟩ := by
  rw [walk]
  simp

@[simp] theorem walk_nil_right (rules : List Rule) (as : List Line) :
    walk rules as [] = ⟨[], as, [], none⟩ := by
  rw [walk]
  simp

/-- Equal lines are passed together. -/
@[simp] theorem walk_cons_self (rules : List Rule) (a : Line) (as bs : List Line) :
    walk rules (a :: as) (a :: bs) = (walk rules as bs).after .equal := by
  rw [walk, if_pos rfl]

/-- A walk over equal listings takes equal steps only. -/
@[simp] theorem walk_self (rules : List Rule) (ls : List Line) :
    walk rules ls ls = ⟨List.replicate ls.length .equal, [], [], none⟩ := by
  induction ls with
  | nil => rw [walk_nil_left]; rfl
  | cons l ls ih =>
    rw [walk_cons_self, ih]
    rfl

/-- What is left of the listings is a part at their ends. -/
theorem walk_suffix (rules : List Rule) (as bs : List Line) :
    (walk rules as bs).source <:+ as ∧ (walk rules as bs).decoded <:+ bs := by
  fun_induction walk rules as bs with
  | case1 as b bs ih => exact ⟨ih.1.trans (List.suffix_cons _ _), ih.2.trans (List.suffix_cons _ _)⟩
  | case2 a as b bs _ _ ih => exact ⟨ih.1, ih.2.trans (List.suffix_cons _ _)⟩
  | case3 a as bs r b _ _ _ ih =>
    exact ⟨ih.1.trans (List.suffix_cons _ _), ih.2.trans (List.suffix_cons _ _)⟩
  | case4 => exact ⟨List.suffix_refl _, List.suffix_refl _⟩
  | case5 => exact ⟨List.suffix_refl _, List.suffix_refl _⟩
  | case6 => exact ⟨List.suffix_refl _, List.suffix_refl _⟩

end AsmPair
