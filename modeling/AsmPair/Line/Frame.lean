import AsmPair.Line.Basic
import AsmPair.Text.Case

/-!
# Module frames

A module is framed by lines that assemble to nothing: a prologue that sets the mode, opens the
segment, fixes assumptions and origin, defines the entry label and names the processor, and an
epilogue that closes the segment and ends the program.  Frames are recognized by position only.
The lines of a prologue have a fixed order, and each may be missing.

## Main definitions

* `FrameLine`, `FrameLine.recognizes` — the lines of a prologue.
* `prologueLength` — how many lines at the start of a listing are its prologue.
* `Framed`, `framed` — a listing cut into prologue, body and epilogue.
-/

namespace AsmPair

/-- The kinds of prologue line. -/
inductive FrameLine where
  /-- The syntax mode. -/
  | mode : FrameLine
  /-- The start of a segment. -/
  | segment : FrameLine
  /-- The segment register assumptions. -/
  | assume : FrameLine
  /-- The origin of the program. -/
  | origin : FrameLine
  /-- The entry label, on a line of its own. -/
  | entryLabel : FrameLine
  /-- The processor directive. -/
  | processor : FrameLine
  deriving DecidableEq, Repr

namespace FrameLine

/-- The kinds of prologue line, in the order in which they are recognized. -/
def inOrder : List FrameLine := [mode, segment, assume, origin, entryLabel, processor]

/-- The processor directives. -/
def processors : List String := ["p8086", "p8087", "p186", "p286", "p286n", "p286p", "p287"]

/-- Whether a line is of the kind; `label` is the name of the entry label. -/
def recognizes (label : String) (l : Line) : FrameLine → Bool
  | mode => l.text == "ideal"
  | segment => l.mnemonic == "segment"
  | assume => l.mnemonic == "assume"
  | origin => l.mnemonic == "org"
  | entryLabel => l.text == Text.lowered label ++ ":"
  | processor => processors.contains l.mnemonic

end FrameLine

/-- How many lines at the start of a listing belong to a prologue whose kinds are among `kinds`,
in this order. -/
def prologueLength (label : String) : List FrameLine → List Line → Nat
  | [], _ => 0
  | _, [] => 0
  | k :: ks, l :: ls =>
    if k.recognizes label l then prologueLength label ks ls + 1
    else prologueLength label ks (l :: ls)

/-- The lines before the last one, if that one has the mnemonic. -/
def dropEnd (mnemonic : String) (ls : List Line) : List Line :=
  match ls.getLast? with
  | some l => if l.mnemonic = mnemonic then ls.dropLast else ls
  | none => ls

/-- A listing cut at its frame. -/
structure Framed where
  /-- How many lines come before the body. -/
  start : Nat
  /-- The lines between prologue and epilogue. -/
  body : List Line

/-- The first position after the body. -/
def Framed.stop (f : Framed) : Nat := f.start + f.body.length

/-- A listing cut at its frame, where `label` is the name of the entry label.  After the
prologue, the last line is dropped if it ends the program, and the last line before that if it
closes the segment. -/
def framed (label : String) (ls : List Line) : Framed :=
  let start := prologueLength label FrameLine.inOrder ls
  ⟨start, dropEnd "ends" (dropEnd "end" (ls.drop start))⟩

theorem prologueLength_le_length (label : String) (kinds : List FrameLine) (ls : List Line) :
    prologueLength label kinds ls ≤ ls.length := by
  fun_induction prologueLength label kinds ls with
  | case1 => exact Nat.zero_le _
  | case2 => exact Nat.zero_le _
  | case3 k ks l ls _ ih => exact Nat.succ_le_succ ih
  | case4 k ks l ls _ ih => exact ih

theorem prologueLength_le_kinds (label : String) (kinds : List FrameLine) (ls : List Line) :
    prologueLength label kinds ls ≤ kinds.length := by
  fun_induction prologueLength label kinds ls with
  | case1 => exact Nat.zero_le _
  | case2 => exact Nat.zero_le _
  | case3 k ks l ls _ ih => exact Nat.succ_le_succ ih
  | case4 k ks l ls _ ih => exact Nat.le_succ_of_le ih

theorem dropEnd_isPrefix (mnemonic : String) (ls : List Line) : dropEnd mnemonic ls <+: ls := by
  unfold dropEnd
  split
  · split
    · exact List.dropLast_prefix ls
    · exact List.prefix_refl ls
  · exact List.prefix_refl ls

/-- The body is a part of the listing that begins where the prologue ends. -/
theorem body_isPrefix (label : String) (ls : List Line) :
    (framed label ls).body <+: ls.drop (framed label ls).start :=
  (dropEnd_isPrefix _ _).trans (dropEnd_isPrefix _ _)

end AsmPair
