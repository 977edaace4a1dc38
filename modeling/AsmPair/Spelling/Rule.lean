import AsmPair.Line.Parse
import AsmPair.Operand.Register
import AsmPair.Text.Search

/-!
# Spelling rules

A disassembler may write an instruction differently than it was typed: under another mnemonic,
without a size that the operands imply, or with operands made explicit.  A spelling rule has a
direction.  It looks at a source line and at the decoded line that faces it, and spells the source
line as the disassembler would; whether the outcome is the decoded line is for the comparison to
say.  Rules are tried in the order of their table, and the first that applies
decides.

## Main definitions

* `Respelling` — the ways to spell a line differently.
* `Rule` — a named respelling.
* `Rule.respell?` — a source line in the disassembler's spelling, if the rule applies.
* `firstApplicable?` — the first rule of a table that applies, with the respelled line.
-/

namespace AsmPair

/-- A way to spell a line differently. -/
inductive Respelling where
  /-- Another mnemonic with the same operands, by pairs of source and decoded mnemonic. -/
  | rename (pairs : List (String × String)) : Respelling
  /-- A suffix after the mnemonic, of lines with operands or of lines without. -/
  | addSuffix (mnemonics : List String) (suffix : String) (withOperands : Bool) : Respelling
  /-- One whole line for another. -/
  | exchange (source decoded : String) : Respelling
  /-- A size keyword left out, where the rest of the line implies it. -/
  | elideSize : Respelling
  /-- The load of a constant address as a move. -/
  | leaAsMov : Respelling
  /-- Two operands the other way round. -/
  | swapOperands (mnemonics : List String) : Respelling
  /-- The second of two equal operands left out, before a third. -/
  | dropDuplicate (mnemonic : String) : Respelling
  /-- A suffix of the mnemonic left out, of lines without operands. -/
  | dropSuffix (mnemonics : List String) (suffix : String) : Respelling
  /-- Implied operands written out, perhaps with a suffix after the mnemonic. -/
  | explicitOperands (mnemonics : List String) (suffix : String) (operands : List String) :
      Respelling
  /-- The stack top left out as the destination of a coprocessor instruction. -/
  | implicitDestination : Respelling
  /-- A sole operand left out, as it is the default. -/
  | dropDefault (mnemonics : List String) (operand : String) : Respelling
  /-- The stack top written with its number. -/
  | numberedTop : Respelling
  deriving DecidableEq, Repr

/-- A named respelling. -/
structure Rule where
  /-- The name under which reports mention the rule. -/
  name : String
  /-- What the rule does. -/
  respelling : Respelling
  deriving DecidableEq, Repr

/-! ### Sizes -/

/-- The size keywords that may be left out. -/
def sizeKeywords : List String := ["byte", "word", "dword", "fword"]

/-- The mnemonics whose opcode fixes the size of a memory operand. -/
def sizedByOpcode : List String :=
  ["lea", "bound", "lds", "les", "lgdt", "lidt", "sgdt", "sidt", "lldt", "sldt", "lmsw", "smsw",
    "ltr", "str", "verr", "verw", "arpl", "lar", "lsl", "call", "jmp", "push", "pop"]

/-- The shifts and rotations, whose register operand is a count and has a size of its own. -/
def shifts : List String := ["rcl", "rcr", "rol", "ror", "sal", "sar", "shl", "shr"]

/-- Whether the size of a memory operand follows from the mnemonic or from another operand. -/
def sizeImplied (mnemonic : String) (operands : List String) : Bool :=
  sizedByOpcode.contains mnemonic ||
    (!shifts.contains mnemonic && operands.any Operand.isRegister)

/-- How a memory operand with a size keyword starts. -/
def sizeMarker (keyword : String) : List Char := '[' :: (keyword.toList ++ [' '])

@[simp] theorem sizeMarker_ne_nil (k : String) : sizeMarker k ≠ [] := List.cons_ne_nil _ _

/-- The first size keyword with which a source operand starts and that does not stand in the
decoded line. -/
def elidedKeyword? (source decoded : Line) : Option String :=
  sizeKeywords.find? fun k =>
    source.operands.any (fun op => Text.startsWith (sizeMarker k) op.toList) &&
      !Text.holds (sizeMarker k) decoded.text.toList

/-- An operand without its size keyword. -/
def withoutSize (keyword op : String) : String :=
  String.ofList (Text.substFirst (sizeMarker keyword) ['['] op.toList)

/-! ### Respelling lines -/

/-- The address in a word-sized memory operand. -/
def wordAddress? (op : String) : Option String :=
  ((Text.after? (sizeMarker "word") op.toList).bind (Text.before? [']'])).map String.ofList

/-- A stack top that faces a numbered one is numbered. -/
def numberTop (op facing : String) : String :=
  if op = "st" ∧ facing = "st(0)" then "st(0)" else op

/-- The source line in the disassembler's spelling, if the respelling applies to it and to the
decoded line that faces it. -/
def Respelling.respell? (source decoded : Line) : Respelling → Option Line
  | rename pairs =>
    if pairs.contains (source.mnemonic, decoded.mnemonic) then
      some (source.withMnemonic decoded.mnemonic)
    else none
  | addSuffix mnemonics suffix withOperands =>
    if mnemonics.contains source.mnemonic && source.operands.isEmpty != withOperands &&
        decoded.mnemonic == source.mnemonic ++ suffix then
      some (source.withMnemonic (source.mnemonic ++ suffix))
    else none
  | exchange old new =>
    if source.text = old ∧ decoded.mnemonic = (Line.parse new).mnemonic then
      some (Line.parse new)
    else none
  | elideSize =>
    match elidedKeyword? source decoded with
    | none => none
    | some k =>
      if source.mnemonic = decoded.mnemonic ∧
          sizeImplied source.mnemonic source.operands = true then
        some (Line.ofParts source.mnemonic (source.operands.map (withoutSize k)))
      else none
  | leaAsMov =>
    if source.mnemonic = "lea" ∧ decoded.mnemonic = "mov" then
      match source.operands with
      | [target, address] =>
        (wordAddress? address).map fun a => Line.ofParts "mov" [target, a]
      | _ => none
    else none
  | swapOperands mnemonics =>
    if source.mnemonic = decoded.mnemonic ∧ mnemonics.contains source.mnemonic = true then
      match source.operands, decoded.operands with
      | [a, b], [_, _] => some (Line.ofParts source.mnemonic [b, a])
      | _, _ => none
    else none
  | dropDuplicate mnemonic =>
    if source.mnemonic = decoded.mnemonic ∧ source.mnemonic = mnemonic then
      match source.operands, decoded.operands with
      | [a, b, c], [_, _] => if a = b then some (Line.ofParts mnemonic [a, c]) else none
      | _, _ => none
    else none
  | dropSuffix mnemonics suffix =>
    match Text.before? suffix.toList source.mnemonic.toList with
    | none => none
    | some stem =>
      if mnemonics.contains source.mnemonic && source.operands.isEmpty &&
          decoded.mnemonic == String.ofList stem then
        some (Line.ofParts (String.ofList stem) [])
      else none
  | explicitOperands mnemonics suffix operands =>
    if mnemonics.contains source.mnemonic && source.operands.isEmpty &&
        decoded.mnemonic == source.mnemonic ++ suffix then
      some (Line.ofParts (source.mnemonic ++ suffix) operands)
    else none
  | implicitDestination =>
    if source.mnemonic = decoded.mnemonic ∧
        Text.startsWith ['f'] source.mnemonic.toList = true then
      match source.operands, decoded.operands with
      | [a, b], [_] => if a = "st" then some (Line.ofParts source.mnemonic [b]) else none
      | _, _ => none
    else none
  | dropDefault mnemonics operand =>
    if source.mnemonic = decoded.mnemonic ∧ mnemonics.contains source.mnemonic = true ∧
        source.operands = [operand] ∧ decoded.operands = [] then
      some (Line.ofParts source.mnemonic [])
    else none
  | numberedTop =>
    if source.mnemonic = decoded.mnemonic ∧
        decoded.operands.length = source.operands.length then
      let respelled := List.zipWith numberTop source.operands decoded.operands
      -- the rule applies only where it changes something
      if respelled = source.operands then none
      else some (Line.ofParts source.mnemonic respelled)
    else none

/-- The source line in the disassembler's spelling, if the rule applies. -/
def Rule.respell? (r : Rule) (source decoded : Line) : Option Line :=
  r.respelling.respell? source decoded

/-- The first rule of a table that applies, with the respelled source line. -/
def firstApplicable? (rules : List Rule) (source decoded : Line) : Option (Rule × Line) :=
  rules.findSome? fun r => (r.respell? source decoded).map fun l => (r, l)

@[simp] theorem firstApplicable?_nil (source decoded : Line) :
    firstApplicable? [] source decoded = none := rfl

/-- The first rule that applies is a rule of the table, and it applies. -/
theorem mem_of_firstApplicable? {rules : List Rule} {source decoded l : Line} {r : Rule}
    (h : firstApplicable? rules source decoded = some (r, l)) :
    r ∈ rules ∧ r.respell? source decoded = some l := by
  obtain ⟨q, hq, hmap⟩ := List.exists_of_findSome?_eq_some h
  obtain ⟨l', hl', heq⟩ := Option.map_eq_some_iff.mp hmap
  cases heq
  exact ⟨hq, hl'⟩

/-- A rule that applies at the end of a table decides only if no earlier rule applies. -/
@[simp] theorem firstApplicable?_append (rules more : List Rule) (source decoded : Line) :
    firstApplicable? (rules ++ more) source decoded =
      (firstApplicable? rules source decoded).or (firstApplicable? more source decoded) := by
  rw [firstApplicable?, List.findSome?_append]
  rfl

end AsmPair
