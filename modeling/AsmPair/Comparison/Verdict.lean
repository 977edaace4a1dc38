import AsmPair.Comparison.Walk
import AsmPair.Line.Frame
import AsmPair.Line.Listing
import AsmPair.Module.Compose
import AsmPair.Spelling.Standard

/-!
# Verdicts

Two listings match if the walk over their bodies passes all lines of both.  If it does not, the
verdict says where it stopped, in lines of the whole listings, and shows a few lines from there.

## Main definitions

* `Mismatch`, `Verdict` — the outcome of a comparison.
* `Matcher` — the spelling rules and the entry label of a comparison.
* `Matcher.compare` — the comparison of two listings.
* `ModuleVerdict`, `Matcher.compareAll` — the comparisons of several modules.
-/

namespace AsmPair

/-- How two listings differ. -/
inductive MismatchKind where
  /-- Both have a line in front, and nothing bridges the two. -/
  | divergence : MismatchKind
  /-- One is at its end and the other is not. -/
  | incompleteStream : MismatchKind
  deriving DecidableEq, Repr

/-- The name of a kind in reports. -/
def MismatchKind.key : MismatchKind → String
  | .divergence => "divergence"
  | .incompleteStream => "incomplete_stream"

/-- Where and how two listings differ. -/
structure Mismatch where
  /-- How they differ. -/
  kind : MismatchKind
  /-- The position in the source listing, its frame included. -/
  sourceIndex : Nat
  /-- The position in the decoded listing, its frame included. -/
  decodedIndex : Nat
  /-- The next lines of the source body. -/
  sourceRemainder : List Line
  /-- The next lines of the decoded body. -/
  decodedRemainder : List Line
  /-- The rule that applied to the lines in front without making them equal. -/
  rule? : Option String
  deriving DecidableEq

namespace Mismatch

/-- The number of lines shown from a mismatch on. -/
def context : Nat := 4

/-- The source line in front. -/
def sourceLine? (m : Mismatch) : Option Line := m.sourceRemainder.head?

/-- The decoded line in front. -/
def decodedLine? (m : Mismatch) : Option Line := m.decodedRemainder.head?

/-- A line in front, or that there is none. -/
def shown : Option Line → String
  | some l => l.text
  | none => "EOF"

/-- A mismatch in plain text: the positions, counted from one, and the lines in front. -/
def text (m : Mismatch) : String :=
  "mismatch at original line " ++ toString (m.sourceIndex + 1) ++ ", decoded line " ++
    toString (m.decodedIndex + 1) ++
    (match m.rule? with
      | some rule => " (rule `" ++ rule ++ "` did not apply)"
      | none => "") ++
    "\nASM: " ++ shown m.sourceLine? ++ "\nDIS: " ++ shown m.decodedLine?

end Mismatch

/-- The outcome of a comparison. -/
inductive Verdict where
  /-- The walk passed all lines. -/
  | matched : Verdict
  /-- The walk stopped before the end. -/
  | mismatch (m : Mismatch) : Verdict
  deriving DecidableEq

/-- Whether two listings match. -/
def Verdict.isMatch : Verdict → Bool
  | .matched => true
  | .mismatch _ => false

/-- How a walk over the bodies of two listings is judged. -/
def Walk.verdict (w : Walk) (source decoded : Framed) : Verdict :=
  if w.source.isEmpty && w.decoded.isEmpty then .matched
  else
    .mismatch
      { kind := if w.source.isEmpty || w.decoded.isEmpty then .incompleteStream else .divergence
        sourceIndex := source.stop - w.source.length
        decodedIndex := decoded.stop - w.decoded.length
        sourceRemainder := w.source.take Mismatch.context
        decodedRemainder := w.decoded.take Mismatch.context
        rule? := w.rule? }

/-- What a comparison finds. -/
structure Comparison where
  /-- The outcome. -/
  verdict : Verdict
  /-- What bridged the lines up to there. -/
  steps : List Step
  deriving DecidableEq

/-- The rules and the entry label of a comparison. -/
structure Matcher where
  /-- The spelling rules, in the order in which they are tried. -/
  rules : List Rule
  /-- The entry label of the modules. -/
  entryLabel : String
  deriving DecidableEq

namespace Matcher

/-- The matcher with the standard rules and an entry label. -/
def ofLabel (entryLabel : String) : Matcher := ⟨standardRules, entryLabel⟩

/-- The matcher with the standard rules and the default entry label. -/
def standard : Matcher := ofLabel Composer.defaultLabel

/-- Compare two listings. -/
def compare (m : Matcher) (source decoded : List Line) : Comparison :=
  let a := framed m.entryLabel source
  let b := framed m.entryLabel decoded
  let w := walk m.rules a.body b.body
  ⟨w.verdict a b, w.steps⟩

/-- Compare two lists of raw lines; blank lines, comments and labels are left out. -/
def compareRaw (m : Matcher) (source decoded : List String) : Comparison :=
  m.compare (Line.ofRaws source) (Line.ofRaws decoded)

end Matcher

/-- A module whose listings are to be compared. -/
structure Specimen where
  /-- The name of the module. -/
  name : String
  /-- The listing of its source. -/
  source : List Line
  /-- The listing that was decoded from its image. -/
  decoded : List Line
  deriving DecidableEq

/-- The outcome for a named module. -/
structure ModuleVerdict where
  /-- The name of the module. -/
  name : String
  /-- The outcome. -/
  verdict : Verdict
  deriving DecidableEq

/-- Compare several modules.  Each outcome depends on its own module only. -/
def Matcher.compareAll (m : Matcher) (specimens : List Specimen) : List ModuleVerdict :=
  specimens.map fun s => ⟨s.name, (m.compare s.source s.decoded).verdict⟩

end AsmPair
