import AsmPair.Comparison.Verdict

/-!
# Reports in plain text

A report has a line for each module, followed by the indented description of a mismatch, and
ends with the counts.  A listing has a line for each row.

## Main definitions

* `TextReport.report`, `TextReport.listing` — the two texts.
-/

namespace AsmPair

/-- How many modules do not match. -/
def mismatchCount (vs : List ModuleVerdict) : Nat := vs.countP fun v => !v.verdict.isMatch

namespace TextReport

/-- The lines about one module. -/
def moduleLines (v : ModuleVerdict) : List String :=
  match v.verdict with
  | .matched => [v.name ++ ": ok"]
  | .mismatch m => (v.name ++ ": MISMATCH") :: (Text.linesOf m.text).map ("    " ++ ·)

/-- The line with the counts. -/
def counts (vs : List ModuleVerdict) : String :=
  toString vs.length ++ " compared, " ++ toString (mismatchCount vs) ++ " mismatched"

/-- A report in plain text. -/
def report (vs : List ModuleVerdict) : String :=
  String.join ((vs.flatMap moduleLines ++ ["", counts vs]).map (· ++ "\n"))

/-- A listing in plain text. -/
def listing (rows : List Row) : String := String.join (rows.map fun r => r.text ++ "\n")

end TextReport

end AsmPair
