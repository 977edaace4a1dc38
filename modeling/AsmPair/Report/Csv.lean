import AsmPair.Comparison.Verdict
import AsmPair.Text.Csv

/-!
# Reports in comma-separated values

A report has a header and a record for each module, with the lines in front of a mismatch and
the positions.  A listing has a header and a record for each row; without rows it is empty.

## Main definitions

* `CsvReport.fields` — the fields of a module.
* `CsvReport.report`, `CsvReport.listing` — the two texts.
-/

namespace AsmPair.CsvReport

/-- The header of a report. -/
def header : List String :=
  ["module", "verdict", "kind", "original_line", "decoded_line", "original_index",
    "decoded_index"]

/-- A line in front of a mismatch; none is an empty field. -/
def lineField : Option Line → String
  | some l => l.text
  | none => ""

/-- The fields of a module. -/
def fields (v : ModuleVerdict) : List String :=
  match v.verdict with
  | .matched => [v.name, "matched", "", "", "", "", ""]
  | .mismatch m =>
    [v.name, "mismatch", m.kind.key, lineField m.sourceLine?, lineField m.decodedLine?,
      toString m.sourceIndex, toString m.decodedIndex]

/-- A report. -/
def report (vs : List ModuleVerdict) : String :=
  String.join ((header :: vs.map fields).map Text.Csv.record)

/-- The header of a listing. -/
def listingHeader : List String := ["index", "title", "feature"]

/-- The fields of a row. -/
def rowFields (r : Row) : List String := [toString r.index, r.title, r.feature.key]

/-- A listing. -/
def listing (rows : List Row) : String :=
  if rows.isEmpty then ""
  else String.join ((listingHeader :: rows.map rowFields).map Text.Csv.record)

end AsmPair.CsvReport
