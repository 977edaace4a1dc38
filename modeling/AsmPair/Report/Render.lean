import AsmPair.Report.Csv
import AsmPair.Report.Format
import AsmPair.Report.Json

/-!
# Rendering reports

## Main definitions

* `ReportFormat.report`, `ReportFormat.listing` — a report or a listing in a format.
-/

namespace AsmPair.ReportFormat

/-- The report of a list of outcomes. -/
def report (vs : List ModuleVerdict) : ReportFormat → String
  | text => TextReport.report vs
  | json => JsonReport.report vs
  | jsonLines => JsonReport.reportLines vs
  | csv => CsvReport.report vs

/-- The listing of a list of rows. -/
def listing (rows : List Row) : ReportFormat → String
  | text => TextReport.listing rows
  | json => JsonReport.listing rows
  | jsonLines => JsonReport.listingLines rows
  | csv => CsvReport.listing rows

end AsmPair.ReportFormat
