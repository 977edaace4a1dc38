import AsmPair.Report.Text
import AsmPair.Text.Json

/-!
# Reports in JSON

A report is one document with the counts and the modules, or one object a line for each module.
A listing is one document with the rows, or one object a line for each row.  A mismatch stands
among the members of its module; the rule is left out where there is none.

## Main definitions

* `JsonReport.moduleObject`, `JsonReport.rowObject` — the objects.
* `JsonReport.report`, `JsonReport.listing` — one document.
* `JsonReport.reportLines`, `JsonReport.listingLines` — one object a line.
-/

namespace AsmPair.JsonReport

open Text.Json

/-- A written number. -/
def number (n : Nat) : String := toString n

/-- The members that describe a mismatch; `layout` is that of the object they stand in. -/
def mismatchMembers (layout : Layout) (m : Mismatch) : List (String × String) :=
  let lines (ls : List Line) := layout.inner.array (ls.map fun l => quoted l.text)
  [("kind", quoted m.kind.key),
    ("original_index", number m.sourceIndex),
    ("decoded_index", number m.decodedIndex),
    ("original_remainder", lines m.sourceRemainder),
    ("decoded_remainder", lines m.decodedRemainder)] ++
  m.rule?.toList.map fun rule => ("rule", quoted rule)

/-- The members that describe the outcome for a module. -/
def verdictMembers (layout : Layout) : Verdict → List (String × String)
  | .matched => [("verdict", quoted "matched")]
  | .mismatch m => ("verdict", quoted "mismatch") :: mismatchMembers layout m

/-- The object of a module. -/
def moduleObject (layout : Layout) (v : ModuleVerdict) : String :=
  layout.object (("module", quoted v.name) :: verdictMembers layout v.verdict)

/-- The object of a row. -/
def rowObject (layout : Layout) (r : Row) : String :=
  layout.object
    [("index", number r.index), ("title", quoted r.title), ("feature", quoted r.feature.key)]

/-- A report in one document. -/
def report (vs : List ModuleVerdict) : String :=
  let top := Layout.spread 0
  top.object
    [("compared", number vs.length),
      ("mismatched", number (mismatchCount vs)),
      ("modules", top.inner.array (vs.map (moduleObject top.inner.inner)))]

/-- A listing in one document. -/
def listing (rows : List Row) : String :=
  let top := Layout.spread 0
  top.object [("forms", top.inner.array (rows.map (rowObject top.inner.inner)))]

/-- A report with one object a line. -/
def reportLines (vs : List ModuleVerdict) : String :=
  String.join (vs.map fun v => moduleObject .compact v ++ "\n")

/-- A listing with one object a line. -/
def listingLines (rows : List Row) : String :=
  String.join (rows.map fun r => rowObject .compact r ++ "\n")

end AsmPair.JsonReport
