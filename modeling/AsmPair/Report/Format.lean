import AsmPair.Text.Blank
import AsmPair.Text.Case

/-!
# Report formats

Reports of comparisons and listings of the catalog come in four formats.  A settings file may
name a format in several ways; the command line knows one name for each.

## Main definitions

* `ReportFormat` — the formats.
* `ReportFormat.name`, `ReportFormat.ofName?` — the names in settings.
* `ReportFormat.option`, `ReportFormat.ofOption?` — the names on the command line.
-/

namespace AsmPair

/-- The formats of reports and listings. -/
inductive ReportFormat where
  /-- Plain text for reading. -/
  | text : ReportFormat
  /-- One JSON document. -/
  | json : ReportFormat
  /-- One JSON object a line. -/
  | jsonLines : ReportFormat
  /-- Comma-separated values. -/
  | csv : ReportFormat
  deriving DecidableEq, Repr, Inhabited

namespace ReportFormat

/-- All formats. -/
def all : List ReportFormat := [text, json, jsonLines, csv]

theorem mem_all (f : ReportFormat) : f ∈ all := by cases f <;> decide

/-- The name of a format. -/
def name : ReportFormat → String
  | text => "text"
  | json => "json"
  | jsonLines => "jsonl"
  | csv => "csv"

/-- The format that a text names; outer blanks and the case of letters do not matter. -/
def ofName? (s : String) : Option ReportFormat :=
  let key := Text.lowered (Text.trimmed s)
  if key = "text" then some text
  else if key = "json" then some json
  else if key = "jsonl" ∨ key = "jsonlines" ∨ key = "json-lines" then some jsonLines
  else if key = "csv" then some csv
  else none

/-- The message about a text that names no format. -/
def unknownMessage (s : String) : String := "Unknown output format: " ++ s

/-- The name of a format on the command line. -/
def option : ReportFormat → String
  | text => "text"
  | json => "json"
  | jsonLines => "json-lines"
  | csv => "csv"

/-- The format with a name on the command line; the case of ASCII letters may be left out of
account. -/
def ofOption? (s : String) (ignoreCase : Bool) : Option ReportFormat :=
  all.find? fun f => if ignoreCase then Text.sameLetters f.option s else f.option == s

/-- A format is found by its own name. -/
@[simp] theorem ofName?_name (f : ReportFormat) : ofName? f.name = some f := by cases f <;> decide

/-- A format is found by its own name on the command line. -/
@[simp] theorem ofOption?_option (f : ReportFormat) : ofOption? f.option false = some f := by
  cases f <;> decide

end ReportFormat

end AsmPair
