/-!
# Comma-separated values

A record is one line of fields with commas between them.  A field that holds a comma, a quote or
a line break is put in quotes, and every quote in it is written twice.

## Main definitions

* `Csv.field`, `Csv.record` — how a field and a record are written.
-/

namespace AsmPair.Text.Csv

/-- The characters that a field may hold only in quotes. -/
def isSpecial (c : Char) : Bool := c == ',' || c == '"' || c == '\n' || c == '\r'

/-- A text with every quote in it written twice. -/
def doubled (cs : List Char) : List Char :=
  cs.flatMap fun c => if c = '"' then ['"', '"'] else [c]

/-- A written field. -/
def field (s : String) : String :=
  if s.toList.any isSpecial then String.ofList ('"' :: (doubled s.toList ++ ['"'])) else s

/-- A written record, with the line feed that ends it. -/
def record (fields : List String) : String := ",".intercalate (fields.map field) ++ "\n"

end AsmPair.Text.Csv
