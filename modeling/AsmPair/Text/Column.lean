/-!
# Columns

Texts filled up with spaces to the width of a column.  A width counts characters; a text that is
already wider is left as it is.
-/

namespace AsmPair.Text

/-- As many spaces as a text lacks to a width. -/
def filler (width : Nat) (s : String) : String :=
  String.ofList (List.replicate (width - s.length) ' ')

/-- A text at the left of its column. -/
def alignLeft (width : Nat) (s : String) : String := s ++ filler width s

/-- A text at the right of its column. -/
def alignRight (width : Nat) (s : String) : String := filler width s ++ s

/-- A number with at least two digits. -/
def twoDigits (n : Nat) : String := if n < 10 then "0" ++ toString n else toString n

end AsmPair.Text
