/-!
# Blank characters

Listings, catalog entries and settings may be typed with any of the 25 blank characters of the
Unicode property `White_Space`: the ASCII blanks, the next-line and no-break spaces, and the
typographic spaces.  The zero-width characters and the ASCII information separators are not
blank.

## Main definitions

* `isBlank` — the property.
* `trimLeft`, `trimRight`, `trim` — a text without the blanks at its ends.
-/

namespace AsmPair.Text

/-- A character with the property `White_Space`. -/
def isBlank (c : Char) : Bool :=
  let n := c.toNat
  n == 0x20 || (0x09 ≤ n && n ≤ 0x0D) ||
    (0x80 ≤ n &&
      (n == 0x85 || n == 0xA0 || n == 0x1680 || (0x2000 ≤ n && n ≤ 0x200A) || n == 0x2028 ||
        n == 0x2029 || n == 0x202F || n == 0x205F || n == 0x3000))

/-- A text without the blanks it starts with. -/
def trimLeft (cs : List Char) : List Char := cs.dropWhile isBlank

/-- A text without the blanks it ends with. -/
def trimRight (cs : List Char) : List Char :=
  cs.foldr (fun c rest => if rest.isEmpty && isBlank c then [] else c :: rest) []

/-- A text without the blanks at its two ends. -/
def trim (cs : List Char) : List Char := trimRight (trimLeft cs)

/-- `trim` on strings. -/
def trimmed (s : String) : String := String.ofList (trim s.toList)

@[simp] theorem trimRight_nil : trimRight [] = [] := rfl

theorem trimRight_cons (c : Char) (cs : List Char) :
    trimRight (c :: cs) =
      if (trimRight cs).isEmpty && isBlank c then [] else c :: trimRight cs := rfl

@[simp] theorem trim_nil : trim [] = [] := rfl

end AsmPair.Text
