/-!
# JSON text

JSON values are written directly as text: a string is quoted, and arrays and objects are put
together from values that are already written.  A layout says whether a value stands on one line
or is spread over several, and how deep it is nested.

## Main definitions

* `Json.escape`, `Json.quoted` — strings.
* `Json.Layout` — one line, or one item a line at a given depth.
* `Json.Layout.array`, `Json.Layout.object` — values made of values.
-/

namespace AsmPair.Text.Json

/-! ### Strings -/

/-- A hexadecimal digit. -/
def hexDigit (n : Nat) : Char := Nat.digitChar n

/-- The letter that stands for a control character with a short form. -/
def controlLetter? : Nat → Option Char
  | 0x08 => some 'b'
  | 0x09 => some 't'
  | 0x0A => some 'n'
  | 0x0C => some 'f'
  | 0x0D => some 'r'
  | _ => none

/-- How a character is written inside a string: the quote and the backslash after a backslash, a
control character by its letter if it has one and else by its number, any other character as
itself. -/
def escape (c : Char) : List Char :=
  if c = '"' ∨ c = '\\' then ['\\', c]
  else if c.toNat < 0x20 then
    match controlLetter? c.toNat with
    | some letter => ['\\', letter]
    | none => ['\\', 'u', '0', '0', hexDigit (c.toNat / 16), hexDigit (c.toNat % 16)]
  else [c]

/-- A string value. -/
def quoted (s : String) : String :=
  String.ofList ('"' :: (s.toList.flatMap escape ++ ['"']))

/-! ### Arrays and objects -/

/-- How a value is laid out. -/
inductive Layout where
  /-- On one line without spaces. -/
  | compact : Layout
  /-- One item a line, indented by two spaces for each level of nesting; the value itself is
  nested `depth` levels deep. -/
  | spread (depth : Nat) : Layout
  deriving DecidableEq, Repr

/-- The layout of the items of a value. -/
def Layout.inner : Layout → Layout
  | .compact => .compact
  | .spread depth => .spread (depth + 1)

/-- The line break and indentation at a depth. -/
def newLine (depth : Nat) : String := "\n" ++ String.ofList (List.replicate (2 * depth) ' ')

/-- Items between two brackets.  Without items the brackets stand together. -/
def Layout.enclosed (layout : Layout) (opening closing : String) (items : List String) : String :=
  if items.isEmpty then opening ++ closing
  else
    match layout with
    | .compact => opening ++ ",".intercalate items ++ closing
    | .spread depth =>
      opening ++ newLine (depth + 1) ++ ("," ++ newLine (depth + 1)).intercalate items ++
        newLine depth ++ closing

/-- An array of values written in the inner layout. -/
def Layout.array (layout : Layout) (items : List String) : String :=
  layout.enclosed "[" "]" items

/-- What stands between the name and the value of a member. -/
def Layout.colon : Layout → String
  | .compact => ":"
  | .spread _ => ": "

/-- An object of named values written in the inner layout. -/
def Layout.object (layout : Layout) (members : List (String × String)) : String :=
  layout.enclosed "\x7b" "\x7d"
    (members.map fun m => quoted m.1 ++ layout.colon ++ m.2)

/-! ### Control characters -/

theorem hexDigit_not_control {n : Nat} (h : n < 16) : 0x20 ≤ (hexDigit n).toNat := by
  revert n; decide

theorem controlLetter?_not_control {n : Nat} {c : Char} (h : controlLetter? n = some c) :
    0x20 ≤ c.toNat := by
  unfold controlLetter? at h
  split at h <;> cases h <;> decide

/-- A written string holds no control character, so it stays on one line. -/
theorem not_control_of_mem_escape {c d : Char} (h : d ∈ escape c) : 0x20 ≤ d.toNat := by
  unfold escape at h
  split at h
  · rename_i hc
    simp only [List.mem_cons, List.not_mem_nil, or_false] at h
    rcases h with rfl | rfl
    · decide
    · rcases hc with rfl | rfl <;> decide
  · split at h
    -- a control character is written by its letter or by its number
    · rename_i hc
      split at h
      · rename_i letter hl
        simp only [List.mem_cons, List.not_mem_nil, or_false] at h
        rcases h with rfl | rfl
        · decide
        · exact controlLetter?_not_control hl
      · simp only [List.mem_cons, List.not_mem_nil, or_false] at h
        rcases h with rfl | rfl | rfl | rfl | rfl | rfl
        any_goals decide
        · exact hexDigit_not_control (by omega)
        · exact hexDigit_not_control (by omega)
    · simp only [List.mem_singleton] at h
      subst h
      omega

end AsmPair.Text.Json
