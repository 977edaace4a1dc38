import AsmPair.Text.Csv
import Mathlib.Data.List.Basic

/-!
# Reading comma-separated values

Fields end at commas and records at line feeds, except within quotes, where a quote is written
twice.  A quote stands nowhere else than around a whole field, and outside of quotes there is no
carriage return.  The reader goes through a text character by character and keeps what it has read.

## Main definitions

* `Csv.Place`, `Csv.Reading` — where a reader stands in a field, and what it has read.
* `Csv.Reading.next?` — how a reader takes a character.
* `Csv.read?` — the records of a text.

## Main results

* `Csv.after?_field` — a written field is read up to what ends it.
* `Csv.after?_record` — a written record is read.
* `Csv.read?_join_record` — written records are read back.
-/

namespace AsmPair.Text.Csv

/-! ### The reader -/

/-- Where a reader stands in a field, and the characters of the field up to there. -/
inductive Place where
  /-- In a field without quotes, or at the start of a field. -/
  | bare (cs : List Char) : Place
  /-- Within quotes. -/
  | quoted (cs : List Char) : Place
  /-- Behind a quote within quotes, which ends the field or is written twice. -/
  | closed (cs : List Char) : Place
  deriving DecidableEq, Repr

/-- What a reader has read. -/
structure Reading where
  /-- The records before. -/
  records : List (List String)
  /-- The fields before, in the same record. -/
  fields : List String
  /-- The field that is read. -/
  place : Place
  deriving DecidableEq, Repr

namespace Reading

/-- Nothing is read. -/
def initial : Reading := ⟨[], [], .bare []⟩

/-- A field ends at a comma, and with the record at a line feed. -/
def endField? (r : Reading) (cs : List Char) (c : Char) : Option Reading :=
  if c = ',' then some ⟨r.records, r.fields ++ [String.ofList cs], .bare []⟩
  else if c = '\n' then some ⟨r.records ++ [r.fields ++ [String.ofList cs]], [], .bare []⟩
  else none

/-- Read one character, if it may stand there. -/
def next? (r : Reading) (c : Char) : Option Reading :=
  match r.place with
  | .bare cs =>
    if c = '"' ∧ cs = [] then some { r with place := .quoted [] }
    else if isSpecial c then r.endField? cs c
    else some { r with place := .bare (cs ++ [c]) }
  | .quoted cs =>
    if c = '"' then some { r with place := .closed cs }
    else some { r with place := .quoted (cs ++ [c]) }
  | .closed cs =>
    if c = '"' then some { r with place := .quoted (cs ++ ['"']) } else r.endField? cs c

/-- Read a text. -/
def after? (r : Reading) (cs : List Char) : Option Reading := cs.foldlM next? r

end Reading

/-- The records of a text, each of which ends with a line feed. -/
def read? (s : String) : Option (List (List String)) :=
  (Reading.initial.after? s.toList).bind fun r =>
    if r.fields = [] ∧ r.place = .bare [] then some r.records else none

/-! ### Single characters -/

namespace Reading

variable {records : List (List String)} {fields : List String} {place : Place} {cs : List Char}
  {c : Char}

@[simp] theorem endField?_comma :
    endField? ⟨records, fields, place⟩ cs ',' =
      some ⟨records, fields ++ [String.ofList cs], .bare []⟩ := rfl

@[simp] theorem endField?_lineFeed :
    endField? ⟨records, fields, place⟩ cs '\n' =
      some ⟨records ++ [fields ++ [String.ofList cs]], [], .bare []⟩ := rfl

@[simp] theorem next?_opening :
    next? ⟨records, fields, .bare []⟩ '"' = some ⟨records, fields, .quoted []⟩ := rfl

theorem next?_bare (h : isSpecial c = false) :
    next? ⟨records, fields, .bare cs⟩ c = some ⟨records, fields, .bare (cs ++ [c])⟩ := by
  have hquote : c ≠ '"' := by rintro rfl; exact absurd h (by decide)
  simp [next?, h, hquote]

theorem next?_bare_special (h : isSpecial c = true) (hquote : c ≠ '"') :
    next? ⟨records, fields, .bare cs⟩ c = endField? ⟨records, fields, .bare cs⟩ cs c := by
  simp [next?, h, hquote]

theorem next?_quoted (h : c ≠ '"') :
    next? ⟨records, fields, .quoted cs⟩ c = some ⟨records, fields, .quoted (cs ++ [c])⟩ := by
  simp [next?, h]

@[simp] theorem next?_closing :
    next? ⟨records, fields, .quoted cs⟩ '"' = some ⟨records, fields, .closed cs⟩ := rfl

@[simp] theorem next?_doubled :
    next? ⟨records, fields, .closed cs⟩ '"' = some ⟨records, fields, .quoted (cs ++ ['"'])⟩ := rfl

theorem next?_closed (h : c ≠ '"') :
    next? ⟨records, fields, .closed cs⟩ c = endField? ⟨records, fields, .closed cs⟩ cs c := by
  simp [next?, h]

/-! ### Reading written fields -/

@[simp] theorem after?_cons (r : Reading) (c : Char) (cs : List Char) :
    r.after? (c :: cs) = (r.next? c).bind fun r' => r'.after? cs := List.foldlM_cons

@[simp] theorem after?_append (r : Reading) (xs ys : List Char) :
    r.after? (xs ++ ys) = (r.after? xs).bind fun r' => r'.after? ys := List.foldlM_append

@[simp] theorem after?_nil (r : Reading) : r.after? [] = some r := rfl

/-- Characters that mean nothing are read as they are. -/
theorem after?_bare (h : cs.any isSpecial = false) (before : List Char) :
    after? ⟨records, fields, .bare before⟩ cs = some ⟨records, fields, .bare (before ++ cs)⟩ := by
  induction cs generalizing before with
  | nil => rw [after?_nil, List.append_nil]
  | cons c cs ih =>
    rw [List.any_cons, Bool.or_eq_false_iff] at h
    rw [after?_cons, next?_bare h.1, Option.bind_some, ih h.2, List.append_assoc,
      List.singleton_append]

/-- Within quotes everything is read as it is, and two quotes as one. -/
theorem after?_doubled (cs before : List Char) :
    after? ⟨records, fields, .quoted before⟩ (doubled cs) =
      some ⟨records, fields, .quoted (before ++ cs)⟩ := by
  unfold doubled
  induction cs generalizing before with
  | nil => rw [List.flatMap_nil, after?_nil, List.append_nil]
  | cons c cs ih =>
    rw [List.flatMap_cons, after?_append]
    by_cases hc : c = '"'
    · rw [if_pos hc, hc, after?_cons, next?_closing, Option.bind_some, after?_cons, next?_doubled,
        Option.bind_some, after?_nil, Option.bind_some, ih, List.append_assoc,
        List.singleton_append]
    · rw [if_neg hc, after?_cons, next?_quoted hc, Option.bind_some, after?_nil, Option.bind_some,
        ih, List.append_assoc, List.singleton_append]

/-- **A written field is read** up to the comma or line feed that ends it. -/
theorem after?_field (s : String) (hc : c = ',' ∨ c = '\n') (rest : List Char) :
    after? ⟨records, fields, .bare []⟩ ((field s).toList ++ c :: rest) =
      (endField? ⟨records, fields, .bare []⟩ s.toList c).bind fun r => r.after? rest := by
  have hspecial : isSpecial c = true := by rcases hc with rfl | rfl <;> decide
  have hquote : c ≠ '"' := by rcases hc with rfl | rfl <;> decide
  unfold field
  split
  -- the quotes around the field are read, and the one behind it is not followed by another
  · rw [String.toList_ofList, List.cons_append, after?_cons, next?_opening, Option.bind_some,
      List.append_assoc, after?_append, after?_doubled, Option.bind_some, List.singleton_append,
      after?_cons, next?_closing, Option.bind_some, after?_cons, next?_closed hquote,
      List.nil_append]
    rfl
  · next hplain =>
    rw [Bool.not_eq_true] at hplain
    rw [after?_append, after?_bare hplain, Option.bind_some, after?_cons,
      next?_bare_special hspecial hquote, List.nil_append]
    rfl

theorem toList_record (ss : List String) :
    (record ss).toList = (",".intercalate (ss.map Csv.field)).toList ++ ['\n'] := by
  rw [record, String.toList_append]
  rfl

/-- **A written record is read**, behind the fields that it continues. -/
theorem after?_record {ss : List String} (hne : ss ≠ []) (rest : List Char) :
    after? ⟨records, fields, .bare []⟩ ((record ss).toList ++ rest) =
      after? ⟨records ++ [fields ++ ss], [], .bare []⟩ rest := by
  rw [toList_record, List.append_assoc, List.singleton_append]
  induction ss generalizing fields with
  | nil => exact absurd rfl hne
  | cons s ss ih =>
    cases ss with
    | nil =>
      rw [List.map_singleton, String.intercalate_singleton, after?_field s (Or.inr rfl),
        endField?_lineFeed, Option.bind_some, String.ofList_toList]
    | cons t ts =>
      have hsplit : (",".intercalate ((s :: t :: ts).map Csv.field)).toList ++ '\n' :: rest =
          (Csv.field s).toList ++
            ',' :: ((",".intercalate ((t :: ts).map Csv.field)).toList ++ '\n' :: rest) := by
        rw [List.map_cons, List.map_cons, String.intercalate_cons_cons]
        simp
      rw [hsplit, after?_field s (Or.inl rfl), endField?_comma, Option.bind_some,
        String.ofList_toList, ih (List.cons_ne_nil t ts), List.append_assoc, List.singleton_append]

/-- Written records are read one after the other. -/
theorem after?_records {rs : List (List String)} (h : ∀ r ∈ rs, r ≠ []) :
    after? ⟨records, [], .bare []⟩ (String.join (rs.map record)).toList =
      some ⟨records ++ rs, [], .bare []⟩ := by
  rw [String.toList_join, List.flatMap_map]
  induction rs generalizing records with
  | nil => rw [List.flatMap_nil, after?_nil, List.append_nil]
  | cons r rs ih =>
    rw [List.flatMap_cons, after?_record (h r List.mem_cons_self), List.nil_append,
      ih fun q hq => h q (List.mem_cons_of_mem r hq), List.append_assoc, List.singleton_append]

end Reading

/-- **Written records are read back**, whatever their fields hold. -/
theorem read?_join_record {rs : List (List String)} (h : ∀ r ∈ rs, r ≠ []) :
    read? (String.join (rs.map record)) = some rs := by
  rw [read?, Reading.initial, Reading.after?_records h, Option.bind_some,
    if_pos ⟨rfl, rfl⟩, List.nil_append]

example : read? "a,\"b,\"\"c\"\"\nd\",\n" = some [["a", "b,\"c\"\nd", ""]] := by decide +kernel

example : read? "a\"b\n" = none := by decide +kernel

end AsmPair.Text.Csv
