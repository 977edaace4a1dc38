import AsmPair.Form

/-!
# Catalogs

A catalog is a numbered list of instruction forms, read from tables.  A table holds the
mnemonics without operands and the forms with operands of one feature.  The forms of all tables
are numbered through; the forms with operands are also numbered among those of the same stem.

## Main definitions

* `Table`, `Entry` — what is read.
* `Catalog`, `Catalog.build` — the numbered forms of a list of tables.
* `Catalog.lookup`, `Catalog.ofFeature`, `Catalog.select` — parts of a catalog.
* `Row`, `Catalog.rows` — what a listing of the catalog shows.
-/

namespace AsmPair

/-- The mnemonics and forms of one feature. -/
structure Table where
  /-- The feature. -/
  feature : Feature
  /-- The instructions without operands. -/
  bare : List String
  /-- The mnemonics of the other instructions, with the shorthands of their operands. -/
  forms : List (String × List String)

/-- One entry of a table. -/
structure Entry where
  /-- The feature of the table. -/
  feature : Feature
  /-- The mnemonic, in any spelling. -/
  mnemonic : String
  /-- The shorthands of the operands. -/
  shorthands : List String
  /-- Whether the entry stands among the forms that are numbered by stem. -/
  counted : Bool

/-- The entries of a table: the instructions without operands come first. -/
def Table.entries (t : Table) : List Entry :=
  t.bare.map (fun m => ⟨t.feature, m, [], false⟩) ++
    t.forms.map (fun f => ⟨t.feature, f.1, f.2, true⟩)

/-- A list of instruction forms. -/
structure Catalog where
  /-- The forms, in order. -/
  forms : List Form
  deriving DecidableEq, Repr

/-- One numbered line of a listing of a catalog. -/
structure Row where
  /-- The place of the form in the catalog. -/
  index : Nat
  /-- The title of the form. -/
  title : String
  /-- The feature of the form. -/
  feature : Feature
  deriving DecidableEq, Repr

/-- A row in plain text: number, title and feature in columns. -/
def Row.text (r : Row) : String :=
  Text.alignRight 4 (toString r.index) ++ " " ++ Text.alignLeft 28 r.title ++ " " ++
    r.feature.label

/-- The row of a form. -/
def Form.row (f : Form) : Row := ⟨f.index, f.title, f.feature⟩

namespace Catalog

/-- The forms of entries, after as many as `index` earlier entries; `stems` are the stems of the
earlier entries that are numbered by stem. -/
def readFrom (index : Nat) (stems : List String) : List Entry → Except GenerationError (List Form)
  | [] => .ok []
  | e :: es =>
    match Form.read e.mnemonic e.shorthands e.feature with
    | .error err => .error err
    | .ok f =>
      if e.counted then
        (readFrom (index + 1) (f.stem :: stems) es).map fun fs =>
          { f with index := index + 1, ordinal := stems.count f.stem + 1 } :: fs
      else
        (readFrom (index + 1) stems es).map fun fs => { f with index := index + 1 } :: fs

/-- The catalog of a list of tables. -/
def build (tables : List Table) : Except GenerationError Catalog :=
  (readFrom 0 [] (tables.flatMap Table.entries)).map Catalog.mk

/-- The forms with a mnemonic, up to the case of ASCII letters. -/
def lookup (c : Catalog) (mnemonic : String) : List Form :=
  c.forms.filter (Pattern.exactly (String.ofList (Text.spaced mnemonic.toList))).matches

/-- The forms of a feature. -/
def ofFeature (c : Catalog) (f : Feature) : List Form := c.forms.filter (·.feature == f)

/-- The selected forms; it is an error to select nothing. -/
def select (c : Catalog) (s : Selection) : Except GenerationError (List Form) :=
  let selected := c.forms.filter s.matches
  if selected.isEmpty then .error (.nothingSelected s) else .ok selected

/-- The rows of the selected forms. -/
def rows (c : Catalog) (s : Selection) : Except GenerationError (List Row) :=
  (c.select s).map (·.map Form.row)

end Catalog

end AsmPair
