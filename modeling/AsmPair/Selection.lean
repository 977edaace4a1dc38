import AsmPair.Feature
import AsmPair.Text.Decimal
import AsmPair.Text.Pieces
import AsmPair.Text.Search

/-!
# Selections

A selection says which part of the catalog to work on: the forms that a pattern describes, those
of one feature, or both.

## Main definitions

* `Pattern`, `Pattern.parse` — a mnemonic, the start of a mnemonic, or a catalog index.
* `Selection` — a pattern and a feature, each of which may be missing.
* `Pattern.text`, `Selection.text` — how they are named in messages.
-/

namespace AsmPair

/-- What a form is recognized by. -/
inductive Pattern where
  /-- By its mnemonic, up to the case of ASCII letters. -/
  | exactly (mnemonic : String) : Pattern
  /-- By the start of its mnemonic. -/
  | startingWith (start : String) : Pattern
  /-- By its place in the catalog, counted from one. -/
  | numbered (index : Nat) : Pattern
  deriving DecidableEq, Repr

namespace Pattern

/-- The pattern that a text stands for.  A star at the end makes it the start of a mnemonic; a
number of at most 64 bits is a catalog index; anything else is a mnemonic. -/
def parse (s : String) : Pattern :=
  let cs := Text.upper (Text.spaced s.toList)
  match Text.before? ['*'] cs with
  | some start => startingWith (String.ofList (Text.trimRight start))
  | none =>
    match Text.index? cs with
    | some n => numbered n
    | none => exactly (String.ofList cs)

/-- How a pattern is named. -/
def text : Pattern → String
  | exactly mnemonic => "`" ++ mnemonic ++ "`"
  | startingWith start => "`" ++ start ++ "*`"
  | numbered index => "#" ++ toString index

end Pattern

/-- The part of the catalog to work on.  Without pattern and feature it is the whole catalog. -/
structure Selection where
  /-- What the forms are recognized by. -/
  pattern? : Option Pattern := none
  /-- The feature the forms belong to. -/
  feature? : Option Feature := none
  deriving DecidableEq, Repr

namespace Selection

/-- The whole catalog. -/
def everything : Selection := ⟨none, none⟩

/-- A selection narrowed to one feature. -/
def withFeature (s : Selection) (f : Feature) : Selection := { s with feature? := some f }

/-- How a selection is named. -/
def text (s : Selection) : String :=
  (match s.pattern? with
    | some p => p.text
    | none => "any mnemonic") ++
  (match s.feature? with
    | some f => " for " ++ f.label
    | none => "")

end Selection

end AsmPair
