import AsmPair.Selection

/-!
# Generation errors

What can go wrong when a catalog is read or modules are composed: a defect of the catalog, or a
selection that selects nothing.

## Main definitions

* `Malformation` — why no module can be composed for a form.
* `GenerationError`, `GenerationError.message` — the errors and their wording.
-/

namespace AsmPair

/-- The greatest number of operands of a form. -/
def maxOperands : Nat := 3

/-- The letters that tell the modules of one form apart. -/
def shardLetters : List Char := "abcdefghijklmnopqrstuvwxyz".toList

/-- Why no module can be composed for a form. -/
inductive Malformation where
  /-- The form has more operands than are supported. -/
  | tooManyOperands (count : Nat) : Malformation
  /-- The operands of more than one slot would have to be split over modules. -/
  | severalLarge : Malformation
  /-- There are not enough letters for the modules. -/
  | tooManyShards (count capacity : Nat) : Malformation
  deriving DecidableEq, Repr

/-- The wording of a malformation. -/
def Malformation.message : Malformation → String
  | .tooManyOperands count =>
    toString count ++ " operand templates, at most " ++ toString maxOperands ++ " supported"
  | .severalLarge => "more than one large operand template"
  | .tooManyShards count capacity =>
    toString count ++ " shards needed at capacity " ++ toString capacity ++ ", at most " ++
      toString shardLetters.length ++ " available"

/-- What can go wrong when a catalog is read or modules are composed. -/
inductive GenerationError where
  /-- A form has an operand written in no known shorthand. -/
  | unknownTemplate (title shorthand : String) : GenerationError
  /-- No module can be composed for a form. -/
  | malformed (title : String) (reason : Malformation) : GenerationError
  /-- No form of the catalog is selected. -/
  | nothingSelected (selection : Selection) : GenerationError
  deriving DecidableEq, Repr

/-- The wording of an error. -/
def GenerationError.message : GenerationError → String
  | .unknownTemplate title shorthand =>
    title ++ ": unknown operand template `" ++ shorthand ++ "`"
  | .malformed title reason => title ++ ": malformed instruction form: " ++ reason.message
  | .nothingSelected selection => "no instruction forms match " ++ selection.text

end AsmPair
