import AsmPair.Line.Parse

/-!
# Listings

A listing is a text of lines.  A semicolon starts a comment; a name followed by a colon at the
start of a line defines a label.  Neither matters for what the listing assembles to, so a listing
is read as the lines that are left without them.  A segment register with a colon is no label but
an override of the instruction after it.

## Main definitions

* `Line.isLabel` — the names that a colon makes into a label.
* `Line.code` — a raw line without comment, label and outer blanks.
* `Line.ofRaw?` — the line of a raw line that holds one.
* `Line.listing`, `Line.ofRaws` — the lines of a text and of a list of raw lines.
-/

namespace AsmPair.Line

/-- The segment registers, which a colon makes into overrides. -/
def overrideNames : List String := ["cs", "ds", "es", "ss"]

/-- The characters a label may start with. -/
def isLabelStart (c : Char) : Bool := c.isAlpha || c == '_' || c == '@' || c == '.'

/-- The characters a label may go on with. -/
def isLabelPart (c : Char) : Bool := isLabelStart c || c.isDigit || c == '$'

/-- Whether a colon after it makes a text into a label. -/
def isLabel : List Char → Bool
  | [] => false
  | c :: cs =>
    isLabelStart c && cs.all isLabelPart &&
      !overrideNames.contains (String.ofList ((c :: cs).map Char.toLower))

/-- A raw line without its comment. -/
def withoutComment (raw : List Char) : List Char := raw.takeWhile (· != ';')

/-- A line without the label that it starts with. -/
def withoutLabel (cs : List Char) : List Char :=
  match Text.cut? (· == ':') cs with
  | some (head, tail) => if isLabel head then Text.trim tail else cs
  | none => cs

/-- What a raw line says without comment, label and outer blanks. -/
def code (raw : List Char) : List Char := withoutLabel (Text.trim (withoutComment raw))

/-- The line that a raw line holds; blank lines, comments and bare labels hold none. -/
def ofRaw? (raw : String) : Option Line :=
  let cs := code raw.toList
  if cs.isEmpty then none else some (parse (String.ofList cs))

/-- The lines that a list of raw lines holds. -/
def ofRaws (raws : List String) : List Line := raws.filterMap ofRaw?

/-- The lines of a text. -/
def listing (text : String) : List Line := ofRaws (Text.linesOf text)

@[simp] theorem ofRaws_nil : ofRaws [] = [] := rfl

@[simp] theorem ofRaws_cons (raw : String) (raws : List String) :
    ofRaws (raw :: raws) = (ofRaw? raw).toList ++ ofRaws raws := by
  unfold ofRaws
  cases h : ofRaw? raw with
  | none => rw [List.filterMap_cons_none h]; rfl
  | some l => rw [List.filterMap_cons_some h]; rfl

@[simp] theorem ofRaws_append (xs ys : List String) : ofRaws (xs ++ ys) = ofRaws xs ++ ofRaws ys :=
  List.filterMap_append

end AsmPair.Line
