import AsmPair.GenerationError
import AsmPair.Operand.Template
import AsmPair.Text.Case
import AsmPair.Text.Column

/-!
# Instruction forms

An instruction form is a mnemonic with what its operand slots accept.  Forms that share a name
stem are told apart by an ordinal, so that the modules made from them have names of their own.

## Main definitions

* `Form` — an instruction form.
* `Form.read` — the form written as a mnemonic and shorthands.
* `Form.title` — the form as the reference manual writes it.
* `Form.stem`, `Form.baseName` — the name of its modules, without shard letter.
* `Pattern.matches`, `Selection.matches` — whether a form is selected.
-/

namespace AsmPair

/-- An instruction form. -/
structure Form where
  /-- The mnemonic, upper case and with single spaces. -/
  mnemonic : String
  /-- What the operand slots accept. -/
  templates : List Template
  /-- The feature the form belongs to. -/
  feature : Feature
  /-- The place in the catalog, counted from one; zero outside a catalog. -/
  index : Nat := 0
  /-- The place among the forms with operands that share the name stem, counted from one. -/
  ordinal : Nat := 1
  deriving DecidableEq, Repr

namespace Form

/-- The greatest length of a name stem. -/
def stemLength : Nat := 5

/-- A mnemonic with the shorthands of its operands. -/
def titleOf (mnemonic : String) (shorthands : List String) : String :=
  if shorthands.isEmpty then mnemonic else mnemonic ++ " " ++ ", ".intercalate shorthands

/-- The templates written by shorthands, or the first shorthand that writes none. -/
def readTemplates : List String → Except String (List Template)
  | [] => .ok []
  | s :: ss =>
    match Template.ofShorthand? s with
    | none => .error s
    | some t => (readTemplates ss).map (t :: ·)

@[simp] theorem readTemplates_nil : readTemplates [] = .ok [] := rfl

@[simp] theorem readTemplates_cons_eq_ok_iff {s : String} {ss : List String} {ts : List Template} :
    readTemplates (s :: ss) = .ok ts ↔
      ∃ t us, Template.ofShorthand? s = some t ∧ readTemplates ss = .ok us ∧ ts = t :: us := by
  rw [readTemplates]
  cases Template.ofShorthand? s with
  | none => simp
  | some t => cases readTemplates ss <;> simp [Except.map, eq_comm]

/-- The mnemonic of a form, from any spelling of it. -/
def canonicalMnemonic (mnemonic : String) : String :=
  String.ofList (Text.upper (Text.spaced mnemonic.toList))

/-- The form written as a mnemonic and the shorthands of its operands. -/
def read (mnemonic : String) (shorthands : List String) (feature : Feature) :
    Except GenerationError Form :=
  let mnemonic := canonicalMnemonic mnemonic
  match readTemplates shorthands with
  | .error s => .error (.unknownTemplate (titleOf mnemonic shorthands) s)
  | .ok templates => .ok { mnemonic, templates, feature }

/-- Whether a form has no operands. -/
def isBare (f : Form) : Bool := f.templates.isEmpty

/-- The form as the reference manual writes it. -/
def title (f : Form) : String := titleOf f.mnemonic (f.templates.map Template.shorthand)

/-- The first characters of the mnemonic that are not blank. -/
def stem (f : Form) : String :=
  String.ofList ((f.mnemonic.toList.filter fun c => !Text.isBlank c).take stemLength)

/-- The name of the modules of a form, without shard letter. -/
def baseName (f : Form) : String := f.stem ++ Text.twoDigits f.ordinal

/-- The shorthands of templates are read back as these templates. -/
theorem readTemplates_shorthand {ts : List Template} (h : ∀ t ∈ ts, t ∈ Template.written) :
    readTemplates (ts.map Template.shorthand) = .ok ts := by
  induction ts with
  | nil => rfl
  | cons t ts ih =>
    exact readTemplates_cons_eq_ok_iff.mpr ⟨t, ts,
      Template.ofShorthand?_shorthand (h t List.mem_cons_self),
      ih fun u hu => h u (List.mem_cons_of_mem _ hu), rfl⟩

/-- Templates that were read are written by the shorthands they were read from. -/
theorem map_shorthand_of_readTemplates {ss : List String} {ts : List Template}
    (h : readTemplates ss = .ok ts) : ts.map Template.shorthand = ss := by
  induction ss generalizing ts with
  | nil => cases h; rfl
  | cons s ss ih =>
    obtain ⟨t, us, ht, hus, rfl⟩ := readTemplates_cons_eq_ok_iff.mp h
    rw [List.map_cons, (Template.ofShorthand?_eq_some ht).2, ih hus]

end Form

/-- Whether a pattern describes a form. -/
def Pattern.matches (f : Form) : Pattern → Bool
  | .exactly mnemonic => Text.sameLetters f.mnemonic mnemonic
  | .startingWith start => Text.startsWith (Text.upper start.toList) f.mnemonic.toList
  | .numbered index => f.index == index

/-- Whether a form is selected. -/
def Selection.matches (s : Selection) (f : Form) : Bool :=
  s.feature?.all (f.feature == ·) && s.pattern?.all (·.matches f)

@[simp] theorem Selection.matches_everything (f : Form) :
    Selection.everything.matches f = true := rfl

end AsmPair
