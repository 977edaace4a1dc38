import AsmPair.Catalog.Basic
import AsmPair.Module.Basic
import AsmPair.Module.Combination

/-!
# Composing modules

A form is turned into modules by combining the operands of its slots in every way.  If one slot
has many operands, they drive the outermost loop and are split over several modules, which are
told apart by a letter.  The instructions without operands of one feature share a module.

## Main definitions

* `Shape`, `Form.shape` — the slots of a form, checked against the limits.
* `Composer` — how many outer operands go into a module, and the entry label.
* `Composer.compose` — the modules of a form with operands.
* `Composer.bareModule` — the module of the instructions without operands.
* `Composer.generate` — the modules of the selected forms of a catalog.
-/

namespace AsmPair

/-! ### Shapes -/

/-- The slots of a form. -/
structure Shape where
  /-- What the slots accept. -/
  templates : List Template
  /-- The position of the slot whose operands are split over modules. -/
  outer? : Option Nat
  deriving DecidableEq, Repr

/-- The slots of a form, if there are not too many of them and at most one is large. -/
def Form.shape (f : Form) : Except GenerationError Shape :=
  if maxOperands < f.templates.length then
    .error (.malformed f.title (.tooManyOperands f.templates.length))
  else if 1 < f.templates.countP Template.isLarge then
    .error (.malformed f.title .severalLarge)
  else .ok ⟨f.templates, f.templates.findIdx? Template.isLarge⟩

/-! ### Composers -/

/-- How modules are composed. -/
structure Composer where
  /-- The greatest number of outer operands of a module. -/
  capacity : Nat
  /-- The label where every module starts. -/
  entryLabel : String
  /-- A module holds at least one outer operand. -/
  capacity_pos : 0 < capacity

namespace Composer

/-- The capacity of a composer that is given none. -/
def defaultCapacity : Nat := 128

/-- The entry label of a composer that is given none. -/
def defaultLabel : String := "start"

/-- A composer; a capacity of zero is taken as one. -/
def ofCapacity (capacity : Nat) (entryLabel : String) : Composer :=
  ⟨max capacity 1, entryLabel, by omega⟩

/-- The composer that is given neither capacity nor entry label. -/
def standard : Composer := ofCapacity defaultCapacity defaultLabel

/-- A written instruction with operands. -/
def instruction (mnemonic : String) (ops : List String) : String :=
  "    " ++ Text.alignLeft 6 mnemonic ++ " " ++ ", ".intercalate ops

/-- The module of a form that holds some of its operand combinations. -/
def shard (c : Composer) (f : Form) (name : String) (rows : List (List String)) : AsmModule where
  name := name
  title := f.title
  feature := f.feature
  entryLabel := c.entryLabel
  body := rows.map (instruction f.mnemonic)

/-- The combinations in which the operand at a position is one of the given ones, which vary
slowest. -/
def pinned (sets : List (List String)) (position : Nat) (values : List String) :
    List (List String) :=
  values.flatMap fun v => product (sets.set position [v])

/-- The modules of a form with operands. -/
def compose (c : Composer) (f : Form) : Except GenerationError (List AsmModule) :=
  match f.shape with
  | .error e => .error e
  | .ok shape =>
    let sets := shape.templates.map Template.operands
    match shape.outer? with
    | none => .ok [c.shard f f.baseName (product sets)]
    | some position =>
      let shards := chunks c.capacity (sets.getD position [])
      if shardLetters.length < shards.length then
        .error (.malformed f.title (.tooManyShards shards.length c.capacity))
      else
        .ok (shardLetters.zipWith
          (fun letter values =>
            c.shard f (f.baseName ++ letter.toString) (pinned sets position values))
          shards)

/-- The module of instructions without operands. -/
def bareModule (c : Composer) (feature : Feature) (forms : List Form) : AsmModule where
  name := feature.bareName
  title := feature.label ++ " instructions without operands"
  feature := feature
  entryLabel := c.entryLabel
  body := forms.map ("    " ++ ·.mnemonic)

/-- The modules of several forms with operands, or the first error. -/
def composeAll (c : Composer) : List Form → Except GenerationError (List AsmModule)
  | [] => .ok []
  | f :: fs =>
    match c.compose f with
    | .error e => .error e
    | .ok ms => (c.composeAll fs).map (ms ++ ·)

/-- The modules of the forms of one feature: first that of the instructions without operands,
if there are any. -/
def composeFeature (c : Composer) (feature : Feature) (forms : List Form) :
    Except GenerationError (List AsmModule) :=
  let bare := forms.filter Form.isBare
  let batch := if bare.isEmpty then [] else [c.bareModule feature bare]
  (c.composeAll (forms.filter (!·.isBare))).map (batch ++ ·)

/-- The modules of the selected forms of some features, feature by feature, and how many forms are
selected. -/
def composeFeatures (c : Composer) (catalog : Catalog) (s : Selection) :
    List Feature → Except GenerationError (Nat × List AsmModule)
  | [] => .ok (0, [])
  | feature :: features =>
    let group := (catalog.ofFeature feature).filter s.matches
    match c.composeFeature feature group with
    | .error e => .error e
    | .ok ms =>
      (c.composeFeatures catalog s features).map fun r => (group.length + r.1, ms ++ r.2)

/-- The modules of the selected forms of a catalog.  That nothing is selected is found out at the
end, when no feature has a selected form. -/
def generate (c : Composer) (catalog : Catalog) (s : Selection) :
    Except GenerationError (List AsmModule) :=
  match c.composeFeatures catalog s Feature.all with
  | .error e => .error e
  | .ok (0, _) => .error (.nothingSelected s)
  | .ok (_, ms) => .ok ms

end Composer

end AsmPair
