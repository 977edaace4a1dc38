import AsmPair.Proofs.Catalog.Numbering

/-!
# Building catalogs

The entries of all tables are read in order, and each one becomes the form at its place.  If some
entry has an operand in no known shorthand, the first such operand is the error, and it is told with
the title of the entry that it stands in.

## Main definitions

* `Template.isUnknown` — whether a shorthand writes no template.
* `Entry.error?` — what keeps an entry from being read.
* `Entry.IsListedAs` — what a form in a catalog has of the entry at its place.

## Main results

* `Catalog.readFrom_eq_error_iff` — the error of the first entry that has one.
* `Catalog.isListedAs_of_readFrom` — the form at a place.
* `Catalog.select_numbered` — a number selects the form at its place.
* `Catalog.catalogs_follow_tables` — when there is a catalog, and what it lists.
-/

namespace AsmPair

/-- Whether a shorthand writes no template. -/
def Template.isUnknown (shorthand : String) : Bool := (Template.ofShorthand? shorthand).isNone

namespace Entry

/-- What keeps an entry from being read: its first operand in no known shorthand, under the title
that the entry would have. -/
def error? (e : Entry) : Option GenerationError :=
  (e.shorthands.find? Template.isUnknown).map
    (.unknownTemplate (Form.titleOf (Form.canonicalMnemonic e.mnemonic) e.shorthands))

/-- A form in a catalog is that of an entry, with the given place in the catalog and among the
entries of its stem. -/
structure IsListedAs (e : Entry) (index ordinal : Nat) (f : Form) : Prop where
  /-- The mnemonic is upper case and has single spaces. -/
  mnemonic : f.mnemonic = Form.canonicalMnemonic e.mnemonic
  /-- The operands are those of the entry. -/
  templates : f.templates.map Template.shorthand = e.shorthands
  /-- The title has the operands as the entry writes them. -/
  title : f.title = Form.titleOf (Form.canonicalMnemonic e.mnemonic) e.shorthands
  /-- The feature is that of the table. -/
  feature : f.feature = e.feature
  /-- The place in the catalog. -/
  index : f.index = index
  /-- The place among the entries of the stem. -/
  ordinal : f.ordinal = ordinal

variable {e : Entry} {err : GenerationError}

theorem error?_eq_some_iff : e.error? = some err ↔
    ∃ known s rest, e.shorthands = known ++ s :: rest ∧
      (∀ r ∈ known, Template.isUnknown r = false) ∧ Template.isUnknown s = true ∧
      err = .unknownTemplate
        (Form.titleOf (Form.canonicalMnemonic e.mnemonic) e.shorthands) s := by
  unfold error?
  simp only [Option.map_eq_some_iff, List.find?_eq_some_iff_append, Bool.not_eq_true']
  constructor
  · rintro ⟨s, ⟨hs, known, rest, hsplit, hknown⟩, rfl⟩
    exact ⟨known, s, rest, hsplit, hknown, hs, rfl⟩
  · rintro ⟨known, s, rest, hsplit, hknown, hs, rfl⟩
    exact ⟨s, ⟨hs, known, rest, hsplit, hknown⟩, rfl⟩

theorem error?_eq_none_iff :
    e.error? = none ↔ ∀ s ∈ e.shorthands, Template.isUnknown s = false := by
  unfold error?
  rw [Option.map_eq_none_iff, List.find?_eq_none]
  exact forall₂_congr fun s _ => by rw [Bool.not_eq_true]

end Entry

/-! ### Errors -/

@[simp] theorem map_eq_error_iff {ε α β : Type} {g : α → β} {x : Except ε α} {e : ε} :
    x.map g = .error e ↔ x = .error e := by
  cases x <;> simp [Except.map]

/-- The first shorthand that is not known is the error. -/
theorem Form.readTemplates_eq_error_iff {ss : List String} {s : String} :
    readTemplates ss = .error s ↔ ss.find? Template.isUnknown = some s := by
  induction ss with
  | nil => simp
  | cons r ss ih =>
    rw [readTemplates, List.find?_cons]
    unfold Template.isUnknown at ih ⊢
    cases Template.ofShorthand? r with
    | none => simp
    | some t => exact map_eq_error_iff.trans ih

namespace Catalog

variable {index : Nat} {stems : List String} {es : List Entry} {fs : List Form}

theorem read_eq_error_iff {e : Entry} {err : GenerationError} :
    Form.read e.mnemonic e.shorthands e.feature = .error err ↔ e.error? = some err := by
  unfold Form.read Entry.error?
  simp only [Option.map_eq_some_iff, ← Form.readTemplates_eq_error_iff]
  cases Form.readTemplates e.shorthands <;> simp

/-- **The error is that of the first entry that has one.** -/
theorem readFrom_eq_error_iff {err : GenerationError} :
    readFrom index stems es = .error err ↔ es.findSome? Entry.error? = some err := by
  induction es generalizing index stems with
  | nil => simp [readFrom]
  | cons e es ih =>
    rw [List.findSome?_cons, readFrom]
    cases hread : Form.read e.mnemonic e.shorthands e.feature with
    | error err' =>
      rw [read_eq_error_iff.mp hread]
      simp
    | ok f =>
      have hnone : e.error? = none := by
        rw [Option.eq_none_iff_forall_ne_some]
        intro err' herr
        rw [read_eq_error_iff.mpr herr] at hread
        cases hread
      rw [hnone]
      -- the numbers that the entry takes make no difference for the others
      cases e.counted with
      | true => exact map_eq_error_iff.trans ih
      | false => exact map_eq_error_iff.trans ih

theorem exists_readFrom_iff :
    (∃ fs, readFrom index stems es = .ok fs) ↔ ∀ e ∈ es, e.error? = none := by
  rw [← List.findSome?_eq_none_iff]
  cases h : readFrom index stems es with
  | error err => simp [readFrom_eq_error_iff.mp h]
  | ok fs =>
    refine iff_of_true ⟨fs, rfl⟩ (Option.eq_none_iff_forall_ne_some.mpr fun err herr => ?_)
    rw [readFrom_eq_error_iff.mpr herr] at h
    cases h

/-! ### Places -/

theorem isListedAs_numbered {e : Entry} {f : Form}
    (h : Form.read e.mnemonic e.shorthands e.feature = .ok f) (index : Nat) (stems : List String) :
    e.IsListedAs (index + 1)
      (if e.counted then stems.count (Form.stemOf e.mnemonic) + 1 else 1)
      (numbered index stems e f) := by
  have hstem := Form.stem_of_read h
  obtain ⟨ts, hts, rfl⟩ := Form.read_eq_ok_iff.mp h
  have hshorthands := Form.map_shorthand_of_readTemplates hts
  have htitle : Form.titleOf (Form.canonicalMnemonic e.mnemonic) (ts.map Template.shorthand) =
      Form.titleOf (Form.canonicalMnemonic e.mnemonic) e.shorthands := by rw [hshorthands]
  unfold numbered
  split
  · exact ⟨rfl, hshorthands, htitle, rfl, rfl, by rw [← hstem]⟩
  · exact ⟨rfl, hshorthands, htitle, rfl, rfl, rfl⟩

/-- Every entry becomes the form at its place. -/
theorem isListedAs_of_readFrom (h : readFrom index stems es = .ok fs) :
    fs.length = es.length ∧
      ∀ (p : Nat) (e : Entry) (f : Form), es[p]? = some e → fs[p]? = some f →
      e.IsListedAs (index + p + 1)
        (if e.counted then stems.count (Form.stemOf e.mnemonic) +
          (es.take p).countP (sharesStem (Form.stemOf e.mnemonic)) + 1 else 1) f := by
  induction es generalizing index stems fs with
  | nil =>
    cases h
    exact ⟨rfl, fun p e f he => by simp at he⟩
  | cons d es ih =>
    obtain ⟨g, gs, hg, hgs, rfl⟩ := readFrom_cons_eq_ok_iff.mp h
    obtain ⟨hlen, hplace⟩ := ih hgs
    refine ⟨congrArg (· + 1) hlen, fun p e f he hf => ?_⟩
    cases p with
    | zero =>
      cases he
      cases hf
      exact isListedAs_numbered hg index stems
    | succ p =>
      have hlisted := hplace p e f he hf
      refine ⟨hlisted.mnemonic, hlisted.templates, hlisted.title, hlisted.feature, ?_, ?_⟩
      · rw [hlisted.index]
        omega
      · rw [hlisted.ordinal, count_stemsAfter, List.take_succ_cons, List.countP_cons]
        congr 1
        omega

/-- Of forms that are numbered through from `index + 1`, one at most has a number. -/
theorem filter_index_eq (h : ∀ (p : Nat) (f : Form), fs[p]? = some f → f.index = index + p + 1)
    (n : Nat) : fs.filter (fun f => f.index == n) =
      (if index < n then fs[n - (index + 1)]? else none).toList := by
  induction fs generalizing index with
  | nil => simp
  | cons f fs ih =>
    have hfirst : f.index = index + 1 := h 0 f rfl
    have hlater : ∀ (p : Nat) (g : Form), fs[p]? = some g → g.index = index + 1 + p + 1 := by
      intro p g hg
      rw [h (p + 1) g hg]
      omega
    rw [List.filter_cons, ih hlater, hfirst]
    rcases Nat.lt_trichotomy n (index + 1) with hlt | rfl | hgt
    · rw [if_neg (by simp; omega), if_neg (by omega), if_neg (by omega)]
    · simp
    · obtain ⟨k, rfl⟩ := Nat.exists_eq_add_of_lt hgt
      have hk : index + 1 + k + 1 - (index + 1) = k + 1 := by omega
      have hk' : index + 1 + k + 1 - (index + 1 + 1) = k := by omega
      rw [if_neg (by simp; omega), if_pos (by omega), if_pos (by omega), hk, hk',
        List.getElem?_cons_succ]

variable {tables : List Table} {catalog : Catalog}

/-- The selection of the form with a number. -/
def ofNumber (n : Nat) : Selection := ⟨some (.numbered n), none⟩

/-- **A number selects the form at its place**, counted from one, and nothing beyond the last. -/
theorem select_numbered (h : build tables = .ok catalog) (n : Nat) :
    catalog.select (ofNumber n) =
      match (if 0 < n then catalog.forms[n - 1]? else none) with
      | some f => .ok [f]
      | none => .error (.nothingSelected (ofNumber n)) := by
  obtain ⟨hlen, hplace⟩ := isListedAs_of_readFrom (readFrom_of_build h)
  have hnumbers : ∀ (p : Nat) (f : Form), catalog.forms[p]? = some f → f.index = 0 + p + 1 := by
    intro p f hf
    obtain ⟨hlt, -⟩ := List.getElem?_eq_some_iff.mp hf
    exact (hplace p _ f (List.getElem?_eq_getElem (hlen ▸ hlt)) hf).index
  have hmatches : (ofNumber n).matches = fun f => f.index == n := by
    funext f
    exact Bool.true_and _
  unfold select
  rw [hmatches, filter_index_eq hnumbers]
  simp only [Nat.zero_add]
  cases (if 0 < n then catalog.forms[n - 1]? else none) <;> rfl

theorem build_eq_error_iff {err : GenerationError} : build tables = .error err ↔
    (tables.flatMap Table.entries).findSome? Entry.error? = some err :=
  map_eq_error_iff.trans readFrom_eq_error_iff

theorem exists_build_iff :
    (∃ catalog, build tables = .ok catalog) ↔
      ∀ e ∈ tables.flatMap Table.entries, e.error? = none := by
  rw [← @exists_readFrom_iff 0 []]
  constructor
  · rintro ⟨catalog, h⟩
    exact ⟨_, readFrom_of_build h⟩
  · rintro ⟨fs, hfs⟩
    exact ⟨⟨fs⟩, map_eq_ok_iff.mpr ⟨fs, hfs, rfl⟩⟩

/-- **When tables make a catalog, and what it lists.**  There is a catalog exactly if every operand
of every entry is in a known shorthand.  Otherwise the error is the first unknown shorthand of the
first entry that has one, under the title of this entry as it is authored.  In a catalog every entry
has the form at its place: with its mnemonic, title and feature, numbered by this place, and if it
is listed with operands, also by the earlier entries of this kind that share its stem.  The forms
are selected by the numbers of their places, and no other number selects anything. -/
theorem catalogs_follow_tables (tables : List Table) :
    let es := tables.flatMap Table.entries
    ((∃ catalog, build tables = .ok catalog) ↔
      ∀ e ∈ es, ∀ s ∈ e.shorthands, Template.isUnknown s = false) ∧
    (∀ err, build tables = .error err ↔ ∃ before e after, es = before ++ e :: after ∧
      (∀ d ∈ before, ∀ s ∈ d.shorthands, Template.isUnknown s = false) ∧
      ∃ known s rest, e.shorthands = known ++ s :: rest ∧
        (∀ r ∈ known, Template.isUnknown r = false) ∧ Template.isUnknown s = true ∧
        err = .unknownTemplate
          (Form.titleOf (Form.canonicalMnemonic e.mnemonic) e.shorthands) s) ∧
    ∀ catalog, build tables = .ok catalog →
      catalog.forms.length = es.length ∧
      (∀ (p : Nat) (e : Entry) (f : Form), es[p]? = some e → catalog.forms[p]? = some f →
        e.IsListedAs (p + 1)
          (if e.counted then (es.take p).countP (sharesStem (Form.stemOf e.mnemonic)) + 1 else 1)
          f) ∧
      (∀ (p : Nat) (f : Form), catalog.forms[p]? = some f →
        catalog.select (ofNumber (p + 1)) = .ok [f]) ∧
      ∀ n, n = 0 ∨ catalog.forms.length < n →
        catalog.select (ofNumber n) = .error (.nothingSelected (ofNumber n)) := by
  intro es
  refine ⟨?_, fun err => ?_, fun catalog h => ?_⟩
  · rw [exists_build_iff]
    exact forall₂_congr fun e _ => Entry.error?_eq_none_iff
  · rw [build_eq_error_iff, List.findSome?_eq_some_iff]
    simp only [Entry.error?_eq_some_iff, Entry.error?_eq_none_iff]
    constructor
    · rintro ⟨before, e, after, hsplit, he, hbefore⟩
      exact ⟨before, e, after, hsplit, hbefore, he⟩
    · rintro ⟨before, e, after, hsplit, hbefore, he⟩
      exact ⟨before, e, after, hsplit, he, hbefore⟩
  · obtain ⟨hlen, hplace⟩ := isListedAs_of_readFrom (readFrom_of_build h)
    refine ⟨hlen, fun p e f he hf => ?_, fun p f hf => ?_, fun n hn => ?_⟩
    · have hlisted := hplace p e f he hf
      rwa [List.count_nil, Nat.zero_add, Nat.zero_add] at hlisted
    · rw [select_numbered h, if_pos (Nat.succ_pos p), Nat.add_sub_cancel, hf]
    · have hnone : (if 0 < n then catalog.forms[n - 1]? else none) = none := by
        rcases hn with rfl | hn
        · rfl
        · rw [List.getElem?_eq_none (by omega), ite_self]
      rw [select_numbered h, hnone]

/-- Two tables of different features with a stem in common: the second entry with this stem that is
listed with operands is the fourth form and the second of its stem, since the bare one before it
does not count. -/
theorem catalog_of_common_stem :
    let tables : List Table :=
      [⟨.cpu8086, ["nop"], [("fst cw", ["word"])]⟩, ⟨.fpu8087, ["fstcw"], [("fstcwx", ["word"])]⟩]
    ∃ catalog, build tables = .ok catalog ∧ catalog.forms.length = 4 ∧
      ∀ f, catalog.forms[3]? = some f →
        f.mnemonic = "FSTCWX" ∧ f.title = "FSTCWX word" ∧ f.index = 4 ∧ f.ordinal = 2 ∧
          catalog.select (ofNumber 4) = .ok [f] ∧
          catalog.select (ofNumber 5) = .error (.nothingSelected (ofNumber 5)) := by
  intro tables
  obtain ⟨hexists, -, hcatalog⟩ := catalogs_follow_tables tables
  obtain ⟨catalog, h⟩ := hexists.mpr (by decide +kernel)
  obtain ⟨hlen, hplace, hselect, hnone⟩ := hcatalog catalog h
  refine ⟨catalog, h, hlen, fun f hf => ?_⟩
  have hlisted := hplace 3 ⟨.fpu8087, "fstcwx", ["word"], true⟩ f rfl hf
  refine ⟨hlisted.mnemonic.trans (by decide +kernel), hlisted.title.trans (by decide +kernel),
    hlisted.index, hlisted.ordinal.trans (by decide +kernel), hselect 3 f hf, ?_⟩
  exact hnone 5 (.inr (by rw [hlen]; decide))

end Catalog

end AsmPair
