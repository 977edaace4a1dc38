import AsmPair.Proofs.Catalog.Building
import AsmPair.Proofs.Text.Raising

/-!
# Looking up mnemonics

A mnemonic may be looked up in a catalog, or its text may be read as a pattern and select from it.
Both space the text and compare it with the mnemonics of the forms up to the case of ASCII letters,
but only the pattern raises it first, as it was done with the mnemonics when the catalog was built.
So the two agree on texts in ASCII, and beyond it on texts whose other letters are upper case; with
any other letter in the text nothing is looked up, whatever is selected.

## Main definitions

* `Catalog.ofMnemonic` — the selection of the forms with a mnemonic.
* `Catalog.LookupAgrees` — looking up finds what a selection selects.

## Main results

* `Form.IsRead.isRaised_mnemonic` — the mnemonics of a catalog are raised.
* `Catalog.lookup_agrees_with_selection_iff` — when looking up and selecting agree.
* `Catalog.lookup_misses_accented_mnemonic` — a mnemonic that is selected and not looked up.
-/

namespace AsmPair

open Text (IsRaisedBeyondAscii spaced upper)

theorem Form.IsRead.isRaised_mnemonic {f : Form} (h : f.IsRead) :
    ∀ c ∈ f.mnemonic.toList, Text.IsRaised c := by
  obtain ⟨mnemonic, shorthands, h⟩ := h
  obtain ⟨ts, -, heq⟩ := Form.read_eq_ok_iff.mp h
  have hmnemonic : f.mnemonic = Form.canonicalMnemonic mnemonic := congrArg Form.mnemonic heq
  rw [hmnemonic, Form.canonicalMnemonic, String.toList_ofList]
  exact fun c hc => Text.isRaised_of_mem_upper hc

/-- A text that is a mnemonic stands for it as it is written in the catalog. -/
theorem Pattern.eq_of_parse_eq_exactly {m s : String} (h : Pattern.parse m = .exactly s) :
    s = String.ofList (upper (spaced m.toList)) := by
  simp only [Pattern.parse] at h
  split at h
  · cases h
  · split at h
    · cases h
    · cases h
      rfl

namespace Catalog

/-- The selection of the forms with a mnemonic. -/
def ofMnemonic (mnemonic : String) : Selection := ⟨some (.exactly mnemonic), none⟩

/-- Looking up a text finds the forms that are selected, in the same order, and nothing exactly if
nothing is selected. -/
def LookupAgrees (catalog : Catalog) (text : String) (s : Selection) : Prop :=
  catalog.select s =
    if (catalog.lookup text).isEmpty then .error (.nothingSelected s) else .ok (catalog.lookup text)

variable {tables : List Table} {catalog : Catalog} {m s : String}

theorem lookupAgrees_of_eq {s : Selection}
    (h : catalog.lookup m = catalog.forms.filter s.matches) : catalog.LookupAgrees m s := by
  unfold LookupAgrees
  rw [h]
  rfl

/-- What is selected by a mnemonic. -/
@[simp] theorem matches_ofMnemonic (f : Form) :
    (ofMnemonic s).matches f = Text.sameLetters f.mnemonic s := Bool.true_and _

/-- **Beyond ASCII a text must be upper case to be looked up as it selects.** -/
theorem lookupAgrees_of_isRaised (hm : Pattern.parse m = .exactly s)
    (hraised : IsRaisedBeyondAscii m.toList) : catalog.LookupAgrees m (ofMnemonic s) := by
  refine lookupAgrees_of_eq (List.filter_congr fun f _ => ?_)
  rw [Pattern.eq_of_parse_eq_exactly hm]
  rw [matches_ofMnemonic, Pattern.matches, Text.sameLetters, Text.sameLetters,
    String.toList_ofList, String.toList_ofList,
    Text.map_toLower_upper (Text.isRaisedBeyondAscii_spaced.mpr hraised)]

/-- **With any other letter beyond ASCII nothing is looked up.** -/
theorem lookup_eq_nil_of_not_isRaised (h : build tables = .ok catalog)
    (hm : ¬ IsRaisedBeyondAscii m.toList) : catalog.lookup m = [] := by
  refine List.filter_eq_nil_iff.mpr fun f hf hmatch => hm ?_
  have hmnemonic : IsRaisedBeyondAscii f.mnemonic.toList := fun c hc =>
    Or.inr ((isRead_of_mem_readFrom (readFrom_of_build h) f hf).isRaised_mnemonic c hc)
  rw [Pattern.matches, Text.sameLetters, String.toList_ofList, beq_iff_eq] at hmatch
  exact Text.isRaisedBeyondAscii_spaced.mp
    (Text.isRaisedBeyondAscii_of_map_toLower_eq hmatch hmnemonic)

/-- **When looking up and selecting agree.**  A text that stands for a mnemonic is looked up as it
selects exactly if its letters beyond ASCII are upper case, or nothing is selected.  With any other
letter beyond ASCII nothing is looked up. -/
theorem lookup_agrees_with_selection_iff (h : build tables = .ok catalog)
    (hm : Pattern.parse m = .exactly s) :
    (catalog.LookupAgrees m (ofMnemonic s) ↔
      IsRaisedBeyondAscii m.toList ∨
        catalog.select (ofMnemonic s) = .error (.nothingSelected (ofMnemonic s))) ∧
    (¬ IsRaisedBeyondAscii m.toList → catalog.lookup m = []) := by
  refine ⟨⟨fun hagrees => ?_, ?_⟩, lookup_eq_nil_of_not_isRaised h⟩
  · by_cases hraised : IsRaisedBeyondAscii m.toList
    · exact Or.inl hraised
    · refine Or.inr (hagrees.trans ?_)
      rw [lookup_eq_nil_of_not_isRaised h hraised]
      rfl
  · rintro (hraised | hnone)
    · exact lookupAgrees_of_isRaised hm hraised
    · by_cases hraised : IsRaisedBeyondAscii m.toList
      · exact lookupAgrees_of_isRaised hm hraised
      · unfold LookupAgrees
        rw [hnone, lookup_eq_nil_of_not_isRaised h hraised]
        rfl

/-- Lower-case ASCII letters and more blanks make no difference, an accented letter in lower case
does. -/
theorem lookup_agrees_on_raised_accent :
    let tables : List Table := [⟨.cpu8086, ["rep  é"], []⟩]
    ∃ catalog, build tables = .ok catalog ∧ Pattern.parse "rep   É" = .exactly "REP É" ∧
      catalog.LookupAgrees "rep   É" (ofMnemonic "REP É") ∧ catalog.lookup "rep é" = [] := by
  intro tables
  obtain ⟨catalog, h⟩ : ∃ catalog, build tables = .ok catalog := ⟨_, rfl⟩
  have hraised : Pattern.parse "rep   É" = .exactly "REP É" := by decide +kernel
  have hlower : Pattern.parse "rep é" = .exactly "REP É" := by decide +kernel
  refine ⟨catalog, h, hraised, ?_, ?_⟩
  · exact (lookup_agrees_with_selection_iff h hraised).1.mpr (Or.inl (by decide +kernel))
  · exact (lookup_agrees_with_selection_iff h hlower).2 (by decide +kernel)

/-- A mnemonic that is selected by the text it was read from is not looked up by this text. -/
theorem lookup_misses_accented_mnemonic :
    let form : Form := { mnemonic := "É", templates := [], feature := .cpu8086, index := 1 }
    ∃ catalog, build [⟨.cpu8086, ["é"], []⟩] = .ok catalog ∧
      Pattern.parse "é" = .exactly "É" ∧
      catalog.select (ofMnemonic "É") = .ok [form] ∧ catalog.lookup "é" = [] ∧
      ¬ catalog.LookupAgrees "é" (ofMnemonic "É") := by
  intro form
  have hselect : select ⟨[form]⟩ (ofMnemonic "É") = .ok [form] := by decide +kernel
  have hlookup : lookup ⟨[form]⟩ "é" = [] := by decide +kernel
  refine ⟨⟨[form]⟩, by rfl, by decide +kernel, hselect, hlookup, fun hagrees => ?_⟩
  unfold LookupAgrees at hagrees
  rw [hselect, hlookup] at hagrees
  cases hagrees

end Catalog

end AsmPair
