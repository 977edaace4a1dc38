import AsmPair.Line.Listing
import AsmPair.Proofs.Text.Case
import AsmPair.Proofs.Text.Spacing
import Mathlib.Data.List.TakeWhile

/-!
# Reading raw lines

What a raw line says depends on its words only, as long as it is ASCII, holds no comment and does
not begin with a label.  Its lead words and the word after them are the mnemonic, and a list of
plain operands after them is read back.

## Main definitions

* `ofWords` — the line written in lowered words.
* `IsMnemonic` — the mnemonics that are read back as they are.

## Main results

* `splitMnemonic_of_leads` — where the mnemonic ends.
* `operandsOf_words_listed` — written operands are read back.
* `ofRaw?_eq_some` — a raw line without comment and label is read by its words.
* `ofRaw?_eq_ofParts` — a mnemonic and operands are read back, wherever the blanks stand.
-/

namespace AsmPair.Line

open Text

/-! ### Mnemonic and operands -/

/-- The line written in lowered words. -/
def ofWords (ws : List (List Char)) : Line :=
  let parts := splitMnemonic ws
  ofParts (String.ofList (joined [' '] parts.1)) (operandsOf parts.2)

theorem parse_eq_ofWords (raw : String) : parse raw = ofWords (words (lower raw.toList)) := rfl

@[simp] theorem ofWords_singleton (w : List Char) : ofWords [w] = ofParts (String.ofList w) [] :=
  rfl

/-- The mnemonic ends with the first word that is no lead word. -/
theorem splitMnemonic_of_leads {leads : List (List Char)} {w : List Char}
    (hleads : ∀ v ∈ leads, isLead v = true) (hw : isLead w = false) (ws : List (List Char)) :
    splitMnemonic (leads ++ w :: ws) = (leads ++ [w], ws) := by
  induction leads with
  | nil => rw [List.nil_append, List.nil_append, splitMnemonic_cons_of_not_lead hw]
  | cons v leads ih =>
    have hv : isLead v = true := hleads v List.mem_cons_self
    have hne : leads ++ w :: ws ≠ [] :=
      List.append_ne_nil_of_right_ne_nil leads (List.cons_ne_nil w ws)
    rw [List.cons_append, splitMnemonic_cons_of_lead hv hne,
      ih fun u hu => hleads u (List.mem_cons_of_mem v hu)]
    rfl

/-- The operands written in a text are its pieces between commas, without needless blanks. -/
theorem operandsOf_words {cs : List Char} (h : words cs ≠ []) :
    operandsOf (words cs) = (pieces (· == ',') cs).map fun p => String.ofList (spaced p) := by
  have hpieces := congrArg (List.map String.ofList)
    (map_trim_pieces_spaced beq_comma_of_isBlank cs)
  rw [List.map_map, List.map_map] at hpieces
  unfold operandsOf
  rw [if_neg (by rwa [List.isEmpty_iff])]
  exact hpieces

/-- Operands that were written as a list are read back, even where some are empty. -/
theorem operandsOf_words_listed {ops : List (List Char)}
    (h : ∀ op ∈ ops, Tidy op ∧ ',' ∉ op) (hwords : words (listed ops) ≠ []) :
    operandsOf (words (listed ops)) = ops.map String.ofList := by
  cases ops with
  | nil => exact absurd rfl hwords
  | cons op ops =>
    rw [operandsOf_words hwords, pieces_listed fun p hp => (h p hp).2, List.map_cons,
      List.map_cons, List.map_map, (h op List.mem_cons_self).1]
    congr 1
    apply List.map_congr_left
    intro p hp
    have hp : Tidy p := (h p (List.mem_cons_of_mem op hp)).1
    rw [Function.comp_apply, spaced_cons_blank rfl, hp]

/-! ### Labels -/

/-- No blank belongs to a label. -/
theorem isLabelPart_of_isBlank {c : Char} (h : isBlank c = true) : isLabelPart c = false := by
  have hpoints : ∀ n ∈ blankPoints, isLabelPart (Char.ofNat n) = false := by decide
  have hc := hpoints c.toNat (mem_blankPoints_of_isBlank h)
  rwa [Char.ofNat_toNat] at hc

theorem isBlank_of_isLabelPart {c : Char} (h : isLabelPart c = true) : isBlank c = false := by
  rw [Bool.eq_false_iff]
  intro hblank
  rw [isLabelPart_of_isBlank hblank] at h
  cases h

/-- Whether a text can name a label.  Names of segment registers can, which with a colon are read as
overrides. -/
def isName : List Char → Bool
  | [] => false
  | c :: cs => isLabelStart c && cs.all isLabelPart

theorem isName_of_isLabel {cs : List Char} (h : isLabel cs = true) : isName cs = true := by
  cases cs with
  | nil => cases h
  | cons c cs => exact ((Bool.and_eq_true ..).mp h).1

theorem isLabelPart_of_isName {cs : List Char} (h : isName cs = true) :
    cs ≠ [] ∧ ∀ c ∈ cs, isLabelPart c = true := by
  cases cs with
  | nil => cases h
  | cons d ds =>
    simp only [isName, Bool.and_eq_true, List.all_eq_true] at h
    refine ⟨List.cons_ne_nil _ _, fun c hc => ?_⟩
    rcases List.mem_cons.mp hc with rfl | hc
    · unfold isLabelPart
      rw [h.1]
      rfl
    · exact h.2 c hc

/-- A colon right behind the characters of a label belongs to the first word. -/
theorem colon_mem_first_word {head tail cs w : List Char} {ws : List (List Char)}
    (hne : head ≠ []) (hpart : ∀ c ∈ head, isLabelPart c = true)
    (hcut : cut? (· == ':') cs = some (head, tail)) (hwords : words cs = w :: ws) : ':' ∈ w := by
  obtain ⟨d, hd, rfl, -⟩ := eq_of_cut?_eq_some hcut
  obtain rfl : d = ':' := eq_of_beq hd
  -- a label and its colon hold no blank, so the first word begins with them
  have hblank : ∀ c ∈ head ++ [':'], isBlank c = false := by
    intro c hc
    rcases List.mem_append.mp hc with hc | hc
    · exact isBlank_of_isLabelPart (hpart c hc)
    · rw [List.mem_singleton.mp hc]
      rfl
  obtain ⟨t, us, hfirst⟩ := words_append_of_not_blank
    (List.append_ne_nil_of_left_ne_nil hne [':']) hblank tail
  rw [List.append_assoc, List.singleton_append, hwords] at hfirst
  obtain ⟨rfl, -⟩ := List.cons.inj hfirst
  exact List.mem_append_left _ (List.mem_append_right _ List.mem_cons_self)

/-- A line whose first word has no colon does not begin with a label. -/
theorem withoutLabel_of_first_word {cs w : List Char} {ws : List (List Char)}
    (hwords : words cs = w :: ws) (hcolon : ':' ∉ w) : withoutLabel cs = cs := by
  unfold withoutLabel
  split
  · next head tail hcut =>
    rw [if_neg]
    intro hlabel
    obtain ⟨hne, hpart⟩ := isLabelPart_of_isName (isName_of_isLabel hlabel)
    exact hcolon (colon_mem_first_word hne hpart hcut hwords)
  · rfl

/-! ### Raw lines -/

/-- An ASCII character that starts no comment. -/
def isCode (c : Char) : Bool := c.toNat < 0x80 && c != ';'

theorem isCode_iff {c : Char} : isCode c = true ↔ c.toNat < 0x80 ∧ c ≠ ';' := by
  unfold isCode
  rw [Bool.and_eq_true, decide_eq_true_eq, bne_iff_ne]

theorem withoutComment_of_not_mem {cs : List Char} (h : ';' ∉ cs) : withoutComment cs = cs := by
  unfold withoutComment
  rw [List.takeWhile_eq_self_iff]
  intro c hc
  apply bne_iff_ne.mpr
  rintro rfl
  exact h hc

theorem withoutComment_of_all {cs : List Char} (h : cs.all isCode = true) :
    withoutComment cs = cs :=
  withoutComment_of_not_mem fun hc => (isCode_iff.mp (List.all_eq_true.mp h ';' hc)).2 rfl

/-- **A raw ASCII line without comment and label is read by its words.** -/
theorem ofRaw?_eq_some {raw : String} {w : List Char} {ws : List (List Char)}
    (hwords : words raw.toList = w :: ws)
    (hcode : raw.toList.all isCode = true) (hcolon : ':' ∉ w) :
    ofRaw? raw = some (ofWords ((w :: ws).map (List.map Char.toLower))) := by
  have htrim : words (trim raw.toList) = w :: ws := by rw [words_trim, hwords]
  have htrimmed : code raw.toList = trim raw.toList := by
    unfold code
    rw [withoutComment_of_all hcode, withoutLabel_of_first_word htrim hcolon]
  have hne : trim raw.toList ≠ [] := by
    intro hnil
    rw [hnil, words_nil] at htrim
    cases htrim
  have hlower : lower (trim raw.toList) = (trim raw.toList).map Char.toLower :=
    lower_of_ascii fun c hc =>
      (isCode_iff.mp (List.all_eq_true.mp hcode c ((infix_trim _).subset hc))).1
  unfold ofRaw?
  simp only [htrimmed]
  rw [if_neg (by rwa [List.isEmpty_iff])]
  rw [parse_eq_ofWords, String.toList_ofList, hlower, words_map_toLower, htrim]

/-! ### Instructions -/

/-- An ASCII character of a mnemonic: none that structures a line. -/
def isMnemonicPart (c : Char) : Bool := isPlain c && c != ':'

/-- A mnemonic of lead words and exactly one other word, in ASCII and without the characters that
structure a line. -/
structure IsMnemonic (m : String) : Prop where
  /-- Its characters are ASCII and structure no line. -/
  chars : ∀ c ∈ m.toList, isMnemonicPart c = true
  /-- All its words but the last are lead words, and the last is none. -/
  one_word : ∃ leads w, words (lowered m).toList = leads ++ [w] ∧
    (∀ v ∈ leads, isLead v = true) ∧ isLead w = false

theorem isMnemonicPart_iff {c : Char} : isMnemonicPart c = true ↔
    c.toNat < 0x80 ∧ c ≠ ',' ∧ c ≠ ';' ∧ c ≠ ':' := by
  unfold isMnemonicPart
  rw [Bool.and_eq_true, isPlain_iff, bne_iff_ne, and_assoc, and_assoc]

namespace IsMnemonic

variable {m : String}

theorem ascii (h : IsMnemonic m) : ∀ c ∈ m.toList, c.toNat < 0x80 :=
  fun c hc => (isMnemonicPart_iff.mp (h.chars c hc)).1

theorem all_isCode (h : IsMnemonic m) : m.toList.all isCode = true := by
  rw [List.all_eq_true]
  intro c hc
  obtain ⟨hascii, -, hsemicolon, -⟩ := isMnemonicPart_iff.mp (h.chars c hc)
  exact isCode_iff.mpr ⟨hascii, hsemicolon⟩

theorem not_colon (h : IsMnemonic m) : ':' ∉ m.toList :=
  fun hc => (isMnemonicPart_iff.mp (h.chars ':' hc)).2.2.2 rfl

end IsMnemonic

theorem toList_lowered {s : String} (h : ∀ c ∈ s.toList, c.toNat < 0x80) :
    (lowered s).toList = s.toList.map Char.toLower := by
  unfold lowered
  rw [String.toList_ofList, lower_of_ascii h]

/-- Whether all words but the last are lead words, and the last is none. -/
def endsLeads (ws : List (List Char)) : Bool :=
  ws.dropLast.all isLead && ws.getLast?.any (!isLead ·)

theorem endsLeads_iff {ws : List (List Char)} : endsLeads ws = true ↔
    ∃ leads w, ws = leads ++ [w] ∧ (∀ v ∈ leads, isLead v = true) ∧ isLead w = false := by
  unfold endsLeads
  rw [Bool.and_eq_true, List.all_eq_true]
  constructor
  · rintro ⟨hleads, hlast⟩
    rcases List.eq_nil_or_concat' ws with rfl | ⟨leads, w, rfl⟩
    · cases hlast
    · rw [List.dropLast_concat] at hleads
      rw [List.getLast?_concat] at hlast
      exact ⟨leads, w, rfl, hleads, by simpa using hlast⟩
  · rintro ⟨leads, w, rfl, hleads, hw⟩
    rw [List.dropLast_concat, List.getLast?_concat]
    exact ⟨hleads, by simp [hw]⟩

theorem isMnemonic_iff {m : String} : IsMnemonic m ↔ m.toList.all isMnemonicPart = true ∧
    endsLeads (words (m.toList.map Char.toLower)) = true := by
  rw [List.all_eq_true]
  constructor
  · intro h
    refine ⟨h.chars, endsLeads_iff.mpr ?_⟩
    rw [← toList_lowered h.ascii]
    exact h.one_word
  · rintro ⟨hchars, hwords⟩
    refine ⟨hchars, endsLeads_iff.mp ?_⟩
    rwa [toList_lowered fun c hc => (isMnemonicPart_iff.mp (hchars c hc)).1]

instance (m : String) : Decidable (IsMnemonic m) := decidable_of_iff _ isMnemonic_iff.symm

theorem all_isCode_of_plain {cs : List Char} (h : Plain cs) : cs.all isCode = true := by
  rw [List.all_eq_true]
  intro c hc
  obtain ⟨hascii, -, hsemicolon⟩ := isPlain_iff.mp (h.chars c hc)
  exact isCode_iff.mpr ⟨hascii, hsemicolon⟩

/-- The words of a mnemonic, in lower case, are its lead words and one other word. -/
theorem IsMnemonic.exists_leads {m : String} (hm : IsMnemonic m) (htidy : Tidy m.toList) :
    ∃ leads v, (words m.toList).map (List.map Char.toLower) = leads ++ [v] ∧
      joined [' '] (leads ++ [v]) = (lowered m).toList ∧
        (∀ u ∈ leads, isLead u = true) ∧ isLead v = false := by
  obtain ⟨leads, v, hwords, hlead, hv⟩ := hm.one_word
  have htidy' : Tidy (lowered m).toList := by
    rw [toList_lowered hm.ascii]
    exact tidy_map_toLower htidy
  refine ⟨leads, v, ?_, ?_, hlead, hv⟩
  · rw [← words_map_toLower, ← toList_lowered hm.ascii, hwords]
  · rw [← hwords, htidy'.joined_words]

theorem IsMnemonic.exists_first_word {m : String} (hm : IsMnemonic m) (htidy : Tidy m.toList) :
    ∃ w ws, words m.toList = w :: ws ∧ ':' ∉ w := by
  have hne : m.toList ≠ [] := by
    intro hnil
    obtain ⟨leads, v, hwords, -⟩ := hm.exists_leads htidy
    rw [hnil] at hwords
    exact List.append_ne_nil_of_right_ne_nil leads (List.cons_ne_nil v []) hwords.symm
  obtain ⟨w, ws, hfirst⟩ := List.exists_cons_of_ne_nil (htidy.words_ne_nil hne)
  have hw : w <:+: m.toList := by
    rw [← htidy.joined_words, hfirst]
    exact infix_joined List.mem_cons_self
  exact ⟨w, ws, hfirst, fun hc => hm.not_colon (hw.subset hc)⟩

section Operands

variable {ops : List String}

/-- A plain text is plain when lowered. -/
theorem tidy_lowered_of_plain {s : String} (h : Plain s.toList) :
    Tidy (lowered s).toList ∧ (lowered s).toList ≠ [] ∧ ',' ∉ (lowered s).toList := by
  rw [toList_lowered h.ascii]
  refine ⟨tidy_map_toLower h.tidy, ?_, ?_⟩
  · rw [Ne, List.map_eq_nil_iff]
    exact h.ne_nil
  · exact not_mem_map_toLower (by decide) h.ascii h.not_comma

/-- The words of a list of plain operands, in lower case, are those of the lowered operands. -/
theorem map_words_listed (hops : ∀ op ∈ ops, Plain op.toList) :
    (words (listed (ops.map String.toList))).map (List.map Char.toLower) =
      words (listed ((ops.map lowered).map String.toList)) := by
  have hlower : (ops.map lowered).map String.toList =
      (ops.map String.toList).map (List.map Char.toLower) := by
    rw [List.map_map, List.map_map]
    exact List.map_congr_left fun op hop => toList_lowered (hops op hop).ascii
  rw [← words_map_toLower, hlower]
  exact congrArg words (joined_map Char.toLower [',', ' '] _).symm

/-- Plain operands are read back in lower case. -/
theorem operandsOf_words_lowered (hops : ∀ op ∈ ops, Plain op.toList) :
    operandsOf (words (listed ((ops.map lowered).map String.toList))) = ops.map lowered := by
  cases ops with
  | nil => rfl
  | cons op ops =>
    obtain ⟨htidy, hne, -⟩ := tidy_lowered_of_plain (hops op List.mem_cons_self)
    have hop : (lowered op).toList <:+: listed (((op :: ops).map lowered).map String.toList) :=
      infix_joined List.mem_cons_self
    rw [operandsOf_words_listed _ (words_ne_nil_of_part hop (htidy.words_ne_nil hne)),
      List.map_map]
    · simp [Function.comp_def]
    · intro p hp
      obtain ⟨s, hs, rfl⟩ := List.mem_map.mp hp
      obtain ⟨op, hop, rfl⟩ := List.mem_map.mp hs
      obtain ⟨htidy, -, hcomma⟩ := tidy_lowered_of_plain (hops op hop)
      exact ⟨htidy, hcomma⟩

/-- **A mnemonic and plain operands are read back from a raw line, wherever its blanks stand.** -/
theorem ofRaw?_eq_ofParts {raw m : String} (hm : IsMnemonic m) (htidy : Tidy m.toList)
    (hops : ∀ op ∈ ops, Plain op.toList) (hcode : raw.toList.all isCode = true)
    (hwords : words raw.toList = words m.toList ++ words (listed (ops.map String.toList))) :
    ofRaw? raw = some (ofParts (lowered m) (ops.map lowered)) := by
  obtain ⟨leads, v, hleads, hjoined, hlead, hv⟩ := hm.exists_leads htidy
  obtain ⟨w, ws, hfirst, hcolon⟩ := hm.exists_first_word htidy
  have hrawwords : words raw.toList = w :: (ws ++ words (listed (ops.map String.toList))) := by
    rw [hwords, hfirst, List.cons_append]
  rw [ofRaw?_eq_some hrawwords hcode hcolon, ← hrawwords, hwords, List.map_append, hleads,
    map_words_listed hops, List.append_assoc, List.singleton_append]
  -- the mnemonic ends after `v`, and what is left are the words of the operands
  unfold ofWords
  simp only [splitMnemonic_of_leads hlead hv, hjoined, String.ofList_toList,
    operandsOf_words_lowered hops]

end Operands

end AsmPair.Line
