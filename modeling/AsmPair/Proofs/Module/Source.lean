import AsmPair.Line.Frame
import AsmPair.Proofs.Line.Framing
import AsmPair.Proofs.Line.Reading
import AsmPair.Proofs.Module.Sharding
import AsmPair.Settings

/-!
# The raw lines of a module

The source of a module is a list of raw lines.  Each of them is read for itself: the common lines
and the fillers give fixed lines, a written instruction gives its mnemonic and operands, and the
entry label vanishes unless it is the name of a segment register.

## Main definitions

* `OneLine` — a text that breaks no line.
* `keptLabel?` — what is read of the line of the entry label.
* `frameOpening`, `frameClosing` — the lines that all modules have around their instructions.

## Main results

* `linesOf_source` — the lines of the source are those it was put together from.
* `ofRaw?_instruction`, `ofRaw?_bare` — what is read of an instruction.
* `ofRaw?_label` — what is read of the entry label.
-/

namespace AsmPair

open Text

/-! ### Texts of one line -/

/-- A character that breaks no line. -/
def isInline (c : Char) : Bool := c != '\n' && c != '\r'

/-- A text without line breaks. -/
def OneLine (s : String) : Prop := s.toList.all isInline = true

instance (s : String) : Decidable (OneLine s) :=
  inferInstanceAs (Decidable (s.toList.all isInline = true))

theorem OneLine.not_mem {s : String} (h : OneLine s) : '\n' ∉ s.toList ∧ '\r' ∉ s.toList := by
  have hall := List.all_eq_true.mp h
  exact ⟨fun hmem => absurd (hall '\n' hmem) (by decide),
    fun hmem => absurd (hall '\r' hmem) (by decide)⟩

theorem oneLine_append {s t : String} (hs : OneLine s) (ht : OneLine t) : OneLine (s ++ t) := by
  unfold OneLine at *
  rw [String.toList_append, List.all_append, hs, ht]
  rfl

theorem oneLine_of_tidy {s : String} (h : Tidy s.toList) : OneLine s := by
  unfold OneLine
  rw [List.all_eq_true]
  intro c hc
  by_cases hblank : isBlank c = true
  · rw [h.eq_space_of_isBlank hc hblank]
    decide
  · unfold isInline
    rw [Bool.and_eq_true, bne_iff_ne, bne_iff_ne]
    constructor <;> rintro rfl <;> exact hblank rfl

/-- A list of texts of one line is written on one line. -/
theorem oneLine_intercalate {ss : List String} (h : ∀ s ∈ ss, OneLine s) :
    OneLine (", ".intercalate ss) := by
  unfold OneLine
  rw [toList_intercalate_comma]
  apply all_joined (by decide)
  intro p hp
  obtain ⟨s, hs, rfl⟩ := List.mem_map.mp hp
  exact h s hs

/-! ### Entry labels -/

theorem ascii_of_isAlphanum {c : Char} (h : c.isAlphanum = true) : c.toNat < 0x80 := by
  rcases (Bool.or_eq_true ..).mp h with hletter | hdigit
  · rcases (Bool.or_eq_true ..).mp hletter with hupper | hlower
    · have hZ : c.toNat ≤ 90 := (of_decide_eq_true hupper).2
      omega
    · have hz : c.toNat ≤ 122 := of_decide_eq_true ((Bool.and_eq_true ..).mp hlower).2
      omega
  · have h9 : c.toNat ≤ 57 := of_decide_eq_true ((Bool.and_eq_true ..).mp hdigit).2
    omega

/-- An entry label is not empty, and its characters are ASCII and those of a label. -/
theorem chars_of_isEntryLabel {label : String} (h : isEntryLabel label = true) :
    ∃ c cs, label.toList = c :: cs ∧ Line.isLabelStart c = true ∧
      ∀ d ∈ c :: cs, d.toNat < 0x80 ∧ Line.isLabelPart d = true := by
  unfold isEntryLabel at h
  split at h
  · cases h
  · next c cs heq =>
    simp only [Bool.and_eq_true, List.all_eq_true] at h
    obtain ⟨hstart, hpart⟩ := h
    -- what may stand in an entry label may stand in a label of a listing, the underscore included
    have hletter : ∀ d ∈ c :: cs, (d.isAlphanum || d == '_') = true := by
      intro d hd
      rcases List.mem_cons.mp hd with rfl | hd
      · simp only [Char.isAlphanum, Bool.or_eq_true] at hstart ⊢
        exact hstart.imp_left Or.inl
      · exact hpart d hd
    refine ⟨c, cs, heq, ?_, fun d hd => ?_⟩
    · simp only [Line.isLabelStart, Bool.or_eq_true] at hstart ⊢
      exact Or.inl (Or.inl hstart)
    · have hd := hletter d hd
      simp only [Char.isAlphanum, Bool.or_eq_true, beq_iff_eq] at hd
      rcases hd with hd | rfl
      · refine ⟨ascii_of_isAlphanum (by rw [Char.isAlphanum, Bool.or_eq_true]; exact hd), ?_⟩
        simp only [Line.isLabelPart, Line.isLabelStart, Bool.or_eq_true]
        tauto
      · decide

theorem ne_of_isLabelPart {c d : Char} (hc : Line.isLabelPart c = true)
    (hd : Line.isLabelPart d = false) : c ≠ d := by
  rintro rfl
  rw [hc] at hd
  cases hd

/-- What is read of the line of an entry label: nothing, or the line of a segment register. -/
def keptLabel? (label : String) : Option Line :=
  if Line.overrideNames.contains (lowered label) then some (.ofParts (lowered label ++ ":") [])
  else none

variable {label : String}

theorem isWord_of_isEntryLabel (h : isEntryLabel label = true) : IsWord label.toList := by
  obtain ⟨c, cs, hcons, -, hchars⟩ := chars_of_isEntryLabel h
  rw [hcons]
  exact ⟨List.cons_ne_nil c cs, fun d hd => Line.isBlank_of_isLabelPart (hchars d hd).2⟩

theorem chars_of_mem_label (h : isEntryLabel label = true) :
    ∀ c ∈ label.toList, c.toNat < 0x80 ∧ Line.isLabelPart c = true := by
  obtain ⟨c, cs, hcons, -, hchars⟩ := chars_of_isEntryLabel h
  rwa [hcons]

theorem plain_of_isEntryLabel (h : isEntryLabel label = true) : Plain label.toList := by
  refine plain_of_isWord (isWord_of_isEntryLabel h) fun c hc => isPlain_iff.mpr ?_
  obtain ⟨hascii, hpart⟩ := chars_of_mem_label h c hc
  exact ⟨hascii, ne_of_isLabelPart hpart (by decide), ne_of_isLabelPart hpart (by decide)⟩

theorem isLabel_of_isEntryLabel (h : isEntryLabel label = true) :
    Line.isLabel label.toList = !Line.overrideNames.contains (lowered label) := by
  have hlower : lowered label = String.ofList (label.toList.map Char.toLower) := by
    unfold lowered
    rw [lower_of_ascii fun c hc => (chars_of_mem_label h c hc).1]
  obtain ⟨c, cs, hcons, hstart, hchars⟩ := chars_of_isEntryLabel h
  have hall : cs.all Line.isLabelPart = true := by
    rw [List.all_eq_true]
    exact fun d hd => (hchars d (List.mem_cons_of_mem c hd)).2
  rw [hlower, hcons]
  simp only [Line.isLabel, hstart, hall, Bool.true_and]

theorem isWord_label_colon (h : isEntryLabel label = true) : IsWord (label.toList ++ [':']) where
  ne_nil := List.append_ne_nil_of_right_ne_nil _ (List.cons_ne_nil _ _)
  not_blank := List.forall_mem_append.mpr
    ⟨(isWord_of_isEntryLabel h).not_blank, List.forall_mem_singleton.mpr rfl⟩

theorem plain_label_colon (h : isEntryLabel label = true) : Plain (label.toList ++ [':']) :=
  plain_of_isWord (isWord_label_colon h) (List.forall_mem_append.mpr
    ⟨(plain_of_isEntryLabel h).chars, List.forall_mem_singleton.mpr rfl⟩)

theorem cut?_label_colon (h : isEntryLabel label = true) :
    cut? (· == ':') (label.toList ++ [':']) = some (label.toList, []) :=
  cut?_append_cut rfl fun c hc =>
    beq_false_of_ne (ne_of_isLabelPart (chars_of_mem_label h c hc).2 (by decide))

/-- The code of the line of an entry label: the label is stripped unless it names a segment
register. -/
theorem code_label_colon (h : isEntryLabel label = true) :
    Line.code (label.toList ++ [':']) =
      if Line.overrideNames.contains (lowered label) then label.toList ++ [':'] else [] := by
  have hplain := plain_label_colon h
  unfold Line.code Line.withoutLabel
  rw [Line.withoutComment_of_all (Line.all_isCode_of_plain hplain), hplain.tidy.trim_eq,
    cut?_label_colon h]
  simp only [isLabel_of_isEntryLabel h]
  cases Line.overrideNames.contains (lowered label) with
  | false => rfl
  | true => rfl

theorem words_lower_label_colon (h : isEntryLabel label = true) :
    words (lower (label.toList ++ [':'])) = [(lowered label ++ ":").toList] := by
  rw [lower_of_ascii (plain_label_colon h).ascii, words_map_toLower,
    words_of_isWord (isWord_label_colon h), String.toList_append,
    Line.toList_lowered (plain_of_isEntryLabel h).ascii, List.map_singleton, List.map_append]
  rfl

/-- The line of an entry label is nothing, or the line of a segment register. -/
theorem ofRaw?_label (h : isEntryLabel label = true) :
    Line.ofRaw? (label ++ ":") = keptLabel? label := by
  have hraw : (label ++ ":").toList = label.toList ++ [':'] := String.toList_append
  unfold Line.ofRaw? keptLabel?
  simp only [hraw, code_label_colon h]
  split
  · rw [if_neg (by rw [List.isEmpty_iff]; exact (plain_label_colon h).ne_nil),
      Line.parse_eq_ofWords, String.toList_ofList, words_lower_label_colon h,
      Line.ofWords_singleton, String.ofList_toList]
  · rfl

/-! ### Written instructions -/

section Instruction

variable {m : String} {ops : List String}

/-- What surrounds the mnemonic of a written instruction is blank. -/
theorem toList_instruction_eq (m : String) (ops : List String) :
    ∃ n, (Composer.instruction m ops).toList =
      "    ".toList ++ ((m.toList ++ List.replicate n ' ') ++
        ' ' :: listed (ops.map String.toList)) := by
  refine ⟨6 - m.length, ?_⟩
  rw [Composer.toList_instruction]
  unfold alignLeft filler
  simp only [String.toList_append, String.toList_ofList, List.append_assoc]
  rfl

/-- What holds of the mnemonic, of the operands and of what stands between them holds of a written
instruction. -/
theorem all_instruction {p : Char → Bool} (hspace : p ' ' = true) (hcomma : p ',' = true)
    (hm : m.toList.all p = true) (hops : ∀ op ∈ ops, op.toList.all p = true) :
    (Composer.instruction m ops).toList.all p = true := by
  obtain ⟨n, heq⟩ := toList_instruction_eq m ops
  have hindent : "    ".toList.all p = true := by simp [hspace]
  have hfiller : (List.replicate n ' ').all p = true := by
    rw [List.all_eq_true]
    intro c hc
    rw [(List.mem_replicate.mp hc).2, hspace]
  have hlisted : (listed (ops.map String.toList)).all p = true := by
    apply all_joined (by simp [hspace, hcomma])
    intro q hq
    obtain ⟨op, hop, rfl⟩ := List.mem_map.mp hq
    exact hops op hop
  rw [heq, List.all_append, List.all_append, List.all_append, List.all_cons, hindent, hm, hfiller,
    hspace, hlisted]
  rfl

theorem words_instruction (m : String) (ops : List String) :
    words (Composer.instruction m ops).toList =
      words m.toList ++ words (listed (ops.map String.toList)) := by
  obtain ⟨n, heq⟩ := toList_instruction_eq m ops
  have hfiller : ∀ b ∈ List.replicate n ' ', isBlank b = true := by
    intro b hb
    rw [(List.mem_replicate.mp hb).2]
    rfl
  have hindent : ∀ b ∈ "    ".toList, isBlank b = true := List.all_eq_true.mp (by decide)
  rw [heq, words_blanks_append hindent, words_append_blank rfl, words_append_blanks hfiller]

theorem oneLine_instruction (hm : Tidy m.toList) (hops : ∀ op ∈ ops, Plain op.toList) :
    OneLine (Composer.instruction m ops) :=
  all_instruction rfl rfl (oneLine_of_tidy hm) fun op hop => oneLine_of_tidy (hops op hop).tidy

/-- What is read of a written instruction is its mnemonic and its operands. -/
theorem ofRaw?_instruction (hm : Line.IsMnemonic m) (htidy : Tidy m.toList)
    (hops : ∀ op ∈ ops, Plain op.toList) :
    Line.ofRaw? (Composer.instruction m ops) =
      some (.ofParts (lowered m) (ops.map lowered)) := by
  refine Line.ofRaw?_eq_ofParts hm htidy hops ?_ (words_instruction m ops)
  exact all_instruction rfl rfl hm.all_isCode fun op hop => Line.all_isCode_of_plain (hops op hop)

theorem words_bare (m : String) : words ("    " ++ m).toList = words m.toList := by
  have hraw : ("    " ++ m).toList = "    ".toList ++ m.toList := String.toList_append
  have hblanks : ∀ b ∈ "    ".toList, isBlank b = true := List.all_eq_true.mp (by decide)
  rw [hraw, words_blanks_append hblanks]

theorem all_isCode_bare (hm : Line.IsMnemonic m) :
    ("    " ++ m).toList.all Line.isCode = true := by
  rw [String.toList_append, List.all_append, hm.all_isCode]
  decide

/-- What is read of a mnemonic alone is this mnemonic. -/
theorem ofRaw?_bare (hm : Line.IsMnemonic m) (htidy : Tidy m.toList) :
    Line.ofRaw? ("    " ++ m) = some (.ofParts (lowered m) []) := by
  have hnone : ∀ op ∈ ([] : List String), Plain op.toList := by simp
  refine Line.ofRaw?_eq_ofParts hm htidy hnone (all_isCode_bare hm) ?_
  rw [words_bare]
  exact (List.append_nil _).symm

end Instruction

/-! ### Comments, frames and fillers -/

/-- A title is read as nothing. -/
@[simp] theorem ofRaw?_title (title : String) : Line.ofRaw? ("    ; " ++ title) = none := by
  have hraw : ("    ; " ++ title).toList = "    ; ".toList ++ title.toList := String.toList_append
  have hcode : Line.code ("    ; " ++ title).toList = [] := by
    rw [hraw]
    rfl
  unfold Line.ofRaw?
  simp only [hcode]
  rfl

/-- What is read of the last line of a module. -/
def endLine (label : String) : Line := .ofParts "end" [lowered label]

theorem words_end (label : String) :
    words ("END " ++ label).toList = "END".toList :: words label.toList := by
  have hraw : ("END " ++ label).toList = "END".toList ++ ' ' :: label.toList :=
    String.toList_append
  rw [hraw, words_append_blank rfl]
  rfl

theorem all_isCode_end {label : String} (h : isEntryLabel label = true) :
    ("END " ++ label).toList.all Line.isCode = true := by
  rw [String.toList_append, List.all_append, Line.all_isCode_of_plain (plain_of_isEntryLabel h)]
  decide

theorem ofRaw?_end {label : String} (h : isEntryLabel label = true) :
    Line.ofRaw? ("END " ++ label) = some (endLine label) := by
  have hend : Line.IsMnemonic "END" := by decide
  have hops : ∀ op ∈ [label], Plain op.toList := by
    intro op hop
    rw [List.mem_singleton.mp hop]
    exact plain_of_isEntryLabel h
  refine Line.ofRaw?_eq_ofParts hend (by decide) hops (all_isCode_end h) ?_
  rw [words_end]
  rfl

/-- The line of a filler. -/
def fillerLine : Line := .ofParts "nop" []

/-- The line that closes the segment of a module. -/
def endsLine : Line := .ofParts "ends" []

/-- What is read of the processor directive that a feature needs. -/
def directiveLine? (f : Feature) : Option Line :=
  f.directive?.map fun d => .ofParts (lowered d) []

@[simp] theorem ofRaws_directive (f : Feature) :
    Line.ofRaws (f.directive?.toList.map ("    " ++ ·)) = (directiveLine? f).toList := by
  cases f <;> decide

/-! ### The source of a module -/

/-- The first lines of every module. -/
def frameOpening : List String :=
  ["    IDEAL", "    SEGMENT image", "    ASSUME CS:image, DS:image, SS:image, ES:image",
    "    ORG 0100h"]

/-- The lines of every module from the fillers on, but for the last. -/
def frameClosing : List String :=
  ["    nop", "    nop", Template.targetLabel ++ ":", "    nop", "    nop", "", "    ENDS", ""]

theorem AsmModule.opening_eq (m : AsmModule) : m.opening = frameOpening ++ [m.entryLabel ++ ":"] ++
    m.feature.directive?.toList.map ("    " ++ ·) ++ ["    ; " ++ m.title, ""] := rfl

theorem AsmModule.closing_eq (m : AsmModule) :
    m.closing = frameClosing ++ ["END " ++ m.entryLabel] := rfl

theorem oneLine_of_mem_opening {m : AsmModule} (hlabel : OneLine m.entryLabel)
    (htitle : OneLine m.title) : ∀ s ∈ m.opening, OneLine s := by
  have hcommon : ∀ s ∈ frameOpening, OneLine s := by decide
  have hdirective : ∀ d ∈ m.feature.directive?.toList, OneLine ("    " ++ d) := by
    cases m.feature <;> decide
  intro s hs
  rw [AsmModule.opening_eq] at hs
  rcases List.mem_append.mp hs with hs | hs
  · rcases List.mem_append.mp hs with hs | hs
    · rcases List.mem_append.mp hs with hs | hs
      · exact hcommon s hs
      · rw [List.mem_singleton.mp hs]
        exact oneLine_append hlabel (by decide)
    · obtain ⟨d, hd, rfl⟩ := List.mem_map.mp hs
      exact hdirective d hd
  · rcases List.mem_pair.mp hs with rfl | rfl
    · exact oneLine_append (by decide) htitle
    · decide

theorem oneLine_of_mem_closing {m : AsmModule} (hlabel : OneLine m.entryLabel) :
    ∀ s ∈ m.closing, OneLine s := by
  have hcommon : ∀ s ∈ frameClosing, OneLine s := by decide
  intro s hs
  rw [AsmModule.closing_eq] at hs
  rcases List.mem_append.mp hs with hs | hs
  · exact hcommon s hs
  · rw [List.mem_singleton.mp hs]
    exact oneLine_append (by decide) hlabel

/-- The lines of the source are those it was put together from. -/
theorem linesOf_source {m : AsmModule} (hlabel : isEntryLabel m.entryLabel = true)
    (htitle : OneLine m.title) (hbody : ∀ s ∈ m.body, OneLine s) :
    linesOf m.source = m.sourceLines := by
  have hentry : OneLine m.entryLabel := oneLine_of_tidy (plain_of_isEntryLabel hlabel).tidy
  apply linesOf_join
  intro s hs
  apply OneLine.not_mem
  unfold AsmModule.sourceLines at hs
  rcases List.mem_append.mp hs with hs | hs
  · rcases List.mem_append.mp hs with hs | hs
    · exact oneLine_of_mem_opening hentry htitle s hs
    · exact hbody s hs
  · exact oneLine_of_mem_closing hentry s hs

theorem ofRaws_opening {m : AsmModule} (hlabel : isEntryLabel m.entryLabel = true) :
    Line.ofRaws m.opening =
      framePrologue ++ (keptLabel? m.entryLabel).toList ++ (directiveLine? m.feature).toList := by
  have hcommon : Line.ofRaws frameOpening = framePrologue := by decide +kernel
  have htitle : Line.ofRaws ["    ; " ++ m.title, ""] = [] := by
    rw [Line.ofRaws_cons, ofRaw?_title]
    decide
  rw [AsmModule.opening_eq, Line.ofRaws_append, Line.ofRaws_append, Line.ofRaws_append, hcommon,
    htitle, ofRaws_directive, Line.ofRaws_cons, ofRaw?_label hlabel, Line.ofRaws_nil,
    List.append_nil, List.append_nil]

theorem ofRaws_closing {m : AsmModule} (hlabel : isEntryLabel m.entryLabel = true) :
    Line.ofRaws m.closing =
      List.replicate 4 fillerLine ++ [endsLine, endLine m.entryLabel] := by
  have hcommon : Line.ofRaws frameClosing = List.replicate 4 fillerLine ++ [endsLine] := by decide
  rw [AsmModule.closing_eq, Line.ofRaws_append, hcommon, Line.ofRaws_cons, ofRaw?_end hlabel]
  rfl

/-- **What is read of the source of a module.**  Around its instructions stand the common lines,
the entry label and the directive where they are kept, and the fillers. -/
theorem listing_source {m : AsmModule} {lines : List Line}
    (hlabel : isEntryLabel m.entryLabel = true) (htitle : OneLine m.title)
    (hbody : ∀ s ∈ m.body, OneLine s) (hlines : Line.ofRaws m.body = lines) :
    Line.listing m.source =
      framePrologue ++ (keptLabel? m.entryLabel).toList ++ (directiveLine? m.feature).toList ++
        (lines ++ List.replicate 4 fillerLine) ++ [endsLine, endLine m.entryLabel] := by
  unfold Line.listing
  rw [linesOf_source hlabel htitle hbody]
  unfold AsmModule.sourceLines
  rw [Line.ofRaws_append, Line.ofRaws_append, ofRaws_opening hlabel, ofRaws_closing hlabel, hlines]
  simp only [List.append_assoc]

end AsmPair
