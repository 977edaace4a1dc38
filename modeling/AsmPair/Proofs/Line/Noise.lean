import AsmPair.Proofs.Line.Wording
import Mathlib.Logic.Relation

/-!
# Noise in listings

Disassemblers lay out a listing in their own ways: they differ in the case of letters, in blanks
and line ends, in comments and in labels.  None of this matters to the lines that are listed.  The
edits here make noise; as two texts that become the same by noise list the same lines, it does not
matter either if noise is taken away.

## Main definitions

* `StartsWithLabel`, `OpensOperands` — lines by what they begin with.
* `LineNoise` — the edits of one line that do not matter.
* `IsIdle` — lines that hold nothing.
* `ListingNoise` — the edits of a text that do not matter.

## Main results

* `ofRaw?_of_noise`, `ofRaw?_of_idle` — the line that an edited raw line holds.
* `listing_joined` — a text lists what its lines list, one after the other.
* `listing_of_noise` — noise does not matter to what a text lists.
-/

namespace AsmPair.Line

open Text

/-! ### Edits of a line -/

/-- A text of blanks only. -/
def IsGap (cs : List Char) : Prop := ∀ c ∈ cs, isBlank c = true

/-- A line that starts with a label, blanks in front of it aside. -/
def StartsWithLabel (line : List Char) : Prop :=
  ∃ gap label rest, IsGap gap ∧ isLabel label = true ∧ line = gap ++ (label ++ ':' :: rest)

instance (cs : List Char) : Decidable (IsGap cs) :=
  decidable_of_iff (cs.all isBlank = true) List.all_eq_true

theorem startsWithLabel_iff {line : List Char} : StartsWithLabel line ↔
    (cut? (· == ':') (trimLeft line)).any (fun r => isLabel r.1) = true := by
  rw [← exists_label_iff]
  constructor
  · rintro ⟨gap, label, rest, hgap, hlabel, rfl⟩
    obtain ⟨hne, hpart⟩ := isLabelPart_of_isName (isName_of_isLabel hlabel)
    obtain ⟨c, cs, rfl⟩ := List.exists_cons_of_ne_nil hne
    refine ⟨c :: cs, rest, hlabel, ?_⟩
    unfold trimLeft
    rw [List.dropWhile_append_of_pos hgap]
    exact trimLeft_of_head (isBlank_of_isLabelPart (hpart c List.mem_cons_self)) _
  · rintro ⟨label, rest, hlabel, hleft⟩
    obtain ⟨gap, hgap, hline⟩ := exists_blanks_trimLeft line
    exact ⟨gap, label, rest, hgap, hlabel, hleft ▸ hline⟩

instance (line : List Char) : Decidable (StartsWithLabel line) :=
  decidable_of_iff _ startsWithLabel_iff.symm

/-- The front of a line up to its operand part: it holds the mnemonic, perhaps behind a label, and
ends with a blank. -/
structure OpensOperands (front : List Char) : Prop where
  /-- It does not reach into a comment. -/
  not_comment : ';' ∉ front
  /-- It ends with a blank. -/
  ends_blank : ∃ b ∈ front.getLast?, isBlank b = true
  /-- Its words behind the label are a mnemonic: lead words and one other word. -/
  mnemonic : endsLeads ((words (code front)).map lower) = true

/-- An edit of a raw line that does not matter to the line. -/
inductive LineNoise : List Char → List Char → Prop
  /-- A comment is put at the end. -/
  | comment (line text : List Char) : LineNoise line (line ++ ';' :: text)
  /-- ASCII letters change their case. -/
  | letters {line line' : List Char} (h : line.map Char.toLower = line'.map Char.toLower) :
      LineNoise line line'
  /-- A run of blanks becomes another one. -/
  | respaced (front back : List Char) {gap gap' : List Char} (hgap : IsGap gap)
      (hgap' : IsGap gap') (hne : gap ≠ []) (hne' : gap' ≠ []) :
      LineNoise (front ++ (gap ++ back)) (front ++ (gap' ++ back))
  /-- A carriage return is put at the end, so that it belongs to the end of the line. -/
  | returned (line : List Char) : LineNoise line (line ++ ['\r'])
  /-- Blanks are put around the line. -/
  | padded (line : List Char) {gap gap' : List Char} (hgap : IsGap gap) (hgap' : IsGap gap') :
      LineNoise line (gap ++ (line ++ gap'))
  /-- Blanks are put around a comma of the operand part. -/
  | comma {front part : List Char} (rest : List Char) {gap gap' : List Char}
      (hfront : OpensOperands front) (hpart : ';' ∉ part) (hgap : IsGap gap) (hgap' : IsGap gap') :
      LineNoise (front ++ (part ++ ',' :: rest)) (front ++ (part ++ gap ++ ',' :: (gap' ++ rest)))
  /-- A label is put in front. -/
  | labelled {label line : List Char} (hlabel : isLabel label = true)
      (hline : ¬ StartsWithLabel line) : LineNoise line (label ++ ':' :: line)

section Words

variable {gap gap' : List Char}

theorem withoutComment_gap_append (hgap : IsGap gap) (cs : List Char) :
    withoutComment (gap ++ cs) = gap ++ withoutComment cs :=
  withoutComment_append_of_not_mem (semicolon_not_mem_of_isBlank hgap) cs

/-- A gap separates the words before it from those after it. -/
theorem words_append_gap (hgap : IsGap gap) (hne : gap ≠ []) (xs ys : List Char) :
    words (xs ++ (gap ++ ys)) = words xs ++ words ys := by
  obtain ⟨b, bs, rfl⟩ := List.exists_cons_of_ne_nil hne
  rw [List.cons_append, words_append_blank (hgap b List.mem_cons_self),
    words_blanks_append fun d hd => hgap d (List.mem_cons_of_mem b hd)]

theorem words_withoutComment_respaced (hgap : IsGap gap) (hgap' : IsGap gap') (hne : gap ≠ [])
    (hne' : gap' ≠ []) (front back : List Char) :
    words (withoutComment (front ++ (gap ++ back))) =
      words (withoutComment (front ++ (gap' ++ back))) := by
  by_cases hmem : ';' ∈ front
  · rw [withoutComment_append_of_mem hmem, withoutComment_append_of_mem hmem]
  · rw [withoutComment_append_of_not_mem hmem, withoutComment_append_of_not_mem hmem,
      withoutComment_gap_append hgap, withoutComment_gap_append hgap', words_append_gap hgap hne,
      words_append_gap hgap' hne']

theorem words_withoutComment_padded (hgap : IsGap gap) (hgap' : IsGap gap') (line : List Char) :
    words (withoutComment (gap ++ (line ++ gap'))) = words (withoutComment line) := by
  rw [withoutComment_gap_append hgap, words_blanks_append hgap]
  by_cases hmem : ';' ∈ line
  · rw [withoutComment_append_of_mem hmem]
  · rw [withoutComment_append_of_not_mem hmem, withoutComment_of_not_mem hmem,
      withoutComment_of_not_mem (semicolon_not_mem_of_isBlank hgap'), words_append_blanks hgap']

theorem words_withoutComment_returned (line : List Char) :
    words (withoutComment (line ++ ['\r'])) = words (withoutComment line) :=
  @words_withoutComment_padded [] ['\r'] (by decide) (by decide) line

end Words

/-! ### Labels -/

section Label

variable {label line : List Char}

theorem dropLabel_words_labelled (hlabel : isLabel label = true) (line : List Char) :
    dropLabel (words (withoutComment (label ++ ':' :: line))) = words (withoutComment line) := by
  have hsign : ';' ∉ label ++ [':'] := by
    rw [List.mem_append, not_or]
    exact ⟨semicolon_not_mem_of_isLabel hlabel, by decide⟩
  rw [List.append_cons, withoutComment_append_of_not_mem hsign, ← List.append_cons,
    dropLabel_words_label hlabel]

/-- A line that does not start with a label has none to be dropped. -/
theorem dropLabel_of_not_startsWithLabel (h : ¬ StartsWithLabel line) :
    dropLabel (words (withoutComment line)) = words (withoutComment line) := by
  have hwords : ∀ w ∈ words (withoutComment line), IsWord w := fun w hw => isWord_of_mem_words hw
  refine (dropLabel_eq_self_or hwords).resolve_right ?_
  rintro ⟨label, t, ws, hlabel, hfirst⟩
  obtain ⟨gap, rest, hgap, hcode⟩ := exists_blanks_of_words_eq_cons hfirst
  obtain ⟨comment, hline⟩ : withoutComment line <+: line := List.takeWhile_prefix _
  refine h ⟨gap, label, t ++ rest ++ comment, hgap, hlabel, ?_⟩
  rw [← hline, hcode]
  simp

end Label

/-! ### Commas -/

section Comma

variable {front part rest gap gap' : List Char}

/-- The words of a line are those up to the blank that ends its mnemonic and those after it. -/
theorem OpensOperands.words_append (h : OpensOperands front) (cs : List Char) :
    words (front ++ cs) = words front ++ words cs := by
  obtain ⟨b, hlast, hb⟩ := h.ends_blank
  obtain ⟨before, rfl⟩ := List.getLast?_eq_some_iff.mp hlast
  rw [List.append_assoc, List.singleton_append, words_append_blank hb, words_append_blank hb,
    words_nil, List.append_nil]

theorem OpensOperands.words_code (h : OpensOperands front) :
    words (code front) = dropLabel (words front) := by
  rw [Line.words_code, withoutComment_of_not_mem h.not_comment]

theorem OpensOperands.words_ne_nil (h : OpensOperands front) : words front ≠ [] := by
  intro hnil
  have hmnemonic := h.mnemonic
  rw [h.words_code, hnil] at hmnemonic
  cases hmnemonic

/-- A line with operands is read by its mnemonic and by the words of its operand part. -/
theorem OpensOperands.exists_ofRaw?_eq (h : OpensOperands front) : ∃ leads w,
    (∀ v ∈ leads, isLead v = true) ∧ isLead w = false ∧ ∀ cs : List Char,
      ofRaw? (String.ofList (front ++ cs)) =
        some (ofWords (leads ++ w :: (words (withoutComment cs)).map lower)) := by
  obtain ⟨leads, w, hmnemonic, hleads, hw⟩ := endsLeads_iff.mp h.mnemonic
  refine ⟨leads, w, hleads, hw, fun cs => ?_⟩
  have hwords : (dropLabel (words (withoutComment (front ++ cs)))).map lower =
      leads ++ w :: (words (withoutComment cs)).map lower := by
    rw [withoutComment_append_of_not_mem h.not_comment, h.words_append,
      dropLabel_append h.words_ne_nil, List.map_append, ← h.words_code, hmnemonic,
      List.append_assoc, List.singleton_append]
  rw [ofRaw?_eq_ofWords?, hwords, ofWords?, if_neg (by simp)]

theorem ofWords_of_leads {leads : List (List Char)} {w : List Char}
    (hleads : ∀ v ∈ leads, isLead v = true) (hw : isLead w = false) (ws : List (List Char)) :
    ofWords (leads ++ w :: ws) = ofParts (String.ofList (joined [' '] (leads ++ [w])))
      (operandsOf ws) := by
  unfold ofWords
  rw [splitMnemonic_of_leads hleads hw]

/-- Blanks around a comma belong to no word of the operands. -/
theorem operandsOf_comma (hgap : IsGap gap) (hgap' : IsGap gap') (part rest : List Char) :
    operandsOf ((words (part ++ ',' :: rest)).map lower) =
      operandsOf ((words (part ++ gap ++ ',' :: (gap' ++ rest))).map lower) := by
  have hne : ∀ xs ys : List Char, words (xs ++ ',' :: ys) ≠ [] := by
    intro xs ys hnil
    exact absurd (words_eq_nil_iff.mp hnil ',' (by simp)) (by decide)
  rw [operandsOf_lowered (hne _ _), operandsOf_lowered (hne _ _), pieces_append_cut rfl,
    pieces_append_cut rfl, List.map_append, List.map_append (f := words),
    map_words_pieces_append beq_comma_of_isBlank hgap,
    map_words_pieces_blanks_append beq_comma_of_isBlank hgap']

theorem ofRaw?_comma (hfront : OpensOperands front) (hpart : ';' ∉ part) (hgap : IsGap gap)
    (hgap' : IsGap gap') (rest : List Char) :
    ofRaw? (String.ofList (front ++ (part ++ ',' :: rest))) =
      ofRaw? (String.ofList (front ++ (part ++ gap ++ ',' :: (gap' ++ rest)))) := by
  obtain ⟨leads, w, hleads, hw, hread⟩ := hfront.exists_ofRaw?_eq
  have hcut : ∀ {xs : List Char}, ';' ∉ xs → ∀ ys, withoutComment (xs ++ ',' :: ys) =
      xs ++ ',' :: withoutComment ys := by
    intro xs hxs ys
    rw [withoutComment_append_of_not_mem hxs, ← List.singleton_append,
      withoutComment_append_of_not_mem (by decide)]
    rfl
  have hpart' : ';' ∉ part ++ gap := by
    rw [List.mem_append, not_or]
    exact ⟨hpart, semicolon_not_mem_of_isBlank hgap⟩
  rw [hread, hread, hcut hpart, hcut hpart', withoutComment_gap_append hgap',
    ofWords_of_leads hleads hw, ofWords_of_leads hleads hw, operandsOf_comma hgap hgap']

end Comma

/-- **An edit of a raw line does not matter to the line.** -/
theorem ofRaw?_of_noise {line line' : List Char} (h : LineNoise line line') :
    ofRaw? (String.ofList line) = ofRaw? (String.ofList line') := by
  cases h with
  | comment =>
    rw [ofRaw?_eq_ofWords?, ofRaw?_eq_ofWords?, withoutComment_append_comment]
  | letters h => rw [← ofRaw?_map_toLower line, h, ofRaw?_map_toLower]
  | respaced front back hgap hgap' hne hne' =>
    rw [ofRaw?_eq_ofWords?, ofRaw?_eq_ofWords?,
      words_withoutComment_respaced hgap hgap' hne hne']
  | returned => rw [ofRaw?_eq_ofWords?, ofRaw?_eq_ofWords?, words_withoutComment_returned]
  | padded _ hgap hgap' =>
    rw [ofRaw?_eq_ofWords?, ofRaw?_eq_ofWords?, words_withoutComment_padded hgap hgap']
  | comma rest hfront hpart hgap hgap' => exact ofRaw?_comma hfront hpart hgap hgap' rest
  | labelled hlabel hline =>
    rw [ofRaw?_eq_ofWords?, ofRaw?_eq_ofWords?, dropLabel_words_labelled hlabel,
      dropLabel_of_not_startsWithLabel hline]

/-! ### Idle lines -/

/-- A line that holds nothing: it is blank, a comment or a bare label. -/
inductive IsIdle : List Char → Prop
  /-- A blank line. -/
  | blank {gap : List Char} (hgap : IsGap gap) : IsIdle gap
  /-- A comment on a line of its own. -/
  | comment {gap : List Char} (hgap : IsGap gap) (text : List Char) : IsIdle (gap ++ ';' :: text)
  /-- A label on a line of its own. -/
  | label {gap label gap' : List Char} (hgap : IsGap gap) (hlabel : isLabel label = true)
      (hgap' : IsGap gap') : IsIdle (gap ++ (label ++ ':' :: gap'))

theorem words_withoutComment_gap {gap : List Char} (hgap : IsGap gap) :
    words (withoutComment gap) = [] := by
  rw [withoutComment_of_not_mem (semicolon_not_mem_of_isBlank hgap)]
  exact words_eq_nil_iff.mpr hgap

/-- An idle line holds nothing. -/
theorem ofRaw?_of_idle {line : List Char} (h : IsIdle line) :
    ofRaw? (String.ofList line) = none := by
  have hnone : dropLabel (words (withoutComment line)) = [] := by
    cases h with
    | blank hgap => rw [words_withoutComment_gap hgap, dropLabel]
    | comment hgap text =>
      rw [withoutComment_append_comment, words_withoutComment_gap hgap, dropLabel]
    | label hgap hlabel hgap' =>
      rw [withoutComment_gap_append hgap, words_blanks_append hgap,
        dropLabel_words_labelled hlabel, words_withoutComment_gap hgap']
  rw [ofRaw?_eq_ofWords?, hnone]
  rfl

/-! ### Lines of a text -/

/-- The carriage return at the end of a line is a blank. -/
theorem ofRaw?_dropReturn (line : List Char) :
    ofRaw? (String.ofList (dropReturn line)) = ofRaw? (String.ofList line) := by
  unfold dropReturn
  split
  · next hlast =>
    obtain ⟨before, rfl⟩ := List.getLast?_eq_some_iff.mp hlast
    rw [List.dropLast_concat]
    exact ofRaw?_of_noise (.returned before)
  · rfl

/-- A text lists what its lines hold. -/
theorem listing_eq_filterMap (cs : List Char) : listing (String.ofList cs) =
    (pieces (· == '\n') cs).filterMap fun line => ofRaw? (String.ofList line) := by
  obtain ⟨ls, l, hpieces⟩ := (List.eq_nil_or_concat' (pieces (· == '\n') cs)).resolve_left
    (pieces_ne_nil _ _)
  have hlast : ((some l).toList.filter fun l => !l.isEmpty).filterMap
      (fun line => ofRaw? (String.ofList line)) = [l].filterMap fun line =>
        ofRaw? (String.ofList line) := by
    cases l with
    | nil => rfl
    | cons c l => rfl
  unfold listing ofRaws linesOf lines
  simp only [String.toList_ofList, hpieces, List.dropLast_concat, List.getLast?_concat,
    List.filterMap_map, List.filterMap_append, Function.comp_def, ofRaw?_dropReturn, hlast]

/-- A line is listed by itself. -/
theorem listing_line {line : List Char} (h : '\n' ∉ line) :
    listing (String.ofList line) = (ofRaw? (String.ofList line)).toList := by
  rw [listing_eq_filterMap, pieces_of_not (beq_eq_false_of_not_mem h)]
  cases hline : ofRaw? (String.ofList line) <;> simp [hline]

/-- **A text lists what its lines list, one after the other.** -/
theorem listing_joined (ls : List (List Char)) : listing (String.ofList (joined ['\n'] ls)) =
    ls.flatMap fun line => listing (String.ofList line) := by
  fun_induction joined ['\n'] ls with
  | case1 => rfl
  | case2 l => rw [List.flatMap_singleton]
  | case3 l l' ls ih =>
    rw [List.flatMap_cons, ← ih]
    simp only [listing_eq_filterMap]
    rw [List.append_assoc, List.singleton_append, pieces_append_cut rfl, List.filterMap_append]

/-- An edit of a text that does not matter to what it lists. -/
inductive ListingNoise : List Char → List Char → Prop
  /-- A line is edited. -/
  | edited (before after : List (List Char)) {line line' : List Char} (h : LineNoise line line')
      (hline : '\n' ∉ line) (hline' : '\n' ∉ line') :
      ListingNoise (joined ['\n'] (before ++ line :: after))
        (joined ['\n'] (before ++ line' :: after))
  /-- A line that holds nothing is put between the lines. -/
  | inserted (before after : List (List Char)) {line : List Char} (h : IsIdle line)
      (hline : '\n' ∉ line) :
      ListingNoise (joined ['\n'] (before ++ after)) (joined ['\n'] (before ++ line :: after))

/-- An edit of a text does not matter to what it lists. -/
theorem listing_of_edit {text text' : List Char} (h : ListingNoise text text') :
    listing (String.ofList text) = listing (String.ofList text') := by
  cases h with
  | edited before after h hline hline' =>
    rw [listing_joined, listing_joined, List.flatMap_append, List.flatMap_append,
      List.flatMap_cons, List.flatMap_cons, listing_line hline, listing_line hline',
      ofRaw?_of_noise h]
  | inserted before after h hline =>
    rw [listing_joined, listing_joined, List.flatMap_append, List.flatMap_append,
      List.flatMap_cons, listing_line hline, ofRaw?_of_idle h]
    rfl

/-- **Noise does not matter to what a text lists**, however many edits make it and take it away. -/
theorem listing_of_noise {text text' : String}
    (h : Relation.EqvGen ListingNoise text.toList text'.toList) : listing text = listing text' := by
  have hchars : ∀ cs cs', Relation.EqvGen ListingNoise cs cs' →
      listing (String.ofList cs) = listing (String.ofList cs') := by
    intro cs cs' h
    induction h with
    | rel _ _ h => exact listing_of_edit h
    | refl _ => rfl
    | symm _ _ _ ih => exact ih.symm
    | trans _ _ _ _ _ ih ih' => exact ih.trans ih'
  have hlisting := hchars _ _ h
  rwa [String.ofList_toList, String.ofList_toList] at hlisting

/-- A line in another layout: in capitals, behind a label, with blanks around its comma and a
comment above it that ends with a carriage return. -/
theorem listing_of_noise_in_capitals :
    listing "mov ax,bx" = listing "; top\r\nlbl:\tMOV ax , bx" ∧
      listing "mov ax,bx" = [ofParts "mov" ["ax", "bx"]] := by
  have hcapitals : ListingNoise "mov ax,bx".toList "MOV ax,bx".toList :=
    .edited [] [] (.letters (by decide)) (by decide) (by decide)
  have hoperands : OpensOperands "MOV ".toList :=
    ⟨by decide, ⟨' ', by decide, by decide⟩, by decide +kernel⟩
  have hcomma : ListingNoise "MOV ax,bx".toList "MOV ax , bx".toList :=
    .edited [] [] (@LineNoise.comma _ "ax".toList "bx".toList [' '] [' '] hoperands (by decide)
      (by decide) (by decide)) (by decide) (by decide)
  have hblank : ListingNoise "MOV ax , bx".toList "\tMOV ax , bx".toList :=
    .edited [] [] (@LineNoise.padded _ ['\t'] [] (by decide) (by decide)) (by decide) (by decide)
  have hlabel : ListingNoise "\tMOV ax , bx".toList "lbl:\tMOV ax , bx".toList :=
    .edited [] [] (@LineNoise.labelled "lbl".toList _ (by decide) (by decide)) (by decide)
      (by decide)
  have hcomment : ListingNoise "lbl:\tMOV ax , bx".toList "; top\r\nlbl:\tMOV ax , bx".toList :=
    .inserted [] ["lbl:\tMOV ax , bx".toList] (@IsIdle.comment [] (by decide) " top\r".toList)
      (by decide)
  refine ⟨listing_of_noise ?_, by decide +kernel⟩
  exact .trans _ _ _ (.rel _ _ hcapitals) (.trans _ _ _ (.rel _ _ hcomma)
    (.trans _ _ _ (.rel _ _ hblank) (.trans _ _ _ (.rel _ _ hlabel) (.rel _ _ hcomment))))

/-- One label is dropped, not two, so a label in front of another one does matter. -/
example : listing "a: nop" = [parse "nop"] ∧ listing "b: a: nop" = [parse "a: nop"] := by
  decide +kernel

end AsmPair.Line
