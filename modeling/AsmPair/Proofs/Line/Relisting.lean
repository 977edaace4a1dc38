import AsmPair.Comparison.Verdict
import AsmPair.Proofs.Line.Canonical
import AsmPair.Proofs.Text.Breaks

/-!
# Listing a listing

The text of a line that was listed is a raw line again, and is listed as this line unless it begins
with a label: one label in front of an instruction is dropped, and where another label follows it,
this one is in front of the text that is left.  Lines that are listed already can therefore be
compared as raw lines if no label is left in front of them.

## Main definitions

* `isInk` — the characters that reading keeps.
* `Line.IsLabelled` — a line whose text begins with a label.

## Main results

* `filter_ink_text_parse` — reading loses and makes nothing but blanks and commas.
* `ofRaw?_text_of_not_labelled` — the text of a line without a label is listed as this line.
* `count_colon_lt_of_labelled` — listing the text of a line with a label drops the label.
* `relisting_agrees` — listing again, and comparing what is listed, agree without labels.
-/

namespace AsmPair.Line

open Text

/-! ### What reading keeps -/

/-- Whether reading a line keeps a character wherever it stands. -/
def isInk (c : Char) : Bool := !isBlank c && c != ','

theorem filter_ink_of_filter {p : Char → Bool} (hp : ∀ c, isInk c = true → p c = true)
    (cs : List Char) : (cs.filter p).filter isInk = cs.filter isInk := by
  rw [List.filter_filter]
  apply List.filter_congr
  intro c _
  cases hc : isInk c with
  | false => rfl
  | true => rw [hp c hc]; rfl

theorem filter_ink_words (cs : List Char) :
    (words cs).flatten.filter isInk = cs.filter isInk := by
  rw [flatten_words]
  exact filter_ink_of_filter (fun c hc => (Bool.and_eq_true_iff.mp hc).1) cs

theorem filter_ink_spaced (cs : List Char) : (spaced cs).filter isInk = cs.filter isInk := by
  unfold spaced
  rw [filter_joined (by decide), filter_ink_words]

section Words

variable {ws : List (List Char)}

theorem filter_ink_operandsOf (hws : ∀ w ∈ ws, IsWord w) :
    ((operandsOf ws).map String.toList).flatten.filter isInk = ws.flatten.filter isInk := by
  by_cases hne : ws = []
  · rw [hne]
    rfl
  have hcomma : ∀ c, isInk c = true → (!c == ',') = true :=
    fun c hc => (Bool.and_eq_true_iff.mp hc).2
  have hpieces : (operandsOf ws).map String.toList =
      (pieces (· == ',') (joined [' '] ws)).map spaced := by
    rw [operandsOf_eq hws hne, List.map_map]
    simp [Function.comp_def]
  have hspaced : (pieces (· == ',') (joined [' '] ws)).map (List.filter isInk ∘ spaced) =
      (pieces (· == ',') (joined [' '] ws)).map (List.filter isInk) :=
    List.map_congr_left fun p _ => filter_ink_spaced p
  rw [hpieces, List.filter_flatten, List.map_map, hspaced, ← List.filter_flatten, flatten_pieces,
    filter_ink_of_filter hcomma, filter_joined (by decide)]

/-- A line is written in the characters of its words, but for blanks and commas. -/
theorem filter_ink_text_ofWords (hws : ∀ w ∈ ws, IsWord w) :
    (ofWords ws).text.toList.filter isInk = ws.flatten.filter isInk := by
  have hrest := (isWord_splitMnemonic hws).2
  rw [filter_text rfl rfl, List.filter_append, toList_mnemonic_ofWords, filter_joined (by decide),
    operands_ofWords hws, filter_ink_operandsOf hrest, ← List.filter_append, ← List.flatten_append,
    splitMnemonic_append]

/-- The text of a line with words does not begin with a blank. -/
theorem exists_cons_text_ofWords (hws : ∀ w ∈ ws, IsWord w) (hne : ws ≠ []) :
    ∃ c t, (ofWords ws).text.toList = c :: t ∧ isBlank c = false := by
  have hfirst := (isWord_splitMnemonic hws).1
  obtain ⟨rest, htext⟩ := prefix_text (ofWords ws)
  rw [toList_mnemonic_ofWords] at htext
  cases hjoined : joined [' '] (splitMnemonic ws).1 with
  | nil =>
    have hwords := words_joined hfirst
    rw [hjoined] at hwords
    exact absurd hwords.symm (splitMnemonic_fst_ne_nil hne)
  | cons c t =>
    have hfirm := (tidy_joined hfirst).beginsFirm
    rw [hjoined] at htext hfirm
    exact ⟨c, t ++ rest, htext.symm, beginsFirm_cons.mp hfirm⟩

end Words

/-- **Reading loses and makes nothing but blanks and commas.** -/
theorem filter_ink_text_parse (raw : String) :
    (parse raw).text.toList.filter isInk = (lower raw.toList).filter isInk := by
  rw [parse_eq_ofWords, filter_ink_text_ofWords fun _ hw => isWord_of_mem_words hw,
    filter_ink_words]

theorem count_colon_text_parse (raw : String) :
    (parse raw).text.toList.count ':' = (lower raw.toList).count ':' := by
  have hcolon : isInk ':' = true := by decide
  rw [← List.count_filter hcolon, filter_ink_text_parse, List.count_filter hcolon]

/-! ### Labels in front of a line -/

/-- A line whose text begins with a label. -/
def IsLabelled (l : Line) : Prop :=
  ∃ label rest, isLabel label = true ∧ l.text.toList = label ++ ':' :: rest

theorem colon_not_mem_of_isLabel {cs : List Char} (h : isLabel cs = true) : ':' ∉ cs := by
  intro hc
  exact absurd ((isLabelPart_of_isName (isName_of_isLabel h)).2 ':' hc) (by decide)

theorem cut?_label {label : List Char} (h : isLabel label = true) (rest : List Char) :
    cut? (· == ':') (label ++ ':' :: rest) = some (label, rest) :=
  cut?_append_cut rfl (beq_eq_false_of_not_mem (colon_not_mem_of_isLabel h))

theorem exists_label_iff {cs : List Char} :
    (∃ label rest, isLabel label = true ∧ cs = label ++ ':' :: rest) ↔
      (cut? (· == ':') cs).any (fun r => isLabel r.1) = true := by
  constructor
  · rintro ⟨label, rest, hlabel, rfl⟩
    rw [cut?_label hlabel]
    exact hlabel
  · intro h
    obtain ⟨⟨label, rest⟩, hcut, hlabel⟩ := (Option.any_eq_true _ _).mp h
    exact ⟨label, rest, hlabel, (cut?_beq_eq_some_iff.mp hcut).1⟩

theorem isLabelled_iff {l : Line} : l.IsLabelled ↔
    (cut? (· == ':') l.text.toList).any (fun r => isLabel r.1) = true := exists_label_iff

instance (l : Line) : Decidable l.IsLabelled := decidable_of_iff _ isLabelled_iff.symm

/-! ### Listed lines as raw lines -/

section Listed

variable {raw : String} {l : Line}

/-- What a raw line says is a text without semicolon that is trimmed. -/
theorem exists_code_eq_trim (raw : List Char) : ∃ cs, code raw = trim cs ∧ ';' ∉ cs := by
  have hcomment : ';' ∉ withoutComment raw := by
    intro hc
    have hall := List.all_eq_true.mp (List.all_takeWhile (l := raw) (p := (· != ';'))) ';' hc
    exact absurd hall (by decide)
  unfold code withoutLabel
  split
  · next head tail hcut =>
    obtain ⟨d, -, hsplit, -⟩ := eq_of_cut?_eq_some hcut
    split
    · refine ⟨tail, rfl, fun hc => hcomment ((infix_trim _).subset ?_)⟩
      rw [hsplit]
      exact List.mem_append_right _ (List.mem_cons_of_mem d hc)
    · exact ⟨_, rfl, hcomment⟩
  · exact ⟨_, rfl, hcomment⟩

/-- A listed line was read from a text that is not blank and has no semicolon. -/
theorem exists_parse_of_ofRaw? (h : ofRaw? raw = some l) :
    ∃ cs, l = parse (String.ofList cs) ∧ ';' ∉ cs ∧ ∃ c ∈ cs, isBlank c = false := by
  obtain ⟨cs, hcode, hcomment⟩ := exists_code_eq_trim raw.toList
  unfold ofRaw? at h
  simp only [hcode] at h
  split at h
  · cases h
  · next hne =>
    rw [List.isEmpty_iff] at hne
    obtain ⟨c, t, htrim, hc⟩ := exists_cons_of_trim_ne_nil hne
    exact ⟨trim cs, (Option.some.inj h).symm, fun hmem => hcomment ((infix_trim cs).subset hmem),
      c, by rw [htrim]; exact List.mem_cons_self, hc⟩

/-- The text of a listed line holds no comment and begins without a blank. -/
theorem text_of_ofRaw? (h : ofRaw? raw = some l) : parse l.text = l ∧ ';' ∉ l.text.toList ∧
    (∀ c ∈ l.text.toList, IsLowered c) ∧ ∃ c t, l.text.toList = c :: t ∧ isBlank c = false := by
  obtain ⟨cs, rfl, hcomment, c, hmem, hc⟩ := exists_parse_of_ofRaw? h
  have hwords : ∀ w ∈ words (lower cs), IsWord w := fun _ hw => isWord_of_mem_words hw
  have heq : parse (String.ofList cs) = ofWords (words (lower cs)) := by
    rw [parse_eq_ofWords, String.toList_ofList]
  refine ⟨parse_text _, fun hsign => ?_, isLowered_text_parse _, ?_⟩
  · rw [heq] at hsign
    rcases mem_text_ofWords hwords hsign with hsign | ⟨w, hw, hsign⟩
    · exact absurd hsign (by decide)
    · exact hcomment (mem_of_mem_lower (by decide) (mem_of_mem_words hw hsign))
  · rw [heq]
    apply exists_cons_text_ofWords hwords
    intro hnil
    rw [words_lower, List.map_eq_nil_iff] at hnil
    have hblank := words_eq_nil_iff.mp hnil c hmem
    rw [hc] at hblank
    cases hblank

/-- What a listed line says as a raw line is its text, without a label in front. -/
theorem code_text_of_ofRaw? (h : ofRaw? raw = some l) :
    code l.text.toList = withoutLabel (trimRight l.text.toList) := by
  obtain ⟨-, hcomment, -, c, t, htext, hc⟩ := text_of_ofRaw? h
  unfold code trim
  rw [withoutComment_of_not_mem hcomment, htext, trimLeft_of_head hc]

/-- Blanks at the end of a lowered text do not matter. -/
theorem parse_trimRight {s : String} (hs : ∀ c ∈ s.toList, IsLowered c) :
    parse (String.ofList (trimRight s.toList)) = parse s := by
  obtain ⟨back, hback, heq⟩ := exists_blanks_trimRight s.toList
  have hlow : ∀ c ∈ trimRight s.toList, IsLowered c := by
    intro c hc
    apply hs
    rw [heq]
    exact List.mem_append_left _ hc
  rw [parse_eq_ofWords, parse_eq_ofWords, String.toList_ofList, lower_of_isLowered hlow,
    lower_of_isLowered hs]
  conv_rhs => rw [heq, words_append_blanks hback]

/-- **The text of a listed line without a label is listed as this line.** -/
theorem ofRaw?_text_of_not_labelled (h : ofRaw? raw = some l) (hl : ¬ l.IsLabelled) :
    ofRaw? l.text = some l := by
  obtain ⟨hparse, -, hlow, c, t, htext, hc⟩ := text_of_ofRaw? h
  have hcode : code l.text.toList = trimRight l.text.toList := by
    rw [code_text_of_ofRaw? h]
    unfold withoutLabel
    split
    · next head tail hcut =>
      rw [if_neg]
      intro hlabel
      -- what was trimmed at the end stands behind the label
      obtain ⟨d, hd, hsplit, -⟩ := eq_of_cut?_eq_some hcut
      obtain rfl : d = ':' := eq_of_beq hd
      obtain ⟨back, -, heq⟩ := exists_blanks_trimRight l.text.toList
      exact hl ⟨head, tail ++ back, hlabel, by rw [heq, hsplit]; simp⟩
    · rfl
  have hne : (trimRight l.text.toList).isEmpty = false := by
    rw [htext, trimRight_cons, hc, Bool.and_false]
    rfl
  unfold ofRaw?
  simp only [hcode, hne]
  rw [if_neg Bool.false_ne_true, parse_trimRight hlow, hparse]

/-- Listing the text of a line with a label drops the label and its colon. -/
theorem count_colon_lt_of_labelled (h : ofRaw? raw = some l) (hl : l.IsLabelled) {l' : Line}
    (h' : ofRaw? l.text = some l') : l'.text.toList.count ':' < l.text.toList.count ':' := by
  obtain ⟨label, rest, hlabel, htext⟩ := hl
  obtain ⟨-, -, hlow, -⟩ := text_of_ofRaw? h
  have hcode : code l.text.toList = trim (trimRight rest) := by
    rw [code_text_of_ofRaw? h, htext, trimRight_append_cons (by decide), withoutLabel,
      cut?_label hlabel]
    exact if_pos hlabel
  have hrest : trim (trimRight rest) <:+: rest := by
    obtain ⟨back, -, heq⟩ := exists_blanks_trimRight rest
    have hfront : trimRight rest <+: rest := ⟨back, heq.symm⟩
    exact (infix_trim _).trans hfront.isInfix
  unfold ofRaw? at h'
  simp only [hcode] at h'
  split at h'
  · cases h'
  · have hlowrest : ∀ c ∈ trim (trimRight rest), IsLowered c := by
      intro c hc
      apply hlow
      rw [htext]
      exact List.mem_append_right _ (List.mem_cons_of_mem _ (hrest.subset hc))
    have hcount := hrest.sublist.count_le ':'
    rw [← Option.some.inj h', count_colon_text_parse, String.toList_ofList,
      lower_of_isLowered hlowrest, htext, List.count_append, List.count_cons_self]
    omega

end Listed

/-- **Listing again agrees with listing once, unless a label is left in front.**  The text of a
listed line is listed as this line if and only if it does not begin with a label.  Lines without
labels in front can be compared as raw lines. -/
theorem relisting_agrees :
    (∀ raw l, ofRaw? raw = some l → (ofRaw? l.text = some l ↔ ¬ l.IsLabelled)) ∧
    ∀ (m : Matcher) (source decoded : List Line),
      (∀ l ∈ source ++ decoded, (∃ raw, ofRaw? raw = some l) ∧ ¬ l.IsLabelled) →
        m.compareRaw (source.map text) (decoded.map text) = m.compare source decoded := by
  refine ⟨fun raw l h => ⟨fun hsame hl => ?_, ofRaw?_text_of_not_labelled h⟩,
    fun m source decoded hall => ?_⟩
  · exact absurd (count_colon_lt_of_labelled h hl hsame) (Nat.lt_irrefl _)
  · have hagain : ∀ ls : List Line, (∀ l ∈ ls, l ∈ source ++ decoded) →
        ofRaws (ls.map text) = ls := by
      intro ls hls
      unfold ofRaws
      rw [List.filterMap_map]
      have hsome : ∀ l ∈ ls, (ofRaw? ∘ text) l = some l := by
        intro l hl
        obtain ⟨⟨raw, hraw⟩, hlabel⟩ := hall l (hls l hl)
        exact ofRaw?_text_of_not_labelled hraw hlabel
      rw [List.filterMap_congr hsome, List.filterMap_some]
    unfold Matcher.compareRaw
    rw [hagain source fun l hl => List.mem_append_left _ hl,
      hagain decoded fun l hl => List.mem_append_right _ hl]

/-- A label and a comment are left out once, and a segment override stays. -/
theorem relisting_agrees_on_override :
    let load := ofParts "mov" ["ax", ""]
    let move := ofParts "es:" ["movsb"]
    (ofRaw? "Start: Mov ,Ax, ; load" = some (ofParts "mov" ["", "ax", ""]) ∧
      ofRaw? (ofParts "mov" ["", "ax", ""]).text = some (ofParts "mov" ["", "ax", ""])) ∧
    Matcher.standard.compareRaw [load.text, move.text] [load.text] =
      Matcher.standard.compare [load, move] [load] := by
  intro load move
  have hlisted : ofRaw? "Start: Mov ,Ax, ; load" = some (ofParts "mov" ["", "ax", ""]) := by
    decide +kernel
  obtain ⟨hagain, hcompare⟩ := relisting_agrees
  refine ⟨⟨hlisted, (hagain _ _ hlisted).mpr (by decide)⟩,
    hcompare Matcher.standard [load, move] [load] fun l hl => ?_⟩
  have hload : ofRaw? "MOV ax," = some load := by decide +kernel
  have hmove : ofRaw? "ES: MOVSB" = some move := by decide +kernel
  simp only [List.mem_append, List.mem_cons, List.not_mem_nil, or_false] at hl
  rcases hl with (rfl | rfl) | rfl
  · exact ⟨⟨_, hload⟩, by decide⟩
  · exact ⟨⟨_, hmove⟩, by decide⟩
  · exact ⟨⟨_, hload⟩, by decide⟩

/-- Of two labels in front of an instruction the second one is left.  Listed again it is dropped as
well, and a comparison of raw lines does not see it. -/
theorem second_label_dropped_when_relisted :
    let l := ofParts "b:" ["nop"]
    let nop := ofParts "nop" []
    ofRaw? "a: b: nop" = some l ∧ ofRaw? l.text = some nop ∧ nop ≠ l ∧
      (Matcher.standard.compareRaw [l.text] [nop.text]).verdict = .matched ∧
        (Matcher.standard.compare [l] [nop]).verdict ≠ .matched := by
  decide +kernel

end AsmPair.Line
