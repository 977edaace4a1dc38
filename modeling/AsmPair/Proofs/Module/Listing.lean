import AsmPair.Comparison.Verdict
import AsmPair.Proofs.Module.Source

/-!
# Modules and their listings

A module that was composed, read back as a listing and cut at its frame is what was composed: the
instructions in lower case, in order, and the fillers after them.  Composer, reader and frame
recognition agree on this for every entry label that settings accept.

## Main definitions

* `Form.IsListable` — the mnemonics that a listing can hold.
* `AsmModule.ReadsAs` — what is read of a module.

## Main results

* `readsAs_of_body` — modules are read as what is read of their instructions.
* `composed_modules_read_back` — every composed module is read as its instructions.
-/

namespace AsmPair

open Text

/-! ### What is read of a module -/

/-- A module is read as its instructions: they are the body of its listing up to the fillers, no
other line is a processor directive than the one that the feature needs, and the body alone matches
the listing line by line. -/
structure AsmModule.ReadsAs (m : AsmModule) (lines : List Line) : Prop where
  /-- There is one line for each instruction. -/
  instructions_eq : m.instructions = lines.length
  /-- The body of the listing are the lines, and the fillers. -/
  body_eq : (framed m.entryLabel (Line.listing m.source)).body =
    lines ++ List.replicate 4 fillerLine
  /-- The processor directives are the one that the feature needs. -/
  processors_eq :
    ((Line.listing m.source).filter fun l => FrameLine.processors.contains l.mnemonic) =
      m.feature.directive?.toList.map fun d => .ofParts (lowered d) []
  /-- The body alone matches the listing. -/
  compare_eq : (Matcher.ofLabel m.entryLabel).compare (Line.listing m.source)
      (lines ++ List.replicate 4 fillerLine) =
    ⟨.matched, List.replicate (lines.length + 4) .equal⟩

section ReadsAs

variable {m : AsmModule} {lines : List Line} {label : String}

theorem space_not_mem_lowered_label (h : isEntryLabel label = true) :
    ' ' ∉ (lowered label).toList := by
  have hplain := plain_of_isEntryLabel h
  rw [Line.toList_lowered hplain.ascii]
  apply not_mem_map_toLower (by decide) hplain.ascii
  intro hmem
  exact absurd ((isWord_of_isEntryLabel h).not_blank ' ' hmem) (by decide)

/-- Fillers after lines outside of a frame are outside of it as well. -/
theorem unframed_append_fillers (hlabel : isEntryLabel label = true)
    (h : ∀ l ∈ lines, l.Unframed label) :
    ∀ l ∈ lines ++ List.replicate 4 fillerLine, l.Unframed label := by
  have hfiller : fillerLine.Unframed label :=
    unframed_of_mnemonic (space_not_mem_lowered_label hlabel) (by decide) (by decide)
  intro l hl
  rcases List.mem_append.mp hl with hl | hl
  · exact h l hl
  · rw [(List.mem_replicate.mp hl).2]
    exact hfiller

/-- Such lines have no frame, as they end in a filler. -/
theorem isFrameless_append_fillers (hlabel : isEntryLabel label = true)
    (h : ∀ l ∈ lines, l.Unframed label) :
    IsFrameless label (lines ++ List.replicate 4 fillerLine) := by
  refine ⟨fun l hl => unframed_append_fillers hlabel h l (List.mem_of_head? hl), fun l hl => ?_⟩
  rw [List.getLast?_append_of_ne_nil _ (by simp)] at hl
  cases hl
  decide

theorem ne_label_of_no_colon {t : String} (h : ':' ∉ t.toList) :
    t ≠ lowered label ++ ":" := by
  rintro rfl
  apply h
  rw [String.toList_append]
  exact List.mem_append_right _ List.mem_cons_self

/-- A label that is kept is recognized as the entry label, and it is no processor directive. -/
theorem recognizes_keptLabel? : ∀ e ∈ keptLabel? label,
    FrameLine.recognizes label e .entryLabel = true ∧
      FrameLine.processors.contains e.mnemonic = false := by
  intro e he
  unfold keptLabel? at he
  split at he
  · cases he
    refine ⟨beq_self_eq_true _, ?_⟩
    rw [Bool.eq_false_iff]
    intro hmem
    have hcolon : ∀ t ∈ FrameLine.processors, ':' ∉ t.toList := by decide
    exact ne_label_of_no_colon (hcolon _ (List.contains_iff_mem.mp hmem)) rfl
  · cases he

/-- A directive is recognized as one. -/
theorem recognizes_directiveLine? (f : Feature) : ∀ d ∈ directiveLine? f,
    FrameLine.recognizes label d .processor = true := by
  cases f <;> simp only [FrameLine.recognizes] <;> decide

/-- Of the lines of a module only the directive is a processor directive. -/
theorem filter_processors_listing (feature : Feature)
    (hlines : ∀ l ∈ lines, l.Unframed label) :
    (framePrologue ++ (keptLabel? label).toList ++ (directiveLine? feature).toList ++ lines ++
        [endsLine, endLine label]).filter (fun l => FrameLine.processors.contains l.mnemonic) =
      (directiveLine? feature).toList := by
  -- part by part: only the third part can hold a processor directive
  have hprologue : framePrologue.filter (fun l => FrameLine.processors.contains l.mnemonic) = [] :=
    by decide
  have hkept : (keptLabel? label).toList.filter
      (fun l => FrameLine.processors.contains l.mnemonic) = [] := by
    rw [List.filter_eq_nil_iff]
    intro l hl
    rw [(recognizes_keptLabel? l (Option.mem_toList.mp hl)).2]
    exact Bool.false_ne_true
  have hdirective : (directiveLine? feature).toList.filter
      (fun l => FrameLine.processors.contains l.mnemonic) = (directiveLine? feature).toList := by
    rw [List.filter_eq_self]
    intro l hl
    exact @recognizes_directiveLine? label feature l (Option.mem_toList.mp hl)
  have hbody : lines.filter (fun l => FrameLine.processors.contains l.mnemonic) = [] := by
    rw [List.filter_eq_nil_iff]
    intro l hl
    have hprocessor : FrameLine.processors.contains l.mnemonic = false := hlines l hl .processor
    rw [hprocessor]
    exact Bool.false_ne_true
  have hend : [endsLine, endLine label].filter
      (fun l => FrameLine.processors.contains l.mnemonic) = [] := rfl
  rw [List.filter_append, List.filter_append, List.filter_append, List.filter_append, hprologue,
    hkept, hdirective, hbody, hend, List.append_nil, List.append_nil]
  rfl

/-- A body without its frame matches the listing that it is the body of, line by line. -/
theorem compare_body_eq {rules : List Rule} {listing : List Line}
    (hframed : (framed label listing).body = lines) (hlines : framed label lines = ⟨0, lines⟩) :
    (Matcher.mk rules label).compare listing lines =
      ⟨.matched, List.replicate lines.length .equal⟩ := by
  unfold Matcher.compare
  simp only [hframed, hlines, walk_self]
  rfl

/-- **Instructions that are no part of a frame are what a module is read as.** -/
theorem readsAs_of_body (hlabel : isEntryLabel m.entryLabel = true) (htitle : OneLine m.title)
    (hbody : ∀ s ∈ m.body, OneLine s) (hlines : m.body.map Line.ofRaw? = lines.map some)
    (hunframed : ∀ l ∈ lines, l.Unframed m.entryLabel) : m.ReadsAs lines := by
  have hread : Line.ofRaws m.body = lines := by
    have hmap : (m.body.map Line.ofRaw?).filterMap id = lines := by
      rw [hlines, List.filterMap_map]
      exact List.filterMap_some
    rwa [List.filterMap_map] at hmap
  have hlisting := listing_source hlabel htitle hbody hread
  have hspace := space_not_mem_lowered_label hlabel
  have hall := unframed_append_fillers hlabel hunframed
  have hframeless := isFrameless_append_fillers hlabel hunframed
  have hframed : (framed m.entryLabel (Line.listing m.source)).body =
      lines ++ List.replicate 4 fillerLine := by
    have hprologue := isPrologue_framePrologue (fun e he => (recognizes_keptLabel? e he).1)
      (@recognizes_directiveLine? m.entryLabel m.feature)
    have hepilogue : IsEpilogue [endsLine, endLine m.entryLabel] :=
      ⟨some endsLine, some (endLine m.entryLabel), rfl, by rintro l ⟨⟩; rfl, by rintro l ⟨⟩; rfl⟩
    rw [hlisting, framed_append hspace hprologue hframeless hepilogue]
  refine ⟨?_, hframed, ?_, ?_⟩
  · have hlength := congrArg List.length hlines
    rwa [List.length_map, List.length_map] at hlength
  · rw [hlisting, filter_processors_listing m.feature hall]
    unfold directiveLine?
    rw [Option.toList_map]
  · have hcompare : (Matcher.ofLabel m.entryLabel).compare (Line.listing m.source)
        (lines ++ List.replicate 4 fillerLine) = _ :=
      compare_body_eq hframed (framed_of_isFrameless hspace hframeless)
    rwa [List.length_append, List.length_replicate] at hcompare

end ReadsAs

/-! ### Composed modules -/

/-- A form whose mnemonic a listing can hold: lead words and one other word that together do not
begin a line of a frame. -/
structure Form.IsListable (f : Form) : Prop where
  /-- The mnemonic is read back as it is. -/
  mnemonic : Line.IsMnemonic f.mnemonic
  /-- No line of a frame has the mnemonic. -/
  not_frame : lowered f.mnemonic ∉ FrameLine.mnemonics

theorem isListable_iff {f : Form} : f.IsListable ↔ Line.IsMnemonic f.mnemonic ∧
    String.ofList (f.mnemonic.toList.map Char.toLower) ∉ FrameLine.mnemonics := by
  have hlower : Line.IsMnemonic f.mnemonic →
      lowered f.mnemonic = String.ofList (f.mnemonic.toList.map Char.toLower) := by
    intro h
    rw [← Line.toList_lowered h.ascii, String.ofList_toList]
  constructor
  · intro h
    exact ⟨h.mnemonic, hlower h.mnemonic ▸ h.not_frame⟩
  · rintro ⟨h, hframe⟩
    exact ⟨h, (hlower h).symm ▸ hframe⟩

instance (f : Form) : Decidable f.IsListable := decidable_of_iff _ isListable_iff.symm

/-- The mnemonics of the standard catalog, lead words included, can be read back. -/
theorem isListable_of_mem_standard : ∀ f ∈ Catalog.standard.forms, f.IsListable := by
  decide +kernel

/-- What is read of an instruction of a form. -/
def Form.line (f : Form) (row : List String) : Line :=
  .ofParts (lowered f.mnemonic) (row.map lowered)

section Composed

variable {f : Form} {label : String}

/-- An instruction of a form is no part of a frame. -/
theorem unframed_line (hlabel : isEntryLabel label = true) (hf : f.IsListable)
    (row : List String) : (f.line row).Unframed label := by
  refine unframed_of_mnemonic (space_not_mem_lowered_label hlabel) ?_ hf.not_frame
  rw [Form.line, Line.mnemonic_ofParts, Line.toList_lowered hf.mnemonic.ascii]
  exact not_mem_map_toLower (by decide) hf.mnemonic.ascii hf.mnemonic.not_colon

/-- The title of a form that was read is one line. -/
theorem oneLine_title (hf : f.IsRead) : OneLine f.title := by
  have hshorthand : ∀ t ∈ Template.written, OneLine t.shorthand := by decide
  unfold Form.title Form.titleOf
  split
  · exact oneLine_of_tidy hf.tidy_mnemonic
  · refine oneLine_append (oneLine_append (oneLine_of_tidy hf.tidy_mnemonic) (by decide)) ?_
    apply oneLine_intercalate
    intro s hs
    obtain ⟨t, ht, rfl⟩ := List.mem_map.mp hs
    exact hshorthand t (hf.mem_written t ht)

theorem oneLine_bareTitle (feature : Feature) :
    OneLine (feature.label ++ " instructions without operands") := by
  cases feature <;> decide

variable {c : Composer}

/-- A module of a form is read as its combinations. -/
theorem readsAs_shard (hlabel : isEntryLabel c.entryLabel = true) (hf : f.IsRead)
    (hl : f.IsListable) (name : String) {rows : List (List String)}
    (hrows : ∀ row ∈ rows, row ∈ f.rows) :
    (c.shard f name rows).ReadsAs (rows.map f.line) := by
  have hplain : ∀ row ∈ rows, ∀ op ∈ row, Plain op.toList :=
    fun row hrow => Form.plain_of_mem_rows hf (hrows row hrow)
  apply readsAs_of_body
  · exact hlabel
  · exact oneLine_title hf
  · intro s hs
    obtain ⟨row, hrow, rfl⟩ := List.mem_map.mp hs
    exact oneLine_instruction hf.tidy_mnemonic (hplain row hrow)
  · rw [Composer.shard, List.map_map, List.map_map]
    apply List.map_congr_left
    intro row hrow
    exact ofRaw?_instruction hl.mnemonic hf.tidy_mnemonic (hplain row hrow)
  · intro l hl'
    obtain ⟨row, -, rfl⟩ := List.mem_map.mp hl'
    exact unframed_line hlabel hl row

/-- A module of instructions without operands is read as their mnemonics. -/
theorem readsAs_bareModule (hlabel : isEntryLabel c.entryLabel = true) (feature : Feature)
    {forms : List Form} (hforms : ∀ f ∈ forms, f.IsRead ∧ f.IsListable) :
    (c.bareModule feature forms).ReadsAs (forms.map (·.line [])) := by
  apply readsAs_of_body
  · exact hlabel
  · exact oneLine_bareTitle feature
  · intro s hs
    obtain ⟨f, hf, rfl⟩ := List.mem_map.mp hs
    exact oneLine_append (by decide) (oneLine_of_tidy (hforms f hf).1.tidy_mnemonic)
  · rw [Composer.bareModule, List.map_map, List.map_map]
    apply List.map_congr_left
    intro f hf
    exact ofRaw?_bare (hforms f hf).2.mnemonic (hforms f hf).1.tidy_mnemonic
  · intro l hl
    obtain ⟨f, hf, rfl⟩ := List.mem_map.mp hl
    exact unframed_line hlabel (hforms f hf).2 []

/-- **Composer, reader and frame recognition agree.**  Under every entry label that settings
accept and every capacity, each module of a form is read as its batch of combinations, and a module
of instructions without operands as their mnemonics; in the standard catalog this covers every
form. -/
theorem composed_modules_read_back (hlabel : isEntryLabel c.entryLabel = true) :
    (∀ (f : Form) (ms : List AsmModule), f.IsRead → f.IsListable → c.compose f = .ok ms →
      List.Forall₂ (fun m rows => m.entryLabel = c.entryLabel ∧
        m.body = rows.map (Composer.instruction f.mnemonic) ∧ m.ReadsAs (rows.map f.line))
        ms (c.batches f)) ∧
    (∀ (feature : Feature) (forms : List Form), (∀ f ∈ forms, f.IsRead ∧ f.IsListable) →
      (c.bareModule feature forms).entryLabel = c.entryLabel ∧
        (c.bareModule feature forms).ReadsAs (forms.map (·.line []))) ∧
    ∀ f ∈ Catalog.standard.forms, f.IsRead ∧ f.IsListable := by
  refine ⟨?_, ?_, ?_⟩
  · intro f ms hf hl h
    have hshard := (Composer.forall₂_shard_of_compose h).flip
    have hmem := (List.forall₂_and_left _ _).mpr ⟨fun rows hrows => hrows, hshard⟩
    refine hmem.flip.imp ?_
    rintro m rows ⟨hrows, name, rfl⟩
    exact ⟨rfl, rfl, readsAs_shard hlabel hf hl name
      fun row hrow => Composer.mem_rows_of_mem_batches hrows hrow⟩
  · intro feature forms hforms
    exact ⟨rfl, readsAs_bareModule hlabel feature hforms⟩
  · intro f hf
    exact ⟨Catalog.isRead_of_mem_standard f hf, isListable_of_mem_standard f hf⟩

/-- A segment register as entry label: its line is kept, and still no part of the body. -/
theorem segment_label_reads_back :
    let c := Composer.ofCapacity 1 "cs"
    let f : Form :=
      { mnemonic := "ENTER", templates := [.immediate .word, .immediate .unsignedByte],
        feature := .cpu286 }
    isEntryLabel "cs" = true ∧ (keptLabel? "cs").isSome = true ∧
      ∃ m, c.compose f = .ok [m] ∧ m.ReadsAs [.ofParts "enter" ["7fffh", "99h"]] := by
  intro c f
  have hread : Form.read "enter" ["imm16", "imm8u"] .cpu286 = .ok f := rfl
  have hlabel : isEntryLabel "cs" = true := by decide
  have hms : c.compose f = .ok [c.shard f f.baseName [["7fffh", "99h"]]] := rfl
  have hline : f.line ["7fffh", "99h"] = .ofParts "enter" ["7fffh", "99h"] := by decide
  have hreads := (composed_modules_read_back (c := c) hlabel).1 f _ (Form.isRead_of_read hread)
    (by decide) hms
  obtain ⟨⟨-, -, hm⟩, -⟩ := List.forall₂_cons.mp hreads
  have hproduct : product f.sets = [["7fffh", "99h"]] := rfl
  rw [hproduct, List.map_singleton, hline] at hm
  exact ⟨hlabel, by decide, _, hms, hm⟩

end Composed

end AsmPair
