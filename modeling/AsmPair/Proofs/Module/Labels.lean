import AsmPair.Proofs.Module.Listing
import AsmPair.Proofs.Module.Naming
import AsmPair.Proofs.Settings.History

/-!
# The labels of a module

The source of a module defines two labels, the entry label at the top and the branch target between
the fillers, whatever instructions it holds.  They are different, and everything that names a label
is resolved by one definition, unless the settings give the entry label the very name of the branch
target; every other name that settings accept will do.

## Main definitions

* `definedLabel?` — the label that a raw line defines.
* `AsmModule.labels` — the labels that the source of a module defines.
* `AsmModule.Resolves` — each label that a module names is defined once.

## Main results

* `labels_of_body` — lines without labels leave a module with two labels.
* `Composer.cases_of_generate` — a generated module has a batch of one form or several mnemonics.
* `resolves_of_settings_iff` — which settings make modules whose labels are resolved.
-/

namespace AsmPair

open Text

/-! ### Definitions of labels -/

/-- The label that a raw line defines: the name in front of its first colon, if it begins with
one. -/
def definedLabel? (raw : String) : Option String :=
  match cut? (· == ':') (trim (Line.withoutComment raw.toList)) with
  | some (head, _) => if Line.isName head then some (String.ofList head) else none
  | none => none

/-- The labels that the source of a module defines, in order. -/
def AsmModule.labels (m : AsmModule) : List String := (linesOf m.source).filterMap definedLabel?

/-- The last word of a text. -/
def lastWord (s : String) : String := String.ofList ((words s.toList).getLastD [])

/-- The labels of a module are different, and the source defines each label that it names: those
that operands of branches go to, and the one where the last line starts the program. -/
structure AsmModule.Resolves (m : AsmModule) : Prop where
  /-- No label is defined twice. -/
  nodup : m.labels.Nodup
  /-- Branches go to one place. -/
  branch : ∀ reach, ∀ op ∈ (Template.branch reach).operands, m.labels.count (lastWord op) = 1
  /-- The program starts at one place. -/
  ending : ∃ raw ∈ (linesOf m.source).getLast?, (words raw.toList).head? = some "END".toList ∧
    m.labels.count (lastWord raw) = 1

/-! ### The labels of raw lines -/

/-- A line whose first word has no colon defines no label. -/
theorem definedLabel?_of_first_word {raw : String} {w : List Char} {ws : List (List Char)}
    (hwords : words raw.toList = w :: ws) (hcode : raw.toList.all Line.isCode = true)
    (hcolon : ':' ∉ w) : definedLabel? raw = none := by
  unfold definedLabel?
  rw [Line.withoutComment_of_all hcode]
  split
  · next head tail hcut =>
    rw [if_neg]
    intro hname
    obtain ⟨hne, hpart⟩ := Line.isLabelPart_of_isName hname
    rw [← words_trim] at hwords
    exact hcolon (Line.colon_mem_first_word hne hpart hcut hwords)
  · rfl

/-- The line of the entry label defines it. -/
theorem definedLabel?_entry {label : String} (h : isEntryLabel label = true) :
    definedLabel? (label ++ ":") = some label := by
  have hraw : (label ++ ":").toList = label.toList ++ [':'] := String.toList_append
  have hplain := plain_label_colon h
  have hname : Line.isName label.toList = true := by
    obtain ⟨c, cs, hcons, hstart, hchars⟩ := chars_of_isEntryLabel h
    rw [hcons, Line.isName, hstart, Bool.true_and, List.all_eq_true]
    exact fun d hd => (hchars d (List.mem_cons_of_mem c hd)).2
  unfold definedLabel?
  rw [hraw, Line.withoutComment_of_all (Line.all_isCode_of_plain hplain), hplain.tidy.trim_eq,
    cut?_label_colon h]
  simp only [hname, if_true, String.ofList_toList]

@[simp] theorem definedLabel?_title (title : String) :
    definedLabel? ("    ; " ++ title) = none := by
  have hraw : ("    ; " ++ title).toList = "    ; ".toList ++ title.toList := String.toList_append
  unfold definedLabel?
  rw [hraw]
  rfl

/-- The words of the last line are its keyword and the label. -/
theorem words_end_label {label : String} (h : isEntryLabel label = true) :
    words ("END " ++ label).toList = ["END".toList, label.toList] := by
  rw [words_end, words_of_isWord (isWord_of_isEntryLabel h)]

theorem definedLabel?_end {label : String} (h : isEntryLabel label = true) :
    definedLabel? ("END " ++ label) = none :=
  definedLabel?_of_first_word (words_end label) (all_isCode_end h) (by decide)

/-- An instruction defines no label, even if an operand has a segment override. -/
theorem definedLabel?_instruction {m : String} {ops : List String} (hm : Line.IsMnemonic m)
    (htidy : Tidy m.toList) (hops : ∀ op ∈ ops, Plain op.toList) :
    definedLabel? (Composer.instruction m ops) = none := by
  obtain ⟨w, ws, hwords, hcolon⟩ := hm.exists_first_word htidy
  have hfirst := words_instruction m ops
  rw [hwords, List.cons_append] at hfirst
  exact definedLabel?_of_first_word hfirst (all_instruction rfl rfl hm.all_isCode
    fun op hop => Line.all_isCode_of_plain (hops op hop)) hcolon

theorem definedLabel?_bare {m : String} (hm : Line.IsMnemonic m) (htidy : Tidy m.toList) :
    definedLabel? ("    " ++ m) = none := by
  obtain ⟨w, ws, hwords, hcolon⟩ := hm.exists_first_word htidy
  rw [← words_bare] at hwords
  exact definedLabel?_of_first_word hwords (all_isCode_bare hm) hcolon

/-! ### The labels of a source -/

section Labels

variable {m : AsmModule}

theorem filterMap_definedLabel?_opening (hlabel : isEntryLabel m.entryLabel = true) :
    m.opening.filterMap definedLabel? = [m.entryLabel] := by
  have hcommon : frameOpening.filterMap definedLabel? = [] := by decide +kernel
  have hentry : [m.entryLabel ++ ":"].filterMap definedLabel? = [m.entryLabel] :=
    List.filterMap_cons_some (definedLabel?_entry hlabel)
  have hdirective :
      (m.feature.directive?.toList.map ("    " ++ ·)).filterMap definedLabel? = [] := by
    cases m.feature <;> decide
  have htitle : ["    ; " ++ m.title, ""].filterMap definedLabel? = [] := by
    rw [List.filterMap_cons_none (definedLabel?_title m.title)]
    decide
  rw [AsmModule.opening_eq, List.filterMap_append, List.filterMap_append, List.filterMap_append,
    hcommon, hentry, hdirective, htitle]
  rfl

theorem filterMap_definedLabel?_closing (hlabel : isEntryLabel m.entryLabel = true) :
    m.closing.filterMap definedLabel? = [Template.targetLabel] := by
  have hcommon : frameClosing.filterMap definedLabel? = [Template.targetLabel] := by decide
  rw [AsmModule.closing_eq, List.filterMap_append, hcommon,
    List.filterMap_cons_none (definedLabel?_end hlabel)]
  rfl

/-- **Lines without labels leave a module with two labels**, the entry label and the branch target,
which are found in its source line by line. -/
theorem labels_of_body (hlabel : isEntryLabel m.entryLabel = true) (htitle : OneLine m.title)
    (hbody : ∀ s ∈ m.body, OneLine s ∧ definedLabel? s = none) :
    linesOf m.source = m.sourceLines ∧ m.labels = [m.entryLabel, Template.targetLabel] := by
  have hlines := linesOf_source hlabel htitle fun s hs => (hbody s hs).1
  have hnone : m.body.filterMap definedLabel? = [] :=
    List.filterMap_eq_nil_iff.mpr fun s hs => (hbody s hs).2
  refine ⟨hlines, ?_⟩
  unfold AsmModule.labels
  rw [hlines]
  unfold AsmModule.sourceLines
  rw [List.filterMap_append, List.filterMap_append, filterMap_definedLabel?_opening hlabel, hnone,
    filterMap_definedLabel?_closing hlabel]
  rfl

/-- Of two labels, the entry label and the branch target, each resolves what names it exactly if
they are different. -/
theorem resolves_iff (hlabel : isEntryLabel m.entryLabel = true)
    (hlines : linesOf m.source = m.sourceLines)
    (hlabels : m.labels = [m.entryLabel, Template.targetLabel]) :
    m.Resolves ↔ m.entryLabel ≠ Template.targetLabel := by
  constructor
  · intro h heq
    have hnodup := h.nodup
    rw [hlabels, heq] at hnodup
    exact absurd hnodup (by decide)
  · intro hne
    have hlast : (linesOf m.source).getLast? = some ("END " ++ m.entryLabel) := by
      rw [hlines]
      exact List.getLast?_append_of_ne_nil _ (List.cons_ne_nil _ _)
    have hword : lastWord ("END " ++ m.entryLabel) = m.entryLabel := by
      unfold lastWord
      rw [words_end_label hlabel]
      exact String.ofList_toList
    have hbranch : ∀ reach, ∀ op ∈ (Template.branch reach).operands,
        lastWord op = Template.targetLabel := by
      intro reach
      cases reach <;> decide
    refine ⟨?_, fun reach op hop => ?_, _, hlast, ?_, ?_⟩
    · rw [hlabels]
      exact List.nodup_cons.mpr ⟨by simpa using hne, List.nodup_singleton _⟩
    · rw [hbranch reach op hop, hlabels, List.count_cons_of_ne hne]
      exact List.count_singleton_self
    · rw [words_end_label hlabel]
      rfl
    · rw [hword, hlabels, List.count_cons_self, List.count_cons_of_ne hne.symm]
      rfl

end Labels

/-! ### Generated modules -/

section Generated

variable {c : Composer} {catalog : Catalog} {sel : Selection} {ms : List AsmModule} {m : AsmModule}

/-- **A generated module** holds combinations of one form of the catalog, or the mnemonics of
several. -/
theorem Composer.cases_of_generate (h : c.generate catalog sel = .ok ms) (hm : m ∈ ms) :
    (∃ f ∈ catalog.forms, ∃ name rows, m = c.shard f name rows ∧ ∀ row ∈ rows, row ∈ f.rows) ∨
      ∃ feature forms, m = c.bareModule feature forms ∧ ∀ f ∈ forms, f ∈ catalog.forms := by
  obtain ⟨fs, hfs, rfl⟩ := exists_blocks_of_generate h
  obtain ⟨feature, -, hm⟩ := List.mem_flatMap.mp hm
  have hpart : ∀ f ∈ Form.part fs feature, f ∈ catalog.forms :=
    fun f hf => hfs.subset (List.mem_of_mem_filter hf)
  rcases List.mem_append.mp hm with hm | hm
  · right
    unfold batch at hm
    split at hm
    · cases hm
    · exact ⟨feature, _, List.mem_singleton.mp hm, fun f hf => hpart f (List.mem_of_mem_filter hf)⟩
  · left
    obtain ⟨f, hf, hm⟩ := List.mem_flatMap.mp hm
    cases hcompose : c.compose f with
    | error e =>
      unfold modulesOf at hm
      rw [hcompose] at hm
      cases hm
    | ok block =>
      unfold modulesOf at hm
      rw [hcompose] at hm
      obtain ⟨rows, ⟨name, rfl⟩, hrows⟩ := exists_forall₂_iff.mp
        ⟨_, forall₂_shard_of_compose hcompose, fun rows hrows => hrows⟩ m hm
      exact ⟨f, hpart f (List.mem_of_mem_filter hf), name, rows, rfl,
        fun row hrow => mem_rows_of_mem_batches hrows hrow⟩

theorem Composer.labels_shard (hlabel : isEntryLabel c.entryLabel = true) {f : Form}
    (hf : f.IsRead) (hl : f.IsListable) (name : String) {rows : List (List String)}
    (hrows : ∀ row ∈ rows, row ∈ f.rows) :
    linesOf (c.shard f name rows).source = (c.shard f name rows).sourceLines ∧
      (c.shard f name rows).labels = [c.entryLabel, Template.targetLabel] := by
  have hbody : ∀ s ∈ (c.shard f name rows).body, OneLine s ∧ definedLabel? s = none := by
    intro s hs
    obtain ⟨row, hrow, rfl⟩ := List.mem_map.mp hs
    have hplain := Form.plain_of_mem_rows hf (hrows row hrow)
    exact ⟨oneLine_instruction hf.tidy_mnemonic hplain,
      definedLabel?_instruction hl.mnemonic hf.tidy_mnemonic hplain⟩
  exact labels_of_body hlabel (oneLine_title hf) hbody

theorem Composer.labels_bareModule (hlabel : isEntryLabel c.entryLabel = true) (feature : Feature)
    {forms : List Form} (hforms : ∀ f ∈ forms, f.IsRead ∧ f.IsListable) :
    linesOf (c.bareModule feature forms).source = (c.bareModule feature forms).sourceLines ∧
      (c.bareModule feature forms).labels = [c.entryLabel, Template.targetLabel] := by
  have hbody : ∀ s ∈ (c.bareModule feature forms).body, OneLine s ∧ definedLabel? s = none := by
    intro s hs
    obtain ⟨f, hf, rfl⟩ := List.mem_map.mp hs
    obtain ⟨hread, hl⟩ := hforms f hf
    exact ⟨oneLine_append (by decide) (oneLine_of_tidy hread.tidy_mnemonic),
      definedLabel?_bare hl.mnemonic hread.tidy_mnemonic⟩
  exact labels_of_body hlabel (oneLine_bareTitle feature) hbody

/-- The labels of a generated module, and that they are found in its source line by line. -/
theorem Composer.labels_of_generate (hlabel : isEntryLabel c.entryLabel = true)
    (hforms : ∀ f ∈ catalog.forms, f.IsRead ∧ f.IsListable)
    (h : c.generate catalog sel = .ok ms) (hm : m ∈ ms) : m.entryLabel = c.entryLabel ∧
      linesOf m.source = m.sourceLines ∧ m.labels = [m.entryLabel, Template.targetLabel] := by
  rcases cases_of_generate h hm with ⟨f, hf, name, rows, rfl, hrows⟩ | ⟨feature, forms, rfl, hmem⟩
  · obtain ⟨hread, hl⟩ := hforms f hf
    exact ⟨rfl, labels_shard hlabel hread hl name hrows⟩
  · exact ⟨rfl, labels_bareModule hlabel feature fun f hf => hforms f (hmem f hf)⟩

/-- **Which settings make modules whose labels are resolved.**  After any changes of settings, each
module of each selection from the standard catalog defines the entry label and the branch target and
no other label; every label that it names is resolved by one definition exactly if the two are not
the same name. -/
theorem resolves_of_settings_iff (cs : List SettingsChange)
    (h : (SettingsChange.after cs).composer.generate .standard sel = .ok ms) :
    ∀ m ∈ ms, m.labels = [(SettingsChange.after cs).entryLabel, Template.targetLabel] ∧
      (m.Resolves ↔ (SettingsChange.after cs).entryLabel ≠ Template.targetLabel) := by
  intro m hm
  have hlabel := (SettingsChange.isValid_after cs).isEntryLabel
  obtain ⟨hentry, hlines, hlabels⟩ := Composer.labels_of_generate hlabel
    (fun f hf => ⟨Catalog.isRead_of_mem_standard f hf, isListable_of_mem_standard f hf⟩) h hm
  have hentry : m.entryLabel = (SettingsChange.after cs).entryLabel := hentry
  rw [← hentry] at hlabel ⊢
  exact ⟨hlabels, resolves_iff hlabel hlines hlabels⟩

/-! ### A module with a branch -/

/-- The conditional jump on a carry, as the standard catalog has it. -/
def jumpOnCarry : Form :=
  { mnemonic := "JC", templates := [.branch .conditional], feature := .cpu8086, index := 114 }

/-- The module of the jump. -/
theorem generate_jumpOnCarry (c : Composer) :
    c.generate .standard ⟨some (.exactly "JC"), none⟩ =
      .ok [c.shard jumpOnCarry "JC01" [["_target"]]] := by
  have hselect : Catalog.standard.select ⟨some (.exactly "JC"), none⟩ = .ok [jumpOnCarry] := by
    decide +kernel
  rw [Composer.generate_of_select hselect]
  rfl

/-- A name that begins with that of the branch target will do. -/
theorem resolves_of_longer_label :
    let cs : List SettingsChange := [.parse "entry_label = cs", .set "entry_label" "_targets"]
    ∃ m, (SettingsChange.after cs).composer.generate .standard ⟨some (.exactly "JC"), none⟩ =
      .ok [m] ∧ m.labels = ["_targets", "_target"] ∧ m.Resolves := by
  intro cs
  have hafter : SettingsChange.after cs = { entryLabel := "_targets" } := by decide +kernel
  have hgenerate := generate_jumpOnCarry (SettingsChange.after cs).composer
  obtain ⟨hlabels, hresolves⟩ := resolves_of_settings_iff cs hgenerate _ List.mem_cons_self
  rw [hafter] at hlabels hresolves
  exact ⟨_, hgenerate, hafter ▸ hlabels, hafter ▸ hresolves.mpr (by decide)⟩

/-- The name of the branch target is accepted as entry label; then the module of the jump defines it
twice, and what the jump names is resolved by neither definition. -/
theorem target_label_defined_twice :
    ∃ t m, Settings.default.set "entry_label" "_target" = .ok t ∧
      t.composer.generate .standard ⟨some (.exactly "JC"), none⟩ = .ok [m] ∧
      m.labels = ["_target", "_target"] ∧ ¬ m.labels.Nodup ∧
      "    JC     _target" ∈ linesOf m.source ∧
      m.labels.count (lastWord "    JC     _target") = 2 := by
  let t : Settings := { entryLabel := "_target" }
  have hset : Settings.default.set "entry_label" "_target" = .ok t := by decide +kernel
  have hgenerate := generate_jumpOnCarry t.composer
  obtain ⟨-, hlines, hlabels⟩ := Composer.labels_of_generate (by decide)
    (fun f hf => ⟨Catalog.isRead_of_mem_standard f hf, isListable_of_mem_standard f hf⟩)
    hgenerate List.mem_cons_self
  refine ⟨t, _, hset, hgenerate, hlabels, ?_, ?_, ?_⟩
  · rw [hlabels]
    decide
  · rw [hlines]
    decide
  · rw [hlabels]
    decide

end Generated

end AsmPair
