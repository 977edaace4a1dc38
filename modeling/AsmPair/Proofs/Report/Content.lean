import AsmPair.Proofs.Text.Values
import AsmPair.Report.Json
import Mathlib.Data.List.Forall2

/-!
# What a report in JSON tells

A report in JSON is the text of a value, as one document or with one value a line, so it tells as
much as the value: for each module its name and the verdict, and for a mismatch the kind, the
positions, the texts of the lines from there on, and the rule, if there is one.  It does not tell
where the mnemonic of a line ends.

## Main definitions

* `Mismatch.Agrees`, `ModuleVerdict.Agrees` — outcomes that a report does not tell apart.
* `JsonReport.moduleValue`, `JsonReport.reportValue` — the values of which reports are the texts.

## Main results

* `JsonReport.text_moduleValue`, `JsonReport.text_reportValue` — reports are texts of values.
* `JsonReport.linesOf_reportLines` — the lines of a report with one value a line.
* `JsonReport.reports_determine_verdicts` — equal reports are about equal outcomes.
-/

namespace AsmPair

/-! ### Outcomes that a report does not tell apart -/

/-- Two mismatches agree if they are of one kind, at the same positions, in lines of the same texts,
and after the same rule or none. -/
structure Mismatch.Agrees (m n : Mismatch) : Prop where
  /-- The kinds are the same. -/
  kind : m.kind = n.kind
  /-- The positions in the sources are the same. -/
  sourceIndex : m.sourceIndex = n.sourceIndex
  /-- The positions in the decoded listings are the same. -/
  decodedIndex : m.decodedIndex = n.decodedIndex
  /-- The next lines of the sources have the same texts. -/
  sourceRemainder : m.sourceRemainder.map Line.text = n.sourceRemainder.map Line.text
  /-- The next lines of the decoded listings have the same texts. -/
  decodedRemainder : m.decodedRemainder.map Line.text = n.decodedRemainder.map Line.text
  /-- The rules are the same, or there is none in both. -/
  rule : m.rule? = n.rule?

/-- The outcomes for two modules agree if these have one name and match both or have mismatches that
agree. -/
inductive ModuleVerdict.Agrees : ModuleVerdict → ModuleVerdict → Prop where
  | matched (name : String) : Agrees ⟨name, .matched⟩ ⟨name, .matched⟩
  | mismatch (name : String) {m n : Mismatch} (h : m.Agrees n) :
      Agrees ⟨name, .mismatch m⟩ ⟨name, .mismatch n⟩

theorem MismatchKind.key_injective : Function.Injective MismatchKind.key := by
  intro k l h
  cases k <;> cases l <;> first | rfl | exact absurd h (by decide)

namespace JsonReport

open Text.Json

/-! ### Reports as values -/

/-- The texts of lines. -/
def linesValue (ls : List Line) : Value := .array (ls.map fun l => .string l.text)

/-- The members that describe a mismatch. -/
def mismatchValues (m : Mismatch) : List (String × Value) :=
  [("kind", .string m.kind.key),
    ("original_index", .number m.sourceIndex),
    ("decoded_index", .number m.decodedIndex),
    ("original_remainder", linesValue m.sourceRemainder),
    ("decoded_remainder", linesValue m.decodedRemainder)] ++
  m.rule?.toList.map fun rule => ("rule", .string rule)

/-- The members that describe the outcome for a module. -/
def verdictValues : Verdict → List (String × Value)
  | .matched => [("verdict", .string "matched")]
  | .mismatch m => ("verdict", .string "mismatch") :: mismatchValues m

/-- The value of a module. -/
def moduleValue (v : ModuleVerdict) : Value :=
  .object (("module", .string v.name) :: verdictValues v.verdict)

/-- The value of a report in one document. -/
def reportValue (vs : List ModuleVerdict) : Value :=
  .object
    [("compared", .number vs.length),
      ("mismatched", .number (mismatchCount vs)),
      ("modules", .array (vs.map moduleValue))]

@[simp] theorem text_linesValue (layout : Layout) (ls : List Line) :
    (linesValue ls).text layout = layout.array (ls.map fun l => quoted l.text) := by
  rw [linesValue, Value.text, List.map_map]
  congr 1
  refine List.map_congr_left fun l _ => ?_
  rw [Function.comp_apply, Value.text]

/-- The object of a module is the text of its value. -/
@[simp] theorem text_moduleValue (layout : Layout) (v : ModuleVerdict) :
    (moduleValue v).text layout = moduleObject layout v := by
  obtain ⟨name, verdict⟩ := v
  rw [moduleValue, moduleObject, Value.text]
  congr 1
  cases verdict with
  | matched => simp [verdictValues, verdictMembers, Value.text]
  | mismatch m =>
    cases hrule : m.rule? <;>
      simp [verdictValues, verdictMembers, mismatchValues, mismatchMembers, Value.text,
        number, hrule]

/-- A report in one document is the text of its value. -/
@[simp] theorem text_reportValue (vs : List ModuleVerdict) :
    (reportValue vs).text (.spread 0) = report vs := by
  have hmodules : ∀ layout : Layout, (vs.map moduleValue).map (Value.text layout) =
      vs.map (moduleObject layout) := by
    intro layout
    rw [List.map_map]
    exact List.map_congr_left fun v _ => text_moduleValue layout v
  simp [reportValue, report, Value.text, number, hmodules]

/-! ### Values and outcomes -/

@[simp] theorem linesValue_inj {ls ls' : List Line} :
    linesValue ls = linesValue ls' ↔ ls.map Line.text = ls'.map Line.text := by
  have hstring : Function.Injective Value.string := fun s t h => Value.string.inj h
  have hmap : ∀ ks : List Line,
      ks.map (fun l => Value.string l.text) = (ks.map Line.text).map Value.string := by
    intro ks
    rw [List.map_map]
    rfl
  rw [linesValue, linesValue, Value.array.injEq, hmap, hmap]
  exact (List.map_injective_iff.mpr hstring).eq_iff

theorem mismatchValues_inj {m n : Mismatch} :
    mismatchValues m = mismatchValues n ↔ m.Agrees n := by
  have hkey : m.kind.key = n.kind.key ↔ m.kind = n.kind := MismatchKind.key_injective.eq_iff
  have hrule : (m.rule?.toList.map fun rule => ("rule", Value.string rule)) =
      (n.rule?.toList.map fun rule => ("rule", Value.string rule)) ↔ m.rule? = n.rule? := by
    cases m.rule? <;> cases n.rule? <;> simp
  simp only [mismatchValues, List.cons_append, List.nil_append, List.cons.injEq, Prod.mk.injEq,
    true_and, Value.string.injEq, Value.number.injEq, linesValue_inj, hkey, hrule]
  constructor
  · rintro ⟨hkind, hsource, hdecoded, hlines, hlines', hr⟩
    exact ⟨hkind, hsource, hdecoded, hlines, hlines', hr⟩
  · intro h
    exact ⟨h.kind, h.sourceIndex, h.decodedIndex, h.sourceRemainder, h.decodedRemainder, h.rule⟩

/-- **The value of a module tells its outcome**, as far as a report tells it. -/
theorem moduleValue_inj {v w : ModuleVerdict} : moduleValue v = moduleValue w ↔ v.Agrees w := by
  constructor
  · intro h
    obtain ⟨name, verdict⟩ := v
    obtain ⟨name', verdict'⟩ := w
    simp only [moduleValue, Value.object.injEq, List.cons.injEq, Prod.mk.injEq, true_and,
      Value.string.injEq] at h
    obtain ⟨rfl, h⟩ := h
    cases verdict with
    | matched =>
      cases verdict' with
      | matched => exact .matched name
      | mismatch n => simp [verdictValues] at h
    | mismatch m =>
      cases verdict' with
      | matched => simp [verdictValues] at h
      | mismatch n => exact .mismatch name (mismatchValues_inj.mp (List.cons.inj h).2)
  · intro h
    cases h with
    | matched name => rfl
    | mismatch name h => rw [moduleValue, moduleValue, verdictValues, verdictValues,
        mismatchValues_inj.mpr h]

theorem map_moduleValue_inj {vs ws : List ModuleVerdict} :
    vs.map moduleValue = ws.map moduleValue ↔ List.Forall₂ ModuleVerdict.Agrees vs ws := by
  rw [← List.forall₂_eq_eq_eq, List.forall₂_map_left_iff, List.forall₂_map_right_iff]
  simp only [moduleValue_inj]

/-- The object of a module determines its value. -/
theorem map_moduleObject_inj (layout : Layout) {vs ws : List ModuleVerdict} :
    vs.map (moduleObject layout) = ws.map (moduleObject layout) ↔
      vs.map moduleValue = ws.map moduleValue := by
  have htext : Function.Injective (Value.text layout) := fun _ _ => Value.text_inj
  have hmap : ∀ us : List ModuleVerdict,
      us.map (moduleObject layout) = (us.map moduleValue).map (Value.text layout) := by
    intro us
    rw [List.map_map]
    exact List.map_congr_left fun v _ => (text_moduleValue layout v).symm
  rw [hmap, hmap]
  exact (List.map_injective_iff.mpr htext).eq_iff

/-! ### Reports -/

/-- An object on one line has no line break. -/
theorem not_break_of_mem_moduleObject (v : ModuleVerdict) :
    '\n' ∉ (moduleObject .compact v).toList ∧ '\r' ∉ (moduleObject .compact v).toList := by
  rw [← text_moduleValue]
  constructor
  · intro h
    exact absurd (Value.not_control_of_mem_text _ _ h) (by decide)
  · intro h
    exact absurd (Value.not_control_of_mem_text _ _ h) (by decide)

theorem reportLines_eq_join (vs : List ModuleVerdict) :
    reportLines vs = String.join ((vs.map (moduleObject .compact)).map (· ++ "\n")) := by
  rw [reportLines, List.map_map]
  rfl

/-- The lines of a report with one object a line are these objects. -/
@[simp] theorem linesOf_reportLines (vs : List ModuleVerdict) :
    Text.linesOf (reportLines vs) = vs.map (moduleObject .compact) := by
  rw [reportLines_eq_join]
  refine Text.linesOf_join fun l hl => ?_
  obtain ⟨v, -, rfl⟩ := List.mem_map.mp hl
  exact not_break_of_mem_moduleObject v

theorem reportLines_inj {vs ws : List ModuleVerdict} :
    reportLines vs = reportLines ws ↔ vs.map moduleValue = ws.map moduleValue := by
  rw [← map_moduleObject_inj .compact]
  constructor
  · intro h
    rw [← linesOf_reportLines, h, linesOf_reportLines]
  · intro h
    rw [reportLines_eq_join, h, reportLines_eq_join]

theorem mismatchCount_eq_of_agrees {vs ws : List ModuleVerdict}
    (h : List.Forall₂ ModuleVerdict.Agrees vs ws) : mismatchCount vs = mismatchCount ws := by
  unfold mismatchCount
  induction h with
  | nil => rfl
  | cons hv _ ih =>
    rw [List.countP_cons, List.countP_cons, ih]
    cases hv <;> rfl

/-- The counts of a report in one document tell no more than its modules. -/
theorem report_inj {vs ws : List ModuleVerdict} :
    report vs = report ws ↔ vs.map moduleValue = ws.map moduleValue := by
  rw [← text_reportValue, ← text_reportValue]
  constructor
  · intro h
    have hvalue := Value.text_inj h
    simp only [reportValue, Value.object.injEq, List.cons.injEq, Prod.mk.injEq,
      Value.array.injEq] at hvalue
    exact hvalue.2.2.1.2
  · intro h
    have hagrees := map_moduleValue_inj.mp h
    rw [reportValue, reportValue, h, hagrees.length_eq, mismatchCount_eq_of_agrees hagrees]

/-- **Reports in JSON determine the outcomes.**  Two reports of one layout are equal exactly if the
outcomes agree module by module, and the report with one object a line has a line for each module,
ended by the only line feed in it. -/
theorem reports_determine_verdicts (vs ws : List ModuleVerdict) :
    (reportLines vs = reportLines ws ↔ List.Forall₂ ModuleVerdict.Agrees vs ws) ∧
    (report vs = report ws ↔ List.Forall₂ ModuleVerdict.Agrees vs ws) ∧
    ∃ lines : List String, lines.length = vs.length ∧
      reportLines vs = String.join (lines.map (· ++ "\n")) ∧ ∀ l ∈ lines, '\n' ∉ l.toList := by
  refine ⟨reportLines_inj.trans map_moduleValue_inj, report_inj.trans map_moduleValue_inj,
    vs.map (moduleObject .compact), List.length_map _, reportLines_eq_join vs, fun l hl => ?_⟩
  obtain ⟨v, -, rfl⟩ := List.mem_map.mp hl
  exact (not_break_of_mem_moduleObject v).1

end JsonReport

end AsmPair
