import AsmPair.Proofs.Text.Fields
import AsmPair.Report.Csv
import Mathlib.Data.List.Forall2

/-!
# The columns of a report

A report in comma-separated values is read back as its header and a record of seven fields for each
module, in order.  Names of modules and lines may hold commas, quotes and line breaks.

## Main definitions

* `CsvReport.NamesKind`, `CsvReport.ShowsFront` — the fields that say how and at which lines two
  listings differ.
* `CsvReport.Describes` — the seven fields about a module.

## Main results

* `CsvReport.describes_fields` — the fields of a module describe it.
* `CsvReport.report_reads_back` — what is read back from a report.
-/

namespace AsmPair.CsvReport

/-- The names of the two kinds of mismatch. -/
inductive NamesKind : String → MismatchKind → Prop where
  | divergence : NamesKind "divergence" .divergence
  | incompleteStream : NamesKind "incomplete_stream" .incompleteStream

/-- A field shows the first of some lines, and nothing if there is none. -/
inductive ShowsFront : String → List Line → Prop where
  | none : ShowsFront "" []
  | some (l : Line) (ls : List Line) : ShowsFront l.text (l :: ls)

/-- A record describes the outcome for a module: its name and the verdict, and for a mismatch the
kind, the first line and the position on each side. -/
inductive Describes : List String → ModuleVerdict → Prop where
  /-- Without a mismatch the other fields are empty. -/
  | matched (name : String) : Describes [name, "matched", "", "", "", "", ""] ⟨name, .matched⟩
  /-- The positions are written in decimal. -/
  | mismatch (name : String) {m : Mismatch} {kind source decoded : String}
      (hkind : NamesKind kind m.kind) (hsource : ShowsFront source m.sourceRemainder)
      (hdecoded : ShowsFront decoded m.decodedRemainder) :
      Describes
        [name, "mismatch", kind, source, decoded, toString m.sourceIndex, toString m.decodedIndex]
        ⟨name, .mismatch m⟩

theorem namesKind_key (k : MismatchKind) : NamesKind k.key k := by
  cases k with
  | divergence => exact .divergence
  | incompleteStream => exact .incompleteStream

theorem showsFront_lineField (ls : List Line) : ShowsFront (lineField ls.head?) ls := by
  cases ls with
  | nil => exact .none
  | cons l ls => exact .some l ls

/-- The fields of a module describe it. -/
theorem describes_fields (v : ModuleVerdict) : Describes (fields v) v := by
  obtain ⟨name, verdict⟩ := v
  cases verdict with
  | matched => exact .matched name
  | mismatch m =>
    exact .mismatch name (namesKind_key m.kind) (showsFront_lineField m.sourceRemainder)
      (showsFront_lineField m.decodedRemainder)

theorem Describes.ne_nil {r : List String} {v : ModuleVerdict} (h : Describes r v) : r ≠ [] := by
  cases h <;> exact List.cons_ne_nil _ _

/-- **A report is read back** as its header and one record for each module, in order, that describes
the outcome for this module. -/
theorem report_reads_back (vs : List ModuleVerdict) :
    ∃ records,
      Text.Csv.read? (report vs) =
        some (["module", "verdict", "kind", "original_line", "decoded_line", "original_index",
          "decoded_index"] :: records) ∧
      List.Forall₂ Describes records vs := by
  refine ⟨vs.map fields, Text.Csv.read?_join_record ?_, ?_⟩
  · rw [List.forall_mem_cons]
    refine ⟨List.cons_ne_nil _ _, fun r hr => ?_⟩
    obtain ⟨v, -, rfl⟩ := List.mem_map.mp hr
    exact (describes_fields v).ne_nil
  · rw [List.forall₂_map_left_iff, List.forall₂_same]
    exact fun v _ => describes_fields v

end AsmPair.CsvReport
