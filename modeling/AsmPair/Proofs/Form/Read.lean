import AsmPair.Catalog.Standard
import AsmPair.Proofs.Text.Case
import Mathlib.Data.List.Forall2

/-!
# Forms that were read

A form is made by reading a mnemonic and shorthands; a catalog then gives it its two numbers.
Such a form has templates that can be written and a mnemonic with single spaces.

## Main definitions

* `Form.IsRead` — what it means for a form to come from reading, its numbers aside.

## Main results

* `Form.IsRead.mem_written`, `Form.IsRead.tidy_mnemonic` — what reading ensures.
* `Catalog.isRead_of_mem_standard` — the forms of the standard catalog were read.
-/

namespace AsmPair

/-- A mapped result is a success only if the result itself is one. -/
@[simp] theorem map_eq_ok_iff {ε α β : Type} {g : α → β} {x : Except ε α} {b : β} :
    x.map g = .ok b ↔ ∃ a, x = .ok a ∧ g a = b := by
  cases x with
  | error e => simp [Except.map]
  | ok a => simp [Except.map]

/-- Where everything in a list has something that belongs to it, there is a list of these. -/
theorem exists_forall₂_iff {α β : Type} {R : α → β → Prop} {P : β → Prop} {xs : List α} :
    (∃ ys, List.Forall₂ R xs ys ∧ ∀ y ∈ ys, P y) ↔ ∀ x ∈ xs, ∃ y, R x y ∧ P y := by
  induction xs with
  | nil => simp
  | cons x xs ih =>
    rw [List.forall_mem_cons, ← ih]
    constructor
    · rintro ⟨ys, hys, hall⟩
      obtain ⟨y, zs, hy, hzs, rfl⟩ := List.forall₂_cons_left_iff.mp hys
      rw [List.forall_mem_cons] at hall
      exact ⟨⟨y, hy, hall.1⟩, zs, hzs, hall.2⟩
    · rintro ⟨⟨y, hy, hp⟩, ys, hys, hall⟩
      exact ⟨y :: ys, List.Forall₂.cons hy hys, List.forall_mem_cons.mpr ⟨hp, hall⟩⟩

/-! ### Reading -/

namespace Form

/-- A form that was read from a mnemonic and shorthands.  The two numbers may have been given to
it later. -/
def IsRead (f : Form) : Prop :=
  ∃ mnemonic shorthands,
    read mnemonic shorthands f.feature = .ok { f with index := 0, ordinal := 1 }

theorem read_eq_ok_iff {mnemonic : String} {shorthands : List String} {feature : Feature}
    {f : Form} : read mnemonic shorthands feature = .ok f ↔
      ∃ ts, readTemplates shorthands = .ok ts ∧
        f = { mnemonic := canonicalMnemonic mnemonic, templates := ts, feature } := by
  unfold read
  cases readTemplates shorthands with
  | error s => simp
  | ok ts => simp [eq_comm]

theorem isRead_of_read {mnemonic : String} {shorthands : List String} {feature : Feature}
    {f : Form} (h : read mnemonic shorthands feature = .ok f) : f.IsRead := by
  obtain ⟨ts, -, rfl⟩ := read_eq_ok_iff.mp h
  exact ⟨mnemonic, shorthands, h⟩

/-- Only templates that can be written are read. -/
theorem mem_written_of_readTemplates {ss : List String} {ts : List Template}
    (h : readTemplates ss = .ok ts) : ∀ t ∈ ts, t ∈ Template.written := by
  induction ss generalizing ts with
  | nil => cases h; simp
  | cons s ss ih =>
    obtain ⟨t, us, ht, hrest, rfl⟩ := readTemplates_cons_eq_ok_iff.mp h
    exact List.forall_mem_cons.mpr ⟨(Template.ofShorthand?_eq_some ht).1, ih hrest⟩

namespace IsRead

variable {f : Form}

theorem mem_written (h : f.IsRead) : ∀ t ∈ f.templates, t ∈ Template.written := by
  obtain ⟨mnemonic, shorthands, h⟩ := h
  obtain ⟨ts, hts, heq⟩ := read_eq_ok_iff.mp h
  have htemplates : f.templates = ts := congrArg templates heq
  rw [htemplates]
  exact mem_written_of_readTemplates hts

theorem tidy_mnemonic (h : f.IsRead) : Text.Tidy f.mnemonic.toList := by
  obtain ⟨mnemonic, shorthands, h⟩ := h
  obtain ⟨ts, -, heq⟩ := read_eq_ok_iff.mp h
  have hmnemonic : f.mnemonic = canonicalMnemonic mnemonic := congrArg Form.mnemonic heq
  rw [hmnemonic, canonicalMnemonic, String.toList_ofList]
  exact Text.tidy_upper (Text.tidy_spaced _)

end IsRead

end Form

/-! ### Catalogs -/

namespace Catalog

/-- A form is what one of the entries says, whatever its numbers are. -/
theorem exists_entry_of_mem_readFrom {index : Nat} {stems : List String} {es : List Entry}
    {fs : List Form} (h : readFrom index stems es = .ok fs) : ∀ f ∈ fs, ∃ e ∈ es,
      f.feature = e.feature ∧
        Form.read e.mnemonic e.shorthands e.feature = .ok { f with index := 0, ordinal := 1 } := by
  induction es generalizing index stems fs with
  | nil => cases h; simp
  | cons e es ih =>
    rw [readFrom] at h
    split at h
    · cases h
    · next g hg =>
      obtain ⟨ts, -, rfl⟩ := Form.read_eq_ok_iff.mp hg
      split at h
      all_goals
        obtain ⟨gs, hgs, rfl⟩ := map_eq_ok_iff.mp h
        intro f hf
        rcases List.mem_cons.mp hf with rfl | hf
        · exact ⟨e, List.mem_cons_self, rfl, hg⟩
        · obtain ⟨d, hd, hread⟩ := ih hgs f hf
          exact ⟨d, List.mem_cons_of_mem e hd, hread⟩

/-- Reading entries makes forms that were read, whatever their numbers are. -/
theorem isRead_of_mem_readFrom {index : Nat} {stems : List String} {es : List Entry}
    {fs : List Form} (h : readFrom index stems es = .ok fs) : ∀ f ∈ fs, f.IsRead := by
  intro f hf
  obtain ⟨e, -, hfeature, hread⟩ := exists_entry_of_mem_readFrom h f hf
  exact ⟨e.mnemonic, e.shorthands, hfeature ▸ hread⟩

/-- The forms of the standard catalog were read. -/
theorem isRead_of_mem_standard : ∀ f ∈ standard.forms, f.IsRead := by
  have h := build_standardTables
  unfold build at h
  obtain ⟨fs, hfs, heq⟩ := map_eq_ok_iff.mp h
  rw [← heq]
  exact isRead_of_mem_readFrom hfs

end Catalog

end AsmPair
