import AsmPair.Proofs.Form.Read

/-!
# Numbering by stem

A catalog numbers the entries of its tables that are listed with operands: each one is numbered
among those of the same name stem, over all tables.  So a stem and a number belong to one form with
operands at most, and no number exceeds the count of the entries that share the stem.

## Main definitions

* `Form.stemOf` — the name stem of a mnemonic in any spelling.
* `Form.key` — what the modules of a form are named by.
* `Catalog.sharing` — how many entries of tables share a stem.

## Main results

* `Catalog.exists_form_of_build` — where the mnemonics of forms with operands come from.
* `Catalog.ordinal_le_sharing` — the number of a form is at most this.
* `Catalog.nodup_keys` — forms with operands have different keys.
-/

namespace AsmPair

/-! ### Stems and keys -/

namespace Form

/-- The name stem of a mnemonic in any spelling. -/
def stemOf (mnemonic : String) : String :=
  stem { mnemonic := canonicalMnemonic mnemonic, templates := [], feature := .cpu8086 }

/-- What the modules of a form are named by. -/
def key (f : Form) : String × Nat := (f.stem, f.ordinal)

theorem stem_of_read {mnemonic : String} {shorthands : List String} {feature : Feature} {f : Form}
    (h : read mnemonic shorthands feature = .ok f) : f.stem = stemOf mnemonic := by
  obtain ⟨ts, -, rfl⟩ := read_eq_ok_iff.mp h
  rfl

/-- A form that was read without operands has none. -/
theorem isBare_of_read_nil {mnemonic : String} {feature : Feature} {f : Form}
    (h : read mnemonic [] feature = .ok f) : f.isBare = true := by
  obtain ⟨ts, hts, rfl⟩ := read_eq_ok_iff.mp h
  cases hts
  rfl

end Form

namespace Catalog

/-! ### Reading entries -/

/-- Whether an entry is numbered by stem, and has the given one. -/
def sharesStem (stem : String) (e : Entry) : Bool := e.counted && Form.stemOf e.mnemonic == stem

/-- The stems after one more entry. -/
def stemsAfter (stems : List String) (e : Entry) : List String :=
  if e.counted then Form.stemOf e.mnemonic :: stems else stems

/-- The form of an entry with its numbers. -/
def numbered (index : Nat) (stems : List String) (e : Entry) (f : Form) : Form :=
  if e.counted then { f with index := index + 1, ordinal := stems.count f.stem + 1 }
  else { f with index := index + 1 }

variable {index : Nat} {stems : List String} {es : List Entry} {fs : List Form}

/-- The first entry is read and numbered, then the others. -/
theorem readFrom_cons_eq_ok_iff {e : Entry} : readFrom index stems (e :: es) = .ok fs ↔
    ∃ f gs, Form.read e.mnemonic e.shorthands e.feature = .ok f ∧
      readFrom (index + 1) (stemsAfter stems e) es = .ok gs ∧
      fs = numbered index stems e f :: gs := by
  rw [readFrom]
  cases hf : Form.read e.mnemonic e.shorthands e.feature with
  | error err => simp
  | ok f =>
    have hfound : (∃ f' gs, (Except.ok f : Except GenerationError Form) = .ok f' ∧
        readFrom (index + 1) (stemsAfter stems e) es = .ok gs ∧
          fs = numbered index stems e f' :: gs) ↔
        ∃ gs, readFrom (index + 1) (stemsAfter stems e) es = .ok gs ∧
          numbered index stems e f :: gs = fs := by
      constructor
      · rintro ⟨f', gs, hf', hgs, rfl⟩
        cases hf'
        exact ⟨gs, hgs, rfl⟩
      · rintro ⟨gs, hgs, rfl⟩
        exact ⟨f, gs, rfl, hgs, rfl⟩
    rw [hfound]
    unfold stemsAfter numbered
    rw [← Form.stem_of_read hf]
    cases e.counted with
    | false => exact map_eq_ok_iff
    | true => exact map_eq_ok_iff

/-- An entry counts for its own stem only, and only if it is numbered by stem. -/
theorem count_stemsAfter (stem : String) (stems : List String) (e : Entry) :
    (stemsAfter stems e).count stem =
      stems.count stem + if sharesStem stem e then 1 else 0 := by
  unfold stemsAfter sharesStem
  cases e.counted with
  | false => rfl
  | true => exact List.count_cons

/-- Entries that are not numbered by stem are listed without operands. -/
def BareUncounted (es : List Entry) : Prop := ∀ e ∈ es, e.counted = false → e.shorthands = []

/-- A form with operands comes from an entry that is numbered by stem. -/
theorem counted_of_read {e : Entry} {f : Form} (hbare : e.counted = false → e.shorthands = [])
    (h : Form.read e.mnemonic e.shorthands e.feature = .ok f) (hop : f.isBare = false) :
    e.counted = true := by
  by_contra hcounted
  rw [hbare (Bool.not_eq_true _ ▸ hcounted)] at h
  rw [Form.isBare_of_read_nil h] at hop
  cases hop

/-- The numbers do not change what a form accepts. -/
@[simp] theorem isBare_numbered (index : Nat) (stems : List String) (e : Entry) (f : Form) :
    (numbered index stems e f).isBare = f.isBare := by
  unfold numbered
  split <;> rfl

theorem key_numbered {e : Entry} (h : e.counted = true) (index : Nat) (stems : List String)
    (f : Form) : (numbered index stems e f).key = (f.stem, stems.count f.stem + 1) := by
  unfold numbered
  rw [if_pos h]
  rfl

/-- A form with operands is numbered after the earlier entries that share its stem, and not beyond
those that follow. -/
theorem ordinal_of_mem_readFrom (hbare : BareUncounted es) (h : readFrom index stems es = .ok fs)
    {f : Form} (hf : f ∈ fs) (hop : f.isBare = false) :
    stems.count f.stem < f.ordinal ∧
      f.ordinal ≤ stems.count f.stem + es.countP (sharesStem f.stem) := by
  induction es generalizing index stems fs with
  | nil =>
    cases h
    cases hf
  | cons e es ih =>
    obtain ⟨g, gs, hg, hgs, rfl⟩ := readFrom_cons_eq_ok_iff.mp h
    rw [List.countP_cons]
    rcases List.mem_cons.mp hf with rfl | hf
    · rw [isBare_numbered] at hop
      have hcounted := counted_of_read (hbare e List.mem_cons_self) hg hop
      obtain ⟨hstem, hordinal⟩ := Prod.mk.inj (key_numbered hcounted index stems g)
      have hshares : sharesStem g.stem e = true := by
        unfold sharesStem
        rw [hcounted, Form.stem_of_read hg, beq_self_eq_true]
        rfl
      rw [hstem, hordinal, if_pos hshares]
      omega
    · obtain ⟨hlt, hle⟩ := ih (fun d hd => hbare d (List.mem_cons_of_mem e hd)) hgs hf
      -- the entry in front counts before the others exactly if it shares their stem
      rw [count_stemsAfter] at hlt hle
      omega

/-- Forms with operands have different keys. -/
theorem nodup_keys_readFrom (hbare : BareUncounted es) (h : readFrom index stems es = .ok fs) :
    ((fs.filter (!·.isBare)).map Form.key).Nodup := by
  induction es generalizing index stems fs with
  | nil =>
    cases h
    exact List.nodup_nil
  | cons e es ih =>
    obtain ⟨g, gs, hg, hgs, rfl⟩ := readFrom_cons_eq_ok_iff.mp h
    have hrest : BareUncounted es := fun d hd => hbare d (List.mem_cons_of_mem e hd)
    rw [List.filter_cons, isBare_numbered]
    cases hop : g.isBare with
    | true => exact ih hrest hgs
    | false =>
      have hcounted := counted_of_read (hbare e List.mem_cons_self) hg hop
      refine List.nodup_cons.mpr ⟨fun hmem => ?_, ih hrest hgs⟩
      -- a later form of the stem is numbered after the first one
      obtain ⟨f, hf, hkey⟩ := List.mem_map.mp hmem
      obtain ⟨hf, hfop⟩ := List.mem_filter.mp hf
      obtain ⟨hlt, -⟩ := ordinal_of_mem_readFrom hrest hgs hf (by simpa using hfop)
      rw [key_numbered hcounted] at hkey
      obtain ⟨hstem, hordinal⟩ := Prod.mk.inj hkey
      unfold stemsAfter at hlt
      rw [if_pos hcounted, ← Form.stem_of_read hg, hstem, List.count_cons_self, hordinal] at hlt
      exact absurd hlt (Nat.lt_irrefl _)

/-! ### Catalogs -/

variable {tables : List Table} {catalog : Catalog}

/-- How many entries of the tables are listed with operands and share a stem. -/
def sharing (tables : List Table) (stem : String) : Nat :=
  (tables.flatMap Table.forms).countP fun f => Form.stemOf f.1 == stem

theorem bareUncounted_entries (tables : List Table) :
    BareUncounted (tables.flatMap Table.entries) := by
  intro e he hcounted
  obtain ⟨t, -, he⟩ := List.mem_flatMap.mp he
  rcases List.mem_append.mp he with he | he
  · obtain ⟨m, -, rfl⟩ := List.mem_map.mp he
    rfl
  · obtain ⟨f, -, rfl⟩ := List.mem_map.mp he
    cases hcounted

theorem countP_sharesStem_entries (tables : List Table) (stem : String) :
    (tables.flatMap Table.entries).countP (sharesStem stem) = sharing tables stem := by
  unfold sharing
  induction tables with
  | nil => rfl
  | cons t tables ih =>
    rw [List.flatMap_cons, List.countP_append, ih, List.flatMap_cons, List.countP_append]
    congr 1
    unfold Table.entries
    rw [List.countP_append, List.countP_map, List.countP_map]
    have hbare : t.bare.countP (sharesStem stem ∘ fun m => ⟨t.feature, m, [], false⟩) = 0 :=
      List.countP_eq_zero.mpr fun m _ => Bool.false_ne_true
    rw [hbare, Nat.zero_add]
    rfl

theorem readFrom_of_build (h : build tables = .ok catalog) :
    readFrom 0 [] (tables.flatMap Table.entries) = .ok catalog.forms := by
  obtain ⟨fs, hfs, rfl⟩ := map_eq_ok_iff.mp h
  exact hfs

/-- A form with operands has the mnemonic of an entry that is listed with operands. -/
theorem exists_form_of_build (h : build tables = .ok catalog) {f : Form} (hf : f ∈ catalog.forms)
    (hop : f.isBare = false) :
    ∃ entry ∈ tables.flatMap Table.forms, f.mnemonic = Form.canonicalMnemonic entry.1 := by
  obtain ⟨e, he, -, hread⟩ := exists_entry_of_mem_readFrom (readFrom_of_build h) f hf
  have hcounted := counted_of_read (bareUncounted_entries tables e he) hread hop
  obtain ⟨ts, -, heq⟩ := Form.read_eq_ok_iff.mp hread
  obtain ⟨t, ht, he⟩ := List.mem_flatMap.mp he
  rcases List.mem_append.mp he with he | he
  · obtain ⟨m, -, rfl⟩ := List.mem_map.mp he
    cases hcounted
  · obtain ⟨entry, hentry, rfl⟩ := List.mem_map.mp he
    exact ⟨entry, List.mem_flatMap.mpr ⟨t, ht, hentry⟩, congrArg Form.mnemonic heq⟩

/-- **No number exceeds the count of the entries that share the stem.** -/
theorem ordinal_le_sharing (h : build tables = .ok catalog) {f : Form} (hf : f ∈ catalog.forms)
    (hop : f.isBare = false) : f.ordinal ≤ sharing tables f.stem := by
  have hle := (ordinal_of_mem_readFrom (bareUncounted_entries tables) (readFrom_of_build h)
    hf hop).2
  rwa [List.count_nil, Nat.zero_add, countP_sharesStem_entries] at hle

/-- **Forms with operands have different keys.** -/
theorem nodup_keys (h : build tables = .ok catalog) :
    ((catalog.forms.filter (!·.isBare)).map Form.key).Nodup :=
  nodup_keys_readFrom (bareUncounted_entries tables) (readFrom_of_build h)

end Catalog

end AsmPair
