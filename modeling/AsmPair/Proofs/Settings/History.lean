import AsmPair.Proofs.Settings.Values

/-!
# Settings that are held

A run holds its settings and changes them in place: one of them by its name, or all of them by what
a text or the contents of a file make.  A change that fails is found out before anything is written,
so it leaves all settings as they were.  What is held after any changes has a capacity that is not
zero and an entry label that an assembler takes for one name.

## Main definitions

* `Settings.assign` — the change of one setting, in place.
* `SettingsChange`, `SettingsChange.apply` — the changes of the settings that a run holds.
* `Settings.IsSetTo` — what a change of one setting leaves of each of them.
* `Settings.IsValid` — settings that modules can be composed with.
* `SettingsChange.after` — the settings after some changes.

## Main results

* `Settings.run_assign` — a change in place is the change of a value, or nothing.
* `Settings.isSetTo_of_set` — what is set is the named setting, and no other.
* `SettingsChange.state_of_error` — a change that fails leaves the settings as they were.
* `settings_stay_valid` — the settings that a run can hold.
-/

namespace AsmPair

/-! ### Changes -/

/-- Changes of settings in place.  What was written before an error stays written. -/
abbrev Holding := EStateM SettingsError Settings

/-- Change one setting in place. -/
def Settings.assign (name value : String) : Holding Unit :=
  match SettingName.ofText? name with
  | none => pure ()
  | some .shardCapacity =>
    match capacity? value with
    | some n => modify fun s => { s with shardCapacity := n }
    | none => throw (.invalidValue name value)
  | some .entryLabel =>
    if isEntryLabel value then modify fun s => { s with entryLabel := value }
    else throw (.invalidValue name value)
  | some .format =>
    match ReportFormat.ofName? value with
    | some f => modify fun s => { s with format := f }
    | none => throw (.invalidValue name value)
  | some .parallel => modify fun s => { s with parallel := isOn value }

/-- Hold the settings that were read, if they could be read. -/
def Settings.hold (r : Settings.Reading) : Holding Unit :=
  match r.result with
  | .ok t => modify fun _ => t
  | .error e => throw e

/-- A change of the settings that a run holds. -/
inductive SettingsChange where
  /-- One setting is changed. -/
  | set (name value : String) : SettingsChange
  /-- All settings are read from a text. -/
  | parse (text : String) : SettingsChange
  /-- All settings are read from the contents of a file, if it can be read. -/
  | load (contents : Except FileFailure String) : SettingsChange

namespace SettingsChange

/-- Make a change. -/
def apply : SettingsChange → Holding Unit
  | set name value => Settings.assign name value
  | parse text => Settings.hold (Settings.parse text)
  | load contents => Settings.hold (Settings.load contents)

/-- The settings that are held after a change, whether it fails or not. -/
def step (s : Settings) (c : SettingsChange) : Settings :=
  match c.apply.run s with
  | .ok _ t => t
  | .error _ t => t

/-- The settings that are held after some changes, if the first ones were the default. -/
def after (cs : List SettingsChange) : Settings := cs.foldl step .default

end SettingsChange

/-! ### What one change does -/

namespace Settings

variable {s t : Settings} {name value : String}

/-- A change in place is the change of a value, and nothing if that is an error. -/
theorem run_assign (name value : String) (s : Settings) :
    (assign name value).run s =
      match s.set name value with
      | .ok t => .ok () t
      | .error e => .error e s := by
  unfold assign set
  match SettingName.ofText? name with
  | none | some .parallel => rfl
  | some .shardCapacity =>
    dsimp only
    cases capacity? value <;> rfl
  | some .entryLabel =>
    dsimp only
    cases isEntryLabel value <;> rfl
  | some .format =>
    dsimp only
    cases ReportFormat.ofName? value <;> rfl

/-- What is read is held, and nothing changes if that is an error. -/
theorem run_hold (r : Reading) (s : Settings) :
    (hold r).run s =
      match r.result with
      | .ok t => .ok () t
      | .error e => .error e s := by
  unfold hold
  cases r.result <;> rfl

/-- What a change of one setting leaves of each of them: the one that is named has the value that
was given, and the others have the values that they had before. -/
structure IsSetTo (name? : Option SettingName) (value : String) (s t : Settings) : Prop where
  /-- The capacity. -/
  shardCapacity_eq : if name? = some .shardCapacity then capacity? value = some t.shardCapacity
    else t.shardCapacity = s.shardCapacity
  /-- The entry label. -/
  entryLabel_eq : if name? = some .entryLabel then isEntryLabel value = true ∧ t.entryLabel = value
    else t.entryLabel = s.entryLabel
  /-- The format. -/
  format_eq : if name? = some .format then ReportFormat.ofName? value = some t.format
    else t.format = s.format
  /-- Whether to compare in parallel. -/
  parallel_eq : if name? = some .parallel then t.parallel = isOn value
    else t.parallel = s.parallel

/-- **What is set is the named setting, and no other.** -/
theorem isSetTo_of_set (h : s.set name value = .ok t) :
    IsSetTo (SettingName.ofText? name) value s t := by
  unfold set at h
  split at h
  · next hname =>
    rw [hname]
    cases h
    exact ⟨rfl, rfl, rfl, rfl⟩
  · next hname =>
    rw [hname]
    split at h
    · next n hn =>
      cases h
      exact ⟨hn, rfl, rfl, rfl⟩
    · cases h
  · next hname =>
    rw [hname]
    split at h
    · next hlabel =>
      cases h
      exact ⟨rfl, ⟨hlabel, rfl⟩, rfl, rfl⟩
    · cases h
  · next hname =>
    rw [hname]
    split at h
    · next f hf =>
      cases h
      exact ⟨rfl, rfl, hf, rfl⟩
    · cases h
  · next hname =>
    rw [hname]
    cases h
    exact ⟨rfl, rfl, rfl, rfl⟩

/-- A name that stands for no setting changes nothing. -/
theorem IsSetTo.eq_of_none (h : IsSetTo none value s t) : t = s := by
  obtain ⟨hcapacity, hlabel, hformat, hparallel⟩ := h
  cases s
  cases t
  simp only [reduceCtorEq, if_false] at *
  subst_vars
  rfl

/-! ### Valid settings -/

/-- Settings that modules can be composed with. -/
structure IsValid (s : Settings) : Prop where
  /-- A module holds at least one outer operand. -/
  capacity_pos : 0 < s.shardCapacity
  /-- The capacity is a number of 64 bits. -/
  capacity_lt : s.shardCapacity < Text.wordLimit
  /-- The entry label is a label. -/
  isEntryLabel : isEntryLabel s.entryLabel = true

theorem isValid_default : default.IsValid := ⟨by decide, by decide, by decide⟩

end Settings

theorem bounds_of_capacity? {value : String} {n : Nat} (h : capacity? value = some n) :
    0 < n ∧ n < Text.wordLimit := by
  have hcapacity := capacity?_eq_some_iff.mp h
  exact ⟨hcapacity.pos, hcapacity.lt⟩

namespace Settings

variable {s t : Settings} {name value : String}

theorem IsValid.set (hs : s.IsValid) (h : s.set name value = .ok t) : t.IsValid := by
  obtain ⟨hcapacity, hlabel, -, -⟩ := isSetTo_of_set h
  have hbounds : 0 < t.shardCapacity ∧ t.shardCapacity < Text.wordLimit := by
    split at hcapacity
    · exact bounds_of_capacity? hcapacity
    · rw [hcapacity]
      exact ⟨hs.capacity_pos, hs.capacity_lt⟩
  refine ⟨hbounds.1, hbounds.2, ?_⟩
  split at hlabel
  · rw [hlabel.2]
    exact hlabel.1
  · rw [hlabel]
    exact hs.isEntryLabel

/-- Lines that are read over valid settings make valid settings. -/
theorem IsValid.readLines {count : Nat} {raws : List (List Char)} (hs : s.IsValid)
    (h : (readLines count s raws).result = .ok t) : t.IsValid := by
  induction raws generalizing count s with
  | nil =>
    cases h
    exact hs
  | cons raw raws ih =>
    rw [Settings.readLines] at h
    split at h
    · exact ih hs h
    · cases h
    · split at h
      · cases h
      · next u hu => exact ih (hs.set hu) h

theorem isValid_of_parse {text : String} (h : (parse text).result = .ok t) : t.IsValid :=
  isValid_default.readLines h

theorem isValid_of_load {contents : Except FileFailure String}
    (h : (load contents).result = .ok t) : t.IsValid := by
  cases contents with
  | error cause => cases h
  | ok text => exact isValid_of_parse h

/-- Valid settings call for a composer of just their capacity. -/
theorem IsValid.capacity_composer (hs : s.IsValid) : s.composer.capacity = s.shardCapacity :=
  Nat.max_eq_left hs.capacity_pos

end Settings

/-! ### What many changes do -/

namespace SettingsChange

variable {s t : Settings} {c : SettingsChange}

/-- A change that fails leaves the settings as they were. -/
theorem state_of_error {e : SettingsError} (h : c.apply.run s = .error e t) : t = s := by
  unfold apply at h
  split at h
  · rw [Settings.run_assign] at h
    split at h <;> cases h
    rfl
  · rw [Settings.run_hold] at h
    split at h <;> cases h
    rfl
  · rw [Settings.run_hold] at h
    split at h <;> cases h
    rfl

/-- A change of valid settings that succeeds leaves valid settings. -/
theorem isValid_of_ok (hs : s.IsValid) (h : c.apply.run s = .ok () t) : t.IsValid := by
  unfold apply at h
  split at h
  · rw [Settings.run_assign] at h
    split at h
    · next hset =>
      cases h
      exact hs.set hset
    · cases h
  · rw [Settings.run_hold] at h
    split at h
    · next hparse =>
      cases h
      exact Settings.isValid_of_parse hparse
    · cases h
  · rw [Settings.run_hold] at h
    split at h
    · next hload =>
      cases h
      exact Settings.isValid_of_load hload
    · cases h

/-- A change of valid settings leaves valid settings, whether it fails or not. -/
theorem isValid_step (hs : s.IsValid) (c : SettingsChange) : (step s c).IsValid := by
  unfold step
  split
  · next h => exact isValid_of_ok hs h
  · next h =>
    rw [state_of_error h]
    exact hs

/-- **The settings that a run can hold are valid.** -/
theorem isValid_after (cs : List SettingsChange) : (after cs).IsValid := by
  have hrun : ∀ (cs : List SettingsChange) (s : Settings), s.IsValid →
      (cs.foldl step s).IsValid := by
    intro cs
    induction cs with
    | nil => exact fun _ hs => hs
    | cons c cs ih => exact fun s hs => ih (step s c) (isValid_step hs c)
  exact hrun cs .default Settings.isValid_default

end SettingsChange

/-- **The settings that a run can hold.**  After any changes, failed ones among them, the capacity
is a number of 64 bits that is not zero, the entry label is a letter or an underscore and then
letters, digits and underscores, and modules are composed with just that capacity.  A further change
that fails leaves all settings as they are; one that succeeds in setting one of them by its name
leaves the others as they are, and all of them if the name stands for none. -/
theorem settings_stay_valid (cs : List SettingsChange) :
    let s := SettingsChange.after cs
    (0 < s.shardCapacity ∧ s.shardCapacity < Text.wordLimit) ∧
      (∃ d ds, s.entryLabel.toList = d :: ds ∧ (d.isAlpha = true ∨ d = '_') ∧
        ∀ d ∈ ds, d.isAlphanum = true ∨ d = '_') ∧
      s.composer.capacity = s.shardCapacity ∧
      (∀ (c : SettingsChange) (e : SettingsError) (t : Settings),
        c.apply.run s = .error e t → t = s) ∧
      ∀ (name value : String) (t : Settings),
        (SettingsChange.set name value).apply.run s = .ok () t →
          Settings.IsSetTo (SettingName.ofText? name) value s t ∧
            (SettingName.ofText? name = none → t = s) := by
  intro s
  have hs : s.IsValid := SettingsChange.isValid_after cs
  refine ⟨⟨hs.capacity_pos, hs.capacity_lt⟩, isEntryLabel_iff.mp hs.isEntryLabel,
    hs.capacity_composer, fun c e t h => SettingsChange.state_of_error h, ?_⟩
  intro name value t h
  have hset : s.set name value = .ok t := by
    rw [SettingsChange.apply, Settings.run_assign] at h
    split at h
    · next u hu =>
      cases h
      exact hu
    · cases h
  have hto := Settings.isSetTo_of_set hset
  refine ⟨hto, fun hnone => ?_⟩
  rw [hnone] at hto
  exact hto.eq_of_none

/-- Two changes of four fail, one of them after a line that would have set the format. -/
theorem settings_stay_valid_of_failures :
    let cs : List SettingsChange := [.set "Shard-Capacity" "+7", .set "entry_label" "9x",
      .set "ENTRY-LABEL" "begin", .parse "format=csv\ncapacity=18446744073709551616"]
    let s := SettingsChange.after cs
    s = { shardCapacity := 7, entryLabel := "begin" } ∧
      0 < s.shardCapacity ∧ s.composer.capacity = s.shardCapacity ∧
      (SettingsChange.set "capacity" "0").apply.run s =
        .error (.invalidValue "capacity" "0") s := by
  intro cs s
  have hs : s = { shardCapacity := 7, entryLabel := "begin" } := by decide +kernel
  obtain ⟨⟨hpos, -⟩, -, hcomposer, hfailed, -⟩ := settings_stay_valid cs
  refine ⟨hs, hpos, hcomposer, ?_⟩
  have hrun : ∃ t, (SettingsChange.set "capacity" "0").apply.run s =
      .error (.invalidValue "capacity" "0") t := by
    rw [SettingsChange.apply, Settings.run_assign]
    exact ⟨s, rfl⟩
  obtain ⟨t, ht⟩ := hrun
  rw [ht, hfailed _ _ t ht]

end AsmPair
