import AsmPair.Proofs.Settings.Values
import AsmPair.Proofs.Text.Joined
import Mathlib.Data.List.Induction
import Mathlib.Logic.Relation

/-!
# The last line wins

A settings text is read line by line.  A line that is blank or starts with `#` or `;` says nothing;
any other line must be an assignment, and the value that it gives to a setting must be one that the
setting can have.  The first line at fault is the error.  Without one, each setting has the value
that the last line naming it gives, or else its default.  So lines that name different settings may
change places, and lines that set nothing may stand anywhere.

## Main definitions

* `Settings.Assigns`, `Settings.Names`, `Settings.SetsNothing` — what lines do.
* `Settings.IsFault`, `Settings.IsSound` — what can be wrong with a line.
* `Settings.write` — the settings after one line.
* `Settings.IsLastOf` — the settings that have their last values in some lines.
* `Settings.Edit` — the changes of lines that make no difference.

## Main results

* `Settings.readLines_eq_ok_iff` — sound lines are written one after the other.
* `Settings.readLines_eq_error_iff` — the first line at fault is the error.
* `Settings.isLastOf_foldl_write` — what is written is the last value of each setting.
* `Settings.settings_text_is_last_wins` — the settings that a text makes.
-/

namespace AsmPair

namespace Settings

/-! ### Lines -/

/-- Whether a line has to be an assignment. -/
def isSignificant (raw : List Char) : Bool :=
  !(Text.trim raw).isEmpty && (Text.trim raw).head? != some '#' && (Text.trim raw).head? != some ';'

/-- A significant line, with what stands on either side of its first equals sign. -/
def IsAssignment (raw : List Char) (name value : String) : Prop :=
  isSignificant raw = true ∧ ∃ before after, Text.trim raw = before ++ '=' :: after ∧ '=' ∉ before ∧
    name = String.ofList (Text.trim before) ∧ value = String.ofList (Text.trim after)

/-- A line that gives a setting a value. -/
def Assigns (raw : List Char) (setting : SettingName) (value : String) : Prop :=
  ∃ name, IsAssignment raw name value ∧ setting.IsNamed name

/-- A line that gives a setting some value. -/
def Names (raw : List Char) (setting : SettingName) : Prop := ∃ value, Assigns raw setting value

/-- A line that is blank, a comment, or an assignment to a name that stands for no setting. -/
def SetsNothing (raw : List Char) : Prop :=
  isSignificant raw = false ∨
    ∃ name value, IsAssignment raw name value ∧ ∀ setting : SettingName, ¬ setting.IsNamed name

/-- What is wrong with a line that has the given number. -/
inductive IsFault (number : Nat) (raw : List Char) : SettingsError → Prop where
  /-- A significant line has no equals sign. -/
  | noEquals : isSignificant raw = true → '=' ∉ Text.trim raw →
      IsFault number raw (.invalidLine number (String.ofList (Text.trim raw)))
  /-- A setting cannot have the value. -/
  | badValue {name value : String} {setting : SettingName} : IsAssignment raw name value →
      setting.IsNamed name → ¬ setting.Accepts value →
      IsFault number raw (.invalidValue name value)

/-- A line that is not at fault, whatever number it has. -/
def IsSound (raw : List Char) : Prop := ∀ number err, ¬ IsFault number raw err

section Directives

variable {raw : List Char} {name value line : String}

theorem directive_eq (raw : List Char) : directive raw =
    if isSignificant raw then
      match Text.cut? (· == '=') (Text.trim raw) with
      | none => .invalid (String.ofList (Text.trim raw))
      | some (name, value) =>
        .assign (String.ofList (Text.trim name)) (String.ofList (Text.trim value))
    else .nothing := by
  have hswap : ∀ (a b c : Bool) (x y : Directive),
      (if a || b || c then x else y) = if !a && !b && !c then y else x := by
    intro a b c x y
    cases a <;> cases b <;> cases c <;> rfl
  exact hswap _ _ _ _ _

@[simp] theorem directive_eq_nothing_iff :
    directive raw = .nothing ↔ isSignificant raw = false := by
  rw [directive_eq]
  cases isSignificant raw with
  | false => simp
  | true => cases Text.cut? (· == '=') (Text.trim raw) <;> simp

theorem directive_eq_invalid_iff : directive raw = .invalid line ↔
    isSignificant raw = true ∧ '=' ∉ Text.trim raw ∧ line = String.ofList (Text.trim raw) := by
  rw [directive_eq, ← Text.cut?_beq_eq_none_iff]
  cases isSignificant raw with
  | false => simp
  | true => cases Text.cut? (· == '=') (Text.trim raw) <;> simp [eq_comm]

@[simp] theorem directive_eq_assign_iff :
    directive raw = .assign name value ↔ IsAssignment raw name value := by
  rw [directive_eq]
  unfold IsAssignment
  simp only [← and_assoc, ← Text.cut?_beq_eq_some_iff]
  cases isSignificant raw with
  | false => simp
  | true =>
    cases Text.cut? (· == '=') (Text.trim raw) with
    | none => simp
    | some r =>
      obtain ⟨before, after⟩ := r
      simp [eq_comm, and_assoc]

end Directives

/-! ### Writing one line -/

/-- The settings with one of them changed.  A value that it cannot have leaves it. -/
def put (s : Settings) (value : String) : SettingName → Settings
  | .shardCapacity => { s with shardCapacity := (capacity? value).getD s.shardCapacity }
  | .entryLabel => { s with entryLabel := value }
  | .format => { s with format := (ReportFormat.ofName? value).getD s.format }
  | .parallel => { s with parallel := isOn value }

section Others

variable {other : SettingName}

@[simp] theorem shardCapacity_put (h : other ≠ .shardCapacity) (s : Settings) (value : String) :
    (s.put value other).shardCapacity = s.shardCapacity := by
  cases other <;> first | exact absurd rfl h | simp only [put]

@[simp] theorem entryLabel_put (h : other ≠ .entryLabel) (s : Settings) (value : String) :
    (s.put value other).entryLabel = s.entryLabel := by
  cases other <;> first | exact absurd rfl h | simp only [put]

@[simp] theorem format_put (h : other ≠ .format) (s : Settings) (value : String) :
    (s.put value other).format = s.format := by
  cases other <;> first | exact absurd rfl h | simp only [put]

@[simp] theorem parallel_put (h : other ≠ .parallel) (s : Settings) (value : String) :
    (s.put value other).parallel = s.parallel := by
  cases other <;> first | exact absurd rfl h | simp only [put]

end Others

/-- A change of one setting puts the value there, if the setting can have it. -/
theorem set_eq (s : Settings) (name value : String) : s.set name value =
    match SettingName.ofText? name with
    | none => .ok s
    | some setting =>
      if setting.accepts value then .ok (s.put value setting)
      else .error (.invalidValue name value) := by
  unfold set
  cases SettingName.ofText? name with
  | none => rfl
  | some setting =>
    cases setting with
    | shardCapacity => cases h : capacity? value <;> simp [SettingName.accepts, put, h]
    | entryLabel => rfl
    | format => cases h : ReportFormat.ofName? value <;> simp [SettingName.accepts, put, h]
    | parallel => simp [SettingName.accepts, put]

/-- Values of different settings are put in either order. -/
theorem put_comm {m n : SettingName} (h : m ≠ n) (s : Settings) (v w : String) :
    (s.put v m).put w n = (s.put w n).put v m := by
  cases m <;> cases n <;> first | exact absurd rfl h | simp only [put]

/-- The settings after a line. -/
def write (s : Settings) (raw : List Char) : Settings :=
  match directive raw with
  | .assign name value =>
    match SettingName.ofText? name with
    | some setting => s.put value setting
    | none => s
  | _ => s

/-- What is wrong with a line that has the given number, if anything is. -/
def fault? (number : Nat) (raw : List Char) : Option SettingsError :=
  match directive raw with
  | .nothing => none
  | .invalid line => some (.invalidLine number line)
  | .assign name value =>
    match SettingName.ofText? name with
    | some setting => if setting.accepts value then none else some (.invalidValue name value)
    | none => none

variable {raw : List Char} {number : Nat} {err : SettingsError}

@[simp] theorem fault?_eq_some_iff : fault? number raw = some err ↔ IsFault number raw err := by
  unfold fault?
  constructor
  · intro h
    split at h
    · cases h
    · next line hline =>
      obtain ⟨hsignificant, hequals, rfl⟩ := directive_eq_invalid_iff.mp hline
      cases h
      exact .noEquals hsignificant hequals
    · next name value hassign =>
      split at h
      · next setting hsetting =>
        split at h
        · cases h
        · next haccepts =>
          cases h
          exact .badValue (directive_eq_assign_iff.mp hassign)
            (SettingName.ofText?_eq_some_iff.mp hsetting)
            (mt SettingName.accepts_iff.mpr haccepts)
      · cases h
  · rintro (⟨hsignificant, hequals⟩ | ⟨hassign, hnamed, haccepts⟩)
    · rw [directive_eq_invalid_iff.mpr ⟨hsignificant, hequals, rfl⟩]
    · have hsetting := SettingName.ofText?_eq_some_iff.mpr hnamed
      rw [← SettingName.accepts_iff] at haccepts
      rw [directive_eq_assign_iff.mpr hassign]
      simp [hsetting, haccepts]

/-- Whether a line is at fault does not depend on its number. -/
theorem isSound_iff (number : Nat) : IsSound raw ↔ fault? number raw = none := by
  have hnumber : ∀ n, fault? n raw = none ↔ fault? number raw = none := by
    intro n
    unfold fault?
    cases directive raw <;> simp
  rw [← forall_congr' hnumber |>.trans (forall_const Nat)]
  exact forall_congr' fun n => by simp [Option.eq_none_iff_forall_ne_some]

/-! ### Reading lines -/

variable {count : Nat} {s t : Settings} {raws : List (List Char)}

/-- Reading stops at a line that is at fault and writes any other. -/
theorem result_readLines_cons (count : Nat) (s : Settings) (raw : List Char)
    (raws : List (List Char)) : (readLines count s (raw :: raws)).result =
      match fault? (count + 1) raw with
      | some err => .error err
      | none => (readLines (count + 1) (s.write raw) raws).result := by
  rw [readLines]
  unfold fault? write
  cases directive raw with
  | nothing | invalid => rfl
  | assign name value =>
    simp only [set_eq]
    cases SettingName.ofText? name with
    | none => rfl
    | some setting => cases h : setting.accepts value <;> simp [h]

theorem readLines_eq_ok_iff : (readLines count s raws).result = .ok t ↔
    (∀ r ∈ raws, IsSound r) ∧ t = raws.foldl write s := by
  induction raws generalizing count s with
  | nil => simp [readLines, eq_comm]
  | cons raw raws ih =>
    rw [result_readLines_cons, List.forall_mem_cons, isSound_iff (count + 1)]
    cases fault? (count + 1) raw with
    | some err => simp
    | none =>
      rw [List.foldl_cons]
      simp [ih]

theorem readLines_eq_error_iff : (readLines count s raws).result = .error err ↔
    ∃ before raw after, raws = before ++ raw :: after ∧ (∀ r ∈ before, IsSound r) ∧
      IsFault (count + before.length + 1) raw err := by
  induction raws generalizing count s with
  | nil => simp [readLines]
  | cons raw raws ih =>
    rw [result_readLines_cons]
    constructor
    · intro h
      split at h
      · next err' hfault =>
        cases h
        exact ⟨[], raw, raws, rfl, List.forall_mem_nil _, fault?_eq_some_iff.mp hfault⟩
      · next hsound =>
        obtain ⟨before, r, after, rfl, hbefore, hr⟩ := ih.mp h
        refine ⟨raw :: before, r, after, rfl, ?_, ?_⟩
        · exact List.forall_mem_cons.mpr ⟨(isSound_iff _).mpr hsound, hbefore⟩
        · rwa [List.length_cons, Nat.add_comm before.length, ← Nat.add_assoc]
    · rintro ⟨before, r, after, hsplit, hbefore, hr⟩
      cases before with
      | nil =>
        cases hsplit
        have hfault : fault? (count + 1) raw = some err := fault?_eq_some_iff.mpr hr
        rw [hfault]
      | cons b before =>
        cases hsplit
        rw [List.forall_mem_cons] at hbefore
        rw [(isSound_iff (count + 1)).mp hbefore.1]
        refine ih.mpr ⟨before, r, after, rfl, hbefore.2, ?_⟩
        rwa [List.length_cons, Nat.add_comm before.length, ← Nat.add_assoc] at hr

/-! ### Last values -/

/-- The value that a line gives to a setting. -/
def valueFor? (setting : SettingName) (raw : List Char) : Option String :=
  match directive raw with
  | .assign name value => if SettingName.ofText? name = some setting then some value else none
  | _ => none

@[simp] theorem valueFor?_eq_some_iff {setting : SettingName} {value : String} :
    valueFor? setting raw = some value ↔ Assigns raw setting value := by
  unfold valueFor? Assigns
  simp only [← directive_eq_assign_iff, ← SettingName.ofText?_eq_some_iff]
  cases directive raw with
  | nothing | invalid => simp
  | assign name' value' =>
    simp only [Directive.assign.injEq]
    constructor
    · intro h
      split at h
      · next hname =>
        cases h
        exact ⟨name', ⟨rfl, rfl⟩, hname⟩
      · cases h
    · rintro ⟨name, ⟨rfl, rfl⟩, hname⟩
      rw [if_pos hname]

@[simp] theorem valueFor?_eq_none_iff {setting : SettingName} :
    valueFor? setting raw = none ↔ ¬ Names raw setting := by
  simp [Option.eq_none_iff_forall_ne_some, Names]

/-- The value that the last line naming a setting gives to it. -/
def lastValue? (setting : SettingName) (raws : List (List Char)) : Option String :=
  raws.reverse.findSome? (valueFor? setting)

theorem lastValue?_concat (setting : SettingName) (raws : List (List Char)) (raw : List Char) :
    lastValue? setting (raws ++ [raw]) =
      (valueFor? setting raw).or (lastValue? setting raws) := by
  unfold lastValue?
  rw [List.reverse_concat, List.findSome?_cons]
  cases valueFor? setting raw <;> rfl

theorem lastValue?_eq_none_iff {setting : SettingName} :
    lastValue? setting raws = none ↔ ∀ raw ∈ raws, ¬ Names raw setting := by
  simp only [lastValue?, List.findSome?_eq_none_iff, List.mem_reverse, valueFor?_eq_none_iff]

theorem lastValue?_eq_some_iff {setting : SettingName} {value : String} :
    lastValue? setting raws = some value ↔ ∃ before raw after, raws = before ++ raw :: after ∧
      Assigns raw setting value ∧ ∀ r ∈ after, ¬ Names r setting := by
  simp only [lastValue?, List.findSome?_eq_some_iff, valueFor?_eq_some_iff, valueFor?_eq_none_iff]
  constructor
  · rintro ⟨after, raw, before, hsplit, hraw, hafter⟩
    refine ⟨before.reverse, raw, after.reverse, ?_, hraw, ?_⟩
    · rw [← List.reverse_reverse raws, hsplit]
      simp
    · exact fun r hr => hafter r (List.mem_reverse.mp hr)
  · rintro ⟨before, raw, after, rfl, hraw, hafter⟩
    exact ⟨after.reverse, raw, before.reverse, by simp, hraw,
      fun r hr => hafter r (List.mem_reverse.mp hr)⟩

/-- What a setting has after some lines: what the value stands for that the last line naming it
gives to it, or if no line does, the same as before. -/
def IsLast {β : Type} (raws : List (List Char)) (setting : SettingName)
    (standsFor : String → β → Prop) (unset b : β) : Prop :=
  (∀ raw ∈ raws, ¬ Names raw setting) ∧ b = unset ∨
  ∃ before raw after value, raws = before ++ raw :: after ∧ Assigns raw setting value ∧
    (∀ r ∈ after, ¬ Names r setting) ∧ standsFor value b

theorem isLast_iff {β : Type} {setting : SettingName} {standsFor : String → β → Prop}
    {unset b : β} :
    IsLast raws setting standsFor unset b ↔
      match lastValue? setting raws with
      | none => b = unset
      | some value => standsFor value b := by
  unfold IsLast
  cases h : lastValue? setting raws with
  | none =>
    constructor
    · rintro (⟨-, hb⟩ | ⟨before, raw, after, value, hsplit, hraw, hafter, -⟩)
      · exact hb
      · rw [lastValue?_eq_some_iff.mpr ⟨before, raw, after, hsplit, hraw, hafter⟩] at h
        cases h
    · exact fun hb => .inl ⟨lastValue?_eq_none_iff.mp h, hb⟩
  | some value =>
    constructor
    · rintro (⟨hnone, -⟩ | ⟨before, raw, after, value', hsplit, hraw, hafter, hb⟩)
      · rw [lastValue?_eq_none_iff.mpr hnone] at h
        cases h
      · rw [lastValue?_eq_some_iff.mpr ⟨before, raw, after, hsplit, hraw, hafter⟩] at h
        cases h
        exact hb
    · obtain ⟨before, raw, after, hsplit, hraw, hafter⟩ := lastValue?_eq_some_iff.mp h
      exact fun hb => .inr ⟨before, raw, after, value, hsplit, hraw, hafter, hb⟩

/-- The settings that have their last values in some lines, or else their defaults. -/
structure IsLastOf (raws : List (List Char)) (s : Settings) : Prop where
  /-- The capacity. -/
  shardCapacity : IsLast raws .shardCapacity IsCapacity default.shardCapacity s.shardCapacity
  /-- The entry label, which is the value itself. -/
  entryLabel : IsLast raws .entryLabel Eq default.entryLabel s.entryLabel
  /-- The format. -/
  format : IsLast raws .format IsFormat default.format s.format
  /-- Whether to compare in parallel. -/
  parallel : IsLast raws .parallel (fun value on => on = true ↔ SwitchesOn value) default.parallel
    s.parallel

/-- A sound line gives to a setting that it names a value that this setting can have. -/
theorem accepts_of_isSound {setting : SettingName} {value : String} (h : IsSound raw)
    (hassigns : Assigns raw setting value) : setting.Accepts value := by
  obtain ⟨name, hassign, hnamed⟩ := hassigns
  by_contra haccepts
  exact h 0 _ (.badValue hassign hnamed haccepts)

theorem write_of_assigns {setting : SettingName} {value : String}
    (h : Assigns raw setting value) (s : Settings) : s.write raw = s.put value setting := by
  obtain ⟨name, hassign, hnamed⟩ := h
  unfold write
  rw [directive_eq_assign_iff.mpr hassign]
  simp only [SettingName.ofText?_eq_some_iff.mpr hnamed]

theorem write_of_names_nothing (h : ∀ setting, ¬ Names raw setting) (s : Settings) :
    s.write raw = s := by
  unfold write
  split
  · next name value hassign =>
    split
    · next setting hname =>
      exact absurd ⟨value, name, directive_eq_assign_iff.mp hassign,
        SettingName.ofText?_eq_some_iff.mp hname⟩ (h setting)
    · rfl
  · rfl

/-- One of the settings after sound lines, where a value that it can have is put there as what it
stands for. -/
theorem isLast_foldl_write {β : Type} {setting : SettingName} {standsFor : String → β → Prop}
    {field : Settings → β}
    (hput : ∀ s value, setting.Accepts value → standsFor value (field (put s value setting)))
    (hother : ∀ s value other, other ≠ setting → field (put s value other) = field s)
    (hsound : ∀ r ∈ raws, IsSound r) (s : Settings) :
    IsLast raws setting standsFor (field s) (field (raws.foldl write s)) := by
  rw [isLast_iff]
  induction raws using List.reverseRecOn with
  | nil => rfl
  | append_singleton raws raw ih =>
    have hraw := hsound raw (List.mem_append_right _ (List.mem_singleton_self raw))
    have ih := ih fun r hr => hsound r (List.mem_append_left _ hr)
    rw [lastValue?_concat, List.foldl_append, List.foldl_cons, List.foldl_nil]
    cases hvalue : valueFor? setting raw with
    | some value =>
      have hassigns := valueFor?_eq_some_iff.mp hvalue
      rw [write_of_assigns hassigns]
      exact hput _ value (accepts_of_isSound hraw hassigns)
    | none =>
      -- the line gives nothing to this setting, so the lines before it decide
      have hkeep : field ((raws.foldl write s).write raw) = field (raws.foldl write s) := by
        by_cases hnames : ∃ other value, Assigns raw other value
        · obtain ⟨other, value, hassigns⟩ := hnames
          rw [write_of_assigns hassigns]
          refine hother _ value other ?_
          rintro rfl
          exact valueFor?_eq_none_iff.mp hvalue ⟨value, hassigns⟩
        · rw [write_of_names_nothing fun other h => hnames ⟨other, h⟩]
      rw [hkeep, Option.none_or]
      exact ih

/-- A capacity is put as the number that it is. -/
theorem isCapacity_put {value : String} (h : SettingName.Accepts .shardCapacity value)
    (s : Settings) : IsCapacity value (s.put value .shardCapacity).shardCapacity := by
  obtain ⟨n, hn⟩ := h
  simpa only [put, capacity?_eq_some_iff.mpr hn, Option.getD_some] using hn

theorem isFormat_put {value : String} (h : SettingName.Accepts .format value) (s : Settings) :
    IsFormat value (s.put value .format).format := by
  obtain ⟨f, hf⟩ := h
  simpa only [put, ReportFormat.ofName?_eq_some_iff.mpr hf, Option.getD_some] using hf

/-- Sound lines that are read over the defaults leave the last values. -/
theorem isLastOf_foldl_write (hsound : ∀ r ∈ raws, IsSound r) :
    IsLastOf raws (raws.foldl write default) where
  shardCapacity := isLast_foldl_write (fun s _ h => isCapacity_put h s)
    (fun s value _ h => shardCapacity_put h s value) hsound default
  entryLabel := isLast_foldl_write (fun _ _ _ => rfl)
    (fun s value _ h => entryLabel_put h s value) hsound default
  format := isLast_foldl_write (fun s _ h => isFormat_put h s)
    (fun s value _ h => format_put h s value) hsound default
  parallel := isLast_foldl_write (fun _ _ _ => isOn_iff)
    (fun s value _ h => parallel_put h s value) hsound default

/-- Lines leave one value only, if a value stands for one thing only. -/
theorem IsLast.unique {β : Type} {setting : SettingName} {standsFor : String → β → Prop}
    {unset b c : β} (hone : ∀ value, standsFor value b → standsFor value c → b = c)
    (hb : IsLast raws setting standsFor unset b) (hc : IsLast raws setting standsFor unset c) :
    b = c := by
  rw [isLast_iff] at hb hc
  cases h : lastValue? setting raws with
  | none =>
    rw [h] at hb hc
    exact hb.trans hc.symm
  | some value =>
    rw [h] at hb hc
    exact hone value hb hc

theorem IsLastOf.unique (hs : IsLastOf raws s) (ht : IsLastOf raws t) : s = t := by
  have hcapacity := hs.shardCapacity.unique (fun value hb hc => Option.some.inj
    ((capacity?_eq_some_iff.mpr hb).symm.trans (capacity?_eq_some_iff.mpr hc))) ht.shardCapacity
  have hlabel := hs.entryLabel.unique (fun value hb hc => hb.symm.trans hc) ht.entryLabel
  have hformat := hs.format.unique (fun value hb hc => Option.some.inj
    ((ReportFormat.ofName?_eq_some_iff.mpr hb).symm.trans
      (ReportFormat.ofName?_eq_some_iff.mpr hc))) ht.format
  have hparallel := hs.parallel.unique
    (fun value hb hc => Bool.eq_iff_iff.mpr (hb.trans hc.symm)) ht.parallel
  cases s
  cases t
  simp only [Settings.mk.injEq]
  exact ⟨hcapacity, hlabel, hformat, hparallel⟩

/-! ### Changes of lines that make no difference -/

/-- A change of lines that makes no difference: a line that sets nothing is put in, or two lines
that name different settings change places. -/
inductive Edit : List (List Char) → List (List Char) → Prop where
  /-- Put in a line that sets nothing. -/
  | insert {raw : List Char} (before after : List (List Char)) : SetsNothing raw →
      Edit (before ++ after) (before ++ raw :: after)
  /-- Let lines that name different settings change places. -/
  | swap {raw raw' : List Char} {m n : SettingName} (before after : List (List Char)) :
      Names raw m → Names raw' n → m ≠ n →
      Edit (before ++ raw :: raw' :: after) (before ++ raw' :: raw :: after)

theorem fault?_of_setsNothing (h : SetsNothing raw) (number : Nat) :
    fault? number raw = none := by
  unfold fault?
  obtain hinsignificant | ⟨name, value, hassign, hname⟩ := h
  · rw [directive_eq_nothing_iff.mpr hinsignificant]
  · rw [directive_eq_assign_iff.mpr hassign]
    simp only [SettingName.ofText?_eq_none_iff.mpr hname]

theorem write_of_setsNothing (h : SetsNothing raw) (s : Settings) : s.write raw = s := by
  unfold write
  obtain hinsignificant | ⟨name, value, hassign, hname⟩ := h
  · rw [directive_eq_nothing_iff.mpr hinsignificant]
  · rw [directive_eq_assign_iff.mpr hassign]
    simp only [SettingName.ofText?_eq_none_iff.mpr hname]

/-- Lines that name different settings are written in either order. -/
theorem write_comm {raw' : List Char} {m n : SettingName} (hm : Names raw m) (hn : Names raw' n)
    (hmn : m ≠ n) (s : Settings) : (s.write raw).write raw' = (s.write raw').write raw := by
  obtain ⟨v, hv⟩ := hm
  obtain ⟨w, hw⟩ := hn
  simp only [write_of_assigns hv, write_of_assigns hw]
  exact put_comm hmn s v w

section Edits

variable {raws' : List (List Char)}

theorem Edit.forall_isSound_iff (h : Edit raws raws') :
    (∀ r ∈ raws, IsSound r) ↔ ∀ r ∈ raws', IsSound r := by
  cases h with
  | insert before after hnothing =>
    have hsound := (isSound_iff 0).mpr (fault?_of_setsNothing hnothing 0)
    simp only [List.forall_mem_append, List.forall_mem_cons, hsound, true_and]
  | swap before after hm hn hmn =>
    simp only [List.forall_mem_append, List.forall_mem_cons]
    rw [and_left_comm (a := IsSound _) (b := IsSound _)]

theorem Edit.foldl_write_eq (h : Edit raws raws') (s : Settings) :
    raws.foldl write s = raws'.foldl write s := by
  cases h with
  | insert before after hnothing =>
    simp only [List.foldl_append, List.foldl_cons, write_of_setsNothing hnothing]
  | swap before after hm hn hmn =>
    simp only [List.foldl_append, List.foldl_cons, write_comm hm hn hmn]

/-- Lines that differ by such changes make the same settings. -/
theorem readLines_eq_ok_iff_of_edits (h : Relation.EqvGen Edit raws raws') :
    (readLines 0 s raws).result = .ok t ↔ (readLines 0 s raws').result = .ok t := by
  induction h with
  | rel _ _ h => rw [readLines_eq_ok_iff, readLines_eq_ok_iff, h.forall_isSound_iff,
      h.foldl_write_eq]
  | refl _ => rfl
  | symm _ _ _ ih => exact ih.symm
  | trans _ _ _ _ _ ih ih' => exact ih.trans ih'

end Edits

/-! ### Texts -/

theorem readLines_eq_ok_iff_isLastOf : (readLines 0 default raws).result = .ok s ↔
    (∀ r ∈ raws, IsSound r) ∧ IsLastOf raws s := by
  rw [readLines_eq_ok_iff]
  refine and_congr_right fun hsound => ⟨?_, fun hs => hs.unique (isLastOf_foldl_write hsound)⟩
  rintro rfl
  exact isLastOf_foldl_write hsound

/-- Reading fails when some line is not sound. -/
theorem exists_error_iff :
    (∃ err, (readLines count s raws).result = .error err) ↔ ∃ r ∈ raws, ¬ IsSound r := by
  cases h : (readLines count s raws).result with
  | ok t => simpa using (readLines_eq_ok_iff.mp h).1
  | error err =>
    obtain ⟨before, raw, after, rfl, -, hfault⟩ := readLines_eq_error_iff.mp h
    have hraw : raw ∈ before ++ raw :: after := List.mem_append_right _ List.mem_cons_self
    exact iff_of_true ⟨err, rfl⟩ ⟨raw, hraw, fun hsound => hsound _ _ hfault⟩

/-- **The last line wins.**  A text is refused when one of its lines is at fault, and the error is
that of the first such line.  Otherwise each setting has the value that the last line naming it
gives, or its default.  Lines that name different settings may change places and lines that set
nothing may be put in or left out: the settings are the same. -/
theorem settings_text_is_last_wins (text : String) :
    let raws := Text.lines text.toList
    ((∃ err, (parse text).result = .error err) ↔ ∃ raw ∈ raws, ¬ IsSound raw) ∧
    (∀ err, (parse text).result = .error err ↔ ∃ before raw after,
      raws = before ++ raw :: after ∧ (∀ r ∈ before, IsSound r) ∧
        IsFault (before.length + 1) raw err) ∧
    (∀ s, (parse text).result = .ok s ↔ (∀ raw ∈ raws, IsSound raw) ∧ IsLastOf raws s) ∧
    ∀ text', Relation.EqvGen Edit raws (Text.lines text'.toList) →
      ∀ s, (parse text).result = .ok s ↔ (parse text').result = .ok s := by
  intro raws
  refine ⟨exists_error_iff, fun err => ?_, fun s => readLines_eq_ok_iff_isLastOf,
    fun text' h s => readLines_eq_ok_iff_of_edits h⟩
  rw [parse, readLines_eq_error_iff]
  simp only [Nat.zero_add, raws]

/-- A format and a capacity change places, a blank line is left out and an unknown name put in.  The
last capacity still wins, and so does the last word on comparing in parallel, which switches it
off. -/
theorem settings_text_is_last_wins_of_swap :
    let text := "format=csv\ncapacity=8\n\nparallel=On\nShard-Capacity=16\nPARALLEL=off\n"
    let text' := "capacity=8\nformat=csv\nverbose=1\nparallel=On\nShard-Capacity=16\nPARALLEL=off\n"
    let s : Settings := { shardCapacity := 16, format := .csv, parallel := false }
    Relation.EqvGen Edit (Text.lines text.toList) (Text.lines text'.toList) ∧
      (parse text').result = .ok s ∧ (parse text).result = .ok s ∧
      IsLastOf (Text.lines text.toList) s ∧ SwitchesOn "On" ∧ ¬ SwitchesOn "off" := by
  intro text text' s
  have hedits : Relation.EqvGen Edit (Text.lines text.toList) (Text.lines text'.toList) := by
    have hlines : Text.lines text.toList = ["format=csv".toList, "capacity=8".toList, "".toList,
        "parallel=On".toList, "Shard-Capacity=16".toList, "PARALLEL=off".toList] := by
      decide +kernel
    have hlines' : Text.lines text'.toList = ["capacity=8".toList, "format=csv".toList,
        "verbose=1".toList, "parallel=On".toList, "Shard-Capacity=16".toList,
        "PARALLEL=off".toList] := by
      decide +kernel
    have hformat : Names "format=csv".toList .format :=
      ⟨"csv", valueFor?_eq_some_iff.mp (by decide +kernel)⟩
    have hcapacity : Names "capacity=8".toList .shardCapacity :=
      ⟨"8", valueFor?_eq_some_iff.mp (by decide +kernel)⟩
    have hunknown : SetsNothing "verbose=1".toList :=
      .inr ⟨"verbose", "1", directive_eq_assign_iff.mp (by decide +kernel),
        SettingName.ofText?_eq_none_iff.mp (by decide +kernel)⟩
    rw [hlines, hlines']
    exact .trans _ _ _ (.symm _ _ (.rel _ _ (.insert [_, _] _ (.inl (by decide +kernel)))))
      (.trans _ _ _ (.rel _ _ (.swap [] _ hformat hcapacity (by decide)))
        (.rel _ _ (.insert [_, _] _ hunknown)))
  have hresult : (parse text').result = .ok s := by decide +kernel
  have hswapped := ((settings_text_is_last_wins text).2.2.2 text' hedits s).mpr hresult
  exact ⟨hedits, hresult, hswapped, (((settings_text_is_last_wins text).2.2.1 s).mp hswapped).2,
    isOn_iff.mp (by decide +kernel), mt isOn_iff.mpr (by decide +kernel)⟩

end Settings
end AsmPair
