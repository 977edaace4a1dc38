import AsmPair.Proofs.Text.Lowering
import AsmPair.Settings

/-!
# What names and values of settings stand for

A setting has names, and the case of letters does not matter in them, nor whether words are joined
by hyphens or underscores.  A value stands for what a setting is to be: a number in decimal, a
label, one of the names of a format, or whether something is switched on.

None of the names and words has a k, which is the one letter that a letter beyond ASCII is lowered
to.  So the case of ASCII letters is all that may differ, although texts are lowered after Unicode
before they are compared.

## Main definitions

* `SettingName.IsNamed` — a text names a setting.
* `IsCapacity`, `IsLabelText`, `IsFormat`, `SwitchesOn` — what values stand for.
* `SettingName.Accepts` — a setting can have a value.

## Main results

* `SettingName.ofText?_eq_some_iff` — the setting that a text names.
* `capacity?_eq_some_iff`, `ReportFormat.ofName?_eq_some_iff` — the values that are read.
* `isOn_iff` — when a value switches a setting on.
* `SettingName.accepts_iff` — the values that a setting can have.
-/

namespace AsmPair

open Text (IsNative IsKeyword)

/-! ### Names of settings -/

namespace SettingName

/-- The names of a setting. -/
def keys : SettingName → List String
  | shardCapacity => ["shard_capacity", "capacity"]
  | entryLabel => ["entry_label"]
  | format => ["format"]
  | parallel => ["parallel"]

/-- A hyphen may stand for an underscore. -/
def joint (c : Char) : Char := if c = '-' then '_' else c

/-- A text names a setting: but for the case of its ASCII letters, and for hyphens in place of
underscores, it is one of the names that the setting has. -/
def IsNamed (setting : SettingName) (name : String) : Prop :=
  ∃ key ∈ setting.keys, (name.toList.map Char.toLower).map joint = key.toList

theorem isNative_of_joint (d : Char) (h : IsNative (joint d)) : IsNative d := by
  unfold joint at h
  split at h
  · next hd => rw [hd]; decide
  · exact h

theorem isKeyword_of_mem_keys (setting : SettingName) : ∀ key ∈ setting.keys, IsKeyword key :=
  List.all_iff_forall_prop.mp (by cases setting <;> decide +kernel)

theorem isNamed_iff {setting : SettingName} {name : String} : setting.IsNamed name ↔
    String.ofList ((Text.lower name.toList).map joint) ∈ setting.keys := by
  have hkey : ∀ key ∈ setting.keys,
      (Text.lower name.toList).map joint = key.toList ↔
        (name.toList.map Char.toLower).map joint = key.toList :=
    fun key hkey =>
      Text.map_lower_eq_iff isNative_of_joint (setting.isKeyword_of_mem_keys key hkey).isNative
  constructor
  · rintro ⟨key, hmem, h⟩
    rwa [(hkey key hmem).mpr h, String.ofList_toList]
  · intro h
    exact ⟨_, h, (hkey _ h).mp String.toList_ofList.symm⟩

/-- **The setting that a text names.** -/
@[simp] theorem ofText?_eq_some_iff {name : String} {setting : SettingName} :
    ofText? name = some setting ↔ setting.IsNamed name := by
  have hjoint : joint = fun c => if c = '-' then '_' else c := rfl
  rw [isNamed_iff, hjoint, ofText?]
  generalize String.ofList _ = key
  cases setting <;> simp only [keys, List.mem_cons, List.not_mem_nil, or_false] <;> grind

@[simp] theorem ofText?_eq_none_iff {name : String} :
    ofText? name = none ↔ ∀ setting : SettingName, ¬ setting.IsNamed name := by
  simp [Option.eq_none_iff_forall_ne_some]

end SettingName

/-! ### Values -/

variable {value : String}

/-- A value is a capacity: a number in decimal, perhaps after a plus sign, of 64 bits and not
zero. -/
structure IsCapacity (value : String) (n : Nat) : Prop where
  /-- The number is written. -/
  writes : Text.Writes value.toList n ∨ ∃ ds, value.toList = '+' :: ds ∧ Text.Writes ds n
  /-- It has no more than 64 bits. -/
  lt : n < UInt64.size
  /-- It is not zero. -/
  pos : 0 < n

@[simp] theorem capacity?_eq_some_iff {n : Nat} :
    capacity? value = some n ↔ IsCapacity value n := by
  rw [capacity?, Option.filter_eq_some_iff, Text.count?_eq_some_iff, decide_eq_true_iff]
  constructor
  · rintro ⟨⟨hwrites, hlt⟩, hpos⟩
    exact ⟨hwrites, hlt, hpos⟩
  · intro h
    exact ⟨⟨h.writes, h.lt⟩, h.pos⟩

/-- A value is an entry label: an ASCII letter or an underscore, and then ASCII letters, digits and
underscores. -/
def IsLabelText (value : String) : Prop :=
  ∃ c cs, value.toList = c :: cs ∧ (c.isAlpha = true ∨ c = '_') ∧
    ∀ d ∈ cs, d.isAlphanum = true ∨ d = '_'

@[simp] theorem isEntryLabel_iff : isEntryLabel value = true ↔ IsLabelText value := by
  unfold isEntryLabel IsLabelText
  cases value.toList with
  | nil => simp
  | cons c cs =>
    simp only [Bool.and_eq_true, Bool.or_eq_true, beq_iff_eq, List.all_eq_true]
    constructor
    · rintro ⟨hc, hcs⟩
      exact ⟨c, cs, rfl, hc, hcs⟩
    · rintro ⟨c, cs, hcons, hc, hcs⟩
      cases hcons
      exact ⟨hc, hcs⟩

/-- The names of a format in settings. -/
def ReportFormat.names : ReportFormat → List String
  | text => ["text"]
  | json => ["json"]
  | jsonLines => ["jsonl", "jsonlines", "json-lines"]
  | csv => ["csv"]

/-- A value is a format: but for blanks around it and the case of its ASCII letters, it is one of
the names that the format has. -/
def IsFormat (value : String) (f : ReportFormat) : Prop :=
  ∃ name ∈ f.names, Text.sameLetters (Text.trimmed value) name = true

theorem ReportFormat.isKeyword_of_mem_names (f : ReportFormat) :
    ∀ name ∈ f.names, IsKeyword name :=
  List.all_iff_forall_prop.mp (by cases f <;> decide +kernel)

theorem isFormat_iff {f : ReportFormat} :
    IsFormat value f ↔ Text.lowered (Text.trimmed value) ∈ f.names := by
  constructor
  · rintro ⟨name, hmem, h⟩
    rwa [(Text.lowered_eq_iff (f.isKeyword_of_mem_names name hmem)).mpr h]
  · intro h
    exact ⟨_, h, (Text.lowered_eq_iff (f.isKeyword_of_mem_names _ h)).mp rfl⟩

@[simp] theorem ReportFormat.ofName?_eq_some_iff {f : ReportFormat} :
    ofName? value = some f ↔ IsFormat value f := by
  rw [isFormat_iff, ofName?]
  generalize Text.lowered (Text.trimmed value) = key
  cases f <;> simp only [names, List.mem_cons, List.not_mem_nil, or_false] <;> grind

/-- A value switches a setting on: it is a number in decimal that is not zero, or one of two words,
but for the case of ASCII letters. -/
inductive SwitchesOn (value : String) : Prop where
  /-- A number that is not zero. -/
  | number {n : Nat} : Text.Writes value.toList n → 0 < n → SwitchesOn value
  /-- One of the words. -/
  | word {w : String} : w = "on" ∨ w = "true" → Text.sameLetters value w = true → SwitchesOn value

theorem isNative_of_isDigit {c : Char} (h : c.isDigit = true) :
    IsNative c ∧ c.toLower = c := by
  have hascii : c.toNat < 0x80 := by
    rw [Char.isDigit, Bool.and_eq_true, decide_eq_true_iff, decide_eq_true_iff] at h
    have hle : c.toNat ≤ 57 := h.2
    omega
  exact Text.forall_ascii (P := fun c => c.isDigit = true → IsNative c ∧ c.toLower = c) (by decide)
    hascii h

/-- Digits are lowered to themselves. -/
theorem lower_of_isDigit {cs : List Char} (h : ∀ c ∈ cs, c.isDigit = true) :
    Text.lower cs = cs := by
  rw [Text.lower_of_ascii fun c hc => (isNative_of_isDigit (h c hc)).1.ascii]
  exact (List.map_congr_left fun c hc => (isNative_of_isDigit (h c hc)).2).trans (List.map_id cs)

/-- Nothing but a digit is lowered to a digit. -/
theorem forall_isDigit_lower_iff {cs : List Char} :
    (∀ c ∈ Text.lower cs, c.isDigit = true) ↔ ∀ c ∈ cs, c.isDigit = true := by
  constructor
  · intro h
    have hlower : Text.lower cs = cs.map Char.toLower :=
      Text.lowerAfter_eq_map_toLower fun c hc => (isNative_of_isDigit (h c hc)).1
    intro c hc
    rw [← Text.apply_toLower (f := Char.isDigit) (by decide) c]
    exact h _ (hlower ▸ List.mem_map_of_mem hc)
  · intro h
    rwa [lower_of_isDigit h]

theorem isKeyword_of_switch {w : String} (hw : w = "on" ∨ w = "true") : IsKeyword w := by
  rcases hw with rfl | rfl <;> decide +kernel

/-- A number switches on unless all of its digits are zeros. -/
theorem isOn_iff_of_isDigit (hne : value.toList ≠ [])
    (hdigit : ∀ c ∈ value.toList, c.isDigit = true) :
    isOn value = true ↔ 0 < Nat.ofDigitChars 10 value.toList 0 := by
  have hall : value.toList.all Char.isDigit = true := List.all_eq_true.mpr hdigit
  have hon : isOn value = value.toList.any (· != '0') := by
    simp [isOn, lower_of_isDigit hdigit, hall, hne]
  rw [hon, Nat.pos_iff_ne_zero, Ne, Text.ofDigitChars_eq_zero_iff hdigit]
  simp

/-- What is no number switches on if it is one of the words. -/
theorem isOn_iff_of_not_isDigit
    (h : ¬ (value.toList ≠ [] ∧ ∀ c ∈ value.toList, c.isDigit = true)) :
    isOn value = true ↔ Text.lowered value = "on" ∨ Text.lowered value = "true" := by
  have hnot : (!(Text.lower value.toList).isEmpty &&
      (Text.lower value.toList).all Char.isDigit) = false := by
    rw [Bool.eq_false_iff]
    intro hboth
    simp only [Bool.and_eq_true, Bool.not_eq_true', List.isEmpty_eq_false_iff,
      List.all_eq_true] at hboth
    obtain ⟨hne, hlower⟩ := hboth
    have hdigit := forall_isDigit_lower_iff.mp hlower
    rw [lower_of_isDigit hdigit] at hne
    exact h ⟨hne, hdigit⟩
  simp [isOn, hnot, Text.lowered]

/-- **When a value switches a setting on.** -/
@[simp] theorem isOn_iff : isOn value = true ↔ SwitchesOn value := by
  by_cases hdigits : value.toList ≠ [] ∧ ∀ c ∈ value.toList, c.isDigit = true
  · obtain ⟨hne, hdigit⟩ := hdigits
    rw [isOn_iff_of_isDigit hne hdigit]
    constructor
    · intro hpos
      exact .number ⟨hne, hdigit, rfl⟩ hpos
    · rintro (⟨hwrites, hpos⟩ | @⟨w, hw, h⟩)
      · rwa [hwrites.value_eq]
      -- neither word is made of digits
      · have hvalue := (Text.lowered_eq_iff (isKeyword_of_switch hw)).mpr h
        rw [Text.lowered, lower_of_isDigit hdigit, String.ofList_toList] at hvalue
        subst hvalue
        rcases hw with rfl | rfl
        · exact absurd (hdigit 'o' (by decide)) (by decide)
        · exact absurd (hdigit 't' (by decide)) (by decide)
  · rw [isOn_iff_of_not_isDigit hdigits, Text.lowered_eq_iff (isKeyword_of_switch (.inl rfl)),
      Text.lowered_eq_iff (isKeyword_of_switch (.inr rfl))]
    constructor
    · rintro (h | h)
      · exact .word (.inl rfl) h
      · exact .word (.inr rfl) h
    · rintro (⟨hwrites, -⟩ | ⟨rfl | rfl, h⟩)
      · exact absurd ⟨hwrites.ne_nil, hwrites.isDigit⟩ hdigits
      · exact .inl h
      · exact .inr h

example : isOn "007" = true ∧ isOn "00" = false ∧ isOn "On" = true ∧ isOn "yes" = false := by
  decide +kernel

/-! ### Values that settings can have -/

/-- Whether a setting can have a value. -/
def SettingName.accepts : SettingName → String → Bool
  | shardCapacity, value => (capacity? value).isSome
  | entryLabel, value => isEntryLabel value
  | format, value => (ReportFormat.ofName? value).isSome
  | parallel, _ => true

/-- A setting can have a value: the value stands for something of the setting's kind.  What is not
switched on is switched off, so that any value will do there. -/
def SettingName.Accepts : SettingName → String → Prop
  | shardCapacity, value => ∃ n, IsCapacity value n
  | entryLabel, value => IsLabelText value
  | format, value => ∃ f, IsFormat value f
  | parallel, _ => True

@[simp] theorem SettingName.accepts_iff {setting : SettingName} :
    setting.accepts value = true ↔ setting.Accepts value := by
  cases setting with
  | shardCapacity => simp [accepts, Accepts, Option.isSome_iff_exists]
  | entryLabel => exact isEntryLabel_iff
  | format => simp [accepts, Accepts, Option.isSome_iff_exists]
  | parallel => simp [accepts, Accepts]

end AsmPair
