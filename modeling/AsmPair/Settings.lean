import AsmPair.Comparison.Verdict
import AsmPair.Files.Failure
import AsmPair.Report.Format

/-!
# Settings

A settings file has a line `name=value` for each setting.  Blank lines and lines that start with
a number sign or a semicolon say nothing.  The case of names does not matter, nor whether their
words are joined by hyphens or underscores; unknown names are passed over and reported.

## Main definitions

* `Settings` — what can be set.
* `SettingName` — the settings that can be named.
* `Settings.set` — change one setting.
* `Settings.parse` — the settings that a text makes, and the names it passed over.
* `Settings.composer`, `Settings.matcher` — what the settings are for.
-/

namespace AsmPair

/-- What can be set for a run. -/
structure Settings where
  /-- The greatest number of outer operands of a module. -/
  shardCapacity : Nat := Composer.defaultCapacity
  /-- The label where modules start. -/
  entryLabel : String := Composer.defaultLabel
  /-- The format of reports. -/
  format : ReportFormat := .text
  /-- Whether modules may be compared at the same time, which changes no outcome. -/
  parallel : Bool := true
  deriving DecidableEq, Repr

/-- The settings that can be named. -/
inductive SettingName where
  /-- The number of outer operands of a module. -/
  | shardCapacity : SettingName
  /-- The entry label. -/
  | entryLabel : SettingName
  /-- The report format. -/
  | format : SettingName
  /-- Whether to compare in parallel. -/
  | parallel : SettingName
  deriving DecidableEq, Repr

/-- What can be wrong with settings. -/
inductive SettingsError where
  /-- The file cannot be read. -/
  | unreadable (cause : FileFailure) : SettingsError
  /-- A line is no assignment; lines are counted from one. -/
  | invalidLine (number : Nat) (line : String) : SettingsError
  /-- A setting cannot have the value. -/
  | invalidValue (name value : String) : SettingsError
  deriving DecidableEq, Repr

/-- The wording of an error. -/
def SettingsError.message : SettingsError → String
  | .unreadable cause => "cannot read configuration: " ++ cause.message
  | .invalidLine number line =>
    "line " ++ toString number ++ ": expected `name=value`, found `" ++ line ++ "`"
  | .invalidValue name value => "invalid value `" ++ value ++ "` for `" ++ name ++ "`"

/-! ### Names and values -/

/-- The setting that a name stands for. -/
def SettingName.ofText? (name : String) : Option SettingName :=
  let key := String.ofList ((Text.lower name.toList).map fun c => if c = '-' then '_' else c)
  if key = "shard_capacity" ∨ key = "capacity" then some .shardCapacity
  else if key = "entry_label" then some .entryLabel
  else if key = "format" then some .format
  else if key = "parallel" then some .parallel
  else none

/-- Whether a value can be an entry label: ASCII letters, digits and underscores, with no digit
at the start. -/
def isEntryLabel (value : String) : Bool :=
  match value.toList with
  | [] => false
  | c :: cs => (c.isAlpha || c == '_') && cs.all fun d => d.isAlphanum || d == '_'

/-- Whether a value switches a setting on: a number that is not zero, or one of two words. -/
def isOn (value : String) : Bool :=
  let cs := Text.lower value.toList
  if !cs.isEmpty && cs.all Char.isDigit then cs.any (· != '0')
  else String.ofList cs == "on" || String.ofList cs == "true"

/-- A capacity, which is not zero. -/
def capacity? (value : String) : Option Nat := (Text.count? value.toList).filter (0 < ·)

namespace Settings

/-- The settings before anything is set. -/
def default : Settings := {}

/-- Change one setting.  A name that stands for no setting changes nothing. -/
def set (s : Settings) (name value : String) : Except SettingsError Settings :=
  match SettingName.ofText? name with
  | none => .ok s
  | some .shardCapacity =>
    match capacity? value with
    | some n => .ok { s with shardCapacity := n }
    | none => .error (.invalidValue name value)
  | some .entryLabel =>
    if isEntryLabel value then .ok { s with entryLabel := value }
    else .error (.invalidValue name value)
  | some .format =>
    match ReportFormat.ofName? value with
    | some f => .ok { s with format := f }
    | none => .error (.invalidValue name value)
  | some .parallel => .ok { s with parallel := isOn value }

/-! ### Reading settings -/

/-- What a line of a settings file says. -/
inductive Directive where
  /-- Nothing. -/
  | nothing : Directive
  /-- An assignment. -/
  | assign (name value : String) : Directive
  /-- Something that is no assignment. -/
  | invalid (line : String) : Directive
  deriving DecidableEq, Repr

/-- What a raw line says. -/
def directive (raw : List Char) : Directive :=
  let line := Text.trim raw
  if line.isEmpty || line.head? == some '#' || line.head? == some ';' then .nothing
  else
    match Text.cut? (· == '=') line with
    | none => .invalid (String.ofList line)
    | some (name, value) =>
      .assign (String.ofList (Text.trim name)) (String.ofList (Text.trim value))

/-- What comes of reading settings. -/
structure Reading where
  /-- The settings, or the first error. -/
  result : Except SettingsError Settings
  /-- The names that stand for no setting, up to the error.  A run logs them. -/
  unknown : List String

/-- The names that are passed over in a change of a setting. -/
def unknownNames (name : String) : List String :=
  if (SettingName.ofText? name).isNone then [name] else []

/-- The warning in the log about a name that is passed over. -/
def unknownWarning (name : String) : String :=
  "ignoring unknown configuration name `" ++ name ++ "`"

/-- Read lines over given settings, after as many as `count` earlier lines. -/
def readLines (count : Nat) (s : Settings) : List (List Char) → Reading
  | [] => ⟨.ok s, []⟩
  | raw :: raws =>
    match directive raw with
    | .nothing => readLines (count + 1) s raws
    | .invalid line => ⟨.error (.invalidLine (count + 1) line), []⟩
    | .assign name value =>
      match s.set name value with
      | .error e => ⟨.error e, []⟩
      | .ok t =>
        let r := readLines (count + 1) t raws
        { r with unknown := unknownNames name ++ r.unknown }

/-- The settings that a text makes. -/
def parse (text : String) : Reading := readLines 0 default (Text.lines text.toList)

/-- The settings that the contents of a file make, if the file can be read. -/
def load : Except FileFailure String → Reading
  | .ok text => parse text
  | .error cause => ⟨.error (.unreadable cause), []⟩

/-! ### Using settings -/

/-- The composer that settings call for. -/
def composer (s : Settings) : Composer := .ofCapacity s.shardCapacity s.entryLabel

/-- The matcher that settings call for. -/
def matcher (s : Settings) : Matcher := .ofLabel s.entryLabel

end Settings

end AsmPair
