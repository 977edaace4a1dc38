import AsmPair.Feature
import AsmPair.Report.Format
import AsmPair.Text.Decimal
import AsmPair.Text.Pieces

/-!
# Command lines

A command line names a command, its options and its operands.  An option is given by a long name
after two hyphens or by a letter after one; letters may be run together, and a value may stand
after the option or be attached to it.  Two hyphens alone end the options.  The options for the
settings file and for verbosity may stand in front of the command or after it.

## Main definitions

* `OptionSpec` — the options of a command.
* `Command`, `Invocation` — what a command line asks for.
* `Invocation.parse?` — the request of a command line, unless it is misused.
-/

namespace AsmPair.Cli

/-! ### Options -/

/-- An option of a command. -/
structure OptionSpec where
  /-- The long name. -/
  name : String
  /-- The letter. -/
  letter? : Option Char
  /-- Whether the option has a value. -/
  valued : Bool
  deriving DecidableEq, Repr

/-- The option for a settings file. -/
def configOption : OptionSpec := ⟨"config", some 'c', true⟩

/-- The option to log more. -/
def verboseOption : OptionSpec := ⟨"verbose", some 'v', false⟩

/-- The option for a feature. -/
def featureOption : OptionSpec := ⟨"feature", none, true⟩

/-- The option for a report format. -/
def formatOption : OptionSpec := ⟨"format", some 'f', true⟩

/-- The option for an output directory. -/
def outOption : OptionSpec := ⟨"out", some 'o', true⟩

/-- The option for a capacity. -/
def capacityOption : OptionSpec := ⟨"capacity", none, true⟩

/-- The options that may stand anywhere. -/
def globalOptions : List OptionSpec := [configOption, verboseOption]

/-- What one argument says about options: the options it gives, with their values, and perhaps
an option whose value is the next argument.  An option without value has the empty text. -/
structure Given where
  /-- The options with their values. -/
  options : List (String × String)
  /-- The option whose value is yet to come. -/
  pending? : Option String
  deriving DecidableEq

/-- Read an argument with a long name, without its hyphens. -/
def readLong? (specs : List OptionSpec) (body : List Char) : Option Given :=
  let (name, value?) :=
    match Text.cut? (· == '=') body with
    | some (name, value) => (String.ofList name, some (String.ofList value))
    | none => (String.ofList body, none)
  match specs.find? (·.name == name), value? with
  | none, _ => none
  | some spec, some value => if spec.valued then some ⟨[(spec.name, value)], none⟩ else none
  | some spec, none =>
    if spec.valued then some ⟨[], some spec.name⟩ else some ⟨[(spec.name, "")], none⟩

/-- Read letters that are run together, without their hyphen.  A value that is attached to a
letter may follow an equals sign. -/
def readLetters? (specs : List OptionSpec) : List Char → Option Given
  | [] => some ⟨[], none⟩
  | c :: cs =>
    match specs.find? (·.letter? == some c) with
    | none => none
    | some spec =>
      if spec.valued then
        match cs with
        | [] => some ⟨[], some spec.name⟩
        | '=' :: value => some ⟨[(spec.name, String.ofList value)], none⟩
        | value => some ⟨[(spec.name, String.ofList value)], none⟩
      else
        (readLetters? specs cs).map fun g => { g with options := (spec.name, "") :: g.options }

/-- The kinds of argument. -/
inductive Argument where
  /-- The end of the options. -/
  | endOfOptions : Argument
  /-- A long name, without its hyphens. -/
  | long (body : List Char) : Argument
  /-- Letters, without their hyphen. -/
  | letters (body : List Char) : Argument
  /-- An operand. -/
  | operand : Argument
  deriving DecidableEq

/-- The kind of an argument.  A single hyphen is an operand. -/
def Argument.ofText (a : String) : Argument :=
  match a.toList with
  | ['-', '-'] => endOfOptions
  | '-' :: '-' :: body => long body
  | '-' :: c :: body => letters (c :: body)
  | _ => operand

/-- What is found in the arguments of a command. -/
structure Found where
  /-- The options with their values, in order. -/
  options : List (String × String)
  /-- The operands, in order. -/
  operands : List String
  deriving DecidableEq

/-- What is found, with options in front. -/
def Found.withOptions (f : Found) (options : List (String × String)) : Found :=
  { f with options := options ++ f.options }

/-- Read the arguments of a command.  The first of them may be the value of an option before
them. -/
def readArguments? (specs : List OptionSpec) : (pending? : Option String) → List String →
    Option Found
  | some _, [] => none
  | some name, a :: as =>
    match Argument.ofText a with
    | .operand => (readArguments? specs none as).map (·.withOptions [(name, a)])
    -- a value that looks like an option has to be attached
    | _ => none
  | none, [] => some ⟨[], []⟩
  | none, a :: as =>
    match Argument.ofText a with
    | .endOfOptions => some ⟨[], as⟩
    | .long body =>
      (readLong? specs body).bind fun g =>
        (readArguments? specs g.pending? as).map (·.withOptions g.options)
    | .letters body =>
      (readLetters? specs body).bind fun g =>
        (readArguments? specs g.pending? as).map (·.withOptions g.options)
    | .operand =>
      (readArguments? specs none as).map fun f => { f with operands := a :: f.operands }

/-- Read the arguments up to the name of the command: the options before it, the name and the
arguments after it. -/
def readCommand? (specs : List OptionSpec) : (pending? : Option String) → List String →
    Option (List (String × String) × String × List String)
  | _, [] => none
  | some name, a :: as =>
    match Argument.ofText a with
    | .operand => (readCommand? specs none as).map fun r => ((name, a) :: r.1, r.2)
    | _ => none
  | none, a :: as =>
    match Argument.ofText a with
    | .endOfOptions => none
    | .long body =>
      (readLong? specs body).bind fun g =>
        (readCommand? specs g.pending? as).map fun r => (g.options ++ r.1, r.2)
    | .letters body =>
      (readLetters? specs body).bind fun g =>
        (readCommand? specs g.pending? as).map fun r => (g.options ++ r.1, r.2)
    | .operand => some ([], a, as)

/-! ### Requests -/

/-- A command with its options and operands. -/
inductive Command where
  /-- List catalog forms. -/
  | list (pattern? : Option String) (feature? : Option Feature) (format? : Option ReportFormat) :
      Command
  /-- Write modules. -/
  | generate (out : String) (pattern? : Option String) (feature? : Option Feature)
      (capacity? : Option Nat) : Command
  /-- Compare two listings. -/
  | compare (source decoded : String) (format? : Option ReportFormat) : Command
  /-- Compare all modules in a directory. -/
  | verify (dir : String) (format? : Option ReportFormat) : Command
  deriving DecidableEq, Repr

/-- What a command line asks for. -/
structure Invocation where
  /-- The settings file. -/
  config? : Option String
  /-- Whether to log more, which changes no outcome. -/
  verbose : Bool
  /-- The command. -/
  command : Command
  deriving DecidableEq, Repr

/-- The value of an option, where a missing option is no misuse but a repeated one is. -/
def value? (options : List (String × String)) (spec : OptionSpec) : Option (Option String) :=
  match options.filter (·.1 == spec.name) with
  | [] => some none
  | [o] => some (some o.2)
  | _ => none

/-- A value of an option, read by a function that may refuse it. -/
def readValue? {α : Type} (options : List (String × String)) (spec : OptionSpec)
    (read : String → Option α) : Option (Option α) :=
  match value? options spec with
  | none => none
  | some none => some none
  | some (some s) => (read s).map some

/-- A path, which is not empty. -/
def path? (s : String) : Option String := if s.isEmpty then none else some s

/-- At most one operand. -/
def optional? : List String → Option (Option String)
  | [] => some none
  | [s] => some (some s)
  | _ => none

/-- The options and the reader of a command, by its name. -/
def commandOf? : String → Option (List OptionSpec × (Found → Option Command))
  | "list" => some ([featureOption, formatOption], fun f => do
      let pattern? ← optional? f.operands
      let feature? ← readValue? f.options featureOption (Feature.ofKey? · false)
      let format? ← readValue? f.options formatOption (ReportFormat.ofOption? · false)
      return .list pattern? feature? format?)
  | "generate" => some ([outOption, featureOption, capacityOption], fun f => do
      let pattern? ← optional? f.operands
      let out? ← readValue? f.options outOption path?
      let feature? ← readValue? f.options featureOption (Feature.ofKey? · false)
      let capacity? ← readValue? f.options capacityOption fun s => Text.count? s.toList
      return .generate (out?.getD ".") pattern? feature? capacity?)
  | "compare" => some ([formatOption], fun f => do
      let format? ← readValue? f.options formatOption (ReportFormat.ofOption? · false)
      match f.operands with
      | [source, decoded] => return .compare (← path? source) (← path? decoded) format?
      | _ => none)
  | "verify" => some ([formatOption], fun f => do
      let format? ← readValue? f.options formatOption (ReportFormat.ofOption? · false)
      match ← optional? f.operands with
      | some dir => return .verify (← path? dir) format?
      | none => return .verify "." format?)
  | _ => none

/-- The request of a command line; none if the command line is misused.  An option after the
command overrides the same option in front of it.  To ask for help or for the version is no
request. -/
def Invocation.parse? (args : List String) : Option Invocation := do
  let (early, name, rest) ← readCommand? globalOptions none args
  let (specs, read) ← commandOf? name
  let found ← readArguments? (specs ++ globalOptions) none rest
  let command ← read found
  let earlyConfig? ← readValue? early configOption path?
  let lateConfig? ← readValue? found.options configOption path?
  let earlyVerbose? ← value? early verboseOption
  let lateVerbose? ← value? found.options verboseOption
  return ⟨lateConfig?.or earlyConfig?, earlyVerbose?.isSome || lateVerbose?.isSome, command⟩

end AsmPair.Cli
