import AsmPair.Catalog.Standard
import AsmPair.Cli.Arguments
import AsmPair.Files.Disk
import AsmPair.Files.Name
import AsmPair.Report.Render
import AsmPair.Settings

/-!
# Running commands

The commands list the catalog, write modules, compare the two listings of a module, and compare
all modules of a directory, where a source `NAME.asm` is paired with the decoded listing
`NAME.dis`.  A command ends with an exit code and with texts for the two output streams.  It
fails with exit code 1 when something cannot be done, and also when a comparison finds a
mismatch or has no decoded listing to look at.

What a run logs is no part of its outcome: not the names that its settings pass over, and not what
it tells in addition when it is asked to.  Nor are the texts about the use of the program, so that a
command line that asks for help or for the version counts as misused.

## Main definitions

* `RunError`, `RunError.report` — why a command fails, and how that is told.
* `Outcome` — exit code and output.
* `run` — run a command line on a disk.
-/

namespace AsmPair.Cli

/-! ### Errors -/

/-- Why a command fails. -/
inductive RunError where
  /-- The settings file is no good. -/
  | loading (path : String) (cause : SettingsError) : RunError
  /-- A setting given as an option is no good. -/
  | setting (cause : SettingsError) : RunError
  /-- There is nothing to list, or nothing can be composed. -/
  | generation (cause : GenerationError) : RunError
  /-- The output directory cannot be made. -/
  | creating (path : String) (cause : FileFailure) : RunError
  /-- A module cannot be written. -/
  | writing (path : String) (cause : FileFailure) : RunError
  /-- A listing or directory cannot be read. -/
  | reading (path : String) (cause : FileFailure) : RunError
  /-- A directory holds no module. -/
  | noModules (dir : String) : RunError
  deriving DecidableEq, Repr

/-- What went wrong. -/
def RunError.headline : RunError → String
  | loading path _ => "loading " ++ path
  | setting cause => cause.message
  | generation cause => cause.message
  | creating path _ => "creating " ++ path
  | writing path _ => "writing " ++ path
  | reading path _ => "reading " ++ path
  | noModules dir => "no .asm modules in " ++ dir

/-- What brought it about, from the next cause to the last. -/
def RunError.causes : RunError → List String
  | loading _ (.unreadable cause) => [(SettingsError.unreadable cause).message, cause.message]
  | loading _ cause => [cause.message]
  | setting _ | generation _ | noModules _ => []
  | creating _ cause | writing _ cause | reading _ cause => [cause.message]

/-- The lines about the causes: a single cause is not numbered, several are, from zero. -/
def causeLines : List String → List String
  | [] => []
  | [cause] => ["", "Caused by:", "    " ++ cause]
  | causes =>
    "" :: "Caused by:" ::
      causes.zipIdx.map fun c => "    " ++ toString c.2 ++ ": " ++ c.1

/-- How an error is told. -/
def RunError.report (e : RunError) : String :=
  String.join ((("Error: " ++ e.headline) :: causeLines e.causes).map (· ++ "\n"))

/-- How a command ends. -/
structure Outcome where
  /-- The exit code. -/
  exit : Nat
  /-- What goes to the standard output. -/
  stdout : String
  /-- What goes to the standard error stream, without the lines of the log. -/
  stderr : String
  deriving DecidableEq, Repr

/-- How to use the program, told when it is misused. -/
def usage : String :=
  String.join (["usage: [-c FILE] [-v] list [PATTERN] [--feature FEATURE] [-f FORMAT]",
    "       [-c FILE] [-v] generate [PATTERN] [-o DIR] [--feature FEATURE] [--capacity N]",
    "       [-c FILE] [-v] compare SOURCE DECODED [-f FORMAT]",
    "       [-c FILE] [-v] verify [DIR] [-f FORMAT]"].map (· ++ "\n"))

/-- The outcome of a misused command line. -/
def Outcome.misuse : Outcome := ⟨2, "", usage⟩

/-- The outcome of a command that ends well. -/
def Outcome.success (stdout : String) : Outcome := ⟨0, stdout, ""⟩

/-- The outcome of a command that fails. -/
def Outcome.failure (e : RunError) : Outcome := ⟨1, "", e.report⟩

/-! ### Commands -/

/-- The selection that a pattern and a feature make. -/
def selectionOf (pattern? : Option String) (feature? : Option Feature) : Selection :=
  ⟨pattern?.map Pattern.parse, feature?⟩

/-- List the selected forms of the catalog. -/
def list (settings : Settings) (pattern? : Option String) (feature? : Option Feature)
    (format? : Option ReportFormat) : Except RunError Outcome :=
  match Catalog.standard.rows (selectionOf pattern? feature?) with
  | .error e => .error (.generation e)
  | .ok rows => .ok (.success ((format?.getD settings.format).listing rows))

/-- The settings with a capacity that is given as an option. -/
def withCapacity (settings : Settings) : Option Nat → Except RunError Settings
  | none => .ok settings
  | some n => (settings.set "shard_capacity" (toString n)).mapError .setting

/-- The modules to write. -/
def modulesOf (settings : Settings) (pattern? : Option String) (feature? : Option Feature)
    (capacity? : Option Nat) : Except RunError (List AsmModule) :=
  match withCapacity settings capacity? with
  | .error e => .error e
  | .ok s =>
    (s.composer.generate .standard (selectionOf pattern? feature?)).mapError .generation

/-- The file name of a module. -/
def sourceName (m : AsmModule) : String := m.name ++ ".asm"

/-- The message about the modules that were written. -/
def writtenMessage (ms : List AsmModule) : String :=
  toString ms.length ++ " modules, " ++ toString (AsmModule.total ms) ++ " instructions\n"

/-- The outcome of a comparison of modules, some of which have no decoded listing. -/
def reportOutcome (format : ReportFormat) (vs : List ModuleVerdict) (missing : List String) :
    Outcome :=
  ⟨if vs.all (·.verdict.isMatch) && missing.isEmpty then 0 else 1,
    format.report vs,
    String.join (missing.map fun name => name ++ ": no decoded listing\n")⟩

/-- The names of the modules in a directory, in order. -/
def sourcesAmong (names : List String) : List String :=
  (names.filter (Files.hasExtension "asm")).mergeSort fun a b => !decide (b < a)

section

variable {m : Type → Type} [Monad m]

/-- The settings of a run. -/
def loadSettings (disk : Disk m) : Option String → m (Except RunError Settings)
  | none => pure (.ok .default)
  | some path => do
    let contents ← disk.read path
    return (Settings.load contents).result.mapError (.loading path)

/-- Write modules into a directory, one after the other. -/
def writeModules (disk : Disk m) (out : String) : List AsmModule → m (Except RunError Unit)
  | [] => pure (.ok ())
  | a :: as => do
    let path := Files.within out (sourceName a)
    match ← disk.write path a.source with
    | .error e => return .error (.writing path e)
    | .ok () => writeModules disk out as

/-- Write the modules of the selected forms. -/
def generate (disk : Disk m) (settings : Settings) (out : String) (pattern? : Option String)
    (feature? : Option Feature) (capacity? : Option Nat) : m (Except RunError Outcome) :=
  match modulesOf settings pattern? feature? capacity? with
  | .error e => pure (.error e)
  | .ok ms => do
    match ← disk.makeFolder out with
    | .error e => return .error (.creating out e)
    | .ok () =>
      match ← writeModules disk out ms with
      | .error e => return .error e
      | .ok () => return .ok (.success (writtenMessage ms))

/-- The lines of a listing in a file. -/
def readListing (disk : Disk m) (path : String) : m (Except RunError (List Line)) := do
  match ← disk.read path with
  | .error e => return .error (.reading path e)
  | .ok text => return .ok (Line.listing text)

/-- The two listings of a module. -/
def readSpecimen (disk : Disk m) (name source decoded : String) :
    m (Except RunError Specimen) := do
  match ← readListing disk source with
  | .error e => return .error e
  | .ok a =>
    match ← readListing disk decoded with
    | .error e => return .error e
    | .ok b => return .ok ⟨name, a, b⟩

/-- Compare the two listings of a module. -/
def compare (disk : Disk m) (settings : Settings) (source decoded : String)
    (format? : Option ReportFormat) : m (Except RunError Outcome) := do
  match ← readSpecimen disk (Files.moduleNameOf source) source decoded with
  | .error e => return .error e
  | .ok s =>
    return .ok (reportOutcome (format?.getD settings.format) (settings.matcher.compareAll [s]) [])

/-- The modules in a directory, and the names of those without decoded listing. -/
def readSpecimens (disk : Disk m) (dir : String) :
    List String → m (Except RunError (List Specimen × List String))
  | [] => pure (.ok ([], []))
  | source :: sources => do
    let stem := Files.stemOf source
    let decoded := Files.within dir (Files.withExtension "dis" source)
    if ← disk.holds decoded then
      match ← readSpecimen disk stem (Files.within dir source) decoded with
      | .error e => return .error e
      | .ok s => return (← readSpecimens disk dir sources).map fun r => (s :: r.1, r.2)
    else return (← readSpecimens disk dir sources).map fun r => (r.1, stem :: r.2)

/-- Compare the modules in a directory. -/
def verify (disk : Disk m) (settings : Settings) (dir : String) (format? : Option ReportFormat) :
    m (Except RunError Outcome) := do
  match ← disk.names dir with
  | .error e => return .error (.reading dir e)
  | .ok names =>
    let sources := sourcesAmong names
    if sources.isEmpty then return .error (.noModules dir)
    else
      match ← readSpecimens disk dir sources with
      | .error e => return .error e
      | .ok (specimens, missing) =>
        return .ok (reportOutcome (format?.getD settings.format)
          (settings.matcher.compareAll specimens) missing)

/-- Run a command. -/
def runCommand (disk : Disk m) (settings : Settings) : Command → m (Except RunError Outcome)
  | .list pattern? feature? format? => pure (list settings pattern? feature? format?)
  | .generate out pattern? feature? capacity? =>
    generate disk settings out pattern? feature? capacity?
  | .compare source decoded format? => compare disk settings source decoded format?
  | .verify dir format? => verify disk settings dir format?

/-- Run an invocation: load the settings, then run the command with them.  Whether it is verbose
matters to the log only, and so do the names that the settings pass over. -/
def runInvocation (disk : Disk m) (i : Invocation) : m Outcome := do
  match ← loadSettings disk i.config? with
  | .error e => return .failure e
  | .ok settings =>
    match ← runCommand disk settings i.command with
    | .error e => return .failure e
    | .ok outcome => return outcome

/-- Run a command line.  One that asks for help or for the version is taken as a misused one. -/
def run (disk : Disk m) (args : List String) : m Outcome :=
  match Invocation.parse? args with
  | none => pure .misuse
  | some i => runInvocation disk i

end

end AsmPair.Cli
