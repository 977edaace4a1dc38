import AsmPair.Text.Case

/-!
# Processor features

Every instruction form belongs to the processor or coprocessor that introduced it.  The feature
decides which processor directive a module needs and how its module of operand-less instructions
is called.

## Main definitions

* `Feature` — the five features.
* `Feature.key`, `Feature.ofKey?` — the short name used on the command line and in reports.
* `Feature.label` — the name used in prose.
* `Feature.directive?`, `Feature.bareName` — what a module of the feature needs.
-/

namespace AsmPair

/-- The processor or coprocessor that an instruction form depends on. -/
inductive Feature where
  /-- The base 8086 instruction set. -/
  | cpu8086 : Feature
  /-- The 8087 numeric coprocessor. -/
  | fpu8087 : Feature
  /-- The 80286 extensions that need no privilege. -/
  | cpu286 : Feature
  /-- The protected-mode instructions of the 80286. -/
  | cpu286Protected : Feature
  /-- The 80287 numeric coprocessor extensions. -/
  | fpu287 : Feature
  deriving DecidableEq, Repr, Inhabited

namespace Feature

/-- All features, in catalog order. -/
def all : List Feature := [cpu8086, fpu8087, cpu286, cpu286Protected, fpu287]

theorem mem_all (f : Feature) : f ∈ all := by cases f <;> decide

theorem nodup_all : all.Nodup := by decide

/-- The short name of a feature. -/
def key : Feature → String
  | cpu8086 => "cpu8086"
  | fpu8087 => "fpu8087"
  | cpu286 => "cpu286"
  | cpu286Protected => "cpu286-protected"
  | fpu287 => "fpu287"

/-- The name of a feature in prose. -/
def label : Feature → String
  | cpu8086 => "8086"
  | fpu8087 => "8087"
  | cpu286 => "80286"
  | cpu286Protected => "80286 protected mode"
  | fpu287 => "80287"

/-- The directive that a module has to declare before it uses the feature.  `P286N` keeps the
assembler from putting a wait in front of every coprocessor instruction. -/
def directive? : Feature → Option String
  | cpu8086 => none
  | fpu8087 => some "P286N"
  | cpu286 => some "P286N"
  | cpu286Protected => some "P286"
  | fpu287 => some "P286"

/-- The name of the module that holds the operand-less instructions of the feature. -/
def bareName : Feature → String
  | cpu8086 => "8086"
  | fpu8087 => "8087"
  | cpu286 => "80286N"
  | cpu286Protected => "80286P"
  | fpu287 => "80287"

/-- The feature with a short name; the case of ASCII letters may be left out of account. -/
def ofKey? (text : String) (ignoreCase : Bool) : Option Feature :=
  all.find? fun f => if ignoreCase then Text.sameLetters f.key text else f.key == text

/-- A feature is found by its own name. -/
@[simp] theorem ofKey?_key (f : Feature) : ofKey? f.key false = some f := by cases f <;> decide

end Feature

end AsmPair
