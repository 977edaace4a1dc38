import AsmPair.Proofs.Cli.Writing
import AsmPair.Proofs.Files.Folders

/-!
# Generating modules

A command line that generates modules plans all of them before it touches the disk: where the
settings, the capacity or the generation fail, nothing has been written.  Otherwise the output
directory is made, and each module is written into a file of its own.  This succeeds if the paths
of all these files are free once the directory is there.

## Main definitions

* `Cli.planned` — the modules that a command line is going to write.
* `Cli.IsWritten` — the volume after modules were written.

## Main results

* `Cli.exists_writeModules` — modules are written where their paths are free.
* `generate_is_all_or_nothing` — a run writes all modules that it plans, or fails and writes none.
* `generate_fails_in_its_own_directory` — a path that is free only until the directory is made.
-/

namespace AsmPair

open Files

theorem AsmModule.total_eq_sum (ms : List AsmModule) :
    AsmModule.total ms = (ms.map AsmModule.instructions).sum := by
  induction ms with
  | nil => rfl
  | cons m ms ih =>
    rw [List.map_cons, List.sum_cons, ← ih]
    rfl

namespace Cli

variable {u v w : Volume} {out : String} {ms : List AsmModule} {pattern? config? : Option String}
  {feature? : Option Feature} {capacity? : Option Nat}

/-! ### Writing into a directory -/

/-- **Modules of different names are written where their paths are free.**  Nothing else changes,
and all paths lead where they led. -/
theorem exists_writeModules {dir : Location} (hnames : (ms.map AsmModule.name).Nodup)
    (hfree : ∀ m ∈ ms,
      u.resolve (pathPieces (within out (sourceName m))) = .ok (dir ++ [sourceName m]) ∧
        u.node? (dir ++ [sourceName m]) = none) :
    ∃ w, writeModules Volume.disk out ms u = (.ok (), w) ∧
      (∀ m ∈ ms, w.node? (dir ++ [sourceName m]) = some (.text m.source)) ∧
      (∀ l, (∀ m ∈ ms, l ≠ dir ++ [sourceName m]) → w.node? l = u.node? l) ∧
      ∀ ps l, u.resolve ps = .ok l → w.resolve ps = .ok l := by
  induction ms generalizing u with
  | nil => exact ⟨u, rfl, List.forall_mem_nil _, fun _ _ => rfl, fun _ _ h => h⟩
  | cons m ms ih =>
    obtain ⟨hfresh, hrest⟩ := List.nodup_cons.mp hnames
    obtain ⟨hpath, hnone⟩ := hfree m List.mem_cons_self
    have hfile : u.node? (dir ++ [sourceName m]) ≠ some .folder := by
      rw [hnone]
      exact fun h => Option.some_ne_none _ h.symm
    -- no later module has the name of this one
    have hother : ∀ a ∈ ms, dir ++ [sourceName a] ≠ dir ++ [sourceName m] := by
      intro a ha hsame
      have hname := sourceName_injective (List.singleton_inj.mp (List.append_cancel_left hsame))
      exact hfresh (hname ▸ List.mem_map_of_mem ha)
    let u' := u.put (dir ++ [sourceName m]) (.text m.source)
    have hfree' : ∀ a ∈ ms,
        u'.resolve (pathPieces (within out (sourceName a))) = .ok (dir ++ [sourceName a]) ∧
          u'.node? (dir ++ [sourceName a]) = none := by
      intro a ha
      obtain ⟨hpath', hnone'⟩ := hfree a (List.mem_cons_of_mem m ha)
      refine ⟨Volume.resolve_put hfile hpath', ?_⟩
      rw [Volume.node?_put_of_ne (hother a ha), hnone']
    obtain ⟨w, hwritten, hfiles, hframe, hpaths⟩ := ih hrest hfree'
    refine ⟨w, ?_, ?_, ?_, fun ps l h => hpaths ps l (Volume.resolve_put hfile h)⟩
    · rw [writeModules_cons, Volume.write_eq_ok_iff.mpr ⟨_, hpath, hfile, rfl⟩]
      exact hwritten
    · rw [List.forall_mem_cons]
      refine ⟨?_, hfiles⟩
      rw [hframe _ fun a ha => (hother a ha).symm]
      exact Volume.node?_put_self (Volume.isBase_of_node?_eq_none hnone) u _
    · intro l hl
      rw [hframe l fun a ha => hl a (List.mem_cons_of_mem m ha),
        Volume.node?_put_of_ne (hl m List.mem_cons_self)]

/-- A volume after modules were written into a directory.  Each of them is in a file of its own
where nothing was, and apart from these files there is nothing new but directories. -/
structure IsWritten (out : String) (ms : List AsmModule) (v w : Volume) : Prop where
  /-- The modules have different names. -/
  names : (ms.map AsmModule.name).Nodup
  /-- There is one directory, and in it one file for each module. -/
  files : ∃ dir : Location,
    (∀ m ∈ ms, w.resolve (pathPieces (within out (sourceName m))) = .ok (dir ++ [sourceName m]) ∧
      v.node? (dir ++ [sourceName m]) = none ∧
        w.node? (dir ++ [sourceName m]) = some (.text m.source)) ∧
    ∀ l, (∀ m ∈ ms, l ≠ dir ++ [sourceName m]) →
      w.node? l = v.node? l ∨ v.node? l = none ∧ w.node? l = some .folder

/-- Modules are written into a directory that was made, if their paths are free then. -/
theorem exists_isWritten (hnames : (ms.map AsmModule.name).Nodup)
    (hslash : ∀ m ∈ ms, '/' ∉ m.name.toList) (hmade : v.makeFolder out = .ok u)
    (hfree : ∀ m ∈ ms, u.lookup (pathPieces (within out (sourceName m))) = .error .notFound) :
    ∃ w, writeModules Volume.disk out ms u = (.ok (), w) ∧ IsWritten out ms v w := by
  obtain ⟨hgrown, dir, hdir⟩ := Volume.exists_resolve_within hmade
  have hplace := fun m hm => hdir _ (isPlainName_sourceName (hslash m hm)) (hfree m hm)
  obtain ⟨w, hwritten, hfiles, hframe, hpaths⟩ := exists_writeModules hnames hplace
  refine ⟨w, hwritten, hnames, dir, fun m hm => ?_, fun l hl => ?_⟩
  · obtain ⟨hpath, hnone⟩ := hplace m hm
    refine ⟨hpaths _ _ hpath, ?_, hfiles m hm⟩
    rcases hgrown (dir ++ [sourceName m]) with h | ⟨h, -⟩
    · rw [← h, hnone]
    · exact h
  · rw [hframe l hl]
    exact hgrown l

/-! ### Runs -/

/-- The modules that a command line is going to write, with the settings that it loads. -/
def planned (v : Volume) (config? pattern? : Option String) (feature? : Option Feature)
    (capacity? : Option Nat) : Except RunError (List AsmModule) :=
  match (loadSettings Volume.disk config? v).1 with
  | .error e => .error e
  | .ok settings => modulesOf settings pattern? feature? capacity?

/-- Loading the settings changes nothing. -/
theorem loadSettings_snd (config? : Option String) (v : Volume) :
    (loadSettings Volume.disk config? v).2 = v := by
  cases config? <;> rfl

/-- Modules are planned, then the directory is made, and then they are written. -/
theorem generate_apply (settings : Settings) (out : String) (pattern? : Option String)
    (feature? : Option Feature) (capacity? : Option Nat) (v : Volume) :
    generate Volume.disk settings out pattern? feature? capacity? v =
      match modulesOf settings pattern? feature? capacity? with
      | .error e => (.error e, v)
      | .ok ms =>
        match v.makeFolder out with
        | .error e => (.error (.creating out e), v)
        | .ok u =>
          match writeModules Volume.disk out ms u with
          | (.error e, w) => (.error e, w)
          | (.ok (), w) => (.ok (.success (writtenMessage ms)), w) := by
  unfold generate
  cases modulesOf settings pattern? feature? capacity? with
  | error e => rfl
  | ok ms =>
    simp only [bind, StateT.bind, Volume.disk_makeFolder]
    cases v.makeFolder out with
    | error e => rfl
    | ok u =>
      simp only [StateT.bind]
      cases writeModules Volume.disk out ms u with
      | mk result w => cases result <;> rfl

section Run

variable {args : List String} {i : Invocation}

theorem run_generate (hargs : Invocation.parse? args = some i)
    (hcommand : i.command = .generate out pattern? feature? capacity?) (v : Volume) :
    run Volume.disk args v = match (loadSettings Volume.disk i.config? v).1 with
      | .error e => (.failure e, v)
      | .ok settings =>
        match generate Volume.disk settings out pattern? feature? capacity? v with
        | (.error e, w) => (.failure e, w)
        | (.ok outcome, w) => (outcome, w) := by
  have hload := loadSettings_snd i.config? v
  unfold run
  rw [hargs]
  dsimp only
  unfold runInvocation
  simp only [bind, StateT.bind]
  cases hsettings : loadSettings Volume.disk i.config? v with
  | mk result s =>
    rw [hsettings] at hload
    obtain rfl : s = v := hload
    cases result with
    | error e => rfl
    | ok settings =>
      simp only [runCommand, hcommand, StateT.bind]
      cases generate Volume.disk settings out pattern? feature? capacity? s with
      | mk outcome w => cases outcome <;> rfl

/-- A run that cannot plan its modules fails and changes nothing. -/
theorem run_of_planned_error (hargs : Invocation.parse? args = some i)
    (hcommand : i.command = .generate out pattern? feature? capacity?) {e : RunError}
    (h : planned v i.config? pattern? feature? capacity? = .error e) :
    run Volume.disk args v = (.failure e, v) := by
  rw [run_generate hargs hcommand]
  unfold planned at h
  cases hload : (loadSettings Volume.disk i.config? v).1 with
  | error e' =>
    rw [hload] at h
    cases h
    rfl
  | ok settings =>
    rw [hload] at h
    dsimp only at h ⊢
    rw [generate_apply, h]

/-- A run that has planned its modules makes the directory and writes them. -/
theorem run_of_planned (hargs : Invocation.parse? args = some i)
    (hcommand : i.command = .generate out pattern? feature? capacity?)
    (h : planned v i.config? pattern? feature? capacity? = .ok ms)
    (hmade : v.makeFolder out = .ok u) :
    run Volume.disk args v = match writeModules Volume.disk out ms u with
      | (.error e, w) => (.failure e, w)
      | (.ok (), w) => (.success (writtenMessage ms), w) := by
  rw [run_generate hargs hcommand]
  unfold planned at h
  cases hload : (loadSettings Volume.disk i.config? v).1 with
  | error e =>
    rw [hload] at h
    cases h
  | ok settings =>
    rw [hload] at h
    dsimp only at h ⊢
    rw [generate_apply, h]
    dsimp only
    rw [hmade]
    dsimp only
    cases writeModules Volume.disk out ms u with
    | mk result w => cases result <;> rfl

/-- What is planned comes from the standard catalog, so its modules have names of their own that
lead to places in a directory. -/
theorem names_of_planned (h : planned v config? pattern? feature? capacity? = .ok ms) :
    (ms.map AsmModule.name).Nodup ∧ ∀ m ∈ ms, '/' ∉ m.name.toList := by
  unfold planned at h
  split at h
  · cases h
  · obtain ⟨c, hgenerate⟩ := exists_generate_of_modulesOf h
    exact ⟨(Composer.nodup_names_of_generate Catalog.build_standardTables
      sharing_standardTables_le isNamed_of_mem_standard hgenerate).1, slash_not_mem_name hgenerate⟩

end Run

end Cli

/-- **A run that generates modules writes all of them or none.**  Where the settings, the capacity
or the generation fail, it exits with 1 and changes nothing.  Otherwise, if the output directory can
be made and the paths of the modules are free once it is there, it exits with 0, tells how many
modules and instructions there are, and has written exactly one file for each module. -/
theorem generate_is_all_or_nothing {args : List String} {i : Cli.Invocation} {out : String}
    {pattern? : Option String} {feature? : Option Feature} {capacity? : Option Nat}
    (hargs : Cli.Invocation.parse? args = some i)
    (hcommand : i.command = .generate out pattern? feature? capacity?) (v : Volume) :
    (∀ e, Cli.planned v i.config? pattern? feature? capacity? = .error e →
      Cli.run Volume.disk args v = (⟨1, "", e.report⟩, v)) ∧
    ∀ ms u, Cli.planned v i.config? pattern? feature? capacity? = .ok ms →
      v.makeFolder out = .ok u →
      (∀ m ∈ ms, u.lookup (pathPieces (within out (Cli.sourceName m))) = .error .notFound) →
        ∃ w, Cli.run Volume.disk args v = (⟨0, toString ms.length ++ " modules, " ++
            toString (ms.map AsmModule.instructions).sum ++ " instructions\n", ""⟩, w) ∧
          Cli.IsWritten out ms v w := by
  refine ⟨fun e h => Cli.run_of_planned_error hargs hcommand h, fun ms u h hmade hfree => ?_⟩
  obtain ⟨hnames, hslash⟩ := Cli.names_of_planned h
  obtain ⟨w, hwritten, hfiles⟩ := Cli.exists_isWritten hnames hslash hmade hfree
  refine ⟨w, ?_, hfiles⟩
  rw [Cli.run_of_planned hargs hcommand h hmade, hwritten, ← AsmModule.total_eq_sum]
  rfl

/-- A small capacity overrides the settings file, and the three modules of a form are written into a
new directory in a new directory.  A capacity of zero is no good, and nothing is written. -/
theorem generate_is_all_or_nothing_in_new_directory :
    let v : Volume := ⟨[(["t.cfg"], .text "capacity=100\n")]⟩
    (∃ ms w, ms.map AsmModule.name = ["ADC01a", "ADC01b", "ADC01c"] ∧
      Cli.run Volume.disk ["-c", "t.cfg", "generate", "54", "-o", "new/sub", "--capacity", "50"] v =
        (⟨0, toString ms.length ++ " modules, " ++
          toString (ms.map AsmModule.instructions).sum ++ " instructions\n", ""⟩, w) ∧
      Cli.IsWritten "new/sub" ms v w) ∧
    ∃ e : Cli.RunError, Cli.run Volume.disk ["generate", "--capacity", "0"] v =
      (⟨1, "", e.report⟩, v) := by
  intro v
  let u : Volume := ⟨v.nodes ++ [(["new"], .folder), (["new", "sub"], .folder)]⟩
  constructor
  · have hargs : Cli.Invocation.parse?
        ["-c", "t.cfg", "generate", "54", "-o", "new/sub", "--capacity", "50"] =
          some ⟨some "t.cfg", false, .generate "new/sub" (some "54") none (some 50)⟩ := by
      decide +kernel
    have hplanned : (Cli.planned v (some "t.cfg") (some "54") none (some 50)).map
        (·.map AsmModule.name) = .ok ["ADC01a", "ADC01b", "ADC01c"] := by decide +kernel
    have hmade : v.makeFolder "new/sub" = .ok u := by decide +kernel
    have hfree : ∀ name ∈ ["ADC01a", "ADC01b", "ADC01c"],
        u.lookup (pathPieces (within "new/sub" (name ++ ".asm"))) = .error .notFound := by
      decide +kernel
    obtain ⟨ms, hms, hnames⟩ := map_eq_ok_iff.mp hplanned
    obtain ⟨w, hrun, hwritten⟩ := (generate_is_all_or_nothing hargs rfl v).2 ms u hms hmade
      fun m hm => hfree m.name (hnames ▸ List.mem_map_of_mem hm)
    exact ⟨ms, w, hnames, hrun, hwritten⟩
  · have hargs : Cli.Invocation.parse? ["generate", "--capacity", "0"] =
        some ⟨none, false, .generate "." none none (some 0)⟩ := by decide +kernel
    have hfails : (Cli.planned v none none none (some 0)).isOk = false := by decide +kernel
    cases hplanned : Cli.planned v none none none (some 0) with
    | error e => exact ⟨e, (generate_is_all_or_nothing hargs rfl v).1 e hplanned⟩
    | ok ms =>
      rw [hplanned] at hfails
      cases hfails

/-- An output directory that is reached through a directory of the name of a module.  In the
beginning there is nothing at all; the settings are good, the module is generated, and the output
directory is made.  But on the way to it the name of the module is taken, so the run fails and no
file is written. -/
theorem generate_fails_in_its_own_directory :
    let v : Volume := ⟨[]⟩
    let u : Volume := ⟨[(["JC01.asm"], .folder)]⟩
    let args := ["generate", "JC", "-o", "JC01.asm/.."]
    ∃ i ms, Cli.Invocation.parse? args = some i ∧
      i.command = .generate "JC01.asm/.." (some "JC") none none ∧
      Cli.planned v i.config? (some "JC") none none = .ok ms ∧
      ms.map Cli.sourceName = ["JC01.asm"] ∧
      v.makeFolder "JC01.asm/.." = .ok u ∧ v.holds "JC01.asm" = false ∧
      Cli.run Volume.disk args v = (⟨1, "", "Error: writing JC01.asm/../JC01.asm\n\n" ++
        "Caused by:\n    Is a directory (os error 21)\n"⟩, u) := by
  intro v u args
  have hargs : Cli.Invocation.parse? args =
      some ⟨none, false, .generate "JC01.asm/.." (some "JC") none none⟩ := by decide +kernel
  have hplanned : (Cli.planned v none (some "JC") none none).map (·.map Cli.sourceName) =
      .ok ["JC01.asm"] := by decide +kernel
  have hmade : v.makeFolder "JC01.asm/.." = .ok u := by decide +kernel
  have htaken : u.lookup (pathPieces "JC01.asm/../JC01.asm") = .ok .folder := by decide +kernel
  obtain ⟨ms, hms, hnames⟩ := map_eq_ok_iff.mp hplanned
  refine ⟨_, ms, hargs, rfl, hms, hnames, hmade, by decide +kernel, ?_⟩
  obtain ⟨m, ms, rfl, hname, -⟩ := List.map_eq_cons_iff.mp hnames
  have houtcome : Cli.Outcome.failure (.writing "JC01.asm/../JC01.asm" .isADirectory) =
      ⟨1, "", "Error: writing JC01.asm/../JC01.asm\n\n" ++
        "Caused by:\n    Is a directory (os error 21)\n"⟩ := by decide +kernel
  have hpath : within "JC01.asm/.." "JC01.asm" = "JC01.asm/../JC01.asm" := by decide +kernel
  rw [Cli.run_of_planned hargs rfl hms hmade, Cli.writeModules_cons, hname, hpath,
    Volume.write_of_folder htaken, ← houtcome]

end AsmPair
