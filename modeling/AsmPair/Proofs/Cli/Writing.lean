import AsmPair.Cli.Run
import AsmPair.Proofs.Files.Volume
import AsmPair.Proofs.Module.Naming

/-!
# Written modules

The modules that are generated together are written one after the other, each into a file of its
own name in one directory.  Their names differ, so none of them is overwritten by a later one.

## Main results

* `Cli.read_of_writeModules` — modules with different names are all read back.
* `module_names_are_unique` — names of modules, and the files that the command line writes.
-/

namespace AsmPair

open Files

/-! ### File names of modules -/

@[simp] theorem toList_sourceName (m : AsmModule) :
    (Cli.sourceName m).toList = m.name.toList ++ ".asm".toList :=
  String.toList_append

theorem sourceName_injective {m m' : AsmModule} (h : Cli.sourceName m = Cli.sourceName m') :
    m.name = m'.name := by
  have hlist := congrArg String.toList h
  rw [toList_sourceName, toList_sourceName] at hlist
  exact String.toList_injective (List.append_cancel_right hlist)

/-- A name without slashes is made a file name by the extension. -/
theorem isPlainName_sourceName {m : AsmModule} (h : '/' ∉ m.name.toList) :
    IsPlainName (Cli.sourceName m) := by
  have hlength : 4 ≤ (Cli.sourceName m).toList.length := by
    rw [toList_sourceName, List.length_append]
    exact Nat.le_add_left 4 _
  have hne : ∀ piece : String, piece.toList.length < 4 → Cli.sourceName m ≠ piece := by
    rintro piece hpiece rfl
    omega
  refine ⟨?_, ?_, hne ".." (by decide)⟩
  · rw [toList_sourceName]
    intro hmem
    rcases List.mem_append.mp hmem with hmem | hmem
    · exact h hmem
    · exact absurd hmem (by decide)
  · unfold isIdle
    rw [beq_false_of_ne (hne "" (by decide)), beq_false_of_ne (hne "." (by decide))]
    rfl

/-- The names of modules of the standard catalog have no slash. -/
theorem slash_not_mem_name {c : Composer} {s : Selection} {ms : List AsmModule}
    (h : c.generate .standard s = .ok ms) : ∀ m ∈ ms, '/' ∉ m.name.toList := by
  obtain ⟨fs, hfs, rfl⟩ := Composer.exists_blocks_of_generate h
  intro m hm
  rcases Composer.name_of_mem_blocks hm with hname | ⟨f, hf, hop, hname⟩
  · have hbare : ∀ name ∈ Feature.all.map Feature.bareName, '/' ∉ name.toList := by decide
    exact hbare m.name hname
  · have hbuild := Catalog.build_standardTables
    have hordinal : f.ordinal ≤ 99 :=
      Nat.le_trans (Catalog.ordinal_le_sharing hbuild (hfs.subset hf) hop)
        (sharing_standardTables_le f.stem)
    obtain ⟨entry, hentry, hmnemonic⟩ := Catalog.exists_form_of_build hbuild (hfs.subset hf) hop
    obtain ⟨suffix, hsplit, hsuffix⟩ := Form.exists_suffix_of_mem_moduleNames hname
    have hstem : '/' ∉ f.stem.toList := by
      unfold Form.stem
      rw [String.toList_ofList, hmnemonic]
      exact fun hmem => (mnemonics_standardTables.1 entry hentry).2
        (List.mem_of_mem_filter (List.mem_of_mem_take hmem))
    rw [hsplit, Form.toList_baseName]
    intro hmem
    rcases List.mem_append.mp hmem with hmem | hmem
    · rcases List.mem_append.mp hmem with hmem | hmem
      · exact hstem hmem
      · obtain ⟨-, hdigits, -⟩ := twoDigits_of_lt f.ordinal (by omega)
        exact absurd (List.all_eq_true.mp hdigits '/' hmem) (by decide)
    · rcases hsuffix with rfl | ⟨letter, hletter, rfl⟩
      · cases hmem
      · rw [← List.mem_singleton.mp hmem] at hletter
        exact absurd hletter (by decide)

/-! ### Writing modules -/

namespace Cli

variable {v w : Volume} {out : String} {ms : List AsmModule}

/-- The first module is written, then the others. -/
theorem writeModules_cons (m : AsmModule) (ms : List AsmModule) (out : String) (v : Volume) :
    writeModules Volume.disk out (m :: ms) v =
      match v.write (within out (sourceName m)) m.source with
      | .error e => (.error (.writing (within out (sourceName m)) e), v)
      | .ok u => writeModules Volume.disk out ms u := by
  rw [writeModules]
  simp only [bind, StateT.bind, Volume.disk_write]
  cases v.write (within out (sourceName m)) m.source <;> rfl

/-- What is read of a file stays while modules of other names are written. -/
theorem read_stays_of_writeModules {name text : String} (hname : IsPlainName name)
    (hms : ∀ m ∈ ms, IsPlainName (sourceName m) ∧ sourceName m ≠ name)
    (h : writeModules Volume.disk out ms v = (.ok (), w))
    (hread : v.read (within out name) = .ok text) : w.read (within out name) = .ok text := by
  induction ms generalizing v with
  | nil =>
    cases h
    exact hread
  | cons m ms ih =>
    rw [writeModules_cons] at h
    split at h
    · cases h
    · next u hu =>
      obtain ⟨hplain, hne⟩ := hms m List.mem_cons_self
      exact ih (fun a ha => hms a (List.mem_cons_of_mem m ha)) h
        (Volume.read_write_within hplain hname hne hu hread)

/-- **Modules with different names are all read back.** -/
theorem read_of_writeModules (hnames : (ms.map AsmModule.name).Nodup)
    (hms : ∀ m ∈ ms, '/' ∉ m.name.toList)
    (h : writeModules Volume.disk out ms v = (.ok (), w)) :
    ∀ m ∈ ms, w.read (within out (sourceName m)) = .ok m.source := by
  induction ms generalizing v with
  | nil => exact List.forall_mem_nil _
  | cons m ms ih =>
    obtain ⟨hfresh, hrest⟩ := List.nodup_cons.mp hnames
    have hplain : ∀ a ∈ m :: ms, IsPlainName (sourceName a) :=
      fun a ha => isPlainName_sourceName (hms a ha)
    rw [writeModules_cons] at h
    split at h
    · cases h
    · next u hu =>
      rw [List.forall_mem_cons]
      refine ⟨?_, ih hrest (fun a ha => hms a (List.mem_cons_of_mem m ha)) h⟩
      -- no later module has the name of this one
      have hlater : ∀ a ∈ ms, IsPlainName (sourceName a) ∧ sourceName a ≠ sourceName m := by
        intro a ha
        refine ⟨hplain a (List.mem_cons_of_mem m ha), fun hsame => hfresh ?_⟩
        rw [← sourceName_injective hsame]
        exact List.mem_map_of_mem ha
      exact read_stays_of_writeModules (hplain m List.mem_cons_self) hlater h
        (Volume.read_write_self hu)

/-- What the command line generates comes from the standard catalog. -/
theorem exists_generate_of_modulesOf {settings : Settings} {pattern? : Option String}
    {feature? : Option Feature} {capacity? : Option Nat}
    (h : modulesOf settings pattern? feature? capacity? = .ok ms) :
    ∃ c : Composer, c.generate .standard (selectionOf pattern? feature?) = .ok ms := by
  unfold modulesOf at h
  split at h
  · cases h
  · next s _ =>
    refine ⟨s.composer, ?_⟩
    cases hgenerate : s.composer.generate .standard (selectionOf pattern? feature?) with
    | error e =>
      rw [hgenerate] at h
      cases h
    | ok ms' =>
      rw [hgenerate] at h
      cases h
      rfl

/-- A run that generates modules without an error has written all of them. -/
theorem exists_writeModules_of_generate {settings : Settings} {pattern? : Option String}
    {feature? : Option Feature} {capacity? : Option Nat} {outcome : Outcome}
    (h : generate Volume.disk settings out pattern? feature? capacity? v = (.ok outcome, w)) :
    ∃ ms u, modulesOf settings pattern? feature? capacity? = .ok ms ∧
      writeModules Volume.disk out ms u = (.ok (), w) := by
  unfold generate at h
  cases hms : modulesOf settings pattern? feature? capacity? with
  | error e =>
    rw [hms] at h
    cases h
  | ok ms =>
    rw [hms] at h
    simp only [bind, StateT.bind, Volume.disk_makeFolder] at h
    cases hu : v.makeFolder out with
    | error e =>
      rw [hu] at h
      cases h
    | ok u =>
      rw [hu] at h
      simp only [StateT.bind] at h
      cases hwritten : writeModules Volume.disk out ms u with
      | mk result u' =>
        rw [hwritten] at h
        cases result with
        | error e => cases h
        | ok written =>
          cases h
          exact ⟨ms, u, rfl, hwritten⟩

end Cli

/-- **Modules that are generated together have different names, and none is overwritten.**  Where
two digits suffice to number the entries of a stem, and no mnemonic of a form with operands is empty
or begins with a digit, all modules that one selection generates have different names of at most
eight characters.  This holds of the standard tables, so every module that the command line writes
is read back when it has ended. -/
theorem module_names_are_unique :
    (∀ (tables : List Table) (catalog : Catalog), Catalog.build tables = .ok catalog →
      (∀ stem, Catalog.sharing tables stem ≤ 99) →
      (∀ f ∈ catalog.forms, f.isBare = false → f.IsNamed) →
      ∀ (c : Composer) (s : Selection) (ms : List AsmModule), c.generate catalog s = .ok ms →
        (ms.map AsmModule.name).Nodup ∧ ∀ m ∈ ms, m.name.length ≤ 8) ∧
    ((∀ stem, Catalog.sharing standardTables stem ≤ 99) ∧
      ∀ f ∈ Catalog.standard.forms, f.isBare = false → f.IsNamed) ∧
    ∀ (settings : Settings) (out : String) (pattern? : Option String) (feature? : Option Feature)
      (capacity? : Option Nat) (v w : Volume) (outcome : Cli.Outcome),
      Cli.generate Volume.disk settings out pattern? feature? capacity? v = (.ok outcome, w) →
        ∃ ms, Cli.modulesOf settings pattern? feature? capacity? = .ok ms ∧
          (ms.map AsmModule.name).Nodup ∧ (∀ m ∈ ms, m.name.length ≤ 8) ∧
            ∀ m ∈ ms, w.read (within out (Cli.sourceName m)) = .ok m.source := by
  refine ⟨fun tables catalog hbuild hstems hnamed c s ms h =>
      Composer.nodup_names_of_generate hbuild hstems hnamed h,
    ⟨sharing_standardTables_le, isNamed_of_mem_standard⟩, ?_⟩
  intro settings out pattern? feature? capacity? v w outcome h
  obtain ⟨ms, u, hms, hwritten⟩ := Cli.exists_writeModules_of_generate h
  obtain ⟨c, hgenerate⟩ := Cli.exists_generate_of_modulesOf hms
  obtain ⟨hnames, hlength⟩ := Composer.nodup_names_of_generate Catalog.build_standardTables
    sharing_standardTables_le isNamed_of_mem_standard hgenerate
  exact ⟨ms, hms, hnames, hlength,
    Cli.read_of_writeModules hnames (slash_not_mem_name hgenerate) hwritten⟩

/-- Two mnemonics of one stem in two tables, and the three modules that the command line writes for
one form under a small capacity. -/
theorem module_names_are_unique_for_one_stem :
    let tables : List Table :=
      [⟨.cpu8086, ["nop"], [("loopne", ["rel8"]), ("mov", ["r8", "r/m8"])]⟩,
        ⟨.cpu286, [], [("loopnz", ["rel8"])]⟩]
    (∃ catalog ms, Catalog.build tables = .ok catalog ∧
      (Composer.ofCapacity 100 "start").generate catalog .everything = .ok ms ∧
      ms.map AsmModule.name = ["8086", "LOOPN01", "MOV01a", "MOV01b", "LOOPN02"] ∧
      (ms.map AsmModule.name).Nodup ∧ ∀ m ∈ ms, m.name.length ≤ 8) ∧
    ∃ outcome w ms,
      Cli.generate Volume.disk .default "out" (some "54") none (some 50) ⟨[]⟩ = (.ok outcome, w) ∧
      Cli.modulesOf .default (some "54") none (some 50) = .ok ms ∧
      ms.map AsmModule.name = ["ADC01a", "ADC01b", "ADC01c"] ∧
      ∀ m ∈ ms, w.read (within "out" (Cli.sourceName m)) = .ok m.source := by
  intro tables
  obtain ⟨hnames, -, hwritten⟩ := module_names_are_unique
  constructor
  · let catalog : Catalog := ⟨[
      { mnemonic := "NOP", templates := [], feature := .cpu8086, index := 1 },
      { mnemonic := "LOOPNE", templates := [.branch .conditional], feature := .cpu8086,
        index := 2 },
      { mnemonic := "MOV", templates := [.register .byte, .registerOrMemory .byte],
        feature := .cpu8086, index := 3 },
      { mnemonic := "LOOPNZ", templates := [.branch .conditional], feature := .cpu286, index := 4,
        ordinal := 2 }]⟩
    have hbuild : Catalog.build tables = .ok catalog := rfl
    have hstems : ∀ stem, Catalog.sharing tables stem ≤ 99 := fun stem =>
      Nat.le_trans List.countP_le_length (by decide)
    have hfive : ((Composer.ofCapacity 100 "start").generate catalog .everything).map
        (·.map AsmModule.name) = .ok ["8086", "LOOPN01", "MOV01a", "MOV01b", "LOOPN02"] := by
      decide +kernel
    obtain ⟨ms, hms, hfive⟩ := map_eq_ok_iff.mp hfive
    obtain ⟨hnodup, hlength⟩ := hnames tables catalog hbuild hstems (by decide) _ _ ms hms
    exact ⟨catalog, ms, hbuild, hms, hfive, hnodup, hlength⟩
  · have hok : (Cli.generate Volume.disk .default "out" (some "54") none (some 50) ⟨[]⟩).1.isOk =
        true := by decide +kernel
    have hthree : (Cli.modulesOf .default (some "54") none (some 50)).map
        (·.map AsmModule.name) = .ok ["ADC01a", "ADC01b", "ADC01c"] := by decide +kernel
    obtain ⟨ms, hms, hthree⟩ := map_eq_ok_iff.mp hthree
    cases hrun : Cli.generate Volume.disk .default "out" (some "54") none (some 50) ⟨[]⟩ with
    | mk result w =>
      rw [hrun] at hok
      cases result with
      | error e => cases hok
      | ok outcome =>
        obtain ⟨ms', hms', -, -, hread⟩ := hwritten _ _ _ _ _ _ _ _ hrun
        rw [hms] at hms'
        cases hms'
        exact ⟨outcome, w, ms, rfl, hms, hthree, hread⟩

end AsmPair
