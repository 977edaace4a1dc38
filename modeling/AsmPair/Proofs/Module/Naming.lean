import AsmPair.Proofs.Catalog.Numbering
import AsmPair.Proofs.Module.Generation
import AsmPair.Proofs.Text.Spacing
import Mathlib.Data.Bool.AllAny

/-!
# Names of modules

The modules of a form are named by its stem, its number in two digits, and a letter where there are
several; the modules of instructions without operands have names of their own that begin with a
digit.  As long as two digits suffice and no stem begins with a digit, all modules that are
generated together have different names, none of which has more than eight characters.

## Main definitions

* `Form.IsNamed` — a form whose mnemonic can begin a name.

## Main results

* `Form.key_eq_of_mem_moduleNames` — a name tells stem and number of the form.
* `Composer.nodup_names_of_generate` — modules that are generated together have different names.
-/

namespace AsmPair

open Text

/-! ### Numbers and letters -/

/-- Numbers below a hundred are written in two digits that tell them. -/
theorem twoDigits_of_lt : ∀ n < 100, (twoDigits n).toList.length = 2 ∧
    (twoDigits n).toList.all Char.isDigit = true ∧
      Nat.ofDigitChars 10 (twoDigits n).toList 0 = n := by
  decide +kernel

theorem shardLetters_nodup : shardLetters.Nodup := by decide

theorem not_isDigit_of_mem_shardLetters : ∀ letter ∈ shardLetters, letter.isDigit = false :=
  List.all_iff_forall_prop.mp (by decide)

theorem toList_append_letter (s : String) (letter : Char) :
    (s ++ letter.toString).toList = s.toList ++ [letter] := by
  rw [String.toList_append, Char.toString_eq_singleton, String.toList_singleton]

/-! ### The names of one form -/

namespace Form

/-- A form whose mnemonic is not empty and does not begin with a digit. -/
def IsNamed (f : Form) : Prop := ∃ c ∈ f.mnemonic.toList.head?, c.isDigit = false

theorem isNamed_iff {f : Form} :
    f.IsNamed ↔ f.mnemonic.toList.head?.any (!·.isDigit) = true := by
  unfold IsNamed
  simp [Option.any_eq_true]

instance (f : Form) : Decidable f.IsNamed := decidable_of_iff _ isNamed_iff.symm

variable {f g : Form} {name : String}

@[simp] theorem toList_baseName (f : Form) :
    f.baseName.toList = f.stem.toList ++ (twoDigits f.ordinal).toList :=
  String.toList_append

/-- A name is the common part, with a letter or none. -/
theorem exists_suffix_of_mem_moduleNames (h : name ∈ f.moduleNames) :
    ∃ suffix, name.toList = f.baseName.toList ++ suffix ∧
      (suffix = [] ∨ ∃ letter ∈ shardLetters, suffix = [letter]) := by
  unfold moduleNames at h
  split at h
  · rw [List.mem_singleton.mp h]
    exact ⟨[], (List.append_nil _).symm, Or.inl rfl⟩
  · obtain ⟨letter, hletter, rfl⟩ := List.mem_map.mp h
    exact ⟨[letter], toList_append_letter _ _, Or.inr ⟨letter, hletter, rfl⟩⟩

theorem nodup_moduleNames (f : Form) : f.moduleNames.Nodup := by
  unfold moduleNames
  split
  · exact List.nodup_singleton _
  · refine shardLetters_nodup.map_on fun l _ l' _ h => ?_
    have hlist := congrArg String.toList h
    rw [toList_append_letter, toList_append_letter] at hlist
    exact List.singleton_inj.mp (List.append_cancel_left hlist)

/-- The common part ends with a digit. -/
theorem exists_digit_baseName (hf : f.ordinal ≤ 99) :
    ∃ cs d, f.baseName.toList = cs ++ [d] ∧ d.isDigit = true := by
  obtain ⟨hlength, hdigits, -⟩ := twoDigits_of_lt f.ordinal (by omega)
  obtain ⟨cs, d, hcs⟩ := (List.eq_nil_or_concat' (twoDigits f.ordinal).toList).resolve_left
    fun hnil => by rw [hnil] at hlength; cases hlength
  refine ⟨f.stem.toList ++ cs, d, ?_, ?_⟩
  · rw [toList_baseName, hcs, List.append_assoc]
  · rw [hcs] at hdigits
    exact List.all_eq_true.mp hdigits d (List.mem_append_right _ (List.mem_singleton.mpr rfl))

/-- A letter is no digit, so a name tells whether there is one. -/
theorem baseName_eq_of_mem_moduleNames (hf : f.ordinal ≤ 99) (hg : g.ordinal ≤ 99)
    (h : name ∈ f.moduleNames) (h' : name ∈ g.moduleNames) : f.baseName = g.baseName := by
  have hmixed : ∀ {k k' : Form} {letter : Char}, k.ordinal ≤ 99 → letter ∈ shardLetters →
      k.baseName.toList = k'.baseName.toList ++ [letter] → False := by
    intro k k' letter hk hletter heq
    obtain ⟨cs, d, hcs, hd⟩ := exists_digit_baseName hk
    rw [hcs] at heq
    rw [List.singleton_inj.mp (List.append_inj_right' heq rfl),
      not_isDigit_of_mem_shardLetters letter hletter] at hd
    cases hd
  obtain ⟨suffix, hname, hsuffix⟩ := exists_suffix_of_mem_moduleNames h
  obtain ⟨suffix', hname', hsuffix'⟩ := exists_suffix_of_mem_moduleNames h'
  rw [hname] at hname'
  apply String.toList_injective
  rcases hsuffix with rfl | ⟨letter, hletter, rfl⟩ <;>
    rcases hsuffix' with rfl | ⟨letter', hletter', rfl⟩
  · rwa [List.append_nil, List.append_nil] at hname'
  · rw [List.append_nil] at hname'
    exact (hmixed hf hletter' hname').elim
  · rw [List.append_nil] at hname'
    exact (hmixed hg hletter hname'.symm).elim
  · exact List.append_inj_left' hname' rfl

/-- **A name tells stem and number of the form.** -/
theorem key_eq_of_mem_moduleNames (hf : f.ordinal ≤ 99) (hg : g.ordinal ≤ 99)
    (h : name ∈ f.moduleNames) (h' : name ∈ g.moduleNames) : f.key = g.key := by
  have hbase := congrArg String.toList (baseName_eq_of_mem_moduleNames hf hg h h')
  rw [toList_baseName, toList_baseName] at hbase
  obtain ⟨hlength, -, hvalue⟩ := twoDigits_of_lt f.ordinal (by omega)
  obtain ⟨hlength', -, hvalue'⟩ := twoDigits_of_lt g.ordinal (by omega)
  -- both numbers have two digits, so the stems end at the same place
  obtain ⟨hstem, hdigits⟩ := List.append_inj' hbase (hlength.trans hlength'.symm)
  unfold key
  rw [String.toList_injective hstem, ← hvalue, ← hvalue', hdigits]

theorem length_le_of_mem_moduleNames (hf : f.ordinal ≤ 99) (h : name ∈ f.moduleNames) :
    name.length ≤ 8 := by
  obtain ⟨suffix, hname, hsuffix⟩ := exists_suffix_of_mem_moduleNames h
  obtain ⟨hdigits, -, -⟩ := twoDigits_of_lt f.ordinal (by omega)
  have hstem : f.stem.toList.length ≤ 5 := by
    unfold stem
    rw [String.toList_ofList]
    exact List.length_take_le _ _
  have hletter : suffix.length ≤ 1 := by
    rcases hsuffix with rfl | ⟨letter, -, rfl⟩
    · exact Nat.zero_le 1
    · exact Nat.le_refl 1
  rw [← String.length_toList, hname, toList_baseName, List.length_append, List.length_append]
  omega

/-- A stem begins as the mnemonic does. -/
theorem head?_stem (hf : Tidy f.mnemonic.toList) :
    f.stem.toList.head? = f.mnemonic.toList.head? := by
  unfold stem
  rw [String.toList_ofList]
  cases hm : f.mnemonic.toList with
  | nil => rfl
  | cons c t =>
    have hfirm := hf.beginsFirm
    rw [hm, beginsFirm_cons] at hfirm
    rw [List.filter_cons_of_pos (by rw [hfirm]; rfl)]
    rfl

/-- A name begins as the mnemonic does. -/
theorem head?_of_mem_moduleNames (hread : f.IsRead) (hf : f.IsNamed) (h : name ∈ f.moduleNames) :
    ∃ c ∈ name.toList.head?, c.isDigit = false := by
  obtain ⟨c, hc, hdigit⟩ := hf
  obtain ⟨suffix, hname, -⟩ := exists_suffix_of_mem_moduleNames h
  rw [← head?_stem hread.tidy_mnemonic] at hc
  refine ⟨c, ?_, hdigit⟩
  rw [hname, toList_baseName, List.append_assoc]
  exact List.mem_head?_append_of_mem_head? hc

end Form

namespace Composer

variable {c : Composer} {fs : List Form}

/-! ### The names of all modules -/

theorem map_name_shards (f : Form) (names : List String) (batches : List (List (List String))) :
    ((List.zipWith (c.shard f) names batches).map AsmModule.name).Sublist names := by
  induction batches generalizing names with
  | nil =>
    rw [List.zipWith_nil_right]
    exact List.nil_sublist names
  | cons rows batches ih =>
    cases names with
    | nil => exact List.nil_sublist []
    | cons name names => exact (ih names).cons_cons name

/-- The modules of a form have names of the form, in order. -/
theorem map_name_modulesOf (c : Composer) (f : Form) :
    ((c.modulesOf f).map AsmModule.name).Sublist f.moduleNames := by
  unfold modulesOf
  split
  · exact List.nil_sublist _
  · next ms hms =>
    obtain ⟨-, -, -, rfl⟩ := compose_eq_ok_iff.mp hms
    exact map_name_shards f _ _

theorem map_name_batch (c : Composer) (feature : Feature) (forms : List Form) :
    ((c.batch feature forms).map AsmModule.name).Sublist [feature.bareName] := by
  unfold batch
  split
  · exact List.nil_sublist _
  · exact List.Sublist.refl _

/-- The modules of instructions without operands have the names of their features. -/
theorem map_name_batches (c : Composer) (fs : List Form) (features : List Feature) :
    ((features.flatMap fun feature => c.batch feature (Form.barePart fs feature)).map
      AsmModule.name).Sublist (features.map Feature.bareName) := by
  induction features with
  | nil => exact List.Sublist.refl []
  | cons feature features ih =>
    rw [List.flatMap_cons, List.map_append, List.map_cons]
    exact (map_name_batch c feature _).append ih

/-- The blocks are the modules without operands and the modules of the forms, in another order. -/
theorem blocks_perm (c : Composer) (fs : List Form) :
    (Feature.all.flatMap (c.block fs)).Perm
      ((Feature.all.flatMap fun feature => c.batch feature (Form.barePart fs feature)) ++
        (Form.inOrder fs).flatMap c.modulesOf) := by
  unfold Form.inOrder
  rw [List.flatMap_assoc]
  exact (List.flatMap_append_perm Feature.all _ _).symm

/-- The modules of forms with different keys have different names. -/
theorem nodup_names_flatMap_modulesOf (hkeys : (fs.map Form.key).Nodup)
    (hfs : ∀ f ∈ fs, f.ordinal ≤ 99) : ((fs.flatMap c.modulesOf).map AsmModule.name).Nodup := by
  rw [List.map_flatMap, List.nodup_flatMap]
  refine ⟨fun f _ => f.nodup_moduleNames.sublist (map_name_modulesOf c f), ?_⟩
  refine (List.pairwise_map.mp hkeys).imp_of_mem fun {f g} hf hg hne name hname hname' => ?_
  exact hne (Form.key_eq_of_mem_moduleNames (hfs f hf) (hfs g hg)
    ((map_name_modulesOf c f).subset hname) ((map_name_modulesOf c g).subset hname'))

/-- The name of a generated module belongs to a feature or to a form with operands. -/
theorem name_of_mem_blocks {m : AsmModule} (hm : m ∈ Feature.all.flatMap (c.block fs)) :
    m.name ∈ Feature.all.map Feature.bareName ∨
      ∃ f ∈ fs, f.isBare = false ∧ m.name ∈ f.moduleNames := by
  rcases List.mem_append.mp ((blocks_perm c fs).mem_iff.mp hm) with hm | hm
  · exact Or.inl ((map_name_batches c fs Feature.all).subset (List.mem_map_of_mem hm))
  · obtain ⟨f, hf, hm⟩ := List.mem_flatMap.mp hm
    obtain ⟨hf, hop⟩ := Form.mem_inOrder.mp hf
    exact Or.inr ⟨f, hf, hop, (map_name_modulesOf c f).subset (List.mem_map_of_mem hm)⟩

theorem bareName_head? : ∀ name ∈ Feature.all.map Feature.bareName,
    name.length ≤ 8 ∧ name.toList.head?.all Char.isDigit = true := by
  decide

/-- The forms in order are the forms with operands, in another order. -/
theorem inOrder_perm (fs : List Form) : (Form.inOrder fs).Perm (fs.filter (!·.isBare)) := by
  unfold Form.inOrder Form.operandPart
  rw [← List.filter_flatMap]
  exact (Form.flatMap_part_perm fs).filter _

section Build

variable {tables : List Table} {catalog : Catalog} {s : Selection} {ms : List AsmModule}

/-- What is generated are the blocks of forms of the catalog, in its order. -/
theorem exists_blocks_of_generate (h : c.generate catalog s = .ok ms) :
    ∃ fs, fs.Sublist catalog.forms ∧ ms = Feature.all.flatMap (c.block fs) := by
  cases hselect : catalog.select s with
  | error e =>
    obtain ⟨-, -, herror⟩ := (select_eq_error_iff (c := c)).mp hselect
    rw [h] at herror
    cases herror
  | ok fs =>
    obtain ⟨rfl, -⟩ := filter_eq_of_select hselect
    exact ⟨_, List.filter_sublist, (blocks_of_generate hselect h).1⟩

/-- **Modules that are generated together have different names of at most eight characters.** -/
theorem nodup_names_of_generate (hbuild : Catalog.build tables = .ok catalog)
    (hstems : ∀ stem, Catalog.sharing tables stem ≤ 99)
    (hnamed : ∀ f ∈ catalog.forms, f.isBare = false → f.IsNamed)
    (h : c.generate catalog s = .ok ms) :
    (ms.map AsmModule.name).Nodup ∧ ∀ m ∈ ms, m.name.length ≤ 8 := by
  obtain ⟨fs, hfs, rfl⟩ := exists_blocks_of_generate h
  have hordinal : ∀ f ∈ fs, f.isBare = false → f.ordinal ≤ 99 := fun f hf hop =>
    Nat.le_trans (Catalog.ordinal_le_sharing hbuild (hfs.subset hf) hop) (hstems f.stem)
  have hread : ∀ f ∈ catalog.forms, f.IsRead :=
    Catalog.isRead_of_mem_readFrom (Catalog.readFrom_of_build hbuild)
  constructor
  · have hkeys : ((Form.inOrder fs).map Form.key).Nodup := by
      rw [((inOrder_perm fs).map Form.key).nodup_iff]
      exact (Catalog.nodup_keys hbuild).sublist ((hfs.filter _).map _)
    have hforms := nodup_names_flatMap_modulesOf (c := c) hkeys fun f hf =>
      hordinal f (Form.mem_inOrder.mp hf).1 (Form.mem_inOrder.mp hf).2
    have hbare : (Feature.all.map Feature.bareName).Nodup := by decide
    rw [((blocks_perm c fs).map AsmModule.name).nodup_iff, List.map_append]
    refine List.Nodup.append (hbare.sublist (map_name_batches c fs Feature.all)) hforms ?_
    -- a name of a feature begins with a digit, and that of a form does not
    intro name hname hname'
    have hdigit := (bareName_head? name ((map_name_batches c fs Feature.all).subset hname)).2
    obtain ⟨m, hm, rfl⟩ := List.mem_map.mp hname'
    obtain ⟨f, hf, hm⟩ := List.mem_flatMap.mp hm
    obtain ⟨hf, hop⟩ := Form.mem_inOrder.mp hf
    have hmem : m.name ∈ f.moduleNames :=
      (map_name_modulesOf c f).subset (List.mem_map_of_mem hm)
    obtain ⟨ch, hch, hnot⟩ := Form.head?_of_mem_moduleNames (hread f (hfs.subset hf))
      (hnamed f (hfs.subset hf) hop) hmem
    rw [(Option.all_eq_true _ _).mp hdigit ch hch] at hnot
    cases hnot
  · intro m hm
    rcases name_of_mem_blocks hm with hname | ⟨f, hf, hop, hname⟩
    · exact (bareName_head? m.name hname).1
    · exact Form.length_le_of_mem_moduleNames (hordinal f hf hop) hname

end Build

end Composer

/-! ### The standard tables -/

/-- The letters that mnemonics of the standard tables begin with. -/
def capitals : List Char := "ABCDEFGHIJKLMNOPQRSTUVWXYZ".toList

/-- The mnemonics listed with operands begin with capitals, none of which is shared too often, and
have no slash. -/
theorem mnemonics_standardTables :
    (∀ entry ∈ standardTables.flatMap Table.forms,
      (Form.canonicalMnemonic entry.1).toList.head?.any capitals.contains = true ∧
        '/' ∉ (Form.canonicalMnemonic entry.1).toList) ∧
    capitals.all fun letter => (standardTables.flatMap Table.forms).countP (fun entry =>
      (Form.canonicalMnemonic entry.1).toList.head? == some letter) ≤ 99 := by
  decide +kernel

@[simp] theorem head?_stemOf (mnemonic : String) : (Form.stemOf mnemonic).toList.head? =
    (Form.canonicalMnemonic mnemonic).toList.head? := by
  apply Form.head?_stem
  unfold Form.canonicalMnemonic
  rw [String.toList_ofList]
  exact tidy_upper (tidy_spaced _)

/-- Two digits suffice for the standard tables: mnemonics of one stem begin with one capital. -/
theorem sharing_standardTables_le (stem : String) : Catalog.sharing standardTables stem ≤ 99 := by
  obtain ⟨hheads, hcount⟩ := mnemonics_standardTables
  unfold Catalog.sharing
  by_cases hstem : stem.toList.head?.any capitals.contains = true
  · obtain ⟨letter, hletter, hmem⟩ := (Option.any_eq_true _ _).mp hstem
    refine Nat.le_trans (List.countP_mono_left fun entry _ hentry => ?_)
      (List.all_iff_forall_prop.mp hcount letter (List.contains_iff_mem.mp hmem))
    rw [← head?_stemOf, eq_of_beq hentry, hletter, beq_self_eq_true]
  · have hnone : (standardTables.flatMap Table.forms).countP
        (fun entry => Form.stemOf entry.1 == stem) = 0 := by
      rw [List.countP_eq_zero]
      intro entry hentry heq
      apply hstem
      rw [← eq_of_beq heq, head?_stemOf]
      exact (hheads entry hentry).1
    omega

theorem isNamed_of_mem_standard : ∀ f ∈ Catalog.standard.forms, f.isBare = false → f.IsNamed := by
  intro f hf hop
  obtain ⟨entry, hentry, heq⟩ :=
    Catalog.exists_form_of_build Catalog.build_standardTables hf hop
  obtain ⟨letter, hletter, hmem⟩ :=
    (Option.any_eq_true _ _).mp (mnemonics_standardTables.1 entry hentry).1
  have hdigit : ∀ ch ∈ capitals, ch.isDigit = false := List.all_iff_forall_prop.mp (by decide)
  exact ⟨letter, heq ▸ hletter, hdigit letter (List.contains_iff_mem.mp hmem)⟩

end AsmPair
