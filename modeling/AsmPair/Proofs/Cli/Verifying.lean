import AsmPair.Cli.Run
import AsmPair.Proofs.Files.Volume
import AsmPair.Proofs.Form.Read

/-!
# Comparing the modules of a directory

All sources in a directory are compared with their decoded listings.  The run succeeds exactly if
there are sources, each of them and its decoded listing can be read, and all pairs match; in
particular no source is passed over.  As long as all files can be read, each source is told of just
once, in order: in the report, or among those without decoded listing.

A source of which nothing but a dot stands before its extension is never found to match, since two
dots are what is looked for in place of its decoded listing.

## Main definitions

* `Disk.IsSteady` — a disk that stays as it is while it is looked at.
* `Cli.decodedPath`, `Cli.IsReadAs` — where the decoded listing of a source is looked for, and what
  the two are read as.
* `Cli.Agrees` — a source and the listing beside it match.

## Main results

* `Volume.isSteady` — volumes are steady.
* `Cli.readSpecimens_eq_ok_iff` — what is read of the sources in a directory.
* `Cli.verification_is_exact` — when a run succeeds, and what it tells.
-/

namespace AsmPair

open Files

variable {σ : Type}

/-! ### Disks that are looked at -/

/-- A disk that stays as it is while it is looked at.  Two dots lead from a directory to a
directory, which is no text. -/
structure Disk.IsSteady (disk : Disk (StateM σ)) (s : σ) : Prop where
  /-- Reading changes nothing. -/
  read : ∀ path, (disk.read path s).2 = s
  /-- Listing a directory changes nothing. -/
  names : ∀ path, (disk.names path s).2 = s
  /-- Asking whether there is something changes nothing. -/
  holds : ∀ path, (disk.holds path s).2 = s
  /-- What two dots lead to is no text. -/
  above : ∀ dir text, (disk.read (within dir "..") s).1 ≠ .ok text

/-- Volumes are steady. -/
theorem Volume.isSteady (v : Volume) : Volume.disk.IsSteady v where
  read _ := rfl
  names _ := rfl
  holds _ := rfl
  above dir text h := by
    obtain ⟨l, hl, hnode⟩ := Volume.read_eq_ok_iff.mp h
    rw [Volume.node?_of_resolve_above hl] at hnode
    cases hnode

namespace Cli

/-! ### The sources in a directory -/

/-- The sources in a directory are the names with the extension. -/
theorem sourcesAmong_perm (names : List String) :
    (sourcesAmong names).Perm (names.filter (hasExtension "asm")) :=
  List.mergeSort_perm _ _

@[simp] theorem mem_sourcesAmong {names : List String} {n : String} :
    n ∈ sourcesAmong names ↔ n ∈ names ∧ hasExtension "asm" n = true := by
  rw [(sourcesAmong_perm names).mem_iff, List.mem_filter]

/-- The sources in a directory are in order. -/
theorem sourcesAmong_sorted (names : List String) : (sourcesAmong names).Pairwise (· ≤ ·) := by
  have hle : ∀ a b : String, (!decide (b < a)) = true ↔ a ≤ b := by
    intro a b
    rw [Bool.not_eq_true', decide_eq_false_iff_not, String.not_lt]
  have hsorted : (sourcesAmong names).Pairwise fun a b => (!decide (b < a)) = true :=
    List.pairwise_mergeSort
      (fun a b c hab hbc => (hle a c).mpr (String.le_trans ((hle a b).mp hab) ((hle b c).mp hbc)))
      (fun a b => (Bool.or_eq_true ..).mpr ((String.le_total a b).imp (hle a b).mpr (hle b a).mpr))
      _
  exact hsorted.imp fun {a b} hab => (hle a b).mp hab

/-- The path where the decoded listing of a source is looked for. -/
def decodedPath (dir name : String) : String := within dir (withExtension "dis" name)

/-- Unless only a dot stands before the extension, the decoded listing is a file of the same
stem. -/
theorem decodedPath_eq {dir name : String} (h : stemOf name ≠ ".") :
    decodedPath dir name = within dir (stemOf name ++ ".dis") := by
  unfold decodedPath withExtension
  rw [if_neg h, String.append_assoc]
  rfl

theorem decodedPath_eq_above {dir name : String} (h : stemOf name = ".") :
    decodedPath dir name = within dir ".." := by
  unfold decodedPath withExtension
  rw [if_pos h]

section

variable (disk : Disk (StateM σ)) (s : σ) (dir : String)

/-- Whether a source has a decoded listing. -/
def isPaired (name : String) : Bool := (disk.holds (decodedPath dir name) s).1

/-- A source and its decoded listing can be read, and what they are read as. -/
def IsReadAs (name : String) (p : Specimen) : Prop :=
  ∃ a b, (disk.read (within dir name) s).1 = .ok a ∧
    (disk.read (decodedPath dir name) s).1 = .ok b ∧
    p = ⟨stemOf name, Line.listing a, Line.listing b⟩

/-- A source and the listing beside it, a file of the same stem, can be read and match. -/
def Agrees (name : String) : Prop :=
  ∃ a b, (disk.read (within dir name) s).1 = .ok a ∧
    (disk.holds (within dir (stemOf name ++ ".dis")) s).1 = true ∧
    (disk.read (within dir (stemOf name ++ ".dis")) s).1 = .ok b ∧
    (Matcher.standard.compare (Line.listing a) (Line.listing b)).verdict = .matched

end

section

variable {disk : Disk (StateM σ)} {s : σ} {dir : String}

/-! ### Reading -/

theorem bind_apply {α β : Type} (x : StateM σ α) (f : α → StateM σ β) (s : σ) :
    (x >>= f) s = f (x s).1 (x s).2 := rfl

theorem readListing_apply (hdisk : disk.IsSteady s) (path : String) :
    readListing disk path s =
      ((match (disk.read path s).1 with
        | .error e => .error (.reading path e)
        | .ok text => .ok (Line.listing text)), s) := by
  unfold readListing
  rw [bind_apply, hdisk.read]
  cases (disk.read path s).1 <;> rfl

theorem readSpecimen_apply (hdisk : disk.IsSteady s) (name source decoded : String) :
    readSpecimen disk name source decoded s =
      ((match (disk.read source s).1, (disk.read decoded s).1 with
        | .error e, _ => .error (.reading source e)
        | .ok _, .error e => .error (.reading decoded e)
        | .ok a, .ok b => .ok ⟨name, Line.listing a, Line.listing b⟩), s) := by
  unfold readSpecimen
  rw [bind_apply, readListing_apply hdisk]
  cases (disk.read source s).1 with
  | error e => rfl
  | ok a =>
    dsimp only
    rw [bind_apply, readListing_apply hdisk]
    cases (disk.read decoded s).1 <;> rfl

/-- The sources are looked at one after the other. -/
theorem readSpecimens_cons (hdisk : disk.IsSteady s) (n : String) (ns : List String) :
    readSpecimens disk dir (n :: ns) s =
      if isPaired disk s dir n then
        match (readSpecimen disk (stemOf n) (within dir n) (decodedPath dir n) s).1 with
        | .error e => (.error e, s)
        | .ok p =>
          let r := readSpecimens disk dir ns s
          (r.1.map fun q => (p :: q.1, q.2), r.2)
      else
        let r := readSpecimens disk dir ns s
        (r.1.map fun q => (q.1, stemOf n :: q.2), r.2) := by
  rw [readSpecimens, bind_apply]
  unfold isPaired decodedPath
  rw [hdisk.holds]
  split
  · rw [bind_apply, readSpecimen_apply hdisk]
    dsimp only
    cases (disk.read (within dir n) s).1 with
    | error e => rfl
    | ok a => cases (disk.read (within dir (withExtension "dis" n)) s).1 <;> rfl
  · rfl

theorem readSpecimen_eq_ok_iff (hdisk : disk.IsSteady s) {n : String} {p : Specimen} :
    (readSpecimen disk (stemOf n) (within dir n) (decodedPath dir n) s).1 = .ok p ↔
      IsReadAs disk s dir n p := by
  rw [readSpecimen_apply hdisk]
  unfold IsReadAs
  cases (disk.read (within dir n) s).1 with
  | error e => simp
  | ok a =>
    cases (disk.read (decodedPath dir n) s).1 with
    | error e => simp
    | ok b => simp [eq_comm]

theorem IsReadAs.unique {n : String} {p q : Specimen} (hp : IsReadAs disk s dir n p)
    (hq : IsReadAs disk s dir n q) : p = q := by
  obtain ⟨a, b, ha, hb, rfl⟩ := hp
  obtain ⟨a', b', ha', hb', rfl⟩ := hq
  obtain rfl := Except.ok.inj (ha.symm.trans ha')
  obtain rfl := Except.ok.inj (hb.symm.trans hb')
  rfl

/-- **What is read of the sources in a directory.**  Those with a decoded listing are read with it,
and the others are told apart; there is no result if something cannot be read. -/
theorem readSpecimens_eq_ok_iff (hdisk : disk.IsSteady s) {ns : List String} {ps : List Specimen}
    {missing : List String} : (readSpecimens disk dir ns s).1 = .ok (ps, missing) ↔
      List.Forall₂ (IsReadAs disk s dir) (ns.filter (isPaired disk s dir)) ps ∧
        missing = (ns.filter fun n => !isPaired disk s dir n).map stemOf := by
  induction ns generalizing ps missing with
  | nil =>
    constructor
    · intro h
      cases h
      exact ⟨List.Forall₂.nil, rfl⟩
    · rintro ⟨hps, rfl⟩
      cases hps
      rfl
  | cons n ns ih =>
    rw [readSpecimens_cons hdisk]
    by_cases hpaired : isPaired disk s dir n = true
    · rw [if_pos hpaired, List.filter_cons_of_pos hpaired,
        List.filter_cons_of_neg (by rw [hpaired]; exact Bool.false_ne_true)]
      constructor
      · intro h
        split at h
        · cases h
        · next p hp =>
          obtain ⟨⟨qs, others⟩, hrest, heq⟩ := map_eq_ok_iff.mp h
          cases heq
          obtain ⟨hqs, rfl⟩ := ih.mp hrest
          exact ⟨List.Forall₂.cons ((readSpecimen_eq_ok_iff hdisk).mp hp) hqs, rfl⟩
      · rintro ⟨hps, rfl⟩
        obtain ⟨p, qs, hp, hqs, rfl⟩ := List.forall₂_cons_left_iff.mp hps
        rw [(readSpecimen_eq_ok_iff hdisk).mpr hp]
        exact map_eq_ok_iff.mpr ⟨(qs, _), ih.mpr ⟨hqs, rfl⟩, rfl⟩
    · rw [if_neg hpaired, List.filter_cons_of_neg hpaired,
        List.filter_cons_of_pos (by rw [Bool.eq_false_iff.mpr hpaired]; rfl), List.map_cons]
      constructor
      · intro h
        obtain ⟨⟨qs, others⟩, hrest, heq⟩ := map_eq_ok_iff.mp h
        cases heq
        obtain ⟨hqs, rfl⟩ := ih.mp hrest
        exact ⟨hqs, rfl⟩
      · rintro ⟨hps, rfl⟩
        exact map_eq_ok_iff.mpr ⟨(ps, _), ih.mpr ⟨hps, rfl⟩, rfl⟩

/-! ### Outcomes -/

variable {settings : Settings} {format? : Option ReportFormat} {args : List String}
  {i : Invocation} {outcome : Outcome}

/-- What comes of comparing a directory. -/
theorem verify_apply (hdisk : disk.IsSteady s) : (verify disk settings dir format? s).1 =
    match (disk.names dir s).1 with
    | .error e => .error (.reading dir e)
    | .ok names =>
      if (sourcesAmong names).isEmpty then .error (.noModules dir)
      else (readSpecimens disk dir (sourcesAmong names) s).1.map fun r =>
        reportOutcome (format?.getD settings.format) (settings.matcher.compareAll r.1) r.2 := by
  unfold verify
  rw [bind_apply, hdisk.names]
  cases (disk.names dir s).1 with
  | error e => rfl
  | ok names =>
    dsimp only
    split
    · rfl
    · rw [bind_apply]
      cases (readSpecimens disk dir (sourcesAmong names) s).1 <;> rfl

/-- A directory is compared if it can be listed, holds a source, and all that is looked at can be
read. -/
theorem verify_of_readable (hdisk : disk.IsSteady s) {names : List String} {ps : List Specimen}
    (hnames : (disk.names dir s).1 = .ok names) (hne : sourcesAmong names ≠ [])
    (hps : List.Forall₂ (IsReadAs disk s dir)
      ((sourcesAmong names).filter (isPaired disk s dir)) ps) :
    (verify disk settings dir format? s).1 =
      .ok (reportOutcome (format?.getD settings.format) (settings.matcher.compareAll ps)
        (((sourcesAmong names).filter fun n => !isPaired disk s dir n).map stemOf)) := by
  rw [verify_apply hdisk, hnames]
  dsimp only
  rw [if_neg (by rwa [List.isEmpty_iff])]
  exact map_eq_ok_iff.mpr ⟨(ps, _), (readSpecimens_eq_ok_iff hdisk).mpr ⟨hps, rfl⟩, rfl⟩

/-- Only then is it compared. -/
theorem readable_of_verify (hdisk : disk.IsSteady s)
    (h : (verify disk settings dir format? s).1 = .ok outcome) :
    ∃ names ps, (disk.names dir s).1 = .ok names ∧ sourcesAmong names ≠ [] ∧
      List.Forall₂ (IsReadAs disk s dir) ((sourcesAmong names).filter (isPaired disk s dir)) ps ∧
      reportOutcome (format?.getD settings.format) (settings.matcher.compareAll ps)
        (((sourcesAmong names).filter fun n => !isPaired disk s dir n).map stemOf) = outcome := by
  rw [verify_apply hdisk] at h
  split at h
  · cases h
  · next names hnames =>
    split at h
    · cases h
    · next hne =>
      obtain ⟨⟨ps, missing⟩, hread, rfl⟩ := map_eq_ok_iff.mp h
      obtain ⟨hps, rfl⟩ := (readSpecimens_eq_ok_iff hdisk).mp hread
      exact ⟨names, ps, hnames, by rwa [List.isEmpty_iff] at hne, hps, rfl⟩

/-- The outcome of a command line that asks for a directory to be compared, without settings. -/
theorem run_verify (hargs : Invocation.parse? args = some i) (hconfig : i.config? = none)
    (hcommand : i.command = .verify dir format?) :
    (run disk args s).1 = match (verify disk .default dir format? s).1 with
      | .error e => .failure e
      | .ok outcome => outcome := by
  unfold run
  rw [hargs]
  dsimp only
  unfold runInvocation
  rw [hconfig, hcommand, bind_apply]
  unfold loadSettings runCommand
  dsimp only [pure, StateT.pure]
  rw [bind_apply]
  cases (verify disk .default dir format? s).1 <;> rfl

/-- A comparison succeeds if all modules match and none is missing. -/
@[simp] theorem exit_reportOutcome {format : ReportFormat} {vs : List ModuleVerdict}
    {missing : List String} : (reportOutcome format vs missing).exit = 0 ↔
      (∀ v ∈ vs, v.verdict.isMatch = true) ∧ missing = [] := by
  unfold reportOutcome
  rw [← List.all_eq_true, ← List.isEmpty_iff, ← Bool.and_eq_true]
  cases vs.all (·.verdict.isMatch) && missing.isEmpty <;> simp

/-! ### Success -/

/-- The two listings of a module match under the standard rules. -/
def IsMatched (p : Specimen) : Prop :=
  (Matcher.standard.compare p.source p.decoded).verdict = .matched

@[simp] theorem isMatch_iff {v : Verdict} : v.isMatch = true ↔ v = .matched := by
  cases v <;> simp [Verdict.isMatch]

/-- A source has a decoded listing, and the two can be read and match, exactly if it agrees with the
listing beside it; then more than a dot stands before its extension. -/
theorem agrees_iff (hdisk : disk.IsSteady s) {n : String} :
    stemOf n ≠ "." ∧ Agrees disk s dir n ↔
      isPaired disk s dir n = true ∧ ∃ p, IsReadAs disk s dir n p ∧ IsMatched p := by
  unfold Agrees isPaired IsReadAs IsMatched
  by_cases hdot : stemOf n = "."
  · -- two dots are looked for, and they are no text
    rw [decodedPath_eq_above hdot]
    constructor
    · rintro ⟨hne, -⟩
      exact absurd hdot hne
    · rintro ⟨-, p, ⟨a, b, -, hb, -⟩, -⟩
      exact absurd hb (hdisk.above dir b)
  · rw [decodedPath_eq hdot]
    constructor
    · rintro ⟨-, a, b, ha, hholds, hb, hmatched⟩
      exact ⟨hholds, _, ⟨a, b, ha, hb, rfl⟩, hmatched⟩
    · rintro ⟨hholds, p, ⟨a, b, ha, hb, rfl⟩, hmatched⟩
      exact ⟨hdot, a, b, ha, hholds, hb, hmatched⟩

/-- **When a comparison of a directory succeeds.** -/
theorem exists_success_iff (format? : Option ReportFormat) (hdisk : disk.IsSteady s) :
    (∃ outcome, (verify disk .default dir format? s).1 = .ok outcome ∧ outcome.exit = 0) ↔
      ∃ names, (disk.names dir s).1 = .ok names ∧ (∃ n ∈ names, hasExtension "asm" n = true) ∧
        ∀ n ∈ names, hasExtension "asm" n = true → stemOf n ≠ "." ∧ Agrees disk s dir n := by
  have hall : ∀ names, (∀ n ∈ names, hasExtension "asm" n = true →
      stemOf n ≠ "." ∧ Agrees disk s dir n) ↔ ∀ n ∈ sourcesAmong names,
        isPaired disk s dir n = true ∧ ∃ p, IsReadAs disk s dir n p ∧ IsMatched p := by
    intro names
    simp only [mem_sourcesAmong, and_imp, agrees_iff hdisk]
  constructor
  · rintro ⟨outcome, hverify, hexit⟩
    obtain ⟨names, ps, hnames, hne, hps, rfl⟩ := readable_of_verify hdisk hverify
    obtain ⟨hmatch, hmissing⟩ := exit_reportOutcome.mp hexit
    have hpaired : ∀ n ∈ sourcesAmong names, isPaired disk s dir n = true := by
      intro n hn
      have hnot := List.filter_eq_nil_iff.mp (List.map_eq_nil_iff.mp hmissing) n hn
      simpa using hnot
    rw [List.filter_eq_self.mpr hpaired] at hps
    have hmatched : ∀ p ∈ ps, IsMatched p :=
      fun p hp => isMatch_iff.mp (hmatch _ (List.mem_map_of_mem hp))
    obtain ⟨n, hn⟩ := List.exists_mem_of_ne_nil _ hne
    exact ⟨names, hnames, ⟨n, mem_sourcesAmong.mp hn⟩, (hall names).mpr fun n hn =>
      ⟨hpaired n hn, exists_forall₂_iff.mp ⟨ps, hps, hmatched⟩ n hn⟩⟩
  · rintro ⟨names, hnames, ⟨n, hn, hasm⟩, hsources⟩
    rw [hall] at hsources
    have hpaired : ∀ n ∈ sourcesAmong names, isPaired disk s dir n = true :=
      fun n hn => (hsources n hn).1
    obtain ⟨ps, hps, hmatched⟩ := exists_forall₂_iff.mpr fun n hn => (hsources n hn).2
    have hne : sourcesAmong names ≠ [] := List.ne_nil_of_mem (mem_sourcesAmong.mpr ⟨hn, hasm⟩)
    rw [← List.filter_eq_self.mpr hpaired] at hps
    refine ⟨_, verify_of_readable hdisk hnames hne hps,
      exit_reportOutcome.mpr ⟨fun v hv => ?_, ?_⟩⟩
    · obtain ⟨p, hp, rfl⟩ := List.mem_map.mp hv
      exact isMatch_iff.mpr (hmatched p hp)
    · rw [List.map_eq_nil_iff, List.filter_eq_nil_iff]
      intro n hn
      rw [hpaired n hn]
      exact Bool.false_ne_true

/-- **A run over a directory is exact.**  It succeeds exactly if the directory can be listed and
holds a source, and each source agrees with the listing beside it, with more than a dot before its
extension.  As long as all files that it reads can be read, its report and its messages tell of each
source once, in order: of what came of the comparison where there is a decoded listing, and else
that there is none. -/
theorem verification_is_exact (hdisk : disk.IsSteady s)
    (hargs : Invocation.parse? args = some i) (hconfig : i.config? = none)
    (hcommand : i.command = .verify dir format?) :
    ((run disk args s).1.exit = 0 ↔
      ∃ names, (disk.names dir s).1 = .ok names ∧ (∃ n ∈ names, hasExtension "asm" n = true) ∧
        ∀ n ∈ names, hasExtension "asm" n = true → stemOf n ≠ "." ∧ Agrees disk s dir n) ∧
    ∀ names, (disk.names dir s).1 = .ok names → (∃ n ∈ names, hasExtension "asm" n = true) →
      (∀ n ∈ names, hasExtension "asm" n = true → isPaired disk s dir n = true →
        ∃ p, IsReadAs disk s dir n p) →
      ∃ (sources : List String) (vs : List ModuleVerdict),
        sources.Perm (names.filter (hasExtension "asm")) ∧ sources.Pairwise (· ≤ ·) ∧
        List.Forall₂ (fun n v => ∃ p, IsReadAs disk s dir n p ∧
            v = ⟨stemOf n, (Matcher.standard.compare p.source p.decoded).verdict⟩)
          (sources.filter (isPaired disk s dir)) vs ∧
        (run disk args s).1.stdout = (format?.getD .text).report vs ∧
        (run disk args s).1.stderr =
          String.join ((sources.filter fun n => !isPaired disk s dir n).map
            fun n => stemOf n ++ ": no decoded listing\n") := by
  rw [run_verify hargs hconfig hcommand]
  constructor
  · rw [← exists_success_iff format? hdisk]
    cases (verify disk .default dir format? s).1 with
    | error e => simp [Outcome.failure]
    | ok outcome => simp
  · rintro names hnames ⟨n, hn, hasm⟩ hread
    have hpaired : ∀ n ∈ (sourcesAmong names).filter (isPaired disk s dir),
        ∃ p, IsReadAs disk s dir n p ∧ True := by
      intro n hn
      obtain ⟨hsource, hpaired⟩ := List.mem_filter.mp hn
      obtain ⟨hname, hasm⟩ := mem_sourcesAmong.mp hsource
      obtain ⟨p, hp⟩ := hread n hname hasm hpaired
      exact ⟨p, hp, trivial⟩
    obtain ⟨ps, hps, -⟩ := exists_forall₂_iff.mpr hpaired
    have hne : sourcesAmong names ≠ [] := List.ne_nil_of_mem (mem_sourcesAmong.mpr ⟨hn, hasm⟩)
    rw [verify_of_readable hdisk hnames hne hps]
    refine ⟨sourcesAmong names, Matcher.standard.compareAll ps, sourcesAmong_perm names,
      sourcesAmong_sorted names, ?_, rfl, ?_⟩
    · exact List.forall₂_map_right_iff.mpr (hps.imp fun n p hp => ⟨p, hp, by
        obtain ⟨a, b, -, -, rfl⟩ := hp
        rfl⟩)
    · unfold reportOutcome
      rw [List.map_map]
      rfl

end

/-- A directory in which all is well, and the same one with a source that has no decoded listing. -/
theorem verification_is_exact_with_missing_listing :
    let v : Volume := ⟨[(["d"], .folder), (["d", "a.dis"], .text "nop\n"),
      (["d", "a.asm"], .text "start: NOP ; idle\n")]⟩
    let w : Volume := ⟨v.nodes ++ [(["d", "C.ASM"], .text "nop\n")]⟩
    (run Volume.disk ["verify", "d"] v).1.exit = 0 ∧
      (run Volume.disk ["verify", "d"] w).1.stdout = ReportFormat.text.report [⟨"a", .matched⟩] ∧
      (run Volume.disk ["verify", "d"] w).1.stderr = "C: no decoded listing\n" := by
  intro v w
  have hargs : Invocation.parse? ["verify", "d"] = some ⟨none, false, .verify "d" none⟩ := by
    decide +kernel
  have hexact (u : Volume) := verification_is_exact (Volume.isSteady u) hargs rfl rfl
  constructor
  · refine (hexact v).1.mpr ⟨["a.dis", "a.asm"], by decide +kernel, ⟨"a.asm", by decide, by decide⟩,
      fun n hn hasm => ?_⟩
    rcases List.mem_pair.mp hn with rfl | rfl
    · exact absurd hasm (by decide)
    · exact ⟨by decide, "start: NOP ; idle\n", "nop\n", by decide +kernel, by decide +kernel,
        by decide +kernel, by decide +kernel⟩
  · have hread : IsReadAs Volume.disk w "d" "a.asm"
        ⟨"a", Line.listing "start: NOP ; idle\n", Line.listing "nop\n"⟩ :=
      ⟨"start: NOP ; idle\n", "nop\n", by decide +kernel, by decide +kernel, by decide +kernel⟩
    have hC : isPaired Volume.disk w "d" "C.ASM" = false := by decide +kernel
    obtain ⟨sources, vs, hperm, hsorted, hvs, hstdout, hstderr⟩ :=
      (hexact w).2 ["a.dis", "a.asm", "C.ASM"] (by decide +kernel) ⟨"a.asm", by decide, by decide⟩
        fun n hn hasm hpaired => by
          simp only [List.mem_cons, List.not_mem_nil, or_false] at hn
          rcases hn with rfl | rfl | rfl
          · exact absurd hasm (by decide)
          · exact ⟨_, hread⟩
          · rw [hC] at hpaired
            cases hpaired
    -- the order leaves only one list of the two sources
    obtain rfl : sources = ["C.ASM", "a.asm"] :=
      List.Perm.eq_of_pairwise (fun _ _ _ _ => String.le_antisymm) hsorted (by decide)
        (hperm.trans (by decide))
    have ha : isPaired Volume.disk w "d" "a.asm" = true := by decide +kernel
    rw [List.filter_cons_of_neg (by rw [hC]; exact Bool.false_ne_true),
      List.filter_cons_of_pos ha, List.filter_nil] at hvs
    rw [List.filter_cons_of_pos (by rw [hC]; rfl),
      List.filter_cons_of_neg (by rw [ha]; exact Bool.false_ne_true)] at hstderr
    obtain ⟨_, _, ⟨p, hp, rfl⟩, hnone, rfl⟩ := List.forall₂_cons_left_iff.mp hvs
    have hmatched : (Matcher.standard.compare (Line.listing "start: NOP ; idle\n")
        (Line.listing "nop\n")).verdict = .matched := by
      decide +kernel
    rw [List.forall₂_nil_left_iff.mp hnone, hp.unique hread, hmatched] at hstdout
    exact ⟨hstdout, hstderr.trans (by decide)⟩

/-- Nothing but a dot stands before the extension: the listing beside the source is not looked at,
and the run fails although the two match. -/
theorem source_named_by_dot_fails :
    let v : Volume := ⟨[(["d"], .folder), (["d", "..asm"], .text "nop\n"),
      (["d", "..dis"], .text "nop\n")]⟩
    (Volume.disk.names "d" v).1 = .ok ["..asm", "..dis"] ∧ hasExtension "asm" "..asm" = true ∧
      hasExtension "asm" "..dis" = false ∧ Agrees Volume.disk v "d" "..asm" ∧
      (run Volume.disk ["verify", "d"] v).1 =
        ⟨1, "", "Error: reading d/..\n\nCaused by:\n    Is a directory (os error 21)\n"⟩ := by
  intro v
  refine ⟨by decide +kernel, by decide +kernel, by decide +kernel,
    ⟨"nop\n", "nop\n", by decide +kernel, by decide +kernel, by decide +kernel, by decide +kernel⟩,
    by decide +kernel⟩

end Cli

end AsmPair
