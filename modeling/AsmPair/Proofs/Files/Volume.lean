import AsmPair.Files.Volume
import AsmPair.Proofs.Text.Joined
import Mathlib.Data.List.Basic

/-!
# Files that were written

A file that was written is read back, and so is every other file, as long as it lies elsewhere:
writing a file changes what lies at one location, where no directory was, so all paths lead where
they led before.  Files of one directory lie elsewhere if their names differ.

## Main definitions

* `Files.IsPlainName` — a name that leads from a directory to a file in it.

## Main results

* `Volume.node?_put` — what lies where after something was put at a location.
* `Volume.read_write_self`, `Volume.read_write_of_ne` — what is read after writing.
* `Volume.resolve_within` — where the path of a file in a directory leads.
-/

namespace AsmPair

open Text

/-! ### Names in a directory -/

namespace Files

/-- A name without slashes that neither stands for nothing nor leads above. -/
structure IsPlainName (name : String) : Prop where
  /-- It has no slash. -/
  no_slash : '/' ∉ name.toList
  /-- It does not stand for nothing. -/
  not_idle : isIdle name = false
  /-- It does not lead above. -/
  ne_above : name ≠ ".."

/-- The path of a file in a directory is that of the directory, a slash, unless there is one, and
the name. -/
theorem exists_toList_within (dir : String) :
    ∃ d, (dir.toList = d ∨ dir.toList = d ++ ['/']) ∧
      ∀ name, (within dir name).toList = d ++ '/' :: name.toList := by
  unfold within
  split
  · next hslash =>
    obtain ⟨d, hd⟩ : ∃ d, dir.toList = d ++ ['/'] := List.getLast?_eq_some_iff.mp hslash
    refine ⟨d, .inr hd, fun name => ?_⟩
    rw [String.toList_append, hd, List.append_assoc, List.singleton_append]
  · refine ⟨dir.toList, .inl rfl, fun name => ?_⟩
    rw [String.toList_append, String.toList_append, List.append_assoc]
    rfl

/-- The last piece of the path of a file in a directory is the name. -/
theorem exists_pathPieces_within (dir : String) :
    ∃ ps, ps ≠ [] ∧ (pathPieces dir = ps ∨ pathPieces dir = ps ++ [""]) ∧
      ∀ name, '/' ∉ name.toList → pathPieces (within dir name) = ps ++ [name] := by
  obtain ⟨d, hdir, hd⟩ := exists_toList_within dir
  refine ⟨(pieces (· == '/') d).map String.ofList, ?_, ?_, fun name hname => ?_⟩
  · rw [Ne, List.map_eq_nil_iff]
    exact pieces_ne_nil _ d
  · unfold pathPieces
    rcases hdir with hdir | hdir
    · exact .inl (by rw [hdir])
    · right
      rw [hdir, pieces_append_cut rfl, List.map_append]
      rfl
  · unfold pathPieces
    rw [hd, pieces_append_cut rfl, pieces_of_not (beq_eq_false_of_not_mem hname),
      List.map_append, List.map_singleton, String.ofList_toList]

end Files

namespace Volume

variable {v w : Volume} {l l' base : Location} {n : Node}

/-! ### What lies where -/

theorem lookup_exchange (nodes : List (Location × Node)) (l l' : Location) (n : Node) :
    (nodes.map fun m => if m.1 = l then (l, n) else m).lookup l' =
      if l' = l then (nodes.lookup l).map fun _ => n else nodes.lookup l' := by
  induction nodes with
  | nil => split <;> rfl
  | cons m nodes ih =>
    obtain ⟨k, old⟩ := m
    rw [List.map_cons, List.lookup_cons, List.lookup_cons]
    by_cases hk : k = l
    · subst hk
      rw [if_pos rfl, List.lookup_cons, ih]
      by_cases hl : l' = k
      · subst hl
        simp
      · simp [hl, beq_false_of_ne hl]
    · rw [if_neg hk, List.lookup_cons, ih]
      by_cases hl : l' = l
      · subst hl
        have hne : (l' == k) = false := beq_false_of_ne fun h => hk h.symm
        simp [hne]
      · simp [hl]

theorem lookup_put (v : Volume) (l l' : Location) (n : Node) :
    (v.put l n).nodes.lookup l' = if l' = l then some n else v.nodes.lookup l' := by
  unfold put
  cases hold : v.nodes.lookup l with
  | none =>
    have hany : ¬ v.nodes.any (·.1 == l) = true := by
      intro hany
      obtain ⟨m, hm, heq⟩ := List.any_eq_true.mp hany
      have hne := List.lookup_eq_none_iff.mp hold m hm
      rw [eq_of_beq heq] at hne
      simp at hne
    rw [if_neg hany, List.lookup_append, List.lookup_cons, List.lookup_nil]
    by_cases hl : l' = l
    · subst hl
      simp [hold]
    · simp [hl, beq_false_of_ne hl]
  | some old =>
    have hany : v.nodes.any (·.1 == l) = true := by
      rw [List.any_eq_true]
      by_contra hnot
      have hnone : v.nodes.lookup l = none := by
        rw [List.lookup_eq_none_iff]
        intro m hm
        exact bne_iff_ne.mpr fun heq => hnot ⟨m, hm, beq_iff_eq.mpr heq.symm⟩
      rw [hold] at hnone
      cases hnone
    rw [if_pos hany, lookup_exchange, hold]
    rfl

/-- Nothing changes but at the location where something is put. -/
@[simp] theorem node?_put_of_ne (h : l' ≠ l) (v : Volume) (n : Node) :
    (v.put l n).node? l' = v.node? l' := by
  unfold node?
  rw [lookup_put, if_neg h]

@[simp] theorem node?_put_self (h : l.isBase = false) (v : Volume) (n : Node) :
    (v.put l n).node? l = some n := by
  unfold node?
  rw [lookup_put, if_pos rfl, h]
  rfl

/-! ### Where paths lead -/

/-- A step starts from a directory. -/
theorem node?_of_follow {piece : String} (h : v.follow base piece = .ok l) :
    v.node? base = some .folder := by
  unfold follow at h
  split at h
  · cases h
  · assumption
  · cases h

/-- A plain name leads to a place in the directory. -/
theorem eq_concat_of_follow {name : String} (hname : Files.IsPlainName name)
    (h : v.follow base name = .ok l) : l = base ++ [name] := by
  unfold follow at h
  split at h
  · cases h
  · rw [if_neg (by rw [hname.not_idle]; exact Bool.false_ne_true),
      if_neg fun habove => hname.ne_above (eq_of_beq habove)] at h
    split at h
    · cases h
    · exact (Except.ok.inj h).symm
  · cases h

/-- Putting something where no directory is does not change a step. -/
theorem follow_put {piece : String} (hl : v.node? l ≠ some .folder)
    (h : v.follow base piece = .ok l') : (v.put l n).follow base piece = .ok l' := by
  have hfolder := node?_of_follow h
  have hne : base ≠ l := by
    rintro rfl
    exact hl hfolder
  unfold follow at h ⊢
  rw [node?_put_of_ne hne]
  exact h

theorem followAll_put {ps : List String} (hl : v.node? l ≠ some .folder)
    (h : v.followAll base ps = .ok l') : (v.put l n).followAll base ps = .ok l' := by
  induction ps generalizing base with
  | nil => exact h
  | cons p ps ih =>
    obtain ⟨next, hnext, hrest⟩ := followAll_cons_eq_ok_iff.mp h
    exact followAll_cons_eq_ok_iff.mpr ⟨next, follow_put hl hnext, ih hrest⟩

theorem resolve_put {ps : List String} (hl : v.node? l ≠ some .folder)
    (h : v.resolve ps = .ok l') : (v.put l n).resolve ps = .ok l' := by
  unfold resolve at h ⊢
  split at h
  · cases h
  · next hshort =>
    rw [if_neg hshort]
    exact followAll_put hl h

/-- The last of several steps. -/
theorem exists_of_followAll_concat {ps : List String} {piece : String}
    (h : v.followAll base (ps ++ [piece]) = .ok l) :
    ∃ dir, v.followAll base ps = .ok dir ∧ v.follow dir piece = .ok l := by
  induction ps generalizing base with
  | nil =>
    obtain ⟨next, hnext, hrest⟩ := followAll_cons_eq_ok_iff.mp h
    cases hrest
    exact ⟨base, rfl, hnext⟩
  | cons p ps ih =>
    obtain ⟨next, hnext, hrest⟩ := followAll_cons_eq_ok_iff.mp h
    obtain ⟨dir, hdir, hlast⟩ := ih hrest
    exact ⟨dir, followAll_cons_eq_ok_iff.mpr ⟨next, hnext, hdir⟩, hlast⟩

/-- One more piece does not change where a path starts, unless there is nothing but a slash in front
of it. -/
theorem exists_start (ps : List String) (hps : ps ≠ []) : ∃ base qs,
    (∀ piece, start (ps ++ [piece]) = (base, qs ++ [piece])) ∧
      (qs = [] ∨ start ps = (base, qs)) := by
  obtain ⟨p, qs, rfl⟩ := List.exists_cons_of_ne_nil hps
  by_cases hp : p = ""
  · subst hp
    refine ⟨["/"], qs, fun piece => ?_, ?_⟩
    · cases qs <;> rfl
    · cases qs with
      | nil => exact .inl rfl
      | cons q qs => exact .inr rfl
  · have hstart : ∀ rs, start (p :: rs) = ([], p :: rs) := by
      intro rs
      unfold start
      split
      · next heq =>
        injection heq with hhead
        exact absurd hhead hp
      · rfl
    exact ⟨[], p :: qs, fun piece => hstart _, .inr (hstart qs)⟩

/-- **Paths of files in one directory lead to places of these names in one directory.** -/
theorem resolve_within {out name name' : String} (hname : Files.IsPlainName name)
    (hname' : Files.IsPlainName name')
    (h : v.resolve (Files.pathPieces (Files.within out name)) = .ok l)
    (h' : v.resolve (Files.pathPieces (Files.within out name')) = .ok l') :
    ∃ dir, l = dir ++ [name] ∧ l' = dir ++ [name'] := by
  obtain ⟨ps, hps, -, hpieces⟩ := Files.exists_pathPieces_within out
  obtain ⟨base, qs, hstart, -⟩ := exists_start ps hps
  have hlast : ∀ {file place}, Files.IsPlainName file →
      v.resolve (Files.pathPieces (Files.within out file)) = .ok place →
        ∃ dir, v.followAll base qs = .ok dir ∧ place = dir ++ [file] := by
    intro file place hfile hplace
    unfold resolve at hplace
    rw [hpieces file hfile.no_slash, hstart] at hplace
    split at hplace
    · cases hplace
    · obtain ⟨dir, hdir, hfollow⟩ := exists_of_followAll_concat hplace
      exact ⟨dir, hdir, eq_concat_of_follow hfile hfollow⟩
  obtain ⟨dir, hdir, rfl⟩ := hlast hname h
  obtain ⟨dir', hdir', rfl⟩ := hlast hname' h'
  rw [hdir] at hdir'
  cases hdir'
  exact ⟨dir, rfl, rfl⟩

/-! ### The directories above -/

/-- A location that the pieces of a path lead to: all that lies above it are directories. -/
def IsReached (v : Volume) (l : Location) : Prop :=
  ∀ k < l.length, v.node? (l.take k) = some .folder

@[simp] theorem node?_of_isBase (h : l.isBase = true) : v.node? l = some .folder := if_pos h

/-- What lies above the working directory, or a directory above it, is one of these as well. -/
theorem isBase_take (h : l.isBase = true) {k : Nat} (hk : k < l.length) :
    Location.isBase (l.take k) = true := by
  unfold Location.isBase at h ⊢
  rcases (Bool.or_eq_true ..).mp h with hroot | hdots
  · obtain rfl : l = ["/"] := eq_of_beq hroot
    obtain rfl : k = 0 := Nat.lt_one_iff.mp hk
    rfl
  · rw [Bool.or_eq_true]
    exact Or.inr (List.all_eq_true.mpr fun piece hpiece =>
      List.all_eq_true.mp hdots piece (List.mem_of_mem_take hpiece))

theorem isReached_of_isBase (h : l.isBase = true) : v.IsReached l :=
  fun _ hk => node?_of_isBase (isBase_take h hk)

/-- The directory above a base is a base. -/
theorem isBase_parent (h : l.isBase = true) : l.parent.isBase = true := by
  unfold Location.parent
  split
  · exact h
  · next hroot =>
    unfold Location.isBase at h ⊢
    rw [Bool.or_eq_true] at h ⊢
    right
    rw [List.all_append, h.resolve_left hroot]
    rfl

/-- **Above a directory that is reached lies a directory.** -/
theorem node?_parent (hreached : v.IsReached l) : v.node? l.parent = some .folder := by
  by_cases hbase : l.isBase = true
  · exact node?_of_isBase (isBase_parent hbase)
  · have hroot : ¬ l.isRoot = true := by
      intro hroot
      apply hbase
      unfold Location.isBase
      rw [hroot]
      rfl
    have hne : l ≠ [] := by
      rintro rfl
      exact hbase rfl
    unfold Location.parent
    rw [if_neg hroot, if_neg hbase, List.dropLast_eq_take]
    exact hreached _ (Nat.sub_lt (List.length_pos_iff.mpr hne) Nat.one_pos)

theorem IsReached.parent (h : v.IsReached l) : v.IsReached l.parent := by
  by_cases hbase : l.isBase = true
  · exact isReached_of_isBase (isBase_parent hbase)
  · unfold Location.parent
    split
    · exact h
    · intro k hk
      rw [List.length_dropLast] at hk
      rw [List.dropLast_eq_take, List.take_take, Nat.min_eq_left (Nat.le_of_lt hk)]
      exact h k (by omega)

/-- A step leads from a location that is reached to one that is. -/
theorem IsReached.follow {piece : String} (hreached : v.IsReached base)
    (h : v.follow base piece = .ok l) : v.IsReached l := by
  have hfolder := node?_of_follow h
  unfold Volume.follow at h
  rw [hfolder] at h
  dsimp only at h
  split at h
  · cases h
    exact hreached
  · split at h
    · cases h
      exact hreached.parent
    · split at h
      · cases h
      · obtain rfl := Except.ok.inj h
        intro k hk
        rw [List.length_append, List.length_singleton] at hk
        rcases Nat.lt_or_ge k base.length with hlt | hge
        · rw [List.take_append_of_le_length (Nat.le_of_lt hlt)]
          exact hreached k hlt
        · obtain rfl : k = base.length := by omega
          rw [List.take_left]
          exact hfolder

theorem IsReached.followAll {ps : List String} (hreached : v.IsReached base)
    (h : v.followAll base ps = .ok l) : v.IsReached l := by
  induction ps generalizing base with
  | nil =>
    cases h
    exact hreached
  | cons p ps ih =>
    obtain ⟨next, hnext, hrest⟩ := followAll_cons_eq_ok_iff.mp h
    exact ih (hreached.follow hnext) hrest

/-- Paths start at the working directory or at the root. -/
@[simp] theorem isBase_start (ps : List String) : (start ps).1.isBase = true := by
  unfold start
  split <;> rfl

/-- **Two dots behind a directory lead to a directory**, if they lead anywhere. -/
theorem node?_of_resolve_above {dir : String}
    (h : v.resolve (Files.pathPieces (Files.within dir "..")) = .ok l) :
    v.node? l = some .folder := by
  obtain ⟨ps, hps, -, hpieces⟩ := Files.exists_pathPieces_within dir
  obtain ⟨base, qs, hstart, -⟩ := exists_start ps hps
  have hbase : base.isBase = true := by
    have hfirst := isBase_start (ps ++ [".."])
    rwa [hstart] at hfirst
  unfold resolve at h
  rw [hpieces ".." (by decide), hstart] at h
  split at h
  · cases h
  · obtain ⟨place, hplace, hfollow⟩ := exists_of_followAll_concat h
    have hreached := (isReached_of_isBase hbase).followAll hplace
    have hfolder := node?_of_follow hfollow
    unfold follow at hfollow
    rw [hfolder] at hfollow
    obtain rfl : place.parent = l := Except.ok.inj hfollow
    exact node?_parent hreached

/-! ### Reading and writing -/

variable {path path' text text' : String}

/-- Writing puts a text at the place that the path leads to, where no directory is. -/
theorem write_eq_ok_iff : v.write path text = .ok w ↔
    ∃ l, v.resolve (Files.pathPieces path) = .ok l ∧ v.node? l ≠ some .folder ∧
      w = v.put l (.text text) := by
  unfold write
  cases v.resolve (Files.pathPieces path) with
  | error e => simp
  | ok l =>
    by_cases hfolder : v.node? l = some .folder
    · simp [hfolder]
    · simp only [if_neg hfolder]
      constructor
      · intro h
        exact ⟨l, rfl, hfolder, (Except.ok.inj h).symm⟩
      · rintro ⟨l', hl', -, rfl⟩
        rw [Except.ok.inj hl']

/-- A directory is not written to. -/
theorem write_of_folder (h : v.lookup (Files.pathPieces path) = .ok .folder) (text : String) :
    v.write path text = .error .isADirectory := by
  unfold lookup at h
  unfold write
  cases hpath : v.resolve (Files.pathPieces path) with
  | error e =>
    rw [hpath] at h
    cases h
  | ok l =>
    rw [hpath] at h
    have hfolder : v.node? l = some .folder := by
      cases hnode : v.node? l with
      | none =>
        simp only [hnode] at h
        cases h
      | some n =>
        simp only [hnode] at h
        rw [Except.ok.inj h]
    exact if_pos hfolder

/-- What is read is the text at the place that the path leads to. -/
theorem read_eq_ok_iff : v.read path = .ok text ↔
    ∃ l, v.resolve (Files.pathPieces path) = .ok l ∧ v.node? l = some (.text text) := by
  unfold read lookup
  cases v.resolve (Files.pathPieces path) with
  | error e => simp
  | ok l =>
    cases hnode : v.node? l with
    | none => simp [hnode]
    | some n => cases n <;> simp [hnode]

/-- The disk writes if the volume can be written. -/
theorem disk_write (path text : String) (v : Volume) : disk.write path text v =
    match v.write path text with
    | .ok w => (.ok (), w)
    | .error e => (.error e, v) := by
  unfold disk changed
  rfl

/-- The disk makes a directory if it can be made in the volume. -/
theorem disk_makeFolder (path : String) (v : Volume) : disk.makeFolder path v =
    match v.makeFolder path with
    | .ok w => (.ok (), w)
    | .error e => (.error e, v) := by
  unfold disk changed
  rfl

/-- A file that was written is read back. -/
theorem read_write_self (h : v.write path text = .ok w) : w.read path = .ok text := by
  obtain ⟨l, hl, hfolder, rfl⟩ := write_eq_ok_iff.mp h
  have hbase : l.isBase = false := by
    by_contra hbase
    rw [Bool.not_eq_false] at hbase
    apply hfolder
    unfold node?
    rw [if_pos hbase]
  exact read_eq_ok_iff.mpr ⟨l, resolve_put hfolder hl, node?_put_self hbase v _⟩

/-- What is read elsewhere stays. -/
theorem read_write_of_ne (h : v.write path text = .ok w) (h' : v.read path' = .ok text')
    (hne : v.resolve (Files.pathPieces path) ≠ v.resolve (Files.pathPieces path')) :
    w.read path' = .ok text' := by
  obtain ⟨l, hl, hfolder, rfl⟩ := write_eq_ok_iff.mp h
  obtain ⟨l', hl', hnode⟩ := read_eq_ok_iff.mp h'
  have hplace : l' ≠ l := by
    rintro rfl
    exact hne (hl.trans hl'.symm)
  refine read_eq_ok_iff.mpr ⟨l', resolve_put hfolder hl', ?_⟩
  rw [node?_put_of_ne hplace, hnode]

/-- Writing one file of a directory does not change another one. -/
theorem read_write_within {out name name' : String} (hname : Files.IsPlainName name)
    (hname' : Files.IsPlainName name') (hne : name ≠ name')
    (h : v.write (Files.within out name) text = .ok w)
    (h' : v.read (Files.within out name') = .ok text') :
    w.read (Files.within out name') = .ok text' := by
  obtain ⟨l, hl, -, -⟩ := write_eq_ok_iff.mp h
  obtain ⟨l', hl', -⟩ := read_eq_ok_iff.mp h'
  refine read_write_of_ne h h' fun hsame => ?_
  obtain ⟨dir, rfl, rfl⟩ := resolve_within hname hname' hl hl'
  rw [hl, hl'] at hsame
  exact hne (List.singleton_inj.mp (List.append_cancel_left (Except.ok.inj hsame)))

end Volume

end AsmPair
