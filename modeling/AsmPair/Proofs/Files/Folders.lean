import AsmPair.Proofs.Files.Volume

/-!
# Directories that were made

Making a directory, with the directories above it as far as they are missing, adds directories
where nothing was and changes nothing else.  Its path leads to a directory then, so the path of a
file in it leads to a place in this directory, unless the name or the path is too long.

## Main definitions

* `Volume.IsGrown` — a volume with new directories.

## Main results

* `Volume.makeAll_eq_ok` — where the directory lies and what has changed.
* `Volume.resolve_within_of_makeFolder` — where the paths of files in it lead.
-/

namespace AsmPair.Volume

variable {u v w : Volume} {l m base : Location} {ps : List String}

/-! ### New directories -/

/-- A volume that holds what another one holds, and perhaps directories where nothing was. -/
def IsGrown (v w : Volume) : Prop :=
  ∀ l, w.node? l = v.node? l ∨ v.node? l = none ∧ w.node? l = some .folder

theorem IsGrown.refl (v : Volume) : v.IsGrown v := fun _ => .inl rfl

theorem IsGrown.trans (huv : u.IsGrown v) (hvw : v.IsGrown w) : u.IsGrown w := by
  intro l
  rcases hvw l with hw | ⟨hv, hw⟩
  · rw [hw]
    exact huv l
  · rcases huv l with hu | ⟨-, hfolder⟩
    · exact .inr ⟨hu ▸ hv, hw⟩
    · rw [hv] at hfolder
      cases hfolder

/-- Nothing lies at a location that is no base only if it was not put there. -/
theorem isBase_of_node?_eq_none (h : v.node? l = none) : l.isBase = false := by
  rw [Bool.eq_false_iff]
  intro hbase
  rw [node?_of_isBase hbase] at h
  cases h

theorem isGrown_put (h : v.node? l = none) : v.IsGrown (v.put l .folder) := by
  intro l'
  by_cases hl : l' = l
  · rw [hl]
    exact .inr ⟨h, node?_put_self (isBase_of_node?_eq_none h) v .folder⟩
  · exact .inl (node?_put_of_ne hl v .folder)

/-- A directory is there already, or it is put where nothing was. -/
theorem makeAt_eq_ok (h : v.makeAt m = .ok (w, l)) :
    l = m ∧ w.node? l = some .folder ∧ v.IsGrown w ∧
      ∀ {start qs}, v.followAll start qs = .ok m → w.followAll start qs = .ok l := by
  unfold makeAt at h
  cases hnode : v.node? m with
  | none =>
    rw [hnode] at h
    cases h
    refine ⟨rfl, node?_put_self (isBase_of_node?_eq_none hnode) v .folder, isGrown_put hnode, ?_⟩
    exact fun hfollow => followAll_put (by rw [hnode]; simp) hfollow
  | some n =>
    rw [hnode] at h
    cases n with
    | folder =>
      cases h
      exact ⟨rfl, hnode, IsGrown.refl v, fun hfollow => hfollow⟩
    | text s => cases h
    | binary => cases h

/-! ### Paths of new directories -/

/-- Pieces are followed one after the other. -/
theorem followAll_append {qs : List String} (h : v.followAll base ps = .ok l) :
    v.followAll base (ps ++ qs) = v.followAll l qs := by
  induction ps generalizing base with
  | nil =>
    cases h
    rfl
  | cons p ps ih =>
    obtain ⟨next, hnext, hrest⟩ := followAll_cons_eq_ok_iff.mp h
    rw [List.cons_append, followAll, hnext]
    exact ih hrest

/-- A path is that of the directory above and the pieces that follow. -/
theorem reverse_above_append_below (ps : List String) :
    (above ps).reverse ++ below ps = ps.reverse := by
  have hsuffix : above ps <:+ ps :=
    (List.dropWhile_suffix _).trans ((List.tail_suffix _).trans (List.dropWhile_suffix _))
  unfold below
  generalize above ps = top at hsuffix ⊢
  obtain ⟨front, rfl⟩ := hsuffix
  rw [List.length_append, Nat.add_sub_cancel, List.take_left, List.reverse_append]

/-- **A directory that was made is where its path leads.** -/
theorem makeAll_eq_ok (hbase : v.node? base = some .folder)
    (h : v.makeAll base ps = .ok (w, l)) :
    w.followAll base ps.reverse = .ok l ∧ w.node? l = some .folder ∧ v.IsGrown w := by
  fun_induction makeAll v base ps generalizing w l with
  | case1 =>
    cases h
    exact ⟨rfl, hbase, IsGrown.refl v⟩
  | case2 p ps place hplace =>
    obtain ⟨-, hfolder, hgrown, hfollow⟩ := makeAt_eq_ok h
    exact ⟨hfollow hplace, hfolder, hgrown⟩
  | case3 => cases h
  | case4 => cases h
  | case5 p ps _ u dir habove place hplace ih =>
    obtain ⟨hdir, -, hgrown⟩ := ih habove
    obtain ⟨-, hfolder, hgrown', hfollow⟩ := makeAt_eq_ok h
    refine ⟨hfollow ?_, hfolder, hgrown.trans hgrown'⟩
    rw [← reverse_above_append_below, followAll_append hdir, hplace]
  | case6 => cases h

/-- Pieces that stand for nothing lead nowhere else. -/
theorem followAll_idle (hfolder : v.node? l = some .folder)
    (hps : ∀ p ∈ ps, Files.isIdle p = true) : v.followAll l ps = .ok l := by
  induction ps with
  | nil => rfl
  | cons p ps ih =>
    have hfollow : v.follow l p = .ok l := by
      unfold follow
      rw [hfolder]
      exact if_pos (hps p List.mem_cons_self)
    exact followAll_cons_eq_ok_iff.mpr
      ⟨l, hfollow, ih fun q hq => hps q (List.mem_cons_of_mem p hq)⟩

/-- Slashes at the end of the path of a directory do not matter. -/
theorem followAll_of_dropWhile (hfolder : v.node? l = some .folder)
    (h : v.followAll base (ps.reverse.dropWhile (· == "")).reverse = .ok l) :
    v.followAll base ps = .ok l := by
  have hsplit : ps = (ps.reverse.dropWhile (· == "")).reverse ++
      (ps.reverse.takeWhile (· == "")).reverse := by
    rw [← List.reverse_append, List.takeWhile_append_dropWhile, List.reverse_reverse]
  rw [hsplit, followAll_append h]
  apply followAll_idle hfolder
  intro p hp
  have hempty := List.all_eq_true.mp List.all_takeWhile p (List.mem_reverse.mp hp)
  rw [eq_of_beq hempty]
  rfl

/-! ### Files in new directories -/

/-- The path of a file in a directory is that of the directory and the name.  A slash at the end of
the path of the directory does not matter, and the empty path leads to the root. -/
theorem exists_start_within (out : String) : ∃ base qs, base.isBase = true ∧
    (∀ name, '/' ∉ name.toList →
      start (Files.pathPieces (Files.within out name)) = (base, qs ++ [name])) ∧
    (qs = [] ∨ start (Files.pathPieces out) = (base, qs) ∨
      start (Files.pathPieces out) = (base, qs ++ [""])) := by
  obtain ⟨ps, hps, hout, hpieces⟩ := Files.exists_pathPieces_within out
  obtain ⟨base, qs, hstart, hdir⟩ := exists_start ps hps
  have hbase : base.isBase = true := by
    have hfirst := isBase_start (ps ++ [""])
    rwa [hstart] at hfirst
  refine ⟨base, qs, hbase, fun name hname => by rw [hpieces name hname, hstart], ?_⟩
  rcases hout with hout | hout
  · exact hdir.imp_right fun hdir => .inl (by rw [hout, hdir])
  · exact .inr (.inr (by rw [hout, hstart]))

/-- The path of a directory that was made leads to it, with new directories above it. -/
theorem exists_followAll_of_makeFolder {out : String} {qs : List String}
    (hbase : base.isBase = true) (hout : qs = [] ∨ start (Files.pathPieces out) = (base, qs) ∨
      start (Files.pathPieces out) = (base, qs ++ [""]))
    (h : v.makeFolder out = .ok u) :
    v.IsGrown u ∧ ∃ dir, u.followAll base qs = .ok dir ∧ u.node? dir = some .folder := by
  unfold makeFolder at h
  dsimp only at h
  split at h
  · cases h
  · split at h
    · next w l hmade =>
      cases h
      obtain ⟨hfollow, hfolder, hgrown⟩ := makeAll_eq_ok (node?_of_isBase (isBase_start _)) hmade
      refine ⟨hgrown, ?_⟩
      rcases hout with rfl | hout | hout
      · exact ⟨base, rfl, node?_of_isBase hbase⟩
      · rw [hout] at hfollow
        exact ⟨l, followAll_of_dropWhile hfolder hfollow, hfolder⟩
      · rw [hout] at hfollow
        simp only [List.reverse_append, List.reverse_singleton, List.singleton_append] at hfollow
        exact ⟨l, followAll_of_dropWhile hfolder hfollow, hfolder⟩
    · cases h

/-- A plain name leads from a directory to a place in it, unless it is too long. -/
theorem followAll_plain {name : String} (hfolder : v.node? l = some .folder)
    (hname : Files.IsPlainName name) : v.followAll l [name] =
      if nameLimit < name.utf8ByteSize then .error .nameTooLong else .ok (l ++ [name]) := by
  have habove : ¬ (name == "..") = true := fun h => hname.ne_above (eq_of_beq h)
  have hfollow : v.follow l name =
      if nameLimit < name.utf8ByteSize then .error .nameTooLong else .ok (l ++ [name]) := by
    unfold follow
    rw [hfolder]
    dsimp only
    rw [hname.not_idle, if_neg Bool.false_ne_true, if_neg habove]
  rw [followAll, hfollow]
  by_cases hlong : nameLimit < name.utf8ByteSize
  · rw [if_pos hlong]
  · rw [if_neg hlong]
    rfl

/-- **A free path of a file in a directory that was made leads to the place of its name.** -/
theorem exists_resolve_within {out : String} (h : v.makeFolder out = .ok u) :
    v.IsGrown u ∧ ∃ dir, ∀ name, Files.IsPlainName name →
      u.lookup (Files.pathPieces (Files.within out name)) = .error .notFound →
        u.resolve (Files.pathPieces (Files.within out name)) = .ok (dir ++ [name]) ∧
          u.node? (dir ++ [name]) = none := by
  obtain ⟨base, qs, hbase, hstart, hout⟩ := exists_start_within out
  obtain ⟨hgrown, dir, hdir, hfolder⟩ := exists_followAll_of_makeFolder hbase hout h
  refine ⟨hgrown, dir, fun name hname hfree => ?_⟩
  have hresolve : u.resolve (Files.pathPieces (Files.within out name)) =
      if isOverlong (Files.pathPieces (Files.within out name)) ∨ nameLimit < name.utf8ByteSize
      then .error .nameTooLong else .ok (dir ++ [name]) := by
    unfold resolve
    rw [hstart name hname.no_slash, followAll_append hdir, followAll_plain hfolder hname, ite_or]
  unfold lookup at hfree
  rw [hresolve] at hfree ⊢
  -- a path that is too long is not free
  by_cases hlong : isOverlong (Files.pathPieces (Files.within out name)) ∨
      nameLimit < name.utf8ByteSize
  · rw [if_pos hlong] at hfree
    cases hfree
  · rw [if_neg hlong] at hfree ⊢
    refine ⟨rfl, ?_⟩
    cases hnode : u.node? (dir ++ [name]) with
    | none => rfl
    | some n =>
      simp only [hnode] at hfree
      cases hfree

end AsmPair.Volume
