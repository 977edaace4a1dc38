import AsmPair.Text.Separator

/-!
# Texts cut into pieces and joined from them

## Main results

* `pieces_append_cut` — at a cut the pieces before and after it come apart.
* `pieces_listed` — a list of operands is cut at its commas.
* `joined_append` — pieces may be joined in two groups.
* `infix_joined`, `mem_joined`, `filter_joined` — a joined text consists of its pieces and the
  separators.
* `toList_intercalate_comma` — a written operand list is its operands with separators.
* `linesOf_join` — a text that is written line by line has these lines.
-/

namespace AsmPair.Text

/-! ### Pieces -/

/-- At a cut the pieces before and after it come apart. -/
theorem pieces_append_cut {p : Char → Bool} {c : Char} (hc : p c = true) (xs ys : List Char) :
    pieces p (xs ++ c :: ys) = pieces p xs ++ pieces p ys := by
  induction xs with
  | nil => rw [List.nil_append, pieces_cons, if_pos hc]; rfl
  | cons d xs ih =>
    rw [List.cons_append, pieces_cons, pieces_cons, ih]
    split
    · rfl
    · obtain ⟨q, qs, hq⟩ := List.exists_cons_of_ne_nil (pieces_ne_nil p xs)
      rw [hq]
      rfl

/-- Characters that cut nothing go in front of the first piece. -/
theorem pieces_append_of_not {p : Char → Bool} {xs ys q : List Char} {qs : List (List Char)}
    (hxs : ∀ c ∈ xs, p c = false) (h : pieces p ys = q :: qs) :
    pieces p (xs ++ ys) = (xs ++ q) :: qs := by
  induction xs with
  | nil => exact h
  | cons c xs ih =>
    have hc : p c = false := hxs c List.mem_cons_self
    rw [List.cons_append, pieces_cons, hc, if_neg Bool.false_ne_true,
      ih fun d hd => hxs d (List.mem_cons_of_mem c hd)]
    rfl

theorem pieces_of_not {p : Char → Bool} {xs : List Char} (hxs : ∀ c ∈ xs, p c = false) :
    pieces p xs = [xs] := by
  have h := pieces_append_of_not hxs (pieces_nil p)
  rwa [List.append_nil] at h

theorem beq_eq_false_of_not_mem {c : Char} {xs : List Char} (h : c ∉ xs) :
    ∀ d ∈ xs, (d == c) = false := by
  intro d hd
  apply beq_false_of_ne
  rintro rfl
  exact h hd

/-- A text is cut at the first character of the class. -/
theorem cut?_append_cut {p : Char → Bool} {c : Char} {xs ys : List Char} (hc : p c = true)
    (hxs : ∀ d ∈ xs, p d = false) : cut? p (xs ++ c :: ys) = some (xs, ys) := by
  induction xs with
  | nil => rw [List.nil_append, cut?_cons_of_pos hc]
  | cons d xs ih =>
    have hd : p d = false := hxs d List.mem_cons_self
    rw [List.cons_append, cut?_cons_of_neg hd, ih fun e he => hxs e (List.mem_cons_of_mem d he)]
    rfl

/-- A text is cut at the first place where a character stands. -/
@[simp] theorem cut?_beq_eq_some_iff {c : Char} {cs before after : List Char} :
    cut? (· == c) cs = some (before, after) ↔ cs = before ++ c :: after ∧ c ∉ before := by
  constructor
  · intro h
    obtain ⟨d, hd, hsplit, hbefore⟩ := eq_of_cut?_eq_some h
    cases eq_of_beq hd
    exact ⟨hsplit, fun hmem => Bool.false_ne_true ((hbefore _ hmem).symm.trans hd)⟩
  · rintro ⟨rfl, hbefore⟩
    exact cut?_append_cut (beq_self_eq_true c) (beq_eq_false_of_not_mem hbefore)

@[simp] theorem cut?_beq_eq_none_iff {c : Char} {cs : List Char} :
    cut? (· == c) cs = none ↔ c ∉ cs := by
  constructor
  · intro h hmem
    obtain ⟨before, after, hsplit⟩ := List.eq_append_cons_of_mem hmem
    rw [cut?_beq_eq_some_iff.mpr hsplit] at h
    cases h
  · intro hmem
    cases h : cut? (· == c) cs with
    | none => rfl
    | some r =>
      obtain ⟨before, after⟩ := r
      rw [(cut?_beq_eq_some_iff.mp h).1] at hmem
      exact absurd (List.mem_append_right _ List.mem_cons_self) hmem

/-! ### Joined pieces -/

theorem joined_eq_intercalate (sep : List Char) (ps : List (List Char)) :
    joined sep ps = sep.intercalate ps := by
  fun_induction joined sep ps with
  | case1 => rfl
  | case2 p => rw [List.intercalate_singleton]
  | case3 p q ps ih => rw [List.intercalate_cons_cons, ih]

theorem joined_append {sep : List Char} {ps qs : List (List Char)} (hp : ps ≠ [])
    (hq : qs ≠ []) : joined sep (ps ++ qs) = joined sep ps ++ sep ++ joined sep qs := by
  fun_induction joined sep ps with
  | case1 => exact absurd rfl hp
  | case2 p =>
    obtain ⟨q, qs, rfl⟩ := List.exists_cons_of_ne_nil hq
    rfl
  | case3 p p' ps ih =>
    have h := ih (List.cons_ne_nil _ _)
    rw [List.cons_append, List.cons_append, joined_cons_cons]
    rw [List.cons_append] at h
    rw [h]
    simp only [List.append_assoc]

/-- What is put behind a joined text is put behind its last piece. -/
theorem joined_concat_append (sep : List Char) (ps : List (List Char)) (p t : List Char) :
    joined sep (ps ++ [p]) ++ t = joined sep (ps ++ [p ++ t]) := by
  by_cases hps : ps = []
  · rw [hps]
    rfl
  · rw [joined_append hps (List.cons_ne_nil _ _), joined_append hps (List.cons_ne_nil _ _),
      joined_singleton, joined_singleton, List.append_assoc]

/-- A piece stands in the joined text. -/
theorem infix_joined {sep p : List Char} {ps : List (List Char)} (h : p ∈ ps) :
    p <:+: joined sep ps := by
  fun_induction joined sep ps with
  | case1 => cases h
  | case2 q =>
    obtain rfl := List.mem_singleton.mp h
    exact List.infix_refl p
  | case3 q r ps ih =>
    rcases List.mem_cons.mp h with rfl | h
    · exact (List.prefix_append p sep).isInfix.trans (List.prefix_append _ _).isInfix
    · exact (ih h).trans (List.suffix_append _ _).isInfix

/-- A character of a joined text stands in the separator or in a piece. -/
theorem mem_joined {sep : List Char} {ps : List (List Char)} {c : Char} (h : c ∈ joined sep ps) :
    c ∈ sep ∨ ∃ p ∈ ps, c ∈ p := by
  fun_induction joined sep ps with
  | case1 => cases h
  | case2 p => exact Or.inr ⟨p, List.mem_cons_self, h⟩
  | case3 p q ps ih =>
    rcases List.mem_append.mp h with h | h
    · rcases List.mem_append.mp h with h | h
      · exact Or.inr ⟨p, List.mem_cons_self, h⟩
      · exact Or.inl h
    · refine (ih h).imp_right ?_
      rintro ⟨r, hr, hc⟩
      exact ⟨r, List.mem_cons_of_mem p hr, hc⟩

/-- Where the separator does not count, a joined text is its pieces. -/
theorem filter_joined {p : Char → Bool} {sep : List Char} (hsep : sep.filter p = [])
    (ps : List (List Char)) : (joined sep ps).filter p = ps.flatten.filter p := by
  fun_induction joined sep ps with
  | case1 => rfl
  | case2 q => rw [List.flatten_singleton]
  | case3 q r ps ih =>
    rw [List.filter_append, List.filter_append, hsep, List.append_nil, ih,
      ← List.filter_append]
    rfl

/-- What holds of the characters of the separator and of every piece holds of the joined text. -/
theorem all_joined {p : Char → Bool} {sep : List Char} {ps : List (List Char)}
    (hsep : sep.all p = true) (hps : ∀ q ∈ ps, q.all p = true) : (joined sep ps).all p = true := by
  rw [List.all_eq_true]
  intro c hc
  rcases mem_joined hc with hc | ⟨q, hq, hc⟩
  · exact List.all_eq_true.mp hsep c hc
  · exact List.all_eq_true.mp (hps q hq) c hc

/-- A written operand list is its operands with separators between them. -/
theorem toList_intercalate_comma (ops : List String) :
    (", ".intercalate ops).toList = listed (ops.map String.toList) := by
  rw [String.toList_intercalate, listed, joined_eq_intercalate]
  rfl

/-- A list of operands is cut at its commas, each of which leaves a space behind. -/
theorem pieces_listed {p : List Char} {ps : List (List Char)} (h : ∀ q ∈ p :: ps, ',' ∉ q) :
    pieces (· == ',') (listed (p :: ps)) = p :: ps.map (' ' :: ·) := by
  unfold listed
  induction ps generalizing p with
  | nil => exact pieces_of_not (beq_eq_false_of_not_mem (h p List.mem_cons_self))
  | cons q ps ih =>
    have hp := beq_eq_false_of_not_mem (h p List.mem_cons_self)
    have hrest := ih fun r hr => h r (List.mem_cons_of_mem p hr)
    rw [joined_cons_cons, List.append_assoc, List.cons_append, pieces_append_cut rfl,
      pieces_of_not hp, List.singleton_append, List.singleton_append, pieces_cons, hrest]
    rfl

/-! ### Lines -/

theorem pieces_flatMap_line {ls : List (List Char)} (h : ∀ l ∈ ls, '\n' ∉ l) :
    pieces (· == '\n') (ls.flatMap (· ++ ['\n'])) = ls ++ [[]] := by
  induction ls with
  | nil => rfl
  | cons l ls ih =>
    have hl := beq_eq_false_of_not_mem (h l List.mem_cons_self)
    rw [List.flatMap_cons, List.append_assoc, List.singleton_append, pieces_append_cut rfl,
      pieces_of_not hl, ih fun r hr => h r (List.mem_cons_of_mem l hr)]
    rfl

theorem dropReturn_of_not_mem {l : List Char} (h : '\r' ∉ l) : dropReturn l = l := by
  unfold dropReturn
  rw [if_neg]
  intro hlast
  exact h (List.mem_of_getLast? hlast)

/-- A text that is written line by line has these lines. -/
theorem linesOf_join {ls : List String} (h : ∀ l ∈ ls, '\n' ∉ l.toList ∧ '\r' ∉ l.toList) :
    linesOf (String.join (ls.map (· ++ "\n"))) = ls := by
  have htext : (String.join (ls.map (· ++ "\n"))).toList =
      (ls.map String.toList).flatMap (· ++ ['\n']) := by
    rw [String.toList_join, List.flatMap_map, List.flatMap_map]
    simp only [String.toList_append]
    rfl
  have hbreak : ∀ l ∈ ls.map String.toList, '\n' ∉ l ∧ '\r' ∉ l := by
    intro l hl
    obtain ⟨s, hs, rfl⟩ := List.mem_map.mp hl
    exact h s hs
  have hreturn : (ls.map String.toList).map dropReturn = (ls.map String.toList).map id :=
    List.map_congr_left fun l hl => dropReturn_of_not_mem (hbreak l hl).2
  unfold linesOf lines
  rw [htext, pieces_flatMap_line fun l hl => (hbreak l hl).1]
  simp only [List.dropLast_concat, List.getLast?_concat, Option.toList_some, hreturn]
  simp

end AsmPair.Text
