import AsmPair.Proofs.Module.Sharding
import Mathlib.Algebra.Order.Floor.Div

/-!
# Shards

The outer operands of a form are cut into runs of the capacity, from the front; only the last run
may be shorter.  Each run makes one module, a shard, which holds the combinations with these outer
operands.  So the number of shards is a quotient rounded up, and the place of an outer operand
among all of them says which shard holds it.

## Main definitions

* `Form.Exceeds` — what keeps a form from being composed at a capacity.
* `Form.shardBody` — the instructions of the shard at a position.

## Main results

* `length_chunks`, `getElem?_chunks` — how many runs there are, and which values each one has.
* `product_set_eq_filter` — a pinned product is a part of the product.
* `Composer.compose_eq_error_iff` — why a form is not composed.
* `Composer.shards_of_capacity` — when a form is composed, and into which modules.
-/

namespace AsmPair

/-! ### Runs -/

section Chunks

variable {α : Type} {n : Nat}

/-- Values make as many runs as their number takes when it is divided by the length of a run and
rounded up. -/
theorem length_chunks (hn : 0 < n) (xs : List α) : (chunks n xs).length = xs.length ⌈/⌉ n := by
  rw [Nat.ceilDiv_eq_add_pred_div]
  fun_induction chunks n xs with
  | case1 => exact (Nat.div_eq_of_lt (by rw [List.length_nil]; omega)).symm
  | case2 x xs ih =>
    have hstep : xs.length + 1 + n - 1 = xs.length + n := by omega
    rw [List.length_cons, ih, List.length_drop, List.length_cons, hstep, Nat.add_div_right _ hn]
    congr 1
    -- the first run takes one value and up to `n - 1` of the others
    rcases Nat.lt_or_ge xs.length (n - 1) with h | h
    · rw [Nat.div_eq_of_lt (by omega), Nat.div_eq_of_lt (by omega)]
    · congr 1
      omega

theorem getElem?_chunks (hn : 0 < n) (xs : List α) (i : Nat) :
    (chunks n xs)[i]? = if i * n < xs.length then some ((xs.drop (i * n)).take n) else none := by
  fun_induction chunks n xs generalizing i with
  | case1 => rfl
  | case2 x xs ih =>
    cases i with
    | zero =>
      obtain ⟨m, rfl⟩ := Nat.exists_eq_succ_of_ne_zero (Nat.ne_of_gt hn)
      simp
    | succ i =>
      have hmul : (i + 1) * n = i * n + (n - 1) + 1 := by rw [Nat.succ_mul]; omega
      rw [List.getElem?_cons_succ, ih, List.length_drop, hmul, List.drop_drop, List.drop_succ_cons,
        List.length_cons, Nat.add_comm (n - 1)]
      congr 1
      exact propext (by omega)

/-- The run at a position has the values from there on, up to its length or the end. -/
theorem getElem_chunks (hn : 0 < n) (xs : List α) {i : Nat} (hi : i < (chunks n xs).length) :
    (chunks n xs)[i] = xs.extract (i * n) (min ((i + 1) * n) xs.length) := by
  have hget := getElem?_chunks hn xs i
  rw [List.getElem?_eq_getElem hi] at hget
  split at hget
  · rw [Option.some.inj hget, List.extract_eq_take_drop, List.take_eq_take_iff, List.length_drop,
      Nat.succ_mul]
    omega
  · cases hget

end Chunks

/-! ### Pinned values -/

/-- A product in which one set is reduced to one of its values is a part of the whole product. -/
theorem product_set_eq_filter {α : Type} [DecidableEq α] {sets : List (List α)} {position : Nat}
    (h : position < sets.length) (hnodup : sets[position].Nodup) {v : α}
    (hv : v ∈ sets[position]) :
    product (sets.set position [v]) =
      (product sets).filter fun row => row[position]? = some v := by
  induction position generalizing sets with
  | zero =>
    obtain ⟨s, ss, rfl⟩ := List.exists_cons_of_length_pos h
    rw [List.getElem_cons_zero] at hnodup hv
    have hrow : ∀ x, ((product ss).map (x :: ·)).filter (fun row => row[0]? = some v) =
        if x = v then (product ss).map (x :: ·) else [] := by
      intro x
      rw [List.filter_map]
      by_cases hx : x = v <;> simp [Function.comp_def, hx]
    rw [List.set_cons_zero, product_cons, product_cons, List.flatMap_singleton, List.filter_flatMap]
    simp only [hrow]
    -- without repetition the value stands in one place
    obtain ⟨before, after, rfl⟩ := List.append_of_mem hv
    obtain ⟨hbefore, hafter⟩ : v ∉ before ∧ v ∉ after := by
      rw [List.nodup_middle, List.nodup_cons, List.mem_append, not_or] at hnodup
      exact hnodup.1
    have hnone : ∀ xs : List α, v ∉ xs →
        (xs.flatMap fun x => if x = v then (product ss).map (x :: ·) else []) = [] := by
      intro xs hxs
      refine List.flatMap_eq_nil_iff.mpr fun x hx => if_neg ?_
      rintro rfl
      exact hxs hx
    rw [List.flatMap_append, List.flatMap_cons, hnone before hbefore, hnone after hafter,
      if_pos rfl, List.append_nil, List.nil_append]
  | succ position ih =>
    obtain ⟨s, ss, rfl⟩ := List.exists_cons_of_length_pos (Nat.zero_lt_of_lt h)
    rw [List.getElem_cons_succ] at hnodup hv
    rw [List.set_cons_succ, product_cons, product_cons, List.filter_flatMap,
      ih (Nat.lt_of_succ_lt_succ h) hnodup hv]
    refine List.flatMap_congr fun x _ => ?_
    rw [List.filter_map]
    rfl

/-! ### Large slots -/

namespace Form

variable {f : Form} {position : Nat} {t : Template}

/-- What keeps a form from being composed at a capacity: it has more than three slots, or more than
one that is large, or so large a one that the letters for its shards run out. -/
def Exceeds (f : Form) (capacity : Nat) : Prop :=
  3 < f.templates.length ∨ 1 < (f.templates.filter Template.isLarge).length ∨
    ∃ t, f.templates.filter Template.isLarge = [t] ∧ 26 < t.operands.length ⌈/⌉ capacity

/-- The instructions of the shard with given outer operands: for one of them after the other, the
combinations that have it at the position of the large slot. -/
def shardBody (f : Form) (position : Nat) (values : List String) : List String :=
  values.flatMap fun v =>
    ((product f.sets).filter fun row => row[position]? = some v).map
      (Composer.instruction f.mnemonic)

theorem getElem?_sets (h : f.templates[position]? = some t) :
    f.sets[position]? = some t.operands := by
  unfold sets
  rw [List.getElem?_map, h, Option.map_some]

/-- Without a large slot nothing is split. -/
theorem outer?_eq_none_iff : f.outer? = none ↔ f.templates.filter Template.isLarge = [] := by
  unfold outer?
  rw [List.findIdx?_eq_none_iff, List.filter_eq_nil_iff]
  exact forall₂_congr fun t _ => (Bool.not_eq_true _).symm.to_iff

/-- A sole large slot is the one that is split. -/
theorem outer?_eq_some_of_isLarge (hcount : (f.templates.filter Template.isLarge).length ≤ 1)
    (h : f.templates[position]? = some t) (hlarge : t.isLarge = true) :
    f.outer? = some position := by
  obtain ⟨hlt, rfl⟩ := List.getElem?_eq_some_iff.mp h
  refine List.findIdx?_eq_some_iff_getElem.mpr ⟨hlt, hlarge, fun i hi hlarge' => ?_⟩
  -- a large slot before it would be a second one
  have hbefore : f.templates[i] ∈ (f.templates.take position).filter Template.isLarge :=
    List.mem_filter.mpr ⟨List.mem_take_iff_getElem.mpr ⟨i, by omega, rfl⟩, hlarge'⟩
  have hafter : f.templates[position] ∈ (f.templates.drop position).filter Template.isLarge := by
    rw [List.drop_eq_getElem_cons hlt]
    exact List.mem_filter.mpr ⟨List.mem_cons_self, hlarge⟩
  have hsplit := congrArg (fun ts => (ts.filter Template.isLarge).length)
    (List.take_append_drop position f.templates)
  simp only [List.filter_append, List.length_append] at hsplit
  have := List.length_pos_of_mem hbefore
  have := List.length_pos_of_mem hafter
  omega

/-- The slot that is split is large. -/
theorem exists_isLarge_of_outer? (h : f.outer? = some position) :
    ∃ t, f.templates[position]? = some t ∧ t.isLarge = true := by
  obtain ⟨hlt, hlarge, -⟩ := List.findIdx?_eq_some_iff_getElem.mp h
  exact ⟨f.templates[position], List.getElem?_eq_getElem hlt, hlarge⟩

/-- If there is one large slot only, it is the one that is split. -/
theorem filter_isLarge_eq (hcount : (f.templates.filter Template.isLarge).length ≤ 1)
    (h : f.templates[position]? = some t) (hlarge : t.isLarge = true) :
    f.templates.filter Template.isLarge = [t] := by
  have hmem : t ∈ f.templates.filter Template.isLarge :=
    List.mem_filter.mpr ⟨List.mem_of_getElem? h, hlarge⟩
  obtain ⟨u, hu⟩ := List.length_eq_one_iff.mp
    (Nat.le_antisymm hcount (List.length_pos_of_mem hmem))
  rw [hu] at hmem ⊢
  rw [List.mem_singleton.mp hmem]

theorem shape_eq_error_iff {e : GenerationError} : f.shape = .error e ↔
    (maxOperands < f.templates.length ∧
      e = .malformed f.title (.tooManyOperands f.templates.length)) ∨
    (f.templates.length ≤ maxOperands ∧ 1 < f.templates.countP Template.isLarge ∧
      e = .malformed f.title .severalLarge) := by
  unfold shape
  split
  · next h => simp [h, Nat.not_le_of_lt h, eq_comm]
  · next h =>
    split
    · next h' => simp [h, Nat.le_of_not_lt h, h', eq_comm]
    · next h' => simp [h, h']

end Form

/-! ### The modules of a form -/

namespace Composer

variable {c : Composer} {f : Form} {ms : List AsmModule} {position : Nat} {t : Template}

/-- A shard has its outer operands, each with all combinations of the other slots. -/
theorem map_instruction_pinned (h : f.templates[position]? = some t) {values : List String}
    (hvalues : values ⊆ t.operands) :
    (pinned f.sets position values).map (instruction f.mnemonic) =
      f.shardBody position values := by
  obtain ⟨hlt, hset⟩ := List.getElem?_eq_some_iff.mp (Form.getElem?_sets h)
  unfold pinned Form.shardBody
  rw [List.map_flatMap]
  refine List.flatMap_congr fun v hv => ?_
  rw [product_set_eq_filter hlt]
  · rw [hset]
    exact t.nodup_operands
  · rw [hset]
    exact hvalues hv

theorem getD_sets (ht : f.templates[position]? = some t) :
    (f.templates.map Template.operands).getD position [] = t.operands := by
  rw [List.getD_eq_getElem?_getD, List.getElem?_map, ht, Option.map_some, Option.getD_some]

/-- The modules of a form hold one run of the outer operands each. -/
theorem batches_eq (h : f.outer? = some position) (ht : f.templates[position]? = some t) :
    c.batches f = (chunks c.capacity t.operands).map (pinned f.sets position) := by
  unfold batches
  rw [h]
  simp only
  rw [Form.sets, getD_sets ht]

/-- **Why a form is not composed**, which is said under its title. -/
theorem compose_eq_error_iff {e : GenerationError} : c.compose f = .error e ↔
    (3 < f.templates.length ∧ e = .malformed f.title (.tooManyOperands f.templates.length)) ∨
    (f.templates.length ≤ 3 ∧ 1 < (f.templates.filter Template.isLarge).length ∧
      e = .malformed f.title .severalLarge) ∨
    (f.templates.length ≤ 3 ∧ ∃ t, f.templates.filter Template.isLarge = [t] ∧
      26 < t.operands.length ⌈/⌉ c.capacity ∧
      e = .malformed f.title (.tooManyShards (t.operands.length ⌈/⌉ c.capacity) c.capacity)) := by
  rw [← List.countP_eq_length_filter]
  unfold compose
  cases hs : f.shape with
  | error e' =>
    simp only [Except.error.injEq, eq_comm (a := e')]
    rcases Form.shape_eq_error_iff.mp hs with ⟨hlen, rfl⟩ | ⟨hlen, hcount, rfl⟩
    · simp only [maxOperands] at hlen
      simp [hlen, Nat.not_le_of_lt hlen]
    · simp only [maxOperands] at hlen
      have hsole : ∀ t, f.templates.filter Template.isLarge ≠ [t] := by
        intro t ht
        rw [List.countP_eq_length_filter, ht] at hcount
        exact absurd hcount (Nat.lt_irrefl 1)
      simp [hlen, Nat.not_lt_of_le hlen, hcount, hsole]
  | ok s =>
    obtain ⟨hlen, hcount, rfl⟩ := Form.shape_eq_ok_iff.mp hs
    simp only [maxOperands] at hlen
    simp only [Nat.not_lt_of_le hlen, Nat.not_lt_of_le hcount, hlen, false_and, and_false, false_or,
      true_and]
    cases houter : f.outer? with
    | none => simp [Form.outer?_eq_none_iff.mp houter]
    | some position =>
      obtain ⟨t, ht, hlarge⟩ := Form.exists_isLarge_of_outer? houter
      rw [List.countP_eq_length_filter] at hcount
      simp only [Form.filter_isLarge_eq hcount ht hlarge, getD_sets ht,
        length_chunks c.capacity_pos, List.cons.injEq, and_true, exists_eq_left']
      split
      · next h => simp [show 26 < _ from h, eq_comm]
      · next h => simp [show ¬ 26 < _ from h]

/-- A form that is not composed is named by the error. -/
theorem exists_malformed_of_compose {e : GenerationError} (h : c.compose f = .error e) :
    ∃ reason, e = .malformed f.title reason := by
  rcases compose_eq_error_iff.mp h with ⟨-, rfl⟩ | ⟨-, -, rfl⟩ | ⟨-, t, -, -, rfl⟩ <;>
    exact ⟨_, rfl⟩

theorem exists_error_iff : (∃ e, c.compose f = .error e) ↔ f.Exceeds c.capacity := by
  constructor
  · rintro ⟨e, he⟩
    rcases compose_eq_error_iff.mp he with ⟨hlen, -⟩ | ⟨-, hcount, -⟩ | ⟨-, t, ht, hsize, -⟩
    · exact .inl hlen
    · exact .inr (.inl hcount)
    · exact .inr (.inr ⟨t, ht, hsize⟩)
  · intro h
    by_cases hlen : 3 < f.templates.length
    · exact ⟨_, compose_eq_error_iff.mpr (.inl ⟨hlen, rfl⟩)⟩
    · have hle := Nat.le_of_not_lt hlen
      rcases h with h | hcount | ⟨t, ht, hsize⟩
      · exact absurd h hlen
      · exact ⟨_, compose_eq_error_iff.mpr (.inr (.inl ⟨hle, hcount, rfl⟩))⟩
      · exact ⟨_, compose_eq_error_iff.mpr (.inr (.inr ⟨hle, t, ht, hsize, rfl⟩))⟩

/-- The shards that a form with a large slot is composed into, one for each run of outer
operands. -/
theorem shards_of_compose (h : c.compose f = .ok ms) (ht : f.templates[position]? = some t)
    (hlarge : t.isLarge = true) : ms.length = t.operands.length ⌈/⌉ c.capacity ∧
      ∀ i (hi : i < ms.length), ∃ letter, shardLetters[i]? = some letter ∧
        ms[i].name = f.baseName ++ letter.toString ∧
        ms[i].body = f.shardBody position (t.operands.extract (i * c.capacity)
          (min ((i + 1) * c.capacity) t.operands.length)) := by
  obtain ⟨-, hcount, hlen, rfl⟩ := compose_eq_ok_iff.mp h
  rw [List.countP_eq_length_filter] at hcount
  have houter := Form.outer?_eq_some_of_isLarge hcount ht hlarge
  have hnames : f.moduleNames = shardLetters.map fun letter => f.baseName ++ letter.toString := by
    unfold Form.moduleNames
    rw [houter]
  rw [batches_eq houter ht, hnames, List.length_map, List.length_map] at hlen
  simp only [batches_eq houter ht, hnames]
  constructor
  · rw [List.length_zipWith, List.length_map, List.length_map, Nat.min_eq_right hlen,
      length_chunks c.capacity_pos]
  · intro i hi
    rw [List.length_zipWith, List.length_map, List.length_map, Nat.lt_min] at hi
    refine ⟨shardLetters[i], List.getElem?_eq_getElem hi.1, ?_, ?_⟩
    · rw [List.getElem_zipWith, List.getElem_map]
      rfl
    · rw [List.getElem_zipWith, List.getElem_map, List.getElem_map,
        getElem_chunks c.capacity_pos t.operands hi.2]
      refine map_instruction_pinned ht fun v hv => ?_
      rw [List.extract_eq_take_drop] at hv
      exact List.mem_of_mem_drop (List.mem_of_mem_take hv)

/-- A form without a large slot is composed into one module. -/
theorem compose_of_no_large (hlen : f.templates.length ≤ 3)
    (h : f.templates.filter Template.isLarge = []) :
    c.compose f = .ok [c.shard f f.baseName (product f.sets)] := by
  have houter := Form.outer?_eq_none_iff.mpr h
  refine compose_eq_ok_iff.mpr ⟨hlen, ?_, ?_, ?_⟩
  · rw [List.countP_eq_length_filter, h]
    exact Nat.zero_le 1
  · unfold batches Form.moduleNames
    rw [houter]
    exact Nat.le_refl 1
  · unfold batches Form.moduleNames
    rw [houter]
    rfl

/-- **When a form is composed, and into which modules.**  At any capacity, with zero taken as one,
a form is refused exactly if it has more than three slots, more than one large slot, or a large slot
whose operands need more than 26 shards; the error always names the form by its title.  Otherwise a
form without large slot makes one module, under its base name, of all combinations.  A large slot
makes as many shards as its operands need.  The shard at a position is named by the letter at this
position and has the outer operands from there on that make up its run, each with all combinations
of the other slots. -/
theorem shards_of_capacity (f : Form) (capacity : Nat) (label : String) :
    let c := ofCapacity capacity label
    let limit := max capacity 1
    ((∃ e, c.compose f = .error e) ↔ f.Exceeds limit) ∧
    (∀ e, c.compose f = .error e → ∃ reason, e = .malformed f.title reason) ∧
    ∀ ms, c.compose f = .ok ms →
      (f.templates.filter Template.isLarge = [] → ∃ m, ms = [m] ∧ m.name = f.baseName ∧
        m.body = (product f.sets).map (instruction f.mnemonic)) ∧
      ∀ position t, f.templates[position]? = some t → t.isLarge = true →
        ms.length = t.operands.length ⌈/⌉ limit ∧
        ∀ i (hi : i < ms.length), ∃ letter, shardLetters[i]? = some letter ∧
          ms[i].name = f.baseName ++ letter.toString ∧
          ms[i].body = f.shardBody position
            (t.operands.extract (i * limit) (min ((i + 1) * limit) t.operands.length)) := by
  intro c limit
  refine ⟨exists_error_iff, fun e => exists_malformed_of_compose, fun ms hms =>
    ⟨fun hnone => ?_, ?_⟩⟩
  · obtain ⟨hlen, -⟩ := compose_eq_ok_iff.mp hms
    rw [compose_of_no_large hlen hnone] at hms
    cases hms
    exact ⟨_, rfl, rfl, rfl⟩
  · exact fun position t ht hlarge => shards_of_compose hms ht hlarge

/-- A form with 120 memory operands in its second slot: three shards at capacity 50, the last one
with the last twenty of them, and too many at capacity zero. -/
theorem shards_of_capacity_fifty :
    let f : Form :=
      { mnemonic := "LDS", templates := [.register .word, .farPointer .segmentOffset],
        feature := .cpu8086 }
    (∃ ms, (ofCapacity 50 "start").compose f = .ok ms ∧ ms.length = 3 ∧
      ∃ h : 2 < ms.length, ms[2].name = "LDS01c" ∧ ms[2].body =
        f.shardBody 1 ((Template.farPointer .segmentOffset).operands.extract 100 120)) ∧
    ∃ e, (ofCapacity 0 "start").compose f = .error e := by
  intro f
  obtain ⟨ms, hms⟩ : ∃ ms, (ofCapacity 50 "start").compose f = .ok ms :=
    ⟨_, compose_eq_ok_iff.mpr ⟨by decide, by decide, by decide +kernel, rfl⟩⟩
  obtain ⟨-, -, hshards⟩ := shards_of_capacity f 50 "start"
  obtain ⟨hlen, hshard⟩ := (hshards ms hms).2 1 (.farPointer .segmentOffset) rfl rfl
  have hthree : ms.length = 3 := hlen.trans (by decide +kernel)
  have hlast : 2 < ms.length := by
    rw [hthree]
    exact Nat.lt_succ_self 2
  obtain ⟨letter, hletter, hname, hbody⟩ := hshard 2 hlast
  cases hletter
  have hsize : (Template.farPointer .segmentOffset).operands.length = 120 :=
    Operand.length_memory _
  rw [hsize] at hbody
  refine ⟨⟨ms, hms, hthree, hlast, hname.trans (by decide), hbody⟩, ?_⟩
  exact (shards_of_capacity f 0 "start").1.mpr (.inr (.inr ⟨_, rfl, by decide +kernel⟩))

end Composer

end AsmPair
