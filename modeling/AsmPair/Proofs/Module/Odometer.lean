import AsmPair.Proofs.Module.Product
import Mathlib.Algebra.BigOperators.Ring.List
import Mathlib.Algebra.GroupWithZero.Nat
import Mathlib.Data.List.Forall2
import Mathlib.Data.List.Induction

/-!
# Combinations count up

The rows of a product of operand lists follow each other like the numbers on an odometer: there is a
wheel for each list, with as many digits as the list has values, and the wheel of the last list
turns fastest.  So the number of a row tells its values, one digit for each list.

The induction is on the lists from the last one backwards, since the last wheel is the one that
splits a number into a quotient and a remainder.

## Main definitions

* `extended` — rows with every value of one more list behind them.
* `digit` — the digit of a number at a place, where every place has a radix of its own.
* `IsRowAt` — a row has the values that the digits of its number say.

## Main results

* `product_eq_foldl` — the product is made by extending the empty row list by list.
* `getElem?_product_eq_some_iff` — which row has which number.
* `mem_product_iff`, `nodup_product_iff` — which rows there are, and when none is repeated.
* `product_counts_up` — all of it.
-/

namespace AsmPair

section Odometer

variable {α : Type}

/-! ### Extending rows -/

/-- Rows with every value of one more list behind them; the new value varies fastest. -/
def extended (rows : List (List α)) (s : List α) : List (List α) :=
  rows.flatMap fun row => s.map fun x => row ++ [x]

/-- One more list extends the rows that there are. -/
theorem product_concat (sets : List (List α)) (s : List α) :
    product (sets ++ [s]) = extended (product sets) s := by
  induction sets with
  | nil => simp [product_cons, extended, List.map_eq_flatMap]
  | cons t ts ih =>
    rw [List.cons_append, product_cons, ih, product_cons]
    unfold extended
    rw [List.flatMap_assoc]
    congr 1
    funext x
    rw [List.map_flatMap, List.flatMap_map]
    simp only [List.map_map, List.cons_append, Function.comp_def]

/-- **The product is made by extending the empty row list by list.** -/
theorem product_eq_foldl (sets : List (List α)) : product sets = sets.foldl extended [[]] := by
  induction sets using List.reverseRecOn with
  | nil => rfl
  | append_singleton sets s ih => rw [product_concat, ih, List.foldl_concat]

/-- Where every value is turned into as many values, a number is split into the place of the value
and the place among what it is turned into. -/
theorem getElem?_flatMap_map {β γ : Type} (xs : List α) (ys : List β) (f : α → β → γ) (n : Nat) :
    (xs.flatMap fun x => ys.map (f x))[n]? =
      xs[n / ys.length]?.bind fun x => ys[n % ys.length]?.map (f x) := by
  induction xs generalizing n with
  | nil => simp
  | cons x xs ih =>
    rw [List.flatMap_cons]
    rcases Nat.lt_or_ge n ys.length with h | h
    · rw [List.getElem?_append_left (by rwa [List.length_map]), Nat.div_eq_of_lt h,
        Nat.mod_eq_of_lt h, List.getElem?_map]
      rfl
    · rw [List.getElem?_append_right (by rwa [List.length_map]), List.length_map, ih]
      rcases Nat.eq_zero_or_pos ys.length with h0 | hpos
      · rw [List.eq_nil_of_length_eq_zero h0]
        simp
      · rw [Nat.div_eq_sub_div hpos h, List.getElem?_cons_succ, Nat.mod_eq_sub_mod h]

/-! ### Digits -/

/-- The digit of a number at a place, where every place has a radix of its own.  The first place is
the most significant one; the places behind a place say what one step of it is worth. -/
def digit (radices : List Nat) (place n : Nat) : Nat :=
  n / (radices.drop (place + 1)).prod % radices[place]?.getD 1

example : (List.range 3).map (fun place => digit [2, 3, 4] place 20) = [1, 2, 0] := by decide

/-- The last place takes the remainder. -/
theorem digit_last (radices : List Nat) (r n : Nat) :
    digit (radices ++ [r]) radices.length n = n % r := by
  simp [digit]

/-- The other places share the quotient. -/
theorem digit_concat_of_lt {radices : List Nat} {place : Nat} (h : place < radices.length)
    (r n : Nat) : digit (radices ++ [r]) place n = digit radices place (n / r) := by
  unfold digit
  rw [List.drop_append_of_le_length h, List.prod_append, List.prod_singleton,
    List.getElem?_append_left h, Nat.mul_comm, ← Nat.div_div_eq_div_mul]

/-! ### Rows by their numbers -/

/-- A row has, for each list, the value that the digit of its number at this place says. -/
structure IsRowAt (sets : List (List α)) (n : Nat) (row : List α) : Prop where
  /-- It has one value for each list. -/
  length_eq : row.length = sets.length
  /-- The value of a list is the one at the digit. -/
  value : ∀ place s, sets[place]? = some s →
    row[place]? = s[digit (sets.map List.length) place n]?

@[simp] theorem isRowAt_nil {n : Nat} {row : List α} : IsRowAt [] n row ↔ row = [] := by
  constructor
  · intro h
    exact List.eq_nil_of_length_eq_zero h.length_eq
  · rintro rfl
    exact ⟨rfl, by simp⟩

/-- One more list is read off the remainder, and the others off the quotient. -/
theorem isRowAt_concat {sets : List (List α)} {s row : List α} {n : Nat} {x : α} :
    IsRowAt (sets ++ [s]) n (row ++ [x]) ↔
      IsRowAt sets (n / s.length) row ∧ s[n % s.length]? = some x := by
  have hradices : (sets ++ [s]).map List.length = sets.map List.length ++ [s.length] := by
    rw [List.map_append, List.map_singleton]
  have hlast : digit ((sets ++ [s]).map List.length) sets.length n = n % s.length := by
    have h := digit_last (sets.map List.length) s.length n
    rwa [List.length_map, ← hradices] at h
  have hfirst : ∀ place < sets.length, digit ((sets ++ [s]).map List.length) place n =
      digit (sets.map List.length) place (n / s.length) := by
    intro place hplace
    rw [hradices]
    exact digit_concat_of_lt (by rwa [List.length_map]) s.length n
  constructor
  · intro h
    have hlength : row.length = sets.length := by simpa using h.length_eq
    refine ⟨⟨hlength, fun place t ht => ?_⟩, ?_⟩
    · have hplace : place < sets.length := (List.getElem?_eq_some_iff.mp ht).1
      have hvalue := h.value place t (by rwa [List.getElem?_append_left hplace])
      rwa [List.getElem?_append_left (by omega), hfirst place hplace] at hvalue
    · have hvalue := h.value sets.length s List.getElem?_concat_length
      rw [hlast, ← hlength, List.getElem?_concat_length] at hvalue
      exact hvalue.symm
  · rintro ⟨h, hx⟩
    have hlength := h.length_eq
    refine ⟨by simpa using hlength, fun place t ht => ?_⟩
    rcases Nat.lt_or_ge place sets.length with hplace | hplace
    · rw [List.getElem?_append_left hplace] at ht
      rw [List.getElem?_append_left (by omega), hfirst place hplace, h.value place t ht]
    -- the only place left is that of the last list
    · obtain rfl : place = sets.length := by
        have hlt := (List.getElem?_eq_some_iff.mp ht).1
        rw [List.length_append, List.length_singleton] at hlt
        omega
      rw [List.getElem?_concat_length] at ht
      cases ht
      rw [hlast, hx, ← hlength, List.getElem?_concat_length]

theorem IsRowAt.exists_concat {sets : List (List α)} {s row : List α} {n : Nat}
    (h : IsRowAt (sets ++ [s]) n row) : ∃ init x, row = init ++ [x] := by
  refine (List.eq_nil_or_concat' row).resolve_left ?_
  rintro rfl
  have hlength := h.length_eq
  rw [List.length_append] at hlength
  cases hlength

/-- **A row has a number exactly if the digits of the number say its values.** -/
theorem getElem?_product_eq_some_iff {sets : List (List α)} {n : Nat} {row : List α} :
    (product sets)[n]? = some row ↔ n < (sets.map List.length).prod ∧ IsRowAt sets n row := by
  induction sets using List.reverseRecOn generalizing n row with
  | nil =>
    rw [product_nil, isRowAt_nil, List.map_nil, List.prod_nil]
    cases n with
    | zero => simp [eq_comm]
    | succ n => simp
  | append_singleton sets s ih =>
    have hcount :
        ((sets ++ [s]).map List.length).prod = (sets.map List.length).prod * s.length := by
      rw [List.map_append, List.prod_append, List.map_singleton, List.prod_singleton]
    rw [product_concat, extended, getElem?_flatMap_map, Option.bind_eq_some_iff, hcount]
    constructor
    · rintro ⟨init, hinit, hrow⟩
      obtain ⟨x, hx, rfl⟩ := Option.map_eq_some_iff.mp hrow
      obtain ⟨hn, hinit⟩ := ih.mp hinit
      have hpos : 0 < s.length := Nat.zero_lt_of_lt (List.getElem?_eq_some_iff.mp hx).1
      exact ⟨(Nat.div_lt_iff_lt_mul hpos).mp hn, isRowAt_concat.mpr ⟨hinit, hx⟩⟩
    · rintro ⟨hn, hrow⟩
      obtain ⟨init, x, rfl⟩ := hrow.exists_concat
      obtain ⟨hinit, hx⟩ := isRowAt_concat.mp hrow
      have hpos : 0 < s.length := Nat.zero_lt_of_lt (List.getElem?_eq_some_iff.mp hx).1
      refine ⟨init, ih.mpr ⟨(Nat.div_lt_iff_lt_mul hpos).mpr hn, hinit⟩, ?_⟩
      rw [hx, Option.map_some]

/-! ### Which rows there are -/

/-- A row has a value of each list, and every choice of values is a row. -/
theorem mem_product_iff {sets : List (List α)} {row : List α} :
    row ∈ product sets ↔ List.Forall₂ (· ∈ ·) row sets := by
  induction sets generalizing row with
  | nil => rw [product_nil, List.mem_singleton, List.forall₂_nil_right_iff]
  | cons s ss ih =>
    rw [List.forall₂_cons_right_iff]
    constructor
    · intro h
      obtain ⟨x, row, rfl⟩ := List.exists_cons_of_length_eq_add_one (length_of_mem_product h)
      obtain ⟨hx, hrow⟩ := cons_mem_product.mp h
      exact ⟨x, row, hx, ih.mp hrow, rfl⟩
    · rintro ⟨x, row, hx, hrow, rfl⟩
      exact cons_mem_product.mpr ⟨hx, ih.mpr hrow⟩

/-- There is no row only if some list has no value. -/
@[simp] theorem product_eq_nil_iff {sets : List (List α)} : product sets = [] ↔ [] ∈ sets := by
  rw [List.eq_nil_iff_length_eq_zero, length_product, List.prod_eq_zero_iff, List.mem_map]
  constructor
  · rintro ⟨s, hs, hempty⟩
    rwa [← List.eq_nil_of_length_eq_zero hempty]
  · intro h
    exact ⟨[], h, rfl⟩

/-- Lists that make no row twice have no value twice, unless one of them has no value at all and
there is no row. -/
theorem nodup_of_nodup_product {sets : List (List α)} (hne : [] ∉ sets)
    (h : (product sets).Nodup) : ∀ s ∈ sets, s.Nodup := by
  induction sets with
  | nil => exact List.forall_mem_nil _
  | cons s ss ih =>
    have hs : s ≠ [] := fun hs => hne (hs ▸ List.mem_cons_self)
    have hss : [] ∉ ss := fun hss => hne (List.mem_cons_of_mem s hss)
    obtain ⟨row, hrow⟩ := List.exists_mem_of_ne_nil _ (mt product_eq_nil_iff.mp hss)
    obtain ⟨x, hx⟩ := List.exists_mem_of_ne_nil _ hs
    rw [product_cons, List.nodup_flatMap] at h
    rw [List.forall_mem_cons]
    refine ⟨h.2.imp fun {y z} hdisjoint heq => ?_, ih hss (List.Nodup.of_map _ (h.1 x hx))⟩
    -- a value that stands twice in `s` makes the rows behind it twice
    have hmem : y :: row ∈ (product ss).map (y :: ·) := List.mem_map_of_mem hrow
    exact hdisjoint hmem (heq ▸ hmem)

/-- **No row is repeated exactly if no list has a value twice**, or there are no rows. -/
theorem nodup_product_iff {sets : List (List α)} :
    (product sets).Nodup ↔ [] ∈ sets ∨ ∀ s ∈ sets, s.Nodup := by
  constructor
  · intro h
    by_cases hempty : [] ∈ sets
    · exact Or.inl hempty
    · exact Or.inr (nodup_of_nodup_product hempty h)
  · rintro (hempty | h)
    · rw [product_eq_nil_iff.mpr hempty]
      exact List.nodup_nil
    · exact nodup_product h

/-- **The rows of a product count up.**  There are as many as the product of the lengths says, each
one has the values at the digits of its number, every choice of one value of each list is a row, and
no row is repeated exactly if no list repeats a value or some list is empty. -/
theorem product_counts_up (sets : List (List String)) :
    product sets = sets.foldl extended [[]] ∧
      (product sets).length = (sets.map List.length).prod ∧
      (∀ n row, (product sets)[n]? = some row ↔
        n < (sets.map List.length).prod ∧ IsRowAt sets n row) ∧
      (∀ row, row ∈ product sets ↔ List.Forall₂ (· ∈ ·) row sets) ∧
      ((product sets).Nodup ↔ [] ∈ sets ∨ ∀ s ∈ sets, s.Nodup) :=
  ⟨product_eq_foldl sets, length_product sets, fun _ _ => getElem?_product_eq_some_iff,
    fun _ => mem_product_iff, nodup_product_iff⟩

end Odometer

end AsmPair
