import AsmPair.Module.Compose
import Mathlib.Algebra.BigOperators.Group.List.Basic
import Mathlib.Data.List.Nodup
import Mathlib.Data.List.Perm.Basic

/-!
# The order of operand combinations

The combinations of a form are a product of operand lists.  Where one list is split over modules,
its values are pinned one after the other, which makes this list the outermost loop: the rows are
those of the product in another order.

## Main results

* `length_product`, `nodup_product` — how many rows there are, and that none is repeated.
* `eq_of_map_eq_of_mem_product` — rows are told apart value by value.
* `pinned_perm_product` — pinning every value of a list permutes the product.
* `flatMap_pinned_chunks` — pinning chunk after chunk pins all values in order.
-/

namespace AsmPair

/-! ### Products -/

section Product

variable {α : Type}

/-- A row has one value of each set, so their number is the product of the lengths. -/
@[simp] theorem length_product (sets : List (List α)) :
    (product sets).length = (sets.map List.length).prod := by
  induction sets with
  | nil => rfl
  | cons s ss ih =>
    rw [product_cons, List.length_flatMap, List.map_cons, List.prod_cons]
    simp only [List.length_map, ih, List.map_const', List.sum_replicate_nat]

/-- Sets without repetition make no row twice. -/
theorem nodup_product {sets : List (List α)} (h : ∀ s ∈ sets, s.Nodup) :
    (product sets).Nodup := by
  induction sets with
  | nil => exact List.nodup_singleton []
  | cons s ss ih =>
    have hs : s.Nodup := h s List.mem_cons_self
    have hrest : (product ss).Nodup := ih fun t ht => h t (List.mem_cons_of_mem _ ht)
    rw [product_cons, List.nodup_flatMap]
    refine ⟨fun x _ => hrest.map List.cons_injective, hs.imp fun {x y} hne row hx hy => ?_⟩
    -- the first value of a row tells from which value of `s` it comes
    obtain ⟨_, _, rfl⟩ := List.mem_map.mp hx
    obtain ⟨_, _, heq⟩ := List.mem_map.mp hy
    exact hne (List.cons.inj heq).1.symm

/-- What holds of the values of every set holds of the values of a row. -/
theorem forall_of_mem_product {P : α → Prop} {sets : List (List α)}
    (h : ∀ s ∈ sets, ∀ x ∈ s, P x) {row : List α} (hrow : row ∈ product sets) :
    ∀ x ∈ row, P x := by
  induction sets generalizing row with
  | nil =>
    rw [List.mem_singleton.mp hrow]
    exact List.forall_mem_nil P
  | cons s ss ih =>
    cases row with
    | nil => exact List.forall_mem_nil P
    | cons x row =>
      obtain ⟨hx, hrow⟩ := cons_mem_product.mp hrow
      rw [List.forall_mem_cons]
      exact ⟨h s List.mem_cons_self x hx, ih (fun t ht => h t (List.mem_cons_of_mem s ht)) hrow⟩

/-- Rows are told apart by the images of their values, where these tell the values of each set
apart. -/
theorem eq_of_map_eq_of_mem_product {β : Type} {f : α → β} {sets : List (List α)}
    (hf : ∀ s ∈ sets, ∀ x ∈ s, ∀ y ∈ s, f x = f y → x = y) {xs ys : List α}
    (hxs : xs ∈ product sets) (hys : ys ∈ product sets) (h : xs.map f = ys.map f) : xs = ys := by
  induction sets generalizing xs ys with
  | nil => rw [List.mem_singleton.mp hxs, List.mem_singleton.mp hys]
  | cons s ss ih =>
    obtain ⟨x, xs, rfl⟩ := List.exists_cons_of_length_eq_add_one (length_of_mem_product hxs)
    obtain ⟨y, ys, rfl⟩ := List.exists_cons_of_length_eq_add_one (length_of_mem_product hys)
    obtain ⟨hx, hxs⟩ := cons_mem_product.mp hxs
    obtain ⟨hy, hys⟩ := cons_mem_product.mp hys
    rw [List.map_cons, List.map_cons, List.cons.injEq] at h
    rw [hf s List.mem_cons_self x hx y hy h.1,
      ih (fun t ht => hf t (List.mem_cons_of_mem s ht)) hxs hys h.2]

end Product

/-! ### Exchanging two loops -/

/-- Two nested loops may be exchanged, up to the order of what they list. -/
theorem flatMap_flatMap_perm {α β γ : Type} (as : List α) (bs : List β) (f : α → β → List γ) :
    (as.flatMap fun a => bs.flatMap (f a)).Perm (bs.flatMap fun b => as.flatMap (f · b)) := by
  induction as with
  | nil => simp
  | cons a as ih =>
    simp only [List.flatMap_cons]
    exact (ih.append_left _).trans (List.flatMap_append_perm bs (f a) _)

/-! ### Pinned products -/

namespace Composer

variable {sets : List (List String)} {position : Nat}

@[simp] theorem pinned_append (sets : List (List String)) (position : Nat) (vs ws : List String) :
    pinned sets position (vs ++ ws) = pinned sets position vs ++ pinned sets position ws :=
  List.flatMap_append

/-- Pinning the values of the first list is the product itself. -/
@[simp] theorem pinned_zero (s : List String) (ss : List (List String)) :
    pinned (s :: ss) 0 s = product (s :: ss) := by
  unfold pinned
  simp only [List.set_cons_zero, product_cons, List.flatMap_singleton]

/-- Values of a later list are pinned in front of the loop over the first one. -/
@[simp] theorem pinned_succ (s : List String) (ss : List (List String)) (position : Nat)
    (vs : List String) :
    pinned (s :: ss) (position + 1) vs =
      vs.flatMap fun v => s.flatMap fun x => (product (ss.set position [v])).map (x :: ·) := by
  unfold pinned
  simp only [List.set_cons_succ, product_cons]

/-- **Pinning every value of a list permutes the product.** -/
theorem pinned_perm_product (h : position < sets.length) :
    (pinned sets position sets[position]).Perm (product sets) := by
  induction position generalizing sets with
  | zero =>
    obtain ⟨s, ss, rfl⟩ := List.exists_cons_of_length_pos h
    rw [List.getElem_cons_zero, pinned_zero]
  | succ position ih =>
    obtain ⟨s, ss, rfl⟩ := List.exists_cons_of_length_pos (Nat.zero_lt_of_lt h)
    -- the loop over `s` is moved outside of the pinned one, which is a permutation by induction
    have hlt : position < ss.length := Nat.lt_of_succ_lt_succ h
    rw [List.getElem_cons_succ, pinned_succ, product_cons]
    refine (flatMap_flatMap_perm _ _ _).trans (List.Perm.flatMap_left s fun x _ => ?_)
    have hmap := (ih hlt).map (x :: ·)
    rwa [pinned, List.map_flatMap] at hmap

/-- Pinning chunk after chunk pins all values in order. -/
theorem flatMap_pinned_chunks (sets : List (List String)) (position n : Nat)
    (vs : List String) :
    (chunks n vs).flatMap (pinned sets position) = pinned sets position vs := by
  have hflat : ∀ vss : List (List String),
      vss.flatMap (pinned sets position) = pinned sets position vss.flatten := by
    intro vss
    induction vss with
    | nil => rfl
    | cons vs vss ih => rw [List.flatMap_cons, ih, List.flatten_cons, pinned_append]
  rw [hflat, flatten_chunks]

end Composer

end AsmPair
