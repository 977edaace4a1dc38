/-!
# Combining operands

## Main definitions

* `product sets` — every way to choose one value of each set; the first choice varies slowest.
* `chunks n xs` — a list cut into runs of `n`, the last of which may be shorter.
-/

namespace AsmPair

variable {α : Type}

/-- Every way to choose one value of each set.  The first choice varies slowest. -/
def product : List (List α) → List (List α)
  | [] => [[]]
  | s :: ss =>
    let rest := product ss
    s.flatMap fun x => rest.map (x :: ·)

@[simp] theorem product_nil : product ([] : List (List α)) = [[]] := rfl

theorem product_cons (s : List α) (ss : List (List α)) :
    product (s :: ss) = s.flatMap fun x => (product ss).map (x :: ·) := rfl

/-- A row takes its first value from the first set and the others from the other sets. -/
@[simp] theorem cons_mem_product {x : α} {row s : List α} {ss : List (List α)} :
    x :: row ∈ product (s :: ss) ↔ x ∈ s ∧ row ∈ product ss := by
  rw [product_cons, List.mem_flatMap]
  constructor
  · rintro ⟨y, hy, h⟩
    obtain ⟨r, hr, he⟩ := List.mem_map.mp h
    cases he
    exact ⟨hy, hr⟩
  · rintro ⟨hx, hr⟩
    exact ⟨x, hx, List.mem_map.mpr ⟨row, hr, rfl⟩⟩

/-- A row has one value of each set. -/
theorem length_of_mem_product {sets : List (List α)} {row : List α} (h : row ∈ product sets) :
    row.length = sets.length := by
  induction sets generalizing row with
  | nil => simp_all
  | cons s ss ih =>
    rw [product_cons, List.mem_flatMap] at h
    obtain ⟨x, _, h⟩ := h
    obtain ⟨r, hr, rfl⟩ := List.mem_map.mp h
    rw [List.length_cons, List.length_cons, ih hr]

/-- A list cut into runs of `n` values, the last of which may be shorter.  Runs of no values
make no sense; they have one value instead. -/
def chunks (n : Nat) : List α → List (List α)
  | [] => []
  | x :: xs => (x :: xs.take (n - 1)) :: chunks n (xs.drop (n - 1))
termination_by xs => xs.length
decreasing_by simp only [List.length_drop, List.length_cons]; omega

@[simp] theorem chunks_nil (n : Nat) : chunks n ([] : List α) = [] := by rw [chunks]

theorem chunks_cons (n : Nat) (x : α) (xs : List α) :
    chunks n (x :: xs) = (x :: xs.take (n - 1)) :: chunks n (xs.drop (n - 1)) := by rw [chunks]

/-- Cutting a list loses nothing. -/
@[simp] theorem flatten_chunks (n : Nat) (xs : List α) : (chunks n xs).flatten = xs := by
  fun_induction chunks n xs with
  | case1 => rfl
  | case2 x xs ih => rw [List.flatten_cons, ih, List.cons_append, List.take_append_drop]

end AsmPair
