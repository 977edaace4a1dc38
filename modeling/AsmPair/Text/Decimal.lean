/-!
# Decimal numbers

Catalog indices and shard capacities are typed as decimal numbers of at most 64 bits.

## Main definitions

* `digits? cs` — the number a nonempty run of ASCII digits writes.
* `index?`, `count?` — the same within 64 bits; a count may have a plus sign in front.
* `Writes cs n` — a text is the number in decimal, perhaps with zeros in front.
-/

namespace AsmPair.Text

/-- The least number that takes more than 64 bits. -/
def wordLimit : Nat := UInt64.size

/-- The number written by a nonempty run of ASCII digits. -/
def digits? (cs : List Char) : Option Nat :=
  if cs ≠ [] ∧ cs.all Char.isDigit = true then some (Nat.ofDigitChars 10 cs 0) else none

/-- A number of at most 64 bits, as ASCII digits. -/
def index? (cs : List Char) : Option Nat := (digits? cs).filter (· < wordLimit)

/-- A number of at most 64 bits, as ASCII digits after an optional plus sign. -/
def count? : List Char → Option Nat
  | '+' :: cs => index? cs
  | cs => index? cs

/-! ### Written numbers -/

/-- A text writes a number in decimal, perhaps with zeros in front. -/
structure Writes (cs : List Char) (n : Nat) : Prop where
  /-- There is a digit. -/
  ne_nil : cs ≠ []
  /-- There are digits only. -/
  isDigit : ∀ c ∈ cs, c.isDigit = true
  /-- The digits make the number. -/
  value_eq : Nat.ofDigitChars 10 cs 0 = n

@[simp] theorem digits?_eq_some_iff {cs : List Char} {n : Nat} :
    digits? cs = some n ↔ Writes cs n := by
  rw [digits?, Option.ite_none_right_eq_some, Option.some.injEq, List.all_eq_true]
  constructor
  · rintro ⟨⟨hne, hdigit⟩, hvalue⟩
    exact ⟨hne, hdigit, hvalue⟩
  · intro h
    exact ⟨⟨h.ne_nil, h.isDigit⟩, h.value_eq⟩

@[simp] theorem index?_eq_some_iff {cs : List Char} {n : Nat} :
    index? cs = some n ↔ Writes cs n ∧ n < wordLimit := by
  rw [index?, Option.filter_eq_some_iff, digits?_eq_some_iff, decide_eq_true_iff]

/-- A count has digits only, or a plus sign and then digits only. -/
@[simp] theorem count?_eq_some_iff {cs : List Char} {n : Nat} : count? cs = some n ↔
    (Writes cs n ∨ ∃ ds, cs = '+' :: ds ∧ Writes ds n) ∧ n < wordLimit := by
  unfold count?
  split
  · next ds =>
    -- a plus sign is no digit
    have hplus : ¬ Writes ('+' :: ds) n := fun h => absurd (h.isDigit '+' (by simp)) (by decide)
    simp [hplus]
  · next hplus =>
    have hnone : ¬ ∃ ds, cs = '+' :: ds ∧ Writes ds n := fun ⟨ds, h, _⟩ => hplus ds h
    simp [hnone]

/-- Digits make zero exactly if all of them are zeros. -/
theorem ofDigitChars_eq_zero_iff {cs : List Char} (h : ∀ c ∈ cs, c.isDigit = true) (n : Nat) :
    Nat.ofDigitChars 10 cs n = 0 ↔ n = 0 ∧ ∀ c ∈ cs, c = '0' := by
  induction cs generalizing n with
  | nil => simp
  | cons c cs ih =>
    have hc : '0'.toNat ≤ c.toNat := by
      have hdigit := h c List.mem_cons_self
      rw [Char.isDigit, Bool.and_eq_true, decide_eq_true_iff] at hdigit
      exact hdigit.1
    have hzero : c = '0' ↔ c.toNat - '0'.toNat = 0 := by
      rw [← Char.toNat_inj]
      omega
    rw [Nat.ofDigitChars_cons, ih (fun d hd => h d (List.mem_cons_of_mem c hd)),
      List.forall_mem_cons, hzero, ← and_assoc]
    exact and_congr_left fun _ => by omega

/-- A number is read back from the digits that write it. -/
@[simp] theorem digits?_toDigits (n : Nat) : digits? (Nat.toDigits 10 n) = some n := by
  have hdigit : ∀ c ∈ Nat.toDigits 10 n, c.isDigit = true :=
    fun c hc => Nat.isDigit_of_mem_toDigits (by omega) (by omega) hc
  exact digits?_eq_some_iff.mpr ⟨Nat.toDigits_ne_nil, hdigit, by simp⟩

end AsmPair.Text
