/-!
# Searching in texts

## Main definitions

* `after? sub cs` — what follows `sub`, if `cs` starts with it.
* `before? sub cs` — what precedes `sub`, if `cs` ends with it.
* `holds sub cs` — whether `sub` stands somewhere in `cs`.
* `substFirst` — a text with the first occurrence of a part exchanged.
-/

namespace AsmPair.Text

/-- What follows `sub` in a text that starts with it. -/
def after? : List Char → List Char → Option (List Char)
  | [], cs => some cs
  | _ :: _, [] => none
  | s :: sub, c :: cs => if s = c then after? sub cs else none

/-- What precedes `sub` in a text that ends with it. -/
def before? (sub cs : List Char) : Option (List Char) :=
  (after? sub.reverse cs.reverse).map List.reverse

/-- Whether a text starts with `sub`. -/
def startsWith (sub cs : List Char) : Bool := (after? sub cs).isSome

/-- Whether `sub` stands somewhere in a text. -/
def holds (sub : List Char) : List Char → Bool
  | [] => startsWith sub []
  | c :: cs => startsWith sub (c :: cs) || holds sub cs

/-- A text with the first occurrence of `sub` exchanged for `new`. -/
def substFirst (sub new : List Char) : List Char → List Char
  | [] => if startsWith sub [] then new else []
  | c :: cs =>
    match after? sub (c :: cs) with
    | some rest => new ++ rest
    | none => c :: substFirst sub new cs

@[simp] theorem after?_nil (cs : List Char) : after? [] cs = some cs := by cases cs <;> rfl

@[simp] theorem after?_cons_nil (c : Char) (sub : List Char) : after? (c :: sub) [] = none := rfl

@[simp] theorem after?_cons_self (c : Char) (sub cs : List Char) :
    after? (c :: sub) (c :: cs) = after? sub cs := if_pos rfl

@[simp] theorem after?_eq_some_iff {sub cs rest : List Char} :
    after? sub cs = some rest ↔ cs = sub ++ rest := by
  induction sub generalizing cs with
  | nil => simp
  | cons s sub ih =>
    cases cs with
    | nil => simp
    | cons c cs =>
      by_cases h : s = c
      · subst h
        simp [ih]
      · rw [after?, if_neg h]
        simp [Ne.symm h]

@[simp] theorem before?_eq_some_iff {sub cs rest : List Char} :
    before? sub cs = some rest ↔ cs = rest ++ sub := by
  rw [before?, Option.map_eq_some_iff]
  constructor
  · rintro ⟨r, hr, rfl⟩
    have h := congrArg List.reverse (after?_eq_some_iff.mp hr)
    simpa using h
  · rintro rfl
    exact ⟨rest.reverse, after?_eq_some_iff.mpr (by simp), by simp⟩

@[simp] theorem startsWith_iff {sub cs : List Char} : startsWith sub cs = true ↔ sub <+: cs := by
  rw [startsWith, Option.isSome_iff_exists]
  constructor
  · rintro ⟨rest, h⟩; exact ⟨rest, (after?_eq_some_iff.mp h).symm⟩
  · rintro ⟨rest, h⟩; exact ⟨rest, after?_eq_some_iff.mpr h.symm⟩

@[simp] theorem holds_iff {sub cs : List Char} : holds sub cs = true ↔ sub <:+: cs := by
  induction cs with
  | nil => simp [holds]
  | cons c cs ih => rw [holds, Bool.or_eq_true, startsWith_iff, ih, List.infix_cons_iff]

/-- Either a part stands in front and is exchanged, or the first character is kept. -/
theorem substFirst_cons_cases (sub new : List Char) (c : Char) (cs : List Char) :
    (∃ rest, c :: cs = sub ++ rest ∧ substFirst sub new (c :: cs) = new ++ rest) ∨
      (¬ sub <+: c :: cs ∧ substFirst sub new (c :: cs) = c :: substFirst sub new cs) := by
  rw [substFirst]
  split
  · next rest h => exact .inl ⟨rest, after?_eq_some_iff.mp h, rfl⟩
  · next h =>
    refine .inr ⟨?_, rfl⟩
    rintro ⟨rest, hrest⟩
    rw [after?_eq_some_iff.mpr hrest.symm] at h
    cases h

/-- A part that stands in front is exchanged there. -/
@[simp] theorem substFirst_append {sub : List Char} (h : sub ≠ []) (new rest : List Char) :
    substFirst sub new (sub ++ rest) = new ++ rest := by
  obtain ⟨c, cs, rfl⟩ := List.exists_cons_of_ne_nil h
  have hafter : after? (c :: cs) (c :: (cs ++ rest)) = some rest := after?_eq_some_iff.mpr rfl
  rw [List.cons_append, substFirst, hafter]

/-- A text gets no longer where a part is exchanged for no longer one. -/
theorem length_substFirst_le {sub new : List Char} (h : new.length ≤ sub.length) :
    ∀ cs : List Char, (substFirst sub new cs).length ≤ cs.length
  | [] => by
    rw [substFirst]
    split
    · next hs =>
      rw [startsWith_iff, List.prefix_nil] at hs
      rwa [hs] at h
    · exact Nat.le_refl _
  | c :: cs => by
    have ih := length_substFirst_le h cs
    rcases substFirst_cons_cases sub new c cs with ⟨rest, hrest, heq⟩ | ⟨-, heq⟩
    · rw [heq, hrest, List.length_append, List.length_append]
      omega
    · rw [heq, List.length_cons, List.length_cons]
      omega

end AsmPair.Text
