import AsmPair.Text.Pieces

/-!
# Lists with a comma and a space between the items

Operand lists are written with `", "` between the operands.  Cutting a text at these separators
and putting it together again undo each other, as long as no item holds a separator.

## Main definitions

* `hasSeparator` — whether a comma followed by a space stands in a text.
* `separated` — the items of a text.
* `listed` — the items again in one text.

## Main results

* `listed_separated`, `separated_listed` — the two maps undo each other.
-/

namespace AsmPair.Text

/-- Whether a comma followed by a space stands in a text. -/
def hasSeparator : List Char → Bool
  | c :: d :: cs => (c == ',' && d == ' ') || hasSeparator (d :: cs)
  | _ => false

@[simp] theorem hasSeparator_nil : hasSeparator [] = false := rfl

@[simp] theorem hasSeparator_singleton (c : Char) : hasSeparator [c] = false := rfl

theorem hasSeparator_cons_cons {c d : Char} {cs : List Char} :
    hasSeparator (c :: d :: cs) = false ↔
      ¬ (c = ',' ∧ d = ' ') ∧ hasSeparator (d :: cs) = false := by
  rw [hasSeparator, Bool.or_eq_false_iff, ← Bool.not_eq_true, Bool.and_eq_true, beq_iff_eq,
    beq_iff_eq]

/-- The items of a text between the separators; there is always at least one. -/
def separated : List Char → List (List Char)
  | [] => [[]]
  | [c] => [[c]]
  | c :: d :: cs =>
    if c = ',' ∧ d = ' ' then [] :: separated cs else consFirst c (separated (d :: cs))

@[simp] theorem separated_nil : separated [] = [[]] := rfl

@[simp] theorem separated_singleton (c : Char) : separated [c] = [[c]] := rfl

@[simp] theorem separated_comma_space (cs : List Char) :
    separated (',' :: ' ' :: cs) = [] :: separated cs := rfl

theorem separated_cons_cons {c d : Char} (h : ¬ (c = ',' ∧ d = ' ')) (cs : List Char) :
    separated (c :: d :: cs) = consFirst c (separated (d :: cs)) := if_neg h

/-- Items in one text, with a separator between them. -/
def listed (items : List (List Char)) : List Char := joined [',', ' '] items

theorem separated_ne_nil : ∀ cs, separated cs ≠ []
  | [] => by simp
  | [c] => by simp
  | c :: d :: cs => by
    rw [separated]
    split
    · simp
    · exact consFirst_ne_nil _ _

theorem separated_of_not_hasSeparator : ∀ {cs}, hasSeparator cs = false → separated cs = [cs]
  | [], _ => rfl
  | [c], _ => rfl
  | c :: d :: cs, h => by
    obtain ⟨hcd, htail⟩ := hasSeparator_cons_cons.mp h
    rw [separated_cons_cons hcd, separated_of_not_hasSeparator htail, consFirst_cons]

/-- Putting a character in front of the first item puts it in front of the whole text. -/
theorem listed_consFirst {c : Char} {ps : List (List Char)} (h : ps ≠ []) :
    listed (consFirst c ps) = c :: listed ps := by
  match ps, h with
  | [p], _ => rfl
  | p :: q :: ps, _ => simp [listed]

/-- A text is put together again from its items. -/
theorem listed_separated : ∀ cs, listed (separated cs) = cs
  | [] => rfl
  | [c] => rfl
  | c :: d :: cs => by
    rw [separated]
    split
    · rename_i h
      obtain ⟨rfl, rfl⟩ := h
      match hs : separated cs with
      | [] => exact absurd hs (separated_ne_nil cs)
      | p :: ps =>
        have ih := listed_separated cs
        rw [hs] at ih
        rw [listed, joined_cons_cons]
        exact congrArg (fun t => [] ++ [',', ' '] ++ t) ih
    · rw [listed_consFirst (separated_ne_nil _), listed_separated (d :: cs)]

/-- An item ends where the separator after it begins. -/
theorem separated_append : ∀ {p : List Char}, hasSeparator p = false → ∀ cs,
    separated (p ++ ',' :: ' ' :: cs) = p :: separated cs
  | [], _, cs => separated_comma_space cs
  | [c], _, cs => by
    rw [List.singleton_append, separated_cons_cons (by simp), separated_comma_space, consFirst_cons]
  | c :: d :: p, h, cs => by
    obtain ⟨hcd, htail⟩ := hasSeparator_cons_cons.mp h
    have ih := separated_append htail cs
    rw [List.cons_append] at ih
    rw [List.cons_append, List.cons_append, separated_cons_cons hcd, ih, consFirst_cons]

/-- Items without separators are found again in the text that lists them. -/
theorem separated_listed : ∀ {ps : List (List Char)}, ps ≠ [] →
    (∀ p ∈ ps, hasSeparator p = false) → separated (listed ps) = ps
  | [p], _, h => separated_of_not_hasSeparator (h p List.mem_cons_self)
  | p :: q :: ps, _, h => by
    have ih : separated (listed (q :: ps)) = q :: ps :=
      separated_listed (by simp) fun r hr => h r (List.mem_cons_of_mem _ hr)
    rw [listed, joined_cons_cons, List.append_assoc]
    exact (separated_append (h p List.mem_cons_self) _).trans (congrArg (p :: ·) ih)

/-- What stands at the front of a text: its first two characters make no separator, or they do
and the first item is empty. -/
theorem hasSeparator_of_first {c : Char} {p : List Char} {ps : List (List Char)} :
    ∀ {cs}, separated cs = p :: ps → hasSeparator p = false →
      (∀ d ∈ cs.head?, ¬ (c = ',' ∧ d = ' ')) → hasSeparator (c :: p) = false := by
  intro cs hs hp hc
  match p, hp with
  | [], _ => rfl
  | d :: p, hp =>
    have hd : cs.head? = some d := by
      have h := listed_separated cs
      rw [hs] at h
      cases ps <;> simp [listed] at h <;> simp [← h]
    exact hasSeparator_cons_cons.mpr ⟨hc d hd, hp⟩

/-- No item of a text holds a separator. -/
theorem not_hasSeparator_of_mem_separated : ∀ {cs p}, p ∈ separated cs → hasSeparator p = false
  | [], p, h => by rw [List.mem_singleton.mp h, hasSeparator_nil]
  | [c], p, h => by rw [List.mem_singleton.mp h, hasSeparator_singleton]
  | c :: d :: cs, p, h => by
    rw [separated] at h
    split at h
    · rcases List.mem_cons.mp h with rfl | h
      · rfl
      · exact not_hasSeparator_of_mem_separated h
    · rename_i hcd
      match hs : separated (d :: cs) with
      | [] => exact absurd hs (separated_ne_nil _)
      | q :: qs =>
        rw [hs, consFirst_cons] at h
        rcases List.mem_cons.mp h with rfl | h
        · refine hasSeparator_of_first hs ?_ (by simpa using hcd)
          have hq : q ∈ separated (d :: cs) := by rw [hs]; exact List.mem_cons_self
          exact not_hasSeparator_of_mem_separated hq
        · have hp : p ∈ separated (d :: cs) := by rw [hs]; exact List.mem_cons_of_mem _ h
          exact not_hasSeparator_of_mem_separated hp

/-- A separator is a comma with a space behind it. -/
theorem hasSeparator_iff : ∀ {cs : List Char}, hasSeparator cs = true ↔ [',', ' '] <:+: cs
  | [] => by simp
  | [c] => by simp [List.infix_cons_iff]
  | c :: d :: cs => by
    have hcut : [',', ' '] <:+: c :: d :: cs ↔
        [',', ' '] <+: c :: d :: cs ∨ [',', ' '] <:+: d :: cs := List.infix_cons_iff
    rw [hasSeparator, Bool.or_eq_true, hasSeparator_iff, hcut, List.cons_prefix_cons,
      List.cons_prefix_cons, Bool.and_eq_true, beq_iff_eq, beq_iff_eq, eq_comm (a := c),
      eq_comm (a := d)]
    simp

/-- A text without commas holds no separator. -/
theorem not_hasSeparator_of_no_comma : ∀ {cs : List Char}, ',' ∉ cs →
    hasSeparator cs = false
  | [], _ => rfl
  | [c], _ => rfl
  | c :: d :: cs, h => by
    have hc : c ≠ ',' := fun hceq => h (hceq ▸ List.mem_cons_self)
    have ih := not_hasSeparator_of_no_comma fun hmem => h (List.mem_cons_of_mem c hmem)
    exact hasSeparator_cons_cons.mpr ⟨fun hcd => hc hcd.1, ih⟩

end AsmPair.Text
