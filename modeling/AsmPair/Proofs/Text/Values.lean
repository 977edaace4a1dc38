import AsmPair.Proofs.Text.Joined
import AsmPair.Text.Decimal
import AsmPair.Text.Json

/-!
# JSON values

The text of a JSON value determines the value, in either layout.  More is true, and the induction
needs it: a value is determined where any text follows, as long as this does not begin with a digit,
which would continue a number.  What stands behind a value in an array or an object begins with a
comma, a bracket or a line feed.

## Main definitions

* `Json.Value`, `Json.Value.text` — values, and how they are written.
* `Json.unescape?` — the first character of a written string.
* `Json.Determined` — a written value is found again in front of what may follow.

## Main results

* `Json.quoted_append_inj`, `Json.number_append_inj` — strings and numbers are determined.
* `Json.enclosed_append_inj` — what is put between brackets is determined, item by item.
* `Json.Value.text_inj` — the text determines the value.
* `Json.Value.not_control_of_mem_text` — on one line there is no control character.
-/

namespace AsmPair.Text.Json

/-! ### Strings -/

/-- The value of a hexadecimal digit. -/
def hexValue (c : Char) : Nat := if c.isDigit then c.toNat - 0x30 else c.toNat - 0x61 + 10

/-- The control character with a letter; other characters stand for themselves. -/
def lettered : Char → Char
  | 'b' => '\x08'
  | 't' => '\t'
  | 'n' => '\n'
  | 'f' => '\x0c'
  | 'r' => '\r'
  | c => c

/-- The first character of a written string, and how the string goes on. -/
def unescape? : List Char → Option (Char × List Char)
  | '\\' :: 'u' :: '0' :: '0' :: a :: b :: cs =>
    some (Char.ofNat (16 * hexValue a + hexValue b), cs)
  | '\\' :: c :: cs => some (lettered c, cs)
  | c :: cs => some (c, cs)
  | [] => none

theorem unescape?_letter {n : Nat} {letter : Char} (h : controlLetter? n = some letter)
    (rest : List Char) : unescape? ('\\' :: letter :: rest) = some (Char.ofNat n, rest) := by
  unfold controlLetter? at h
  split at h <;> cases h <;> rfl

theorem hexValue_hexDigit : ∀ n < 16, hexValue (hexDigit n) = n := by decide

/-- A written character is read. -/
@[simp] theorem unescape?_escape_append (c : Char) (rest : List Char) :
    unescape? (escape c ++ rest) = some (c, rest) := by
  unfold escape
  split
  · next hc => rcases hc with rfl | rfl <;> rfl
  · next hc =>
    split
    · next hcontrol =>
      split
      · next letter hletter =>
        rw [List.cons_append, List.singleton_append, unescape?_letter hletter, Char.ofNat_toNat]
      · have hhigh := hexValue_hexDigit (c.toNat / 16) (by omega)
        have hlow := hexValue_hexDigit (c.toNat % 16) (by omega)
        simp only [List.cons_append, List.nil_append, unescape?]
        rw [hhigh, hlow, Nat.div_add_mod, Char.ofNat_toNat]
    -- any other character is no backslash
    · rw [not_or] at hc
      rw [List.singleton_append]
      unfold unescape?
      split <;> simp_all

theorem escape_append_inj {c d : Char} {x y : List Char} (h : escape c ++ x = escape d ++ y) :
    c = d ∧ x = y := by
  have hread := congrArg unescape? h
  rw [unescape?_escape_append, unescape?_escape_append, Option.some.injEq, Prod.mk.injEq] at hread
  exact hread

/-- No written character begins with the quote that ends a string. -/
theorem escape_append_ne_quote (c : Char) (x y : List Char) : escape c ++ x ≠ '"' :: y := by
  intro h
  have hread := congrArg unescape? h
  rw [unescape?_escape_append] at hread
  obtain rfl : c = '"' := congrArg Prod.fst (Option.some.inj hread)
  exact absurd (congrArg List.head? h) (by simp [escape])

theorem flatMap_escape_append_inj {cs ds x y : List Char}
    (h : cs.flatMap escape ++ '"' :: x = ds.flatMap escape ++ '"' :: y) : cs = ds ∧ x = y := by
  induction cs generalizing ds with
  | nil =>
    cases ds with
    | nil => exact ⟨rfl, (List.cons.inj h).2⟩
    | cons d ds =>
      rw [List.flatMap_cons, List.append_assoc] at h
      exact absurd h.symm (escape_append_ne_quote d _ _)
  | cons c cs ih =>
    cases ds with
    | nil =>
      rw [List.flatMap_cons, List.append_assoc] at h
      exact absurd h (escape_append_ne_quote c _ _)
    | cons d ds =>
      rw [List.flatMap_cons, List.flatMap_cons, List.append_assoc, List.append_assoc] at h
      obtain ⟨rfl, hrest⟩ := escape_append_inj h
      obtain ⟨rfl, hxy⟩ := ih hrest
      exact ⟨rfl, hxy⟩

@[simp] theorem toList_quoted (s : String) :
    (quoted s).toList = '"' :: (s.toList.flatMap escape ++ ['"']) := String.toList_ofList

/-- **A string is determined** where any text follows. -/
theorem quoted_append_inj {s t : String} {x y : List Char}
    (h : (quoted s).toList ++ x = (quoted t).toList ++ y) : s = t ∧ x = y := by
  rw [toList_quoted, toList_quoted, List.cons_append, List.cons_append, List.append_assoc,
    List.append_assoc] at h
  obtain ⟨hst, hxy⟩ := flatMap_escape_append_inj (List.cons.inj h).2
  exact ⟨String.toList_inj.mp hst, hxy⟩

/-! ### Numbers -/

/-- A text that does not continue a number. -/
def Ends (cs : List Char) : Prop := ∀ c ∈ cs.head?, c.isDigit = false

@[simp] theorem ends_nil : Ends [] := by simp [Ends]

theorem ends_cons {c : Char} (h : c.isDigit = false) (cs : List Char) : Ends (c :: cs) := by
  simp [Ends, h]

theorem toList_number (n : Nat) : (toString n).toList = Nat.toDigits 10 n := Nat.toList_repr

theorem isDigit_of_mem_number {n : Nat} {c : Char} (h : c ∈ (toString n).toList) :
    c.isDigit = true := by
  rw [toList_number] at h
  exact Nat.isDigit_of_mem_toDigits (by omega) (by omega) h

theorem takeWhile_number_append (n : Nat) {x : List Char} (hx : Ends x) :
    ((toString n).toList ++ x).takeWhile Char.isDigit = (toString n).toList := by
  rw [List.takeWhile_append_of_pos fun c hc => isDigit_of_mem_number hc]
  cases x with
  | nil => rw [List.takeWhile_nil, List.append_nil]
  | cons c x =>
    have hc : ¬ c.isDigit = true := by simpa using hx c rfl
    rw [List.takeWhile_cons_of_neg hc, List.append_nil]

/-- **A number is determined** where the text that follows does not begin with a digit. -/
theorem number_append_inj {m n : Nat} {x y : List Char} (hx : Ends x) (hy : Ends y)
    (h : (toString m).toList ++ x = (toString n).toList ++ y) : m = n ∧ x = y := by
  have hdigits := congrArg (List.takeWhile Char.isDigit) h
  rw [takeWhile_number_append m hx, takeWhile_number_append n hy] at hdigits
  have hxy : x = y := by
    rw [hdigits] at h
    exact List.append_cancel_left h
  rw [toList_number, toList_number] at hdigits
  have hread := congrArg digits? hdigits
  rw [digits?_toDigits, digits?_toDigits] at hread
  exact ⟨Option.some.inj hread, hxy⟩

/-! ### Items between brackets -/

/-- A written item is determined where the text that follows does not continue a number. -/
def Determined {α : Type} (w : α → List Char) (a : α) : Prop :=
  ∀ b x y, Ends x → Ends y → w a ++ x = w b ++ y → a = b ∧ x = y

/-- What stands in front of each item. -/
def Layout.gap : Layout → List Char
  | .compact => []
  | .spread depth => (newLine (depth + 1)).toList

/-- What stands behind the last item. -/
def Layout.outdent : Layout → List Char
  | .compact => []
  | .spread depth => (newLine depth).toList

@[simp] theorem toList_newLine (depth : Nat) :
    (newLine depth).toList = '\n' :: List.replicate (2 * depth) ' ' := by
  simp only [newLine, String.toList_append, String.toList_ofList]
  rfl

theorem toList_enclosed (layout : Layout) (opening closing : String) {items : List String}
    (hne : items ≠ []) :
    (layout.enclosed opening closing items).toList =
      opening.toList ++ (layout.gap ++ (joined (',' :: layout.gap) (items.map String.toList) ++
        (layout.outdent ++ closing.toList))) := by
  unfold Layout.enclosed
  rw [if_neg (by simpa using hne)]
  cases layout with
  | compact =>
    simp only [String.toList_append, String.toList_intercalate, joined_eq_intercalate,
      Layout.gap, Layout.outdent, List.append_assoc, List.nil_append]
    rfl
  | spread depth =>
    simp only [String.toList_append, String.toList_intercalate, joined_eq_intercalate,
      Layout.gap, Layout.outdent, List.append_assoc]
    rfl

/-- With or without items, the opening bracket comes first. -/
theorem exists_enclosed_eq_append (layout : Layout) (opening closing : String)
    (items : List String) :
    ∃ rest, (layout.enclosed opening closing items).toList = opening.toList ++ rest := by
  by_cases hne : items = []
  · rw [hne]
    exact ⟨closing.toList, String.toList_append⟩
  · exact ⟨_, toList_enclosed layout opening closing hne⟩

section Items

variable {α : Type} {w : α → List Char} {as bs : List α} {x y : List Char}

/-- Items with commas between them are determined, one by one, where neither a comma nor a digit
follows. -/
theorem joined_append_inj {gap : List Char} {c : Char} (hcomma : c ≠ ',')
    (hdigit : c.isDigit = false) (has : as ≠ []) (hbs : bs ≠ [])
    (hw : ∀ a ∈ as, Determined w a)
    (h : joined (',' :: gap) (as.map w) ++ c :: x = joined (',' :: gap) (bs.map w) ++ c :: y) :
    as = bs ∧ x = y := by
  induction as generalizing bs with
  | nil => exact absurd rfl has
  | cons a as ih =>
    obtain ⟨b, bs, rfl⟩ := List.exists_cons_of_ne_nil hbs
    have ha : Determined w a := hw a List.mem_cons_self
    have hends : ∀ z, Ends (c :: z) := ends_cons hdigit
    have hends' : ∀ z, Ends (',' :: z) := ends_cons (by decide)
    cases as with
    | nil =>
      cases bs with
      | nil =>
        obtain ⟨rfl, hxy⟩ := ha b _ _ (hends x) (hends y) h
        exact ⟨rfl, (List.cons.inj hxy).2⟩
      -- the second text goes on with a comma
      | cons b' bs =>
        simp only [List.map_cons, joined_cons_cons, List.append_assoc, List.cons_append] at h
        exact absurd (List.cons.inj (ha b _ _ (hends x) (hends' _) h).2).1 hcomma
    | cons a' as =>
      cases bs with
      | nil =>
        simp only [List.map_cons, joined_cons_cons, List.append_assoc, List.cons_append] at h
        exact absurd (List.cons.inj (ha b _ _ (hends' _) (hends y) h).2).1.symm hcomma
      | cons b' bs =>
        simp only [List.map_cons, joined_cons_cons, List.append_assoc, List.cons_append] at h
        obtain ⟨rfl, hrest⟩ := ha b _ _ (hends' _) (hends' _) h
        have hrest := List.append_cancel_left (List.cons.inj hrest).2
        obtain ⟨heq, hxy⟩ := ih (List.cons_ne_nil _ _) (List.cons_ne_nil b' bs)
          (fun d hd => hw d (List.mem_cons_of_mem a hd)) hrest
        exact ⟨congrArg (a :: ·) heq, hxy⟩

/-- A bracket that closes an array or an object. -/
def IsClosing (c : Char) : Prop := c = ']' ∨ c = '\x7d'

/-- An item begins with a character other than a bracket that closes. -/
def Begins (cs : List Char) : Prop := ∃ c, cs.head? = some c ∧ ¬ IsClosing c

theorem Begins.append {cs : List Char} (h : Begins cs) (rest : List Char) :
    Begins (cs ++ rest) := by
  obtain ⟨c, hc, hclosing⟩ := h
  exact ⟨c, by rw [List.head?_append, hc]; rfl, hclosing⟩

theorem begins_gap_append (layout : Layout) (hne : as ≠ []) (hbegins : ∀ a, Begins (w a))
    (z : List Char) :
    Begins (layout.gap ++ (joined (',' :: layout.gap) (as.map w) ++ z)) := by
  cases layout with
  | compact =>
    refine Begins.append ?_ z
    obtain ⟨a, as, rfl⟩ := List.exists_cons_of_ne_nil hne
    cases as with
    | nil => exact hbegins a
    | cons a' as => exact ((hbegins a).append _).append _
  | spread depth =>
    rw [Layout.gap, toList_newLine]
    exact ⟨'\n', rfl, by simp [IsClosing]⟩

/-- **What is put between brackets is determined**, item by item. -/
theorem enclosed_append_inj {w : α → String} (layout : Layout) {opening closing : String} {c : Char}
    (hclosing : closing.toList = [c]) (hc : IsClosing c)
    (hbegins : ∀ a, Begins (w a).toList)
    (hw : ∀ a ∈ as, Determined (fun a => (w a).toList) a)
    (h : (layout.enclosed opening closing (as.map w)).toList ++ x =
      (layout.enclosed opening closing (bs.map w)).toList ++ y) : as = bs ∧ x = y := by
  have hempty : (layout.enclosed opening closing []).toList = opening.toList ++ [c] := by
    rw [← hclosing]
    exact String.toList_append
  have hitems : ∀ ds : List α, ds ≠ [] →
      (layout.enclosed opening closing (ds.map w)).toList =
        opening.toList ++ (layout.gap ++ (joined (',' :: layout.gap)
          (ds.map fun d => (w d).toList) ++ (layout.outdent ++ [c]))) := by
    intro ds hds
    rw [toList_enclosed layout opening closing (by simpa using hds), hclosing, List.map_map]
    rfl
  -- a closing bracket is not the beginning of an item
  have hmixed : ∀ (ds : List α) (z z' : List Char), ds ≠ [] →
      (layout.enclosed opening closing []).toList ++ z ≠
        (layout.enclosed opening closing (ds.map w)).toList ++ z' := by
    intro ds z z' hds heq
    rw [hempty, hitems ds hds, List.append_assoc, List.append_assoc] at heq
    have heq := List.append_cancel_left heq
    simp only [List.append_assoc] at heq
    obtain ⟨d, hd, hnot⟩ := begins_gap_append layout hds hbegins (layout.outdent ++ ([c] ++ z'))
    rw [← heq] at hd
    cases hd
    exact hnot hc
  by_cases has : as = []
  · subst has
    by_cases hbs : bs = []
    · subst hbs
      exact ⟨rfl, List.append_cancel_left h⟩
    · exact absurd h (hmixed bs x y hbs)
  · by_cases hbs : bs = []
    · subst hbs
      exact absurd h.symm (hmixed as y x has)
    · rw [hitems as has, hitems bs hbs] at h
      simp only [List.append_assoc] at h
      have h := List.append_cancel_left (List.append_cancel_left h)
      cases layout with
      | compact =>
        have hcomma : c ≠ ',' := by rcases hc with rfl | rfl <;> decide
        have hdigit : c.isDigit = false := by rcases hc with rfl | rfl <;> decide
        exact joined_append_inj hcomma hdigit has hbs hw h
      | spread depth =>
        rw [Layout.outdent, toList_newLine] at h
        obtain ⟨heq, hxy⟩ := joined_append_inj (by decide) (by decide) has hbs hw h
        exact ⟨heq, List.append_cancel_left (List.append_cancel_left hxy)⟩

end Items

/-! ### Values -/

/-- A JSON value of the kinds that reports are made of. -/
inductive Value where
  /-- A string. -/
  | string (s : String) : Value
  /-- A natural number. -/
  | number (n : Nat) : Value
  /-- A list of values. -/
  | array (items : List Value) : Value
  /-- Named values, in order. -/
  | object (members : List (String × Value)) : Value

namespace Value

theorem sizeOf_lt_of_mem {members : List (String × Value)} {m : String × Value}
    (h : m ∈ members) : sizeOf m.2 < sizeOf members := by
  have hmem := List.sizeOf_lt_of_mem h
  have hm : sizeOf m = 1 + sizeOf m.1 + sizeOf m.2 := rfl
  omega

/-- A written value. -/
def text (layout : Layout) : Value → String
  | string s => quoted s
  | number n => toString n
  | array items => layout.array (items.map fun v => v.text layout.inner)
  | object members => layout.object (members.map fun m => (m.1, m.2.text layout.inner))
termination_by v => sizeOf v
decreasing_by
  · have hv := List.sizeOf_lt_of_mem ‹_ ∈ items›
    simp only [array.sizeOf_spec]
    omega
  · have hm := sizeOf_lt_of_mem ‹_ ∈ members›
    simp only [object.sizeOf_spec]
    omega

/-- What holds of a value if it holds of the values in it holds of every value. -/
theorem induct {P : Value → Prop} (string : ∀ s, P (string s)) (number : ∀ n, P (number n))
    (array : ∀ items, (∀ v ∈ items, P v) → P (array items))
    (object : ∀ members, (∀ m ∈ members, P m.2) → P (object members)) : ∀ v, P v
  | .string s => string s
  | .number n => number n
  | .array items => array items fun v _ => induct string number array object v
  | .object members => object members fun m _ => induct string number array object m.2
termination_by v => sizeOf v
decreasing_by
  · have hv := List.sizeOf_lt_of_mem ‹_ ∈ items›
    simp only [Value.array.sizeOf_spec]
    omega
  · have hm := sizeOf_lt_of_mem ‹_ ∈ members›
    simp only [Value.object.sizeOf_spec]
    omega

/-- A written member of an object. -/
def memberText (layout : Layout) (m : String × Value) : String :=
  quoted m.1 ++ layout.colon ++ m.2.text layout.inner

theorem text_array (layout : Layout) (items : List Value) :
    (array items).text layout = layout.enclosed "[" "]" (items.map (text layout.inner)) := by
  rw [text, Layout.array]

theorem text_object (layout : Layout) (members : List (String × Value)) :
    (object members).text layout =
      layout.enclosed "\x7b" "\x7d" (members.map (memberText layout)) := by
  rw [text, Layout.object, List.map_map]
  rfl

@[simp] theorem toList_memberText (layout : Layout) (m : String × Value) :
    (memberText layout m).toList =
      (quoted m.1).toList ++ (layout.colon.toList ++ (m.2.text layout.inner).toList) := by
  rw [memberText, String.toList_append, String.toList_append, List.append_assoc]

/-! ### The kind of a value -/

/-- The character that a value begins with, other than a digit. -/
def mark : Value → Option Char
  | string _ => some '"'
  | number _ => none
  | array _ => some '['
  | object _ => some '\x7b'

/-- The character that tells the kind of a value; all digits tell the same. -/
def markOf (c : Char) : Option Char := if c.isDigit then none else some c

/-- **The first character tells the kind of a value.** -/
theorem exists_head_text (layout : Layout) (v : Value) :
    ∃ c, (v.text layout).toList.head? = some c ∧ markOf c = v.mark := by
  cases v with
  | string s => exact ⟨'"', by rw [text, toList_quoted]; rfl, rfl⟩
  | number n =>
    have hne : (toString n).toList ≠ [] := by
      rw [toList_number]
      exact Nat.toDigits_ne_nil
    obtain ⟨c, rest, hc⟩ := List.exists_cons_of_ne_nil hne
    have hdigit : c.isDigit = true := isDigit_of_mem_number (hc ▸ List.mem_cons_self)
    exact ⟨c, by rw [text, hc]; rfl, if_pos hdigit⟩
  | array items =>
    obtain ⟨rest, h⟩ := exists_enclosed_eq_append layout "[" "]" (items.map (text layout.inner))
    exact ⟨'[', by rw [text_array, h]; rfl, rfl⟩
  | object members =>
    obtain ⟨rest, h⟩ := exists_enclosed_eq_append layout "\x7b" "\x7d"
      (members.map (memberText layout))
    exact ⟨'\x7b', by rw [text_object, h]; rfl, rfl⟩

theorem begins_text (layout : Layout) (v : Value) : Begins (v.text layout).toList := by
  obtain ⟨c, hc, hmark⟩ := exists_head_text layout v
  refine ⟨c, hc, ?_⟩
  rintro (rfl | rfl) <;> cases v <;> simp [markOf, mark] at hmark

theorem begins_memberText (layout : Layout) (m : String × Value) :
    Begins (memberText layout m).toList := by
  rw [toList_memberText, toList_quoted]
  exact ⟨'"', rfl, by simp [IsClosing]⟩

variable {layout : Layout} {v w : Value} {x y : List Char}

theorem mark_eq_of_text_append_eq
    (h : (v.text layout).toList ++ x = (w.text layout).toList ++ y) : v.mark = w.mark := by
  obtain ⟨c, hc, hv⟩ := exists_head_text layout v
  obtain ⟨d, hd, hw⟩ := exists_head_text layout w
  have hhead := congrArg List.head? h
  rw [List.head?_append, List.head?_append, hc, hd] at hhead
  cases hhead
  rw [← hv, hw]

/-! ### Values are determined -/

/-- **A written value is determined** where the text that follows does not continue a number. -/
theorem determined (v : Value) (layout : Layout) :
    Determined (fun v : Value => (v.text layout).toList) v := by
  induction v using induct generalizing layout with
  | string s =>
    intro w x y _ _ h
    have hmark := mark_eq_of_text_append_eq h
    cases w with
    | string t =>
      simp only [text] at h
      obtain ⟨rfl, hxy⟩ := quoted_append_inj h
      exact ⟨rfl, hxy⟩
    | _ => simp [mark] at hmark
  | number n =>
    intro w x y hx hy h
    have hmark := mark_eq_of_text_append_eq h
    cases w with
    | number k =>
      simp only [text] at h
      obtain ⟨rfl, hxy⟩ := number_append_inj hx hy h
      exact ⟨rfl, hxy⟩
    | _ => simp [mark] at hmark
  | array items ih =>
    intro w x y _ _ h
    have hmark := mark_eq_of_text_append_eq h
    cases w with
    | array items' =>
      simp only [text_array] at h
      obtain ⟨rfl, hxy⟩ := enclosed_append_inj layout rfl (Or.inl rfl) (begins_text layout.inner)
        (fun v hv => ih v hv layout.inner) h
      exact ⟨rfl, hxy⟩
    | _ => simp [mark] at hmark
  | object members ih =>
    intro w x y _ _ h
    have hmark := mark_eq_of_text_append_eq h
    cases w with
    | object members' =>
      simp only [text_object] at h
      -- a member is determined since its name and its value are
      have hmember : ∀ m ∈ members, Determined (fun m => (memberText layout m).toList) m := by
        intro m hm m' x y hx hy h
        simp only [toList_memberText, List.append_assoc] at h
        obtain ⟨hname, h⟩ := quoted_append_inj h
        obtain ⟨hvalue, hxy⟩ := ih m hm layout.inner m'.2 x y hx hy (List.append_cancel_left h)
        exact ⟨Prod.ext hname hvalue, hxy⟩
      obtain ⟨rfl, hxy⟩ := enclosed_append_inj layout rfl (Or.inr rfl) (begins_memberText layout)
        hmember h
      exact ⟨rfl, hxy⟩
    | _ => simp [mark] at hmark

/-- **The text of a value determines the value.** -/
theorem text_inj (h : v.text layout = w.text layout) : v = w :=
  (determined v layout w [] [] ends_nil ends_nil (congrArg (fun s => s.toList ++ []) h)).1

/-! ### Lines -/

theorem not_control_of_mem_quoted {s : String} {c : Char} (h : c ∈ (quoted s).toList) :
    0x20 ≤ c.toNat := by
  rw [toList_quoted, List.mem_cons, List.mem_append, List.mem_singleton, List.mem_flatMap] at h
  rcases h with rfl | ⟨d, -, hc⟩ | rfl
  · decide
  · exact not_control_of_mem_escape hc
  · decide

theorem not_control_of_mem_enclosed {opening closing : String} {a b : Char} {items : List String}
    (hopening : opening.toList = [a]) (ha : 0x20 ≤ a.toNat)
    (hclosing : closing.toList = [b]) (hb : 0x20 ≤ b.toNat)
    (hitems : ∀ i ∈ items, ∀ c ∈ i.toList, 0x20 ≤ c.toNat) {c : Char}
    (h : c ∈ (Layout.compact.enclosed opening closing items).toList) : 0x20 ≤ c.toNat := by
  by_cases hne : items = []
  · subst hne
    have hc : c ∈ (opening ++ closing).toList := h
    rw [String.toList_append, hopening, hclosing, List.mem_append, List.mem_singleton,
      List.mem_singleton] at hc
    rcases hc with rfl | rfl
    · exact ha
    · exact hb
  · rw [toList_enclosed _ _ _ hne, hopening, hclosing] at h
    simp only [Layout.gap, Layout.outdent, List.nil_append, List.mem_append,
      List.mem_singleton] at h
    rcases h with rfl | hc | rfl
    · exact ha
    · rcases mem_joined hc with hc | ⟨i, hi, hc⟩
      · rw [List.mem_singleton.mp hc]
        decide
      · obtain ⟨s, hs, rfl⟩ := List.mem_map.mp hi
        exact hitems s hs c hc
    · exact hb

/-- **A value on one line has no control character**, whatever its strings hold. -/
theorem not_control_of_mem_text (v : Value) :
    ∀ c ∈ (v.text .compact).toList, 0x20 ≤ c.toNat := by
  induction v using induct with
  | string s =>
    rw [text]
    exact fun c => not_control_of_mem_quoted
  | number n =>
    rw [text]
    intro c hc
    have hdigit := isDigit_of_mem_number hc
    rw [Char.isDigit, Bool.and_eq_true, decide_eq_true_eq] at hdigit
    have hzero : 0x30 ≤ c.toNat := hdigit.1
    omega
  | array items ih =>
    rw [text_array]
    intro c hc
    refine not_control_of_mem_enclosed rfl (by decide) rfl (by decide) (fun i hi => ?_) hc
    obtain ⟨v, hv, rfl⟩ := List.mem_map.mp hi
    exact ih v hv
  | object members ih =>
    rw [text_object]
    intro c hc
    refine not_control_of_mem_enclosed rfl (by decide) rfl (by decide) (fun i hi d hd => ?_) hc
    obtain ⟨m, hm, rfl⟩ := List.mem_map.mp hi
    rw [toList_memberText, List.mem_append, List.mem_append] at hd
    rcases hd with hd | hd | hd
    · exact not_control_of_mem_quoted hd
    · rw [List.mem_singleton.mp hd]
      decide
    · exact ih m hm d hd

end Value

end AsmPair.Text.Json
