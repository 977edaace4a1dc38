import AsmPair.Proofs.Spelling.Confusion

/-!
# What leaving out a size loses

The rule about sizes leaves out one size keyword, once in each operand that has it.  So a source
line of a decoded line is the decoded line with a keyword filled in after brackets.  Where the
keywords stand tells two such lines apart, and nothing else does.  The decoded line itself does not
tell the size: any keyword that it does not have can be filled in.

## Main definitions

* `Filled` — a text with a size keyword filled in.
* `Line.sizes` — the size keywords in the brackets of a line.
* `withSize`, `Line.withSize` — memory operands with a size keyword filled in.

## Main results

* `eq_iff_sizes_eq` — source lines of one decoded line are told apart by their sizes.
* `withSize_bridges` — every size can have been left out.
-/

namespace AsmPair

/-! ### Size keywords -/

/-- The size keyword that a text starts with, if there is a space after it. -/
def sizeAt? (cs : List Char) : Option String :=
  sizeKeywords.find? fun k => Text.startsWith (k.toList ++ [' ']) cs

/-- The size keywords after the brackets of a text, in order. -/
def bracketSizes : List Char → List (Option String)
  | [] => []
  | c :: cs => if c = '[' then sizeAt? cs :: bracketSizes cs else bracketSizes cs

@[simp] theorem bracketSizes_bracket (cs : List Char) :
    bracketSizes ('[' :: cs) = sizeAt? cs :: bracketSizes cs := if_pos rfl

@[simp] theorem bracketSizes_cons_of_ne {c : Char} (h : c ≠ '[') (cs : List Char) :
    bracketSizes (c :: cs) = bracketSizes cs := if_neg h

/-- The size keywords in the brackets of the operands of a line. -/
def Line.sizes (l : Line) : List (List (Option String)) :=
  l.operands.map fun op => bracketSizes op.toList

section Keywords

variable {k k' : String} {cs : List Char}

theorem not_space_of_mem_sizeKeywords : ∀ k ∈ sizeKeywords, ' ' ∉ k.toList := by decide

/-- A text starts with one word only. -/
theorem eq_of_prefix_keyword (hk : ' ' ∉ k.toList) (hk' : ' ' ∉ k'.toList)
    (h : k.toList ++ [' '] <+: cs) (h' : k'.toList ++ [' '] <+: cs) : k = k' := by
  have hcut : ∀ k : String, ' ' ∉ k.toList → k.toList ++ [' '] <+: cs →
      ∃ rest, Text.cut? (· == ' ') cs = some (k.toList, rest) := by
    rintro k hk ⟨rest, rfl⟩
    exact ⟨rest, Text.cut?_beq_eq_some_iff.mpr ⟨by rw [List.append_assoc]; rfl, hk⟩⟩
  obtain ⟨rest, hrest⟩ := hcut k hk h
  obtain ⟨rest', hrest'⟩ := hcut k' hk' h'
  rw [hrest, Option.some.injEq, Prod.mk.injEq] at hrest'
  exact String.toList_injective hrest'.1

theorem sizeMarker_prefix_cons {c : Char} :
    sizeMarker k <+: c :: cs ↔ c = '[' ∧ k.toList ++ [' '] <+: cs := by
  rw [sizeMarker, List.cons_prefix_cons, eq_comm]

theorem eq_of_prefix_sizeMarker (hk : ' ' ∉ k.toList) (hk' : ' ' ∉ k'.toList)
    (h : sizeMarker k <+: cs) (h' : sizeMarker k' <+: cs) : k = k' := by
  cases cs with
  | nil => exact absurd (List.prefix_nil.mp h) (List.cons_ne_nil _ _)
  | cons c cs =>
    exact eq_of_prefix_keyword hk hk' (sizeMarker_prefix_cons.mp h).2
      (sizeMarker_prefix_cons.mp h').2

theorem not_bracket_of_mem_sizeKeywords : ∀ k ∈ sizeKeywords, '[' ∉ k.toList ++ [' '] := by
  decide

theorem sizeAt?_eq_some_iff :
    sizeAt? cs = some k ↔ k ∈ sizeKeywords ∧ k.toList ++ [' '] <+: cs := by
  have hfound : ∀ k, sizeAt? cs = some k → k ∈ sizeKeywords ∧ k.toList ++ [' '] <+: cs := by
    intro k h
    have hstart := List.find?_some h
    exact ⟨List.mem_of_find?_eq_some h, Text.startsWith_iff.mp hstart⟩
  refine ⟨hfound k, ?_⟩
  rintro ⟨hk, hstarts⟩
  cases h : sizeAt? cs with
  | none => exact absurd (Text.startsWith_iff.mpr hstarts) (List.find?_eq_none.mp h k hk)
  | some k' =>
    obtain ⟨hk', hstarts'⟩ := hfound k' h
    rw [eq_of_prefix_keyword (not_space_of_mem_sizeKeywords k hk)
      (not_space_of_mem_sizeKeywords k' hk') hstarts hstarts']

theorem bracketSizes_of_not_mem (h : '[' ∉ cs) (ds : List Char) :
    bracketSizes (cs ++ ds) = bracketSizes ds := by
  induction cs with
  | nil => rfl
  | cons c cs ih =>
    rw [List.mem_cons, not_or] at h
    rw [List.cons_append, bracketSizes_cons_of_ne (Ne.symm h.1), ih h.2]

/-- A size that is filled in is read where it was filled in. -/
theorem bracketSizes_sizeMarker (hk : k ∈ sizeKeywords) (cs : List Char) :
    bracketSizes (sizeMarker k ++ cs) = some k :: bracketSizes cs := by
  have hsize : sizeAt? (k.toList ++ [' '] ++ cs) = some k :=
    sizeAt?_eq_some_iff.mpr ⟨hk, List.prefix_append _ _⟩
  rw [sizeMarker, List.cons_append, bracketSizes_bracket, hsize,
    bracketSizes_of_not_mem (not_bracket_of_mem_sizeKeywords k hk)]

end Keywords

/-! ### Texts with a size filled in -/

/-- A text with a size keyword filled in after one of the brackets of another text, or after
none. -/
inductive Filled (k : String) : List Char → List Char → Prop where
  /-- There is nothing to fill in. -/
  | nil : Filled k [] []
  /-- The keyword is filled in after the first bracket. -/
  | here (cs : List Char) : Filled k ('[' :: cs) (sizeMarker k ++ cs)
  /-- It is filled in later, or not at all. -/
  | there (c : Char) {cs ds : List Char} : Filled k cs ds → Filled k (c :: cs) (c :: ds)

namespace Filled

variable {k k' : String} {cs ds ds' w : List Char}

/-- A text is filled in again where the keyword was left out. -/
theorem substFirst (k : String) (cs : List Char) :
    Filled k (Text.substFirst (sizeMarker k) ['['] cs) cs := by
  induction cs with
  | nil => exact .nil
  | cons c cs ih =>
    rcases Text.substFirst_cons_cases (sizeMarker k) ['['] c cs with ⟨rest, hrest, heq⟩ | ⟨-, heq⟩
    · rw [heq, hrest]
      exact .here rest
    · rw [heq]
      exact .there c ih

/-- What has no bracket is not filled in. -/
theorem prefix_of_not_mem (h : Filled k cs ds) (hw : '[' ∉ w) (hds : w <+: ds) : w <+: cs := by
  induction w generalizing cs ds with
  | nil => exact List.nil_prefix
  | cons c w ih =>
    rw [List.mem_cons, not_or] at hw
    cases h with
    | nil => exact hds
    | here cs => exact absurd (List.cons_prefix_cons.mp hds).1.symm hw.1
    | there d h =>
      obtain ⟨rfl, hrest⟩ := List.cons_prefix_cons.mp hds
      exact List.cons_prefix_cons.mpr ⟨rfl, ih h hw.2 hrest⟩

/-- No bracket is filled in. -/
theorem count_bracket (hk : k ∈ sizeKeywords) (h : Filled k cs ds) :
    ds.count '[' = cs.count '[' := by
  induction h with
  | nil => rfl
  | here cs =>
    rw [sizeMarker, List.cons_append, List.count_cons_self, List.count_cons_self,
      List.count_append, List.count_eq_zero.mpr (not_bracket_of_mem_sizeKeywords k hk),
      Nat.zero_add]
  | there c h ih => rw [List.count_cons, List.count_cons, ih]

/-- A size that is read after the first bracket of a text was there before, if another one was
filled in later. -/
theorem ne_of_there (hk : k ∈ sizeKeywords) (hcs : ¬ sizeMarker k <+: '[' :: cs)
    (h : Filled k' cs ds) : some k :: bracketSizes cs ≠ bracketSizes ('[' :: ds) := by
  intro heq
  rw [bracketSizes_bracket, List.cons.injEq] at heq
  have hds := (sizeAt?_eq_some_iff.mp heq.1.symm).2
  exact hcs (sizeMarker_prefix_cons.mpr
    ⟨rfl, h.prefix_of_not_mem (not_bracket_of_mem_sizeKeywords k hk) hds⟩)

/-- Sizes tell where a keyword was filled in, and which. -/
theorem eq_of_bracketSizes_eq (hk : k ∈ sizeKeywords) (hk' : k' ∈ sizeKeywords)
    (hcs : ¬ sizeMarker k <:+: cs) (hcs' : ¬ sizeMarker k' <:+: cs) (h : Filled k cs ds)
    (h' : Filled k' cs ds') (hsizes : bracketSizes ds = bracketSizes ds') : ds = ds' := by
  induction h generalizing ds' with
  | nil =>
    cases h' with
    | nil => rfl
  | here cs =>
    rw [bracketSizes_sizeMarker hk] at hsizes
    cases h' with
    | here =>
      rw [bracketSizes_sizeMarker hk', List.cons.injEq, Option.some.injEq] at hsizes
      rw [hsizes.1]
    | there _ h' => exact absurd hsizes (ne_of_there hk (fun h => hcs h.isInfix) h')
  | @there c cs ds h ih =>
    cases h' with
    | here =>
      rw [bracketSizes_sizeMarker hk'] at hsizes
      exact absurd hsizes.symm (ne_of_there hk' (fun h => hcs' h.isInfix) h)
    | @there _ _ ds' h' =>
      rw [List.infix_cons_iff, not_or] at hcs hcs'
      have htail : bracketSizes ds = bracketSizes ds' := by
        rw [bracketSizes, bracketSizes] at hsizes
        split at hsizes
        · exact (List.cons.inj hsizes).2
        · exact hsizes
      rw [ih hcs.2 hcs'.2 h' htail]

end Filled

theorem filled_withoutSize (k op : String) : Filled k (withoutSize k op).toList op.toList := by
  rw [withoutSize, String.toList_ofList]
  exact .substFirst k _

/-! ### Source lines of one decoded line -/

variable {source source' decoded : Line} {k : String}

/-- The keyword that is left out is the only one that is in a source operand only. -/
theorem elidedKeyword?_eq_some (hk : k ∈ sizeKeywords)
    (hsource : ∃ op ∈ source.operands, sizeMarker k <+: op.toList)
    (hdecoded : ¬ sizeMarker k <:+: decoded.text.toList)
    (honly : ∀ k' ∈ sizeKeywords, (∃ op ∈ source.operands, sizeMarker k' <+: op.toList) → k' = k) :
    elidedKeyword? source decoded = some k := by
  cases h : elidedKeyword? source decoded with
  | some k' =>
    obtain ⟨hk', hsource', -⟩ := of_elidedKeyword?_eq_some h
    rw [honly k' hk' hsource']
  | none =>
    refine absurd ?_ (List.find?_eq_none.mp h k hk)
    simp only [Bool.and_eq_true, List.any_eq_true, Bool.not_eq_true', ← Bool.not_eq_true,
      Text.holds_iff, Text.startsWith_iff]
    exact ⟨hsource, hdecoded⟩

/-- Lists with the same image of each of their values have the same values, if these are told by
two images. -/
theorem eq_of_map_eq {α β γ : Type} {f g : α → β} {s : α → γ} {xs ys : List α}
    (h : ∀ x ∈ xs, ∀ y ∈ ys, f x = g y → s x = s y → x = y) (hfg : xs.map f = ys.map g)
    (hs : xs.map s = ys.map s) : xs = ys := by
  induction xs generalizing ys with
  | nil => exact (List.map_eq_nil_iff.mp hfg.symm).symm
  | cons x xs ih =>
    cases ys with
    | nil => cases hfg
    | cons y ys =>
      rw [List.map_cons, List.map_cons, List.cons.injEq] at hfg hs
      rw [h x List.mem_cons_self y List.mem_cons_self hfg.1 hs.1, ih ?_ hfg.2 hs.2]
      exact fun x hx y hy => h x (List.mem_cons_of_mem _ hx) y (List.mem_cons_of_mem _ hy)

/-- **Leaving out a size loses sizes and nothing else.** -/
theorem eq_iff_sizes_eq (h : Respelling.elideSize.Bridges source decoded)
    (h' : Respelling.elideSize.Bridges source' decoded) :
    source = source' ↔ source.sizes = source'.sizes := by
  refine ⟨congrArg Line.sizes, fun hsizes => ?_⟩
  obtain ⟨hm, -, k, hk, hd⟩ := Respelling.elideSize_bridges_iff.mp h
  obtain ⟨hm', -, k', hk', hd'⟩ := Respelling.elideSize_bridges_iff.mp h'
  obtain ⟨hmem, -, hnot⟩ := of_elidedKeyword?_eq_some hk
  obtain ⟨hmem', -, hnot'⟩ := of_elidedKeyword?_eq_some hk'
  refine Line.ext (hm.trans hm'.symm) (eq_of_map_eq ?_ (hd.symm.trans hd') hsizes)
  intro x hx y _ hxy hs
  have hpart : (withoutSize k x).toList <:+: decoded.text.toList := by
    apply Line.infix_text
    rw [hd]
    exact List.mem_map_of_mem hx
  have hfilled' : Filled k' (withoutSize k x).toList y.toList := hxy ▸ filled_withoutSize k' y
  exact String.toList_injective ((filled_withoutSize k x).eq_of_bracketSizes_eq hmem hmem'
    (fun h => hnot (h.trans hpart)) (fun h => hnot' (h.trans hpart)) hfilled' hs)

/-! ### Sizes that can have been left out -/

/-- A part that does not stand in a text is not exchanged there. -/
theorem Text.substFirst_of_not_infix {sub new cs : List Char} (h : ¬ sub <:+: cs) :
    substFirst sub new cs = cs := by
  induction cs with
  | nil =>
    rw [substFirst, if_neg]
    exact fun hstart => h (startsWith_iff.mp hstart).isInfix
  | cons c cs ih =>
    rw [List.infix_cons_iff, not_or] at h
    rcases substFirst_cons_cases sub new c cs with ⟨rest, hrest, -⟩ | ⟨-, heq⟩
    · exact absurd ⟨rest, hrest.symm⟩ h.1
    · rw [heq, ih h.2]

theorem withoutSize_of_not_infix {op : String} (h : ¬ sizeMarker k <:+: op.toList) :
    withoutSize k op = op := by
  rw [withoutSize, Text.substFirst_of_not_infix h, String.ofList_toList]

theorem withoutSize_of_not_bracket {op : String} (h : '[' ∉ op.toList) : withoutSize k op = op :=
  withoutSize_of_not_infix fun hpart => h (hpart.subset List.mem_cons_self)

/-- A bracket is kept where a size is left out. -/
theorem bracket_mem_withoutSize (hk : k ∈ sizeKeywords) {op : String} :
    '[' ∈ (withoutSize k op).toList ↔ '[' ∈ op.toList := by
  rw [← List.count_pos_iff, ← List.count_pos_iff, (filled_withoutSize k op).count_bracket hk]

/-- Registers are not in brackets. -/
theorem not_bracket_of_isRegister {op : String} (h : Operand.isRegister op = true) :
    '[' ∉ op.toList := by
  have hnames : ∀ r ∈ Operand.byteRegisters ++ Operand.wordRegisters ++ Operand.segmentSources,
      '[' ∉ r.toList.map Char.toLower := by
    decide
  obtain ⟨r, hr, hsame⟩ := List.any_eq_true.mp h
  have heq : r.toList.map Char.toLower = op.toList.map Char.toLower := eq_of_beq hsame
  intro hmem
  apply hnames r hr
  rw [heq]
  exact List.mem_map_of_mem (f := Char.toLower) hmem

/-- A memory operand with a size keyword filled in. -/
def withSize (k op : String) : String :=
  match op.toList with
  | '[' :: cs => String.ofList (sizeMarker k ++ cs)
  | _ => op

theorem withSize_of_cons {op : String} {cs : List Char} (h : op.toList = '[' :: cs) :
    withSize k op = String.ofList (sizeMarker k ++ cs) := by
  simp only [withSize, h]

theorem withSize_of_not_bracket {op : String} (h : isBracketed op = false) :
    withSize k op = op := by
  unfold withSize
  split
  · next cs hop =>
    rw [isBracketed, hop] at h
    cases h
  · rfl

theorem withoutSize_withSize {op : String} (h : ¬ sizeMarker k <:+: op.toList) :
    withoutSize k (withSize k op) = op := by
  cases hop : isBracketed op with
  | false => rw [withSize_of_not_bracket hop, withoutSize_of_not_infix h]
  | true =>
    obtain ⟨cs, hcs⟩ := Text.startsWith_iff.mp hop
    rw [withSize_of_cons hcs.symm]
    apply String.toList_injective
    rw [toList_withoutSize (String.toList_ofList), ← hcs]
    rfl

/-- No separator begins in a text without commas. -/
theorem Text.hasSeparator_append_of_no_comma {xs : List Char} (h : ',' ∉ xs) (ys : List Char) :
    hasSeparator (xs ++ ys) = hasSeparator ys := by
  rw [Bool.eq_iff_iff, hasSeparator_iff, hasSeparator_iff]
  induction xs with
  | nil => rfl
  | cons x xs ih =>
    rw [List.mem_cons, not_or] at h
    rw [List.cons_append, List.infix_cons_iff, List.cons_prefix_cons, ih h.2]
    exact or_iff_right fun hfirst => h.1 hfirst.1

theorem not_hasSeparator_withSize (hk : k ∈ sizeKeywords) {op : String}
    (h : Text.hasSeparator op.toList = false) :
    Text.hasSeparator (withSize k op).toList = false := by
  cases hop : isBracketed op with
  | false => rwa [withSize_of_not_bracket hop]
  | true =>
    obtain ⟨cs, hcs⟩ := Text.startsWith_iff.mp hop
    have hcomma : ∀ k ∈ sizeKeywords, ',' ∉ sizeMarker k := by decide
    rw [withSize_of_cons hcs.symm, String.toList_ofList,
      Text.hasSeparator_append_of_no_comma (hcomma k hk)]
    rwa [← hcs, Text.hasSeparator_append_of_no_comma (by decide)] at h

/-- The operands that a filled size keyword stands in. -/
theorem sizeMarker_prefix_withSize {k' op : String} (hk : k ∈ sizeKeywords)
    (hk' : k' ∈ sizeKeywords) (h : sizeMarker k' <+: (withSize k op).toList) : k' = k := by
  cases hop : isBracketed op with
  | false =>
    rw [withSize_of_not_bracket hop] at h
    exact absurd (isBracketed_of_sizeMarker h) (by simp [hop])
  | true =>
    obtain ⟨cs, hcs⟩ := Text.startsWith_iff.mp hop
    rw [withSize_of_cons hcs.symm, String.toList_ofList] at h
    exact eq_of_prefix_sizeMarker (not_space_of_mem_sizeKeywords k' hk')
      (not_space_of_mem_sizeKeywords k hk) h (List.prefix_append _ _)

/-- Registers are kept where a size is left out of a line or filled in. -/
theorem sizeImplied_map_withSize {m : String} {ops : List String} {k' : String}
    (h : sizeImplied m ops = true) :
    sizeImplied m ((ops.map (withoutSize k')).map (withSize k)) = true := by
  rw [sizeImplied, Bool.or_eq_true, Bool.and_eq_true, List.any_eq_true] at h ⊢
  refine h.imp_right (And.imp_right ?_)
  rintro ⟨op, hop, hregister⟩
  have hbracket := not_bracket_of_isRegister hregister
  have hsame : withSize k (withoutSize k' op) = op := by
    rw [withoutSize_of_not_bracket hbracket, withSize_of_not_bracket]
    rw [Bool.eq_false_iff]
    exact fun h => hbracket ((Text.startsWith_iff.mp h).subset (List.mem_singleton_self _))
  refine ⟨op, ?_, hregister⟩
  rw [← hsame]
  exact List.mem_map_of_mem (List.mem_map_of_mem hop)

/-- A line with a size keyword filled into all its memory operands. -/
def Line.withSize (k : String) (l : Line) : Line :=
  .ofParts l.mnemonic (l.operands.map (AsmPair.withSize k))

theorem Line.operands_withSize (hk : k ∈ sizeKeywords) (l : Line) :
    (l.withSize k).operands = l.operands.map (AsmPair.withSize k) := by
  refine Line.operands_ofParts fun op hop => ?_
  obtain ⟨x, hx, rfl⟩ := List.mem_map.mp hop
  exact not_hasSeparator_withSize hk (l.separate x hx)

/-- **Every size can have been left out** that the decoded line does not have itself. -/
theorem withSize_bridges (h : Respelling.elideSize.Bridges source decoded)
    (hk : k ∈ sizeKeywords) (hdecoded : ¬ sizeMarker k <:+: decoded.text.toList) :
    elidedKeyword? (decoded.withSize k) decoded = some k ∧
      Respelling.elideSize.Bridges (decoded.withSize k) decoded := by
  obtain ⟨hm, himplied, k₀, hk₀, hd⟩ := Respelling.elideSize_bridges_iff.mp h
  obtain ⟨-, ⟨op, hop, rest, hrest⟩, -⟩ := of_elidedKeyword?_eq_some hk₀
  have hops := Line.operands_withSize hk decoded
  have hkeyword : elidedKeyword? (decoded.withSize k) decoded = some k := by
    refine elidedKeyword?_eq_some hk ?_ hdecoded ?_
    · -- the operand that had another size has this one now
      refine ⟨withSize k (withoutSize k₀ op), ?_, ?_⟩
      · rw [hops, hd]
        exact List.mem_map_of_mem (List.mem_map_of_mem hop)
      · rw [withSize_of_cons (toList_withoutSize hrest.symm), String.toList_ofList]
        exact List.prefix_append _ _
    · rintro k' hk' ⟨op, hop, hstart⟩
      rw [hops] at hop
      obtain ⟨x, -, rfl⟩ := List.mem_map.mp hop
      exact sizeMarker_prefix_withSize hk hk' hstart
  refine ⟨hkeyword, Respelling.elideSize_bridges_iff.mpr ⟨rfl, ?_, k, hkeyword, ?_⟩⟩
  · rw [hops, hd, Line.withSize, Line.mnemonic_ofParts, ← hm]
    exact sizeImplied_map_withSize himplied
  · rw [hops, List.map_map]
    refine (List.map_id' _).symm.trans (List.map_congr_left fun op hop => ?_)
    exact (withoutSize_withSize fun h => hdecoded (h.trans (Line.infix_text hop))).symm

end AsmPair
