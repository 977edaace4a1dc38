import AsmPair.Proofs.Module.Shards

/-!
# Generation

The modules of a selection are put together feature by feature: first the module of the selected
instructions without operands, then the modules of each selected form with operands.  What a form
with operands contributes depends on the form and the composer only, and the first of these forms
that cannot be composed decides the error.  A selection without a feature can therefore be generated
feature by feature.

## Main definitions

* `Form.operandPart`, `Form.barePart` — the forms of one feature, with and without operands.
* `Form.inOrder` — the forms with operands, feature by feature.
* `Composer.modulesOf`, `Composer.block` — what a form and what a feature contribute.
* `emptyIfNone` — an outcome in which selecting nothing gives no modules.

## Main results

* `Composer.composeFeatures_eq` — the selected forms are counted while they are composed.
* `Composer.generate_eq` — the first error, or the blocks of all features.
* `Composer.generation_agrees_with_selection` — generation against selection.
-/

namespace AsmPair

/-! ### First errors -/

section Settle

variable {ε α β : Type}

/-- The error, if there is one, or else the value. -/
def settle (e? : Option ε) (a : α) : Except ε α :=
  match e? with
  | some e => .error e
  | none => .ok a

@[simp] theorem map_settle (g : α → β) (e? : Option ε) (a : α) :
    (settle e? a).map g = settle e? (g a) := by
  cases e? <;> rfl

@[simp] theorem settle_eq_error_iff {e? : Option ε} {a : α} {e : ε} :
    settle e? a = .error e ↔ e? = some e := by
  cases e? <;> simp [settle]

@[simp] theorem settle_eq_ok_iff {e? : Option ε} {a b : α} :
    settle e? a = .ok b ↔ e? = none ∧ a = b := by
  cases e? <;> simp [settle]

/-- Outcomes that are collected give the first error, or all values. -/
theorem mapM_settle {κ : Type} (e? : κ → Option ε) (a : κ → α) (ks : List κ) :
    (ks.mapM fun k => settle (e? k) (a k)) = settle (ks.findSome? e?) (ks.map a) := by
  induction ks with
  | nil => rfl
  | cons k ks ih =>
    rw [List.mapM_cons, ih, List.findSome?_cons]
    cases e? k with
    | some e => rfl
    | none => cases ks.findSome? e? <;> rfl

theorem findSome?_flatMap {κ : Type} (p : α → Option β) (g : κ → List α) (ks : List κ) :
    (ks.flatMap g).findSome? p = ks.findSome? fun k => (g k).findSome? p := by
  induction ks with
  | nil => rfl
  | cons k ks ih =>
    rw [List.flatMap_cons, List.findSome?_append, ih, List.findSome?_cons]
    cases (g k).findSome? p <;> rfl

end Settle

/-! ### Grouping by feature -/

section Grouping

variable {κ α : Type} [DecidableEq κ]

/-- Of distinct keys only one is the given one. -/
theorem flatMap_ite_eq {keys : List κ} {k : κ} (hkeys : keys.Nodup) (hk : k ∈ keys)
    (xs : List α) : (keys.flatMap fun k' => if k = k' then xs else []) = xs := by
  induction keys with
  | nil => cases hk
  | cons k' ks ih =>
    obtain ⟨hnot, hks⟩ := List.nodup_cons.mp hkeys
    rw [List.flatMap_cons]
    rcases List.mem_cons.mp hk with rfl | hk
    · have hrest : (ks.flatMap fun k' => if k = k' then xs else []) = [] := by
        rw [List.flatMap_eq_nil_iff]
        intro k' hk'
        exact if_neg fun h : k = k' => hnot (h ▸ hk')
      rw [if_pos rfl, hrest, List.append_nil]
    · rw [if_neg fun h : k = k' => hnot (h ▸ hk), List.nil_append, ih hks hk]

/-- Grouping items by distinct keys keeps every item. -/
theorem flatMap_filter_perm {keys : List κ} (hkeys : keys.Nodup) (key : α → κ)
    (hmem : ∀ x, key x ∈ keys) (xs : List α) :
    (keys.flatMap fun k => xs.filter (key · == k)).Perm xs := by
  induction xs with
  | nil => simp
  | cons x xs ih =>
    have hsplit : ∀ k, (x :: xs).filter (key · == k) =
        (if key x = k then [x] else []) ++ xs.filter (key · == k) := by
      intro k
      by_cases h : key x = k <;> simp [h]
    rw [List.flatMap_congr fun k _ => hsplit k]
    refine (List.flatMap_append_perm keys _ _).symm.trans ?_
    rw [flatMap_ite_eq hkeys (hmem x)]
    exact List.Perm.cons x ih

end Grouping

/-! ### The forms of a selection -/

namespace Form

/-- The forms of one feature. -/
def part (fs : List Form) (feature : Feature) : List Form := fs.filter (·.feature == feature)

/-- The forms of one feature that have no operands. -/
def barePart (fs : List Form) (feature : Feature) : List Form := (part fs feature).filter isBare

/-- The forms of one feature that have operands. -/
def operandPart (fs : List Form) (feature : Feature) : List Form :=
  (part fs feature).filter (!·.isBare)

/-- The forms with operands, feature by feature. -/
def inOrder (fs : List Form) : List Form := Feature.all.flatMap (operandPart fs)

/-- The number of operand combinations; a form without operands has one. -/
def combinations (f : Form) : Nat := (f.templates.map Template.cardinality).prod

@[simp] theorem part_part (fs : List Form) (feature feature' : Feature) :
    part (part fs feature) feature' = if feature = feature' then part fs feature else [] := by
  unfold part
  rw [List.filter_filter]
  split
  · next h =>
    rw [h]
    simp
  · next h =>
    rw [List.filter_eq_nil_iff]
    intro f _ hf
    rw [Bool.and_eq_true, beq_iff_eq, beq_iff_eq] at hf
    exact h (hf.2.symm.trans hf.1)

@[simp] theorem operandPart_part (fs : List Form) (feature feature' : Feature) :
    operandPart (part fs feature) feature' =
      if feature = feature' then operandPart fs feature else [] := by
  unfold operandPart
  rw [part_part]
  split <;> rfl

/-- The features together have all forms. -/
theorem flatMap_part_perm (fs : List Form) : (Feature.all.flatMap (part fs)).Perm fs :=
  flatMap_filter_perm Feature.nodup_all Form.feature (fun f => Feature.mem_all f.feature) fs

@[simp] theorem mem_inOrder {fs : List Form} {f : Form} :
    f ∈ inOrder fs ↔ f ∈ fs ∧ f.isBare = false := by
  unfold inOrder operandPart
  rw [← List.filter_flatMap, List.mem_filter, (flatMap_part_perm fs).mem_iff]
  simp

end Form

namespace Composer

variable (c : Composer)

/-! ### What forms and features contribute -/

/-- Why a form cannot be composed, if it cannot. -/
def error? (f : Form) : Option GenerationError :=
  match c.compose f with
  | .error e => some e
  | .ok _ => none

/-- The modules of a form, none if it cannot be composed. -/
def modulesOf (f : Form) : List AsmModule :=
  match c.compose f with
  | .error _ => []
  | .ok ms => ms

/-- The module of the given instructions without operands, none if there are none. -/
def batch (feature : Feature) (forms : List Form) : List AsmModule :=
  if forms.isEmpty then [] else [c.bareModule feature forms]

/-- The modules of the forms of one feature. -/
def block (fs : List Form) (feature : Feature) : List AsmModule :=
  c.batch feature (Form.barePart fs feature) ++ (Form.operandPart fs feature).flatMap c.modulesOf

variable {c}

theorem compose_eq_settle (f : Form) : c.compose f = settle (c.error? f) (c.modulesOf f) := by
  unfold error? modulesOf
  cases c.compose f <;> rfl

theorem error?_eq_some_iff {f : Form} {e : GenerationError} :
    c.error? f = some e ↔ c.compose f = .error e := by
  rw [compose_eq_settle, settle_eq_error_iff]

theorem error?_eq_none_iff {f : Form} :
    c.error? f = none ↔ c.compose f = .ok (c.modulesOf f) := by
  rw [compose_eq_settle, settle_eq_ok_iff, and_iff_left rfl]

/-- A form fails with an error that names it. -/
theorem exists_malformed_of_error? {f : Form} {e : GenerationError} (h : c.error? f = some e) :
    ∃ reason, e = .malformed f.title reason :=
  exists_malformed_of_compose (error?_eq_some_iff.mp h)

@[simp] theorem block_part (fs : List Form) (feature feature' : Feature) :
    c.block (Form.part fs feature) feature' =
      if feature = feature' then c.block fs feature else [] := by
  unfold block Form.barePart
  rw [Form.operandPart_part, Form.part_part]
  split
  · next h => rw [h]
  · rfl

/-! ### Generation by blocks -/

theorem composeAll_eq (fs : List Form) :
    c.composeAll fs = settle (fs.findSome? c.error?) (fs.flatMap c.modulesOf) := by
  induction fs with
  | nil => rfl
  | cons f fs ih =>
    rw [composeAll, compose_eq_settle, ih, List.findSome?_cons]
    cases c.error? f with
    | some e => rfl
    | none => exact map_settle _ _ _

theorem composeFeature_eq (fs : List Form) (feature : Feature) :
    c.composeFeature feature (Form.part fs feature) =
      settle ((Form.operandPart fs feature).findSome? c.error?) (c.block fs feature) := by
  unfold composeFeature
  rw [composeAll_eq]
  exact map_settle _ _ _

variable {catalog : Catalog} {s : Selection}

theorem filter_ofFeature (catalog : Catalog) (s : Selection) (feature : Feature) :
    (catalog.ofFeature feature).filter s.matches =
      Form.part (catalog.forms.filter s.matches) feature :=
  List.filter_comm _ _ _

/-- Feature by feature, every selected form is counted and the blocks are put together, unless some
form cannot be composed. -/
theorem composeFeatures_eq (features : List Feature) :
    c.composeFeatures catalog s features =
      settle ((features.flatMap (Form.operandPart (catalog.forms.filter s.matches))).findSome?
          c.error?)
        ((features.flatMap (Form.part (catalog.forms.filter s.matches))).length,
          features.flatMap (c.block (catalog.forms.filter s.matches))) := by
  induction features with
  | nil => rfl
  | cons feature features ih =>
    rw [composeFeatures, filter_ofFeature, composeFeature_eq, ih, List.flatMap_cons,
      List.findSome?_append, List.flatMap_cons, List.flatMap_cons, List.length_append]
    cases (Form.operandPart (catalog.forms.filter s.matches) feature).findSome? c.error? with
    | some e => rfl
    | none => exact map_settle _ _ _

theorem select_eq : catalog.select s = if catalog.forms.filter s.matches = [] then
    .error (.nothingSelected s) else .ok (catalog.forms.filter s.matches) := by
  unfold Catalog.select
  simp only [List.isEmpty_iff]

/-- **What is generated.**  That nothing is selected, which is found out by counting at the end,
could as well be asked first: then this is the error.  Else it is that of the first form that cannot
be composed, and if there is none, the modules are the blocks of all features. -/
theorem generate_eq : c.generate catalog s = if catalog.forms.filter s.matches = [] then
    .error (.nothingSelected s)
  else
    settle ((Form.inOrder (catalog.forms.filter s.matches)).findSome? c.error?)
      (Feature.all.flatMap (c.block (catalog.forms.filter s.matches))) := by
  -- each selected form is counted with its feature, and no other form is
  have hcount : (Feature.all.flatMap (Form.part (catalog.forms.filter s.matches))).length =
      (catalog.forms.filter s.matches).length :=
    (Form.flatMap_part_perm (catalog.forms.filter s.matches)).length_eq
  unfold generate
  rw [composeFeatures_eq, hcount]
  by_cases hnil : catalog.forms.filter s.matches = []
  · rw [if_pos hnil, hnil]
    rfl
  · obtain ⟨n, hn⟩ := Nat.exists_eq_succ_of_ne_zero (mt List.length_eq_zero_iff.mp hnil)
    rw [if_neg hnil, hn]
    unfold Form.inOrder
    cases (Feature.all.flatMap
      (Form.operandPart (catalog.forms.filter s.matches))).findSome? c.error? <;> rfl

theorem ne_nothingSelected_of_findSome? {fs : List Form} {e : GenerationError}
    (h : fs.findSome? c.error? = some e) (t : Selection) : e ≠ .nothingSelected t := by
  obtain ⟨f, -, hf⟩ := List.exists_of_findSome?_eq_some h
  obtain ⟨reason, rfl⟩ := exists_malformed_of_error? hf
  exact GenerationError.noConfusion

variable {fs : List Form}

theorem filter_eq_of_select (h : catalog.select s = .ok fs) :
    catalog.forms.filter s.matches = fs ∧ fs ≠ [] := by
  rw [select_eq] at h
  split at h
  · cases h
  · next hne =>
    cases h
    exact ⟨rfl, hne⟩

/-- What is generated for the forms that are selected. -/
theorem generate_of_select (h : catalog.select s = .ok fs) : c.generate catalog s =
    settle ((Form.inOrder fs).findSome? c.error?) (Feature.all.flatMap (c.block fs)) := by
  obtain ⟨rfl, hne⟩ := filter_eq_of_select h
  rw [generate_eq, if_neg hne]

/-- Generation finds nothing selected where selection does. -/
theorem select_eq_error_iff {e : GenerationError} : catalog.select s = .error e ↔
    ∃ t, e = .nothingSelected t ∧ c.generate catalog s = .error e := by
  rw [select_eq, generate_eq]
  by_cases hnil : catalog.forms.filter s.matches = []
  · rw [if_pos hnil, if_pos hnil, Except.error.injEq]
    constructor
    · rintro rfl
      exact ⟨s, rfl, rfl⟩
    · rintro ⟨-, -, h⟩
      exact Except.error.inj h
  · rw [if_neg hnil, if_neg hnil]
    constructor
    · intro h
      cases h
    · rintro ⟨t, ht, h⟩
      exact absurd ht (ne_nothingSelected_of_findSome? (settle_eq_error_iff.mp h) t)

/-- The error of generation is that of the first form with operands that cannot be composed. -/
theorem generate_eq_error_iff (h : catalog.select s = .ok fs) {e : GenerationError} :
    c.generate catalog s = .error e ↔ ∃ before f after, Form.inOrder fs = before ++ f :: after ∧
      (∀ g ∈ before, ∃ ms, c.compose g = .ok ms) ∧ c.compose f = .error e := by
  rw [generate_of_select h, settle_eq_error_iff, List.findSome?_eq_some_iff]
  constructor
  · rintro ⟨before, f, after, hsplit, hf, hbefore⟩
    exact ⟨before, f, after, hsplit, fun g hg => ⟨_, error?_eq_none_iff.mp (hbefore g hg)⟩,
      error?_eq_some_iff.mp hf⟩
  · rintro ⟨before, f, after, hsplit, hbefore, hf⟩
    refine ⟨before, f, after, hsplit, error?_eq_some_iff.mpr hf, fun g hg => ?_⟩
    obtain ⟨ms, hms⟩ := hbefore g hg
    unfold error?
    rw [hms]

/-- What is generated are the blocks of all features, for which all forms were composed. -/
theorem blocks_of_generate (h : catalog.select s = .ok fs) {ms : List AsmModule}
    (hms : c.generate catalog s = .ok ms) :
    ms = Feature.all.flatMap (c.block fs) ∧
      ∀ f ∈ fs, f.isBare = false → c.compose f = .ok (c.modulesOf f) := by
  rw [generate_of_select h, settle_eq_ok_iff, List.findSome?_eq_none_iff] at hms
  refine ⟨hms.2.symm, fun f hf hbare => ?_⟩
  exact error?_eq_none_iff.mp (hms.1 f (Form.mem_inOrder.mpr ⟨hf, hbare⟩))

/-! ### Counting instructions -/

theorem sum_instructions_of_compose {f : Form} {ms : List AsmModule} (h : c.compose f = .ok ms) :
    (ms.map AsmModule.instructions).sum = f.combinations := by
  have hsum : (ms.map AsmModule.instructions).sum = (ms.flatMap AsmModule.body).length := by
    rw [List.length_flatMap]
    rfl
  rw [hsum, flatMap_body_of_compose h, List.length_map, f.length_rows]
  rfl

theorem sum_instructions_batch (feature : Feature) {forms : List Form}
    (hforms : ∀ f ∈ forms, f.isBare = true) :
    ((c.batch feature forms).map AsmModule.instructions).sum =
      (forms.map Form.combinations).sum := by
  have hone : ∀ f ∈ forms, f.combinations = 1 := by
    intro f hf
    have hnil : f.templates = [] := List.isEmpty_iff.mp (hforms f hf)
    unfold Form.combinations
    rw [hnil]
    rfl
  have hlength : (forms.map Form.combinations).sum = forms.length := by
    rw [List.map_congr_left hone, List.map_const', List.sum_replicate_nat, Nat.mul_one]
  rw [hlength]
  unfold batch
  split
  · next hnil =>
    rw [List.isEmpty_iff.mp hnil]
    rfl
  · rw [List.map_singleton, List.sum_singleton]
    exact List.length_map _

theorem sum_map_flatMap {α β : Type} (n : β → Nat) (g : α → List β) (xs : List α) :
    ((xs.flatMap g).map n).sum = (xs.map fun x => ((g x).map n).sum).sum := by
  rw [List.map_flatMap, List.flatMap_def, List.sum_flatten, List.map_map]
  rfl

/-- A block has an instruction for each combination of its forms. -/
theorem sum_instructions_block (feature : Feature)
    (h : ∀ f ∈ fs, f.isBare = false → c.compose f = .ok (c.modulesOf f)) :
    ((c.block fs feature).map AsmModule.instructions).sum =
      ((Form.part fs feature).map Form.combinations).sum := by
  have hbare : ∀ f ∈ Form.barePart fs feature, f.isBare = true :=
    fun f hf => List.of_mem_filter hf
  have hoperand : ∀ f ∈ Form.operandPart fs feature,
      ((c.modulesOf f).map AsmModule.instructions).sum = f.combinations := by
    intro f hf
    obtain ⟨hpart, hf⟩ := List.mem_filter.mp hf
    exact sum_instructions_of_compose (h f (List.mem_of_mem_filter hpart) (by simpa using hf))
  unfold block
  rw [List.map_append, List.sum_append, sum_instructions_batch feature hbare, sum_map_flatMap,
    List.map_congr_left hoperand, ← List.sum_append, ← List.map_append]
  exact ((List.filter_append_perm Form.isBare (Form.part fs feature)).map _).sum_eq

/-- The blocks have an instruction for each combination of the selected forms. -/
theorem sum_instructions_blocks
    (h : ∀ f ∈ fs, f.isBare = false → c.compose f = .ok (c.modulesOf f)) :
    ((Feature.all.flatMap (c.block fs)).map AsmModule.instructions).sum =
      (fs.map Form.combinations).sum := by
  rw [sum_map_flatMap, List.map_congr_left fun feature _ => sum_instructions_block feature h,
    ← sum_map_flatMap]
  exact ((Form.flatMap_part_perm fs).map _).sum_eq

/-! ### Generation feature by feature -/

/-- An outcome in which selecting nothing gives no modules. -/
def emptyIfNone : Except GenerationError (List AsmModule) → Except GenerationError (List AsmModule)
  | .error (.nothingSelected _) => .ok []
  | r => r

theorem emptyIfNone_generate : emptyIfNone (c.generate catalog s) =
    settle ((Form.inOrder (catalog.forms.filter s.matches)).findSome? c.error?)
      (Feature.all.flatMap (c.block (catalog.forms.filter s.matches))) := by
  rw [generate_eq]
  split
  · next hnil =>
    rw [hnil]
    rfl
  · cases h : (Form.inOrder (catalog.forms.filter s.matches)).findSome? c.error? with
    | none => rfl
    | some e =>
      obtain ⟨f, -, hf⟩ := List.exists_of_findSome?_eq_some h
      obtain ⟨reason, rfl⟩ := exists_malformed_of_error? hf
      rfl

/-- Narrowing a selection to a feature selects the part of this feature. -/
theorem filter_withFeature (hs : s.feature? = none) (feature : Feature) :
    catalog.forms.filter (s.withFeature feature).matches =
      Form.part (catalog.forms.filter s.matches) feature := by
  unfold Form.part
  rw [List.filter_filter]
  apply List.filter_congr
  intro f _
  unfold Selection.matches Selection.withFeature
  simp [hs]

/-- One feature generates its block, unless one of its forms cannot be composed. -/
theorem emptyIfNone_generate_withFeature (hs : s.feature? = none) (feature : Feature) :
    emptyIfNone (c.generate catalog (s.withFeature feature)) =
      settle ((Form.operandPart (catalog.forms.filter s.matches) feature).findSome? c.error?)
        (c.block (catalog.forms.filter s.matches) feature) := by
  rw [emptyIfNone_generate, filter_withFeature hs]
  unfold Form.inOrder
  rw [List.flatMap_congr fun feature' _ => Form.operandPart_part _ feature feature',
    List.flatMap_congr fun feature' _ => block_part _ feature feature',
    flatMap_ite_eq Feature.nodup_all (Feature.mem_all feature),
    flatMap_ite_eq Feature.nodup_all (Feature.mem_all feature)]

/-- A selection without a feature is generated feature by feature. -/
theorem emptyIfNone_generate_eq_mapM (hs : s.feature? = none) :
    emptyIfNone (c.generate catalog s) =
      (Feature.all.mapM fun feature =>
        emptyIfNone (c.generate catalog (s.withFeature feature))).map List.flatten := by
  rw [emptyIfNone_generate]
  simp only [emptyIfNone_generate_withFeature hs]
  rw [mapM_settle, map_settle, ← List.flatMap_def, ← findSome?_flatMap]
  rfl

theorem infix_flatMap {α β : Type} (g : α → List β) {x : α} {xs : List α} (h : x ∈ xs) :
    g x <:+: xs.flatMap g := by
  rw [List.flatMap_def]
  exact List.infix_of_mem_flatten (List.mem_map_of_mem h)

/-- The modules of a selected form with operands stand in what is generated. -/
theorem infix_of_generate (h : catalog.select s = .ok fs) {ms : List AsmModule}
    (hms : c.generate catalog s = .ok ms) {f : Form} (hf : f ∈ fs) (hbare : f.isBare = false) :
    c.modulesOf f <:+: ms := by
  obtain ⟨rfl, -⟩ := blocks_of_generate h hms
  obtain ⟨feature, hfeature, hpart⟩ := List.mem_flatMap.mp (Form.mem_inOrder.mpr ⟨hf, hbare⟩)
  have hblock : c.modulesOf f <:+: c.block fs feature :=
    (infix_flatMap c.modulesOf hpart).trans (List.suffix_append _ _).isInfix
  exact hblock.trans (infix_flatMap (c.block fs) hfeature)

/-- **Generation agrees with selection and composes.**  Nothing is generated exactly if nothing is
selected.  Else the error is that of the first selected form with operands, feature by feature, that
cannot be composed; and without an error the modules are the blocks of the features, with one
instruction for each combination of each selected form.  A selection without a feature is generated
feature by feature.  A form with operands contributes the same modules to all selections. -/
theorem generation_agrees_with_selection (c : Composer) (catalog : Catalog) (s : Selection) :
    (∀ e, catalog.select s = .error e ↔
      ∃ t, e = .nothingSelected t ∧ c.generate catalog s = .error e) ∧
    (∀ fs, catalog.select s = .ok fs →
      (∀ e, c.generate catalog s = .error e ↔
        ∃ before f after, Form.inOrder fs = before ++ f :: after ∧
          (∀ g ∈ before, ∃ ms, c.compose g = .ok ms) ∧ c.compose f = .error e) ∧
      ∀ ms, c.generate catalog s = .ok ms →
        (ms.map AsmModule.instructions).sum =
          (fs.map fun f => (f.templates.map Template.cardinality).prod).sum ∧
        ms = Feature.all.flatMap (c.block fs)) ∧
    (s.feature? = none →
      emptyIfNone (c.generate catalog s) =
        (Feature.all.mapM fun feature =>
          emptyIfNone (c.generate catalog (s.withFeature feature))).map List.flatten) ∧
    ∀ s' fs fs' ms ms', catalog.select s = .ok fs → catalog.select s' = .ok fs' →
      c.generate catalog s = .ok ms → c.generate catalog s' = .ok ms' →
        ∀ f ∈ fs, f ∈ fs' → f.isBare = false →
          ∃ block, c.compose f = .ok block ∧ block <:+: ms ∧ block <:+: ms' := by
  refine ⟨fun e => select_eq_error_iff, fun fs h => ⟨fun e => generate_eq_error_iff h, ?_⟩,
    emptyIfNone_generate_eq_mapM, ?_⟩
  · intro ms hms
    obtain ⟨rfl, hcompose⟩ := blocks_of_generate h hms
    exact ⟨sum_instructions_blocks hcompose, rfl⟩
  · intro s' fs fs' ms ms' h h' hms hms' f hf hf' hbare
    exact ⟨c.modulesOf f, (blocks_of_generate h hms).2 f hf hbare, infix_of_generate h hms hf hbare,
      infix_of_generate h' hms' hf' hbare⟩

/-- Two tables of one feature with another table between them: the modules of the whole catalog and
of this feature, and a form with too many operands. -/
theorem generation_agrees_on_divided_feature :
    let c := standard
    let base := Selection.everything.withFeature .cpu8086
    let push : Form :=
      { mnemonic := "PUSH", templates := [.register .word], feature := .cpu8086, index := 2 }
    let four : Form :=
      { mnemonic := "MOV", templates := List.replicate 4 (.register .byte), feature := .cpu8086,
        index := 1 }
    (∃ catalog ms ms', Catalog.build [⟨.cpu8086, ["nop"], [("push", ["r16"])]⟩,
        ⟨.fpu8087, [], [("fadd", ["qword"])]⟩, ⟨.cpu8086, ["cbw"], []⟩] = .ok catalog ∧
      c.generate catalog .everything = .ok ms ∧ c.generate catalog base = .ok ms' ∧
      (ms.map AsmModule.instructions).sum = 11 ∧ (ms'.map AsmModule.instructions).sum = 10 ∧
      (Feature.all.mapM fun feature => emptyIfNone
        (c.generate catalog (Selection.everything.withFeature feature))).map List.flatten = .ok ms ∧
      ∃ block, c.compose push = .ok block ∧ block <:+: ms ∧ block <:+: ms') ∧
    ∃ catalog, Catalog.build [⟨.cpu8086, [], [("mov", ["r8", "r8", "r8", "r8"])]⟩] = .ok catalog ∧
      c.generate catalog .everything = .error (.malformed four.title (.tooManyOperands 4)) := by
  intro c base push four
  refine ⟨?_, ?_⟩
  · let nop : Form := { mnemonic := "NOP", templates := [], feature := .cpu8086, index := 1 }
    let fadd : Form :=
      { mnemonic := "FADD", templates := [.direct .qword], feature := .fpu8087, index := 3 }
    let cbw : Form := { mnemonic := "CBW", templates := [], feature := .cpu8086, index := 4 }
    let catalog : Catalog := ⟨[nop, push, fadd, cbw]⟩
    have hall : catalog.select .everything = .ok [nop, push, fadd, cbw] := rfl
    have hbase : catalog.select base = .ok [nop, push, cbw] := rfl
    obtain ⟨ms, hms⟩ : ∃ ms, c.generate catalog .everything = .ok ms := ⟨_, rfl⟩
    obtain ⟨ms', hms'⟩ : ∃ ms', c.generate catalog base = .ok ms' := ⟨_, rfl⟩
    obtain ⟨-, hselect, hparts, hsame⟩ := generation_agrees_with_selection c catalog .everything
    obtain ⟨-, hselect', -, -⟩ := generation_agrees_with_selection c catalog base
    have hsplit := hparts rfl
    rw [hms] at hsplit
    exact ⟨catalog, ms, ms', rfl, hms, hms', ((hselect _ hall).2 ms hms).1,
      ((hselect' _ hbase).2 ms' hms').1, hsplit.symm,
      hsame base _ _ ms ms' hall hbase hms hms' push (by decide) (by decide) rfl⟩
  · obtain ⟨-, hselect, -, -⟩ := generation_agrees_with_selection c ⟨[four]⟩ .everything
    have herror := ((hselect [four] rfl).1 (.malformed four.title (.tooManyOperands 4))).mpr
      ⟨[], four, [], rfl, fun g hg => absurd hg List.not_mem_nil, rfl⟩
    exact ⟨⟨[four]⟩, rfl, herror⟩

end Composer

end AsmPair
