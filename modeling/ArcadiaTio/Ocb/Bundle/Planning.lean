import ArcadiaTio.Ocb.Bundle.Open

/-!
# Planning a read

A plan names the columns of a projection and the row groups that the recorded statistics cannot
rule out.  Pruning is sound: a row group is left out only because of a recorded statistic that
contradicts a predicate, so that no row of it can satisfy the predicates.  The strict planner
refuses to plan without statistics or beyond a cap and otherwise makes the same plan.
-/

namespace ArcadiaTio.Ocb

open ArcadiaTio.Lib

/-! ### Requests -/

/-- The columns that a request is about. -/
inductive ColumnProjection
  | all
  | names (names : List Text)
deriving DecidableEq

/-- Inclusive bounds on one named column. -/
structure RowGroupPredicate where
  column : Text
  lower : Option ColumnPredicateValue
  upper : Option ColumnPredicateValue
deriving DecidableEq

/-- A predicate on a column that is known by its id and type. -/
structure ResolvedRowGroupPredicate where
  columnId : UInt32
  physicalType : ColumnPhysicalType
  lower : Option ColumnPredicateValue
  upper : Option ColumnPredicateValue
deriving DecidableEq

/-- The options of a read; checksums cannot be switched off. -/
structure ColumnBundleReadOptions where
  maxThreads : ℕ
  validateChecksums : Bool
  decodeDictionaries : Bool
deriving DecidableEq

/-- What a caller wants to read. -/
structure ColumnBundleReadRequest where
  projection : ColumnProjection
  predicates : List RowGroupPredicate
  options : ColumnBundleReadOptions
deriving DecidableEq

/-- The bound on selected row groups in strict planning. -/
structure ColumnBundleStrictReadPlanningOptions where
  maxSelectedRowGroups : ℕ
deriving DecidableEq

/-- The counts that a plan comes with. -/
structure ColumnBundleReadReport where
  requestedThreads : ℕ
  effectiveThreads : ℕ
  selectedRowGroups : ℕ
  prunedRowGroups : ℕ
  selectedColumnChunks : ℕ
  fallbackReason : Option String
deriving DecidableEq

/-- The columns and row groups that a read will return. -/
structure ColumnBundleReadPlan where
  projectedColumnIds : List UInt32
  rowGroupIds : List UInt32
  report : ColumnBundleReadReport
deriving DecidableEq

/-- The options ask for what a read does. -/
def validateReadOptions (options : ColumnBundleReadOptions) : Result Unit := do
  failIf (¬ options.validateChecksums)
    (.unimplemented "OCB reads currently always validate checksums")
  failIf options.decodeDictionaries
    (.unimplemented "OCB dictionary value decoding is not implemented yet")

/-- How many threads are worth starting, and why not more. -/
def effectiveThreads (requestedCap selectedRowGroups : ℕ) : ℕ × Option String :=
  if requestedCap ≤ 1 then (1, some "thread_cap_one")
  else if selectedRowGroups ≤ 1 then (1, some "too_few_row_groups")
  else (min requestedCap selectedRowGroups, none)

/-- The report for some counts, with the threads that can be used. -/
def buildReadReport (requestedThreads selectedRowGroups prunedRowGroups selectedColumns : ℕ) :
    ColumnBundleReadReport :=
  let threads := effectiveThreads (max requestedThreads 1) selectedRowGroups
  { requestedThreads, effectiveThreads := threads.1, selectedRowGroups, prunedRowGroups
    selectedColumnChunks := saturatingMul usizeBits selectedRowGroups selectedColumns
    fallbackReason := threads.2 }

/-! ### Names -/

/-- The map of the columns by name, into which the columns were put one after the other. -/
def columnByName (columns : List BundleColumn) (name : Text) : Option BundleColumn :=
  columns.reverse.find? fun column => column.name = name

/-- The columns of a projection by name; `seen` are those before. -/
def resolveNames (columns : List BundleColumn) : List Text → List UInt32 → Result (List UInt32)
  | [], _ => .ok []
  | name :: rest, seen => do
    let column ← okOr (columnByName columns name)
      (ocbInvalidInput "OCB projection references an unknown column")
    failIf (column.id ∈ seen) (ocbInvalidInput "OCB projection contains duplicate columns")
    let selected ← resolveNames columns rest (column.id :: seen)
    return column.id :: selected

/-- The ids of the columns that a projection names. -/
def resolveProjection (columns : List BundleColumn) : ColumnProjection → Result (List UInt32)
  | .all => .ok (columns.map BundleColumn.id)
  | .names names => resolveNames columns names []

/-- A bound has the type of the column. -/
def checkBoundType (column : BundleColumn) (bound : Option ColumnPredicateValue) : Result Unit :=
  failIf (bound.any fun value => value.physicalType ≠ column.physicalType)
    (ocbInvalidInput "OCB predicate bound dtype does not match column dtype")

/-- The lower bound is at most the upper one. -/
def checkBoundOrder : Option ColumnPredicateValue → Option ColumnPredicateValue → Result Unit
  | some lower, some upper => do
    let order ← lower.cmpSameType upper
    failIf (order = .gt) (ocbInvalidInput "OCB predicate lower bound is greater than upper bound")
  | _, _ => .ok ()

/-- Resolve a predicate: its column, the types of its bounds, and their order. -/
def resolvePredicate (columns : List BundleColumn) (predicate : RowGroupPredicate) :
    Result ResolvedRowGroupPredicate := do
  let column ← okOr (columnByName columns predicate.column)
    (ocbInvalidInput "OCB predicate references an unknown column")
  failIf (predicate.lower = none ∧ predicate.upper = none)
    (ocbInvalidInput "OCB predicate must include at least one bound")
  failIf (column.physicalType.ocbPhysicalType = .fixedBinary)
    (ocbInvalidInput "OCB predicates over fixed-binary columns are not supported")
  checkBoundType column predicate.lower
  checkBoundType column predicate.upper
  checkBoundOrder predicate.lower predicate.upper
  return {
    columnId := column.id, physicalType := column.physicalType
    lower := predicate.lower, upper := predicate.upper }

/-- Resolve all predicates of a request. -/
def resolvePredicates (columns : List BundleColumn) (predicates : List RowGroupPredicate) :
    Result (List ResolvedRowGroupPredicate) := predicates.mapM (resolvePredicate columns)

/-! ### Pruning -/

/-- The statistic lies below the lower bound. -/
def belowLower (max : ColumnPredicateValue) : Option ColumnPredicateValue → Result Bool
  | some lower => do
    let order ← max.cmpSameType lower
    return order = .lt
  | none => .ok false

/-- The statistic lies above the upper bound. -/
def aboveUpper (min : ColumnPredicateValue) : Option ColumnPredicateValue → Result Bool
  | some upper => do
    let order ← min.cmpSameType upper
    return order = .gt
  | none => .ok false

/-- Statistics have the type of the predicate they are compared with. -/
def checkStatType (stat : OcbColumnStatsV1) (predicate : ResolvedRowGroupPredicate) :
    Result Unit := do
  let type ← scalarColumnPhysicalType stat.physicalType
  failIf (type ≠ predicate.physicalType)
    (ocbCorruptFile "OCB stat dtype does not match predicate column dtype")

/-- Whether a recorded statistic leaves room for the predicate. -/
def statAdmits (stat : OcbColumnStatsV1) (predicate : ResolvedRowGroupPredicate) :
    Result Bool := do
  checkStatType stat predicate
  let below ← belowLower (.fromStat stat.maxValue) predicate.lower
  if below then return false
  let above ← aboveUpper (.fromStat stat.minValue) predicate.upper
  return !above

/-- The predicates one after the other; one without a statistic is passed over. -/
def matchesPredicates (stats : List (UInt32 × OcbColumnStatsV1)) :
    List ResolvedRowGroupPredicate → Result Bool
  | [] => .ok true
  | predicate :: rest =>
    match stats.lookup predicate.columnId with
    | none => matchesPredicates stats rest
    | some stat => do
      let admits ← statAdmits stat predicate
      if admits then matchesPredicates stats rest else return false

/-- No predicate excludes the row group by its statistics. -/
def rowGroupMatchesPredicates (m : OcbMetadataV1) (rowGroup : OcbRowGroupDescV1)
    (predicates : List ResolvedRowGroupPredicate) : Result Bool := do
  if predicates.isEmpty then return true
  let stats ← statsByColumnForRowGroup m rowGroup
  matchesPredicates stats predicates

/-- The row groups one after the other: the ids of those that match, and how many do not. -/
def selectRowGroups (m : OcbMetadataV1) (predicates : List ResolvedRowGroupPredicate) :
    List OcbRowGroupDescV1 → List UInt32 → ℕ → Result (List UInt32 × ℕ)
  | [], rowGroupIds, pruned => .ok (rowGroupIds, pruned)
  | rowGroup :: rest, rowGroupIds, pruned => do
    let keep ← rowGroupMatchesPredicates m rowGroup predicates
    if keep then selectRowGroups m predicates rest (rowGroupIds ++ [rowGroup.rowGroupId]) pruned
    else selectRowGroups m predicates rest rowGroupIds (pruned + 1)

/-- The statistic of one predicate column, when it is there and of the right type. -/
def requireStat (stats : List (UInt32 × OcbColumnStatsV1)) (predicate : ResolvedRowGroupPredicate) :
    Result Unit := do
  let stat ← okOr (stats.lookup predicate.columnId) (ocbInvalidInput
    "OCB strict read planning requires row-group stats for every predicate column")
  checkStatType stat predicate

/-- Every predicate has statistics in every row group. -/
def requirePredicateStatsAvailable (m : OcbMetadataV1)
    (predicates : List ResolvedRowGroupPredicate) : Result Unit := do
  if predicates.isEmpty then return ()
  forM m.rowGroupIndex.rowGroups fun rowGroup => do
    let stats ← statsByColumnForRowGroup m rowGroup
    forM predicates (requireStat stats)

/-- The plan of the selected columns and row groups, with its report. -/
def readPlan (request : ColumnBundleReadRequest) (selected rowGroupIds : List UInt32)
    (pruned : ℕ) : ColumnBundleReadPlan where
  projectedColumnIds := selected
  rowGroupIds := rowGroupIds
  report := buildReadReport request.options.maxThreads rowGroupIds.length pruned selected.length

namespace ColumnBundleFile

/-- Plan a read: the row groups that no predicate excludes. -/
def planRead (file : ColumnBundleFile) (request : ColumnBundleReadRequest) :
    Result ColumnBundleReadPlan := do
  validateReadOptions request.options
  let selected ← resolveProjection file.columns request.projection
  let predicates ← resolvePredicates file.columns request.predicates
  let (rowGroupIds, pruned) ←
    selectRowGroups file.metadata predicates file.metadata.rowGroupIndex.rowGroups [] 0
  return readPlan request selected rowGroupIds pruned

/-- Plan a read that must have statistics for every predicate and stay within a bound. -/
def planReadStrict (file : ColumnBundleFile) (request : ColumnBundleReadRequest)
    (options : ColumnBundleStrictReadPlanningOptions) : Result ColumnBundleReadPlan := do
  validateReadOptions request.options
  let selected ← resolveProjection file.columns request.projection
  let predicates ← resolvePredicates file.columns request.predicates
  requirePredicateStatsAvailable file.metadata predicates
  let (rowGroupIds, pruned) ←
    selectRowGroups file.metadata predicates file.metadata.rowGroupIndex.rowGroups [] 0
  failIf (rowGroupIds.length > options.maxSelectedRowGroups)
    (ocbInvalidInput "OCB strict read plan selected more row groups than the caller cap")
  return readPlan request selected rowGroupIds pruned

end ColumnBundleFile

/-! ### The order of scalar values -/

namespace ColumnPredicateValue

/-- The place of a value among the numbers of its type; a NaN has none. -/
def key : ColumnPredicateValue → Option ℤ
  | i32 value => some value.toInt
  | i64 value => some value.toInt
  | f32 bits => f32Key bits
  | f64 bits => f64Key bits

lemma partialCmp_eq_some {k l : Option ℤ} {o : Ordering} :
    partialCmp k l = some o ↔ ∃ x y, k = some x ∧ l = some y ∧ compare x y = o := by
  rcases k with _ | x <;> rcases l with _ | y <;> simp [partialCmp]

/-- Values compare when they are numbers of one type, and then as their places do. -/
lemma cmpSameType_eq_ok {a b : ColumnPredicateValue} {o : Ordering} :
    a.cmpSameType b = .ok o ↔ a.physicalType = b.physicalType ∧
      ∃ x y, a.key = some x ∧ b.key = some y ∧ compare x y = o := by
  cases a <;> cases b <;>
    simp [cmpSameType, physicalType, key, okOr_eq_ok, partialCmp_eq_some]

/-- The inclusive order of two numbers of one type, in the sense of IEEE 754 for floats. -/
def Le (a b : ColumnPredicateValue) : Prop := ∃ o, a.cmpSameType b = .ok o ∧ o ≠ .gt

lemma le_iff {a b : ColumnPredicateValue} : a.Le b ↔ a.physicalType = b.physicalType ∧
    ∃ x y, a.key = some x ∧ b.key = some y ∧ x ≤ y := by
  constructor
  · rintro ⟨o, ho, hne⟩
    obtain ⟨htype, x, y, hx, hy, rfl⟩ := cmpSameType_eq_ok.mp ho
    exact ⟨htype, x, y, hx, hy, not_lt.mp fun hlt => hne (compare_gt_iff_gt.mpr hlt)⟩
  · rintro ⟨htype, x, y, hx, hy, hle⟩
    refine ⟨compare x y, cmpSameType_eq_ok.mpr ⟨htype, x, y, hx, hy, rfl⟩, fun hgt => ?_⟩
    exact absurd (compare_gt_iff_gt.mp hgt) (not_lt.mpr hle)

lemma Le.trans {a b c : ColumnPredicateValue} (hab : a.Le b) (hbc : b.Le c) : a.Le c := by
  obtain ⟨htype, x, y, hx, hy, hle⟩ := le_iff.mp hab
  obtain ⟨htype', y', z, hy', hz, hle'⟩ := le_iff.mp hbc
  obtain rfl : y = y' := Option.some.inj (hy.symm.trans hy')
  exact le_iff.mpr ⟨htype.trans htype', x, z, hx, hz, hle.trans hle'⟩

lemma Le.cmp_ne_lt {a b : ColumnPredicateValue} (h : a.Le b) : b.cmpSameType a ≠ .ok .lt := by
  intro hlt
  obtain ⟨-, x, y, hx, hy, hle⟩ := le_iff.mp h
  obtain ⟨-, y', x', hy', hx', hcmp⟩ := cmpSameType_eq_ok.mp hlt
  obtain rfl : x = x' := Option.some.inj (hx.symm.trans hx')
  obtain rfl : y = y' := Option.some.inj (hy.symm.trans hy')
  exact absurd (compare_lt_iff_lt.mp hcmp) (not_lt.mpr hle)

lemma Le.cmp_ne_gt {a b : ColumnPredicateValue} (h : a.Le b) : a.cmpSameType b ≠ .ok .gt := by
  obtain ⟨o, ho, hne⟩ := h
  intro hgt
  exact hne (Except.ok.inj (ho.symm.trans hgt))

end ColumnPredicateValue

/-! ### Rows and predicates -/

/-- The values of a file: by row-group id, column id and row, none for a null. -/
abbrev Cells := UInt32 → UInt32 → ℕ → Option ColumnPredicateValue

/-- The value lies within the bounds of a predicate. -/
def RowGroupPredicate.Admits (predicate : RowGroupPredicate) (value : ColumnPredicateValue) :
    Prop :=
  (∀ lower ∈ predicate.lower, lower.Le value) ∧ ∀ upper ∈ predicate.upper, value.Le upper

/-- A row satisfies all predicates: in each named column it has a value within the bounds. -/
def RowSatisfies (file : ColumnBundleFile) (cells : Cells) (predicates : List RowGroupPredicate)
    (rowGroupId : UInt32) (row : ℕ) : Prop :=
  ∀ predicate ∈ predicates, ∃ column ∈ file.columns, column.name = predicate.column ∧
    ∃ value, cells rowGroupId column.id row = some value ∧ predicate.Admits value

/-- A statistic is recorded for a column of a row group. -/
def Records (m : OcbMetadataV1) (rowGroup : OcbRowGroupDescV1) (stat : OcbColumnStatsV1) : Prop :=
  ∃ stats, statsForRowGroup m rowGroup.statBegin rowGroup.statCount = .ok stats ∧ stat ∈ stats

/-- The recorded statistics bound the values: `min ≤ v ≤ max` for each value that is not null. -/
def StatsBound (m : OcbMetadataV1) (cells : Cells) : Prop :=
  ∀ rowGroup ∈ m.rowGroupIndex.rowGroups, ∀ stat, Records m rowGroup stat →
    ∀ row < rowGroup.rowCount.toNat, ∀ value,
      cells rowGroup.rowGroupId stat.columnId row = some value →
      (ColumnPredicateValue.fromStat stat.minValue).Le value ∧
        value.Le (ColumnPredicateValue.fromStat stat.maxValue)

/-- A predicate rules a row group out: there is a statistic for its column, and the recorded range
lies outside the bounds. -/
def PrunedBy (file : ColumnBundleFile) (rowGroup : OcbRowGroupDescV1)
    (predicate : RowGroupPredicate) : Prop :=
  ∃ column ∈ file.columns, column.name = predicate.column ∧
    ∃ stat, Records file.metadata rowGroup stat ∧ stat.columnId = column.id ∧
      ((∃ lower ∈ predicate.lower,
        (ColumnPredicateValue.fromStat stat.maxValue).cmpSameType lower = .ok .lt) ∨
      ∃ upper ∈ predicate.upper,
        (ColumnPredicateValue.fromStat stat.minValue).cmpSameType upper = .ok .gt)

/-- Every row group has a statistic for every predicate column. -/
def StatsPresent (file : ColumnBundleFile) (predicates : List RowGroupPredicate) : Prop :=
  ∀ rowGroup ∈ file.metadata.rowGroupIndex.rowGroups, ∀ predicate ∈ predicates,
    ∃ column ∈ file.columns, column.name = predicate.column ∧
      ∃ stat, Records file.metadata rowGroup stat ∧ stat.columnId = column.id

/-! ### Names and statistics of an opened file -/

section Lists

variable {α β : Type}

/-- With distinct keys, a list has at most one element of a key. -/
lemma eq_of_nodup_map {f : α → β} {as : List α} (h : (as.map f).Nodup) {a b : α} (ha : a ∈ as)
    (hb : b ∈ as) (heq : f a = f b) : a = b := List.inj_on_of_nodup_map h ha hb heq

/-- With distinct keys, the search for a key finds its only element. -/
lemma find?_eq_some_of_nodup [DecidableEq β] {f : α → β} {as : List α} (h : (as.map f).Nodup)
    {k : β} {a : α} : (as.find? fun a => f a = k) = some a ↔ a ∈ as ∧ f a = k := by
  constructor
  · intro hfind
    exact ⟨List.mem_of_find?_eq_some hfind, by simpa using List.find?_some hfind⟩
  · rintro ⟨ha, rfl⟩
    obtain ⟨b, hb⟩ : ∃ b, (as.find? fun b => f b = f a) = some b :=
      Option.isSome_iff_exists.mp (List.find?_isSome.mpr ⟨a, ha, by simp⟩)
    have hfb : f b = f a := by simpa using List.find?_some hb
    rw [hb, eq_of_nodup_map h (List.mem_of_find?_eq_some hb) ha hfb]

lemma exists_of_forall₂ {R : α → β → Prop} {as : List α} {bs : List β} (h : List.Forall₂ R as bs)
    {b : β} (hb : b ∈ bs) : ∃ a ∈ as, R a b := by
  induction h with
  | nil => exact absurd hb List.not_mem_nil
  | @cons a b' as bs hab _ ih =>
    rcases List.mem_cons.mp hb with rfl | hb
    · exact ⟨a, List.mem_cons_self .., hab⟩
    · obtain ⟨a', ha', hrel⟩ := ih hb
      exact ⟨a', List.mem_cons_of_mem _ ha', hrel⟩

lemma map_eq_map_of_forall₂ {γ : Type} {R : α → β → Prop} {f : α → γ} {g : β → γ} {as : List α}
    {bs : List β} (h : List.Forall₂ R as bs) (hfg : ∀ a b, R a b → f a = g b) :
    as.map f = bs.map g := by
  induction h with
  | nil => rfl
  | cons hab _ ih => rw [List.map_cons, List.map_cons, hfg _ _ hab, ih]

lemma lookup_map_eq_some [BEq β] [LawfulBEq β] {f : α → β} {as : List α} (h : (as.map f).Nodup)
    {k : β} {a : α} : (as.map fun a => (f a, a)).lookup k = some a ↔ a ∈ as ∧ f a = k := by
  induction as with
  | nil => simp
  | cons b as ih =>
    rw [List.map_cons, List.nodup_cons] at h
    rw [List.map_cons, List.lookup_cons]
    by_cases hk : k = f b
    · subst hk
      simp only [beq_self_eq_true, Option.some.injEq, List.mem_cons]
      constructor
      · rintro rfl
        exact ⟨.inl rfl, rfl⟩
      · rintro ⟨rfl | ha, hfa⟩
        · rfl
        · exact absurd (hfa ▸ List.mem_map_of_mem ha) h.1
    · have hne : (k == f b) = false := by simpa using hk
      simp only [hne, ih h.2, List.mem_cons]
      constructor
      · rintro ⟨ha, hfa⟩
        exact ⟨.inr ha, hfa⟩
      · rintro ⟨rfl | ha, hfa⟩
        · exact absurd hfa.symm hk
        · exact ⟨ha, hfa⟩

end Lists

namespace ColumnBundleFile.Opened

variable {file : ColumnBundleFile}

/-- The columns of an opened file have distinct names. -/
lemma nodup_names (h : file.Opened) : (file.columns.map BundleColumn.name).Nodup := by
  obtain ⟨resolved, hperm, hresolved⟩ := h.columns
  obtain ⟨names, hnodup, hnames⟩ := h.invariant.columnNames
  have hvalues : (resolved.map fun column => column.name.value).map some = names.map some := by
    rw [← hnames, List.map_map]
    exact (map_eq_map_of_forall₂ hresolved fun _ _ hcolumn =>
      (resolveColumn_eq_ok hcolumn).2.1).symm
  have hvalue := List.map_injective_iff.mpr (Option.some_injective String) hvalues
  refine (hperm.map _).nodup_iff.mpr (List.Nodup.of_map Text.value ?_)
  rw [List.map_map]
  exact hvalue ▸ hnodup

/-- And they have distinct ids. -/
lemma nodup_columnIds (h : file.Opened) : (file.columns.map BundleColumn.id).Nodup := by
  obtain ⟨resolved, hperm, hresolved⟩ := h.columns
  have hids : resolved.map BundleColumn.id =
      file.metadata.schema.columns.map OcbColumnDescV1.columnId :=
    (map_eq_map_of_forall₂ hresolved fun _ _ hcolumn => (resolveColumn_eq_ok hcolumn).1.symm).symm
  exact (hperm.map BundleColumn.id).nodup_iff.mpr (hids ▸ h.invariant.columnIds)

/-- A resolved column comes from the schema. -/
lemma exists_desc (h : file.Opened) {column : BundleColumn} (hcolumn : column ∈ file.columns) :
    ∃ desc ∈ file.metadata.schema.columns, desc.columnId = column.id ∧
      resolveColumn file.metadata desc = .ok column := by
  obtain ⟨resolved, hperm, hresolved⟩ := h.columns
  obtain ⟨desc, hdesc, hresolve⟩ := exists_of_forall₂ hresolved (hperm.mem_iff.mp hcolumn)
  exact ⟨desc, hdesc, (resolveColumn_eq_ok hresolve).1.symm, hresolve⟩

/-- It has the id and the type of its descriptor. -/
lemma exists_schema (h : file.Opened) {column : BundleColumn} (hcolumn : column ∈ file.columns) :
    ∃ desc ∈ file.metadata.schema.columns, desc.columnId = column.id ∧
      columnPhysicalTypeFromDesc desc = .ok column.physicalType := by
  obtain ⟨desc, hdesc, hid, hresolve⟩ := h.exists_desc hcolumn
  exact ⟨desc, hdesc, hid, (resolveColumn_eq_ok hresolve).2.2⟩

lemma columnByName_eq_some (h : file.Opened) {name : Text} {column : BundleColumn} :
    columnByName file.columns name = some column ↔ column ∈ file.columns ∧ column.name = name := by
  have hnodup : (file.columns.reverse.map BundleColumn.name).Nodup := by
    rw [List.map_reverse]
    exact List.nodup_reverse.mpr h.nodup_names
  rw [columnByName, find?_eq_some_of_nodup hnodup, List.mem_reverse]

/-- Two columns of one name are the same column. -/
lemma eq_of_name (h : file.Opened) {c c' : BundleColumn} (hc : c ∈ file.columns)
    (hc' : c' ∈ file.columns) (heq : c.name = c'.name) : c = c' :=
  eq_of_nodup_map h.nodup_names hc hc' heq

/-- The statistics of a row group can be looked up by column. -/
lemma lookup_stats (h : file.Opened) {rowGroup : OcbRowGroupDescV1}
    (hgroup : rowGroup ∈ file.metadata.rowGroupIndex.rowGroups) :
    ∃ byColumn, statsByColumnForRowGroup file.metadata rowGroup = .ok byColumn ∧
      ∀ columnId stat, byColumn.lookup columnId = some stat ↔
        Records file.metadata rowGroup stat ∧ stat.columnId = columnId := by
  obtain ⟨stats, hstats, hnodup, hbyColumn, -⟩ := h.invariant.stats rowGroup hgroup
  refine ⟨_, hbyColumn, fun columnId stat => ?_⟩
  rw [lookup_map_eq_some hnodup]
  constructor
  · rintro ⟨hmem, rfl⟩
    exact ⟨⟨stats, hstats, hmem⟩, rfl⟩
  · rintro ⟨⟨stats', hstats', hmem⟩, rfl⟩
    obtain rfl : stats = stats' := Except.ok.inj (hstats.symm.trans hstats')
    exact ⟨hmem, rfl⟩

/-- The statistic of a column that is not fixed-binary has the type of the column. -/
lemma checkStatType (h : file.Opened) {rowGroup : OcbRowGroupDescV1}
    (hgroup : rowGroup ∈ file.metadata.rowGroupIndex.rowGroups) {stat : OcbColumnStatsV1}
    (hstat : Records file.metadata rowGroup stat) {column : BundleColumn}
    (hcolumn : column ∈ file.columns) (hid : stat.columnId = column.id)
    (hscalar : column.physicalType.ocbPhysicalType ≠ .fixedBinary)
    {predicate : ResolvedRowGroupPredicate} (htype : predicate.physicalType = column.physicalType) :
    Ocb.checkStatType stat predicate = .ok () := by
  obtain ⟨stats, hstats, -, -, hall⟩ := h.invariant.stats rowGroup hgroup
  obtain ⟨stats', hstats', hmem⟩ := hstat
  obtain rfl : stats = stats' := Except.ok.inj (hstats.symm.trans hstats')
  obtain ⟨-, desc, hdesc, hdescId, hdescType⟩ := hall stat hmem
  obtain ⟨desc', hdesc', hid', hresolve⟩ := h.exists_schema hcolumn
  obtain rfl : desc = desc' := eq_of_nodup_map h.invariant.columnIds hdesc hdesc'
    (hdescId.symm.trans (hid.trans hid'.symm))
  have hscalarType : scalarColumnPhysicalType stat.physicalType = .ok column.physicalType := by
    rw [hdescType]
    rw [columnPhysicalTypeFromDesc] at hresolve
    cases hphysical : desc.physicalType with
    | fixedBinary =>
      simp only [hphysical, bind_eq_ok, pure_eq_ok, Except.ok.injEq] at hresolve
      obtain ⟨-, -, htype⟩ := hresolve
      exact absurd (by rw [← htype]; rfl) hscalar
    | _ =>
      simp only [hphysical, primitiveColumnType, bind_eq_ok, pure_eq_ok, Except.ok.injEq]
        at hresolve
      obtain ⟨-, -, htype⟩ := hresolve
      rw [← htype]
      rfl
  rw [Ocb.checkStatType, hscalarType, ok_bind, failIf_neg (by rw [htype, not_not])]

end ColumnBundleFile.Opened

/-! ### What the planner does -/

/-- What a resolved predicate keeps of the request. -/
structure Resolves (file : ColumnBundleFile) (predicate : RowGroupPredicate)
    (resolved : ResolvedRowGroupPredicate) (column : BundleColumn) : Prop where
  mem : column ∈ file.columns
  name : column.name = predicate.column
  scalar : column.physicalType.ocbPhysicalType ≠ .fixedBinary
  columnId : resolved.columnId = column.id
  physicalType : resolved.physicalType = column.physicalType
  lower : resolved.lower = predicate.lower
  upper : resolved.upper = predicate.upper

section Planner

variable {file : ColumnBundleFile} {request : ColumnBundleReadRequest}

lemma resolves_of_resolvePredicate (h : file.Opened) {predicate : RowGroupPredicate}
    {resolved : ResolvedRowGroupPredicate}
    (hresolve : resolvePredicate file.columns predicate = .ok resolved) :
    ∃ column, Resolves file predicate resolved column := by
  simp only [resolvePredicate, bind_eq_ok, okOr_eq_ok, failIf_eq_ok, pure_eq_ok,
    Except.ok.injEq] at hresolve
  obtain ⟨column, hcolumn, _, -, _, hscalar, _, -, _, -, _, -, rfl⟩ := hresolve
  obtain ⟨hmem, hname⟩ := h.columnByName_eq_some.mp hcolumn
  exact ⟨column, hmem, hname, hscalar, rfl, rfl, rfl, rfl⟩

/-- A statistic that does not admit a predicate lies outside its bounds. -/
lemma statAdmits_eq_false {stat : OcbColumnStatsV1} {predicate : ResolvedRowGroupPredicate}
    (h : statAdmits stat predicate = .ok false) :
    (∃ lower ∈ predicate.lower,
      (ColumnPredicateValue.fromStat stat.maxValue).cmpSameType lower = .ok .lt) ∨
    ∃ upper ∈ predicate.upper,
      (ColumnPredicateValue.fromStat stat.minValue).cmpSameType upper = .ok .gt := by
  obtain ⟨_, -, h⟩ := bind_eq_ok.mp h
  obtain ⟨below, hbelow, h⟩ := bind_eq_ok.mp h
  cases below with
  | true =>
    left
    cases hlower : predicate.lower with
    | none =>
      rw [hlower] at hbelow
      cases hbelow
    | some lower =>
      rw [hlower] at hbelow
      obtain ⟨o, ho, hlt⟩ := bind_eq_ok.mp hbelow
      refine ⟨lower, rfl, ?_⟩
      rw [ho, of_decide_eq_true (Except.ok.inj hlt)]
  | false =>
    right
    obtain ⟨above, habove, hnot⟩ := bind_eq_ok.mp h
    have htrue : above = true := by simpa using hnot
    subst htrue
    cases hupper : predicate.upper with
    | none =>
      rw [hupper] at habove
      cases habove
    | some upper =>
      rw [hupper] at habove
      obtain ⟨o, ho, hgt⟩ := bind_eq_ok.mp habove
      refine ⟨upper, rfl, ?_⟩
      rw [ho, of_decide_eq_true (Except.ok.inj hgt)]

/-- A mismatch is due to one predicate that has a statistic. -/
lemma matchesPredicates_eq_false {stats : List (UInt32 × OcbColumnStatsV1)}
    {predicates : List ResolvedRowGroupPredicate}
    (h : matchesPredicates stats predicates = .ok false) :
    ∃ predicate ∈ predicates, ∃ stat, stats.lookup predicate.columnId = some stat ∧
      statAdmits stat predicate = .ok false := by
  induction predicates with
  | nil => cases h
  | cons predicate rest ih =>
    rw [matchesPredicates] at h
    cases hlookup : stats.lookup predicate.columnId with
    | none =>
      rw [hlookup] at h
      obtain ⟨p, hp, hrest⟩ := ih h
      exact ⟨p, List.mem_cons_of_mem _ hp, hrest⟩
    | some stat =>
      rw [hlookup] at h
      obtain ⟨admits, hadmits, h⟩ := bind_eq_ok.mp h
      cases admits with
      | false => exact ⟨predicate, List.mem_cons_self .., stat, hlookup, hadmits⟩
      | true =>
        obtain ⟨p, hp, hrest⟩ := ih h
        exact ⟨p, List.mem_cons_of_mem _ hp, hrest⟩

/-- A row group that does not match is ruled out by a predicate of the request. -/
lemma prunedBy_of_not_matches (h : file.Opened) {rowGroup : OcbRowGroupDescV1}
    (hgroup : rowGroup ∈ file.metadata.rowGroupIndex.rowGroups)
    {predicates : List RowGroupPredicate} {resolved : List ResolvedRowGroupPredicate}
    (hresolve : resolvePredicates file.columns predicates = .ok resolved)
    (hmatch : rowGroupMatchesPredicates file.metadata rowGroup resolved = .ok false) :
    ∃ predicate ∈ predicates, PrunedBy file rowGroup predicate := by
  rw [rowGroupMatchesPredicates] at hmatch
  split at hmatch
  · cases hmatch
  · obtain ⟨byColumn, hbyColumn, hlookup⟩ := h.lookup_stats hgroup
    rw [hbyColumn, ok_bind] at hmatch
    obtain ⟨r, hr, stat, hstat, hadmits⟩ := matchesPredicates_eq_false hmatch
    obtain ⟨predicate, hpredicate, hresolved⟩ := exists_of_forall₂ (mapM_eq_ok.mp hresolve) hr
    obtain ⟨column, hcolumn⟩ := resolves_of_resolvePredicate h hresolved
    obtain ⟨hrecords, hid⟩ := (hlookup _ _).mp hstat
    refine ⟨predicate, hpredicate, column, hcolumn.mem, hcolumn.name, stat, hrecords,
      hid.trans hcolumn.columnId, ?_⟩
    rw [← hcolumn.lower, ← hcolumn.upper]
    exact statAdmits_eq_false hadmits

/-- The row groups that match, in order, and the number of the others. -/
lemma selectRowGroups_eq_ok {m : OcbMetadataV1} {resolved : List ResolvedRowGroupPredicate}
    {rowGroups : List OcbRowGroupDescV1} {ids ids' : List UInt32} {pruned pruned' : ℕ}
    (h : selectRowGroups m resolved rowGroups ids pruned = .ok (ids', pruned')) :
    ∃ kept : List OcbRowGroupDescV1, ids' = ids ++ kept.map OcbRowGroupDescV1.rowGroupId ∧
      kept.Sublist rowGroups ∧ kept.length + pruned' = rowGroups.length + pruned ∧
      ∀ rowGroup ∈ rowGroups, rowGroup ∈ kept ∨
        rowGroupMatchesPredicates m rowGroup resolved = .ok false := by
  induction rowGroups generalizing ids pruned with
  | nil =>
    cases h
    exact ⟨[], by simp, List.Sublist.slnil, by simp, fun _ hg => absurd hg List.not_mem_nil⟩
  | cons rowGroup rest ih =>
    obtain ⟨keep, hkeep, h⟩ := bind_eq_ok.mp h
    cases keep with
    | true =>
      obtain ⟨kept, hids, hsub, hcount, hall⟩ := ih h
      refine ⟨rowGroup :: kept, ?_, hsub.cons_cons _, ?_, ?_⟩
      · rw [hids, List.map_cons, List.append_assoc]
        rfl
      · rw [List.length_cons, List.length_cons]
        omega
      · intro g hg
        rcases List.mem_cons.mp hg with rfl | hg
        · exact .inl (List.mem_cons_self ..)
        · exact (hall g hg).imp_left (List.mem_cons_of_mem _)
    | false =>
      obtain ⟨kept, hids, hsub, hcount, hall⟩ := ih h
      refine ⟨kept, hids, hsub.cons _, ?_, ?_⟩
      · rw [List.length_cons]
        omega
      · intro g hg
        rcases List.mem_cons.mp hg with rfl | hg
        · exact .inr hkeep
        · exact hall g hg

/-- The parts of a plan. -/
lemma planRead_eq_ok {plan : ColumnBundleReadPlan} (h : file.planRead request = .ok plan) :
    ∃ selected resolved rowGroupIds pruned,
      resolvePredicates file.columns request.predicates = .ok resolved ∧
      selectRowGroups file.metadata resolved file.metadata.rowGroupIndex.rowGroups [] 0 =
        .ok (rowGroupIds, pruned) ∧
      plan = readPlan request selected rowGroupIds pruned := by
  obtain ⟨_, -, h⟩ := bind_eq_ok.mp h
  obtain ⟨selected, -, h⟩ := bind_eq_ok.mp h
  obtain ⟨resolved, hresolved, h⟩ := bind_eq_ok.mp h
  obtain ⟨⟨rowGroupIds, pruned⟩, hselect, h⟩ := bind_eq_ok.mp h
  exact ⟨selected, resolved, rowGroupIds, pruned, hresolved, hselect, (Except.ok.inj h).symm⟩

/-- The strict planner asks for exactly the statistics that the predicates need. -/
lemma requirePredicateStatsAvailable_eq_ok (h : file.Opened)
    {predicates : List RowGroupPredicate} {resolved : List ResolvedRowGroupPredicate}
    (hresolve : resolvePredicates file.columns predicates = .ok resolved) :
    requirePredicateStatsAvailable file.metadata resolved = .ok () ↔
      StatsPresent file predicates := by
  have hforall := mapM_eq_ok.mp hresolve
  rw [requirePredicateStatsAvailable]
  by_cases hempty : resolved.isEmpty
  · have hnil : resolved = [] := List.isEmpty_iff.mp hempty
    subst hnil
    have hnone : predicates = [] := List.forall₂_nil_right_iff.mp hforall
    subst hnone
    exact ⟨fun _ _ _ _ hp => absurd hp List.not_mem_nil, fun _ => rfl⟩
  · simp only [hempty, Bool.false_eq_true, if_false]
    rw [forM_eq_ok]
    refine forall₂_congr fun rowGroup hgroup => ?_
    obtain ⟨byColumn, hbyColumn, hlookup⟩ := h.lookup_stats hgroup
    rw [hbyColumn, ok_bind, forM_eq_ok]
    constructor
    · intro hall predicate hpredicate
      obtain ⟨r, hr, hrel⟩ := exists_of_forall₂ hforall.flip hpredicate
      obtain ⟨column, hcolumn⟩ := resolves_of_resolvePredicate h hrel
      obtain ⟨stat, hstat, -⟩ := bind_eq_ok.mp (hall r hr)
      obtain ⟨hrecords, hid⟩ := (hlookup _ _).mp (okOr_eq_ok.mp hstat)
      exact ⟨column, hcolumn.mem, hcolumn.name, stat, hrecords, hid.trans hcolumn.columnId⟩
    · intro hall r hr
      obtain ⟨predicate, hpredicate, hrel⟩ := exists_of_forall₂ hforall hr
      obtain ⟨column, hcolumn⟩ := resolves_of_resolvePredicate h hrel
      obtain ⟨column', hmem, hname, stat, hrecords, hid⟩ := hall predicate hpredicate
      obtain rfl : column' = column :=
        h.eq_of_name hmem hcolumn.mem (hname.trans hcolumn.name.symm)
      have hfind := (hlookup r.columnId stat).mpr ⟨hrecords, hid.trans hcolumn.columnId.symm⟩
      rw [requireStat, hfind, okOr_some, ok_bind]
      exact h.checkStatType hgroup hrecords hmem hid hcolumn.scalar hcolumn.physicalType

/-- A row group with a row that satisfies all predicates is not ruled out by any of them. -/
lemma not_prunedBy (h : file.Opened) {cells : Cells} (hbound : StatsBound file.metadata cells)
    {rowGroup : OcbRowGroupDescV1} (hgroup : rowGroup ∈ file.metadata.rowGroupIndex.rowGroups)
    {row : ℕ} (hrow : row < rowGroup.rowCount.toNat) {predicates : List RowGroupPredicate}
    (hsatisfies : RowSatisfies file cells predicates rowGroup.rowGroupId row)
    {predicate : RowGroupPredicate} (hpredicate : predicate ∈ predicates) :
    ¬ PrunedBy file rowGroup predicate := by
  rintro ⟨column, hcolumn, hname, stat, hrecords, hid, houtside⟩
  obtain ⟨column', hcolumn', hname', value, hcell, hlower, hupper⟩ :=
    hsatisfies predicate hpredicate
  obtain rfl : column' = column := h.eq_of_name hcolumn' hcolumn (hname'.trans hname.symm)
  rw [← hid] at hcell
  obtain ⟨hmin, hmax⟩ := hbound rowGroup hgroup stat hrecords row hrow value hcell
  rcases houtside with ⟨lower, hmem, hcmp⟩ | ⟨upper, hmem, hcmp⟩
  · exact ((hlower lower hmem).trans hmax).cmp_ne_lt hcmp
  · exact (hmin.trans (hupper upper hmem)).cmp_ne_gt hcmp

end Planner

/-! ### Plans of opened files -/

/-- The plans of an opened file.  A row group with a row that satisfies all predicates is
selected; the selected row groups keep their order, and together with the pruned ones they are all
row groups; a row group is pruned only by a predicate whose column has a recorded statistic that
rules it out.  The strict planner makes the same plan, and makes it exactly when the statistics of
the predicate columns are all there and the plan stays within the cap. -/
theorem planRead_sound_and_strict {source : OcbReadSource} {zstd : ZstdCodec}
    {validation : OcbOpenValidationMode} {limits : OcbResourceLimits} {file : ColumnBundleFile}
    (hopen : ColumnBundleFile.openFromSource source zstd validation limits = .ok file)
    (request : ColumnBundleReadRequest) :
    (∀ plan, file.planRead request = .ok plan →
      (∀ cells, StatsBound file.metadata cells →
        ∀ rowGroup ∈ file.metadata.rowGroupIndex.rowGroups, ∀ row < rowGroup.rowCount.toNat,
          RowSatisfies file cells request.predicates rowGroup.rowGroupId row →
            rowGroup.rowGroupId ∈ plan.rowGroupIds) ∧
      plan.rowGroupIds.Sublist
        (file.metadata.rowGroupIndex.rowGroups.map OcbRowGroupDescV1.rowGroupId) ∧
      plan.report.selectedRowGroups = plan.rowGroupIds.length ∧
      plan.report.selectedRowGroups + plan.report.prunedRowGroups =
        file.metadata.rowGroupIndex.rowGroups.length ∧
      ∀ rowGroup ∈ file.metadata.rowGroupIndex.rowGroups,
        rowGroup.rowGroupId ∉ plan.rowGroupIds →
          ∃ predicate ∈ request.predicates, PrunedBy file rowGroup predicate) ∧
    ∀ options plan, file.planReadStrict request options = .ok plan ↔
      file.planRead request = .ok plan ∧ StatsPresent file request.predicates ∧
        plan.rowGroupIds.length ≤ options.maxSelectedRowGroups := by
  have hopened := ColumnBundleFile.opened_of_openFromSource hopen
  refine ⟨fun plan hplan => ?_, fun options plan => ?_⟩
  · obtain ⟨selected, resolved, rowGroupIds, pruned, hresolved, hselect, rfl⟩ :=
      planRead_eq_ok hplan
    obtain ⟨kept, hids, hsub, hcount, hall⟩ := selectRowGroups_eq_ok hselect
    rw [List.nil_append] at hids
    -- what the selection drops, a predicate on the recorded statistics has dropped
    have hpruned : ∀ rowGroup ∈ file.metadata.rowGroupIndex.rowGroups,
        rowGroup.rowGroupId ∉ rowGroupIds →
          ∃ predicate ∈ request.predicates, PrunedBy file rowGroup predicate := by
      intro rowGroup hgroup hnot
      rcases hall rowGroup hgroup with hkept | hmatch
      · exact absurd (hids ▸ List.mem_map_of_mem hkept) hnot
      · exact prunedBy_of_not_matches hopened hgroup hresolved hmatch
    refine ⟨fun cells hbound rowGroup hgroup row hrow hsatisfies => ?_, ?_, rfl, ?_, hpruned⟩
    · by_contra hnot
      obtain ⟨predicate, hpredicate, hby⟩ := hpruned rowGroup hgroup hnot
      exact not_prunedBy hopened hbound hgroup hrow hsatisfies hpredicate hby
    · rw [readPlan, hids]
      exact hsub.map _
    · have hlength : rowGroupIds.length = kept.length := by rw [hids, List.length_map]
      show rowGroupIds.length + pruned = _
      omega
  · constructor
    · intro hstrict
      obtain ⟨_, hvalid, h⟩ := bind_eq_ok.mp hstrict
      obtain ⟨selected, hselected, h⟩ := bind_eq_ok.mp h
      obtain ⟨resolved, hresolved, h⟩ := bind_eq_ok.mp h
      obtain ⟨_, hstats, h⟩ := bind_eq_ok.mp h
      obtain ⟨⟨rowGroupIds, pruned⟩, hselect, h⟩ := bind_eq_ok.mp h
      obtain ⟨_, hcap, h⟩ := bind_eq_ok.mp h
      refine ⟨?_, (requirePredicateStatsAvailable_eq_ok hopened hresolved).mp hstats, ?_⟩
      · rw [ColumnBundleFile.planRead, hvalid, ok_bind, hselected, ok_bind, hresolved, ok_bind,
          hselect, ok_bind]
        exact h
      · rw [← Except.ok.inj h]
        exact not_lt.mp (failIf_eq_ok.mp hcap)
    · rintro ⟨hplan, hpresent, hcap⟩
      obtain ⟨_, hvalid, h⟩ := bind_eq_ok.mp hplan
      obtain ⟨selected, hselected, h⟩ := bind_eq_ok.mp h
      obtain ⟨resolved, hresolved, h⟩ := bind_eq_ok.mp h
      obtain ⟨⟨rowGroupIds, pruned⟩, hselect, h⟩ := bind_eq_ok.mp h
      have hstats := (requirePredicateStatsAvailable_eq_ok hopened hresolved).mpr hpresent
      rw [← Except.ok.inj h] at hcap
      have hwithin : ¬ rowGroupIds.length > options.maxSelectedRowGroups := not_lt.mpr hcap
      rw [ColumnBundleFile.planReadStrict, hvalid, ok_bind, hselected, ok_bind, hresolved, ok_bind,
        hstats, ok_bind, hselect, ok_bind]
      simp only [failIf_neg hwithin, ok_bind]
      exact h

/-- A request on the column of the small file, whose row group has no statistics. -/
def Sample.request : ColumnBundleReadRequest where
  projection := .all
  predicates := [⟨resolvedColumn.name, some (.i32 0), none⟩]
  options := ⟨1, true, false⟩

/-- The row group of the small file is selected, and the strict planner refuses the request. -/
theorem planRead_sample : ∃ file,
    ColumnBundleFile.openFromSource (Sample.file .i32) (fun _ _ => ⟨[], true⟩) .metadataGraph
      .policyA = .ok file ∧
    (∃ plan, file.planRead Sample.request = .ok plan ∧ plan.rowGroupIds = [0] ∧
      plan.report.selectedRowGroups + plan.report.prunedRowGroups = 1) ∧
    ∀ options plan, file.planReadStrict Sample.request options ≠ .ok plan := by
  obtain ⟨cRoot, cSchema, cStrings, cDictionaries, cIndex, hopen⟩ :=
    Sample.openFromSource .i32 fun _ _ => ⟨[], true⟩
  obtain ⟨hplans, hstrict⟩ := planRead_sound_and_strict hopen Sample.request
  have hplan : (Sample.openedFile .i32 cRoot cSchema cStrings cDictionaries cIndex).planRead
      Sample.request = .ok (readPlan Sample.request [0] [0] 0) := rfl
  obtain ⟨-, -, -, hcount, -⟩ := hplans _ hplan
  refine ⟨_, hopen, ⟨_, hplan, rfl, hcount⟩, fun options plan h => ?_⟩
  obtain ⟨-, hpresent, -⟩ := (hstrict options plan).mp h
  obtain ⟨_, -, -, stat, ⟨stats, hstats, hmem⟩, -⟩ :=
    hpresent Sample.rowGroup List.mem_cons_self _ List.mem_cons_self
  -- the row group has an empty slice of statistics
  cases hstats
  cases hmem

end ArcadiaTio.Ocb
