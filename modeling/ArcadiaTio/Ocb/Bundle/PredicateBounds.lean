import Mathlib.Data.UInt
import ArcadiaTio.Ocb.Bundle.Describable
import ArcadiaTio.Ocb.Bundle.Image

/-!
# Bounds that are not numbers

A bound of a predicate may be a NaN.  The planner has no check of its own for it: it notices a NaN
where it compares two values, that is when the predicate has both bounds, or when a row group that
no predicate has ruled out before has a statistic for the column.  So a request with a NaN bound is
refused exactly when one of these comparisons takes place.
-/

namespace ArcadiaTio.Ocb

open ArcadiaTio.Lib

/-! ### Requests from ordering-key ranges -/

/-- Inclusive bounds on one declared ordering key. -/
structure ColumnBundleOrderingKeyRange where
  keyIndex : ℕ
  lower : Option ColumnPredicateValue
  upper : Option ColumnPredicateValue
deriving DecidableEq

/-- A bound of an ordering range has the type of the key. -/
def checkRangeBoundType (column : BundleColumn) (bound : Option ColumnPredicateValue) :
    Result Unit :=
  failIf (bound.any fun value => value.physicalType ≠ column.physicalType)
    (ocbInvalidInput "OCB ordering range bound dtype does not match ordering column dtype")

/-- The lower bound of an ordering range is at most the upper one. -/
def checkRangeOrder : Option ColumnPredicateValue → Option ColumnPredicateValue → Result Unit
  | some lower, some upper => do
    let order ← lower.cmpSameType upper
    failIf (order = .gt)
      (ocbInvalidInput "OCB ordering range lower bound is greater than upper bound")
  | _, _ => .ok ()

/-- The predicate on the column of an ordering key. -/
def orderingRangePredicate (metadata : ColumnBundleMetadata)
    (range : ColumnBundleOrderingKeyRange) : Result RowGroupPredicate := do
  failIf (range.lower = none ∧ range.upper = none)
    (ocbInvalidInput "OCB ordering range bound must include at least one side")
  let key ← okOr metadata.orderingKeys[range.keyIndex]?
    (ocbInvalidInput "OCB ordering range references an unknown ordering key")
  let column ← okOr (metadata.columns.find? fun column => column.id = key.columnId)
    (ocbCorruptFile "OCB ordering key column is missing from metadata")
  failIf (column.physicalType.ocbPhysicalType = .fixedBinary)
    (ocbInvalidInput "OCB ordering range over fixed-binary columns is not supported")
  checkRangeBoundType column range.lower
  checkRangeBoundType column range.upper
  checkRangeOrder range.lower range.upper
  return { column := key.columnName, lower := range.lower, upper := range.upper }

/-- The predicates of the ranges one after the other; `seen` are the keys before. -/
def orderingRangePredicates (metadata : ColumnBundleMetadata) :
    List ColumnBundleOrderingKeyRange → List ℕ → Result (List RowGroupPredicate)
  | [], _ => .ok []
  | range :: rest, seen => do
    failIf (range.keyIndex ∈ seen)
      (ocbInvalidInput "OCB ordering range request contains duplicate key indexes")
    let predicate ← orderingRangePredicate metadata range
    let predicates ← orderingRangePredicates metadata rest (range.keyIndex :: seen)
    return predicate :: predicates

/-- Build a request from bounds on declared ordering keys. -/
def ColumnBundleReadRequest.fromOrderingKeyRanges (metadata : ColumnBundleMetadata)
    (projection : ColumnProjection) (ranges : List ColumnBundleOrderingKeyRange)
    (options : ColumnBundleReadOptions) : Result ColumnBundleReadRequest := do
  failIf (ranges = [])
    (ocbInvalidInput "OCB ordering range request requires at least one bound")
  let predicates ← orderingRangePredicates metadata
    (ranges.mergeSort fun a b => a.keyIndex ≤ b.keyIndex) []
  return { projection, predicates, options }

/-! ### NaNs -/

namespace ColumnPredicateValue

/-- The value is a floating-point NaN. -/
def IsNan (value : ColumnPredicateValue) : Prop := value.key = none

/-- Two values compare when they are numbers of one type. -/
lemma isOk_cmpSameType {a b : ColumnPredicateValue} :
    IsOk (a.cmpSameType b) ↔ a.physicalType = b.physicalType ∧ ¬ a.IsNan ∧ ¬ b.IsNan := by
  constructor
  · rintro ⟨o, ho⟩
    obtain ⟨htype, x, y, hx, hy, -⟩ := cmpSameType_eq_ok.mp ho
    refine ⟨htype, ?_, ?_⟩
    · rw [IsNan, hx]
      rintro ⟨⟩
    · rw [IsNan, hy]
      rintro ⟨⟩
  · rintro ⟨htype, ha, hb⟩
    obtain ⟨x, hx⟩ := Option.ne_none_iff_exists'.mp ha
    obtain ⟨y, hy⟩ := Option.ne_none_iff_exists'.mp hb
    exact ⟨compare x y, cmpSameType_eq_ok.mpr ⟨htype, x, y, hx, hy, rfl⟩⟩

/-- Values that do not compare are the fault of the request. -/
lemma errorsIn_cmpSameType (a b : ColumnPredicateValue) :
    ErrorsIn ArcadiaTioError.IsInvalidInput (a.cmpSameType b) := by
  cases a <;> cases b <;>
    first
    | exact .ok _
    | exact .okOr rfl
    | exact .error rfl

end ColumnPredicateValue

/-- A bound of the predicate is a NaN. -/
def RowGroupPredicate.HasNan (predicate : RowGroupPredicate) : Prop :=
  (∃ lower ∈ predicate.lower, lower.IsNan) ∨ ∃ upper ∈ predicate.upper, upper.IsNan

/-- A bound of the range is a NaN. -/
def ColumnBundleOrderingKeyRange.HasNan (range : ColumnBundleOrderingKeyRange) : Prop :=
  (∃ lower ∈ range.lower, lower.IsNan) ∨ ∃ upper ∈ range.upper, upper.IsNan

/-! ### What the planner refuses -/

/-- The options that are implemented. -/
structure ColumnBundleReadOptions.Supported (options : ColumnBundleReadOptions) : Prop where
  checksums : options.validateChecksums = true
  dictionaries : options.decodeDictionaries = false

/-- A predicate that makes sense of itself: it bounds a known column of numbers by values of its
type, and two bounds are numbers in order. -/
structure RowGroupPredicate.Resolvable (predicate : RowGroupPredicate) (column : BundleColumn) :
    Prop where
  name : column.name = predicate.column
  bounded : ¬ (predicate.lower = none ∧ predicate.upper = none)
  scalar : column.physicalType.ocbPhysicalType ≠ .fixedBinary
  lower : ∀ value ∈ predicate.lower, value.physicalType = column.physicalType
  upper : ∀ value ∈ predicate.upper, value.physicalType = column.physicalType
  order : ∀ lower ∈ predicate.lower, ∀ upper ∈ predicate.upper, lower.Le upper

/-- A recorded statistic does not compare with the bounds of a predicate: not with the lower one,
or it is not ruled out by the lower one and does not compare with the upper one. -/
def RowGroupPredicate.FailsToCompare (predicate : RowGroupPredicate) (stat : OcbColumnStatsV1) :
    Prop :=
  (∃ lower ∈ predicate.lower,
    ¬ IsOk ((ColumnPredicateValue.fromStat stat.maxValue).cmpSameType lower)) ∨
  (∀ lower ∈ predicate.lower,
    (ColumnPredicateValue.fromStat stat.maxValue).cmpSameType lower ≠ .ok .lt) ∧
  ∃ upper ∈ predicate.upper,
    ¬ IsOk ((ColumnPredicateValue.fromStat stat.minValue).cmpSameType upper)

section Refusals

variable (file : ColumnBundleFile) (rowGroup : OcbRowGroupDescV1)

/-- The row group has a statistic for the column of a predicate, and the two do not compare. -/
def RowGroupPredicate.Unordered (predicate : RowGroupPredicate) : Prop :=
  ∃ column ∈ file.columns, column.name = predicate.column ∧
    ∃ stat, Records file.metadata rowGroup stat ∧ stat.columnId = column.id ∧
      predicate.FailsToCompare stat

/-- Going through the predicates until one of them rules the row group out, the planner comes to
one that does not compare. -/
def MeetsUnordered : List RowGroupPredicate → Prop
  | [] => False
  | predicate :: rest => predicate.Unordered file rowGroup ∨
      ¬ PrunedBy file rowGroup predicate ∧ MeetsUnordered rest

/-- A request that nothing is wrong with, as far as the planner looks. -/
structure ColumnBundleReadRequest.Plannable (request : ColumnBundleReadRequest) : Prop where
  projection : IsOk (resolveProjection file.columns request.projection)
  predicates : ∀ predicate ∈ request.predicates, ∃ column ∈ file.columns,
    predicate.Resolvable column
  compared : ∀ rowGroup ∈ file.metadata.rowGroupIndex.rowGroups,
    ¬ MeetsUnordered file rowGroup request.predicates

end Refusals

section Planner

variable {file : ColumnBundleFile} {request : ColumnBundleReadRequest}
  {rowGroup : OcbRowGroupDescV1}

lemma validateReadOptions_eq_ok {options : ColumnBundleReadOptions} :
    validateReadOptions options = .ok () ↔ options.Supported := by
  simp only [validateReadOptions, bind_eq_ok, failIf_eq_ok, not_not]
  constructor
  · rintro ⟨_, hchecksums, hdictionaries⟩
    exact ⟨hchecksums, by simpa using hdictionaries⟩
  · rintro ⟨hchecksums, hdictionaries⟩
    exact ⟨(), hchecksums, by simp [hdictionaries]⟩

/-- Options that are not implemented are no invalid input. -/
lemma not_invalid_validateReadOptions (options : ColumnBundleReadOptions) :
    ErrorsIn (fun e => ¬ e.IsInvalidInput) (validateReadOptions options) :=
  (ErrorsIn.failIf fun _ h => by cases h).bind fun _ _ => .failIf fun _ h => by cases h

lemma errorsIn_okOr_invalid {α : Type} (o : Option α) (message : String) :
    ErrorsIn ArcadiaTioError.IsInvalidInput (okOr o (ocbInvalidInput message)) :=
  .okOr (ArcadiaTioError.isInvalidInput_ocbInvalidInput message)

lemma errorsIn_failIf_invalid (c : Prop) [Decidable c] (message : String) :
    ErrorsIn ArcadiaTioError.IsInvalidInput (failIf c (ocbInvalidInput message)) :=
  .failIf fun _ => ArcadiaTioError.isInvalidInput_ocbInvalidInput message

lemma errorsIn_resolveProjection (columns : List BundleColumn) (projection : ColumnProjection) :
    ErrorsIn ArcadiaTioError.IsInvalidInput (resolveProjection columns projection) := by
  cases projection with
  | all => exact .ok _
  | names names =>
    show ErrorsIn _ (resolveNames columns names [])
    generalize ([] : List UInt32) = seen
    induction names generalizing seen with
    | nil => exact .ok _
    | cons name rest ih =>
      exact (errorsIn_okOr_invalid _ _).bind fun _ _ =>
        (errorsIn_failIf_invalid _ _).bind fun _ _ => (ih _).bind fun _ _ => .ok _

lemma errorsIn_checkBoundOrder (lower upper : Option ColumnPredicateValue) :
    ErrorsIn ArcadiaTioError.IsInvalidInput (checkBoundOrder lower upper) := by
  rcases lower with _ | lower <;> rcases upper with _ | upper
  · exact .ok _
  · exact .ok _
  · exact .ok _
  · exact (lower.errorsIn_cmpSameType upper).bind fun _ _ => .failIf fun _ => rfl

lemma errorsIn_resolvePredicate (columns : List BundleColumn) (predicate : RowGroupPredicate) :
    ErrorsIn ArcadiaTioError.IsInvalidInput (resolvePredicate columns predicate) :=
  (errorsIn_okOr_invalid _ _).bind fun _ _ => (errorsIn_failIf_invalid _ _).bind fun _ _ =>
    (errorsIn_failIf_invalid _ _).bind fun _ _ => (errorsIn_failIf_invalid _ _).bind fun _ _ =>
      (errorsIn_failIf_invalid _ _).bind fun _ _ =>
        (errorsIn_checkBoundOrder _ _).bind fun _ _ => .ok _

lemma checkBoundOrder_eq_ok {lower upper : Option ColumnPredicateValue} {u : Unit} :
    checkBoundOrder lower upper = .ok u ↔ ∀ l ∈ lower, ∀ v ∈ upper, l.Le v := by
  rcases lower with _ | lower
  · simp [checkBoundOrder]
  rcases upper with _ | upper
  · simp [checkBoundOrder]
  simp only [checkBoundOrder, bind_eq_ok, failIf_eq_ok, Option.mem_some_iff, forall_eq']
  rfl

lemma checkBoundType_eq_ok {column : BundleColumn} {bound : Option ColumnPredicateValue}
    {u : Unit} : checkBoundType column bound = .ok u ↔
      ∀ value ∈ bound, value.physicalType = column.physicalType := by
  rw [checkBoundType, failIf_eq_ok]
  cases bound <;> simp

/-- The predicates that are resolved are those that make sense. -/
lemma isOk_resolvePredicate (h : file.Opened) {predicate : RowGroupPredicate} :
    IsOk (resolvePredicate file.columns predicate) ↔
      ∃ column ∈ file.columns, predicate.Resolvable column := by
  constructor
  · rintro ⟨resolved, hresolve⟩
    simp only [resolvePredicate, bind_eq_ok, okOr_eq_ok, failIf_eq_ok] at hresolve
    obtain ⟨column, hcolumn, _, hbounded, _, hscalar, _, hlower, _, hupper, _, horder, -⟩ :=
      hresolve
    obtain ⟨hmem, hname⟩ := h.columnByName_eq_some.mp hcolumn
    exact ⟨column, hmem, hname, hbounded, hscalar, checkBoundType_eq_ok.mp hlower,
      checkBoundType_eq_ok.mp hupper, checkBoundOrder_eq_ok.mp horder⟩
  · rintro ⟨column, hmem, hresolvable⟩
    have hcolumn := h.columnByName_eq_some.mpr ⟨hmem, hresolvable.name⟩
    rw [resolvePredicate, hcolumn, okOr_some, ok_bind, failIf_neg hresolvable.bounded, ok_bind,
      failIf_neg hresolvable.scalar, ok_bind,
      checkBoundType_eq_ok (u := ()).mpr hresolvable.lower, ok_bind,
      checkBoundType_eq_ok (u := ()).mpr hresolvable.upper, ok_bind,
      checkBoundOrder_eq_ok (u := ()).mpr hresolvable.order, ok_bind]
    exact ⟨_, rfl⟩

/-! ### Comparing with a statistic -/

lemma isOk_belowLower {max : ColumnPredicateValue} {lower : Option ColumnPredicateValue} :
    IsOk (belowLower max lower) ↔ ∀ value ∈ lower, IsOk (max.cmpSameType value) := by
  cases lower with
  | none => simp [belowLower]
  | some lower =>
    simp only [belowLower, isOk_bind, Option.mem_some_iff, forall_eq']
    exact ⟨fun ⟨o, ho, _⟩ => ⟨o, ho⟩, fun ⟨o, ho⟩ => ⟨o, ho, isOk_ok⟩⟩

lemma isOk_aboveUpper {min : ColumnPredicateValue} {upper : Option ColumnPredicateValue} :
    IsOk (aboveUpper min upper) ↔ ∀ value ∈ upper, IsOk (min.cmpSameType value) := by
  cases upper with
  | none => simp [aboveUpper]
  | some upper =>
    simp only [aboveUpper, isOk_bind, Option.mem_some_iff, forall_eq']
    exact ⟨fun ⟨o, ho, _⟩ => ⟨o, ho⟩, fun ⟨o, ho⟩ => ⟨o, ho, isOk_ok⟩⟩

lemma belowLower_eq_true {max : ColumnPredicateValue} {lower : Option ColumnPredicateValue} :
    belowLower max lower = .ok true ↔ ∃ value ∈ lower, max.cmpSameType value = .ok .lt := by
  cases lower with
  | none => simp [belowLower]
  | some lower => simp [belowLower, bind_eq_ok]

lemma aboveUpper_eq_true {min : ColumnPredicateValue} {upper : Option ColumnPredicateValue} :
    aboveUpper min upper = .ok true ↔ ∃ value ∈ upper, min.cmpSameType value = .ok .gt := by
  cases upper with
  | none => simp [aboveUpper]
  | some upper => simp [aboveUpper, bind_eq_ok]

section Statistic

variable {predicate : RowGroupPredicate} {resolved : ResolvedRowGroupPredicate}
  {stat : OcbColumnStatsV1} (hlower : resolved.lower = predicate.lower)
  (hupper : resolved.upper = predicate.upper) (hvalid : checkStatType stat resolved = .ok ())

include hlower hupper hvalid

/-- A statistic of the right type leaves the planner without an answer when it does not compare. -/
lemma isOk_statAdmits : IsOk (statAdmits stat resolved) ↔ ¬ predicate.FailsToCompare stat := by
  rw [statAdmits, hvalid, ok_bind, hlower, hupper, RowGroupPredicate.FailsToCompare]
  cases hbelow : belowLower (.fromStat stat.maxValue) predicate.lower with
  | error error =>
    have hfails : ¬ IsOk (belowLower (.fromStat stat.maxValue) predicate.lower) := by
      rw [hbelow]
      exact not_isOk_error
    rw [isOk_belowLower] at hfails
    push Not at hfails
    rw [error_bind]
    exact iff_of_false not_isOk_error (not_not.mpr (Or.inl hfails))
  | ok below =>
    have hlowerOk := isOk_belowLower.mp ⟨below, hbelow⟩
    have hfirst : ¬ ∃ lower ∈ predicate.lower,
        ¬ IsOk ((ColumnPredicateValue.fromStat stat.maxValue).cmpSameType lower) := by
      push Not
      exact hlowerOk
    rw [ok_bind, or_iff_right hfirst]
    cases below with
    | true =>
      obtain ⟨lower, hmem, hlt⟩ := belowLower_eq_true.mp hbelow
      exact iff_of_true isOk_ok fun hcompare => hcompare.1 lower hmem hlt
    | false =>
      have hnot : ∀ lower ∈ predicate.lower,
          (ColumnPredicateValue.fromStat stat.maxValue).cmpSameType lower ≠ .ok .lt := by
        intro lower hmem hlt
        have htrue := belowLower_eq_true.mpr ⟨lower, hmem, hlt⟩
        rw [hbelow] at htrue
        cases htrue
      simp only [Bool.false_eq_true, if_false, isOk_bind, isOk_ok, pure_eq_ok, and_true]
      rw [and_iff_right hnot]
      push Not
      exact isOk_aboveUpper

/-- A statistic that admits a predicate does not rule it out. -/
lemma not_outside_of_statAdmits (h : statAdmits stat resolved = .ok true) :
    ¬ ((∃ lower ∈ predicate.lower,
      (ColumnPredicateValue.fromStat stat.maxValue).cmpSameType lower = .ok .lt) ∨
    ∃ upper ∈ predicate.upper,
      (ColumnPredicateValue.fromStat stat.minValue).cmpSameType upper = .ok .gt) := by
  rw [statAdmits, hvalid, ok_bind, hlower, hupper] at h
  obtain ⟨below, hbelow, h⟩ := bind_eq_ok.mp h
  cases below with
  | true => cases h
  | false =>
    obtain ⟨above, habove, h⟩ := bind_eq_ok.mp h
    have hfalse : above = false := by simpa using h
    subst hfalse
    rw [← belowLower_eq_true, ← aboveUpper_eq_true, hbelow, habove]
    simp

end Statistic

/-! ### Going through the predicates -/

/-- A row group is compared with the predicates unless one of them does not compare. -/
lemma isOk_matchesPredicates (h : file.Opened)
    (hgroup : rowGroup ∈ file.metadata.rowGroupIndex.rowGroups)
    {stats : List (UInt32 × OcbColumnStatsV1)}
    (hlookup : ∀ columnId stat, stats.lookup columnId = some stat ↔
      Records file.metadata rowGroup stat ∧ stat.columnId = columnId)
    {predicates : List RowGroupPredicate} {resolved : List ResolvedRowGroupPredicate}
    (hresolve : List.Forall₂ (fun p r => ∃ column, Resolves file p r column) predicates resolved) :
    IsOk (matchesPredicates stats resolved) ↔ ¬ MeetsUnordered file rowGroup predicates := by
  induction hresolve with
  | nil => exact iff_of_true isOk_ok not_false
  | @cons predicate r predicates resolved hr _ ih =>
    obtain ⟨column, hr⟩ := hr
    rw [matchesPredicates, MeetsUnordered]
    cases hstat : stats.lookup r.columnId with
    | none =>
      have hnone : ∀ c ∈ file.columns, c.name = predicate.column → ∀ stat,
          Records file.metadata rowGroup stat → stat.columnId ≠ c.id := by
        intro c hc hname stat hrecords hid
        obtain rfl : c = column := h.eq_of_name hc hr.mem (hname.trans hr.name.symm)
        rw [(hlookup _ _).mpr ⟨hrecords, hid.trans hr.columnId.symm⟩] at hstat
        cases hstat
      have hunordered : ¬ predicate.Unordered file rowGroup := by
        rintro ⟨c, hc, hname, stat, hrecords, hid, -⟩
        exact hnone c hc hname stat hrecords hid
      have hpruned : ¬ PrunedBy file rowGroup predicate := by
        rintro ⟨c, hc, hname, stat, hrecords, hid, -⟩
        exact hnone c hc hname stat hrecords hid
      rw [or_iff_right hunordered, and_iff_right hpruned]
      exact ih
    | some stat =>
      obtain ⟨hrecords, hid⟩ := (hlookup _ _).mp hstat
      have hvalid := h.checkStatType hgroup hrecords hr.mem (hid.trans hr.columnId) hr.scalar
        hr.physicalType
      -- the statistic is the only one for the column of the predicate
      have honly : ∀ c ∈ file.columns, c.name = predicate.column → ∀ stat',
          Records file.metadata rowGroup stat' → stat'.columnId = c.id → stat' = stat := by
        intro c hc hname stat' hrecords' hid'
        obtain rfl : c = column := h.eq_of_name hc hr.mem (hname.trans hr.name.symm)
        have hstat' := (hlookup _ _).mpr ⟨hrecords', hid'.trans hr.columnId.symm⟩
        exact Option.some.inj (hstat'.symm.trans hstat)
      have hunordered : predicate.Unordered file rowGroup ↔ predicate.FailsToCompare stat := by
        constructor
        · rintro ⟨c, hc, hname, stat', hrecords', hid', hfails⟩
          exact honly c hc hname stat' hrecords' hid' ▸ hfails
        · intro hfails
          exact ⟨column, hr.mem, hr.name, stat, hrecords, hid.trans hr.columnId, hfails⟩
      have hcompare := isOk_statAdmits hr.lower hr.upper hvalid
      dsimp only
      cases hadmits : statAdmits stat r with
      | error error =>
        rw [hadmits] at hcompare
        have hfails := not_not.mp fun hnot => not_isOk_error (hcompare.mpr hnot)
        exact iff_of_false not_isOk_error (not_not.mpr (Or.inl (hunordered.mpr hfails)))
      | ok admits =>
        have hok := hcompare.mp ⟨admits, hadmits⟩
        rw [ok_bind, hunordered, or_iff_right hok]
        cases admits with
        | false =>
          have houtside := statAdmits_eq_false hadmits
          rw [hr.lower, hr.upper] at houtside
          have hpruned : PrunedBy file rowGroup predicate :=
            ⟨column, hr.mem, hr.name, stat, hrecords, hid.trans hr.columnId, houtside⟩
          exact iff_of_true isOk_ok fun hnot => hnot.1 hpruned
        | true =>
          have hinside := not_outside_of_statAdmits hr.lower hr.upper hvalid hadmits
          have hpruned : ¬ PrunedBy file rowGroup predicate := by
            rintro ⟨c, hc, hname, stat', hrecords', hid', houtside⟩
            exact hinside (honly c hc hname stat' hrecords' hid' ▸ houtside)
          rw [and_iff_right hpruned]
          exact ih

/-- The errors of going through the predicates are those of comparisons. -/
lemma errorsIn_matchesPredicates (h : file.Opened)
    (hgroup : rowGroup ∈ file.metadata.rowGroupIndex.rowGroups)
    {stats : List (UInt32 × OcbColumnStatsV1)}
    (hlookup : ∀ columnId stat, stats.lookup columnId = some stat ↔
      Records file.metadata rowGroup stat ∧ stat.columnId = columnId)
    {predicates : List RowGroupPredicate} {resolved : List ResolvedRowGroupPredicate}
    (hresolve : List.Forall₂ (fun p r => ∃ column, Resolves file p r column) predicates resolved) :
    ErrorsIn ArcadiaTioError.IsInvalidInput (matchesPredicates stats resolved) := by
  induction hresolve with
  | nil => exact .ok _
  | @cons predicate r predicates resolved hr _ ih =>
    obtain ⟨column, hr⟩ := hr
    rw [matchesPredicates]
    cases hstat : stats.lookup r.columnId with
    | none => exact ih
    | some stat =>
      obtain ⟨hrecords, hid⟩ := (hlookup _ _).mp hstat
      have hvalid := h.checkStatType hgroup hrecords hr.mem (hid.trans hr.columnId) hr.scalar
        hr.physicalType
      have hbelow : ErrorsIn ArcadiaTioError.IsInvalidInput
          (belowLower (.fromStat stat.maxValue) r.lower) := by
        cases r.lower with
        | none => exact .ok _
        | some lower => exact (ColumnPredicateValue.errorsIn_cmpSameType _ _).bind fun _ _ => .ok _
      have habove : ErrorsIn ArcadiaTioError.IsInvalidInput
          (aboveUpper (.fromStat stat.minValue) r.upper) := by
        cases r.upper with
        | none => exact .ok _
        | some upper => exact (ColumnPredicateValue.errorsIn_cmpSameType _ _).bind fun _ _ => .ok _
      refine .bind ?_ fun admits _ => ?_
      · rw [statAdmits, hvalid, ok_bind]
        refine hbelow.bind fun below _ => ?_
        cases below with
        | true => exact .ok _
        | false => exact habove.bind fun _ _ => .ok _
      · cases admits with
        | true => exact ih
        | false => exact .ok _

/-- A row group is kept only when its statistics admit every predicate. -/
lemma admits_of_matches {stats : List (UInt32 × OcbColumnStatsV1)}
    {resolved : List ResolvedRowGroupPredicate} {r : ResolvedRowGroupPredicate}
    (hr : r ∈ resolved) {stat : OcbColumnStatsV1} (hstat : stats.lookup r.columnId = some stat)
    (hkept : matchesPredicates stats resolved = .ok true) : statAdmits stat r = .ok true := by
  induction resolved with
  | nil => exact absurd hr List.not_mem_nil
  | cons first rest ih =>
    rw [matchesPredicates] at hkept
    rcases List.mem_cons.mp hr with rfl | hr
    · rw [hstat] at hkept
      obtain ⟨admits, hadmits, hkept⟩ := bind_eq_ok.mp hkept
      cases admits with
      | false => cases hkept
      | true => exact hadmits
    · cases hfirst : stats.lookup first.columnId with
      | none =>
        rw [hfirst] at hkept
        exact ih hr hkept
      | some stat' =>
        rw [hfirst] at hkept
        obtain ⟨admits, -, hkept⟩ := bind_eq_ok.mp hkept
        cases admits with
        | false => cases hkept
        | true => exact ih hr hkept

/-! ### Going through the row groups -/

lemma isOk_selectRowGroups {m : OcbMetadataV1} {resolved : List ResolvedRowGroupPredicate}
    {rowGroups : List OcbRowGroupDescV1} {ids : List UInt32} {pruned : ℕ} :
    IsOk (selectRowGroups m resolved rowGroups ids pruned) ↔
      ∀ rowGroup ∈ rowGroups, IsOk (rowGroupMatchesPredicates m rowGroup resolved) := by
  induction rowGroups generalizing ids pruned with
  | nil => simp [selectRowGroups]
  | cons rowGroup rest ih =>
    rw [selectRowGroups, isOk_bind, List.forall_mem_cons]
    constructor
    · rintro ⟨keep, hkeep, hrest⟩
      refine ⟨⟨keep, hkeep⟩, ?_⟩
      cases keep <;> exact ih.mp hrest
    · rintro ⟨⟨keep, hkeep⟩, hrest⟩
      refine ⟨keep, hkeep, ?_⟩
      cases keep <;> exact ih.mpr hrest

lemma errorsIn_selectRowGroups {P : ArcadiaTioError → Prop} {m : OcbMetadataV1}
    {resolved : List ResolvedRowGroupPredicate} {rowGroups : List OcbRowGroupDescV1}
    {ids : List UInt32} {pruned : ℕ}
    (h : ∀ rowGroup ∈ rowGroups, ErrorsIn P (rowGroupMatchesPredicates m rowGroup resolved)) :
    ErrorsIn P (selectRowGroups m resolved rowGroups ids pruned) := by
  induction rowGroups generalizing ids pruned with
  | nil => exact .ok _
  | cons rowGroup rest ih =>
    rw [List.forall_mem_cons] at h
    refine h.1.bind fun keep _ => ?_
    cases keep <;> exact ih h.2

/-- When every row group is ruled out, none is selected. -/
lemma selectRowGroups_of_ruledOut {m : OcbMetadataV1} {resolved : List ResolvedRowGroupPredicate}
    {rowGroups : List OcbRowGroupDescV1} {ids : List UInt32} {pruned : ℕ}
    (h : ∀ rowGroup ∈ rowGroups, rowGroupMatchesPredicates m rowGroup resolved = .ok false) :
    selectRowGroups m resolved rowGroups ids pruned = .ok (ids, pruned + rowGroups.length) := by
  induction rowGroups generalizing pruned with
  | nil => rfl
  | cons rowGroup rest ih =>
    rw [List.forall_mem_cons] at h
    rw [selectRowGroups, h.1, ok_bind, if_neg (by simp), ih h.2, List.length_cons]
    congr 2
    omega

lemma resolves_of_resolvePredicates (h : file.Opened) {predicates : List RowGroupPredicate}
    {resolved : List ResolvedRowGroupPredicate}
    (hresolve : resolvePredicates file.columns predicates = .ok resolved) :
    List.Forall₂ (fun p r => ∃ column, Resolves file p r column) predicates resolved :=
  (mapM_eq_ok.mp hresolve).imp fun _ _ => resolves_of_resolvePredicate h

lemma isOk_rowGroupMatches (h : file.Opened)
    (hgroup : rowGroup ∈ file.metadata.rowGroupIndex.rowGroups)
    {predicates : List RowGroupPredicate} {resolved : List ResolvedRowGroupPredicate}
    (hresolve : resolvePredicates file.columns predicates = .ok resolved) :
    IsOk (rowGroupMatchesPredicates file.metadata rowGroup resolved) ↔
      ¬ MeetsUnordered file rowGroup predicates := by
  have hforall := resolves_of_resolvePredicates h hresolve
  rw [rowGroupMatchesPredicates]
  cases hforall with
  | nil => exact iff_of_true isOk_ok not_false
  | cons hr hrest =>
    obtain ⟨byColumn, hbyColumn, hlookup⟩ := h.lookup_stats hgroup
    rw [if_neg (by simp), hbyColumn, ok_bind]
    exact isOk_matchesPredicates h hgroup hlookup (.cons hr hrest)

lemma errorsIn_rowGroupMatches (h : file.Opened)
    (hgroup : rowGroup ∈ file.metadata.rowGroupIndex.rowGroups)
    {predicates : List RowGroupPredicate} {resolved : List ResolvedRowGroupPredicate}
    (hresolve : resolvePredicates file.columns predicates = .ok resolved) :
    ErrorsIn ArcadiaTioError.IsInvalidInput
      (rowGroupMatchesPredicates file.metadata rowGroup resolved) := by
  have hforall := resolves_of_resolvePredicates h hresolve
  rw [rowGroupMatchesPredicates]
  cases hforall with
  | nil => exact .ok _
  | cons hr hrest =>
    obtain ⟨byColumn, hbyColumn, hlookup⟩ := h.lookup_stats hgroup
    rw [if_neg (by simp), hbyColumn, ok_bind]
    exact errorsIn_matchesPredicates h hgroup hlookup (.cons hr hrest)

/-! ### Making a plan -/

lemma isOk_resolvePredicates (h : file.Opened) {predicates : List RowGroupPredicate} :
    IsOk (resolvePredicates file.columns predicates) ↔
      ∀ predicate ∈ predicates, ∃ column ∈ file.columns, predicate.Resolvable column := by
  rw [resolvePredicates, isOk_mapM]
  exact forall₂_congr fun _ _ => isOk_resolvePredicate h

lemma errorsIn_planRead (h : file.Opened) (hoptions : request.options.Supported) :
    ErrorsIn ArcadiaTioError.IsInvalidInput (file.planRead request) := by
  rw [ColumnBundleFile.planRead, validateReadOptions_eq_ok.mpr hoptions, ok_bind]
  refine (errorsIn_resolveProjection _ _).bind fun _ _ => ?_
  refine (ErrorsIn.mapM fun _ _ => errorsIn_resolvePredicate _ _).bind fun resolved hresolve => ?_
  exact (errorsIn_selectRowGroups fun _ hgroup => errorsIn_rowGroupMatches h hgroup hresolve).bind
    fun _ _ => .ok _

/-- A plan is made when nothing is wrong with the request. -/
lemma isOk_planRead (h : file.Opened) (hoptions : request.options.Supported) :
    IsOk (file.planRead request) ↔ request.Plannable file := by
  rw [ColumnBundleFile.planRead, validateReadOptions_eq_ok.mpr hoptions, ok_bind, isOk_bind]
  constructor
  · rintro ⟨selected, hselected, hplan⟩
    obtain ⟨resolved, hresolve, hplan⟩ := isOk_bind.mp hplan
    obtain ⟨kept, hkept, -⟩ := isOk_bind.mp hplan
    refine ⟨⟨selected, hselected⟩, (isOk_resolvePredicates h).mp ⟨resolved, hresolve⟩, ?_⟩
    intro rowGroup hgroup
    exact (isOk_rowGroupMatches h hgroup hresolve).mp
      (isOk_selectRowGroups.mp ⟨kept, hkept⟩ rowGroup hgroup)
  · rintro ⟨⟨selected, hselected⟩, hpredicates, hcompared⟩
    obtain ⟨resolved, hresolve⟩ := (isOk_resolvePredicates h).mpr hpredicates
    have hselects : IsOk (selectRowGroups file.metadata resolved
        file.metadata.rowGroupIndex.rowGroups [] 0) :=
      isOk_selectRowGroups.mpr fun rowGroup hgroup =>
        (isOk_rowGroupMatches h hgroup hresolve).mpr (hcompared rowGroup hgroup)
    obtain ⟨kept, hkept⟩ := hselects
    refine ⟨selected, hselected, ?_⟩
    rw [hresolve, ok_bind, hkept, ok_bind]
    exact ⟨_, rfl⟩

lemma failsIn_planRead (h : file.Opened) :
    FailsIn ArcadiaTioError.IsInvalidInput (file.planRead request) ↔
      request.options.Supported ∧ ¬ request.Plannable file := by
  by_cases hoptions : request.options.Supported
  · rw [and_iff_right hoptions, (errorsIn_planRead h hoptions).failsIn_iff,
      isOk_planRead h hoptions]
  · refine iff_of_false ?_ fun hrefused => hoptions hrefused.1
    rw [ColumnBundleFile.planRead, failsIn_bind]
    rintro (hfails | ⟨_, hvalid, -⟩)
    · exact (not_invalid_validateReadOptions _).not_failsIn hfails
    · exact hoptions (validateReadOptions_eq_ok.mp hvalid)

/-! ### Strict planning -/

lemma errorsIn_requireStats (h : file.Opened) {predicates : List RowGroupPredicate}
    {resolved : List ResolvedRowGroupPredicate}
    (hresolve : resolvePredicates file.columns predicates = .ok resolved) :
    ErrorsIn ArcadiaTioError.IsInvalidInput
      (requirePredicateStatsAvailable file.metadata resolved) := by
  rw [requirePredicateStatsAvailable]
  split
  · exact .ok _
  refine .forM fun rowGroup hgroup => ?_
  obtain ⟨byColumn, hbyColumn, hlookup⟩ := h.lookup_stats hgroup
  rw [hbyColumn, ok_bind]
  refine .forM fun r hr => ?_
  obtain ⟨predicate, -, column, hcolumn⟩ :=
    exists_of_forall₂ (resolves_of_resolvePredicates h hresolve) hr
  refine (errorsIn_okOr_invalid _ _).bind fun stat hstat => ?_
  obtain ⟨hrecords, hid⟩ := (hlookup _ _).mp (okOr_eq_ok.mp hstat)
  rw [h.checkStatType hgroup hrecords hcolumn.mem (hid.trans hcolumn.columnId) hcolumn.scalar
    hcolumn.physicalType]
  exact .ok _

lemma errorsIn_planReadStrict (h : file.Opened) (hoptions : request.options.Supported)
    (options : ColumnBundleStrictReadPlanningOptions) :
    ErrorsIn ArcadiaTioError.IsInvalidInput (file.planReadStrict request options) := by
  rw [ColumnBundleFile.planReadStrict, validateReadOptions_eq_ok.mpr hoptions, ok_bind]
  refine (errorsIn_resolveProjection _ _).bind fun _ _ => ?_
  refine (ErrorsIn.mapM fun _ _ => errorsIn_resolvePredicate _ _).bind fun resolved hresolve => ?_
  refine (errorsIn_requireStats h hresolve).bind fun _ _ => ?_
  refine (errorsIn_selectRowGroups fun _ hgroup => errorsIn_rowGroupMatches h hgroup
    hresolve).bind fun _ _ => ?_
  exact (errorsIn_failIf_invalid _ _).bind fun _ _ => .ok _

/-- With a NaN bound and statistics everywhere, a row group is kept by no comparison. -/
lemma not_kept_of_hasNan (h : file.Opened)
    (hgroup : rowGroup ∈ file.metadata.rowGroupIndex.rowGroups)
    {predicates : List RowGroupPredicate} {resolved : List ResolvedRowGroupPredicate}
    (hresolve : resolvePredicates file.columns predicates = .ok resolved)
    (hstats : StatsPresent file predicates) {predicate : RowGroupPredicate}
    (hmem : predicate ∈ predicates) (hnan : predicate.HasNan) :
    rowGroupMatchesPredicates file.metadata rowGroup resolved ≠ .ok true := by
  have hforall := resolves_of_resolvePredicates h hresolve
  obtain ⟨r, hr, column, hcolumn⟩ := exists_of_forall₂ hforall.flip hmem
  obtain ⟨byColumn, hbyColumn, hlookup⟩ := h.lookup_stats hgroup
  obtain ⟨c, hc, hname, stat, hrecords, hid⟩ := hstats rowGroup hgroup predicate hmem
  obtain rfl : c = column := h.eq_of_name hc hcolumn.mem (hname.trans hcolumn.name.symm)
  have hstat := (hlookup _ _).mpr ⟨hrecords, hid.trans hcolumn.columnId.symm⟩
  have hvalid := h.checkStatType hgroup hrecords hcolumn.mem hid hcolumn.scalar
    hcolumn.physicalType
  rw [rowGroupMatchesPredicates, if_neg (by simpa using List.ne_nil_of_mem hr), hbyColumn, ok_bind]
  intro hkept
  have hadmits := admits_of_matches hr hstat hkept
  have hcompare := (isOk_statAdmits hcolumn.lower hcolumn.upper hvalid).mp ⟨_, hadmits⟩
  have hinside := not_outside_of_statAdmits hcolumn.lower hcolumn.upper hvalid hadmits
  -- a bound that is a NaN compares with nothing
  rcases hnan with ⟨lower, hlower, hisNan⟩ | ⟨upper, hupper, hisNan⟩
  · exact hcompare (Or.inl ⟨lower, hlower, fun hok =>
      (ColumnPredicateValue.isOk_cmpSameType.mp hok).2.2 hisNan⟩)
  · refine hcompare (Or.inr ⟨fun lower hlower hlt => ?_, upper, hupper, fun hok =>
      (ColumnPredicateValue.isOk_cmpSameType.mp hok).2.2 hisNan⟩)
    exact hinside (Or.inl ⟨lower, hlower, hlt⟩)

lemma failsIn_planReadStrict (h : file.Opened)
    (hnan : ∃ predicate ∈ request.predicates, predicate.HasNan)
    (options : ColumnBundleStrictReadPlanningOptions) :
    FailsIn ArcadiaTioError.IsInvalidInput (file.planReadStrict request options) ↔
      request.options.Supported ∧
        ¬ (request.Plannable file ∧ StatsPresent file request.predicates) := by
  by_cases hoptions : request.options.Supported
  · rw [and_iff_right hoptions, (errorsIn_planReadStrict h hoptions options).failsIn_iff,
      ColumnBundleFile.planReadStrict, validateReadOptions_eq_ok.mpr hoptions, ok_bind]
    refine not_congr ⟨fun hok => ?_, ?_⟩
    · obtain ⟨selected, hselected, hok⟩ := isOk_bind.mp hok
      obtain ⟨resolved, hresolve, hok⟩ := isOk_bind.mp hok
      obtain ⟨_, hstats, hok⟩ := isOk_bind.mp hok
      obtain ⟨kept, hkept, -⟩ := isOk_bind.mp hok
      refine ⟨⟨⟨selected, hselected⟩, (isOk_resolvePredicates h).mp ⟨resolved, hresolve⟩,
        fun rowGroup hgroup => ?_⟩, (requirePredicateStatsAvailable_eq_ok h hresolve).mp hstats⟩
      exact (isOk_rowGroupMatches h hgroup hresolve).mp
        (isOk_selectRowGroups.mp ⟨kept, hkept⟩ rowGroup hgroup)
    · rintro ⟨⟨⟨selected, hselected⟩, hpredicates, hcompared⟩, hstats⟩
      obtain ⟨resolved, hresolve⟩ := (isOk_resolvePredicates h).mpr hpredicates
      obtain ⟨predicate, hmem, hnan⟩ := hnan
      have hruledOut : ∀ rowGroup ∈ file.metadata.rowGroupIndex.rowGroups,
          rowGroupMatchesPredicates file.metadata rowGroup resolved = .ok false := by
        intro rowGroup hgroup
        obtain ⟨keep, hkeep⟩ := (isOk_rowGroupMatches h hgroup hresolve).mpr
          (hcompared rowGroup hgroup)
        cases keep with
        | false => exact hkeep
        | true => exact absurd hkeep (not_kept_of_hasNan h hgroup hresolve hstats hmem hnan)
      have hnone : selectRowGroups file.metadata resolved
          file.metadata.rowGroupIndex.rowGroups [] 0 =
            .ok ([], 0 + file.metadata.rowGroupIndex.rowGroups.length) :=
        selectRowGroups_of_ruledOut hruledOut
      rw [hselected, ok_bind, hresolve, ok_bind,
        (requirePredicateStatsAvailable_eq_ok h hresolve).mpr hstats, ok_bind, hnone, ok_bind]
      exact isOk_bind.mpr ⟨(), failIf_neg (Nat.not_lt_zero _), isOk_ok⟩
  · refine iff_of_false ?_ fun hrefused => hoptions hrefused.1
    rw [ColumnBundleFile.planReadStrict, failsIn_bind]
    rintro (hfails | ⟨_, hvalid, -⟩)
    · exact (not_invalid_validateReadOptions _).not_failsIn hfails
    · exact hoptions (validateReadOptions_eq_ok.mp hvalid)

end Planner

/-! ### Planning from ordering keys -/

section Ranges

variable {file : ColumnBundleFile} {metadata : ColumnBundleMetadata}

/-- The column of an ordering key is among the columns that are given out. -/
lemma find_orderingKey_column (h : file.describe = .ok metadata) {key : BundleOrderingKey}
    (hkey : key ∈ metadata.orderingKeys) :
    ∃ column, (metadata.columns.find? fun column => column.id = key.columnId) = some column := by
  obtain ⟨dictionaries, -, h⟩ := bind_eq_ok.mp h
  obtain ⟨orderingKeys, hkeys, h⟩ := bind_eq_ok.mp h
  obtain ⟨columns, hcolumns, h⟩ := bind_eq_ok.mp h
  obtain ⟨_, -, h⟩ := bind_eq_ok.mp h
  cases h
  obtain ⟨raw, -, hraw⟩ := exists_of_forall₂ (mapM_eq_ok.mp hkeys) hkey
  obtain ⟨column, hcolumn, hraw⟩ := bind_eq_ok.mp hraw
  obtain ⟨name, -, hraw⟩ := bind_eq_ok.mp hraw
  cases hraw
  have hfound := okOr_eq_ok.mp hcolumn
  have hid : column.id = raw.columnId := by simpa using List.find?_some hfound
  obtain ⟨cloned, hmem, hcloned⟩ := exists_of_forall₂ (mapM_eq_ok.mp hcolumns).flip
    (List.mem_of_find?_eq_some hfound)
  obtain ⟨name, -, hcloned⟩ := bind_eq_ok.mp hcloned
  cases hcloned
  exact Option.isSome_iff_exists.mp (List.find?_isSome.mpr ⟨_, hmem, by simpa using hid⟩)

lemma errorsIn_checkRangeOrder (lower upper : Option ColumnPredicateValue) :
    ErrorsIn ArcadiaTioError.IsInvalidInput (checkRangeOrder lower upper) := by
  rcases lower with _ | lower <;> rcases upper with _ | upper
  · exact .ok _
  · exact .ok _
  · exact .ok _
  · exact (lower.errorsIn_cmpSameType upper).bind fun _ _ => errorsIn_failIf_invalid _ _

lemma errorsIn_orderingRangePredicate (h : file.describe = .ok metadata)
    (range : ColumnBundleOrderingKeyRange) :
    ErrorsIn ArcadiaTioError.IsInvalidInput (orderingRangePredicate metadata range) := by
  refine (errorsIn_failIf_invalid _ _).bind fun _ _ => ?_
  refine (errorsIn_okOr_invalid _ _).bind fun key hkey => ?_
  obtain ⟨column, hcolumn⟩ :=
    find_orderingKey_column h (List.mem_of_getElem? (okOr_eq_ok.mp hkey))
  rw [hcolumn, okOr_some, ok_bind]
  exact (errorsIn_failIf_invalid _ _).bind fun _ _ => (errorsIn_failIf_invalid _ _).bind
    fun _ _ => (errorsIn_failIf_invalid _ _).bind fun _ _ =>
      (errorsIn_checkRangeOrder _ _).bind fun _ _ => .ok _

lemma errorsIn_orderingRangePredicates (h : file.describe = .ok metadata)
    (ranges : List ColumnBundleOrderingKeyRange) (seen : List ℕ) :
    ErrorsIn ArcadiaTioError.IsInvalidInput (orderingRangePredicates metadata ranges seen) := by
  induction ranges generalizing seen with
  | nil => exact .ok _
  | cons range rest ih =>
    exact (errorsIn_failIf_invalid _ _).bind fun _ _ =>
      (errorsIn_orderingRangePredicate h range).bind fun _ _ => (ih _).bind fun _ _ => .ok _

/-- The ranges of a described file are refused as an invalid input or not at all. -/
lemma errorsIn_fromOrderingKeyRanges (h : file.describe = .ok metadata)
    (projection : ColumnProjection) (ranges : List ColumnBundleOrderingKeyRange)
    (options : ColumnBundleReadOptions) : ErrorsIn ArcadiaTioError.IsInvalidInput
      (ColumnBundleReadRequest.fromOrderingKeyRanges metadata projection ranges options) :=
  (errorsIn_failIf_invalid _ _).bind fun _ _ =>
    (errorsIn_orderingRangePredicates h _ _).bind fun _ _ => .ok _

lemma hasNan_of_orderingRangePredicates {ranges : List ColumnBundleOrderingKeyRange}
    {seen : List ℕ} {predicates : List RowGroupPredicate}
    (h : orderingRangePredicates metadata ranges seen = .ok predicates)
    {range : ColumnBundleOrderingKeyRange} (hmem : range ∈ ranges) (hnan : range.HasNan) :
    ∃ predicate ∈ predicates, predicate.HasNan := by
  induction ranges generalizing seen predicates with
  | nil => exact absurd hmem List.not_mem_nil
  | cons first rest ih =>
    obtain ⟨_, -, h⟩ := bind_eq_ok.mp h
    obtain ⟨predicate, hfirst, h⟩ := bind_eq_ok.mp h
    obtain ⟨others, hrest, h⟩ := bind_eq_ok.mp h
    cases h
    rcases List.mem_cons.mp hmem with rfl | hmem
    · refine ⟨predicate, List.mem_cons_self, ?_⟩
      simp only [orderingRangePredicate, bind_eq_ok] at hfirst
      obtain ⟨_, -, _, -, _, -, _, -, _, -, _, -, _, -, hfirst⟩ := hfirst
      cases hfirst
      exact hnan
    · obtain ⟨other, hother, hisNan⟩ := ih hrest hmem
      exact ⟨other, List.mem_cons_of_mem _ hother, hisNan⟩

/-- A NaN bound of a range is a NaN bound of the request. -/
lemma hasNan_of_fromOrderingKeyRanges {projection : ColumnProjection}
    {ranges : List ColumnBundleOrderingKeyRange} {options : ColumnBundleReadOptions}
    {request : ColumnBundleReadRequest}
    (h : ColumnBundleReadRequest.fromOrderingKeyRanges metadata projection ranges options =
      .ok request) (hnan : ∃ range ∈ ranges, range.HasNan) :
    ∃ predicate ∈ request.predicates, predicate.HasNan := by
  obtain ⟨_, -, h⟩ := bind_eq_ok.mp h
  obtain ⟨predicates, hpredicates, h⟩ := bind_eq_ok.mp h
  cases h
  obtain ⟨range, hmem, hnan⟩ := hnan
  exact hasNan_of_orderingRangePredicates hpredicates
    ((List.mergeSort_perm _ _).mem_iff.mpr hmem) hnan

/-- Planning from ranges is refused as an invalid input when every request that they make is. -/
lemma failsIn_fromOrderingKeyRanges (h : file.describe = .ok metadata)
    (projection : ColumnProjection) (ranges : List ColumnBundleOrderingKeyRange)
    (options : ColumnBundleReadOptions) {plan : ColumnBundleReadRequest → Result ColumnBundleReadPlan}
    {P : ColumnBundleReadRequest → Prop}
    (hplan : ∀ request, ColumnBundleReadRequest.fromOrderingKeyRanges metadata projection ranges
      options = .ok request → (FailsIn ArcadiaTioError.IsInvalidInput (plan request) ↔ P request)) :
    FailsIn ArcadiaTioError.IsInvalidInput
        (ColumnBundleReadRequest.fromOrderingKeyRanges metadata projection ranges options >>= plan) ↔
      ∀ request, ColumnBundleReadRequest.fromOrderingKeyRanges metadata projection ranges options =
        .ok request → P request := by
  rw [failsIn_bind, (errorsIn_fromOrderingKeyRanges h projection ranges options).failsIn_iff]
  constructor
  · rintro (hfails | ⟨request, hrequest, hfails⟩) request' hrequest'
    · exact absurd ⟨request', hrequest'⟩ hfails
    · obtain rfl : request = request' := Except.ok.inj (hrequest.symm.trans hrequest')
      exact (hplan request hrequest).mp hfails
  · intro hall
    by_cases hok : IsOk
        (ColumnBundleReadRequest.fromOrderingKeyRanges metadata projection ranges options)
    · obtain ⟨request, hrequest⟩ := hok
      exact Or.inr ⟨request, hrequest, (hplan request hrequest).mpr (hall request hrequest)⟩
    · exact Or.inl hok

end Ranges

/-! ### When a NaN bound is refused -/

/-- A request of an opened file with a NaN bound is refused as an invalid input exactly when its
options are supported and something is wrong with it that the planner comes across: with the
projection, with a predicate of itself, or when a statistic is compared; for the strict planner
also when a statistic is missing.  The same holds of the requests made from ordering-key ranges,
unless the ranges are refused before. -/
theorem nanBound_refused_iff {source : OcbReadSource} {zstd : ZstdCodec}
    {validation : OcbOpenValidationMode} {limits : OcbResourceLimits} {file : ColumnBundleFile}
    (hopen : ColumnBundleFile.openFromSource source zstd validation limits = .ok file) :
    (∀ request : ColumnBundleReadRequest, (∃ predicate ∈ request.predicates, predicate.HasNan) →
      (FailsIn ArcadiaTioError.IsInvalidInput (file.planRead request) ↔
        request.options.Supported ∧ ¬ request.Plannable file) ∧
      ∀ strict, FailsIn ArcadiaTioError.IsInvalidInput (file.planReadStrict request strict) ↔
        request.options.Supported ∧
          ¬ (request.Plannable file ∧ StatsPresent file request.predicates)) ∧
    ∀ metadata, file.describe = .ok metadata → ∀ projection ranges options,
      (∃ range ∈ ranges, ColumnBundleOrderingKeyRange.HasNan range) →
      (FailsIn ArcadiaTioError.IsInvalidInput (ColumnBundleReadRequest.fromOrderingKeyRanges
          metadata projection ranges options >>= file.planRead) ↔
        ∀ request, ColumnBundleReadRequest.fromOrderingKeyRanges metadata projection ranges
          options = .ok request → request.options.Supported ∧ ¬ request.Plannable file) ∧
      ∀ strict, FailsIn ArcadiaTioError.IsInvalidInput
          (ColumnBundleReadRequest.fromOrderingKeyRanges metadata projection ranges options >>=
            fun request => file.planReadStrict request strict) ↔
        ∀ request, ColumnBundleReadRequest.fromOrderingKeyRanges metadata projection ranges
          options = .ok request → request.options.Supported ∧
            ¬ (request.Plannable file ∧ StatsPresent file request.predicates) := by
  have h := ColumnBundleFile.opened_of_openFromSource hopen
  refine ⟨fun request hnan => ⟨failsIn_planRead h, failsIn_planReadStrict h hnan⟩, ?_⟩
  intro metadata hmetadata projection ranges options hnan
  refine ⟨failsIn_fromOrderingKeyRanges hmetadata projection ranges options fun request _ =>
    failsIn_planRead h, fun strict => ?_⟩
  exact failsIn_fromOrderingKeyRanges hmetadata projection ranges options fun request hrequest =>
    failsIn_planReadStrict h (hasNan_of_fromOrderingKeyRanges hrequest hnan) strict

namespace Sample

lemma size_value : "v".toUTF8.size < 2 ^ 63 := by decide

/-- A table with one row of one number. -/
def floatTable : TableImage := ⟨1, [⟨⟨"v", size_value⟩, .f64 [0x3FF0000000000000]⟩]⟩

lemma small_floatTable : floatTable.Small where
  columns := by decide
  rows := by decide
  names := by decide
  nodup := by decide
  payloads := by decide
  holds := by
    intro c hc
    obtain rfl := List.mem_singleton.mp hc
    rfl

/-- A request for the numbers from a NaN on. -/
def nanRequest : ColumnBundleReadRequest where
  projection := .all
  predicates := [⟨⟨"v", size_value⟩, some (.f64 0x7FF8000000000000), none⟩]
  options := ⟨1, true, false⟩

lemma hasNan_nanRequest : ∃ predicate ∈ nanRequest.predicates, predicate.HasNan :=
  ⟨_, List.mem_cons_self, Or.inl ⟨_, rfl, rfl⟩⟩

end Sample

/-- The row group of the table has no statistics, so that the strict planner refuses the NaN. -/
theorem nanBound_refused_sample :
    FailsIn ArcadiaTioError.IsInvalidInput
      ((TableImage.file Sample.small_floatTable).planReadStrict Sample.nanRequest ⟨1⟩) := by
  have hopen := TableImage.openFromSource_source Sample.small_floatTable fun _ _ => ⟨[], true⟩
  refine (((nanBound_refused_iff hopen).1 Sample.nanRequest Sample.hasNan_nanRequest).2 ⟨1⟩).mpr
    ⟨⟨rfl, rfl⟩, fun hplanned => ?_⟩
  obtain ⟨_, -, -, stat, ⟨stats, hstats, hmem⟩, -⟩ :=
    hplanned.2 Sample.floatTable.rowGroup List.mem_cons_self _ List.mem_cons_self
  cases hstats
  cases hmem

/-- The table opens, and the planner makes a plan of a request with a NaN bound. -/
theorem planRead_nanBound : ∃ file plan,
    ColumnBundleFile.openFromSource (Sample.floatTable.source Sample.small_floatTable)
      (fun _ _ => ⟨[], true⟩) .metadataGraph .policyA = .ok file ∧
    (∃ predicate ∈ Sample.nanRequest.predicates, predicate.HasNan) ∧
    file.planRead Sample.nanRequest = .ok plan ∧ plan.rowGroupIds = [0] :=
  ⟨_, _, TableImage.openFromSource_source Sample.small_floatTable _, Sample.hasNan_nanRequest, rfl,
    rfl⟩

end ArcadiaTio.Ocb
