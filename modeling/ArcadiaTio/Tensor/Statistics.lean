import ArcadiaTio.Tensor.Reduction

/-!
# Means, variances and standard deviations

These reductions compute with floating-point numbers whatever the dtype of their input: an integer
is converted when it is added up, and the sums are divided by the number of reduced positions.  A
variance walks twice over its input, and its second walk reads the means of the first.
-/

namespace ArcadiaTio.Tio

open ArcadiaTio.Lib

/-- The floating-point operations behind the statistics, on bit patterns. -/
structure FloatStats extends FloatArith where
  /-- `f64::from` of an `i32` -/
  f64OfI32 : Int32 → UInt64
  /-- `as f64` of an `i64` -/
  f64OfI64 : Int64 → UInt64
  f32OfUsize : ℕ → UInt32
  f64OfUsize : ℕ → UInt64
  sqrtF32 : UInt32 → UInt32
  sqrtF64 : UInt64 → UInt64

/-- The operations of IEEE 754 in the two widths. -/
def FloatStats.ieee : FloatStats where
  toFloatArith := .ieee
  f64OfI32 value := value.toFloat.toBits
  f64OfI64 value := value.toFloat.toBits
  f32OfUsize value := value.toUInt64.toFloat32.toBits
  f64OfUsize value := value.toUInt64.toFloat.toBits
  sqrtF32 bits := (Float32.ofBits bits).sqrt.toBits
  sqrtF64 bits := (Float.ofBits bits).sqrt.toBits

/-! ### Walks over the input -/

section Walks

variable {α β : Type} (plan : ReductionPlan) (shape : List ℕ)

/-- The sums of mapped elements. -/
def reduceSumMappedValues (values : List α) (zero : β) (add : β → α → Result β) :
    Result (List β) :=
  reduceLoop plan shape (fun _ current value => add current value) values
    (List.replicate shape.length 0) (List.replicate plan.outElems zero)

variable (op : BinaryOp → β → β → β)

/-- Divide the value of every cell. -/
def divideCells (divisor : β) (out : List β) : List β := out.map fun value => op .div value divisor

/-- Add the squared distance of a value from the mean of its cell. -/
def varianceStep (asFloat : α → β) (means : List β) (inIndices : List ℕ) (current : β) (value : α) :
    Result β := do
  let outIndex ← plan.outIndex inIndices
  -- the means have as many cells as the output, whose cell the walk has found before
  let mean ← okOr (means[outIndex]?) (invalidArgument "index out of bounds")
  let delta := op .sub (asFloat value) mean
  return op .add current (op .mul delta delta)

/-- The two walks of a variance. -/
def reduceVariance (asFloat : α → β) (zero divisor : β) (values : List α) : Result (List β) := do
  let sums ← reduceSumMappedValues plan shape values zero fun a b => .ok (op .add a (asFloat b))
  let means := divideCells op divisor sums
  let out ← reduceLoop plan shape (varianceStep plan op asFloat means) values
    (List.replicate shape.length 0) (List.replicate plan.outElems zero)
  return divideCells op divisor out

end Walks

section Variances

variable (plan : ReductionPlan) (shape : List ℕ) (ops : FloatStats)

/-- The variances of floats. -/
def reduceVarianceF32 (values : List UInt32) : Result (List UInt32) :=
  reduceVariance plan shape ops.f32 id 0 (ops.f32OfUsize plan.reducedElems) values

/-- The variances of doubles. -/
def reduceVarianceF64 (values : List UInt64) : Result (List UInt64) :=
  reduceVariance plan shape ops.f64 id 0 (ops.f64OfUsize plan.reducedElems) values

/-- The variances of integers, as doubles. -/
def reduceVarianceMapped {α : Type} (asF64 : α → UInt64) (values : List α) :
    Result (List UInt64) :=
  reduceVariance plan shape ops.f64 asF64 0 (ops.f64OfUsize plan.reducedElems) values

/-- The variances of 32-bit integers. -/
def reduceVarianceI32 (values : List Int32) : Result (List UInt64) :=
  reduceVarianceMapped plan shape ops ops.f64OfI32 values

/-- The variances of 64-bit integers. -/
def reduceVarianceI64 (values : List Int64) : Result (List UInt64) :=
  reduceVarianceMapped plan shape ops ops.f64OfI64 values

end Variances

/-! ### The operations -/

namespace Tensor

variable (t : Tensor) (ops : FloatStats) (axes : Option (List Int64)) (keepdims : Bool)

/-- Mean values across selected axes.  Integer means are `f64` tensors. -/
def mean : Result Tensor := do
  let shape ← validatedShape t
  let plan ← ReductionPlan.new shape axes keepdims
  failIf (plan.reducedElems = 0) (invalidArgument "mean of an empty reduction")
  let divisor := ops.f64OfUsize plan.reducedElems
  let outShape ← shapeUsizeToU64 plan.outShape
  match t.data with
  | .f32 values => do
    let out ← reduceSumValues plan shape values 0 fun a b => .ok (ops.f32 .add a b)
    let divisor := ops.f32OfUsize plan.reducedElems
    fromDenseData .f32 outShape (.f32 (divideCells ops.f32 divisor out))
  | .f64 values => do
    let out ← reduceSumValues plan shape values 0 fun a b => .ok (ops.f64 .add a b)
    fromDenseData .f64 outShape (.f64 (divideCells ops.f64 divisor out))
  | .i32 values => do
    let out ← reduceSumMappedValues plan shape values 0 fun a b =>
      .ok (ops.f64 .add a (ops.f64OfI32 b))
    fromDenseData .f64 outShape (.f64 (divideCells ops.f64 divisor out))
  | .i64 values => do
    let out ← reduceSumMappedValues plan shape values 0 fun a b =>
      .ok (ops.f64 .add a (ops.f64OfI64 b))
    fromDenseData .f64 outShape (.f64 (divideCells ops.f64 divisor out))

/-- Population variance across selected axes.  Integer inputs promote to `f64`. -/
def var : Result Tensor := do
  let shape ← validatedShape t
  let plan ← ReductionPlan.new shape axes keepdims
  failIf (plan.reducedElems = 0 ∧ 0 < plan.outElems)
    (invalidArgument "variance of an empty reduction")
  let outShape ← shapeUsizeToU64 plan.outShape
  match t.data with
  | .f32 values => do
    let out ← reduceVarianceF32 plan shape ops values
    fromDenseData .f32 outShape (.f32 out)
  | .f64 values => do
    let out ← reduceVarianceF64 plan shape ops values
    fromDenseData .f64 outShape (.f64 out)
  | .i32 values => do
    let out ← reduceVarianceI32 plan shape ops values
    fromDenseData .f64 outShape (.f64 out)
  | .i64 values => do
    let out ← reduceVarianceI64 plan shape ops values
    fromDenseData .f64 outShape (.f64 out)

/-- Population standard deviation across selected axes. -/
def std : Result Tensor := do
  let variance ← t.var ops axes keepdims
  match variance.data with
  | .f32 values => fromDenseData .f32 variance.shape (.f32 (values.map ops.sqrtF32))
  | .f64 values => fromDenseData .f64 variance.shape (.f64 (values.map ops.sqrtF64))
  | .i32 _ | .i64 _ => .error (invalidArgument "variance output payload dtype mismatch")

/-- The reductions that have no value for an empty fibre. -/
def reductions : List (Result Tensor) :=
  [t.mean ops axes keepdims, t.var ops axes keepdims, t.std ops axes keepdims,
    t.min axes keepdims, t.max axes keepdims, t.argmin axes keepdims, t.argmax axes keepdims]

end Tensor

end ArcadiaTio.Tio
