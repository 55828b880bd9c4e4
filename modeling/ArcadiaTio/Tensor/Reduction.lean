import Mathlib.Data.UInt
import ArcadiaTio.Lib.AxisSplit
import ArcadiaTio.Lib.Folds
import ArcadiaTio.Tensor.Arith

/-!
# Reductions and cumulative operations

A reduction walks once over its input.  A plan says for every input multi-index which output cell
it belongs to, and at which offset of the reduced axes it stands; the two numbers come from two
stride tables.  A cumulative operation walks over its input too, and combines each value with the
output one stride back.
-/

namespace ArcadiaTio.Tio

open ArcadiaTio.Lib

/-! ### Plans -/

/-- What a reduction does with a shape: the axes that go, and the shapes of what is left. -/
structure ReductionPlan where
  reduceMask : List Bool
  keepdims : Bool
  outShape : List ℕ
  outStrides : List ℕ
  reducedStrides : List ℕ
  outElems : ℕ
  reducedElems : ℕ
deriving DecidableEq

/-- The strides of the reduced axes among themselves, from the last axis on, and the number of
their positions. -/
def reducedStridesFrom : List Bool → List ℕ → Result (List ℕ × ℕ)
  | true :: mask, dim :: shape => do
    let (strides, elems) ← reducedStridesFrom mask shape
    let total ← okOr (checkedMul usizeBits elems dim) (invalidArgument "shape product overflow")
    return (elems :: strides, total)
  | false :: mask, _ :: shape => do
    let (strides, elems) ← reducedStridesFrom mask shape
    return (0 :: strides, elems)
  | _, _ => .ok ([], 1)

/-- The output shape: a reduced axis is dropped, or kept with length one. -/
def reducedShape (keepdims : Bool) : List Bool → List ℕ → List ℕ
  | true :: mask, _ :: shape =>
    if keepdims then 1 :: reducedShape keepdims mask shape else reducedShape keepdims mask shape
  | false :: mask, dim :: shape => dim :: reducedShape keepdims mask shape
  | _, _ => []

/-- The axes to reduce: the given ones, or all of them. -/
def reducedAxes (axes : Option (List Int64)) (rank : ℕ) : Result (List ℕ) :=
  axes.elim (.ok (List.range rank)) (normalizeAxes · rank)

/-- Mark the axes of a list. -/
def reduceMaskOf (axes : List ℕ) (rank : ℕ) : List Bool :=
  axes.foldl (fun mask axis => mask.set axis true) (List.replicate rank false)

namespace ReductionPlan

/-- The plan for some axes, or for all of them. -/
def new (shape : List ℕ) (axes : Option (List Int64)) (keepdims : Bool) :
    Result ReductionPlan := do
  let axes ← reducedAxes axes shape.length
  let reduceMask := reduceMaskOf axes shape.length
  failIf (keepdims = false ∧ ∀ reduced ∈ reduceMask, reduced = true)
    (invalidArgument "reduction would produce a rank-0 tensor; set keepdims=true")
  let (reducedStrides, reducedElems) ← reducedStridesFrom reduceMask shape
  let outShape := reducedShape keepdims reduceMask shape
  failIf (outShape = []) (invalidArgument "reduction would produce a rank-0 tensor")
  let outStrides ← rowMajorStrides outShape
  let outElems ← shapeProductUsize outShape
  return { reduceMask, keepdims, outShape, outStrides, reducedStrides, outElems, reducedElems }

/-- Add up the offsets of the axes that stay.  The strides stand one for each axis when the reduced
ones are kept, and one for each axis that stays otherwise. -/
def outIndexFrom (keepdims : Bool) : List Bool → List ℕ → List ℕ → ℕ → Result ℕ
  | true :: mask, strides, _ :: indices, linear =>
    outIndexFrom keepdims mask (if keepdims then strides.tail else strides) indices linear
  | false :: mask, stride :: strides, index :: indices, linear => do
    let term ← okOr (checkedMul usizeBits index stride) (invalidArgument "index overflow")
    let linear ← okOr (checkedAdd usizeBits linear term) (invalidArgument "index overflow")
    outIndexFrom keepdims mask strides indices linear
  | _, _, _, linear => .ok linear

/-- Add up the offsets of the reduced axes. -/
def reducedIndexFrom : List Bool → List ℕ → List ℕ → ℕ → Result ℕ
  | true :: mask, stride :: strides, index :: indices, linear => do
    let term ← okOr (checkedMul usizeBits index stride) (invalidArgument "index overflow")
    let linear ← okOr (checkedAdd usizeBits linear term) (invalidArgument "index overflow")
    reducedIndexFrom mask strides indices linear
  | false :: mask, _ :: strides, _ :: indices, linear =>
    reducedIndexFrom mask strides indices linear
  | _, _, _, linear => .ok linear

variable (plan : ReductionPlan)

/-- The place in the result that a multi-index is reduced to. -/
def outIndex (inIndices : List ℕ) : Result ℕ :=
  outIndexFrom plan.keepdims plan.reduceMask plan.outStrides inIndices 0

/-- The place of a multi-index among those that are reduced together. -/
def reducedIndex (inIndices : List ℕ) : Result ℕ :=
  reducedIndexFrom plan.reduceMask plan.reducedStrides inIndices 0

end ReductionPlan

/-! ### Walks over the input -/

section Reduce

variable {α β : Type} (plan : ReductionPlan) (shape : List ℕ)

/-- Visit the values with their multi-indices, and change the output cell of each. -/
def reduceLoop (step : List ℕ → β → α → Result β) : List α → List ℕ → List β → Result (List β)
  | [], _, out => .ok out
  | value :: values, inIndices, out => do
    let outIndex ← plan.outIndex inIndices
    -- the source indexes the output here, and would panic
    let current ← okOr (out[outIndex]?) (invalidArgument "index out of bounds")
    let next ← step inIndices current value
    reduceLoop step values (incrementIndices inIndices shape) (out.set outIndex next)

/-- The sums. -/
def reduceSumValues (values : List α) (zero : α) (add : α → α → Result α) : Result (List α) :=
  reduceLoop plan shape (fun _ current value => add current value) values
    (List.replicate shape.length 0) (List.replicate plan.outElems zero)

/-- Whether a value replaces the current extreme one. -/
def exceeds (key : α → Option ℤ) (takeMax : Bool) (value current : α) : Bool :=
  if takeMax then lessBy key current value else lessBy key value current

/-- Keep the value of a cell, or replace it by a new one. -/
def extremeStep (key : α → Option ℤ) (takeMax : Bool) (current : Option α) (value : α) :
    Result (Option α) :=
  .ok (some (current.elim value fun current =>
    if exceeds key takeMax value current then value else current))

/-- The extremes, each the first of its value. -/
def reduceExtremeValues (key : α → Option ℤ) (values : List α) (takeMax : Bool) :
    Result (List α) := do
  failIf (plan.reducedElems = 0 ∧ 0 < plan.outElems)
    (invalidArgument "cannot reduce an empty axis")
  let out ← reduceLoop plan shape (fun _ => extremeStep key takeMax) values
    (List.replicate shape.length 0) (List.replicate plan.outElems none)
  out.mapM fun value => okOr value (invalidArgument "cannot reduce an empty axis")

/-- A value of type `i64`, from a `usize`. -/
def i64TryFrom (value : ℕ) (message : String) : Result Int64 := do
  failIf (2 ^ 63 ≤ value) (invalidArgument message)
  return Int64.ofNat value

/-- Keep the value of a cell and its offset, or replace both. -/
def argStep (key : α → Option ℤ) (takeMax : Bool) (inIndices : List ℕ)
    (current : Option (α × Int64)) (value : α) : Result (Option (α × Int64)) := do
  let reducedIndex ← plan.reducedIndex inIndices
  let reducedIndex ← i64TryFrom reducedIndex "arg reduction index exceeds i64"
  return some (current.elim (value, reducedIndex) fun current =>
    if exceeds key takeMax value current.1 then (value, reducedIndex) else current)

/-- The places of the extremes. -/
def argReduceValues (key : α → Option ℤ) (values : List α) (takeMax : Bool) :
    Result (List Int64) := do
  failIf (plan.reducedElems = 0 ∧ 0 < plan.outElems)
    (invalidArgument "cannot reduce an empty axis")
  let out ← reduceLoop plan shape (argStep plan key takeMax) values
    (List.replicate shape.length 0) (List.replicate plan.outElems none)
  out.mapM fun value =>
    okOr (value.map Prod.snd) (invalidArgument "cannot reduce an empty axis")

end Reduce

/-! ### The order of the values -/

/-- The place of a `f32` among the numbers of its type, the two zeros in one place.  A NaN has
none, and compares with nothing. -/
def f32Rank (bits : UInt32) : Option ℤ :=
  if 0x7F800000 < bits.toNat % 2 ^ 31 then none
  else some (if bits.toNat < 2 ^ 31 then ((bits.toNat % 2 ^ 31 : ℕ) : ℤ)
    else -((bits.toNat % 2 ^ 31 : ℕ) : ℤ))

/-- The same for a `f64`. -/
def f64Rank (bits : UInt64) : Option ℤ :=
  if 0x7FF0000000000000 < bits.toNat % 2 ^ 63 then none
  else some (if bits.toNat < 2 ^ 63 then ((bits.toNat % 2 ^ 63 : ℕ) : ℤ)
    else -((bits.toNat % 2 ^ 63 : ℕ) : ℤ))

/-- How 32-bit integers are compared. -/
def i32Rank (value : Int32) : Option ℤ := some value.toInt

/-- How 64-bit integers are compared. -/
def i64Rank (value : Int64) : Option ℤ := some value.toInt

/-! ### Reductions -/

/-- Add 32-bit integers, with an error when the sum does not fit. -/
def addI32 (message : String) (a b : Int32) : Result Int32 :=
  checkedI32 (toI32 (a.toInt + b.toInt)) message

/-- Add 64-bit integers, with an error when the sum does not fit. -/
def addI64 (message : String) (a b : Int64) : Result Int64 :=
  checkedI64 (toI64 (a.toInt + b.toInt)) message

namespace Tensor

/-- Sum values across selected axes. -/
def sum (t : Tensor) (ops : FloatArith) (axes : Option (List Int64)) (keepdims : Bool) :
    Result Tensor := do
  let shape ← validatedShape t
  let plan ← ReductionPlan.new shape axes keepdims
  let outShape ← shapeUsizeToU64 plan.outShape
  let data ← match t.data with
    | .f32 values =>
      TensorData.f32 <$> reduceSumValues plan shape values 0 fun a b => .ok (ops.f32 .add a b)
    | .f64 values =>
      TensorData.f64 <$> reduceSumValues plan shape values 0 fun a b => .ok (ops.f64 .add a b)
    | .i32 values =>
      TensorData.i32 <$> reduceSumValues plan shape values 0 (addI32 "integer reduction overflow")
    | .i64 values =>
      TensorData.i64 <$> reduceSumValues plan shape values 0 (addI64 "integer reduction overflow")
  tensorFromData t.dtype outShape data

/-- The common body of `min` and `max`. -/
def extreme (t : Tensor) (axes : Option (List Int64)) (keepdims takeMax : Bool) :
    Result Tensor := do
  let shape ← validatedShape t
  let plan ← ReductionPlan.new shape axes keepdims
  let outShape ← shapeUsizeToU64 plan.outShape
  let data ← match t.data with
    | .f32 values => TensorData.f32 <$> reduceExtremeValues plan shape f32Rank values takeMax
    | .f64 values => TensorData.f64 <$> reduceExtremeValues plan shape f64Rank values takeMax
    | .i32 values => TensorData.i32 <$> reduceExtremeValues plan shape i32Rank values takeMax
    | .i64 values => TensorData.i64 <$> reduceExtremeValues plan shape i64Rank values takeMax
  tensorFromData t.dtype outShape data

/-- Minimum values across selected axes. -/
def min (t : Tensor) (axes : Option (List Int64)) (keepdims : Bool) : Result Tensor :=
  t.extreme axes keepdims false

/-- Maximum values across selected axes. -/
def max (t : Tensor) (axes : Option (List Int64)) (keepdims : Bool) : Result Tensor :=
  t.extreme axes keepdims true

/-- The places of the extremes along some axes. -/
def argReduce (t : Tensor) (axes : Option (List Int64)) (keepdims takeMax : Bool) :
    Result Tensor := do
  let shape ← validatedShape t
  let plan ← ReductionPlan.new shape axes keepdims
  let outShape ← shapeUsizeToU64 plan.outShape
  let out ← match t.data with
    | .f32 values => argReduceValues plan shape f32Rank values takeMax
    | .f64 values => argReduceValues plan shape f64Rank values takeMax
    | .i32 values => argReduceValues plan shape i32Rank values takeMax
    | .i64 values => argReduceValues plan shape i64Rank values takeMax
  fromDenseData .i64 outShape (.i64 out)

/-- Zero-based argmin indices across selected axes. -/
def argmin (t : Tensor) (axes : Option (List Int64)) (keepdims : Bool) : Result Tensor :=
  t.argReduce axes keepdims false

/-- Zero-based argmax indices across selected axes. -/
def argmax (t : Tensor) (axes : Option (List Int64)) (keepdims : Bool) : Result Tensor :=
  t.argReduce axes keepdims true

end Tensor

/-! ### Cumulative operations -/

/-- The cumulative operations. -/
inductive CumulativeOp
  | sum | product
deriving DecidableEq

section Cumulative

variable {α : Type} (combine : α → α → Result α)

/-- A running operation over a list. -/
def cumulativeFlatValues : List α → Option α → Result (List α)
  | [], _ => .ok []
  | value :: values, accumulator => do
    let next ← accumulator.elim (.ok value) fun current => combine current value
    let rest ← cumulativeFlatValues values (some next)
    return next :: rest

/-- The next output: the value itself at the start of the axis, and combined with the output one
stride back otherwise. -/
def cumulativeNext (strides : List ℕ) (axis : ℕ) (value : α) (linear : ℕ) (inIndices : List ℕ)
    (out : List α) : Result α :=
  if inIndices.getD axis 0 = 0 then .ok value
  else do
    let previousLinear ← okOr (checkedSub linear (strides.getD axis 0))
      (invalidArgument "index overflow")
    let previous ← okOr (out[previousLinear]?) (invalidArgument "index out of bounds")
    combine previous value

/-- Push the outputs for the remaining values.  `linear` counts the outputs pushed before. -/
def cumulativeAxisLoop (strides shape : List ℕ) (axis : ℕ) :
    List α → ℕ → List ℕ → List α → Result (List α)
  | [], _, _, out => .ok out
  | value :: values, linear, inIndices, out => do
    let next ← cumulativeNext combine strides axis value linear inIndices out
    cumulativeAxisLoop strides shape axis values (linear + 1) (incrementIndices inIndices shape)
      (out ++ [next])

/-- A running operation along one axis. -/
def cumulativeAxisValues (values : List α) (shape : List ℕ) (axis : ℕ) : Result (List α) := do
  let strides ← rowMajorStrides shape
  cumulativeAxisLoop combine strides shape axis values 0 (List.replicate shape.length 0) []

/-- A running operation along one axis, or over all elements. -/
def cumulativeValues (values : List α) (shape : List ℕ) (axis : Option Int64) :
    Result (List α) :=
  axis.elim (cumulativeFlatValues combine values none) fun axis => do
    let axis ← normalizeAxis axis shape.length
    cumulativeAxisValues combine values shape axis

end Cumulative

/-- The operation of a cumulative reduction on floating-point values. -/
def CumulativeOp.toBinary : CumulativeOp → BinaryOp
  | sum => .add
  | product => .mul

/-- One step of a running operation on 32-bit integers. -/
def CumulativeOp.i32 : CumulativeOp → Int32 → Int32 → Result Int32
  | sum, a, b => addI32 "integer cumulative sum overflow" a b
  | product, a, b =>
    checkedI32 (toI32 (a.toInt * b.toInt)) "integer cumulative product overflow"

/-- One step of a running operation on 64-bit integers. -/
def CumulativeOp.i64 : CumulativeOp → Int64 → Int64 → Result Int64
  | sum, a, b => addI64 "integer cumulative sum overflow" a b
  | product, a, b =>
    checkedI64 (toI64 (a.toInt * b.toInt)) "integer cumulative product overflow"

namespace Tensor

/-- The shape of a cumulative output: the own one, or one axis for the flattened tensor. -/
def cumulativeShape (t : Tensor) (shape : List ℕ) (axis : Option Int64) : Result (List UInt64) :=
  axis.elim (do
    let elems ← shapeProductUsize shape
    let elems ← usizeToU64 elems
    return [elems]) fun _ => .ok t.shape

/-- A running operation on a tensor. -/
def cumulativeOp (t : Tensor) (ops : FloatArith) (axis : Option Int64) (op : CumulativeOp) :
    Result Tensor := do
  let shape ← validatedShape t
  let outShape ← cumulativeShape t shape axis
  match t.data with
  | .f32 values => do
    let out ← cumulativeValues (fun a b => .ok (ops.f32 op.toBinary a b)) values shape axis
    fromDenseData .f32 outShape (.f32 out)
  | .f64 values => do
    let out ← cumulativeValues (fun a b => .ok (ops.f64 op.toBinary a b)) values shape axis
    fromDenseData .f64 outShape (.f64 out)
  | .i32 values => do
    let out ← cumulativeValues op.i32 values shape axis
    fromDenseData .i32 outShape (.i32 out)
  | .i64 values => do
    let out ← cumulativeValues op.i64 values shape axis
    fromDenseData .i64 outShape (.i64 out)

/-- Cumulative sum along one axis, or over the flattened tensor. -/
def cumsum (t : Tensor) (ops : FloatArith) (axis : Option Int64) : Result Tensor :=
  t.cumulativeOp ops axis .sum

end Tensor

end ArcadiaTio.Tio
