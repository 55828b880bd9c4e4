import ArcadiaTio.Tensor.Ops

/-!
# Joining and splitting tensors

`concat` and `stack` walk over their output and look up, for every multi-index, the input that the
element comes from: `concat` by searching the prefix sums of the axis lengths, `stack` by the
position on the new axis.  `split` and `unstack` take ranges and single positions of one axis.
-/

namespace ArcadiaTio.Tio

open ArcadiaTio.Lib

/-! ### Inputs -/

/-- The shape and the values of one input. -/
structure DenseInput (α : Type) where
  shape : List ℕ
  values : List α

namespace TensorData

/-- The values, when they are floats. -/
def f32? : TensorData → Option (List UInt32)
  | f32 values => some values
  | _ => none

/-- The values, when they are doubles. -/
def f64? : TensorData → Option (List UInt64)
  | f64 values => some values
  | _ => none

/-- The values, when they are 32-bit integers. -/
def i32? : TensorData → Option (List Int32)
  | i32 values => some values
  | _ => none

/-- The values, when they are 64-bit integers. -/
def i64? : TensorData → Option (List Int64)
  | i64 values => some values
  | _ => none

end TensorData

/-- The inputs with their shapes and values, when all of them are of one type. -/
def denseInputs {α : Type} (values? : TensorData → Option (List α)) (tensors : List Tensor)
    (shapes : List (List ℕ)) : Result (List (DenseInput α)) :=
  (tensors.zip shapes).mapM fun p => do
    let values ← okOr (values? p.1.data) (invalidArgument "tensor payload dtype mismatch")
    return ⟨p.2, values⟩

/-- Join the payloads of one dtype by one generic function. -/
def joinData (dtype : DType) (tensors : List Tensor) (shapes : List (List ℕ))
    (join : {α : Type} → List (DenseInput α) → Result (List α)) : Result TensorData :=
  match dtype with
  | .f32 => do
    let inputs ← denseInputs TensorData.f32? tensors shapes
    .f32 <$> join inputs
  | .f64 => do
    let inputs ← denseInputs TensorData.f64? tensors shapes
    .f64 <$> join inputs
  | .i32 => do
    let inputs ← denseInputs TensorData.i32? tensors shapes
    .i32 <$> join inputs
  | .i64 => do
    let inputs ← denseInputs TensorData.i64? tensors shapes
    .i64 <$> join inputs

/-! ### Values -/

section Values

variable {α : Type}

/-- Push the entry of every output multi-index. -/
def walk (outShape : List ℕ) (entry : List ℕ → Result α) : ℕ → List ℕ → Result (List α)
  | 0, _ => .ok []
  | n + 1, outIndices => do
    let value ← entry outIndices
    let rest ← walk outShape entry n (incrementIndices outIndices outShape)
    return value :: rest

/-- The shapes, strides and values of the inputs, and the prefix sums of their axis lengths. -/
def prepareConcat (axis : ℕ) :
    List (DenseInput α) → ℕ → Result (List (List ℕ × List ℕ × List α) × List ℕ)
  | [], last => .ok ([], [last])
  | input :: inputs, last => do
    let strides ← rowMajorStrides input.shape
    let next ← okOr (checkedAdd usizeBits last (input.shape.getD axis 0))
      (invalidArgument "shape product overflow")
    let (prepared, axisPrefix) ← prepareConcat axis inputs next
    return ((input.shape, strides, input.values) :: prepared, last :: axisPrefix)

/-- The number of the input whose range has a position. -/
def findInput (axisPrefix : List ℕ) (axisIndex : ℕ) : Option ℕ :=
  (axisPrefix.zip axisPrefix.tail).findIdx? fun window =>
    window.1 ≤ axisIndex ∧ axisIndex < window.2

/-- The element of a concatenation at a multi-index. -/
def concatEntry (prepared : List (List ℕ × List ℕ × List α)) (axisPrefix : List ℕ) (axis : ℕ)
    (outIndices : List ℕ) : Result α := do
  let axisIndex := outIndices.getD axis 0
  let inputIdx ← okOr (findInput axisPrefix axisIndex) (invalidArgument "index out of bounds")
  let (shape, strides, values) ← okOr (prepared[inputIdx]?) (invalidArgument "index out of bounds")
  let localAxis := axisIndex - axisPrefix.getD inputIdx 0
  let inLinear ← linearFromIndices (outIndices.set axis localAxis) strides shape
  okOr (values[inLinear]?) (invalidArgument "index out of bounds")

/-- The values of a concatenation. -/
def concatValues (axis : ℕ) (outShape : List ℕ) (inputs : List (DenseInput α)) :
    Result (List α) := do
  let (prepared, axisPrefix) ← prepareConcat axis inputs 0
  let outElems ← shapeProductUsize outShape
  walk outShape (concatEntry prepared axisPrefix axis) outElems (List.replicate outShape.length 0)

/-- The entry of the input that the position on the new axis names, at the positions on the other
axes. -/
def stackEntry (inputs : List (DenseInput α)) (inputShape inStrides : List ℕ) (axis : ℕ)
    (outIndices : List ℕ) : Result α := do
  let input ← okOr (inputs[outIndices.getD axis 0]?) (invalidArgument "index out of bounds")
  let inLinear ← linearFromIndices (outIndices.eraseIdx axis) inStrides inputShape
  okOr (input.values[inLinear]?) (invalidArgument "index out of bounds")

/-- The values of a stack. -/
def stackValues (axis : ℕ) (outShape : List ℕ) (inputs : List (DenseInput α)) :
    Result (List α) := do
  let first ← okOr inputs.head? (invalidArgument "stack requires at least one tensor")
  let inStrides ← rowMajorStrides first.shape
  let outElems ← shapeProductUsize outShape
  walk outShape (stackEntry inputs first.shape inStrides axis) outElems
    (List.replicate outShape.length 0)

/-- The values of a range of one axis. -/
def sliceAxisRangeValues (values : List α) (inputShape : List ℕ) (axis start : ℕ)
    (outShape : List ℕ) : Result (List α) :=
  gatherValues values inputShape outShape fun _ outIndices =>
    replaceAxis axis (fun position => okOr (checkedAdd usizeBits start position)
      (invalidArgument "index overflow")) outIndices

end Values

/-! ### Operations -/

namespace Tensor

/-- The checks of `concat` on its inputs, with the running length of the joined axis. -/
def concatShapes (dtype : DType) (firstShape : List ℕ) (axis : ℕ) :
    List Tensor → ℕ → Result (ℕ × List (List ℕ))
  | [], total => .ok (total, [])
  | tensor :: tensors, total => do
    let shape ← validatedShape tensor
    failIf (tensor.dtype ≠ dtype) (invalidArgument "tensor dtype mismatch")
    failIf (shape.length ≠ firstShape.length) (invalidArgument "concat rank mismatch")
    failIf (∃ dimAxis ∈ List.range firstShape.length,
        dimAxis ≠ axis ∧ shape.getD dimAxis 0 ≠ firstShape.getD dimAxis 0)
      (invalidArgument "concat shapes mismatch")
    let total ← okOr (checkedAdd usizeBits total (shape.getD axis 0))
      (invalidArgument "shape product overflow")
    let (total, shapes) ← concatShapes dtype firstShape axis tensors total
    return (total, shape :: shapes)

/-- Concatenate tensors along one existing axis. -/
def concat (tensors : List Tensor) (axis : Int64) : Result Tensor := do
  let first ← okOr tensors.head? (invalidArgument "concat requires at least one tensor")
  let firstShape ← validatedShape first
  let axis ← normalizeAxis axis firstShape.length
  let (total, shapes) ← concatShapes first.dtype firstShape axis tensors 0
  let outShapeUsize := firstShape.set axis total
  let outShape ← shapeUsizeToU64 outShapeUsize
  let data ← joinData first.dtype tensors shapes fun inputs =>
    concatValues axis outShapeUsize inputs
  tensorFromData first.dtype outShape data

/-- The checks of `stack` on its inputs. -/
def stackShapes (dtype : DType) (firstShape : List ℕ) (tensors : List Tensor) :
    Result (List (List ℕ)) :=
  tensors.mapM fun tensor => do
    let shape ← validatedShape tensor
    failIf (tensor.dtype ≠ dtype) (invalidArgument "tensor dtype mismatch")
    failIf (shape ≠ firstShape) (invalidArgument "stack shapes mismatch")
    return shape

/-- Stack tensors along a new axis. -/
def stack (tensors : List Tensor) (axis : Int64) : Result Tensor := do
  let first ← okOr tensors.head? (invalidArgument "stack requires at least one tensor")
  let firstShape ← validatedShape first
  let insertAxis ← normalizeInsertAxis axis firstShape.length
  let shapes ← stackShapes first.dtype firstShape tensors
  let outShapeUsize := firstShape.insertIdx insertAxis tensors.length
  let outShape ← shapeUsizeToU64 outShapeUsize
  let data ← joinData first.dtype tensors shapes fun inputs =>
    stackValues insertAxis outShapeUsize inputs
  tensorFromData first.dtype outShape data

variable (t : Tensor)

/-- A range of one axis, with bounds that are within it. -/
def sliceAxisRangeNormalized (shape : List ℕ) (axis start stop : ℕ) : Result Tensor := do
  failIf (start > stop ∨ stop > shape.getD axis 0) (invalidArgument "slice out of bounds")
  let outShapeUsize := shape.set axis (stop - start)
  let outShape ← shapeUsizeToU64 outShapeUsize
  let data ← t.data.mapValues fun values =>
    sliceAxisRangeValues values shape axis start outShapeUsize
  tensorFromData t.dtype outShape data

/-- The slices of the sections, one after the other. -/
def splitFrom (shape : List ℕ) (axis : ℕ) : List UInt64 → ℕ → Result (List Tensor)
  | [], _ => .ok []
  | len :: sections, start => do
    let stop ← okOr (checkedAdd usizeBits start len.toNat)
      (invalidArgument "shape product overflow")
    let part ← t.sliceAxisRangeNormalized shape axis start stop
    let parts ← splitFrom shape axis sections stop
    return part :: parts

/-- Split one axis into explicit section lengths. -/
def split (axis : Int64) (sections : List UInt64) : Result (List Tensor) := do
  failIf (sections = []) (invalidArgument "split sections cannot be empty")
  let shape ← validatedShape t
  let axis ← normalizeAxis axis shape.length
  let total ← sections.foldlM (fun acc value => okOr (checkedAdd usizeBits acc value.toNat)
    (invalidArgument "shape product overflow")) 0
  failIf (total ≠ shape.getD axis 0)
    (invalidArgument "split sections must sum to axis length")
  t.splitFrom shape axis sections 0

/-- Remove a length-1 axis. -/
def squeezeAxis (axis : Int64) : Result Tensor := do
  t.validate
  let axis ← normalizeAxis axis t.shape.length
  failIf (t.shape.getD axis 0 ≠ 1) (invalidArgument "squeeze axis must have length 1")
  let shape := t.shape.eraseIdx axis
  failIf (shape = []) (invalidArgument "squeeze would produce a rank-0 tensor")
  tensorFromData t.dtype shape t.data

/-- Split a tensor into one tensor per index along an axis. -/
def unstack (axis : Int64) : Result (List Tensor) := do
  let shape ← validatedShape t
  failIf (shape.length = 1)
    (invalidArgument "unstack rank-1 tensor would produce rank-0 outputs")
  let axis ← normalizeAxis axis shape.length
  (List.range (shape.getD axis 0)).mapM fun index => do
    let indexed ← t.takeAxisNormalized shape axis [index]
    indexed.squeezeAxis (Int64.ofInt axis)

end Tensor

end ArcadiaTio.Tio
