import ArcadiaTio.Tensor.Basic

/-!
# Rearranging tensors

Every operation here materializes its output by the same walk: an odometer runs over the output
shape, a multi-index of the input is computed from the one of the output, and the input entry at
its linear offset is pushed.  `gatherLoop` is that walk; the operations differ in the input
multi-index they compute (`permuteSource`, `broadcastSource`, `replaceAxis`, `tileSource`).
-/

namespace ArcadiaTio.Tio

open ArcadiaTio.Lib

/-! ### The walk -/

/-- The linear offset of a multi-index, its three lists read in step. -/
def linearFromIndicesFrom : List ℕ → List ℕ → List ℕ → ℕ → Result ℕ
  | index :: indices, stride :: strides, dim :: shape, linear => do
    failIf (dim ≤ index) (invalidArgument "index out of bounds")
    let term ← okOr (checkedMul usizeBits index stride) (invalidArgument "index overflow")
    let linear ← okOr (checkedAdd usizeBits linear term) (invalidArgument "index overflow")
    linearFromIndicesFrom indices strides shape linear
  | _, _, _, linear => .ok linear

/-- The place of a multi-index, with the bounds checked. -/
def linearFromIndices (indices strides shape : List ℕ) : Result ℕ := do
  failIf (indices.length ≠ strides.length ∨ indices.length ≠ shape.length)
    (invalidArgument "indices rank mismatch")
  linearFromIndicesFrom indices strides shape 0

/-- The multi-index that follows. -/
def incrementIndices (indices shape : List ℕ) : List ℕ := (RowMajor.advance shape indices).1

section Gather

variable {α : Type} (values : List α) (inputShape inStrides outShape : List ℕ)
  (source : List ℕ → List ℕ → Result (List ℕ))

/-- Push the entries for the next `n` output multi-indices.  The input multi-index is computed
from the previous one, whose memory is used again, and from the output multi-index. -/
def gatherLoop : ℕ → List ℕ → List ℕ → Result (List α)
  | 0, _, _ => .ok []
  | n + 1, inIndices, outIndices => do
    let inIndices ← source inIndices outIndices
    let inLinear ← linearFromIndices inIndices inStrides inputShape
    let value ← okOr (values[inLinear]?) (invalidArgument "index out of bounds")
    let rest ← gatherLoop n inIndices (incrementIndices outIndices outShape)
    return value :: rest

/-- Gather a whole output.  Some of the operations return an empty output before the walk, which
has no step to make then. -/
def gatherValues : Result (List α) := do
  let outElems ← shapeProductUsize outShape
  let inStrides ← rowMajorStrides inputShape
  gatherLoop values inputShape inStrides outShape source outElems
    (List.replicate inputShape.length 0) (List.replicate outShape.length 0)

end Gather

/-! ### Input multi-indices -/

/-- Write the position on each output axis at the input axis it comes from. -/
def permuteSource (axes : List ℕ) (inIndices outIndices : List ℕ) : List ℕ :=
  (axes.zip outIndices).foldl (fun inIndices p => inIndices.set p.1 p.2) inIndices

/-- Drop the axes that the input lacks, and stay at zero on an axis of length one. -/
def broadcastSource (inputShape : List ℕ) (offset : ℕ) (outIndices : List ℕ) : List ℕ :=
  (List.range inputShape.length).map fun axis =>
    if inputShape.getD axis 0 = 1 then 0 else outIndices.getD (offset + axis) 0

/-- Replace the position on one axis. -/
def replaceAxis (axis : ℕ) (position : ℕ → Result ℕ) (outIndices : List ℕ) : Result (List ℕ) := do
  let position ← position (outIndices.getD axis 0)
  return outIndices.set axis position

/-- Reduce every position by the length of its axis. -/
def tileSource (inputShape outIndices : List ℕ) : List ℕ :=
  (List.range inputShape.length).map fun axis =>
    outIndices.getD axis 0 % inputShape.getD axis 0

/-! ### Values -/

section Values

variable {α : Type} (values : List α) (inputShape : List ℕ)

/-- The values with their axes permuted. -/
def permuteValues (axes outShape : List ℕ) : Result (List α) :=
  gatherValues values inputShape outShape fun inIndices outIndices =>
    .ok (permuteSource axes inIndices outIndices)

/-- The values broadcast to a shape. -/
def broadcastValues (outShape : List ℕ) : Result (List α) := do
  let outElems ← shapeProductUsize outShape
  let inStrides ← rowMajorStrides inputShape
  let offset ← okOr (checkedSub outShape.length inputShape.length)
    (invalidArgument "broadcast rank mismatch")
  gatherLoop values inputShape inStrides outShape
    (fun _ outIndices => .ok (broadcastSource inputShape offset outIndices)) outElems
    (List.replicate inputShape.length 0) (List.replicate outShape.length 0)

/-- The values at some indices of one axis. -/
def takeAxisValues (axis : ℕ) (indices outShape : List ℕ) : Result (List α) :=
  gatherValues values inputShape outShape fun _ outIndices =>
    replaceAxis axis (fun takePos => .ok (indices.getD takePos 0)) outIndices

/-- The values with every entry of one axis repeated. -/
def repeatValues (outShape : List ℕ) (axis repeats : ℕ) : Result (List α) :=
  gatherValues values inputShape outShape fun _ outIndices =>
    replaceAxis axis (fun position => .ok (position / repeats)) outIndices

/-- The values repeated as a whole along every axis. -/
def tileValues (outShape : List ℕ) : Result (List α) :=
  gatherValues values inputShape outShape fun _ outIndices =>
    .ok (tileSource inputShape outIndices)

/-- The values with one axis reversed. -/
def flipValues (axis : ℕ) : Result (List α) :=
  gatherValues values inputShape inputShape fun _ outIndices =>
    replaceAxis axis (fun position =>
      okOr ((checkedSub (inputShape.getD axis 0) 1).bind (checkedSub · position))
        (invalidArgument "index out of bounds")) outIndices

/-- The values with one axis shifted around. -/
def rollValues (axis : ℕ) (shift : Int64) : Result (List α) := do
  let outElems ← shapeProductUsize inputShape
  let inStrides ← rowMajorStrides inputShape
  let len := inputShape.getD axis 0
  if outElems = 0 ∨ len = 0 then return []
  else
    let axisLen ← isizeTryFrom len "axis length overflow"
    let shiftNorm := (shift.toInt % axisLen).toNat
    gatherLoop values inputShape inStrides inputShape
      (fun _ outIndices =>
        replaceAxis axis (fun position => .ok ((position + len - shiftNorm) % len)) outIndices)
      outElems (List.replicate inputShape.length 0) (List.replicate inputShape.length 0)

end Values

/-! ### Operations -/

namespace Tensor

variable (t : Tensor)

/-- Permute axes and materialize row-major output. -/
def permuteAxes (axes : List Int64) : Result Tensor := do
  let shape ← validatedShape t
  failIf (axes.length ≠ shape.length)
    (invalidArgument "permute axes length must equal tensor rank")
  let normalized ← normalizeAxes axes shape.length
  let outShapeUsize := normalized.map fun axis => shape.getD axis 0
  let outShape ← shapeUsizeToU64 outShapeUsize
  let data ← t.data.mapValues fun values => permuteValues values shape normalized outShapeUsize
  tensorFromData t.dtype outShape data

/-- The axes of a rank as `isize` values. -/
def axesToIsize (axes : List ℕ) : Result (List Int64) :=
  axes.mapM fun axis => do
    let axis ← isizeTryFrom axis "rank overflow"
    return Int64.ofInt axis

/-- Swap two axes and materialize row-major output. -/
def swapAxes (axisA axisB : Int64) : Result Tensor := do
  t.validate
  let rank := t.shape.length
  let axisA ← normalizeAxis axisA rank
  let axisB ← normalizeAxis axisB rank
  let axes ← axesToIsize (List.range rank)
  t.permuteAxes ((axes.set axisA (axes.getD axisB 0)).set axisB (axes.getD axisA 0))

/-- Reverse axis order and materialize row-major output. -/
def transpose : Result Tensor := do
  t.validate
  let axes ← axesToIsize (List.range t.shape.length).reverse
  t.permuteAxes axes

/-- Move one axis to a new position and materialize row-major output. -/
def moveAxis (source destination : Int64) : Result Tensor := do
  t.validate
  let rank := t.shape.length
  let source ← normalizeAxis source rank
  let destination ← normalizeAxis destination rank
  let axes := List.range rank
  let moved := axes.getD source 0
  let axes ← axesToIsize ((axes.eraseIdx source).insertIdx destination moved)
  t.permuteAxes axes

/-- Broadcast a tensor to a shape and materialize the result. -/
def broadcastTo (shape : List UInt64) : Result Tensor := do
  let inputShape ← validatedShape t
  validateShapeRank shape
  let targetShape := shapeU64ToUsize shape
  let broadcast ← broadcastShape inputShape targetShape
  failIf (broadcast ≠ targetShape) (invalidArgument "target shape is not broadcast-compatible")
  let data ← t.data.mapValues fun values => broadcastValues values inputShape targetShape
  tensorFromData t.dtype shape data

/-- Some indices of one axis, which are within it. -/
def takeAxisNormalized (shape : List ℕ) (axis : ℕ) (indices : List ℕ) : Result Tensor := do
  forM indices fun index =>
    failIf (shape.getD axis 0 ≤ index) (invalidArgument "index out of bounds")
  let outShapeUsize := shape.set axis indices.length
  let outShape ← shapeUsizeToU64 outShapeUsize
  let data ← t.data.mapValues fun values => takeAxisValues values shape axis indices outShapeUsize
  tensorFromData t.dtype outShape data

/-- Select a half-open range along one axis. -/
def sliceAxis (axis : Int64) (start stop : UInt64) : Result Tensor := do
  let shape ← validatedShape t
  let axis ← normalizeAxis axis shape.length
  failIf (start.toNat > stop.toNat ∨ stop.toNat > shape.getD axis 0)
    (invalidArgument "slice out of bounds")
  t.takeAxisNormalized shape axis (List.range' start.toNat (stop.toNat - start.toNat))

/-- Take explicit indices along one axis. -/
def takeAxis (axis : Int64) (indices : List UInt64) : Result Tensor := do
  let shape ← validatedShape t
  let axis ← normalizeAxis axis shape.length
  t.takeAxisNormalized shape axis (indices.map UInt64.toNat)

/-- Take one index along an axis, preserving rank with axis length 1. -/
def indexAxis (axis : Int64) (index : UInt64) : Result Tensor := t.takeAxis axis [index]

/-- Repeat each element along one axis. -/
def repeatAxis (axis : Int64) (repeats : UInt64) : Result Tensor := do
  let shape ← validatedShape t
  let axis ← normalizeAxis axis shape.length
  let len ← okOr (checkedMul usizeBits (shape.getD axis 0) repeats.toNat)
    (invalidArgument "shape product overflow")
  let outShapeUsize := shape.set axis len
  let outShape ← shapeUsizeToU64 outShapeUsize
  let data ← t.data.mapValues fun values =>
    repeatValues values shape outShapeUsize axis repeats.toNat
  tensorFromData t.dtype outShape data

/-- Tile a tensor by repeat factors on each axis. -/
def tile (reps : List UInt64) : Result Tensor := do
  let shape ← validatedShape t
  failIf (reps.length ≠ shape.length)
    (invalidArgument "tile reps length must equal tensor rank")
  let outShapeUsize ← (shape.zip reps).mapM fun (dim, rep) =>
    okOr (checkedMul usizeBits dim rep.toNat) (invalidArgument "shape product overflow")
  let outShape ← shapeUsizeToU64 outShapeUsize
  let data ← t.data.mapValues fun values => tileValues values shape outShapeUsize
  tensorFromData t.dtype outShape data

/-- Reverse one axis and materialize an owned row-major output. -/
def flip (axis : Int64) : Result Tensor := do
  let shape ← validatedShape t
  let axis ← normalizeAxis axis shape.length
  let data ← t.data.mapValues fun values => flipValues values shape axis
  tensorFromData t.dtype t.shape data

/-- Circularly shift indices along one axis and materialize an owned row-major output. -/
def roll (axis : Int64) (shift : Int64) : Result Tensor := do
  let shape ← validatedShape t
  let axis ← normalizeAxis axis shape.length
  let data ← t.data.mapValues fun values => rollValues values shape axis shift
  tensorFromData t.dtype t.shape data

end Tensor

end ArcadiaTio.Tio
