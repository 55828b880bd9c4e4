import ArcadiaTio.Lib.Checked
import ArcadiaTio.Lib.Fallible
import ArcadiaTio.Lib.RowMajor

/-!
# Tensors

An owned, dense, row-major tensor: a dtype, a shape and a payload.  `validate` checks that the
three agree; every operation runs it on its inputs and on its output.  Floating-point payloads
are kept as bit patterns.
-/

namespace ArcadiaTio.Tio

open ArcadiaTio.Lib

/-! ### Errors -/

/-- Error code surfaced by the C ABI. -/
inductive ErrorCode
  | ok | invalidArgument | unimplemented | io | flatbuffers
  | unknown (value : Int32)
deriving DecidableEq, Repr

/-- Owned safe wrapper error. -/
structure TioError where
  code : ErrorCode
  message : String
deriving DecidableEq, Repr

/-- An error about an argument. -/
def invalidArgument (message : String) : TioError := ⟨.invalidArgument, message⟩

/-- Result type returned by the safe wrapper. -/
abbrev Result := Except TioError

/-! ### Values -/

/-- The width of the platform's `usize` and `isize`. -/
def usizeBits : ℕ := 64

/-- Payload dtype. -/
inductive DType
  | f32 | f64 | i32 | i64
deriving DecidableEq, Repr

/-- The name of a dtype in the text of an error. -/
def DType.debug : DType → String
  | f32 => "F32"
  | f64 => "F64"
  | i32 => "I32"
  | i64 => "I64"

/-- A scalar with its dtype. -/
inductive Scalar
  | f32 (bits : UInt32)
  | f64 (bits : UInt64)
  | i32 (value : Int32)
  | i64 (value : Int64)
deriving DecidableEq

/-- Owned tensor payload. -/
inductive TensorData
  | f32 (values : List UInt32)
  | f64 (values : List UInt64)
  | i32 (values : List Int32)
  | i64 (values : List Int64)
deriving DecidableEq

namespace TensorData

/-- The type of the elements. -/
def dtype : TensorData → DType
  | f32 _ => .f32
  | f64 _ => .f64
  | i32 _ => .i32
  | i64 _ => .i64

/-- How many elements there are. -/
def len : TensorData → ℕ
  | f32 values => values.length
  | f64 values => values.length
  | i32 values => values.length
  | i64 values => values.length

/-- The values of a payload, each with its dtype. -/
def scalars : TensorData → List Scalar
  | f32 values => values.map .f32
  | f64 values => values.map .f64
  | i32 values => values.map .i32
  | i64 values => values.map .i64

/-- Rearrange the values of a payload of any dtype by one generic function. -/
def mapValues (f : {α : Type} → List α → Result (List α)) : TensorData → Result TensorData
  | f32 values => f32 <$> f values
  | f64 values => f64 <$> f values
  | i32 values => i32 <$> f values
  | i64 values => i64 <$> f values

@[simp] lemma length_scalars (d : TensorData) : d.scalars.length = d.len := by
  cases d <;> simp [scalars, len]

end TensorData

/-- An owned row-major tensor. -/
structure Tensor where
  dtype : DType
  shape : List UInt64
  data : TensorData
deriving DecidableEq

/-! ### Validation -/

/-- The number of elements of a shape, as a running product. -/
def shapeElementLen (shape : List UInt64) : Result ℕ :=
  shape.foldlM (fun product dim => okOr (checkedMul usizeBits product dim.toNat)
    (invalidArgument "shape element count overflows usize")) 1

/-- The parts of a tensor fit each other. -/
def validateTensorParts (dtype : DType) (shape : List UInt64) (data : TensorData) :
    Result Unit := do
  failIf (shape = []) (invalidArgument "tensor rank must be >= 1")
  failIf (data.dtype ≠ dtype) (invalidArgument
    ("tensor dtype " ++ dtype.debug ++ " does not match payload dtype " ++ data.dtype.debug))
  let expected ← shapeElementLen shape
  failIf (expected ≠ data.len) (invalidArgument
    ("tensor data length " ++ toString data.len ++ " does not match shape element count " ++
      toString expected))

/-- The parts of the tensor fit each other. -/
def Tensor.validate (t : Tensor) : Result Unit := validateTensorParts t.dtype t.shape t.data

/-- A shape has an axis. -/
def validateShapeRank (shape : List UInt64) : Result Unit :=
  failIf (shape = []) (invalidArgument "tensor rank must be >= 1")

/-- The tensor of some data, when it fits the shape. -/
def tensorFromData (dtype : DType) (shape : List UInt64) (data : TensorData) : Result Tensor := do
  validateTensorParts dtype shape data
  return { dtype, shape, data }

/-! ### Shapes as machine words -/

/-- A stored shape as lengths of the host. -/
def shapeU64ToUsize (shape : List UInt64) : List ℕ := shape.map UInt64.toNat

/-- A length as it is stored. -/
def usizeToU64 (value : ℕ) : Result UInt64 := do
  failIf (2 ^ 64 ≤ value) (invalidArgument "value does not fit u64")
  return value.toUInt64

/-- A shape as it is stored. -/
def shapeUsizeToU64 (shape : List ℕ) : Result (List UInt64) := shape.mapM usizeToU64

/-- The axis lengths of a tensor. -/
def Tensor.dims (t : Tensor) : List ℕ := shapeU64ToUsize t.shape

/-- The shape of a tensor that is well formed. -/
def validatedShape (t : Tensor) : Result (List ℕ) := do
  t.validate
  return t.dims

/-- The elements of a shape, when the product fits a word. -/
def shapeProductUsize (shape : List ℕ) : Result ℕ :=
  shape.foldlM (fun product dim => okOr (checkedMul usizeBits product dim)
    (invalidArgument "shape product overflow")) 1

/-- The distance of two neighbours along each axis, from the last axis on. -/
def rowMajorStrides : List ℕ → Result (List ℕ)
  | [] => .ok []
  | [_] => .ok [1]
  | _ :: n :: shape => do
    let strides ← rowMajorStrides (n :: shape)
    let stride ← okOr (checkedMul usizeBits n (strides.headD 1)) (invalidArgument "stride overflow")
    return stride :: strides

/-! ### Axes -/

/-- A value of type `isize`, from a `usize`. -/
def isizeTryFrom (value : ℕ) (message : String) : Result ℤ := do
  failIf (2 ^ 63 ≤ value) (invalidArgument message)
  return value

/-- Addition of two `isize` values. -/
def checkedAddIsize (a b : ℤ) : Option ℤ :=
  if -2 ^ 63 ≤ a + b ∧ a + b < 2 ^ 63 then some (a + b) else none

/-- An axis, counted from the end when it is negative. -/
def normalizeAxis (axis : Int64) (rank : ℕ) : Result ℕ := do
  let rank ← isizeTryFrom rank "rank overflow"
  let normalized ←
    if axis.toInt < 0 then okOr (checkedAddIsize rank axis.toInt) (invalidArgument "axis overflow")
    else pure axis.toInt
  failIf (normalized < 0 ∨ rank ≤ normalized) (invalidArgument "axis out of bounds")
  return normalized.toNat

/-- A place for a new axis, counted from behind the end when it is negative. -/
def normalizeInsertAxis (axis : Int64) (rank : ℕ) : Result ℕ := do
  let rank ← isizeTryFrom rank "rank overflow"
  let normalized ←
    if axis.toInt < 0 then
      okOr ((checkedAddIsize rank axis.toInt).bind (checkedAddIsize · 1))
        (invalidArgument "axis overflow")
    else pure axis.toInt
  failIf (normalized < 0 ∨ rank < normalized) (invalidArgument "axis out of bounds")
  return normalized.toNat

/-- Normalize axes one after the other; a repeated one is an error. -/
def normalizeAxesFrom (rank : ℕ) : List Int64 → List ℕ → Result (List ℕ)
  | [], out => .ok out
  | axis :: axes, out => do
    let normalized ← normalizeAxis axis rank
    failIf (normalized ∈ out) (invalidArgument "duplicate axis")
    normalizeAxesFrom rank axes (out ++ [normalized])

/-- Different axes, in the order they are given. -/
def normalizeAxes (axes : List Int64) (rank : ℕ) : Result (List ℕ) :=
  normalizeAxesFrom rank axes []

/-! ### Broadcasting shapes -/

/-- The length of the axis that stands `offset` places before the end; a missing axis counts as
one of length one. -/
def dimFromEnd (shape : List ℕ) (offset : ℕ) : ℕ :=
  ((checkedSub shape.length (offset + 1)).map fun index => shape.getD index 1).getD 1

/-- The shape that two shapes are broadcast to. -/
def broadcastShape (lhs rhs : List ℕ) : Result (List ℕ) := do
  let out ← (List.range (max lhs.length rhs.length)).mapM fun offset =>
    let lhsDim := dimFromEnd lhs offset
    let rhsDim := dimFromEnd rhs offset
    if lhsDim = rhsDim ∨ lhsDim = 1 then Except.ok rhsDim
    else if rhsDim = 1 then Except.ok lhsDim
    else Except.error (invalidArgument "shapes are not broadcast-compatible")
  return out.reverse

end ArcadiaTio.Tio
