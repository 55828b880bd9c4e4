import ArcadiaTio.Tensor.Broadcast

/-!
# Element-wise arithmetic

A binary operation broadcasts while it computes: the two offsets come from the output multi-index
by a loop of their own (`broadcastLinearIndex`).  `binaryBroadcastValues_eq` shows that this is the
pointwise operation on the two broadcast payloads.  Floating-point operations are a parameter, as
functions of bit patterns; integer operations are checked.
-/

namespace ArcadiaTio.Tio

open ArcadiaTio.Lib ArcadiaTio.Lib.RowMajor

/-! ### Scalars -/

/-- The operations with a scalar. -/
inductive ScalarOp
  | add | sub | mul | div
deriving DecidableEq

/-- The operations of two tensors. -/
inductive BinaryOp
  | add | sub | mul | div
deriving DecidableEq

/-- The operation on two elements that an operation with a scalar does. -/
def ScalarOp.toBinary : ScalarOp → BinaryOp
  | add => .add
  | sub => .sub
  | mul => .mul
  | div => .div

/-- The floating-point operations of the platform, on bit patterns. -/
structure FloatArith where
  f32 : BinaryOp → UInt32 → UInt32 → UInt32
  f64 : BinaryOp → UInt64 → UInt64 → UInt64

/-- One operator of a type with arithmetic. -/
def BinaryOp.arith {α : Type} [Add α] [Sub α] [Mul α] [Div α] : BinaryOp → α → α → α
  | .add => (· + ·)
  | .sub => (· - ·)
  | .mul => (· * ·)
  | .div => (· / ·)

/-- The operations of IEEE 754 in the two widths. -/
def FloatArith.ieee : FloatArith where
  f32 op lhs rhs := (op.arith (Float32.ofBits lhs) (Float32.ofBits rhs)).toBits
  f64 op lhs rhs := (op.arith (Float.ofBits lhs) (Float.ofBits rhs)).toBits

/-- The `i32` of an exact value, if the value is one. -/
def toI32 (value : ℤ) : Option Int32 :=
  if -2 ^ 31 ≤ value ∧ value < 2 ^ 31 then some (Int32.ofInt value) else none

/-- The `i64` of an exact value, if the value is one. -/
def toI64 (value : ℤ) : Option Int64 :=
  if -2 ^ 63 ≤ value ∧ value < 2 ^ 63 then some (Int64.ofInt value) else none

/-- Division that rounds towards zero and rejects a zero divisor. -/
def exactDiv (lhs rhs : ℤ) : Option ℤ := if rhs = 0 then none else some (lhs.tdiv rhs)

/-- The value, or an error when it does not fit 32 bits. -/
def checkedI32 (value : Option Int32) (message : String) : Result Int32 :=
  okOr value (invalidArgument message)

/-- The value, or an error when it does not fit 64 bits. -/
def checkedI64 (value : Option Int64) (message : String) : Result Int64 :=
  okOr value (invalidArgument message)

/-- An operation of two 32-bit elements. -/
def binaryI32 (lhs rhs : Int32) : BinaryOp → Result Int32
  | .add => checkedI32 (toI32 (lhs.toInt + rhs.toInt)) "integer addition overflow"
  | .sub => checkedI32 (toI32 (lhs.toInt - rhs.toInt)) "integer subtraction overflow"
  | .mul => checkedI32 (toI32 (lhs.toInt * rhs.toInt)) "integer multiplication overflow"
  | .div => checkedI32 ((exactDiv lhs.toInt rhs.toInt).bind toI32) "integer division failed"

/-- An operation of two 64-bit elements. -/
def binaryI64 (lhs rhs : Int64) : BinaryOp → Result Int64
  | .add => checkedI64 (toI64 (lhs.toInt + rhs.toInt)) "integer addition overflow"
  | .sub => checkedI64 (toI64 (lhs.toInt - rhs.toInt)) "integer subtraction overflow"
  | .mul => checkedI64 (toI64 (lhs.toInt * rhs.toInt)) "integer multiplication overflow"
  | .div => checkedI64 ((exactDiv lhs.toInt rhs.toInt).bind toI64) "integer division failed"

/-- An operation of a 32-bit element with a scalar. -/
def scalarI32 (lhs rhs : Int32) : ScalarOp → Result Int32
  | .add => checkedI32 (toI32 (lhs.toInt + rhs.toInt)) "integer addition overflow"
  | .sub => checkedI32 (toI32 (lhs.toInt - rhs.toInt)) "integer subtraction overflow"
  | .mul => checkedI32 (toI32 (lhs.toInt * rhs.toInt)) "integer multiplication overflow"
  | .div => checkedI32 ((exactDiv lhs.toInt rhs.toInt).bind toI32) "integer division failed"

/-- An operation of a 64-bit element with a scalar. -/
def scalarI64 (lhs rhs : Int64) : ScalarOp → Result Int64
  | .add => checkedI64 (toI64 (lhs.toInt + rhs.toInt)) "integer addition overflow"
  | .sub => checkedI64 (toI64 (lhs.toInt - rhs.toInt)) "integer subtraction overflow"
  | .mul => checkedI64 (toI64 (lhs.toInt * rhs.toInt)) "integer multiplication overflow"
  | .div => checkedI64 ((exactDiv lhs.toInt rhs.toInt).bind toI64) "integer division failed"

/-- The exact result of an operation on integers. -/
def BinaryOp.exact : BinaryOp → ℤ → ℤ → Option ℤ
  | add, x, y => some (x + y)
  | sub, x, y => some (x - y)
  | mul, x, y => some (x * y)
  | div, x, y => if y = 0 then none else some (x.tdiv y)

lemma toI32_eq_some {value : ℤ} {r : Int32} : toI32 value = some r ↔ r.toInt = value := by
  have hlow := r.le_toInt
  have hhigh := r.toInt_lt
  rw [toI32]
  constructor
  · intro h
    split at h
    · rename_i hrange
      cases h
      exact Int32.toInt_ofInt_of_le hrange.1 hrange.2
    · cases h
  · rintro rfl
    rw [if_pos ⟨hlow, hhigh⟩, Int32.ofInt_toInt]

lemma toI64_eq_some {value : ℤ} {r : Int64} : toI64 value = some r ↔ r.toInt = value := by
  have hlow := r.le_toInt
  have hhigh := r.toInt_lt
  rw [toI64]
  constructor
  · intro h
    split at h
    · rename_i hrange
      cases h
      exact Int64.toInt_ofInt_of_le hrange.1 hrange.2
    · cases h
  · rintro rfl
    rw [if_pos ⟨hlow, hhigh⟩, Int64.ofInt_toInt]

lemma exactDiv_bind_eq_some {α : Type} {x y : ℤ} {f : ℤ → Option α} {r : α} :
    (exactDiv x y).bind f = some r ↔ ∃ v, BinaryOp.div.exact x y = some v ∧ f v = some r :=
  Option.bind_eq_some_iff

lemma binaryI32_eq_ok {x y r : Int32} {op : BinaryOp} :
    binaryI32 x y op = .ok r ↔ op.exact x.toInt y.toInt = some r.toInt := by
  cases op <;>
    simp only [binaryI32, checkedI32, okOr_eq_ok, exactDiv_bind_eq_some, toI32_eq_some]
  case div => exact ⟨fun ⟨v, hv, hr⟩ => hr ▸ hv, fun h => ⟨_, h, rfl⟩⟩
  all_goals
    simp only [BinaryOp.exact, Option.some.injEq]
    exact eq_comm

lemma binaryI64_eq_ok {x y r : Int64} {op : BinaryOp} :
    binaryI64 x y op = .ok r ↔ op.exact x.toInt y.toInt = some r.toInt := by
  cases op <;>
    simp only [binaryI64, checkedI64, okOr_eq_ok, exactDiv_bind_eq_some, toI64_eq_some]
  case div => exact ⟨fun ⟨v, hv, hr⟩ => hr ▸ hv, fun h => ⟨_, h, rfl⟩⟩
  all_goals
    simp only [BinaryOp.exact, Option.some.injEq]
    exact eq_comm

lemma scalarI32_eq {x y : Int32} {op : ScalarOp} :
    scalarI32 x y op = binaryI32 x y op.toBinary := by
  cases op <;> rfl

lemma scalarI64_eq {x y : Int64} {op : ScalarOp} :
    scalarI64 x y op = binaryI64 x y op.toBinary := by
  cases op <;> rfl

/-! ### Broadcasting while computing -/

/-- The offset of an output multi-index in an input, its lists read in step. -/
def broadcastLinearFrom : List ℕ → List ℕ → List ℕ → ℕ → Result ℕ
  | outIndex :: outIndices, dim :: inShape, stride :: inStrides, inLinear => do
    let index := if dim = 1 then 0 else outIndex
    failIf (dim ≤ index) (invalidArgument "broadcast index out of bounds")
    let term ← okOr (checkedMul usizeBits index stride) (invalidArgument "index overflow")
    let inLinear ← okOr (checkedAdd usizeBits inLinear term) (invalidArgument "index overflow")
    broadcastLinearFrom outIndices inShape inStrides inLinear
  | _, _, _, inLinear => .ok inLinear

/-- The place in a broadcast tensor that a multi-index of the result reads. -/
def broadcastLinearIndex (outIndices inShape inStrides : List ℕ) (offset : ℕ) : Result ℕ :=
  broadcastLinearFrom (outIndices.drop offset) inShape inStrides 0

section Loop

variable {α : Type} (lhs : List α) (lhsShape lhsStrides : List ℕ) (rhs : List α)
  (rhsShape rhsStrides : List ℕ) (outShape : List ℕ) (lhsOffset rhsOffset : ℕ)
  (op : α → α → Result α)

/-- Compute the entries of the next `n` output multi-indices. -/
def binaryLoop : ℕ → List ℕ → Result (List α)
  | 0, _ => .ok []
  | n + 1, outIndices => do
    let lhsLinear ← broadcastLinearIndex outIndices lhsShape lhsStrides lhsOffset
    let rhsLinear ← broadcastLinearIndex outIndices rhsShape rhsStrides rhsOffset
    let lhsValue ← okOr (lhs[lhsLinear]?) (invalidArgument "index out of bounds")
    let rhsValue ← okOr (rhs[rhsLinear]?) (invalidArgument "index out of bounds")
    let value ← op lhsValue rhsValue
    let rest ← binaryLoop n (incrementIndices outIndices outShape)
    return value :: rest

/-- The values of an operation of two broadcast tensors. -/
def binaryBroadcastValues : Result (List α) := do
  let outElems ← shapeProductUsize outShape
  let lhsStrides ← rowMajorStrides lhsShape
  let rhsStrides ← rowMajorStrides rhsShape
  let lhsOffset ← okOr (checkedSub outShape.length lhsShape.length)
    (invalidArgument "broadcast rank mismatch")
  let rhsOffset ← okOr (checkedSub outShape.length rhsShape.length)
    (invalidArgument "broadcast rank mismatch")
  binaryLoop lhs lhsShape lhsStrides rhs rhsShape rhsStrides outShape lhsOffset rhsOffset op
    outElems (List.replicate outShape.length 0)

end Loop

/-! ### Operations -/

section Operations

variable (ops : FloatArith)

/-- Build a dense tensor and validate that its shape matches its values. -/
abbrev fromDenseData : DType → List UInt64 → TensorData → Result Tensor := tensorFromData

/-- An operation of two tensors, broadcast to one shape. -/
def binaryOp (lhs rhs : Tensor) (op : BinaryOp) : Result Tensor := do
  let lhsShape ← validatedShape lhs
  let rhsShape ← validatedShape rhs
  failIf (lhs.dtype ≠ rhs.dtype) (invalidArgument "tensor dtype mismatch")
  let outShapeUsize ← broadcastShape lhsShape rhsShape
  let outShape ← shapeUsizeToU64 outShapeUsize
  match lhs.data, rhs.data with
  | .f32 lhsValues, .f32 rhsValues => do
    let values ← binaryBroadcastValues lhsValues lhsShape rhsValues rhsShape outShapeUsize
      fun a b => .ok (ops.f32 op a b)
    fromDenseData .f32 outShape (.f32 values)
  | .f64 lhsValues, .f64 rhsValues => do
    let values ← binaryBroadcastValues lhsValues lhsShape rhsValues rhsShape outShapeUsize
      fun a b => .ok (ops.f64 op a b)
    fromDenseData .f64 outShape (.f64 values)
  | .i32 lhsValues, .i32 rhsValues => do
    let values ← binaryBroadcastValues lhsValues lhsShape rhsValues rhsShape outShapeUsize
      fun a b => binaryI32 a b op
    fromDenseData .i32 outShape (.i32 values)
  | .i64 lhsValues, .i64 rhsValues => do
    let values ← binaryBroadcastValues lhsValues lhsShape rhsValues rhsShape outShapeUsize
      fun a b => binaryI64 a b op
    fromDenseData .i64 outShape (.i64 values)
  | _, _ => .error (invalidArgument "tensor payload dtype mismatch")

/-- Add, subtract, multiply or divide with a scalar. -/
def scalarOp (t : Tensor) (rhs : Scalar) (op : ScalarOp) : Result Tensor := do
  t.validate
  match t.data, rhs with
  | .f32 values, .f32 rhs =>
    fromDenseData .f32 t.shape (.f32 (values.map fun value => ops.f32 op.toBinary value rhs))
  | .f64 values, .f64 rhs =>
    fromDenseData .f64 t.shape (.f64 (values.map fun value => ops.f64 op.toBinary value rhs))
  | .i32 values, .i32 rhs => do
    let values ← values.mapM fun value => scalarI32 value rhs op
    fromDenseData .i32 t.shape (.i32 values)
  | .i64 values, .i64 rhs => do
    let values ← values.mapM fun value => scalarI64 value rhs op
    fromDenseData .i64 t.shape (.i64 values)
  | _, _ => .error (invalidArgument "scalar dtype mismatch")

end Operations

/-! ### The walk computes pointwise -/

section Pointwise

variable {α : Type} {lhs rhs lhsOut rhsOut : List α} {lhsShape rhsShape outShape : List ℕ}

lemma broadcastLinearFrom_eq {inShape outIndices : List ℕ} {inLinear : ℕ}
    (h : InBounds inShape (List.zipWith (fun n i => if n = 1 then 0 else i) inShape outIndices))
    (hlt : inLinear + ravel inShape
      (List.zipWith (fun n i => if n = 1 then 0 else i) inShape outIndices) < 2 ^ usizeBits) :
    broadcastLinearFrom outIndices inShape (strides inShape) inLinear = .ok (inLinear +
      ravel inShape (List.zipWith (fun n i => if n = 1 then 0 else i) inShape outIndices)) := by
  induction inShape generalizing outIndices inLinear with
  | nil => cases outIndices <;> rfl
  | cons n inShape ih =>
    obtain _ | ⟨i, outIndices⟩ := outIndices
    · exact absurd h not_inBounds_cons_nil
    rw [List.zipWith_cons_cons] at h hlt ⊢
    obtain ⟨hi, hrest⟩ := inBounds_cons.mp h
    rw [ravel] at hlt ⊢
    rw [strides, broadcastLinearFrom, failIf_neg (not_le.mpr hi), ok_bind, checkedMul_of_lt (by omega), okOr_some, ok_bind,
      checkedAdd_of_lt (by omega), okOr_some, ok_bind, ih hrest (by omega), Nat.add_assoc]

/-- The offset is the one of the broadcast source. -/
lemma broadcastLinearIndex_eq {inShape outIndices : List ℕ}
    (h : BroadcastsTo inShape outShape) (hlt : inShape.prod < 2 ^ usizeBits)
    (hindex : InBounds outShape outIndices) :
    broadcastLinearIndex outIndices inShape (strides inShape) (outShape.length - inShape.length) =
      .ok (ravel inShape (broadcastIndex inShape outIndices)) := by
  have hlen := hindex.length_eq
  have hbounds : InBounds inShape (broadcastIndex inShape outIndices) := by
    rw [← broadcastSource_eq (by rw [hlen]; exact h.1), hlen]
    exact inBounds_broadcastSource h hindex
  have hravel := ravel_lt hbounds
  rw [broadcastIndex, hlen] at hbounds hravel ⊢
  rw [broadcastLinearIndex, broadcastLinearFrom_eq hbounds (by omega), Nat.zero_add]

/-- The walk from the `k`-th output multi-index on computes the operation on the rest of the two
broadcast arrays. -/
lemma binaryLoop_eq (op : α → α → Result α)
    (hlhsTo : BroadcastsTo lhsShape outShape) (hrhsTo : BroadcastsTo rhsShape outShape)
    (hlhsLt : lhsShape.prod < 2 ^ usizeBits) (hrhsLt : rhsShape.prod < 2 ^ usizeBits)
    (hlhs : Gathered lhsShape outShape (broadcastIndex lhsShape) lhs lhsOut)
    (hrhs : Gathered rhsShape outShape (broadcastIndex rhsShape) rhs rhsOut) {n k : ℕ}
    (outIndices : List ℕ) (hk : k + n = outShape.prod)
    (hout : n ≠ 0 → outIndices = unravel outShape k) :
    binaryLoop lhs lhsShape (strides lhsShape) rhs rhsShape (strides rhsShape) outShape
      (outShape.length - lhsShape.length) (outShape.length - rhsShape.length) op n outIndices =
      ((lhsOut.drop k).zip (rhsOut.drop k)).mapM fun p => op p.1 p.2 := by
  induction n generalizing k outIndices with
  | zero =>
    have hnil : lhsOut.drop k = [] := List.drop_eq_nil_of_le (by rw [hlhs.length_eq]; omega)
    rw [hnil]
    rfl
  | succ n ih =>
    obtain rfl := hout (Nat.succ_ne_zero n)
    have hbounds : InBounds outShape (unravel outShape k) := inBounds_unravel (by omega)
    have hravel : ravel outShape (unravel outShape k) = k := ravel_unravel (by omega)
    have hlhsLen : k < lhsOut.length := by rw [hlhs.length_eq]; omega
    have hrhsLen : k < rhsOut.length := by rw [hrhs.length_eq]; omega
    have hlhsEntry := hlhs.entry _ hbounds
    have hrhsEntry := hrhs.entry _ hbounds
    rw [hravel] at hlhsEntry hrhsEntry
    rw [binaryLoop, broadcastLinearIndex_eq hlhsTo hlhsLt hbounds, ok_bind,
      broadcastLinearIndex_eq hrhsTo hrhsLt hbounds, ok_bind, ← hlhsEntry, ← hrhsEntry,
      List.getElem?_eq_getElem hlhsLen, List.getElem?_eq_getElem hrhsLen, okOr_some, ok_bind,
      okOr_some, ok_bind, List.drop_eq_getElem_cons hlhsLen, List.drop_eq_getElem_cons hrhsLen,
      List.zip_cons_cons, List.mapM_cons, ih (k := k + 1)
        (incrementIndices (unravel outShape k) outShape) (by omega)
        fun hn => advance_unravel (by omega)]

lemma binaryBroadcastValues_eq {op : α → α → Result α}
    (hlhsTo : BroadcastsTo lhsShape outShape) (hrhsTo : BroadcastsTo rhsShape outShape)
    (hlhsLt : lhsShape.prod < 2 ^ usizeBits) (hrhsLt : rhsShape.prod < 2 ^ usizeBits)
    (hlhsStrides : StridesFit lhsShape) (hrhsStrides : StridesFit rhsShape)
    (hfits : ProductFits outShape)
    (hlhs : Gathered lhsShape outShape (broadcastIndex lhsShape) lhs lhsOut)
    (hrhs : Gathered rhsShape outShape (broadcastIndex rhsShape) rhs rhsOut) :
    binaryBroadcastValues lhs lhsShape rhs rhsShape outShape op =
      (lhsOut.zip rhsOut).mapM fun p => op p.1 p.2 := by
  have hloop := binaryLoop_eq op hlhsTo hrhsTo hlhsLt hrhsLt hlhs hrhs
    (k := 0) (n := outShape.prod) (List.replicate outShape.length 0) (by omega)
    fun _ => unravel_zero.symm
  rw [binaryBroadcastValues, shapeProductUsize_eq_ok.mpr ⟨rfl, hfits⟩, ok_bind,
    rowMajorStrides_eq_ok.mpr ⟨rfl, hlhsStrides⟩, ok_bind,
    rowMajorStrides_eq_ok.mpr ⟨rfl, hrhsStrides⟩, ok_bind, checkedSub, if_pos hlhsTo.1, okOr_some,
    ok_bind, checkedSub, if_pos hrhsTo.1, okOr_some, ok_bind, hloop, List.drop_zero,
    List.drop_zero]

end Pointwise

end ArcadiaTio.Tio
