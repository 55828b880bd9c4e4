import ArcadiaTio.Lib.InPlace
import ArcadiaTio.Ocb.Bundle.Execution

/-!
# Fields of fixed-width records

A fixed-binary column is a list of records of one width.  A projection takes little-endian numbers
from the same place of every record and writes them over the beginning of a buffer.  It succeeds
exactly when every field lies in the record and every buffer has room, and writes nothing else
(`FixedBinaryRecordView.run_projectFields`).
-/

namespace ArcadiaTio.Ocb

open ArcadiaTio.Lib

/-! ### Field types -/

/-- The numbers that a field of a record can be. -/
inductive FixedBinaryFieldType
  | u8 | i8 | u16Le | i16Le | u32Le | i32Le | u64Le | i64Le
deriving DecidableEq

namespace FixedBinaryFieldType

/-- The numbers of a field type. -/
abbrev Value : FixedBinaryFieldType → Type
  | u8 => UInt8
  | i8 => Int8
  | u16Le => UInt16
  | i16Le => Int16
  | u32Le => UInt32
  | i32Le => Int32
  | u64Le => UInt64
  | i64Le => Int64

/-- The bytes of a field. -/
def byteWidth : FixedBinaryFieldType → ℕ
  | u8 | i8 => 1
  | u16Le | i16Le => 2
  | u32Le | i32Le => 4
  | u64Le | i64Le => 8

/-- The number with the given little-endian bytes. -/
def fromLeBytes : (type : FixedBinaryFieldType) → List UInt8 → type.Value
  | u8, bytes => (leNat bytes).toUInt8
  | i8, bytes => (leNat bytes).toUInt8.toInt8
  | u16Le, bytes => (leNat bytes).toUInt16
  | i16Le, bytes => (leNat bytes).toUInt16.toInt16
  | u32Le, bytes => (leNat bytes).toUInt32
  | i32Le, bytes => (leNat bytes).toUInt32.toInt32
  | u64Le, bytes => (leNat bytes).toUInt64
  | i64Le, bytes => (leNat bytes).toUInt64.toInt64

end FixedBinaryFieldType

/-- Numbers of one field type. -/
structure FixedBinaryFieldValues where
  fieldType : FixedBinaryFieldType
  values : List fieldType.Value

/-- How many values there is room for. -/
def FixedBinaryFieldValues.len (values : FixedBinaryFieldValues) : ℕ := values.values.length

/-- A field of every record, and the buffer that its numbers are written to. -/
structure FixedBinaryFieldProjectionMut where
  offset : UInt32
  values : FixedBinaryFieldValues

/-! ### Records -/

/-- Records of one width, one after the other. -/
structure FixedBinaryRecordView where
  width : UInt32
  bytes : List UInt8
  width_ne_zero : width ≠ 0
  aligned : bytes.length % width.toNat = 0

namespace FixedBinaryRecordView

/-- The records of some bytes, which must be a whole number of records. -/
def new (width : UInt32) (bytes : List UInt8) : Result FixedBinaryRecordView :=
  if hwidth : width = 0 then
    .error (ocbInvalidInput "OCB fixed-binary record width must be greater than zero")
  else if haligned : bytes.length % width.toNat = 0 then
    .ok ⟨width, bytes, hwidth, haligned⟩
  else .error (ocbInvalidInput "OCB fixed-binary record bytes are not aligned to record width")

variable (records : FixedBinaryRecordView)

/-- The number of records. -/
def len : ℕ := records.bytes.length / records.width.toNat

/-- Write the numbers of one field over the beginning of a buffer. -/
def projectFixedBinaryField (offset rows : ℕ) (values : FixedBinaryFieldValues) :
    FixedBinaryFieldValues where
  fieldType := values.fieldType
  values := overwrite values.values 0
    (((chunksExact records.width.toNat records.bytes).take rows).map fun row =>
      values.fieldType.fromLeBytes ((row.drop offset).take values.fieldType.byteWidth))

/-- Project one field of all records into its buffer. -/
def projectField : Fallible ArcadiaTioError FixedBinaryFieldProjectionMut Unit := do
  let field ← Fallible.getState
  let fieldEnd ← okOr (checkedAdd usizeBits field.offset.toNat field.values.fieldType.byteWidth)
    (ocbInvalidInput "OCB fixed-binary field end offset overflows")
  failIf (fieldEnd > records.width.toNat)
    (ocbInvalidInput "OCB fixed-binary field extends past record width")
  failIf (field.values.len < records.len)
    (ocbInvalidInput "OCB fixed-binary field output buffer is too small")
  Fallible.setState { field with
    values := records.projectFixedBinaryField field.offset.toNat records.len field.values }

/-- Project the fields in order, as far as they can be projected. -/
def projectFields : Fallible ArcadiaTioError (List FixedBinaryFieldProjectionMut) ℕ :=
  ⟨fun fields =>
    let projected := Fallible.onEach (fun _ : Unit => records.projectField)
      (fields.map fun field => ((), field))
    ((fun _ => records.len) <$> projected.1, projected.2)⟩

end FixedBinaryRecordView

/-! ### What is projected -/

namespace FixedBinaryRecordView

variable {records : FixedBinaryRecordView}

/-- The numbers of one type at one place of every record. -/
def fieldValues (records : FixedBinaryRecordView) (type : FixedBinaryFieldType) (offset : ℕ) :
    List type.Value :=
  (List.range records.len).map fun i => type.fromLeBytes
    ((records.bytes.drop (i * records.width.toNat + offset)).take type.byteWidth)

@[simp] lemma length_fieldValues (type : FixedBinaryFieldType) (offset : ℕ) :
    (records.fieldValues type offset).length = records.len := by
  simp [fieldValues]

lemma new_of_aligned {width : UInt32} {bytes : List UInt8} (hwidth : width ≠ 0)
    (haligned : bytes.length % width.toNat = 0) :
    new width bytes = .ok ⟨width, bytes, hwidth, haligned⟩ := by
  rw [new, dif_neg hwidth, dif_pos haligned]

/-- A buffer with room for the numbers of a field that lies in the record. -/
structure Accepts (records : FixedBinaryRecordView) (field : FixedBinaryFieldProjectionMut) :
    Prop where
  within : field.offset.toNat + field.values.fieldType.byteWidth ≤ records.width.toNat
  room : records.len ≤ field.values.len

/-- The field after its numbers were written over the beginning of its buffer. -/
def projected (records : FixedBinaryRecordView) (field : FixedBinaryFieldProjectionMut) :
    FixedBinaryFieldProjectionMut where
  offset := field.offset
  values := ⟨field.values.fieldType,
    records.fieldValues field.values.fieldType field.offset.toNat ++
      field.values.values.drop records.len⟩

section Projected

variable {field : FixedBinaryFieldProjectionMut} {fields : List FixedBinaryFieldProjectionMut}

/-- The rows are cut out of the records one by one, and the field out of each row. -/
lemma projectFixedBinaryField_eq {offset : ℕ} {values : FixedBinaryFieldValues}
    (hwithin : offset + values.fieldType.byteWidth ≤ records.width.toNat) :
    records.projectFixedBinaryField offset records.len values = ⟨values.fieldType,
      records.fieldValues values.fieldType offset ++ values.values.drop records.len⟩ := by
  have hrows : (chunksExact records.width.toNat records.bytes).take records.len =
      chunksExact records.width.toNat records.bytes :=
    List.take_of_length_le (le_of_eq (length_chunksExact _ _))
  have hvalues : (chunksExact records.width.toNat records.bytes).map (fun row =>
      values.fieldType.fromLeBytes ((row.drop offset).take values.fieldType.byteWidth)) =
        records.fieldValues values.fieldType offset := by
    rw [chunksExact, List.map_map, fieldValues, len]
    refine List.map_congr_left fun i _ => ?_
    rw [Function.comp_apply, List.drop_take, List.take_take, List.drop_drop,
      Nat.min_eq_left (by omega)]
  rw [projectFixedBinaryField, hrows, hvalues, overwrite_zero, length_fieldValues]

lemma run_projectField (h : records.Accepts field) :
    records.projectField.run field = (.ok (), records.projected field) := by
  have hfit : field.offset.toNat + field.values.fieldType.byteWidth < 2 ^ usizeBits := by
    have hwidth := records.width.toNat_lt
    have hwithin := h.within
    rw [usizeBits]
    omega
  rw [projectField, Fallible.run_bind_of_ok Fallible.run_getState, checkedAdd_of_lt hfit, okOr_some,
    Fallible.lift_ok_bind, failIf_neg (not_lt.mpr h.within), Fallible.lift_ok_bind,
    failIf_neg (not_lt.mpr h.room), Fallible.lift_ok_bind, Fallible.run_setState,
    projectFixedBinaryField_eq h.within]
  rfl

/-- A field that is not accepted is left alone. -/
lemma run_projectField_of_not (h : ¬ records.Accepts field) :
    ∃ e, records.projectField.run field = (.error e, field) := by
  have hfit : field.offset.toNat + field.values.fieldType.byteWidth < 2 ^ usizeBits := by
    have hoffset := field.offset.toNat_lt
    have hbytes : field.values.fieldType.byteWidth ≤ 8 := by
      cases field.values.fieldType <;> simp [FixedBinaryFieldType.byteWidth]
    rw [usizeBits]
    omega
  rw [projectField, Fallible.run_bind_of_ok Fallible.run_getState, checkedAdd_of_lt hfit, okOr_some,
    Fallible.lift_ok_bind]
  by_cases hwithin : field.offset.toNat + field.values.fieldType.byteWidth ≤ records.width.toNat
  · rw [failIf_neg (not_lt.mpr hwithin), Fallible.lift_ok_bind]
    have hroom : field.values.len < records.len := by
      by_contra hroom
      exact h ⟨hwithin, not_lt.mp hroom⟩
    rw [failIf_pos hroom]
    exact ⟨_, rfl⟩
  · rw [failIf_pos (not_le.mp hwithin)]
    exact ⟨_, rfl⟩

lemma onEach_projectField (h : ∀ field ∈ fields, records.Accepts field) :
    Fallible.onEach (fun _ : Unit => records.projectField) (fields.map fun field => ((), field)) =
      (.ok (fields.map fun _ => ()), fields.map records.projected) := by
  induction fields with
  | nil => rfl
  | cons field fields ih =>
    exact Fallible.onEach_cons_eq_ok.mpr ⟨(), _, _, _, run_projectField (h _ List.mem_cons_self),
      ih fun f hf => h f (List.mem_cons_of_mem _ hf), rfl, rfl⟩

lemma exists_error_onEach (h : ∃ field ∈ fields, ¬ records.Accepts field) : ∃ e,
    (Fallible.onEach (fun _ : Unit => records.projectField)
      (fields.map fun field => ((), field))).1 = .error e := by
  induction fields with
  | nil =>
    obtain ⟨_, hfield, -⟩ := h
    cases hfield
  | cons field fields ih =>
    rw [List.map_cons, Fallible.fst_onEach_cons]
    by_cases hhead : records.Accepts field
    · obtain ⟨other, hother, hrejected⟩ := h
      have htail : other ∈ fields := (List.mem_cons.mp hother).resolve_left fun heq =>
        hrejected (heq ▸ hhead)
      obtain ⟨e, herror⟩ := ih ⟨other, htail, hrejected⟩
      rw [run_projectField hhead, herror]
      exact ⟨e, rfl⟩
    · obtain ⟨e, herror⟩ := run_projectField_of_not hhead
      rw [herror]
      exact ⟨e, rfl⟩

/-- Fields that are all accepted are projected, and one that is not is an error. -/
theorem run_projectFields (records : FixedBinaryRecordView)
    (fields : List FixedBinaryFieldProjectionMut) :
    ((∀ field ∈ fields, records.Accepts field) →
      records.projectFields.run fields = (.ok records.len, fields.map records.projected)) ∧
    ((∃ field ∈ fields, ¬ records.Accepts field) →
      ∃ e, (records.projectFields.run fields).1 = .error e) := by
  constructor
  · intro haccepts
    show ((fun _ => records.len) <$> (Fallible.onEach _ _).1, (Fallible.onEach _ _).2) = _
    rw [onEach_projectField haccepts]
    rfl
  · intro hrejected
    obtain ⟨e, herror⟩ := exists_error_onEach hrejected
    exact ⟨e, map_eq_error.mpr herror⟩

end Projected

end FixedBinaryRecordView

end ArcadiaTio.Ocb
