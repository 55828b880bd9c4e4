import ArcadiaTio.Lib.Checked
import ArcadiaTio.Lib.Fallible

/-!
# Errors and resource limits

The structured errors of the OCB reader (`error.rs`) and the finite resource limits of one
opened handle (`resource_limits.rs`).  An error of class `corruptFile` is the only kind that
root selection may discard; the classes are therefore part of every statement about failures.
-/

namespace ArcadiaTio.Ocb

open ArcadiaTio.Lib

/-! ### Errors -/

/-- Structured OCB failure cause metadata. -/
inductive OcbFailureCause
  | invalidInput
  | unsupportedFormat
  | corruptFile
  | lockUnavailable
  | io
deriving DecidableEq, Repr

/-- The detailed kinds of failure that certification and the readers of manifests tell apart. -/
inductive OcbErrorKind
  | invalidInput
  | unsupportedFormat
  | corruptFile
  | unsupportedSchemaVersion
  | invalidManifest
  | unsafeManifestPath
  | missingArtifact
  | fixedBinaryWidthMismatch
  | payloadHeaderMismatch
  | payloadCrcMismatch
  | channelIdMismatch
  | bizIndexDuplicate
  | bizIndexGap
  | bizIndexRegression
  | rowCountMismatch
  | checksumMismatch
  | lockUnavailable
  | io
deriving DecidableEq, Repr

/-- The failure cause that a detailed kind belongs to. -/
def OcbErrorKind.cause : OcbErrorKind → OcbFailureCause
  | unsupportedFormat | unsupportedSchemaVersion => .unsupportedFormat
  | lockUnavailable => .lockUnavailable
  | io => .io
  | corruptFile | payloadCrcMismatch | checksumMismatch => .corruptFile
  | _ => .invalidInput

/-- The errors of the reader: a structured OCB failure, one of a detailed kind, a caller error
outside the OCB vocabulary, or a failure of the operating system. -/
inductive ArcadiaTioError
  | unimplemented (message : String)
  | invalidArgument (message : String)
  | ocb (cause : OcbFailureCause) (message : String)
  | ocbDiagnostic (kind : OcbErrorKind) (message : String)
  | io (message : String)
deriving DecidableEq, Repr

namespace ArcadiaTioError

/-- The OCB cause of an error, when it came from OCB validation. -/
def ocbFailureCause : ArcadiaTioError → Option OcbFailureCause
  | ocb cause _ => some cause
  | ocbDiagnostic kind _ => some kind.cause
  | _ => none

/-- An error about what the caller has asked for. -/
def ocbInvalidInput (message : String) : ArcadiaTioError := ocb .invalidInput message

/-- An error about a format that the reader does not support. -/
def ocbUnsupportedFormat (message : String) : ArcadiaTioError := ocb .unsupportedFormat message

/-- An error about a file that is not well formed. -/
def ocbCorruptFile (message : String) : ArcadiaTioError := ocb .corruptFile message

@[simp] lemma ocbFailureCause_ocbInvalidInput (m : String) :
    (ocbInvalidInput m).ocbFailureCause = some .invalidInput := rfl

@[simp] lemma ocbFailureCause_ocbUnsupportedFormat (m : String) :
    (ocbUnsupportedFormat m).ocbFailureCause = some .unsupportedFormat := rfl

@[simp] lemma ocbFailureCause_ocbCorruptFile (m : String) :
    (ocbCorruptFile m).ocbFailureCause = some .corruptFile := rfl

/-- The error is a corruption error. -/
def IsCorrupt (e : ArcadiaTioError) : Prop := e.ocbFailureCause = some .corruptFile

instance (e : ArcadiaTioError) : Decidable e.IsCorrupt :=
  inferInstanceAs (Decidable (e.ocbFailureCause = some .corruptFile))

/-- The error blames the caller: an invalid request, or one beyond a limit. -/
def IsInvalidInput (e : ArcadiaTioError) : Prop := e.ocbFailureCause = some .invalidInput

@[simp] lemma isInvalidInput_ocbInvalidInput (m : String) : (ocbInvalidInput m).IsInvalidInput :=
  rfl

@[simp] lemma isCorrupt_ocbCorruptFile (m : String) : (ocbCorruptFile m).IsCorrupt := rfl

@[simp] lemma not_isCorrupt_ocbInvalidInput (m : String) : ¬ (ocbInvalidInput m).IsCorrupt := by
  simp [IsCorrupt]

@[simp] lemma not_isCorrupt_ocbUnsupportedFormat (m : String) :
    ¬ (ocbUnsupportedFormat m).IsCorrupt := by
  simp [IsCorrupt]

end ArcadiaTioError

export ArcadiaTioError (ocbInvalidInput ocbUnsupportedFormat ocbCorruptFile ocbDiagnostic)

/-- A crate-local result type for reader operations. -/
abbrev Result := Except ArcadiaTioError

/-! ### Resource limits -/

/-- The width of the platform's `usize`. -/
def usizeBits : ℕ := 64

/-- Finite byte limits applied throughout one opened OCB handle.  The four limits that
directly size one allocation fit the platform's addressable domain. -/
structure OcbResourceLimits where
  maxEncodedObjectBytes : UInt64
  maxCompressedChunkBytes : UInt64
  maxDecompressedChunkBytes : UInt64
  maxProjectedRowGroupBytes : UInt64
  maxOwnedSelectedCompressedBytes : UInt64
  maxOwnedDecodedMaterializedBytes : UInt64
  maxEncodedObjectBytes_lt : maxEncodedObjectBytes.toNat < 2 ^ 63
  maxCompressedChunkBytes_lt : maxCompressedChunkBytes.toNat < 2 ^ 63
  maxDecompressedChunkBytes_lt : maxDecompressedChunkBytes.toNat < 2 ^ 63
  maxProjectedRowGroupBytes_lt : maxProjectedRowGroupBytes.toNat < 2 ^ 63
deriving DecidableEq

namespace OcbResourceLimits

/-- The message of a limit that cannot size an allocation. -/
def directAllocationMessage : String :=
  "OCB direct-allocation resource limit exceeds the platform addressable size"

/-- Construct a finite resource policy. -/
def new (maxEncodedObjectBytes maxCompressedChunkBytes maxDecompressedChunkBytes
    maxProjectedRowGroupBytes maxOwnedSelectedCompressedBytes
    maxOwnedDecodedMaterializedBytes : UInt64) : Result OcbResourceLimits :=
  if h : maxEncodedObjectBytes.toNat < 2 ^ 63 ∧ maxCompressedChunkBytes.toNat < 2 ^ 63 ∧
      maxDecompressedChunkBytes.toNat < 2 ^ 63 ∧ maxProjectedRowGroupBytes.toNat < 2 ^ 63 then
    .ok
      { maxEncodedObjectBytes, maxCompressedChunkBytes, maxDecompressedChunkBytes,
        maxProjectedRowGroupBytes, maxOwnedSelectedCompressedBytes,
        maxOwnedDecodedMaterializedBytes
        maxEncodedObjectBytes_lt := h.1
        maxCompressedChunkBytes_lt := h.2.1
        maxDecompressedChunkBytes_lt := h.2.2.1
        maxProjectedRowGroupBytes_lt := h.2.2.2 }
  else .error (ocbInvalidInput directAllocationMessage)

/-- The approved compatibility default resource policy. -/
def policyA : OcbResourceLimits where
  maxEncodedObjectBytes := 1073741824
  maxCompressedChunkBytes := 536870912
  maxDecompressedChunkBytes := 536870912
  maxProjectedRowGroupBytes := 1073741824
  maxOwnedSelectedCompressedBytes := 8589934592
  maxOwnedDecodedMaterializedBytes := 17179869184
  maxEncodedObjectBytes_lt := by decide
  maxCompressedChunkBytes_lt := by decide
  maxDecompressedChunkBytes_lt := by decide
  maxProjectedRowGroupBytes_lt := by decide

end OcbResourceLimits

/-! ### The metadata materialization budget -/

/-- Monotonic accounting for heap requested by materialized metadata objects.  What has
been charged never exceeds the limit. -/
structure MetadataMaterializationBudget where
  limitBytes : ℕ
  chargedBytes : ℕ
  charged_le : chargedBytes ≤ limitBytes
  limit_lt : limitBytes < 2 ^ 64
deriving DecidableEq

namespace MetadataMaterializationBudget

/-- A budget with a limit and nothing charged. -/
def new (limitBytes : UInt64) : MetadataMaterializationBudget :=
  ⟨limitBytes.toNat, 0, Nat.zero_le _, limitBytes.toNat_lt⟩

/-- The budget for metadata under some limits. -/
def fromLimits (limits : OcbResourceLimits) : MetadataMaterializationBudget :=
  new limits.maxOwnedDecodedMaterializedBytes

/-- Charge a number of bytes; the budget is unchanged when they do not fit. -/
def charge (bytes : ℕ) : Fallible ArcadiaTioError MetadataMaterializationBudget Unit :=
  ⟨fun budget =>
    match checkedAdd 64 budget.chargedBytes bytes with
    | none => (.error (ocbInvalidInput
        "OCB open metadata materialization exceeds resource limit"), budget)
    | some charged =>
      if h : charged ≤ budget.limitBytes then
        (.ok (), { budget with chargedBytes := charged, charged_le := h })
      else (.error (ocbInvalidInput
        "OCB open metadata materialization exceeds resource limit"), budget)⟩

end MetadataMaterializationBudget

/-- A reader step that charges the metadata budget. -/
abbrev Metered := Fallible ArcadiaTioError MetadataMaterializationBudget

end ArcadiaTio.Ocb
