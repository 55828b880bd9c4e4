import ArcadiaTio.Lib.Queries
import ArcadiaTio.Ocb.Read.Graph

/-!
# The graph walk and its auxiliary objects

After the preflight, the validation of a metadata graph meets its dictionary values and key tuples
only through the cache.  This file writes the walk as a computation that queries these objects
(`graphWalk`); answered from the cache it is the validation itself (`run_validateMetadataGraph`),
and it queries exactly the references of the preflight, in the order of the preflight
(`asks_graphWalk`).
-/

namespace ArcadiaTio.Ocb

open ArcadiaTio.Lib

/-! ### The objects -/

/-- An auxiliary object of a metadata graph, under the full reference to it. -/
inductive AuxiliaryObject
  | dictionaryValues (reference : OcbBodyRefV2)
  | keyTuple (reference : OcbBodyRefV2)
deriving DecidableEq

namespace AuxiliaryObject

/-- The reference to the object. -/
def reference : AuxiliaryObject → OcbBodyRefV2
  | dictionaryValues reference => reference
  | keyTuple reference => reference

/-- The kind of the object. -/
def kind : AuxiliaryObject → OcbBodyKindV1
  | dictionaryValues _ => .dictionaryValues
  | keyTuple _ => .keyTuple

/-- What the walk learns about an object. -/
abbrev Answer : AuxiliaryObject → Type
  | dictionaryValues _ => OcbDictionaryValuesSummary
  | keyTuple _ => Unit

/-- The reference of an object is of the kind of the object. -/
def WellKinded (o : AuxiliaryObject) : Prop := o.reference.kind = o.kind

/-- Objects of the right kind are told apart by their references. -/
lemma reference_injective {o o' : AuxiliaryObject} (h : o.WellKinded) (h' : o'.WellKinded)
    (href : o.reference = o'.reference) : o = o' := by
  have hkind : o.kind = o'.kind := by rw [← h, ← h', href]
  cases o <;> cases o' <;> simp_all [kind, reference]

end AuxiliaryObject

/-- A key tuple that may be absent, as objects. -/
def optionalTuple (reference : OcbBodyRefV2) : List AuxiliaryObject :=
  if reference.IsNull then [] else [.keyTuple reference]

/-- The values of some dictionaries. -/
def dictionaryObjects (dictionaries : List OcbDictionaryDescV1) : List AuxiliaryObject :=
  dictionaries.map fun dictionary => .dictionaryValues dictionary.valuesRef

/-- The key tuples of some row groups. -/
def rowGroupTuples (rowGroups : List OcbRowGroupDescV1) : List AuxiliaryObject :=
  rowGroups.flatMap fun rowGroup =>
    optionalTuple rowGroup.firstKeyTupleRef ++ optionalTuple rowGroup.lastKeyTupleRef

/-- The key tuples of the proofs of some row groups. -/
def proofTuples (proofs : List OcbRowGroupOrderingProofV1) : List AuxiliaryObject :=
  proofs.flatMap fun proof =>
    optionalTuple proof.firstTupleRef ++ optionalTuple proof.lastTupleRef

/-- The key tuples of a root. -/
def rootTuples (v2Root : Option OcbRootV2) : List AuxiliaryObject :=
  v2Root.elim [] fun root =>
    optionalTuple root.firstKeyTupleRef ++ optionalTuple root.lastKeyTupleRef ++
    optionalTuple root.appendFirstKeyTupleRef ++ optionalTuple root.appendLastKeyTupleRef

/-- The auxiliary objects of a metadata graph, in the order of the preflight. -/
def auxiliaryObjects (m : OcbMetadataV1) (v2Root : Option OcbRootV2) : List AuxiliaryObject :=
  (m.dictionaryIndex.elim [] fun index => dictionaryObjects index.dictionaries) ++
  rowGroupTuples m.rowGroupIndex.rowGroups ++
  (m.orderingProof.elim [] fun ordering => proofTuples ordering.rowGroupProofs) ++
  rootTuples v2Root

/-- The pair under which the preflight visits an object. -/
def AuxiliaryObject.visited (o : AuxiliaryObject) : OcbBodyRefV2 × OcbBodyKindV1 :=
  (o.reference, o.kind)

lemma map_optionalTuple (reference : OcbBodyRefV2) :
    (optionalTuple reference).map AuxiliaryObject.visited = optionalKeyTuple reference := by
  rw [optionalTuple, optionalKeyTuple]
  split <;> rfl

/-- The preflight visits the objects. -/
lemma map_auxiliaryObjects (m : OcbMetadataV1) (v2Root : Option OcbRootV2) :
    (auxiliaryObjects m v2Root).map AuxiliaryObject.visited =
      auxiliaryObjectReferences m v2Root := by
  simp only [auxiliaryObjects, auxiliaryObjectReferences, List.map_append]
  congr 1
  · congr 1
    · congr 1
      · cases m.dictionaryIndex with
        | none => rfl
        | some index => exact List.map_map ..
      · simp only [rowGroupTuples, List.map_flatMap, List.map_append, map_optionalTuple]
    · cases m.orderingProof with
      | none => rfl
      | some ordering =>
        simp only [Option.elim, proofTuples, List.map_flatMap, List.map_append, map_optionalTuple]
  · cases v2Root with
    | none => rfl
    | some root => simp only [rootTuples, Option.elim, List.map_append, map_optionalTuple]

/-! ### The walk -/

/-- A walk over a metadata graph, up to the way in which its auxiliary objects are found. -/
abbrev Walk := Query AuxiliaryObject AuxiliaryObject.Answer ArcadiaTioError

/-- Ask for a key tuple, if there is one. -/
def askKeyTuple (reference : OcbBodyRefV2) : Walk Unit :=
  if reference.IsNull then pure () else Query.query (AuxiliaryObject.keyTuple reference)

/-- Ask for the values of a dictionary. -/
def askDictionaryValues (reference : OcbBodyRefV2) : Walk OcbDictionaryValuesSummary :=
  Query.query (AuxiliaryObject.dictionaryValues reference)

/-- The checks of the dictionaries, with a query for the values of each. -/
def walkDictionaries (strings : List String) :
    List OcbDictionaryDescV1 → List OcbDictionaryDescV1 → List String →
    Walk (List OcbDictionaryDescV1)
  | [], seen, _ => return seen
  | dictionary :: rest, seen, seenNames => do
    failIf (∃ d ∈ seen, d.dictionaryId = dictionary.dictionaryId)
      (ocbCorruptFile "OCB dictionary index has duplicate dictionary ids")
    let name ← okOr strings[dictionary.nameStringId.toNat]?
      (ocbCorruptFile "OCB dictionary name string id is out of range")
    failIf (name ∈ seenNames)
      (ocbCorruptFile "OCB dictionary index has duplicate dictionary names")
    let values ← askDictionaryValues dictionary.valuesRef
    failIf (values.valueKind ≠ dictionary.valueKind ∨
        values.entryCount ≠ dictionary.entryCount.toNat)
      (ocbCorruptFile "OCB dictionary values do not match dictionary index")
    walkDictionaries strings rest (seen ++ [dictionary]) (name :: seenNames)

/-- The checks of the dictionaries and of the columns that use them. -/
def walkDictionaryGraph (m : OcbMetadataV1) (columns : ColumnsById) : Walk Unit :=
  match m.dictionaryIndex with
  | none => (columns.forM fun column => failIf (column.logicalKind = .dictionaryCode)
      (ocbCorruptFile "OCB dictionary-coded column references missing dictionary index") :
        Result Unit)
  | some index => do
    let dictionaries ← walkDictionaries m.stringTable.strings index.dictionaries [] []
    (columns.forM (validateColumnDictionary dictionaries) : Result Unit)

section RowGroupWalk

variable (src : OcbReadSource) (zstd : ZstdCodec) (m : OcbMetadataV1) (columns : ColumnsById)
  (validation : OcbOpenValidationMode) (limits : OcbResourceLimits)

/-- The checks of a row group, with queries for its key tuples. -/
def walkRowGroup (rowGroup : OcbRowGroupDescV1) (position : ℕ) (c : RowGroupCursor) :
    Walk RowGroupCursor := do
  let c ← validateRowGroupDesc rowGroup position c
  askKeyTuple rowGroup.firstKeyTupleRef
  askKeyTuple rowGroup.lastKeyTupleRef
  let chunks ← checkedChunksForRowGroup m rowGroup
  let chunkColumns ← validateChunks
    (fun chunk => validateChunkDesc src zstd m rowGroup chunk columns validation limits) chunks []
  failIf (¬ SameElements chunkColumns (columns.map OcbColumnDescV1.columnId))
    (ocbCorruptFile "OCB row group chunk descriptors do not cover all schema columns")
  let stats ← checkedStatsForRowGroup m rowGroup
  let _ ← validateStats (fun stat => validateStatDesc rowGroup stat columns) stats []
  return c

/-- The checks of row groups, one after the other. -/
def walkRowGroups : List OcbRowGroupDescV1 → ℕ → RowGroupCursor → Walk RowGroupCursor
  | [], _, c => return c
  | rowGroup :: rest, position, c => do
    let c ← walkRowGroup src zstd m columns validation limits rowGroup position c
    walkRowGroups rest (position + 1) c

/-- The checks of all row groups and of what is left after them. -/
def walkRowGroupGraph : Walk (List (UInt32 × ℕ)) := do
  let c ← walkRowGroups src zstd m columns validation limits m.rowGroupIndex.rowGroups 0
    RowGroupCursor.start
  failIf (c.expectedChunkBegin ≠ m.rowGroupIndex.columnChunks.length)
    (ocbCorruptFile "OCB row-group chunk descriptor ranges do not cover the chunk table")
  failIf (c.expectedStatBegin ≠ m.rowGroupIndex.stats.length)
    (ocbCorruptFile "OCB row-group stat ranges do not cover the stats table")
  return c.positionsById

end RowGroupWalk

/-- The checks of the proofs of row groups, with queries for their key tuples. -/
def walkRowGroupProofs (positionsById : List (UInt32 × ℕ)) :
    List OcbRowGroupOrderingProofV1 → List UInt32 → Walk (List UInt32)
  | [], seen => return seen
  | proof :: rest, seen => do
    failIf ((positionsById.lookup proof.rowGroupId).isNone)
      (ocbCorruptFile "OCB ordering proof references unknown row group")
    failIf (proof.rowGroupId ∈ seen)
      (ocbCorruptFile "OCB ordering proof has duplicate row-group proofs")
    askKeyTuple proof.firstTupleRef
    askKeyTuple proof.lastTupleRef
    walkRowGroupProofs positionsById rest (seen ++ [proof.rowGroupId])

/-- The checks of the ordering proof. -/
def walkOrderingGraph (m : OcbMetadataV1) (columns : ColumnsById)
    (positionsById : List (UInt32 × ℕ)) : Walk Unit :=
  match m.orderingProof with
  | none => return ()
  | some ordering => do
    failIf (ordering.rowGroupProofs.length ≠ m.rowGroupIndex.rowGroups.length)
      (ocbCorruptFile "OCB ordering proof row-group count does not match row-group index")
    validateOrderingKeys columns ordering.keys []
    let seen ← walkRowGroupProofs positionsById ordering.rowGroupProofs []
    failIf (¬ SameElements seen (positionsById.map Prod.fst))
      (ocbCorruptFile "OCB ordering proof row groups do not cover row-group index")

/-- The queries for the key tuples of a root. -/
def walkRootKeyTuples (v2Root : Option OcbRootV2) : Walk Unit :=
  match v2Root with
  | none => return ()
  | some root => do
    askKeyTuple root.firstKeyTupleRef
    askKeyTuple root.lastKeyTupleRef
    askKeyTuple root.appendFirstKeyTupleRef
    askKeyTuple root.appendLastKeyTupleRef

/-- The part of the validation that comes after the preflight. -/
def graphWalk (src : OcbReadSource) (zstd : ZstdCodec) (m : OcbMetadataV1)
    (validation : OcbOpenValidationMode) (limits : OcbResourceLimits)
    (v2Root : Option OcbRootV2) (columns : ColumnsById) : Walk (List (UInt32 × ℕ)) := do
  walkDictionaryGraph m columns
  let positionsById ← walkRowGroupGraph src zstd m columns validation limits
  walkOrderingGraph m columns positionsById
  walkRootKeyTuples v2Root
  return positionsById

/-! ### The walk answered from the cache -/

/-- Answer a query from the cache, reading the object at its first use. -/
def consult (src : OcbReadSource) : ∀ o : AuxiliaryObject, Opening o.Answer
  | .dictionaryValues reference => dictionaryValuesSummary src reference
  | .keyTuple reference => validateKeyTuple src reference

section Consult

variable {src : OcbReadSource} {zstd : ZstdCodec} {m : OcbMetadataV1} {columns : ColumnsById}
  {validation : OcbOpenValidationMode} {limits : OcbResourceLimits}

@[simp] lemma interp_askKeyTuple (reference : OcbBodyRefV2) :
    (askKeyTuple reference).interp (consult src) = validateKeyTuple src reference := by
  rw [askKeyTuple]
  split
  · rw [Query.interp_pure, validateKeyTuple, if_pos ‹_›]
  · exact Query.interp_query ..

@[simp] lemma interp_askDictionaryValues (reference : OcbBodyRefV2) :
    (askDictionaryValues reference).interp (consult src) = dictionaryValuesSummary src reference :=
  Query.interp_query ..

@[simp] lemma interp_walkDictionaries (strings : List String)
    (dictionaries seen : List OcbDictionaryDescV1) (seenNames : List String) :
    (walkDictionaries strings dictionaries seen seenNames).interp (consult src) =
      validateDictionaries src strings dictionaries seen seenNames := by
  induction dictionaries generalizing seen seenNames with
  | nil => rfl
  | cons dictionary rest ih =>
    simp only [walkDictionaries, validateDictionaries, Query.interp_bind, Query.interp_lift,
      interp_askDictionaryValues, ih]

@[simp] lemma interp_walkDictionaryGraph :
    (walkDictionaryGraph m columns).interp (consult src) =
      validateDictionaryGraph src m columns := by
  rw [walkDictionaryGraph, validateDictionaryGraph]
  cases m.dictionaryIndex with
  | none => exact Query.interp_lift ..
  | some index => simp only [Query.interp_bind, Query.interp_lift, interp_walkDictionaries]

@[simp] lemma interp_walkRowGroup (rowGroup : OcbRowGroupDescV1) (position : ℕ)
    (c : RowGroupCursor) :
    (walkRowGroup src zstd m columns validation limits rowGroup position c).interp (consult src) =
      validateRowGroup src zstd m columns validation limits rowGroup position c := by
  simp only [walkRowGroup, validateRowGroup, Query.interp_bind, Query.interp_lift,
    interp_askKeyTuple, Query.interp_pure]

@[simp] lemma interp_walkRowGroups (rowGroups : List OcbRowGroupDescV1) (position : ℕ)
    (c : RowGroupCursor) :
    (walkRowGroups src zstd m columns validation limits rowGroups position c).interp
        (consult src) =
      validateRowGroups src zstd m columns validation limits rowGroups position c := by
  induction rowGroups generalizing position c with
  | nil => rfl
  | cons rowGroup rest ih =>
    simp only [walkRowGroups, validateRowGroups, Query.interp_bind, interp_walkRowGroup, ih]

@[simp] lemma interp_walkRowGroupGraph :
    (walkRowGroupGraph src zstd m columns validation limits).interp (consult src) =
      validateRowGroupGraph src zstd m columns validation limits := by
  simp only [walkRowGroupGraph, validateRowGroupGraph, Query.interp_bind, Query.interp_lift,
    Query.interp_pure, interp_walkRowGroups]

@[simp] lemma interp_walkRowGroupProofs (positionsById : List (UInt32 × ℕ))
    (proofs : List OcbRowGroupOrderingProofV1) (seen : List UInt32) :
    (walkRowGroupProofs positionsById proofs seen).interp (consult src) =
      validateRowGroupProofs src positionsById proofs seen := by
  induction proofs generalizing seen with
  | nil => rfl
  | cons proof rest ih =>
    simp only [walkRowGroupProofs, validateRowGroupProofs, Query.interp_bind, Query.interp_lift,
      interp_askKeyTuple, ih]

@[simp] lemma interp_walkOrderingGraph (positionsById : List (UInt32 × ℕ)) :
    (walkOrderingGraph m columns positionsById).interp (consult src) =
      validateOrderingGraph src m columns positionsById := by
  rw [walkOrderingGraph, validateOrderingGraph]
  cases m.orderingProof with
  | none => rfl
  | some ordering =>
    simp only [Query.interp_bind, Query.interp_lift, interp_walkRowGroupProofs]

@[simp] lemma interp_walkRootKeyTuples (v2Root : Option OcbRootV2) :
    (walkRootKeyTuples v2Root).interp (consult src) = validateRootKeyTuples src v2Root := by
  cases v2Root with
  | none => rfl
  | some root =>
    simp only [walkRootKeyTuples, validateRootKeyTuples, Query.interp_bind, interp_askKeyTuple]

/-- The validation of a graph: its counts and schema, the preflight, and the walk answered from
the cache. -/
lemma validateMetadataGraph_eq (rootColumnChunkCount : ℕ) (v2Root : Option OcbRootV2) :
    validateMetadataGraph src zstd m rootColumnChunkCount validation limits v2Root = (do
      validateRootCounts m rootColumnChunkCount
      let columns ← validateSchemaGraph m
      preflight m v2Root
      (graphWalk src zstd m validation limits v2Root columns).interp (consult src)) := by
  simp only [validateMetadataGraph, graphWalk, Query.interp_bind, Query.interp_pure,
    interp_walkDictionaryGraph, interp_walkRowGroupGraph, interp_walkOrderingGraph,
    interp_walkRootKeyTuples]

end Consult

/-! ### What the walk asks for -/

section Asks

variable {src : OcbReadSource} {zstd : ZstdCodec} {m : OcbMetadataV1} {columns : ColumnsById}
  {validation : OcbOpenValidationMode} {limits : OcbResourceLimits}

open Query

lemma asks_askKeyTuple (reference : OcbBodyRefV2) :
    Asks (optionalTuple reference) (askKeyTuple reference) := by
  rw [optionalTuple, askKeyTuple]
  split
  · exact asks_pure _
  · exact asks_query _

lemma asks_walkDictionaries (strings : List String) (dictionaries seen : List OcbDictionaryDescV1)
    (seenNames : List String) :
    Asks (dictionaryObjects dictionaries)
      (walkDictionaries strings dictionaries seen seenNames) := by
  induction dictionaries generalizing seen seenNames with
  | nil => exact asks_pure _
  | cons dictionary rest ih =>
    refine Asks.lift_bind fun _ => Asks.lift_bind fun name => Asks.lift_bind fun _ => ?_
    exact (asks_query _).bind fun values => Asks.lift_bind fun _ => ih _ _

lemma asks_walkDictionaryGraph :
    Asks (m.dictionaryIndex.elim [] fun index => dictionaryObjects index.dictionaries)
      (walkDictionaryGraph m columns) := by
  rw [walkDictionaryGraph]
  cases m.dictionaryIndex with
  | none => exact asks_lift _
  | some index =>
    have h := (asks_walkDictionaries m.stringTable.strings index.dictionaries [] []).bind
      fun dictionaries => asks_lift (columns.forM (validateColumnDictionary dictionaries))
    rwa [List.append_nil] at h

lemma asks_walkRowGroup (rowGroup : OcbRowGroupDescV1) (position : ℕ) (c : RowGroupCursor) :
    Asks (optionalTuple rowGroup.firstKeyTupleRef ++ optionalTuple rowGroup.lastKeyTupleRef)
      (walkRowGroup src zstd m columns validation limits rowGroup position c) := by
  refine Asks.lift_bind fun c => (asks_askKeyTuple _).bind fun _ => ?_
  rw [← List.append_nil (optionalTuple rowGroup.lastKeyTupleRef)]
  refine (asks_askKeyTuple _).bind fun _ => Asks.lift_bind fun chunks =>
    Asks.lift_bind fun chunkColumns => Asks.lift_bind fun _ => Asks.lift_bind fun stats =>
    Asks.lift_bind fun _ => asks_pure _

lemma asks_walkRowGroups (rowGroups : List OcbRowGroupDescV1) (position : ℕ)
    (c : RowGroupCursor) :
    Asks (rowGroupTuples rowGroups)
      (walkRowGroups src zstd m columns validation limits rowGroups position c) := by
  induction rowGroups generalizing position c with
  | nil => exact asks_pure _
  | cons rowGroup rest ih => exact (asks_walkRowGroup ..).bind fun c => ih _ c

lemma asks_walkRowGroupGraph :
    Asks (rowGroupTuples m.rowGroupIndex.rowGroups)
      (walkRowGroupGraph src zstd m columns validation limits) := by
  rw [← List.append_nil (rowGroupTuples m.rowGroupIndex.rowGroups)]
  exact (asks_walkRowGroups ..).bind fun c => Asks.lift_bind fun _ => Asks.lift_bind fun _ =>
    asks_pure _

lemma asks_walkRowGroupProofs (positionsById : List (UInt32 × ℕ))
    (proofs : List OcbRowGroupOrderingProofV1) (seen : List UInt32) :
    Asks (proofTuples proofs) (walkRowGroupProofs positionsById proofs seen) := by
  induction proofs generalizing seen with
  | nil => exact asks_pure _
  | cons proof rest ih =>
    rw [proofTuples, List.flatMap_cons, List.append_assoc]
    exact Asks.lift_bind fun _ => Asks.lift_bind fun _ => (asks_askKeyTuple _).bind fun _ =>
      (asks_askKeyTuple _).bind fun _ => ih _

lemma asks_walkOrderingGraph (positionsById : List (UInt32 × ℕ)) :
    Asks (m.orderingProof.elim [] fun ordering => proofTuples ordering.rowGroupProofs)
      (walkOrderingGraph m columns positionsById) := by
  rw [walkOrderingGraph]
  cases m.orderingProof with
  | none => exact asks_pure _
  | some ordering =>
    change Asks (proofTuples ordering.rowGroupProofs) _
    rw [← List.append_nil (proofTuples ordering.rowGroupProofs)]
    exact Asks.lift_bind fun _ => Asks.lift_bind fun _ =>
      (asks_walkRowGroupProofs ..).bind fun seen => asks_lift _

lemma asks_walkRootKeyTuples (v2Root : Option OcbRootV2) :
    Asks (rootTuples v2Root) (walkRootKeyTuples v2Root) := by
  cases v2Root with
  | none => exact asks_pure _
  | some root =>
    simp only [rootTuples, Option.elim, List.append_assoc]
    exact (asks_askKeyTuple _).bind fun _ => (asks_askKeyTuple _).bind fun _ =>
      (asks_askKeyTuple _).bind fun _ => asks_askKeyTuple _

/-- The walk asks for the objects of the preflight, and for nothing else. -/
lemma asks_graphWalk (v2Root : Option OcbRootV2) :
    Asks (auxiliaryObjects m v2Root)
      (graphWalk src zstd m validation limits v2Root columns) := by
  simp only [auxiliaryObjects, List.append_assoc]
  refine asks_walkDictionaryGraph.bind fun _ => asks_walkRowGroupGraph.bind fun positions =>
    (asks_walkOrderingGraph positions).bind fun _ => ?_
  rw [← List.append_nil (rootTuples v2Root)]
  exact (asks_walkRootKeyTuples v2Root).bind fun _ => asks_pure _

end Asks

end ArcadiaTio.Ocb
