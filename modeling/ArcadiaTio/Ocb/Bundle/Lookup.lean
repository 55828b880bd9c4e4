import ArcadiaTio.Ocb.Read.Graph

/-!
# Looking up the descriptors of a row group

The readers and the planner find the chunks and the statistics of a row group by the ranges that
its descriptor declares.
-/

namespace ArcadiaTio.Ocb

open ArcadiaTio.Lib

/-- The chunks of a row group, for a reader. -/
def chunksForRowGroup (m : OcbMetadataV1) (start : UInt64) (count : UInt32) :
    Result (List OcbColumnChunkDescV1) :=
  checkedSlice m.rowGroupIndex.columnChunks start count
    "OCB row-group chunk descriptor range overflows"
    "OCB row-group chunk descriptor range is out of bounds"

/-- The chunks of a row group, for the planner. -/
def columnChunksForRowGroup (m : OcbMetadataV1) (start : UInt64) (count : UInt32) :
    Result (List OcbColumnChunkDescV1) :=
  checkedSlice m.rowGroupIndex.columnChunks start count
    "OCB row-group chunk descriptor range overflows"
    "OCB row-group chunk descriptor range is out of bounds"

/-- The statistics records that a row group refers to. -/
def statsForRowGroup (m : OcbMetadataV1) (start : UInt64) (count : UInt32) :
    Result (List OcbColumnStatsV1) :=
  checkedSlice m.rowGroupIndex.stats start count
    "OCB row-group stat descriptor range overflows"
    "OCB row-group stat descriptor range is out of bounds"

/-- Put the statistics of a row group into a map by column, kept as an association list. -/
def insertStats (rowGroupId : UInt32) : List OcbColumnStatsV1 → List (UInt32 × OcbColumnStatsV1) →
    Result (List (UInt32 × OcbColumnStatsV1))
  | [], byColumn => .ok byColumn
  | stat :: rest, byColumn => do
    failIf (stat.rowGroupId ≠ rowGroupId)
      (ocbCorruptFile "OCB row-group stat references a different row group")
    failIf ((byColumn.lookup stat.columnId).isSome)
      (ocbCorruptFile "OCB row group has duplicate stats for a column")
    insertStats rowGroupId rest (byColumn ++ [(stat.columnId, stat)])

/-- The statistics of a row group by column id, each at most once. -/
def statsByColumnForRowGroup (m : OcbMetadataV1) (rowGroup : OcbRowGroupDescV1) :
    Result (List (UInt32 × OcbColumnStatsV1)) := do
  let stats ← statsForRowGroup m rowGroup.statBegin rowGroup.statCount
  insertStats rowGroup.rowGroupId stats []

/-- Statistics of one row group with distinct columns all go into the map. -/
lemma insertStats_eq_ok {rowGroupId : UInt32} {stats : List OcbColumnStatsV1}
    {byColumn : List (UInt32 × OcbColumnStatsV1)}
    (hgroup : ∀ stat ∈ stats, stat.rowGroupId = rowGroupId)
    (hnodup : (byColumn.map Prod.fst ++ stats.map OcbColumnStatsV1.columnId).Nodup) :
    insertStats rowGroupId stats byColumn =
      .ok (byColumn ++ stats.map fun stat => (stat.columnId, stat)) := by
  induction stats generalizing byColumn with
  | nil => simp [insertStats]
  | cons stat rest ih =>
    have hfresh : byColumn.lookup stat.columnId = none := by
      refine List.lookup_eq_none_iff.mpr fun p hp => ?_
      have hne := (List.nodup_append.mp hnodup).2.2 p.1 (List.mem_map_of_mem hp) stat.columnId
        (by simp)
      simpa using hne.symm
    have hnodup' : ((byColumn ++ [(stat.columnId, stat)]).map Prod.fst ++
        rest.map OcbColumnStatsV1.columnId).Nodup := by
      simpa using hnodup
    rw [insertStats, failIf_neg (not_not.mpr (hgroup stat (by simp))), ok_bind,
      failIf_neg (by simp [hfresh]), ok_bind,
      ih (fun s hs => hgroup s (by simp [hs])) hnodup']
    simp

end ArcadiaTio.Ocb
