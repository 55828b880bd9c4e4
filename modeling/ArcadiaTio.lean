import ArcadiaTio.Lib.Fallible
import ArcadiaTio.Lib.Checked
import ArcadiaTio.Lib.Bytes
import ArcadiaTio.Lib.FirstSuccess
import ArcadiaTio.Lib.Tiling
import ArcadiaTio.Lib.PrefixFree
import ArcadiaTio.Ocb.Error
import ArcadiaTio.Ocb.Crc32c
import ArcadiaTio.Ocb.Format.Detection
import ArcadiaTio.Ocb.Format.Metering
import ArcadiaTio.Ocb.Read.SelectExact
import ArcadiaTio.Ocb.Read.Fallback
import ArcadiaTio.Ocb.Bundle.Invariant
import ArcadiaTio.Ocb.Bundle.Fingerprint
import ArcadiaTio.Ocb.Bundle.Planning
import ArcadiaTio.Ocb.Parallel.Outcome
import ArcadiaTio.Ocb.Parallel.Admission
import ArcadiaTio.Ocb.Bundle.Batches
import ArcadiaTio.Ocb.Read.ChunkPaths
import ArcadiaTio.Tensor.Stack
import ArcadiaTio.Ocb.CompactL2.BatchView
import ArcadiaTio.Ocb.Bundle.Describable
import ArcadiaTio.Ocb.Bundle.Image
import ArcadiaTio.Ocb.Bundle.Subset
import ArcadiaTio.Ocb.Bundle.ImagePlan
import ArcadiaTio.Ocb.CompactL2.Expectations
import ArcadiaTio.Ocb.Bundle.PredicateBounds
import ArcadiaTio.Ocb.Read.Delta
import ArcadiaTio.Ocb.Format.DictionaryLayout
import ArcadiaTio.Ocb.CompactL2.ChannelRead
import ArcadiaTio.Tensor.ReductionLaws
import ArcadiaTio.Ocb.Read.CacheTransparent
import ArcadiaTio.Tensor.Companions
import ArcadiaTio.Ocb.Read.StreamingCrc
import ArcadiaTio.Ocb.Manifest.Validate
import ArcadiaTio.Tensor.EmptyReductions
import ArcadiaTio.Tensor.StackAsConcat
import ArcadiaTio.Ocb.CompactL2.AppendInPlace
import ArcadiaTio.Ocb.Bundle.OwnedReads
import ArcadiaTio.Ocb.Bundle.Fill
import ArcadiaTio.Ocb.Parallel.Slots
import ArcadiaTio.Ocb.Bundle.VisitInto
import ArcadiaTio.Ocb.Bundle.Projection
import ArcadiaTio.Ocb.CompactL2.ParallelReadEnds
import ArcadiaTio.Ocb.CompactL2.OperationBudget
import ArcadiaTio.Ocb.Parallel.SlotsOutcome
import ArcadiaTio.Lib.Largest
import ArcadiaTio.Ocb.Bundle.VisitIntoScript
import ArcadiaTio.Ocb.Bundle.Reservation
import ArcadiaTio.Ocb.Bundle.ValidatedReads
import ArcadiaTio.Ocb.CompactL2.PayloadArtifact
import ArcadiaTio.Ocb.Bundle.ProjectionBuffer
import ArcadiaTio.Ocb.CompactL2.ManifestEvents
import ArcadiaTio.Ocb.Maintenance.Report
