import MetricRing.Client.Hooks
import MetricRing.Main
import MetricRing.Rows
import MetricRing.Run.Script
import MetricRing.Run.Interleaved
import MetricRing.Run.Timed
import MetricRing.Run.Together
import MetricRing.Run.Contention
import MetricRing.Run.Amid
import MetricRing.Proofs.Changes
import MetricRing.Proofs.CachedRing
import MetricRing.Proofs.Guarantees
import MetricRing.Proofs.CallGuarantees
import MetricRing.Proofs.Interleavings
import MetricRing.Proofs.SoloRuns
import MetricRing.Proofs.Histories
import MetricRing.Proofs.TimedRuns
import MetricRing.Proofs.RequestExchanges
import MetricRing.Proofs.RunExchanges
import MetricRing.Proofs.ClockwiseWalk
import MetricRing.Proofs.MinimalDisruption
import MetricRing.Proofs.DirectRuns
import MetricRing.Proofs.Obedience
import MetricRing.Proofs.FirstWaits
import MetricRing.Proofs.Cancellation
import MetricRing.Proofs.Deadlines
import MetricRing.Proofs.MetricRequests
import MetricRing.Proofs.DiscoveredMembers
import MetricRing.Proofs.PoolHistories
import MetricRing.Proofs.DigestBytes
import MetricRing.Proofs.DigestModes
import MetricRing.Proofs.NodeAnswers
import MetricRing.Proofs.HealthRounds
import MetricRing.Proofs.ActiveIds
import MetricRing.Proofs.NearestSlots
import MetricRing.Proofs.TakingTurns
import MetricRing.Proofs.ReplicaPlacement
import MetricRing.Proofs.LoadingPhases
import MetricRing.Proofs.TogetherRuns
import MetricRing.Proofs.SingleFlight
import MetricRing.Proofs.FailoverOrder
import MetricRing.Proofs.CompiledRings
import MetricRing.Proofs.ReplicaIds
import MetricRing.Proofs.TopologyLoading
import MetricRing.Proofs.IdMatching
import MetricRing.Proofs.CalmRuns
import MetricRing.Proofs.MetricRouting
import MetricRing.Proofs.DiscoveryFrame
import MetricRing.Proofs.Bootstrap
import MetricRing.Proofs.DeclarationOrder
import MetricRing.Proofs.RetryPauses
import MetricRing.Proofs.JsonTexts
import MetricRing.Proofs.DocumentTexts
import MetricRing.Proofs.UrlTails
import MetricRing.Proofs.WrittenHosts
import MetricRing.Proofs.WrittenUrls
