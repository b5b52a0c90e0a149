import ClusterClient.Client.RemoteStore
import ClusterClient.Document.MapSnapshot
import ClusterClient.Document.Memory
import ClusterClient.CommandLine.Report
import ClusterClient.Main
import ClusterClient.Scripted.Documents
import ClusterClient.Scripted.Peer
import ClusterClient.Scripted.Races
import ClusterClient.Scripted.Updates
import ClusterClient.Proofs.Run
import ClusterClient.Proofs.KeyOrder
import ClusterClient.Proofs.Document.FieldPath
import ClusterClient.Proofs.Document.Versions
import ClusterClient.Proofs.Document.FieldLoop
import ClusterClient.Proofs.Document.FieldUpdates
import ClusterClient.Proofs.Document.SequentialMap
import ClusterClient.Proofs.Document.MapOperations
import ClusterClient.Proofs.Document.MapLinearization
import ClusterClient.Proofs.Document.MapUpdates
import ClusterClient.Proofs.Document.Contention
import ClusterClient.Proofs.Document.VersionLedger
import ClusterClient.Proofs.Document.AtomicClients
import ClusterClient.Proofs.Document.PathLanguage
import ClusterClient.Proofs.Document.StoreLocality
import ClusterClient.Proofs.Client.Activities
import ClusterClient.Proofs.Client.Duties
import ClusterClient.Proofs.Client.Accounts
import ClusterClient.Proofs.Client.Correlations
import ClusterClient.Proofs.Client.Traces
import ClusterClient.Proofs.Wire.HeaderFields
import ClusterClient.Proofs.Client.Freshness
import ClusterClient.Proofs.Wire.Frames
import ClusterClient.Proofs.Wire.RequestFrames
import ClusterClient.Proofs.Wire.Acceptance
import ClusterClient.Proofs.Wire.RequestReader
import ClusterClient.Proofs.Request.Completion
import ClusterClient.Proofs.Wire.FrameStream
import ClusterClient.Proofs.Wire.PathResults
import ClusterClient.Proofs.Wire.ResponseGrammar
import ClusterClient.Proofs.Wire.Replies
import ClusterClient.Proofs.Client.Verdicts
import ClusterClient.Proofs.Client.GuardedWrites
import ClusterClient.Proofs.Server.Documents
import ClusterClient.Proofs.Server.Exchange
import ClusterClient.Proofs.Server.StoreCalls
import ClusterClient.Proofs.Server.Admissible
import ClusterClient.Proofs.Server.CallAgreement
import ClusterClient.Proofs.Server.StoreAgreement
import ClusterClient.Proofs.Optimistic.Rounds
import ClusterClient.Proofs.Client.Resends
import ClusterClient.Proofs.Client.Works
import ClusterClient.Proofs.Client.Tending
import ClusterClient.Proofs.Client.InFlight
import ClusterClient.Proofs.Client.Stepwise
import ClusterClient.Proofs.Client.Places
import ClusterClient.Proofs.Client.Abandoned
import ClusterClient.Proofs.Client.Leftovers
import ClusterClient.Proofs.Client.Deliveries
import ClusterClient.Proofs.Client.Expiry
import ClusterClient.Proofs.Client.Issuing
import ClusterClient.Proofs.Wire.CounterExtras
import ClusterClient.Proofs.Client.AnswerBodies
import ClusterClient.Proofs.Client.Successes
import ClusterClient.Proofs.Document.SnapshotMirror
import ClusterClient.Proofs.Client.TypedCalls
import ClusterClient.Proofs.Optimistic.Delays
import ClusterClient.Proofs.Wire.CollectionPrefixes
import ClusterClient.Proofs.Wire.Partitions
import ClusterClient.Proofs.Client.Routes
import ClusterClient.Proofs.Text.Numerals
import ClusterClient.Proofs.Optimistic.RetryLimits
import ClusterClient.Proofs.Text.Hexadecimal
import ClusterClient.Proofs.CommandLine.Options
import ClusterClient.Proofs.CommandLine.RoundTrip
