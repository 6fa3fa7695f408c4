import LogTree.Config.Amendment
import LogTree.Config.Json
import LogTree.Json.Number
import LogTree.NameMap.Lemmas
import LogTree.Proofs.CheckedLogging
import LogTree.Proofs.LevelResolution
import LogTree.Proofs.LoggerIdentity
import LogTree.Proofs.RecordDelivery
import LogTree.Registry.Lemmas
import LogTree.Session.Changes
import LogTree.Session.Step
import LogTree.Text.Padding
import LogTree.Text.Utf8.Decode
import LogTree.Trace.Filter
import LogTree.Proofs.ObjectWrites
import LogTree.Proofs.ParentWalks
import LogTree.Proofs.EchoScope
import LogTree.Proofs.StandardHandlers
import LogTree.Proofs.PrivateLevels
import LogTree.Proofs.RequestedNames
import LogTree.Proofs.ConfiguredLevels
import LogTree.Proofs.NamedParents
import LogTree.Proofs.LevelTexts
import LogTree.Proofs.StoredConfigs
import LogTree.Proofs.EchoRewrites
import LogTree.Proofs.RecordTraces
import LogTree.Proofs.Suppression
import LogTree.Proofs.ThresholdFilter
import LogTree.Proofs.ConcurrentRequests
import LogTree.Proofs.HandlerExchange
import LogTree.Proofs.CommandAnswers
import LogTree.Proofs.RecordPairs
import LogTree.Proofs.FailingWriters
import LogTree.Proofs.HandlerHomes
import LogTree.Locks
import LogTree.Locks.Emission
import LogTree.Locks.Step
import LogTree.Proofs.IsolatedRegistries
import LogTree.Proofs.LockedRegistries
import LogTree.Proofs.LockedDeliveries
import LogTree.Proofs.LockedSteps
import LogTree.Proofs.AbortedCalls
import LogTree.Proofs.DirectiveLists
import LogTree.Proofs.ConfiguredRegistries
import LogTree.Proofs.LabelledObjects
import LogTree.Proofs.QuietNamespaces
import LogTree.Proofs.LevelSpellings
import LogTree.Proofs.RefusedDirectives
import LogTree.Proofs.ExpressibleConfigs
import LogTree.Proofs.TypePaths
import LogTree.Proofs.LastResort
import LogTree.Proofs.HandlerLists
import LogTree.Proofs.DispatchHistory
import LogTree.Proofs.CapturedRecords
import LogTree.Proofs.BufferContents
import LogTree.Proofs.EchoDecoders
import LogTree.Proofs.TimestampOrder
import LogTree.Proofs.TraceHistories
import LogTree.Proofs.HeardWriters
import LogTree.Session.Adoption
import LogTree.Proofs.AdoptedHandlers
