import Sastt.Lib.Method
import Sastt.Lib.PointerForest
import Sastt.Lib.Apartness
import Sastt.Lib.Slices
import Sastt.Domain.Errors
import Sastt.Domain.Audio
import Sastt.Application.SplitCrop
import Sastt.Domain.Config
import Sastt.Domain.Identity
import Sastt.Domain.Speakers
import Sastt.Application.SessionState
import Sastt.Application.SessionInvariants
import Sastt.Application.SessionMethods
import Sastt.Application.SessionRuns
import Sastt.Application.CannotLink
import Sastt.Application.PrototypeUpdates
import Sastt.Application.Fusion
import Sastt.Domain.Events
import Sastt.Application.EventWriter
import Sastt.Application.FusionMethods
import Sastt.Application.StreamingFinal
import Sastt.Application.FinalTranscript
import Sastt.Adapters.RedisQueue
import Sastt.Adapters.QueueDelivery
import Sastt.Adapters.PostgresJobs
import Sastt.Adapters.JobRaces
import Sastt.Ports.JobStore
import Sastt.Api.CreateJob
import Sastt.Api.StrandedJobs
import Sastt.Application.SourceLinking
import Sastt.Application.LinkMargins
import Sastt.Domain.EventHistory
import Sastt.Application.LinkSafety
import Sastt.Application.SpeakerRecords
import Sastt.Application.SpeakerCap
import Sastt.Application.PublishedSpeakers
import Sastt.Application.SessionResult
import Sastt.Lib.Directions
import Sastt.Domain.Centroid
import Sastt.Workers.OfflineWorker
import Sastt.Workers.Redelivery
import Sastt.Application.OverlapRegions
import Sastt.Application.LinkWrites
import Sastt.Application.AbandonedSeparation
import Sastt.Application.IntervalSets
import Sastt.Application.PipelineStages
import Sastt.Application.RollingSession
import Sastt.Application.ProvisionalSlices
import Sastt.Adapters.VoiceRegistry
import Sastt.Adapters.TenantIsolation
import Sastt.Adapters.JobCreation
import Sastt.Adapters.SavedResults
import Sastt.Lib.Contracts
import Sastt.Workers.WorkerProcesses
import Sastt.Application.SessionLifecycle
import Sastt.Application.OfflineRun
import Sastt.Lib.SerialChoice
import Sastt.Application.FinalMatching
import Sastt.Application.SessionCalls
import Sastt.Lib.Triples
import Sastt.Application.SessionEvents
import Sastt.Application.ClientTranscript
import Sastt.Application.FinalSpeakers
import Sastt.Application.AdapterErrors
import Sastt.Application.SpeakerSlots
import Sastt.Application.RollingSlots
import Sastt.Api.JobResults
import Sastt.Api.DeletedJobs
import Sastt.Api.ServedResults
import Sastt.Adapters.EventAgreement
import Sastt.Adapters.EventRaces
import Sastt.Adapters.Leases
import Sastt.Adapters.Erasure
import Sastt.Adapters.FakeVoiceRegistry
import Sastt.Adapters.RegistryAgreement
import Sastt.Application.IdentityConstraints
import Sastt.Application.SessionAudio
import Sastt.Application.WatchedPipeline
import Sastt.Lib.Built
import Sastt.Lib.Refinement
import Sastt.Application.WatchedRuns
import Sastt.Application.Cancellation
import Sastt.Lib.Logs
import Sastt.Application.WithheldText
import Sastt.Application.HeardSpeech
import Sastt.Application.MergedSpeakers
import Sastt.Application.ReceivedAudio
import Sastt.Domain.Manifests
import Sastt.Application.RoutedBackends
import Sastt.Adapters.EnrollmentPolicy
import Sastt.Application.SessionTwins
import Sastt.Application.SeparatedEvidence
import Sastt.Application.ToldEvents
import Sastt.Application.TracedCalls
import Sastt.Application.SessionLanguage
import Sastt.Application.SentEvents
import Sastt.Api.AudioSocket
import Sastt.Workers.WorkerLoop
import Sastt.Workers.TaskTokens
import Sastt.Workers.TaskAttempts
import Sastt.Application.MergedIntervals
import Sastt.Application.SpeechPartition
import Sastt.Domain.Cropping
import Sastt.Application.OwnedWindows
import Sastt.Application.FusedWords
import Sastt.Adapters.ObjectStores
import Sastt.Api.RetainedAudio
import Sastt.Api.TenantJobs
import Sastt.Api.TenantRequests
import Sastt.Api.VoiceIdentities
import Sastt.Api.Sessions
import Sastt.Api.Tenants
import Sastt.Lib.Rounding
import Sastt.Deploy.EvaluationGate
import Sastt.Application.SourceOrder
import Sastt.Application.ConstrainedLinks
import Sastt.Api.Schemas
import Sastt.Api.PublishedContract
import Sastt.Application.WordAttribution
import Sastt.Application.ReplacedProvisionals
import Sastt.Api.ReportedConcurrency
import Sastt.Application.EnoughSources
import Sastt.Adapters.TurnOverlaps
import Sastt.Application.Stretches
import Sastt.Lib.Leading
import Sastt.Application.CleanSpeech
import Sastt.Application.PooledSpeech
import Sastt.Application.ClusterSpeakers
import Sastt.Application.PrototypeKeys
import Sastt.Application.PrototypeRollback
import Sastt.Application.WindowSources
import Sastt.Application.SourcesApart
import Sastt.Lib.Leaders
import Sastt.Adapters.OpenSet
import Sastt.Adapters.StoredNames
import Sastt.Adapters.StaleTasks
import Sastt.Lib.JsonValues
import Sastt.Domain.ReadValues
import Sastt.Adapters.TaskTexts
import Sastt.Api.FullQueue
import Sastt.Domain.ConfigTree
import Sastt.Workers.JobConfigs
import Sastt.Adapters.StoredEvents
import Sastt.Application.DedupWords
import Sastt.Lib.Classes
import Sastt.Deploy.ScoredTriples
import Sastt.Lib.BestAssignments
import Sastt.Deploy.AlignedRosters
import Sastt.Lib.EditDistance
import Sastt.Deploy.BenchmarkReport
import Sastt.Lib.PlaceValues
import Sastt.Domain.Identifiers
import Sastt.Lib.RejectingAssignments
import Sastt.Application.LinkFloor
import Sastt.Api.DemoAudio
import Sastt.Api.EventDocuments
import Sastt.Api.ShownEvents
import Sastt.Application.PublishedHearings
import Sastt.Deploy.Migrations
import Sastt.Web.LivePage
