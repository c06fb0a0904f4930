import QuotaScheduler.FenceRecovery
import QuotaScheduler.SnapshotTracking
import QuotaScheduler.StoreAtomicity
import QuotaScheduler.CredentialOrigin
import QuotaScheduler.BindingFence
import QuotaScheduler.BindingEpochs
import QuotaScheduler.TokenRefresh
import QuotaScheduler.ManagedFiles
import QuotaScheduler.ManagedOwnership
import QuotaScheduler.ManagedCredential
import QuotaScheduler.ProbeSuppression
import QuotaScheduler.CoordinatorChannel
import QuotaScheduler.TypedReads
import QuotaScheduler.RefresherLifecycle
import QuotaScheduler.MarkerWindow
import QuotaScheduler.AuthPark
import QuotaScheduler.FailureStreak
import QuotaScheduler.UserDataRecovery
import QuotaScheduler.DegradedBound
import QuotaScheduler.ProbeLearning
import QuotaScheduler.ProbeBootstrap
import QuotaScheduler.ProbeRerun
import QuotaScheduler.TrialBackoff
import QuotaScheduler.AdmissionPriority
import QuotaScheduler.RefreshJournal
import QuotaScheduler.RefreshRequests
import QuotaScheduler.CredentialRollback
import QuotaScheduler.RefreshWakes
import QuotaScheduler.StreamEnds
import QuotaScheduler.StreamObserver
import QuotaScheduler.RetryTexts
import QuotaScheduler.EmbeddedObjects
import QuotaScheduler.ManagedEvidence
import QuotaScheduler.UsageFailures
import QuotaScheduler.PickPump
