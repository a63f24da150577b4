import PersonalOs.DeviceSync.Coordinator
import PersonalOs.SourceStore.LockCycles
import PersonalOs.SourceStore.ConflictRuns
import PersonalOs.SourceStore.AcceptedOutcomes
import PersonalOs.SourceStore.ManifestRuns
import PersonalOs.SourceStore.DeliveredEvents
import PersonalOs.Authentication.LockCycles
import PersonalOs.Authentication.DeviceRuns
import PersonalOs.Authentication.CredentialRuns
import PersonalOs.Journal.RejectedCommits
import PersonalOs.Journal.RenameChains
import PersonalOs.Journal.IntentEndpoints
import PersonalOs.Journal.PassRuns
import PersonalOs.Journal.CaptureRuns
import PersonalOs.Projections.DispatchRuns
import PersonalOs.Recovery.ManifestTotality
import PersonalOs.Recovery.Restore
import PersonalOs.SourceStore.HistoricalIdentity
import PersonalOs.Authentication.TrustedProxy
import PersonalOs.ExclusionPolicy.BackoffRuns
import PersonalOs.Authentication.PollPacing
import PersonalOs.Identity.BootstrapRuns
import PersonalOs.ExclusionPolicy.CanonicalReads
import PersonalOs.Multipart.PartSemaphore
import PersonalOs.DeviceSync.ActionPaging
import PersonalOs.DeviceSync.RefusedCalls
import PersonalOs.DeviceSync.SiblingLeaks
import PersonalOs.Conflicts.RegionTilings
import PersonalOs.Conflicts.MergeSymmetry
import PersonalOs.Conflicts.EvidenceTexts
import PersonalOs.ExclusionPolicy.CanonicalInjectivity
import PersonalOs.ExclusionPolicy.GlobMatching
import PersonalOs.ExclusionPolicy.PolicyCache
import PersonalOs.Journal.RestoreReservations
import PersonalOs.DeviceSync.EchoSuppression
