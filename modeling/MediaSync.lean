import MediaSync.Catalog.OutboxDelivery
import MediaSync.Catalog.ResourceClaims
import MediaSync.CrossStore.FinalFileHandoffs
import MediaSync.Duplicates.HashEvidence
import MediaSync.Duplicates.Pausing
import MediaSync.Execution.CommitDiscipline
import MediaSync.Execution.SealedPaths
import MediaSync.Execution.SizeLimits
import MediaSync.Execution.StagingAttempts
import MediaSync.Execution.StartupCompletion
import MediaSync.Execution.TamperEvidence
import MediaSync.History.Enumeration
import MediaSync.Ipc.RateLimits
import MediaSync.Jobs.OccurrenceSafety
import MediaSync.Jobs.ReceiptStore
import MediaSync.Plans.BackupEffect
import MediaSync.Plans.SavedPlans
import MediaSync.Recovery.DirectoryMachine
import MediaSync.Recovery.Fencing
import MediaSync.Recovery.RetrySchedulers
import MediaSync.Runs.HandoffCalls
import MediaSync.Runs.Pause
import MediaSync.Runs.RetryScope
import MediaSync.Runs.StartReconciliation
import MediaSync.Snapshots.EmptyDirectories
import MediaSync.Snapshots.FilterDecisions
import MediaSync.Snapshots.FilterPolicies
import MediaSync.Snapshots.GlobPatterns
import MediaSync.Snapshots.SealedChecksum
import MediaSync.Snapshots.StreamedScan
import MediaSync.StateStores.MigrationResumption
import MediaSync.StateStores.MigrationRuns
import MediaSync.Transfers.Publication
import MediaSync.Transfers.WindowsArgv
