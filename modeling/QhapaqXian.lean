import QhapaqXian.Proofs.Backoff
import QhapaqXian.Proofs.Concurrency
import QhapaqXian.Proofs.Contract
import QhapaqXian.Proofs.ContractExecution
import QhapaqXian.Proofs.DerivedTags
import QhapaqXian.Proofs.Enforcement
import QhapaqXian.Proofs.ExecutionTrace
import QhapaqXian.Proofs.Inspection
import QhapaqXian.Proofs.LaunchedAssets
import QhapaqXian.Proofs.Launcher
import QhapaqXian.Proofs.LeaseRuns
import QhapaqXian.Proofs.OutputPlugin
import QhapaqXian.Proofs.PlanBudget
import QhapaqXian.Proofs.ReceiptRuns
import QhapaqXian.Proofs.ReceiptTail
import QhapaqXian.Proofs.RetryBalance
import QhapaqXian.Proofs.RecoveryReport
import QhapaqXian.Proofs.RunnerResponse
import QhapaqXian.Proofs.SemanticLog
import QhapaqXian.Proofs.SemanticReplay
import QhapaqXian.Proofs.Snapshot
import QhapaqXian.Proofs.StoredContracts
import QhapaqXian.Proofs.Summaries
import QhapaqXian.Proofs.TraceDetail
import QhapaqXian.Proofs.RuntimePolicy
import QhapaqXian.Proofs.PlanDisplay
import QhapaqXian.Proofs.BackendLeases
import QhapaqXian.Proofs.Attribution
import QhapaqXian.Proofs.LatestRows
import QhapaqXian.Proofs.History
import QhapaqXian.Proofs.CheckpointCounter
