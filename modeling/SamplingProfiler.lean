import SamplingProfiler.CommandLine.Scenarios
import SamplingProfiler.Json.Reader
import SamplingProfiler.Kernel.Programs
import SamplingProfiler.Loader.Deployment
import SamplingProfiler.Main
import SamplingProfiler.Proofs.BoundedMaps
import SamplingProfiler.Proofs.StackCaptures
import SamplingProfiler.Workspace.Rehearsal
import SamplingProfiler.Proofs.Ticks
import SamplingProfiler.Proofs.Collections
import SamplingProfiler.Proofs.Runs
import SamplingProfiler.Proofs.Attribution
import SamplingProfiler.Proofs.Conservation
import SamplingProfiler.Proofs.ConcurrentCounts
import SamplingProfiler.Proofs.Separations
import SamplingProfiler.Proofs.FailedCollections
import SamplingProfiler.Proofs.TableContents
import SamplingProfiler.Proofs.ProfileMaps
import SamplingProfiler.Proofs.KeptKeys
import SamplingProfiler.Proofs.DelayedExports
import SamplingProfiler.Proofs.TwinCollectors
import SamplingProfiler.Proofs.ConcurringDecisions
import SamplingProfiler.Proofs.KernelTallies
import SamplingProfiler.Proofs.TwinPrograms
import SamplingProfiler.Proofs.TendedTables
import SamplingProfiler.Proofs.Standings
import SamplingProfiler.Proofs.ExitedProcesses
import SamplingProfiler.Proofs.NoticeOrder
import SamplingProfiler.Proofs.NoticeQueues
import SamplingProfiler.Proofs.Announcements
import SamplingProfiler.Proofs.Oversight
import SamplingProfiler.Proofs.AccountedProcesses
import SamplingProfiler.Proofs.OverlookedProcesses
import SamplingProfiler.Proofs.Upkeep
import SamplingProfiler.Proofs.DeadProcesses
import SamplingProfiler.Proofs.RememberedProcesses
import SamplingProfiler.Proofs.RefusedWrites
import SamplingProfiler.Proofs.Sightings
import SamplingProfiler.Proofs.StackReferences
import SamplingProfiler.Proofs.NoticeLedgers
import SamplingProfiler.Proofs.OutcomeEffects
import SamplingProfiler.Proofs.OutcomeAccounts
import SamplingProfiler.Proofs.ForwardedRecords
import SamplingProfiler.Proofs.StackContents
import SamplingProfiler.Proofs.TickOrder
import SamplingProfiler.Proofs.CallDiscipline
import SamplingProfiler.Proofs.Products
import SamplingProfiler.Proofs.DirectWrites
import SamplingProfiler.Proofs.ResetRounds
import SamplingProfiler.Proofs.StackSizes
import SamplingProfiler.Proofs.StackIds
import SamplingProfiler.Proofs.FiniteMaps
import SamplingProfiler.Proofs.Admissions
