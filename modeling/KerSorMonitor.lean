import KerSorMonitor.Flotilla.Lifecycle
import KerSorMonitor.Flotilla.Capacity
import KerSorMonitor.Flotilla.Fencing
import KerSorMonitor.Flotilla.TaskSteps
import KerSorMonitor.Flotilla.AtRest
import KerSorMonitor.Flotilla.LiveStream
import KerSorMonitor.Flotilla.Tombstones
import KerSorMonitor.Scripts.Locks
import KerSorMonitor.Scripts.Snapshot
import KerSorMonitor.Scripts.HumanQuestions
import KerSorMonitor.Scripts.StartWorker
import KerSorMonitor.Akctl.PatrolLimits
import KerSorMonitor.Akctl.LostUpdate
import KerSorMonitor.Akctl.Deployers
import KerSorMonitor.Lib.Machine
import KerSorMonitor.Dashboard.TaskState
import KerSorMonitor.Dashboard.TaskGrid
import KerSorMonitor.Dashboard.NoTaskLost
import KerSorMonitor.Dashboard.KnownTasks
import KerSorMonitor.Flotilla.InStep
import KerSorMonitor.Flotilla.Verdicts
import KerSorMonitor.Flotilla.Reports
import KerSorMonitor.Flotilla.Timestamps
import KerSorMonitor.Flotilla.Steering
import KerSorMonitor.Runtime.RemoteRetries
import KerSorMonitor.Runtime.Leftovers
import KerSorMonitor.Runtime.ExitedWorkers
import KerSorMonitor.Runtime.Reconciliation
import KerSorMonitor.Flotilla.Queueing
import KerSorMonitor.Flotilla.TypedEvents
import KerSorMonitor.Flotilla.Retirements
import KerSorMonitor.Flotilla.EvaluatorGate
import KerSorMonitor.Flotilla.SlowStream
import KerSorMonitor.Flotilla.Feishu
import KerSorMonitor.Flotilla.Views
import KerSorMonitor.Flotilla.Listing
import KerSorMonitor.Flotilla.Telemetry
import KerSorMonitor.Flotilla.Acceptance
import KerSorMonitor.Flotilla.StandardViews
import KerSorMonitor.Flotilla.Agreement
import KerSorMonitor.Flotilla.StatusWindow
import KerSorMonitor.Scripts.Isolation
import KerSorMonitor.Scripts.LegacyLaws
import KerSorMonitor.Flotilla.Hosts
import KerSorMonitor.Flotilla.TailLines
import KerSorMonitor.Scripts.GpuSafety
import KerSorMonitor.Scripts.StartPlan
import KerSorMonitor.Scripts.GpuRun
import KerSorMonitor.Scripts.GenericVerdict
import KerSorMonitor.Akctl.DryRun
import KerSorMonitor.Akctl.StartCommands
import KerSorMonitor.Scripts.InitFeishu
import KerSorMonitor.Scripts.OtelReceiver
import KerSorMonitor.Scripts.RemoteMonitor
import KerSorMonitor.Scripts.SkillHub
import KerSorMonitor.Flotilla.PyDumps
import KerSorMonitor.Flotilla.SqlRefinement
import KerSorMonitor.Flotilla.Templates
import KerSorMonitor.Scripts.OtelPlugin
