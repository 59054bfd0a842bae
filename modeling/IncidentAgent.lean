import IncidentAgent.Lib.Outcome
import IncidentAgent.Lib.Transition
import IncidentAgent.Store.Rows
import IncidentAgent.Store.Leases
import IncidentAgent.Store.Operations
import IncidentAgent.Store.Rounds
import IncidentAgent.Store.Interactions
import IncidentAgent.Store.Controls
import IncidentAgent.Store.Observations
import IncidentAgent.System.Machine
import IncidentAgent.Store.Evolution
import IncidentAgent.Store.History
import IncidentAgent.Store.Standing
import IncidentAgent.Store.Transactions
import IncidentAgent.System.Steps
import IncidentAgent.System.Invariant
import IncidentAgent.System.Lineage
import IncidentAgent.System.Consumption
import IncidentAgent.System.Arbiter
import IncidentAgent.System.Arbitration
import IncidentAgent.System.Precedence
import IncidentAgent.System.Orphans
import IncidentAgent.System.Frozen
import IncidentAgent.System.Fencing
import IncidentAgent.System.Activation
import IncidentAgent.System.Lanes
import IncidentAgent.System.Frames
import IncidentAgent.System.Rechecks
import IncidentAgent.System.Outputs
import IncidentAgent.System.Publication
import IncidentAgent.Lib.Prog
import IncidentAgent.Agent.Watch
import IncidentAgent.Business.Verdict
import IncidentAgent.System.Log
import IncidentAgent.System.Acceptance
import IncidentAgent.Policy.WriteGate
import IncidentAgent.Recovery.Verdict
import IncidentAgent.Business.Wire
import IncidentAgent.Investigation.Secrets
import IncidentAgent.Executor.Approval
import IncidentAgent.Worker.Classify
import IncidentAgent.Worker.Execution
import IncidentAgent.Policy.Freshness
import IncidentAgent.Investigation.Projection
import IncidentAgent.Investigation.Attempts
import IncidentAgent.Investigation.Sampling
import IncidentAgent.Policy.Reports
import IncidentAgent.Recovery.Exclusion
import IncidentAgent.Policy.Citations
import IncidentAgent.Tools.LogText
import IncidentAgent.Investigation.Grouping
import IncidentAgent.Tools.SelectorPatch
import IncidentAgent.Diagnosis.Failures
import IncidentAgent.Store.Listing
import IncidentAgent.Executor.Once
import IncidentAgent.Workflow.Runs
import IncidentAgent.Investigation.Current
import IncidentAgent.Investigation.Decisions
import IncidentAgent.Investigation.Runs
