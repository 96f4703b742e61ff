import Asf.Adapters.EvidenceView
import Asf.Adapters.LinearWebhook
import Asf.Adapters.SignedOrder
import Asf.Api.Redaction
import Asf.Application.Scheduler
import Asf.Audit.Export
import Asf.Audit.Ledger
import Asf.Authority.Composition
import Asf.Dispatch.Adoption
import Asf.Dispatch.Submission
import Asf.Evidence.Guarantees
import Asf.Evidence.Reviewers
import Asf.Forge.GitHubCi
import Asf.Jobs.Arguments
import Asf.Reservations.Capacity
import Asf.Reservations.Keys
import Asf.Reservations.Locks
import Asf.RunEvents.Confluence
import Asf.Runtime.Cancellation
import Asf.Runtime.SourceClosure
import Asf.Runtime.Visibility
import Asf.Steps.Escalations
import Asf.TerminalEvidence.Binding
import Asf.WorkItems.Lifecycle
import Asf.WorkerEvidence.Guarantees
import Asf.Workflow.Accountability
import Asf.Workflow.Answers
import Asf.Workflow.Attempts
