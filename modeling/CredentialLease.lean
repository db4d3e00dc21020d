import CredentialLease.Main
import CredentialLease.Proofs.Base64.Canonical
import CredentialLease.Proofs.Text.Trimming
import CredentialLease.Rehearsal.Script
import CredentialLease.Rehearsal.StandIn
import CredentialLease.Proofs.Token.Payload
import CredentialLease.Proofs.Token.StoredForm
import CredentialLease.Proofs.Activity.Run
import CredentialLease.Proofs.Record.Replacement
import CredentialLease.Proofs.Login.Session
import CredentialLease.Proofs.Issuance.Acquirer
import CredentialLease.Proofs.Lifecycle.Runs
import CredentialLease.Proofs.Lifecycle.AllOrNothing
import CredentialLease.Proofs.Lifecycle.Exchanges
import CredentialLease.Proofs.Login.Conduct
import CredentialLease.Proofs.Login.Discipline
import CredentialLease.Proofs.Lifecycle.Sessions
import CredentialLease.Proofs.Activity.Progress
import CredentialLease.Proofs.Record.Keeping
import CredentialLease.Proofs.Lifecycle.Ticks
import CredentialLease.Proofs.Lifecycle.ManagedTicks
import CredentialLease.Proofs.Lifecycle.Freshness
import CredentialLease.Proofs.Deployment.Steps
import CredentialLease.Proofs.Deployment.Versions
import CredentialLease.Proofs.Deployment.Interference
import CredentialLease.Proofs.Deployment.Workers
import CredentialLease.Proofs.Lifecycle.Publishing
import CredentialLease.Proofs.Json.Records
import CredentialLease.Proofs.FileTree.Places
import CredentialLease.Proofs.FileTree.Segments
import CredentialLease.Proofs.Record.FileKeeping
import CredentialLease.Proofs.Json.Strings
import CredentialLease.Proofs.Address.Grammar
import CredentialLease.Proofs.Record.SavedFiles
import CredentialLease.Proofs.Deployment.Delivery
import CredentialLease.Proofs.Lifecycle.TrackedState
import CredentialLease.Proofs.Lifecycle.StatusAgreement
import CredentialLease.Proofs.FileTree.Shapes
import CredentialLease.Proofs.Record.AtomicSaves
import CredentialLease.Proofs.Record.Refinement
import CredentialLease.Program.Process
import CredentialLease.Proofs.Program.FailedProcesses
import CredentialLease.Proofs.Activity.Alike
import CredentialLease.Proofs.Record.HiddenSecrets
import CredentialLease.Proofs.Lifecycle.Secrecy
import CredentialLease.Proofs.Program.Secrecy
import CredentialLease.Proofs.Time.ClockWords
import CredentialLease.Proofs.Renewal.ExactRule
import CredentialLease.Proofs.Lifecycle.TickRequests
import CredentialLease.Proofs.Lifecycle.TickEndings
import CredentialLease.Proofs.Lifecycle.Cancellation
import CredentialLease.Proofs.Issuance.ServiceReplies
import CredentialLease.Proofs.Address.Endpoints
import CredentialLease.Proofs.Address.LeadingBlanks
import CredentialLease.Proofs.Address.NormalForm
import CredentialLease.Proofs.Lifecycle.StatusFields
import CredentialLease.Proofs.Time.EpochMillis
import CredentialLease.Proofs.Token.TimeBounds
import CredentialLease.Proofs.Program.Validation
import CredentialLease.Proofs.Deployment.WorkerHistory
import CredentialLease.Proofs.Text.AsciiLowering
import CredentialLease.Proofs.Address.OperationNames
import CredentialLease.Proofs.Token.Damage
import CredentialLease.Proofs.Text.Utf8
import CredentialLease.Proofs.Login.KeyFiles
import CredentialLease.Proofs.Login.BasicHeader
