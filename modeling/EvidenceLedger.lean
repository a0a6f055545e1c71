import EvidenceLedger.Json.Tree
import EvidenceLedger.Main
import EvidenceLedger.Proofs.Ledger.Run
import EvidenceLedger.Proofs.Ledger.Integrity
import EvidenceLedger.Proofs.Bytes.Hex
import EvidenceLedger.Proofs.Text.Numeral
import EvidenceLedger.Proofs.Text.Separator
import EvidenceLedger.Proofs.Time.Calendar
import EvidenceLedger.Proofs.Time.RoundTrip
import EvidenceLedger.Proofs.Chain.CanonicalText
import EvidenceLedger.Proofs.Bytes.Text
import EvidenceLedger.Proofs.Chain.CanonicalRecord
import EvidenceLedger.Proofs.Chain.Binding
import EvidenceLedger.Proofs.Chain.Order
import EvidenceLedger.Proofs.Bytes.Base64
import EvidenceLedger.Proofs.Key.Signature
import EvidenceLedger.Proofs.Chain.Sealing
import EvidenceLedger.Proofs.Ledger.Cluster
import EvidenceLedger.Proofs.Ledger.Agreement
import EvidenceLedger.Proofs.Ledger.Replication
import EvidenceLedger.Proofs.Ledger.Validity
import EvidenceLedger.Proofs.Ledger.Conservation
import EvidenceLedger.Proofs.Sync.Replay
import EvidenceLedger.Proofs.Sync.Convergence
import EvidenceLedger.Proofs.Json.Number
import EvidenceLedger.Proofs.Json.Scan
import EvidenceLedger.Proofs.Json.Record
import EvidenceLedger.Proofs.Api.Receive
import EvidenceLedger.Proofs.Sync.InStep
import EvidenceLedger.Proofs.Sync.Interleaving
import EvidenceLedger.Proofs.Ledger.Normality
import EvidenceLedger.Proofs.Text.LowerCase
import EvidenceLedger.Proofs.Ledger.Audit
import EvidenceLedger.Proofs.Ledger.Atomicity
import EvidenceLedger.Proofs.Node.Wire
import EvidenceLedger.Proofs.Ledger.Wire
import EvidenceLedger.Proofs.Api.Requests
import EvidenceLedger.Proofs.Chain.Decoding
import EvidenceLedger.Proofs.Chain.Verification
import EvidenceLedger.Proofs.Audit.Trail
import EvidenceLedger.Proofs.Sync.Termination
import EvidenceLedger.Proofs.Ledger.Permanence
import EvidenceLedger.Proofs.Ledger.Attestation
import EvidenceLedger.Proofs.Sync.Trail
import EvidenceLedger.Proofs.Sync.Rounds
import EvidenceLedger.Proofs.Sync.Resilience
import EvidenceLedger.Proofs.Ledger.Pages
import EvidenceLedger.Proofs.Ledger.Resubmission
import EvidenceLedger.Proofs.Text.Percent
import EvidenceLedger.Proofs.Api.Submissions
import EvidenceLedger.Proofs.Api.Lookups
import EvidenceLedger.Proofs.Key.Text
import EvidenceLedger.Proofs.Replication.Tasks
import EvidenceLedger.Proofs.Ledger.Ticks
import EvidenceLedger.Proofs.Sync.Abandonment
import EvidenceLedger.Proofs.Hash.Digest
import EvidenceLedger.Proofs.Time.Exactness
import EvidenceLedger.Proofs.Node.Allowlist
import EvidenceLedger.Proofs.Config.Environment
