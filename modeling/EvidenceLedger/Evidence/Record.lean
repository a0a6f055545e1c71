import EvidenceLedger.Time.Timestamp

/-!
# Evidence

Evidence says that an artifact of a test run existed: what it is, what it hashes to, and who
says so. A draft is what somebody submits. It may leave open its identifier and its time of
creation, and its hash and algorithm are as they were typed. A record has everything, and is
what a ledger keeps.

Both describe the artifact by the same fields. Every record is a draft that leaves nothing
open.
-/

namespace EvidenceLedger

def supportedAlgorithm : String := "SHA-256"

/-- What evidence says of an artifact. -/
structure Artifact where
  homologationId : String
  testRunId : String
  artifactName : String
  artifactType : String
  hashAlgorithm : String
  hash : String
  sizeBytes : Option UInt64
  createdBy : String
  storageUri : Option String
  standards : List String
deriving DecidableEq

/-- Evidence as it is submitted. -/
structure EvidenceDraft where
  evidenceId : Option String
  artifact : Artifact
  createdAt : Option Timestamp
deriving DecidableEq

/-- Evidence as it is kept. -/
structure EvidenceRecord where
  evidenceId : String
  artifact : Artifact
  createdAt : Timestamp
deriving DecidableEq

/-- A record as a draft that leaves nothing open. -/
def EvidenceRecord.toDraft (r : EvidenceRecord) : EvidenceDraft :=
  ⟨some r.evidenceId, r.artifact, some r.createdAt⟩

namespace EvidenceRecord

@[simp] theorem toDraft_evidenceId (r : EvidenceRecord) :
    r.toDraft.evidenceId = some r.evidenceId := rfl

@[simp] theorem toDraft_artifact (r : EvidenceRecord) : r.toDraft.artifact = r.artifact := rfl

@[simp] theorem toDraft_createdAt (r : EvidenceRecord) :
    r.toDraft.createdAt = some r.createdAt := rfl

end EvidenceRecord

end EvidenceLedger
