import EvidenceLedger.Chain.Wire
import EvidenceLedger.Proofs.Json.Record
import EvidenceLedger.Proofs.Time.RoundTrip

/-!
# Evidence and blocks travel unchanged

A timestamp, a draft, a record, a header and a block are read back from what is written of them:
every nanosecond, every height up to the greatest, every character of every text, and the order of
records and of standards. A field that is absent is written as null, and that is read as absent.
-/

namespace EvidenceLedger

open Json

instance : LawfulWire Timestamp where
  reads t := Reader.reads_ofText (Timestamp.ofText?_toText t)

theorem reads_optionalText (o : Option String) :
    (Reader.nullable Reader.text).Reads (encodeOption .str o) o :=
  Reader.reads_nullable Reader.reads_text (fun _ => Json.noConfusion) o

namespace Artifact

/-- The fields of an artifact are read from its members, in whichever way those are read that say
what it is. -/
theorem readsWith_members {text : String → RecordReader String}
    (reads : ∀ name value, (text name).Reads [(name, .str value)] value) (a : Artifact) :
    (fieldsWith text).Reads a.members a := by
  have size : (Reader.nullable Reader.word64).Reads (encodeOption word64 a.sizeBytes) a.sizeBytes :=
    Reader.reads_nullable Reader.reads_word64 (fun _ => Json.noConfusion) _
  have standards : (Reader.list Reader.text).Reads (encodeList .str a.standards) a.standards :=
    Reader.reads_list Reader.reads_text _
  exact ((reads "homologationId" a.homologationId).map Artifact.mk)
    |>.and (reads "testRunId" a.testRunId) (by simp)
    |>.and (reads "artifactName" a.artifactName) (by simp)
    |>.and (reads "artifactType" a.artifactType) (by simp)
    |>.and (reads "hashAlgorithm" a.hashAlgorithm) (by simp)
    |>.and (reads "hash" a.hash) (by simp)
    |>.and (.default "sizeBytes" none size) (by simp)
    |>.and (reads "createdBy" a.createdBy) (by simp)
    |>.and (.default "storageUri" none (reads_optionalText _)) (by simp)
    |>.and (.default "standards" [] standards) (by simp)

theorem reads_members (a : Artifact) : fields.Reads a.members a :=
  readsWith_members RecordReader.Reads.text a

end Artifact

instance : LawfulWire EvidenceDraft where
  reads d := by
    have evidenceId := RecordReader.Reads.default "evidenceId" none
      (reads_optionalText d.evidenceId)
    have createdAt : (Reader.nullable decode).Reads (encodeOption encode d.createdAt) d.createdAt :=
      Reader.reads_nullable LawfulWire.reads (fun _ => Json.noConfusion) _
    have all := (evidenceId.map EvidenceDraft.mk)
      |>.and d.artifact.reads_members (by simp [Artifact.members])
      |>.and (.default "createdAt" none createdAt) (by simp [Artifact.members])
    exact all.obj

instance : LawfulWire EvidenceRecord where
  reads r := by
    have all := ((RecordReader.Reads.text "evidenceId" r.evidenceId).map EvidenceRecord.mk)
      |>.and r.artifact.reads_members (by simp [Artifact.members])
      |>.and (.required "createdAt" (LawfulWire.reads r.createdAt)) (by simp [Artifact.members])
    exact all.obj

/-- A record is written as the draft that asks for it is. -/
theorem encode_toDraft (r : EvidenceRecord) : encode r.toDraft = encode r := rfl

instance : LawfulWire Block where
  reads b := by
    have evidences : (Reader.list decode).Reads (encodeList encode b.evidences) b.evidences :=
      Reader.reads_list LawfulWire.reads _
    have all := ((RecordReader.Reads.required "height" (Reader.reads_word64 b.height)).map Block.mk)
      |>.and (.required "timestamp" (LawfulWire.reads b.timestamp)) (by simp)
      |>.and (.required "evidences" evidences) (by simp)
      |>.and (.text "previousHash" b.previousHash) (by simp)
      |>.and (.text "proposerNodeId" b.proposer) (by simp)
      |>.and (.text "hash" b.hash) (by simp)
      |>.and (.text "signature" b.signature) (by simp)
    exact all.obj

instance : LawfulWire BlockHeader where
  reads h := by
    have all :=
      ((RecordReader.Reads.required "height" (Reader.reads_word64 h.height)).map BlockHeader.mk)
      |>.and (.text "hash" h.hash) (by simp)
      |>.and (.text "proposerNodeId" h.proposer) (by simp)
      |>.and (.required "timestamp" (LawfulWire.reads h.timestamp)) (by simp)
    exact all.obj

end EvidenceLedger
