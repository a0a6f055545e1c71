import EvidenceLedger.Evidence.Record
import EvidenceLedger.Time.Wire

/-!
# Evidence on the wire

The fields of the artifact stand between the identifier and the time of creation. Size,
storage place and standards may be left out, and in a draft the identifier and the time too.
-/

namespace EvidenceLedger

open Json

namespace Artifact

def members (a : Artifact) : List (String × Json) :=
  [("homologationId", .str a.homologationId),
    ("testRunId", .str a.testRunId),
    ("artifactName", .str a.artifactName),
    ("artifactType", .str a.artifactType),
    ("hashAlgorithm", .str a.hashAlgorithm),
    ("hash", .str a.hash),
    ("sizeBytes", encodeOption word64 a.sizeBytes),
    ("createdBy", .str a.createdBy),
    ("storageUri", encodeOption .str a.storageUri),
    ("standards", encodeList .str a.standards)]

/-- How the fields of an artifact are read, given how those are that say what it is. -/
def fieldsWith (text : String → RecordReader String) : RecordReader Artifact :=
  ((text "homologationId").map Artifact.mk)
    |>.and (text "testRunId")
    |>.and (text "artifactName")
    |>.and (text "artifactType")
    |>.and (text "hashAlgorithm")
    |>.and (text "hash")
    |>.and (.default "sizeBytes" (Reader.nullable Reader.word64) none)
    |>.and (text "createdBy")
    |>.and (.default "storageUri" (Reader.nullable Reader.text) none)
    |>.and (.default "standards" (Reader.list Reader.text) [])

def fields : RecordReader Artifact :=
  fieldsWith fun name => .required name Reader.text

end Artifact

instance : Wire EvidenceDraft where
  encode d := .obj <|
    ("evidenceId", encodeOption .str d.evidenceId) :: d.artifact.members ++
      [("createdAt", encodeOption encode d.createdAt)]
  decode := RecordReader.read <|
    ((RecordReader.default "evidenceId" (Reader.nullable Reader.text) none).map EvidenceDraft.mk)
      |>.and Artifact.fields
      |>.and (.default "createdAt" (Reader.nullable decode) none)

instance : Wire EvidenceRecord where
  encode r := .obj <|
    ("evidenceId", .str r.evidenceId) :: r.artifact.members ++ [("createdAt", encode r.createdAt)]
  decode := RecordReader.read <|
    ((RecordReader.required "evidenceId" Reader.text).map EvidenceRecord.mk)
      |>.and Artifact.fields
      |>.and (.required "createdAt" decode)

end EvidenceLedger
