import EvidenceLedger.Chain.Block

/-!
# The canonical form of a block

The text whose digest is the hash of a block: everything in the block but the hash and the
signature. Records come in the order of their identifiers and standards in their own order,
so neither the order in which evidence arrived nor the order in which somebody listed
standards shows. Records with the same identifier keep the order that they have in the block.

Nothing is escaped. The separators are ordinary characters that a field may hold.
-/

namespace EvidenceLedger

/-- What a block says before it is sealed. -/
structure BlockContent where
  height : UInt64
  timestamp : Timestamp
  evidences : List EvidenceRecord
  previousHash : String
  proposer : String
deriving DecidableEq

/-- What a block says, its hash and its signature aside. -/
def Block.content (b : Block) : BlockContent :=
  ⟨b.height, b.timestamp, b.evidences, b.previousHash, b.proposer⟩

def sortedTexts (texts : List String) : List String :=
  texts.mergeSort fun a b => a ≤ b

namespace EvidenceRecord

/-- Records in the order of their identifiers, those with the same one as they come. -/
def sortById (records : List EvidenceRecord) : List EvidenceRecord :=
  records.mergeSort fun a b => a.evidenceId ≤ b.evidenceId

def canonicalFields (r : EvidenceRecord) : List String :=
  [r.evidenceId,
    r.artifact.homologationId,
    r.artifact.testRunId,
    r.artifact.artifactName,
    r.artifact.artifactType,
    r.artifact.hashAlgorithm,
    r.artifact.hash,
    (r.artifact.sizeBytes.map fun n => Text.decimal n.toNat).getD "",
    r.artifact.createdBy,
    r.artifact.storageUri.getD "",
    r.createdAt.toText,
    String.intercalate "+" (sortedTexts r.artifact.standards)]

def canonicalText (r : EvidenceRecord) : String :=
  String.intercalate "," r.canonicalFields ++ ";"

end EvidenceRecord

def BlockContent.canonicalText (c : BlockContent) : String :=
  "height=" ++ Text.decimal c.height.toNat ++ "|ts=" ++ c.timestamp.toText ++
    "|prev=" ++ c.previousHash ++ "|proposer=" ++ c.proposer ++ "|evidences=" ++
    String.join ((EvidenceRecord.sortById c.evidences).map EvidenceRecord.canonicalText)

end EvidenceLedger
