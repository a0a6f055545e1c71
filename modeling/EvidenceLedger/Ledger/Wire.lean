import EvidenceLedger.Chain.Wire
import EvidenceLedger.Ledger.Lookup

/-!
# Proofs and reports on the wire

What a report does not have it does not mention.
-/

namespace EvidenceLedger

open Json

instance : Wire EvidenceProof where
  encode p := .obj [("evidence", encode p.evidence), ("block", encode p.block)]
  decode := RecordReader.read <|
    ((RecordReader.required "evidence" decode).map EvidenceProof.mk)
      |>.and (.required "block" decode)

instance : Wire ProofDetails where
  encode d := .obj
    [("blockHeight", word64 d.blockHeight),
      ("blockTimestamp", encode d.blockTimestamp),
      ("blockHash", .str d.blockHash),
      ("previousHash", .str d.previousHash),
      ("signedBy", .str d.signedBy),
      ("signatureValid", .bool d.signatureValid)]
  decode := RecordReader.read <|
    ((RecordReader.required "blockHeight" Reader.word64).map ProofDetails.mk)
      |>.and (.required "blockTimestamp" decode)
      |>.and (.required "blockHash" Reader.text)
      |>.and (.required "previousHash" Reader.text)
      |>.and (.required "signedBy" Reader.text)
      |>.and (.required "signatureValid" Reader.bool)

/-- A member that is only written if there is something to write. -/
def Json.mention {α : Type} (name : String) (write : α → Json) (value : Option α) :
    List (String × Json) :=
  value.toList.map fun a => (name, write a)

instance : Wire VerificationReport where
  encode r := .obj <|
    [("verified", .bool r.verified), ("hash", .str r.hash)] ++
      mention "reason" .str r.reason ++
      mention "evidence" encode r.evidence ++
      mention "proof" encode r.proof
  decode := RecordReader.read <|
    ((RecordReader.required "verified" Reader.bool).map VerificationReport.mk)
      |>.and (.required "hash" Reader.text)
      |>.and (.default "reason" (Reader.nullable Reader.text) none)
      |>.and (.default "evidence" (Reader.nullable decode) none)
      |>.and (.default "proof" (Reader.nullable decode) none)

end EvidenceLedger
