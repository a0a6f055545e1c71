import EvidenceLedger.Chain.Block
import EvidenceLedger.Evidence.Wire

/-!
# Blocks on the wire

No field of a block or of a header may be left out.
-/

namespace EvidenceLedger

open Json

instance : Wire Block where
  encode b := .obj
    [("height", word64 b.height),
      ("timestamp", encode b.timestamp),
      ("evidences", encodeList encode b.evidences),
      ("previousHash", .str b.previousHash),
      ("proposerNodeId", .str b.proposer),
      ("hash", .str b.hash),
      ("signature", .str b.signature)]
  decode := RecordReader.read <|
    ((RecordReader.required "height" Reader.word64).map Block.mk)
      |>.and (.required "timestamp" decode)
      |>.and (.required "evidences" (Reader.list decode))
      |>.and (.required "previousHash" Reader.text)
      |>.and (.required "proposerNodeId" Reader.text)
      |>.and (.required "hash" Reader.text)
      |>.and (.required "signature" Reader.text)

instance : Wire BlockHeader where
  encode h := .obj
    [("height", word64 h.height),
      ("hash", .str h.hash),
      ("proposerNodeId", .str h.proposer),
      ("timestamp", encode h.timestamp)]
  decode := RecordReader.read <|
    ((RecordReader.required "height" Reader.word64).map BlockHeader.mk)
      |>.and (.required "hash" Reader.text)
      |>.and (.required "proposerNodeId" Reader.text)
      |>.and (.required "timestamp" decode)

end EvidenceLedger
