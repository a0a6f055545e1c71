import EvidenceLedger.Json.Reader
import EvidenceLedger.Time.Reader

/-!
# Timestamps on the wire

A timestamp travels as a text.
-/

namespace EvidenceLedger

open Json

instance : Wire Timestamp where
  encode t := .str t.toText
  decode := Reader.ofText Timestamp.ofText?

end EvidenceLedger
