import EvidenceLedger.Ledger.Wire
import EvidenceLedger.Proofs.Node.Wire

/-!
# What is written is read back

Whatever travels between nodes, clients and files is read back from what is written of it as the
value that it was: there is nothing that the written form does not tell apart, and nothing that it
writes and does not read. A report does not mention what it does not have, and that is read as
missing.

So a block has the same hash wherever it travels. And a record can be handed in again as it was
given out: read as a draft, it asks for itself.
-/

namespace EvidenceLedger

open Json

/-- A field that may be missing is read where it is mentioned, and read as missing where not. -/
theorem Json.reads_mention {α : Type} {read : Reader α} {write : α → Json}
    (reads : ∀ a, read.Reads (write a) a) (notNull : ∀ a, write a ≠ .null) (name : String)
    (value : Option α) :
    (RecordReader.default name (Reader.nullable read) none).ReadsAmong [name]
      (mention name write value) value := by
  cases value with
  | some a =>
    exact RecordReader.Reads.default name none (Reader.reads_nullable reads notNull (some a))
  | none =>
    refine ⟨nofun, nofun, ?_, none, .nil _, rfl⟩
    intro key other source slots
    have differs : key ≠ name := by simpa using other
    exact if_neg differs

instance : LawfulWire EvidenceProof where
  reads p := by
    have all := ((RecordReader.Reads.required "evidence" (LawfulWire.reads p.evidence)).map
        EvidenceProof.mk)
      |>.and (.required "block" (LawfulWire.reads p.block)) (by simp)
    exact all.obj

instance : LawfulWire ProofDetails where
  reads d := by
    have all := ((RecordReader.Reads.required "blockHeight" (Reader.reads_word64 d.blockHeight)).map
        ProofDetails.mk)
      |>.and (.required "blockTimestamp" (LawfulWire.reads d.blockTimestamp)) (by simp)
      |>.and (.text "blockHash" d.blockHash) (by simp)
      |>.and (.text "previousHash" d.previousHash) (by simp)
      |>.and (.text "signedBy" d.signedBy) (by simp)
      |>.and (.required "signatureValid" (Reader.reads_bool d.signatureValid)) (by simp)
    exact all.obj

instance : LawfulWire VerificationReport where
  reads r := by
    have given := ((RecordReader.Reads.required "verified" (Reader.reads_bool r.verified)).map
        VerificationReport.mk)
      |>.and (.text "hash" r.hash) (by simp)
    have all := RecordReader.ReadsAmong.and given
        (reads_mention Reader.reads_text (fun _ => Json.noConfusion) "reason" r.reason) (by simp)
      |>.and (reads_mention LawfulWire.reads (fun _ => Json.noConfusion) "evidence" r.evidence)
        (by simp)
      |>.and (reads_mention LawfulWire.reads (fun _ => Json.noConfusion) "proof" r.proof) (by simp)
    exact all.obj

instance : LawfulWire SyncOutcome where
  reads o := by
    have all := ((RecordReader.Reads.required "synced" (Reader.reads_bool o.synced)).map
        SyncOutcome.mk)
      |>.and (.required "appliedCount" (Reader.reads_word64 o.applied)) (by simp)
      |>.and (.required "fromHeight" (Reader.reads_word64 o.fromHeight)) (by simp)
      |>.and (.required "toHeight" (Reader.reads_word64 o.toHeight)) (by simp)
      |>.and (.optional "reason" (reads_optionalText o.reason)) (by simp)
    exact all.obj

/-- A text that holds what is written of a value, and nothing else, is read as that value. -/
def RoundTrips (α : Type) [Wire α] : Prop :=
  ∀ a : α, readWhole decode (encode a).toBytes = .ok a

theorem roundTrips_of_lawful (α : Type) [Wire α] [LawfulWire α] : RoundTrips α :=
  fun a => readWhole_toBytes (LawfulWire.reads a)

/-- Everything that is written is read back as it was. This holds of all that travels: evidence that
is submitted and recorded, blocks and their headers, proofs and reports, what a synchronisation came
to; and of all that is configured, in whichever order the entries of an allowlist are written. So
the hash of a block is that of the block that is read back, and a record that is read as a draft is
the draft that asks for it. -/
theorem roundTrips_all :
    (RoundTrips EvidenceDraft ∧ RoundTrips EvidenceRecord ∧ RoundTrips Block ∧
      RoundTrips BlockHeader ∧ RoundTrips Timestamp) ∧
    (RoundTrips EvidenceProof ∧ RoundTrips ProofDetails ∧ RoundTrips VerificationReport ∧
      RoundTrips SyncOutcome) ∧
    (RoundTrips Allowlist ∧ RoundTrips NodeIdentity ∧ RoundTrips ListenConfig ∧
      RoundTrips SyncConfig ∧ RoundTrips PushConfig ∧ RoundTrips LeaderConfig ∧
      RoundTrips NodeConfig) ∧
    (∀ (i : NodeIdentity) (entries : List (String × String)),
      entries.Perm i.allowlist.entries → readWhole decode (i.writeWith entries).toBytes = .ok i) ∧
    (∀ (c : NodeConfig) (entries : List (String × String)),
      entries.Perm c.identity.allowlist.entries →
        readWhole decode (c.writeWith entries).toBytes = .ok c) ∧
    (∀ (crypto : Cryptography) (block : Block),
      ∃ copy : Block, readWhole decode (encode block).toBytes = .ok copy ∧
        crypto.hashOf copy.content = crypto.hashOf block.content) ∧
    ∀ r : EvidenceRecord, readWhole decode (encode r).toBytes = .ok r.toDraft := by
  have identities (i : NodeIdentity) (entries : List (String × String))
      (shuffled : entries.Perm i.allowlist.entries) :
      readWhole decode (i.writeWith entries).toBytes = .ok i :=
    readWhole_toBytes (NodeIdentity.reads_writeWith shuffled)
  have configurations (c : NodeConfig) (entries : List (String × String))
      (shuffled : entries.Perm c.identity.allowlist.entries) :
      readWhole decode (c.writeWith entries).toBytes = .ok c :=
    readWhole_toBytes (NodeConfig.reads_writeWith shuffled)
  have hashes (crypto : Cryptography) (block : Block) :
      ∃ copy : Block, readWhole decode (encode block).toBytes = .ok copy ∧
        crypto.hashOf copy.content = crypto.hashOf block.content :=
    ⟨block, roundTrips_of_lawful Block block, rfl⟩
  have drafts (r : EvidenceRecord) : readWhole decode (encode r).toBytes = .ok r.toDraft := by
    rw [← encode_toDraft]
    exact roundTrips_of_lawful EvidenceDraft r.toDraft
  exact
    ⟨⟨roundTrips_of_lawful _, roundTrips_of_lawful _, roundTrips_of_lawful _,
        roundTrips_of_lawful _, roundTrips_of_lawful _⟩,
      ⟨roundTrips_of_lawful _, roundTrips_of_lawful _, roundTrips_of_lawful _,
        roundTrips_of_lawful _⟩,
      ⟨roundTrips_of_lawful _, roundTrips_of_lawful _, roundTrips_of_lawful _,
        roundTrips_of_lawful _, roundTrips_of_lawful _, roundTrips_of_lawful _,
        roundTrips_of_lawful _⟩,
      identities, configurations, hashes, drafts⟩

end EvidenceLedger
