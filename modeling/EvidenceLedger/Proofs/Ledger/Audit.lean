import EvidenceLedger.Proofs.Ledger.Normality
import EvidenceLedger.Proofs.Ledger.Validity
import EvidenceLedger.Proofs.Text.LowerCase

/-!
# What an audit finds

An audit does not ask whether a block was accepted. It looks for a hash, and judges the signature
of the block again, by rules of its own: the name of the proposer is not that of the first block,
and the signature is good under the key that the proposer is trusted under. Acceptance asks for the
second only, and a commit for neither.

The second is true of every block that holds evidence, whether the node sealed it or accepted it, if
the configuration of the node is valid. So the name of the proposer decides alone. No check keeps a
node from that name, and what such a node seals is found with a signature that does not count.
-/

namespace EvidenceLedger

theorem normalizeHash_normalizeHash (hash : String) :
    normalizeHash (normalizeHash hash) = normalizeHash hash := by
  simp only [normalizeHash, Text.trim_toLower_trim, Text.toLower_toLower]

/-- The signature of the block is good under the key that its proposer is trusted under. -/
def Judge.Vouches (judge : Judge) (block : Block) : Prop :=
  ∃ key, judge.identity.trustedKey? block.proposer = some key ∧
    judge.crypto.isSigned block key = true

namespace Judge

variable {judge : Judge} {head block : Block}

theorem trusts_iff :
    judge.trusts block = true ↔ block.proposer ≠ genesisProposer ∧ judge.Vouches block := by
  rw [trusts, Bool.and_eq_true, bne_iff_ne, Option.any_eq_true, Vouches]

theorem vouches_of_follows (follows : judge.follows head block = .ok ()) : judge.Vouches block := by
  obtain ⟨_, _, key, trusted, _, signed⟩ := follows_eq_ok_iff.mp follows
  exact ⟨key, trusted, signed⟩

/-- A node that trusts nobody under a name vouches for no block that goes by it. -/
theorem Vouches.ne_of_find?_eq_none {name : String} (vouches : judge.Vouches block)
    (nobody : judge.identity.allowlist.find? name = none) : block.proposer ≠ name := by
  rintro rfl
  obtain ⟨key, trusted, _⟩ := vouches
  rw [NodeIdentity.trustedKey?, nobody] at trusted
  cases trusted

end Judge

namespace Ledger

variable {judge : Judge} {l : Ledger} {hash : String} {proof : EvidenceProof}

/-- What is found under a hash is found under its normal form. -/
theorem find?_normalizeHash (l : Ledger) (hash : String) :
    l.find? (normalizeHash hash) = l.find? hash := by
  rw [find?, find?, normalizeHash_normalizeHash]

/-- The report is on the record that is found under the hash, whichever form the hash has. -/
theorem verify_of_find?_eq_some (found : l.find? hash = some proof) :
    l.verify judge hash =
      ⟨true, normalizeHash hash, none, some proof.evidence, some (judge.details proof)⟩ := by
  rw [verify]
  simp only [find?_normalizeHash, found]

theorem verify_of_find?_eq_none (missing : l.find? hash = none) :
    l.verify judge hash = .notFound (normalizeHash hash) := by
  rw [verify]
  simp only [find?_normalizeHash, missing]

end Ledger

namespace NodeConfig

variable {c : NodeConfig} {l : Ledger} {op : Operation}

/-- A leader with a valid configuration vouches for what it seals itself, under its own name. -/
theorem Valid.vouches_sealBlock (valid : c.Valid) (leads : c.identity.isLeader = true)
    {key : String} (holds : c.identity.privateKey? = some key) {content : BlockContent}
    (own : content.proposer = c.identity.nodeId) (signsWell : c.SignsWell content) {block : Block}
    (sealed : c.judge.crypto.sealBlock content key = .ok block) : c.judge.Vouches block := by
  obtain ⟨keyText, pair, trustedText, written, reads, trusted, readsTrusted⟩ :=
    valid.exists_leaderKey leads
  obtain rfl := Option.some.inj (holds.symm.trans written)
  obtain rfl := Except.ok.inj ((PrivateKey.sealBlock_standard reads).symm.trans sealed)
  have signs : pair.SignsWell content := by
    apply signsWell pair
    rw [(Option.filter_eq_some_iff.mp holds).1]
    exact reads
  refine ⟨trustedText, ?_, PrivateKey.isSigned_sealed readsTrusted signs⟩
  show c.identity.trustedKey? content.proposer = some trustedText
  rw [own, NodeIdentity.trustedKey?, trusted, Option.filter_some,
    not_isBlank_of_ofText readsTrusted]
  rfl

/-- A node with a valid configuration vouches for every block that an operation adds. -/
theorem Valid.vouches_perform (valid : c.Valid)
    (vouches : ∀ block ∈ l.chain, block = c.judge.crypto.genesis ∨ c.judge.Vouches block)
    (signsWell : ∀ block ∈ (l.perform c.judge op).chain,
      block.proposer = c.identity.nodeId → c.SignsWell block.content) :
    ∀ block ∈ (l.perform c.judge op).chain,
      block = c.judge.crypto.genesis ∨ c.judge.Vouches block := by
  have added (block : Block) (vouched : c.judge.Vouches block) :
      ∀ other ∈ l.chain ++ [block], other = c.judge.crypto.genesis ∨ c.judge.Vouches other := by
    intro other member
    rcases List.mem_append.mp member with before | new
    · exact vouches other before
    · exact .inr (List.mem_singleton.mp new ▸ vouched)
  cases op with
  | submit draft newId now =>
    rw [Ledger.perform, Ledger.chain_submit]
    exact vouches
  | accept block =>
    rw [Ledger.perform_accept]
    cases judged : c.judge.follows l.head block with
    | error reason =>
      rw [Ledger.accept_of_error judged]
      exact vouches
    | ok _ =>
      rw [Ledger.accept_of_ok judged]
      exact added block (Judge.vouches_of_follows judged)
  | commit now =>
    obtain ⟨reason, refused⟩ | ⟨key, block, leads, holds, _, sealed, committed⟩ :=
      Ledger.commit_cases c.judge l now
    · rw [Ledger.perform, refused]
      exact vouches
    · rw [Ledger.perform, committed] at signsWell ⊢
      have content := (Cryptography.sealBlock_eq_ok_iff.mp sealed).1
      have own : block.proposer = c.identity.nodeId := congrArg BlockContent.proposer content
      have signs := signsWell block (List.mem_append_right _ (List.mem_singleton_self block)) own
      rw [content] at signs
      exact added block (valid.vouches_sealBlock leads holds rfl signs sealed)

/-- A node with a valid configuration vouches for all its blocks but the first one. -/
theorem Valid.vouches_of_reachable (valid : c.Valid) (reachable : Ledger.Reachable c.judge l)
    (signsWell : ∀ block ∈ l.chain,
      block.proposer = c.identity.nodeId → c.SignsWell block.content) :
    ∀ block ∈ l.chain, block = c.judge.crypto.genesis ∨ c.judge.Vouches block := by
  induction reachable with
  | start =>
    intro block member
    exact .inl (List.mem_singleton.mp member)
  | @perform l earlier op ih =>
    have grown := Ledger.chain_prefix_perform c.judge l op
    exact valid.vouches_perform (ih fun block member => signsWell block (grown.subset member))
      signsWell

/-- What an audit finds at a node with a valid configuration. Whatever is submitted, committed and
delivered to it, in any order and with any outcome: every hash that is found, asked for in any form,
is reported as verified, with the record that is found and the details of the block of the chain
that holds it. The signature of that block counts exactly if the proposer is not called as that of
the first block is. So all signatures count at a node that trusts nobody of that name.

The signatures of the node under the blocks in question are assumed to verify. -/
theorem audit_of_run {c : NodeConfig} (valid : c.validate = .ok ())
    (operations : List Operation) :
    let l := Ledger.run c.judge (.fresh .standard) operations
    (∀ block ∈ l.chain, block.proposer = c.identity.nodeId → c.SignsWell block.content) →
    ∀ hash proof, l.find? hash = some proof →
      proof.block ∈ l.chain ∧ proof.evidence ∈ proof.block.evidences ∧
      proof.evidence.artifact.hash = normalizeHash hash ∧
      ∃ details : ProofDetails,
        l.verify c.judge hash =
          ⟨true, normalizeHash hash, none, some proof.evidence, some details⟩ ∧
        details.blockHeight = proof.block.height ∧
        details.blockTimestamp = proof.block.timestamp ∧
        details.blockHash = proof.block.hash ∧
        details.previousHash = proof.block.previousHash ∧
        details.signedBy = proof.block.proposer ∧
        (details.signatureValid = true ↔ proof.block.proposer ≠ genesisProposer) ∧
        (c.identity.allowlist.find? genesisProposer = none → details.signatureValid = true) := by
  intro l signsWell hash proof found
  have checked : c.Valid := validate_eq_ok_iff.mp valid
  have reachable : Ledger.Reachable c.judge l := Ledger.Reachable.start.run operations
  obtain ⟨member, inBlock, same⟩ := Ledger.mem_of_find?_eq_some found
  have vouches : c.judge.Vouches proof.block := by
    obtain first | vouched := checked.vouches_of_reachable reachable signsWell proof.block member
    · rw [first] at inBlock
      cases inBlock
    · exact vouched
  have counts : c.judge.trusts proof.block = true ↔ proof.block.proposer ≠ genesisProposer := by
    rw [Judge.trusts_iff]
    exact and_iff_left vouches
  refine ⟨member, inBlock, same, c.judge.details proof, Ledger.verify_of_find?_eq_some found, rfl,
    rfl, rfl, rfl, rfl, counts, ?_⟩
  intro nobody
  exact counts.mpr (vouches.ne_of_find?_eq_none nobody)

end NodeConfig

/-! Two leaders that seal the record and are asked for it. One of them is called as the proposer of
the first block is. -/

namespace Sample

/-- What is asked for: the hash of the record as it was submitted, with white space around it. -/
def question : String := " " ++ draft.artifact.hash ++ "\n"

def sealing : List Operation := [.submit draft "ev-1" .genesis, .commit .genesis]

theorem run_sealing {c : NodeConfig} (leads : c.identity.isLeader = true)
    (holds : c.identity.privateKey? = some "BwcHBwcHBwcHBwcHBwcHBwcHBwcHBwcHBwcHBwcHBwc=") :
    Ledger.run c.judge (.fresh .standard) sealing =
      waiting.append (leaderKey.sealed (waiting.nextContent c.identity.nodeId .genesis)) [] := by
  have submitted : (Ledger.fresh .standard).perform c.judge (.submit draft "ev-1" .genesis) =
      waiting := congrArg Outcome.ledger submit_draft
  rw [sealing, Ledger.run_cons, Ledger.run_cons, Ledger.run_nil, submitted]
  exact congrArg Outcome.ledger
    (Ledger.commit_standard leads holds ofText_leaderKey (List.cons_ne_nil _ _))

theorem normalizeHash_question : normalizeHash question = record.artifact.hash := by
  decide +kernel

theorem find?_question {block : Block} (evidences : block.evidences = [record]) :
    (waiting.append block []).find? question = some ⟨record, block⟩ := by
  have inBlock : block.find? (normalizeHash question) = some ⟨record, block⟩ := by
    have here : [record].find? (fun r => r.artifact.hash == record.artifact.hash) = some record :=
      List.find?_cons_of_pos (beq_self_eq_true _)
    rw [Block.find?, evidences, normalizeHash_question, here, Option.map_some]
  show ([Cryptography.standard.genesis, block].findSome? fun b =>
    b.find? (normalizeHash question)) = some ⟨record, block⟩
  rw [List.findSome?_cons_of_isNone rfl, List.findSome?_cons, inBlock]

/-- A leader that trusts itself, under the name that stands in the first block. -/
def namesake : NodeIdentity :=
  (NodeIdentity.leader genesisProposer "BwcHBwcHBwcHBwcHBwcHBwcHBwcHBwcHBwcHBwcHBwc=").allow
    genesisProposer "6kpsY+KcUgq+9VB7Ey7F+ZVHdq6+vnuSQh7qaRRG0iw="

/-- The configuration of the namesake, with everything else as it comes. -/
def namesakeConfig : NodeConfig := { NodeConfig.standard with identity := namesake }

def namesakeBlock : Block := leaderKey.sealed (waiting.nextContent genesisProposer .genesis)

theorem validate_namesakeConfig : namesakeConfig.validate = .ok () := by
  refine NodeConfig.validate_eq_ok_iff.mpr
    ⟨by decide, by decide, by decide, fun _ => ?_, by decide, by decide, by decide, by decide⟩
  exact NodeConfig.checkLeaderKey_eq_ok_iff.mpr
    ⟨leaderKey, _, ofText_leaderKey, rfl, publicKey_leaderKey⟩

theorem signsWell_namesakeBlock : namesakeConfig.SignsWell namesakeBlock.content := by
  intro own reads
  obtain rfl := Except.ok.inj (ofText_leaderKey.symm.trans reads)
  unfold PrivateKey.SignsWell
  decide +kernel

end Sample

/-- The leader of the samples finds what it has sealed, with a signature that counts. -/
theorem NodeConfig.audit_of_sealing :
    let c := Sample.leaderConfig
    let l := Ledger.run c.judge (.fresh .standard) Sample.sealing
    c.validate = .ok () ∧
      (∀ block ∈ l.chain, block.proposer = c.identity.nodeId → c.SignsWell block.content) ∧
      ∃ details, l.verify c.judge Sample.question =
          ⟨true, Sample.record.artifact.hash, none, some Sample.record, some details⟩ ∧
        details.blockHash = Sample.sealedBlock.hash ∧ details.signatureValid = true := by
  intro c l
  have isRun : l = Sample.waiting.append Sample.sealedBlock [] := Sample.run_sealing rfl rfl
  have signsWell : ∀ block ∈ l.chain,
      block.proposer = c.identity.nodeId → c.SignsWell block.content := by
    intro block member proposer
    rw [isRun, Ledger.chain_append, List.mem_append, List.mem_singleton] at member
    obtain first | rfl := member
    · obtain rfl := List.mem_singleton.mp first
      exact absurd proposer (by decide)
    · exact Sample.signsWell_leaderConfig
  have found : l.find? Sample.question = some ⟨Sample.record, Sample.sealedBlock⟩ := by
    rw [isRun]
    exact Sample.find?_question rfl
  obtain ⟨_, _, _, details, report, _, _, hash, _, _, _, counts⟩ :=
    audit_of_run Sample.validate_leaderConfig Sample.sealing signsWell _ _ found
  rw [Sample.normalizeHash_question] at report
  exact ⟨Sample.validate_leaderConfig, signsWell, details, report, hash, counts (by decide)⟩

/-- The namesake can make a node and finds what it has sealed. Its signature verifies, but the
report says that it does not count. -/
theorem NodeConfig.exists_not_counted_of_sealing :
    let c := Sample.namesakeConfig
    let l := Ledger.run c.judge (.fresh .standard) Sample.sealing
    c.validate = .ok () ∧
      ∃ proof details, l.find? Sample.question = some proof ∧ c.SignsWell proof.block.content ∧
        l.verify c.judge Sample.question =
          ⟨true, Sample.record.artifact.hash, none, some Sample.record, some details⟩ ∧
        details.signatureValid = false := by
  intro c l
  have isRun : l = Sample.waiting.append Sample.namesakeBlock [] := Sample.run_sealing rfl rfl
  have found : l.find? Sample.question = some ⟨Sample.record, Sample.namesakeBlock⟩ := by
    rw [isRun]
    exact Sample.find?_question rfl
  have report := @Ledger.verify_of_find?_eq_some c.judge _ _ _ found
  rw [Sample.normalizeHash_question] at report
  have notCounted : c.judge.trusts Sample.namesakeBlock ≠ true :=
    fun counts => (Judge.trusts_iff.mp counts).1 rfl
  exact ⟨Sample.validate_namesakeConfig, _, _, found, Sample.signsWell_namesakeBlock, report,
    Bool.eq_false_iff.mpr notCounted⟩

end EvidenceLedger
