import EvidenceLedger.Api.Service
import EvidenceLedger.Proofs.Chain.Wire
import EvidenceLedger.Proofs.Config.Validation
import EvidenceLedger.Proofs.Ledger.Integrity
import EvidenceLedger.Proofs.Ledger.Replication
import EvidenceLedger.Proofs.Ledger.Validity
import EvidenceLedger.Sync.Network

/-!
# From the leader to a follower

A block that a leader commits is written as JSON, posted to a follower, read there and accepted.
Nothing gets lost on the way, because what is written of a block is read as that block; and the
follower checks what the leader sealed, because both take the digest of the same content. So the
chains of the two agree after the push if they did before.
-/

namespace EvidenceLedger

namespace Api

open Json

def Request.posting (uri : String) (v : Json) : Request :=
  ⟨"POST", uri, some "application/json", v.toBytes⟩

/-- What is posted of a value is read as that value. -/
theorem readBody_posting {α : Type} {read : Reader α} {v : Json} {a : α} (reads : read.Reads v a)
    (uri : String) : readBody read (.posting uri v) = .ok a := by
  have isJson : (some "application/json").any MediaType.isJson = true := by decide
  have written : readFirst read (Request.posting uri v).body = .ok a := by
    have first := readFirst_toBytes reads EndsNumeral.nil
    rw [List.append_nil] at first
    exact first
  rw [readBody, written]
  exact if_pos isJson

/-- A pushed block is read as the block that was pushed. -/
theorem readBody_push (block : Block) : readBody decode (Request.push block) = .ok block :=
  readBody_posting (LawfulWire.reads block) "/api/blocks/receive"

/-- No route allows to ask what one may ask. -/
theorem Route.ne_options_of_allows {route : Route} {method : String}
    (allowed : route.allows method = true) : method ≠ "OPTIONS" := by
  rintro rfl
  rw [allows] at allowed
  split at allowed
  · exact absurd allowed (by decide)
  · exact absurd allowed (by decide)

namespace Service

variable {s : Service} {r : Request}

/-- A request with a known path and a method that goes with it is served. -/
theorem handle_of_allows {route : Route} (found : Route.ofPath? r.path = some route)
    (allowed : route.allows r.method = true) (session : Session) :
    s.handle r session = s.serve route r session := by
  rw [handle, if_neg (Route.ne_options_of_allows allowed), found]
  exact if_pos allowed

/-- What is pushed to a node goes through the acceptance of its ledger. -/
theorem handle_push (s : Service) (block : Block) (session : Session) :
    s.handle (.push block) session =
      s.conclude session (session.ledger.accept s.judge block) fun _ => .received block.height := by
  have route : Route.ofPath? (Request.push block).path = some .receive := by
    show Route.ofPath? (Address.ofText "/api/blocks/receive").path = some .receive
    decide
  rw [handle_of_allows route rfl, serve, readBody_push]
  rfl

/-- A push of a block that may follow the head adds the block to the chain. -/
theorem handle_push_of_follows {s : Service} {block : Block} {session : Session}
    (follows : s.judge.follows session.ledger.head block = .ok ()) :
    (s.handle (.push block) session).2 = .received block.height ∧
      (s.handle (.push block) session).1.ledger.chain = session.ledger.chain ++ [block] := by
  rw [handle_push, Ledger.accept_of_ok follows]
  exact ⟨rfl, Ledger.chain_append _ _ _⟩

/-- End to end. Take a leader whose configuration can make a node and a follower that has the
leader on its list under any text of the leader's key, both in states in which their chains are
the same. If evidence waits at the leader, a commit succeeds at any time, and the follower that
gets the block as a publisher sends it replies that it was accepted, and has the chain of the
leader again.

The signature of the block is assumed to verify under the key that made it. A chain is a row of
blocks in memory, of which there are fewer than words of 64 bits. -/
theorem handle_push_of_commit {config : NodeConfig} (valid : config.validate = .ok ())
    (leads : config.identity.isLeader = true) {own : PrivateKey}
    (reads : PrivateKey.ofText (config.identity.privateKeyText.getD "") = .ok own)
    {l : Ledger} (reachable : Ledger.Reachable ⟨.standard, config.identity⟩ l)
    (room : l.chain.length < UInt64.size) (waiting : l.mempool ≠ []) (now : Timestamp)
    (signsWell : own.SignsWell (l.nextContent config.identity.nodeId now))
    {follower : NodeIdentity} {keyText : String}
    (trusted : follower.allowlist.find? config.identity.nodeId = some keyText)
    (readsTrusted : PublicKey.ofText keyText = .ok own.publicKey)
    (service : Service) (judge : service.judge = ⟨.standard, follower⟩)
    (session : Session) (same : session.ledger.chain = l.chain) :
    let outcome := l.commit ⟨.standard, config.identity⟩ now
    ∃ block, outcome.answer = .ok block ∧ outcome.ledger.chain = l.chain ++ [block] ∧
      (service.handle (.push block) session).2 = .received block.height ∧
      (service.handle (.push block) session).2.status = 202 ∧
      (service.handle (.push block) session).1.ledger.chain = outcome.ledger.chain := by
  intro outcome
  obtain ⟨ownText, _, _, holds, _⟩ :=
    (NodeConfig.validate_eq_ok_iff.mp valid).exists_leaderKey leads
  obtain ⟨written, _⟩ := Option.filter_eq_some_iff.mp holds
  have readsOwn : PrivateKey.ofText ownText = .ok own := by
    rw [written] at reads
    exact reads
  have committed : outcome = _ := Ledger.commit_standard leads holds readsOwn waiting
  -- The head is as high as the chain is long, so the next height can be counted.
  have numbered := Ledger.numbered_of_reachable reachable (Nat.le_of_lt room)
  have count := Ledger.toNat_height_head numbered
  have follows : service.judge.follows session.ledger.head
      (own.sealed (l.nextContent config.identity.nodeId now)) = .ok () := by
    rw [judge]
    exact Ledger.follows_nextContent same (by omega) trusted readsTrusted signsWell
  obtain ⟨reply, chain⟩ := handle_push_of_follows follows
  refine ⟨own.sealed (l.nextContent config.identity.nodeId now), ?_, ?_, reply, ?_, ?_⟩
  · rw [committed]
  · rw [committed]
    exact Ledger.chain_append _ _ _
  · rw [reply]
    rfl
  · rw [chain, committed, same]
    exact (Ledger.chain_append _ _ _).symm

end Service

end Api

/-! The leader, and a follower that has its key from a file. -/

namespace Sample

/-- A node that trusts the leader under a key file, with white space around it. -/
def fileFollower : NodeIdentity :=
  (NodeIdentity.follower "node-2").allow "node-1"
    " MCowBQYDK2VwAyEA6kpsY+KcUgq+9VB7Ey7F+ZVHdq6+vnuSQh7qaRRG0iw=\n"

/-- The follower as a service that peers can reach. -/
def service : Api.Service :=
  ⟨⟨⟨.standard, fileFollower⟩, .standard, Network.isolated.transport, none⟩, .genesis, "ev-2"⟩

theorem ofText_keyFile :
    PublicKey.ofText " MCowBQYDK2VwAyEA6kpsY+KcUgq+9VB7Ey7F+ZVHdq6+vnuSQh7qaRRG0iw=\n" =
      .ok leaderKey.publicKey := by
  decide +kernel

end Sample

/-- The follower takes the block of the leader, and both have two blocks then. -/
theorem Api.Service.handle_push_of_sample_commit :
    let outcome := Sample.waiting.commit Sample.judge .genesis
    let session := Session.start (.fresh .standard)
    Sample.leaderConfig.validate = .ok () ∧ Ledger.Reachable Sample.judge Sample.waiting ∧
      Sample.waiting.mempool ≠ [] ∧
      ∃ block, outcome.answer = .ok block ∧
        (Sample.service.handle (.push block) session).2.status = 202 ∧
        (Sample.service.handle (.push block) session).1.ledger.chain =
          [Cryptography.standard.genesis, block] := by
  intro outcome session
  have trusted : Sample.fileFollower.allowlist.find? Sample.leaderConfig.identity.nodeId =
      some " MCowBQYDK2VwAyEA6kpsY+KcUgq+9VB7Ey7F+ZVHdq6+vnuSQh7qaRRG0iw=\n" := by
    decide
  obtain ⟨block, answer, chain, _, status, after⟩ :=
    Api.Service.handle_push_of_commit Sample.validate_leaderConfig rfl Sample.ofText_leaderKey
      Sample.reachable_waiting (by decide) (List.cons_ne_nil _ _) .genesis
      Sample.signsWell_leaderKey trusted Sample.ofText_keyFile Sample.service rfl session rfl
  exact ⟨Sample.validate_leaderConfig, Sample.reachable_waiting, List.cons_ne_nil _ _, block,
    answer, status, after.trans chain⟩

end EvidenceLedger
