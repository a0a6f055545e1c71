import EvidenceLedger.Audit.Event
import EvidenceLedger.Text.Case

/-!
# Ledgers

A ledger is a chain that is never empty and the evidence that waits to be sealed. Three
operations change it. Evidence is submitted and waits. A leader commits what waits as a new
block. A block that somebody else sealed is accepted if it may follow the head, and then the
records in it wait no longer.

An operation that is refused changes nothing. What an operation tells the rest of the world,
events and blocks to push to peers, is part of its outcome.
-/

namespace EvidenceLedger

/-- A chain and the evidence that waits to be sealed. -/
structure Ledger where
  /-- The blocks before the head, the first one first. -/
  earlier : List Block
  head : Block
  mempool : List EvidenceRecord
deriving DecidableEq

/-- What an operation tells the rest of the world. -/
inductive Effect where
  | tell (event : Event)
  /-- Hand a block to these peers. -/
  | push (block : Block) (peers : List String)
deriving DecidableEq

/-- What an operation of a ledger comes to. -/
structure Outcome (α : Type) where
  ledger : Ledger
  answer : Except LedgerError α
  effects : List Effect

namespace Ledger

/-- The whole chain, the first block first. -/
def chain (l : Ledger) : List Block :=
  l.earlier ++ [l.head]

/-- A ledger with nothing but the first block. -/
def fresh (crypto : Cryptography) : Ledger :=
  ⟨[], crypto.genesis, []⟩

def append (l : Ledger) (block : Block) (mempool : List EvidenceRecord) : Ledger :=
  ⟨l.chain, block, mempool⟩

def refuse {α : Type} (l : Ledger) (reason : LedgerError) : Outcome α :=
  ⟨l, .error reason, []⟩

@[simp] theorem chain_fresh (crypto : Cryptography) : (fresh crypto).chain = [crypto.genesis] := rfl

@[simp] theorem head_fresh (crypto : Cryptography) : (fresh crypto).head = crypto.genesis := rfl

@[simp] theorem chain_append (l : Ledger) (block : Block) (mempool : List EvidenceRecord) :
    (l.append block mempool).chain = l.chain ++ [block] := rfl

@[simp] theorem mempool_append (l : Ledger) (block : Block) (mempool : List EvidenceRecord) :
    (l.append block mempool).mempool = mempool := rfl

@[simp] theorem refuse_ledger {α : Type} (l : Ledger) (reason : LedgerError) :
    (l.refuse reason : Outcome α).ledger = l := rfl

@[simp] theorem refuse_answer {α : Type} (l : Ledger) (reason : LedgerError) :
    (l.refuse reason : Outcome α).answer = .error reason := rfl

@[simp] theorem refuse_effects {α : Type} (l : Ledger) (reason : LedgerError) :
    (l.refuse reason : Outcome α).effects = [] := rfl

theorem chain_ne_nil (l : Ledger) : l.chain ≠ [] := by
  simp [chain]

@[simp] theorem getLast?_chain (l : Ledger) : l.chain.getLast? = some l.head := by
  simp [chain]

end Ledger

/-- The normal form of the name of an algorithm: trimmed and in upper case. -/
def normalizeAlgorithm (algorithm : String) : String :=
  Text.toUpper (Text.trim algorithm)

/-- The normal form of a hash: trimmed and in lower case. -/
def normalizeHash (hash : String) : String :=
  Text.toLower (Text.trim hash)

/-- Evidence has to use the one algorithm that is accepted. -/
def checkAlgorithm (algorithm : String) : Except LedgerError Unit :=
  let normal := normalizeAlgorithm algorithm
  if normal = supportedAlgorithm then .ok () else .error (.unsupportedAlgorithm normal)

/-- The hash of evidence has to be 64 hexadecimal digits, white space around them aside. -/
def checkHash (hash : String) : Except LedgerError Unit :=
  let trimmed := Text.trim hash
  if Digest.isText trimmed then .ok () else .error (.malformedHash trimmed.length)

namespace EvidenceDraft

/-- Does the draft leave its identifier open? A blank one counts as none. -/
def needsId (d : EvidenceDraft) : Bool :=
  d.evidenceId.all Text.isBlank

/-- The record of a draft. What the draft leaves open is taken from the arguments. -/
def toRecord (d : EvidenceDraft) (newId : String) (now : Timestamp) :
    Except LedgerError EvidenceRecord := do
  checkAlgorithm d.artifact.hashAlgorithm
  checkHash d.artifact.hash
  return {
    evidenceId := if d.needsId then newId else d.evidenceId.getD newId
    artifact := { d.artifact with
      hashAlgorithm := supportedAlgorithm
      hash := normalizeHash d.artifact.hash }
    createdAt := d.createdAt.getD now }

end EvidenceDraft

namespace Ledger

/-- Submit evidence: its record waits to be sealed. -/
def submit (l : Ledger) (draft : EvidenceDraft) (newId : String) (now : Timestamp) :
    Outcome EvidenceRecord :=
  match draft.toRecord newId now with
  | .error reason => l.refuse reason
  | .ok record =>
    ⟨{ l with mempool := l.mempool ++ [record] }, .ok record, [.tell (.evidenceSubmitted record)]⟩

theorem submit_of_error {l : Ledger} {draft : EvidenceDraft} {newId : String} {now : Timestamp}
    {reason : LedgerError} (h : draft.toRecord newId now = .error reason) :
    l.submit draft newId now = l.refuse reason := by
  simp [submit, h]

theorem submit_of_ok {l : Ledger} {draft : EvidenceDraft} {newId : String} {now : Timestamp}
    {record : EvidenceRecord} (h : draft.toRecord newId now = .ok record) :
    l.submit draft newId now =
      ⟨{ l with mempool := l.mempool ++ [record] }, .ok record,
        [.tell (.evidenceSubmitted record)]⟩ := by
  simp [submit, h]

/-- Evidence that waits is not in the chain. -/
@[simp] theorem chain_submit (l : Ledger) (draft : EvidenceDraft) (newId : String)
    (now : Timestamp) : (l.submit draft newId now).ledger.chain = l.chain := by
  cases h : draft.toRecord newId now with
  | error reason => rw [submit_of_error h, refuse_ledger]
  | ok record => rw [submit_of_ok h]; rfl

/-- What the next block says if it is sealed now. -/
def nextContent (l : Ledger) (proposer : String) (now : Timestamp) : BlockContent where
  height := l.head.height + 1
  timestamp := now
  evidences := l.mempool
  previousHash := l.head.hash
  proposer := proposer

/-- Commit what waits as a new block, which only a leader with a key can do. -/
def commit (judge : Judge) (l : Ledger) (now : Timestamp) : Outcome Block :=
  if !judge.identity.isLeader then l.refuse (.notLeader judge.identity.nodeId)
  else
    match judge.identity.privateKey? with
    | none => l.refuse .missingPrivateKey
    | some key =>
      if l.mempool.isEmpty then l.refuse .mempoolEmpty
      else
        match judge.crypto.sealBlock (l.nextContent judge.identity.nodeId now) key with
        | .error cause => l.refuse (.signing cause)
        | .ok block =>
          ⟨l.append block [], .ok block,
            [.tell (.blockCommitted block), .push block judge.identity.peers]⟩

/-- A leader with a key that can be used commits what waits, if anything does. -/
theorem commit_of_ok {judge : Judge} {l : Ledger} {now : Timestamp} {key : String} {block : Block}
    (leads : judge.identity.isLeader = true) (holds : judge.identity.privateKey? = some key)
    (waiting : l.mempool ≠ [])
    (sealed : judge.crypto.sealBlock (l.nextContent judge.identity.nodeId now) key = .ok block) :
    l.commit judge now =
      ⟨l.append block [], .ok block,
        [.tell (.blockCommitted block), .push block judge.identity.peers]⟩ := by
  simp [commit, leads, holds, waiting, sealed]

/-- A commit is refused, or it is that of a leader with a key that can be used. -/
theorem commit_cases (judge : Judge) (l : Ledger) (now : Timestamp) :
    (∃ reason, l.commit judge now = l.refuse reason) ∨
      ∃ key block, judge.identity.isLeader = true ∧ judge.identity.privateKey? = some key ∧
        l.mempool ≠ [] ∧
        judge.crypto.sealBlock (l.nextContent judge.identity.nodeId now) key = .ok block ∧
        l.commit judge now =
          ⟨l.append block [], .ok block,
            [.tell (.blockCommitted block), .push block judge.identity.peers]⟩ := by
  by_cases leads : judge.identity.isLeader = true
  · cases holds : judge.identity.privateKey? with
    | none => exact .inl ⟨.missingPrivateKey, by simp [commit, leads, holds]⟩
    | some key =>
      by_cases waiting : l.mempool = []
      · exact .inl ⟨.mempoolEmpty, by simp [commit, leads, holds, waiting]⟩
      · cases sealed : judge.crypto.sealBlock (l.nextContent judge.identity.nodeId now) key with
        | error cause => exact .inl ⟨.signing cause, by simp [commit, leads, holds, waiting, sealed]⟩
        | ok block =>
          exact .inr ⟨key, block, leads, rfl, waiting, sealed, commit_of_ok leads holds waiting sealed⟩
  · exact .inl ⟨.notLeader judge.identity.nodeId, by simp [commit, leads]⟩

/-- Accept a block that was sealed elsewhere, if it may follow the head. -/
def accept (judge : Judge) (l : Ledger) (block : Block) : Outcome Unit :=
  match judge.follows l.head block with
  | .ok () =>
    ⟨l.append block (l.mempool.filter fun r => !block.evidences.contains r), .ok (),
      [.tell (.blockAccepted block)]⟩
  | .error reason => ⟨l, .error (.violation reason), [.tell (.blockRejected reason block)]⟩

theorem accept_of_ok {judge : Judge} {l : Ledger} {block : Block}
    (h : judge.follows l.head block = .ok ()) :
    l.accept judge block =
      ⟨l.append block (l.mempool.filter fun r => !block.evidences.contains r), .ok (),
        [.tell (.blockAccepted block)]⟩ := by
  simp [accept, h]

theorem accept_of_error {judge : Judge} {l : Ledger} {block : Block} {reason : ChainViolation}
    (h : judge.follows l.head block = .error reason) :
    l.accept judge block =
      ⟨l, .error (.violation reason), [.tell (.blockRejected reason block)]⟩ := by
  simp [accept, h]

/-- A block that is refused leaves the ledger as it was. -/
theorem accept_ledger_of_error {judge : Judge} {l : Ledger} {block : Block} {reason : LedgerError}
    (h : (l.accept judge block).answer = .error reason) : (l.accept judge block).ledger = l := by
  cases hf : judge.follows l.head block with
  | error violation => rw [accept_of_error hf]
  | ok u => rw [accept_of_ok hf] at h; simp at h

/-- At most `limit` blocks, from the one at the given height on. -/
def blocksFrom (l : Ledger) (start limit : UInt64) : List Block :=
  if limit = 0 ∨ l.head.height < start then []
  else (l.chain.drop start.toNat).take limit.toNat

end Ledger

end EvidenceLedger
