import EvidenceLedger.Proofs.Config.Validation
import EvidenceLedger.Proofs.Ledger.Integrity
import EvidenceLedger.Proofs.Ledger.Replication

/-!
# A node stands by its own chain

A node checks the blocks that it is given but not the blocks that it seals. So nothing but its
configuration keeps a leader from a chain that it would not accept itself. The configuration does:
the key of a leader can be read, and the leader trusts itself under the public half of it. What is
sealed is therefore signed under a key that the node finds on its own list, whichever of the forms
of a key its two texts have.

Two things are taken for granted. The signatures that the key makes of the blocks in question
verify, and there are no more blocks than words of 64 bits to count them with.
-/

namespace EvidenceLedger

namespace Judge

variable {judge : Judge} {chain : List Block} {head block : Block}

/-- A block at the end of a chain is judged by the block before it. -/
theorem links_append_singleton (last : chain.getLast? = some head) :
    judge.links (chain ++ [block]) = judge.links chain ++ [judge.follows head block] := by
  induction chain with
  | nil => exact nomatch last
  | cons first rest ih =>
    cases rest with
    | nil =>
      obtain rfl := Option.some.inj last
      rfl
    | cons second rest =>
      rw [List.getLast?_cons_cons] at last
      simp only [List.cons_append, links_cons_cons] at ih ⊢
      rw [ih last]

/-- A valid chain stays valid with a block at its end exactly if the block may follow its head. -/
theorem isValid_append_singleton (last : chain.getLast? = some head) :
    judge.isValid (chain ++ [block]) =
      (judge.isValid chain && (judge.follows head block).isOk) := by
  have nonempty : chain.isEmpty = false := by
    cases chain with
    | nil => exact nomatch last
    | cons first rest => rfl
  simp [isValid, links_append_singleton last, nonempty]

/-- The beginning of a valid chain is valid. -/
theorem isValid_of_append {rest : List Block} (valid : judge.isValid (chain ++ rest) = true)
    (nonempty : chain ≠ []) : judge.isValid chain = true := by
  induction rest generalizing chain with
  | nil => simpa using valid
  | cons block rest ih =>
    have longer : judge.isValid (chain ++ [block]) = true :=
      ih (by simpa using valid) (List.append_ne_nil_of_left_ne_nil nonempty _)
    rw [isValid_append_singleton (List.getLast?_eq_some_getLast nonempty), Bool.and_eq_true]
      at longer
    exact longer.1

theorem follows_of_isValid (last : chain.getLast? = some head)
    (valid : judge.isValid (chain ++ [block]) = true) : judge.follows head block = .ok () := by
  rw [isValid_append_singleton last, Bool.and_eq_true] at valid
  cases judged : judge.follows head block with
  | error reason => simp [judged, Except.isOk, Except.toBool] at valid
  | ok _ => rfl

/-- Where heights count from zero, they go on counting as far as the chain is valid. -/
theorem numbered_append_of_isValid {rest : List Block} (numbered : Numbered chain)
    (last : chain.getLast? = some head) (valid : judge.isValid (chain ++ rest) = true)
    (room : (chain ++ rest).length ≤ UInt64.size) : Numbered (chain ++ rest) := by
  induction rest generalizing chain head with
  | nil => simpa using numbered
  | cons block rest ih =>
    have split : chain ++ block :: rest = chain ++ [block] ++ rest := by simp
    rw [split] at valid room ⊢
    have judged := follows_of_isValid last (isValid_of_append valid (by simp))
    have height : block.height.toNat = chain.length := by
      have nonempty : chain ≠ [] := List.ne_nil_of_mem (List.mem_of_getLast? last)
      have positive := List.length_pos_iff.mpr nonempty
      have atHead := numbered _ _ (List.getLast?_eq_getElem?.symm.trans last)
      rw [(follows_eq_ok_iff.mp judged).1, toNat_successorHeight, atHead]
      rw [List.length_append, List.length_append, List.length_singleton] at room
      omega
    exact ih (numbered.append height) List.getLast?_concat valid room

/-- Heights count from zero in a valid chain that begins as all chains do. -/
theorem numbered_of_isValid (genesis : chain[0]? = some judge.crypto.genesis)
    (valid : judge.isValid chain = true) (room : chain.length ≤ UInt64.size) :
    Numbered chain := by
  cases chain with
  | nil => exact nomatch genesis
  | cons first rest =>
    obtain rfl := Option.some.inj genesis
    exact numbered_append_of_isValid (Numbered.genesis_only judge.crypto) rfl valid room

theorem isValid_append_of_follows {l : Ledger} (valid : judge.isValid l.chain = true)
    (follows : judge.follows l.head block = .ok ()) :
    judge.isValid (l.chain ++ [block]) = true := by
  rw [isValid_append_singleton (Ledger.getLast?_chain l), valid, follows]
  rfl

end Judge

namespace NodeConfig

/-- How a node with this configuration judges. -/
def judge (c : NodeConfig) : Judge :=
  ⟨.standard, c.identity⟩

/-- The signature that the key of the node makes of the hash of `content` verifies. -/
def SignsWell (c : NodeConfig) (content : BlockContent) : Prop :=
  ∀ own, PrivateKey.ofText (c.identity.privateKeyText.getD "") = .ok own → own.SignsWell content

variable {c : NodeConfig} {l : Ledger} {now : Timestamp}

/-- A leader with a valid configuration commits whatever waits. The block may follow the head, as
the leader itself judges. -/
theorem Valid.commit (valid : c.Valid) (leads : c.identity.isLeader = true)
    (waiting : l.mempool ≠ []) (now : Timestamp) :
    ∃ block, (l.commit c.judge now).answer = .ok block ∧
      (l.commit c.judge now).ledger = l.append block [] ∧
      block.content = l.nextContent c.identity.nodeId now ∧
      (l.head.height.toNat + 1 < UInt64.size → c.SignsWell block.content →
        c.judge.follows l.head block = .ok ()) := by
  obtain ⟨keyText, own, trustedText, holds, reads, trusted, readsTrusted⟩ :=
    valid.exists_leaderKey leads
  have committed := @Ledger.commit_standard _ _ l now _ leads holds reads waiting
  refine ⟨own.sealed (l.nextContent c.identity.nodeId now), ?_, ?_, rfl, ?_⟩
  · exact congrArg Outcome.answer committed
  · exact congrArg Outcome.ledger committed
  · intro room signsWell
    have written : c.identity.privateKeyText = some keyText :=
      (Option.filter_eq_some_iff.mp holds).1
    exact Ledger.follows_nextContent rfl room trusted readsTrusted
      (signsWell own (by rw [written]; exact reads))

/-- No operation makes a chain invalid in the eyes of a node with a valid configuration. -/
theorem Valid.isValid_perform (valid : c.Valid) (isValid : c.judge.isValid l.chain = true)
    (numbered : Numbered l.chain) {op : Operation}
    (room : (l.perform c.judge op).chain.length ≤ UInt64.size)
    (signsWell : ∀ block ∈ (l.perform c.judge op).chain,
      block.proposer = c.identity.nodeId → c.SignsWell block.content) :
    c.judge.isValid (l.perform c.judge op).chain = true := by
  cases op with
  | submit draft newId now =>
    rw [Ledger.perform, Ledger.chain_submit]
    exact isValid
  | accept block =>
    rw [Ledger.perform_accept]
    cases judged : c.judge.follows l.head block with
    | error reason =>
      rw [Ledger.accept_of_error judged]
      exact isValid
    | ok _ =>
      rw [Ledger.accept_of_ok judged]
      exact Judge.isValid_append_of_follows isValid judged
  | commit now =>
    obtain ⟨reason, refused⟩ | ⟨_, _, leads, _, waiting, _, _⟩ :=
      Ledger.commit_cases c.judge l now
    · rw [Ledger.perform, refused]
      exact isValid
    · obtain ⟨block, _, committed, content, follows⟩ := valid.commit leads waiting now
      have chain : (l.perform c.judge (.commit now)).chain = l.chain ++ [block] :=
        congrArg Ledger.chain committed
      rw [chain] at room signsWell ⊢
      have count := Ledger.toNat_height_head numbered
      rw [List.length_append, List.length_singleton] at room
      refine Judge.isValid_append_of_follows isValid (follows (by omega) ?_)
      apply signsWell block (List.mem_append_right _ (List.mem_singleton_self block))
      exact congrArg BlockContent.proposer content

theorem Valid.isValid_of_reachable (valid : c.Valid) (reachable : Ledger.Reachable c.judge l)
    (room : l.chain.length ≤ UInt64.size)
    (signsWell : ∀ block ∈ l.chain,
      block.proposer = c.identity.nodeId → c.SignsWell block.content) :
    c.judge.isValid l.chain = true := by
  induction reachable with
  | start => rfl
  | @perform l earlier op ih =>
    have grown := Ledger.chain_prefix_perform c.judge l op
    have roomBefore : l.chain.length ≤ UInt64.size := Nat.le_trans grown.length_le room
    have isValid := ih roomBefore fun block member => signsWell block (grown.subset member)
    exact valid.isValid_perform isValid (Ledger.numbered_of_reachable earlier roomBefore) room
      signsWell

/-- A node whose configuration is valid is never at odds with its own chain. Whatever is submitted,
committed and delivered to it, in any order and with any outcome, it finds its chain valid; and if
it is a leader and evidence waits, a commit always succeeds and the block passes the leader's own
checks. The key and its entry on the list may have any of the accepted forms.

The signatures of the node under the blocks in question are assumed to verify, and the chain is a
row of blocks in memory, of which there are no more than words of 64 bits. -/
theorem isValid_of_run {c : NodeConfig} (valid : c.validate = .ok ())
    (operations : List Operation) :
    let l := Ledger.run c.judge (.fresh .standard) operations
    l.chain.length ≤ UInt64.size →
    (∀ block ∈ l.chain, block.proposer = c.identity.nodeId → c.SignsWell block.content) →
    c.judge.isValid l.chain = true ∧
      (c.identity.isLeader = true → l.mempool ≠ [] → ∀ now,
        ∃ block, (l.commit c.judge now).answer = .ok block ∧
          (l.commit c.judge now).ledger = l.append block [] ∧
          (l.chain.length < UInt64.size → c.SignsWell block.content →
            c.judge.follows l.head block = .ok () ∧
              c.judge.isValid (l.append block []).chain = true)) := by
  intro l room signsWell
  have checked : c.Valid := validate_eq_ok_iff.mp valid
  have reachable : Ledger.Reachable c.judge l := Ledger.Reachable.start.run operations
  have isValid := checked.isValid_of_reachable reachable room signsWell
  refine ⟨isValid, ?_⟩
  intro leads waiting now
  obtain ⟨block, answer, committed, _, follows⟩ := checked.commit leads waiting now
  refine ⟨block, answer, committed, ?_⟩
  intro another signs
  have count := Ledger.toNat_height_head (Ledger.numbered_of_reachable reachable room)
  have accepted := follows (by omega) signs
  exact ⟨accepted, Judge.isValid_append_of_follows isValid accepted⟩

end NodeConfig

/-! A leader with a configuration of its own, which has sealed a record and has another one. -/

namespace Sample

/-- The configuration of the leader, with everything else as it comes. -/
def leaderConfig : NodeConfig := { NodeConfig.standard with identity := leader }

theorem validate_leaderConfig : leaderConfig.validate = .ok () := by
  refine NodeConfig.validate_eq_ok_iff.mpr
    ⟨by decide, by decide, by decide, fun _ => ?_, by decide, by decide, by decide, by decide⟩
  exact NodeConfig.checkLeaderKey_eq_ok_iff.mpr
    ⟨leaderKey, _, ofText_leaderKey, rfl, publicKey_leaderKey⟩

/-- The ledger with the block of the leader, in which the record waits again. -/
def resumed : Ledger := { waiting.append sealedBlock [] with mempool := [record] }

/-- The leader seals a record and gets another one. -/
def resume : List Operation :=
  [.submit draft "ev-1" .genesis, .commit .genesis, .submit draft "ev-1" .genesis]

theorem run_resume : Ledger.run leaderConfig.judge (.fresh .standard) resume = resumed := by
  have again : Ledger.perform judge (waiting.append sealedBlock [])
      (.submit draft "ev-1" .genesis) = resumed :=
    congrArg Outcome.ledger (Ledger.submit_of_ok toRecord_draft)
  have same : leaderConfig.judge = judge := rfl
  rw [same, resume, Ledger.run_cons, Ledger.run_cons, Ledger.run_cons, Ledger.run_nil,
    perform_submit, perform_commit, again]

theorem signsWell_leaderConfig : leaderConfig.SignsWell sealedBlock.content := by
  intro own reads
  obtain rfl := Except.ok.inj (ofText_leaderKey.symm.trans reads)
  exact signsWell_leaderKey

end Sample

/-- The leader finds its chain of two blocks valid, and commits what waits. -/
theorem NodeConfig.isValid_of_resume :
    let c := Sample.leaderConfig
    let l := Ledger.run c.judge (.fresh .standard) Sample.resume
    c.validate = .ok () ∧ l.chain.length = 2 ∧ l.mempool ≠ [] ∧
      (∀ block ∈ l.chain, block.proposer = c.identity.nodeId → c.SignsWell block.content) ∧
      c.judge.isValid l.chain = true ∧
      ∃ block, (l.commit c.judge .genesis).answer = .ok block := by
  intro c l
  have isRun : l = Sample.resumed := Sample.run_resume
  have chain : l.chain = [Cryptography.standard.genesis, Sample.sealedBlock] :=
    congrArg Ledger.chain isRun
  have two : l.chain.length = 2 := by
    rw [chain]
    rfl
  have waiting : l.mempool ≠ [] := by
    rw [isRun]
    exact List.cons_ne_nil _ _
  have signsWell : ∀ block ∈ l.chain,
      block.proposer = c.identity.nodeId → c.SignsWell block.content := by
    intro block member proposer
    rw [chain, List.mem_cons, List.mem_singleton] at member
    rcases member with rfl | rfl
    · exact absurd proposer (by decide)
    · exact Sample.signsWell_leaderConfig
  have room : l.chain.length ≤ UInt64.size := by
    rw [two]
    decide
  obtain ⟨isValid, commits⟩ :=
    NodeConfig.isValid_of_run Sample.validate_leaderConfig Sample.resume room signsWell
  obtain ⟨block, answer, _⟩ := commits rfl waiting .genesis
  exact ⟨Sample.validate_leaderConfig, two, waiting, signsWell, isValid, block, answer⟩

end EvidenceLedger
