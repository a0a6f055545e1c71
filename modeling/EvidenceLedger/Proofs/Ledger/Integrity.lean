import EvidenceLedger.Proofs.Ledger.Run

/-!
# The integrity of a chain

Whatever is submitted, committed or delivered, a chain begins with the first block that all
chains share, every later block names the hash of the block before it, every hash is that of
what the block says, and heights count from zero. None of this needs a trusted proposer or a
good signature: commits and acceptances build blocks differently, but both build on the head.

Heights are words of 64 bits. Counting goes well as long as the chain has room, that is, as
long as there are no more blocks than words; the links need no such bound.
-/

namespace EvidenceLedger

/-- A chain that begins as all chains do, and in which every block names the block before it and
carries the hash of what it says. -/
structure Linked (crypto : Cryptography) (chain : List Block) : Prop where
  genesis : chain[0]? = some crypto.genesis
  previousHash : ∀ (i : Nat) (a b : Block),
    chain[i]? = some a → chain[i + 1]? = some b → b.previousHash = a.hash
  hash : ∀ block ∈ chain, block.hash = crypto.hashOf block.content

/-- A chain in which heights count from zero. -/
def Numbered (chain : List Block) : Prop :=
  ∀ (i : Nat) (block : Block), chain[i]? = some block → block.height.toNat = i

theorem getElem?_append_singleton_eq_some {chain : List Block} {i : Nat} {block new : Block}
    (h : (chain ++ [new])[i]? = some block) :
    chain[i]? = some block ∨ (i = chain.length ∧ block = new) := by
  rcases Nat.lt_trichotomy i chain.length with inside | last | beyond
  · rw [List.getElem?_append_left inside] at h
    exact .inl h
  · subst last
    simp at h
    exact .inr ⟨rfl, h.symm⟩
  · have outside : (chain ++ [new]).length ≤ i := by
      simp
      omega
    simp [List.getElem?_eq_none outside] at h

namespace Linked

variable {crypto : Cryptography} {chain : List Block}

theorem genesis_only (crypto : Cryptography) : Linked crypto [crypto.genesis] where
  genesis := rfl
  previousHash := by simp
  hash := by simp [Cryptography.genesis, Block.content, Cryptography.genesisContent]

theorem append (h : Linked crypto chain) {head block : Block} (last : chain.getLast? = some head)
    (previous : block.previousHash = head.hash)
    (hash : block.hash = crypto.hashOf block.content) : Linked crypto (chain ++ [block]) where
  genesis := by
    have nonempty : 0 < chain.length := (List.getElem?_eq_some_iff.mp h.genesis).1
    rw [List.getElem?_append_left nonempty]
    exact h.genesis
  previousHash := by
    intro i a b atI atNext
    obtain before | ⟨isLast, rfl⟩ := getElem?_append_singleton_eq_some atNext
    · have inside : i + 1 < chain.length := (List.getElem?_eq_some_iff.mp before).1
      rw [List.getElem?_append_left (by omega)] at atI
      exact h.previousHash i a b atI before
    · have atHead : chain[i]? = some head := by
        rw [← last, List.getLast?_eq_getElem?, ← isLast]
        simp
      rw [List.getElem?_append_left (by omega), atHead] at atI
      obtain rfl := Option.some.inj atI
      exact previous
  hash := by
    intro b member
    rcases List.mem_append.mp member with old | new
    · exact h.hash b old
    · obtain rfl := List.mem_singleton.mp new
      exact hash

end Linked

theorem Numbered.genesis_only (crypto : Cryptography) : Numbered [crypto.genesis] := by
  intro i block atI
  cases i with
  | zero =>
    obtain rfl := Option.some.inj atI
    rfl
  | succ i => simp at atI

theorem Numbered.append {chain : List Block} (h : Numbered chain) {block : Block}
    (height : block.height.toNat = chain.length) : Numbered (chain ++ [block]) := by
  intro i b atI
  obtain before | ⟨rfl, rfl⟩ := getElem?_append_singleton_eq_some atI
  · exact h i b before
  · exact height

theorem Numbered.of_prefix {chain longer : List Block} (h : Numbered longer)
    (grown : chain <+: longer) : Numbered chain := by
  intro i block atI
  have inside : i < chain.length := (List.getElem?_eq_some_iff.mp atI).1
  obtain ⟨rest, rfl⟩ := grown
  exact h i block (by rw [List.getElem?_append_left inside, atI])

namespace Ledger

variable {judge : Judge} {l : Ledger}

theorem getElem?_chain_head (l : Ledger) : l.chain[l.chain.length - 1]? = some l.head := by
  rw [← List.getLast?_eq_getElem?, getLast?_chain]

theorem linked_perform (h : Linked judge.crypto l.chain) (op : Operation) :
    Linked judge.crypto (perform judge l op).chain := by
  obtain unchanged | ⟨block, appended, _, ⟨_, sealed⟩ | accepted⟩ := perform_cases judge l op
  · rw [unchanged]
    exact h
  · obtain ⟨now, content⟩ := sealed.content
    rw [appended]
    exact h.append (getLast?_chain l) (congrArg BlockContent.previousHash content) sealed.hash
  · obtain ⟨_, previous, _, _, hash, _⟩ := Judge.follows_eq_ok_iff.mp accepted
    rw [appended]
    exact h.append (getLast?_chain l) previous hash.symm

theorem linked_of_reachable (h : Reachable judge l) : Linked judge.crypto l.chain := by
  induction h with
  | start => exact Linked.genesis_only judge.crypto
  | perform _ op ih => exact linked_perform ih op

/-- Where heights count from zero, that of the head is the number of blocks before it. -/
theorem toNat_height_head (h : Numbered l.chain) : l.head.height.toNat + 1 = l.chain.length := by
  have atHead := h _ _ (getElem?_chain_head l)
  have nonempty := List.length_pos_iff.mpr (chain_ne_nil l)
  omega

theorem numbered_perform (h : Numbered l.chain) {op : Operation}
    (room : (perform judge l op).chain.length ≤ UInt64.size) :
    Numbered (perform judge l op).chain := by
  have count := toNat_height_head h
  obtain unchanged | ⟨block, appended, _, grown⟩ := perform_cases judge l op
  · rw [unchanged]
    exact h
  · have next : l.head.height.toNat + 1 < UInt64.size := by
      rw [appended] at room
      simp at room
      omega
    have height : block.height = l.head.height + 1 := by
      rcases grown with ⟨_, sealed⟩ | accepted
      · obtain ⟨now, content⟩ := sealed.content
        exact congrArg BlockContent.height content
      · obtain ⟨height, _⟩ := Judge.follows_eq_ok_iff.mp accepted
        rw [height, successorHeight_eq_add_one next]
    rw [appended]
    exact h.append (by rw [height, toNat_add_one next, count])

theorem numbered_of_reachable (h : Reachable judge l) (room : l.chain.length ≤ UInt64.size) :
    Numbered l.chain := by
  induction h with
  | start => exact Numbered.genesis_only judge.crypto
  | @perform l _ op ih =>
    have earlier := (chain_prefix_perform judge l op).length_le
    exact numbered_perform (ih (by omega)) room

/-- The integrity of every chain, over all runs. The chain of a node that was started afresh and
went through any operations begins with the first block of all chains; the block at index `i`
has the height `i`, names the hash of the block at `i - 1`, and carries the lower-case SHA-256
of its own canonical form; the chain has a head, no operation takes anything from it, and as
long as there is room for another block the height of the head can be counted on. -/
theorem integrity_of_run (judge : Judge) (sha256 : judge.crypto.digest = Sha256.hash)
    (operations : List Operation)
    (room : (run judge (fresh judge.crypto) operations).chain.length ≤ UInt64.size) :
    let l := run judge (fresh judge.crypto) operations
    l.chain[0]? = some judge.crypto.genesis ∧
      (∀ (i : Nat) (block : Block), l.chain[i]? = some block →
        block.height.toNat = i ∧
          block.hash = Bytes.toHex
            (Sha256.hash (Bytes.ofString block.content.canonicalText)).bytes) ∧
      (∀ (i : Nat) (a b : Block),
        l.chain[i]? = some a → l.chain[i + 1]? = some b → b.previousHash = a.hash) ∧
      (∀ op, l.chain <+: (perform judge l op).chain) ∧
      l.chain[l.chain.length - 1]? = some l.head ∧
      (l.chain.length < UInt64.size → (l.head.height + 1).toNat = l.head.height.toNat + 1) := by
  intro l
  have reachable : Reachable judge l := Reachable.start.run operations
  have linked := linked_of_reachable reachable
  have numbered := numbered_of_reachable reachable room
  have hashes (block : Block) (member : block ∈ l.chain) :
      block.hash = Bytes.toHex
        (Sha256.hash (Bytes.ofString block.content.canonicalText)).bytes := by
    rw [linked.hash block member, ← sha256]
    rfl
  refine ⟨linked.genesis, fun i block atI => ⟨numbered i block atI, ?_⟩, linked.previousHash,
    chain_prefix_perform judge l, getElem?_chain_head l, fun another => ?_⟩
  · exact hashes block (List.mem_of_getElem? atI)
  · have count := toNat_height_head numbered
    exact toNat_add_one (by omega)

/-- A leader seals a record, refuses its own first block as a successor, and seals nothing more:
its chain has two blocks, and the second is as every chain has it. -/
theorem integrity_of_sample_run :
    let operations : List Operation :=
      [.submit Sample.draft "ev-1" .genesis, .commit .genesis,
        .accept Sample.judge.crypto.genesis, .commit .genesis]
    let l := run Sample.judge (fresh Sample.judge.crypto) operations
    l.chain.length ≤ UInt64.size ∧ l.chain.length = 2 ∧
      ∀ block, l.chain[1]? = some block →
        block.height.toNat = 1 ∧
          block.hash = Bytes.toHex
            (Sha256.hash (Bytes.ofString block.content.canonicalText)).bytes := by
  intro operations l
  have two : l.chain.length = 2 := by decide +kernel
  have room : l.chain.length ≤ UInt64.size := by
    rw [two]
    decide
  obtain ⟨_, blocks, _⟩ := integrity_of_run Sample.judge rfl operations room
  exact ⟨room, two, blocks 1⟩

end Ledger

end EvidenceLedger
