import EvidenceLedger.Proofs.Ledger.Replication

/-!
# Verifying a whole chain

A chain is verified link by link, and nothing is known of it beforehand: it may never have been the
chain of a node. It is valid exactly if it has a first block, heights count up from the height of
that block, and every later block names the hash of the block before it, carries the hash of what it
says and is signed under the key of a trusted proposer.

Heights count as far as they go. The greatest height is followed by itself, so a row of blocks at
that height passes for a chain. Below it heights are what they are said to be.

What a link says about a block settles its height, its previous hash and its hash. So none of the
three can be changed in a single block of a valid chain, the first block aside.
-/

namespace EvidenceLedger

namespace Judge

/-- The block names the block before it, carries in lower case the SHA-256 of what it says, and has
a signature of the bytes of its hash that verifies under the key of a trusted proposer. -/
structure Attached (judge : Judge) (before block : Block) : Prop where
  previousHash : block.previousHash = before.hash
  hash : block.hash = Bytes.toHex (Sha256.hash (Bytes.ofString block.content.canonicalText)).bytes
  signed : ∃ key, judge.identity.allowlist.find? block.proposer = some key ∧
    Text.isBlank key = false ∧ ∃ digest, Digest.ofText? block.hash = some digest ∧
      judge.crypto.verify key digest.bytes block.signature = true

variable {judge : Judge} {before block old new first : Block} {chain : List Block}

theorem follows_iff_attached (sha256 : judge.crypto.digest = Sha256.hash) :
    judge.follows before block = .ok () ↔
      block.height = successorHeight before.height ∧ judge.Attached before block := by
  have hashOf : judge.crypto.hashOf block.content =
      Bytes.toHex (Sha256.hash (Bytes.ofString block.content.canonicalText)).bytes := by
    rw [Cryptography.hashOf, Cryptography.digestOf, sha256]
    rfl
  have isSigned (key : String) : judge.crypto.isSigned block key = true ↔
      ∃ digest, Digest.ofText? block.hash = some digest ∧
        judge.crypto.verify key digest.bytes block.signature = true := by
    cases read : Digest.ofText? block.hash <;> simp [Cryptography.isSigned, read]
  rw [follows_eq_ok_iff, hashOf]
  constructor
  · rintro ⟨height, previous, key, trusted, hash, signed⟩
    obtain ⟨listed, notBlank⟩ := Option.filter_eq_some_iff.mp trusted
    exact ⟨height, previous, hash.symm, key, listed, by simpa using notBlank,
      (isSigned key).mp signed⟩
  · rintro ⟨height, previous, hash, key, listed, notBlank, signed⟩
    have trusted : judge.identity.trustedKey? block.proposer = some key :=
      Option.filter_eq_some_iff.mpr ⟨listed, by simpa using notBlank⟩
    exact ⟨height, previous, key, trusted, hash.symm, (isSigned key).mpr signed⟩

/-- A chain is valid exactly if it is not empty and each of its blocks may follow the one before
it. -/
theorem isValid_iff_forall : judge.isValid chain = true ↔
    chain ≠ [] ∧ ∀ (i : Nat) (before block : Block), chain[i]? = some before →
      chain[i + 1]? = some block → judge.follows before block = .ok () := by
  induction chain with
  | nil => simp [isValid]
  | cons first rest ih =>
    cases rest with
    | nil => simp [isValid]
    | cons second rest =>
      have split : judge.isValid (first :: second :: rest) = true ↔
          judge.follows first second = .ok () ∧ judge.isValid (second :: rest) = true := by
        cases judged : judge.follows first second <;>
          simp [isValid, judged, Except.isOk, Except.toBool]
      rw [split, ih]
      constructor
      · rintro ⟨link, _, links⟩
        refine ⟨List.cons_ne_nil _ _, fun i before block atI atNext => ?_⟩
        cases i with
        | zero =>
          obtain rfl := Option.some.inj atI
          obtain rfl := Option.some.inj atNext
          exact link
        | succ i => exact links i before block atI atNext
      · rintro ⟨_, links⟩
        exact ⟨links 0 first second rfl rfl, List.cons_ne_nil _ _,
          fun i before block atI atNext => links (i + 1) before block atI atNext⟩

/-- Each height follows the one before it exactly if heights count up from the first one, as far as
they go. -/
theorem heights_iff_forall (begins : chain[0]? = some first) :
    (∀ (i : Nat) (before block : Block), chain[i]? = some before → chain[i + 1]? = some block →
      block.height = successorHeight before.height) ↔
    ∀ (i : Nat) (block : Block), chain[i]? = some block →
      block.height.toNat = min (first.height.toNat + i) (UInt64.size - 1) := by
  constructor
  · intro counts i
    induction i with
    | zero =>
      intro block atStart
      obtain rfl := Option.some.inj (begins.symm.trans atStart)
      have bound : first.height.toNat < UInt64.size := first.height.toNat_lt
      omega
    | succ i ih =>
      intro block atNext
      have inside : i + 1 < chain.length := (List.getElem?_eq_some_iff.mp atNext).1
      have atI : chain[i]? = some chain[i] := List.getElem?_eq_getElem (by omega)
      rw [counts i _ block atI atNext, toNat_successorHeight, ih _ atI]
      omega
  · intro counts i before block atI atNext
    apply UInt64.toNat_inj.mp
    rw [toNat_successorHeight, counts i before atI, counts (i + 1) block atNext]
    omega

/-- A block in a valid chain cannot be replaced by one with another height or another previous hash,
nor by one that says the same under another hash. -/
theorem isValid_set_eq_false (valid : judge.isValid chain = true) {i : Nat}
    (atNext : chain[i + 1]? = some old)
    (differs : new.height ≠ old.height ∨ new.previousHash ≠ old.previousHash ∨
      (new.content = old.content ∧ new.hash ≠ old.hash)) :
    judge.isValid (chain.set (i + 1) new) = false := by
  have inside : i + 1 < chain.length := (List.getElem?_eq_some_iff.mp atNext).1
  have atI : chain[i]? = some chain[i] := List.getElem?_eq_getElem (by omega)
  have follows := (isValid_iff_forall.mp valid).2 i _ old atI atNext
  obtain ⟨height, previous, _, _, hash, _⟩ := follows_eq_ok_iff.mp follows
  rw [← Bool.not_eq_true]
  intro stillValid
  have stillFollows : judge.follows chain[i] new = .ok () := by
    refine (isValid_iff_forall.mp stillValid).2 i _ new ?_ ?_
    · rw [List.getElem?_set_ne (by omega), atI]
    · rw [List.getElem?_set_self inside]
  obtain ⟨newHeight, newPrevious, _, _, newHash, _⟩ := follows_eq_ok_iff.mp stillFollows
  rcases differs with other | other | ⟨same, other⟩
  · exact other (newHeight.trans height.symm)
  · exact other (newPrevious.trans previous.symm)
  · exact other (by rw [← newHash, same, hash])

/-- What it takes for a chain to be valid, whichever blocks it is made of. There is a first block,
and each later one is attached to the block before it and stands as much higher than the first block
as its index says, up to the greatest height.

If the greatest height is not passed, that is, if the height of the first block and the number of
blocks come to no more than there are heights, then heights are just those sums.

In a valid chain nobody can change the height, the previous hash or the hash of a single block but
the first, be it only the case of a letter of the hash, without making the chain invalid. -/
theorem isValid_iff_attached (sha256 : judge.crypto.digest = Sha256.hash) (chain : List Block) :
    (judge.isValid chain = true ↔ ∃ first, chain[0]? = some first ∧
      ∀ (i : Nat) (before block : Block), chain[i]? = some before → chain[i + 1]? = some block →
        block.height.toNat = min (first.height.toNat + (i + 1)) (UInt64.size - 1) ∧
          judge.Attached before block) ∧
    (∀ first, chain[0]? = some first → first.height.toNat + chain.length ≤ UInt64.size →
      (judge.isValid chain = true ↔
        ∀ (i : Nat) (before block : Block), chain[i]? = some before → chain[i + 1]? = some block →
          block.height.toNat = first.height.toNat + (i + 1) ∧ judge.Attached before block)) ∧
    (judge.isValid chain = true → ∀ (i : Nat) (old new : Block), chain[i + 1]? = some old →
      new.height ≠ old.height ∨ new.previousHash ≠ old.previousHash ∨
        (new.content = old.content ∧ new.hash ≠ old.hash) →
      judge.isValid (chain.set (i + 1) new) = false) := by
  have exactly (first : Block) (begins : chain[0]? = some first) :
      judge.isValid chain = true ↔
        ∀ (i : Nat) (before block : Block), chain[i]? = some before → chain[i + 1]? = some block →
          block.height.toNat = min (first.height.toNat + (i + 1)) (UInt64.size - 1) ∧
            judge.Attached before block := by
    rw [isValid_iff_forall]
    have nonempty : chain ≠ [] := fun empty => by simp [empty] at begins
    constructor
    · rintro ⟨_, links⟩ i before block atI atNext
      have counts := (heights_iff_forall begins).mp fun i before block atI atNext =>
        ((follows_iff_attached sha256).mp (links i before block atI atNext)).1
      exact ⟨counts (i + 1) block atNext,
        ((follows_iff_attached sha256).mp (links i before block atI atNext)).2⟩
    · intro links
      have counts := (heights_iff_forall begins).mpr fun i => by
        cases i with
        | zero =>
          intro block atStart
          obtain rfl := Option.some.inj (begins.symm.trans atStart)
          have bound : first.height.toNat < UInt64.size := first.height.toNat_lt
          omega
        | succ i =>
          intro block atNext
          have inside : i + 1 < chain.length := (List.getElem?_eq_some_iff.mp atNext).1
          exact (links i _ block (List.getElem?_eq_getElem (by omega)) atNext).1
      exact ⟨nonempty, fun i before block atI atNext => (follows_iff_attached sha256).mpr
        ⟨counts i before block atI atNext, (links i before block atI atNext).2⟩⟩
  refine ⟨⟨fun valid => ?_, ?_⟩, fun first begins room => ?_, ?_⟩
  · have nonempty := List.length_pos_iff.mpr (isValid_iff_forall.mp valid).1
    have begins : chain[0]? = some chain[0] := List.getElem?_eq_getElem nonempty
    exact ⟨chain[0], begins, (exactly _ begins).mp valid⟩
  · rintro ⟨first, begins, links⟩
    exact (exactly first begins).mpr links
  · rw [exactly first begins]
    -- There is room for every index, so no height is cut short.
    refine forall_congr' fun i => forall_congr' fun before => forall_congr' fun block =>
      imp_congr_right fun _ => imp_congr_right fun atNext => and_congr_left fun _ => ?_
    have inside : i + 1 < chain.length := (List.getElem?_eq_some_iff.mp atNext).1
    rw [Nat.min_eq_left (by omega)]
  · intro valid i old new atNext differs
    exact isValid_set_eq_false valid atNext differs

end Judge

/-! Two blocks at the greatest height, and a block with its hash in upper case. -/

namespace Sample

/-- The genesis block, moved to the greatest height. -/
def top : Block := { Cryptography.standard.genesis with height := 18446744073709551615 }

/-- What the leader says in a block that stands no higher. -/
def levelContent : BlockContent where
  height := top.height
  timestamp := .genesis
  evidences := []
  previousHash := top.hash
  proposer := leader.nodeId

/-- The block of the leader at the same height. -/
def level : Block := leaderKey.sealed levelContent

/-- The block of the leader with the letters of its hash in upper case. -/
def shouted : Block := { sealedBlock with hash := sealedBlock.hash.map Char.toUpper }

theorem signsWell_levelContent : leaderKey.SignsWell levelContent := by
  unfold PrivateKey.SignsWell
  decide +kernel

theorem follows_level : judge.follows top level = .ok () :=
  PrivateKey.follows_sealed rfl rfl (by decide) publicKey_leaderKey signsWell_levelContent

theorem content_shouted : shouted.content = sealedBlock.content := by
  simp only [shouted, Block.content]

theorem hash_sealedBlock : sealedBlock.hash =
    "033fefab3719ff4e2735e3fd1665507ce3c931306e89a5113be114f44f7d283e" := by
  decide +kernel

theorem hash_shouted : shouted.hash ≠ sealedBlock.hash := by
  show sealedBlock.hash.map Char.toUpper ≠ sealedBlock.hash
  rw [hash_sealedBlock]
  decide +kernel

theorem isValid_pair {before block : Block} (follows : judge.follows before block = .ok ()) :
    judge.isValid [before, block] = true := by
  simp [Judge.isValid, follows, Except.isOk, Except.toBool]

end Sample

/-- A block may stand as high as the block before it, if that is the greatest height. -/
theorem Judge.exists_isValid_of_level :
    let chain := [Sample.top, Sample.level]
    Sample.judge.isValid chain = true ∧ chain[0]? = some Sample.top ∧
      chain[1]? = some Sample.level ∧ Sample.level.height.toNat ≠ Sample.top.height.toNat + 1 :=
  ⟨Sample.isValid_pair Sample.follows_level, rfl, rfl, by decide⟩

/-- The genesis block and the block of the leader are a valid chain, and with the hash in upper case
they are none. -/
theorem Judge.isValid_eq_false_of_shouted :
    let judge := Sample.judge
    let chain := [Cryptography.standard.genesis, Sample.sealedBlock]
    judge.crypto.digest = Sha256.hash ∧ judge.isValid chain = true ∧
      judge.Attached Cryptography.standard.genesis Sample.sealedBlock ∧
      Sample.sealedBlock.height.toNat = Cryptography.standard.genesis.height.toNat + 1 ∧
      judge.isValid [Cryptography.standard.genesis, Sample.shouted] = false := by
  intro judge chain
  have sha256 : judge.crypto.digest = Sha256.hash := rfl
  have valid : judge.isValid chain = true :=
    Sample.isValid_pair (Sample.follows_sealedBlock (by decide))
  obtain ⟨_, exactly, changed⟩ := isValid_iff_attached sha256 chain
  obtain ⟨height, attached⟩ := (exactly _ rfl (by decide)).mp valid 0 _ _ rfl rfl
  exact ⟨sha256, valid, attached, height,
    changed valid 0 Sample.sealedBlock Sample.shouted rfl
      (.inr (.inr ⟨Sample.content_shouted, Sample.hash_shouted⟩))⟩

end EvidenceLedger
