import EvidenceLedger.Config.Validation

/-!
# What a configuration that can make a node promises

The checks of a configuration are made one after the other, so where all of them pass each one
passes. Of a leader they promise that it has a key to seal with, that the text of the key can be
read, and that the leader trusts itself under the public half of it.
-/

namespace EvidenceLedger

/-- A row of steps comes to a value if the first step does and the others go on from there. -/
theorem bind_eq_ok_iff {ε α β : Type} {x : Except ε α} {f : α → Except ε β} {b : β} :
    x >>= f = .ok b ↔ ∃ a, x = .ok a ∧ f a = .ok b := by
  cases x with
  | error reason => simp [bind, Except.bind]
  | ok a => simp [bind, Except.bind]

theorem check_eq_ok_iff {ε β : Type} {check : Except ε Unit} {rest : Except ε β} {b : β} :
    (check >>= fun _ => rest) = .ok b ↔ check = .ok () ∧ rest = .ok b := by
  cases check with
  | error reason => simp [bind, Except.bind]
  | ok _ => simp [bind, Except.bind]

theorem mapError_eq_ok_iff {ε ε' α : Type} {x : Except ε α} {f : ε → ε'} {a : α} :
    x.mapError f = .ok a ↔ x = .ok a := by
  cases x with
  | error reason => exact ⟨nofun, nofun⟩
  | ok b =>
    constructor
    · intro h
      exact congrArg Except.ok (Except.ok.inj h)
    · rintro ⟨⟩
      rfl

namespace NodeConfig

variable {c : NodeConfig}

theorem require_eq_ok_iff {condition : Bool} {error : ConfigError} :
    require condition error = .ok () ↔ condition = true := by
  cases condition with
  | false => simp [require]
  | true => simp [require]

/-- The key of a leader can be read, and the leader trusts itself under it. -/
theorem checkLeaderKey_eq_ok_iff :
    c.checkLeaderKey = .ok () ↔
      ∃ own text, PrivateKey.ofText (c.identity.privateKeyText.getD "") = .ok own ∧
        c.identity.allowlist.find? c.identity.nodeId = some text ∧
        PublicKey.ofText text = .ok own.publicKey := by
  unfold checkLeaderKey
  rw [bind_eq_ok_iff]
  constructor
  · rintro ⟨own, reads, rest⟩
    cases trusted : c.identity.allowlist.find? c.identity.nodeId with
    | none => simp [trusted] at rest
    | some text =>
      simp only [trusted] at rest
      obtain ⟨allowed, readsAllowed, same⟩ := bind_eq_ok_iff.mp rest
      have keys : allowed = own.publicKey := by
        simpa using require_eq_ok_iff.mp same
      exact ⟨own, text, mapError_eq_ok_iff.mp reads, rfl,
        keys ▸ mapError_eq_ok_iff.mp readsAllowed⟩
  · rintro ⟨own, text, reads, trusted, readsAllowed⟩
    refine ⟨own, mapError_eq_ok_iff.mpr reads, ?_⟩
    simp only [trusted]
    exact bind_eq_ok_iff.mpr ⟨own.publicKey, mapError_eq_ok_iff.mpr readsAllowed,
      require_eq_ok_iff.mpr (by simp)⟩

/-- The checks of a configuration, all of them passed. -/
structure Valid (c : NodeConfig) : Prop where
  named : Text.isBlank c.identity.nodeId = false
  hasKey : c.identity.isLeader = true → c.identity.privateKey?.isSome = true
  noBlankKey : c.blankKey? = none
  leaderKey : c.identity.isLeader = true → c.checkLeaderKey = .ok ()
  requestTimeout : c.sync.requestTimeoutMs ≠ 0
  batchSize : c.sync.batchSize ≠ 0
  pushTimeout : c.replication.pushTimeoutMs ≠ 0
  commitInterval : c.leader.commitIntervalSecs ≠ some 0

/-- The last four checks ask that a size and three times are not zero. -/
theorem values_eq_ok_iff :
    (do
      require (c.sync.requestTimeoutMs != 0) (.zeroValue .requestTimeout)
      require (c.sync.batchSize != 0) (.zeroValue .batchSize)
      require (c.replication.pushTimeoutMs != 0) (.zeroValue .pushTimeout)
      require (c.leader.commitIntervalSecs != some 0) (.zeroValue .commitInterval)) = .ok () ↔
      c.sync.requestTimeoutMs ≠ 0 ∧ c.sync.batchSize ≠ 0 ∧ c.replication.pushTimeoutMs ≠ 0 ∧
        c.leader.commitIntervalSecs ≠ some 0 := by
  simp only [check_eq_ok_iff, require_eq_ok_iff, bne_iff_ne]

/-- The configurations that can make a node. -/
theorem validate_eq_ok_iff : c.validate = .ok () ↔ c.Valid := by
  unfold validate
  constructor
  · intro valid
    obtain ⟨named, valid⟩ := check_eq_ok_iff.mp valid
    obtain ⟨hasKey, valid⟩ := check_eq_ok_iff.mp valid
    have isNamed : Text.isBlank c.identity.nodeId = false := by
      simpa using require_eq_ok_iff.mp named
    have leaderHasKey : c.identity.isLeader = true → c.identity.privateKey?.isSome = true := by
      intro leads
      simpa [leads] using require_eq_ok_iff.mp hasKey
    cases noBlankKey : c.blankKey? with
    | some node => simp [noBlankKey, bind, Except.bind] at valid
    | none =>
      simp only [noBlankKey] at valid
      obtain ⟨_, valid⟩ := check_eq_ok_iff.mp valid
      split at valid
      · obtain ⟨leaderKey, valid⟩ := check_eq_ok_iff.mp valid
        obtain ⟨requestTimeout, batchSize, pushTimeout, commitInterval⟩ :=
          values_eq_ok_iff.mp valid
        exact ⟨isNamed, leaderHasKey, noBlankKey, fun _ => leaderKey, requestTimeout, batchSize,
          pushTimeout, commitInterval⟩
      · next follows =>
        obtain ⟨requestTimeout, batchSize, pushTimeout, commitInterval⟩ :=
          values_eq_ok_iff.mp valid
        exact ⟨isNamed, leaderHasKey, noBlankKey, fun leads => absurd leads follows,
          requestTimeout, batchSize, pushTimeout, commitInterval⟩
  · intro valid
    have values := values_eq_ok_iff.mpr ⟨valid.requestTimeout, valid.batchSize, valid.pushTimeout,
      valid.commitInterval⟩
    have named := valid.named
    have hasKey := valid.hasKey
    refine check_eq_ok_iff.mpr ⟨require_eq_ok_iff.mpr (by simp [named]), ?_⟩
    refine check_eq_ok_iff.mpr ⟨require_eq_ok_iff.mpr (by grind), ?_⟩
    simp only [valid.noBlankKey]
    refine check_eq_ok_iff.mpr ⟨rfl, ?_⟩
    split
    · next leads => exact check_eq_ok_iff.mpr ⟨valid.leaderKey leads, values⟩
    · exact values

/-- A leader that can make a node has a key to seal with, and trusts itself under it. -/
theorem Valid.exists_leaderKey (valid : c.Valid) (leads : c.identity.isLeader = true) :
    ∃ keyText own trustedText, c.identity.privateKey? = some keyText ∧
      PrivateKey.ofText keyText = .ok own ∧
      c.identity.allowlist.find? c.identity.nodeId = some trustedText ∧
      PublicKey.ofText trustedText = .ok own.publicKey := by
  obtain ⟨keyText, holds⟩ := Option.isSome_iff_exists.mp (valid.hasKey leads)
  obtain ⟨own, trustedText, reads, trusted, readsTrusted⟩ :=
    checkLeaderKey_eq_ok_iff.mp (valid.leaderKey leads)
  obtain ⟨written, _⟩ := Option.filter_eq_some_iff.mp holds
  refine ⟨keyText, own, trustedText, holds, ?_, trusted, readsTrusted⟩
  rw [written] at reads
  exact reads

end NodeConfig

end EvidenceLedger
