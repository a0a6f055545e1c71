import EvidenceLedger.Config.NodeConfig
import EvidenceLedger.Proofs.Chain.Wire
import EvidenceLedger.Proofs.Node.Allowlist

/-!
# Identities and configurations travel unchanged

An allowlist is read entry by entry, and every entry is put in its place. So it does not matter in
which order the entries are written: a list with no node twice comes to the same allowlist in every
order. All else that a configuration holds is read as it was written, since what is written mentions
every field and leaves nothing to the defaults.
-/

namespace EvidenceLedger

open Json

namespace Allowlist

/-- The written form of the entries, in the order in which they are given. -/
def write (entries : List (String × String)) : Json :=
  .obj (entries.map fun entry => (entry.1, .str entry.2))

/-- Entries are read one after the other, each of them put in its place. -/
theorem entries_write (entries : List (String × String)) (start : Allowlist) :
    Reader.entries Reader.text insert start (write entries).toSource =
      .ok (entries.foldl (fun list entry => list.insert entry.1 entry.2) start) := by
  have collected : ((entries.map fun entry => (entry.1, Json.str entry.2)).map fun m =>
      ((.ok m.1 : Except Flaw String), m.2.toSource)).foldlM
        (fun list m => do return insert list (← Reader.key m.1) (← Reader.text m.2)) start =
      (.ok (entries.foldl (fun list entry => list.insert entry.1 entry.2) start) :
        Checked Allowlist) := by
    induction entries generalizing start with
    | nil => rfl
    | cons entry rest ih =>
      rw [List.map_cons, List.map_cons, List.foldlM_cons, (Reader.reads_text entry.2).value]
      exact ih _
  rw [write, toSource, membersToSource_eq_map, Reader.entries, collected]
  rfl

/-- The entries of an allowlist are read as that allowlist, in whichever order they are written. -/
theorem reads_write {entries : List (String × String)} {list : Allowlist}
    (shuffled : entries.Perm list.entries) : Reader.Reads decode (write entries) list := by
  refine ⟨.obj ?_, ?_⟩
  · intro m member
    obtain ⟨entry, _, rfl⟩ := List.mem_map.mp member
    exact .str entry.2
  · exact (entries_write entries empty).trans (congrArg Except.ok (foldl_insert_empty shuffled))

end Allowlist

instance : LawfulWire Allowlist where
  reads _ := Allowlist.reads_write (.refl _)

namespace NodeIdentity

/-- The written form of an identity in which the entries of the allowlist stand in a given order. -/
def writeWith (i : NodeIdentity) (entries : List (String × String)) : Json := .obj
  [("nodeId", .str i.nodeId),
    ("isLeader", .bool i.isLeader),
    ("privateKeyBase64", encodeOption .str i.privateKeyText),
    ("peers", encodeList .str i.peers),
    ("allowedNodePublicKeys", Allowlist.write entries)]

theorem writeWith_entries (i : NodeIdentity) : i.writeWith i.allowlist.entries = encode i := rfl

theorem reads_writeWith {i : NodeIdentity} {entries : List (String × String)}
    (shuffled : entries.Perm i.allowlist.entries) :
    Reader.Reads decode (i.writeWith entries) i := by
  have peers : (Reader.list Reader.text).Reads (encodeList .str i.peers) i.peers :=
    Reader.reads_list Reader.reads_text _
  have all := ((RecordReader.Reads.text "nodeId" i.nodeId).map NodeIdentity.mk)
    |>.and (.default "isLeader" false (Reader.reads_bool i.isLeader)) (by simp)
    |>.and (.default "privateKeyBase64" none (reads_optionalText i.privateKeyText)) (by simp)
    |>.and (.default "peers" [] peers) (by simp)
    |>.and (.default "allowedNodePublicKeys" .empty (Allowlist.reads_write shuffled)) (by simp)
  exact all.obj

end NodeIdentity

instance : LawfulWire NodeIdentity where
  reads _ := NodeIdentity.reads_writeWith (.refl _)

instance : LawfulWire ListenConfig where
  reads c := by
    have all := ((RecordReader.Reads.default "bindAddress" ListenConfig.standard.bindAddress
        (Reader.reads_text c.bindAddress)).map ListenConfig.mk)
      |>.and (.default "httpPort" ListenConfig.standard.httpPort (Reader.reads_word16 c.httpPort))
        (by simp)
    exact all.obj

instance : LawfulWire SyncConfig where
  reads c := by
    have all := ((RecordReader.Reads.default "batchSize" SyncConfig.standard.batchSize
        (Reader.reads_word64 c.batchSize)).map SyncConfig.mk)
      |>.and (.default "requestTimeoutMs" SyncConfig.standard.requestTimeoutMs
        (Reader.reads_word64 c.requestTimeoutMs)) (by simp)
      |>.and (.default "autoSyncOnStartup" SyncConfig.standard.autoSyncOnStartup
        (Reader.reads_bool c.autoSyncOnStartup)) (by simp)
    exact all.obj

instance : LawfulWire PushConfig where
  reads c := by
    have timeout := RecordReader.Reads.default "pushTimeoutMs" PushConfig.standard.pushTimeoutMs
      (Reader.reads_word64 c.pushTimeoutMs)
    exact (timeout.map PushConfig.mk).obj

instance : LawfulWire LeaderConfig where
  reads c := by
    have value : (Reader.nullable Reader.word64).Reads (encodeOption word64 c.commitIntervalSecs)
        c.commitIntervalSecs :=
      Reader.reads_nullable Reader.reads_word64 (fun _ => Json.noConfusion) _
    have interval := RecordReader.Reads.default "commitIntervalSecs" none value
    exact (interval.map LeaderConfig.mk).obj

namespace NodeConfig

/-- The written form of a configuration in which the entries of the allowlist stand in a given
order. -/
def writeWith (c : NodeConfig) (entries : List (String × String)) : Json := .obj
  [("identity", c.identity.writeWith entries),
    ("network", encode c.network),
    ("sync", encode c.sync),
    ("replication", encode c.replication),
    ("leader", encode c.leader)]

theorem writeWith_entries (c : NodeConfig) :
    c.writeWith c.identity.allowlist.entries = encode c := rfl

theorem reads_writeWith {c : NodeConfig} {entries : List (String × String)}
    (shuffled : entries.Perm c.identity.allowlist.entries) :
    Reader.Reads decode (c.writeWith entries) c := by
  have identity := RecordReader.Reads.default "identity" NodeConfig.standard.identity
    (NodeIdentity.reads_writeWith shuffled)
  have all := (identity.map NodeConfig.mk)
    |>.and (.default "network" .standard (LawfulWire.reads c.network)) (by simp)
    |>.and (.default "sync" .standard (LawfulWire.reads c.sync)) (by simp)
    |>.and (.default "replication" .standard (LawfulWire.reads c.replication)) (by simp)
    |>.and (.default "leader" .standard (LawfulWire.reads c.leader)) (by simp)
  exact all.obj

end NodeConfig

instance : LawfulWire NodeConfig where
  reads _ := NodeConfig.reads_writeWith (.refl _)

end EvidenceLedger
