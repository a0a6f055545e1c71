import EvidenceLedger.Sync.Session

/-!
# Synchronising is accepting

A synchronisation changes a ledger in one way only: it accepts blocks that peers served, one
after the other. And it tells the world nothing but what these acceptances tell and how it goes
itself. So whatever is kept where a served block is accepted, and where the course of the
synchronisation is told, a batch keeps, and so does a whole session, with whichever peer, in however
many batches, and wherever it ends.
-/

namespace EvidenceLedger

/-- Peers may serve this block when they are asked for some batch. -/
def Transport.Serves (transport : Transport) (block : Block) : Prop :=
  ∃ calls peer start limit blocks,
    (transport.blocks calls peer start limit).value = .ok blocks ∧ block ∈ blocks

/-- The event tells how a synchronisation goes. -/
def Event.IsSync : Event → Prop
  | .evidenceSubmitted _ | .blockCommitted _ | .blockAccepted _ | .blockRejected _ _ => False
  | _ => True

section Batch

variable {judge : Judge} {blocks : List Block}

theorem applyBatch_keeps {P : Ledger → List Effect → Prop}
    (accepts : ∀ l effects, ∀ block ∈ blocks, P l effects →
      P (l.accept judge block).ledger (effects ++ (l.accept judge block).effects))
    {l : Ledger} {effects : List Effect} (h : P l effects) (progress : Progress) :
    P (applyBatch judge l progress blocks).ledger
      (effects ++ (applyBatch judge l progress blocks).effects) := by
  induction blocks generalizing l effects progress with
  | nil =>
    show P l (effects ++ [])
    rw [List.append_nil]
    exact h
  | cons block rest ih =>
    have first := accepts l effects block List.mem_cons_self h
    have later : ∀ l effects, ∀ b ∈ rest, P l effects →
        P (l.accept judge b).ledger (effects ++ (l.accept judge b).effects) :=
      fun l effects b member => accepts l effects b (List.mem_cons_of_mem block member)
    simp only [applyBatch]
    split
    · exact first
    · have whole := ih later first (progress.advance block)
      rw [List.append_assoc] at whole
      exact whole

theorem applyBatch_preserves {P : Ledger → Prop}
    (accepts : ∀ l, ∀ block ∈ blocks, P l → P (l.accept judge block).ledger) {l : Ledger} (h : P l)
    (progress : Progress) : P (applyBatch judge l progress blocks).ledger :=
  @applyBatch_keeps judge blocks (fun l _ => P l) (fun l _ => accepts l) l [] h progress

end Batch

namespace Synchronizer

variable {s : Synchronizer}

@[simp] theorem ledger_tell (session : Session) (event : Event) :
    (session.tell event).ledger = session.ledger := rfl

@[simp] theorem ledger_fail (peer : String) (progress : Progress) (reason : SyncError)
    (session : Session) : (fail peer progress reason session).1.ledger = session.ledger := rfl

@[simp] theorem ledger_complete (progress : Progress) (session : Session) :
    (complete progress session).1.ledger = session.ledger := rfl

/-- Waiting leaves the ledger as it is, and an answer is what the peer gave. -/
theorem await_spec {α : Type} (s : Synchronizer) (peer : String) (call : Call)
    (answer : Timed (Except SyncError α)) (session : Session) :
    (s.await peer call answer session).1.ledger = session.ledger ∧
      ∀ a, (s.await peer call answer session).2 = some (.ok a) → answer.value = .ok a := by
  simp only [await]
  split
  · exact ⟨rfl, fun a none => by simp at none⟩
  · split
    · exact ⟨rfl, fun a timeout => by simp at timeout⟩
    · exact ⟨rfl, fun a answered => Option.some.inj answered⟩

/-- The call is noted, whatever comes of it. -/
@[simp] theorem calls_await {α : Type} (s : Synchronizer) (peer : String) (call : Call)
    (answer : Timed (Except SyncError α)) (session : Session) :
    (s.await peer call answer session).1.calls = session.calls ++ [call] := by
  simp only [await]
  split
  · rfl
  · split
    · rfl
    · rfl

/-- What is asked for arrives from the transport. -/
theorem askBlocks_spec {peer : String} {current : UInt64} {session : Session} :
    (s.askBlocks peer current session).1.ledger = session.ledger ∧
      ∀ blocks, (s.askBlocks peer current session).2 = some (.ok blocks) →
        ∀ block ∈ blocks, s.transport.Serves block := by
  obtain ⟨ledger, answer⟩ := await_spec s peer (.blocks peer (current + 1) s.config.batchSize)
    (s.transport.blocks session.calls peer (current + 1) s.config.batchSize) session
  exact ⟨ledger, fun blocks answered block member =>
    ⟨_, _, _, _, blocks, answer blocks answered, member⟩⟩

/-- Where the synchroniser tells how it goes, and where it accepts a block that peers served, `P`
stays true of the ledger and of what the world was told. -/
structure Keeps (s : Synchronizer) (P : Ledger → List Effect → Prop) : Prop where
  tell : ∀ l effects event, event.IsSync → P l effects → P l (effects ++ [.tell event])
  accept : ∀ l effects block, s.transport.Serves block → P l effects →
    P (l.accept s.judge block).ledger (effects ++ (l.accept s.judge block).effects)

section Keeps

variable {P : Ledger → List Effect → Prop} {session : Session}

theorem await_keeps {α : Type} (peer : String) (call : Call)
    (answer : Timed (Except SyncError α)) (h : P session.ledger session.effects) :
    P (s.await peer call answer session).1.ledger (s.await peer call answer session).1.effects := by
  simp only [await]
  split
  · exact h
  · split
    · exact h
    · exact h

theorem fetch_keeps (keeps : s.Keeps P) (peer : String) (remote : UInt64) (rounds : Nat)
    (progress : Progress) (h : P session.ledger session.effects) :
    P (s.fetch peer remote rounds progress session).1.ledger
      (s.fetch peer remote rounds progress session).1.effects := by
  induction rounds generalizing progress session with
  | zero =>
    simp only [fetch]
    split
    · exact h
    · exact keeps.tell _ _ (.syncCompleted _ _) trivial h
  | succ rounds ih =>
    obtain ⟨_, served⟩ := @askBlocks_spec s peer progress.current session
    have awaited : P (s.askBlocks peer progress.current session).1.ledger
        (s.askBlocks peer progress.current session).1.effects := await_keeps peer _ _ h
    simp only [fetch]
    split
    · split
      · next asked =>
        rw [asked] at awaited
        exact awaited
      · next asked =>
        rw [asked] at awaited
        exact keeps.tell _ _ (.syncFailed _ _ _ _) trivial awaited
      · next asked =>
        rw [asked] at awaited
        exact keeps.tell _ _ (.syncCompleted _ _) trivial awaited
      · next session' blocks _ asked =>
        rw [asked] at awaited served
        have applied := applyBatch_keeps (fun l effects block member =>
          keeps.accept l effects block (served blocks rfl block member)) awaited progress
        split
        · exact keeps.tell _ _ (.syncFailed _ _ _ _) trivial applied
        · exact ih _ applied
    · exact keeps.tell _ _ (.syncCompleted _ _) trivial h

theorem catchUp_keeps (keeps : s.Keeps P) (peer : String)
    (h : P session.ledger session.effects) :
    P (s.catchUp peer session).1.ledger (s.catchUp peer session).1.effects := by
  have awaited : P (s.askHead peer session).1.ledger (s.askHead peer session).1.effects :=
    await_keeps peer _ _ h
  simp only [catchUp]
  split
  · next asked =>
    rw [asked] at awaited
    exact awaited
  · next asked =>
    rw [asked] at awaited
    exact keeps.tell _ _ (.syncFailed _ _ _ _) trivial awaited
  · next asked =>
    rw [asked] at awaited
    split
    · exact awaited
    · exact fetch_keeps keeps peer _ _ _ (keeps.tell _ _ (.syncStarted _ _ _) trivial awaited)

/-- Whatever is kept where a served block is accepted and where the course is told, a
synchronisation keeps. -/
theorem synchronize_keeps (keeps : s.Keeps P) (hint : Option String)
    (h : P session.ledger session.effects) :
    P (s.synchronize hint session).1.ledger (s.synchronize hint session).1.effects := by
  simp only [synchronize]
  split
  · exact h
  · apply catchUp_keeps keeps
    split
    · exact keeps.tell _ _ (.unlistedPeer _) trivial h
    · exact h

/-- The event that an outcome leaves tells how a synchronisation went. -/
theorem isSync_of_report {peer : String} {outcome : SyncOutcome} {event : Event}
    (reported : report peer outcome = some event) : event.IsSync := by
  unfold report at reported
  split at reported
  · obtain rfl := Option.some.inj reported
    trivial
  · split at reported
    · obtain rfl := Option.some.inj reported
      trivial
    · cases reported

theorem synchronizeAll_keeps (keeps : s.Keeps P) (peers : List String)
    (h : P session.ledger session.effects) :
    P (s.synchronizeAll peers session).1.ledger (s.synchronizeAll peers session).1.effects := by
  induction peers generalizing session with
  | nil => exact h
  | cons peer rest ih =>
    have first := synchronize_keeps keeps (some peer) h
    simp only [synchronizeAll]
    split
    · next ended =>
      rw [ended] at first
      exact first
    · next ended =>
      rw [ended] at first
      refine ih ?_
      cases reported : report peer _ with
      | none => exact first
      | some event => exact keeps.tell _ _ event (isSync_of_report reported) first

/-- So does a node that synchronises with all of its peers on its own. -/
theorem autoSync_keeps (keeps : s.Keeps P) (h : P session.ledger session.effects) :
    P (s.autoSync session).1.ledger (s.autoSync session).1.effects := by
  simp only [autoSync]
  split
  · exact keeps.tell _ _ (.autoSyncSkipped _) trivial h
  · split
    · exact keeps.tell _ _ (.autoSyncSkipped _) trivial h
    · have begun : P (session.tell (.autoSyncStarted s.judge.identity.peers.length)).ledger
          (session.tell (.autoSyncStarted s.judge.identity.peers.length)).effects :=
        keeps.tell _ _ _ trivial h
      have all := synchronizeAll_keeps keeps s.judge.identity.peers begun
      split
      · next ended =>
        rw [ended] at all
        exact all
      · next ended =>
        rw [ended] at all
        exact keeps.tell _ _ (.autoSyncFinished _) trivial all

end Keeps

/-- Whatever each acceptance of a served block preserves, a synchronisation preserves. -/
theorem synchronize_preserves {P : Ledger → Prop}
    (accepts : ∀ l block, s.transport.Serves block → P l → P (l.accept s.judge block).ledger)
    (hint : Option String) {session : Session} (h : P session.ledger) :
    P (s.synchronize hint session).1.ledger := by
  have keeps : s.Keeps fun l _ => P l := ⟨fun _ _ _ _ h => h, fun l _ => accepts l⟩
  exact synchronize_keeps keeps hint h

end Synchronizer

end EvidenceLedger
