import EvidenceLedger.Proofs.Sync.Steps
import EvidenceLedger.Proofs.Text.Trim

/-!
# The trail of a synchronisation

A synchronisation and the ledger that it feeds write to one audit trail. The synchronisation tells
how it begins and how it ends, and the ledger tells of each block that it accepts or refuses. The
report is given to somebody else, and made of other numbers: a counter of blocks, and the height of
the last block that was applied. Trail and report tell the same story all the same, on whichever
path the synchronisation ends.

The argument follows the steps of catching up. Between two steps the trail is what was written
before, the beginning, and one event for each block by which the chain has grown; a step adds the
next event, or ends.

A failure is told as temporary exactly where no refusal stands in front of it, and this is the one
thing that is not true of every transport. What keeps a peer from answering is temporary, and what
the ledger refuses is not; but an error of a transport is told as it is, and a transport might
answer with the error of a ledger. That it does not is an assumption (`Transport.JudgesNothing`),
which the transports of this library satisfy.
-/

namespace EvidenceLedger

/-- Leave events, one after the other. -/
def Session.tellAll (s : Session) (events : List Event) : Session :=
  { s with effects := s.effects ++ events.map .tell }

def Call.peer : Call → String
  | .head peer => peer
  | .blocks peer _ _ => peer

/-- The calls ask the peer for its head first, and then nobody but the peer for anything. -/
def Call.Visits (peer : String) (calls : List Call) : Prop :=
  ∃ rest, calls = .head peer :: rest ∧ ∀ call ∈ rest, call.peer = peer

theorem Call.Visits.concat {peer : String} {calls : List Call} (visits : Visits peer calls)
    (call : Call) (addressed : call.peer = peer) : Visits peer (calls ++ [call]) := by
  obtain ⟨rest, rfl, toPeer⟩ := visits
  refine ⟨rest ++ [call], rfl, ?_⟩
  intro other member
  rcases List.mem_append.mp member with earlier | last
  · exact toPeer other earlier
  · exact List.mem_singleton.mp last ▸ addressed

/-- At some point the transport answers a request to the peer with this error. -/
def Transport.Reports (transport : Transport) (peer : String) (reason : SyncError) : Prop :=
  (∃ calls, (transport.head calls peer).value = .error reason) ∨
    ∃ calls start limit, (transport.blocks calls peer start limit).value = .error reason

/-- No error of the transport is that of a ledger. Such an error says that a block was refused, and
only the ledger that was to accept the block has reason to say so. -/
def Transport.JudgesNothing (transport : Transport) : Prop :=
  ∀ peer cause, ¬transport.Reports peer (.ledger cause)

/-- Scripted peers do not judge. -/
theorem ScriptedPeer.judgesNothing_transport (peerAt : String → ScriptedPeer) :
    (ScriptedPeer.transport peerAt).JudgesNothing := by
  rintro peer cause (⟨_, answered⟩ | ⟨_, start, limit, answered⟩)
  · simp only [ScriptedPeer.transport, answerHead] at answered
    split at answered
    · cases answered
    · split at answered <;> cases answered
  · simp only [ScriptedPeer.transport, answerBlocks] at answered
    split at answered <;> cases answered

/-- Nodes that answer others do not judge for them. -/
theorem Network.judgesNothing_transport (network : Network) : network.transport.JudgesNothing := by
  rintro peer cause (⟨_, answered⟩ | ⟨_, start, limit, answered⟩)
  · simp only [Network.transport] at answered
    split at answered <;> cases answered
  · simp only [Network.transport] at answered
    split at answered <;> cases answered

/-- A request to the peer may end with this error. -/
def Synchronizer.FailsWith (s : Synchronizer) (peer : String) (reason : SyncError) : Prop :=
  reason = .timeout peer s.config.requestTimeoutMs.toNat ∨ s.transport.Reports peer reason

/-- The event tells that a synchronisation with a peer failed for this reason, with the numbers and
the height of the report, which gives the same reason. -/
structure Event.TellsFailure (event : Event) (peer : String) (report : SyncOutcome)
    (reason : SyncError) : Prop where
  name : event.name = "SYNC_FAILED"
  message : event.message? = some reason.message
  reported : report.reason = some ("Sync failed: " ++ reason.message)
  details : event.details =
    [("peer", peer), ("appliedCount", number report.applied), ("height", number report.toHeight),
      ("transient", if reason.isTransient then "true" else "false")]

/-- What a synchronisation with a peer leaves in the audit trail, given the blocks that were
accepted and the report. Requests end only with errors in `fault`. -/
inductive SyncOutcome.Trail (fault : SyncError → Prop) (peer : String) (accepted : List Block)
    (report : SyncOutcome) : List Event → Prop where
  | upToDate (nothing : accepted = []) (level : report = .upToDate report.fromHeight) :
      Trail fault peer accepted report []
  /-- The peer does not give its head. -/
  | unreached {failure : Event} {reason : SyncError} (nothing : accepted = [])
      (failed : report.synced = false) (faulty : fault reason)
      (told : failure.TellsFailure peer report reason) :
      Trail fault peer accepted report [failure]
  | completed {remote : UInt64} (behind : report.fromHeight < remote)
      (done : report = .completed report.applied report.fromHeight report.toHeight) :
      Trail fault peer accepted report
        (.syncStarted peer report.fromHeight remote :: accepted.map .blockAccepted ++
          [.syncCompleted report.applied report.toHeight])
  /-- The peer does not give a batch. -/
  | unserved {remote : UInt64} {failure : Event} {reason : SyncError}
      (behind : report.fromHeight < remote) (failed : report.synced = false)
      (faulty : fault reason) (told : failure.TellsFailure peer report reason) :
      Trail fault peer accepted report
        (.syncStarted peer report.fromHeight remote :: accepted.map .blockAccepted ++ [failure])
  /-- The ledger refuses a block. -/
  | refused {remote : UInt64} {failure : Event} {violation : ChainViolation} (block : Block)
      (behind : report.fromHeight < remote) (failed : report.synced = false)
      (told : failure.TellsFailure peer report (.ledger (.violation violation))) :
      Trail fault peer accepted report
        (.syncStarted peer report.fromHeight remote :: accepted.map .blockAccepted ++
          [.blockRejected violation block, failure])

/-- A failure is told as lasting exactly if its reason is not a temporary one. -/
theorem Event.TellsFailure.lasting_iff {event : Event} {peer : String} {report : SyncOutcome}
    {reason : SyncError} (told : event.TellsFailure peer report reason) :
    ("transient", "false") ∈ event.details ↔ reason.isTransient = false := by
  rw [told.details]
  cases reason.isTransient <;> simp

/-- The event of a refused block is not that of a failed synchronisation. -/
theorem Event.name_blockRejected_ne (violation : ChainViolation) (block : Block) :
    (Event.blockRejected violation block).name ≠ "SYNC_FAILED" := by
  cases violation <;> simp [name, ChainViolation.eventName]

/-- Failures and refusals are told at the end. -/
theorem Event.mem_ending {peer : String} {start remote : UInt64} {accepted : List Block}
    {ending : List Event} {event : Event}
    (member : event ∈
      Event.syncStarted peer start remote :: accepted.map Event.blockAccepted ++ ending)
    (matters : event.name = "SYNC_FAILED" ∨
      ∃ violation block, event = .blockRejected violation block) : event ∈ ending := by
  rcases List.mem_append.mp member with underway | atEnd
  · rcases List.mem_cons.mp underway with rfl | later
    · simp [name] at matters
    · obtain ⟨block, _, rfl⟩ := List.mem_map.mp later
      simp [name] at matters
  · exact atEnd

/-- If requests fail with temporary errors only, a failure is told as lasting exactly where the
ledger has told of a refusal. -/
theorem SyncOutcome.Trail.lasting_iff {fault : SyncError → Prop} {peer : String}
    {accepted : List Block} {report : SyncOutcome} {course : List Event}
    (temporary : ∀ reason, fault reason → reason.isTransient = true)
    (trail : report.Trail fault peer accepted course) {failure : Event} (member : failure ∈ course)
    (isFailure : failure.name = "SYNC_FAILED") :
    ("transient", "false") ∈ failure.details ↔
      ∃ violation block, .blockRejected violation block ∈ course := by
  have noRefusal {violation : ChainViolation} {block : Block}
      (refusal : Event.blockRejected violation block ∈ [failure]) : False :=
    Event.name_blockRejected_ne violation block (List.mem_singleton.mp refusal ▸ isFailure)
  cases trail with
  | upToDate => cases member
  | unreached _ _ faulty told =>
    obtain rfl := List.mem_singleton.mp member
    rw [told.lasting_iff, temporary _ faulty]
    refine ⟨nofun, ?_⟩
    rintro ⟨violation, block, refusal⟩
    exact (noRefusal refusal).elim
  | completed =>
    obtain rfl := List.mem_singleton.mp (Event.mem_ending member (.inl isFailure))
    simp [Event.name] at isFailure
  | unserved _ _ faulty told =>
    obtain rfl := List.mem_singleton.mp (Event.mem_ending member (.inl isFailure))
    rw [told.lasting_iff, temporary _ faulty]
    refine ⟨nofun, ?_⟩
    rintro ⟨violation, block, refusal⟩
    exact (noRefusal (Event.mem_ending refusal (.inr ⟨violation, block, rfl⟩))).elim
  | refused block _ _ told =>
    refine ⟨fun _ => ⟨_, block, List.mem_append_right _ List.mem_cons_self⟩, fun _ => ?_⟩
    rcases List.mem_cons.mp (Event.mem_ending member (.inl isFailure)) with rfl | last
    · exact absurd isFailure (Event.name_blockRejected_ne _ block)
    · obtain rfl := List.mem_singleton.mp last
      exact told.lasting_iff.mpr rfl

/-- The report counts the blocks, which stand at the heights between those that it names. -/
structure SyncOutcome.Counts (report : SyncOutcome) (accepted : List Block) : Prop where
  applied : report.applied.toNat = accepted.length
  toHeight : report.toHeight.toNat = report.fromHeight.toNat + report.applied.toNat
  heights : accepted.map (fun block => block.height.toNat) =
    List.range' (report.fromHeight.toNat + 1) report.applied.toNat

/-- A chain has grown by these blocks, each of them one higher than the one before it as long as
heights can be counted. -/
structure Ledger.Grown (before after : Ledger) (accepted : List Block) : Prop where
  chain : after.chain = before.chain ++ accepted
  heights : before.head.height.toNat + accepted.length < UInt64.size →
    after.head.height.toNat = before.head.height.toNat + accepted.length ∧
      accepted.map (fun block => block.height.toNat) =
        List.range' (before.head.height.toNat + 1) accepted.length

namespace Ledger.Grown

variable {judge : Judge} {before after : Ledger} {accepted : List Block} {block : Block}

theorem refl (l : Ledger) : Grown l l [] :=
  ⟨(List.append_nil _).symm, fun _ => ⟨rfl, rfl⟩⟩

theorem accept (grown : Grown before after accepted)
    (judged : judge.follows after.head block = .ok ()) :
    Grown before (after.accept judge block).ledger (accepted ++ [block]) := by
  rw [accept_of_ok judged]
  refine ⟨?_, ?_⟩
  · rw [chain_append, grown.chain, List.append_assoc]
  · intro room
    rw [List.length_append, List.length_singleton] at room ⊢
    obtain ⟨reached, heights⟩ := grown.heights (by omega)
    have next : block.height.toNat = before.head.height.toNat + (accepted.length + 1) := by
      obtain ⟨height, _⟩ := Judge.follows_eq_ok_iff.mp judged
      rw [height, toNat_successorHeight, reached]
      omega
    refine ⟨next, ?_⟩
    rw [List.map_append, heights, List.map_singleton, next, List.range'_concat]
    congr 2
    omega

end Ledger.Grown

/-- On its way from `base` to `now` a session has asked the peer for blocks up to a height, and some
were accepted. -/
structure Session.Visiting (base now : Session) (peer : String) (remote : UInt64)
    (accepted : List Block) : Prop where
  calls : ∃ calls, now.calls = base.calls ++ calls ∧ Call.Visits peer calls
  behind : base.ledger.head.height < remote
  effects : now.effects = base.effects ++
    (.syncStarted peer base.ledger.head.height remote :: accepted.map .blockAccepted).map .tell
  grown : base.ledger.Grown now.ledger accepted

/-- What is told next comes after what was told on the way. -/
theorem Session.Visiting.tells {base now : Session} {peer : String} {remote : UInt64}
    {accepted : List Block} (visiting : base.Visiting now peer remote accepted)
    (events : List Event) :
    now.effects ++ events.map .tell = base.effects ++
      (Event.syncStarted peer base.ledger.head.height remote :: accepted.map Event.blockAccepted ++
        events).map .tell := by
  rw [visiting.effects, List.append_assoc, ← List.map_append]

/-- A session that went from `base` to `now` has asked the peer, whose requests end only with errors
in `fault`, and has ended with the report. -/
structure Session.Visited (fault : SyncError → Prop) (base now : Session) (peer : String)
    (report : SyncOutcome) (accepted : List Block) (course : List Event) : Prop where
  calls : ∃ calls, now.calls = base.calls ++ calls ∧ Call.Visits peer calls
  effects : now.effects = base.effects ++ course.map .tell
  grown : base.ledger.Grown now.ledger accepted
  fromHeight : report.fromHeight = base.ledger.head.height
  toHeight : report.toHeight = now.ledger.head.height
  applied : report.applied = .ofNat accepted.length
  trail : report.Trail fault peer accepted course

/-- A report that goes by the heads and counts the blocks is right about them. -/
theorem Session.Visited.counts {fault : SyncError → Prop} {base now : Session} {peer : String}
    {report : SyncOutcome} {accepted : List Block} {course : List Event}
    (visited : base.Visited fault now peer report accepted course)
    (room : base.ledger.head.height.toNat + accepted.length < UInt64.size) :
    report.Counts accepted := by
  obtain ⟨reached, heights⟩ := visited.grown.heights room
  have counted : report.applied.toNat = accepted.length := by
    rw [visited.applied, UInt64.toNat_ofNat_of_lt']
    omega
  refine ⟨counted, ?_, ?_⟩
  · rw [visited.toHeight, reached, visited.fromHeight, counted]
  · rw [heights, visited.fromHeight, counted]

/-- What was asked and told on the way from `base` fits the phase. -/
inductive Pursuit.Told (fault : SyncError → Prop) (peer : String) (base : Session) :
    Pursuit → Prop where
  | starting : Told fault peer base ⟨base, .starting⟩
  | asking : Told fault peer base ⟨base, .asking base.ledger.head.height⟩
  | fetching {now : Session} {remote : UInt64} (accepted : List Block) (blocks : List Block)
      {progress : Progress} (visiting : base.Visiting now peer remote accepted)
      (counted : progress =
        ⟨base.ledger.head.height, now.ledger.head.height, .ofNat accepted.length⟩) :
      Told fault peer base ⟨now, .fetching remote progress blocks⟩
  | ended {now : Session} {report : SyncOutcome} {accepted : List Block} {course : List Event}
      (visited : base.Visited fault now peer report accepted course) :
      Told fault peer base ⟨now, .ended (some report)⟩

namespace Synchronizer

variable {s : Synchronizer} {peer : String} {base : Session}

/-- An answer that is not received took too long, or the peer did not give it. -/
theorem timeout_or_of_received {α : Type} {answer : Timed (Except SyncError α)}
    {reason : SyncError} (received : s.received peer answer = .error reason) :
    reason = .timeout peer s.config.requestTimeoutMs.toNat ∨ answer.value = .error reason := by
  simp only [Synchronizer.received] at received
  split at received
  · exact .inl (Except.error.inj received).symm
  · exact .inr received

theorem failsWith_of_head {before : List Call} {reason : SyncError}
    (received : s.received peer (s.transport.head before peer) = .error reason) :
    s.FailsWith peer reason :=
  (timeout_or_of_received received).imp id fun answered => .inl ⟨before, answered⟩

theorem failsWith_of_blocks {before : List Call} {start limit : UInt64} {reason : SyncError}
    (received : s.received peer (s.transport.blocks before peer start limit) = .error reason) :
    s.FailsWith peer reason :=
  (timeout_or_of_received received).imp id fun answered => .inr ⟨before, start, limit, answered⟩

/-- Where the transport judges nothing, what keeps a peer from answering is temporary. -/
theorem FailsWith.isTransient (judgesNothing : s.transport.JudgesNothing) {reason : SyncError}
    (fails : s.FailsWith peer reason) : reason.isTransient = true := by
  rcases fails with rfl | reported
  · rfl
  · cases reason with
    | transport => rfl
    | timeout => rfl
    | ledger cause => exact absurd reported (judgesNothing peer cause)

/-- The event of a failure says what the report says. -/
theorem tellsFailure (peer : String) (progress : Progress) (reason : SyncError) :
    (Event.syncFailed reason peer progress.applied progress.current).TellsFailure peer
      (.failed progress.applied progress.start progress.current reason.message) reason :=
  ⟨rfl, rfl, rfl, rfl⟩

/-- Asking for the head of the peer, before anything is told. -/
theorem step_asking_told (whole : s.cutoffMs = none) (base : Session) :
    (s.step peer ⟨base, .asking base.ledger.head.height⟩).Told (s.FailsWith peer) peer base := by
  obtain ⟨elapsedMs, asked⟩ := @askHead_of_whole s peer whole base
  let now : Session := { base with calls := base.calls ++ [.head peer], elapsedMs }
  have calls : ∃ calls, now.calls = base.calls ++ calls ∧ Call.Visits peer calls :=
    ⟨_, rfl, [], rfl, fun _ none => nomatch none⟩
  simp only [step, asked]
  cases received : s.received peer (s.transport.head base.calls peer) with
  | error reason =>
    have told := tellsFailure peer (.begin base.ledger.head.height) reason
    exact .ended ⟨calls, rfl, .refl _, rfl, rfl, rfl,
      .unreached rfl rfl (failsWith_of_head received) told⟩
  | ok head =>
    dsimp only
    split
    · exact .ended ⟨calls, (List.append_nil _).symm, .refl _, rfl, rfl, rfl, .upToDate rfl rfl⟩
    · next higher =>
      exact .fetching [] [] ⟨calls, UInt64.not_le.mp higher, rfl, .refl _⟩ rfl

section Fetching

variable {now : Session} {remote : UInt64} {accepted : List Block}

/-- Asking for a batch, or seeing that there is nothing left to ask for. -/
theorem step_fetching_told (whole : s.cutoffMs = none)
    (visiting : base.Visiting now peer remote accepted) :
    let progress : Progress :=
      ⟨base.ledger.head.height, now.ledger.head.height, .ofNat accepted.length⟩
    (s.step peer ⟨now, .fetching remote progress []⟩).Told (s.FailsWith peer) peer base := by
  intro progress
  have tells := visiting.tells
  obtain ⟨calls, behind, effects, grown⟩ := visiting
  by_cases lower : progress.current < remote
  · let call : Call := .blocks peer (progress.current + 1) s.config.batchSize
    obtain ⟨elapsedMs, asked⟩ := @askBlocks_of_whole s peer whole progress.current now
    let next : Session := { now with calls := now.calls ++ [call], elapsedMs }
    have calls : ∃ calls, next.calls = base.calls ++ calls ∧ Call.Visits peer calls := by
      obtain ⟨earlier, noted, visits⟩ := calls
      refine ⟨earlier ++ [call], ?_, visits.concat call rfl⟩
      rw [← List.append_assoc, ← noted]
    simp only [step, if_pos lower, asked]
    cases replied : s.reply now.calls call with
    | error reason =>
      have told := tellsFailure peer progress reason
      exact .ended ⟨calls, tells [_], grown, rfl, rfl, rfl,
        .unserved behind rfl (failsWith_of_blocks replied) told⟩
    | ok blocks =>
      cases blocks with
      | nil =>
        exact .ended ⟨calls, tells [_], grown, rfl, rfl, rfl, .completed behind rfl⟩
      | cons block rest => exact .fetching accepted _ ⟨calls, behind, effects, grown⟩ rfl
  · simp only [step, if_neg lower]
    exact .ended ⟨calls, tells [_], grown, rfl, rfl, rfl, .completed behind rfl⟩

/-- Accepting a block of a batch. -/
theorem step_accept_told {block : Block} {rest : List Block}
    (visiting : base.Visiting now peer remote accepted) :
    let progress : Progress :=
      ⟨base.ledger.head.height, now.ledger.head.height, .ofNat accepted.length⟩
    (s.step peer ⟨now, .fetching remote progress (block :: rest)⟩).Told (s.FailsWith peer) peer base := by
  intro progress
  have tells := visiting.tells
  obtain ⟨calls, behind, _, grown⟩ := visiting
  cases judged : s.judge.follows now.ledger.head block with
  | error violation =>
    simp only [step, Pursuit.ledger, Pursuit.record, Ledger.accept_of_error judged]
    have told := tellsFailure peer progress (.ledger (.violation violation))
    refine .ended ⟨calls, ?_, grown, rfl, rfl, rfl, .refused block behind rfl told⟩
    exact (List.append_assoc _ _ _).trans (tells [_, _])
  | ok _ =>
    have grown := grown.accept judged
    simp only [step, Pursuit.ledger, Pursuit.record, Ledger.accept_of_ok judged] at grown ⊢
    refine .fetching (accepted ++ [block]) rest ⟨calls, behind, ?_, grown⟩ ?_
    · rw [List.map_append, ← List.cons_append]
      exact tells [_]
    · show Progress.mk _ _ _ = _
      rw [List.length_append, UInt64.ofNat_add]
      rfl

end Fetching

/-- No step spoils the trail. -/
theorem step_told (whole : s.cutoffMs = none) {p : Pursuit} (told : p.Told (s.FailsWith peer) peer base) :
    (s.step peer p).Told (s.FailsWith peer) peer base := by
  cases told with
  | starting => exact .asking
  | asking => exact step_asking_told whole base
  | fetching accepted blocks visiting counted =>
    rw [counted]
    cases blocks with
    | nil => exact step_fetching_told whole visiting
    | cons block rest => exact step_accept_told visiting
  | ended visited => exact .ended visited

/-- Whatever each step keeps, the steps from one point to another keep. -/
theorem Leads.keeps {P : Pursuit → Prop} (keeps : ∀ p, P p → P (s.step peer p)) {p q : Pursuit}
    (leads : s.Leads peer p q) (h : P p) : P q := by
  induction leads with
  | refl => exact h
  | step _ ih => exact ih (keeps _ h)

theorem catchUp_told (whole : s.cutoffMs = none) (peer : String) (session : Session) :
    (Pursuit.ended (s.catchUp peer session)).Told (s.FailsWith peer) peer session := by
  apply (leads_catchUp s peer session).keeps
  · intro p told
    exact step_told whole told
  · exact .starting

/-- A wish that is not blank counts, without the white space around it. -/
theorem choosePeer_of_wish {identity : NodeIdentity} {wish : String}
    (notBlank : Text.trim wish ≠ "") :
    choosePeer identity (some wish) = some (Text.trim wish) := by
  have counts : (some (Text.trim wish)).filter (!·.isEmpty) = some (Text.trim wish) :=
    Option.filter_some_pos (by simpa using notBlank)
  rw [choosePeer, Option.map_some, counts]

theorem choosePeer_of_blank {identity : NodeIdentity} {wish : String}
    (blank : Text.trim wish = "") : choosePeer identity (some wish) = identity.peers.head? := by
  rw [choosePeer, Option.map_some, blank]
  rfl

/-- The warning about a peer that somebody wants and nobody configured. -/
def warnings (identity : NodeIdentity) (hint : Option String) : List Event :=
  match hint.map Text.trim with
  | none => []
  | some wish => if wish = "" ∨ wish ∈ identity.peers then [] else [.unlistedPeer wish]

/-- To synchronise with a peer is to give the warning, and then to catch up with the peer. -/
theorem synchronize_eq {hint : Option String}
    (chosen : choosePeer s.judge.identity hint = some peer) (session : Session) :
    s.synchronize hint session =
      s.catchUp peer (session.tellAll (warnings s.judge.identity hint)) := by
  have warned : (if isUnlisted s.judge.identity hint peer then session.tell (.unlistedPeer peer)
      else session) = session.tellAll (warnings s.judge.identity hint) := by
    cases hint with
    | none => simp [isUnlisted, warnings, Session.tellAll]
    | some wish =>
      by_cases blank : Text.trim wish = ""
      · have isBlank := Text.trim_eq_empty_iff.mp blank
        simp [isUnlisted, warnings, blank, isBlank, Session.tellAll]
      · have notBlank : Text.isBlank wish = false :=
          Bool.eq_false_iff.mpr (mt Text.trim_eq_empty_iff.mpr blank)
        obtain rfl := Option.some.inj ((choosePeer_of_wish blank).symm.trans chosen)
        by_cases listed : Text.trim wish ∈ s.judge.identity.peers
        · simp [isUnlisted, warnings, blank, notBlank, listed, Session.tellAll]
        · simp [isUnlisted, warnings, blank, notBlank, listed, Session.tell, Session.tellAll]
  simp only [synchronize, chosen, warned]

/-- Nobody is warned of a peer that nobody wants. -/
theorem warnings_of_not_chosen {identity : NodeIdentity} {hint : Option String}
    (nobody : choosePeer identity hint = none) : warnings identity hint = [] := by
  cases hint with
  | none => rfl
  | some wish =>
    by_cases blank : Text.trim wish = ""
    · simp [warnings, blank]
    · rw [choosePeer_of_wish blank] at nobody
      cases nobody

/-- A synchronisation with the peer that is chosen comes to a report, and is told. -/
theorem synchronize_told {hint : Option String} (whole : s.cutoffMs = none)
    (chosen : choosePeer s.judge.identity hint = some peer) (session : Session) :
    ∃ after report accepted course,
      s.synchronize hint session = (after, some report) ∧
        (session.tellAll (warnings s.judge.identity hint)).Visited (s.FailsWith peer) after peer
          report accepted course := by
  have told := catchUp_told whole peer (session.tellAll (warnings s.judge.identity hint))
  rw [synchronize_eq chosen]
  generalize s.catchUp peer _ = result at told ⊢
  obtain ⟨after, outcome⟩ := result
  cases told with
  | ended visited => exact ⟨after, _, _, _, rfl, visited⟩

/-- The audit trail of a synchronisation that is not abandoned matches its report, for every ledger,
every wish and every transport.

First comes a warning, exactly if the wish, without the white space around it, is not empty and not
one of the configured peers. If there is nobody to ask, there is nothing more. Otherwise the rest is
as in `SyncOutcome.Trail`: nothing, if the peer is not ahead; one failure, if it does not give its
head; or a beginning, one event for each block that was accepted, in order, and an end. The end
tells the numbers and the height of the report. If it is a failure, the report gives its message as
the reason, and either a request has failed with this reason, or the ledger tells of its refusal
right before. The blocks that are told are those by which the chain has grown, and, as long as
heights can be counted, there are as many as the report says, at the heights from one above the
height that it began with up to the one that it ended with.

That a failure is told as lasting exactly if the ledger tells of a refusal before takes a transport
that judges nothing, since the errors of a transport are told as they are. -/
theorem synchronize_trail (whole : s.cutoffMs = none) (hint : Option String)
    (session : Session) :
    let result := s.synchronize hint session
    ∃ report accepted course,
      result.2 = some report ∧
      result.1.effects =
        session.effects ++ (warnings s.judge.identity hint ++ course).map .tell ∧
      result.1.ledger.chain = session.ledger.chain ++ accepted ∧
      ((choosePeer s.judge.identity hint = none ∧ report = .noPeers ∧ accepted = [] ∧
          course = []) ∨
        ∃ peer, choosePeer s.judge.identity hint = some peer ∧
          report.fromHeight = session.ledger.head.height ∧
          report.toHeight = result.1.ledger.head.height ∧
          (session.ledger.head.height.toNat + accepted.length < UInt64.size →
            report.Counts accepted) ∧
          report.Trail (s.FailsWith peer) peer accepted course) ∧
      (s.transport.JudgesNothing → ∀ failure ∈ course, failure.name = "SYNC_FAILED" →
        (("transient", "false") ∈ failure.details ↔
          ∃ violation block, .blockRejected violation block ∈ course)) := by
  intro result
  cases chosen : choosePeer s.judge.identity hint with
  | none =>
    have isResult : result = (session, some .noPeers) := by
      simp only [result, synchronize, chosen]
    rw [isResult, warnings_of_not_chosen chosen]
    exact ⟨_, [], [], rfl, (List.append_nil _).symm, (List.append_nil _).symm,
      .inl ⟨rfl, rfl, rfl, rfl⟩, fun _ => List.forall_mem_nil _⟩
  | some peer =>
    obtain ⟨after, report, accepted, course, isResult, visited⟩ :=
      synchronize_told whole chosen session
    simp only [result, isResult]
    refine ⟨report, accepted, course, rfl, ?_, visited.grown.chain, .inr ⟨peer, rfl,
      visited.fromHeight, visited.toHeight, visited.counts, visited.trail⟩, ?_⟩
    · rw [List.map_append, ← List.append_assoc]
      exact visited.effects
    · intro judgesNothing failure member isFailure
      have temporary : ∀ reason, s.FailsWith peer reason → reason.isTransient = true :=
        fun _ fails => fails.isTransient judgesNothing
      exact visited.trail.lasting_iff temporary member isFailure

end Synchronizer

/-! A follower whose peer serves a block that does not follow. -/

namespace Sample

/-- A block from nowhere. -/
def strayBlock : Block := ⟨5, .genesis, [], "", "node-1", "", ""⟩

/-- A follower whose peers have nothing but `strayBlock`. -/
def misled : Synchronizer :=
  ⟨⟨.standard, follower⟩, .standard,
    ScriptedPeer.transport fun _ => { ScriptedPeer.empty with blocks := [strayBlock] }, none⟩

theorem effects_misled :
    (misled.synchronize (some "node-1") (.start (.fresh .standard))).1.effects =
      [.tell (.unlistedPeer "node-1"), .tell (.syncStarted "node-1" 0 5),
        .tell (.blockRejected (.heightMismatch 1 5) strayBlock),
        .tell (.syncFailed (.ledger (.violation (.heightMismatch 1 5))) "node-1" 0 0)] := by
  decide +kernel

end Sample

/-- The block is refused, and the failure is told as lasting. -/
theorem Synchronizer.synchronize_trail_of_misled :
    let s := Sample.misled
    s.cutoffMs = none ∧ s.transport.JudgesNothing ∧
      ∃ failure, .tell failure ∈
          (s.synchronize (some "node-1") (.start (.fresh .standard))).1.effects ∧
        failure.name = "SYNC_FAILED" ∧ ("transient", "false") ∈ failure.details := by
  intro s
  have judgesNothing : s.transport.JudgesNothing := ScriptedPeer.judgesNothing_transport _
  refine ⟨rfl, judgesNothing, ?_⟩
  obtain ⟨report, accepted, course, _, effects, _, _, lasting⟩ :=
    synchronize_trail (s := s) rfl (some "node-1") (.start (.fresh .standard))
  rw [Sample.effects_misled] at effects ⊢
  have warned : warnings s.judge.identity (some "node-1") = [.unlistedPeer "node-1"] := by
    decide +kernel
  rw [warned] at effects
  have rest : _ = course.map Effect.tell := (List.cons.inj effects).2
  have told : ∀ event, .tell event ∈ course.map Effect.tell → event ∈ course := by
    intro event member
    obtain ⟨_, isTold, same⟩ := List.mem_map.mp member
    exact Effect.tell.inj same ▸ isTold
  rw [← rest] at told
  have refusal := told (.blockRejected (.heightMismatch 1 5) Sample.strayBlock) (by simp)
  have isFailure := told (.syncFailed (.ledger (.violation (.heightMismatch 1 5))) "node-1" 0 0)
    (by simp)
  exact ⟨_, by simp, rfl, (lasting judgesNothing _ isFailure rfl).mpr ⟨_, _, refusal⟩⟩

end EvidenceLedger
