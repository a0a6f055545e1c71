import EvidenceLedger.Proofs.Sync.Trail

/-!
# All peers in rounds

A node that synchronises on its own goes through the entries of its configuration in rounds. Each
entry has one, whatever came of those before it, and a round begins where the one before it ended.

In a round the entry is treated as if somebody wished for it. So it is not the entry itself that is
asked, but what is left of it without the white space around it, and this need not be one of the
configured peers. Where nothing is left, the first of the configured peers is asked once more. Who
writes the entries without white space around them, and leaves none of them blank, has each of them
asked as it stands.
-/

namespace EvidenceLedger

/-- What becomes of an entry of the configuration. -/
structure Round where
  entry : String
  /-- Whom the node asks. -/
  peer : String
  outcome : SyncOutcome
  calls : List Call
  /-- What is told in the course of the synchronisation. -/
  events : List Event

namespace Round

/-- The entry and what came of it, as the node gives it back. -/
def result (round : Round) : String × SyncOutcome :=
  (round.entry, round.outcome)

/-- What the node tells when the synchronisation is over. -/
def reports (round : Round) : List Event :=
  (Synchronizer.report round.entry round.outcome).toList

/-- All that is told in the round. -/
def told (round : Round) : List Event :=
  round.events ++ round.reports

/-- The round leads from one session to another. -/
structure Made (s : Synchronizer) (before after : Session) (round : Round) : Prop where
  run : s.synchronize (some round.entry) before = (after, some round.outcome)
  chosen : Synchronizer.choosePeer s.judge.identity (some round.entry) = some round.peer
  calls : after.calls = before.calls ++ round.calls
  visits : Call.Visits round.peer round.calls
  effects : after.effects = before.effects ++ round.events.map .tell
  trail : ∃ accepted course,
    round.events = Synchronizer.warnings s.judge.identity (some round.entry) ++ course ∧
      round.outcome.Trail (s.FailsWith round.peer) round.peer accepted course

/-- The names of the events that are told once in a round, or not at all. -/
def eventNames : List String :=
  ["SYNC_WARNING", "AUTO_SYNC_PEER_FAILED", "AUTO_SYNC_SUCCESS"]

end Round

/-- None of these events belongs to the course of a synchronisation. -/
theorem SyncOutcome.Trail.name_notMem {fault : SyncError → Prop} {peer : String}
    {accepted : List Block} {report : SyncOutcome} {course : List Event}
    (trail : report.Trail fault peer accepted course) :
    ∀ event ∈ course, event.name ∉ Round.eventNames := by
  intro event member
  cases trail with
  | upToDate => cases member
  | unreached _ _ _ told =>
    obtain rfl := List.mem_singleton.mp member
    rw [told.name]
    decide
  | completed =>
    simp only [List.cons_append, List.mem_cons, List.mem_append, List.mem_map,
      List.not_mem_nil, or_false] at member
    rcases member with rfl | ⟨_, _, rfl⟩ | rfl
    all_goals simp [Event.name, Round.eventNames]
  | unserved _ _ _ told =>
    simp only [List.cons_append, List.mem_cons, List.mem_append, List.mem_map,
      List.not_mem_nil, or_false] at member
    rcases member with rfl | ⟨_, _, rfl⟩ | rfl
    · simp [Event.name, Round.eventNames]
    · simp [Event.name, Round.eventNames]
    · rw [told.name]
      decide
  | @refused _ _ violation _ _ _ told =>
    simp only [List.cons_append, List.mem_cons, List.mem_append, List.mem_map,
      List.not_mem_nil, or_false] at member
    rcases member with rfl | ⟨_, _, rfl⟩ | rfl | rfl
    · simp [Event.name, Round.eventNames]
    · simp [Event.name, Round.eventNames]
    · cases violation
      all_goals simp [Event.name, ChainViolation.eventName, Round.eventNames]
    · rw [told.name]
      decide

def Event.named (name : String) (events : List Event) : List Event :=
  events.filter (·.name = name)

@[simp] theorem Event.named_append (name : String) (before after : List Event) :
    Event.named name (before ++ after) = Event.named name before ++ Event.named name after :=
  List.filter_append _ _

namespace Synchronizer

variable {s : Synchronizer} {before after session last : Session} {round : Round}
  {rounds : List Round}

/-- From one session to another the node makes the rounds, one after the other. -/
inductive Rounds (s : Synchronizer) : Session → List Round → Session → Prop where
  | nil (session : Session) : Rounds s session [] session
  | cons {session after last : Session} {round : Round} {rounds : List Round}
      (made : round.Made s session after)
      (rest : Rounds s (after.tellAll round.reports) rounds last) :
      Rounds s session (round :: rounds) last

namespace Rounds

theorem calls (made : s.Rounds session rounds last) :
    last.calls = session.calls ++ rounds.flatMap Round.calls := by
  induction made with
  | nil => exact (List.append_nil _).symm
  | @cons session after last round rounds made rest ih =>
    calc
      last.calls = after.calls ++ rounds.flatMap Round.calls := ih
      _ = session.calls ++ (round :: rounds).flatMap Round.calls := by
        rw [made.calls, List.append_assoc, List.flatMap_cons]

theorem effects (made : s.Rounds session rounds last) :
    last.effects = session.effects ++ (rounds.flatMap Round.told).map .tell := by
  induction made with
  | nil => exact (List.append_nil _).symm
  | @cons session after last round rounds made rest ih =>
    calc
      last.effects = (after.effects ++ round.reports.map .tell) ++
          (rounds.flatMap Round.told).map .tell := ih
      _ = session.effects ++ ((round :: rounds).flatMap Round.told).map .tell := by
        rw [made.effects, List.flatMap_cons, Round.told]
        simp only [List.map_append, List.append_assoc]

/-- What each round keeps, all rounds keep. -/
theorem keeps {P : Ledger → Prop} (made : s.Rounds session rounds last)
    (keep : ∀ {before after round}, Round.Made s before after round →
      P before.ledger → P after.ledger) (h : P session.ledger) : P last.ledger := by
  induction made with
  | nil => exact h
  | cons made rest ih =>
    have kept := keep made h
    exact ih kept

/-- Where one of the entries turns `P` into `Q`, and each round keeps both of them, all rounds come
to `Q`. -/
theorem turns {P Q : Ledger → Prop} (made : s.Rounds session rounds last) (entry : String)
    (keepP : ∀ {before after round}, Round.Made s before after round →
      P before.ledger → P after.ledger)
    (keepQ : ∀ {before after round}, Round.Made s before after round →
      Q before.ledger → Q after.ledger)
    (turn : ∀ {before after round}, Round.Made s before after round → round.entry = entry →
      P before.ledger → Q after.ledger)
    (member : entry ∈ rounds.map Round.entry) (h : P session.ledger) : Q last.ledger := by
  induction made with
  | nil => cases member
  | @cons session after last round rounds made rest ih =>
    by_cases isEntry : round.entry = entry
    · have turned := turn made isEntry h
      exact rest.keeps keepQ turned
    · rcases List.mem_cons.mp member with here | later
      · exact absurd here.symm isEntry
      · have kept := keepP made h
        exact ih later kept

theorem exists_made (made : s.Rounds session rounds last) (member : round ∈ rounds) :
    ∃ before after, round.Made s before after := by
  induction made with
  | nil => cases member
  | cons made rest ih =>
    rcases List.mem_cons.mp member with rfl | later
    · exact ⟨_, _, made⟩
    · exact ih later

end Rounds

/-- A wish for an entry of the configuration: what is left of it, or else the first entry. -/
theorem choosePeer_some (identity : NodeIdentity) (entry : String) :
    choosePeer identity (some entry) =
      if Text.isBlank entry then identity.peers.head? else some (Text.trim entry) := by
  split
  · next blank => exact choosePeer_of_blank (Text.trim_eq_empty_iff.mpr blank)
  · next notBlank => exact choosePeer_of_wish (mt Text.trim_eq_empty_iff.mp notBlank)

/-- A node with peers asks somebody, whatever the wish is. -/
theorem exists_choosePeer_of_ne_nil {identity : NodeIdentity} (configured : identity.peers ≠ [])
    (hint : Option String) : ∃ peer, choosePeer identity hint = some peer := by
  obtain ⟨first, others, isList⟩ := List.exists_cons_of_ne_nil configured
  simp only [choosePeer, isList]
  split
  · exact ⟨_, rfl⟩
  · exact ⟨first, rfl⟩

/-- Each entry of a list has its round. -/
theorem synchronizeAll_rounds (whole : s.cutoffMs = none)
    (configured : s.judge.identity.peers ≠ []) (entries : List String) (session : Session) :
    ∃ rounds last, s.synchronizeAll entries session = (last, some (rounds.map Round.result)) ∧
      rounds.map Round.entry = entries ∧ s.Rounds session rounds last := by
  induction entries generalizing session with
  | nil => exact ⟨[], session, rfl, rfl, .nil session⟩
  | cons entry rest ih =>
    obtain ⟨peer, chosen⟩ := exists_choosePeer_of_ne_nil configured (some entry)
    obtain ⟨after, outcome, accepted, course, run, visited⟩ :=
      synchronize_told whole chosen session
    obtain ⟨calls, asked, visits⟩ := visited.calls
    let round : Round :=
      ⟨entry, peer, outcome, calls, warnings s.judge.identity (some entry) ++ course⟩
    have made : round.Made s session after := by
      refine ⟨run, chosen, asked, visits, ?_, accepted, course, rfl, visited.trail⟩
      rw [List.map_append, ← List.append_assoc]
      exact visited.effects
    have reported : ((report entry outcome).map after.tell).getD after =
        after.tellAll round.reports := by
      show _ = after.tellAll (report entry outcome).toList
      cases report entry outcome with
      | none => simp [Session.tellAll]
      | some event => rfl
    obtain ⟨rounds, last, results, entries, others⟩ := ih (after.tellAll round.reports)
    refine ⟨round :: rounds, last, ?_, congrArg (entry :: ·) entries, .cons made others⟩
    simp only [synchronizeAll, run, reported, results]
    rfl

/-- A node that is no leader and has peers makes its rounds and ends. -/
theorem exists_rounds_autoSync (whole : s.cutoffMs = none)
    (follows : s.judge.identity.isLeader = false) (configured : s.judge.identity.peers ≠ [])
    (session : Session) :
    let identity := s.judge.identity
    ∃ rounds last,
      s.autoSync session =
          (last.tell (.autoSyncFinished identity.nodeId), some (rounds.map Round.result)) ∧
        rounds.map Round.entry = identity.peers ∧
        s.Rounds (session.tell (.autoSyncStarted identity.peers.length)) rounds last := by
  intro identity
  obtain ⟨rounds, last, results, entries, made⟩ := synchronizeAll_rounds whole configured
    identity.peers (session.tell (.autoSyncStarted identity.peers.length))
  refine ⟨rounds, last, ?_, entries, made⟩
  have notEmpty : ¬identity.peers.isEmpty = true := by
    rw [List.isEmpty_iff]
    exact configured
  simp only [autoSync]
  rw [if_neg (Bool.eq_false_iff.mp follows), if_neg notEmpty, results]

/-- All warnings have the same name. -/
theorem named_warnings (name : String) (identity : NodeIdentity) (hint : Option String) :
    Event.named name (warnings identity hint) =
      if name = "SYNC_WARNING" then warnings identity hint else [] := by
  have warning : ∀ event ∈ warnings identity hint, event.name = "SYNC_WARNING" := by
    intro event member
    unfold warnings at member
    split at member
    · cases member
    · split at member
      · cases member
      · obtain rfl := List.mem_singleton.mp member
        rfl
  split
  · next isWarning =>
    refine List.filter_eq_self.mpr ?_
    intro event member
    exact decide_eq_true ((warning event member).trans isWarning.symm)
  · next other =>
    refine List.filter_eq_nil_iff.mpr ?_
    intro event member isNamed
    exact other ((of_decide_eq_true isNamed).symm.trans (warning event member))

/-- What a round tells of a name that goes round by round is told before or after the course of the
synchronisation. -/
theorem named_told {name : String} (once : name ∈ Round.eventNames)
    (made : round.Made s before after) :
    Event.named name round.told =
      (if name = "SYNC_WARNING" then warnings s.judge.identity (some round.entry) else []) ++
        Event.named name round.reports := by
  obtain ⟨accepted, course, events, trail⟩ := made.trail
  have apart : Event.named name course = [] := by
    refine List.filter_eq_nil_iff.mpr ?_
    intro event member isNamed
    exact trail.name_notMem event member (of_decide_eq_true isNamed ▸ once)
  rw [Round.told, events, Event.named_append, Event.named_append, named_warnings, apart,
    List.append_nil]

/-- A round tells one warning at most, about a peer that nobody configured. -/
theorem named_warning (made : round.Made s before after) :
    Event.named "SYNC_WARNING" round.told = warnings s.judge.identity (some round.entry) := by
  have noReport : Event.named "SYNC_WARNING" round.reports = [] := by
    rw [Round.reports, report]
    split
    · rfl
    · split
      · rfl
      · rfl
  rw [named_told (by decide) made, noReport, List.append_nil]
  rfl

/-- A round tells of a failure if the synchronisation failed. -/
theorem named_failure (made : round.Made s before after) :
    Event.named "AUTO_SYNC_PEER_FAILED" round.told =
      if round.outcome.synced then []
      else [.autoSyncPeerFailed round.entry (round.outcome.reason.getD "")] := by
  rw [named_told (by decide) made, if_neg (by decide), List.nil_append, Round.reports, report]
  cases round.outcome.synced with
  | false => rfl
  | true =>
    simp only [Bool.not_true, Bool.false_eq_true, if_false, if_true]
    split
    · rfl
    · rfl

/-- A round tells of a success if blocks were applied, and that was all. -/
theorem named_success (made : round.Made s before after) :
    Event.named "AUTO_SYNC_SUCCESS" round.told =
      if round.outcome.synced ∧ 0 < round.outcome.applied then
        [.autoSyncSucceeded round.entry round.outcome.applied round.outcome.toHeight]
      else [] := by
  rw [named_told (by decide) made, if_neg (by decide), List.nil_append, Round.reports, report]
  cases round.outcome.synced with
  | false => rfl
  | true =>
    simp only [Bool.not_true, Bool.false_eq_true, if_false, true_and]
    split
    · rfl
    · rfl

/-- What holds of each round holds of what is told in all of them. -/
theorem Rounds.named (made : s.Rounds session rounds last) {name : String}
    {once : Round → List Event}
    (told : ∀ {before after round}, Round.Made s before after round →
      Event.named name round.told = once round) :
    Event.named name (rounds.flatMap Round.told) = rounds.flatMap once := by
  induction made with
  | nil => rfl
  | cons made rest ih =>
    rw [List.flatMap_cons, Event.named_append, told made, ih, List.flatMap_cons]

/-- A node that is no leader and has peers goes through its configuration in rounds, whatever its
ledger is and whatever its peers do, unless it is abandoned.

Each entry has one round and one result, in the order of the configuration, and the result is that
of a synchronisation from where the round before it ended. All requests of a round go to one peer,
the first of them for its head. This peer is the entry without the white space around it or, where
the entry is blank, the first entry. Between the events of the beginning and of the end each round
tells one failure exactly if the report says that the node is not in step, and one success exactly
if it says that the node is and that blocks were applied; both name the entry. It tells one warning
exactly if what is left of its entry is not empty and not an entry itself. So if no entry is blank
or has white space around it, each of them is asked as it stands, and there are no warnings. -/
theorem autoSync_rounds (whole : s.cutoffMs = none) (follows : s.judge.identity.isLeader = false)
    (configured : s.judge.identity.peers ≠ []) (session : Session) :
    let identity := s.judge.identity
    ∃ rounds last told,
      s.autoSync session =
          (last.tell (.autoSyncFinished identity.nodeId), some (rounds.map Round.result)) ∧
        rounds.map Round.entry = identity.peers ∧
        s.Rounds (session.tell (.autoSyncStarted identity.peers.length)) rounds last ∧
        last.calls = session.calls ++ rounds.flatMap Round.calls ∧
        (∀ round ∈ rounds, Call.Visits round.peer round.calls ∧
          some round.peer = if Text.isBlank round.entry then identity.peers.head?
            else some (Text.trim round.entry)) ∧
        last.effects =
          session.effects ++ (.autoSyncStarted identity.peers.length :: told).map .tell ∧
        Event.named "AUTO_SYNC_PEER_FAILED" told = (rounds.flatMap fun round =>
          if round.outcome.synced then []
          else [.autoSyncPeerFailed round.entry (round.outcome.reason.getD "")]) ∧
        Event.named "AUTO_SYNC_SUCCESS" told = (rounds.flatMap fun round =>
          if round.outcome.synced ∧ 0 < round.outcome.applied then
            [.autoSyncSucceeded round.entry round.outcome.applied round.outcome.toHeight]
          else []) ∧
        Event.named "SYNC_WARNING" told =
          (rounds.flatMap fun round => warnings identity (some round.entry)) ∧
        ((∀ entry ∈ identity.peers, Text.isBlank entry = false ∧ Text.trim entry = entry) →
          (∀ round ∈ rounds, round.peer = round.entry) ∧ Event.named "SYNC_WARNING" told = []) := by
  intro identity
  obtain ⟨rounds, last, result, entries, made⟩ :=
    exists_rounds_autoSync whole follows configured session
  have asked : ∀ round ∈ rounds, Call.Visits round.peer round.calls ∧
      some round.peer = if Text.isBlank round.entry then identity.peers.head?
        else some (Text.trim round.entry) := by
    intro round member
    obtain ⟨_, _, made⟩ := made.exists_made member
    exact ⟨made.visits, made.chosen.symm.trans (choosePeer_some identity round.entry)⟩
  have warned := made.named named_warning
  refine ⟨rounds, last, rounds.flatMap Round.told, result, entries, made, made.calls, asked, ?_,
    made.named named_failure, made.named named_success, warned, ?_⟩
  · rw [made.effects, List.map_cons, ← List.singleton_append, ← List.append_assoc]
    rfl
  · intro plain
    have own : ∀ round ∈ rounds, round.entry ∈ identity.peers ∧
        Text.isBlank round.entry = false ∧ Text.trim round.entry = round.entry := by
      intro round member
      have listed : round.entry ∈ identity.peers := entries ▸ List.mem_map_of_mem member
      exact ⟨listed, plain _ listed⟩
    constructor
    · intro round member
      obtain ⟨_, notBlank, trimmed⟩ := own round member
      have isPeer := (asked round member).2
      rw [notBlank, trimmed] at isPeer
      exact Option.some.inj isPeer
    · rw [warned, List.flatMap_eq_nil_iff]
      intro round member
      obtain ⟨listed, _, trimmed⟩ := own round member
      show (if _ then _ else _) = _
      rw [trimmed, if_pos (.inr listed)]

end Synchronizer

/-! A follower that nobody answers, so what becomes of its entries can be seen. -/

namespace Sample

/-- The follower with some entries, on a network on which nobody can be reached. -/
def forsaken (entries : List String) : Synchronizer :=
  ⟨⟨.standard, follower.withPeers entries⟩, .standard, Network.isolated.transport, none⟩

end Sample

/-- Plain entries are asked one after the other. -/
theorem Synchronizer.autoSync_rounds_of_plain :
    let s := Sample.forsaken ["node-9", "node-1"]
    s.cutoffMs = none ∧ s.judge.identity.isLeader = false ∧ s.judge.identity.peers ≠ [] ∧
      ∃ first second,
        (s.autoSync (.start (.fresh .standard))).1.calls = first ++ second ∧
          Call.Visits "node-9" first ∧ Call.Visits "node-1" second := by
  intro s
  have configured : s.judge.identity.peers ≠ [] := by decide
  refine ⟨rfl, rfl, configured, ?_⟩
  obtain ⟨rounds, last, told, result, entries, _, calls, asked, _, _, _, _, plain⟩ :=
    autoSync_rounds (s := s) rfl rfl configured (.start (.fresh .standard))
  obtain ⟨own, _⟩ := plain (by decide +kernel)
  obtain ⟨first, others, rfl, isFirst, rest⟩ := List.map_eq_cons_iff.mp entries
  obtain ⟨second, others, rfl, isSecond, rest⟩ := List.map_eq_cons_iff.mp rest
  obtain rfl := List.map_eq_nil_iff.mp rest
  refine ⟨first.calls, second.calls, ?_, ?_, ?_⟩
  · rw [result]
    show last.calls = _
    rw [calls, List.flatMap_cons, List.flatMap_singleton]
    rfl
  · rw [← isFirst, ← own first (by simp)]
    exact (asked first (by simp)).1
  · rw [← isSecond, ← own second (by simp)]
    exact (asked second (by simp)).1

/-- An entry with white space around it is not asked as it stands, and is warned of. In place of a
blank entry the first one is asked again. -/
theorem Synchronizer.exists_entry_not_asked :
    let s := Sample.forsaken ["node-9", " node-1", " "]
    let result := s.autoSync (.start (.fresh .standard))
    result.1.calls = [.head "node-9", .head "node-1", .head "node-9"] ∧
      .tell (.unlistedPeer "node-1") ∈ result.1.effects := by
  decide +kernel

end EvidenceLedger
