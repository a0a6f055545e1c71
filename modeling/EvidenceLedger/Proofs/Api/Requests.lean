import EvidenceLedger.Proofs.Api.Receive
import EvidenceLedger.Proofs.Ledger.Atomicity
import EvidenceLedger.Proofs.Sync.Acceptance

/-!
# What requests do to a node

Most requests change nothing. Four may: evidence is submitted, a block is committed or received,
and the node is synchronised, each under a path of its own and by a post. `Served` says all that one
request can do and what it is answered then, and `served_handle` that there is nothing else.

So a request that fails leaves the node as it was, wherever it fails, and whoever only reads leaves
it as it was whatever the answer is. And a node that does nothing but serve requests comes to no
other chains than operations lead to.
-/

namespace EvidenceLedger

namespace Ledger

variable {judge : Judge} {l : Ledger}

theorem submit_of_answer {draft : EvidenceDraft} {newId : String} {now : Timestamp}
    {record : EvidenceRecord} (answer : (l.submit draft newId now).answer = .ok record) :
    (l.submit draft newId now).ledger = { l with mempool := l.mempool ++ [record] } := by
  rw [submit_of_ok (toRecord_of_submit answer)]

theorem commit_of_answer {now : Timestamp} {block : Block}
    (answer : (l.commit judge now).answer = .ok block) :
    (l.commit judge now).ledger = l.append block [] := by
  obtain ⟨cause, refused⟩ | ⟨_, added, _, _, _, _, committed⟩ := commit_cases judge l now
  · rw [refused] at answer
    cases answer
  · rw [committed] at answer ⊢
    obtain rfl := Except.ok.inj answer
    rfl

theorem chain_of_accept {block : Block} (answer : (l.accept judge block).answer = .ok ()) :
    (l.accept judge block).ledger.chain = l.chain ++ [block] := by
  cases judged : judge.follows l.head block with
  | ok _ => rw [accept_of_ok judged, chain_append]
  | error reason =>
    rw [accept_of_error judged] at answer
    cases answer

end Ledger

namespace Api

namespace Route

theorem ofPath?_fixed : ∀ entry ∈ fixedPaths, ofPath? entry.1.toList = some entry.2 := by
  decide

theorem fixedPaths_unique : ∀ entry ∈ fixedPaths, ∀ other ∈ fixedPaths, entry.2 = other.2 →
    entry.1 = other.1 := by
  decide

theorem ne_lookup_of_fixed {segment : List Char} : ∀ entry ∈ fixedPaths,
    entry.2 ≠ .lookup segment := by
  simp [fixedPaths]

/-- A path that matches to the letter leads to one route, and no other path leads there. -/
theorem ofPath?_eq_some_iff {text : String} {route : Route} (fixed : (text, route) ∈ fixedPaths)
    {path : List Char} : ofPath? path = some route ↔ path = text.toList := by
  constructor
  · intro leads
    unfold ofPath? at leads
    split at leads
    · next written found matched =>
      obtain rfl := Option.some.inj leads
      have isPath := List.find?_some matched
      have same : written = text :=
        fixedPaths_unique _ (List.mem_of_find?_eq_some matched) _ fixed rfl
      rw [← eq_of_beq isPath, same]
    · dsimp only at leads
      split at leads
      · exact absurd (Option.some.inj leads).symm (ne_lookup_of_fixed _ fixed)
      · cases leads
  · rintro rfl
    exact ofPath?_fixed _ fixed

theorem eq_post_of_allows {route : Route} {method : String} (post : route.isPost = true)
    (allowed : route.allows method = true) : method = "POST" := by
  rw [allows, post, if_pos rfl] at allowed
  exact eq_of_beq allowed

end Route

theorem Failure.le_status (failure : Failure) : 400 ≤ failure.status := by
  cases failure with
  | blankFields names => exact Nat.le_refl _
  | malformed why => exact Nat.le_refl _
  | ledger reason =>
    rw [status]
    split
    all_goals exact Nat.le_of_ble_eq_true rfl

namespace Service

/-- All that a request can do to a ledger, with the reply that it gets. -/
inductive Served (s : Service) (r : Request) (before : Ledger) : Ledger → Reply → Prop where
  /-- Nothing happens, and nothing is said to be created or accepted. -/
  | unchanged {reply : Reply} (other : reply.status ≠ 201 ∧ reply.status ≠ 202) :
      Served s r before before reply
  | submitted {draft : EvidenceDraft} {record : EvidenceRecord} (post : r.method = "POST")
      (route : Route.ofPath? r.path = some .submit)
      (answer : (before.submit draft s.newId s.now).answer = .ok record) :
      Served s r before (before.submit draft s.newId s.now).ledger (.submitted record)
  | committed {block : Block} (post : r.method = "POST")
      (route : Route.ofPath? r.path = some .commit)
      (answer : (before.commit s.judge s.now).answer = .ok block) :
      Served s r before (before.commit s.judge s.now).ledger (.committed block)
  | received {block : Block} (post : r.method = "POST")
      (route : Route.ofPath? r.path = some .receive) (read : readBody Json.decode r = .ok block)
      (answer : (before.accept s.judge block).answer = .ok ()) :
      Served s r before (before.accept s.judge block).ledger (.received block.height)
  | synced {hint : Option String} {session : Session} {outcome : SyncOutcome}
      (post : r.method = "POST") (route : Route.ofPath? r.path = some .sync)
      (ledger : session.ledger = before) :
      Served s r before (s.synchronizer.synchronize hint session).1.ledger (.synced outcome)

variable {s : Service} {r : Request} {session : Session}

/-- Nothing happens where nothing is said to be created or accepted. -/
theorem served_of_status {reply : Reply} (status : Nat) (isStatus : reply.status = status)
    (other : status ≠ 201 ∧ status ≠ 202) : Served s r session.ledger session.ledger reply := by
  rw [← isStatus] at other
  exact .unchanged other

theorem served_failure (failure : Failure) :
    Served s r session.ledger session.ledger (s.failure failure) := by
  have least := failure.le_status
  exact served_of_status failure.status rfl (by omega)

/-- A request that cannot be read does nothing. -/
theorem served_reading {α : Type} {read : Except Failure α} {go : α → Session × Reply}
    (goes : ∀ a, read = .ok a → Served s r session.ledger (go a).1.ledger (go a).2) :
    Served s r session.ledger (s.reading session read go).1.ledger
      (s.reading session read go).2 := by
  cases read with
  | ok a => exact goes a rfl
  | error failure => exact served_failure failure

/-- An operation that is refused does nothing. -/
theorem served_conclude {α : Type} {outcome : Outcome α} {reply : α → Reply}
    (refused : ∀ reason, outcome.answer = .error reason → outcome.ledger = session.ledger)
    (works : ∀ a, outcome.answer = .ok a →
      Served s r session.ledger outcome.ledger (reply a)) :
    Served s r session.ledger (s.conclude session outcome reply).1.ledger
      (s.conclude session outcome reply).2 := by
  simp only [conclude]
  cases answered : outcome.answer with
  | ok a => exact works a answered
  | error reason =>
    rw [refused reason answered]
    exact served_failure (.ledger reason)

/-- All that a request does under a route with a method that it allows. -/
theorem served_serve {route : Route} (found : Route.ofPath? r.path = some route)
    (allowed : route.allows r.method = true) :
    Served s r session.ledger (s.serve route r session).1.ledger (s.serve route r session).2 := by
  have plain {reply : Reply} (fine : reply.status = 200) :
      Served s r session.ledger session.ledger reply :=
    served_of_status 200 fine (by decide)
  cases route with
  | chain => exact plain rfl
  | latest => exact plain rfl
  | mempool => exact plain rfl
  | validate => exact plain rfl
  | health => exact plain rfl
  | blocks => exact served_reading fun range _ => plain rfl
  | lookup segment =>
    simp only [serve]
    split
    · exact plain rfl
    · exact served_of_status 400 rfl (by decide)
  | verify =>
    refine served_reading fun hash _ => ?_
    split
    · exact served_failure _
    · exact plain rfl
  | submit =>
    refine served_reading fun draft _ => served_conclude ?_ ?_
    · intro reason failed
      rw [(Ledger.submit_eq_refuse failed).1, Ledger.refuse_ledger]
    · intro record answer
      exact .submitted (Route.eq_post_of_allows rfl allowed) found answer
  | commit =>
    refine served_conclude ?_ ?_
    · intro reason failed
      rw [Ledger.commit_eq_refuse failed, Ledger.refuse_ledger]
    · intro block answer
      exact .committed (Route.eq_post_of_allows rfl allowed) found answer
  | receive =>
    refine served_reading fun block read => served_conclude ?_ ?_
    · intro reason failed
      exact Ledger.accept_ledger_of_error failed
    · intro _ answer
      exact .received (Route.eq_post_of_allows rfl allowed) found read answer
  | sync =>
    refine served_reading fun hint _ => ?_
    exact .synced (Route.eq_post_of_allows rfl allowed) found rfl

/-- Every request does what `Served` says, whatever its method, its path, its query and its body
are. -/
theorem served_handle (s : Service) (r : Request) (session : Session) :
    Served s r session.ledger (s.handle r session).1.ledger (s.handle r session).2 := by
  rw [handle]
  split
  · exact served_of_status 200 rfl (by decide)
  · split
    · exact served_of_status 404 rfl (by decide)
    · next route found =>
      split
      · next allowed => exact served_serve found allowed
      · exact served_of_status 405 rfl (by decide)

namespace Served

variable {before after : Ledger} {reply : Reply}

/-- Nothing that a request does leads to a ledger that operations do not lead to. -/
theorem reachable (served : Served s r before after reply)
    (h : Ledger.Reachable s.judge before) : Ledger.Reachable s.judge after := by
  cases served with
  | unchanged _ => exact h
  | submitted _ _ _ => exact h.perform (.submit _ _ _)
  | committed _ _ _ => exact h.perform (.commit _)
  | received _ _ _ _ => exact h.perform (.accept _)
  | synced _ _ ledger =>
    refine Synchronizer.synchronize_preserves (fun l block _ known => ?_) _ (ledger ▸ h)
    exact known.perform (.accept block)

theorem unchanged_of_failure (served : Served s r before after reply)
    (failed : 400 ≤ reply.status) : after = before := by
  cases served with
  | unchanged _ => rfl
  | submitted _ _ _ => exact absurd failed (Nat.not_le_of_lt (by decide : 201 < 400))
  | committed _ _ _ => exact absurd failed (Nat.not_le_of_lt (by decide : 201 < 400))
  | received _ _ _ _ => exact absurd failed (Nat.not_le_of_lt (by decide : 202 < 400))
  | synced _ _ _ => exact absurd failed (Nat.not_le_of_lt (by decide : 200 < 400))

/-- Whoever changes something posts to one of four routes, and three of them say so. -/
theorem changed (served : Served s r before after reply) (differs : after ≠ before) :
    r.method = "POST" ∧
      (Route.ofPath? r.path = some .submit ∧ reply.status = 201 ∨
        Route.ofPath? r.path = some .commit ∧ reply.status = 201 ∨
        Route.ofPath? r.path = some .receive ∧ reply.status = 202 ∨
        Route.ofPath? r.path = some .sync) := by
  cases served with
  | unchanged _ => exact absurd rfl differs
  | submitted post route _ => exact ⟨post, .inl ⟨route, rfl⟩⟩
  | committed post route _ => exact ⟨post, .inr (.inl ⟨route, rfl⟩)⟩
  | received post route _ _ => exact ⟨post, .inr (.inr (.inl ⟨route, rfl⟩))⟩
  | synced post route _ => exact ⟨post, .inr (.inr (.inr route))⟩

/-- Who does not post or asks for a report changes nothing. -/
theorem unchanged_of_reading (served : Served s r before after reply)
    (reads : r.method ≠ "POST" ∨ Route.ofPath? r.path = some .verify) : after = before := by
  by_contra differs
  obtain ⟨post, routes⟩ := served.changed differs
  obtain other | verify := reads
  · exact other post
  · rw [verify] at routes
    obtain ⟨elsewhere, _⟩ | ⟨elsewhere, _⟩ | ⟨elsewhere, _⟩ | elsewhere := routes
    all_goals cases elsewhere

theorem submitted_of_created (served : Served s r before after reply)
    (route : Route.ofPath? r.path = some .submit) (created : reply.status = 201) :
    ∃ record, reply = .submitted record ∧
      after = { before with mempool := before.mempool ++ [record] } := by
  cases served with
  | unchanged other => exact absurd created other.1
  | submitted _ _ answer => exact ⟨_, rfl, Ledger.submit_of_answer answer⟩
  | committed _ elsewhere _ => cases route.symm.trans elsewhere
  | received _ elsewhere _ _ => cases route.symm.trans elsewhere
  | synced _ elsewhere _ => cases route.symm.trans elsewhere

theorem committed_of_created (served : Served s r before after reply)
    (route : Route.ofPath? r.path = some .commit) (created : reply.status = 201) :
    ∃ block, reply = .committed block ∧ after = before.append block [] := by
  cases served with
  | unchanged other => exact absurd created other.1
  | submitted _ elsewhere _ => cases route.symm.trans elsewhere
  | committed _ _ answer => exact ⟨_, rfl, Ledger.commit_of_answer answer⟩
  | received _ elsewhere _ _ => cases route.symm.trans elsewhere
  | synced _ elsewhere _ => cases route.symm.trans elsewhere

theorem received_of_accepted (served : Served s r before after reply)
    (route : Route.ofPath? r.path = some .receive) (accepted : reply.status = 202) :
    ∃ block, readBody Json.decode r = .ok block ∧ reply = .received block.height ∧
      after.chain = before.chain ++ [block] := by
  cases served with
  | unchanged other => exact absurd accepted other.2
  | submitted _ elsewhere _ => cases route.symm.trans elsewhere
  | committed _ elsewhere _ => cases route.symm.trans elsewhere
  | received _ _ read answer => exact ⟨_, read, rfl, Ledger.chain_of_accept answer⟩
  | synced _ elsewhere _ => cases route.symm.trans elsewhere

end Served

/-- A node serves requests one after the other. The time, the identifiers and the peers may be
others for each of them. -/
def serveAll (session : Session) (requests : List (Service × Request)) : Session :=
  requests.foldl (fun session request => (request.1.handle request.2 session).1) session

/-- A node that serves requests has a ledger that operations lead to. -/
theorem reachable_serveAll {judge : Judge} {requests : List (Service × Request)}
    (own : ∀ request ∈ requests, request.1.judge = judge)
    (h : Ledger.Reachable judge session.ledger) :
    Ledger.Reachable judge (serveAll session requests).ledger := by
  induction requests generalizing session with
  | nil => exact h
  | cons request requests ih =>
    obtain rfl := own request List.mem_cons_self
    exact ih (fun other member => own other (List.mem_cons_of_mem request member))
      ((served_handle request.1 request.2 session).reachable h)

/-- What requests do to a node that has come to its state by whatever operations. A request that is
answered with a failure changes nothing, and neither does one that is not a post or that asks for a
report, whatever the answer is. Evidence that is created is the one record that waits in addition.
A block that is created or accepted is the one block that stands in the chain in addition, at its
height; one that is accepted is that of the body. Nothing else changes the node but to synchronise
it, and whatever the request is, the node is left in a state that operations lead to.

Heights can be counted on as long as there are no more blocks than words of 64 bits. -/
theorem request_of_reachable (s : Service) (r : Request) (session : Session)
    (reachable : Ledger.Reachable s.judge session.ledger) :
    let before := session.ledger
    let after := (s.handle r session).1.ledger
    let reply := (s.handle r session).2
    (400 ≤ reply.status → after = before) ∧
    (r.method ≠ "POST" ∨ r.path = "/api/verify".toList → after = before) ∧
    (r.path = "/api/evidences".toList → reply.status = 201 →
      ∃ record, reply = .submitted record ∧ after.chain = before.chain ∧
        after.mempool = before.mempool ++ [record]) ∧
    (r.path = "/api/blocks/commit".toList → reply.status = 201 →
      ∃ block, reply = .committed block ∧ after.chain = before.chain ++ [block] ∧
        (after.chain.length ≤ UInt64.size → after.chain[block.height.toNat]? = some block)) ∧
    (r.path = "/api/blocks/receive".toList → reply.status = 202 →
      ∃ block, readBody Json.decode r = .ok block ∧ reply = .received block.height ∧
        after.chain = before.chain ++ [block] ∧
        (after.chain.length ≤ UInt64.size → after.chain[block.height.toNat]? = some block)) ∧
    (after ≠ before → r.method = "POST" ∧
      (r.path = "/api/evidences".toList ∧ reply.status = 201 ∨
        r.path = "/api/blocks/commit".toList ∧ reply.status = 201 ∨
        r.path = "/api/blocks/receive".toList ∧ reply.status = 202 ∨
        r.path = "/api/sync".toList)) ∧
    Ledger.Reachable s.judge after := by
  intro before after reply
  have served : Served s r before after reply := served_handle s r session
  have known : Ledger.Reachable s.judge after := served.reachable reachable
  -- The block that is added stands where its height says.
  have stands {block : Block} (added : after.chain = before.chain ++ [block])
      (room : after.chain.length ≤ UInt64.size) :
      after.chain[block.height.toNat]? = some block := by
    have numbered := Ledger.numbered_of_reachable known room
    have last : after.chain[before.chain.length]? = some block := by
      rw [added]
      exact List.getElem?_concat_length
    rw [numbered _ _ last]
    exact last
  have submit := @Route.ofPath?_eq_some_iff "/api/evidences" .submit (by decide) r.path
  have commit := @Route.ofPath?_eq_some_iff "/api/blocks/commit" .commit (by decide) r.path
  have receive := @Route.ofPath?_eq_some_iff "/api/blocks/receive" .receive (by decide) r.path
  have sync := @Route.ofPath?_eq_some_iff "/api/sync" .sync (by decide) r.path
  have verify := @Route.ofPath?_eq_some_iff "/api/verify" .verify (by decide) r.path
  rw [← submit, ← commit, ← receive, ← sync, ← verify]
  refine ⟨served.unchanged_of_failure, served.unchanged_of_reading, ?_, ?_, ?_, served.changed,
    known⟩
  · intro route created
    obtain ⟨record, isReply, same⟩ := served.submitted_of_created route created
    have sameChain : after.chain = before.chain := by rw [same]; rfl
    exact ⟨record, isReply, sameChain, congrArg Ledger.mempool same⟩
  · intro route created
    obtain ⟨block, isReply, same⟩ := served.committed_of_created route created
    have added : after.chain = before.chain ++ [block] := congrArg Ledger.chain same
    exact ⟨block, isReply, added, stands added⟩
  · intro route accepted
    obtain ⟨block, read, isReply, added⟩ := served.received_of_accepted route accepted
    exact ⟨block, read, isReply, added, stands added⟩

end Service

end Api

/-! The leader as a service, which is asked to commit. -/

namespace Sample

def leaderService : Api.Service :=
  ⟨⟨judge, .standard, Network.isolated.transport, none⟩, .genesis, "ev-2"⟩

def commitRequest : Api.Request := ⟨"POST", "/api/blocks/commit", none, []⟩

theorem path_commitRequest : commitRequest.path = "/api/blocks/commit".toList := by
  decide

theorem handle_commitRequest :
    leaderService.handle commitRequest (.start waiting) =
      ({ Session.start (waiting.append sealedBlock []) with
          effects := [.tell (.blockCommitted sealedBlock), .push sealedBlock []] },
        .committed sealedBlock) := by
  have found : Api.Route.ofPath? commitRequest.path = some .commit := by decide
  rw [Api.Service.handle_of_allows found rfl]
  show leaderService.conclude (.start waiting) (waiting.commit judge .genesis) .committed = _
  rw [commit_waiting]
  rfl

end Sample

/-- The leader is asked to commit, and answers with the block that stands at its height then. -/
theorem Api.Service.request_of_commit :
    let session := Session.start Sample.waiting
    let after := (Sample.leaderService.handle Sample.commitRequest session).1.ledger
    let reply := (Sample.leaderService.handle Sample.commitRequest session).2
    Ledger.Reachable Sample.leaderService.judge session.ledger ∧ reply.status = 201 ∧
      ∃ block, reply = .committed block ∧ after.chain = Sample.waiting.chain ++ [block] ∧
        after.chain[block.height.toNat]? = some block := by
  intro session after reply
  have reachable : Ledger.Reachable Sample.leaderService.judge session.ledger :=
    Sample.reachable_waiting
  have isAfter : after = Sample.waiting.append Sample.sealedBlock [] :=
    congrArg (fun answered => answered.1.ledger) Sample.handle_commitRequest
  have created : reply.status = 201 :=
    congrArg (fun answered => answered.2.status) Sample.handle_commitRequest
  have room : after.chain.length ≤ UInt64.size := by
    rw [isAfter]
    exact Nat.le_of_ble_eq_true rfl
  obtain ⟨_, _, _, commits, _⟩ :=
    request_of_reachable Sample.leaderService Sample.commitRequest session reachable
  obtain ⟨block, isReply, added, stands⟩ := commits Sample.path_commitRequest created
  exact ⟨reachable, created, block, isReply, added, stands room⟩

end EvidenceLedger
