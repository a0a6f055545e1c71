import EvidenceLedger.Proofs.Ledger.Atomicity
import EvidenceLedger.Proofs.Ledger.Integrity
import EvidenceLedger.Proofs.Sync.Steps

/-!
# Catching up comes to an end

A peer may say that it is as high as it likes, and serve what it likes: nothing, too much, forged
blocks, the same ones again, or blocks beyond its own height. And while the node is on its way,
anything may happen to its ledger between two steps. Catching up ends all the same.

What carries this is a fact about the ledger, not about the peer. The node never goes by a height
that its chain has not reached, and a block is accepted only right above the head. So each block
that is accepted brings the node higher, and as it asks for a batch only below the height that the
peer has reported, and accepts a block of the batch or ends, it cannot ask more often than this
height is above the one that it began at.

A step that is not the last one is a look at the own head, a look at that of the peer, a request, or
a block. There is one of the first two each, and requests and blocks are bounded.
-/

namespace EvidenceLedger

/-- The call asks for a batch. -/
def Call.isBlocks : Call → Bool
  | .head _ => false
  | .blocks _ _ _ => true

inductive Turn where
  /-- The node takes a step, and peers answer in this way. -/
  | own (transport : Transport)
  /-- Somebody else asks for an operation of the ledger. -/
  | other (op : Operation)

namespace Turn

/-- Is this a step of the node on its way? -/
def isOwn : Turn → Bool
  | own _ => true
  | other _ => false

end Turn

namespace Synchronizer

def turn (s : Synchronizer) (peer : String) (p : Pursuit) : Turn → Pursuit
  | .own transport => Synchronizer.step { s with transport } peer p
  | .other op => p.record (p.ledger.respond s.judge op)

/-- Where a node is on its way after a row of turns. -/
def course (s : Synchronizer) (peer : String) (l : Ledger) (turns : List Turn) : Pursuit :=
  turns.foldl (s.turn peer) ⟨.start l, .starting⟩

end Synchronizer

namespace Pursuit

/-- How many batches were asked for. -/
def requests (p : Pursuit) : Nat := p.session.calls.countP Call.isBlocks

/-- All that a step can come to. -/
inductive Strides (judge : Judge) (p q : Pursuit) : Prop where
  | looked (phase : p.phase = .starting) (next : q.phase = .asking p.ledger.head.height)
      (ledger : q.ledger = p.ledger) (requests : q.requests = p.requests)
  | met {height remote : UInt64} (phase : p.phase = .asking height) (behind : height < remote)
      (next : q.phase = .fetching remote (.begin height) []) (ledger : q.ledger = p.ledger)
      (requests : q.requests = p.requests)
  | asked {remote : UInt64} {progress : Progress} {block : Block} {rest : List Block}
      (phase : p.phase = .fetching remote progress []) (behind : progress.current < remote)
      (next : q.phase = .fetching remote progress (block :: rest)) (ledger : q.ledger = p.ledger)
      (requests : q.requests = p.requests + 1)
  | accepted {remote : UInt64} {progress : Progress} {block : Block} {rest : List Block}
      (phase : p.phase = .fetching remote progress (block :: rest))
      (judged : judge.follows p.ledger.head block = .ok ())
      (next : q.phase = .fetching remote (progress.advance block) rest)
      (ledger : q.ledger = p.ledger.perform judge (.accept block))
      (requests : q.requests = p.requests)
  | stopped {outcome : Option SyncOutcome} (next : q.phase = .ended outcome)
      (ledger : q.ledger = p.ledger)
      (requests : q.requests = p.requests ∨ ∃ remote progress,
        p.phase = .fetching remote progress [] ∧ progress.current < remote ∧
          q.requests = p.requests + 1)

end Pursuit

namespace Synchronizer

/-- Asking for the head is not asking for a batch. -/
theorem askHead_notes (s : Synchronizer) (peer : String) (session : Session) :
    (s.askHead peer session).1.ledger = session.ledger ∧
      (s.askHead peer session).1.calls.countP Call.isBlocks =
        session.calls.countP Call.isBlocks := by
  constructor
  · exact (await_spec s peer _ _ session).1
  · rw [askHead, calls_await, List.countP_append]
    rfl

theorem askBlocks_notes (s : Synchronizer) (peer : String) (current : UInt64) (session : Session) :
    (s.askBlocks peer current session).1.ledger = session.ledger ∧
      (s.askBlocks peer current session).1.calls.countP Call.isBlocks =
        session.calls.countP Call.isBlocks + 1 := by
  constructor
  · exact (await_spec s peer _ _ session).1
  · rw [askBlocks, calls_await, List.countP_append]
    rfl

theorem step_strides (s : Synchronizer) (peer : String) (p : Pursuit) :
    p.Strides s.judge (s.step peer p) := by
  obtain ⟨session, phase⟩ := p
  cases phase with
  | starting => exact .looked rfl rfl rfl rfl
  | asking height =>
    obtain ⟨ledger, requests⟩ := askHead_notes s peer session
    rcases asked : s.askHead peer session with ⟨after, _ | reason | head⟩ <;>
      rw [asked] at ledger requests <;>
      simp only [step, asked]
    · exact .stopped rfl ledger (.inl requests)
    · exact .stopped rfl ledger (.inl requests)
    · split
      · exact .stopped rfl ledger (.inl requests)
      · next higher => exact .met rfl (UInt64.not_le.mp higher) rfl ledger requests
  | fetching remote progress blocks =>
    cases blocks with
    | nil =>
      by_cases behind : progress.current < remote
      · obtain ⟨ledger, requests⟩ := askBlocks_notes s peer progress.current session
        rcases asked : s.askBlocks peer progress.current session with
          ⟨after, _ | reason | _ | ⟨block, rest⟩⟩ <;>
          rw [asked] at ledger requests <;>
          simp only [step, if_pos behind, asked]
        · exact .stopped rfl ledger (.inr ⟨remote, progress, rfl, behind, requests⟩)
        · exact .stopped rfl ledger (.inr ⟨remote, progress, rfl, behind, requests⟩)
        · exact .stopped rfl ledger (.inr ⟨remote, progress, rfl, behind, requests⟩)
        · exact .asked rfl behind rfl ledger requests
      · simp only [step, if_neg behind]
        exact .stopped rfl rfl (.inl rfl)
    | cons block rest =>
      cases judged : s.judge.follows session.ledger.head block with
      | error reason =>
        simp only [step, Pursuit.ledger, Pursuit.record, Ledger.accept_of_error judged]
        exact .stopped rfl rfl (.inl rfl)
      | ok _ =>
        have accepted := Ledger.accept_of_ok judged
        simp only [step, Pursuit.ledger, Pursuit.record, accepted]
        exact .accepted rfl judged rfl (congrArg Outcome.ledger accepted).symm rfl
  | ended outcome => exact .stopped rfl rfl (.inl rfl)

end Synchronizer

/-- An accepted block stands above all blocks of the chain. -/
theorem Ledger.toNat_height_of_follows {judge : Judge} {l : Ledger} {block : Block}
    (numbered : Numbered l.chain) (room : l.chain.length < UInt64.size)
    (judged : judge.follows l.head block = .ok ()) : block.height.toNat = l.chain.length := by
  have counts := toNat_height_head numbered
  obtain ⟨height, _⟩ := Judge.follows_eq_ok_iff.mp judged
  rw [height, toNat_successorHeight]
  omega

/-- What a node goes by while it fetches fits a chain of so many blocks. -/
structure Progress.Within (progress : Progress) (length : Nat) : Prop where
  start : progress.start.toNat ≤ progress.current.toNat
  current : progress.current.toNat < length
  applied : progress.applied.toNat ≤ progress.current.toNat - progress.start.toNat

namespace Progress.Within

variable {progress : Progress} {length : Nat} {block : Block}

theorem grow {longer : Nat} (within : progress.Within length) (grown : length ≤ longer) :
    progress.Within longer :=
  ⟨within.start, Nat.lt_of_lt_of_le within.current grown, within.applied⟩

/-- Nothing is applied that is not counted. -/
theorem toNat_applied_add_one (within : progress.Within length) (room : length < UInt64.size) :
    (progress.applied + 1).toNat = progress.applied.toNat + 1 := by
  have current := within.current
  have applied := within.applied
  exact toNat_add_one (by omega)

theorem advance (within : progress.Within length) (room : length < UInt64.size)
    (height : block.height.toNat = length) : (progress.advance block).Within (length + 1) := by
  have start := within.start
  have current := within.current
  have applied := within.applied
  refine ⟨?_, ?_, ?_⟩
  · show progress.start.toNat ≤ block.height.toNat
    omega
  · show block.height.toNat < length + 1
    omega
  · show (progress.applied + 1).toNat ≤ block.height.toNat - progress.start.toNat
    rw [within.toNat_applied_add_one room]
    omega

end Progress.Within

namespace Phase

/-- The phase fits a chain of so many blocks, and so many requests. While blocks of a batch are
left, the request for them is not yet paid for by a block. -/
def Within (length requests : Nat) : Phase → Prop
  | .starting => requests = 0
  | .asking height => requests = 0 ∧ height.toNat < length
  | .fetching remote progress blocks => progress.Within length ∧
      requests ≤ progress.current.toNat - progress.start.toNat + min blocks.length 1 ∧
      requests ≤ remote.toNat - progress.start.toNat
  | .ended _ => True

/-- In the loop that began at a height, for a peer that reported another one, or after it. -/
def Bounded (remote height : UInt64) (requests : Nat) : Phase → Prop
  | .starting => False
  | .asking _ => False
  | .fetching target progress _ => target = remote ∧ progress.start = height
  | .ended _ => requests ≤ remote.toNat - height.toNat

def isFetching : Phase → Bool
  | .fetching _ _ _ => true
  | _ => false

/-- So many times a head was looked at. -/
def looks : Phase → Nat
  | .starting => 0
  | .asking _ => 1
  | .fetching _ _ _ => 2
  | .ended _ => 2

theorem looks_le (phase : Phase) : phase.looks ≤ 2 := by
  cases phase <;> simp [looks]

/-- No more batches are asked for than there are heights. -/
theorem Within.requests_lt {phase : Phase} {length requests : Nat}
    (within : phase.Within length requests) (going : ∀ outcome, phase ≠ .ended outcome) :
    requests < UInt64.size := by
  cases phase with
  | starting =>
    have none : requests = 0 := within
    rw [none]
    decide
  | asking height =>
    rw [within.1]
    decide
  | fetching remote progress blocks =>
    have bound : remote.toNat < UInt64.size := remote.toNat_lt
    have requested := within.2.2
    omega
  | ended outcome => exact absurd rfl (going outcome)

/-- The bound holds in the loop too. -/
theorem Bounded.requests_le {phase : Phase} {remote height : UInt64} {length requests : Nat}
    (bounded : phase.Bounded remote height requests) (within : phase.Within length requests) :
    requests ≤ remote.toNat - height.toNat := by
  cases phase with
  | starting => exact bounded.elim
  | asking _ => exact bounded.elim
  | fetching target progress blocks =>
    obtain ⟨rfl, rfl⟩ := bounded
    exact within.2.2
  | ended outcome => exact bounded

theorem Within.grow {phase : Phase} {length longer requests : Nat}
    (within : phase.Within length requests) (grown : length ≤ longer) :
    phase.Within longer requests := by
  cases phase with
  | starting => exact within
  | asking height => exact ⟨within.1, Nat.lt_of_lt_of_le within.2 grown⟩
  | fetching remote progress blocks => exact ⟨within.1.grow grown, within.2⟩
  | ended outcome => trivial

end Phase

namespace Pursuit

variable {judge : Judge} {p q : Pursuit} {remote height : UInt64}

/-- A step leaves the ledger as it is, or accepts one block. -/
theorem Strides.ledger (strides : p.Strides judge q) :
    q.ledger = p.ledger ∨ ∃ block, judge.follows p.ledger.head block = .ok () ∧
      q.ledger = p.ledger.perform judge (.accept block) := by
  cases strides with
  | looked _ _ ledger _ => exact .inl ledger
  | met _ _ _ ledger _ => exact .inl ledger
  | asked _ _ _ ledger _ => exact .inl ledger
  | accepted _ judged _ ledger _ => exact .inr ⟨_, judged, ledger⟩
  | stopped _ ledger _ => exact .inl ledger

theorem Strides.within (strides : p.Strides judge q) (numbered : Numbered p.ledger.chain)
    (room : p.ledger.chain.length < UInt64.size)
    (within : p.phase.Within p.ledger.chain.length p.requests) :
    q.phase.Within q.ledger.chain.length q.requests := by
  cases strides with
  | looked phase next ledger requests =>
    rw [phase] at within
    rw [next, ledger, requests]
    have counts := Ledger.toNat_height_head numbered
    exact ⟨within, by omega⟩
  | met phase behind next ledger requests =>
    rw [phase] at within
    obtain ⟨none, reached⟩ := within
    rw [next, ledger, requests, none]
    exact ⟨⟨Nat.le_refl _, reached, Nat.zero_le _⟩, Nat.zero_le _, Nat.zero_le _⟩
  | @asked remote progress block rest phase behind next ledger requests =>
    rw [phase] at within
    obtain ⟨reached, paid, _⟩ := within
    rw [next, ledger, requests]
    have start := reached.start
    have behind := UInt64.lt_iff_toNat_lt.mp behind
    simp only [List.length_nil, Nat.zero_min, Nat.add_zero] at paid
    refine ⟨reached, ?_, ?_⟩
    · simp only [List.length_cons]
      omega
    · omega
  | @accepted remote progress block rest phase judged next ledger requests =>
    rw [phase] at within
    obtain ⟨reached, paid, bounded⟩ := within
    have height := Ledger.toNat_height_of_follows numbered room judged
    have grown : q.ledger.chain.length = p.ledger.chain.length + 1 := by
      rw [ledger, Ledger.perform_accept, Ledger.accept_of_ok judged, Ledger.chain_append,
        List.length_append]
      rfl
    have start := reached.start
    have current := reached.current
    rw [next, grown, requests]
    refine ⟨reached.advance room height, ?_, bounded⟩
    -- The block that is accepted pays for the request.
    show p.requests ≤ block.height.toNat - progress.start.toNat + min rest.length 1
    simp only [List.length_cons] at paid
    omega
  | stopped next _ _ =>
    rw [next]
    trivial

/-- The loop never leaves its bounds. -/
theorem Strides.bounded (strides : p.Strides judge q)
    (within : p.phase.Within p.ledger.chain.length p.requests)
    (bounded : p.phase.Bounded remote height p.requests) :
    q.phase.Bounded remote height q.requests := by
  cases strides with
  | looked phase =>
    rw [phase] at bounded
    exact bounded.elim
  | met phase =>
    rw [phase] at bounded
    exact bounded.elim
  | asked phase _ next =>
    rw [phase] at bounded
    rw [next]
    exact bounded
  | accepted phase _ next =>
    rw [phase] at bounded
    rw [next]
    exact bounded
  | stopped next _ requests =>
    rw [next]
    show q.requests ≤ remote.toNat - height.toNat
    rcases requests with same | ⟨target, progress, phase, behind, more⟩
    · exact same ▸ bounded.requests_le within
    · rw [phase] at bounded within
      obtain ⟨rfl, rfl⟩ := bounded
      obtain ⟨reached, paid, _⟩ := within
      have start := reached.start
      have behind := UInt64.lt_iff_toNat_lt.mp behind
      simp only [List.length_nil, Nat.zero_min, Nat.add_zero] at paid
      omega

/-- Batches are asked for in the loop alone, and the loop has a beginning. -/
theorem Strides.isFetching (strides : p.Strides judge q)
    (active : q.phase.isFetching = true ∨ p.requests < q.requests) :
    p.phase.isFetching = true ∨ ∃ remote height, q.phase = .fetching remote (.begin height) [] := by
  cases strides with
  | looked _ next _ requests => simp [next, requests, Phase.isFetching] at active
  | met _ _ next => exact .inr ⟨_, _, next⟩
  | asked phase => exact .inl (by rw [phase]; rfl)
  | accepted phase => exact .inl (by rw [phase]; rfl)
  | stopped next _ requests =>
    rcases requests with same | ⟨remote, progress, phase, _⟩
    · simp [next, same, Phase.isFetching] at active
    · exact .inl (by rw [phase]; rfl)

/-- What there is to show for the steps of the node: looks at heads, requests, and blocks. -/
def spent (p : Pursuit) : Nat := p.phase.looks + p.requests + p.ledger.chain.length

theorem Strides.spent (strides : p.Strides judge q) :
    (∃ outcome, q.phase = .ended outcome) ∨
      q.spent = p.spent + 1 ∧ ∀ outcome, p.phase ≠ .ended outcome := by
  cases strides with
  | looked phase next ledger requests =>
    refine .inr ⟨?_, by simp [phase]⟩
    simp only [Pursuit.spent, phase, next, ledger, requests, Phase.looks]
    omega
  | met phase _ next ledger requests =>
    refine .inr ⟨?_, by simp [phase]⟩
    simp only [Pursuit.spent, phase, next, ledger, requests, Phase.looks]
    omega
  | asked phase _ next ledger requests =>
    refine .inr ⟨?_, by simp [phase]⟩
    simp only [Pursuit.spent, phase, next, ledger, requests, Phase.looks]
    omega
  | accepted phase judged next ledger requests =>
    refine .inr ⟨?_, by simp [phase]⟩
    simp only [Pursuit.spent, phase, next, ledger, requests, Phase.looks, Ledger.perform_accept,
      Ledger.accept_of_ok judged, Ledger.chain_append, List.length_append, List.length_singleton]
    omega
  | stopped next _ _ => exact .inl ⟨_, next⟩

/-- The node came to its ledger in the usual way, its phase fits, and there is something to show for
each of its own steps but the last, on top of the blocks that it began with. -/
structure Sound (judge : Judge) (base own : Nat) (p : Pursuit) : Prop where
  reachable : Ledger.Reachable judge p.ledger
  phase : p.phase.Within p.ledger.chain.length p.requests
  paid : (∃ outcome, p.phase = .ended outcome) ∨ own + base ≤ p.spent

variable {base own : Nat}

theorem Sound.strides (sound : p.Sound judge base own) (strides : p.Strides judge q)
    (room : p.ledger.chain.length < UInt64.size) : q.Sound judge base (own + 1) where
  reachable := by
    obtain same | ⟨block, _, accepted⟩ := strides.ledger
    · exact same ▸ sound.reachable
    · exact accepted ▸ sound.reachable.perform (.accept block)
  phase := strides.within (Ledger.numbered_of_reachable sound.reachable (Nat.le_of_lt room)) room
    sound.phase
  paid := by
    rcases strides.spent with ended | ⟨more, going⟩
    · exact .inl ended
    · have paid := sound.paid.resolve_left fun ⟨outcome, ended⟩ => going outcome ended
      exact .inr (by omega)

/-- An operation that somebody else asks for only lets the chain grow. -/
theorem Sound.record (sound : p.Sound judge base own) (op : Operation) :
    (p.record (p.ledger.respond judge op)).Sound judge base own := by
  have ledger : (p.record (p.ledger.respond judge op)).ledger = p.ledger.perform judge op :=
    Ledger.ledger_respond judge p.ledger op
  have longer := (Ledger.chain_prefix_perform judge p.ledger op).length_le
  refine ⟨?_, ?_, ?_⟩
  · rw [ledger]
    exact sound.reachable.perform op
  · rw [ledger]
    exact sound.phase.grow longer
  · rcases sound.paid with ended | paid
    · exact .inl ended
    · refine .inr (Nat.le_trans paid ?_)
      rw [spent, spent, ledger]
      exact Nat.add_le_add_left longer _

end Pursuit

namespace Synchronizer

variable {s : Synchronizer} {peer : String} {p : Pursuit} {remote height : UInt64}
  {base own : Nat} {turns : List Turn}

theorem strides_turn (s : Synchronizer) (peer : String) (p : Pursuit) (transport : Transport) :
    p.Strides s.judge (s.turn peer p (.own transport)) :=
  Synchronizer.step_strides { s with transport } peer p

/-- A turn performs one operation of the ledger at most. -/
theorem ledger_turn (s : Synchronizer) (peer : String) (p : Pursuit) (turn : Turn) :
    (s.turn peer p turn).ledger = p.ledger ∨
      ∃ op, (s.turn peer p turn).ledger = p.ledger.perform s.judge op := by
  cases turn with
  | own transport =>
    obtain same | ⟨block, _, accepted⟩ := (strides_turn s peer p transport).ledger
    · exact .inl same
    · exact .inr ⟨.accept block, accepted⟩
  | other op => exact .inr ⟨op, Ledger.ledger_respond s.judge p.ledger op⟩

theorem chain_prefix_turn (s : Synchronizer) (peer : String) (p : Pursuit) (turn : Turn) :
    p.ledger.chain <+: (s.turn peer p turn).ledger.chain := by
  obtain same | ⟨op, performed⟩ := ledger_turn s peer p turn
  · exact same ▸ List.prefix_rfl
  · exact performed ▸ Ledger.chain_prefix_perform s.judge p.ledger op

theorem chain_prefix_turns (s : Synchronizer) (peer : String) (p : Pursuit) (turns : List Turn) :
    p.ledger.chain <+: (turns.foldl (s.turn peer) p).ledger.chain := by
  induction turns generalizing p with
  | nil => exact List.prefix_rfl
  | cons turn turns ih => exact (chain_prefix_turn s peer p turn).trans (ih _)

theorem length_turn_le (s : Synchronizer) (peer : String) (p : Pursuit) (turn : Turn) :
    (s.turn peer p turn).ledger.chain.length ≤ p.ledger.chain.length + 1 := by
  obtain same | ⟨op, performed⟩ := ledger_turn s peer p turn
  · exact same ▸ Nat.le_succ _
  · obtain unchanged | ⟨block, added, _⟩ := Ledger.perform_cases s.judge p.ledger op
    · rw [performed, unchanged]
      exact Nat.le_succ _
    · rw [performed, added, List.length_append]
      exact Nat.le_refl _

/-- A turn adds no more than one block. So there is room for every row of turns that is not too long
itself. -/
theorem length_turns_le (s : Synchronizer) (peer : String) (p : Pursuit) (turns : List Turn) :
    (turns.foldl (s.turn peer) p).ledger.chain.length ≤ p.ledger.chain.length + turns.length := by
  induction turns generalizing p with
  | nil => exact Nat.le_refl _
  | cons turn turns ih =>
    have first := length_turn_le s peer p turn
    have later := ih (s.turn peer p turn)
    rw [List.foldl_cons, List.length_cons]
    omega

/-- As long as there is room for the chain, every row of turns keeps a pursuit sound. -/
theorem sound_turns (sound : p.Sound s.judge base own)
    (room : (turns.foldl (s.turn peer) p).ledger.chain.length < UInt64.size) :
    (turns.foldl (s.turn peer) p).Sound s.judge base (own + turns.countP Turn.isOwn) := by
  induction turns generalizing p own with
  | nil => exact sound
  | cons turn turns ih =>
    have longer := (chain_prefix_turns s peer p (turn :: turns)).length_le
    rw [List.foldl_cons] at longer room ⊢
    cases turn with
    | own transport =>
      have later := ih (sound.strides (strides_turn s peer p transport) (by omega)) room
      rw [List.countP_cons_of_pos rfl, ← Nat.add_assoc, Nat.add_right_comm]
      exact later
    | other op => exact ih (sound.record op) room

theorem bounded_turns (sound : p.Sound s.judge base own)
    (bounded : p.phase.Bounded remote height p.requests)
    (room : (turns.foldl (s.turn peer) p).ledger.chain.length < UInt64.size) :
    (turns.foldl (s.turn peer) p).phase.Bounded remote height
      (turns.foldl (s.turn peer) p).requests := by
  induction turns generalizing p own with
  | nil => exact bounded
  | cons turn turns ih =>
    have longer := (chain_prefix_turns s peer p (turn :: turns)).length_le
    rw [List.foldl_cons] at longer room ⊢
    cases turn with
    | own transport =>
      have strides := strides_turn s peer p transport
      exact ih (sound.strides strides (by omega)) (strides.bounded sound.phase bounded) room
    | other op => exact ih (sound.record op) bounded room

/-- Where batches were asked for, the loop began at some time. -/
theorem exists_begins (s : Synchronizer) (peer : String) (p : Pursuit) (turns : List Turn)
    (active : (turns.foldl (s.turn peer) p).phase.isFetching = true ∨
      p.requests < (turns.foldl (s.turn peer) p).requests) :
    p.phase.isFetching = true ∨ ∃ before after remote height, turns = before ++ after ∧
      (before.foldl (s.turn peer) p).phase = .fetching remote (.begin height) [] := by
  induction turns generalizing p with
  | nil => exact active.imp_right fun less => absurd less (Nat.lt_irrefl _)
  | cons turn turns ih =>
    have first : (s.turn peer p turn).phase.isFetching = true ∨
        p.requests < (s.turn peer p turn).requests → p.phase.isFetching = true ∨
          ∃ remote height, (s.turn peer p turn).phase = .fetching remote (.begin height) [] := by
      cases turn with
      | own transport => exact (strides_turn s peer p transport).isFetching
      | other op => exact fun active => .inl (active.resolve_right (Nat.lt_irrefl _))
    by_cases early : (s.turn peer p turn).phase.isFetching = true ∨
        p.requests < (s.turn peer p turn).requests
    · refine (first early).imp_right ?_
      rintro ⟨remote, height, begins⟩
      exact ⟨[turn], turns, remote, height, rfl, begins⟩
    · have later := ih (s.turn peer p turn) (active.imp_right fun more => by
        have none := fun asks => early (.inr asks)
        rw [List.foldl_cons] at more
        omega)
      obtain ⟨before, after, remote, height, split, begins⟩ :=
        later.resolve_left fun fetching => early (.inl fetching)
      exact .inr ⟨turn :: before, after, remote, height, congrArg (turn :: ·) split, begins⟩

theorem sound_start (s : Synchronizer) {l : Ledger} (reachable : Ledger.Reachable s.judge l) :
    Pursuit.Sound s.judge l.chain.length 0 ⟨.start l, .starting⟩ where
  reachable := reachable
  phase := rfl
  paid := .inr (Nat.le_of_eq rfl)

/-- Steps with nothing in between are turns. -/
theorem Leads.exists_turns {q : Pursuit} (leads : s.Leads peer p q) :
    ∃ steps, (List.replicate steps (Turn.own s.transport)).foldl (s.turn peer) p = q := by
  induction leads with
  | refl p => exact ⟨0, rfl⟩
  | step _ ih =>
    obtain ⟨steps, arrives⟩ := ih
    exact ⟨steps + 1, arrives⟩

/-- From the moment at which the loop begins it asks for no more batches than there are blocks
between the two heights. -/
theorem requests_le_of_begins (s : Synchronizer) (peer : String) {l : Ledger}
    (reachable : Ledger.Reachable s.judge l) {before after : List Turn}
    (room : (s.course peer l (before ++ after)).ledger.chain.length < UInt64.size)
    (begins : (s.course peer l before).phase = .fetching remote (.begin height) []) :
    (s.course peer l before).requests = 0 ∧
      (s.course peer l (before ++ after)).requests ≤ remote.toNat - height.toNat := by
  have split : s.course peer l (before ++ after) =
      after.foldl (s.turn peer) (s.course peer l before) := List.foldl_append
  rw [split] at room ⊢
  have longer := (chain_prefix_turns s peer (s.course peer l before) after).length_le
  have sound : (s.course peer l before).Sound s.judge l.chain.length _ :=
    sound_turns (sound_start s reachable) (Nat.lt_of_le_of_lt longer room)
  have bounded : (s.course peer l before).phase.Bounded remote height
      (s.course peer l before).requests := by
    rw [begins]
    exact ⟨rfl, rfl⟩
  constructor
  · have within := sound.phase
    rw [begins] at within
    have paid : _ ≤ height.toNat - height.toNat + 0 := within.2.1
    omega
  · have later := (sound_turns sound room).phase
    have bounded := bounded_turns sound bounded room
    exact bounded.requests_le later

/-- Catching up ends, whatever the peer does and whatever else happens in between, as long as there
are fewer blocks than words of 64 bits to count them with.

Each step of the node that does not end it is one of two looks at heads, or a request, or adds a
block; so after as many steps as there are heights, twice, it has ended. A row of turns without an
end in which the node goes on taking steps has a beginning with so many of them.

The node asks for batches in the loop alone. From the head at `height` that the loop began at to
that at `remote` which the peer reported, it asks for no more batches than there are blocks between
them. While it fetches, the height that it goes by is one that its chain has reached, and neither
this height nor the number of blocks that were applied overflows when it is counted on. Each block
that is accepted raises the height, to that of the new head. Without anything in between this is the
session itself. -/
theorem course_ends (s : Synchronizer) (peer : String) {l : Ledger}
    (reachable : Ledger.Reachable s.judge l) (turns : List Turn)
    (room : (s.course peer l turns).ledger.chain.length < UInt64.size) :
    let p := s.course peer l turns
    ((∃ outcome, p.phase = .ended outcome) ∨ turns.countP Turn.isOwn + l.chain.length ≤
      2 + p.requests + p.ledger.chain.length) ∧
    (2 * UInt64.size ≤ turns.countP Turn.isOwn → ∃ outcome, p.phase = .ended outcome) ∧
    (p.requests = 0 ∨ ∃ before after remote height, turns = before ++ after ∧
      (s.course peer l before).phase = .fetching remote (.begin height) []) ∧
    (∀ before after remote height, turns = before ++ after →
      (s.course peer l before).phase = .fetching remote (.begin height) [] →
      (s.course peer l before).requests = 0 ∧ p.requests ≤ remote.toNat - height.toNat) ∧
    (∀ remote progress blocks, p.phase = .fetching remote progress blocks →
      p.requests ≤ remote.toNat - progress.start.toNat ∧
      progress.current ≤ p.ledger.head.height ∧
      (progress.current + 1).toNat = progress.current.toNat + 1 ∧
      (progress.applied + 1).toNat = progress.applied.toNat + 1) ∧
    (∀ remote progress block rest transport,
      p.phase = .fetching remote progress (block :: rest) →
      s.judge.follows p.ledger.head block = .ok () →
      let q := s.course peer l (turns ++ [.own transport])
      q.phase = .fetching remote (progress.advance block) rest ∧
        progress.current < (progress.advance block).current ∧
        (progress.advance block).current = q.ledger.head.height) ∧
    (∃ steps, s.course peer l (List.replicate steps (.own s.transport)) =
      .ended (s.catchUp peer (.start l))) := by
  intro p
  change p.ledger.chain.length < UInt64.size at room
  have sound : p.Sound s.judge l.chain.length (0 + turns.countP Turn.isOwn) :=
    sound_turns (sound_start s reachable) room
  have numbered := Ledger.numbered_of_reachable sound.reachable (Nat.le_of_lt room)
  have counts := Ledger.toNat_height_head numbered
  have within := sound.phase
  have paid : (∃ outcome, p.phase = .ended outcome) ∨ turns.countP Turn.isOwn + l.chain.length ≤
      2 + p.requests + p.ledger.chain.length := by
    have looks := p.phase.looks_le
    refine sound.paid.imp_right fun paid => ?_
    rw [Pursuit.spent] at paid
    omega
  refine ⟨paid, ?_, ?_, ?_, ?_, ?_, ?_⟩
  · intro many
    refine Classical.byContradiction fun going => ?_
    have nonempty := List.length_pos_iff.mpr (Ledger.chain_ne_nil l)
    have requests := within.requests_lt fun outcome ended => going ⟨outcome, ended⟩
    have paid := paid.resolve_left going
    omega
  · obtain none | some := Nat.eq_zero_or_pos p.requests
    · exact .inl none
    · have began := exists_begins s peer ⟨.start l, .starting⟩ turns (.inr some)
      exact .inr (began.resolve_left Bool.false_ne_true)
  · rintro before after remote height rfl begins
    exact requests_le_of_begins s peer reachable room begins
  · intro remote progress blocks phase
    rw [phase] at within
    obtain ⟨reached, _, requests⟩ := within
    have current := reached.current
    refine ⟨requests, ?_, ?_, reached.toNat_applied_add_one room⟩
    · exact UInt64.le_iff_toNat_le.mpr (by omega)
    · exact toNat_add_one (by omega)
  · intro remote progress block rest transport phase judged q
    rw [phase] at within
    have height := Ledger.toNat_height_of_follows numbered room judged
    have next : q = s.turn peer p (.own transport) := List.foldl_append
    rw [next]
    simp only [turn, step, phase, Ledger.accept_of_ok judged]
    refine ⟨trivial, ?_, rfl⟩
    apply UInt64.lt_iff_toNat_lt.mpr
    exact height ▸ within.1.current
  · exact (leads_catchUp s peer (.start l)).exists_turns

/-- The peer has one block that the node has not. The node asks for one batch at most, though it
gets evidence on the way. -/
theorem course_ends_of_sealedLedger :
    let s := Sample.clientOf Sample.sealedLedger
    let own : Turn := .own s.transport
    let evidence : Turn := .other (.submit Sample.draft "ev-1" .genesis)
    let turns := [own, own, evidence, own, own, own]
    let l : Ledger := .fresh .standard
    Ledger.Reachable s.judge l ∧ (s.course "node-1" l turns).ledger.chain.length < UInt64.size ∧
      (s.course "node-1" l [own, own]).phase = .fetching 1 (.begin 0) [] ∧
      (s.course "node-1" l turns).requests ≤ 1 := by
  intro s own evidence turns l
  have reachable : Ledger.Reachable s.judge l := .start
  have room : (s.course "node-1" l turns).ledger.chain.length < UInt64.size :=
    Nat.lt_of_le_of_lt (length_turns_le s "node-1" _ turns) (by decide)
  have begins : (s.course "node-1" l [own, own]).phase = .fetching 1 (.begin 0) [] := by
    obtain ⟨after, next, _⟩ := @step_asking_of_behind s "node-1" Sample.sealedLedger
      (s.course "node-1" l [own]) 0 rfl (Sample.answers_clientOf _) rfl (by decide)
    exact congrArg Pursuit.phase next
  obtain ⟨_, _, _, bounded, _⟩ := course_ends s "node-1" reachable turns room
  obtain ⟨_, requests⟩ := bounded [own, own] [evidence, own, own, own] 1 0 rfl begins
  exact ⟨reachable, room, begins, requests⟩

end Synchronizer

end EvidenceLedger
