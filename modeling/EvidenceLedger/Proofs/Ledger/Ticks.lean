import EvidenceLedger.Ledger.Timer
import EvidenceLedger.Proofs.Ledger.Validity
import Mathlib.Logic.Relation

/-!
# What is sealed at which tick

The task behind a timer sets its clock, lets the tick pass that is due at once, and then waits for
two things side by side: the next tick, and a word to stop. When both are there it takes either.
Everybody else submits evidence meanwhile, whenever they like.

Time is virtual: it stands still while the task can do something, and goes on at most to the next
tick. So no tick is ever late, although the clock has a rule for ticks that are: a tick that takes
place much too late is followed by the next one a whole period later.

The ticks cut time into periods. What is submitted in one of them is sealed at its end, in one
block, unless it is nothing. A tick that comes to nothing is a tick all the same.
-/

namespace EvidenceLedger

/-- How far the task behind a timer is. -/
inductive Clockwork.Phase where
  | starting
  | running
  | stopped

/-- A timer with the task behind it. -/
structure Clockwork where
  timer : Timer
  phase : Clockwork.Phase
  /-- When the next tick is due. -/
  dueMs : Nat
  /-- The task was told to stop. -/
  told : Bool
  /-- When ticks took place, whatever came of them. -/
  tickedMs : List Nat

namespace Timer

/-- The record that an event says was taken. -/
def takenBy? : Effect → Option EvidenceRecord
  | .tell (.evidenceSubmitted record) => some record
  | _ => none

/-- The records that were taken, each with the time of it. -/
def taken (t : Timer) : List (Nat × EvidenceRecord) :=
  t.effects.filterMap fun e => (takenBy? e.2).map fun record => (e.1, record)

end Timer

namespace Clockwork

/-- The task is made, and has not had its turn yet. -/
def start (l : Ledger) (ids : IdSupply) : Clockwork :=
  ⟨.start l ids, .starting, 0, false, []⟩

/-- When the tick after the one that takes place now is due. -/
def nextMs (periodMs : Nat) (w : Clockwork) : Nat :=
  if w.dueMs + 5 < w.timer.elapsedMs then w.timer.elapsedMs + periodMs else w.dueMs + periodMs

/-- The task waits for a tick whose time has come. -/
def IsDue (w : Clockwork) : Prop :=
  w.phase = .running ∧ w.dueMs ≤ w.timer.elapsedMs

inductive Step (judge : Judge) (periodMs : Nat) (w : Clockwork) : Clockwork → Prop where
  | begin (starting : w.phase = .starting) :
      Step judge periodMs w
        { w with phase := .running, dueMs := w.timer.elapsedMs + periodMs }
  | tick (now : Timestamp) (due : w.IsDue) :
      Step judge periodMs w
        { w with
          timer := w.timer.tick judge now w.timer.elapsedMs
          dueMs := w.nextMs periodMs
          tickedMs := w.tickedMs ++ [w.timer.elapsedMs] }
  | submit (now : Timestamp) (draft : EvidenceDraft) :
      Step judge periodMs w { w with timer := w.timer.submit now draft }
  | tell : Step judge periodMs w { w with told := true }
  | stop (running : w.phase = .running) (told : w.told = true) :
      Step judge periodMs w { w with phase := .stopped }
  /-- The task can do nothing, and time goes on, at most to the next tick. -/
  | pass (untilMs : Nat) (later : w.timer.elapsedMs ≤ untilMs) (made : w.phase ≠ .starting)
      (waits : w.phase = .running → w.told = false ∧ untilMs ≤ w.dueMs) :
      Step judge periodMs w { w with timer := { w.timer with elapsedMs := untilMs } }

def Course (judge : Judge) (periodMs : Nat) : Clockwork → Clockwork → Prop :=
  Relation.ReflTransGen (Step judge periodMs)

/-- What was submitted so far, with the time of it. What waits at the start counts as submitted
then. -/
def submitted (l : Ledger) (w : Clockwork) : List (Nat × EvidenceRecord) :=
  l.mempool.map (fun record => (0, record)) ++ w.timer.taken

/-- What was submitted in a period. The first one has the number zero. -/
def inPeriod (periodMs i : Nat) (submitted : List (Nat × EvidenceRecord)) : List EvidenceRecord :=
  (submitted.filter fun s => s.1 / periodMs = i).map Prod.snd

/-- What was submitted in a period and after it. -/
def sincePeriod (periodMs i : Nat) (submitted : List (Nat × EvidenceRecord)) :
    List EvidenceRecord :=
  (submitted.filter fun s => i ≤ s.1 / periodMs).map Prod.snd

/-- Ticks take place at the end of each period, none is left out and none is late. -/
structure Regular (periodMs : Nat) (w : Clockwork) : Prop where
  ticked : w.tickedMs = (List.range w.tickedMs.length).map fun i => (i + 1) * periodMs
  atStart : w.phase = .starting → w.timer.elapsedMs = 0 ∧ w.tickedMs = []
  due : w.phase ≠ .starting → w.dueMs = (w.tickedMs.length + 1) * periodMs
  reached : w.tickedMs.length * periodMs ≤ w.timer.elapsedMs
  inTime : w.phase = .running → w.timer.elapsedMs ≤ w.dueMs
  past : ∀ s ∈ w.timer.taken, s.1 ≤ w.timer.elapsedMs

/-- The blocks that were sealed since the start. None is empty, and together with what waits they
hold what was submitted, in its order. -/
structure Holds (l : Ledger) (w : Clockwork) (blocks : List Block) : Prop where
  chain : w.timer.ledger.chain = l.chain ++ blocks
  nonempty : ∀ block ∈ blocks, block.evidences ≠ []
  records : blocks.flatMap Block.evidences ++ w.timer.ledger.mempool =
    (w.submitted l).map Prod.snd

/-- The blocks that were sealed since the start. They are those of the periods that are over and in
which something was submitted. What was submitted since then waits. -/
structure Partition (periodMs : Nat) (l : Ledger) (w : Clockwork) (blocks : List Block) :
    Prop where
  chain : w.timer.ledger.chain = l.chain ++ blocks
  periods : blocks.map Block.evidences =
    ((List.range w.tickedMs.length).map fun i =>
      inPeriod periodMs i (w.submitted l)).filter (· ≠ [])
  waiting : w.timer.ledger.mempool = sincePeriod periodMs w.tickedMs.length (w.submitted l)

end Clockwork

/-- The task runs and is free, and its timer is this one, at which no tick of the moment has taken
place. -/
structure Clockwork.Follows (periodMs : Nat) (t : Timer) (w : Clockwork) : Prop where
  timer : w.timer = t
  running : w.phase = .running
  free : w.told = false
  due : w.dueMs = Timer.firstTick periodMs t.elapsedMs * periodMs

variable {judge : Judge} {periodMs : Nat} {l : Ledger} {ids : IdSupply} {t : Timer}
  {w v : Clockwork} {now : Timestamp}

namespace Timer

/-- The record of a submission, if it is taken. -/
def taken? (now : Timestamp) (draft : EvidenceDraft) (t : Timer) : Option EvidenceRecord :=
  (t.ledger.submit draft t.ids.next now).answer.toOption

/-- A submission tells the world what it tells the world by itself. -/
theorem submit_eq (now : Timestamp) (draft : EvidenceDraft) (t : Timer) :
    t.submit now draft =
      { t with
        ledger := (t.ledger.submit draft t.ids.next now).ledger
        ids := (t.ledger.submitNew draft t.ids now).2
        effects := t.effects ++
          (t.ledger.submit draft t.ids.next now).effects.map fun e => (t.elapsedMs, e) } := by
  simp only [submit, Ledger.submitNew]

/-- A tick tells the world what a commit tells it. -/
theorem tick_eq (judge : Judge) (now : Timestamp) (t : Timer) (atMs : Nat) :
    t.tick judge now atMs =
      { t with
        ledger := (t.ledger.commit judge now).ledger
        effects := t.effects ++ (t.ledger.commit judge now).effects.map fun e => (atMs, e) } := by
  simp only [tick, Ledger.commitOnce]
  split
  · simp
  · simp

@[simp] theorem elapsedMs_submit (now : Timestamp) (draft : EvidenceDraft) (t : Timer) :
    (t.submit now draft).elapsedMs = t.elapsedMs := by
  rw [submit_eq]

@[simp] theorem elapsedMs_tick (judge : Judge) (now : Timestamp) (t : Timer) (atMs : Nat) :
    (t.tick judge now atMs).elapsedMs = t.elapsedMs := by
  rw [tick_eq]

@[simp] theorem chain_submit (now : Timestamp) (draft : EvidenceDraft) (t : Timer) :
    (t.submit now draft).ledger.chain = t.ledger.chain := by
  rw [submit_eq]
  simp only [Ledger.chain_submit]

theorem mempool_submit (now : Timestamp) (draft : EvidenceDraft) (t : Timer) :
    (t.submit now draft).ledger.mempool = t.ledger.mempool ++ (t.taken? now draft).toList := by
  rw [submit_eq]
  cases made : draft.toRecord t.ids.next now with
  | error reason => simp [taken?, Ledger.submit_of_error made, Except.toOption]
  | ok record => simp [taken?, Ledger.submit_of_ok made, Except.toOption]

theorem taken_submit (now : Timestamp) (draft : EvidenceDraft) (t : Timer) :
    (t.submit now draft).taken =
      t.taken ++ (t.taken? now draft).toList.map fun record => (t.elapsedMs, record) := by
  rw [submit_eq, taken, List.filterMap_append, taken]
  refine congrArg _ ?_
  cases made : draft.toRecord t.ids.next now with
  | error reason => simp [taken?, Ledger.submit_of_error made, Except.toOption]
  | ok record => simp [taken?, takenBy?, Ledger.submit_of_ok made, Except.toOption]

@[simp] theorem taken_tick (judge : Judge) (now : Timestamp) (t : Timer) (atMs : Nat) :
    (t.tick judge now atMs).taken = t.taken := by
  rw [tick_eq, taken, List.filterMap_append, taken]
  obtain ⟨reason, refused⟩ | ⟨_, _, _, _, _, _, committed⟩ := Ledger.commit_cases judge t.ledger now
  · simp [refused]
  · simp [committed, takenBy?]

/-- All that a tick can do to a ledger: nothing, or seal everything that waits, which is
something. -/
theorem tick_cases (judge : Judge) (now : Timestamp) (t : Timer) (atMs : Nat) :
    (t.tick judge now atMs).ledger = t.ledger ∨
      ∃ block, judge.identity.isLeader = true ∧ judge.identity.privateKey?.isSome ∧
        t.ledger.mempool ≠ [] ∧ block.evidences = t.ledger.mempool ∧
        (t.tick judge now atMs).ledger = t.ledger.append block [] := by
  rw [tick_eq]
  obtain ⟨reason, refused⟩ | ⟨key, block, leads, holds, waiting, sealed, committed⟩ :=
    Ledger.commit_cases judge t.ledger now
  · exact .inl (congrArg Outcome.ledger refused)
  · obtain ⟨content, _, _⟩ := Cryptography.sealBlock_eq_ok_iff.mp sealed
    exact .inr ⟨block, leads, holds ▸ rfl, waiting, congrArg BlockContent.evidences content,
      congrArg Outcome.ledger committed⟩

end Timer

namespace Clockwork

theorem submitted_submit (l : Ledger) (w : Clockwork) (now : Timestamp) (draft : EvidenceDraft) :
    submitted l { w with timer := w.timer.submit now draft } =
      w.submitted l ++
        (w.timer.taken? now draft).toList.map fun record => (w.timer.elapsedMs, record) := by
  rw [submitted, Timer.taken_submit, ← List.append_assoc]
  rfl

/-- A tick submits nothing. -/
theorem submitted_tick (l : Ledger) (w : Clockwork) (judge : Judge) (now : Timestamp)
    (atMs dueMs : Nat) (tickedMs : List Nat) :
    submitted l { w with timer := w.timer.tick judge now atMs, dueMs, tickedMs } =
      w.submitted l := by
  rw [submitted, Timer.taken_tick, submitted]

/-- A step forgets neither ticks nor what was taken. -/
theorem grown_of_step (step : Step judge periodMs w v) :
    w.tickedMs <+: v.tickedMs ∧ w.timer.taken <+: v.timer.taken := by
  cases step with
  | tick now due => exact ⟨List.prefix_append _ _, Timer.taken_tick judge now _ _ ▸ List.prefix_rfl⟩
  | submit now draft =>
    refine ⟨List.prefix_rfl, ?_⟩
    rw [Timer.taken_submit]
    exact List.prefix_append _ _
  | begin | tell | stop | pass => exact ⟨List.prefix_rfl, List.prefix_rfl⟩

theorem regular_start (l : Ledger) (ids : IdSupply) (periodMs : Nat) :
    Regular periodMs (start l ids) where
  ticked := rfl
  atStart _ := ⟨rfl, rfl⟩
  due starting := absurd rfl starting
  reached := Nat.le_of_eq (Nat.zero_mul _)
  inTime := nofun
  past := by simp [start, Timer.start, Timer.taken]

namespace Regular

/-- A tick takes place when it is due, not later. -/
theorem elapsedMs_of_isDue (regular : w.Regular periodMs) (due : w.IsDue) :
    w.timer.elapsedMs = (w.tickedMs.length + 1) * periodMs := by
  rw [← regular.due (by rw [due.1]; nofun)]
  exact Nat.le_antisymm (regular.inTime due.1) due.2

/-- No tick is late, so each is due a period after the one before it. -/
theorem nextMs_of_isDue (regular : w.Regular periodMs) (due : w.IsDue) :
    w.nextMs periodMs = (w.tickedMs.length + 1 + 1) * periodMs := by
  have onTime := regular.elapsedMs_of_isDue due
  have dueAt := regular.due (by rw [due.1]; nofun)
  rw [nextMs, if_neg (by omega), dueAt, ← Nat.succ_mul]

/-- There were as many ticks as there are whole periods, apart from a tick that is due. -/
theorem length_tickedMs (regular : w.Regular periodMs) (goesOn : w.phase ≠ .stopped)
    (notDue : ¬ w.IsDue) (positive : 0 < periodMs) :
    w.tickedMs.length = w.timer.elapsedMs / periodMs := by
  refine (Nat.div_eq_of_lt_le regular.reached ?_).symm
  cases phase : w.phase with
  | starting =>
    rw [(regular.atStart phase).1]
    exact Nat.mul_pos (Nat.succ_pos _) positive
  | running =>
    rw [← regular.due (by rw [phase]; nofun)]
    exact Nat.not_le.mp fun due => notDue ⟨phase, due⟩
  | stopped => exact absurd phase goesOn

theorem next (regular : w.Regular periodMs) (step : Step judge periodMs w v) :
    v.Regular periodMs := by
  obtain ⟨ticked, atStart, due, reached, inTime, past⟩ := id regular
  cases step with
  | begin starting =>
    obtain ⟨still, none⟩ := atStart starting
    refine ⟨ticked, nofun, fun _ => ?_, reached, fun _ => Nat.le_add_right _ _, past⟩
    simp [still, none]
  | tick now isDue =>
    have onTime := regular.elapsedMs_of_isDue isDue
    have next := regular.nextMs_of_isDue isDue
    refine ⟨?_, ?_, fun _ => ?_, ?_, fun _ => ?_, ?_⟩
    · rw [List.length_append, List.length_singleton, List.range_succ, List.map_append, ← ticked,
        onTime]
      rfl
    · intro starting
      rw [isDue.1] at starting
      cases starting
    · rw [next, List.length_append, List.length_singleton]
    · rw [List.length_append, List.length_singleton]
      exact Nat.le_of_eq onTime.symm
    · rw [next, Timer.elapsedMs_tick, onTime]
      exact Nat.mul_le_mul_right _ (Nat.le_succ _)
    · intro s member
      exact past s (by rwa [Timer.taken_tick] at member)
  | submit now draft =>
    have clock := Timer.elapsedMs_submit now draft w.timer
    refine ⟨ticked, ?_, due, ?_, ?_, ?_⟩
    · rwa [clock]
    · rwa [clock]
    · rwa [clock]
    · intro s member
      rw [clock]
      rw [Timer.taken_submit] at member
      rcases List.mem_append.mp member with old | new
      · exact past s old
      · obtain ⟨record, _, rfl⟩ := List.mem_map.mp new
        exact Nat.le_refl _
  | tell => exact ⟨ticked, atStart, due, reached, inTime, past⟩
  | stop running told => exact ⟨ticked, nofun, fun _ => due (by rw [running]; nofun), reached,
      nofun, past⟩
  | pass untilMs later made waits =>
    exact ⟨ticked, fun starting => absurd starting made, due, Nat.le_trans reached later,
      fun running => (waits running).2, fun s member => Nat.le_trans (past s member) later⟩

theorem course (regular : w.Regular periodMs) (course : Course judge periodMs w v) :
    v.Regular periodMs := by
  induction course with
  | refl => exact regular
  | tail _ step ih => exact ih.next step

end Regular

/-- Whatever waits at a tick is sealed in one block, or goes on to wait. -/
theorem Holds.next {blocks : List Block} (holds : w.Holds l blocks)
    (step : Step judge periodMs w v) : ∃ more, v.Holds l (blocks ++ more) := by
  obtain ⟨chain, nonempty, records⟩ := holds
  cases step with
  | begin | tell | stop | pass => exact ⟨[], by simpa using ⟨chain, nonempty, records⟩⟩
  | submit now draft =>
    refine ⟨[], by rw [List.append_nil, Timer.chain_submit, chain], by simpa using nonempty, ?_⟩
    rw [submitted_submit, List.map_append, ← records, Timer.mempool_submit]
    simp [Function.comp_def]
  | tick now due =>
    obtain unchanged | ⟨block, _, _, waiting, evidences, appended⟩ :=
      Timer.tick_cases judge now w.timer w.timer.elapsedMs
    · refine ⟨[], by rw [List.append_nil, unchanged, chain], by simpa using nonempty, ?_⟩
      rw [submitted_tick, List.append_nil, unchanged, records]
    · refine ⟨[block], ?_, ?_, ?_⟩
      · rw [appended, Ledger.chain_append, chain, List.append_assoc]
      · intro other member
        rcases List.mem_append.mp member with old | new
        · exact nonempty other old
        · obtain rfl := List.mem_singleton.mp new
          rw [evidences]
          exact waiting
      · rw [submitted_tick, ← records, appended, Ledger.mempool_append, List.append_nil,
          List.flatMap_append, List.flatMap_singleton, evidences]

theorem inPeriod_append (periodMs i : Nat) (old new : List (Nat × EvidenceRecord)) :
    inPeriod periodMs i (old ++ new) = inPeriod periodMs i old ++ inPeriod periodMs i new := by
  rw [inPeriod, List.filter_append, List.map_append]
  rfl

theorem sincePeriod_append (periodMs i : Nat) (old new : List (Nat × EvidenceRecord)) :
    sincePeriod periodMs i (old ++ new) =
      sincePeriod periodMs i old ++ sincePeriod periodMs i new := by
  rw [sincePeriod, List.filter_append, List.map_append]
  rfl

/-- What is submitted now belongs to no earlier period. -/
theorem inPeriod_of_lt {i atMs : Nat} (earlier : i < atMs / periodMs)
    (records : List EvidenceRecord) :
    inPeriod periodMs i (records.map fun record => (atMs, record)) = [] := by
  simp [inPeriod, List.filter_map, Function.comp_def, Nat.ne_of_gt earlier]

theorem sincePeriod_of_le {i atMs : Nat} (since : i ≤ atMs / periodMs)
    (records : List EvidenceRecord) :
    sincePeriod periodMs i (records.map fun record => (atMs, record)) = records := by
  simp [sincePeriod, List.filter_map, Function.comp_def, since]

/-- At the end of a period nothing was submitted after it yet. -/
theorem sincePeriod_of_over {k : Nat} {submitted : List (Nat × EvidenceRecord)}
    (positive : 0 < periodMs) (lapsed : ∀ s ∈ submitted, s.1 < (k + 1) * periodMs) :
    sincePeriod periodMs k submitted = inPeriod periodMs k submitted ∧
      sincePeriod periodMs (k + 1) submitted = [] := by
  have bound : ∀ s ∈ submitted, s.1 / periodMs < k + 1 := fun s member =>
    (Nat.div_lt_iff_lt_mul positive).mpr (lapsed s member)
  constructor
  · refine congrArg _ (List.filter_congr ?_)
    intro s member
    have period := bound s member
    exact decide_eq_decide.mpr (by omega)
  · rw [sincePeriod, List.map_eq_nil_iff, List.filter_eq_nil_iff]
    intro s member since
    exact Nat.not_le.mpr (bound s member) (of_decide_eq_true since)

theorem partition_start (l : Ledger) (ids : IdSupply) (periodMs : Nat) :
    Partition periodMs l (start l ids) [] where
  chain := (List.append_nil _).symm
  periods := rfl
  waiting := by
    have nothing : (start l ids).timer.taken = [] := rfl
    rw [submitted, nothing, List.append_nil]
    exact (sincePeriod_of_le (Nat.zero_le _) l.mempool).symm

/-- At each tick a leader seals what was submitted in the period that ends, if anything was. -/
theorem Partition.next {c : NodeConfig} {blocks : List Block} (valid : c.Valid)
    (leads : c.identity.isLeader = true) (positive : 0 < periodMs) (regular : w.Regular periodMs)
    (step : Step c.judge periodMs w v) (apart : ∀ s ∈ v.timer.taken, s.1 ∉ v.tickedMs)
    (partition : w.Partition periodMs l blocks) :
    ∃ more, v.Partition periodMs l (blocks ++ more) := by
  obtain ⟨chain, periods, waiting⟩ := partition
  cases step with
  | begin | tell | stop | pass => exact ⟨[], by simpa using ⟨chain, periods, waiting⟩⟩
  | submit now draft =>
    have since : w.tickedMs.length ≤ w.timer.elapsedMs / periodMs :=
      (Nat.le_div_iff_mul_le positive).mpr regular.reached
    refine ⟨[], by rw [List.append_nil, Timer.chain_submit, chain], ?_, ?_⟩
    · rw [List.append_nil, periods, submitted_submit]
      refine congrArg _ (List.map_congr_left ?_)
      intro i member
      have earlier := Nat.lt_of_lt_of_le (List.mem_range.mp member) since
      rw [inPeriod_append, inPeriod_of_lt earlier, List.append_nil]
    · rw [Timer.mempool_submit, waiting, submitted_submit, sincePeriod_append,
        sincePeriod_of_le since]
  | tick now due =>
    have onTime := regular.elapsedMs_of_isDue due
    rw [Timer.taken_tick] at apart
    have lapsed : ∀ s ∈ w.submitted l, s.1 < (w.tickedMs.length + 1) * periodMs := by
      intro s member
      rcases List.mem_append.mp member with first | taken
      · obtain ⟨record, _, rfl⟩ := List.mem_map.mp first
        exact Nat.mul_pos (Nat.succ_pos _) positive
      · have past := regular.past s taken
        have elsewhen := apart s taken
        rw [List.mem_append, List.mem_singleton, not_or] at elsewhen
        omega
    obtain ⟨same, nothing⟩ := sincePeriod_of_over positive lapsed
    rw [same] at waiting
    by_cases empty : w.timer.ledger.mempool = []
    · obtain refused | ⟨_, _, _, some, _, _⟩ :=
        Timer.tick_cases c.judge now w.timer w.timer.elapsedMs
      · refine ⟨[], by rw [List.append_nil, refused, chain], ?_, ?_⟩
        · rw [submitted_tick, List.append_nil, List.length_append, List.length_singleton,
            List.range_succ, List.map_append, List.filter_append, periods, List.map_singleton,
            ← waiting, empty]
          simp
        · rw [submitted_tick, refused, List.length_append, List.length_singleton, nothing, empty]
      · exact absurd empty some
    · obtain ⟨block, _, committed, content, _⟩ := valid.commit leads empty now
      have evidences : block.evidences = w.timer.ledger.mempool :=
        congrArg BlockContent.evidences content
      have ledger : (w.timer.tick c.judge now w.timer.elapsedMs).ledger =
          w.timer.ledger.append block [] := by
        rw [Timer.tick_eq]
        exact committed
      refine ⟨[block], ?_, ?_, ?_⟩
      · rw [ledger, Ledger.chain_append, chain, List.append_assoc]
      · rw [submitted_tick, List.map_append, List.length_append, List.length_singleton,
          List.range_succ, List.map_append, List.filter_append, periods, List.map_singleton,
          List.map_singleton, ← waiting, evidences]
        simp [empty]
      · rw [submitted_tick, ledger, List.length_append, List.length_singleton, nothing]
        rfl

/-- Until the last submission and the last tick all of them were apart, if they are now. -/
theorem apart_of_step (step : Step judge periodMs w v)
    (apart : ∀ s ∈ v.timer.taken, s.1 ∉ v.tickedMs) : ∀ s ∈ w.timer.taken, s.1 ∉ w.tickedMs := by
  obtain ⟨ticked, taken⟩ := grown_of_step step
  intro s member tick
  exact apart s (taken.subset member) (ticked.subset tick)

theorem holds_start (l : Ledger) (ids : IdSupply) : Holds l (start l ids) [] where
  chain := (List.append_nil _).symm
  nonempty _ member := nomatch member
  records := by
    have nothing : (start l ids).timer.taken = [] := rfl
    rw [submitted, nothing, List.append_nil, List.map_map]
    exact (List.map_id _).symm

theorem exists_holds (course : Course judge periodMs (start l ids) w) :
    ∃ blocks, w.Holds l blocks := by
  induction course with
  | refl => exact ⟨[], holds_start l ids⟩
  | tail _ step ih =>
    obtain ⟨blocks, holds⟩ := ih
    obtain ⟨more, next⟩ := holds.next step
    exact ⟨_, next⟩

theorem exists_partition {c : NodeConfig} (valid : c.Valid) (leads : c.identity.isLeader = true)
    (positive : 0 < periodMs) (course : Course c.judge periodMs (start l ids) w)
    (apart : ∀ s ∈ w.timer.taken, s.1 ∉ w.tickedMs) :
    ∃ blocks, w.Partition periodMs l blocks := by
  induction course with
  | refl => exact ⟨[], partition_start l ids periodMs⟩
  | tail course step ih =>
    obtain ⟨blocks, partition⟩ := ih (apart_of_step step apart)
    have regular := (regular_start l ids periodMs).course course
    obtain ⟨more, next⟩ := partition.next valid leads positive regular step apart
    exact ⟨_, next⟩

/-- A node that may not seal, or has no key, seals nothing. -/
theorem chain_of_course
    (cannot : judge.identity.isLeader = false ∨ judge.identity.privateKey? = none)
    (course : Course judge periodMs w v) : v.timer.ledger.chain = w.timer.ledger.chain := by
  induction course with
  | refl => rfl
  | @tail u _ _ step ih =>
    rw [← ih]
    cases step with
    | begin | tell | stop | pass => rfl
    | submit now draft => exact Timer.chain_submit now draft _
    | tick now due =>
      obtain refused | ⟨_, leads, holds, _⟩ :=
        Timer.tick_cases judge now u.timer u.timer.elapsedMs
      · exact congrArg Ledger.chain refused
      · rcases cannot with follows | keyless
        · rw [follows] at leads
          cases leads
        · rw [keyless] at holds
          cases holds

/-- A task that has stopped does not come back, and nothing more is sealed. -/
theorem stopped_of_course (stopped : w.phase = .stopped) (course : Course judge periodMs w v) :
    v.phase = .stopped ∧ v.timer.ledger.chain = w.timer.ledger.chain := by
  induction course with
  | refl => exact ⟨stopped, rfl⟩
  | @tail u _ _ step ih =>
    obtain ⟨still, chain⟩ := ih
    rw [← chain]
    cases step with
    | begin starting => exact nomatch still.symm.trans starting
    | tick now due => exact nomatch still.symm.trans due.1
    | submit now draft => exact ⟨still, Timer.chain_submit now draft _⟩
    | tell => exact ⟨still, rfl⟩
    | stop running => exact nomatch still.symm.trans running
    | pass => exact ⟨still, rfl⟩

/-- A task that was told to stop can stop at once. -/
theorem exists_stopped (told : w.told = true) (judge : Judge) (periodMs : Nat) :
    ∃ v, Course judge periodMs w v ∧ v.phase = .stopped ∧ v.timer = w.timer := by
  cases phase : w.phase with
  | starting =>
    have begun : Course judge periodMs w _ := .single (.begin phase)
    exact ⟨_, begun.tail (.stop rfl told), rfl, rfl⟩
  | running => exact ⟨_, .single (.stop phase told), rfl, rfl⟩
  | stopped => exact ⟨w, .refl, phase, rfl⟩

/-- Time does not go on before a task that was told to stop has stopped. -/
theorem elapsedMs_of_told (told : w.told = true) (course : Course judge periodMs w v) :
    v.told = true ∧ (v.phase ≠ .stopped → v.timer.elapsedMs = w.timer.elapsedMs) := by
  induction course with
  | refl => exact ⟨told, fun _ => rfl⟩
  | @tail u _ _ step ih =>
    obtain ⟨still, clock⟩ := ih
    cases step with
    | begin starting => exact ⟨still, fun _ => clock (by rw [starting]; nofun)⟩
    | tick now due =>
      rw [Timer.elapsedMs_tick]
      exact ⟨still, clock⟩
    | submit now draft =>
      rw [Timer.elapsedMs_submit]
      exact ⟨still, clock⟩
    | tell => exact ⟨rfl, clock⟩
    | stop => exact ⟨still, fun goesOn => absurd rfl goesOn⟩
    | pass untilMs later made waits =>
      refine ⟨still, fun goesOn => ?_⟩
      cases phase : u.phase with
      | starting => exact absurd phase made
      | running => exact nomatch still.symm.trans (waits phase).1
      | stopped => exact absurd phase goesOn

end Clockwork

namespace Timer

/-- The ticks that come before a time are those with a smaller number than the first one that does
not. -/
theorem lt_firstTick_iff {i atMs : Nat} (positive : 0 < periodMs) (notFirst : 0 < i) :
    i < firstTick periodMs atMs ↔ i * periodMs < atMs := by
  have whole := @Nat.le_div_iff_mul_le periodMs (i + 1) (atMs + periodMs - 1) positive
  rw [Nat.succ_mul] at whole
  rw [firstTick]
  omega

theorem le_firstTick_mul (positive : 0 < periodMs) (atMs : Nat) :
    atMs ≤ firstTick periodMs atMs * periodMs := by
  have first : 0 < firstTick periodMs atMs := Nat.le_max_left _ _
  exact Nat.not_lt.mp ((lt_firstTick_iff positive first).not.mp (Nat.lt_irrefl _))

theorem firstTick_zero (positive : 0 < periodMs) : firstTick periodMs 0 = 1 := by
  rw [firstTick, Nat.zero_add, Nat.div_eq_of_lt (Nat.sub_one_lt (Nat.ne_of_gt positive))]
  rfl

theorem firstTick_mono {soonerMs laterMs : Nat} (inOrder : soonerMs ≤ laterMs) (periodMs : Nat) :
    firstTick periodMs soonerMs ≤ firstTick periodMs laterMs := by
  have quotients := @Nat.div_le_div_right (soonerMs + periodMs - 1) (laterMs + periodMs - 1)
    periodMs (by omega)
  rw [firstTick, firstTick]
  omega

/-- A tick does not look at the time that has gone by. -/
theorem foldl_tick_at (times : List Nat) (t : Timer) (atMs : Nat) :
    times.foldl (tick judge now) { t with elapsedMs := atMs } =
      { times.foldl (tick judge now) t with elapsedMs := atMs } := by
  induction times generalizing t with
  | nil => rfl
  | cons first rest ih =>
    have once : tick judge now { t with elapsedMs := atMs } first =
        { tick judge now t first with elapsedMs := atMs } := by
      rw [tick_eq, tick_eq]
    rw [List.foldl_cons, once, ih, List.foldl_cons]

@[simp] theorem taken_foldl_tick (times : List Nat) (t : Timer) :
    (times.foldl (tick judge now) t).taken = t.taken := by
  induction times generalizing t with
  | nil => rfl
  | cons first rest ih => rw [List.foldl_cons, ih, taken_tick]

end Timer

namespace Clockwork

/-- A task that is free lets time go on, and each tick on the way takes place in its time. -/
theorem exists_course_until {i untilMs : Nat} (positive : 0 < periodMs)
    (running : w.phase = .running) (free : w.told = false) (due : w.dueMs = i * periodMs)
    (notFirst : 0 < i) (early : w.timer.elapsedMs ≤ i * periodMs)
    (later : w.timer.elapsedMs ≤ untilMs) (judge : Judge) (now : Timestamp) :
    ∃ v, Course judge periodMs w v ∧ v.phase = .running ∧ v.told = false ∧
      v.dueMs = max i (Timer.firstTick periodMs untilMs) * periodMs ∧
      v.timer = { ((List.range' i (Timer.firstTick periodMs untilMs - i)).map
        (· * periodMs)).foldl (Timer.tick judge now) w.timer with elapsedMs := untilMs } := by
  generalize count : Timer.firstTick periodMs untilMs - i = n
  induction n generalizing w i with
  | zero =>
    have last : Timer.firstTick periodMs untilMs ≤ i := Nat.le_of_sub_eq_zero count
    have inTime : untilMs ≤ i * periodMs :=
      Nat.le_trans (Timer.le_firstTick_mul positive untilMs) (Nat.mul_le_mul_right _ last)
    refine ⟨_, .single (.pass untilMs later ?_ fun _ => ⟨free, due ▸ inTime⟩), running, free, ?_,
      rfl⟩
    · rw [running]
      nofun
    · rw [Nat.max_eq_left last]
      exact due
  | succ n ih =>
    have another : i < Timer.firstTick periodMs untilMs := by omega
    have before := (Timer.lt_firstTick_iff positive notFirst).mp another
    let u : Clockwork := { w with timer := { w.timer with elapsedMs := i * periodMs } }
    have onTime : u.IsDue := ⟨running, Nat.le_of_eq due⟩
    have waited : Step judge periodMs w u :=
      .pass (i * periodMs) early (by rw [running]; nofun) fun _ => ⟨free, Nat.le_of_eq due.symm⟩
    have next : u.nextMs periodMs = (i + 1) * periodMs := by
      have clock : u.timer.elapsedMs = i * periodMs := rfl
      have same : u.dueMs = i * periodMs := due
      rw [nextMs, if_neg (by omega), same, Nat.succ_mul]
    have clock : (u.timer.tick judge now (i * periodMs)).elapsedMs = i * periodMs :=
      Timer.elapsedMs_tick judge now _ _
    obtain ⟨v, course, runs, isFree, isDue, timer⟩ := @ih
      { u with
        timer := u.timer.tick judge now u.timer.elapsedMs
        dueMs := u.nextMs periodMs
        tickedMs := u.tickedMs ++ [u.timer.elapsedMs] } (i + 1)
      running free next (Nat.succ_pos i)
      (Nat.le_trans (Nat.le_of_eq clock) (Nat.mul_le_mul_right _ (Nat.le_succ i)))
      (Nat.le_trans (Nat.le_of_eq clock) (Nat.le_of_lt before)) (by omega)
    refine ⟨v, (Relation.ReflTransGen.head waited (.head (.tick now onTime) course)), runs,
      isFree, ?_, ?_⟩
    · rw [isDue, Nat.max_eq_right another, Nat.max_eq_right (Nat.le_of_lt another)]
    · have once : u.timer.tick judge now u.timer.elapsedMs =
          { w.timer.tick judge now (i * periodMs) with elapsedMs := i * periodMs } := by
        rw [Timer.tick_eq, Timer.tick_eq]
      rw [timer, once, Timer.foldl_tick_at, List.range'_succ, List.map_cons, List.foldl_cons]

/-- A task that was not told to stop can go on to any later time, and past the ticks of it. -/
theorem exists_course_to {untilMs : Nat} (positive : 0 < periodMs) (regular : w.Regular periodMs)
    (goesOn : w.phase ≠ .stopped) (free : w.told = false)
    (later : w.timer.elapsedMs ≤ untilMs) (judge : Judge) :
    ∃ v, Course judge periodMs w v ∧ v.timer.elapsedMs = untilMs ∧ v.phase = .running ∧
      v.told = false ∧ ¬ v.IsDue ∧ v.timer.taken = w.timer.taken := by
  obtain ⟨u, begun, running, stillFree, same, regularU⟩ : ∃ u, Course judge periodMs w u ∧
      u.phase = .running ∧ u.told = false ∧ u.timer = w.timer ∧ u.Regular periodMs := by
    cases phase : w.phase with
    | starting =>
      have step : Step judge periodMs w _ := .begin phase
      exact ⟨_, .single step, rfl, free, rfl, regular.next step⟩
    | running => exact ⟨w, .refl, phase, free, rfl, regular⟩
    | stopped => exact absurd phase goesOn
  have due := regularU.due (by rw [running]; nofun)
  obtain ⟨v, course, runs, isFree, _, timer⟩ := exists_course_until positive running stillFree due
    (Nat.succ_pos _) (due ▸ regularU.inTime running) (same ▸ later) judge .genesis
  have clock : v.timer.elapsedMs = untilMs := by rw [timer]
  have taken : v.timer.taken = w.timer.taken := by
    rw [timer, ← same]
    exact Timer.taken_foldl_tick _ _
  by_cases isDue : v.IsDue
  · have regularV := regularU.course course
    refine ⟨_, (Relation.ReflTransGen.trans begun course).tail (.tick .genesis isDue), ?_, runs,
      isFree, ?_, ?_⟩
    · rw [Timer.elapsedMs_tick, clock]
    · rintro ⟨_, again⟩
      rw [Timer.elapsedMs_tick, regularV.elapsedMs_of_isDue isDue,
        regularV.nextMs_of_isDue isDue] at again
      exact absurd (Nat.le_of_mul_le_mul_right again positive) (Nat.not_succ_le_self _)
    · rw [Timer.taken_tick, taken]
  · exact ⟨v, Relation.ReflTransGen.trans begun course, clock, runs, isFree, isDue, taken⟩

theorem exists_follows_start (positive : 0 < periodMs) (judge : Judge) (l : Ledger)
    (ids : IdSupply) :
    ∃ w, Course judge periodMs (start l ids) w ∧ w.Follows periodMs (.start l ids) := by
  have step : Step judge periodMs (start l ids) _ := .begin rfl
  refine ⟨_, .single step, rfl, rfl, rfl, ?_⟩
  have first : Timer.firstTick periodMs (Timer.start l ids).elapsedMs = 1 :=
    Timer.firstTick_zero positive
  rw [first, Nat.one_mul]
  exact Nat.zero_add periodMs

namespace Follows

theorem wait (follows : w.Follows periodMs t) (positive : 0 < periodMs) (judge : Judge)
    (now : Timestamp) (durationMs : Nat) :
    ∃ v, Course judge periodMs w v ∧
      v.Follows periodMs (t.wait judge now periodMs durationMs) := by
  obtain ⟨rfl, running, free, due⟩ := follows
  obtain ⟨v, course, runs, isFree, isDue, timer⟩ := exists_course_until positive running free due
    (Nat.le_max_left _ _) (Timer.le_firstTick_mul positive _)
    (Nat.le_add_right w.timer.elapsedMs durationMs) judge now
  refine ⟨v, course, timer, runs, isFree, ?_⟩
  rw [isDue, Nat.max_eq_right (Timer.firstTick_mono (Nat.le_add_right _ _) periodMs)]
  rfl

theorem submit (follows : w.Follows periodMs t) (judge : Judge) (now : Timestamp)
    (draft : EvidenceDraft) :
    ∃ v, Course judge periodMs w v ∧ v.Follows periodMs (t.submit now draft) := by
  obtain ⟨rfl, running, free, due⟩ := follows
  refine ⟨_, .single (.submit now draft), rfl, running, free, ?_⟩
  rw [Timer.elapsedMs_submit]
  exact due

/-- Whatever happens next to a timer can happen to one with a task behind it. -/
theorem act (follows : w.Follows periodMs t) (positive : 0 < periodMs) (judge : Judge)
    (now : Timestamp) (a : Timer.Action) :
    ∃ v, Course judge periodMs w v ∧ v.Follows periodMs (t.act judge now periodMs a) := by
  obtain ⟨sleepMs, draft⟩ := a
  obtain ⟨u, waited, followsU⟩ : ∃ u, Course judge periodMs w u ∧ u.Follows periodMs
      ((sleepMs.map fun ms => t.wait judge now periodMs ms).getD t) := by
    cases sleepMs with
    | none => exact ⟨w, .refl, follows⟩
    | some ms => exact follows.wait positive judge now ms
  cases draft with
  | none => exact ⟨u, waited, followsU⟩
  | some draft =>
    obtain ⟨v, submitted, followsV⟩ := followsU.submit judge now draft
    exact ⟨v, Relation.ReflTransGen.trans waited submitted, followsV⟩

theorem run (follows : w.Follows periodMs t) (positive : 0 < periodMs) (judge : Judge)
    (now : Timestamp) (actions : List Timer.Action) :
    ∀ after ∈ t.run judge now periodMs actions,
      ∃ v, Course judge periodMs w v ∧ v.Follows periodMs after := by
  induction actions generalizing w t with
  | nil => exact fun _ member => nomatch member
  | cons a rest ih =>
    intro after member
    obtain ⟨u, course, followsU⟩ := follows.act positive judge now a
    rcases List.mem_cons.mp member with rfl | later
    · exact ⟨u, course, followsU⟩
    · obtain ⟨v, more, followsV⟩ := ih followsU after later
      exact ⟨v, Relation.ReflTransGen.trans course more, followsV⟩

end Follows

/-- A leader seals by periods, whatever the order in which the task has its turns and others submit
evidence.

The ticks take place at the ends of the periods since the start, each in its time and none of them
left out, on any node and whatever came of the ones before; until a task is told to stop it can go
on to any later time. No block is empty, and the blocks together with what waits hold what was
submitted, in its order. A node that may not seal, or has no key, seals nothing. A task that was
told to stop can stop at once, time does not go on before it has, and then nothing more is sealed.

If the configuration of a leader passes its check, the blocks of it are those of the periods that
are over, one for each in which something was submitted, and what was submitted since the last tick
waits. Only who submits at the very moment of a tick cannot tell to which period that belongs.

Every row of actions is among those that are meant here, at each of its times. -/
theorem periods_of_course {periodMs : Nat} (positive : 0 < periodMs) (l : Ledger)
    (ids : IdSupply) :
    (∀ judge w, Course judge periodMs (start l ids) w →
      w.tickedMs = (List.range w.tickedMs.length).map (fun i => (i + 1) * periodMs) ∧
      (w.phase ≠ .stopped → ¬ w.IsDue → w.tickedMs.length = w.timer.elapsedMs / periodMs) ∧
      (w.phase ≠ .stopped → w.told = false → ∀ untilMs, w.timer.elapsedMs ≤ untilMs →
        ∃ v, Course judge periodMs w v ∧ v.timer.elapsedMs = untilMs ∧ v.phase = .running ∧
          v.told = false ∧ ¬ v.IsDue ∧ v.timer.taken = w.timer.taken) ∧
      (∃ blocks, w.Holds l blocks) ∧
      (judge.identity.isLeader = false ∨ judge.identity.privateKey? = none →
        w.timer.ledger.chain = l.chain) ∧
      (w.told = true →
        (∃ v, Course judge periodMs w v ∧ v.phase = .stopped ∧ v.timer = w.timer) ∧
        ∀ v, Course judge periodMs w v → v.phase ≠ .stopped →
          v.timer.elapsedMs = w.timer.elapsedMs) ∧
      (w.phase = .stopped → ∀ v, Course judge periodMs w v →
        v.phase = .stopped ∧ v.timer.ledger.chain = w.timer.ledger.chain)) ∧
    (∀ c : NodeConfig, c.validate = .ok () → c.identity.isLeader = true →
      ∀ w, Course c.judge periodMs (start l ids) w → (∀ s ∈ w.timer.taken, s.1 ∉ w.tickedMs) →
        ∃ blocks, w.Partition periodMs l blocks) ∧
    (∀ judge now actions, ∀ t ∈ (Timer.start l ids).run judge now periodMs actions,
      ∃ w, Course judge periodMs (start l ids) w ∧ w.timer = t ∧ w.phase = .running ∧
        w.told = false) := by
  refine ⟨?_, ?_, ?_⟩
  · intro judge w course
    have regular := (regular_start l ids periodMs).course course
    refine ⟨regular.ticked, fun goesOn notDue => regular.length_tickedMs goesOn notDue positive,
      ?_, exists_holds course, fun cannot => chain_of_course cannot course, ?_, ?_⟩
    · intro goesOn free untilMs later
      exact exists_course_to positive regular goesOn free later judge
    · intro told
      exact ⟨exists_stopped told judge periodMs, fun v more => (elapsedMs_of_told told more).2⟩
    · exact fun stopped v more => stopped_of_course stopped more
  · intro c checked leads w course apart
    exact exists_partition (NodeConfig.validate_eq_ok_iff.mp checked) leads positive course apart
  · intro judge now actions t member
    obtain ⟨first, begun, follows⟩ := exists_follows_start positive judge l ids
    obtain ⟨w, course, reached⟩ := follows.run positive judge now actions t member
    exact ⟨w, Relation.ReflTransGen.trans begun course, reached.timer, reached.running,
      reached.free⟩

end Clockwork

/-! A leader that is given evidence after a while, and seals it at the end of the period. -/

namespace Sample

/-- The evidence, with an identifier. -/
def namedDraft : EvidenceDraft := { draft with evidenceId := some "ev-1" }

theorem toRecord_namedDraft (newId : String) :
    namedDraft.toRecord newId .genesis = .ok record := by
  have algorithm : checkAlgorithm namedDraft.artifact.hashAlgorithm = .ok () := by decide +kernel
  have hash : checkHash namedDraft.artifact.hash = .ok () := by decide +kernel
  have normal : normalizeHash namedDraft.artifact.hash = record.artifact.hash := by decide +kernel
  have named : namedDraft.needsId = false := by decide +kernel
  simp only [EvidenceDraft.toRecord, algorithm, hash, normal, named]
  rfl

def clockwork : Clockwork := .start (.fresh .standard) ⟨0⟩

end Sample

/-- What is submitted in the first period is sealed at the end of it. -/
theorem Clockwork.periods_of_course_of_leader :
    ∃ w block, Clockwork.Course Sample.leaderConfig.judge 20 Sample.clockwork w ∧
      w.tickedMs = [20] ∧ w.timer.taken = [(5, Sample.record)] ∧
      w.timer.ledger.chain = [Cryptography.standard.genesis, block] ∧
      block.evidences = [Sample.record] ∧ w.timer.ledger.mempool = [] := by
  obtain ⟨always, leader, _⟩ :=
    Clockwork.periods_of_course (by decide : 0 < 20) (.fresh .standard) ⟨0⟩
  obtain ⟨_, _, goesOn, _⟩ := always Sample.leaderConfig.judge Sample.clockwork .refl
  obtain ⟨u, begun, atFive, running, free, _, none⟩ := goesOn nofun rfl 5 (by decide)
  have taken : (u.timer.submit .genesis Sample.namedDraft).taken = [(5, Sample.record)] := by
    have isTaken := Ledger.submit_of_ok (l := u.timer.ledger)
      (Sample.toRecord_namedDraft u.timer.ids.next)
    rw [Timer.taken_submit, none, atFive, Timer.taken?, isTaken]
    rfl
  have submitted := begun.tail (.submit .genesis Sample.namedDraft)
  obtain ⟨_, _, goesOn, _⟩ := always Sample.leaderConfig.judge _ submitted
  obtain ⟨w, course, atTwenty, runs, _, notDue, same⟩ :=
    goesOn (by rw [running]; nofun) free 20 (by rw [Timer.elapsedMs_submit, atFive]; decide)
  have whole := Relation.ReflTransGen.trans submitted course
  rw [taken] at same
  obtain ⟨ticked, count, _⟩ := always Sample.leaderConfig.judge w whole
  rw [count (by rw [runs]; nofun) notDue, atTwenty] at ticked
  obtain ⟨blocks, partition⟩ := leader Sample.leaderConfig Sample.validate_leaderConfig rfl w whole
    (by rw [ticked, same]; decide)
  have all : w.submitted (.fresh .standard) = [(5, Sample.record)] := same
  have periods := partition.periods
  have waiting := partition.waiting
  rw [ticked, all] at periods waiting
  obtain ⟨block, rfl, evidences⟩ := List.map_eq_singleton_iff.mp periods
  exact ⟨w, block, whole, ticked, same, partition.chain, evidences, waiting⟩

end EvidenceLedger
