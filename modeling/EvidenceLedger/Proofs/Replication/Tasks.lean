import EvidenceLedger.Chain.Cryptography
import EvidenceLedger.Replication.FanOut
import Mathlib.Algebra.Order.BigOperators.Group.List
import Mathlib.Algebra.Order.Ring.Nat

/-!
# Pushes that run side by side

For each peer a task is made. It offers the block when its turn comes and waits for the answer, or
for the end of the time that a push may take, whichever is first. All tasks share one publisher,
they may take their turns in any order, and the caller goes on before any of them is finished.

Time is virtual: it stands still while anybody can do something, the caller included, and then goes
on to the next moment at which a task has something to look at. So a task looks at the answer when
it is there, and neither the order of the turns nor what becomes of other peers plays a part. What
comes of each task is what would come of it alone.
-/

namespace EvidenceLedger

/-- How far a task is. -/
inductive PushTask.Phase where
  | created
  /-- The block was offered at this time. -/
  | offered (sinceMs : Nat)
  /-- At this time it was known what came of the offer. -/
  | finished (atMs : Nat) (result : Except PushError Unit)

/-- The task of pushing a block to one peer. -/
structure PushTask where
  peer : String
  phase : PushTask.Phase

/-- What the caller of a push does. -/
inductive Caller where
  /-- It makes tasks. For these peers there is none yet. -/
  | making (left : List String)
  /-- It has got control back, and uses it. -/
  | running
  /-- It waits for something itself. -/
  | resting

/-- A push under way. -/
structure Pushing where
  clockMs : Nat
  caller : Caller
  tasks : List PushTask
  /-- The deliveries as peers and heights, in the order in which they took place. -/
  arrived : List (String × UInt64)

namespace FanOut

/-- How long the task of a peer waits. -/
def dueMs (f : FanOut) (block : Block) (peer : String) : Nat :=
  min (f.publisher peer block).afterMs f.timeoutMs

/-- What a task finds when it looks: first at the answer, then at the time. -/
def look (f : FanOut) (block : Block) (peer : String) (sinceMs nowMs : Nat) :
    Option (Except PushError Unit) :=
  let offer := f.publisher peer block
  if sinceMs + offer.afterMs ≤ nowMs then some offer.value
  else if sinceMs + f.timeoutMs ≤ nowMs then some (.error (.timeout peer f.timeoutMs))
  else none

end FanOut

namespace Caller

/-- The peers for which there is no task yet. -/
def left : Caller → List String
  | .making left => left
  | _ => []

def weight : Caller → Nat
  | .making left => 4 * left.length + 2
  | .running => 1
  | .resting => 0

end Caller

namespace PushTask

/-- When the task will have something to look at. -/
def dueMs? (f : FanOut) (block : Block) (t : PushTask) : Option Nat :=
  match t.phase with
  | .offered sinceMs => some (sinceMs + f.dueMs block t.peer)
  | _ => none

/-- The task has nothing to do at this time. -/
def Idle (f : FanOut) (block : Block) (nowMs : Nat) (t : PushTask) : Prop :=
  t.phase ≠ .created ∧ ∀ dueMs, t.dueMs? f block = some dueMs → nowMs < dueMs

/-- What came of the task. -/
def result? (t : PushTask) : Option (Except PushError Unit) :=
  match t.phase with
  | .finished _ result => some result
  | _ => none

/-- The peer has got the block. -/
def isArrived (t : PushTask) : Bool :=
  t.result?.any Except.isOk

/-- The task is where it would be without the others: it has waited from the start of the push on,
no longer than it has to, and what came of it is what comes of it alone. -/
def Fits (f : FanOut) (block : Block) (nowMs : Nat) (t : PushTask) : Prop :=
  match t.phase with
  | .created => True
  | .offered sinceMs => sinceMs = 0 ∧ nowMs ≤ f.dueMs block t.peer
  | .finished atMs result => atMs ≤ nowMs ∧ f.push block t.peer = ⟨atMs, result⟩

def weight (f : FanOut) (block : Block) (nowMs : Nat) (t : PushTask) : Nat :=
  match t.phase with
  | .created => 3
  | .offered sinceMs => if nowMs < sinceMs + f.dueMs block t.peer then 2 else 1
  | .finished _ _ => 0

end PushTask

namespace Pushing

def start (peers : List String) : Pushing :=
  ⟨0, .making peers, [], []⟩

def results (p : Pushing) : List (Option (Except PushError Unit)) :=
  p.tasks.map PushTask.result?

/-- The caller waits, and nothing is left to be done. -/
def Settled (p : Pushing) : Prop :=
  p.caller = .resting ∧ ∀ t ∈ p.tasks, t.result?.isSome

inductive Step (f : FanOut) (block : Block) (p : Pushing) : Pushing → Prop where
  | make {peer : String} {left : List String} (caller : p.caller = .making (peer :: left)) :
      Step f block p
        { p with caller := .making left, tasks := p.tasks ++ [⟨peer, .created⟩] }
  | giveBack (caller : p.caller = .making []) : Step f block p { p with caller := .running }
  | rest (caller : p.caller = .running) : Step f block p { p with caller := .resting }
  | offer {before after : List PushTask} {peer : String}
      (tasks : p.tasks = before ++ ⟨peer, .created⟩ :: after) :
      Step f block p { p with tasks := before ++ ⟨peer, .offered p.clockMs⟩ :: after }
  | finish {before after : List PushTask} {peer : String} {sinceMs : Nat}
      {result : Except PushError Unit}
      (tasks : p.tasks = before ++ ⟨peer, .offered sinceMs⟩ :: after)
      (found : f.look block peer sinceMs p.clockMs = some result) :
      Step f block p
        { p with
          tasks := before ++ ⟨peer, .finished p.clockMs result⟩ :: after
          arrived := p.arrived ++ if result.isOk then [(peer, block.height)] else [] }
  /-- Nobody can do anything, and time goes on to the next moment at which somebody can. -/
  | wait {laterMs : Nat} (caller : p.caller = .resting)
      (idle : ∀ t ∈ p.tasks, t.Idle f block p.clockMs)
      (next : ∃ t ∈ p.tasks, t.dueMs? f block = some laterMs)
      (first : ∀ t ∈ p.tasks, ∀ dueMs, t.dueMs? f block = some dueMs → laterMs ≤ dueMs) :
      Step f block p { p with clockMs := laterMs }

inductive Course (f : FanOut) (block : Block) (p : Pushing) : Nat → Pushing → Prop where
  | refl : Course f block p 0 p
  | next {steps : Nat} {q r : Pushing} (course : Course f block p steps q)
      (step : Step f block q r) : Course f block p (steps + 1) r

def weight (f : FanOut) (block : Block) (p : Pushing) : Nat :=
  p.caller.weight + (p.tasks.map (PushTask.weight f block p.clockMs)).sum

/-- Everything that holds on the way, whatever the order of the turns. -/
structure Sound (f : FanOut) (block : Block) (peers : List String) (p : Pushing) : Prop where
  peers : p.tasks.map PushTask.peer ++ p.caller.left = peers
  fits : ∀ t ∈ p.tasks, t.Fits f block p.clockMs
  arrived : p.arrived.Perm
    ((p.tasks.filter PushTask.isArrived).map fun t => (t.peer, block.height))
  early : p.clockMs = 0 ∨ p.caller = .resting ∧ ∀ t ∈ p.tasks, t.phase ≠ .created

end Pushing

variable {f : FanOut} {block : Block} {peers : List String} {p q r : Pushing}

/-- When a task finds something in time, it is what comes of its push alone. -/
theorem FanOut.push_eq_of_look {peer : String} {nowMs : Nat} {result : Except PushError Unit}
    (inTime : nowMs ≤ f.dueMs block peer) (found : f.look block peer 0 nowMs = some result) :
    f.push block peer = ⟨nowMs, result⟩ := by
  simp only [dueMs, look, push, Nat.zero_add] at *
  split at found
  · next answered =>
    obtain rfl := Option.some.inj found
    rw [if_neg (by omega), show nowMs = (f.publisher peer block).afterMs by omega]
  · split at found
    · next late =>
      obtain rfl := Option.some.inj found
      rw [if_pos (by omega), show nowMs = f.timeoutMs by omega]
    · cases found

/-- A task finds something exactly if its time has come. -/
theorem FanOut.look_isSome_iff {peer : String} {sinceMs nowMs : Nat} :
    (f.look block peer sinceMs nowMs).isSome = true ↔ sinceMs + f.dueMs block peer ≤ nowMs := by
  simp only [look, dueMs]
  split
  · simp
    omega
  · split
    · simp
      omega
    · simp
      omega

/-- Fewer elements are left where the condition is stronger. -/
theorem filter_sublist_filter {α : Type} {strong weak : α → Bool} {l : List α}
    (implies : ∀ a ∈ l, strong a = true → weak a = true) :
    (l.filter strong).Sublist (l.filter weak) := by
  have again : l.filter strong = (l.filter weak).filter strong := by
    rw [List.filter_filter]
    refine List.filter_congr ?_
    intro a member
    cases isStrong : strong a with
    | false => rfl
    | true => rw [implies a member isStrong]; rfl
  rw [again]
  exact List.filter_sublist

@[simp] theorem FanOut.afterMs_push (f : FanOut) (block : Block) (peer : String) :
    (f.push block peer).afterMs = f.dueMs block peer := by
  simp only [push, dueMs]
  split
  · next late => exact (Nat.min_eq_right (Nat.le_of_lt late)).symm
  · next inTime => exact (Nat.min_eq_left (Nat.not_lt.mp inTime)).symm

theorem PushTask.isArrived_eq_true_iff {t : PushTask} :
    t.isArrived = true ↔ ∃ result, t.result? = some result ∧ result.isOk = true := by
  unfold isArrived
  cases t.result? with
  | none => simp
  | some result => simp

namespace PushTask.Fits

variable {t : PushTask} {nowMs : Nat} {result : Except PushError Unit}

/-- What came of a task that is finished is what comes of its push alone. -/
theorem push_of_result? (fits : t.Fits f block nowMs) (finished : t.result? = some result) :
    (f.push block t.peer).value = result ∧ (f.push block t.peer).afterMs ≤ nowMs := by
  obtain ⟨peer, phase⟩ := t
  cases phase with
  | created => cases finished
  | offered sinceMs => cases finished
  | finished atMs known =>
    obtain rfl := Option.some.inj finished
    obtain ⟨past, alone⟩ := fits
    rw [alone]
    exact ⟨rfl, past⟩

/-- A task whose time is over is finished. -/
theorem result?_of_over (fits : t.Fits f block nowMs) (made : t.phase ≠ .created)
    (lapsed : (f.push block t.peer).afterMs < nowMs) :
    t.result? = some (f.push block t.peer).value := by
  obtain ⟨peer, phase⟩ := t
  cases phase with
  | created => exact absurd rfl made
  | offered sinceMs =>
    rw [FanOut.afterMs_push] at lapsed
    exact absurd fits.2 (Nat.not_le.mpr lapsed)
  | finished atMs known =>
    rw [fits.2]
    rfl

end PushTask.Fits

namespace Pushing

theorem sound_start (f : FanOut) (block : Block) (peers : List String) :
    Sound f block peers (start peers) where
  peers := rfl
  fits := by simp [start]
  arrived := List.Perm.refl _
  early := .inl rfl

/-- The deliveries so far are those of the tasks that are finished. -/
theorem perm_arrived_finish {before after : List PushTask} {peer : String} {sinceMs atMs : Nat}
    {result : Except PushError Unit} {arrived : List (String × UInt64)}
    (known : arrived.Perm (((before ++ ⟨peer, .offered sinceMs⟩ :: after).filter
      PushTask.isArrived).map fun t => (t.peer, block.height))) :
    (arrived ++ if result.isOk then [(peer, block.height)] else []).Perm
      (((before ++ ⟨peer, .finished atMs result⟩ :: after).filter
        PushTask.isArrived).map fun t => (t.peer, block.height)) := by
  rw [List.filter_append, List.filter_cons_of_neg (by simp [PushTask.isArrived, PushTask.result?])]
    at known
  cases delivered : result.isOk with
  | false =>
    rw [List.filter_append, List.filter_cons_of_neg (by
      simp [PushTask.isArrived, PushTask.result?, delivered])]
    simpa using known
  | true =>
    rw [List.filter_append, List.filter_cons_of_pos (by
      simp [PushTask.isArrived, PushTask.result?, delivered])]
    rw [List.map_append, List.map_cons]
    refine (known.append_right _).trans ?_
    rw [List.map_append, List.append_assoc]
    exact (List.perm_append_comm).append_left _

/-- No time goes by before the caller begins to wait. -/
theorem Sound.clockMs_of_not_resting (sound : p.Sound f block peers)
    (busy : p.caller ≠ .resting) : p.clockMs = 0 :=
  sound.early.resolve_right fun ⟨resting, _⟩ => busy resting

/-- Whatever is true of all tasks stays true of them if it is true of the one that changes. -/
theorem forall_mem_exchange {P : PushTask → Prop} {before after : List PushTask}
    {old new : PushTask} (holds : ∀ t ∈ before ++ old :: after, P t) (changed : P new) :
    ∀ t ∈ before ++ new :: after, P t := by
  intro t member
  rcases List.mem_append.mp member with same | atIt
  · exact holds t (List.mem_append_left _ same)
  · rcases List.mem_cons.mp atIt with rfl | same
    · exact changed
    · exact holds t (List.mem_append_right _ (List.mem_cons_of_mem _ same))

/-- A step keeps everything that holds on the way: what one task does changes nothing in another. -/
theorem Sound.next (sound : p.Sound f block peers) (step : Step f block p q) :
    q.Sound f block peers := by
  obtain ⟨isPeers, fits, arrived, early⟩ := id sound
  cases step with
  | @make peer left caller =>
    have still := sound.clockMs_of_not_resting (by rw [caller]; nofun)
    rw [caller] at isPeers
    refine ⟨?_, ?_, ?_, .inl still⟩
    · rw [← isPeers, List.map_append, List.append_assoc]
      rfl
    · intro t member
      rcases List.mem_append.mp member with old | new
      · exact fits t old
      · obtain rfl := List.mem_singleton.mp new
        trivial
    · rw [List.filter_append]
      simpa [PushTask.isArrived, PushTask.result?] using arrived
  | giveBack caller =>
    have still := sound.clockMs_of_not_resting (by rw [caller]; nofun)
    rw [caller] at isPeers
    exact ⟨isPeers, fits, arrived, .inl still⟩
  | rest caller =>
    have still := sound.clockMs_of_not_resting (by rw [caller]; nofun)
    rw [caller] at isPeers
    exact ⟨isPeers, fits, arrived, .inl still⟩
  | @offer before after peer tasks =>
    rw [tasks] at isPeers fits arrived early
    have still : p.clockMs = 0 := early.resolve_right fun ⟨_, made⟩ =>
      made ⟨peer, .created⟩ (by simp) rfl
    have fitsNow : PushTask.Fits f block p.clockMs ⟨peer, .offered p.clockMs⟩ :=
      ⟨still, still ▸ Nat.zero_le _⟩
    refine ⟨?_, forall_mem_exchange fits fitsNow, ?_, .inl still⟩
    · rw [← isPeers]
      simp
    · simpa [PushTask.isArrived, PushTask.result?, List.filter_cons] using arrived
  | @finish before after peer sinceMs result tasks found =>
    rw [tasks] at isPeers fits arrived early
    obtain ⟨rfl, inTime⟩ : sinceMs = 0 ∧ p.clockMs ≤ f.dueMs block peer :=
      fits ⟨peer, .offered sinceMs⟩ (by simp)
    have fitsNow : PushTask.Fits f block p.clockMs ⟨peer, .finished p.clockMs result⟩ :=
      ⟨Nat.le_refl _, FanOut.push_eq_of_look inTime found⟩
    refine ⟨?_, forall_mem_exchange fits fitsNow, perm_arrived_finish arrived, ?_⟩
    · rw [← isPeers]
      simp
    · refine early.imp_right ?_
      rintro ⟨resting, made⟩
      exact ⟨resting, forall_mem_exchange made nofun⟩
  | @wait laterMs caller idle next first =>
    obtain ⟨soonest, member, due⟩ := next
    have later : p.clockMs < laterMs := (idle soonest member).2 laterMs due
    refine ⟨isPeers, ?_, arrived, .inr ⟨caller, fun t member => (idle t member).1⟩⟩
    intro t member
    have before := fits t member
    have bound := first t member
    obtain ⟨peer, phase⟩ := t
    cases phase with
    | created => trivial
    | offered sinceMs =>
      obtain ⟨rfl, _⟩ := before
      have inTime := bound _ rfl
      rw [Nat.zero_add] at inTime
      exact ⟨rfl, inTime⟩
    | finished atMs result => exact ⟨Nat.le_trans before.1 (Nat.le_of_lt later), before.2⟩

theorem Sound.course {steps : Nat} (sound : p.Sound f block peers)
    (course : Course f block p steps q) : q.Sound f block peers := by
  induction course with
  | refl => exact sound
  | next _ step ih => exact ih.next step

/-- Every step is one of those that were left. -/
theorem weight_lt_of_step (step : Step f block p q) : q.weight f block < p.weight f block := by
  cases step with
  | make caller =>
    simp [weight, caller, Caller.weight, PushTask.weight]
    omega
  | giveBack caller => simp [weight, caller, Caller.weight]
  | rest caller => simp [weight, caller, Caller.weight]
  | offer tasks =>
    simp only [weight, tasks, List.map_append, List.map_cons, List.sum_append, List.sum_cons,
      PushTask.weight]
    split
    · omega
    · omega
  | @finish before after peer sinceMs result tasks found =>
    have due : sinceMs + f.dueMs block peer ≤ p.clockMs :=
      FanOut.look_isSome_iff.mp (found ▸ rfl)
    simp only [weight, tasks, List.map_append, List.map_cons, List.sum_append, List.sum_cons,
      PushTask.weight, if_neg (Nat.not_lt.mpr due)]
    omega
  | @wait laterMs caller idle next first =>
    obtain ⟨soonest, member, due⟩ := next
    have later : p.clockMs < laterMs := (idle soonest member).2 laterMs due
    refine Nat.add_lt_add_left (List.sum_lt_sum _ _ ?_ ⟨soonest, member, ?_⟩) _
    · rintro ⟨peer, phase⟩ _
      cases phase with
      | created => exact Nat.le_refl _
      | finished atMs result => exact Nat.le_refl _
      | offered sinceMs =>
        simp only [PushTask.weight]
        split
        · rw [if_pos (by omega)]
        · split
          · omega
          · omega
    · obtain ⟨peer, phase⟩ := soonest
      cases phase with
      | created => cases due
      | finished atMs result => cases due
      | offered sinceMs =>
        obtain rfl := Option.some.inj due
        simp only [PushTask.weight, if_pos later, if_neg (Nat.lt_irrefl _)]
        decide

theorem course_le {steps : Nat} (course : Course f block p steps q) :
    steps + q.weight f block ≤ p.weight f block := by
  induction course with
  | refl => exact Nat.le_of_eq (Nat.zero_add _)
  | next _ step ih =>
    have fewer := weight_lt_of_step step
    omega

/-- Somebody can always do something until nothing is left to be done. -/
theorem settled_or_exists_step (f : FanOut) (block : Block) (p : Pushing) :
    p.Settled ∨ ∃ q, Step f block p q := by
  cases caller : p.caller with
  | making left =>
    cases left with
    | nil => exact .inr ⟨_, .giveBack caller⟩
    | cons peer left => exact .inr ⟨_, .make caller⟩
  | running => exact .inr ⟨_, .rest caller⟩
  | resting =>
    by_cases idle : ∀ t ∈ p.tasks, t.Idle f block p.clockMs
    · cases soonest : (p.tasks.filterMap (PushTask.dueMs? f block)).min? with
      | some laterMs =>
        obtain ⟨due, first⟩ := List.min?_eq_some_iff.mp soonest
        refine .inr ⟨_, .wait caller idle (List.mem_filterMap.mp due) ?_⟩
        intro t member dueMs isDue
        exact first dueMs (List.mem_filterMap.mpr ⟨t, member, isDue⟩)
      | none =>
        have nothing := List.filterMap_eq_nil_iff.mp (List.min?_eq_none_iff.mp soonest)
        refine .inl ⟨caller, ?_⟩
        intro t member
        have made := (idle t member).1
        have quiet := nothing t member
        obtain ⟨peer, phase⟩ := t
        cases phase with
        | created => exact absurd rfl made
        | offered sinceMs => cases quiet
        | finished atMs result => rfl
    · obtain ⟨t, notIdle⟩ := Classical.not_forall.mp idle
      obtain ⟨member, busy⟩ := Classical.not_imp.mp notIdle
      obtain ⟨before, after, tasks⟩ := List.append_of_mem member
      obtain ⟨peer, phase⟩ := t
      cases phase with
      | created => exact .inr ⟨_, .offer tasks⟩
      | finished atMs result => exact absurd ⟨nofun, nofun⟩ busy
      | offered sinceMs =>
        have due : sinceMs + f.dueMs block peer ≤ p.clockMs := by
          refine Nat.not_lt.mp fun waits => busy ⟨nofun, ?_⟩
          intro dueMs isDue
          exact Option.some.inj isDue ▸ waits
        obtain ⟨result, found⟩ := Option.isSome_iff_exists.mp (FanOut.look_isSome_iff.mpr due)
        exact .inr ⟨_, .finish tasks found⟩

theorem Course.trans {first second : Nat} (course : Course f block p first q)
    (later : Course f block q second r) : Course f block p (first + second) r := by
  induction later with
  | refl => exact course
  | next _ step ih => exact .next ih step

/-- A push goes on until nothing is left to be done. -/
theorem exists_settled (f : FanOut) (block : Block) (p : Pushing) :
    ∃ steps q, Course f block p steps q ∧ q.Settled := by
  rcases settled_or_exists_step f block p with settled | ⟨q, step⟩
  · exact ⟨0, p, .refl, settled⟩
  · have fewer := weight_lt_of_step step
    obtain ⟨steps, last, course, settled⟩ := exists_settled f block q
    exact ⟨_, last, (Course.next .refl step).trans course, settled⟩
termination_by p.weight f block

namespace Sound

/-- When nothing is left to be done there is a task for each peer. -/
theorem peers_of_settled (sound : p.Sound f block peers) (settled : p.Settled) :
    p.tasks.map PushTask.peer = peers := by
  have all := sound.peers
  rw [settled.1] at all
  simpa [Caller.left] using all

/-- In the end the results are those of the pushes alone. -/
theorem results_of_settled (sound : p.Sound f block peers) (settled : p.Settled) :
    p.results = (f.dispatch block peers).map fun result => some result.value := by
  rw [← sound.peers_of_settled settled, FanOut.dispatch, List.map_map, List.map_map, results]
  refine List.map_congr_left ?_
  intro t member
  obtain ⟨result, finished⟩ := Option.isSome_iff_exists.mp (settled.2 t member)
  obtain ⟨value, _⟩ := (sound.fits t member).push_of_result? finished
  rw [finished, ← value]
  rfl

/-- In the end each peer whose push succeeds has got the block once for each time it is named. -/
theorem arrived_of_settled (sound : p.Sound f block peers) (settled : p.Settled) :
    p.arrived.Perm ((f.reached block peers).map fun peer => (peer, block.height)) := by
  have same : p.tasks.filter PushTask.isArrived =
      p.tasks.filter fun t => (f.push block t.peer).value.isOk := by
    refine List.filter_congr ?_
    intro t member
    obtain ⟨result, finished⟩ := Option.isSome_iff_exists.mp (settled.2 t member)
    obtain ⟨value, _⟩ := (sound.fits t member).push_of_result? finished
    rw [PushTask.isArrived, finished, value]
    rfl
  rw [← sound.peers_of_settled settled, FanOut.reached, List.filter_map, List.map_map]
  exact same ▸ sound.arrived

/-- Whoever is to get the block before now has got it. -/
theorem delivered_subperm (sound : p.Sound f block peers) :
    ((f.delivered block peers p.clockMs).map fun peer => (peer, block.height)).Subperm
      p.arrived := by
  rcases sound.early with still | ⟨resting, made⟩
  · have nobody : f.delivered block peers p.clockMs = [] := by
      simp [FanOut.delivered, still]
    rw [nobody]
    exact List.nil_subperm
  · have all := sound.peers
    rw [resting] at all
    simp only [Caller.left, List.append_nil] at all
    refine List.Subperm.trans ?_ sound.arrived.symm.subperm
    rw [← all, FanOut.delivered, List.filter_map, List.map_map]
    refine (List.Sublist.map _ ?_).subperm
    refine filter_sublist_filter ?_
    intro t member lapsed
    obtain ⟨success, lapsed⟩ := Bool.and_eq_true_iff.mp lapsed
    have finished := (sound.fits t member).result?_of_over (made t member) (of_decide_eq_true lapsed)
    rw [PushTask.isArrived, finished]
    exact success

/-- Whoever has got the block was to get it by now. -/
theorem subperm_delivered (sound : p.Sound f block peers) :
    p.arrived.Subperm ((f.delivered block peers (p.clockMs + 1)).map fun peer =>
      (peer, block.height)) := by
  refine sound.arrived.subperm.trans ?_
  rw [← sound.peers, FanOut.delivered, List.filter_append, List.map_append, List.filter_map,
    List.map_map]
  refine List.Sublist.subperm (List.Sublist.trans (List.Sublist.map _ ?_)
    (List.sublist_append_left _ _))
  refine filter_sublist_filter ?_
  intro t member arrived
  obtain ⟨result, finished, success⟩ := PushTask.isArrived_eq_true_iff.mp arrived
  obtain ⟨value, past⟩ := (sound.fits t member).push_of_result? finished
  refine Bool.and_eq_true_iff.mpr ⟨?_, decide_eq_true (Nat.lt_succ_of_le past)⟩
  show (f.push block t.peer).value.isOk = true
  rw [value]
  exact success

/-- As long as the caller is not done, nobody has got a block that takes its time. -/
theorem arrived_of_not_resting (sound : p.Sound f block peers) (busy : p.caller ≠ .resting)
    (slow : ∀ peer, (f.push block peer).value.isOk = true → 0 < (f.push block peer).afterMs) :
    p.arrived = [] := by
  have still := sound.clockMs_of_not_resting busy
  have nobody : p.tasks.filter PushTask.isArrived = [] := by
    refine List.filter_eq_nil_iff.mpr ?_
    intro t member arrived
    obtain ⟨result, finished, success⟩ := PushTask.isArrived_eq_true_iff.mp arrived
    obtain ⟨value, past⟩ := (sound.fits t member).push_of_result? finished
    have later := slow t.peer (value ▸ success)
    omega
  have none := sound.arrived
  rw [nobody] at none
  exact none.eq_nil

end Sound

end Pushing

namespace FanOut

/-- What becomes of a push through a scripted publisher. -/
theorem value_push_scripted (failing : List String) (delayMs timeoutMs : Nat) (block : Block)
    (peer : String) :
    ((FanOut.mk (.scripted failing delayMs) timeoutMs).push block peer).value =
      if timeoutMs < delayMs then .error (.timeout peer timeoutMs)
      else if peer ∈ failing then .error (.transport peer "Mock failure") else .ok () := by
  simp only [push, Publisher.scripted, List.contains_iff_mem]
  split
  · rfl
  · rfl

/-- A push that succeeds takes as long as the publisher. -/
theorem afterMs_push_of_isOk {peer : String} (success : (f.push block peer).value.isOk = true) :
    (f.push block peer).afterMs = (f.publisher peer block).afterMs := by
  simp only [push] at *
  split
  · next late =>
    rw [if_pos late] at success
    cases success
  · rfl

/-- A push to several peers is as many pushes to one, through a publisher that takes its time and
fails for some of them, whatever the order of the turns is.

Each course of it is bounded and can be brought to an end. In the end there is one result for each
entry of the list, in its order: of time that has run out if the publisher takes longer than a push
may, else of failure if the peer is one of those that fail, else of success. It is the result of a
push to that peer alone, at the end of any course. Each entry with a success has led to one delivery
of the block to that peer, and there are no others. On the way exactly those deliveries have taken
place whose time is over, apart from those that are due at the moment; and as long as the caller has
not begun to wait, none has, if the publisher takes any time. -/
theorem settled_of_course (failing peers : List String) (delayMs timeoutMs : Nat) (block : Block) :
    let f : FanOut := ⟨.scripted failing delayMs, timeoutMs⟩
    let delivery := fun peer => (peer, block.height)
    (∀ peer, (f.push block peer).value =
      if timeoutMs < delayMs then .error (.timeout peer timeoutMs)
      else if peer ∈ failing then .error (.transport peer "Mock failure") else .ok ()) ∧
    ∀ steps p, Pushing.Course f block (.start peers) steps p →
      steps ≤ 4 * peers.length + 2 ∧
      (∃ more q, Pushing.Course f block p more q ∧ q.Settled) ∧
      (p.Settled →
        p.results = (f.dispatch block peers).map (fun result => some result.value) ∧
        (∀ (i : Nat) (peer : String), peers[i]? = some peer → ∀ steps q,
          Pushing.Course f block (.start [peer]) steps q → q.Settled →
            p.results[i]? = q.results[0]?) ∧
        p.arrived.Perm ((f.reached block peers).map delivery)) ∧
      ((f.delivered block peers p.clockMs).map delivery).Subperm p.arrived ∧
      p.arrived.Subperm ((f.delivered block peers (p.clockMs + 1)).map delivery) ∧
      (0 < delayMs → p.caller ≠ .resting → p.arrived = []) := by
  intro f delivery
  refine ⟨value_push_scripted failing delayMs timeoutMs block, ?_⟩
  intro steps p course
  have sound := (Pushing.sound_start f block peers).course course
  refine ⟨?_, Pushing.exists_settled f block p, ?_, sound.delivered_subperm,
    sound.subperm_delivered, ?_⟩
  · have bound := Pushing.course_le course
    have begins : (Pushing.start peers).weight f block = 4 * peers.length + 2 := rfl
    omega
  · intro settled
    refine ⟨sound.results_of_settled settled, ?_, sound.arrived_of_settled settled⟩
    intro i peer atI steps q alone settledAlone
    have soundAlone := (Pushing.sound_start f block [peer]).course alone
    rw [sound.results_of_settled settled, soundAlone.results_of_settled settledAlone, dispatch,
      dispatch, List.map_map, List.getElem?_map, atI]
    rfl
  · intro takesTime busy
    refine sound.arrived_of_not_resting busy ?_
    intro peer success
    rw [afterMs_push_of_isOk success]
    exact takesTime

/-- One of three entries fails, and the other two name the same peer, which gets the block twice. -/
theorem settled_of_course_of_repeated :
    let f : FanOut := ⟨.scripted ["http://b"] 50, 200⟩
    let block := Cryptography.standard.genesis
    let peers := ["http://a", "http://b", "http://a"]
    ∃ steps p, Pushing.Course f block (.start peers) steps p ∧ p.Settled ∧
      p.results = [some (.ok ()), some (.error (.transport "http://b" "Mock failure")),
        some (.ok ())] ∧
      p.arrived.Perm [("http://a", 0), ("http://a", 0)] := by
  intro f block peers
  obtain ⟨steps, p, course, settled⟩ := Pushing.exists_settled f block (.start peers)
  obtain ⟨_, ends⟩ := settled_of_course ["http://b"] peers 50 200 block
  obtain ⟨_, _, outcome, _⟩ := ends steps p course
  obtain ⟨results, _, arrived⟩ := outcome settled
  exact ⟨steps, p, course, settled, results, arrived⟩

end FanOut

end EvidenceLedger
