import Bbp.Library.Transition

/-!
# The probabilistic block scheduler

The scheduler thread draws a miner, marks it as in flight, and runs its handler
without the mutex.  Clients add, remove, start and stop miners meanwhile; stopping
and removing a miner wait until it is no longer in flight.  A prepared addition or
removal keeps the mutex until it is committed or dropped.

The thread remembers the *position* of the miner it has drawn, and so does a client
that waits for a miner to stop.  A removal of other miners moves the miners behind
them to the front, so that the position then belongs to another miner or to none:
`removal_moves_the_running_miner` is a run in which the thread writes behind the end
of the vector and a miner stays in flight for good.

As long as no removal moves a miner whose position somebody remembers, the flags are
exact (`in_flight_is_exact`).
-/

namespace Bbp

open Library List

section Membership

inductive SchedulerError where
  | minerRequired
  | emptyMinerIds
  | emptyAddition
  | mutationPending
  | emptyMinerId
  | alreadyPresent (nodeId : String)
  | emptyRemoval
  | removalNotUnique
  | notConfigured (nodeId : String)
  | notAMiner (nodeId : String)
deriving DecidableEq

/-- The three vectors of the scheduler. -/
structure Miners where
  minerNodeIds : List String
  activeMiners : List Bool
  inFlightMiners : List Bool
deriving DecidableEq

namespace Miners

def push (m : Miners) (nodeId : String) (active : Bool) : Miners :=
  { minerNodeIds := m.minerNodeIds ++ [nodeId]
    activeMiners := m.activeMiners ++ [active]
    inFlightMiners := m.inFlightMiners ++ [false] }

/-- The vectors with more miners. -/
def add (active : Bool) : List String → Miners → Except SchedulerError Miners
  | [], m => .ok m
  | nodeId :: rest, m =>
    if nodeId = "" then .error .emptyMinerId
    else if nodeId ∈ m.minerNodeIds then .error (.alreadyPresent nodeId)
    else add active rest (m.push nodeId active)

/-- The vectors without the requested miners. -/
def remove (requested : List String) : List String → List Bool → List Bool → Miners
  | nodeId :: ids, active :: actives, inFlight :: inFlights =>
    let rest := remove requested ids actives inFlights
    if nodeId ∈ requested then rest
    else
      { minerNodeIds := nodeId :: rest.minerNodeIds
        activeMiners := active :: rest.activeMiners
        inFlightMiners := inFlight :: rest.inFlightMiners }
  | _, _, _ => ⟨[], [], []⟩

/-- Is one of the requested miners in flight? -/
def selectedInFlight (m : Miners) (requested : List String) : Bool :=
  (range m.minerNodeIds.length).any fun index =>
    m.minerNodeIds.getD index "" ∈ requested && m.inFlightMiners.getD index false

def activeIndexes (m : Miners) : List Nat :=
  (range m.activeMiners.length).filter fun index => m.activeMiners.getD index false

end Miners

end Membership

section Scheduler

/-- The scheduler thread: it waits, or runs a handler without the mutex. -/
inductive RunnerPc where
  | waiting
  | handling (index : Nat) (nodeId : String)
  | stopped
deriving DecidableEq

/-- The miner whose production or failure handler is running. -/
def RunnerPc.running : RunnerPc → Option String
  | .handling _ nodeId => some nodeId
  | _ => none

inductive ClientPc where
  | idle
  | stopping (index : Nat) (nodeId : String) (wasActive : Bool)
  | removing (requested : List String)
  | addPrepared (next : Miners)
  | removePrepared (requested : List String) (next : Miners)
deriving DecidableEq

/-- A call that waits for miners has returned; `running` is the handler at that time. -/
structure SchedulerReturn where
  nodeIds : List String
  wasActive : Option Bool
  running : Option String
deriving DecidableEq

variable (ι : Type)

structure ProbabilisticBlockScheduler where
  miners : Miners
  started : Bool := false
  stopRequested : Bool := false
  policyChanged : Bool := false
  membershipMutationPending : Bool := false
  lock : Option ι := none
  runner : RunnerPc := .stopped
  clients : ι → ClientPc := fun _ => .idle
  outOfRange : Bool := false
  returns : List SchedulerReturn := []

inductive SchedulerAction where
  | start
  | stop
  | join
  | updatePolicy
  | takePolicy
  | draw (choice : Option Nat)
  | finish (failure : Bool)
  | exit
  | startMiner (nodeId : String)
  | stopMiner (c : ι) (nodeId : String)
  | wakeStop (c : ι)
  | prepareAdd (c : ι) (nodeIds : List String) (active : Bool)
  | commitAdd (c : ι)
  | dropAdd (c : ι)
  | prepareRemove (c : ι) (nodeIds : List String)
  | wakeRemove (c : ι)
  | cancelRemove (c : ι)
  | commitRemove (c : ι)
  | abandonRemove (c : ι)

variable {ι} [DecidableEq ι]

namespace ProbabilisticBlockScheduler

section Thread

omit [DecidableEq ι] in
def create (minerNodeIds : List String) : Except SchedulerError (ProbabilisticBlockScheduler ι) :=
  if minerNodeIds = [] then .error .minerRequired
  else if "" ∈ minerNodeIds then .error .emptyMinerIds
  else
    .ok
      { miners :=
          { minerNodeIds
            activeMiners := replicate minerNodeIds.length true
            inFlightMiners := replicate minerNodeIds.length false } }

omit [DecidableEq ι] in
/-- Write a flag; behind the end of the vector anything may happen. -/
def writeInFlight (s : ProbabilisticBlockScheduler ι) (index : Nat) (value : Bool) :
    ProbabilisticBlockScheduler ι :=
  if index < s.miners.inFlightMiners.length then
    { s with
      miners :=
        { s.miners with
          inFlightMiners := s.miners.inFlightMiners.set index value } }
  else { s with outOfRange := true }

omit [DecidableEq ι] in
/-- The period is over: perhaps an active miner is drawn. -/
def drawStep (s : ProbabilisticBlockScheduler ι) :
    Option Nat → Option (ProbabilisticBlockScheduler ι)
  | none => some s
  | some choice =>
    if s.miners.activeIndexes = [] then some s
    else
      match s.miners.activeIndexes[choice]? with
      | none => none
      | some index =>
        match s.miners.minerNodeIds[index]? with
        | none => none
        | some nodeId =>
          some
            { s.writeInFlight index true with
              runner := .handling index nodeId }

omit [DecidableEq ι] in
/-- The handlers have returned. -/
def finishStep (s : ProbabilisticBlockScheduler ι) (index : Nat) (failure : Bool) :
    ProbabilisticBlockScheduler ι :=
  { s.writeInFlight index false with
    runner := if failure then .stopped else .waiting
    stopRequested := s.stopRequested || failure }

end Thread

section Clients

def moveClient (s : ProbabilisticBlockScheduler ι) (c : ι) (pc : ClientPc) :
    ProbabilisticBlockScheduler ι :=
  { s with clients := Function.update s.clients c pc }

/-- Note which handler is running when a call returns. -/
def logReturn (s : ProbabilisticBlockScheduler ι) (nodeIds : List String)
    (wasActive : Option Bool) : ProbabilisticBlockScheduler ι :=
  { s with returns := s.returns ++ [⟨nodeIds, wasActive, s.runner.running⟩] }

omit [DecidableEq ι] in
def findMiner (s : ProbabilisticBlockScheduler ι) (nodeId : String) : Except SchedulerError Nat :=
  if s.miners.minerNodeIds.idxOf nodeId < s.miners.minerNodeIds.length then
    .ok (s.miners.minerNodeIds.idxOf nodeId)
  else .error (.notAMiner nodeId)

omit [DecidableEq ι] in
def setActive (s : ProbabilisticBlockScheduler ι) (index : Nat) (active : Bool) :
    ProbabilisticBlockScheduler ι :=
  { s with
    miners := { s.miners with activeMiners := s.miners.activeMiners.set index active } }

/-- Until the miner is no longer in flight the call waits without the mutex. -/
def stopMinerStep (s : ProbabilisticBlockScheduler ι) (c : ι) (nodeId : String) :
    ProbabilisticBlockScheduler ι :=
  match s.findMiner nodeId with
  | .error _ => s
  | .ok index =>
    let wasActive := s.miners.activeMiners.getD index false
    let s := s.setActive index false
    if s.miners.inFlightMiners.getD index false then
      s.moveClient c (.stopping index nodeId wasActive)
    else s.logReturn [nodeId] (some wasActive)

omit [DecidableEq ι] in
def checkAddition (s : ProbabilisticBlockScheduler ι) (nodeIds : List String)
    (active : Bool) : Except SchedulerError Miners :=
  if nodeIds = [] then .error .emptyAddition
  else if s.membershipMutationPending then .error .mutationPending
  else Miners.add active nodeIds s.miners

def prepareAddStep (s : ProbabilisticBlockScheduler ι) (c : ι) (nodeIds : List String)
    (active : Bool) : ProbabilisticBlockScheduler ι :=
  match s.checkAddition nodeIds active with
  | .error _ => s
  | .ok next => moveClient { s with lock := some c } c (.addPrepared next)

omit [DecidableEq ι] in
def checkRemoval (s : ProbabilisticBlockScheduler ι) (nodeIds : List String) :
    Except SchedulerError Unit :=
  if nodeIds = [] then .error .emptyRemoval
  else if ¬ nodeIds.Nodup ∨ "" ∈ nodeIds then .error .removalNotUnique
  else
    -- The source walks through an ordered set, so the least such id is reported.
    match (nodeIds.filter fun nodeId => nodeId ∉ s.miners.minerNodeIds).min? with
    | some nodeId => .error (.notConfigured nodeId)
    | none => if s.membershipMutationPending then .error .mutationPending else .ok ()

/-- The vectors without the requested miners, prepared under the mutex. -/
def prepared (s : ProbabilisticBlockScheduler ι) (c : ι) (requested : List String) :
    ProbabilisticBlockScheduler ι :=
  let next := Miners.remove requested s.miners.minerNodeIds s.miners.activeMiners
    s.miners.inFlightMiners
  (moveClient { s with lock := some c } c (.removePrepared requested next)).logReturn requested none

def prepareRemoveStep (s : ProbabilisticBlockScheduler ι) (c : ι) (requested : List String) :
    ProbabilisticBlockScheduler ι :=
  match s.checkRemoval requested with
  | .error _ => s
  | .ok () =>
    let s := { s with membershipMutationPending := true }
    if s.miners.selectedInFlight requested then s.moveClient c (.removing requested)
    else s.prepared c requested

end Clients

/-- A step of a thread that has to take the mutex. -/
def lockedStep (s : ProbabilisticBlockScheduler ι) :
    SchedulerAction ι → Option (ProbabilisticBlockScheduler ι)
  | .start =>
    if s.started then some s
    else
      some
        { s with
          started := true, stopRequested := false, policyChanged := false
          runner := .waiting }
  | .stop => if s.started then some { s with stopRequested := true } else some s
  | .join =>
    if s.started && s.stopRequested && s.runner = .stopped then some { s with started := false }
    else none
  | .updatePolicy => some { s with policyChanged := true }
  | .takePolicy =>
    match s.runner with
    | .waiting =>
      if s.stopRequested || s.membershipMutationPending then none
      else some { s with policyChanged := false }
    | _ => none
  | .draw choice =>
    match s.runner with
    | .waiting =>
      if s.stopRequested || s.policyChanged || s.membershipMutationPending then none
      else s.drawStep choice
    | _ => none
  | .finish failure =>
    match s.runner with
    | .handling index _ => some (s.finishStep index failure)
    | _ => none
  | .exit =>
    match s.runner with
    | .waiting => if s.stopRequested then some { s with runner := .stopped } else none
    | _ => none
  | .startMiner nodeId =>
    match s.findMiner nodeId with
    | .error _ => some s
    | .ok index => some (s.setActive index true)
  | .stopMiner c nodeId =>
    match s.clients c with
    | .idle => some (s.stopMinerStep c nodeId)
    | _ => none
  | .wakeStop c =>
    match s.clients c with
    | .stopping index nodeId wasActive =>
      if s.miners.inFlightMiners.getD index false then none
      else some ((s.moveClient c .idle).logReturn [nodeId] (some wasActive))
    | _ => none
  | .prepareAdd c nodeIds active =>
    match s.clients c with
    | .idle => some (s.prepareAddStep c nodeIds active)
    | _ => none
  | .prepareRemove c nodeIds =>
    match s.clients c with
    | .idle => some (s.prepareRemoveStep c nodeIds)
    | _ => none
  | .wakeRemove c =>
    match s.clients c with
    | .removing requested =>
      if s.miners.selectedInFlight requested then none
      else some (s.prepared c requested)
    | _ => none
  | .cancelRemove c =>
    match s.clients c with
    | .removing requested =>
      if s.miners.selectedInFlight requested then
        some (moveClient { s with membershipMutationPending := false } c .idle)
      else none
    | _ => none
  | _ => none

/-- A step of the client that holds the mutex; it releases it. -/
def holderStep (s : ProbabilisticBlockScheduler ι) (holder : ι) :
    SchedulerAction ι → Option (ProbabilisticBlockScheduler ι)
  | .commitAdd c =>
    match s.clients c with
    | .addPrepared next =>
      if c = holder then some (moveClient { s with miners := next, lock := none } c .idle)
      else none
    | _ => none
  | .dropAdd c =>
    match s.clients c with
    | .addPrepared _ =>
      if c = holder then some (moveClient { s with lock := none } c .idle)
      else none
    | _ => none
  | .commitRemove c =>
    match s.clients c with
    | .removePrepared _ next =>
      if c = holder then
        some (moveClient
          { s with
            miners := next, lock := none, membershipMutationPending := false }
          c .idle)
      else none
    | _ => none
  | .abandonRemove c =>
    match s.clients c with
    | .removePrepared _ _ =>
      if c = holder then
        some (moveClient
          { s with lock := none, membershipMutationPending := false } c .idle)
      else none
    | _ => none
  | _ => none

def step (s : ProbabilisticBlockScheduler ι) (a : SchedulerAction ι) :
    Option (ProbabilisticBlockScheduler ι) :=
  match s.lock with
  | none => s.lockedStep a
  | some holder => s.holderStep holder a

end ProbabilisticBlockScheduler

variable (ι) in
/-- The scheduler thread and its clients. -/
def schedulerMachine :
    Machine (ProbabilisticBlockScheduler ι) (SchedulerAction ι) where
  step := ProbabilisticBlockScheduler.step

end Scheduler

namespace ProbabilisticBlockScheduler

section Failing

/-- The second miner is drawn, and the first one removed while its handler runs. -/
def movingActions : List (SchedulerAction Unit) :=
  [.start, .draw (some 1), .prepareRemove () ["miner-1"], .commitRemove (),
    .finish false, .stopMiner () "miner-2"]

/--
The thread writes behind the end of the vector, and the miner stays marked although
no handler is running: the call to stop it can never return.
-/
theorem removal_moves_the_running_miner :
    ∃ s t,
      create ["miner-1", "miner-2"] = .ok s ∧
      (schedulerMachine Unit).run s movingActions = some t ∧
      t.outOfRange = true ∧
      t.lock = none ∧
      t.miners.minerNodeIds = ["miner-2"] ∧ t.miners.inFlightMiners = [true] ∧
      t.runner.running = none ∧
      t.clients () = .stopping 0 "miner-2" true ∧ t.step (.wakeStop ()) = none :=
  ⟨_, _, rfl, rfl, rfl, rfl, rfl, rfl, rfl, rfl, rfl⟩

end Failing

end ProbabilisticBlockScheduler

section Vectors

namespace Miners

/-- The vectors belong together, and the flags mark the running handler. -/
structure Exact (m : Miners) (running : Option String) : Prop where
  activeLength : m.activeMiners.length = m.minerNodeIds.length
  inFlightLength : m.inFlightMiners.length = m.minerNodeIds.length
  nodup : m.minerNodeIds.Nodup
  known : ∀ nodeId, running = some nodeId → nodeId ∈ m.minerNodeIds
  flags : ∀ (i : Nat) (nodeId : String) (inFlight : Bool), m.minerNodeIds[i]? = some nodeId →
      m.inFlightMiners[i]? = some inFlight →
      (inFlight = true ↔ running = some nodeId)

variable {m next : Miners} {running : Option String} {nodeId : String}

section Reading

variable (h : m.Exact running)

include h

theorem Exact.position_unique {i j : Nat}
    (hi : m.minerNodeIds[i]? = some nodeId) (hj : m.minerNodeIds[j]? = some nodeId) : i = j := by
  obtain ⟨hlt, -⟩ := List.getElem?_eq_some_iff.mp hi
  exact (List.getElem?_inj hlt h.nodup).mp (hi.trans hj.symm)

theorem Exact.lt_inFlight {i : Nat} (hi : m.minerNodeIds[i]? = some nodeId) :
    i < m.inFlightMiners.length := by
  obtain ⟨hlt, -⟩ := List.getElem?_eq_some_iff.mp hi
  rw [h.inFlightLength]
  exact hlt

theorem Exact.getElem?_inFlight {i : Nat} (hi : m.minerNodeIds[i]? = some nodeId) :
    m.inFlightMiners[i]? = some true ↔ running = some nodeId := by
  have hflag := getElem?_eq_getElem (h.lt_inFlight hi)
  rw [hflag, Option.some_inj]
  exact h.flags i nodeId _ hi hflag

theorem Exact.getD_inFlight {i : Nat} (hi : m.minerNodeIds[i]? = some nodeId) :
    m.inFlightMiners.getD i false = true ↔ running = some nodeId := by
  have hflag := getElem?_eq_getElem (h.lt_inFlight hi)
  rw [getD_eq_getElem?_getD, hflag]
  exact h.flags i nodeId _ hi hflag

/-- Somebody waits for the requested miners exactly while one of them is running. -/
theorem Exact.selectedInFlight_iff (requested : List String) :
    m.selectedInFlight requested = true
      ↔
    ∃ nodeId ∈ requested, running = some nodeId := by
  simp only [selectedInFlight, List.any_eq_true, List.mem_range, Bool.and_eq_true,
    decide_eq_true_eq]
  constructor
  · rintro ⟨i, hlt, hmem, hflag⟩
    have hi : m.minerNodeIds[i]? = some (m.minerNodeIds.getD i "") := by
      simp [List.getElem?_eq_getElem hlt]
    exact ⟨_, hmem, (h.getD_inFlight hi).mp hflag⟩
  · rintro ⟨nodeId, hmem, hrunning⟩
    obtain ⟨i, hi⟩ := List.mem_iff_getElem?.mp (h.known nodeId hrunning)
    obtain ⟨hlt, hget⟩ := List.getElem?_eq_some_iff.mp hi
    refine ⟨i, hlt, ?_, (h.getD_inFlight hi).mpr hrunning⟩
    simpa [List.getElem?_eq_getElem hlt, hget] using hmem

end Reading

section Writing

theorem Exact.setActive (h : m.Exact running) (i : Nat) (active : Bool) :
    Exact { m with activeMiners := m.activeMiners.set i active } running :=
  { h with activeLength := by simpa using h.activeLength }

/-- A flag is written, and the handler that is running may be another one. -/
theorem Exact.write (h : m.Exact running) {i : Nat} {value : Bool} {running' : Option String}
    (hi : m.minerNodeIds[i]? = some nodeId) (hvalue : value = true ↔ running' = some nodeId)
    (hothers : ∀ other, other ≠ nodeId → (running = some other ↔ running' = some other)) :
    Exact { m with inFlightMiners := m.inFlightMiners.set i value } running' where
  activeLength := h.activeLength
  inFlightLength := by simpa using h.inFlightLength
  nodup := h.nodup
  known := by
    intro other hrunning
    by_cases hother : other = nodeId
    · rw [hother]
      exact mem_of_getElem? hi
    · exact h.known other ((hothers other hother).mpr hrunning)
  flags := by
    intro j other inFlight hj hflag
    by_cases hij : i = j
    · cases hij
      cases hi.symm.trans hj
      rw [getElem?_set_self (h.lt_inFlight hi)] at hflag
      cases hflag
      exact hvalue
    rw [getElem?_set_ne hij] at hflag
    have hother : other ≠ nodeId := by
      rintro rfl
      exact hij (h.position_unique hi hj)
    exact (h.flags j other inFlight hj hflag).trans (hothers other hother)

end Writing

section Membership

theorem Exact.push (h : m.Exact running) (hnew : nodeId ∉ m.minerNodeIds) (active : Bool) :
    (m.push nodeId active).Exact running where
  activeLength := by simp [Miners.push, h.activeLength]
  inFlightLength := by simp [Miners.push, h.inFlightLength]
  nodup := by
    simp only [Miners.push, nodup_append, h.nodup, nodup_singleton, mem_singleton, true_and]
    rintro other hother _ rfl rfl
    exact hnew hother
  known := fun other hrunning => mem_append_left _ (h.known other hrunning)
  flags := by
    intro i other inFlight hi hflag
    simp only [Miners.push] at hi hflag
    by_cases hlt : i < m.minerNodeIds.length
    · rw [getElem?_append_left hlt] at hi
      rw [getElem?_append_left (h.lt_inFlight hi)] at hflag
      exact h.flags i other inFlight hi hflag
    · rw [getElem?_append_right (by omega)] at hi
      rw [getElem?_append_right (by have := h.inFlightLength; omega)] at hflag
      obtain rfl : other = nodeId := by
        simpa using mem_of_getElem? hi
      obtain rfl : inFlight = false := by
        simpa using mem_of_getElem? hflag
      simp only [Bool.false_eq_true, false_iff]
      exact fun hrunning => hnew (h.known other hrunning)

theorem add_exact {active : Bool} {nodeIds : List String} (hadd : add active nodeIds m = .ok next)
    (h : m.Exact running) : next.Exact running ∧ m.minerNodeIds <+: next.minerNodeIds := by
  induction nodeIds generalizing m with
  | nil =>
    cases hadd
    exact ⟨h, prefix_rfl⟩
  | cons nodeId rest ih =>
    rw [add] at hadd
    split_ifs at hadd with hempty hmem
    obtain ⟨hnext, hlead⟩ := ih hadd (h.push hmem active)
    exact ⟨hnext, (prefix_append _ _).trans hlead⟩

section Remove

variable (requested : List String)

/-- The miners that stay, each one with its flags. -/
theorem remove_spec (ids : List String) (actives inFlights : List Bool)
    (hactives : actives.length = ids.length) (hinFlights : inFlights.length = ids.length) :
    let next := remove requested ids actives inFlights
    next.minerNodeIds = ids.filter (· ∉ requested) ∧
      next.activeMiners.length = next.minerNodeIds.length ∧
      next.minerNodeIds.zip next.inFlightMiners = (ids.zip inFlights).filter (·.1 ∉ requested) ∧
      next.inFlightMiners.length = next.minerNodeIds.length := by
  induction ids generalizing actives inFlights with
  | nil => simp [remove]
  | cons nodeId ids ih =>
    cases actives with
    | nil => cases hactives
    | cons active actives =>
      cases inFlights with
      | nil => cases hinFlights
      | cons inFlight inFlights =>
        obtain ⟨hids, hactive, hzip, hinFlight⟩ := ih actives inFlights
          (Nat.succ.inj hactives) (Nat.succ.inj hinFlights)
        by_cases hmem : nodeId ∈ requested
        · refine ⟨?_, ?_, ?_, ?_⟩
          · simpa [remove, hmem] using hids
          · simpa [remove, hmem] using hactive
          · simpa [remove, hmem] using hzip
          · simpa [remove, hmem] using hinFlight
        refine ⟨?_, ?_, ?_, ?_⟩
        · simpa [remove, hmem] using hids
        · simpa [remove, hmem] using hactive
        · simpa [remove, hmem] using hzip
        · simpa [remove, hmem] using hinFlight

end Remove

/-- Miners that do not run leave; the others keep their flags. -/
theorem Exact.remove (h : m.Exact running) {requested : List String}
    (hidle : m.selectedInFlight requested ≠ true) :
    (remove requested m.minerNodeIds m.activeMiners m.inFlightMiners).Exact
      running := by
  obtain ⟨hids, hactive, hzip, hinFlight⟩ := remove_spec requested m.minerNodeIds
    m.activeMiners m.inFlightMiners h.activeLength h.inFlightLength
  refine ⟨hactive, hinFlight, ?_, ?_, ?_⟩
  · rw [hids]
    exact h.nodup.filter _
  · intro nodeId hrunning
    rw [hids, mem_filter]
    refine ⟨h.known nodeId hrunning, ?_⟩
    simp only [decide_eq_true_eq]
    exact fun hmem => hidle ((h.selectedInFlight_iff _).mpr ⟨nodeId, hmem, hrunning⟩)
  · intro i nodeId inFlight hi hflag
    have hmem : (nodeId, inFlight) ∈ m.minerNodeIds.zip m.inFlightMiners := by
      have hkept : (nodeId, inFlight) ∈ zip _ _ :=
        mem_of_getElem? (getElem?_zip_eq_some.mpr ⟨hi, hflag⟩)
      rw [hzip] at hkept
      exact mem_of_mem_filter hkept
    obtain ⟨j, hj⟩ := mem_iff_getElem?.mp hmem
    obtain ⟨hid, hold⟩ := getElem?_zip_eq_some.mp hj
    exact h.flags j nodeId inFlight hid hold

/-- Miners in front of which nobody leaves keep their position. -/
theorem getElem?_remove (h : m.Exact running) {requested : List String} {index : Nat}
    (hkeep : ∀ nodeId ∈ m.minerNodeIds.take (index + 1), nodeId ∉ requested) :
    (remove requested m.minerNodeIds m.activeMiners
        m.inFlightMiners).minerNodeIds[index]?
      = m.minerNodeIds[index]? := by
  obtain ⟨hids, -⟩ := remove_spec requested m.minerNodeIds m.activeMiners
    m.inFlightMiners h.activeLength h.inFlightLength
  have hfront : (m.minerNodeIds.take (index + 1)).filter (· ∉ requested)
      = m.minerNodeIds.take (index + 1) := by
    rw [filter_eq_self]
    simpa using hkeep
  rw [hids]
  conv_lhs => rw [← take_append_drop (index + 1) m.minerNodeIds]
  rw [filter_append, hfront]
  by_cases hlt : index < m.minerNodeIds.length
  · rw [getElem?_append_left (by simp; omega)]
    simp
  · rw [drop_of_length_le (by omega), take_of_length_le (by omega)]
    simp

end Membership

end Miners

end Vectors

namespace ProbabilisticBlockScheduler

variable {ι : Type} {s t : ProbabilisticBlockScheduler ι} {c : ι} {index : Nat} {nodeId : String}
  {requested : List String} {next : Miners}

section Condition

/-- Nobody who leaves stands in front of this position or on it. -/
def keepsPosition (s : ProbabilisticBlockScheduler ι) (requested : List String) (index : Nat) :
    Bool :=
  (s.miners.minerNodeIds.take (index + 1)).all (· ∉ requested)

def keepsRunner
    (s : ProbabilisticBlockScheduler ι) (requested : List String) : Bool :=
  match s.runner with
  | .handling index _ => s.keepsPosition requested index
  | _ => true

def keepsClient (s : ProbabilisticBlockScheduler ι) (requested : List String) : ClientPc → Bool
  | .stopping index _ _ => s.keepsPosition requested index
  | _ => true

/-- The miners a prepared removal takes away. -/
def leaving : ClientPc → List String
  | .removePrepared requested _ => requested
  | _ => []

/-- A removal is committed only when it moves no miner somebody waits for. -/
def steady (s : ProbabilisticBlockScheduler ι) : SchedulerAction ι → Prop
  | .commitRemove c =>
    s.keepsRunner (leaving (s.clients c)) = true ∧
      ∀ other, s.keepsClient (leaving (s.clients c)) (s.clients other) = true
  | _ => True

instance decidableSteady [Fintype ι] (s : ProbabilisticBlockScheduler ι) :
    (a : SchedulerAction ι) → Decidable (s.steady a)
  | .commitRemove c =>
    inferInstanceAs (Decidable (s.keepsRunner (leaving (s.clients c)) = true ∧
      ∀ other, s.keepsClient (leaving (s.clients c)) (s.clients other) = true))
  | .start | .stop | .join | .updatePolicy | .takePolicy | .draw _ | .finish _
  | .exit | .startMiner _ | .stopMiner _ _ | .wakeStop _ | .prepareAdd _ _ _
  | .commitAdd _ | .dropAdd _ | .prepareRemove _ _ | .wakeRemove _
  | .cancelRemove _ | .abandonRemove _ => isTrue trivial

end Condition

section Invariant

/-- What holds about a client at its place. -/
def ClientOn (s : ProbabilisticBlockScheduler ι) (c : ι) : ClientPc → Prop
  | .idle | .removing _ => True
  | .stopping index nodeId _ => s.miners.minerNodeIds[index]? = some nodeId
  | .addPrepared next =>
    s.lock = some c ∧ next.Exact s.runner.running ∧ s.miners.minerNodeIds <+: next.minerNodeIds
  | .removePrepared requested next =>
    s.lock = some c ∧ s.miners.selectedInFlight requested ≠ true ∧
      next = Miners.remove requested s.miners.minerNodeIds s.miners.activeMiners
        s.miners.inFlightMiners

structure Inv (s : ProbabilisticBlockScheduler ι) : Prop where
  miners : s.miners.Exact s.runner.running
  position : ∀ index nodeId, s.runner = .handling index nodeId →
    s.miners.minerNodeIds[index]? = some nodeId
  unstarted : s.started = false → s.runner = .stopped
  clients : ∀ c, s.ClientOn c (s.clients c)
  inRange : s.outOfRange = false
  returns : ∀ r ∈ s.returns, ∀ nodeId ∈ r.nodeIds, r.running ≠ some nodeId

/-- Another thread's step concerns a client only where it waits for a position. -/
theorem ClientOn.carry {pc : ClientPc} (h : s.ClientOn c pc) (hlock : s.lock ≠ some c)
    (hposition : ∀ index nodeId wasActive, pc = .stopping index nodeId wasActive →
      s.miners.minerNodeIds[index]? = some nodeId →
      t.miners.minerNodeIds[index]? = some nodeId) : t.ClientOn c pc := by
  cases pc with
  | idle | removing => trivial
  | stopping index nodeId wasActive => exact hposition index nodeId wasActive rfl h
  | addPrepared | removePrepared => exact absurd h.1 hlock

/-- With the mutex free, a step that keeps the miners' names keeps the clients. -/
theorem Inv.clients_of_free (h : s.Inv) (hlock : s.lock = none)
    (hids : t.miners.minerNodeIds = s.miners.minerNodeIds) (c : ι) :
    t.ClientOn c (s.clients c) := by
  refine (h.clients c).carry (by rw [hlock]; exact nofun) ?_
  intro index nodeId wasActive _ hindex
  rw [hids]
  exact hindex

theorem Inv.logReturn (h : s.Inv) {nodeIds : List String}
    (hidle : ∀ nodeId ∈ nodeIds, s.runner.running ≠ some nodeId) (wasActive : Option Bool) :
    (s.logReturn nodeIds wasActive).Inv := by
  refine { h with returns := ?_ }
  intro r hr
  rcases mem_append.mp hr with hr | hr
  · exact h.returns r hr
  · cases mem_singleton.mp hr
    exact hidle

theorem Inv.setActive (h : s.Inv) (hlock : s.lock = none) (index : Nat) (active : Bool) :
    (s.setActive index active).Inv :=
  { h with miners := h.miners.setActive index active, clients := h.clients_of_free hlock rfl }

theorem Inv.moveClient [DecidableEq ι] (h : s.Inv) {pc : ClientPc} (hpc : s.ClientOn c pc) :
    (s.moveClient c pc).Inv := by
  refine { h with clients := ?_ }
  intro other
  by_cases hother : other = c
  · cases hother
    rw [show (s.moveClient c pc).clients c = pc from Function.update_self ..]
    exact hpc
  · rw [show (s.moveClient c pc).clients other = s.clients other from
      Function.update_of_ne hother ..]
    exact h.clients other

end Invariant

section Thread

/-- The thread writes the flag of a miner that is still at its position. -/
theorem Inv.write (h : s.Inv) (hlock : s.lock = none) {value : Bool} {runner : RunnerPc}
    (hindex : s.miners.minerNodeIds[index]? = some nodeId) (hstarted : s.started = true)
    (hrunner : ∀ i other, runner = .handling i other → i = index ∧ other = nodeId)
    (hvalue : value = true ↔ runner.running = some nodeId)
    (hothers : ∀ other, other ≠ nodeId → s.runner.running ≠ some other) :
    Inv { s.writeInFlight index value with runner } := by
  have hlt := h.miners.lt_inFlight hindex
  simp only [writeInFlight, hlt, if_true]
  refine ⟨?_, ?_, ?_, h.clients_of_free hlock rfl, h.inRange, h.returns⟩
  · refine h.miners.write hindex hvalue ?_
    intro other hother
    refine iff_of_false (hothers other hother) ?_
    intro hrunning
    cases runner with
    | waiting | stopped => cases hrunning
    | handling i name =>
      cases hrunning
      exact hother (hrunner i other rfl).2
  · intro i other hhandling
    obtain ⟨rfl, rfl⟩ := hrunner i other hhandling
    exact hindex
  · intro hunstarted
    rw [hstarted] at hunstarted
    cases hunstarted

theorem drawStep_inv (h : s.Inv) (hlock : s.lock = none) (hwaiting : s.runner = .waiting)
    {choice : Option Nat} (hstep : s.drawStep choice = some t) : t.Inv := by
  cases choice with
  | none =>
    cases hstep
    exact h
  | some choice =>
    simp only [drawStep] at hstep
    split_ifs at hstep with hnone
    · cases hstep
      exact h
    · cases hchoice : s.miners.activeIndexes[choice]? with
      | none => simp only [hchoice, reduceCtorEq] at hstep
      | some index =>
        cases hindex : s.miners.minerNodeIds[index]? with
        | none => simp only [hchoice, hindex, reduceCtorEq] at hstep
        | some nodeId =>
          simp only [hchoice, hindex] at hstep
          cases hstep
          refine h.write hlock hindex ?_ ?_ ?_ ?_
          · cases hstarted : s.started with
            | true => rfl
            | false =>
              rw [h.unstarted hstarted] at hwaiting
              cases hwaiting
          · intro i other hhandling
            cases hhandling
            exact ⟨rfl, rfl⟩
          · simp [RunnerPc.running]
          · intro other _
            rw [hwaiting]
            exact nofun

theorem finishStep_inv (h : s.Inv) (hlock : s.lock = none)
    (hhandling : s.runner = .handling index nodeId) (failure : Bool) :
    (s.finishStep index failure).Inv := by
  have hwrite : Inv
      { s.writeInFlight index false with
        runner := if failure then .stopped else .waiting } := by
    refine h.write hlock (h.position index nodeId hhandling) ?_ ?_ ?_ ?_
    · cases hstarted : s.started with
      | true => rfl
      | false =>
        rw [h.unstarted hstarted] at hhandling
        cases hhandling
    · cases failure
      · exact nofun
      · exact nofun
    · cases failure
      all_goals simp [RunnerPc.running]
    · intro other hother hrunning
      rw [hhandling] at hrunning
      cases hrunning
      exact hother rfl
  exact { hwrite with }

end Thread

section Clients

variable [DecidableEq ι]

omit [DecidableEq ι] in
theorem findMiner_ok (hfind : s.findMiner nodeId = .ok index) :
    s.miners.minerNodeIds[index]? = some nodeId := by
  unfold findMiner at hfind
  split_ifs at hfind with hlt
  cases hfind
  rw [getElem?_eq_getElem hlt, getElem_idxOf hlt]

omit [DecidableEq ι] in
/-- A miner that is not in flight is not running. -/
theorem Inv.not_running (h : s.Inv) (hindex : s.miners.minerNodeIds[index]? = some nodeId)
    (hflag : ¬ s.miners.inFlightMiners.getD index false = true) :
    ∀ other ∈ [nodeId], s.runner.running ≠ some other := by
  intro other hother
  cases mem_singleton.mp hother
  exact fun hrunning => hflag ((h.miners.getD_inFlight hindex).mpr hrunning)

theorem stopMinerStep_inv (h : s.Inv) (hlock : s.lock = none) (c : ι) (nodeId : String) :
    (s.stopMinerStep c nodeId).Inv := by
  unfold stopMinerStep
  cases hfind : s.findMiner nodeId with
  | error e => exact h
  | ok index =>
    have hindex := findMiner_ok hfind
    have hset := h.setActive hlock index false
    dsimp only
    split_ifs with hflag
    · exact hset.moveClient hindex
    · exact hset.logReturn (hset.not_running hindex hflag) _

theorem prepareAddStep_inv (h : s.Inv)
    (hlock : s.lock = none) (c : ι) (nodeIds : List String) (active : Bool) :
    (s.prepareAddStep c nodeIds active).Inv := by
  unfold prepareAddStep
  cases hcheck : s.checkAddition nodeIds active with
  | error e => exact h
  | ok next =>
    unfold checkAddition at hcheck
    split_ifs at hcheck
    obtain ⟨hnext, hlead⟩ := Miners.add_exact hcheck h.miners
    have hlocked : Inv { s with lock := some c } :=
      { h with clients := h.clients_of_free hlock rfl }
    exact hlocked.moveClient ⟨rfl, hnext, hlead⟩

/-- The miners a removal takes away are not running. -/
theorem prepared_inv (h : s.Inv) (hlock : s.lock = none)
    (hidle : ¬ s.miners.selectedInFlight requested = true) : (s.prepared c requested).Inv := by
  have hlocked : Inv { s with lock := some c } :=
    { h with clients := h.clients_of_free hlock rfl }
  have hpc : ClientOn { s with lock := some c } c
      (.removePrepared requested (Miners.remove requested s.miners.minerNodeIds
        s.miners.activeMiners s.miners.inFlightMiners)) :=
    ⟨rfl, hidle, rfl⟩
  refine (hlocked.moveClient hpc).logReturn ?_ none
  intro nodeId hmem hrunning
  exact hidle ((h.miners.selectedInFlight_iff _).mpr ⟨nodeId, hmem, hrunning⟩)

theorem prepareRemoveStep_inv (h : s.Inv)
    (hlock : s.lock = none) (c : ι) (requested : List String) :
    (s.prepareRemoveStep c requested).Inv := by
  unfold prepareRemoveStep
  cases s.checkRemoval requested with
  | error e => exact h
  | ok _ =>
    have hpending : Inv { s with membershipMutationPending := true } :=
      { h with clients := h.clients_of_free hlock rfl }
    dsimp only
    split_ifs with hflag
    · exact hpending.moveClient trivial
    · exact prepared_inv hpending hlock hflag

/-- The client that holds the mutex puts its vectors in place and releases it. -/
theorem Inv.commit (h : s.Inv) (hlock : s.lock = some c) (hnext : next.Exact s.runner.running)
    (hrunner : ∀ index nodeId, s.runner = .handling index nodeId →
      next.minerNodeIds[index]? = some nodeId)
    (hclients : ∀ other index nodeId wasActive,
      s.clients other = .stopping index nodeId wasActive →
      s.miners.minerNodeIds[index]? = some nodeId →
      next.minerNodeIds[index]? = some nodeId) (pending : Bool) :
    Inv (ProbabilisticBlockScheduler.moveClient
      { s with miners := next, lock := none, membershipMutationPending := pending }
      c .idle) := by
  refine { h with miners := hnext, position := hrunner, clients := ?_ }
  intro other
  by_cases hother : other = c
  · cases hother
    simp [ProbabilisticBlockScheduler.moveClient, ClientOn]
  simp only [ProbabilisticBlockScheduler.moveClient, Function.update_of_ne hother]
  refine (h.clients other).carry ?_ (hclients other)
  rw [hlock]
  exact fun heq => hother (Option.some.inj heq).symm

/-- The client that holds the mutex releases it and leaves the miners alone. -/
theorem Inv.release (h : s.Inv) (hlock : s.lock = some c) (pending : Bool) :
    Inv (ProbabilisticBlockScheduler.moveClient
      { s with lock := none, membershipMutationPending := pending } c .idle) :=
  h.commit hlock h.miners h.position (fun _ _ _ _ _ hindex => hindex) pending

end Clients

section Runs

variable [DecidableEq ι]

theorem lockedStep_inv (h : s.Inv) (hlock : s.lock = none) {a : SchedulerAction ι}
    (hstep : s.lockedStep a = some t) : t.Inv := by
  cases a with
  | start =>
    simp only [lockedStep] at hstep
    split_ifs at hstep with hstarted
    · cases hstep
      exact h
    · cases hstep
      have hstopped := h.unstarted (by simpa using hstarted)
      have hminers := h.miners
      rw [hstopped] at hminers
      exact ⟨hminers, nofun, nofun, h.clients_of_free hlock rfl, h.inRange, h.returns⟩
  | stop =>
    simp only [lockedStep] at hstep
    split_ifs at hstep with hstarted
    · cases hstep
      exact { h with }
    · cases hstep
      exact h
  | join =>
    simp only [lockedStep] at hstep
    split_ifs at hstep with hjoin
    cases hstep
    simp only [Bool.and_eq_true, decide_eq_true_eq] at hjoin
    exact { h with unstarted := fun _ => hjoin.2 }
  | updatePolicy =>
    cases hstep
    exact { h with }
  | takePolicy =>
    simp only [lockedStep] at hstep
    split at hstep
    next =>
      split_ifs at hstep
      cases hstep
      exact { h with }
    next => cases hstep
  | draw choice =>
    simp only [lockedStep] at hstep
    split at hstep
    next hrunner =>
      split_ifs at hstep
      exact drawStep_inv h hlock hrunner hstep
    next => cases hstep
  | finish failure =>
    simp only [lockedStep] at hstep
    split at hstep <;> cases hstep
    next hrunner =>
      exact finishStep_inv h hlock hrunner failure
  | exit =>
    simp only [lockedStep] at hstep
    split at hstep
    next hrunner =>
      split_ifs at hstep
      cases hstep
      have hminers := h.miners
      rw [hrunner] at hminers
      exact ⟨hminers, nofun, fun _ => rfl, h.clients_of_free hlock rfl, h.inRange, h.returns⟩
    next => cases hstep
  | startMiner nodeId =>
    simp only [lockedStep] at hstep
    split at hstep
    next =>
      cases hstep
      exact h
    next index _ =>
      cases hstep
      exact h.setActive hlock index true
  | stopMiner c nodeId =>
    simp only [lockedStep] at hstep
    split at hstep <;> cases hstep
    next =>
      exact stopMinerStep_inv h hlock c nodeId
  | wakeStop c =>
    simp only [lockedStep] at hstep
    split at hstep
    next index nodeId wasActive hpc =>
      split_ifs at hstep with hflag
      cases hstep
      have hindex : s.ClientOn c (.stopping index nodeId wasActive) := hpc ▸ h.clients c
      have hidle : s.ClientOn c .idle := trivial
      exact (h.moveClient hidle).logReturn (h.not_running hindex hflag) _
    next => cases hstep
  | prepareAdd c nodeIds active =>
    simp only [lockedStep] at hstep
    split at hstep <;> cases hstep
    next =>
      exact prepareAddStep_inv h hlock c nodeIds active
  | prepareRemove c nodeIds =>
    simp only [lockedStep] at hstep
    split at hstep <;> cases hstep
    next =>
      exact prepareRemoveStep_inv h hlock c nodeIds
  | wakeRemove c =>
    simp only [lockedStep] at hstep
    split at hstep
    next =>
      split_ifs at hstep with hflag
      cases hstep
      exact prepared_inv h hlock hflag
    next => cases hstep
  | cancelRemove c =>
    simp only [lockedStep] at hstep
    split at hstep
    next =>
      split_ifs at hstep with hflag
      cases hstep
      have hopen : Inv { s with membershipMutationPending := false } :=
        { h with clients := h.clients_of_free hlock rfl }
      exact hopen.moveClient trivial
    next => cases hstep
  | commitAdd | dropAdd | commitRemove | abandonRemove => cases hstep

omit [DecidableEq ι] in
theorem keepsPosition_iff :
    s.keepsPosition requested index = true
      ↔
    ∀ nodeId ∈ s.miners.minerNodeIds.take (index + 1), nodeId ∉ requested := by
  simp [keepsPosition]

theorem commitRemove_inv (h : s.Inv) (hpc : s.clients c = .removePrepared requested next)
    (hsteady : s.steady (.commitRemove c)) :
    Inv (ProbabilisticBlockScheduler.moveClient
      { s with miners := next, lock := none, membershipMutationPending := false }
      c .idle) := by
  have hclient : s.ClientOn c (.removePrepared requested next) := hpc ▸ h.clients c
  obtain ⟨hlock, hidle, rfl⟩ := hclient
  obtain ⟨hrunner, hothers⟩ := hsteady
  simp only [hpc, leaving] at hrunner hothers
  refine h.commit hlock (h.miners.remove hidle) ?_ ?_ false
  · intro index nodeId hhandling
    simp only [keepsRunner, hhandling] at hrunner
    rw [Miners.getElem?_remove h.miners (keepsPosition_iff.mp hrunner)]
    exact h.position index nodeId hhandling
  · intro other index nodeId wasActive hstopping hindex
    have hkeeps := hothers other
    simp only [keepsClient, hstopping] at hkeeps
    rw [Miners.getElem?_remove h.miners (keepsPosition_iff.mp hkeeps)]
    exact hindex

theorem commitAdd_inv (h : s.Inv) (hpc : s.clients c = .addPrepared next) :
    Inv (ProbabilisticBlockScheduler.moveClient
      { s with miners := next, lock := none } c .idle) := by
  have hclient : s.ClientOn c (.addPrepared next) := hpc ▸ h.clients c
  obtain ⟨hlock, hnext, hlead⟩ := hclient
  have hkeep : ∀ {index : Nat} {nodeId : String}, s.miners.minerNodeIds[index]? = some nodeId →
      next.minerNodeIds[index]? = some nodeId := by
    intro index nodeId hindex
    obtain ⟨hlt, -⟩ := List.getElem?_eq_some_iff.mp hindex
    rw [← hindex]
    exact (List.prefix_iff_getElem?.mp hlead index hlt).trans (List.getElem?_eq_getElem hlt).symm
  refine h.commit hlock hnext ?_ ?_ s.membershipMutationPending
  · exact fun index nodeId hhandling => hkeep (h.position index nodeId hhandling)
  · exact fun _ _ _ _ _ hindex => hkeep hindex

theorem holderStep_inv (h : s.Inv) {holder : ι} {a : SchedulerAction ι}
    (hlock : s.lock = some holder) (hstep : s.holderStep holder a = some t) (hsteady : s.steady a) :
    t.Inv := by
  cases a with
  | commitAdd c =>
    simp only [holderStep] at hstep
    split at hstep
    next hpc =>
      split_ifs at hstep
      cases hstep
      exact commitAdd_inv h hpc
    next => cases hstep
  | dropAdd c =>
    simp only [holderStep] at hstep
    split at hstep
    next =>
      split_ifs at hstep with hholder
      cases hstep
      cases hholder
      exact h.release hlock s.membershipMutationPending
    next => cases hstep
  | commitRemove c =>
    simp only [holderStep] at hstep
    split at hstep
    next hpc =>
      split_ifs at hstep
      cases hstep
      exact commitRemove_inv h hpc hsteady
    next => cases hstep
  | abandonRemove c =>
    simp only [holderStep] at hstep
    split at hstep
    next =>
      split_ifs at hstep with hholder
      cases hstep
      cases hholder
      exact h.release hlock false
    next => cases hstep
  | _ => cases hstep

theorem step_inv (a : SchedulerAction ι) (hstep : s.step a = some t) (hsteady : s.steady a)
    (h : s.Inv) : t.Inv := by
  unfold step at hstep
  cases hlock : s.lock with
  | none =>
    simp only [hlock] at hstep
    exact lockedStep_inv h hlock hstep
  | some holder =>
    simp only [hlock] at hstep
    exact holderStep_inv h hlock hstep hsteady

omit [DecidableEq ι] in
theorem create_inv {minerNodeIds : List String} (hcreate : create minerNodeIds = .ok s)
    (hnodup : minerNodeIds.Nodup) : s.Inv := by
  unfold create at hcreate
  split_ifs at hcreate
  cases hcreate
  refine ⟨⟨?_, ?_, hnodup, nofun, ?_⟩, nofun, fun _ => rfl, fun _ => trivial, rfl, nofun⟩
  · simp
  · simp
  · intro i nodeId inFlight _ hflag
    have hfalse := eq_of_mem_replicate (mem_of_getElem? hflag)
    simp [hfalse, RunnerPc.running]

/--
In every run whose removals move no miner somebody waits for, no flag is written out of
range; the flags are exact whenever the mutex is free; a call that waits for miners
returns only while none of them is running; and it can return as soon as none of them
is.
-/
theorem in_flight_is_exact {minerNodeIds : List String} {actions : List (SchedulerAction ι)}
    (hnodup : minerNodeIds.Nodup) (hcreate : create minerNodeIds = .ok s)
    (hsteady : (schedulerMachine ι).Meets steady s actions)
    (hrun : (schedulerMachine ι).run s actions = some t) :
    t.outOfRange = false ∧
      (t.lock = none → t.miners.inFlightMiners.length = t.miners.minerNodeIds.length ∧
        ∀ (i : Nat) (nodeId : String), t.miners.minerNodeIds[i]? = some nodeId →
          (t.miners.inFlightMiners[i]? = some true
            ↔ t.runner.running = some nodeId)) ∧
      (∀ r ∈ t.returns, ∀ nodeId ∈ r.nodeIds, r.running ≠ some nodeId) ∧
      (∀ c index nodeId wasActive,
        t.clients c = .stopping index nodeId wasActive →
        t.lock = none → t.runner.running ≠ some nodeId →
        (t.step (.wakeStop c)).isSome) ∧
      (∀ c requested,
        t.clients c = .removing requested →
        t.lock = none → (∀ nodeId ∈ requested, t.runner.running ≠ some nodeId) →
        (t.step (.wakeRemove c)).isSome) := by
  have h : t.Inv :=
    (schedulerMachine ι).meets_preserves (fun _ a _ => step_inv a) hsteady hrun
      (create_inv hcreate hnodup)
  refine ⟨h.inRange, ?_, h.returns, ?_, ?_⟩
  · exact fun _ => ⟨h.miners.inFlightLength, fun _ _ hi => h.miners.getElem?_inFlight hi⟩
  · intro c index nodeId wasActive hpc hlock hidle
    have hindex : t.ClientOn c (.stopping index nodeId wasActive) := hpc ▸ h.clients c
    have hflag : ¬ t.miners.inFlightMiners.getD index false = true :=
      fun hflag => hidle ((h.miners.getD_inFlight hindex).mp hflag)
    simp only [step, hlock, lockedStep, hpc, if_neg hflag, Option.isSome_some]
  · intro c requested hpc hlock hidle
    have hflag : ¬ t.miners.selectedInFlight requested = true := by
      intro hflag
      obtain ⟨nodeId, hmem, hrunning⟩ := (h.miners.selectedInFlight_iff _).mp hflag
      exact hidle nodeId hmem hrunning
    simp only [step, hlock, lockedStep, hpc, if_neg hflag, Option.isSome_some]

/-- A miner behind the running one is removed, and another client stops the running one. -/
def steadyActions : List (SchedulerAction Bool) :=
  [.start, .draw (some 0), .stopMiner false "miner-1", .prepareRemove true ["miner-2"],
    .commitRemove true, .finish false, .wakeStop false]

theorem later_miner_is_removed :
    ∃ s t,
      create ["miner-1", "miner-2"] = .ok s ∧
      (schedulerMachine Bool).Meets steady s steadyActions ∧
      (schedulerMachine Bool).run s steadyActions = some t ∧
      t.miners = ⟨["miner-1"], [false], [false]⟩ ∧
      t.returns = [⟨["miner-2"], none, some "miner-1"⟩, ⟨["miner-1"], some true, none⟩] ∧
      t.outOfRange = false :=
  ⟨_, _, rfl, by decide, rfl, rfl, rfl,
    (@in_flight_is_exact Bool _ _ _ ["miner-1", "miner-2"] steadyActions (by decide) rfl
      (by decide) rfl).1⟩

end Runs

end ProbabilisticBlockScheduler

end Bbp
