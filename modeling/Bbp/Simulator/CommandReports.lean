import Bbp.Simulator.CommandProcessor

/-!
# Every command is reported once, and its outcome tells the truth

The invariant of the command machine has three parts.  `Custody` follows the commands: an
accepted command is in the queue, with the processor, with `Stop`, or it has its outcome, and
it is never in two of these.  `Judged` follows the controls: only the handler commits, so what
the processor reads after the handler has ended stays true of the outcome that it reports.
`Placed` is what the two threads know where they are.
-/

namespace Bbp.Commands

open Library CommandState List

section Property

/-- The outcome states that deny that anything was committed. -/
def SimulationCommandOutcomeState.denies : SimulationCommandOutcomeState → Bool
  | .failed => true
  | .cancelled => true
  | .timedOut => true
  | _ => false

/-- What the queue, the processor and the controls promise together. -/
structure ReportsOnce (capacity : Nat) (s : CommandState) : Prop where
  increasing : s.accepted.Pairwise (· < ·)
  bounded : s.queue.length ≤ capacity
  inOrder : s.executed.Pairwise (· < ·)
  once : s.stop = .returned → ∀ n, n ∈ s.accepted → (s.outcomes.map (·.1.sequence)).count n = 1
  succeeded : ∀ o, o ∈ s.outcomes → o.1.kind.mutatesNodes = true →
    o.2.state = .succeeded → (s.controls o.1.sequence).phase = .committed
  denied : ∀ o, o ∈ s.outcomes → o.1.kind.mutatesNodes = true →
    o.2.state.denies = true → (s.controls o.1.sequence).commitBegan = false
  latched : ∀ n, ¬ ((s.controls n).commitBegan = true ∧ (s.controls n).cancellationWon = true)

/-- The command that the processor has taken and not yet reported. -/
def ProcessorPlace.held : ProcessorPlace → List SimulationCommand
  | waiting => []
  | popped command => [command]
  | handling command => [command]
  | judging command _ => [command]
  | ended => []

/-- The commands that `Stop` has taken and not yet reported. -/
def StopPlace.held : StopPlace → List SimulationCommand
  | notCalled => []
  | cancelling done rest => done ++ rest
  | joining cancelled => cancelled
  | reporting _ rest => rest
  | returned => []

/-- The thread has been joined. -/
def StopPlace.joined : StopPlace → Bool
  | reporting _ _ => true
  | returned => true
  | _ => false

/-- The accepted commands that have no outcome yet, in order. -/
def CommandState.unreported (s : CommandState) : List SimulationCommand :=
  s.processor.held ++ (s.stop.held ++ s.queue)

/-- The command that the processor has taken and not yet handed to the handler. -/
def ProcessorPlace.uncalled : ProcessorPlace → List SimulationCommand
  | popped command => [command]
  | _ => []

/-- The accepted commands for which the handler has not been called yet. -/
def CommandState.unexecuted (s : CommandState) : List SimulationCommand :=
  s.processor.uncalled ++ (s.stop.held ++ s.queue)

/-- A truthful outcome: a success is committed, and a denial means that no commit has begun. -/
structure Truthful (control : SimulationCommandControl)
    (state : SimulationCommandOutcomeState) : Prop where
  succeeded : state = .succeeded → control.phase = .committed
  denied : state.denies = true → control.commitBegan = false

/-- Every accepted command is in one place, and the places are in order. -/
structure Custody (capacity : Nat) (s : CommandState) : Prop where
  increasing : s.accepted.Pairwise (· < ·)
  below : ∀ n, n ∈ s.accepted → n < s.nextSequence
  bounded : s.queue.length ≤ capacity
  inOrder : s.executed.Pairwise (· < ·)
  kept : s.accepted.Perm (s.outcomes.map (·.1.sequence) ++ s.unreported.map (·.sequence))
  sorted : s.unreported.Pairwise (·.sequence < ·.sequence)
  before : ∀ e, e ∈ s.executed → ∀ c, c ∈ s.unexecuted → e < c.sequence
  taken : ∀ e, e ∈ s.executed → e < s.nextSequence

/-- What the controls say, and the outcomes that have been read off them. -/
structure Judged (s : CommandState) : Prop where
  latched : ∀ n, (s.controls n).Latched
  /-- Only the handler begins to commit. -/
  began : ∀ n, (s.controls n).commitBegan = true → n ∈ s.executed
  controlled : ∀ c, c ∈ s.unreported → c.kind.mutatesNodes = true → c.controlled = true
  truthful : ∀ o, o ∈ s.outcomes → o.1.kind.mutatesNodes = true →
    Truthful (s.controls o.1.sequence) o.2.state

/-- What the two threads know where they are. -/
structure Placed (s : CommandState) : Prop where
  handled : ∀ c, s.processor = .handling c → c.sequence ∈ s.executed
  failing : ∀ c, s.processor = .judging c .failing → c.kind.mutatesNodes = true →
    (s.controls c.sequence).commitBegan = false
  closing : s.stop ≠ .notCalled → s.closed = true ∧ s.queue = []
  ended : s.processor = .ended → s.closed = true ∧ s.queue = []
  joined : s.stop.joined = true → s.processor = .ended

/-- The invariant of the command machine. -/
structure Sound (capacity : Nat) (s : CommandState) : Prop extends
    Custody capacity s, Judged s, Placed s

end Property

section Steps

variable {capacity : Nat} {s t : CommandState} {command : SimulationCommand}
variable {outcome : SimulationCommandOutcome} {judgement : Judgement}
variable (h : Sound capacity s)

include h

theorem Sound.mem_accepted {c : SimulationCommand}
    (hc : c ∈ s.unreported) : c.sequence ∈ s.accepted :=
  h.kept.mem_iff.mpr (mem_append_right _ (mem_map_of_mem hc))

/-- A command that is not yet reported has no outcome. -/
theorem Sound.no_outcome {c : SimulationCommand} (hc : c ∈ s.unreported)
    {o : SimulationCommand × SimulationCommandOutcome} (ho : o ∈ s.outcomes) :
    o.1.sequence ≠ c.sequence := by
  have hnodup : s.accepted.Nodup := h.increasing.imp (fun hlt => Nat.ne_of_lt hlt)
  have hall := (h.kept.nodup_iff.mp hnodup)
  exact (nodup_append.mp hall).2.2 _ (mem_map_of_mem ho) _ (mem_map_of_mem hc)

/-- A step that only hands commands on: from the queue to a thread, from the processor to the
handler, or from a thread to the outcomes. -/
theorem Sound.handOn {queue : List SimulationCommand} {closed : Bool}
    {processor : ProcessorPlace} {stop : StopPlace}
    {outcomes reported : List (SimulationCommand × SimulationCommandOutcome)}
    (houtcomes : outcomes = s.outcomes ++ reported) (hqueue : queue.length ≤ s.queue.length)
    (hunreported :
      s.unreported = reported.map (·.1) ++ (processor.held ++ (stop.held ++ queue)))
    (hunexecuted : processor.uncalled ++ (stop.held ++ queue) ⊆ s.unexecuted)
    (htruthful : ∀ o ∈ reported, o.1.kind.mutatesNodes = true →
      Truthful (s.controls o.1.sequence) o.2.state)
    (hplaced : Placed { s with queue, closed, processor, stop, outcomes }) :
    Sound capacity { s with queue, closed, processor, stop, outcomes } :=
  { hplaced, h with
    bounded := hqueue.trans h.bounded
    kept := by
      have hkept := h.kept
      rw [hunreported, map_append, map_map, ← append_assoc] at hkept
      change s.accepted.Perm (outcomes.map _ ++ _)
      rw [houtcomes, map_append]
      exact hkept
    sorted := by
      have hsorted := h.sorted
      rw [hunreported] at hsorted
      exact (pairwise_append.mp hsorted).2.1
    before := fun e he c hc => h.before e he c (hunexecuted hc)
    controlled := by
      intro c hc
      refine h.controlled c ?_
      rw [hunreported]
      exact mem_append_right _ hc
    truthful := by
      intro o ho hmutates
      change o ∈ outcomes at ho
      rw [houtcomes] at ho
      rcases mem_append.mp ho with ho | ho
      · exact h.truthful o ho hmutates
      · exact htruthful o ho hmutates }

/-- Changing a control without beginning a commit, or while its command is handled. -/
theorem Sound.setControl
    (sequence : Nat) (f : SimulationCommandControl → SimulationCommandControl)
    (hlatched : (f (s.controls sequence)).Latched)
    (hcommitted : (s.controls sequence).phase = .committed →
      (f (s.controls sequence)).phase = .committed)
    (hbegan : (f (s.controls sequence)).commitBegan = true →
      (s.controls sequence).commitBegan = true ∨
        ∃ command, s.processor = .handling command ∧ command.sequence = sequence) :
    Sound capacity (s.setControl sequence f) := by
  have hcontrol : ∀ n, (s.setControl sequence f).controls n =
      if n = sequence then f (s.controls n) else s.controls n := fun _ => rfl
  have hdenied : ∀ n, (s.controls n).commitBegan = false →
      (∀ command, s.processor = .handling command → n ≠ command.sequence) →
      ((s.setControl sequence f).controls n).commitBegan = false := by
    intro n hn hother
    rw [hcontrol]
    split
    next heq =>
      subst heq
      by_contra htrue
      rcases hbegan (Bool.not_eq_false _ ▸ htrue) with hold | ⟨command, hplace, hsequence⟩
      · rw [hn] at hold
        cases hold
      · exact hother command hplace hsequence.symm
    next => exact hn
  exact
    { h with
      latched := by
        intro n
        rw [hcontrol]
        split
        next heq =>
          rw [heq]
          exact hlatched
        next => exact h.latched n
      began := by
        intro n hn
        rw [hcontrol] at hn
        split at hn
        next heq =>
          subst heq
          rcases hbegan hn with hold | ⟨command, hplace, hsequence⟩
          · exact h.began n hold
          · rw [← hsequence]
            exact h.handled command hplace
        next => exact h.began n hn
      truthful := by
        intro o ho hmutates
        have htrue := h.truthful o ho hmutates
        refine ⟨fun hstate => ?_, fun hstate => hdenied _ (htrue.denied hstate) ?_⟩
        · have hphase := htrue.succeeded hstate
          rw [hcontrol]
          split
          next heq =>
            rw [heq] at hphase ⊢
            exact hcommitted hphase
          next => exact hphase
        · intro command hplace
          refine h.no_outcome ?_ ho
          unfold unreported
          rw [hplace]
          exact mem_cons_self
      failing := by
        intro c hc hmutates
        refine hdenied _ (h.failing c hc hmutates) ?_
        intro command hplace
        rw [show s.processor = .judging c .failing from hc] at hplace
        cases hplace }

/-- A client pushes a command; its control, if it has one, has not been committed. -/
theorem Sound.push {control : Option SimulationCommandControl} (kind : SimulationCommandKind)
    (hlatched : (control.getD .fresh).Latched)
    (hbegan : (control.getD .fresh).commitBegan = false) :
    Sound capacity (pushCommand capacity kind control s) := by
  have hnext : (s.controls s.nextSequence).commitBegan ≠ true := fun hn =>
    Nat.lt_irrefl _ (h.taken _ (h.began _ hn))
  have hset : Sound capacity (s.setControl s.nextSequence (fun _ => control.getD .fresh)) := by
    refine h.setControl _ _ hlatched ?_ ?_
    · intro hcommitted
      have hlatch := h.latched s.nextSequence
      unfold SimulationCommandControl.Latched at hlatch
      rw [hcommitted] at hlatch
      exact absurd hlatch.1 hnext
    · intro hnew
      rw [hbegan] at hnew
      cases hnew
  unfold pushCommand
  split
  · exact h
  rename_i hopen
  split
  · exact h
  rename_i hroom
  split
  · exact h
  have hstop : s.stop = .notCalled := by
    by_contra hstop
    exact hopen (h.closing hstop).1
  have hlast (held : List SimulationCommand) (command : SimulationCommand) :
      held ++ (s.stop.held ++ (s.queue ++ [command])) =
        held ++ (s.stop.held ++ s.queue) ++ [command] := by
    simp only [append_assoc]
  exact
    { hset with
      increasing := by
        refine pairwise_append.mpr ⟨h.increasing, pairwise_singleton _ _, ?_⟩
        intro a ha b hb
        rw [mem_singleton.mp hb]
        exact h.below a ha
      below := by
        intro n hn
        rcases mem_append.mp hn with hn | hn
        · exact Nat.lt_succ_of_lt (h.below n hn)
        · rw [mem_singleton.mp hn]
          exact Nat.lt_succ_self _
      bounded := by
        change (s.queue ++ [_]).length ≤ capacity
        rw [length_append, length_singleton]
        omega
      kept := by
        change (s.accepted ++ [s.nextSequence]).Perm
          (_ ++ (s.processor.held ++ (s.stop.held ++ (s.queue ++ [_]))).map _)
        rw [hlast, map_append, ← append_assoc]
        exact h.kept.append_right _
      sorted := by
        change (s.processor.held ++ (s.stop.held ++ (s.queue ++ [_]))).Pairwise _
        rw [hlast]
        refine pairwise_append.mpr ⟨h.sorted, pairwise_singleton _ _, ?_⟩
        intro a ha b hb
        rw [mem_singleton.mp hb]
        exact h.below _ (h.mem_accepted ha)
      before := by
        intro e he c hc
        change c ∈ s.processor.uncalled ++ (s.stop.held ++ (s.queue ++ [_])) at hc
        rw [hlast] at hc
        rcases mem_append.mp hc with hold | hnew
        · exact h.before e he c hold
        · rw [mem_singleton.mp hnew]
          exact h.taken e he
      taken := fun e he => Nat.lt_succ_of_lt (h.taken e he)
      controlled := by
        intro c hc hmutates
        change c ∈ s.processor.held ++ (s.stop.held ++ (s.queue ++ [_])) at hc
        rw [hlast] at hc
        rcases mem_append.mp hc with hold | hnew
        · exact h.controlled c hold hmutates
        · rw [mem_singleton.mp hnew] at hmutates ⊢
          exact Bool.or_eq_true_iff.mpr
            (.inl (SimulationCommandKind.needsControl_of_mutatesNodes hmutates))
      closing := fun hcalled => absurd hstop hcalled
      ended := fun hended => absurd (h.ended hended).1 hopen }

theorem Sound.pop (hplace : s.processor = .waiting) (hpop : waitPop s = some t) :
    Sound capacity t := by
  have hjoined : s.stop.joined ≠ true := by
    intro hjoined
    rw [h.joined hjoined] at hplace
    cases hplace
  unfold waitPop at hpop
  split at hpop
  next command rest hqueue =>
    cases hpop
    have hstop : s.stop = .notCalled := by
      by_contra hstop
      rw [(h.closing hstop).2] at hqueue
      cases hqueue
    refine h.handOn (append_nil _).symm ?_ ?_ ?_ nofun
      { handled := nofun
        failing := nofun
        closing := fun hcalled => absurd hstop hcalled
        ended := nofun
        joined := fun hstop => absurd hstop hjoined }
    · rw [hqueue]
      exact Nat.le_succ _
    · rw [unreported, hplace, hstop, hqueue]
      rfl
    · rw [unexecuted, hplace, hstop, hqueue]
      exact Subset.refl _
  next hqueue =>
    split at hpop <;> cases hpop
    next hclosed =>
      refine h.handOn (append_nil _).symm le_rfl ?_ ?_ nofun
        { handled := nofun
          failing := nofun
          closing := h.closing
          ended := fun _ => ⟨hclosed, hqueue⟩
          joined := fun _ => rfl }
      · rw [unreported, hplace]
        rfl
      · rw [unexecuted, hplace]
        exact Subset.refl _

theorem Sound.execute (hplace : s.processor = .popped command) :
    Sound capacity
      { s with
        processor := .handling command
        executed := s.executed ++ [command.sequence] } := by
  have hunreported : s.unreported = command :: (s.stop.held ++ s.queue) := by
    rw [unreported, hplace]
    rfl
  have hunexecuted : s.unexecuted = command :: (s.stop.held ++ s.queue) := by
    rw [unexecuted, hplace]
    rfl
  have hsorted := h.sorted
  have hkept := h.kept
  have hcontrolled := h.controlled
  rw [hunreported] at hsorted hkept hcontrolled
  exact
    { h with
      inOrder := by
        refine pairwise_append.mpr ⟨h.inOrder, pairwise_singleton _ _, ?_⟩
        intro a ha b hb
        rw [mem_singleton.mp hb]
        refine h.before a ha command ?_
        rw [hunexecuted]
        exact mem_cons_self
      kept := hkept
      sorted := hsorted
      before := by
        intro e he c hc
        change c ∈ s.stop.held ++ s.queue at hc
        rcases mem_append.mp he with he | he
        · refine h.before e he c ?_
          rw [hunexecuted]
          exact mem_cons_of_mem _ hc
        · rw [mem_singleton.mp he]
          exact (pairwise_cons.mp hsorted).1 c hc
      taken := by
        intro e he
        rcases mem_append.mp he with he | he
        · exact h.taken e he
        · rw [mem_singleton.mp he]
          refine h.below _ (h.mem_accepted ?_)
          rw [hunreported]
          exact mem_cons_self
      began := fun n hn => mem_append_left _ (h.began n hn)
      controlled := hcontrolled
      handled := by
        intro c hc
        cases hc
        exact mem_append_right _ mem_cons_self
      failing := nofun
      ended := nofun
      joined := fun hstop => absurd (h.joined hstop) (by rw [hplace]; nofun) }

section Held

variable (hheld : s.processor.held = [command])

include hheld

/-- While the processor is at work, `Stop` has not joined it. -/
theorem Sound.not_joined : s.stop.joined ≠ true := by
  intro hstop
  rw [h.joined hstop] at hheld
  cases hheld

omit h in
theorem CommandState.held_mem : command ∈ s.unreported := by
  unfold unreported
  rw [hheld]
  exact mem_cons_self

/-- Moving to another judgement of the command at hand. -/
theorem Sound.judging (hfailing : judgement = .failing → command.kind.mutatesNodes = true →
      (s.controls command.sequence).commitBegan = false) :
    Sound capacity { s with processor := .judging command judgement } := by
  refine h.handOn (append_nil _).symm le_rfl ?_ (subset_append_right _ _) nofun
    { handled := nofun
      failing := ?_
      closing := h.closing
      ended := nofun
      joined := fun hstop => absurd hstop (h.not_joined hheld) }
  · rw [unreported, hheld]
    rfl
  · intro c hc
    cases hc
    exact hfailing rfl

/-- The processor reports the command at hand. -/
theorem Sound.reports
    (htruthful : command.kind.mutatesNodes = true →
      Truthful (s.controls command.sequence) outcome.state) :
    Sound capacity { s.report command outcome with processor := .waiting } := by
  refine h.handOn rfl le_rfl ?_ (subset_append_right _ _)
    (forall_mem_singleton.mpr htruthful)
    { handled := nofun
      failing := nofun
      closing := h.closing
      ended := nofun
      joined := fun hstop => absurd hstop (h.not_joined hheld) }
  rw [unreported, hheld]
  rfl

end Held

/-- A command whose outcome is not unconfirmed has not begun to commit. -/
theorem Sound.commitBegan_of_confirmed (hcommand : command ∈ s.unreported)
    (hmutates : command.kind.mutatesNodes = true)
    (hconfirmed : s.outcomeUnconfirmed command = false) :
    (s.controls command.sequence).commitBegan = false := by
  rw [outcomeUnconfirmed, nodeMutationCommitStarted, hmutates,
    h.controlled command hcommand hmutates, Bool.or_eq_false_iff] at hconfirmed
  have hphase := hconfirmed.2
  rw [Bool.true_and, Bool.true_and, Bool.or_eq_false_iff] at hphase
  exact (h.latched _).commitBegan_false (beq_eq_false_iff_ne.mp hphase.1)
    (beq_eq_false_iff_ne.mp hphase.2)

theorem Sound.cancellationOutcome (hcommand : command ∈ s.unreported)
    (cause : SimulationCommandCancellationCause) (hmutates : command.kind.mutatesNodes = true) :
    Truthful (s.controls command.sequence) (s.cancellationOutcome command cause).state := by
  unfold CommandState.cancellationOutcome
  dsimp only
  cases hconfirmed : s.outcomeUnconfirmed command with
  | true =>
    rw [if_pos rfl]
    exact ⟨nofun, nofun⟩
  | false =>
    have hbegan := h.commitBegan_of_confirmed hcommand hmutates hconfirmed
    rw [if_neg Bool.false_ne_true]
    split
    all_goals exact ⟨nofun, fun _ => hbegan⟩

omit h in
theorem returnedOutcome_truthful (s : CommandState) (cause : SimulationCommandCancellationCause)
    (hmutates : command.kind.mutatesNodes = true) :
    Truthful (s.controls command.sequence) (s.returnedOutcome command cause).state := by
  unfold returnedOutcome
  dsimp only
  rw [hmutates, Bool.true_and]
  split
  · exact ⟨nofun, nofun⟩
  next hcommitted =>
    rw [Bool.or_eq_true, not_or] at hcommitted
    refine ⟨fun _ => ?_, nofun⟩
    by_contra hphase
    exact hcommitted.2 (bne_iff_ne.mpr hphase)

theorem Sound.judge (hplace : s.processor = .judging command judgement) :
    Sound capacity (judge s command judgement) := by
  have hheld : s.processor.held = [command] := by
    rw [hplace]
    rfl
  have hcommand := held_mem hheld
  cases judgement with
  | cancellation | returned => exact h.judging hheld nofun
  | cancellationState cause => exact h.reports hheld (h.cancellationOutcome hcommand cause)
  | returnedState cause => exact h.reports hheld (returnedOutcome_truthful s cause)
  | raised =>
    rw [Commands.judge]
    split
    all_goals exact h.judging hheld nofun
  | raisedOpen =>
    rw [Commands.judge]
    cases hconfirmed : s.outcomeUnconfirmed command with
    | true =>
      rw [if_pos rfl]
      exact h.judging hheld nofun
    | false =>
      rw [if_neg Bool.false_ne_true]
      exact h.judging hheld
        (fun _ hmutates => h.commitBegan_of_confirmed hcommand hmutates hconfirmed)
  | unconfirmed => exact h.reports hheld (fun _ => ⟨nofun, nofun⟩)
  | failing => exact h.reports hheld (fun hmutates => ⟨nofun, fun _ => h.failing _ hplace hmutates⟩)

/-- A cancellation moves no control that has left its open phase. -/
theorem Sound.requestCancellation (sequence : Nat) (cause : SimulationCommandCancellationCause) :
    Sound capacity (s.setControl sequence (·.requestCancellation cause)) := by
  refine h.setControl _ _ ((h.latched sequence).requestCancellation cause) ?_ ?_
  · intro hcommitted
    rw [SimulationCommandControl.requestCancellation_committed hcommitted]
    exact hcommitted
  · intro hbegan
    rw [SimulationCommandControl.requestCancellation_commitBegan] at hbegan
    exact .inl hbegan

/-- `Stop` goes on with the commands that it has taken. -/
theorem Sound.stopMove (hcalled : s.stop ≠ .notCalled) {place : StopPlace}
    (hheld : place.held = s.stop.held) (hjoined : place.joined = true → s.processor = .ended) :
    Sound capacity { s with stop := place } := by
  refine h.handOn (append_nil _).symm le_rfl ?_ ?_ nofun
    { h with closing := fun _ => h.closing hcalled, joined := hjoined }
  · rw [hheld]
    rfl
  · rw [hheld]
    exact Subset.refl _

theorem Sound.stopBegins (hstop : s.stop = .notCalled) :
    Sound capacity { s with closed := true, queue := [], stop := .cancelling [] s.queue } := by
  have hheld : (StopPlace.cancelling [] s.queue).held ++ [] = s.stop.held ++ s.queue := by
    rw [hstop]
    exact append_nil _
  refine h.handOn (append_nil _).symm (Nat.zero_le _) ?_ ?_ nofun
    { h with closing := fun _ => ⟨rfl, rfl⟩, ended := fun _ => ⟨rfl, rfl⟩, joined := nofun }
  · rw [hheld]
    rfl
  · rw [hheld]
    exact Subset.refl _

theorem Sound.stopCancels {done rest : List SimulationCommand}
    (hstop : s.stop = .cancelling done (command :: rest)) :
    Sound capacity (stopCancels s done command rest) := by
  have hheld : (StopPlace.cancelling (done ++ [command]) rest).held = s.stop.held := by
    rw [hstop]
    exact append_assoc _ _ _
  have hcalled : s.stop ≠ .notCalled := by
    rw [hstop]
    nofun
  unfold Commands.stopCancels
  dsimp only
  split
  · exact (h.requestCancellation command.sequence .applicationShutdown).stopMove hcalled hheld nofun
  · exact h.stopMove hcalled hheld nofun

/-- `Stop` reports the first of its commands: the processor has ended by then. -/
theorem Sound.stopReports
    {cause : SimulationCommandCancellationCause} {rest : List SimulationCommand}
    (hstop : s.stop = .reporting (some cause) (command :: rest)) :
    Sound capacity { s.report command (s.cancellationOutcome command cause) with
      stop := .reporting none rest } := by
  have hcalled : s.stop ≠ .notCalled := by
    rw [hstop]
    nofun
  have hended : s.processor = .ended := h.joined (by rw [hstop]; rfl)
  have hunreported : s.unreported = command :: (rest ++ s.queue) := by
    rw [unreported, hended, hstop]
    rfl
  refine h.handOn rfl le_rfl ?_ ?_ (forall_mem_singleton.mpr (h.cancellationOutcome ?_ cause))
    { h with closing := fun _ => h.closing hcalled, joined := fun _ => hended }
  · change _ = [command] ++ (s.processor.held ++ (rest ++ s.queue))
    rw [hunreported, hended]
    rfl
  · change s.processor.uncalled ++ (rest ++ s.queue) ⊆ _
    rw [unexecuted, hended, hstop]
    exact subset_cons_self _ _
  · rw [hunreported]
    exact mem_cons_self

omit h in
/-- The control that comes with a command, when it may come with it. -/
theorem given_control {control : Option SimulationCommandControl}
    (h : control.all (fun c => !c.commitBegan && (c.phase == .open || c.phase == .cancelled) &&
      c.cancellationWon == (c.phase == .cancelled)) = true) :
    (control.getD .fresh).Latched ∧ (control.getD .fresh).commitBegan = false := by
  cases control with
  | none => exact ⟨⟨rfl, rfl⟩, rfl⟩
  | some c =>
    change (_ && _ && _) = true at h
    rw [Bool.and_eq_true, Bool.and_eq_true, Bool.not_eq_true', beq_iff_eq] at h
    obtain ⟨⟨hbegan, hphase⟩, hwon⟩ := h
    refine ⟨?_, hbegan⟩
    change SimulationCommandControl.Latched c
    unfold SimulationCommandControl.Latched
    split
    next hopen =>
      rw [hopen] at hwon
      exact ⟨hbegan, hwon⟩
    next hcancelled =>
      rw [hcancelled] at hwon
      exact ⟨hbegan, hwon⟩
    next hstarted =>
      rw [hstarted] at hphase
      cases hphase
    next hcommitted =>
      rw [hcommitted] at hphase
      cases hphase

theorem commandStep_sound (action : CommandAction)
    (hstep : commandStep capacity s action = some t) : Sound capacity t := by
  cases action with
  | push kind control =>
    rw [commandStep] at hstep
    split at hstep <;> cases hstep
    next hgiven => exact h.push kind (given_control hgiven).1 (given_control hgiven).2
  | close =>
    cases hstep
    exact
      { h with
        closing := fun hcalled => ⟨rfl, (h.closing hcalled).2⟩
        ended := fun hended => ⟨rfl, (h.ended hended).2⟩ }
  | cancel sequence cause =>
    cases hstep
    exact h.requestCancellation sequence cause
  | requestStop sequence =>
    rw [commandStep] at hstep
    split at hstep <;> cases hstep
    exact h.setControl _ _ (h.latched sequence) (fun hphase => hphase) .inl
  | pop =>
    rw [commandStep] at hstep
    split at hstep
    next hplace => exact h.pop hplace hstep
    next => cases hstep
  | check =>
    rw [commandStep] at hstep
    split at hstep
    next command hplace =>
      split at hstep <;> cases hstep
      · exact h.judging (by rw [hplace]; rfl) nofun
      · exact h.execute hplace
    next => cases hstep
  | beginCommit =>
    rw [commandStep] at hstep
    split at hstep <;> cases hstep
    next command hplace =>
      refine h.setControl _ _ (h.latched _).tryBeginCommit ?_ (fun _ => .inr ⟨command, hplace, rfl⟩)
      intro hcommitted
      unfold SimulationCommandControl.tryBeginCommit
      rw [if_neg (by rw [hcommitted]; nofun)]
      exact hcommitted
  | markCommitted =>
    rw [commandStep] at hstep
    split at hstep
    next command hplace =>
      split at hstep <;> cases hstep
      next hstarted =>
        have hlatched := h.latched command.sequence
        unfold SimulationCommandControl.Latched at hlatched
        rw [hstarted] at hlatched
        exact h.setControl _ _ hlatched (fun _ => rfl) .inl
    next => cases hstep
  | markUnconfirmed =>
    rw [commandStep] at hstep
    split at hstep <;> cases hstep
    exact h.setControl _ _ (h.latched _) (fun hphase => hphase) .inl
  | handlerEnds ending =>
    rw [commandStep] at hstep
    split at hstep <;> cases hstep
    next command hplace =>
      refine h.judging (by rw [hplace]; rfl) ?_
      cases ending with
      | returned succeeded => cases succeeded <;> nofun
      | cancelled | unconfirmed | exception => nofun
  | judge =>
    rw [commandStep] at hstep
    split at hstep <;> cases hstep
    next command judgement hplace => exact h.judge hplace
  | stopBegins =>
    rw [commandStep] at hstep
    split at hstep <;> cases hstep
    next hstop => exact h.stopBegins hstop
  | stopCancels =>
    rw [commandStep] at hstep
    split at hstep <;> cases hstep
    next done command rest hstop => exact h.stopCancels hstop
    next done hstop =>
      refine h.stopMove (by rw [hstop]; nofun) ?_ nofun
      rw [hstop]
      exact (append_nil done).symm
  | stopJoins =>
    rw [commandStep] at hstep
    split at hstep <;> cases hstep
    next cancelled hstop hended =>
      exact h.stopMove (by rw [hstop]; nofun) (by rw [hstop]; rfl) (fun _ => hended)
  | stopReports =>
    rw [commandStep] at hstep
    split at hstep <;> cases hstep
    next command rest hstop =>
      exact h.stopMove (by rw [hstop]; nofun) (by rw [hstop]; rfl)
        (fun _ => h.joined (by rw [hstop]; rfl))
    next cause command rest hstop => exact h.stopReports hstop
    next hstop =>
      exact h.stopMove (by rw [hstop]; nofun) (by rw [hstop]; rfl)
        (fun _ => h.joined (by rw [hstop]; rfl))

end Steps

section Runs

variable {capacity : Nat}

theorem CommandState.empty_sound (capacity : Nat) : Sound capacity .empty where
  increasing := .nil
  below := nofun
  bounded := Nat.zero_le _
  inOrder := .nil
  kept := .nil
  sorted := .nil
  before := nofun
  taken := nofun
  latched := fun _ => ⟨rfl, rfl⟩
  began := nofun
  controlled := fun _ hc => absurd hc not_mem_nil
  truthful := fun _ ho => absurd ho not_mem_nil
  handled := nofun
  failing := nofun
  closing := fun hstop => absurd rfl hstop
  ended := nofun
  joined := nofun

theorem run_sound {actions : List CommandAction} {s : CommandState}
    (hrun : (commandMachine capacity).run .empty actions = some s) : Sound capacity s :=
  (commandMachine capacity).run_preserves (I := Sound capacity)
    (fun _ action _ hstep h => commandStep_sound h action hstep)
    hrun (CommandState.empty_sound capacity)

/-- When `Stop` has returned, the outcomes are those of the accepted commands. -/
theorem Sound.outcomes_of_returned {s : CommandState} (h : Sound capacity s)
    (hstop : s.stop = .returned) : s.accepted.Perm (s.outcomes.map (·.1.sequence)) := by
  have hcalled : s.stop ≠ .notCalled := by
    rw [hstop]
    nofun
  have hunreported : s.unreported = [] := by
    rw [unreported, h.joined (by rw [hstop]; rfl), hstop, (h.closing hcalled).2]
    rfl
  have hkept := h.kept
  rw [hunreported, map_nil, append_nil] at hkept
  exact hkept

/-- In every interleaving each accepted command is reported once, in a consistent way. -/
theorem commands_are_reported_once
    (capacity : Nat) (actions : List CommandAction) (s : CommandState)
    (hrun : (commandMachine capacity).run .empty actions = some s) : ReportsOnce capacity s := by
  have h := run_sound hrun
  exact
    { h with
      once := by
        intro hstop n hn
        have hnodup : s.accepted.Nodup := h.increasing.imp (fun hlt => Nat.ne_of_lt hlt)
        rw [← (h.outcomes_of_returned hstop).count_eq]
        exact List.count_eq_one_of_mem hnodup hn
      succeeded := fun o ho hmutates => (h.truthful o ho hmutates).succeeded
      denied := fun o ho hmutates => (h.truthful o ho hmutates).denied
      latched := fun n => (h.latched n).not_both }

/-- One node addition that commits, and a removal that is still queued when `Stop` comes. -/
def twoCommands : List CommandAction :=
  [.push .addNodes none, .pop, .check, .beginCommit, .cancel 1 .clientCancel, .markCommitted,
    .handlerEnds (.returned true), .judge, .judge, .push .removeNodes none, .stopBegins,
    .stopCancels, .stopCancels, .pop, .stopJoins, .stopReports, .stopReports, .stopReports]

theorem two_commands_are_reported :
    ∃ s, (commandMachine 4).run .empty twoCommands = some s ∧
      s.outcomes.map (fun o => (o.1.sequence, o.2.state)) = [(1, .succeeded), (2, .cancelled)] ∧
      s.stop = .returned ∧ ReportsOnce 4 s := by
  obtain ⟨s, hrun, hs⟩ := (commandMachine 4).run_of_any .empty twoCommands
    (fun s => decide (s.outcomes.map (fun o => (o.1.sequence, o.2.state)) =
      [(1, .succeeded), (2, .cancelled)]) && (s.stop matches .returned))
    (by decide +kernel)
  rw [Bool.and_eq_true, decide_eq_true_eq] at hs
  refine ⟨s, hrun, hs.1, ?_, commands_are_reported_once 4 twoCommands s hrun⟩
  cases hstop : s.stop with
  | returned => rfl
  | _ =>
    rw [hstop] at hs
    cases hs.2

/-- Each accepted command has its outcome or is held in one place. -/
theorem commands_never_lost (capacity : Nat) (actions : List CommandAction) (s : CommandState)
    (hrun : (commandMachine capacity).run .empty actions = some s) :
    s.accepted.Perm (s.outcomes.map (·.1.sequence) ++ s.unreported.map (·.sequence)) ∧
      ∀ n, (s.controls n).commitBegan = true → n ∈ s.executed := by
  exact ⟨(run_sound hrun).kept, (run_sound hrun).began⟩

theorem queued_never_lost :
    ∃ s, (commandMachine 4).run .empty (twoCommands.take 10) = some s ∧
      s.accepted.Perm (s.outcomes.map (·.1.sequence) ++ s.unreported.map (·.sequence)) :=
  ⟨_, rfl, (commands_never_lost 4 (twoCommands.take 10) _ rfl).1⟩

end Runs

end Bbp.Commands
