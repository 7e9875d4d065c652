import Bbp.Simulator.Reconfiguration

/-!
# How a live wallet workload completes

After an epoch that has returned, the worker sets the state `completed` when no pause,
reconfiguration or settling stop is pending and the workload has a count or a duration.
It does not ask whether the epoch has reached its limit or has yielded.  A cancelling
stop makes an epoch yield instead of ending it with a cancellation in two places: when
the stop is accepted after a reconfiguration has been applied and before the worker has
installed its new stop source, and when it is accepted between the stop check and the
yield check of a strategy that is not a transaction load.  Such a strategy also checks
its limit before the stop, so a stop during its last transaction goes unnoticed.

Stops that are accepted elsewhere are seen by the epoch, and then a completed workload
has reached its limit, or its duration has expired (`completion_needs_limit`).
-/

namespace Bbp.Simulator

open Library LiveEpoch
open LiveWalletWorkloadRecord (isTerminalLiveWalletWorkloadState)

variable {E : RandomEngine}

section Load

variable {c : EpochConfig E}

/-- The configuration of a load has the workload it is made from. -/
theorem AcceptedWorkload.loadConfig_workload (w : AcceptedWorkload E)
    {hload : isTransactionLoadStrategy w.val.strategy = true} {walletCount next : Nat}
    (h : w.loadConfig hload walletCount next = .ok c) : c.workload = w.val := by
  unfold AcceptedWorkload.loadConfig at h
  split at h
  · cases h
  split at h
  · cases h
  next planner hplanner =>
    cases h
    exact (create_fields hplanner).1

namespace EpochState

variable {s t : EpochState c}

/-- The attempts of the load have reached their limit. -/
def reachedLimit (s : EpochState c) : Bool :=
  c.attemptLimit.any (fun limit => limit ≤ s.transactionIndex)

/-- Why the producer can have left its loop. -/
structure LeftBecause (s : EpochState c) (expired : Bool) : Prop where
  cause : s.producer.phase = .left → s.producerError.isSome = true ∨ s.yielded = true ∨
      s.balanceRefreshRequired = true ∨ s.reachedLimit = true ∨
      c.workload.duration.isSome = true ∧ expired = true

variable {expired : Bool}

theorem LeftBecause.of_loop (h : s.producer.phase = .loop) : s.LeftBecause expired := by
  refine ⟨?_⟩
  intro hleft
  rw [h] at hleft
  cases hleft

/-- The variables the cause is read from stay as they are. -/
theorem LeftBecause.of_same {expired' : Bool} (h : s.LeftBecause expired)
    (hphase : t.producer.phase = .left → s.producer.phase = .left) (hsame : SameVariables s t)
    (hexpired : expired = true → expired' = true) : t.LeftBecause expired' := by
  refine ⟨?_⟩
  intro hleft
  have hcause := h.cause (hphase hleft)
  unfold reachedLimit at hcause ⊢
  rw [hsame.producerError, hsame.yielded, hsame.balanceRefreshRequired, hsame.transactionIndex]
  rcases hcause with hcause | hcause | hcause | hcause | ⟨hduration, hcause⟩
  · exact .inl hcause
  · exact .inr (.inl hcause)
  · exact .inr (.inr (.inl hcause))
  · exact .inr (.inr (.inr (.inl hcause)))
  · exact .inr (.inr (.inr (.inr ⟨hduration, hexpired hcause⟩)))

theorem ProducerMove.leftBecause {input : ProducerInput} (hmove : ProducerMove s input t)
    (h : s.LeftBecause expired) : t.LeftBecause (expired || input.expires) := by
  have hkept : expired = true → (expired || input.expires) = true := by
    rintro rfl
    rfl
  cases hmove with
  | stay hloop _ _ | stage hloop _ _ _ | advance hloop _ _ _ _ _ => exact .of_loop hloop
  | limit _ hreached hsame =>
    refine ⟨fun _ => .inr (.inr (.inr (.inl ?_)))⟩
    unfold reachedLimit
    rw [hsame.transactionIndex]
    exact hreached
  | expire _ hduration hexpires _ =>
    refine ⟨fun _ => .inr (.inr (.inr (.inr ⟨hduration, ?_⟩)))⟩
    rw [hexpires, Bool.or_true]
  | yield _ _ _ hyielded _ => exact ⟨fun _ => .inr (.inl hyielded)⟩
  | throw _ exception _ _ _ herror =>
    refine ⟨fun _ => .inl ?_⟩
    rw [herror]
    rfl
  | refresh _ _ _ hrefresh _ => exact ⟨fun _ => .inr (.inr (.inl hrefresh))⟩
  | shut hbefore _ hsame | conclude hbefore _ hsame =>
    exact h.of_same (fun _ => hbefore) hsame hkept

/-- The producer yields only when it reads a request. -/
theorem ProducerMove.yielded {input : ProducerInput} (hmove : ProducerMove s input t)
    (h : t.yielded = true) : s.yielded = true ∨ input.yields = true := by
  cases hmove with
  | stay _ _ hsame | stage _ _ _ hsame | limit _ _ hsame | expire _ _ _ hsame | shut _ _ hsame
  | conclude _ _ hsame => exact .inl (hsame.yielded.symm.trans h)
  | advance _ _ _ hyielded _ _ | throw _ _ _ _ hyielded _ | refresh _ _ hyielded _ _ =>
    exact .inl (hyielded.symm.trans h)
  | yield _ hyields _ _ _ => exact .inr hyields

/-- A load that returns has not seen a stop request. -/
theorem conclusion_not_stopped {ending : WalletWorkloadExecutionEnd} {next : Nat}
    (h : s.conclusion = .returned ending next) : s.stopRequested = false := by
  unfold conclusion at h
  split at h
  · cases h
  · cases h
  split_ifs at h with hstopped
  all_goals
    simp only [Bool.or_eq_true, not_or, Bool.not_eq_true] at hstopped
    exact hstopped.2

theorem conclusion_yielded {next : Nat} (h : s.conclusion = .returned .yielded next) :
    s.yielded = true := by
  unfold conclusion at h
  split at h
  · cases h
  · cases h
  split_ifs at h with _ hyielded
  · exact hyielded
  · cases h
  · cases h

/-- A load that returns as completed has left its loop at the limit or too late. -/
theorem conclusion_completed {next : Nat} (hleft : s.producer.phase = .left)
    (hcause : s.LeftBecause expired) (h : s.conclusion = .returned .completed next) :
    next = s.transactionIndex ∧
      (s.reachedLimit = true ∨ c.workload.duration.isSome = true ∧ expired = true) := by
  unfold conclusion at h
  split at h
  · cases h
  · cases h
  rename_i herror _
  split_ifs at h with _ hyielded hrefresh
  · cases h
  · cases h
  cases h
  refine ⟨rfl, ?_⟩
  rcases hcause.cause hleft with hcause | hcause | hcause | hcause | hcause
  · rw [herror] at hcause
    cases hcause
  · exact absurd hcause hyielded
  · refine .inl ?_
    by_contra hbelow
    refine hrefresh ?_
    rw [hcause, Bool.true_and, Bool.not_eq_true']
    exact Bool.eq_false_of_not_eq_true hbelow
  · exact .inl hcause
  · exact .inr hcause

end EpochState

end Load

section Epochs

namespace LiveEpoch

/-- There are more than `n` attempts left, if they are counted at all. -/
def isBelow (e : LiveEpoch E) (n : Nat) : Bool :=
  e.workload.val.transactionCount == 0 ||
    decide (e.nextTransactionIndex + n < e.workload.val.transactionCount)

/-- A cancelling stop ends the epoch before anything else can. -/
def seesCancellation (e : LiveEpoch E) : Bool :=
  match e.pc with
  | .funding | .starting | .preparing =>
    isTransactionLoadStrategy e.workload.val.strategy || e.isBelow 0
  | .sequential .head => e.isBelow 0
  | .sequential .working => e.isBelow 1
  | .sequential .yielding | .sequential .polling => false
  | .loading .. | .done _ => true

/-- The epoch has ended at its limit or by its duration. -/
def EndedByItself (e : LiveEpoch E) (next : Nat) : Prop :=
  (∃ limit, e.workload.val.attemptLimit = some limit ∧ limit ≤ next) ∨
    e.workload.val.duration.isSome = true ∧ e.expired = true

end LiveEpoch

/-- A request that an epoch may yield to. -/
def LiveWalletWorkloadRequest.isYielding : LiveWalletWorkloadRequest → Bool
  | .pause | .reconfigure | .stopSettle => true
  | _ => false

theorem isYielding_of {request : LiveWalletWorkloadRequest} (hnone : request ≠ .none)
    (hcancel : request ≠ .stopCancel) (hquiet : request ≠ .shutdown ∧ request ≠ .runFailure) :
    request.isYielding = true := by
  cases request with
  | none => exact absurd rfl hnone
  | stopCancel => exact absurd rfl hcancel
  | shutdown => exact absurd rfl hquiet.1
  | runFailure => exact absurd rfl hquiet.2
  | _ => rfl

theorem none_quiet :
    LiveWalletWorkloadRequest.none ≠ .shutdown ∧
      LiveWalletWorkloadRequest.none ≠ .runFailure :=
  ⟨by decide, by decide⟩

/-- What a result says about the epoch and the request. -/
def LiveEpoch.Explains (e : LiveEpoch E) (request : LiveWalletWorkloadRequest) : EpochResult → Prop
  | .returned .completed next => e.EndedByItself next
  | .returned .yielded _ => request.isYielding = true
  | _ => True

/-- What is known of a load and the request. -/
structure LoadAgrees (e : LiveEpoch E) (request : LiveWalletWorkloadRequest)
    {c : EpochConfig E} (s : EpochState c) : Prop where
  limit : c.attemptLimit = e.workload.val.attemptLimit
  workload : c.workload = e.workload.val
  advanced : TransactionLoadBalanceReservations.Advanced c.planner.val s.planner
  unfinished : s.producer.phase ≠ .done
  left : s.LeftBecause e.expired
  yielded : s.yielded = true → request ≠ .none
  cancelled : request = .stopCancel → s.stopRequested = true

/-- What is known of an epoch, the request and the stop source of the epoch. -/
def LiveEpoch.Agrees (e : LiveEpoch E) (request : LiveWalletWorkloadRequest)
    (stop : Bool) : Prop :=
  match e.pc with
  | .loading _ s => LoadAgrees e request s
  | .done result => e.Explains request result
  | _ => request = .stopCancel → stop = true ∧ e.seesCancellation = true

/-- The epoch agrees, and it is not completed by a step after a cancelling stop. -/
structure LiveEpoch.Proceeds (e : LiveEpoch E) (request : LiveWalletWorkloadRequest)
    (stop : Bool) : Prop where
  agrees : e.Agrees request stop
  cancelled : request = .stopCancel → ∀ next, e.pc ≠ .done (.returned .completed next)

namespace LiveWalletWorkloadRecord

variable {r t : LiveWalletWorkloadRecord E} {e : LiveEpoch E}

/-- Every epoch that the worker of `t` executes proceeds under the request of `r`. -/
def EpochProceeds (r t : LiveWalletWorkloadRecord E) : Prop :=
  ∀ e, t.worker = .executing e → e.Proceeds r.request r.epochStopRequested

/-- Outside of a load an epoch remembers the cancellation. -/
theorem agrees_iff (hplace : e.pc.isOutsideLoad = true) :
    e.Agrees r.request r.epochStopRequested ↔
      (r.request = .stopCancel → r.epochStopRequested = true ∧ e.seesCancellation = true) := by
  unfold LiveEpoch.Agrees
  cases hpc : e.pc with
  | loading | done =>
    rw [hpc] at hplace
    cases hplace
  | _ => exact Iff.rfl

/-- The epoch goes on outside of a load. -/
theorem proceeds_place {e' : LiveEpoch E} (hplace : e'.pc.isOutsideLoad = true)
    (h : r.request = .stopCancel → r.epochStopRequested = true ∧ e'.seesCancellation = true) :
    e'.Proceeds r.request r.epochStopRequested := by
  refine ⟨(agrees_iff hplace).mpr h, fun _ next hdone => ?_⟩
  rw [hdone] at hplace
  cases hplace

theorem load_proceeds {c : EpochConfig E} {s : EpochState c} {balances : List U64}
    {accounting : TransactionLoadSnapshot}
    (hload : isTransactionLoadStrategy e.workload.val.strategy = true)
    (hconfig : e.workload.loadConfig hload e.walletCount e.nextTransactionIndex = .ok c)
    (hstart : c.start balances accounting = .ok s)
    (h : r.request = .stopCancel → r.epochStopRequested = true) :
    LiveEpoch.Proceeds { e with pc := .loading c { s with stopRequested := r.stopRequested } }
      r.request r.epochStopRequested := by
  obtain ⟨hplanner, -, hproducer, -, -, hyielded, -⟩ := EpochConfig.start_fields hstart
  have hloop : s.producer.phase = .loop := by
    rw [hproducer]
    rfl
  refine ⟨?_, by rintro _ _ ⟨⟩⟩
  refine ⟨(e.workload.loadConfig_fields hconfig).1,
    e.workload.loadConfig_workload hconfig, ?_, ?_, .of_loop hloop, ?_, ?_⟩
  · show TransactionLoadBalanceReservations.Advanced c.planner.val s.planner
    rw [hplanner]
    exact .refl _
  · show s.producer.phase ≠ .done
    rw [hloop]
    decide
  · intro hyields
    have hyields : s.yielded = true := hyields
    rw [hyielded] at hyields
    cases hyields
  · intro hrequest
    show (r.serviceStopRequested || r.epochStopRequested) = true
    rw [h hrequest, Bool.or_true]

theorem loaded_proceeds
    {c : EpochConfig E} {s u : EpochState c} {a : EpochAction c} {expired : Bool}
    (h : LoadAgrees e r.request s) (hquiet : r.request ≠ .shutdown ∧ r.request ≠ .runFailure)
    (hexpired : e.expired = true → expired = true)
    (hproducer : ∀ input, a = .producer input →
      expired = (e.expired || input.expires) ∧ (input.yields = true → r.request ≠ .none))
    (hstep : s.step a = some u) : EpochProceeds r (r.loaded { e with expired } u) := by
  obtain ⟨hambient, hmove⟩ := EpochState.step_move h.advanced hstep
  have hleft : u.LeftBecause expired := by
    rcases hmove with hframe | ⟨input, rfl, hmove⟩
    · exact h.left.of_same (fun hphase => hframe.producer ▸ hphase) hframe.sameVariables hexpired
    · rw [(hproducer input rfl).1]
      exact hmove.leftBecause h.left
  have hyielded : u.yielded = true → r.request ≠ .none := by
    intro hu
    rcases hmove with hframe | ⟨input, rfl, hmove⟩
    · exact h.yielded (hframe.yielded.symm.trans hu)
    · rcases hmove.yielded hu with hs | hyields
      · exact h.yielded hs
      · exact (hproducer input rfl).2 hyields
  unfold loaded
  split
  next result hdone =>
    have hconclude : s.producer.phase = .left ∧ result = s.conclusion ∧
        EpochState.SameVariables s u := by
      rcases hmove with hframe | ⟨input, rfl, hmove⟩
      · have hsame := h.unfinished
        rw [← hframe.producer, hdone] at hsame
        exact absurd rfl hsame
      · exact hmove.concludes hdone
    obtain ⟨hbefore, hresult, hsame⟩ := hconclude
    rintro e' ⟨⟩
    have hexplains : LiveEpoch.Explains
        { e with expired, nextTransactionIndex := u.transactionIndex, pc := .done result }
        r.request result := by
      unfold LiveEpoch.Explains
      split
      next next =>
        have hcause := h.left.of_same (t := s) (fun hphase => hphase) ⟨rfl, rfl, rfl, rfl⟩ hexpired
        obtain ⟨hnext, hlimit | ⟨hduration, hlate⟩⟩ :=
          EpochState.conclusion_completed hbefore hcause hresult.symm
        · refine .inl ?_
          unfold EpochState.reachedLimit at hlimit
          rw [h.limit] at hlimit
          rw [hnext]
          cases hsome : e.workload.val.attemptLimit with
          | none =>
            rw [hsome] at hlimit
            cases hlimit
          | some limit =>
            rw [hsome] at hlimit
            exact ⟨limit, rfl, of_decide_eq_true hlimit⟩
        · exact .inr ⟨h.workload ▸ hduration, hlate⟩
      · refine isYielding_of (h.yielded (EpochState.conclusion_yielded hresult.symm)) ?_ hquiet
        intro hrequest
        have hstopped := EpochState.conclusion_not_stopped hresult.symm
        rw [h.cancelled hrequest] at hstopped
        cases hstopped
      · trivial
    refine ⟨hexplains, ?_⟩
    rintro hrequest next ⟨⟩
    have hstopped := EpochState.conclusion_not_stopped hresult.symm
    rw [h.cancelled hrequest] at hstopped
    cases hstopped
  next hnot =>
    rintro e' ⟨⟩
    refine ⟨⟨h.limit, h.workload, hambient.planner h.advanced, ?_, hleft, hyielded,
      fun hrequest => hambient.stop (h.cancelled hrequest)⟩,
      fun _ next hdone => nomatch hdone⟩
    intro hphase
    cases hpc : u.producer with
    | done result => exact hnot result hpc
    | _ =>
      rw [hpc] at hphase
      cases hphase

/-- The producer reads a yield request only when there is one. -/
theorem answers_yields {input : ProducerInput} (h : r.answers input = true)
    (hyields : input.yields = true) : r.request ≠ .none := by
  intro hnone
  unfold answers at h
  split at h
  · have hyields : _ = true := hyields
    simp only [hnone, bne_self_eq_false, Bool.and_eq_true, beq_iff_eq] at h
    rw [h.1] at hyields
    cases hyields
  · simp only [hnone, bne_self_eq_false, Bool.false_and, Bool.false_eq_true] at h
  rename_i hhead hschedule
  cases input with
  | head expired yieldRequested settleRequested => exact hhead _ _ _ rfl
  | schedule answer =>
    cases answer with
    | yielded settleRequested => exact hschedule _ rfl
    | _ => cases hyields
  | _ => cases hyields

theorem applyStep_proceeds {input : ApplyInput} (h : e.Agrees r.request r.epochStopRequested)
    (hquiet : r.request ≠ .shutdown ∧ r.request ≠ .runFailure)
    (hstep : r.applyStep e input = some t) : EpochProceeds r t := by
  have hcancel := fun hplace : e.pc.isOutsideLoad = true => (agrees_iff hplace).mp h
  have hstopped : e.pc.isOutsideLoad = true → r.stopRequested = false →
      r.request ≠ .stopCancel := by
    intro hplace hrunning hrequest
    unfold stopRequested at hrunning
    rw [(hcancel hplace hrequest).1, Bool.or_true] at hrunning
    cases hrunning
  -- A cancelled epoch cannot be where it looks at the request.
  have hwaits : e.pc = .sequential .yielding ∨ e.pc = .sequential .polling →
      r.request ≠ .stopCancel := by
    rintro (hpc | hpc) hrequest
    all_goals
      have hsees := (hcancel (by rw [hpc]; rfl) hrequest).2
      simp only [seesCancellation, hpc, Bool.false_eq_true] at hsees
  intro e' he
  cases applyStep_move hstep with
  | threw | unfunded =>
    cases he
    exact ⟨trivial, fun _ next hdone => nomatch hdone⟩
  | funded hpc | started hpc =>
    cases he
    refine proceeds_place rfl fun hrequest => ?_
    have hsees := hcancel (by rw [hpc]; rfl) hrequest
    simp only [seesCancellation, hpc] at hsees ⊢
    exact hsees
  | load hpc hload hconfig hstart =>
    cases he
    exact load_proceeds hload hconfig hstart
      (fun hrequest => (hcancel (by rw [hpc]; rfl) hrequest).1)
  | loaded hpc hload hexpired hread =>
    unfold LiveEpoch.Agrees at h
    rw [hpc] at h
    refine loaded_proceeds h hquiet hexpired (fun input ha => ?_) hload e' he
    exact ⟨(hread input ha).2.1, answers_yields (hread input ha).2.2⟩
  | loop hpc hload =>
    cases he
    refine proceeds_place rfl fun hrequest => ?_
    obtain ⟨hstop, hsees⟩ := hcancel (by rw [hpc]; rfl) hrequest
    simp only [seesCancellation, hpc, hload, Bool.false_or] at hsees
    exact ⟨hstop, hsees⟩
  | completed hpc hcount =>
    cases he
    refine ⟨.inl ⟨_, WalletTransactionsWorkload.attemptLimit_of_count hcount.1, hcount.2⟩, ?_⟩
    intro hrequest
    have hsees := (hcancel (by rw [hpc]; rfl) hrequest).2
    simp only [seesCancellation, hpc, isBelow, Bool.or_eq_true,
      beq_iff_eq, decide_eq_true_eq] at hsees
    omega
  | continued hpc _ hrunning | polled hpc hrunning =>
    cases he
    exact proceeds_place rfl
      (fun hrequest => absurd hrequest (hstopped (by rw [hpc]; rfl) hrunning))
  | yielded hpc hrequest =>
    cases he
    exact ⟨isYielding_of hrequest (hwaits hpc) hquiet, fun _ next hdone => nomatch hdone⟩
  | worked hpc =>
    cases he
    exact proceeds_place rfl (fun hrequest => absurd hrequest (hwaits hpc))
  | submitted hpc =>
    cases he
    refine proceeds_place rfl fun hrequest => ?_
    have hsees := hcancel (by rw [hpc]; rfl) hrequest
    simp only [seesCancellation, hpc, isBelow] at hsees ⊢
    exact hsees

end LiveWalletWorkloadRecord

end Epochs

section Records

/-- A cancelling stop that is accepted here is seen by the epoch. -/
def LivePc.seesCancellation : LivePc E → Bool
  | .reconfigured => false
  | .executing e => e.seesCancellation
  | _ => true

namespace LiveWalletWorkloadRecord

variable {r t : LiveWalletWorkloadRecord E} {e : LiveEpoch E}

/-- Cancelling stops come where they are seen, and the run is not shut down. -/
def cancelsInTime (r : LiveWalletWorkloadRecord E) : LiveAction E → Bool
  | .stop false | .cancelStart => r.worker.seesCancellation
  | .shutdown _ | .stopService => false
  | _ => true

/-- The last epoch has ended at its limit or by its duration. -/
def LastEpochEnded (r : LiveWalletWorkloadRecord E) : Prop :=
  ∃ e next, r.lastEpoch = some e ∧ e.pc = .done (.returned .completed next) ∧ e.EndedByItself next

/-- What an accepted cancelling stop leads to. -/
structure CancelKept (r : LiveWalletWorkloadRecord E) : Prop where
  request : r.request = .stopCancel
  closed : ¬ r.Open
  running : r.worker ≠ .finished → completed r.worker = false
  finished : r.worker = .finished → r.state ≠ .completed

/-- What every run keeps in which cancelling stops come in time. -/
structure Conclusive (r : LiveWalletWorkloadRecord E) : Prop where
  lifecycle : r.Lifecycle
  quiet : r.request ≠ .shutdown ∧ r.request ≠ .runFailure
  service : r.serviceStopRequested = false
  yielding : r.worker.holdsEpoch = true → r.request.isYielding = true → r.state = .stopping
  window : r.worker = .reconfigured → r.request ≠ .stopCancel
  epoch : ∀ e, r.worker = .executing e → e.Agrees r.request r.epochStopRequested
  cancelled : r.cancelAccepted = true → r.CancelKept
  ending : ∀ state outcome failure, r.worker = .ending state outcome failure →
    state ≠ .cancelled ∧ (state = .completed → r.LastEpochEnded)
  finished : r.worker = .finished → r.state ≠ .cancelled ∧ (r.state = .completed → r.LastEpochEnded)

theorem create_conclusive (id : String) (workload : AcceptedWorkload E) (walletCount : Nat) :
    (create id workload walletCount).Conclusive := by
  refine ⟨create_lifecycle id workload walletCount, ⟨?_, ?_⟩, rfl, ?_, ?_, ?_, ?_, ?_, ?_⟩
  · rintro ⟨⟩
  · rintro ⟨⟩
  · rintro ⟨⟩
  · rintro ⟨⟩
  · rintro e ⟨⟩
  · rintro ⟨⟩
  · rintro state outcome failure ⟨⟩
  · rintro ⟨⟩

section

variable (h : r.Conclusive)

include h

/-- A record with an accepted cancelling stop is not open. -/
theorem Conclusive.not_cancelled (hopen : r.Open) : r.cancelAccepted ≠ true :=
  fun hcancel => (h.cancelled hcancel).closed hopen

theorem Conclusive.not_cancelled_of_request
    (hrequest : r.request ≠ .stopCancel) : r.cancelAccepted ≠ true :=
  fun hcancel => hrequest (h.cancelled hcancel).request

theorem Conclusive.toBetween (hlife : t.Lifecycle)
    (hrequest : t.request = r.request) (hservice : t.serviceStopRequested = r.serviceStopRequested)
    (hcancel : t.cancelAccepted = r.cancelAccepted)
    (hstate : t.state = r.state ∨ r.request ≠ .stopCancel) (hplace : t.worker.isBetween = true) :
    t.Conclusive := by
  have hnot : ∀ {worker : LivePc E}, worker.isBetween = false → t.worker ≠ worker := by
    intro worker hworker he
    rw [he, hworker] at hplace
    cases hplace
  refine ⟨hlife, by rw [hrequest]; exact h.quiet, hservice.trans h.service, ?_, ?_, ?_, ?_, ?_, ?_⟩
  · intro hholds
    cases hworker : t.worker with
    | reconfigured | executing => exact absurd hworker (hnot rfl)
    | _ =>
      rw [hworker] at hholds
      cases hholds
  · intro hworker
    exact absurd hworker (hnot rfl)
  · intro e hworker
    exact absurd hworker (hnot rfl)
  · intro haccepted
    rw [hcancel] at haccepted
    have hkept := h.cancelled haccepted
    refine ⟨hrequest.trans hkept.request, ?_, ?_, ?_⟩
    · rcases hstate with hstate | hstate
      · intro hopen
        exact hkept.closed ⟨hstate ▸ hopen.live, hstate ▸ hopen.settled⟩
      · exact absurd hkept.request hstate
    · intro _
      cases hworker : t.worker with
      | executing | ending | finished => exact absurd hworker (hnot rfl)
      | _ => rfl
    · intro hworker
      exact absurd hworker (hnot rfl)
  · intro state outcome failure hworker
    exact absurd hworker (hnot rfl)
  · intro hworker
    exact absurd hworker (hnot rfl)

variable {outcome : String}

variable {state : LiveWalletWorkloadState}

theorem Conclusive.toEnding {failure : Option String} (hlife : t.Lifecycle)
    (hrequest : t.request = r.request) (hservice : t.serviceStopRequested = r.serviceStopRequested)
    (hcancel : t.cancelAccepted = r.cancelAccepted) (hstate : t.state = r.state)
    (hplace : t.worker = .ending state outcome failure) (hnot : state ≠ .cancelled)
    (hcompleted : state = .completed → r.cancelAccepted ≠ true ∧ t.LastEpochEnded) :
    t.Conclusive := by
  refine ⟨hlife, by rw [hrequest]; exact h.quiet, hservice.trans h.service, ?_, ?_, ?_, ?_, ?_, ?_⟩
  · intro hholds
    rw [hplace] at hholds
    cases hholds
  · intro hworker
    cases hplace.symm.trans hworker
  · intro e hworker
    cases hplace.symm.trans hworker
  · intro haccepted
    rw [hcancel] at haccepted
    have hkept := h.cancelled haccepted
    refine ⟨hrequest.trans hkept.request, ?_, ?_, ?_⟩
    · intro hopen
      exact hkept.closed ⟨hstate ▸ hopen.live, hstate ▸ hopen.settled⟩
    · intro _
      rw [hplace]
      refine beq_eq_false_iff_ne.mpr ?_
      intro hstate
      exact (hcompleted hstate).1 haccepted
    · intro hworker
      cases hplace.symm.trans hworker
  · intro state' outcome' failure' hworker
    rw [hplace] at hworker
    cases hworker
    exact ⟨hnot, fun hstate => (hcompleted hstate).2⟩
  · intro hworker
    cases hplace.symm.trans hworker

theorem Conclusive.setTerminal {failure : Option String}
    (hlife : (r.setTerminal state outcome failure).Lifecycle)
    (hterminal : isTerminalLiveWalletWorkloadState state = true) (hnot : state ≠ .cancelled)
    (hcompleted : state = .completed → r.cancelAccepted ≠ true ∧ r.LastEpochEnded) :
    (r.setTerminal state outcome failure).Conclusive := by
  refine ⟨hlife, h.quiet, h.service, ?_, ?_, ?_, ?_, ?_, ?_⟩
  · rintro ⟨⟩
  · rintro ⟨⟩
  · rintro e ⟨⟩
  · intro haccepted
    refine ⟨(h.cancelled haccepted).request, ?_, fun hworker => absurd rfl hworker, ?_⟩
    · intro hopen
      exact hopen.live hterminal
    · intro _ hstate
      exact (hcompleted hstate).1 haccepted
  · rintro state outcome failure ⟨⟩
  · intro _
    exact ⟨hnot, fun hstate => (hcompleted hstate).2⟩

end

variable {request : LiveWalletWorkloadRequest}

/-- A stop request keeps what is known of an epoch that yields to the request. -/
theorem agrees_requested {request' : LiveWalletWorkloadRequest} {stop stop' : Bool}
    (h : e.Agrees request stop) (hrequest : request'.isYielding = true) :
    e.Agrees request' stop' := by
  have hcancel : request' ≠ .stopCancel := by
    rintro rfl
    cases hrequest
  unfold LiveEpoch.Agrees at h ⊢
  split
  next c s hpc =>
    rw [hpc] at h
    have h : LoadAgrees e request s := h
    refine { h with yielded := ?_, cancelled := fun he => absurd he hcancel }
    rintro - rfl
    cases hrequest
  next result hpc =>
    rw [hpc] at h
    unfold LiveEpoch.Explains at h ⊢
    split
    · exact h
    · exact hrequest
    · trivial
  · intro he
    exact absurd he hcancel

/-- An epoch that sees the cancellation. -/
theorem agrees_cancelled {stop : Bool} {worker : LivePc E}
    (hagrees : ∀ e, worker = .executing e → e.Agrees request stop)
    (hyields : ∀ e, worker = .executing e → request.isYielding = false)
    (hsees : worker.seesCancellation = true) (hworker : signal worker = .executing e) :
    e.Agrees .stopCancel true := by
  obtain ⟨e₀, c, s, rfl, hpc, hsignal⟩ | hsignal := signal_cases worker
  · rw [hsignal] at hworker
    cases hworker
    have h := hagrees e₀ rfl
    unfold LiveEpoch.Agrees at h
    rw [hpc] at h
    have h : LoadAgrees e₀ request s := h
    exact
      { h with
        left := ⟨h.left.cause⟩, yielded := fun _ he => (nomatch he), cancelled := fun _ => rfl }
  · rw [hsignal] at hworker
    subst hworker
    have h := hagrees e rfl
    have hyield := hyields e rfl
    have hsees : e.seesCancellation = true := hsees
    unfold LiveEpoch.Agrees at h ⊢
    split
    next c s hpc =>
      have hloading : signal (.executing e) =
          .executing { e with pc := .loading c { s with stopRequested := true } } := by
        simp only [signal, hpc]
      rw [hsignal] at hloading
      have hstopped := congrArg pc (LivePc.executing.inj hloading)
      rw [hpc] at hstopped h
      have h : LoadAgrees e request s := h
      obtain ⟨-, hsame⟩ := ApplyPc.loading.inj hstopped
      exact { h with
        yielded := fun _ he => (nomatch he)
        cancelled := fun _ => congrArg EpochState.stopRequested (eq_of_heq hsame) }
    next result hpc =>
      rw [hpc] at h
      unfold LiveEpoch.Explains at h ⊢
      split
      · exact h
      · rw [hyield] at h
        cases h
      · trivial
    · intro _
      exact ⟨rfl, hsees⟩

theorem completed_executing (h : ∀ next, e.pc ≠ .done (.returned .completed next)) :
    completed (.executing e) = false := by
  simp only [completed]

theorem signal_completed (worker : LivePc E) : completed (signal worker) = completed worker := by
  obtain ⟨e, c, s, rfl, hpc, hsignal⟩ | hsignal := signal_cases worker
  · rw [hsignal]
    simp only [completed, hpc]
  · rw [hsignal]

/-- A request other than a cancelling stop is accepted. -/
theorem Conclusive.requested (h : r.Conclusive) (hlife : t.Lifecycle) (hopen : r.Open)
    (hstate : t.state = .stopping) (hrequest : t.request.isYielding = true)
    (hservice : t.serviceStopRequested = r.serviceStopRequested)
    (hcancel : t.cancelAccepted = r.cancelAccepted) (hlast : t.lastEpoch = r.lastEpoch)
    (hworker : t.worker = signal r.worker ∨ t.worker = r.worker) : t.Conclusive := by
  have hplace : ∀ {worker : LivePc E}, (∀ e, worker ≠ .executing e) →
      t.worker = worker → r.worker = worker := by
    intro worker hnot ht
    rcases hworker with hworker | hworker
    · exact signal_eq_of_not_executing (hworker.symm.trans ht) hnot
    · exact hworker.symm.trans ht
  have hended : r.LastEpochEnded → t.LastEpochEnded := by
    unfold LastEpochEnded
    rw [hlast]
    exact fun h => h
  refine ⟨hlife, ?_, hservice.trans h.service, fun _ _ => hstate, ?_, ?_, ?_, ?_, ?_⟩
  · refine ⟨?_, ?_⟩
    all_goals
      intro he
      rw [he] at hrequest
      cases hrequest
  · intro _ he
    rw [he] at hrequest
    cases hrequest
  · intro e he
    rcases hworker with hworker | hworker
    · rw [hworker] at he
      obtain ⟨e₀, c, s, hexecuting, hpc, hsignal⟩ | hsignal := signal_cases r.worker
      · rw [hsignal] at he
        cases he
        have hagrees := h.epoch e₀ hexecuting
        unfold LiveEpoch.Agrees at hagrees
        rw [hpc] at hagrees
        have hagrees : LoadAgrees e₀ r.request s := hagrees
        refine ⟨hagrees.limit, hagrees.workload, hagrees.advanced, hagrees.unfinished,
          ⟨hagrees.left.cause⟩, ?_, fun _ => rfl⟩
        intro _ hnone
        rw [hnone] at hrequest
        cases hrequest
      · rw [hsignal] at he
        exact agrees_requested (h.epoch e he) hrequest
    · rw [hworker] at he
      exact agrees_requested (h.epoch e he) hrequest
  · intro haccepted
    rw [hcancel] at haccepted
    exact absurd haccepted (h.not_cancelled hopen)
  · intro state outcome failure he
    obtain ⟨hnot, hcompleted⟩ := h.ending state outcome failure
      (hplace (by intro e he; cases he) he)
    exact ⟨hnot, fun hstate => hended (hcompleted hstate)⟩
  · intro _
    rw [hstate]
    exact ⟨by decide, nofun⟩

/-- A cancelling stop, or the cancellation of the start, comes in time. -/
theorem Conclusive.cancels (h : r.Conclusive) (hlife : t.Lifecycle) (hopen : r.Open)
    (hsees : r.worker.seesCancellation = true) (hrequest : t.request = .stopCancel)
    (hstop : t.epochStopRequested = true)
    (hservice : t.serviceStopRequested = r.serviceStopRequested)
    (hcancel : t.cancelAccepted = true → t.state = .stopping ∧ completed r.worker = false)
    (hstate : t.state = .stopping ∨ t.state = r.state) (hlast : t.lastEpoch = r.lastEpoch)
    (hworker : t.worker = signal r.worker) : t.Conclusive := by
  have hplace : ∀ {worker : LivePc E}, (∀ e, worker ≠ .executing e) →
      t.worker = worker → r.worker = worker :=
    fun hnot ht => signal_eq_of_not_executing (hworker.symm.trans ht) hnot
  have hended : r.LastEpochEnded → t.LastEpochEnded := by
    unfold LastEpochEnded
    rw [hlast]
    exact fun h => h
  refine ⟨hlife, ?_, hservice.trans h.service, ?_, ?_, ?_, ?_, ?_, ?_⟩
  · rw [hrequest]
    exact ⟨by decide, by decide⟩
  · intro _ hyields
    rw [hrequest] at hyields
    cases hyields
  · intro hreconfigured
    have hwindow := hplace (by intro e he; cases he) hreconfigured
    rw [hwindow] at hsees
    cases hsees
  · intro e he
    rw [hrequest, hstop]
    rw [hworker] at he
    refine agrees_cancelled h.epoch ?_ hsees he
    intro e₀ hexecuting
    refine Bool.eq_false_of_not_eq_true ?_
    intro hyields
    exact hopen.settled (h.yielding (by rw [hexecuting]; rfl) hyields)
  · intro haccepted
    obtain ⟨hstopping, hcompleted⟩ := hcancel haccepted
    refine ⟨hrequest, ?_, ?_, ?_⟩
    · intro hopen'
      exact hopen'.settled hstopping
    · intro _
      rw [hworker]
      exact (signal_completed r.worker).trans hcompleted
    · intro _ hstate
      rw [hstopping] at hstate
      cases hstate
  · intro state outcome failure he
    obtain ⟨hnot, hcompleted⟩ := h.ending state outcome failure
      (hplace (by intro e he; cases he) he)
    exact ⟨hnot, fun hstate => hended (hcompleted hstate)⟩
  · intro he
    have hfinished := hplace (by intro e he; cases he) he
    rcases hstate with hstate | hstate
    · rw [hstate]
      exact ⟨by decide, nofun⟩
    · rw [hstate]
      obtain ⟨hnot, hcompleted⟩ := h.finished hfinished
      exact ⟨hnot, fun hstate => hended (hcompleted hstate)⟩

theorem Conclusive.install (h : r.Conclusive) (hlife : r.install.Lifecycle)
    (hworker : (r.worker = .head ∨ r.worker = .pauseWait) ∧ r.request = .none ∨
      r.worker = .reconfigured) :
    r.install.Conclusive := by
  have hnot : r.request ≠ .stopCancel := by
    rcases hworker with ⟨-, hrequest⟩ | hworker
    · rw [hrequest]
      decide
    · exact h.window hworker
  refine ⟨hlife, h.quiet, h.service, ?_, nofun, ?_, ?_, nofun, nofun⟩
  · intro _ hyields
    have hyields : r.request.isYielding = true := hyields
    rcases hworker with ⟨-, hrequest⟩ | hworker
    · rw [hrequest] at hyields
      cases hyields
    · exact h.yielding (by rw [hworker]; rfl) hyields
  · rintro e ⟨⟩
    exact fun hrequest => absurd hrequest hnot
  · intro haccepted
    exact absurd haccepted (h.not_cancelled_of_request hnot)

theorem Conclusive.apply {input : ApplyInput} (h : r.Conclusive) (hlife : t.Lifecycle)
    (hworker : r.worker = .executing e) (hstep : r.applyStep e input = some t) : t.Conclusive := by
  have hproceeds := applyStep_proceeds (h.epoch e hworker) h.quiet hstep
  obtain ⟨e', hrecord, -, -, -, -, hstate⟩ := applyStep_frame hstep
  have hplace : t.worker = .executing e' := by rw [hrecord]
  have hrequest : t.request = r.request := by rw [hrecord]
  have hservice : t.serviceStopRequested = r.serviceStopRequested := by rw [hrecord]
  have hstop : t.epochStopRequested = r.epochStopRequested := by rw [hrecord]
  have hcancel : t.cancelAccepted = r.cancelAccepted := by rw [hrecord]
  have hsame : r.request ≠ .none → t.state = r.state := by
    intro hnone
    rcases hstate with hstate | ⟨hrequest, -⟩
    · exact hstate
    · exact absurd hrequest hnone
  refine ⟨hlife, by rw [hrequest]; exact h.quiet, hservice.trans h.service, ?_, ?_, ?_, ?_, ?_, ?_⟩
  · intro _ hyields
    rw [hrequest] at hyields
    have hstopping := h.yielding (by rw [hworker]; rfl) hyields
    rw [hsame (by intro hnone; rw [hnone] at hyields; cases hyields)]
    exact hstopping
  · intro he
    rw [hplace] at he
    cases he
  · intro e'' he
    rw [hrequest, hstop]
    exact (hproceeds e'' he).agrees
  · intro haccepted
    rw [hcancel] at haccepted
    have hkept := h.cancelled haccepted
    have hstates := hsame (by rw [hkept.request]; decide)
    refine ⟨hrequest.trans hkept.request, ?_, ?_, ?_⟩
    · intro hopen
      exact hkept.closed ⟨hstates ▸ hopen.live, hstates ▸ hopen.settled⟩
    · intro _
      rw [hplace]
      exact completed_executing ((hproceeds e' hplace).cancelled hkept.request)
    · intro he
      rw [hplace] at he
      cases he
  · intro state outcome failure he
    rw [hplace] at he
    cases he
  · intro he
    rw [hplace] at he
    cases he

theorem ite_cases {worker : LivePc E} (requestsStop : Bool) :
    (if requestsStop = true then signal worker else worker) = signal worker ∨
      (if requestsStop = true then signal worker else worker) = worker := by
  cases requestsStop with
  | false => exact .inr rfl
  | true => exact .inl rfl

variable {result : EpochResult} {workload : WalletTransactionsWorkload}

/-- A completion after an epoch has a reason in the epoch. -/
theorem afterEpoch_completed {serviceStopped : Bool}
    (h : afterEpoch workload serviceStopped request result = .terminal .completed outcome)
    (hexplains : e.Explains request result) :
    ∃ next, result = .returned .completed next ∧ e.EndedByItself next := by
  unfold afterEpoch at h
  split at h
  next ending next =>
    by_cases hnext : request = .pause ∨ request = .reconfigure
    · rw [if_pos hnext] at h
      cases h
    by_cases hsettle : request = .stopSettle
    · rw [if_neg hnext, if_pos hsettle] at h
      cases h
    cases ending with
    | completed => exact ⟨next, rfl, hexplains⟩
    | refreshBalances =>
      rw [if_neg hnext, if_neg hsettle, if_pos rfl] at h
      cases h
    | yielded =>
      have hyields : request.isYielding = true := hexplains
      cases request with
      | pause => exact absurd (.inl rfl) hnext
      | reconfigure => exact absurd (.inr rfl) hnext
      | stopSettle => exact absurd rfl hsettle
      | _ => cases hyields
  · split_ifs at h <;> cases h
  · cases h

/-- Only a shutdown, or the stop of the service, cancels a workload. -/
theorem afterEpoch_cancelled {serviceStopped : Bool}
    (h : afterEpoch workload serviceStopped request result = .terminal .cancelled outcome) :
    request = .shutdown ∨ serviceStopped = true := by
  unfold afterEpoch at h
  split at h
  · split_ifs at h <;> cases h
  · split_ifs at h with _ _ _ hcause
    · cases h
    · cases h
    · exact hcause
    · cases h
  · cases h

theorem Conclusive.epochEnded (h : r.Conclusive) (hlife : (r.epochEnded e result).Lifecycle)
    (hworker : r.worker = .executing e) (hdone : e.pc = .done result) :
    (r.epochEnded e result).Conclusive := by
  obtain ⟨next, hpublish⟩ := publish_eq r e result
  have hexplains : e.Explains r.request result := by
    have hagrees := h.epoch e hworker
    unfold LiveEpoch.Agrees at hagrees
    rw [hdone] at hagrees
    exact hagrees
  unfold LiveWalletWorkloadRecord.epochEnded at hlife ⊢
  rw [hpublish] at hlife ⊢
  dsimp only at hlife ⊢
  split
  next state outcome hafter =>
    rw [hafter] at hlife
    refine h.toEnding hlife rfl rfl rfl rfl rfl ?_ ?_
    · rintro rfl
      rcases afterEpoch_cancelled hafter with hshutdown | hstopped
      · exact h.quiet.1 hshutdown
      · rw [h.service] at hstopped
        cases hstopped
    · rintro rfl
      obtain ⟨next, rfl, hended⟩ := afterEpoch_completed hafter hexplains
      refine ⟨?_, e, next, rfl, hdone, hended⟩
      intro haccepted
      have hrunning := (h.cancelled haccepted).running (by rw [hworker]; intro he; cases he)
      rw [hworker] at hrunning
      simp only [completed, hdone] at hrunning
      cases hrunning
  next hafter =>
    rw [hafter] at hlife
    dsimp only at hlife
    split
    next hhead =>
      rw [if_pos hhead] at hlife
      exact h.toBetween hlife rfl rfl rfl (.inl rfl) rfl
    next hhead =>
      rw [if_neg hhead] at hlife
      exact h.toBetween hlife rfl rfl rfl (.inl rfl) rfl

theorem step_conclusive {a : LiveAction E} (h : r.Conclusive) (hsafe : r.cancelsInTime a = true)
    (hstep : r.step a = some t) : t.Conclusive := by
  have hlife := step_lifecycle h.lifecycle hstep
  have hpausedOpen : r.state = .paused → r.Open := by
    intro hpaused
    exact ⟨by rw [hpaused]; decide, by rw [hpaused]; decide⟩
  cases step_move hstep with
  | pause _ hrequest => exact h.toBetween hlife rfl rfl rfl (.inr (by rw [hrequest]; decide)) rfl
  | stop | fail => exact h.toEnding hlife rfl rfl rfl rfl rfl (by decide) (nofun)
  | cancel _ hrequest => exact absurd hrequest h.quiet.1
  | cancelPaused _ _ hservice =>
    rw [h.service] at hservice
    cases hservice
  | failReconfigured _ _ _ _ _ =>
    exact h.toEnding hlife rfl rfl rfl rfl rfl (by decide) (nofun)
  | reconfigure _ _ hrequest _ =>
    refine ⟨hlife, none_quiet, h.service, ?_, fun _ he => (nomatch he), ?_, ?_, ?_, ?_⟩
    · rintro _ ⟨⟩
    · rintro e ⟨⟩
    · intro haccepted
      exact absurd haccepted (h.not_cancelled_of_request (by rw [hrequest]; decide))
    · rintro state outcome failure ⟨⟩
    · rintro ⟨⟩
  | install hworker => exact h.install hlife hworker
  | waiting | refreshed => exact h.toBetween hlife rfl rfl rfl (.inl rfl) rfl
  | apply e hworker input _ t happly => exact h.apply hlife hworker happly
  | epochEnded e result hworker hdone => exact h.epochEnded hlife hworker hdone
  | terminate state outcome failure hworker =>
    obtain ⟨hnot, hcompleted⟩ := h.ending state outcome failure hworker
    refine h.setTerminal hlife (h.lifecycle.ending state outcome failure hworker) hnot ?_
    intro hstate
    refine ⟨?_, hcompleted hstate⟩
    intro haccepted
    have hrunning := (h.cancelled haccepted).running (by rw [hworker]; intro he; cases he)
    rw [hworker, hstate] at hrunning
    cases hrunning
  | terminateFailed _ _ _ _ _ => exact h.setTerminal hlife rfl (by decide) (nofun)
  | refused _ => exact h
  | pauseAccepted hopen _ | settleAccepted hopen _ =>
    rw [accept_eq] at hlife ⊢
    exact h.requested hlife hopen rfl rfl rfl rfl rfl (ite_cases _)
  | cancelAccepted hopen haction =>
    rw [haction] at hsafe
    rw [accept_eq] at hlife ⊢
    refine h.cancels hlife hopen hsafe rfl (Bool.or_true _) rfl ?_ (.inl rfl) rfl rfl
    intro haccepted
    have haccepted : (r.cancelAccepted || !completed r.worker) = true := haccepted
    rw [Bool.eq_false_of_not_eq_true (h.not_cancelled hopen), Bool.false_or,
      Bool.not_eq_true'] at haccepted
    exact ⟨rfl, haccepted⟩
  | resumed hpaused _ =>
    have hopen := hpausedOpen hpaused
    have hplace := h.lifecycle.paused hpaused
    have hnot : r.worker.holdsEpoch = false := by
      cases hworker : r.worker with
      | executing | reconfigured =>
        rw [hworker] at hplace
        exact hplace.elim
      | _ => rfl
    refine ⟨hlife, none_quiet, h.service, ?_, fun _ he => (nomatch he), ?_, ?_, h.ending, ?_⟩
    · intro hholds
      exact absurd hholds (by rw [hnot]; decide)
    · intro e he
      have he : r.worker = .executing e := he
      rw [he] at hnot
      cases hnot
    · intro haccepted
      exact absurd haccepted (h.not_cancelled hopen)
    · intro _
      exact ⟨nofun, nofun⟩
  | startCancelled hstarting haction =>
    rw [haction] at hsafe
    have hopen : r.Open := ⟨by rw [hstarting]; decide, by rw [hstarting]; decide⟩
    refine h.cancels hlife hopen hsafe rfl rfl rfl ?_ (.inr rfl) rfl rfl
    intro haccepted
    exact absurd haccepted (h.not_cancelled hopen)
  | reconfiguredPaused _ _ _ hpaused _ _ =>
    exact { h with
      lifecycle := hlife
      cancelled := fun haccepted => absurd haccepted (h.not_cancelled (hpausedOpen hpaused)) }
  | reconfigureAccepted updated _ _ haccepted _ =>
    obtain ⟨hlive, hstate⟩ := reconfigurationFailure_none haccepted
    rw [accept_eq] at hlife ⊢
    exact h.requested hlife ⟨hlive, hstate⟩ rfl rfl rfl rfl rfl (ite_cases _)
  | shutdown _ runFailed haction | stopService haction =>
    rw [haction] at hsafe
    cases hsafe

end LiveWalletWorkloadRecord

end Records

section Results

/-- Two payments to one wallet, one after the other. -/
def hotspotOfOne : AcceptedWorkload countingEngine :=
  ⟨{ fanoutTo 2 [3] with strategy := .hotspot, senderWallets := [] }, 3, rfl⟩

/-- The stop is accepted after the reconfiguration, before the next epoch. -/
def stopReconfigured : List (LiveAction countingEngine) :=
  [.reconfigure fanoutToOne 4, .head, .stop false, .written (.ok ())] ++ startEpoch ++
    [.apply (.producer (.head false true false)), .apply (.producer .shut),
      .apply (.worker 0 .pop), .apply (.producer .join), .apply (.producer .conclude),
      .epochEnded, .terminate (.ok ())]

/-- The stop is accepted between the two checks at the head of the loop. -/
def stopBetweenChecks : List (LiveAction countingEngine) :=
  [.head] ++ startEpoch ++
    [.apply (.sequential .loop), .stop false, .apply (.sequential .loop), .epochEnded,
      .terminate (.ok ())]

/--
Workloads that have been stopped before their first attempt, and that have yielded, are
completed.
-/
theorem stopped_workload_completes :
    (∃ r e, (liveWorkloadMachine countingEngine).run (.create "first" fanoutToOne 4)
        stopReconfigured = some r ∧
      r.cancelAccepted = true ∧ r.state = .completed ∧
      r.terminalOutcome = "count_reached" ∧ r.lastEpoch = some e ∧
      e.pc = .done (.returned .yielded 0)) ∧
    ∃ r e, (liveWorkloadMachine countingEngine).run (.create "first" hotspotOfOne 3)
        stopBetweenChecks = some r ∧
      r.cancelAccepted = true ∧ r.state = .completed ∧ r.lastEpoch = some e ∧
      e.pc = .done (.returned .yielded 0) :=
  ⟨⟨_, _, rfl, rfl, rfl, rfl, rfl, rfl⟩, ⟨_, _, rfl, rfl, rfl, rfl, rfl⟩⟩

/--
In a run in which cancelling stops come in time, a completed workload has reached its
attempt limit in its last epoch, or the duration of that epoch has expired.  A workload
whose cancelling stop was accepted before ends as stopped or failed, and the epoch that
was running then ends with a cancellation, with an error or to refresh the balances; only
the error makes the worker fail.
-/
theorem completion_needs_limit {id : String} {workload : AcceptedWorkload E} {walletCount : Nat}
    {actions : List (LiveAction E)} {r : LiveWalletWorkloadRecord E}
    (hrun : (liveWorkloadMachine E).run (.create id workload walletCount) actions = some r)
    (hmeets : (liveWorkloadMachine E).Meets
      (fun r a => r.cancelsInTime a = true) (.create id workload walletCount) actions) :
    (r.state = .completed →
      ∃ e next, r.lastEpoch = some e ∧ e.pc = .done (.returned .completed next) ∧
        ((∃ limit, e.workload.val.attemptLimit = some limit ∧ limit ≤ next) ∨
          e.workload.val.duration.isSome = true ∧ e.expired = true)) ∧
    (r.cancelAccepted = true →
      (isTerminalLiveWalletWorkloadState r.state = true → r.state = .stopped ∨ r.state = .failed) ∧
      (∀ e ending next, r.worker = .executing e → e.pc = .done (.returned ending next) →
        ending = .refreshBalances) ∧
      ∀ e result outcome, r.worker = .executing e → e.pc = .done result →
        afterEpoch e.workload.val r.serviceStopRequested r.request result =
          .terminal .failed outcome →
        ∃ error, result = .threw (.error error)) := by
  have h : r.Conclusive :=
    (liveWorkloadMachine E).meets_preserves
      (fun _ _ _ hstep hsafe h => LiveWalletWorkloadRecord.step_conclusive h hsafe hstep)
      hmeets hrun (LiveWalletWorkloadRecord.create_conclusive id workload walletCount)
  refine ⟨?_, ?_⟩
  · intro hcompleted
    have hfinished := h.lifecycle.live (by rw [hcompleted]; rfl)
    exact (h.finished hfinished).2 hcompleted
  · intro haccepted
    have hkept := h.cancelled haccepted
    have hreturned : ∀ e ending next, r.worker = .executing e →
        e.pc = .done (.returned ending next) → ending = .refreshBalances := by
      intro e ending next hworker hdone
      have hagrees := h.epoch e hworker
      unfold LiveEpoch.Agrees at hagrees
      rw [hdone, hkept.request] at hagrees
      have hrunning := hkept.running (by rw [hworker]; intro he; cases he)
      rw [hworker] at hrunning
      cases ending with
      | refreshBalances => rfl
      | completed =>
        simp only [LiveWalletWorkloadRecord.completed, hdone] at hrunning
        cases hrunning
      | yielded => cases hagrees
    refine ⟨?_, hreturned, ?_⟩
    · intro hterminal
      have hfinished := h.lifecycle.live hterminal
      have hnot := hkept.finished hfinished
      have hcancelled := (h.finished hfinished).1
      cases hstate : r.state with
      | stopped => exact .inl rfl
      | failed => exact .inr rfl
      | completed => exact absurd hstate hnot
      | cancelled => exact absurd hstate hcancelled
      | _ =>
        rw [hstate] at hterminal
        cases hterminal
    · intro e result outcome hworker hdone hfailed
      rw [hkept.request] at hfailed
      cases result with
      | returned ending next =>
        cases hreturned e ending next hworker hdone
        cases hfailed
      | threw thrown =>
        cases thrown with
        | simulationCancelled => cases hfailed
        | error error => exact ⟨error, rfl⟩

/-- The stop is accepted while the first epoch is running. -/
def stopRunning : List (LiveAction countingEngine) :=
  [.head] ++ startEpoch ++
    [.stop false, .apply (.producer (.head false true false)), .apply (.producer .shut)] ++
    joinEpoch ++ [.epochEnded, .terminate (.ok ())]

theorem running_workload_is_stopped :
    ∃ r, (liveWorkloadMachine countingEngine).run (.create "first" fanoutToOne 4)
        stopRunning = some r ∧
      r.cancelAccepted = true ∧ r.state = .stopped ∧
      (r.state = .stopped ∨ r.state = .failed) := by
  refine ⟨_, rfl, rfl, rfl, ?_⟩
  exact ((@completion_needs_limit countingEngine "first" fanoutToOne 4 stopRunning _ rfl
    (by decide)).2 rfl).1 rfl

end Results

end Bbp.Simulator
