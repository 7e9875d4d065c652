import Bbp.Simulator.LiveWorkloadMoves

/-!
# The admission of sender wallets

A workload may be started or reconfigured only if no other active workload claims one
of its sender wallets.  The claims are compared, and replaced, when the call is made.
A worker that is inside of an epoch goes on with its old configuration until the epoch
has unwound, so that the wallets it is spending from may be given to another workload
meanwhile: `released_wallet_is_spent_twice`.

As long as a running workload is reconfigured only to wallets that include those it is
spending from, no two workloads spend from one wallet (`wallets_are_spent_once`).
-/

namespace Bbp.Simulator

open Library List

variable {E : RandomEngine}

namespace LiveEpoch

/-- The sender wallets of the configuration that is executed. -/
def senders (e : LiveEpoch E) : List Nat := claimedWalletsForWorkload e.workload.val e.walletCount

end LiveEpoch

namespace LiveWalletWorkloadRegistry

section Condition

/-- A running epoch, or one that is about to be installed, is covered by the claims. -/
def covers (r : LiveWalletWorkloadRecord E) (claimed : List Nat) (walletCount : Nat) : Bool :=
  match r.worker with
  | .executing e => e.senders.all (· ∈ claimed)
  | .reconfigured => (claimedWalletsForWorkload r.workload.val walletCount).all (· ∈ claimed)
  | _ => true

/-- A reconfiguration keeps the wallets that are being spent from. -/
def keepsSenders (g : LiveWalletWorkloadRegistry E) : RegistryAction E → Prop
  | .reconfigure id updated walletCount =>
    ∀ r, g.records[g.position id]? = some r →
      covers r (claimedWalletsForWorkload updated walletCount) walletCount = true
  | _ => True

instance decidableKeepsSenders (g : LiveWalletWorkloadRegistry E) :
    (a : RegistryAction E) → Decidable (g.keepsSenders a)
  | .reconfigure id updated walletCount =>
    match h : g.records[g.position id]? with
    | none => isTrue fun r hr => by rw [h] at hr; cases hr
    | some r =>
      decidable_of_iff
        (covers r (claimedWalletsForWorkload updated walletCount) walletCount = true)
        ⟨fun hc r' hr => by rw [h] at hr; cases hr; exact hc, fun hc => hc r h⟩
  | .start _ _ _ _ | .record _ _ | .shutDown => isTrue trivial

end Condition

section Failing

/-- A fan-out from one wallet to another one. -/
def fanoutFrom (sender receiver : Nat) : WalletTransactionsWorkload where
  strategy := .equalFanout
  amount := { minimumSatoshis := 1, maximumSatoshis := 1 }
  feeSatoshis := 1
  senderWallets := [sender]
  receiverWallets := [receiver]

/--
The first workload is reconfigured from wallet 1 to wallet 2 while its epoch runs, and
the second one is started on wallet 1.
-/
def releasingActions : List (RegistryAction countingEngine) :=
  [.start (fanoutFrom 1 3) 3 (some "first") [], .record "first" .head,
    .record "first" (.apply (.fund .funded)),
    .record "first" (.apply (.executionStarted (.ok ()))),
    .reconfigure "first" (fanoutFrom 2 3) 3,
    .start (fanoutFrom 1 3) 3 (some "second") [], .record "second" .head]

/-- Two workers are inside of epochs that both send from wallet 1. -/
theorem released_wallet_is_spent_twice :
    ∃ g first second e e',
      (liveRegistryMachine countingEngine).run {} releasingActions = some g ∧
      g.records = [first, second] ∧
      first.worker = .executing e ∧ second.worker = .executing e' ∧
      e.senders = [1] ∧ e'.senders = [1] :=
  ⟨_, _, _, _, _, rfl, rfl, rfl, rfl, rfl, rfl⟩

end Failing

end LiveWalletWorkloadRegistry

namespace LiveWalletWorkloadRecord

section Claimed

/-- The claims of a record cover what it executes now and what it will execute. -/
structure Claimed (r : LiveWalletWorkloadRecord E) : Prop where
  lifecycle : r.Lifecycle
  running : ∀ e, r.worker = .executing e → e.senders ⊆ r.claimedWallets
  current : r.pendingWorkload = none ∨ r.worker = .reconfigured →
    claimedWalletsForWorkload r.workload.val r.walletCount ⊆ r.claimedWallets
  pending : ∀ w, r.pendingWorkload = some w →
    claimedWalletsForWorkload w.val r.walletCount ⊆ r.claimedWallets

/-- A step that leaves the claims as they are. -/
structure KeepsClaims (r t : LiveWalletWorkloadRecord E) : Prop where
  id : t.id = r.id
  claims : t.claimedWallets = r.claimedWallets
  terminal : isTerminalLiveWalletWorkloadState r.state = true →
    isTerminalLiveWalletWorkloadState t.state = true
  claimed : t.Claimed

/-- The configurations that the claims are made for stay. -/
structure SameConfiguration (r t : LiveWalletWorkloadRecord E) : Prop where
  id : t.id = r.id
  claims : t.claimedWallets = r.claimedWallets
  walletCount : t.walletCount = r.walletCount
  workload : t.workload = r.workload
  pending : t.pendingWorkload = r.pendingWorkload

variable {r t : LiveWalletWorkloadRecord E}

theorem signal_senders {worker : LivePc E} {e : LiveEpoch E} (h : signal worker = .executing e) :
    ∃ e₀, worker = .executing e₀ ∧ e.senders = e₀.senders := by
  obtain ⟨e₀, hworker, hworkload, hwallets, -⟩ := signal_executing h
  refine ⟨e₀, hworker, ?_⟩
  simp only [LiveEpoch.senders, hworkload, hwallets]

variable (h : r.Claimed)

include h

theorem Claimed.moved (hsame : r.SameConfiguration t) (hlife : t.Lifecycle)
    (hterminal : isTerminalLiveWalletWorkloadState r.state = true →
      isTerminalLiveWalletWorkloadState t.state = true)
    (hrunning : ∀ e, t.worker = .executing e → e.senders ⊆ r.claimedWallets)
    (hplace : t.worker = .reconfigured → r.worker = .reconfigured) : r.KeepsClaims t := by
  refine ⟨hsame.id, hsame.claims, hterminal, hlife, ?_, ?_, ?_⟩
  · rwa [hsame.claims]
  · rw [hsame.pending, hsame.workload, hsame.walletCount, hsame.claims]
    exact fun hcurrent => h.current (hcurrent.imp_right hplace)
  · rw [hsame.pending, hsame.walletCount, hsame.claims]
    exact h.pending

/-- The worker stays, but the stop source of its epoch may be signalled. -/
theorem Claimed.signalled (hsame : r.SameConfiguration t) (hlife : t.Lifecycle)
    (hterminal : isTerminalLiveWalletWorkloadState r.state = true →
      isTerminalLiveWalletWorkloadState t.state = true)
    (hworker : t.worker = r.worker ∨ t.worker = signal r.worker) : r.KeepsClaims t := by
  refine h.moved hsame hlife hterminal (fun e he => ?_) (fun hplace => ?_)
  · rcases hworker with hworker | hworker
    · exact h.running e (hworker.symm.trans he)
    · obtain ⟨e₀, he₀, hsenders⟩ := signal_senders (hworker.symm.trans he)
      rw [hsenders]
      exact h.running e₀ he₀
  · rcases hworker with hworker | hworker
    · exact hworker.symm.trans hplace
    · exact signal_eq_of_not_executing (hworker.symm.trans hplace) (by rintro _ ⟨⟩)

theorem Claimed.accept {r' : LiveWalletWorkloadRecord E} {request : LiveWalletWorkloadRequest}
    {requestsStop : Bool} (hsame : r.SameConfiguration r') (hworker : r'.worker = r.worker)
    (hlife : (r'.accept request requestsStop).Lifecycle) (hopen : r.Open) :
    r.KeepsClaims (r'.accept request requestsStop) := by
  rw [accept_eq] at hlife ⊢
  refine h.signalled { hsame with } hlife (fun hterminal => absurd hterminal hopen.live) ?_
  rw [← hworker]
  cases requestsStop with
  | false => exact .inl rfl
  | true => exact .inr rfl

end Claimed

section Steps

variable {r t : LiveWalletWorkloadRecord E} {e : LiveEpoch E}

variable (h : r.Claimed)

include h

theorem Claimed.adopt {w : AcceptedWorkload E} (hlife : t.Lifecycle)
    (hpending : r.pendingWorkload = some w) (hclaims : t.claimedWallets = r.claimedWallets)
    (hcount : t.walletCount = r.walletCount) (hworkload : t.workload = w)
    (hnone : t.pendingWorkload = none) (hworker : ∀ e, t.worker ≠ .executing e) : t.Claimed := by
  refine ⟨hlife, fun e he => absurd he (hworker e), fun _ => ?_, ?_⟩
  · rw [hworkload, hcount, hclaims]
    exact h.pending w hpending
  · rw [hnone]
    rintro _ ⟨⟩

theorem epochEnded_keeps {result : EpochResult} (hlife : (r.epochEnded e result).Lifecycle) :
    r.KeepsClaims (r.epochEnded e result) := by
  have hsame : r.SameConfiguration (r.publish e result) ∧ (r.publish e result).state = r.state := by
    obtain ⟨next, hpublish⟩ := publish_eq r e result
    rw [hpublish]
    exact ⟨⟨rfl, rfl, rfl, rfl, rfl⟩, rfl⟩
  obtain ⟨hsame, hstate⟩ := hsame
  have hterminal : isTerminalLiveWalletWorkloadState r.state = true →
      isTerminalLiveWalletWorkloadState (r.publish e result).state = true := by
    rw [hstate]
    exact fun hterminal => hterminal
  unfold epochEnded at hlife ⊢
  dsimp only at hlife ⊢
  split at hlife
  · exact h.moved { hsame with } hlife hterminal (by rintro _ ⟨⟩) (by rintro ⟨⟩)
  · split_ifs at hlife ⊢
    all_goals exact h.moved { hsame with } hlife hterminal (by rintro _ ⟨⟩) (by rintro ⟨⟩)

omit h in
theorem EpochFrame.keeps {e' : LiveEpoch E} (hframe : EpochFrame r e t e') (h : r.Claimed)
    (hlife : t.Lifecycle) (hworker : r.worker = .executing e) : r.KeepsClaims t := by
  obtain ⟨hrecord, hworkload, hwallets, -⟩ := hframe
  have hlive := h.lifecycle.not_terminal (by rw [hworker]; intro he; cases he)
  have hsenders : e'.senders = e.senders := by
    simp only [LiveEpoch.senders, hworkload, hwallets]
  rw [hrecord] at hlife ⊢
  refine h.moved ⟨rfl, rfl, rfl, rfl, rfl⟩ hlife (fun hterminal => absurd hterminal hlive) ?_
    (by rintro ⟨⟩)
  rintro _ ⟨⟩
  rw [hsenders]
  exact h.running e hworker

/-- Every step but a reconfiguration leaves the claims as they are. -/
theorem step_keeps {a : LiveAction E} (hstep : r.step a = some t)
    (ha : ∀ updated walletCount, a ≠ .reconfigure updated walletCount) : r.KeepsClaims t := by
  have hlife := step_lifecycle h.lifecycle hstep
  cases step_move hstep with
  | pause hworker hrequest =>
    have hlive := h.lifecycle.not_terminal (reading_unfinished (.inl hworker))
    exact h.moved ⟨rfl, rfl, rfl, rfl, rfl⟩ hlife (fun hterminal => absurd hterminal hlive)
      (by rintro _ ⟨⟩) (by rintro ⟨⟩)
  | stop | cancel | cancelPaused | fail | waiting | refreshed =>
    exact h.moved ⟨rfl, rfl, rfl, rfl, rfl⟩ hlife (fun hterminal => hterminal) (by rintro _ ⟨⟩)
      (by rintro ⟨⟩)
  | failReconfigured _ w _ hpending message =>
    exact ⟨rfl, rfl, fun hterminal => hterminal,
      h.adopt hlife hpending rfl rfl rfl rfl (by rintro _ ⟨⟩)⟩
  | reconfigure hworker w _ hpending =>
    have hlive := h.lifecycle.not_terminal (reading_unfinished hworker)
    exact ⟨rfl, rfl, fun hterminal => absurd hterminal hlive,
      h.adopt hlife hpending rfl rfl rfl rfl (by rintro _ ⟨⟩)⟩
  | install hworker =>
    refine h.moved ⟨rfl, rfl, rfl, rfl, rfl⟩ hlife (fun hterminal => hterminal) ?_ (by rintro ⟨⟩)
    rintro _ ⟨⟩
    refine h.current (hworker.imp_left ?_)
    exact fun hreading => h.lifecycle.no_pending_of_none hreading.2
  | apply e hworker input _ t happly =>
    obtain ⟨e', hframe⟩ := applyStep_frame happly
    exact hframe.keeps h hlife hworker
  | epochEnded e result hworker _ => exact epochEnded_keeps h hlife
  | terminate state outcome failure hworker =>
    exact h.moved ⟨rfl, rfl, rfl, rfl, rfl⟩ hlife
      (fun _ => h.lifecycle.ending state outcome failure hworker) (by rintro _ ⟨⟩) (by rintro ⟨⟩)
  | terminateFailed state outcome failure message _ =>
    exact h.moved ⟨rfl, rfl, rfl, rfl, rfl⟩ hlife (fun _ => rfl) (by rintro _ ⟨⟩) (by rintro ⟨⟩)
  | refused _ => exact ⟨rfl, rfl, fun hterminal => hterminal, h⟩
  | pauseAccepted hopen _ | settleAccepted hopen _ | cancelAccepted hopen _ =>
    exact h.accept ⟨rfl, rfl, rfl, rfl, rfl⟩ rfl hlife hopen
  | resumed hpaused _ =>
    refine h.signalled ⟨rfl, rfl, rfl, rfl, rfl⟩ hlife ?_ (.inl rfl)
    rw [hpaused]
    rintro ⟨⟩
  | startCancelled _ _ | stopService _ =>
    exact h.signalled ⟨rfl, rfl, rfl, rfl, rfl⟩ hlife (fun hterminal => hterminal) (.inr rfl)
  | reconfiguredPaused updated walletCount _ _ _ haction
  | reconfigureAccepted updated walletCount _ _ haction =>
    exact absurd haction (ha updated walletCount)
  | shutdown hlive runFailed _ =>
    exact h.signalled ⟨rfl, rfl, rfl, rfl, rfl⟩ hlife (fun hterminal => absurd hterminal hlive)
      (.inl rfl)

end Steps

section Reconfigure

open LiveWalletWorkloadRegistry (covers)

variable {r : LiveWalletWorkloadRecord E}

variable {walletCount : Nat}

theorem covers_executing {claimed : List Nat} (h : covers r claimed walletCount = true)
    {e : LiveEpoch E} (hworker : r.worker = .executing e) : e.senders ⊆ claimed := by
  unfold covers at h
  rw [hworker] at h
  intro wallet hwallet
  simpa using all_eq_true.mp h wallet hwallet

theorem covers_reconfigured {claimed : List Nat} (h : covers r claimed walletCount = true)
    (hworker : r.worker = .reconfigured) :
    claimedWalletsForWorkload r.workload.val walletCount ⊆ claimed := by
  unfold covers at h
  rw [hworker] at h
  intro wallet hwallet
  simpa using all_eq_true.mp h wallet hwallet

/-- The new claims cover the epoch that is still running. -/
theorem reconfigureStep_claimed (h : r.Claimed) {updated : AcceptedWorkload E}
    (hfailure : r.reconfigurationFailure updated.val = none)
    (hcovers : covers r (claimedWalletsForWorkload updated.val walletCount)
      walletCount = true) :
    (r.reconfigureStep updated walletCount).id = r.id ∧
      (r.reconfigureStep updated walletCount).claimedWallets =
        claimedWalletsForWorkload updated.val walletCount ∧
      (r.reconfigureStep updated walletCount).Claimed := by
  obtain ⟨hlive, hstate⟩ := reconfigurationFailure_none hfailure
  have hpending := h.lifecycle.no_pending ⟨hlive, hstate⟩
  have hlife := step_lifecycle (a := .reconfigure updated walletCount) h.lifecycle rfl
  unfold reconfigureStep at hlife ⊢
  simp only [hfailure] at hlife ⊢
  by_cases hpaused : r.state = .paused
  · rw [if_pos hpaused] at hlife ⊢
    split_ifs at hlife ⊢
    all_goals
      refine ⟨rfl, rfl, hlife, fun e he => covers_executing hcovers he,
        fun _ => fun _ hwallet => hwallet, ?_⟩
      intro w hw
      have hnone : (none : Option (AcceptedWorkload E)) = some w := hpending.symm.trans hw
      cases hnone
  · rw [if_neg hpaused, accept_eq] at hlife ⊢
    refine ⟨rfl, rfl, hlife, ?_, ?_, ?_⟩
    · intro e he
      split_ifs at he
      · obtain ⟨e₀, hworker, hsenders⟩ := signal_senders he
        rw [hsenders]
        exact covers_executing hcovers hworker
      · exact covers_executing hcovers he
    · rintro (hnone | hplace)
      · cases hnone
      · have hworker : r.worker = .reconfigured := by
          split_ifs at hplace
          · exact signal_eq_of_not_executing hplace (by intro e he; cases he)
          · exact hplace
        have hcurrent := covers_reconfigured hcovers hworker
        exact hcurrent
    · rintro _ ⟨⟩
      exact fun _ hwallet => hwallet

end Reconfigure

end LiveWalletWorkloadRecord

namespace LiveWalletWorkloadRegistry

open LiveWalletWorkloadRecord

section Invariant

/-- The claims of active workloads are apart, and cover what is executed. -/
structure Admitted (g : LiveWalletWorkloadRegistry E) : Prop where
  unique : (g.records.map (·.id)).Nodup
  claimed : ∀ r ∈ g.records, r.Claimed
  disjoint : ∀ (i j : Nat) (r r' : LiveWalletWorkloadRecord E), i ≠ j →
    g.records[i]? = some r → g.records[j]? = some r' →
    isTerminalLiveWalletWorkloadState r.state ≠ true →
    isTerminalLiveWalletWorkloadState r'.state ≠ true →
    r.claimedWallets.Disjoint r'.claimedWallets

variable {g t : LiveWalletWorkloadRegistry E}

variable {r : LiveWalletWorkloadRecord E}

/-- What the search for a conflict rules out. -/
theorem conflict_none {self : Option String} {claimed : List Nat}
    (h : g.conflict self claimed = none) (hr : r ∈ g.records) (hself : some r.id ≠ self)
    (hlive : isTerminalLiveWalletWorkloadState r.state ≠ true) :
    claimed.Disjoint r.claimedWallets := by
  unfold conflict at h
  have hempty := map_eq_nil_iff.mp (min?_eq_none_iff.mp h)
  have hnot := filter_eq_nil_iff.mp hempty r hr
  simp only [ne_eq, hself, not_false_eq_true, decide_true, Bool.true_and, Bool.not_eq_true] at hnot
  intro wallet hwallet hother
  refine absurd ?_ (Bool.eq_false_iff.mp hnot)
  simp only [Bool.and_eq_true, Bool.not_eq_true', walletClaimsOverlap, any_eq_true,
    decide_eq_true_eq]
  exact ⟨by simpa using hlive, wallet, hwallet, hother⟩

theorem Admitted.put (h : g.Admitted) {id : String} {next : LiveWalletWorkloadRecord E}
    (hr : g.records[g.position id]? = some r) (hid : next.id = r.id) (hclaimed : next.Claimed)
    (hdisjoint : ∀ (j : Nat) (other : LiveWalletWorkloadRecord E), g.position id ≠ j →
      g.records[j]? = some other →
      isTerminalLiveWalletWorkloadState next.state ≠ true →
      isTerminalLiveWalletWorkloadState other.state ≠ true →
      next.claimedWallets.Disjoint other.claimedWallets) :
    (g.put id next).Admitted := by
  obtain ⟨hlt, -⟩ := List.getElem?_eq_some_iff.mp hr
  have hset : ∀ {j : Nat} {other : LiveWalletWorkloadRecord E},
      (g.put id next).records[j]? = some other →
      (g.position id = j ∧ other = next) ∨ (g.position id ≠ j ∧ g.records[j]? = some other) := by
    intro j other hj
    simp only [LiveWalletWorkloadRegistry.put] at hj
    by_cases hpos : g.position id = j
    · subst hpos
      rw [getElem?_set_self hlt] at hj
      exact .inl ⟨rfl, (Option.some.inj hj).symm⟩
    · rw [getElem?_set_ne hpos] at hj
      exact .inr ⟨hpos, hj⟩
  refine ⟨?_, ?_, ?_⟩
  · have hids : (g.put id next).records.map (·.id) = g.records.map (·.id) := by
      refine ext_getElem? fun j => ?_
      simp only [LiveWalletWorkloadRegistry.put, getElem?_map]
      by_cases hpos : g.position id = j
      · subst hpos
        rw [getElem?_set_self hlt, hr]
        simp [hid]
      · rw [getElem?_set_ne hpos]
    rw [hids]
    exact h.unique
  · intro other hother
    obtain ⟨j, hj⟩ := mem_iff_getElem?.mp hother
    rcases hset hj with ⟨-, rfl⟩ | ⟨-, hold⟩
    · exact hclaimed
    · exact h.claimed other (mem_of_getElem? hold)
  · intro i j first second hij hi hj hfirst hsecond
    rcases hset hi with ⟨hpos, rfl⟩ | ⟨hpos, holdi⟩
    · rcases hset hj with ⟨hpos', -⟩ | ⟨hpos', holdj⟩
      · exact absurd (hpos.symm.trans hpos') hij
      · exact hdisjoint j second hpos' holdj hfirst hsecond
    · rcases hset hj with ⟨-, rfl⟩ | ⟨-, holdj⟩
      · exact (hdisjoint i first hpos holdi hsecond hfirst).symm
      · exact h.disjoint i j first second hij holdi holdj hfirst hsecond

/-- A new record is added whose wallets no active workload claims. -/
theorem Admitted.append (h : g.Admitted) {nextId : Nat} (hid : r.id ∉ g.records.map (·.id))
    (hclaimed : r.Claimed)
    (hdisjoint : ∀ other ∈ g.records,
      isTerminalLiveWalletWorkloadState other.state ≠ true →
      r.claimedWallets.Disjoint other.claimedWallets) :
    Admitted { g with records := g.records ++ [r], nextId } := by
  have hcases : ∀ {j : Nat} {other : LiveWalletWorkloadRecord E},
      (g.records ++ [r])[j]? = some other →
      g.records[j]? = some other ∨ (j = g.records.length ∧ other = r) := by
    intro j other hj
    by_cases hlt : j < g.records.length
    · rw [getElem?_append_left hlt] at hj
      exact .inl hj
    · rw [List.getElem?_append_right (by omega)] at hj
      have hzero : j - g.records.length = 0 := by
        obtain ⟨hbound, -⟩ := List.getElem?_eq_some_iff.mp hj
        simpa using hbound
      rw [hzero] at hj
      cases hj
      exact .inr ⟨by omega, rfl⟩
  refine ⟨?_, ?_, ?_⟩
  · simp only [List.map_append, List.map_cons, List.map_nil]
    refine nodup_append.mpr ⟨h.unique, nodup_singleton _, ?_⟩
    rintro id hmem _ hnew rfl
    rw [mem_singleton.mp hnew] at hmem
    exact hid hmem
  · intro other hother
    rcases mem_append.mp hother with hold | hnew
    · exact h.claimed other hold
    · cases mem_singleton.mp hnew
      exact hclaimed
  · intro i j first second hij hi hj hfirst hsecond
    rcases hcases hi with holdi | ⟨hlasti, rfl⟩
    · rcases hcases hj with holdj | ⟨-, rfl⟩
      · exact h.disjoint i j first second hij holdi holdj hfirst hsecond
      · exact (hdisjoint first (mem_of_getElem? holdi) hfirst).symm
    · rcases hcases hj with holdj | ⟨hlastj, -⟩
      · exact hdisjoint second (mem_of_getElem? holdj) hsecond
      · exact absurd (hlasti.trans hlastj.symm) hij

end Invariant

section Runs

variable {g t : LiveWalletWorkloadRegistry E}

variable {r : LiveWalletWorkloadRecord E}

variable {id : String}

/-- The record that an identity finds has this identity. -/
theorem id_of_position (h : g.records[g.position id]? = some r) : r.id = id := by
  obtain ⟨hlt, rfl⟩ := List.getElem?_eq_some_iff.mp h
  exact of_decide_eq_true (List.findIdx_getElem (w := hlt))

theorem Admitted.position_unique (h : g.Admitted) {i j : Nat} {r' : LiveWalletWorkloadRecord E}
    (hi : g.records[i]? = some r) (hj : g.records[j]? = some r') (hid : r.id = r'.id) : i = j := by
  obtain ⟨hlt, -⟩ := List.getElem?_eq_some_iff.mp hi
  refine (List.getElem?_inj (by simpa using hlt) h.unique).mp ?_
  rw [List.getElem?_map, List.getElem?_map, hi, hj]
  simp [hid]

theorem recordStep_cases {action : LiveAction E} (h : g.step (.record id action) = some t) :
    ∃ r next, g.records[g.position id]? = some r ∧ r.step action = some next ∧
      (∀ updated walletCount, action ≠ .reconfigure updated walletCount) ∧
      t = g.put id next := by
  unfold step at h
  split at h
  · rename_i heq
    cases heq
  · rename_i heq
    cases heq
  · cases h
  · rename_i id' action' hnot heq
    cases heq
    cases hr : g.records[g.position id]? with
    | none => simp only [hr, reduceCtorEq] at h
    | some r =>
      simp only [hr] at h
      obtain ⟨next, hnext, rfl⟩ := Option.map_eq_some_iff.mp h
      exact ⟨r, next, rfl, hnext, hnot, rfl⟩
  · rename_i heq
    cases heq

theorem recordStep_admitted (h : g.Admitted) {next : LiveWalletWorkloadRecord E}
    (hr : g.records[g.position id]? = some r) (hkeeps : r.KeepsClaims next) :
    (g.put id next).Admitted := by
  refine h.put hr hkeeps.id hkeeps.claimed ?_
  intro j other hj hother hnext hlive
  rw [hkeeps.claims]
  exact h.disjoint _ j r other hj hr hother
    (fun hterminal => hnext (hkeeps.terminal hterminal)) hlive

variable {workload : WalletTransactionsWorkload}

variable {walletCount : Nat}

theorem accepted_ok {updated : AcceptedWorkload E}
    (h : accepted E workload walletCount = .ok updated) :
    updated.val = workload := by
  unfold accepted at h
  split at h
  · cases h
  · cases h
    rfl

theorem reconfigure_admitted (h : g.Admitted)
    (hstep : g.reconfigure id workload walletCount = .ok t)
    (hkeeps : g.keepsSenders (.reconfigure id workload walletCount)) : t.Admitted := by
  unfold reconfigure at hstep
  cases hr : g.records[g.position id]? with
  | none => simp only [hr, reduceCtorEq] at hstep
  | some r =>
    simp only [hr] at hstep
    cases haccepted : accepted E workload walletCount with
    | error failure => simp only [haccepted, reduceCtorEq] at hstep
    | ok updated =>
      simp only [haccepted] at hstep
      cases hconflict : g.conflict (some id)
          (claimedWalletsForWorkload updated.val walletCount) with
      | some other => simp only [hconflict, reduceCtorEq] at hstep
      | none =>
        simp only [hconflict] at hstep
        cases hfailure : r.reconfigurationFailure updated.val with
        | some failure => simp only [hfailure, reduceCtorEq] at hstep
        | none =>
          simp only [hfailure] at hstep
          cases hstep
          have hcovers := hkeeps r hr
          rw [← accepted_ok haccepted] at hcovers
          obtain ⟨hid, hclaims, hclaimed⟩ := reconfigureStep_claimed
            (h.claimed r (mem_of_getElem? hr)) hfailure hcovers
          refine h.put hr hid hclaimed ?_
          intro j other hj hother _ hlive
          rw [hclaims]
          refine conflict_none hconflict (mem_of_getElem? hother) ?_ hlive
          intro hsame
          refine hj (h.position_unique hr hother ?_)
          rw [id_of_position hr]
          exact (Option.some.inj hsame).symm

theorem generateId_unused {used : List String} {fuel nextId : Nat} {next : Nat}
    (h : generateId used fuel nextId = .ok (id, next)) : id ∉ used := by
  induction fuel generalizing nextId with
  | zero => cases h
  | succ fuel ih =>
    simp only [generateId] at h
    split_ifs at h with hmax hused
    · exact ih h
    · cases h
      exact hused

variable {requestedId : Option String}

theorem chooseId_unused {others : List String} {next : Nat}
    (h : g.chooseId requestedId others = .ok (id, next)) : id ∉ g.records.map (·.id) := by
  have hused : id ∉ g.records.map (·.id) ++ others := by
    cases requestedId with
    | some requested =>
      simp only [chooseId] at h
      split_ifs at h with hmem
      cases h
      exact hmem
    | none => exact generateId_unused h
  exact fun hmem => hused (mem_append_left _ hmem)

theorem create_claimed (id : String) (workload : AcceptedWorkload E) (walletCount : Nat) :
    (LiveWalletWorkloadRecord.create id workload walletCount).Claimed := by
  refine ⟨create_lifecycle id workload walletCount, ?_, fun _ => fun _ hwallet => hwallet, ?_⟩
  · rintro e ⟨⟩
  · rintro w ⟨⟩

theorem start_admitted (h : g.Admitted) {others : List String}
    (hstep : g.start workload walletCount requestedId others = .ok t) : t.Admitted := by
  unfold start at hstep
  by_cases hshutting : g.shuttingDown = true
  · rw [if_pos hshutting] at hstep
    cases hstep
  rw [if_neg hshutting] at hstep
  cases haccepted : accepted E workload walletCount with
  | error failure => simp only [haccepted, reduceCtorEq] at hstep
  | ok updated =>
    simp only [haccepted] at hstep
    by_cases hretained : g.records.length + others.length ≥ kMaximumScenarioActionCount
    · rw [if_pos hretained] at hstep
      cases hstep
    rw [if_neg hretained] at hstep
    cases hconflict : g.conflict none (claimedWalletsForWorkload updated.val walletCount) with
    | some other => simp only [hconflict, reduceCtorEq] at hstep
    | none =>
      simp only [hconflict] at hstep
      split_ifs at hstep with hactive
      cases hchosen : g.chooseId requestedId others with
      | error failure => simp only [hchosen, reduceCtorEq] at hstep
      | ok chosen =>
        obtain ⟨id, nextId⟩ := chosen
        simp only [hchosen] at hstep
        cases hstep
        exact h.append (chooseId_unused hchosen) (create_claimed _ _ _)
          fun other hother hlive => conflict_none hconflict hother nofun hlive

theorem step_admitted (a : RegistryAction E) (hstep : g.step a = some t) (hkeeps : g.keepsSenders a)
    (h : g.Admitted) : t.Admitted := by
  cases a with
  | start workload walletCount requestedId others =>
    simp only [step] at hstep
    cases hstart : g.start workload walletCount requestedId others with
    | error failure =>
      simp only [hstart] at hstep
      cases hstep
      exact h
    | ok next =>
      simp only [hstart] at hstep
      cases hstep
      exact start_admitted h hstart
  | reconfigure id updated walletCount =>
    simp only [step] at hstep
    cases hreconfigure : g.reconfigure id updated walletCount with
    | error failure =>
      simp only [hreconfigure] at hstep
      cases hstep
      exact h
    | ok next =>
      simp only [hreconfigure] at hstep
      cases hstep
      exact reconfigure_admitted h hreconfigure hkeeps
  | record id action =>
    obtain ⟨r, next, hr, hnext, haction, rfl⟩ := recordStep_cases hstep
    exact recordStep_admitted h hr (step_keeps (h.claimed r (mem_of_getElem? hr)) hnext haction)
  | shutDown =>
    cases hstep
    exact ⟨h.unique, h.claimed, h.disjoint⟩

/--
In every run whose reconfigurations keep the wallets that are being spent from, the
sender wallets of two workers inside of their epochs are disjoint.
-/
theorem wallets_are_spent_once {actions : List (RegistryAction E)}
    (hkeeps : (liveRegistryMachine E).Meets keepsSenders {} actions)
    (hrun : (liveRegistryMachine E).run {} actions = some t)
    {i j : Nat} {first second : LiveWalletWorkloadRecord E} {e e' : LiveEpoch E} (hij : i ≠ j)
    (hfirst : t.records[i]? = some first) (hsecond : t.records[j]? = some second)
    (he : first.worker = .executing e) (he' : second.worker = .executing e') :
    e.senders.Disjoint e'.senders := by
  have hstart : Admitted ({} : LiveWalletWorkloadRegistry E) := by
    refine ⟨nodup_nil, ?_, ?_⟩
    · rintro r ⟨⟩
    · rintro i j r r' _ ⟨⟩
  have h : t.Admitted :=
    (liveRegistryMachine E).meets_preserves (fun _ a _ => step_admitted a) hkeeps hrun hstart
  have hclaimed := h.claimed first (mem_of_getElem? hfirst)
  have hclaimed' := h.claimed second (mem_of_getElem? hsecond)
  have hdisjoint := h.disjoint i j first second hij hfirst hsecond
    (hclaimed.lifecycle.not_terminal (by rw [he]; intro h; cases h))
    (hclaimed'.lifecycle.not_terminal (by rw [he']; intro h; cases h))
  intro wallet hwallet hwallet'
  exact hdisjoint (hclaimed.running e he hwallet) (hclaimed'.running e' he' hwallet')

/-- A running workload gives up no wallet, and another one sends from other wallets. -/
def keepingActions : List (RegistryAction countingEngine) :=
  [.start (fanoutFrom 1 3) 3 (some "first") [], .record "first" .head,
    .record "first" (.apply (.fund .funded)),
    .record "first" (.apply (.executionStarted (.ok ()))),
    .reconfigure "first" { fanoutFrom 1 3 with senderWallets := [2, 1] } 3,
    .start (fanoutFrom 1 3) 3 (some "refused") [],
    .start (fanoutFrom 3 1) 3 (some "second") [], .record "second" .head]

theorem running_workloads_are_apart :
    ∃ g first second e e',
      (liveRegistryMachine countingEngine).Meets keepsSenders {} keepingActions ∧
      (liveRegistryMachine countingEngine).run {} keepingActions = some g ∧
      g.records = [first, second] ∧
      first.worker = .executing e ∧ second.worker = .executing e' ∧
      e.senders = [1] ∧ e'.senders = [3] ∧ e.senders.Disjoint e'.senders :=
  ⟨_, _, _, _, _, by decide, rfl, rfl, rfl, rfl, rfl, rfl,
    @wallets_are_spent_once countingEngine _ keepingActions (by decide) rfl 0 1 _ _ _ _
      (by decide) rfl rfl rfl rfl⟩

end Runs

end LiveWalletWorkloadRegistry

end Bbp.Simulator
