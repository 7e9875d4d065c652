import Bbp.Simulator.BalanceReservations

/-!
# Safety of the balance reservation ledger

`Balanced` says that the two vectors kept beside the reservation map are exactly
what the map implies, that no wallet's balance and reservations together leave
the range of the counters, and that the map respects its bound.  `Adds` compares
a ledger with the one a batch was planned on.

The planner works on a copy of the balances in which busy senders are empty,
while the ledger recomputes the batch on the real ones.  `stageEntries_spec`
shows that the two computations agree, so that none of the checks between them
can fail, and `rollBack_adds` that a refused batch leaves no trace.
-/

namespace Bbp.Simulator

open Library List

section Weights

/-- The amount reserved for one sender by a list of reservations. -/
def amountOf (reservations : List (Nat × Reservation)) (sender : Nat) : Nat :=
  sumWhere (fun e => e.2.senderIndex = sender) (fun e => e.2.amountSatoshis) reservations

/-- The number of reservations of one sender. -/
def countOf (reservations : List (Nat × Reservation)) (sender : Nat) : Nat :=
  sumWhere (fun e => e.2.senderIndex = sender) (fun _ => 1) reservations

@[simp] theorem amountOf_nil (sender : Nat) : amountOf [] sender = 0 := by
  rfl

@[simp] theorem countOf_nil (sender : Nat) : countOf [] sender = 0 := by
  rfl

variable (entry : Nat × Reservation) (rest : List (Nat × Reservation))
  {xs : List (Nat × Reservation)} {k : Nat} {r : Reservation}

theorem amountOf_cons (sender : Nat) :
    amountOf (entry :: rest) sender =
      (if entry.2.senderIndex = sender then entry.2.amountSatoshis else 0) +
        amountOf rest sender := by
  simp [amountOf, sumWhere_cons]

theorem countOf_cons (sender : Nat) :
    countOf (entry :: rest) sender =
      (if entry.2.senderIndex = sender then 1 else 0) + countOf rest sender := by
  simp [countOf, sumWhere_cons]

theorem amountOf_eraseKey (hnodup : (xs.map Prod.fst).Nodup) (h : xs.lookup k = some r)
    (sender : Nat) :
    amountOf xs sender =
      (if r.senderIndex = sender then r.amountSatoshis else 0) +
        amountOf (eraseKey k xs) sender := by
  simpa [amountOf] using sumWhere_eraseKey (fun e => decide (e.2.senderIndex = sender))
      (fun e => e.2.amountSatoshis) hnodup h

theorem countOf_eraseKey (hnodup : (xs.map Prod.fst).Nodup) (h : xs.lookup k = some r)
    (sender : Nat) :
    countOf xs sender =
      (if r.senderIndex = sender then 1 else 0) +
        countOf (eraseKey k xs) sender := by
  simpa [countOf] using sumWhere_eraseKey (fun e => decide (e.2.senderIndex = sender))
      (fun _ => 1) hnodup h

end Weights

namespace TransactionLoadBalanceReservations

variable {l base : TransactionLoadBalanceReservations} {k : Nat} {r : Reservation}
  {staged : List (Nat × Reservation)} {plans : List WalletTransactionPlanEntry}
  {balances after : List Nat}

section Invariant

/-- The vectors and the bound agree with the reservation map. -/
structure Balanced (l : TransactionLoadBalanceReservations) : Prop where
  reservedLength : l.reservedBySender.length = l.availableBalances.length
  outstandingLength : l.outstandingBySender.length = l.availableBalances.length
  keysNodup : (l.reservations.map Prod.fst).Nodup
  senderInRange : ∀ entry, entry ∈ l.reservations → entry.2.senderIndex < l.availableBalances.length
  reservedExact : ∀ sender, slot l.reservedBySender sender = amountOf l.reservations sender
  outstandingExact : ∀ sender, slot l.outstandingBySender sender = countOf l.reservations sender
  inRange : ∀ sender, slot l.availableBalances sender + slot l.reservedBySender sender ≤ 2 ^ 64 - 1
  bounded : l.reservations.length ≤ l.maximumReservations

theorem create_balanced {fee maximum : Nat} (hword : ∀ sender, slot balances sender ≤ 2 ^ 64 - 1)
    (h : create balances fee maximum = .ok l) :
    l.Balanced ∧ l.feeReserveSatoshis = fee ∧ l.maximumReservations = maximum := by
  simp only [create] at h
  split at h
  · cases h
  split at h
  · cases h
  split at h <;> cases h
  refine ⟨⟨by simp, by simp, by simp, by simp, ?_, ?_, ?_, by simp⟩, rfl, rfl⟩
  · intro sender
    simp [slot_replicate_zero]
  · intro sender
    simp [slot_replicate_zero]
  · intro sender
    simpa [slot_replicate_zero] using hword sender

theorem Balanced.inVectors (hl : l.Balanced) {sender : Nat}
    (hin : sender < l.availableBalances.length) :
    sender < l.reservedBySender.length ∧ sender < l.outstandingBySender.length :=
  ⟨hl.reservedLength ▸ hin, hl.outstandingLength ▸ hin⟩

/-- What a reservation that is still there says about its sender. -/
theorem Balanced.found (hl : l.Balanced) (h : l.reservations.lookup k = some r) :
    r.senderIndex < l.availableBalances.length ∧
    r.amountSatoshis ≤ slot l.reservedBySender r.senderIndex ∧
    0 < slot l.outstandingBySender r.senderIndex := by
  have hamount := amountOf_eraseKey hl.keysNodup h r.senderIndex
  have hcount := countOf_eraseKey hl.keysNodup h r.senderIndex
  rw [if_pos rfl] at hamount hcount
  refine ⟨hl.senderInRange _ (mem_of_lookup h), ?_, ?_⟩
  · rw [hl.reservedExact]
    omega
  · rw [hl.outstandingExact]
    omega

/-- Ending one reservation keeps the ledger balanced. -/
theorem Balanced.remove (hl : l.Balanced) (available revision : Nat)
    (h : l.reservations.lookup k = some r)
    (hrange : available +
      (slot l.reservedBySender r.senderIndex - r.amountSatoshis) ≤ 2 ^ 64 - 1) :
    Balanced
      { l with
        availableBalances := l.availableBalances.set r.senderIndex available
        reservedBySender := l.reservedBySender.set r.senderIndex
          (slot l.reservedBySender r.senderIndex - r.amountSatoshis)
        outstandingBySender := l.outstandingBySender.set r.senderIndex
          (slot l.outstandingBySender r.senderIndex - 1)
        reservations := eraseKey k l.reservations
        balanceRevision := revision } := by
  obtain ⟨hin, hamount, hcount⟩ := hl.found h
  obtain ⟨hinReserved, hinOutstanding⟩ := hl.inVectors hin
  refine ⟨?_, ?_, nodup_keys_eraseKey hl.keysNodup, ?_, ?_, ?_, ?_, ?_⟩
  · simpa using hl.reservedLength
  · simpa using hl.outstandingLength
  · intro entry hentry
    have hmem : entry ∈ l.reservations := (mem_filter.mp hentry).1
    simpa using hl.senderInRange entry hmem
  · intro sender
    have hsum := amountOf_eraseKey hl.keysNodup h sender
    have hset := slot_set_sub hinReserved hamount sender
    rw [hl.reservedExact sender] at hset
    simp only
    omega
  · intro sender
    have hsum := countOf_eraseKey hl.keysNodup h sender
    have hset := @slot_set_sub _ _ 1 hinOutstanding hcount sender
    rw [hl.outstandingExact sender] at hset
    simp only
    omega
  · intro sender
    have hbefore := hl.inRange sender
    simp only [slot_set _ _ _ _ hinReserved, slot_set _ _ _ _ hin]
    by_cases hs : sender = r.senderIndex
    · simpa [hs] using hrange
    · simpa [hs] using hbefore
  · have hlength := length_eraseKey hl.keysNodup h
    have hbound := hl.bounded
    simp only
    omega

end Invariant

section Batches

/-- `l` is `base` with the staged reservations of one batch on top. -/
structure Adds
    (base : TransactionLoadBalanceReservations)
    (staged : List (Nat × Reservation))
    (l : TransactionLoadBalanceReservations) : Prop where
  availableLength : l.availableBalances.length = base.availableBalances.length
  reservedLength : l.reservedBySender.length = base.reservedBySender.length
  outstandingLength : l.outstandingBySender.length = base.outstandingBySender.length
  available : ∀ sender, slot l.availableBalances sender + amountOf staged sender =
      slot base.availableBalances sender
  reserved : ∀ sender, slot l.reservedBySender sender =
      slot base.reservedBySender sender + amountOf staged sender
  outstanding : ∀ sender, slot l.outstandingBySender sender =
      slot base.outstandingBySender sender + countOf staged sender
  reservations : l.reservations = base.reservations ++ staged
  fee : l.feeReserveSatoshis = base.feeReserveSatoshis
  maximum : l.maximumReservations = base.maximumReservations
  revision : l.balanceRevision = base.balanceRevision

/-- Nothing added: the two ledgers differ at most in their high-water mark. -/
theorem Adds.eq_of_nil (h : Adds base [] l) : l = { base with maximumSize := l.maximumSize } := by
  have havailable : l.availableBalances = base.availableBalances := by
    apply slot_ext h.availableLength
    intro sender _
    simpa using h.available sender
  have hreserved : l.reservedBySender = base.reservedBySender := by
    apply slot_ext h.reservedLength
    intro sender _
    simpa using h.reserved sender
  have houtstanding : l.outstandingBySender = base.outstandingBySender := by
    apply slot_ext h.outstandingLength
    intro sender _
    simpa using h.outstanding sender
  have hreservations : l.reservations = base.reservations := by
    simpa using h.reservations
  rw [← havailable, ← hreserved, ← houtstanding, ← hreservations, ← h.fee,
    ← h.maximum, ← h.revision]

/-- A batch with fresh indexes and known senders keeps the ledger balanced. -/
theorem Adds.balanced (h : Adds base staged l) (hbase : base.Balanced)
    (hnodup : (l.reservations.map Prod.fst).Nodup)
    (hsenders : ∀ entry ∈ staged, entry.2.senderIndex < base.availableBalances.length)
    (hbound : l.reservations.length ≤ l.maximumReservations) : l.Balanced := by
  refine ⟨?_, ?_, hnodup, ?_, ?_, ?_, ?_, hbound⟩
  · rw [h.reservedLength, h.availableLength, hbase.reservedLength]
  · rw [h.outstandingLength, h.availableLength, hbase.outstandingLength]
  · intro entry hentry
    rw [h.reservations] at hentry
    rw [h.availableLength]
    rcases mem_append.mp hentry with hold | hnew
    · exact hbase.senderInRange entry hold
    · exact hsenders entry hnew
  · intro sender
    rw [h.reserved, h.reservations, hbase.reservedExact]
    exact (sumWhere_append _ _ _ _).symm
  · intro sender
    rw [h.outstanding, h.reservations, hbase.outstandingExact]
    exact (sumWhere_append _ _ _ _).symm
  · intro sender
    have hrange := hbase.inRange sender
    have havailable := h.available sender
    have hreserved := h.reserved sender
    omega

/-- Taking the first staged reservation back leaves the rest of the batch. -/
theorem Adds.remove {rest : List (Nat × Reservation)} (h : Adds base ((k, r) :: rest) l)
    (hl : l.Balanced) (hlookup : l.reservations.lookup k = some r) :
    Adds base rest
      { l with
        availableBalances := l.availableBalances.set r.senderIndex
          (slot l.availableBalances r.senderIndex + r.amountSatoshis)
        reservedBySender := l.reservedBySender.set r.senderIndex
          (slot l.reservedBySender r.senderIndex - r.amountSatoshis)
        outstandingBySender := l.outstandingBySender.set r.senderIndex
          (slot l.outstandingBySender r.senderIndex - 1)
        reservations := eraseKey k l.reservations } := by
  obtain ⟨hin, hamount, hcount⟩ := hl.found hlookup
  obtain ⟨hinReserved, hinOutstanding⟩ := hl.inVectors hin
  refine ⟨by simpa using h.availableLength, by simpa using h.reservedLength,
    by simpa using h.outstandingLength, ?_, ?_, ?_, ?_, h.fee, h.maximum,
    h.revision⟩
  · intro sender
    have hbefore := h.available sender
    simp only [amountOf_cons] at hbefore
    rw [slot_set_add hin]
    omega
  · intro sender
    have hbefore := h.reserved sender
    have hset := slot_set_sub hinReserved hamount sender
    simp only [amountOf_cons] at hbefore ⊢
    omega
  · intro sender
    have hbefore := h.outstanding sender
    have hset := @slot_set_sub _ _ 1 hinOutstanding hcount sender
    simp only [countOf_cons] at hbefore ⊢
    omega
  · have hkeys := hl.keysNodup
    rw [h.reservations] at hkeys
    simp only [h.reservations]
    exact eraseKey_append_cons hkeys

/-- Rolling a staged batch back succeeds and restores the ledger below it. -/
theorem rollBack_adds (h : Adds base staged l) (hl : l.Balanced) :
    ∃ l', l.rollBackReservations (staged.map Prod.fst) = (.ok (), l') ∧
      Adds base [] l' ∧ l'.Balanced ∧ l'.maximumSize = l.maximumSize := by
  induction staged generalizing l with
  | nil => exact ⟨l, rfl, h, hl, rfl⟩
  | cons entry rest ih =>
    obtain ⟨k, r⟩ := entry
    have hmem : (k, r) ∈ l.reservations := by
      rw [h.reservations]
      simp
    have hlookup := lookup_of_mem hl.keysNodup hmem
    obtain ⟨_, hamount, hcount⟩ := hl.found hlookup
    have hrange := hl.inRange r.senderIndex
    have hover : ¬ slot l.availableBalances r.senderIndex > 2 ^ 64 - 1 - r.amountSatoshis := by
      omega
    have hremoved := hl.remove (slot l.availableBalances r.senderIndex + r.amountSatoshis)
      l.balanceRevision hlookup (by omega)
    obtain ⟨l', hroll, hadds, hbalanced, hmaximum⟩ := ih (h.remove hl hlookup) hremoved
    refine ⟨l', ?_, hadds, hbalanced, hmaximum⟩
    simp only [map_cons, rollBackReservations, hlookup, if_neg hamount.not_gt,
      if_neg hover, if_neg hcount.ne']
    exact hroll

end Batches

section Staging

/-- Paying a batch depends on the balances of its senders only. -/
theorem spend_agree {fee : Nat} {xs ys xs' : List Nat} {batch : List WalletTransactionPlanEntry}
    (hlength : xs.length = ys.length) (hin : ∀ entry ∈ batch, entry.senderIndex < xs.length)
    (hagree : ∀ entry ∈ batch, slot xs entry.senderIndex = slot ys entry.senderIndex)
    (h : spend fee xs batch = some xs') :
    ∃ ys', spend fee ys batch = some ys' ∧
      ∀ sender, slot xs sender = slot ys sender →
        slot xs' sender = slot ys' sender := by
  induction batch generalizing xs ys with
  | nil =>
    cases h
    exact ⟨ys, rfl, fun _ hsame => hsame⟩
  | cons entry rest ih =>
    have hinX := hin entry (by simp)
    have hinY : entry.senderIndex < ys.length := hlength ▸ hinX
    have hsame := hagree entry (by simp)
    simp only [spend] at h
    split at h
    next hcost =>
      have hset : ∀ sender, slot xs sender = slot ys sender →
          slot (xs.set entry.senderIndex (slot xs entry.senderIndex -
            (entry.amountSatoshis + fee))) sender =
          slot (ys.set entry.senderIndex (slot ys entry.senderIndex -
            (entry.amountSatoshis + fee))) sender := by
        intro sender heq
        simp only [slot_set _ _ _ _ hinX, slot_set _ _ _ _ hinY, hsame, heq]
      obtain ⟨ys', hspend, hslots⟩ := ih (by simpa using hlength)
        (fun e he => by simpa using hin e (mem_cons_of_mem _ he))
        (fun e he => hset _ (hagree e (mem_cons_of_mem _ he))) h
      refine ⟨ys', ?_, fun sender heq => hslots sender (hset sender heq)⟩
      rw [hsame] at hcost
      simpa only [spend, if_pos hcost] using hspend
    · cases h

/-- What staging a batch at a transaction index produces. -/
structure Staged
    (l : TransactionLoadBalanceReservations) (first count : Nat)
    (balances reserved after reserved' : List Nat)
    (staged : List (Nat × Reservation)) : Prop where
  keys : staged.map Prod.fst = range' first count
  fresh : ∀ k, k ∈ staged.map Prod.fst → k ∉ l.reservations.map Prod.fst
  senders : ∀ entry, entry ∈ staged → entry.2.senderIndex < balances.length
  availableSlots : ∀ sender, slot after sender + amountOf staged sender = slot balances sender
  reservedSlots : ∀ sender, slot reserved' sender = slot reserved sender + amountOf staged sender
  reservedLength : reserved'.length = reserved.length

/-- The reservations of a batch, one for each entry. -/
def reservationsOf (fee first : Nat) (plans : List WalletTransactionPlanEntry) :
    List (Nat × Reservation) :=
  plans.mapIdx fun offset entry =>
    (first + offset,
      { senderIndex := entry.senderIndex, amountSatoshis := entry.amountSatoshis + fee })

/-- What has been staged are the reservations of the batch, for idle senders. -/
theorem stageEntries_ok {first offset : Nat} {reserved reserved' : List Nat}
    (hlength : reserved.length = balances.length)
    (h : l.stageEntries first offset balances reserved plans = .ok (after, reserved', staged)) :
    Staged l (first + offset) plans.length balances reserved after reserved' staged ∧
    staged = reservationsOf l.feeReserveSatoshis (first + offset) plans ∧
    after.length = balances.length ∧
    ∀ entry ∈ plans, slot l.outstandingBySender entry.senderIndex = 0 := by
  induction plans generalizing offset balances reserved staged with
  | nil =>
    cases h
    exact ⟨⟨rfl, by simp, by simp, by simp, by simp, rfl⟩, rfl, rfl, by simp⟩
  | cons entry rest ih =>
    simp only [stageEntries] at h
    split_ifs at h with _ hfresh hinside hidle _ henough
    split at h <;> cases h
    rename_i hrest
    have hin : entry.senderIndex < balances.length := by omega
    have hinReserved : entry.senderIndex < reserved.length := by omega
    obtain ⟨hst, hentries, hafter, hothers⟩ := ih (by simpa using hlength) hrest
    refine ⟨⟨?_, ?_, ?_, ?_, ?_, by simpa using hst.reservedLength⟩, ?_, by simpa using hafter, ?_⟩
    · simp only [map_cons, hst.keys, length_cons, range'_succ]
      rfl
    · intro k hk
      rcases mem_cons.mp hk with rfl | hk
      · rwa [lookup_isSome_iff_mem_keys] at hfresh
      · exact hst.fresh k hk
    · intro e he
      rcases mem_cons.mp he with rfl | he
      · exact hin
      · simpa using hst.senders e he
    · intro sender
      have hrest := hst.availableSlots sender
      have hset := slot_set_sub hin (Nat.not_lt.mp henough) sender
      simp only [amountOf_cons]
      omega
    · intro sender
      have hrest := hst.reservedSlots sender
      rw [slot_set_add hinReserved] at hrest
      simp only [amountOf_cons]
      omega
    · rw [hentries, reservationsOf, reservationsOf, mapIdx_cons]
      simp only [Nat.add_assoc, Nat.add_comm 1, Nat.add_zero]
    · intro e he
      rcases mem_cons.mp he with rfl | he
      · exact not_not.mp hidle
      · exact hothers e he

/--
Staging a batch that idle senders can pay never trips over the ledger: it fails
only on a transaction index that is out of range or already taken.
-/
theorem stageEntries_spec (first offset : Nat) {balances reserved : List Nat}
    (hspend : spend l.feeReserveSatoshis balances plans = some after) (hsenders : ∀ entry ∈ plans,
      entry.senderIndex < balances.length ∧ slot l.outstandingBySender entry.senderIndex = 0)
    (hlength : reserved.length = balances.length)
    (hrange : ∀ sender, slot balances sender + slot reserved sender ≤ 2 ^ 64 - 1) :
    (l.stageEntries first offset balances reserved plans = .error .indexOverflow ∧
      2 ^ 64 ≤ first + offset + plans.length) ∨
    (l.stageEntries first offset balances reserved plans = .error .duplicateIndex ∧
      ∃ k, first ≤ k ∧ k ∈ l.reservations.map Prod.fst) ∨
    ∃ reserved' staged,
      l.stageEntries first offset balances reserved plans = .ok (after, reserved', staged) := by
  induction plans generalizing offset balances reserved with
  | nil =>
    cases hspend
    exact .inr (.inr ⟨reserved, [], rfl⟩)
  | cons entry rest ih =>
    obtain ⟨hin, hidle⟩ := hsenders entry (by simp)
    have hinReserved : entry.senderIndex < reserved.length := hlength ▸ hin
    have hentry := hrange entry.senderIndex
    simp only [stageEntries]
    split
    next hoverflow =>
      refine .inl ⟨rfl, ?_⟩
      omega
    split
    next htaken =>
      exact .inr (.inl ⟨rfl, first + offset, by omega, lookup_isSome_iff_mem_keys.mp htaken⟩)
    simp only [spend] at hspend
    split at hspend
    next hcost =>
      have hamount : ¬ entry.amountSatoshis > 2 ^ 64 - 1 - l.feeReserveSatoshis := by
        omega
      have htotal : ¬ slot reserved entry.senderIndex > 2 ^ 64 - 1 -
          (entry.amountSatoshis + l.feeReserveSatoshis) := by
        omega
      simp only [if_neg (Nat.not_le.mpr hin), hidle, ne_eq, not_true_eq_false, if_false,
        if_neg hamount, if_neg (Nat.not_lt.mpr hcost), if_neg htotal]
      have hstep := @ih (offset + 1) _ (reserved.set entry.senderIndex
          (slot reserved entry.senderIndex + (entry.amountSatoshis + l.feeReserveSatoshis)))
        hspend
        (by
          intro e he
          simpa using hsenders e (mem_cons_of_mem _ he))
        (by simpa using hlength)
        (by
          intro sender
          have hbefore := hrange sender
          have hset := slot_set_sub hin hcost sender
          rw [slot_set_add hinReserved]
          omega)
      rcases hstep with ⟨herror, hlarge⟩ | ⟨herror, htaken⟩ | ⟨reserved', staged, hok⟩
      · refine .inl ⟨by rw [herror], ?_⟩
        simp only [length_cons]
        omega
      · exact .inr (.inl ⟨by rw [herror], htaken⟩)
      · exact .inr (.inr ⟨reserved', _, by rw [hok]⟩)
    · cases hspend

/-- Counting a staged batch adds one for each of its reservations. -/
theorem countStaged_spec {outstanding : List Nat}
    (hin : ∀ entry ∈ staged, entry.2.senderIndex < outstanding.length) :
    (countStaged outstanding staged).length = outstanding.length ∧
    ∀ sender, slot (countStaged outstanding staged) sender =
      slot outstanding sender + countOf staged sender := by
  induction staged generalizing outstanding with
  | nil => exact ⟨rfl, fun _ => rfl⟩
  | cons entry rest ih =>
    have hhead := hin entry (by simp)
    obtain ⟨hlength, hslots⟩ := @ih (outstanding.set entry.2.senderIndex
        (slot outstanding entry.2.senderIndex + 1))
      (fun e he => by simpa using hin e (mem_cons_of_mem _ he))
    refine ⟨by simpa [countStaged] using hlength, ?_⟩
    intro sender
    have hrest := hslots sender
    rw [slot_set_add hhead] at hrest
    rw [countOf_cons, ← Nat.add_assoc, ← hrest]
    rfl

/-- `l'` is `l` with the reservations of a batch on top, whose senders were idle. -/
structure Reserves
    (l : TransactionLoadBalanceReservations) (first : Nat)
    (plans : List WalletTransactionPlanEntry)
    (staged : List (Nat × Reservation))
    (l' : TransactionLoadBalanceReservations) : Prop where
  adds : Adds l staged l'
  balanced : l'.Balanced
  entries : staged = reservationsOf l.feeReserveSatoshis first plans
  keys : staged.map Prod.fst = range' first plans.length
  fresh : ∀ k, k ∈ staged.map Prod.fst → k ∉ l.reservations.map Prod.fst
  idle : ∀ entry, entry ∈ plans → slot l.outstandingBySender entry.senderIndex = 0

/-- Merging a staged batch, which has no index twice, puts it on top of the ledger. -/
theorem merge_staged {first : Nat} {reserved' : List Nat} (hl : l.Balanced)
    (hroom : l.reservations.length + plans.length ≤ l.maximumReservations)
    (h : l.stageEntries first 0 l.availableBalances l.reservedBySender plans =
      .ok (after, reserved', staged)) :
    staged.filter (fun entry => (l.reservations.lookup entry.1).isSome) = [] ∧
    staged.filter (fun entry => !(l.reservations.lookup entry.1).isSome) = staged ∧
    Reserves l first plans staged
      { l with
        availableBalances := after
        reservedBySender := reserved'
        outstandingBySender := countStaged l.outstandingBySender staged
        reservations := l.reservations ++ staged
        maximumSize := max l.maximumSize (l.reservations ++ staged).length } := by
  obtain ⟨hst, hentries, hlength, hidle⟩ := stageEntries_ok hl.reservedLength h
  have hfresh : ∀ entry ∈ staged, (l.reservations.lookup entry.1).isSome = false := by
    intro entry hentry
    have hkey := hst.fresh entry.1 (mem_map_of_mem hentry)
    rw [← lookup_isSome_iff_mem_keys] at hkey
    exact Bool.eq_false_of_not_eq_true hkey
  refine ⟨filter_eq_nil_iff.mpr fun entry hentry => by simp [hfresh entry hentry],
    filter_eq_self.mpr fun entry hentry => by simp [hfresh entry hentry], ?_⟩
  have hin : ∀ entry ∈ staged, entry.2.senderIndex < l.outstandingBySender.length := by
    intro entry hentry
    rw [hl.outstandingLength]
    exact hst.senders entry hentry
  obtain ⟨hcountLength, hcount⟩ := countStaged_spec hin
  have hcounted : staged.length = plans.length := by
    simpa using congrArg length hst.keys
  have hreserves : ∀ l', Adds l staged l' → Reserves l first plans staged l' := by
    intro l' hadds
    refine ⟨hadds, hadds.balanced hl ?_ hst.senders ?_, hentries, hst.keys, hst.fresh, hidle⟩
    · rw [hadds.reservations, map_append]
      refine List.Nodup.append hl.keysNodup ?_ ?_
      · rw [hst.keys]
        exact nodup_range'
      · intro k hold hnew
        exact hst.fresh k hnew hold
    · rw [hadds.reservations, hadds.maximum, length_append]
      omega
  exact hreserves _ ⟨hlength, hst.reservedLength, hcountLength, hst.availableSlots,
    hst.reservedSlots, hcount, rfl, rfl, rfl, rfl⟩

end Staging

section Operations

variable {E : RandomEngine} {p : LoadPlannerState E}

theorem overwriteBusy_length (value : Nat → Nat) (balances : List Nat) :
    (l.overwriteBusy value balances).length = balances.length := by
  simp [overwriteBusy]

theorem slot_overwriteBusy (value : Nat → Nat) (balances : List Nat) {sender : Nat}
    (hin : sender < balances.length) :
    slot (l.overwriteBusy value balances) sender =
      if slot l.outstandingBySender sender ≠ 0 then value sender
      else slot balances sender :=
  slot_mapIdx _ _ _ hin

/-- Why a call may fail before its callback, and what that says of the call. -/
def StageFailure (l : TransactionLoadBalanceReservations) (p : LoadPlannerState E)
    (first remaining : Nat) : LedgerError → Prop
  | .planner e =>
    ∃ fuel balances,
      balances.length = l.availableBalances.length ∧
      (∀ sender, slot balances sender < 2 ^ 64) ∧
      p.nextBatch fuel balances remaining = .error e
  | .invalidBatchSize => remaining < p.batchSize ∧ p.workload.strategy = .equalFanout
  | .reservationBound => l.maximumReservations < l.reservations.length + p.batchSize
  | .indexOverflow => 2 ^ 64 ≤ first + p.batchSize
  | .duplicateIndex => ∃ k, first ≤ k ∧ k ∈ l.reservations.map Prod.fst
  | _ => False

theorem StageFailure.not_internal {first remaining : Nat} {e : LedgerError}
    (h : StageFailure l p first remaining e) : e.isInternal = false := by
  cases e <;> first | rfl | exact h.elim

/-- The planner after a call differs in its draws and its cursor at most. -/
def Advanced (p p' : LoadPlannerState E) : Prop :=
  ∃ rng equalSenderCursor, p' = { p with rng, equalSenderCursor }

theorem Advanced.refl (p : LoadPlannerState E) : Advanced p p := ⟨p.rng, p.equalSenderCursor, rfl⟩

/-- What a staged batch looks like to the callback. -/
structure Planned
    (l : TransactionLoadBalanceReservations) (p : LoadPlannerState E)
    (first remaining : Nat) (plans : List WalletTransactionPlanEntry)
    (staged : List (Nat × Reservation))
    (l' : TransactionLoadBalanceReservations) : Prop where
  adds : Adds l staged l'
  balanced : l'.Balanced
  keys : staged.map Prod.fst = range' first plans.length
  nonempty : plans ≠ []
  withinRemaining : plans.length ≤ remaining
  withinBatch : plans.length ≤ p.batchSize
  wholeBatch : p.workload.strategy = .equalFanout → plans.length = p.batchSize

variable (fuel first remaining : Nat)

/-- Before its callback a call fails, finds no plan, or stages a whole batch. -/
theorem planAndStage_cases (hl : l.Balanced) (haccepted : p.Accepted)
    (hfee : effectiveWalletTransactionFeeReserveSatoshis p.workload = l.feeReserveSatoshis) :
    ∃ p', Advanced p p' ∧
      ((∃ e, l.planAndStage fuel p first remaining = (.threw e, l, p') ∧
          StageFailure l p first remaining e) ∨
        l.planAndStage fuel p first remaining = (.noPlan, l, p') ∨
        ∃ plans staged l',
          l.planAndStage fuel p first remaining = (.staged plans (staged.map Prod.fst), l', p') ∧
          Planned l p first remaining plans staged l') := by
  have hmaskedLength := overwriteBusy_length (l := l) (fun _ => 0) l.availableBalances
  have hword : ∀ sender,
      slot (l.overwriteBusy (fun _ => 0) l.availableBalances) sender < 2 ^ 64 := by
    intro sender
    have hrange := hl.inRange sender
    by_cases hin : sender < l.availableBalances.length
    · rw [slot_overwriteBusy _ _ hin]
      split
      · omega
      · omega
    · rw [slot_of_length_le (by omega)]
      omega
  simp only [planAndStage]
  split
  next e herror => exact ⟨p, Advanced.refl p, .inl ⟨_, rfl, fuel, _, hmaskedLength, hword, herror⟩⟩
  next hbatch => exact ⟨_, nextBatch_planner hbatch, .inr (.inl rfl)⟩
  rename_i plans planned p' hbatch
  obtain ⟨hspend, hsenders⟩ := nextBatch_spends haccepted hword hbatch
  obtain ⟨hnonempty, hsize, hwhole, hasked⟩ := nextBatch_size haccepted hbatch
  refine ⟨p', nextBatch_planner hbatch, ?_⟩
  split
  next hinvalid =>
    refine .inl ⟨_, rfl, ?_⟩
    rcases hinvalid with hnil | hlarge
    · exact absurd hnil hnonempty
    · refine ⟨by omega, ?_⟩
      by_contra hother
      have hlength := hasked hother
      omega
  next hvalid =>
    split
    next hfull =>
      refine .inl ⟨_, rfl, ?_⟩
      simp only [StageFailure]
      omega
    rename_i hroom
    have hidle : ∀ entry ∈ plans, entry.senderIndex < l.availableBalances.length ∧
          slot l.outstandingBySender entry.senderIndex = 0 := by
      intro entry hentry
      obtain ⟨hin, hpositive⟩ := hsenders entry hentry
      rw [hmaskedLength] at hin
      rw [slot_overwriteBusy _ _ hin] at hpositive
      refine ⟨hin, ?_⟩
      by_contra hbusy
      rw [if_pos hbusy] at hpositive
      omega
    have hagree : ∀ sender, sender < l.availableBalances.length →
        slot l.outstandingBySender sender = 0 →
        slot (l.overwriteBusy (fun _ => 0) l.availableBalances) sender =
          slot l.availableBalances sender := by
      intro sender hin hzero
      rw [slot_overwriteBusy _ _ hin, if_neg (by simpa using hzero)]
    obtain ⟨expected, hexpected, hslots⟩ := spend_agree hmaskedLength
      (fun entry hentry => (hsenders entry hentry).1)
      (fun entry hentry => hagree _ (hidle entry hentry).1 (hidle entry hentry).2) hspend
    rw [hfee] at hexpected
    have hstage := stageEntries_spec first 0 hexpected hidle hl.reservedLength hl.inRange
    rcases hstage with ⟨herror, hlarge⟩ | ⟨herror, htaken⟩ | ⟨reserved', staged, hok⟩
    · refine .inl ⟨.indexOverflow, ?_, ?_⟩
      · simp only [herror]
      · simp only [StageFailure]
        omega
    · refine .inl ⟨.duplicateIndex, ?_, htaken⟩
      simp only [herror]
    · have hexpectedLength : expected.length = l.availableBalances.length := spend_length hexpected
      have hplannedLength : planned.length = l.availableBalances.length := by
        rw [spend_length hspend, hmaskedLength]
      have hdelta : expected = l.overwriteBusy (slot expected) planned := by
        apply slot_ext
        · rw [overwriteBusy_length, hexpectedLength, hplannedLength]
        · intro sender hin
          rw [hexpectedLength] at hin
          rw [slot_overwriteBusy _ _ (by omega)]
          split
          · rfl
          next hzero => exact (hslots sender (hagree sender hin (by simpa using hzero))).symm
      obtain ⟨hknown, hkept, hreserves⟩ := merge_staged hl (by omega) hok
      simp only [hok, ne_eq, ← hdelta, not_true_eq_false, if_false, hknown, hkept]
      exact .inr (.inr ⟨plans, staged, _, rfl, hreserves.adds, hreserves.balanced,
        hreserves.keys, hnonempty, by omega, hsize, hwhole⟩)

/-- Whatever the planner, a call throws, finds no plan or reserves a batch before its callback. -/
theorem planAndStage_reserves (p : LoadPlannerState E) (hl : l.Balanced) :
    (∃ e p', l.planAndStage fuel p first remaining = (.threw e, l, p')) ∨
    (∃ p', l.planAndStage fuel p first remaining = (.noPlan, l, p')) ∨
    ∃ plans staged l' p',
      l.planAndStage fuel p first remaining = (.staged plans (staged.map Prod.fst), l', p') ∧
      Reserves l first plans staged l' := by
  simp only [planAndStage]
  split
  · exact .inl ⟨_, _, rfl⟩
  · exact .inr (.inl ⟨_, rfl⟩)
  split
  · exact .inl ⟨_, _, rfl⟩
  split
  · exact .inl ⟨_, _, rfl⟩
  rename_i hroom
  split
  · exact .inl ⟨_, _, rfl⟩
  rename_i hok
  split
  · exact .inl ⟨_, _, rfl⟩
  obtain ⟨hknown, hkept, hreserves⟩ := merge_staged hl (by omega) hok
  simp only [hknown, hkept, ne_eq, not_true_eq_false, if_false]
  exact .inr (.inr ⟨_, _, _, _, rfl, hreserves⟩)

/-- After a staged batch the answer of the callback decides what stays. -/
theorem finishAdmission_cases {l' : TransactionLoadBalanceReservations}
    {staged : List (Nat × Reservation)} (hadds : Adds l staged l') (hl' : l'.Balanced)
    (plans : List WalletTransactionPlanEntry) (answer : Except String Bool) :
    (answer = .ok true ∧
      l'.finishAdmission plans (staged.map Prod.fst) answer =
        (.ok { plans, admitted := true, balanceRevision := l.balanceRevision }, l')) ∨
    (answer = .ok false ∧ l'.finishAdmission plans (staged.map Prod.fst) answer =
        (.ok { plans, admitted := false, balanceRevision := l.balanceRevision },
          { l with maximumSize := l'.maximumSize })) ∨
    ∃ message, answer = .error message ∧ l'.finishAdmission plans (staged.map Prod.fst) answer =
        (.error (.callback message),
          { l with maximumSize := l'.maximumSize }) := by
  obtain ⟨l'', hroll, hnone, _, hmaximum⟩ := rollBack_adds hadds hl'
  have hrestored := hnone.eq_of_nil
  rw [hmaximum] at hrestored
  cases answer with
  | error message =>
    refine .inr (.inr ⟨message, rfl, ?_⟩)
    simp only [finishAdmission, hroll, hrestored]
  | ok admitted =>
    cases admitted with
    | true =>
      refine .inl ⟨rfl, ?_⟩
      simp only [finishAdmission, hadds.revision]
    | false =>
      refine .inr (.inl ⟨rfl, ?_⟩)
      simp only [finishAdmission, hroll, hrestored]

/-- The high-water mark plays no part in the balance of a ledger. -/
theorem Balanced.withMaximumSize (hl : l.Balanced) (maximumSize : Nat) :
    Balanced { l with maximumSize } :=
  { hl with }

/-- The ledger keeps its invariant and its two parameters. -/
structure Keeps (l l' : TransactionLoadBalanceReservations) : Prop where
  balanced : l'.Balanced
  fee : l'.feeReserveSatoshis = l.feeReserveSatoshis
  maximum : l'.maximumReservations = l.maximumReservations

variable {result : Except LedgerError TransactionLoadBatchAdmission}
  {l' : TransactionLoadBalanceReservations} {planner' : Option (LoadPlannerState E)}

/-- A call reserves a whole batch that its callback has admitted, or nothing. -/
theorem planAndReserve_atomic {fuel first remaining : Nat} {planner : Option (LoadPlannerState E)}
    {admitBatch : Option AdmissionCallback} (hl : l.Balanced)
    (h : l.planAndReserve fuel planner first remaining admitBatch = (result, l', planner')) :
    (l' = { l with maximumSize := l'.maximumSize } ∧
      ∀ plans revision, result ≠ .ok ⟨plans, true, revision⟩) ∨
    ∃ plans staged answer, admitBatch = some answer ∧ answer plans = .ok true ∧
      result = .ok ⟨plans, true, l.balanceRevision⟩ ∧ Reserves l first plans staged l' := by
  unfold planAndReserve at h
  iterate 3
    split at h
    · cases h
      exact .inl ⟨rfl, nofun⟩
  rename_i p _ _ answer
  rcases planAndStage_reserves fuel first remaining p hl with
    ⟨e, p', hrun⟩ | ⟨p', hrun⟩ | ⟨plans, staged, l₁, p', hrun, hreserves⟩
  · rw [hrun] at h
    cases h
    exact .inl ⟨rfl, nofun⟩
  · rw [hrun] at h
    cases h
    exact .inl ⟨rfl, nofun⟩
  · rw [hrun] at h
    rcases finishAdmission_cases hreserves.adds hreserves.balanced plans (answer plans) with
      ⟨hadmitted, hfinish⟩ | ⟨_, hfinish⟩ | ⟨message, _, hfinish⟩
    · simp only [hfinish] at h
      cases h
      exact .inr ⟨plans, staged, answer, rfl, hadmitted, rfl, hreserves⟩
    all_goals
      simp only [hfinish] at h
      cases h
      exact .inl ⟨rfl, nofun⟩

theorem planAndReserve_keeps (planner : Option (LoadPlannerState E))
    (admitBatch : Option AdmissionCallback) (hl : l.Balanced) :
    Keeps l (l.planAndReserve fuel planner first remaining admitBatch).2.1 := by
  generalize hcall : l.planAndReserve fuel planner first remaining admitBatch = called
  obtain ⟨result, l', planner'⟩ := called
  rcases planAndReserve_atomic hl hcall with ⟨hsame, _⟩ | ⟨_, _, _, _, _, _, hreserves⟩
  · rw [hsame]
    exact ⟨hl.withMaximumSize _, rfl, rfl⟩
  · exact ⟨hreserves.balanced, hreserves.adds.fee, hreserves.adds.maximum⟩

/-- With the ledger's own fee it reports no internal error. -/
theorem planAndReserve_safe (admitBatch : Option AdmissionCallback) (hl : l.Balanced)
    (haccepted : p.Accepted)
    (hfee : effectiveWalletTransactionFeeReserveSatoshis p.workload = l.feeReserveSatoshis) :
    ∀ e, (l.planAndReserve fuel (some p) first remaining admitBatch).1 = .error e →
      e.isInternal = false := by
  simp only [planAndReserve]
  split
  · rintro e ⟨⟩
    rfl
  cases admitBatch with
  | none =>
    rintro e ⟨⟩
    rfl
  | some admitBatch =>
    obtain ⟨p', _, ⟨e, hrun, hkind⟩ | hrun | ⟨plans, staged, l', hrun, hplanned⟩⟩ :=
      planAndStage_cases fuel first remaining hl haccepted hfee
    · rw [hrun]
      rintro e' ⟨⟩
      exact hkind.not_internal
    · rw [hrun]
      rintro e ⟨⟩
    · simp only [hrun]
      rcases finishAdmission_cases hplanned.adds hplanned.balanced plans (admitBatch plans) with
        ⟨_, hfinish⟩ | ⟨_, hfinish⟩ | ⟨message, _, hfinish⟩
      · rw [hfinish]
        rintro e ⟨⟩
      · rw [hfinish]
        rintro e ⟨⟩
      · rw [hfinish]
        rintro e ⟨⟩
        rfl

/-- The ledger after one reservation has been settled. -/
def settled (l : TransactionLoadBalanceReservations) (transactionIndex : Nat)
    (reservation : Reservation) (available : Nat) : TransactionLoadBalanceReservations :=
  { l with
    availableBalances := l.availableBalances.set reservation.senderIndex available
    reservedBySender := l.reservedBySender.set reservation.senderIndex
      (slot l.reservedBySender reservation.senderIndex - reservation.amountSatoshis)
    outstandingBySender := l.outstandingBySender.set reservation.senderIndex
      (slot l.outstandingBySender reservation.senderIndex - 1)
    reservations := eraseKey transactionIndex l.reservations
    balanceRevision := l.balanceRevision + 1 }

/-- Whichever mode applies, balance and remaining reservations stay in range. -/
theorem Balanced.settledBalance_fits (hl : l.Balanced) (actual : Option Nat) (release : Bool)
    (h : l.reservations.lookup k = some r) :
    ∃ available shortfall,
      settledBalance (slot l.availableBalances r.senderIndex)
        (slot l.reservedBySender r.senderIndex - r.amountSatoshis)
        r.amountSatoshis actual release = .ok (available, shortfall) ∧
      ((∀ balance, actual = some balance → balance ≤ 2 ^ 64 - 1) →
        available + (slot l.reservedBySender r.senderIndex - r.amountSatoshis) ≤ 2 ^ 64 - 1) ∧
      ((∀ balance, actual = some balance →
        slot l.reservedBySender r.senderIndex - r.amountSatoshis ≤ balance) →
          shortfall = false) := by
  obtain ⟨_, hamount, -⟩ := hl.found h
  have hrange := hl.inRange r.senderIndex
  simp only [settledBalance]
  split
  next balance =>
    split
    · refine ⟨_, _, rfl, fun hword => ?_, fun henough => ?_⟩
      · have hfits := hword balance rfl
        omega
      · have hshort := henough balance rfl
        omega
    · refine ⟨_, _, rfl, fun hword => ?_, fun _ => rfl⟩
      have hfits := hword balance rfl
      omega
  split
  · rw [if_neg (by omega)]
    exact ⟨_, _, rfl, fun _ => by omega, fun _ => rfl⟩
  · exact ⟨_, _, rfl, fun _ => by omega, fun _ => rfl⟩

/-- Settling fails without a trace, or ends exactly the reservation it names. -/
theorem settle_cases (transactionIndex : Nat) (actual : Option Nat) (release : Bool)
    (onSettled : Option (Nat → Except String Unit)) (hl : l.Balanced)
    (hactual : ∀ balance, actual = some balance → balance ≤ 2 ^ 64 - 1) :
    (l.reservations.lookup transactionIndex = none ∧
      l.settle transactionIndex actual release onSettled = (.error .settledMoreThanOnce, l)) ∨
    ∃ reservation,
      l.reservations.lookup transactionIndex = some reservation ∧
      ((l.balanceRevision = 2 ^ 64 - 1 ∧
          l.settle transactionIndex actual release onSettled = (.error .revisionOverflow, l)) ∨
        ∃ available result,
          l.settle transactionIndex actual release onSettled =
            (result, l.settled transactionIndex reservation available) ∧
          (l.settled transactionIndex reservation available).Balanced ∧
          (result = .ok () ∨ result = .error .actualBelowOutstanding ∨
            ∃ message, result = .error (.callback message))) := by
  cases hlookup : l.reservations.lookup transactionIndex with
  | none =>
    refine .inl ⟨rfl, ?_⟩
    simp only [settle, hlookup]
  | some r =>
    obtain ⟨_, hamount, hcount⟩ := hl.found hlookup
    obtain ⟨available, shortfall, hbalance, hfits, -⟩ :=
      hl.settledBalance_fits actual release hlookup
    refine .inr ⟨r, rfl, ?_⟩
    simp only [settle, hlookup, if_neg hamount.not_gt, if_neg hcount.ne', hbalance]
    split
    next hrevision => exact .inl ⟨hrevision, rfl⟩
    refine .inr ⟨available, ?_⟩
    have hbalanced := hl.remove available (l.balanceRevision + 1) hlookup (hfits hactual)
    split
    next message _ => exact ⟨_, rfl, hbalanced, .inr (.inr ⟨message, rfl⟩)⟩
    · split
      · exact ⟨_, rfl, hbalanced, .inr (.inl rfl)⟩
      · exact ⟨_, rfl, hbalanced, .inl rfl⟩

/-- A settlement succeeds if its callback does and the balance read is enough. -/
theorem settle_ok {transactionIndex : Nat} {reservation : Reservation}
    (actual : Option Nat) (release : Bool) (hl : l.Balanced)
    (hlookup : l.reservations.lookup transactionIndex = some reservation)
    (hrevision : l.balanceRevision < 2 ^ 64 - 1)
    (hactual : ∀ balance, actual = some balance →
      slot l.reservedBySender reservation.senderIndex -
        reservation.amountSatoshis ≤ balance) :
    (l.settle transactionIndex actual release (some fun _ => .ok ())).1 =
      .ok () := by
  obtain ⟨_, hamount, hcount⟩ := hl.found hlookup
  obtain ⟨available, shortfall, hbalance, -, henough⟩ :=
    hl.settledBalance_fits actual release hlookup
  rw [henough hactual] at hbalance
  simp only [settle, hlookup, if_neg hamount.not_gt, if_neg hcount.ne', hbalance,
    if_neg hrevision.ne, Bool.false_eq_true, if_false]

theorem settle_safe (transactionIndex : Nat) (actual : Option Nat) (release : Bool)
    (onSettled : Option (Nat → Except String Unit)) (hl : l.Balanced)
    (hactual : ∀ balance, actual = some balance → balance ≤ 2 ^ 64 - 1) :
    Keeps l (l.settle transactionIndex actual release onSettled).2 ∧
    ∀ e, (l.settle transactionIndex actual release onSettled).1 = .error e →
      e.isInternal = false := by
  have hself : Keeps l l := ⟨hl, rfl, rfl⟩
  rcases settle_cases transactionIndex actual release onSettled hl hactual with
    ⟨_, hrun⟩ | ⟨r, _, ⟨_, hrun⟩ | ⟨available, result, hrun, hbalanced, hresult⟩⟩
  · rw [hrun]
    exact ⟨hself, by rintro e ⟨⟩; rfl⟩
  · rw [hrun]
    exact ⟨hself, by rintro e ⟨⟩; rfl⟩
  · rw [hrun]
    refine ⟨⟨hbalanced, rfl, rfl⟩, ?_⟩
    rcases hresult with rfl | rfl | ⟨message, rfl⟩
    · rintro e ⟨⟩
    all_goals
      rintro e ⟨⟩
      rfl

theorem refreshAvailableBalances_safe (balances : List Nat) (hl : l.Balanced)
    (hword : ∀ sender, slot balances sender ≤ 2 ^ 64 - 1) :
    Keeps l (l.refreshAvailableBalances balances).2 ∧
    ∀ e, (l.refreshAvailableBalances balances).1 = .error e →
      e.isInternal = false := by
  have hself : Keeps l l := ⟨hl, rfl, rfl⟩
  simp only [refreshAvailableBalances]
  split
  · exact ⟨hself, by rintro e ⟨⟩; rfl⟩
  rename_i hidle
  split
  · exact ⟨hself, by rintro e ⟨⟩; rfl⟩
  rename_i hsize
  have hnil : l.reservations = [] := by simpa using hidle
  have hlength : balances.length = l.availableBalances.length := by
    simpa using hsize
  have hbalanced : ∀ revision, Balanced
      { l with availableBalances := balances, balanceRevision := revision } := by
    intro revision
    refine ⟨hl.reservedLength.trans hlength.symm,
      hl.outstandingLength.trans hlength.symm, hl.keysNodup, ?_,
      hl.reservedExact, hl.outstandingExact, ?_, hl.bounded⟩
    · intro entry hentry
      simp only [hnil] at hentry
      cases hentry
    · intro sender
      have hreserved := hl.reservedExact sender
      rw [hnil, amountOf_nil] at hreserved
      have hbalance := hword sender
      simp only
      omega
  split
  · exact ⟨⟨hbalanced l.balanceRevision, rfl, rfl⟩, by rintro e ⟨⟩; rfl⟩
  · exact ⟨⟨hbalanced _, rfl, rfl⟩, by rintro e ⟨⟩⟩

/-- A refresh leaves the reservations alone and fails in its own ways only. -/
theorem refreshAvailableBalances_frame (balances : List Nat) :
    (l.refreshAvailableBalances balances).2.reservations = l.reservations ∧
    ∀ e, (l.refreshAvailableBalances balances).1 = .error e →
      e = .refreshWithOutstanding ∨ e = .refreshWalletCount ∨
        e = .revisionOverflow := by
  simp only [refreshAvailableBalances]
  split
  · exact ⟨rfl, by rintro e ⟨⟩; exact .inl rfl⟩
  split
  · exact ⟨rfl, by rintro e ⟨⟩; exact .inr (.inl rfl)⟩
  · split
    · exact ⟨rfl, by rintro e ⟨⟩; exact .inr (.inr rfl)⟩
    · exact ⟨rfl, by rintro e ⟨⟩⟩

/-- With nothing reserved and one balance for each wallet a refresh succeeds. -/
theorem refreshAvailableBalances_ok (hempty : l.reservations = [])
    (hlength : balances.length = l.availableBalances.length)
    (hrevision : l.balanceRevision < 2 ^ 64 - 1) :
    ∃ changed l',
      l.refreshAvailableBalances balances = (.ok changed, l') ∧
      l'.availableBalances.length = l.availableBalances.length := by
  simp only [refreshAvailableBalances, hempty, ne_eq, not_true_eq_false, if_false,
    hlength, if_neg hrevision.ne]
  exact ⟨_, _, rfl, hlength⟩

end Operations

section Runs

variable (E : RandomEngine)

/-- A call on the ledger, with every argument its C++ type admits. -/
inductive LedgerOp where
  | planAndReserve (fuel : Nat)
      (planner : Option (WalletTransactionLoadPlanner E))
      (firstTransactionIndex remainingAttempts : U64)
      (admitBatch : Option AdmissionCallback)
  | settle (transactionIndex : U64) (actualAvailableBalance : Option U64)
      (releaseIfBalanceUnavailable : Bool)
      (onSettled : Option (Nat → Except String Unit))
  | refreshAvailableBalances (availableBalances : List U64)

variable {E}

/-- The planner of the call, if it has one, sets the given fee aside. -/
def LedgerOp.FeeIs (fee : Nat) : LedgerOp E → Prop
  | .planAndReserve _ (some p) _ _ _ =>
    effectiveWalletTransactionFeeReserveSatoshis p.val.workload = fee
  | _ => True

/-- What a call throws, if anything. -/
def thrown {α : Type} : Except LedgerError α → Option LedgerError
  | .error e => some e
  | .ok _ => none

/-- What the call throws and the ledger it leaves. -/
def apply (l : TransactionLoadBalanceReservations) :
    LedgerOp E → Option LedgerError × TransactionLoadBalanceReservations
  | .planAndReserve fuel planner first remaining admitBatch =>
    let (result, l, _) := l.planAndReserve fuel (planner.map Subtype.val)
      first.val remaining.val admitBatch
    (thrown result, l)
  | .settle transactionIndex actual release onSettled =>
    let (result, l) := l.settle transactionIndex.val (actual.map Fin.val) release onSettled
    (thrown result, l)
  | .refreshAvailableBalances balances =>
    let (result, l) := l.refreshAvailableBalances (balances.map Fin.val)
    (thrown result, l)

variable (E) in
/-- The ledger under calls, each of which leaves a ledger even if it throws. -/
def ledgerMachine :
    Machine TransactionLoadBalanceReservations (LedgerOp E) where
  step l op := some (l.apply op).2

theorem thrown_eq_some {α : Type} {result : Except LedgerError α} {e : LedgerError}
    (h : thrown result = some e) : result = .error e := by
  cases result with
  | error e' =>
    cases h
    rfl
  | ok value =>
    cases h

theorem slot_map_val_le (balances : List U64) (sender : Nat) :
    slot (balances.map Fin.val) sender ≤ 2 ^ 64 - 1 := by
  by_cases hin : sender < (balances.map Fin.val).length
  · obtain ⟨balance, _, hvalue⟩ := mem_map.mp (slot_mem hin)
    omega
  · rw [slot_of_length_le (by omega)]
    omega

theorem map_val_le {actual : Option U64} {balance : Nat} (h : actual.map Fin.val = some balance) :
    balance ≤ 2 ^ 64 - 1 := by
  obtain ⟨word, _, rfl⟩ := Option.map_eq_some_iff.mp h
  exact Nat.le_sub_one_of_lt word.isLt

theorem apply_keeps (op : LedgerOp E) (hl : l.Balanced) : Keeps l (l.apply op).2 := by
  cases op with
  | planAndReserve fuel planner first remaining admitBatch =>
    exact planAndReserve_keeps fuel _ _ _ admitBatch hl
  | settle transactionIndex actual release onSettled =>
    exact (settle_safe _ _ release onSettled hl fun _ => map_val_le).1
  | refreshAvailableBalances balances =>
    exact (refreshAvailableBalances_safe _ hl (slot_map_val_le balances)).1

/-- No call with the ledger's fee reports an internal error. -/
theorem apply_safe {op : LedgerOp E} (hl : l.Balanced) (hfee : op.FeeIs l.feeReserveSatoshis) :
    ∀ e, (l.apply op).1 = some e → e.isInternal = false := by
  intro e he
  cases op with
  | planAndReserve fuel planner first remaining admitBatch =>
    cases planner with
    | none =>
      cases he
      rfl
    | some planner =>
      exact planAndReserve_safe fuel first.val remaining.val admitBatch hl planner.property hfee e
        (thrown_eq_some he)
  | settle transactionIndex actual release onSettled =>
    exact (settle_safe _ _ release onSettled hl fun _ => map_val_le).2 e (thrown_eq_some he)
  | refreshAvailableBalances balances =>
    exact (refreshAvailableBalances_safe _ hl (slot_map_val_le balances)).2 e (thrown_eq_some he)

variable {balances : List U64} {fee maximum : Nat} {l₀ : TransactionLoadBalanceReservations}
  {ops : List (LedgerOp E)}

theorem run_balanced (hcreate : create (balances.map Fin.val) fee maximum = .ok l₀)
    (hrun : (ledgerMachine E).run l₀ ops = some l) :
    l.Balanced ∧ l.feeReserveSatoshis = fee ∧ l.maximumReservations = maximum := by
  refine (ledgerMachine E).run_preserves (I := fun l => l.Balanced ∧ l.feeReserveSatoshis = fee ∧
      l.maximumReservations = maximum) ?_ hrun (create_balanced (slot_map_val_le balances) hcreate)
  rintro s op t hstep ⟨hbalanced, hledgerFee, hmaximum⟩
  cases hstep
  have hkeeps := apply_keeps op hbalanced
  exact ⟨hkeeps.balanced, hkeeps.fee.trans hledgerFee, hkeeps.maximum.trans hmaximum⟩

/--
In every state a run of calls can reach, the vectors agree with the reservation
map, nothing leaves its range, the bound holds, and no call of any kind can
report an internal error.
-/
theorem ledger_run_safe (balances : List U64) (fee maximum : Nat)
    {l₀ l : TransactionLoadBalanceReservations}
    (hcreate : create (balances.map Fin.val) fee maximum = .ok l₀) (ops : List (LedgerOp E))
    (hrun : (ledgerMachine E).run l₀ ops = some l) :
    (∀ sender,
      slot l.reservedBySender sender = amountOf l.reservations sender ∧
      slot l.outstandingBySender sender = countOf l.reservations sender ∧
      slot l.availableBalances sender + slot l.reservedBySender sender
        ≤ 2 ^ 64 - 1) ∧
    l.reservations.length ≤ maximum ∧
    ∀ op : LedgerOp E, op.FeeIs fee →
      ∀ e, (l.apply op).1 = some e → e.isInternal = false := by
  obtain ⟨hbalanced, hledgerFee, hmaximum⟩ := run_balanced hcreate hrun
  refine ⟨?_, ?_, ?_⟩
  · intro sender
    exact ⟨hbalanced.reservedExact sender, hbalanced.outstandingExact sender,
      hbalanced.inRange sender⟩
  · rw [← hmaximum]
    exact hbalanced.bounded
  · intro op hop e he
    exact apply_safe hbalanced (hledgerFee ▸ hop) e he

/-- Wallet 1 pays wallets 2 and 3 up to five satoshis each. -/
def fanoutWorkload : WalletTransactionsWorkload where
  strategy := .equalFanout
  amount := { minimumSatoshis := 1, maximumSatoshis := 5 }
  feeSatoshis := 1
  senderWallets := [1]
  receiverWallets := [2, 3]

def fanoutPlannerState : LoadPlannerState countingEngine where
  workload := fanoutWorkload
  walletCount := 3
  senders := [0]
  receivers := [1, 2]
  equalSenderOrder := [0]
  rng := (0 : Nat)
  equalSenderCursor := 0

theorem create_fanoutPlannerState :
    LoadPlannerState.create countingEngine 3 fanoutWorkload 0 =
      .ok fanoutPlannerState := by
  rfl

def fanoutPlanner : WalletTransactionLoadPlanner countingEngine :=
  ⟨fanoutPlannerState, create_accepted create_fanoutPlannerState⟩

/-- One batch admitted, and its first reservation released. -/
theorem ledger_run_safe_fanout :
    ∃ l₀ l,
      create [20, 0, 0] 1 10 = .ok l₀ ∧
      (ledgerMachine countingEngine).run l₀
        [.planAndReserve 0 (some fanoutPlanner) 1 4 (some fun _ => .ok true),
          .settle 1 none true none] = some l ∧
      l.reservations = [(2, { senderIndex := 0, amountSatoshis := 6 })] ∧
      slot l.availableBalances 0 = 14 ∧
      slot l.reservedBySender 0 = amountOf l.reservations 0 := by
  refine ⟨_, _, rfl, rfl, by decide, by decide, ?_⟩
  exact ((ledger_run_safe [20, 0, 0] 1 10 rfl
    [.planAndReserve 0 (some fanoutPlanner) 1 4 (some fun _ => .ok true),
      .settle 1 none true none] rfl).1 0).1

/--
In every state a run of calls can reach, a batch that is planned and that the callback accepts is
admitted, a call whose batch is not admitted changes nothing but the high-water mark, whatever
the planner, and an admitted batch adds exactly its own reservations, for senders that had none.
-/
theorem admission_is_atomic (balances : List U64) (fee maximum : Nat)
    (hcreate : create (balances.map Fin.val) fee maximum = .ok l₀) (ops : List (LedgerOp E))
    (hrun : (ledgerMachine E).run l₀ ops = some l) (fuel : Nat)
    (planner : Option (WalletTransactionLoadPlanner E)) (first remaining : U64)
    (admitBatch : Option AdmissionCallback)
    {result : Except LedgerError TransactionLoadBatchAdmission}
    {l' : TransactionLoadBalanceReservations} {planner' : Option (LoadPlannerState E)}
    (hcall : l.planAndReserve fuel (planner.map Subtype.val) first.val remaining.val admitBatch =
      (result, l', planner')) :
    (∀ p answer plans indexes staged p', planner = some p → admitBatch = some answer →
      first.val ≠ 0 → remaining.val ≠ 0 →
      l.planAndStage fuel p.val first.val remaining.val = (.staged plans indexes, staged, p') →
      answer plans = .ok true → ∃ revision, result = .ok ⟨plans, true, revision⟩) ∧
    ((∀ plans revision, result ≠ .ok ⟨plans, true, revision⟩) →
      l' = { l with maximumSize := l'.maximumSize }) ∧
    ∀ plans revision, result = .ok ⟨plans, true, revision⟩ →
      (∃ answer, admitBatch = some answer ∧ answer plans = .ok true) ∧
      l'.reservations = l.reservations ++ reservationsOf fee first.val plans ∧
      (reservationsOf fee first.val plans).map Prod.fst = List.range' first.val plans.length ∧
      (∀ k, k ∈ List.range' first.val plans.length → k ∉ l.reservations.map Prod.fst) ∧
      (∀ sender,
        slot l'.availableBalances sender + amountOf (reservationsOf fee first.val plans) sender =
          slot l.availableBalances sender ∧
        slot l'.reservedBySender sender = slot l.reservedBySender sender +
            amountOf (reservationsOf fee first.val plans) sender) ∧
      (∀ entry, entry ∈ plans → slot l.outstandingBySender entry.senderIndex = 0) ∧
      l'.balanceRevision = l.balanceRevision ∧ revision = l.balanceRevision := by
  obtain ⟨hbalanced, hfee, _⟩ := run_balanced hcreate hrun
  constructor
  · rintro p answer plans indexes staged p' rfl rfl hfirst hremaining hstaged hanswer
    change l.planAndReserve fuel (some p.val) first.val remaining.val _ = _ at hcall
    rw [planAndReserve, if_neg (not_or.mpr ⟨hfirst, hremaining⟩), hstaged] at hcall
    dsimp only at hcall
    rw [hanswer] at hcall
    cases hcall
    exact ⟨_, rfl⟩
  rcases planAndReserve_atomic hbalanced hcall with
    ⟨hsame, hnot⟩ | ⟨plans₀, staged, answer, hadmit, hanswer, hresult, hreserves⟩
  · exact ⟨fun _ => hsame, fun plans revision h => absurd h (hnot plans revision)⟩
  · refine ⟨fun hnot => absurd hresult (hnot _ _), fun plans revision h => ?_⟩
    cases h.symm.trans hresult
    obtain ⟨hadds, _, rfl, hkeys, hfresh, hidle⟩ := hreserves
    rw [hfee] at hadds hkeys hfresh
    exact ⟨⟨answer, hadmit, hanswer⟩, hadds.reservations, hkeys,
      fun k hk => hfresh k (hkeys ▸ hk),
      fun sender => ⟨hadds.available sender, hadds.reserved sender⟩, hidle, hadds.revision, rfl⟩

/-- A batch of two transactions is admitted, and the same batch is refused. -/
theorem fanout_batch_is_admitted_or_refused :
    ∃ l₀ plans l₁ p₁ l₂ p₂,
      create [20, 0, 0] 1 10 = .ok l₀ ∧ plans.length = 2 ∧
      l₀.planAndReserve 0 (some fanoutPlannerState) 1 4 (some fun _ => .ok true) =
        (.ok ⟨plans, true, 0⟩, l₁, p₁) ∧
      l₁.reservations = reservationsOf 1 1 plans ∧
      l₀.planAndReserve 0 (some fanoutPlannerState) 1 4 (some fun _ => .ok false) =
        (.ok ⟨plans, false, 0⟩, l₂, p₂) ∧
      l₂ = { l₀ with maximumSize := l₂.maximumSize } := by
  refine ⟨_, _, _, _, _, _, rfl, ?_, rfl, ?_, rfl, ?_⟩
  · rfl
  · exact ((admission_is_atomic [20, 0, 0] 1 10 rfl [] rfl 0 (some fanoutPlanner) 1 4
      (some fun _ => .ok true) rfl).2.2 _ _ rfl).2.1
  · exact (admission_is_atomic [20, 0, 0] 1 10 rfl [] rfl 0 (some fanoutPlanner) 1 4
      (some fun _ => .ok false) rfl).2.1 nofun

end Runs

end TransactionLoadBalanceReservations

end Bbp.Simulator
