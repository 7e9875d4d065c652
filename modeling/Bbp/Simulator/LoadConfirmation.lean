import Bbp.Simulator.TransactionLoad

/-!
# The confirmation of a load transaction

Every submitted transaction of a load has one shared confirmation object.  It
collects which of the expected nodes have seen and confirmed the transaction, and
tells the accounting once when all of them have seen it and once when all of them
have confirmed it.

`recordObservation_spec` is what one observation does as long as the accounting
accepts it: the object stays `Exact`, and the two counters of the accounting move
exactly as its two flags do.
-/

namespace Bbp.Simulator

structure TransactionLoadConfirmation where
  expectedObservations : Finset (String × String)
  visibleObservations : Finset (String × String) := ∅
  confirmedObservations : Finset (String × String) := ∅
  propagationRecorded : Bool := false
  confirmationRecorded : Bool := false
deriving DecidableEq

inductive ConfirmationError where
  | observableNodeRequired
  | expectedObservationRequired
  | duplicateExpectedObservations
  | emptyObservationKey
  | unexpectedObservation
  | accounting (e : AccountingError)
deriving DecidableEq

/-- One key for each node that can be observed. -/
def expectedTransactionLoadObservations (txid : String) (observable : List String) :
    Except ConfirmationError (List (String × String)) :=
  if observable = [] then .error .observableNodeRequired
  else .ok (observable.map fun nodeId => (txid, nodeId))

namespace TransactionLoadConfirmation

section Operations

def create (expected : List (String × String)) :
    Except ConfirmationError TransactionLoadConfirmation :=
  if expected = [] then .error .expectedObservationRequired
  else if expected.toFinset.card ≠ expected.length then .error .duplicateExpectedObservations
  else if expected.any fun key => key.1 = "" || key.2 = "" then .error .emptyObservationKey
  else .ok { expectedObservations := expected.toFinset }

/-- The observation is added to the sets, before anything is counted. -/
def noted (c : TransactionLoadConfirmation) (key : String × String) (confirmed : Bool) :
    TransactionLoadConfirmation :=
  { c with
    visibleObservations := insert key c.visibleObservations
    confirmedObservations :=
      if confirmed then insert key c.confirmedObservations
      else c.confirmedObservations }

/-- Does every expected node confirm the transaction? -/
def allConfirmed (c : TransactionLoadConfirmation) : Bool :=
  c.confirmedObservations.card = c.expectedObservations.card

def recordObservation (c : TransactionLoadConfirmation) (accounting : TransactionLoadSnapshot)
    (txid nodeId : String) (confirmed : Bool) :
    Except ConfirmationError (Option TransactionLoadSnapshot) ×
      TransactionLoadConfirmation × TransactionLoadSnapshot :=
  if (txid, nodeId) ∉ c.expectedObservations then (.error .unexpectedObservation, c, accounting)
  else
    let c := c.noted (txid, nodeId) confirmed
    if !c.propagationRecorded && c.visibleObservations.card = c.expectedObservations.card then
      match accounting.recordPropagated c.allConfirmed with
      | (.error e, accounting) => (.error (.accounting e), c, accounting)
      | (.ok (), accounting) =>
        (.ok (some accounting),
          { c with
            propagationRecorded := true
            confirmationRecorded := c.allConfirmed },
          accounting)
    else if c.propagationRecorded && !c.confirmationRecorded && c.allConfirmed then
      match accounting.recordConfirmed with
      | (.error e, accounting) => (.error (.accounting e), c, accounting)
      | (.ok (), accounting) =>
        (.ok (some accounting), { c with confirmationRecorded := true }, accounting)
    else (.ok none, c, accounting)

end Operations

section Exactness

/-- The two flags say whether all the expected nodes are in the two sets. -/
structure Exact (c : TransactionLoadConfirmation) : Prop where
  nonempty : c.expectedObservations ≠ ∅
  visible : c.visibleObservations ⊆ c.expectedObservations
  confirmed : c.confirmedObservations ⊆ c.visibleObservations
  propagation : c.propagationRecorded = true ↔ c.visibleObservations = c.expectedObservations
  confirmation : c.confirmationRecorded = true ↔ c.confirmedObservations = c.expectedObservations

variable {c : TransactionLoadConfirmation}

theorem create_exact {expected : List (String × String)} (h : create expected = .ok c) :
    c = { expectedObservations := expected.toFinset } ∧ c.Exact := by
  simp only [create] at h
  split_ifs at h with hnonempty
  cases h
  have hset : expected.toFinset ≠ ∅ := by
    simpa [List.toFinset_eq_empty_iff] using hnonempty
  refine ⟨rfl, hset, by simp, by simp, ?_, ?_⟩
  all_goals simpa using hset.symm

theorem card_eq_iff {a b : Finset (String × String)} (h : a ⊆ b) : a.card = b.card ↔ a = b := by
  constructor
  · intro hcard
    exact Finset.eq_of_subset_of_card_le h (Nat.le_of_eq hcard.symm)
  · intro heq
    rw [heq]

/-- What is expected of the accounting when an observation is recorded. -/
structure Admits
    (c : TransactionLoadConfirmation) (accounting : TransactionLoadSnapshot)
    (key : String × String) : Prop where
  revision : accounting.revision < 2 ^ 64 - 1
  submitted : accounting.submitted ≤ 2 ^ 64 - 1
  ordered : accounting.confirmed ≤ accounting.propagated ∧
    accounting.propagated ≤ accounting.submitted
  propagation : c.propagationRecorded = false →
    insert key c.visibleObservations = c.expectedObservations →
    accounting.propagated < accounting.submitted
  confirmation : c.propagationRecorded = true → c.confirmationRecorded = false →
    accounting.confirmed < accounting.propagated

/-- What an accepted observation does. -/
structure Observed
    (c : TransactionLoadConfirmation) (accounting : TransactionLoadSnapshot)
    (key : String × String) (confirmed : Bool)
    (c' : TransactionLoadConfirmation) (accounting' : TransactionLoadSnapshot) :
    Prop where
  exact : c'.Exact
  expected : c'.expectedObservations = c.expectedObservations
  visible : c'.visibleObservations = (c.noted key confirmed).visibleObservations
  confirmed : c'.confirmedObservations = (c.noted key confirmed).confirmedObservations
  submitted : accounting'.submitted = accounting.submitted
  propagatedCount : accounting'.propagated + c.propagationRecorded.toNat =
    accounting.propagated + c'.propagationRecorded.toNat
  confirmedCount : accounting'.confirmed + c.confirmationRecorded.toNat =
    accounting.confirmed + c'.confirmationRecorded.toNat

theorem Exact.confirmation_le (hc : c.Exact) (h : c.confirmationRecorded = true) :
    c.propagationRecorded = true := by
  rw [hc.propagation]
  refine Finset.Subset.antisymm hc.visible ?_
  rw [← hc.confirmation.mp h]
  exact hc.confirmed

theorem noted_subsets {key : String × String}
    (hc : c.Exact) (hkey : key ∈ c.expectedObservations) (confirmed : Bool) :
    (c.noted key confirmed).visibleObservations ⊆ c.expectedObservations ∧
    (c.noted key confirmed).confirmedObservations ⊆
      (c.noted key confirmed).visibleObservations := by
  refine ⟨Finset.insert_subset hkey hc.visible, ?_⟩
  simp only [noted]
  split
  · exact Finset.insert_subset_insert key hc.confirmed
  · exact hc.confirmed.trans (Finset.subset_insert key _)

/-- Nothing is missing after an observation that was not missing before. -/
theorem noted_full {key : String × String}
    (hc : c.Exact) (hkey : key ∈ c.expectedObservations) (confirmed : Bool) :
    (c.propagationRecorded = true →
      (c.noted key confirmed).visibleObservations = c.expectedObservations) ∧
    (c.confirmationRecorded = true →
      (c.noted key confirmed).confirmedObservations = c.expectedObservations) ∧
    ((c.noted key confirmed).confirmedObservations = c.expectedObservations →
      (c.noted key confirmed).visibleObservations = c.expectedObservations) := by
  obtain ⟨hvisible, hconfirmed⟩ := noted_subsets hc hkey confirmed
  refine ⟨?_, ?_, ?_⟩
  · intro hrecorded
    refine Finset.Subset.antisymm hvisible ?_
    rw [← hc.propagation.mp hrecorded]
    exact Finset.subset_insert key _
  · intro hrecorded
    refine Finset.Subset.antisymm (hconfirmed.trans hvisible) ?_
    rw [← hc.confirmation.mp hrecorded]
    simp only [noted]
    split
    · exact Finset.subset_insert key _
    · exact Finset.Subset.refl _
  · intro hfull
    refine Finset.Subset.antisymm hvisible ?_
    rw [← hfull]
    exact hconfirmed

variable {accounting : TransactionLoadSnapshot}

theorem recordPropagated_ok (allConfirmed : Bool) (hrevision : accounting.revision ≠ 2 ^ 64 - 1)
    (hpropagated : accounting.propagated < accounting.submitted)
    (hsubmitted : accounting.submitted ≤ 2 ^ 64 - 1)
    (hconfirmed : accounting.confirmed ≤ accounting.propagated) :
    ∃ accounting',
      accounting.recordPropagated allConfirmed = (.ok (), accounting') ∧
      accounting'.submitted = accounting.submitted ∧
      accounting'.propagated = accounting.propagated + 1 ∧
      accounting'.confirmed = accounting.confirmed + allConfirmed.toNat := by
  unfold TransactionLoadSnapshot.recordPropagated
  rw [if_neg (by omega), if_neg (by omega), if_neg (by omega)]
  cases allConfirmed with
  | true =>
    simp only [if_true]
    rw [if_neg (by omega)]
    exact ⟨_, rfl, rfl, rfl, rfl⟩
  | false => exact ⟨_, rfl, rfl, rfl, rfl⟩

theorem recordConfirmed_ok (hrevision : accounting.revision ≠ 2 ^ 64 - 1)
    (hconfirmed : accounting.confirmed < accounting.propagated)
    (hpropagated : accounting.propagated ≤ 2 ^ 64 - 1) :
    ∃ accounting',
      accounting.recordConfirmed = (.ok (), accounting') ∧
      accounting'.submitted = accounting.submitted ∧
      accounting'.propagated = accounting.propagated ∧
      accounting'.confirmed = accounting.confirmed + 1 := by
  unfold TransactionLoadSnapshot.recordConfirmed
  rw [if_neg (by omega), if_neg (by omega), if_neg (by omega)]
  exact ⟨_, rfl, rfl, rfl, rfl⟩

/-- An expected observation is recorded, and counted when it is the last one. -/
theorem recordObservation_spec {txid nodeId : String} (confirmed : Bool)
    (hc : c.Exact) (hkey : (txid, nodeId) ∈ c.expectedObservations)
    (hrevision : accounting.revision ≠ 2 ^ 64 - 1)
    (hadmits : c.Admits { accounting with revision := 0 } (txid, nodeId)) :
    ∃ progress c' accounting', c.recordObservation accounting txid nodeId confirmed =
        (.ok progress, c', accounting') ∧
      Observed c accounting (txid, nodeId) confirmed c' accounting' := by
  obtain ⟨hvisible, hconfirmed⟩ := noted_subsets hc hkey confirmed
  obtain ⟨hseenFull, hconfirmedFull, hseen⟩ := noted_full hc hkey confirmed
  have hall : (c.noted (txid, nodeId) confirmed).allConfirmed = true ↔
      (c.noted (txid, nodeId) confirmed).confirmedObservations = c.expectedObservations := by
    simp only [allConfirmed, decide_eq_true_eq]
    exact card_eq_iff (hconfirmed.trans hvisible)
  have hordered : accounting.confirmed ≤ accounting.propagated ∧
      accounting.propagated ≤ accounting.submitted := hadmits.ordered
  have hsubmitted : accounting.submitted ≤ 2 ^ 64 - 1 := hadmits.submitted
  have hnone : c.propagationRecorded = false → c.confirmationRecorded = false := by
    intro hopen
    by_contra hrecorded
    have hboth := hc.confirmation_le (Bool.eq_true_of_not_eq_false hrecorded)
    rw [hopen] at hboth
    cases hboth
  simp only [recordObservation, hkey, not_true_eq_false, if_false]
  split
  · rename_i hlast
    simp only [Bool.and_eq_true, Bool.not_eq_true', decide_eq_true_eq] at hlast
    obtain ⟨hopen, hcard⟩ := hlast
    have hfull := (card_eq_iff hvisible).mp hcard
    have hopen' : c.propagationRecorded = false := hopen
    have hunconfirmed := hnone hopen'
    obtain ⟨accounting', hrun, hsame, hmore, hmoreConfirmed⟩ := recordPropagated_ok
      (c.noted (txid, nodeId) confirmed).allConfirmed hrevision
      (hadmits.propagation hopen' hfull) hsubmitted hordered.1
    rw [hrun]
    refine ⟨_, _, accounting', rfl,
      ⟨hc.nonempty, hvisible, hconfirmed, ?_, hall⟩, rfl, rfl, rfl, hsame, ?_, ?_⟩
    · exact ⟨fun _ => hfull, fun _ => rfl⟩
    · rw [hmore, hopen']
      simp
    · rw [hmoreConfirmed, hunconfirmed]
      simp
  · rename_i hnotLast
    split
    · rename_i hlast
      simp only [Bool.and_eq_true, Bool.not_eq_true'] at hlast
      obtain ⟨⟨hpropagated, hopen⟩, hcomplete⟩ := hlast
      have hpropagated' : c.propagationRecorded = true := hpropagated
      have hopen' : c.confirmationRecorded = false := hopen
      obtain ⟨accounting', hrun, hsame, hsamePropagated, hmore⟩ := recordConfirmed_ok
        hrevision (hadmits.confirmation hpropagated' hopen') (by omega)
      rw [hrun]
      refine ⟨_, _, accounting', rfl,
        ⟨hc.nonempty, hvisible, hconfirmed, ?_, ?_⟩, rfl, rfl, rfl, hsame, ?_, ?_⟩
      · exact ⟨fun _ => hseenFull hpropagated', fun _ => hpropagated⟩
      · exact ⟨fun _ => hall.mp hcomplete, fun _ => rfl⟩
      · rw [hsamePropagated]
        rfl
      · rw [hmore, hopen']
        simp
    · rename_i hquiet
      refine ⟨_, _, accounting, rfl,
        ⟨hc.nonempty, hvisible, hconfirmed, ?_, ?_⟩, rfl, rfl, rfl, rfl, rfl, rfl⟩
      · constructor
        · exact hseenFull
        · intro hfull
          by_contra hopen
          apply hnotLast
          simp only [Bool.and_eq_true, Bool.not_eq_true', decide_eq_true_eq]
          exact ⟨Bool.eq_false_of_not_eq_true hopen, (card_eq_iff hvisible).mpr hfull⟩
      · constructor
        · exact hconfirmedFull
        · intro hfull
          by_contra hopen
          by_cases hpropagated : c.propagationRecorded = true
          · apply hquiet
            simp only [Bool.and_eq_true, Bool.not_eq_true']
            exact ⟨⟨hpropagated, Bool.eq_false_of_not_eq_true hopen⟩, hall.mpr hfull⟩
          apply hnotLast
          simp only [Bool.and_eq_true, Bool.not_eq_true', decide_eq_true_eq]
          exact ⟨Bool.eq_false_of_not_eq_true hpropagated, (card_eq_iff hvisible).mpr (hseen hfull)⟩

end Exactness

end TransactionLoadConfirmation

end Bbp.Simulator
