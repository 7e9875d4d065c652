import Bbp.Library.Custody
import Bbp.Library.Transition
import Bbp.Simulator.LoadConfirmation

/-!
# Confirmations that share one accounting

The observers of a load report to many confirmations, in any order and more than once, and all
of them count in one accounting.  `Counted` ties the two counters of the accounting to the
flags of the confirmations, and the flags to the observations made so far.
-/

namespace Bbp.Simulator

open Library

namespace TransactionLoadSnapshot

/-- The counters of the terminal outcomes, in the order in which they are added up. -/
def terminalCounts (c : TransactionLoadSnapshot) : List Nat :=
  [c.submitted, c.rejected, c.timedOut, c.backpressured, c.dropped, c.cancelled, c.failed]

/-- The loop of `InvariantsHold`; `none` when the total does not fit a word. -/
def terminalTotal : List Nat → Nat → Option Nat
  | [], total => some total
  | count :: rest, total =>
    if total > 2 ^ 64 - 1 - count then none else terminalTotal rest (total + count)

def invariantsHold (c : TransactionLoadSnapshot) : Bool :=
  match terminalTotal c.terminalCounts 0 with
  | none => false
  | some total =>
    c.attempted = total && c.confirmed ≤ c.propagated && c.propagated ≤ c.submitted &&
      c.latencySampleCount = c.attempted

theorem terminalTotal_eq {counts : List Nat} {total : Nat} (h : total + counts.sum ≤ 2 ^ 64 - 1) :
    terminalTotal counts total = some (total + counts.sum) := by
  induction counts generalizing total with
  | nil => rfl
  | cons count rest ih =>
    rw [List.sum_cons] at h ⊢
    rw [terminalTotal, if_neg (by omega), ih (by omega), Nat.add_assoc]

/-- What `InvariantsHold` asks of the outcomes. -/
structure Balanced (c : TransactionLoadSnapshot) : Prop where
  total : c.terminalCounts.sum = c.attempted
  samples : c.latencySampleCount = c.attempted
  fits : c.attempted ≤ 2 ^ 64 - 1

variable {c : TransactionLoadSnapshot}

theorem Balanced.submitted_le (h : c.Balanced) :
    c.submitted ≤ 2 ^ 64 - 1 := by
  have htotal := h.total
  have hfits := h.fits
  simp only [terminalCounts, List.sum_cons] at htotal
  omega

theorem invariantsHold_of_balanced (h : c.Balanced) (hconfirmed : c.confirmed ≤ c.propagated)
    (hpropagated : c.propagated ≤ c.submitted) :
    c.invariantsHold = true := by
  have hfits : 0 + c.terminalCounts.sum ≤ 2 ^ 64 - 1 := by
    rw [Nat.zero_add, h.total]
    exact h.fits
  simp [invariantsHold, terminalTotal_eq hfits, h.total, h.samples, hconfirmed, hpropagated]

theorem Balanced.recordOutcome {c c' : TransactionLoadSnapshot} {outcome : TransactionLoadOutcome}
    {latency : Int} (hc : c.Balanced) (h : c.recordOutcome outcome latency = .ok c') :
    c'.Balanced := by
  obtain ⟨_, _, hroom, rfl⟩ := recordOutcome_ok h
  have htotal := hc.total
  have hsamples := hc.samples
  have hfits := hc.fits
  simp only [terminalCounts, List.sum_cons] at htotal
  cases outcome <;> constructor <;>
    simp only [incrementOutcome, terminalCounts, List.sum_cons] <;> omega

/-- Seen and confirmed transactions do not change the balance of the outcomes. -/
theorem Balanced.recordPropagated (h : c.Balanced) (confirmed : Bool) :
    (c.recordPropagated confirmed).2.Balanced := by
  simp only [TransactionLoadSnapshot.recordPropagated]
  repeat' split
  all_goals exact ⟨h.total, h.samples, h.fits⟩

theorem Balanced.recordConfirmed (h : c.Balanced) :
    c.recordConfirmed.2.Balanced := by
  simp only [TransactionLoadSnapshot.recordConfirmed]
  repeat' split
  all_goals exact ⟨h.total, h.samples, h.fits⟩

end TransactionLoadSnapshot

namespace TransactionLoadConfirmation

theorem recordObservation_balanced (c : TransactionLoadConfirmation)
    {accounting : TransactionLoadSnapshot} (h : accounting.Balanced) (txid nodeId : String)
    (confirmed : Bool) : (c.recordObservation accounting txid nodeId confirmed).2.2.Balanced := by
  have hpropagated := h.recordPropagated (c.noted (txid, nodeId) confirmed).allConfirmed
  have hconfirmed := h.recordConfirmed
  simp only [recordObservation]
  split
  · exact h
  split
  · split <;> rename_i heq <;> simpa only [heq] using hpropagated
  split
  · split <;> rename_i heq <;> simpa only [heq] using hconfirmed
  · exact h

end TransactionLoadConfirmation

section System

/-- A call; an outcome may be the one of the transaction of a confirmation. -/
inductive LoadCall (ι : Type) where
  | recordOutcome (outcome : TransactionLoadOutcome) (latency : Int) (owner : Option ι)
  | recordObservation (i : ι) (txid nodeId : String) (confirmed : Bool)
deriving DecidableEq

/-- The confirmations and their accounting, with the confirmations whose submission is counted. -/
structure SharedLoad (ι : Type) where
  accounting : TransactionLoadSnapshot := {}
  confirmations : ι → TransactionLoadConfirmation
  submitted : Finset ι := ∅

variable {ι : Type} [DecidableEq ι]

namespace SharedLoad

/-- One call, with what it throws. -/
def call (s : SharedLoad ι) : LoadCall ι → Except ConfirmationError Unit × SharedLoad ι
  | .recordOutcome outcome latency owner =>
    match s.accounting.recordOutcome outcome latency with
    | .error e => (.error (.accounting e), s)
    | .ok accounting =>
      (.ok (), { s with
        accounting
        submitted := if outcome = .submitted then s.submitted ∪ owner.toFinset else s.submitted })
  | .recordObservation i txid nodeId confirmed =>
    match (s.confirmations i).recordObservation s.accounting txid nodeId confirmed with
    | (result, confirmation, accounting) =>
      (result.map fun _ => (),
        { s with accounting, confirmations := Function.update s.confirmations i confirmation })

/-- A confirmation is observed after its transaction is counted, while a revision is left. -/
def Proper (s : SharedLoad ι) : LoadCall ι → Prop
  | .recordOutcome _ _ _ => True
  | .recordObservation i _ _ _ => i ∈ s.submitted ∧ s.accounting.revision < 2 ^ 64 - 1

instance (s : SharedLoad ι) (a : LoadCall ι) : Decidable (s.Proper a) := by
  cases a <;> unfold Proper <;> infer_instance

end SharedLoad

variable (ι) in
/-- Confirmations and their accounting under any calls. -/
def sharedLoadMachine : Machine (SharedLoad ι) (LoadCall ι) where
  step s a := some (s.call a).2

end System

namespace SharedLoad

section Invariant

variable {ι : Type} [Fintype ι]

/-- The confirmations with a flag. -/
def flagged (s : SharedLoad ι) (flag : TransactionLoadConfirmation → Bool) : Finset ι :=
  Finset.univ.filter fun i => flag (s.confirmations i) = true

/-- The flags follow from the calls made so far, and the counters from the flags. -/
structure Counted (expected : ι → Finset (String × String)) (seen : List (LoadCall ι))
    (s : SharedLoad ι) : Prop where
  balanced : s.accounting.Balanced
  exact : ∀ i, (s.confirmations i).Exact
  expects : ∀ i, (s.confirmations i).expectedObservations = expected i
  visible : ∀ i key, key ∈ (s.confirmations i).visibleObservations ↔
    key ∈ expected i ∧ ∃ confirmed, .recordObservation i key.1 key.2 confirmed ∈ seen
  confirmed : ∀ i key, key ∈ (s.confirmations i).confirmedObservations ↔
    key ∈ expected i ∧ .recordObservation i key.1 key.2 true ∈ seen
  counted : s.flagged (·.propagationRecorded) ⊆ s.submitted
  submitted : s.submitted.card ≤ s.accounting.submitted
  propagatedCount : s.accounting.propagated = (s.flagged (·.propagationRecorded)).card
  confirmedCount : s.accounting.confirmed = (s.flagged (·.confirmationRecorded)).card

variable {expected : ι → Finset (String × String)} {seen : List (LoadCall ι)} {s : SharedLoad ι}

theorem Counted.confirmed_subset (h : Counted expected seen s) :
    s.flagged (·.confirmationRecorded) ⊆ s.flagged (·.propagationRecorded) := by
  intro i hi
  simp only [flagged, Finset.mem_filter, Finset.mem_univ, true_and] at hi ⊢
  exact (h.exact i).confirmation_le hi

theorem Counted.ordered (h : Counted expected seen s) :
    s.accounting.confirmed ≤ s.accounting.propagated ∧
    s.accounting.propagated ≤ s.accounting.submitted := by
  rw [h.confirmedCount, h.propagatedCount]
  exact ⟨Finset.card_le_card h.confirmed_subset, (Finset.card_le_card h.counted).trans h.submitted⟩

/-- The accounting lags behind by the confirmations that are not complete. -/
theorem Counted.admits (h : Counted expected seen s) {i : ι} (hi : i ∈ s.submitted)
    (key : String × String) :
    (s.confirmations i).Admits { s.accounting with revision := 0 } key := by
  refine ⟨by simp, h.balanced.submitted_le, h.ordered, fun hopen _ => ?_, fun hseen hopen => ?_⟩
  · refine lt_of_lt_of_le ?_ h.submitted
    change s.accounting.propagated < _
    rw [h.propagatedCount]
    refine Finset.card_lt_card ⟨h.counted, fun hall => ?_⟩
    simpa [flagged, hopen] using hall hi
  · change s.accounting.confirmed < s.accounting.propagated
    rw [h.confirmedCount, h.propagatedCount]
    refine Finset.card_lt_card ⟨h.confirmed_subset, fun hall => ?_⟩
    have hmem : i ∈ s.flagged (·.propagationRecorded) := by simp [flagged, hseen]
    simpa [flagged, hopen] using hall hmem

variable [DecidableEq ι]

variable {c : TransactionLoadConfirmation}

/-- Replacing one confirmation moves a count by what its flag has changed. -/
theorem card_flagged_update (s : SharedLoad ι) (flag : TransactionLoadConfirmation → Bool) {i : ι}
    {before after : Nat} (hbefore : before = (s.flagged flag).card)
    (hmoves : after + (flag (s.confirmations i)).toNat = before + (flag c).toNat)
    (accounting : TransactionLoadSnapshot) :
    after = (flagged { s with
      accounting, confirmations := Function.update s.confirmations i c } flag).card := by
  have hcard := card_filter_update s.confirmations i c flag
  simp only [flagged] at hbefore ⊢
  omega

theorem Counted.observed (h : Counted expected seen s) {i : ι} {txid nodeId : String}
    {confirmed : Bool} {accounting : TransactionLoadSnapshot} (hi : i ∈ s.submitted)
    (hkey : (txid, nodeId) ∈ expected i) (hbalanced : accounting.Balanced)
    (hobserved : (s.confirmations i).Observed s.accounting (txid, nodeId) confirmed c accounting) :
    Counted expected (seen ++ [.recordObservation i txid nodeId confirmed])
      { s with accounting, confirmations := Function.update s.confirmations i c } := by
  refine ⟨hbalanced, fun j => ?_, fun j => ?_, fun j key => ?_, fun j key => ?_, fun j hj => ?_,
    hobserved.submitted ▸ h.submitted,
    card_flagged_update s _ h.propagatedCount hobserved.propagatedCount accounting,
    card_flagged_update s _ h.confirmedCount hobserved.confirmedCount accounting⟩
  all_goals by_cases hji : j = i
  all_goals simp only [hji, Function.update_self, Function.update_of_ne, ne_eq, not_false_eq_true,
    List.mem_append, List.mem_singleton, LoadCall.recordObservation.injEq, true_and, false_and,
    or_false]
  · exact hobserved.exact
  · exact h.exact j
  · exact hobserved.expected.trans (h.expects i)
  · exact h.expects j
  · rw [hobserved.visible, TransactionLoadConfirmation.noted, Finset.mem_insert, h.visible]
    grind
  · exact h.visible j key
  · rw [hobserved.confirmed, TransactionLoadConfirmation.noted]
    have hbefore := h.confirmed i key
    grind
  · exact h.confirmed j key
  · exact hi
  · refine h.counted ?_
    simpa [flagged, hji] using hj

/-- A call that observes nothing that is expected. -/
def Unexpected (expected : ι → Finset (String × String)) (a : LoadCall ι) : Prop :=
  ∀ i (key : String × String) confirmed, a = .recordObservation i key.1 key.2 confirmed →
    key ∉ expected i

omit [DecidableEq ι] in
theorem Counted.unexpected (h : Counted expected seen s) {a : LoadCall ι}
    (ha : Unexpected expected a) : Counted expected (seen ++ [a]) s := by
  have hseen : ∀ i (key : String × String) confirmed, key ∈ expected i →
      (.recordObservation i key.1 key.2 confirmed ∈ seen ++ [a] ↔
        LoadCall.recordObservation i key.1 key.2 confirmed ∈ seen) := by
    intro i key confirmed hkey
    rw [List.mem_append, List.mem_singleton]
    exact or_iff_left fun heq => ha i key confirmed heq.symm hkey
  refine { h with visible := fun i key => ?_, confirmed := fun i key => ?_ }
  · rw [h.visible]
    exact and_congr_right fun hkey => exists_congr fun confirmed =>
      (hseen i key confirmed hkey).symm
  · rw [h.confirmed]
    exact and_congr_right fun hkey => (hseen i key true hkey).symm

/-- A call passes, or it observes nothing that is expected and changes nothing. -/
theorem Counted.call_cases (h : Counted expected seen s) {a : LoadCall ι} (hproper : s.Proper a) :
    Counted expected (seen ++ [a]) (s.call a).2 ∧
      ((s.call a).1 = .ok () ∨ (s.call a).2 = s ∧ Unexpected expected a) := by
  cases a with
  | recordOutcome outcome latency owner =>
    have ha : Unexpected expected (.recordOutcome outcome latency owner) := nofun
    cases hrecord : s.accounting.recordOutcome outcome latency with
    | error e =>
      simp only [call, hrecord]
      exact ⟨h.unexpected ha, .inr ⟨trivial, ha⟩⟩
    | ok accounting =>
      obtain ⟨hpropagated, hconfirmed, hsubmitted⟩ :=
        TransactionLoadSnapshot.recordOutcome_counts hrecord
      have hbefore := h.submitted
      have hunion := Finset.card_union_le s.submitted owner.toFinset
      have howner : owner.toFinset.card ≤ 1 := by cases owner <;> simp
      simp only [call, hrecord]
      refine ⟨Counted.unexpected ?_ ha, .inl trivial⟩
      refine ⟨h.balanced.recordOutcome hrecord, h.exact, h.expects, h.visible, h.confirmed,
        h.counted.trans ?_, ?_, hpropagated.trans h.propagatedCount,
        hconfirmed.trans h.confirmedCount⟩
      · split
        · exact Finset.subset_union_left
        · exact subset_rfl
      · split at hsubmitted <;> simp only [*, if_true, if_false] <;> omega
  | recordObservation i txid nodeId confirmed =>
    by_cases hkey : (txid, nodeId) ∈ expected i
    · obtain ⟨progress, c, accounting, hrun, hobserved⟩ :=
        TransactionLoadConfirmation.recordObservation_spec confirmed (h.exact i)
          (h.expects i ▸ hkey) (Nat.ne_of_lt hproper.2) (h.admits hproper.1 _)
      have hbalanced :=
        (s.confirmations i).recordObservation_balanced h.balanced txid nodeId confirmed
      rw [hrun] at hbalanced
      simp only [call, hrun]
      exact ⟨h.observed hproper.1 hkey hbalanced hobserved, .inl rfl⟩
    · have ha : Unexpected expected (.recordObservation i txid nodeId confirmed) := by
        rintro _ ⟨_, _⟩ _ ⟨⟩
        exact hkey
      have hrefused : (s.confirmations i).recordObservation s.accounting txid nodeId confirmed =
          (.error .unexpectedObservation, s.confirmations i, s.accounting) :=
        if_pos (by rwa [h.expects i])
      simp only [call, hrefused, Function.update_eq_self]
      exact ⟨h.unexpected ha, .inr ⟨trivial, ha⟩⟩

theorem Counted.run {calls : List (LoadCall ι)} {t : SharedLoad ι} (h : Counted expected seen s)
    (hproper : (sharedLoadMachine ι).Meets Proper s calls)
    (hrun : (sharedLoadMachine ι).run s calls = some t) : Counted expected (seen ++ calls) t := by
  induction calls generalizing s seen with
  | nil =>
    cases hrun
    rwa [List.append_nil]
  | cons a calls ih =>
    have hnext := ih (h.call_cases hproper.1).1 (hproper.2 _ rfl) hrun
    rwa [List.append_assoc] at hnext

omit [DecidableEq ι] in
theorem counted_start {expected : ι → List (String × String)}
    {confirmations : ι → TransactionLoadConfirmation}
    (h : ∀ i, TransactionLoadConfirmation.create (expected i) = .ok (confirmations i)) :
    Counted (fun i => (expected i).toFinset) [] { confirmations } := by
  have hnew := fun i => TransactionLoadConfirmation.create_exact (h i)
  have hflags : ∀ i, (confirmations i).propagationRecorded = false ∧
      (confirmations i).confirmationRecorded = false := by
    intro i
    rw [(hnew i).1]
    exact ⟨rfl, rfl⟩
  refine ⟨⟨rfl, rfl, Nat.zero_le _⟩, fun i => (hnew i).2, fun i => ?_, fun i key => ?_,
    fun i key => ?_, ?_, le_rfl, ?_, ?_⟩
  · simp only [(hnew i).1]
  · simp only [(hnew i).1]
    simp
  · simp only [(hnew i).1]
    simp
  all_goals simp [flagged, hflags]

/--
The counters of a load depend on which observations were made, not on their order or their
number: each confirmation counts once when all it expects is seen, and once when it is
confirmed.  An expected observation passes, and a call that throws leaves the counters alone.
-/
theorem confirmations_count_once (expected : ι → List (String × String))
    (confirmations : ι → TransactionLoadConfirmation) (calls : List (LoadCall ι)) (s : SharedLoad ι)
    (hcreate : ∀ i, TransactionLoadConfirmation.create (expected i) = .ok (confirmations i))
    (hproper : (sharedLoadMachine ι).Meets Proper { confirmations } calls)
    (hrun : (sharedLoadMachine ι).run { confirmations } calls = some s) :
    s.accounting.invariantsHold = true ∧
    s.accounting.propagated = (Finset.univ.filter fun i => ∀ key ∈ expected i,
      ∃ confirmed, .recordObservation i key.1 key.2 confirmed ∈ calls).card ∧
    s.accounting.confirmed = (Finset.univ.filter fun i => ∀ key ∈ expected i,
      .recordObservation i key.1 key.2 true ∈ calls).card ∧
    ∀ a, s.Proper a →
      (∀ i txid nodeId confirmed, a = .recordObservation i txid nodeId confirmed →
        (txid, nodeId) ∈ expected i → (s.call a).1 = .ok ()) ∧
      ((s.call a).1 ≠ .ok () → (s.call a).2.accounting = s.accounting) := by
  have h := (counted_start hcreate).run hproper hrun
  rw [List.nil_append] at h
  refine ⟨TransactionLoadSnapshot.invariantsHold_of_balanced h.balanced h.ordered.1 h.ordered.2,
    ?_, ?_, fun a ha => ⟨?_, ?_⟩⟩
  · rw [h.propagatedCount]
    refine congrArg Finset.card (Finset.filter_congr fun i _ => ?_)
    rw [(h.exact i).propagation, h.expects, Finset.ext_iff]
    simp only [h.visible, and_iff_left_iff_imp, List.mem_toFinset]
  · rw [h.confirmedCount]
    refine congrArg Finset.card (Finset.filter_congr fun i _ => ?_)
    rw [(h.exact i).confirmation, h.expects, Finset.ext_iff]
    simp only [h.confirmed, and_iff_left_iff_imp, List.mem_toFinset]
  · rintro i txid nodeId confirmed rfl hkey
    refine (h.call_cases ha).2.resolve_right fun hrefused => ?_
    exact hrefused.2 i (txid, nodeId) confirmed rfl (List.mem_toFinset.mpr hkey)
  · intro hfails
    rw [((h.call_cases ha).2.resolve_left hfails).1]

/-- A transaction is confirmed by its only node before an unknown node reports it. -/
def confirmedOnce : List (LoadCall Unit) :=
  [.recordOutcome .submitted 5 (some ()), .recordObservation () "tx" "n1" true,
    .recordObservation () "tx" "n1" false, .recordObservation () "tx" "n2" true]

theorem confirmed_once_is_counted_once :
    ∃ s, (sharedLoadMachine Unit).run
        { confirmations := fun _ => ⟨{("tx", "n1")}, ∅, ∅, false, false⟩ } confirmedOnce = some s ∧
      s.accounting.invariantsHold = true ∧ s.accounting.propagated = 1 ∧
      s.accounting.confirmed = 1 := by
  obtain ⟨hholds, hpropagated, hconfirmed, _⟩ := confirmations_count_once (fun _ => [("tx", "n1")])
    _ confirmedOnce _ (fun _ => rfl) (by decide +kernel) rfl
  exact ⟨_, rfl, hholds, hpropagated.trans (by decide +kernel),
    hconfirmed.trans (by decide +kernel)⟩

end Invariant

end SharedLoad

end Bbp.Simulator
