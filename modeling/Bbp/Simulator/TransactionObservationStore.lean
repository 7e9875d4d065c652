import Bbp.Library.Stores

/-!
# The store of tracked transactions

Submitted transactions stay in the store until every node that could observe
them when they were submitted has confirmed them.  Room is reserved before a
transaction is submitted, so that the store never holds more than its capacity.

The entries are a linked list and a map from transaction ids to its nodes.  Here
the nodes of the list carry a number that stands for their address, and the map
leads to that number.  A retired id is remembered for a while, so that it cannot
be tracked again at once.

An operation that throws keeps what it has changed before, as the code does: the
result is paired with the store it leaves.
-/

namespace Bbp.Simulator

open Library List

section Types

/-- A submitted transaction; a load transaction has a shared confirmation. -/
structure TrackedTransaction where
  txid : String
  workloadId : String := ""
  loadConfirmation : Option Nat := none
deriving DecidableEq

inductive ObservationError where
  | capacityRequired
  | reservationSize (capacity : Nat)
  | capacityFull (capacity : Nat)
  | emptyWorkloadId
  | reservationNotActive
  | emptyTransactionSet
  | reservationSizeMismatch
  | nodesNotUnique
  | emptyNodeId
  | emptyTransactionId
  | duplicateTransactionId (txid : String)
  | exceedsUint64 (field : String)
  | confirmedNotVisible
  | unexpectedNode (nodeId : String)
deriving DecidableEq

namespace TransactionObservationStore

/-- What the store knows of one tracked transaction. -/
structure Entry where
  transaction : TrackedTransaction
  requiredNodeIds : Finset String
  visibleNodeIds : Finset String := ∅
  confirmedNodeIds : Finset String := ∅
deriving DecidableEq

def Entry.seenBy (entry : Entry) (nodeId : String) : Entry :=
  { entry with visibleNodeIds := insert nodeId entry.visibleNodeIds }

def Entry.confirmedBy (entry : Entry) (nodeId : String) : Entry :=
  { entry with confirmedNodeIds := insert nodeId entry.confirmedNodeIds }

/-- Room in the store that is not used yet. -/
structure Reservation where
  active : Bool := true
  size : Nat
deriving DecidableEq

end TransactionObservationStore

/-- What one observation has changed. -/
structure TransactionObservationTransition where
  tracked : Bool := false
  firstVisible : Bool := false
  firstConfirmed : Bool := false
  retired : Bool := false
deriving DecidableEq

open TransactionObservationStore in
structure TransactionObservationStore where
  capacity : Nat
  entries : List (Nat × Entry) := []
  entriesByTxid : List (String × Nat) := []
  nextEntry : Nat := 0
  reserved : Nat := 0
  recentRetired : List String := []
  recentRetiredIndex : Finset String := ∅
  maximumActive : Nat := 0
  maximumRetained : Nat := 0
  tracked : Nat := 0
  retired : Nat := 0
  cancelled : Nat := 0
  rejected : Nat := 0
  visibilityTransitions : Nat := 0
  confirmationTransitions : Nat := 0

end Types

namespace TransactionObservationStore

section Operations

def create (capacity : Nat) : Except ObservationError TransactionObservationStore :=
  if capacity = 0 then .error .capacityRequired else .ok { capacity }

def checkedAdd (amount : Nat) (field : String) (value : Nat) : Except ObservationError Nat :=
  if value > 2 ^ 64 - 1 - amount then .error (.exceedsUint64 field)
  else .ok (value + amount)

/-- Reserve room for some transactions, if there is any. -/
def tryReserve (s : TransactionObservationStore) (count : Nat) :
    Except ObservationError (Option Reservation) × TransactionObservationStore :=
  if count = 0 ∨ count > s.capacity then (.error (.reservationSize s.capacity), s)
  else
    let retained := s.entries.length + s.reserved
    if count > wrapSub s.capacity retained then
      match checkedAdd count "rejections" s.rejected with
      | .error e => (.error e, s)
      | .ok rejected => (.ok none, { s with rejected })
    else
      (.ok (some { size := count }),
        { s with
          reserved := s.reserved + count
          maximumRetained := max s.maximumRetained (retained + count) })

/-- Give back a reservation that was not used; a larger one ends the process. -/
def releaseReservation (s : TransactionObservationStore) (r : Reservation) :
    Option TransactionObservationStore :=
  if r.active then
    if r.size > s.reserved then none
    else some { s with reserved := s.reserved - r.size }
  else some s

/-- The nodes of a transaction set, before they are published. -/
def stageTransactions (required : Finset String) :
    List TrackedTransaction → Nat → List (Nat × Entry) →
      Except ObservationError (List (Nat × Entry))
  | [], _, staged => .ok staged
  | transaction :: rest, id, staged =>
    if transaction.txid = "" then .error .emptyTransactionId
    else if staged.any fun e => e.2.transaction.txid = transaction.txid then
      .error (.duplicateTransactionId transaction.txid)
    else
      stageTransactions required rest (id + 1)
        (staged ++ [(id, { transaction, requiredNodeIds := required })])

/-- The index of staged nodes. -/
def indexOf (staged : List (Nat × Entry)) : List (String × Nat) :=
  staged.map fun e => (e.2.transaction.txid, e.1)

/-- An id that is tracked already, or was until recently. -/
def knows (s : TransactionObservationStore) (txid : String) : Bool :=
  (s.entriesByTxid.lookup txid).isSome || txid ∈ s.recentRetiredIndex

/-- Publish the nodes of a transaction set in the reserved room. -/
def commitReservation (s : TransactionObservationStore) (r : Reservation)
    (transactions : List TrackedTransaction) (requiredNodeIds : List String) :
    Except ObservationError Unit × Reservation × TransactionObservationStore :=
  let required := requiredNodeIds.toFinset
  if !r.active then (.error .reservationNotActive, r, s)
  else if transactions = [] then (.error .emptyTransactionSet, r, s)
  else if transactions.length ≠ r.size then (.error .reservationSizeMismatch, r, s)
  else if required = ∅ ∨ required.card ≠ requiredNodeIds.length then (.error .nodesNotUnique, r, s)
  else if "" ∈ required then (.error .emptyNodeId, r, s)
  else
    match stageTransactions required transactions s.nextEntry [] with
    | .error e => (.error e, r, s)
    | .ok staged =>
      if r.size > s.reserved then (.error .reservationNotActive, r, s)
      else
        match staged.find? fun e => s.knows e.2.transaction.txid with
        | some e => (.error (.duplicateTransactionId e.2.transaction.txid), r, s)
        | none =>
          match checkedAdd staged.length "tracked count" s.tracked with
          | .error e => (.error e, r, s)
          | .ok tracked =>
            let entries := s.entries ++ staged
            (.ok (), { active := false, size := 0 },
              { s with
                entries, tracked
                entriesByTxid := s.entriesByTxid ++ indexOf staged
                nextEntry := s.nextEntry + staged.length
                reserved := s.reserved - r.size
                maximumActive := max s.maximumActive entries.length })

/-- Take an entry out, and remember its id in place of the oldest one. -/
def retireEntry (s : TransactionObservationStore) (id : Nat) (txid : String) :
    TransactionObservationStore :=
  let s :=
    { s with
      entries := eraseKey id s.entries
      entriesByTxid := eraseKey txid s.entriesByTxid }
  let s :=
    match s.recentRetired with
    | oldest :: rest =>
      if s.recentRetired.length ≥ s.capacity then
        { s with
          recentRetired := rest
          recentRetiredIndex := s.recentRetiredIndex.erase oldest }
      else s
    | [] => s
  { s with
    recentRetired := s.recentRetired ++ [txid]
    recentRetiredIndex := insert txid s.recentRetiredIndex }

/-- Take out every entry of a workload, in order. -/
def cancelEntries (workloadId : String) :
    List (Nat × Entry) → TransactionObservationStore → TransactionObservationStore
  | [], s => s
  | (id, entry) :: rest, s =>
    if entry.transaction.workloadId = workloadId then
      cancelEntries workloadId rest (s.retireEntry id entry.transaction.txid)
    else cancelEntries workloadId rest s

def cancelWorkload (s : TransactionObservationStore) (workloadId : String) :
    Except ObservationError Nat × TransactionObservationStore :=
  if workloadId = "" then (.error .emptyWorkloadId, s)
  else
    let count := s.entries.countP fun e => e.2.transaction.workloadId = workloadId
    let s' := cancelEntries workloadId s.entries s
    match checkedAdd count "cancelled count" s.cancelled with
    | .error e => (.error e, s')
    | .ok cancelled => (.ok count, { s' with cancelled })

/-- Write an entry back to its node. -/
def setEntry (s : TransactionObservationStore) (id : Nat) (entry : Entry) :
    TransactionObservationStore :=
  { s with
    entries := s.entries.map fun e => if e.1 = id then (id, entry) else e }

/-- Retire the entry if the observation was the last one it was waiting for. -/
def finishRecord (s : TransactionObservationStore) (id : Nat) (entry : Entry)
    (transition : TransactionObservationTransition) :
    Except ObservationError (TransactionObservationTransition × Option Nat) ×
      TransactionObservationStore :=
  let loadConfirmation := entry.transaction.loadConfirmation
  if entry.confirmedNodeIds.card = entry.requiredNodeIds.card then
    let s := s.retireEntry id entry.transaction.txid
    match checkedAdd 1 "retired count" s.retired with
    | .error e => (.error e, s)
    | .ok retired =>
      (.ok ({ transition with retired := true }, loadConfirmation),
        { s with retired })
  else (.ok (transition, loadConfirmation), s)

/-- Count a node that sees the transaction for the first time. -/
def countVisibility (s : TransactionObservationStore) (first : Bool) :
    Except ObservationError TransactionObservationStore :=
  if first then
    match checkedAdd 1 "visibility transition count" s.visibilityTransitions with
    | .error e => .error e
    | .ok visibilityTransitions => .ok { s with visibilityTransitions }
  else .ok s

/-- Count a node that confirms the transaction for the first time. -/
def countConfirmation (s : TransactionObservationStore) (first : Bool) :
    Except ObservationError TransactionObservationStore :=
  if first then
    match checkedAdd 1 "confirmation transition count" s.confirmationTransitions with
    | .error e => .error e
    | .ok confirmationTransitions => .ok { s with confirmationTransitions }
  else .ok s

/-- The second half of an observation: note that the node has confirmed. -/
def recordConfirmation (s : TransactionObservationStore) (id : Nat) (entry : Entry)
    (nodeId : String) (transition : TransactionObservationTransition) :
    Except ObservationError (TransactionObservationTransition × Option Nat) ×
      TransactionObservationStore :=
  let firstConfirmed := !decide (nodeId ∈ entry.confirmedNodeIds)
  let entry := entry.confirmedBy nodeId
  let s := s.setEntry id entry
  match s.countConfirmation firstConfirmed with
  | .error e => (.error e, s)
  | .ok s => s.finishRecord id entry { transition with firstConfirmed }

/-- An observation of an entry by one of the nodes it waits for. -/
def recordEntry (s : TransactionObservationStore) (id : Nat) (entry : Entry)
    (nodeId : String) (confirmed : Bool) :
    Except ObservationError (TransactionObservationTransition × Option Nat) ×
      TransactionObservationStore :=
  let firstVisible := !decide (nodeId ∈ entry.visibleNodeIds)
  let entry := entry.seenBy nodeId
  let s := s.setEntry id entry
  match s.countVisibility firstVisible with
  | .error e => (.error e, s)
  | .ok s =>
    if confirmed then s.recordConfirmation id entry nodeId { tracked := true, firstVisible }
    else s.finishRecord id entry { tracked := true, firstVisible }

/--
The part of `Record` that runs under the store's mutex: what it has changed, and
the load confirmation that is to be told.
-/
def record (s : TransactionObservationStore) (txid nodeId : String) (visible confirmed : Bool) :
    Except ObservationError (TransactionObservationTransition × Option Nat) ×
      TransactionObservationStore :=
  if confirmed && !visible then (.error .confirmedNotVisible, s)
  else if !visible then (.ok ({}, none), s)
  else
    match s.entriesByTxid.lookup txid with
    | none => (.ok ({}, none), s)
    | some id =>
      match s.entries.lookup id with
      | none => (.ok ({}, none), s)
      | some entry =>
        if nodeId ∉ entry.requiredNodeIds then (.error (.unexpectedNode nodeId), s)
        else recordEntry s id entry nodeId confirmed

end Operations

section Index

/-- Nodes have different numbers, and the index leads to nodes of its ids. -/
structure Indexed (s : TransactionObservationStore) : Prop where
  nodup : (s.entries.map Prod.fst).Nodup
  entryFresh : ∀ e, e ∈ s.entries → e.1 < s.nextEntry
  indexFresh : ∀ i, i ∈ s.entriesByTxid → i.2 < s.nextEntry
  leads : ∀ i, i ∈ s.entriesByTxid → ∀ e, e ∈ s.entries → e.1 = i.2 → e.2.transaction.txid = i.1

/-- Nothing is tracked that was not tracked before, and by the same nodes. -/
structure Shrinks (s s' : TransactionObservationStore) : Prop where
  keys : (s'.entries.map Prod.fst).Sublist (s.entries.map Prod.fst)
  entries : ∀ e', e' ∈ s'.entries → ∃ e, e ∈ s.entries ∧ e'.1 = e.1 ∧
    e'.2.transaction = e.2.transaction ∧
    e'.2.requiredNodeIds = e.2.requiredNodeIds
  index : ∀ i, i ∈ s'.entriesByTxid → i ∈ s.entriesByTxid
  nextEntry : s'.nextEntry = s.nextEntry

variable {s s' s'' : TransactionObservationStore}

theorem Shrinks.of_eq (hentries : s'.entries = s.entries)
    (hindex : s'.entriesByTxid = s.entriesByTxid) (hnext : s'.nextEntry = s.nextEntry) :
    Shrinks s s' := by
  refine ⟨?_, ?_, ?_, hnext⟩
  · rw [hentries]
  · rw [hentries]
    exact fun e he => ⟨e, he, rfl, rfl, rfl⟩
  · rw [hindex]
    exact fun _ hi => hi

theorem Shrinks.trans (h : Shrinks s s') (h' : Shrinks s' s'') : Shrinks s s'' := by
  refine ⟨h'.keys.trans h.keys, ?_, fun i hi => h.index i (h'.index i hi),
    h'.nextEntry.trans h.nextEntry⟩
  intro e'' he''
  obtain ⟨e', he', hid', htransaction', hrequired'⟩ := h'.entries e'' he''
  obtain ⟨e, he, hid, htransaction, hrequired⟩ := h.entries e' he'
  exact ⟨e, he, hid'.trans hid, htransaction'.trans htransaction, hrequired'.trans hrequired⟩

theorem Shrinks.indexed (h : Shrinks s s') (hs : s.Indexed) : s'.Indexed := by
  refine ⟨hs.nodup.sublist h.keys, ?_, ?_, ?_⟩
  · intro e' he'
    obtain ⟨e, he, hid, _⟩ := h.entries e' he'
    rw [hid, h.nextEntry]
    exact hs.entryFresh e he
  · intro i hi
    rw [h.nextEntry]
    exact hs.indexFresh i (h.index i hi)
  · intro i hi e' he' hid'
    obtain ⟨e, he, hid, htransaction, _⟩ := h.entries e' he'
    rw [htransaction]
    exact hs.leads i (h.index i hi) e he (hid.symm.trans hid')

theorem tryReserve_shrinks (count : Nat) : Shrinks s (s.tryReserve count).2 := by
  unfold tryReserve
  split
  · exact .of_eq rfl rfl rfl
  simp only
  split
  · split
    all_goals exact .of_eq rfl rfl rfl
  · exact .of_eq rfl rfl rfl

theorem releaseReservation_shrinks {r : Reservation} (h : s.releaseReservation r = some s') :
    Shrinks s s' := by
  unfold releaseReservation at h
  split at h
  · split at h <;> cases h
    exact .of_eq rfl rfl rfl
  · cases h
    exact .of_eq rfl rfl rfl

theorem retireEntry_shrinks (id : Nat) (txid : String) : Shrinks s (s.retireEntry id txid) := by
  have herased : Shrinks s
      { s with
        entries := eraseKey id s.entries
        entriesByTxid := eraseKey txid s.entriesByTxid } := by
    refine ⟨?_, ?_, ?_, rfl⟩
    · exact filter_sublist.map Prod.fst
    · exact fun e he => ⟨e, mem_of_mem_filter he, rfl, rfl, rfl⟩
    · exact fun i hi => mem_of_mem_filter hi
  refine herased.trans ?_
  unfold retireEntry
  simp only
  split
  · split
    all_goals exact .of_eq rfl rfl rfl
  · exact .of_eq rfl rfl rfl

theorem cancelEntries_shrinks (workloadId : String) (entries : List (Nat × Entry)) :
    Shrinks s (cancelEntries workloadId entries s) := by
  induction entries generalizing s with
  | nil => exact .of_eq rfl rfl rfl
  | cons e rest ih =>
    obtain ⟨id, entry⟩ := e
    simp only [cancelEntries]
    split
    · exact (retireEntry_shrinks id entry.transaction.txid).trans ih
    · exact ih

theorem cancelWorkload_shrinks (workloadId : String) :
    Shrinks s (s.cancelWorkload workloadId).2 := by
  unfold cancelWorkload
  split
  · exact .of_eq rfl rfl rfl
  simp only
  split
  · exact cancelEntries_shrinks workloadId s.entries
  · exact (cancelEntries_shrinks workloadId s.entries).trans (.of_eq rfl rfl rfl)

/-- The entry that a number leads to. -/
def Holds (s : TransactionObservationStore) (id : Nat) (entry : Entry) : Prop :=
  ∀ e, e ∈ s.entries → e.1 = id → e.2.transaction = entry.transaction ∧
      e.2.requiredNodeIds = entry.requiredNodeIds

variable {entry : Entry} {id : Nat}

theorem holds_of_lookup (hs : s.Indexed) (h : s.entries.lookup id = some entry) :
    s.Holds id entry := by
  intro e he hid
  have hsame : s.entries.lookup e.1 = some e.2 := lookup_of_mem hs.nodup he
  rw [hid, h] at hsame
  cases hsame
  exact ⟨rfl, rfl⟩

theorem setEntry_shrinks (h : s.Holds id entry) :
    Shrinks s (s.setEntry id entry) := by
  refine ⟨?_, ?_, fun _ hi => hi, rfl⟩
  · have hkeys : (s.setEntry id entry).entries.map Prod.fst = s.entries.map Prod.fst := by
      simp only [setEntry, map_map]
      apply map_congr_left
      intro e _
      simp only [Function.comp_apply]
      split
      · rename_i hid
        exact hid.symm
      · rfl
    rw [hkeys]
  · intro e' he'
    obtain ⟨e, he, rfl⟩ := mem_map.mp he'
    refine ⟨e, he, ?_⟩
    split
    · rename_i hid
      obtain ⟨htransaction, hrequired⟩ := h e he hid
      exact ⟨hid.symm, htransaction.symm, hrequired.symm⟩
    · exact ⟨rfl, rfl, rfl⟩

theorem finishRecord_shrinks
    (id : Nat) (entry : Entry) (transition : TransactionObservationTransition) :
    Shrinks s (s.finishRecord id entry transition).2 := by
  unfold finishRecord
  simp only
  split
  · split
    · exact retireEntry_shrinks id entry.transaction.txid
    · exact (retireEntry_shrinks id entry.transaction.txid).trans (.of_eq rfl rfl rfl)
  · exact .of_eq rfl rfl rfl

theorem holds_setEntry (id : Nat) (entry : Entry) : (s.setEntry id entry).Holds id entry := by
  intro e' he' hid'
  obtain ⟨e, he, rfl⟩ := mem_map.mp he'
  split
  · exact ⟨rfl, rfl⟩
  · rename_i hid
    rw [if_neg hid] at hid'
    exact absurd hid' hid

theorem checkedAdd_cases (amount : Nat) (field : String) (value : Nat) :
    checkedAdd amount field value = .ok (value + amount) ∨
      checkedAdd amount field value = .error (.exceedsUint64 field) ∧
        2 ^ 64 - 1 - amount < value := by
  unfold checkedAdd
  split
  next hfull => exact .inr ⟨rfl, hfull⟩
  · exact .inl rfl

/-- The counter is moved, or it is at its end. -/
theorem countVisibility_cases (s : TransactionObservationStore) (first : Bool) :
    (∃ visibilityTransitions, s.countVisibility first = .ok { s with visibilityTransitions }) ∨
      ∃ field, s.countVisibility first = .error (.exceedsUint64 field) ∧
        2 ^ 64 - 1 ≤ s.visibilityTransitions := by
  unfold countVisibility
  split
  · rcases checkedAdd_cases 1 "visibility transition count" s.visibilityTransitions with
      hadd | ⟨hadd, hfull⟩
    · rw [hadd]
      exact .inl ⟨_, rfl⟩
    · rw [hadd]
      exact .inr ⟨_, rfl, by omega⟩
  · exact .inl ⟨_, rfl⟩

theorem countConfirmation_cases (s : TransactionObservationStore) (first : Bool) :
    (∃ confirmationTransitions,
        s.countConfirmation first = .ok { s with confirmationTransitions }) ∨
      ∃ field, s.countConfirmation first = .error (.exceedsUint64 field) ∧
        2 ^ 64 - 1 ≤ s.confirmationTransitions := by
  unfold countConfirmation
  split
  · rcases checkedAdd_cases 1 "confirmation transition count" s.confirmationTransitions with
      hadd | ⟨hadd, hfull⟩
    · rw [hadd]
      exact .inl ⟨_, rfl⟩
    · rw [hadd]
      exact .inr ⟨_, rfl, by omega⟩
  · exact .inl ⟨_, rfl⟩

theorem recordConfirmation_shrinks (nodeId : String) (transition : TransactionObservationTransition)
    (h : s.Holds id entry) :
    Shrinks s (s.recordConfirmation id entry nodeId transition).2 := by
  have hconfirmed : s.Holds id (entry.confirmedBy nodeId) := h
  have hset := setEntry_shrinks hconfirmed
  simp only [recordConfirmation]
  rcases countConfirmation_cases (s.setEntry id (entry.confirmedBy nodeId))
      (!decide (nodeId ∈ entry.confirmedNodeIds)) with ⟨_, hcounted⟩ | ⟨_, hfull, -⟩
  · rw [hcounted]
    refine Shrinks.trans ?_ (finishRecord_shrinks _ _ _)
    exact hset.trans (.of_eq rfl rfl rfl)
  · rw [hfull]
    exact hset

theorem recordEntry_shrinks (nodeId : String) (confirmed : Bool) (h : s.Holds id entry) :
    Shrinks s (s.recordEntry id entry nodeId confirmed).2 := by
  have hseen : s.Holds id (entry.seenBy nodeId) := h
  have hset := setEntry_shrinks hseen
  simp only [recordEntry]
  rcases countVisibility_cases (s.setEntry id (entry.seenBy nodeId))
      (!decide (nodeId ∈ entry.visibleNodeIds)) with
      ⟨visibilityTransitions, hcounted⟩ | ⟨_, hfull, -⟩
  · rw [hcounted]
    have hcount : Shrinks s
        { s.setEntry id (entry.seenBy nodeId) with visibilityTransitions } :=
      hset.trans (.of_eq rfl rfl rfl)
    dsimp only
    split
    · exact hcount.trans (recordConfirmation_shrinks _ _ (holds_setEntry id (entry.seenBy nodeId)))
    · exact hcount.trans (finishRecord_shrinks _ _ _)
  · rw [hfull]
    exact hset

theorem record_shrinks (txid nodeId : String) (visible confirmed : Bool) (hs : s.Indexed) :
    Shrinks s (s.record txid nodeId visible confirmed).2 := by
  unfold record
  iterate 4
    split
    · exact .of_eq rfl rfl rfl
  rename_i entry hlookup
  split
  · exact .of_eq rfl rfl rfl
  · exact recordEntry_shrinks nodeId confirmed (holds_of_lookup hs hlookup)

end Index

section Recording

variable {s s' : TransactionObservationStore}

/-- None of the counters an observation moves is at its end. -/
structure RecordRoom (s : TransactionObservationStore) : Prop where
  visibilityTransitions : s.visibilityTransitions < 2 ^ 64 - 1
  confirmationTransitions : s.confirmationTransitions < 2 ^ 64 - 1
  retired : s.retired < 2 ^ 64 - 1

instance (s : TransactionObservationStore) : Decidable s.RecordRoom :=
  decidable_of_iff (s.visibilityTransitions < 2 ^ 64 - 1 ∧
      s.confirmationTransitions < 2 ^ 64 - 1 ∧ s.retired < 2 ^ 64 - 1)
    ⟨fun ⟨hv, hc, hr⟩ => ⟨hv, hc, hr⟩,
      fun h => ⟨h.visibilityTransitions, h.confirmationTransitions, h.retired⟩⟩

variable (id : Nat)

theorem retireEntry_retired (txid : String) :
    (s.retireEntry id txid).retired = s.retired := by
  unfold retireEntry
  simp only
  split
  · split
    · rfl
    · rfl
  · rfl

variable (entry : Entry)

theorem finishRecord_ok (transition : TransactionObservationTransition)
    (h : s.retired < 2 ^ 64 - 1) :
    ∃ transition',
      (s.finishRecord id entry transition).1 =
        .ok (transition', entry.transaction.loadConfirmation) := by
  unfold finishRecord
  simp only
  split
  · rw [retireEntry_retired]
    rcases checkedAdd_cases 1 "retired count" s.retired with hadd | ⟨-, hfull⟩
    · rw [hadd]
      exact ⟨_, rfl⟩
    · omega
  · exact ⟨_, rfl⟩

theorem recordConfirmation_ok (nodeId : String) (transition : TransactionObservationTransition)
    (hconfirmations : s.confirmationTransitions < 2 ^ 64 - 1)
    (hretirements : s.retired < 2 ^ 64 - 1) :
    ∃ transition',
      (s.recordConfirmation id entry nodeId transition).1 =
        .ok (transition', entry.transaction.loadConfirmation) := by
  simp only [recordConfirmation]
  rcases countConfirmation_cases (s.setEntry id (entry.confirmedBy nodeId))
      (!decide (nodeId ∈ entry.confirmedNodeIds)) with ⟨_, hcounted⟩ | ⟨_, -, hfull⟩
  · rw [hcounted]
    exact finishRecord_ok id (entry.confirmedBy nodeId) _ hretirements
  · exact absurd hconfirmations hfull.not_gt

/-- With room in its counters an observation of an entry does not throw. -/
theorem recordEntry_ok (nodeId : String) (confirmed : Bool) (h : s.RecordRoom) :
    ∃ transition,
      (s.recordEntry id entry nodeId confirmed).1 =
        .ok (transition, entry.transaction.loadConfirmation) := by
  simp only [recordEntry]
  rcases countVisibility_cases (s.setEntry id (entry.seenBy nodeId))
      (!decide (nodeId ∈ entry.visibleNodeIds)) with ⟨_, hcounted⟩ | ⟨_, -, hfull⟩
  · rw [hcounted]
    dsimp only
    split
    · exact recordConfirmation_ok id (entry.seenBy nodeId) nodeId _ h.confirmationTransitions
        h.retired
    · exact finishRecord_ok id (entry.seenBy nodeId) _ h.retired
  · exact absurd h.visibilityTransitions hfull.not_gt

/-- The entry of a transaction that is tracked. -/
def trackedEntry (s : TransactionObservationStore) (txid : String) : Option Entry :=
  (s.entriesByTxid.lookup txid).bind fun id => s.entries.lookup id

/-- If the transaction is tracked, it waits for this node. -/
def requires (s : TransactionObservationStore) (txid nodeId : String) : Bool :=
  (s.trackedEntry txid).all fun entry => nodeId ∈ entry.requiredNodeIds

/-- An observation changes nothing, or is a visible one of a tracked transaction. -/
theorem record_cases (txid nodeId : String) (visible confirmed : Bool)
    (hs : s.Indexed) (hroom : s.RecordRoom) (hvisible : confirmed = true → visible = true)
    (hrequired : s.requires txid nodeId = true) :
    (visible = false ∨ s.trackedEntry txid = none) ∧
      s.record txid nodeId visible confirmed = (.ok ({}, none), s) ∨
    ∃ id entry transition,
      (visible = true ∧ s.trackedEntry txid = some entry) ∧
      (id, entry) ∈ s.entries ∧
      entry.transaction.txid = txid ∧
      nodeId ∈ entry.requiredNodeIds ∧
      (s.record txid nodeId visible confirmed).1 =
        .ok (transition, entry.transaction.loadConfirmation) := by
  simp only [requires, trackedEntry] at hrequired ⊢
  simp only [record]
  split
  · rename_i hbad
    simp only [Bool.and_eq_true, Bool.not_eq_true'] at hbad
    rw [hvisible hbad.1] at hbad
    cases hbad.2
  split
  next hunseen => exact .inl ⟨.inl (Bool.not_eq_true' _ ▸ hunseen), rfl⟩
  rename_i hseen
  cases hindex : s.entriesByTxid.lookup txid with
  | none => exact .inl ⟨.inr rfl, rfl⟩
  | some id =>
    simp only [hindex, Option.bind_some] at hrequired ⊢
    cases hentry : s.entries.lookup id with
    | none => exact .inl ⟨.inr rfl, rfl⟩
    | some entry =>
      simp only [hentry, Option.all_some, decide_eq_true_eq] at hrequired
      have hmem := mem_of_lookup hentry
      obtain ⟨transition, hok⟩ := recordEntry_ok id entry nodeId confirmed hroom
      simp only [hrequired, not_true_eq_false, if_false]
      exact .inr ⟨id, entry, transition, ⟨by simpa using hseen, rfl⟩, hmem,
        hs.leads _ (mem_of_lookup hindex) _ hmem rfl, hrequired, hok⟩

end Recording

section Tracking

variable {s s' : TransactionObservationStore}

variable {transactions : List TrackedTransaction} {required : Finset String}

theorem stageTransactions_ok {id : Nat} {staged all : List (Nat × Entry)}
    (h : stageTransactions required transactions id staged = .ok all) :
    ∃ new,
      all = staged ++ new ∧
      new.map Prod.fst = range' id new.length ∧
      ∀ e ∈ new,
        e.2.transaction ∈ transactions ∧ e.2.requiredNodeIds = required := by
  induction transactions generalizing id staged with
  | nil =>
    cases h
    exact ⟨[], by simp, rfl, by simp⟩
  | cons transaction rest ih =>
    simp only [stageTransactions] at h
    split at h
    · cases h
    split at h
    · cases h
    obtain ⟨new, rfl, hkeys, hnew⟩ := ih h
    refine ⟨_ :: new, by rw [append_assoc]; rfl, ?_, ?_⟩
    · simp [hkeys, range'_succ]
    · intro e he
      rcases mem_cons.mp he with rfl | he
      · exact ⟨mem_cons_self, rfl⟩
      · exact ⟨mem_cons_of_mem _ (hnew e he).1, (hnew e he).2⟩

/-- Only the given transactions become tracked, under fresh numbers. -/
structure Tracks
    (transactions : List TrackedTransaction) (required : Finset String)
    (s s' : TransactionObservationStore) (staged : List (Nat × Entry)) : Prop where
  entries : s'.entries = s.entries ++ staged
  index : s'.entriesByTxid = s.entriesByTxid ++ indexOf staged
  nextEntry : s'.nextEntry = s.nextEntry + staged.length
  keys : staged.map Prod.fst = range' s.nextEntry staged.length
  staged : ∀ e, e ∈ staged → e.2.transaction ∈ transactions ∧ e.2.requiredNodeIds = required

theorem commitReservation_cases (r : Reservation) (transactions : List TrackedTransaction)
    (requiredNodeIds : List String) :
    (∃ e, s.commitReservation r transactions requiredNodeIds = (.error e, r, s)) ∨
    ∃ r' s' staged,
      s.commitReservation r transactions requiredNodeIds = (.ok (), r', s') ∧
      Tracks transactions requiredNodeIds.toFinset s s' staged := by
  simp only [commitReservation]
  iterate 6
    split
    · exact .inl ⟨_, rfl⟩
  rename_i staged hstaged
  obtain ⟨new, rfl, hkeys, hnew⟩ := stageTransactions_ok hstaged
  split
  · exact .inl ⟨_, rfl⟩
  split
  · exact .inl ⟨_, rfl⟩
  split
  · exact .inl ⟨_, rfl⟩
  · exact .inr ⟨_, _, _, rfl, rfl, rfl, rfl, hkeys, hnew⟩

/-- New entries take the next numbers. -/
theorem append_numbered {α : Type} {old new : List (Nat × α)} {next : Nat}
    (hold : (old.map Prod.fst).Nodup) (hfresh : ∀ e ∈ old, e.1 < next)
    (hkeys : new.map Prod.fst = range' next new.length) :
    (∀ e ∈ new, next ≤ e.1 ∧ e.1 < next + new.length) ∧
      ((old ++ new).map Prod.fst).Nodup ∧ ∀ e ∈ old ++ new, e.1 < next + new.length := by
  have hnew : ∀ e ∈ new, next ≤ e.1 ∧ e.1 < next + new.length := by
    intro e he
    have hkey : e.1 ∈ new.map Prod.fst := mem_map_of_mem he
    rw [hkeys, mem_range'_1] at hkey
    exact hkey
  refine ⟨hnew, ?_, ?_⟩
  · rw [map_append]
    refine List.Nodup.append hold (by rw [hkeys]; exact nodup_range') ?_
    intro k hk hk'
    obtain ⟨e, he, rfl⟩ := mem_map.mp hk
    obtain ⟨e', he', hsame⟩ := mem_map.mp hk'
    have hlow := hfresh e he
    have hhigh := hnew e' he'
    omega
  · intro e he
    rcases mem_append.mp he with he | he
    · have hlow := hfresh e he
      omega
    · exact (hnew e he).2

theorem Tracks.indexed {staged : List (Nat × Entry)} (h : Tracks transactions required s s' staged)
    (hs : s.Indexed) :
    s'.Indexed := by
  obtain ⟨hfresh, hnodup, hbelow⟩ := append_numbered hs.nodup hs.entryFresh h.keys
  refine ⟨?_, ?_, ?_, ?_⟩
  · rw [h.entries]
    exact hnodup
  · rw [h.entries, h.nextEntry]
    exact hbelow
  · intro i hi
    rw [h.index] at hi
    rw [h.nextEntry]
    rcases mem_append.mp hi with hi | hi
    · have hlow := hs.indexFresh i hi
      omega
    · obtain ⟨e, he, rfl⟩ := mem_map.mp hi
      exact (hfresh e he).2
  · intro i hi e he hid
    rw [h.index] at hi
    rw [h.entries] at he
    rcases mem_append.mp hi with hi | hi
    · rcases mem_append.mp he with he | he
      · exact hs.leads i hi e he hid
      · have hlow := hs.indexFresh i hi
        have hhigh := hfresh e he
        omega
    · obtain ⟨e', he', rfl⟩ := mem_map.mp hi
      rcases mem_append.mp he with he | he
      · have hlow := hs.entryFresh e he
        have hhigh := hfresh e' he'
        simp only at hid
        omega
      · have hsame : e = e' :=
          inj_on_of_nodup_map hnodup (mem_append_right _ he) (mem_append_right _ he') hid
        rw [hsame]

end Tracking

end TransactionObservationStore

end Bbp.Simulator
