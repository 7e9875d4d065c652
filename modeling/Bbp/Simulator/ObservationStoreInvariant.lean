import Bbp.Library.Transition
import Bbp.Simulator.TransactionObservationStore

/-!
# What the store of tracked transactions keeps

The store together with the reservations that its callers hold.  A reservation is an
object that can be moved and that gives its room back when it is destroyed; the store
ends the process if more is given back than was reserved.

`Coherent` says how the entries, their index and the ring of retired ids belong together,
and `Sound` adds the room and the counters.  Every operation is reduced to three changes
of the store that keep both: an entry is written, an entry is retired, a transaction set
is published (`store_keeps_its_invariant`).
-/

namespace Bbp.Simulator

open Library List

namespace TransactionObservationStore

section Coherence

/-- Some required node has not confirmed yet, and only required nodes are noted. -/
structure Entry.Pending (entry : Entry) : Prop where
  confirmed : entry.confirmedNodeIds ⊆ entry.visibleNodeIds
  visible : entry.visibleNodeIds ⊆ entry.requiredNodeIds
  unfinished : entry.confirmedNodeIds ≠ entry.requiredNodeIds

/-- The transaction ids of the entries, in order. -/
def txids (entries : List (Nat × Entry)) : List String := entries.map fun e => e.2.transaction.txid

/-- The index is the one of the entries, and retired ids are those of no entry. -/
structure Coherent (s : TransactionObservationStore) : Prop where
  capacity_pos : 0 < s.capacity
  ids : (s.entries.map Prod.fst).Nodup
  fresh : ∀ e, e ∈ s.entries → e.1 < s.nextEntry
  distinct : (txids s.entries).Nodup
  index : s.entriesByTxid = indexOf s.entries
  retiredNodup : s.recentRetired.Nodup
  retiredIndex : s.recentRetiredIndex = s.recentRetired.toFinset
  retiredLength : s.recentRetired.length ≤ s.capacity
  retiredInactive : ∀ e, e ∈ s.entries → e.2.transaction.txid ∉ s.recentRetired

variable {s : TransactionObservationStore} {id : Nat} {entry : Entry}

/-- The retired ids that stay when another one comes. -/
def keptRetired (s : TransactionObservationStore) : List String :=
  if s.recentRetired.length ≥ s.capacity then s.recentRetired.tail else s.recentRetired

theorem keptRetired_sublist :
    s.keptRetired.Sublist s.recentRetired := by
  unfold keptRetired
  split
  · exact tail_sublist _
  · exact List.Sublist.refl _

section

variable (h : s.Coherent)

include h

theorem keptRetired_length : s.keptRetired.length < s.capacity := by
  have hpos := h.capacity_pos
  have hlength := h.retiredLength
  unfold keptRetired
  split
  · rw [length_tail]
    omega
  · omega

theorem retireEntry_eq (id : Nat) (txid : String) :
    s.retireEntry id txid =
      { s with
        entries := eraseKey id s.entries
        entriesByTxid := eraseKey txid s.entriesByTxid
        recentRetired := s.keptRetired ++ [txid]
        recentRetiredIndex := insert txid s.keptRetired.toFinset } := by
  have hindex := h.retiredIndex
  have hnodup := h.retiredNodup
  unfold retireEntry keptRetired
  dsimp only
  cases hrecent : s.recentRetired with
  | nil =>
    rw [hrecent] at hindex
    simp only [hindex, tail_nil, ite_self]
  | cons oldest rest =>
    rw [hrecent] at hindex hnodup
    have hfirst : oldest ∉ rest.toFinset :=
      fun hmem => (nodup_cons.mp hnodup).1 (mem_toFinset.mp hmem)
    dsimp only
    split
    · simp only [hindex, toFinset_cons, Finset.erase_insert hfirst, tail_cons]
    · simp only [hindex]

/-- Entries with one number, or with one transaction id, are the same one. -/
theorem Coherent.eq_of_txid {e : Nat × Entry} (he : e ∈ s.entries)
    (hentry : (id, entry) ∈ s.entries) (htxid : e.2.transaction.txid = entry.transaction.txid) :
    e = (id, entry) :=
  inj_on_of_nodup_map h.distinct he hentry htxid

theorem Coherent.eq_of_id {e : Nat × Entry} (he : e ∈ s.entries)
    (hentry : (id, entry) ∈ s.entries) (hid : e.1 = id) : e = (id, entry) :=
  inj_on_of_nodup_map h.ids he hentry hid

section

variable (hentry : (id, entry) ∈ s.entries)

include hentry

/-- The index without an id is the index of the entries without its entry. -/
theorem Coherent.eraseKey_index :
    eraseKey entry.transaction.txid s.entriesByTxid = indexOf (eraseKey id s.entries) := by
  rw [h.index]
  unfold eraseKey indexOf
  rw [filter_map]
  congr 1
  apply filter_congr
  intro e he
  simp only [Function.comp_apply, decide_eq_decide]
  refine ⟨fun hne hid => hne ?_, fun hne htxid => hne ?_⟩
  · rw [h.eq_of_id he hentry hid]
  · rw [h.eq_of_txid he hentry htxid]

theorem Coherent.retireEntry :
    (s.retireEntry id entry.transaction.txid).Coherent := by
  rw [retireEntry_eq h]
  have hinactive := h.retiredInactive _ hentry
  have hkept := keptRetired_sublist (s := s)
  have hsub : (eraseKey id s.entries).Sublist s.entries := filter_sublist
  refine ⟨h.capacity_pos, h.ids.sublist (hsub.map _), ?_, h.distinct.sublist (hsub.map _),
    h.eraseKey_index hentry, ?_, ?_, ?_, ?_⟩
  · intro e he
    exact h.fresh e (hsub.subset he)
  · refine List.Nodup.append (h.retiredNodup.sublist hkept) (nodup_singleton _) ?_
    intro txid hmem hlast
    rw [mem_singleton] at hlast
    subst hlast
    exact hinactive (hkept.subset hmem)
  · rw [toFinset_append, toFinset_cons, toFinset_nil, Finset.union_comm]
    rfl
  · have hlength := keptRetired_length h
    simp only [length_append, length_singleton]
    omega
  · intro e he hmem
    obtain ⟨hold, hne⟩ := mem_filter.mp he
    rcases mem_append.mp hmem with hmem | hmem
    · exact h.retiredInactive e hold (hkept.subset hmem)
    · rw [mem_singleton] at hmem
      rw [h.eq_of_txid hold hentry hmem] at hne
      simp at hne

theorem Coherent.retireEntry_length :
    (s.retireEntry id entry.transaction.txid).entries.length + 1 = s.entries.length := by
  rw [retireEntry_eq h]
  exact length_eraseKey h.ids (lookup_of_mem h.ids hentry)

end

theorem setEntry_map {β : Type} {f : Nat × Entry → β} {old : Entry}
    (hold : (id, old) ∈ s.entries) (hsame : f (id, entry) = f (id, old)) :
    (s.setEntry id entry).entries.map f = s.entries.map f := by
  simp only [setEntry, map_map]
  apply map_congr_left
  intro e he
  simp only [Function.comp_apply]
  split
  · rename_i hid
    rw [hsame, h.eq_of_id he hold hid]
  · rfl

/-- The index is a bijection between the ids and the entries. -/
theorem Coherent.lookup_iff (txid : String) (id : Nat) :
    s.entriesByTxid.lookup txid = some id ↔
      ∃ entry, (id, entry) ∈ s.entries ∧ entry.transaction.txid = txid := by
  rw [h.index]
  constructor
  · intro hlookup
    obtain ⟨e, he, hpair⟩ := mem_map.mp (mem_of_lookup hlookup)
    cases hpair
    exact ⟨e.2, he, rfl⟩
  · rintro ⟨entry, hentry, rfl⟩
    refine lookup_of_mem ?_ (mem_map.mpr ⟨(id, entry), hentry, rfl⟩)
    rw [indexOf, map_map]
    exact h.distinct

theorem Coherent.setEntry {old : Entry} (hold : (id, old) ∈ s.entries)
    (hsame : entry.transaction = old.transaction) : (s.setEntry id entry).Coherent := by
  have hids : (s.setEntry id entry).entries.map Prod.fst = s.entries.map Prod.fst :=
    setEntry_map h hold rfl
  have htxids : txids (s.setEntry id entry).entries = txids s.entries :=
    setEntry_map h hold (by simp only [hsame])
  have hindex : indexOf (s.setEntry id entry).entries = indexOf s.entries :=
    setEntry_map h hold (by simp only [hsame])
  have hmem : ∀ e ∈ (s.setEntry id entry).entries,
      ∃ e₀ ∈ s.entries, e.1 = e₀.1 ∧ e.2.transaction = e₀.2.transaction := by
    intro e he
    obtain ⟨e₀, he₀, rfl⟩ := mem_map.mp he
    refine ⟨e₀, he₀, ?_⟩
    split
    · rename_i hid
      have heq := h.eq_of_id he₀ hold hid
      rw [heq]
      exact ⟨rfl, hsame⟩
    · exact ⟨rfl, rfl⟩
  refine ⟨h.capacity_pos, ?_, ?_, ?_, ?_, h.retiredNodup, h.retiredIndex, h.retiredLength, ?_⟩
  · rw [hids]
    exact h.ids
  · intro e he
    obtain ⟨e₀, he₀, hid, -⟩ := hmem e he
    rw [hid]
    exact h.fresh e₀ he₀
  · rw [htxids]
    exact h.distinct
  · rw [hindex]
    exact h.index
  · intro e he
    obtain ⟨e₀, he₀, -, htransaction⟩ := hmem e he
    rw [htransaction]
    exact h.retiredInactive e₀ he₀

end

theorem mem_setEntry {old : Entry} (hold : (id, old) ∈ s.entries) :
    (id, entry) ∈ (s.setEntry id entry).entries :=
  mem_map.mpr ⟨(id, old), hold, if_pos rfl⟩

theorem setEntry_length (s : TransactionObservationStore) (id : Nat) (entry : Entry) :
    (s.setEntry id entry).entries.length = s.entries.length :=
  length_map _

end Coherence

section Soundness

/-- The room and the counters, on top of what belongs together. -/
structure Sound (s : TransactionObservationStore) : Prop where
  coherent : s.Coherent
  capacity_lt : s.capacity < 2 ^ 64
  room : s.entries.length + s.reserved ≤ s.capacity
  pending : ∀ e, e ∈ s.entries → e.2.Pending
  count : s.tracked = s.entries.length + s.retired + s.cancelled

variable {s s' : TransactionObservationStore} {id : Nat} {entry : Entry}
  {staged : List (Nat × Entry)} {e : ObservationError} {nodeId : String}
  {transition : TransactionObservationTransition}

theorem create_sound {capacity : Nat} (hcapacity : capacity < 2 ^ 64)
    (h : create capacity = .ok s) : s.Sound := by
  unfold create at h
  split at h <;> cases h
  rename_i hpos
  refine ⟨⟨?_, ?_, nofun, ?_, rfl, ?_, rfl, ?_, nofun⟩, hcapacity, ?_, nofun, rfl⟩
  · exact Nat.pos_of_ne_zero hpos
  · exact nodup_nil
  · exact nodup_nil
  · exact nodup_nil
  all_goals exact Nat.zero_le _

theorem create_fields {capacity : Nat} (h : create capacity = .ok s) :
    s.capacity = capacity ∧ s.reserved = 0 := by
  unfold create at h
  split at h <;> cases h
  exact ⟨rfl, rfl⟩

theorem checkedAdd_ok {amount value sum : Nat} {field : String}
    (h : checkedAdd amount field value = .ok sum) : sum = value + amount := by
  unfold checkedAdd at h
  split at h <;> cases h
  rfl

/-- The room that a reservation takes is there. -/
theorem tryReserve_cases (h : s.Sound) (count : Nat) :
    (∃ e, s.tryReserve count = (.error e, s)) ∨
    (∃ rejected, s.tryReserve count = (.ok none, { s with rejected })) ∨
    (s.entries.length + s.reserved + count ≤ s.capacity ∧
      ∃ maximumRetained, s.tryReserve count =
        (.ok (some { size := count }),
          { s with reserved := s.reserved + count, maximumRetained })) := by
  unfold tryReserve
  split
  · exact .inl ⟨_, rfl⟩
  dsimp only
  split
  · split
    · exact .inl ⟨_, rfl⟩
    · exact .inr (.inl ⟨_, rfl⟩)
  rename_i hroom
  rw [wrapSub_of_le h.capacity_lt h.room] at hroom
  have hretained := h.room
  exact .inr (.inr ⟨by omega, _, rfl⟩)

theorem Sound.reserve {count : Nat} (h : s.Sound) (maximumRetained : Nat)
    (hroom : s.entries.length + s.reserved + count ≤ s.capacity) :
    Sound { s with reserved := s.reserved + count, maximumRetained } :=
  { h with
    coherent := { h.coherent with }
    room := by
      show s.entries.length + (s.reserved + count) ≤ s.capacity
      omega }

theorem Sound.unreserve (h : s.Sound) (count : Nat) :
    Sound { s with reserved := s.reserved - count } :=
  { h with
    coherent := { h.coherent with }
    room := by
      have hroom := h.room
      show s.entries.length + (s.reserved - count) ≤ s.capacity
      omega }

/-- The staged entries of a transaction set. -/
structure Staged
    (transactions : List TrackedTransaction) (required : Finset String) (id : Nat)
    (staged : List (Nat × Entry)) : Prop where
  keys : staged.map Prod.fst = range' id staged.length
  distinct : (txids staged).Nodup
  length : staged.length = transactions.length
  entries : ∀ e, e ∈ staged →
    e.2.requiredNodeIds = required ∧ e.2.visibleNodeIds = ∅ ∧ e.2.confirmedNodeIds = ∅

theorem stageTransactions_staged
    {required : Finset String} {transactions done : List TrackedTransaction} {first id : Nat}
    {before : List (Nat × Entry)} (hbefore : Staged done required first before)
    (hid : id = first + before.length)
    (h : stageTransactions required transactions id before = .ok staged) :
    Staged (done ++ transactions) required first staged := by
  induction transactions generalizing id before done with
  | nil =>
    cases h
    rw [append_nil]
    exact hbefore
  | cons transaction rest ih =>
    unfold stageTransactions at h
    split_ifs at h with _ hnew
    rw [append_cons]
    refine ih ?_ ?_ h
    · refine ⟨?_, ?_, ?_, ?_⟩
      · rw [map_append, hbefore.keys, length_append, length_singleton,
          range'_concat, hid, Nat.one_mul]
        rfl
      · unfold txids
        rw [map_append]
        refine List.Nodup.append hbefore.distinct (nodup_singleton _) ?_
        intro txid hold hlast
        rw [map_singleton, mem_singleton] at hlast
        obtain ⟨e, he, htxid⟩ := mem_map.mp hold
        refine hnew (any_eq_true.mpr ⟨e, he, ?_⟩)
        rw [htxid, hlast]
        exact decide_eq_true rfl
      · simp only [length_append, length_singleton, hbefore.length]
      · intro e he
        rcases mem_append.mp he with he | he
        · exact hbefore.entries e he
        · rw [mem_singleton] at he
          subst he
          exact ⟨rfl, rfl, rfl⟩
    · rw [length_append, length_singleton, hid, Nat.add_assoc]

/-- A published transaction set. -/
structure Publishes
    (s : TransactionObservationStore) (r : Reservation)
    (staged : List (Nat × Entry)) (s' : TransactionObservationStore) : Prop where
  active : r.active = true
  size : staged.length = r.size
  reserved_le : r.size ≤ s.reserved
  keys : staged.map Prod.fst = range' s.nextEntry staged.length
  distinct : (txids staged).Nodup
  unknown : ∀ e, e ∈ staged → s.knows e.2.transaction.txid = false
  pending : ∀ e, e ∈ staged → e.2.Pending
  store : ∃ maximumActive, s' =
    { s with
      entries := s.entries ++ staged
      tracked := s.tracked + staged.length
      entriesByTxid := s.entriesByTxid ++ indexOf staged
      nextEntry := s.nextEntry + staged.length
      reserved := s.reserved - r.size
      maximumActive }

theorem commitReservation_publishes (r : Reservation) (transactions : List TrackedTransaction)
    (requiredNodeIds : List String) :
    (∃ e, s.commitReservation r transactions requiredNodeIds = (.error e, r, s)) ∨
    ∃ s' staged,
      s.commitReservation r transactions requiredNodeIds =
        (.ok (), { active := false, size := 0 }, s') ∧
      Publishes s r staged s' := by
  unfold commitReservation
  dsimp only
  split
  · exact .inl ⟨_, rfl⟩
  rename_i hactive
  split
  · exact .inl ⟨_, rfl⟩
  split
  · exact .inl ⟨_, rfl⟩
  rename_i hsize
  split
  · exact .inl ⟨_, rfl⟩
  rename_i hrequired
  split
  · exact .inl ⟨_, rfl⟩
  split
  · exact .inl ⟨_, rfl⟩
  rename_i staged hstage
  have hnone : Staged [] requiredNodeIds.toFinset s.nextEntry [] :=
    ⟨rfl, nodup_nil, rfl, fun _ he => nomatch he⟩
  have hstaged := stageTransactions_staged hnone rfl hstage
  split
  · exact .inl ⟨_, rfl⟩
  rename_i hreserved
  split
  · exact .inl ⟨_, rfl⟩
  rename_i hunknown
  split
  · exact .inl ⟨_, rfl⟩
  rename_i tracked htracked
  refine .inr ⟨_, staged, rfl, ?_, ?_, ?_, hstaged.keys, hstaged.distinct, ?_, ?_,
    max s.maximumActive (s.entries ++ staged).length, ?_⟩
  · simpa using hactive
  · rw [hstaged.length, nil_append]
    exact not_not.mp hsize
  · exact Nat.le_of_not_lt hreserved
  · intro e he
    simpa using find?_eq_none.mp hunknown e he
  · intro e he
    obtain ⟨hnodes, hvisible, hconfirmed⟩ := hstaged.entries e he
    refine ⟨?_, ?_, ?_⟩
    · rw [hconfirmed]
      exact Finset.empty_subset _
    · rw [hvisible]
      exact Finset.empty_subset _
    · rw [hconfirmed, hnodes]
      exact fun hempty => hrequired (.inl hempty.symm)
  · rw [checkedAdd_ok htracked]

/-- An id that the store does not know is neither active nor retired. -/
theorem Coherent.unknown {txid : String} (h : s.Coherent) (hunknown : s.knows txid = false) :
    txid ∉ txids s.entries ∧ txid ∉ s.recentRetired := by
  simp only [knows, Bool.or_eq_false_iff, decide_eq_false_iff_not] at hunknown
  refine ⟨fun hmem => ?_, fun hmem => ?_⟩
  · have hsome : (s.entriesByTxid.lookup txid).isSome = true := by
      rw [lookup_isSome_iff_mem_keys, h.index, indexOf, map_map]
      exact hmem
    rw [hunknown.1] at hsome
    cases hsome
  · refine hunknown.2 ?_
    rw [h.retiredIndex]
    exact mem_toFinset.mpr hmem

theorem Publishes.coherent {r : Reservation} (hpublishes : Publishes s r staged s')
    (h : s.Coherent) : s'.Coherent := by
  obtain ⟨-, hids, hfresh⟩ := append_numbered h.ids h.fresh hpublishes.keys
  obtain ⟨maximumActive, rfl⟩ := hpublishes.store
  refine { h with ids := hids, fresh := hfresh, distinct := ?_, index := ?_, retiredInactive := ?_ }
  · show (txids (s.entries ++ staged)).Nodup
    unfold txids
    rw [map_append]
    refine List.Nodup.append h.distinct hpublishes.distinct ?_
    intro txid hold hnew
    obtain ⟨e, he, rfl⟩ := mem_map.mp hnew
    exact (h.unknown (hpublishes.unknown e he)).1 hold
  · show s.entriesByTxid ++ indexOf staged = indexOf (s.entries ++ staged)
    rw [h.index, indexOf, indexOf, indexOf, map_append]
  · intro e he
    rcases mem_append.mp he with he | he
    · exact h.retiredInactive e he
    · exact (h.unknown (hpublishes.unknown e he)).2

theorem Publishes.sound {r : Reservation} (hpublishes : Publishes s r staged s') (h : s.Sound) :
    s'.Sound ∧ s'.reserved = s.reserved - r.size ∧ s'.capacity = s.capacity := by
  have hcoherent := hpublishes.coherent h.coherent
  have hsize := hpublishes.size
  have hreserved := hpublishes.reserved_le
  have hroom := h.room
  have hcount := h.count
  obtain ⟨maximumActive, rfl⟩ := hpublishes.store
  refine ⟨⟨hcoherent, h.capacity_lt, ?_, ?_, ?_⟩, rfl, rfl⟩
  · show (s.entries ++ staged).length + (s.reserved - r.size) ≤ s.capacity
    rw [length_append]
    omega
  · intro e he
    rcases mem_append.mp he with he | he
    · exact h.pending e he
    · exact hpublishes.pending e he
  · show s.tracked + staged.length = (s.entries ++ staged).length + s.retired + s.cancelled
    rw [length_append]
    omega

/-- What the entries of a workload leave behind. -/
structure Cancels
    (s : TransactionObservationStore) (count : Nat)
    (s' : TransactionObservationStore) : Prop where
  coherent : s'.Coherent
  length : s'.entries.length + count = s.entries.length
  entries : ∀ e, e ∈ s'.entries → e ∈ s.entries
  capacity : s'.capacity = s.capacity
  reserved : s'.reserved = s.reserved
  tracked : s'.tracked = s.tracked
  retired : s'.retired = s.retired
  cancelled : s'.cancelled = s.cancelled

/-- An entry that has been taken out leaves the other ones in the list. -/
theorem retireEntry_cancels (h : s.Coherent) (hentry : (id, entry) ∈ s.entries) :
    Cancels s 1 (s.retireEntry id entry.transaction.txid) := by
  have hcoherent := h.retireEntry hentry
  have hlength := h.retireEntry_length hentry
  rw [retireEntry_eq h] at hcoherent hlength ⊢
  exact ⟨hcoherent, hlength, fun _ he => (mem_filter.mp he).1, rfl, rfl, rfl, rfl, rfl⟩

theorem Cancels.trans {s'' : TransactionObservationStore} {count count' : Nat}
    (h : Cancels s count s') (h' : Cancels s' count' s'') : Cancels s (count + count') s'' := by
  refine ⟨h'.coherent, ?_, fun e he => h.entries e (h'.entries e he),
    h'.capacity.trans h.capacity, h'.reserved.trans h.reserved,
    h'.tracked.trans h.tracked, h'.retired.trans h.retired,
    h'.cancelled.trans h.cancelled⟩
  have hlength := h.length
  have hlength' := h'.length
  omega

theorem cancelEntries_cancels {workloadId : String} {rest : List (Nat × Entry)} (h : s.Coherent)
    (hrest : ∀ e ∈ rest, e ∈ s.entries) (hids : (rest.map Prod.fst).Nodup) :
    Cancels s (rest.countP fun e => e.2.transaction.workloadId = workloadId)
      (cancelEntries workloadId rest s) := by
  induction rest generalizing s with
  | nil => exact ⟨h, rfl, fun _ he => he, rfl, rfl, rfl, rfl, rfl⟩
  | cons e rest ih =>
    obtain ⟨id, entry⟩ := e
    obtain ⟨hid, hids⟩ := nodup_cons.mp hids
    have htail : ∀ e ∈ rest, e ∈ s.entries := fun e he => hrest e (mem_cons_of_mem _ he)
    unfold cancelEntries
    by_cases hworkload : entry.transaction.workloadId = workloadId
    · have hretired := retireEntry_cancels h (hrest _ mem_cons_self)
      have hkept : ∀ e ∈ rest, e ∈ (s.retireEntry id entry.transaction.txid).entries := by
        intro e he
        rw [retireEntry_eq h]
        refine mem_filter.mpr ⟨htail e he, decide_eq_true ?_⟩
        intro hsame
        exact hid (mem_map.mpr ⟨e, he, hsame⟩)
      simp only [countP_cons, hworkload, decide_true, if_true]
      rw [Nat.add_comm]
      exact hretired.trans (ih hretired.coherent hkept hids)
    · simp only [countP_cons, hworkload, decide_false, Bool.false_eq_true, if_false, Nat.add_zero]
      exact ih h htail hids

theorem Cancels.sound {count : Nat} (hcancels : Cancels s count s') (h : s.Sound)
    (cancelled retired : Nat) (hcounters : retired + cancelled = s.retired + s.cancelled + count) :
    Sound { s' with cancelled, retired } := by
  have hlength := hcancels.length
  have hroom := h.room
  have hcount := h.count
  refine ⟨{ hcancels.coherent with }, ?_, ?_, ?_, ?_⟩
  · show s'.capacity < 2 ^ 64
    rw [hcancels.capacity]
    exact h.capacity_lt
  · show s'.entries.length + s'.reserved ≤ s'.capacity
    rw [hcancels.capacity, hcancels.reserved]
    omega
  · exact fun e he => h.pending e (hcancels.entries e he)
  · show s'.tracked = s'.entries.length + retired + cancelled
    rw [hcancels.tracked]
    omega

/-- The store is sound, with the room and the reservations it had. -/
structure Settled (s s' : TransactionObservationStore) : Prop where
  sound : s'.Sound
  reserved : s'.reserved = s.reserved
  capacity : s'.capacity = s.capacity

/-- A counter that is full is the only way in which an operation can break off late. -/
def overflowed {α : Type} : Except ObservationError α → Bool
  | .error (.exceedsUint64 _) => true
  | _ => false

theorem overflowed_of_checkedAdd {amount value : Nat} {field : String}
    (h : checkedAdd amount field value = .error e) : e = .exceedsUint64 field := by
  unfold checkedAdd at h
  split at h <;> cases h
  rfl

theorem cancelWorkload_sound {workloadId : String} (h : s.Sound)
    (hroom : overflowed (s.cancelWorkload workloadId).1 = false) :
    Settled s (s.cancelWorkload workloadId).2 := by
  unfold cancelWorkload at hroom ⊢
  split
  · exact ⟨h, rfl, rfl⟩
  rename_i hid
  rw [if_neg hid] at hroom
  dsimp only at hroom ⊢
  have hcancels : Cancels s (s.entries.countP fun e => e.2.transaction.workloadId = workloadId)
      (cancelEntries workloadId s.entries s) :=
    cancelEntries_cancels h.coherent (fun _ he => he) h.coherent.ids
  split
  · rename_i hfull
    rw [hfull, overflowed_of_checkedAdd hfull] at hroom
    cases hroom
  rename_i cancelled hcancelled
  refine ⟨?_, hcancels.reserved, hcancels.capacity⟩
  have hcounter := checkedAdd_ok hcancelled
  have hsound := hcancels.sound h cancelled s.retired (by omega)
  rw [← hcancels.retired] at hsound
  exact hsound

/-- An entry that is written back keeps the rest of the store sound. -/
theorem Sound.setEntry {old : Entry} (h : s.Sound) (hold : (id, old) ∈ s.entries)
    (hsame : entry.transaction = old.transaction) (hpending : entry.Pending) :
    (s.setEntry id entry).Sound := by
  refine ⟨h.coherent.setEntry hold hsame, h.capacity_lt, ?_, ?_, ?_⟩
  · rw [setEntry_length]
    exact h.room
  · intro e he
    obtain ⟨e₀, he₀, rfl⟩ := mem_map.mp he
    split
    · exact hpending
    · exact h.pending e₀ he₀
  · rw [setEntry_length]
    exact h.count

theorem Entry.Pending.seenBy (h : entry.Pending) (hnode : nodeId ∈ entry.requiredNodeIds) :
    (entry.seenBy nodeId).Pending :=
  ⟨h.confirmed.trans (Finset.subset_insert _ _),
    Finset.insert_subset hnode h.visible, h.unfinished⟩

/-- A confirmation of a visible entry: it is pending still, or it is complete. -/
theorem Entry.Pending.confirmedBy (h : entry.Pending) (hnode : nodeId ∈ entry.visibleNodeIds) :
    (entry.confirmedBy nodeId).Pending ∨
      (entry.confirmedBy nodeId).confirmedNodeIds.card =
        (entry.confirmedBy nodeId).requiredNodeIds.card := by
  by_cases hall : insert nodeId entry.confirmedNodeIds = entry.requiredNodeIds
  · exact .inr (congrArg Finset.card hall)
  · exact .inl ⟨Finset.insert_subset hnode h.confirmed, h.visible, hall⟩

/-- The sets of a pending entry have different sizes. -/
theorem Entry.Pending.card_ne (h : entry.Pending) :
    entry.confirmedNodeIds.card ≠ entry.requiredNodeIds.card := by
  intro hcard
  exact h.unfinished (Finset.eq_of_subset_of_card_le (h.confirmed.trans h.visible) hcard.ge)

theorem finishRecord_pending (hpending : entry.Pending) :
    s.finishRecord id entry transition =
      (.ok (transition, entry.transaction.loadConfirmation), s) := by
  unfold finishRecord
  rw [if_neg hpending.card_ne]

/-- A complete entry is retired, and counted. -/
theorem finishRecord_complete {old : Entry} (h : s.Sound) (hold : (id, old) ∈ s.entries)
    (hsame : entry.transaction = old.transaction)
    (hcomplete : entry.confirmedNodeIds.card = entry.requiredNodeIds.card)
    (hroom : overflowed (finishRecord s id entry transition).1 = false) :
    Settled s (finishRecord s id entry transition).2 := by
  unfold finishRecord at hroom ⊢
  rw [if_pos hcomplete] at hroom ⊢
  dsimp only at hroom ⊢
  have hcancels : Cancels s 1 (s.retireEntry id entry.transaction.txid) := by
    rw [hsame]
    exact retireEntry_cancels h.coherent hold
  split
  · rename_i hfull
    rw [hfull, overflowed_of_checkedAdd hfull] at hroom
    cases hroom
  rename_i retired hretired
  refine ⟨?_, hcancels.reserved, hcancels.capacity⟩
  have hcounter := checkedAdd_ok hretired
  rw [hcancels.retired] at hcounter
  have hsound := hcancels.sound h s.cancelled retired (by omega)
  rw [← hcancels.cancelled] at hsound
  exact hsound

/-- Writing the complete entry back before it is retired makes no difference. -/
theorem retireEntry_setEntry
    (s : TransactionObservationStore) (id : Nat) (entry : Entry) (txid : String) :
    (s.setEntry id entry).retireEntry id txid = s.retireEntry id txid := by
  have herase : eraseKey id (s.setEntry id entry).entries = eraseKey id s.entries := by
    unfold eraseKey setEntry
    dsimp only
    rw [filter_map]
    have hfilter : s.entries.filter ((fun e : Nat × Entry => decide (e.1 ≠ id)) ∘
          fun e => if e.1 = id then (id, entry) else e) =
        s.entries.filter fun e => decide (e.1 ≠ id) := by
      apply filter_congr
      intro e _
      simp only [Function.comp_apply]
      split
      · rename_i hid
        simp [hid]
      · rfl
    rw [hfilter]
    have hkept : ∀ e ∈ s.entries.filter (fun e => decide (e.1 ≠ id)),
        (if e.1 = id then (id, entry) else e) = e := by
      intro e he
      exact if_neg (of_decide_eq_true (mem_filter.mp he).2)
    exact (map_congr_left hkept).trans (map_id _)
  unfold retireEntry
  rw [herase]
  rfl

theorem Sound.counted (h : s.Sound) (visibilityTransitions confirmationTransitions : Nat) :
    Sound { s with visibilityTransitions, confirmationTransitions } :=
  { h with coherent := { h.coherent with } }

theorem recordConfirmation_sound (h : s.Sound) (hentry : (id, entry) ∈ s.entries)
    (hnode : nodeId ∈ entry.visibleNodeIds)
    (hroom : overflowed (s.recordConfirmation id entry nodeId transition).1 = false) :
    Settled s (s.recordConfirmation id entry nodeId transition).2 := by
  unfold recordConfirmation at hroom ⊢
  dsimp only at hroom ⊢
  rcases countConfirmation_cases (s.setEntry id (entry.confirmedBy nodeId))
      (!decide (nodeId ∈ entry.confirmedNodeIds)) with
    ⟨confirmationTransitions, hcounted⟩ | ⟨field, hfull, -⟩
  swap
  · rw [hfull] at hroom
    cases hroom
  rw [hcounted] at hroom ⊢
  dsimp only at hroom ⊢
  have hcount := h.counted s.visibilityTransitions confirmationTransitions
  rcases (h.pending _ hentry).confirmedBy hnode with hpending | hcomplete
  · rw [finishRecord_pending hpending]
    exact ⟨hcount.setEntry hentry rfl hpending, rfl, rfl⟩
  · have hfinish : ∀ transition, finishRecord
        { s.setEntry id (entry.confirmedBy nodeId) with confirmationTransitions } id
        (entry.confirmedBy nodeId) transition =
        finishRecord { s with confirmationTransitions } id
          (entry.confirmedBy nodeId) transition := by
      intro transition
      have hretire := retireEntry_setEntry { s with confirmationTransitions } id
        (entry.confirmedBy nodeId) (entry.confirmedBy nodeId).transaction.txid
      unfold finishRecord
      rw [if_pos hcomplete, if_pos hcomplete, ← hretire]
      rfl
    rw [hfinish] at hroom ⊢
    have hsettled := @finishRecord_complete _ id (entry.confirmedBy nodeId) _ entry
      hcount hentry rfl hcomplete hroom
    exact { hsettled with }

theorem recordEntry_sound {confirmed : Bool} (h : s.Sound) (hentry : (id, entry) ∈ s.entries)
    (hnode : nodeId ∈ entry.requiredNodeIds)
    (hroom : overflowed (s.recordEntry id entry nodeId confirmed).1 = false) :
    Settled s (s.recordEntry id entry nodeId confirmed).2 := by
  have hpending : (entry.seenBy nodeId).Pending := (h.pending _ hentry).seenBy hnode
  have hseen : (s.setEntry id (entry.seenBy nodeId)).Sound := h.setEntry hentry rfl hpending
  have hmem : (id, entry.seenBy nodeId) ∈ (s.setEntry id (entry.seenBy nodeId)).entries :=
    mem_setEntry hentry
  unfold recordEntry at hroom ⊢
  dsimp only at hroom ⊢
  rcases countVisibility_cases (s.setEntry id (entry.seenBy nodeId))
      (!decide (nodeId ∈ entry.visibleNodeIds)) with
    ⟨visibilityTransitions, hcounted⟩ | ⟨field, hfull, -⟩
  swap
  · rw [hfull] at hroom
    cases hroom
  rw [hcounted] at hroom ⊢
  dsimp only at hroom ⊢
  have hcount := hseen.counted visibilityTransitions s.confirmationTransitions
  split
  · rename_i hconfirmed
    rw [if_pos hconfirmed] at hroom
    exact { recordConfirmation_sound hcount hmem (Finset.mem_insert_self _ _) hroom with }
  · rw [finishRecord_pending hpending]
    exact ⟨hcount, rfl, rfl⟩

theorem record_sound {txid : String} {visible confirmed : Bool} (h : s.Sound)
    (hroom : overflowed (s.record txid nodeId visible confirmed).1 = false) :
    Settled s (s.record txid nodeId visible confirmed).2 := by
  unfold record at hroom ⊢
  split
  · exact ⟨h, rfl, rfl⟩
  rename_i hconfirmed
  rw [if_neg hconfirmed] at hroom
  split
  · exact ⟨h, rfl, rfl⟩
  rename_i hvisible
  rw [if_neg hvisible] at hroom
  split
  · exact ⟨h, rfl, rfl⟩
  rename_i id hindexed
  rw [hindexed] at hroom
  dsimp only at hroom
  split
  · exact ⟨h, rfl, rfl⟩
  rename_i entry hentry
  rw [hentry] at hroom
  dsimp only at hroom
  split
  · exact ⟨h, rfl, rfl⟩
  · rename_i hnode
    rw [if_neg hnode] at hroom
    exact recordEntry_sound h (mem_of_lookup hentry) (not_not.mp hnode) hroom

end Soundness

end TransactionObservationStore

section System

open TransactionObservationStore

/-- The store, the reservation objects of its callers, and whether it ended the process. -/
structure ObservationSystem where
  store : TransactionObservationStore
  reservations : List Reservation := []
  terminated : Bool := false

inductive StoreAction where
  | tryReserve (count : Nat)
  | reserve (count : Nat)
  | moveConstruct (source : Nat)
  | moveAssign (target source : Nat)
  | commit (slot : Nat) (transactions : List TrackedTransaction)
      (requiredNodeIds : List String)
  | release (slot : Nat)
  | trackSet (transactions : List TrackedTransaction) (requiredNodeIds : List String)
  | cancelWorkload (workloadId : String)
  | record (txid nodeId : String) (visible confirmed : Bool)

/-- One transaction is tracked as a set. -/
def StoreAction.track (transaction : TrackedTransaction) (requiredNodeIds : List String) :
    StoreAction :=
  .trackSet [transaction] requiredNodeIds

/-- A reservation without an owner. -/
def movedFrom : Reservation := { active := false, size := 0 }

namespace ObservationSystem

/-- A result without its value. -/
def outcome {α : Type} : Except ObservationError α → Except ObservationError Unit
  | .error e => .error e
  | .ok _ => .ok ()

/-- Give back what a reservation object holds; also what its destructor does. -/
def releaseSlot (s : ObservationSystem) (slot : Nat) (r : Reservation) : ObservationSystem :=
  match s.store.releaseReservation r with
  | none => { s with terminated := true }
  | some store => { s with store, reservations := s.reservations.set slot movedFrom }

/-- `Reserve` and `TryReserve`, which differ in how they report a full store. -/
def reserveSlot (s : ObservationSystem) (count : Nat) (full : Except ObservationError Unit) :
    Except ObservationError Unit × ObservationSystem :=
  match s.store.tryReserve count with
  | (.error e, store) => (.error e, { s with store })
  | (.ok none, store) => (full, { s with store })
  | (.ok (some r), store) => (.ok (), { s with store, reservations := s.reservations ++ [r] })

/-- A reservation that lives as long as the call. -/
def trackSet (s : ObservationSystem) (transactions : List TrackedTransaction)
    (requiredNodeIds : List String) : Except ObservationError Unit × ObservationSystem :=
  match s.store.tryReserve transactions.length with
  | (.error e, store) => (.error e, { s with store })
  | (.ok none, store) => (.error (.capacityFull s.store.capacity), { s with store })
  | (.ok (some r), store) =>
    let (result, r, store) := store.commitReservation r transactions requiredNodeIds
    match store.releaseReservation r with
    | none => (result, { s with store, terminated := true })
    | some store => (result, { s with store })

theorem overflowed_outcome {α : Type} (result : Except ObservationError α) :
    overflowed (outcome result) = overflowed result := by
  cases result with
  | error e => cases e <;> rfl
  | ok value => rfl

/-- One call; an object that does not exist cannot be used. -/
def perform (s : ObservationSystem) :
    StoreAction → Option (Except ObservationError Unit × ObservationSystem)
  | .tryReserve count => some (s.reserveSlot count (.ok ()))
  | .reserve count => some (s.reserveSlot count (.error (.capacityFull s.store.capacity)))
  | .moveConstruct source =>
    match s.reservations[source]? with
    | none => none
    | some r =>
      some (.ok (),
        { s with reservations := s.reservations.set source movedFrom ++ [r] })
  | .moveAssign target source =>
    match s.reservations[target]?, s.reservations[source]? with
    | some r, some r' =>
      if target = source then some (.ok (), s)
      else
        let s := s.releaseSlot target r
        some (.ok (),
          { s with
            reservations := (s.reservations.set target r').set source movedFrom })
    | _, _ => none
  | .commit slot transactions requiredNodeIds =>
    match s.reservations[slot]? with
    | none => none
    | some r =>
      let (result, r, store) := s.store.commitReservation r transactions requiredNodeIds
      some (result, { s with store, reservations := s.reservations.set slot r })
  | .release slot =>
    match s.reservations[slot]? with
    | none => none
    | some r => some (.ok (), s.releaseSlot slot r)
  | .trackSet transactions requiredNodeIds => some (s.trackSet transactions requiredNodeIds)
  | .cancelWorkload workloadId =>
    let (result, store) := s.store.cancelWorkload workloadId
    some (outcome result, { s with store })
  | .record txid nodeId visible confirmed =>
    let (result, store) := s.store.record txid nodeId visible confirmed
    some (outcome result, { s with store })

/-- No counter of the store is full when it has to be raised. -/
def countsOn (s : ObservationSystem) (a : StoreAction) : Bool :=
  match s.perform a with
  | none => true
  | some (result, _) => !overflowed result

end ObservationSystem

/-- Calls on the store and its reservations, one after the other. -/
def observationMachine : Machine ObservationSystem StoreAction where
  step s a :=
    if s.terminated then none
    else
      match s.perform a with
      | none => none
      | some (_, t) => some t

end System

section Keeps

open TransactionObservationStore

/-- The room that a reservation object stands for. -/
def liveSize (r : Reservation) : Nat := if r.active then r.size else 0

theorem sum_map_set {α : Type} (f : α → Nat) {xs : List α} {i : Nat} {x : α} (y : α)
    (h : xs[i]? = some x) : ((xs.set i y).map f).sum + f x = (xs.map f).sum + f y := by
  induction xs generalizing i with
  | nil => cases h
  | cons z zs ih =>
    cases i with
    | zero =>
      cases h
      simp only [set_cons_zero, map_cons, sum_cons]
      omega
    | succ i =>
      have hrest := ih (i := i) h
      simp only [set_cons_succ, map_cons, sum_cons]
      omega

namespace ObservationSystem

variable {s t : ObservationSystem} {a : StoreAction} {capacity : Nat}
  {store : TransactionObservationStore} {r : Reservation}

/-- The room that all reservation objects together stand for. -/
def live (s : ObservationSystem) : Nat := (s.reservations.map liveSize).sum

structure Sound (capacity : Nat) (s : ObservationSystem) : Prop where
  store : s.store.Sound
  capacity_eq : s.store.capacity = capacity
  reserved : s.store.reserved = s.live
  running : s.terminated = false

theorem releaseReservation_ok (h : store.Sound) (hsize : liveSize r ≤ store.reserved) :
    ∃ store', store.releaseReservation r = some store' ∧ store'.Sound ∧
      store'.capacity = store.capacity ∧
      store'.reserved = store.reserved - liveSize r := by
  unfold releaseReservation
  unfold liveSize at hsize ⊢
  split
  · rename_i hactive
    rw [if_pos hactive] at hsize
    rw [if_neg (Nat.not_lt.mpr hsize)]
    exact ⟨_, rfl, h.unreserve r.size, rfl, rfl⟩
  · exact ⟨_, rfl, h, rfl, rfl⟩

theorem liveSize_le {slot : Nat} (hslot : s.reservations[slot]? = some r) :
    liveSize r ≤ s.live := by
  have hmem : liveSize r ∈ s.reservations.map liveSize := mem_map_of_mem (mem_of_getElem? hslot)
  exact le_sum_of_mem hmem

theorem Sound.releaseSlot {slot : Nat} (h : s.Sound capacity)
    (hslot : s.reservations[slot]? = some r) :
    (s.releaseSlot slot r).Sound capacity ∧
      (s.releaseSlot slot r).reservations = s.reservations.set slot movedFrom := by
  have hsize := liveSize_le hslot
  rw [← h.reserved] at hsize
  obtain ⟨store, hrelease, hsound, hcapacity, hreserved⟩ := releaseReservation_ok h.store hsize
  unfold ObservationSystem.releaseSlot
  rw [hrelease]
  refine ⟨⟨hsound, hcapacity.trans h.capacity_eq, ?_, h.running⟩, rfl⟩
  have hsum := sum_map_set liveSize movedFrom hslot
  have hold := h.reserved
  have hmoved : liveSize movedFrom = 0 := rfl
  unfold live at *
  dsimp only
  omega

theorem Sound.reserveSlot {count : Nat} {full : Except ObservationError Unit}
    (h : s.Sound capacity) : (s.reserveSlot count full).2.Sound capacity := by
  unfold ObservationSystem.reserveSlot
  rcases tryReserve_cases h.store count with
    ⟨e, hresult⟩ | ⟨rejected, hresult⟩ | ⟨hroom, maximumRetained, hresult⟩
  · rw [hresult]
    exact h
  · rw [hresult]
    exact ⟨{ h.store with coherent := { h.store.coherent with } }, h.capacity_eq,
      h.reserved, h.running⟩
  · rw [hresult]
    refine ⟨h.store.reserve maximumRetained hroom, h.capacity_eq, ?_, h.running⟩
    have hold := h.reserved
    unfold live at *
    simp only [map_append, map_singleton, sum_append, sum_singleton, liveSize, if_true]
    omega

/-- What a commit leaves of the store and of its reservation. -/
theorem commitReservation_sound (r : Reservation)
    (transactions : List TrackedTransaction) (requiredNodeIds : List String) (h : store.Sound) :
    ∃ result r' store',
      store.commitReservation r transactions requiredNodeIds = (result, r', store') ∧
      store'.Sound ∧ store'.capacity = store.capacity ∧
      store'.reserved + liveSize r = store.reserved + liveSize r' := by
  rcases commitReservation_publishes (s := store) r transactions requiredNodeIds with
    ⟨e, hresult⟩ | ⟨store', staged, hresult, hpublishes⟩
  · exact ⟨_, _, _, hresult, h, rfl, rfl⟩
  · obtain ⟨hsound, hreserved, hcapacity⟩ := hpublishes.sound h
    refine ⟨_, _, _, hresult, hsound, hcapacity, ?_⟩
    have hsize := hpublishes.reserved_le
    simp only [liveSize, hpublishes.active, if_true, Bool.false_eq_true, if_false]
    omega

theorem Sound.trackSet {transactions : List TrackedTransaction} {requiredNodeIds : List String}
    (h : s.Sound capacity) : (s.trackSet transactions requiredNodeIds).2.Sound capacity := by
  unfold ObservationSystem.trackSet
  rcases tryReserve_cases h.store transactions.length with
    ⟨e, hresult⟩ | ⟨rejected, hresult⟩ | ⟨hroom, maximumRetained, hresult⟩
  · rw [hresult]
    exact h
  · rw [hresult]
    exact ⟨{ h.store with coherent := { h.store.coherent with } }, h.capacity_eq,
      h.reserved, h.running⟩
  · rw [hresult]
    dsimp only
    obtain ⟨result, r, store, hcommit, hsound, hcapacity, hreserved⟩ :=
      commitReservation_sound { size := transactions.length } transactions requiredNodeIds
        (h.store.reserve maximumRetained hroom)
    rw [hcommit]
    dsimp only
    simp only [liveSize, if_true] at hreserved
    obtain ⟨released, hrelease, hreleased, hsame, hleft⟩ :=
      releaseReservation_ok (r := r) hsound (by unfold liveSize; omega)
    rw [hrelease]
    refine ⟨hreleased, hsame.trans (hcapacity.trans h.capacity_eq), ?_, h.running⟩
    rw [hleft]
    have hold := h.reserved
    unfold live at *
    unfold liveSize at *
    dsimp only
    omega

theorem step_sound (hstep : observationMachine.step s a = some t) (hcounts : s.countsOn a = true)
    (h : s.Sound capacity) : t.Sound capacity := by
  simp only [observationMachine, h.running, Bool.false_eq_true, if_false] at hstep
  cases a with
  | tryReserve | reserve =>
    cases hstep
    exact h.reserveSlot
  | moveConstruct source =>
    simp only [perform] at hstep
    split at hstep
    · cases hstep
    rename_i hperform
    split at hperform <;> cases hperform
    rename_i r hslot
    cases hstep
    refine ⟨h.store, h.capacity_eq, ?_, h.running⟩
    have hsum := sum_map_set liveSize movedFrom hslot
    have hold := h.reserved
    have hmoved : liveSize movedFrom = 0 := rfl
    unfold live at *
    simp only [List.map_append, List.map_singleton, List.sum_append, List.sum_singleton]
    omega
  | moveAssign target source =>
    simp only [perform] at hstep
    split at hstep
    · cases hstep
    rename_i hperform
    split at hperform
    · rename_i r r' htarget hsource
      split at hperform
      · cases hperform
        cases hstep
        exact h
      rename_i hdifferent
      cases hperform
      cases hstep
      obtain ⟨hreleased, hreservations⟩ := h.releaseSlot htarget
      refine ⟨hreleased.store, hreleased.capacity_eq, ?_, hreleased.running⟩
      have hlength := (List.getElem?_eq_some_iff.mp htarget).1
      have htaken : (s.releaseSlot target r).reservations[target]? = some movedFrom := by
        rw [hreservations]
        exact List.getElem?_set_self hlength
      have hheld : ((s.releaseSlot target r).reservations.set target r')[source]? = some r' := by
        rw [hreservations, List.getElem?_set_ne hdifferent, List.getElem?_set_ne hdifferent]
        exact hsource
      have hfirst := sum_map_set liveSize r' htaken
      have hsecond := sum_map_set liveSize movedFrom hheld
      have hold := hreleased.reserved
      have hmoved : liveSize movedFrom = 0 := rfl
      unfold live at *
      dsimp only
      omega
    · cases hperform
  | commit slot transactions requiredNodeIds =>
    simp only [perform] at hstep
    split at hstep
    · cases hstep
    rename_i hperform
    split at hperform
    · cases hperform
    rename_i r hslot
    obtain ⟨result, r', store, hcommit, hsound, hcapacity, hreserved⟩ :=
      commitReservation_sound r transactions requiredNodeIds h.store
    rw [hcommit] at hperform
    cases hperform
    cases hstep
    refine ⟨hsound, hcapacity.trans h.capacity_eq, ?_, h.running⟩
    have hsum := sum_map_set liveSize r' hslot
    have hold := h.reserved
    unfold live at *
    dsimp only
    omega
  | release slot =>
    simp only [perform] at hstep
    split at hstep
    · cases hstep
    rename_i hperform
    split at hperform <;> cases hperform
    rename_i r hslot
    cases hstep
    exact (h.releaseSlot hslot).1
  | trackSet transactions requiredNodeIds =>
    cases hstep
    exact h.trackSet
  | cancelWorkload workloadId =>
    cases hstep
    have hroom : overflowed (s.store.cancelWorkload workloadId).1 = false := by
      simpa only [countsOn, perform, overflowed_outcome, Bool.not_eq_true'] using hcounts
    have hsettled := cancelWorkload_sound h.store hroom
    exact ⟨hsettled.sound, hsettled.capacity.trans h.capacity_eq,
      hsettled.reserved.trans h.reserved, h.running⟩
  | record txid nodeId visible confirmed =>
    cases hstep
    have hroom : overflowed (s.store.record txid nodeId visible confirmed).1 = false := by
      simpa only [countsOn, perform, overflowed_outcome, Bool.not_eq_true'] using hcounts
    have hsettled := record_sound h.store hroom
    exact ⟨hsettled.sound, hsettled.capacity.trans h.capacity_eq,
      hsettled.reserved.trans h.reserved, h.running⟩

end ObservationSystem

/--
After any calls on a store of some capacity whose counters are never full: the process
runs on, the entries and the live reservations fit into the capacity, the index leads to
every entry and back, every entry waits for a node, the ring holds the ids of no entry,
and every tracked transaction is active, retired or cancelled.
-/
theorem store_keeps_its_invariant
    {capacity : Nat} {store : TransactionObservationStore} {actions : List StoreAction}
    {s : ObservationSystem} (hcapacity : capacity < 2 ^ 64)
    (hcreate : TransactionObservationStore.create capacity = .ok store)
    (hrun : observationMachine.run { store } actions = some s)
    (hcounts : observationMachine.Meets
      (fun s a => s.countsOn a = true) { store } actions) :
    s.terminated = false ∧
    s.store.capacity = capacity ∧
    s.store.entries.length + s.store.reserved ≤ capacity ∧
    s.store.reserved = (s.reservations.map liveSize).sum ∧
    (∀ r, r ∈ s.reservations → (s.store.releaseReservation r).isSome = true) ∧
    ((s.store.entries.map Prod.fst).Nodup ∧ (txids s.store.entries).Nodup ∧
      ∀ txid id, s.store.entriesByTxid.lookup txid = some id ↔
        ∃ entry, (id, entry) ∈ s.store.entries ∧ entry.transaction.txid = txid) ∧
    (∀ e, e ∈ s.store.entries → e.2.confirmedNodeIds ⊆ e.2.visibleNodeIds ∧
      e.2.visibleNodeIds ⊆ e.2.requiredNodeIds ∧
      e.2.confirmedNodeIds ≠ e.2.requiredNodeIds) ∧
    (s.store.recentRetired.Nodup ∧
      (∀ txid, txid ∈ s.store.recentRetired ↔ txid ∈ s.store.recentRetiredIndex) ∧
      s.store.recentRetired.length ≤ capacity ∧
      ∀ e, e ∈ s.store.entries → e.2.transaction.txid ∉ s.store.recentRetired) ∧
    s.store.tracked = s.store.entries.length + s.store.retired + s.store.cancelled := by
  have hempty : ObservationSystem.Sound capacity { store } := by
    refine ⟨TransactionObservationStore.create_sound hcapacity hcreate, ?_, ?_, rfl⟩
    · exact (create_fields hcreate).1
    · exact (create_fields hcreate).2
  have h : s.Sound capacity :=
    observationMachine.meets_preserves
      (fun _ _ _ hstep hon h => ObservationSystem.step_sound hstep hon h)
      hcounts hrun hempty
  have hcoherent := h.store.coherent
  have hcap := h.capacity_eq
  refine ⟨h.running, hcap, hcap ▸ h.store.room, h.reserved, ?_,
    ⟨hcoherent.ids, hcoherent.distinct, hcoherent.lookup_iff⟩, ?_,
    ⟨hcoherent.retiredNodup, ?_, hcap ▸ hcoherent.retiredLength,
      hcoherent.retiredInactive⟩, h.store.count⟩
  · intro r hr
    obtain ⟨slot, hslot⟩ := List.mem_iff_getElem?.mp hr
    have hsize := ObservationSystem.liveSize_le hslot
    rw [← h.reserved] at hsize
    obtain ⟨store', hrelease, -⟩ := ObservationSystem.releaseReservation_ok h.store hsize
    rw [hrelease]
    rfl
  · intro e he
    obtain ⟨hconfirmed, hvisible, hunfinished⟩ := h.store.pending e he
    exact ⟨hconfirmed, hvisible, hunfinished⟩
  · intro txid
    rw [hcoherent.retiredIndex]
    exact List.mem_toFinset.symm

/-- Two transactions are tracked, and one of them is confirmed by its only node. -/
def trackAndConfirm : List StoreAction :=
  [.tryReserve 2, .moveConstruct 0, .release 0,
    .commit 1 [{ txid := "a", workloadId := "w" }, { txid := "b", workloadId := "w" }] ["n"],
    .track { txid := "a" } ["n"], .record "a" "n" true true, .cancelWorkload "w"]

theorem tracked_and_confirmed_is_sound :
    ∃ s, observationMachine.run { store := { capacity := 2 } } trackAndConfirm = some s ∧
      s.terminated = false ∧
      s.store.tracked = s.store.entries.length + s.store.retired + s.store.cancelled := by
  obtain ⟨s, hrun, -⟩ := observationMachine.run_of_any { store := { capacity := 2 } }
    trackAndConfirm (fun _ => true) (by decide +kernel)
  have h := @store_keeps_its_invariant 2 _ _ _ (by decide) rfl hrun (by decide +kernel)
  exact ⟨s, hrun, h.1, h.2.2.2.2.2.2.2.2⟩

end Keeps

end Bbp.Simulator
