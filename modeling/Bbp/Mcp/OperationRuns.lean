import Bbp.Mcp.OperationLifecycle

/-!
# Runs of the operation service

The remaining critical sections keep the book as well: sessions come and go, operations are
submitted and evicted, and a shutdown ends everything.  Together with the sections of the
workers this gives the life of operations over whole runs, up to the last state sequence.
-/

namespace Bbp.Mcp

open Library Service OperationRecord List

section SessionSections

variable {config : ServiceConfig} {s t : Service} {id : String}

/-- Sections that throw before they change anything. -/
theorem Advances.refused (s : Service) (e : ServiceError) (hbenign : e.benign) :
    Advances config s (Section.settle (s, some e)) :=
  Advances.settle (x := (s, some e)) (.of_book rfl rfl rfl rfl) fun e' he' => by
    cases he'
    exact hbenign

/-- Entries and phase are as before; only the sessions of the book have changed. -/
theorem Staffed.of_entries (h : Staffed s) (hentries : t.book.entries = s.book.entries)
    (hphase : t.phase = s.phase) (haccepting : t.accepting = s.accepting) : Staffed t :=
  h.of_roster (by rw [hentries]) hphase haccepting

section Handles

variable {p : BookEntry → Prop} [DecidablePred p]

variable (p) in
/-- The entry without the handle of its worker, where `p` holds. -/
def BookEntry.unhandled (e : BookEntry) : BookEntry :=
  if p e then { e with worker := false } else e

theorem BookEntry.unhandled_eq (e : BookEntry) :
    (e.unhandled p).snapshot = e.snapshot ∧ (e.unhandled p).admission = e.admission ∧
      (e.unhandled p).place = e.place := by
  unfold unhandled
  split <;> exact ⟨rfl, rfl, rfl⟩

theorem entries_unhandled (records : List OperationRecord) :
    (records.map fun r => if p r.entry then { r with worker := false } else r).map entry =
      (records.map entry).map (·.unhandled p) := by
  rw [map_map, map_map]
  refine map_congr_left fun r _ => ?_
  simp only [Function.comp_apply, BookEntry.unhandled]
  split <;> rfl

theorem BookStep.unhandled {maximum : Nat} {book : Book} :
    BookStep maximum book { book with entries := book.entries.map (·.unhandled p) } :=
  .staff fun e => ⟨e.unhandled_eq.1, e.unhandled_eq.2.1⟩

/-- Handles are given up, and what goes on is still covered. -/
theorem Staffed.of_handles (h : Staffed s)
    (hentries : t.book.entries = s.book.entries.map (·.unhandled p))
    (hcovered : ∀ e ∈ s.book.entries, e.isOpen = true →
      t.phase.covers e.id (e.unhandled p).worker)
    (haccepting : t.accepting = true → t.phase = .running) : Staffed t := by
  have hopen : ∀ e : BookEntry, (e.unhandled p).isOpen = e.isOpen := fun e =>
    congrArg (fun x : McpOperationSnapshot => !x.state.isTerminal) e.unhandled_eq.1
  have hid : ∀ e : BookEntry, (e.unhandled p).id = e.id := fun e =>
    congrArg (·.operationId) e.unhandled_eq.1
  refine h.of_back (fun y hy => ?_) (fun y hy hyopen => ?_) haccepting
  all_goals
    rw [hentries] at hy
    obtain ⟨x, hx, rfl⟩ := mem_map.mp hy
  · exact ⟨x, hx, (hopen x).symm, x.unhandled_eq.2.2.symm⟩
  · rw [hopen] at hyopen
    rw [hid]
    exact hcovered x hx hyopen

/-- No handle of an operation that goes on is given up. -/
theorem Staffed.of_endedHandles (h : Staffed s)
    (hentries : t.book.entries = s.book.entries.map (·.unhandled p))
    (hended : ∀ e ∈ s.book.entries, e.isOpen = true → ¬ p e)
    (hphase : t.phase = s.phase) (haccepting : t.accepting = s.accepting) : Staffed t := by
  refine h.of_handles hentries (fun e he hopen => ?_) ?_
  · rw [BookEntry.unhandled, if_neg (hended e he hopen), hphase]
    exact h.covered e he hopen
  · rw [hphase, haccepting]
    exact h.accepting

end Handles

theorem registerSession_advances (config : ServiceConfig) (id : String) (s : Service) :
    Advances config s (registerSession config id s).settle := by
  unfold registerSession
  iterate 2
    split
    · exact .refused s _ ⟨nofun, nofun⟩
  rename_i hnew
  split
  · exact .refused s _ ⟨nofun, nofun⟩
  have hfresh : id ∉ s.book.sessions.map Prod.fst := by
    intro hmem
    obtain ⟨r, hr⟩ := session?_isSome_of_mem hmem
    exact hnew (by rw [hr]; rfl)
  have hbook : ({ s with
        sessions := s.sessions ++ [⟨id, 0, false, s.nextRecord⟩]
        nextRecord := s.nextRecord + 1 } : Service).book =
      { s.book with sessions := s.book.sessions ++ [(id, 0)] } := by
    unfold book
    rw [map_append]
    rfl
  refine .of_step (Nat.le_refl _) (fun _ hkept => ⟨?_, ?_⟩) (fun _ he => .inl he)
  · rw [settle_book, hbook]
    exact .single (.register hfresh)
  · exact hkept.staffed.of_entries rfl rfl rfl

theorem beginRemoval_advances (config : ServiceConfig) (id : String) (s : Service) :
    Advances config s (beginRemoval config id s).settle := by
  unfold beginRemoval
  split
  · exact .refused s _ ⟨nofun, nofun⟩
  rename_i r hr
  have hclosing : ({ s with
      sessions := s.sessions.map fun r =>
        if r.id = id then { r with closing := true } else r } : Service).book = s.book :=
    book_eq rfl (map_updateKey_of_eq (q := SessionRecord.id) fun _ _ _ => rfl) rfl rfl rfl
  have hsteady := Steady.trans (.of_book hclosing) (requestCancellations_steady config
      ((s.operations.filter (·.sessionId = id)).map (·.id)) _)
  have hshell := requestCancellations_shell config
    ((s.operations.filter (·.sessionId = id)).map (·.id))
    { s with
      sessions := s.sessions.map fun r => if r.id = id then { r with closing := true } else r }
  have hadvances := Advances.of_steady hsteady hshell.phase hshell.accepting hshell.thrown
  refine Advances.settle ?_ ?_
  · exact Section.andThen_keeps (I := Advances config s) hadvances fun _ =>
      hadvances.trans (.of_book rfl rfl rfl rfl)
  · intro e he
    rcases Section.andThen_error he with hfirst | ⟨_, hsecond⟩
    · exact requestCancellations_benign hfirst
    · cases hsecond

/-- No operation of a drained session goes on. -/
theorem Kept.drained (h : Kept config s) (hdrained : s.sessionDrained id = true) {e : BookEntry}
    (he : e ∈ s.book.entries) (howner : e.owner = id) : e.isOpen = false := by
  cases hopen : e.isOpen with
  | false => rfl
  | true =>
    obtain ⟨r, hr⟩ := session?_isSome_of_mem (howner ▸ h.sound.owned e he hopen)
    obtain ⟨_, hid, hpair⟩ := session?_entry hr
    have hpos := h.sound.session_pos he hopen hpair (hid.trans howner.symm)
    rw [sessionDrained, hr] at hdrained
    dsimp only at hdrained
    rw [Bool.and_eq_true, beq_iff_eq] at hdrained
    change 0 < r.activeOperations at hpos
    omega

/-- The identifiers of a stored session with operations are found. -/
theorem Kept.session_idle (h : Kept config s) (hdrained : s.sessionDrained id = true)
    {x : String × Nat} (hx : x ∈ s.book.sessions) (hid : x.1 = id) : x.2 = 0 := by
  rw [h.sound.sessionActive x hx]
  refine countP_eq_zero.mpr fun e he hopenIn => ?_
  rw [BookEntry.isOpenIn, Bool.and_eq_true, beq_iff_eq, hid] at hopenIn
  rw [h.drained hdrained he hopenIn.2] at hopenIn
  cases hopenIn.1

theorem endRemoval_advances {record : Nat} (hdrained : s.sessionDrained id = true) :
    Advances config s (endRemoval id record s) := by
  have hbook : (endRemoval id record s).book =
      { s.book with
        entries := s.book.entries.map (·.unhandled (·.owner = id))
        sessions := s.book.sessions.filter fun x => decide (x.1 ≠ id) } := by
    unfold book endRemoval
    change Book.mk _ _ _ _ _ = Book.mk _ _ _ _ _
    congr 1
    · exact entries_unhandled (p := (·.owner = id)) s.operations
    · rw [filter_map]
      rfl
  refine .of_step (Nat.le_refl _) (fun _ hkept => ⟨?_, ?_⟩) (fun _ he => .inl he)
  · have hstaff : BookStep config.maximumRetainedOperations s.book
        { s.book with entries := s.book.entries.map (·.unhandled (·.owner = id)) } := .unhandled
    rw [hbook]
    exact (Relation.ReflTransGen.single hstaff).tail
      (.remove fun x hx hid => hkept.session_idle hdrained hx hid)
  · refine hkept.staffed.of_endedHandles (congrArg (·.entries) hbook) ?_ rfl rfl
    intro e he hopen howner
    rw [hkept.drained hdrained he howner] at hopen
    cases hopen

theorem beginRequest_advances (config : ServiceConfig) (id : String) (s : Service) :
    Advances config s (beginRequest id s).settle := by
  unfold beginRequest
  split
  · exact .refused s _ ⟨nofun, nofun⟩
  split
  · exact .refused s _ ⟨nofun, nofun⟩
  · split
    · exact .refused s _ ⟨nofun, nofun⟩
    · exact .of_book rfl rfl rfl rfl

end SessionSections

section Submission

variable {config : ServiceConfig} {s t : Service} {id : String}

theorem collectFinishedWorkers_advances (config : ServiceConfig) (s : Service) :
    Advances config s (collectFinishedWorkers s) := by
  have hbook : (collectFinishedWorkers s).book =
      { s.book with
        entries := s.book.entries.map (·.unhandled fun e => !e.isOpen && e.place = .exited) } := by
    unfold book collectFinishedWorkers
    change Book.mk _ _ _ _ _ = Book.mk _ _ _ _ _
    congr 1
    rw [← entries_unhandled]
    simp only [BookEntry.isOpen, Bool.not_not]
    rfl
  refine .of_step (Nat.le_refl _) (fun _ hkept => ⟨?_, ?_⟩) (fun _ he => .inl he)
  · rw [hbook]
    exact .single .unhandled
  · refine hkept.staffed.of_endedHandles (congrArg (·.entries) hbook) ?_ rfl rfl
    intro e _ hopen hended
    simp [hopen] at hended

/-- A record that may be evicted is stored and has ended. -/
theorem oldestEvictable_mem {r : OperationRecord} (h : s.oldestEvictable = some r) :
    r ∈ s.operations ∧ s.evictable r = true := by
  refine mem_filter.mp (mem_of_foldl_select (fun kept x => ?_) h)
  cases kept with
  | none => exact .inr rfl
  | some o =>
    dsimp only
    split
    · exact .inr rfl
    · exact .inl rfl

theorem evictTerminalOperation_advances (s : Service) :
    Advances config s (evictTerminalOperation config s).1 := by
  unfold evictTerminalOperation
  iterate 2
    split
    · exact .of_book rfl rfl rfl rfl
  rename_i oldest holdest
  obtain ⟨hmem, hevictable⟩ := oldestEvictable_mem holdest
  have hended : oldest.entry.isOpen = false := by
    rw [evictable, Bool.and_eq_true, Bool.and_eq_true] at hevictable
    change (!oldest.isTerminal) = false
    rw [hevictable.1.1]
    rfl
  have hbook : ({ s with
        operations := s.operations.filter (·.id ≠ oldest.id) } : Service).book =
      { s.book with
        entries := s.book.entries.filter fun x => decide (x.id ≠ oldest.entry.id) } := by
    unfold book
    change Book.mk _ _ _ _ _ = Book.mk _ _ _ _ _
    congr 1
    rw [filter_map]
    rfl
  refine .of_step (Nat.le_refl _) (fun _ hkept => ⟨?_, ?_⟩) (fun _ he => .inl he)
  · rw [hbook]
    exact .single (.evict (mem_map_of_mem hmem) hended)
  · have hsubset : ∀ y, y ∈ ({ s with
        operations := s.operations.filter (·.id ≠ oldest.id) } : Service).book.entries →
        y ∈ s.book.entries := by
      intro y hy
      rw [hbook] at hy
      exact mem_of_mem_filter hy
    exact ⟨fun y hy => hkept.staffed.working y (hsubset y hy),
      fun y hy => hkept.staffed.left y (hsubset y hy),
      fun y hy => hkept.staffed.covered y (hsubset y hy), hkept.staffed.accepting⟩

/-- After an eviction there is room for one more. -/
theorem evictTerminalOperation_room (hnone : (evictTerminalOperation config s).2 = none)
    (hretained : s.operations.length ≤ config.maximumRetainedOperations) :
    (evictTerminalOperation config s).1.operations.length <
      config.maximumRetainedOperations := by
  unfold evictTerminalOperation at hnone ⊢
  split
  next hroom =>
    change s.operations.length < _
    omega
  rename_i hfull
  rw [if_neg hfull] at hnone
  split
  next hoverfull =>
    rw [hoverfull] at hnone
    cases hnone
  next oldest holdest =>
    exact Nat.lt_of_lt_of_le
      (length_filter_key_lt (q := OperationRecord.id) (oldestEvictable_mem holdest).1)
      hretained

theorem evictTerminalOperation_sessions (config : ServiceConfig) (s : Service) :
    (evictTerminalOperation config s).1.sessions = s.sessions ∧
      (evictTerminalOperation config s).1.thrown = s.thrown := by
  unfold evictTerminalOperation
  split
  · exact ⟨rfl, rfl⟩
  · split <;> exact ⟨rfl, rfl⟩

theorem evictTerminalOperation_benign {e : ServiceError}
    (h : (evictTerminalOperation config s).2 = some e) : e.benign := by
  unfold evictTerminalOperation at h
  split at h
  · cases h
  split at h <;> cases h
  exact ⟨nofun, nofun⟩

variable {kind : McpOperationKind} {sessionId : String} {spawned : Bool} {total : Nat}

theorem admitOperation_advances (haccepting : s.accepting = true)
    (hsession : sessionId ∈ s.book.sessions.map Prod.fst) (hfresh : ∀ r ∈ s.operations, r.id ≠ id)
    (hroom : s.operations.length < config.maximumRetainedOperations) :
    Advances config s (admitOperation sessionId kind total id spawned s).1 := by
  unfold admitOperation
  split
  · exact .of_book rfl rfl rfl rfl
  dsimp only
  split
  · let e : BookEntry :=
      (submittedOperation id sessionId kind total s.nextStateSequence s.nextAdmissionSequence).entry
    have hbook : ({ s with
            nextStateSequence := s.nextStateSequence + 1
            nextAdmissionSequence := s.nextAdmissionSequence + 1
            operations := s.operations ++
              [submittedOperation id sessionId kind total s.nextStateSequence
                s.nextAdmissionSequence]
            sessions := s.sessions.map fun r =>
              if r.id = sessionId then { r with activeOperations := r.activeOperations + 1 }
              else r
            activeOperations := s.activeOperations + 1 } : Service).book =
          s.book.admitEntry e := by
      unfold book Book.admitEntry
      congr 1
      · rw [map_append]
        rfl
      · exact map_updateKey (q := SessionRecord.id) (p := Prod.fst) (fun _ => rfl)
          (fun _ _ _ => rfl)
    refine .of_step (Nat.le_succ _) (fun _ hkept => ⟨?_, ?_⟩) (fun _ he => .inl he)
    · rw [hbook]
      refine .single (.admitted ?_ hsession ?_ rfl rfl (Nat.zero_le _) rfl rfl)
      · intro x hx
        obtain ⟨r, hr, rfl⟩ := mem_map.mp hx
        exact hfresh r hr
      · rw [book, length_map]
        exact hroom
    · have hrunning := hkept.staffed.accepting haccepting
      have hback : ∀ y ∈ (s.book.admitEntry e).entries, y ∈ s.book.entries ∨ y = e := by
        intro y hy
        rcases mem_append.mp hy with hold | hnew
        · exact .inl hold
        · exact .inr (mem_singleton.mp hnew)
      refine ⟨?_, ?_, ?_, fun _ => hrunning⟩
      · intro y hy hplace
        rw [hbook] at hy
        rcases hback y hy with hold | rfl
        · exact hkept.staffed.working y hold hplace
        · rfl
      · intro y hy hplace
        rw [hbook] at hy
        rcases hback y hy with hold | rfl
        · exact hkept.staffed.left y hold hplace
        · rcases hplace with hplace | hplace <;> cases hplace
      · intro y hy hopen
        rw [hbook] at hy
        change s.phase.covers y.id y.worker
        rcases hback y hy with hold | rfl
        · exact hkept.staffed.covered y hold hopen
        · rw [hrunning]
          rfl
  · refine .of_step (Nat.le_succ _) (fun _ hkept => ⟨?_, ?_⟩) (fun _ he => .inl he)
    · exact .single (.skip 1 1)
    · exact hkept.staffed.of_entries rfl rfl rfl

theorem admitOperation_benign {e : ServiceError}
    (h : (admitOperation sessionId kind total id spawned s).2 = some e) : e.benign := by
  unfold admitOperation at h
  split at h
  · cases h
    exact ⟨nofun, nofun⟩
  dsimp only at h
  split at h <;> cases h
  exact ⟨nofun, nofun⟩

theorem admitOperation_sequence
    (sessionId : String) (kind : McpOperationKind) (total : Nat) (spawned : Bool) (s : Service) :
    s.nextStateSequence ≤
      (admitOperation sessionId kind total id spawned s).1.nextStateSequence := by
  unfold admitOperation
  split
  · exact Nat.le_refl _
  · dsimp only
    split <;> exact Nat.le_succ _

theorem submit_advances
    (hfresh : ¬ (evictTerminalOperation config (collectFinishedWorkers s)).1.operations.any
      (fun r => decide (r.id = id)) = true) :
    Advances config s (submit config sessionId kind total id spawned s).settle := by
  unfold submit
  iterate 2
    split
    · exact .refused s _ ⟨nofun, nofun⟩
  rename_i haccepting
  split
  · exact .refused s _ ⟨nofun, nofun⟩
  rename_i session hsession
  iterate 3
    split
    · exact .refused s _ ⟨nofun, nofun⟩
  have hevicted := (collectFinishedWorkers_advances config s).trans
    (evictTerminalOperation_advances (collectFinishedWorkers s))
  have hshell := evictTerminalOperation_shell config (collectFinishedWorkers s)
  have hsessions := evictTerminalOperation_sessions config (collectFinishedWorkers s)
  refine Advances.settle ?_ ?_
  · refine Section.andThen_keeps (I := Advances config s) hevicted fun hnone => ?_
    refine hevicted.andThen (admitOperation_sequence sessionId kind total spawned _) fun hkept => ?_
    refine admitOperation_advances ?_ ?_ ?_ ?_
    · rw [hshell.accepting]
      exact (Bool.not_eq_false _).mp fun hclosed => haccepting (by
        rw [show s.accepting = false from hclosed]
        rfl)
    · obtain ⟨hmem, hid, _⟩ := session?_entry hsession
      rw [book, hsessions.1, map_map]
      exact mem_map.mpr ⟨session, hmem, hid⟩
    · intro r hr hid
      exact hfresh (any_eq_true.mpr ⟨r, hr, decide_eq_true hid⟩)
    · refine evictTerminalOperation_room hnone ?_
      have hretained := hkept.sound.retained
      rw [book, length_map] at hretained
      change (map _ s.operations).length ≤ _
      rw [length_map]
      exact hretained
  · intro e he
    rcases Section.andThen_error he with hfirst | ⟨_, hsecond⟩
    · exact evictTerminalOperation_benign hfirst
    · exact admitOperation_benign hsecond

end Submission

section OtherSections

variable {config : ServiceConfig} {s t : Service} {id : String}

theorem cancelOperation_advances (config : ServiceConfig) (sessionId id : String) (s : Service) :
    Advances config s (cancelOperation config sessionId id s) := by
  unfold cancelOperation
  split
  · exact .of_book rfl rfl rfl rfl
  rename_i r hrequired
  split
  · exact .of_book rfl rfl rfl rfl
  rename_i hopen
  split
  · exact .of_book rfl rfl rfl rfl
  have hfound : s.operation? id = some r := by
    unfold requireOperation at hrequired
    iterate 2
      split at hrequired
      · cases hrequired
    next found hfound =>
      split at hrequired <;> cases hrequired
      exact hfound
  rw [Bool.not_eq_true] at hopen
  have hsteady := changeOperation_steady config hfound hopen
    (f := (·.cancelling)) (fun _ => rfl) fun hsound =>
      McpOperationSnapshot.cancelling_move hopen (hsound.progress _ (operation?_entry hfound).1)
  have hshell := changeOperation_shell config id (·.cancelling) s
  have hadvances := Advances.of_steady hsteady hshell.phase hshell.accepting
    hshell.thrown
  dsimp only
  split
  next e _ he _ =>
    exact (hadvances.settle fun e' he' => changeOperation_benign he').trans
      (.of_book rfl rfl rfl rfl)
  next => exact hadvances
  next => exact hadvances.trans (.of_book rfl rfl rfl rfl)

theorem evictSubscription_advances (config : ServiceConfig) (sessionId : String) (s : Service) :
    Advances config s (evictSubscription config sessionId s).1 := by
  unfold evictSubscription
  split
  · exact .of_book rfl rfl rfl rfl
  · split
    all_goals exact .of_book rfl rfl rfl rfl

theorem createSubscription_advances
    (config : ServiceConfig) (sessionId : String) (request : McpSubscriptionRequest)
    (id : String) (s : Service) :
    Advances config s (createSubscription config sessionId request id s) := by
  have hadd : ∀ t : Service, Advances config t (addSubscription sessionId request id t).1 := by
    intro t
    refine .of_step (Nat.le_refl _) (fun _ hkept => ⟨?_, ?_⟩) (fun _ he => .inl he)
    · exact .single (.skip 0 1)
    · exact hkept.staffed.of_entries rfl rfl rfl
  have hstored : Advances config s (admitSubscription config sessionId request id s).settle := by
    unfold admitSubscription
    iterate 5
      split
      · exact .refused s _ ⟨nofun, nofun⟩
    have hevict := evictSubscription_advances config sessionId s
    refine Advances.settle ?_ ?_
    · exact Section.andThen_keeps (I := Advances config s) hevict fun _ => hevict.trans (hadd _)
    · intro e he
      rcases Section.andThen_error he with hfirst | ⟨_, hsecond⟩
      · unfold evictSubscription at hfirst
        split at hfirst
        · cases hfirst
        split at hfirst <;> cases hfirst
        exact ⟨nofun, nofun⟩
      · cases hsecond
  unfold createSubscription
  dsimp only
  split
  · exact hstored.trans (.of_book rfl rfl rfl rfl)
  next hnone =>
    unfold Section.settle at hstored
    rw [hnone] at hstored
    exact hstored.trans (.of_book rfl rfl rfl rfl)

theorem endPoll_advances
    (sessionId id : String) (after limit : Nat) (followed : Bool) (s : Service) :
    Advances config s (endPoll sessionId id after limit followed s) := by
  unfold endPoll
  dsimp only
  split
  · exact .of_book rfl rfl rfl rfl
  · split <;> exact .of_book rfl rfl rfl rfl

theorem publish_advances (config : ServiceConfig) (record : McpEvidenceRecord) (s : Service) :
    Advances config s (publish config record s).settle := by
  unfold publish
  iterate 3
    split
    · exact .refused s _ ⟨nofun, nofun⟩
  refine Advances.settle ?_ ?_
  · have hqueues := queueRecords_queues config record (s.subscriptions.filter (·.receives record))
      { s with
        subscriptions := s.subscriptions.map fun r =>
          if r.receives record then r.give config.maximumNotificationsPerSubscription record
          else r }
    exact .of_book hqueues.book hqueues.shell.phase hqueues.shell.accepting hqueues.shell.thrown
  · intro e he
    rw [(queueRecords_queues config record _ _).error e he]
    exact ⟨nofun, nofun⟩

theorem operationHandled_advances (update : OperationUpdate) (failed : Bool) (s : Service) :
    Advances config s (operationHandled update failed s) := by
  unfold operationHandled
  dsimp only
  split
  · refine .of_step (Nat.le_refl _) (fun _ hkept => ⟨.refl, ?_⟩) ?_
    · exact hkept.staffed.of_entries rfl rfl rfl
    · intro e he
      rcases mem_append.mp he with hold | hnew
      · exact .inl hold
      · rw [mem_singleton.mp hnew]
        exact .inr ⟨nofun, nofun⟩
  · split
    · exact .of_book rfl rfl rfl rfl
    refine .of_book ?_ rfl rfl rfl
    refine book_eq (map_updateKey_of_eq (q := OperationRecord.id) fun r _ _ => ?_) rfl rfl
      rfl rfl
    split <;> rfl

theorem notificationHandled_advances {failed : Bool} (h : notificationHandled failed s = some t) :
    Advances config s t := by
  have hseen : ∀ n : ServiceNotification, Advances config s
      (if failed then s else s.observe n.sessionId (.notified n)) := by
    intro n
    split <;> exact .of_book rfl rfl rfl rfl
  unfold notificationHandled at h
  split at h
  next notification _ =>
    cases notification with
    | operationUpdated update =>
      cases h
      exact (hseen (.operationUpdated update)).trans (operationHandled_advances _ _ _)
    | subscriptionUpdated sessionId subscriptionId item =>
      cases h
      exact (hseen (.subscriptionUpdated sessionId subscriptionId item)).trans
        (.of_book rfl rfl rfl rfl)
  next => cases h

end OtherSections

section Shutdown

variable {config : ServiceConfig} {s t : Service}

/-- Cancelling everything, and then giving up the handles of the workers to join. -/
theorem beginShutdown_advances {owner : Option String} {x : Section}
    (h : beginShutdown config owner s = some x) : Advances config s x.settle := by
  unfold beginShutdown at h
  split at h <;> cases h
  next hrunning =>
    let stopping : Service := { s with accepting := false, phase := .stopping owner none }
    let ids := s.operations.map (·.id)
    let middle := (requestCancellations config ids stopping).1
    have hsteady := requestCancellations_steady config ids stopping
    have hshell := requestCancellations_shell config ids stopping
    have hnone : Advances config s middle := by
      refine .trans (t := stopping) ?_ (.of_steady hsteady hshell.phase hshell.accepting
        hshell.thrown)
      refine .of_step (Nat.le_refl _) (fun _ hkept => ⟨.refl, ?_⟩) (fun _ he => .inl he)
      exact ⟨hkept.staffed.working, hkept.staffed.left, fun _ _ _ => trivial, nofun⟩
    refine Advances.settle ?_ ?_
    · refine Section.andThen_keeps (I := Advances config s) hnone fun _ => ?_
      refine .of_step hsteady.sequence (fun hroom hkept => ?_) ?_
      · change middle.nextStateSequence < maximumWord at hroom
        obtain ⟨hsteps, hroster⟩ := hsteady.steps hroom hkept.sound
        have hbook : ({ middle with
              phase := .stopping owner (some ((middle.operations.filter fun r =>
                r.worker && some r.id ≠ owner).map (·.id)))
              operations := middle.operations.map fun r =>
                if some r.id = owner then r else { r with worker := false }
              subscriptions := middle.subscriptions.map fun r =>
                { r with active := false } } : Service).book =
            { middle.book with
              entries := middle.book.entries.map (·.unhandled (some ·.id ≠ owner)) } := by
          unfold book
          change Book.mk _ _ _ _ _ = Book.mk _ _ _ _ _
          congr 1
          rw [← entries_unhandled]
          simp only [ne_eq, ite_not]
          rfl
        have hbefore : Staffed stopping :=
          ⟨hkept.staffed.working, hkept.staffed.left, fun _ _ _ => trivial, nofun⟩
        have hstaffed : Staffed middle :=
          hbefore.of_roster hroster hshell.phase hshell.accepting
        constructor
        · refine Relation.ReflTransGen.tail hsteps ?_
          change BookStep _ middle.book (book _)
          rw [hbook]
          exact .unhandled
        · refine hstaffed.of_handles (congrArg (·.entries) hbook) ?_ ?_
          · intro e he hopen
            have hworker : e.worker = true := by
              have hmem : e.roster ∈ s.book.entries.map (·.roster) := hroster ▸ mem_map_of_mem he
              obtain ⟨x, hx, heq⟩ := mem_map.mp hmem
              injection heq with _ hrest
              injection hrest with hxopen hrest
              injection hrest with hxworker _
              have hcovered := hkept.staffed.covered x hx (hxopen.trans hopen)
              rw [hrunning] at hcovered
              exact hxworker.symm.trans hcovered
            obtain ⟨r, hr, rfl⟩ := mem_map.mp he
            by_cases howner : some r.id = owner
            · exact .inr howner
            · refine .inl (mem_map.mpr ⟨r, mem_filter.mpr ⟨hr, ?_⟩, rfl⟩)
              rw [show r.worker = true from hworker, Bool.true_and]
              exact decide_eq_true howner
          · intro haccepting
            rw [show middle.accepting = false from hshell.accepting] at haccepting
            cases haccepting
      · intro e he
        exact .inl (hshell.thrown ▸ he)
    · intro e he
      rcases Section.andThen_error he with hfirst | ⟨_, hsecond⟩
      · exact requestCancellations_benign hfirst
      · cases hsecond

theorem finishShutdown_advances (h : finishShutdown s = some t) : Advances config s t := by
  unfold finishShutdown at h
  split at h
  next owner joining hphase =>
    split at h <;> cases h
    next hstopped =>
      have hended : Kept config s → ∀ e ∈ s.book.entries, e.isOpen = false := by
        intro hkept e he
        cases hopen : e.isOpen with
        | false => rfl
        | true =>
          have hcovered := hkept.staffed.covered e he hopen
          rw [hphase] at hcovered
          obtain ⟨r, hr, rfl⟩ := mem_map.mp he
          rw [stopped, Bool.and_eq_true, all_eq_true] at hstopped
          have hexited := hstopped.1 r hr
          have hjoined : (joining.contains r.id || decide (some r.id = owner)) = true := by
            rw [Bool.or_eq_true, decide_eq_true_eq]
            rcases hcovered with hjoin | howner
            · exact .inl (contains_iff_mem.mpr hjoin)
            · exact .inr howner
          rw [hjoined, Bool.not_true, Bool.false_or, decide_eq_true_eq] at hexited
          rw [hkept.staffed.left r.entry he (.inr hexited)] at hopen
          cases hopen
      refine .of_step (Nat.le_refl _) (fun _ hkept => ⟨?_, ?_⟩) (fun _ he => .inl he)
      · exact .single (.clear (hended hkept))
      · refine ⟨hkept.staffed.working, hkept.staffed.left, ?_, ?_⟩
        · intro e he hopen
          rw [hended hkept e he] at hopen
          cases hopen
        · intro haccepting
          rw [hkept.staffed.accepting haccepting] at hphase
          cases hphase
  next => cases h

end Shutdown

section Steps

variable {config : ServiceConfig} {s t : Service}

/-- Every step of the service keeps the book, unless its numbers are exhausted. -/
theorem serviceStep_advances (a : ServiceAction) (hstep : serviceStep config s a = some t) :
    Advances config s t := by
  by_cases hquiet : a.isQuiet = true
  · obtain ⟨⟨pending, delivery, calls, observed, rfl⟩, -⟩ := serviceStep_quiet hquiet hstep
    exact .of_book rfl rfl rfl rfl
  cases a with
  | registerSession id =>
    cases hstep
    exact registerSession_advances config id s
  | beginRemoval id =>
    cases hstep
    exact beginRemoval_advances config id s
  | endRemoval id record =>
    simp only [serviceStep] at hstep
    split at hstep <;> cases hstep
    next hguard =>
      exact endRemoval_advances hguard.2
  | beginRequest id =>
    cases hstep
    exact beginRequest_advances config id s
  | submit sessionId kind total id spawned =>
    simp only [serviceStep] at hstep
    split at hstep <;> cases hstep
    next hfresh =>
      exact submit_advances hfresh
  | startOperation id =>
    obtain ⟨r, hr, rfl⟩ := Option.map_eq_some_iff.mp hstep
    exact startOperation_advances hr
  | reportProgress id completed =>
    cases hstep
    have hshell := reportProgress_shell config id completed s
    exact Advances.settle (.of_steady (reportProgress_steady config id completed s)
      hshell.phase hshell.accepting hshell.thrown) fun e he => reportProgress_benign he
  | finishOperation id ending =>
    obtain ⟨r, hr, rfl⟩ := Option.map_eq_some_iff.mp hstep
    exact finishOperation_advances hr ending
  | escape id =>
    obtain ⟨r, hr, rfl⟩ := Option.map_eq_some_iff.mp hstep
    exact setPlace_advances _ (by rintro (hp | hp) <;> cases hp) (by rintro (hp | hp) <;> cases hp)
  | failUnexpected id =>
    obtain ⟨r, hr, rfl⟩ := Option.map_eq_some_iff.mp hstep
    exact failUnexpectedOperation_advances hr
  | exitWorker id =>
    obtain ⟨r, hr, rfl⟩ := Option.map_eq_some_iff.mp hstep
    obtain ⟨hfound, hplace, _⟩ := workerAt_eq_some hr
    refine setPlace_advances _ (by rintro (hp | hp) <;> cases hp) ?_
    intro _ hkept e he heid
    rw [entry_of_operation? hkept.sound hfound he heid]
    exact hkept.staffed.left r.entry (operation?_entry hfound).1 (.inl (mem_singleton.mp hplace))
  | cancelOperation sessionId id =>
    cases hstep
    exact cancelOperation_advances config sessionId id s
  | createSubscription sessionId request id =>
    simp only [serviceStep] at hstep
    split at hstep <;> cases hstep
    exact createSubscription_advances config sessionId request id s
  | endPoll sessionId id after limit followed =>
    simp only [serviceStep] at hstep
    split at hstep <;> cases hstep
    exact endPoll_advances sessionId id after limit followed s
  | cancelSubscription sessionId id =>
    cases hstep
    unfold cancelSubscription
    split <;> exact .of_book rfl rfl rfl rfl
  | closeRunSubscriptions runId =>
    cases hstep
    exact .of_book rfl rfl rfl rfl
  | publish record =>
    cases hstep
    exact publish_advances config record s
  | notificationHandled failed => exact notificationHandled_advances hstep
  | beginShutdown owner =>
    obtain ⟨x, hx, rfl⟩ := Option.map_eq_some_iff.mp hstep
    exact beginShutdown_advances hx
  | finishShutdown => exact finishShutdown_advances hstep
  | _ => exact absurd rfl hquiet

end Steps

section Runs

variable {config : ServiceConfig} {s t : Service}

theorem run_advances {actions : List ServiceAction}
    (hrun : (serviceMachine config).run s actions = some t) : Advances config s t :=
  (serviceMachine config).run_preserves (I := fun t => Advances config s t)
    (fun _ a _ hstep h => h.trans (serviceStep_advances a hstep))
    hrun (.of_book rfl rfl rfl rfl)

theorem Service.empty_kept (config : ServiceConfig) : Kept config .empty where
  sound :=
    { ids := .nil
      admissions := .nil
      admitted := fun _ he => absurd he not_mem_nil
      sequences := .nil
      numbered := fun _ he => absurd he not_mem_nil
      progress := fun _ he => absurd he not_mem_nil
      cancelling := fun _ he => absurd he not_mem_nil
      sessionIds := .nil
      sessionActive := fun _ hx => absurd hx not_mem_nil
      owned := fun _ he => absurd he not_mem_nil
      active := rfl
      retained := Nat.zero_le _ }
  staffed :=
    { working := fun _ he => absurd he not_mem_nil
      left := fun _ he => absurd he not_mem_nil
      covered := fun _ he => absurd he not_mem_nil
      accepting := fun _ => rfl }
  calm := fun _ he => absurd he not_mem_nil

/-- The accounts of the service: numbers, progress, counts and bounds. -/
structure OperationsKept (config : ServiceConfig) (s : Service) : Prop where
  ids : s.operations.Pairwise fun x y => x.id ≠ y.id
  distinct : s.operations.Pairwise fun x y => x.snapshot.sequence ≠ y.snapshot.sequence
  withinTotal : ∀ r, r ∈ s.operations → r.snapshot.progress.completed ≤ r.snapshot.progress.total
  sessionActive : ∀ x, x ∈ s.sessions →
    x.activeOperations = s.operations.countP fun r => !r.isTerminal && r.sessionId == x.id
  active : s.activeOperations = s.operations.countP fun r => !r.isTerminal
  retained : s.operations.length ≤ config.maximumRetainedOperations
  underflow : ServiceError.activeUnderflow ∉ s.thrown
  immutable : ServiceError.terminalImmutable ∉ s.thrown

/-- What may have become of an operation. -/
structure OperationMoves (x y : OperationRecord) : Prop where
  id : y.id = x.id
  sessionId : y.sessionId = x.sessionId
  state : x.snapshot.state.mayBecome y.snapshot.state = true
  ended : x.isTerminal = true → y.snapshot = x.snapshot
  completed : x.snapshot.progress.completed ≤ y.snapshot.progress.completed
  total : y.snapshot.progress.total = x.snapshot.progress.total
  sequence : y.snapshot = x.snapshot ∨ x.snapshot.sequence < y.snapshot.sequence

/-- An operation is known by its admission, and a snapshot by its sequence. -/
structure OperationsEvolve (s t : Service) : Prop where
  moves : ∀ x, x ∈ s.operations → ∀ y, y ∈ t.operations →
    y.admissionSequence = x.admissionSequence → OperationMoves x y
  distinct : ∀ x, x ∈ s.operations → ∀ y, y ∈ t.operations →
    y.snapshot.sequence = x.snapshot.sequence →
    y.admissionSequence = x.admissionSequence ∧ y.snapshot = x.snapshot

theorem Kept.operationsKept (h : Kept config s) : OperationsKept config s where
  ids := (pairwise_map (f := entry)).mp h.sound.ids
  distinct := (pairwise_map (f := entry)).mp h.sound.sequences
  withinTotal := fun r hr => h.sound.progress r.entry (mem_map_of_mem hr)
  sessionActive := by
    intro x hx
    have hactive := h.sound.sessionActive (x.id, x.activeOperations)
      (mem_map_of_mem (f := fun r => (r.id, r.activeOperations)) hx)
    rw [book, countP_map] at hactive
    exact hactive
  active := by
    have hactive := h.sound.active
    rw [book, countP_map] at hactive
    exact hactive
  retained := by
    have hretained := h.sound.retained
    rw [book, length_map] at hretained
    exact hretained
  underflow := fun hmem => (h.calm _ hmem).1 rfl
  immutable := fun hmem => (h.calm _ hmem).2 rfl

/-- The records of two sound states whose books follow one another. -/
theorem Book.Evolves.operationsEvolve {maximum : Nat} (hsound : s.book.Sound maximum)
    (h : s.book.Evolves t.book) : OperationsEvolve s t := by
  have horigin : ∀ y ∈ t.operations, (s.nextAdmissionSequence ≤ y.admissionSequence ∧
        s.nextStateSequence ≤ y.snapshot.sequence) ∨
      ∃ x ∈ s.operations, EntryMove s.nextStateSequence x.entry y.entry := by
    intro y hy
    rcases h.entries y.entry (mem_map_of_mem hy) with hnew | ⟨e, he, hmove⟩
    · exact .inl hnew
    · obtain ⟨x, hx, rfl⟩ := mem_map.mp he
      exact .inr ⟨x, hx, hmove⟩
  have hlow : ∀ x ∈ s.operations, x.snapshot.sequence < s.nextStateSequence :=
    fun x hx => hsound.numbered x.entry (mem_map_of_mem hx)
  constructor
  · intro x hx y hy hsame
    have hxlow : x.admissionSequence < s.nextAdmissionSequence :=
      hsound.admitted x.entry (mem_map_of_mem hx)
    rcases horigin y hy with hnew | ⟨z, hz, hmove⟩
    · omega
    · have hzx : z.entry = x.entry := by
        refine eq_of_key_eq (q := BookEntry.admission) hsound.admissions
          (mem_map_of_mem hz) (mem_map_of_mem hx) ?_
        exact hmove.admission.symm.trans hsame
      rw [hzx] at hmove
      exact
        { id := hmove.id
          sessionId := hmove.owner
          state := hmove.state
          ended := fun hended => hmove.ended (by
            change (!x.isTerminal) = false
            rw [hended]
            rfl)
          completed := hmove.completed
          total := hmove.total
          sequence := by
            rcases hmove.sequence with hsnapshot | hnew
            · exact .inl hsnapshot
            · exact .inr (Nat.lt_of_lt_of_le (hlow x hx) hnew) }
  · intro x hx y hy hsame
    have hxlow := hlow x hx
    rcases horigin y hy with hnew | ⟨z, hz, hmove⟩
    · omega
    · rcases hmove.sequence with hsnapshot | hnew
      · have hzx : z.entry = x.entry := by
          refine eq_of_key_eq (q := fun e => e.snapshot.sequence) hsound.sequences
            (mem_map_of_mem hz) (mem_map_of_mem hx) ?_
          exact (congrArg (·.sequence) hsnapshot).symm.trans hsame
        rw [hzx] at hmove hsnapshot
        exact ⟨hmove.admission, hsnapshot⟩
      · change s.nextStateSequence ≤ y.snapshot.sequence at hnew
        omega

/--
Over every run, as long as the last state sequence has not been given, the accounts are right
and every operation moves through its life in one direction.
-/
theorem operations_keep_lifecycle
    (config : ServiceConfig) (before after : List ServiceAction) (s t : Service)
    (hbefore : (serviceMachine config).run .empty before = some s)
    (hafter : (serviceMachine config).run s after = some t)
    (hroom : t.nextStateSequence < maximumWord) :
    OperationsKept config s ∧ OperationsKept config t ∧ OperationsEvolve s t := by
  have hfirst := run_advances hbefore
  have hsecond := run_advances hafter
  obtain ⟨hs, _⟩ := hfirst.keeps (Nat.lt_of_le_of_lt hsecond.sequence hroom)
    (Service.empty_kept config)
  obtain ⟨ht, hsteps⟩ := hsecond.keeps hroom hs
  exact ⟨hs.operationsKept, ht.operationsKept, (hs.sound.steps hsteps).2.operationsEvolve hs.sound⟩

/-- While numbers are left, the service refines its book and a shutdown ends all. -/
theorem service_refines_book (config : ServiceConfig) (actions : List ServiceAction)
    (t : Service) (hrun : (serviceMachine config).run .empty actions = some t)
    (hroom : t.nextStateSequence < maximumWord) :
    Relation.ReflTransGen (BookStep config.maximumRetainedOperations) empty.book t.book ∧
      (t.phase = .complete → ∀ r, r ∈ t.operations → r.isTerminal = true) := by
  obtain ⟨hkept, hsteps⟩ := (run_advances hrun).keeps hroom (empty_kept config)
  refine ⟨hsteps, fun hphase r hr => ?_⟩
  by_contra hopen
  have hcovered := hkept.staffed.covered r.entry (mem_map_of_mem hr)
    (congrArg not (Bool.eq_false_of_not_eq_true hopen))
  rw [hphase] at hcovered
  exact hcovered

end Runs

section Exhaustion

/-- A service for one session with one operation, and nobody to notify. -/
def silentConfig : ServiceConfig :=
  { maximumSessions := 1
    maximumTasksPerSession := 1
    maximumSubscriptionsPerSession := 1
    maximumNotificationsPerSubscription := 1
    maximumRetainedOperations := 1
    maximumPollItems := 1
    notificationHandler := false
    json := .compact
    sessionsPositive := Nat.one_pos
    subscriptionsPositive := Nat.one_pos
    notificationsPositive := Nat.one_pos
    operationsPositive := Nat.one_pos
    pollsPositive := Nat.one_pos }

def someKind : McpOperationKind := ⟨"run.start", .runLifecycle⟩

def startRunning : List ServiceAction :=
  [.registerSession "s", .submit "s" someKind maximumWord "o" true, .startOperation "o"]

def stopRunning : List ServiceAction :=
  startRunning ++ [.beginShutdown none, .finishOperation "o" (.failed workerFailed),
    .exitWorker "o", .finishShutdown]

theorem stopped_service_refines_book :
    ∃ t, (serviceMachine silentConfig).run .empty stopRunning = some t ∧
      ∀ r, r ∈ t.operations → r.isTerminal = true :=
  ⟨_, rfl, (service_refines_book silentConfig stopRunning _ rfl (by decide)).2 rfl⟩

/-- The service after `completed` reports of progress. -/
def reported (completed : Nat) : Service :=
  { empty with
    sessions := [⟨"s", 1, false, 0⟩]
    operations :=
      [{ snapshot :=
          { operationId := "o"
            sessionId := "s"
            kind := someKind
            state := .running
            progress := ⟨completed, maximumWord⟩
            cancelRequested := false
            terminalResultFamily := .runLifecycle
            result := none
            error := none
            sequence := completed + 2 }
         admissionSequence := 1
         lastDeliveredSequence := completed + 2
         worker := true
         place := .executing }]
    nextStateSequence := completed + 3
    nextAdmissionSequence := 2
    activeOperations := 1
    nextRecord := 1 }

/-- An operation that reports once, is cancelled and ends. -/
theorem cancelled_operation_keeps_lifecycle :
    ∃ s t, (serviceMachine silentConfig).run .empty startRunning = some s ∧
      (serviceMachine silentConfig).run s
        [.reportProgress "o" 3, .cancelOperation "s" "o",
          .finishOperation "o" (.cancelled cancelledBeforeStart)] = some t ∧
      t.operations.map (·.snapshot.state) = [.cancelled] ∧
      OperationsKept silentConfig s ∧ OperationsKept silentConfig t ∧ OperationsEvolve s t := by
  obtain ⟨t, hrun, ht⟩ := (serviceMachine silentConfig).run_of_any .empty
    (startRunning ++ [.reportProgress "o" 3, .cancelOperation "s" "o",
      .finishOperation "o" (.cancelled cancelledBeforeStart)])
    (fun t : Service => decide (t.nextStateSequence < maximumWord) &&
      decide (t.operations.map (·.snapshot.state) = [.cancelled])) (by decide +kernel)
  rw [Bool.and_eq_true, decide_eq_true_eq, decide_eq_true_eq] at ht
  obtain ⟨s, hbefore, hafter⟩ := (serviceMachine silentConfig).run_append_iff.mp hrun
  exact ⟨s, t, hbefore, hafter, ht.2,
    operations_keep_lifecycle silentConfig startRunning _ s t hbefore hafter ht.1⟩

theorem startRunning_run :
    (serviceMachine silentConfig).run .empty startRunning = some (reported 0) := by
  rfl

theorem reportProgress_reported {completed : Nat} (hroom : completed + 3 < maximumWord) :
    (serviceMachine silentConfig).step (reported completed)
      (.reportProgress "o" (completed + 1)) = some (reported (completed + 1)) := by
  have hexceeds : ¬ completed + 1 > maximumWord := by omega
  have hfull : ¬ completed + 3 = maximumWord := by omega
  simp [serviceMachine, serviceStep, reportProgress, reported, operation?,
    OperationRecord.id, OperationRecord.isTerminal, McpOperationState.isTerminal, hexceeds,
    changeOperation, incrementSequence, updateSnapshot, updateOperation, hfull,
    Section.andThen, queueOperationNotification, silentConfig, Section.settle]

theorem reports_run {count : Nat} (hroom : count + 2 < maximumWord) :
    (serviceMachine silentConfig).run (reported 0)
      ((range count).map fun i => .reportProgress "o" (i + 1)) = some (reported count) := by
  induction count with
  | zero => rfl
  | succ count ih =>
    rw [range_succ, map_append, Machine.run_append_iff]
    refine ⟨reported count, ih (by omega), ?_⟩
    rw [map_singleton, Machine.run_cons_iff]
    exact ⟨_, reportProgress_reported (by omega), rfl⟩

/-- With the last number given, the end of the operation throws and the counts stay. -/
theorem exhausted_end_leaves_counts :
    ∃ (actions : List ServiceAction) (s : Service),
      (serviceMachine silentConfig).run .empty actions = some s ∧
        s.operations.countP (fun r => !r.isTerminal) = 0 ∧ s.activeOperations = 1 ∧
        ¬ OperationsKept silentConfig s := by
  let actions : List ServiceAction :=
    startRunning ++ ((List.range (maximumWord - 3)).map (fun i => .reportProgress "o" (i + 1)) ++
        [.finishOperation "o" (.failed workerFailed)])
  have hend : ∃ s, (serviceMachine silentConfig).step (reported (maximumWord - 3))
      (.finishOperation "o" (.failed workerFailed)) = some s ∧
        s.operations.countP (fun r => !r.isTerminal) = 0 ∧ s.activeOperations = 1 := by
    have hfull : maximumWord - 3 + 3 = maximumWord := by decide
    refine ⟨_, rfl, ?_, ?_⟩
    all_goals
      simp [finishOperation, completeOperation, reported, Service.operation?,
        OperationRecord.id, OperationRecord.isTerminal, McpOperationState.isTerminal,
        incrementSequence, Service.updateSnapshot, Service.updateOperation, hfull,
        Section.andThen, Section.settleAt, Section.settle, Service.setPlace,
        McpOperationSnapshot.ended]
  obtain ⟨s, hstep, hcount, hactive⟩ := hend
  refine ⟨actions, s, ?_, hcount, hactive, fun hkept => ?_⟩
  · rw [Machine.run_append_iff]
    refine ⟨reported 0, startRunning_run, ?_⟩
    rw [Machine.run_append_iff]
    refine ⟨_, reports_run (by decide), ?_⟩
    rw [Machine.run_cons_iff]
    exact ⟨s, hstep, rfl⟩
  · have hright := hkept.active
    rw [hcount, hactive] at hright
    cases hright

end Exhaustion

end Bbp.Mcp
