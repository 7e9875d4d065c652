import Bbp.Mcp.OperationBook

/-!
# The service keeps its book

Every critical section of the operation service is a sequence of book steps, as long as the
state sequence is not exhausted.  Besides the book, the proof needs to know where the workers
are: a worker that executes belongs to an operation that goes on, a worker that has left to one
that has ended, and a shutdown joins every worker whose operation goes on.

The 64-bit state sequence is the one limit.  At its largest value the number cannot be given
any more, and a completion that has already changed the snapshot throws before the counts are
corrected.
-/

namespace Bbp.Mcp

open Library List

variable {config : ServiceConfig} {s t u : Service} {x : Section} {id : String}
  {r : OperationRecord} {f : McpOperationSnapshot → McpOperationSnapshot} {e : ServiceError}

section Refinement

def OperationRecord.entry (r : OperationRecord) : BookEntry :=
  { snapshot := r.snapshot
    admission := r.admissionSequence
    worker := r.worker
    place := r.place }

/-- What the book keeps of the service. -/
def Service.book (s : Service) : Book :=
  { entries := s.operations.map (·.entry)
    sessions := s.sessions.map fun r => (r.id, r.activeOperations)
    nextSequence := s.nextStateSequence
    nextAdmission := s.nextAdmissionSequence
    active := s.activeOperations }

/-- What the accounts need to know of a worker. -/
def BookEntry.roster (e : BookEntry) : String × Bool × Bool × WorkerPlace :=
  (e.id, e.isOpen, e.worker, e.place)

/-- The book reads these fields only. -/
theorem book_eq (hoperations : t.operations.map (·.entry) = s.operations.map (·.entry))
    (hsessions : t.sessions.map (fun r => (r.id, r.activeOperations)) =
      s.sessions.map (fun r => (r.id, r.activeOperations)))
    (hsequence : t.nextStateSequence = s.nextStateSequence)
    (hadmission : t.nextAdmissionSequence = s.nextAdmissionSequence)
    (hactive : t.activeOperations = s.activeOperations) : t.book = s.book := by
  unfold Service.book
  rw [hoperations, hsessions, hsequence, hadmission, hactive]

@[simp] theorem settle_book (x : Section) : x.settle.book = x.1.book := by
  rw [Section.settle_eq]
  rfl

theorem Queues.book (h : Queues s x) : x.1.book = s.book := by
  obtain ⟨operations, pending, heq, hsame⟩ := h.same
  rw [heq]
  have hentries := congrArg (map (·.entry)) hsame
  rw [map_map, map_map] at hentries
  exact book_eq hentries rfl rfl rfl rfl

/-- A change of a snapshot together with its number. -/
theorem incrementSequence_book (id : String) (hid : ∀ x, (f x).operationId = x.operationId)
    (hroom : s.nextStateSequence ≠ maximumWord) :
    (incrementSequence id (s.updateSnapshot id f)).1.book = s.book.renumber id f ∧
      (incrementSequence id (s.updateSnapshot id f)).2 = none := by
  have hroom' : (s.updateSnapshot id f).nextStateSequence ≠ maximumWord := hroom
  unfold incrementSequence
  rw [if_neg hroom']
  refine ⟨?_, rfl⟩
  have hentries : (((s.updateSnapshot id f).updateSnapshot id fun x =>
          { x with sequence := s.nextStateSequence }).operations).map (·.entry) =
        updateKey BookEntry.id id (BookEntry.renumbered s.nextStateSequence f)
          (s.operations.map (·.entry)) := by
    unfold updateKey
    change map _ (map _ (map _ s.operations)) = _
    rw [map_map, map_map, map_map]
    refine map_congr_left fun r _ => ?_
    simp only [Function.comp_apply]
    by_cases hr : r.id = id
    · have hr' : OperationRecord.id { r with snapshot := f r.snapshot } = id :=
        (hid r.snapshot).trans hr
      rw [if_pos hr, if_pos hr', if_pos (show r.entry.id = id from hr)]
      rfl
    · rw [if_neg hr, if_neg hr, if_neg (show ¬ r.entry.id = id from hr)]
  unfold Service.book Book.renumber
  change Book.mk _ _ _ _ _ = Book.mk _ _ _ _ _
  rw [← hentries]
  rfl

theorem incrementSequence_exhausted (hfull : s.nextStateSequence = maximumWord)
    (f : McpOperationSnapshot → McpOperationSnapshot) :
    incrementSequence id (s.updateSnapshot id f) =
      (s.updateSnapshot id f, some .sequenceOverflow) := by
  unfold incrementSequence
  exact if_pos hfull

/-- A change of an operation is one step of the book, with the notification behind it. -/
theorem changeOperation_book (config : ServiceConfig) (id : String)
    (hid : ∀ x, (f x).operationId = x.operationId) (hroom : s.nextStateSequence ≠ maximumWord) :
    (changeOperation config id f s).1.book = s.book.renumber id f := by
  obtain ⟨hbook, hnone⟩ := incrementSequence_book id hid hroom
  refine Section.andThen_keeps (I := fun t => t.book = s.book.renumber id f) hbook fun _ => ?_
  rw [(queueOperationNotification_queues config id _).book]
  exact hbook

theorem changeOperation_exhausted (f : McpOperationSnapshot → McpOperationSnapshot)
    (hfull : s.nextStateSequence = maximumWord) :
    changeOperation config id f s = (s.updateSnapshot id f, some .sequenceOverflow) := by
  unfold changeOperation
  rw [incrementSequence_exhausted hfull]
  rfl

theorem andThen_sequence {f : Service → Section} (hx : s.nextStateSequence ≤ x.1.nextStateSequence)
    (hf : ∀ t : Service, t.nextStateSequence ≤ (f t).1.nextStateSequence) :
    s.nextStateSequence ≤ (x.andThen f).1.nextStateSequence :=
  Section.andThen_keeps (I := fun t => s.nextStateSequence ≤ t.nextStateSequence) hx
    fun _ => hx.trans (hf x.1)

theorem incrementSequence_sequence (id : String) (s : Service) :
    s.nextStateSequence ≤ (incrementSequence id s).1.nextStateSequence := by
  unfold incrementSequence
  split
  · exact Nat.le_refl _
  · exact Nat.le_succ _

theorem queueOperationNotification_sequence (config : ServiceConfig) (id : String) (s : Service) :
    s.nextStateSequence ≤ (queueOperationNotification config id s).1.nextStateSequence :=
  (congrArg (·.nextSequence) (queueOperationNotification_queues config id s).book).ge

theorem changeOperation_sequence (config : ServiceConfig) (id : String)
    (f : McpOperationSnapshot → McpOperationSnapshot) (s : Service) :
    s.nextStateSequence ≤ (changeOperation config id f s).1.nextStateSequence :=
  andThen_sequence (incrementSequence_sequence id (s.updateSnapshot id f))
    (queueOperationNotification_sequence config id)

theorem entry_isOpen (h : r.isTerminal = false) : r.entry.isOpen = true := by
  change (!r.isTerminal) = true
  rw [h]
  rfl

/-- A record that is found by its identifier is in the book. -/
theorem operation?_entry (h : s.operation? id = some r) :
    r.entry ∈ s.book.entries ∧ r.entry.id = id ∧ r.id = id := by
  obtain ⟨hmem, hid⟩ := find?_key_eq_some (q := OperationRecord.id) h
  exact ⟨mem_map_of_mem hmem, hid, hid⟩

theorem session?_entry {r : SessionRecord} (h : s.session? id = some r) :
    r ∈ s.sessions ∧ r.id = id ∧ (r.id, r.activeOperations) ∈ s.book.sessions := by
  obtain ⟨hmem, hid⟩ := find?_key_eq_some (q := SessionRecord.id) h
  exact ⟨hmem, hid, mem_map_of_mem (f := fun r => (r.id, r.activeOperations)) hmem⟩

theorem session?_isSome_of_mem (h : id ∈ s.book.sessions.map Prod.fst) :
    ∃ r, s.session? id = some r := by
  rw [Service.book, map_map, mem_map] at h
  obtain ⟨r, hr, hid⟩ := h
  cases hfind : s.session? id with
  | some found => exact ⟨found, rfl⟩
  | none =>
    have hnone := find?_eq_none.mp hfind r hr
    exact absurd (decide_eq_true hid) hnone

theorem incrementSequence_sessions (id : String) (s : Service) :
    (incrementSequence id s).1.sessions = s.sessions ∧
      (incrementSequence id s).1.activeOperations = s.activeOperations := by
  unfold incrementSequence
  split <;> exact ⟨rfl, rfl⟩

theorem releaseOperation_book (id : String) {r : SessionRecord} (hfound : s.session? id = some r)
    (hsession : 0 < r.activeOperations) (hactive : 0 < s.activeOperations) :
    (releaseOperation id s).1.book = s.book.release id ∧ (releaseOperation id s).2 = none := by
  unfold releaseOperation
  rw [hfound]
  dsimp only
  rw [if_neg (by omega)]
  refine ⟨?_, rfl⟩
  have hsessions : (s.sessions.map fun r =>
          if r.id = id then { r with activeOperations := r.activeOperations - 1 } else r).map
        (fun r => (r.id, r.activeOperations)) =
      updateKey Prod.fst id (fun x => (x.1, x.2 - 1))
        (s.sessions.map fun r => (r.id, r.activeOperations)) :=
    map_updateKey (q := SessionRecord.id) (p := Prod.fst) (fun _ => rfl) (fun _ _ _ => rfl)
  unfold Service.book Book.release
  rw [← hsessions]

theorem completeOperation_book (config : ServiceConfig)
    (hsound : s.book.Sound config.maximumRetainedOperations)
    (hroom : s.nextStateSequence ≠ maximumWord) (hfound : s.operation? id = some r)
    (hopen : r.isTerminal = false) (ending : OperationEnd) :
    (completeOperation config id ending s).1.book = s.book.finish id r.sessionId ending ∧
      ∀ e, (completeOperation config id ending s).2 = some e → e = .notificationBound := by
  obtain ⟨hentry, hid, _⟩ := operation?_entry hfound
  have hisOpen := entry_isOpen hopen
  obtain ⟨session, hsession⟩ := session?_isSome_of_mem (hsound.owned _ hentry hisOpen)
  obtain ⟨_, hsessionId, hpair⟩ := session?_entry hsession
  have hsessionPos := hsound.session_pos hentry hisOpen hpair hsessionId
  have hactivePos := hsound.active_pos hentry hisOpen
  obtain ⟨hbook, hnone⟩ := incrementSequence_book id (f := (·.ended ending))
    (fun x => McpOperationSnapshot.ended_operationId x ending) hroom
  obtain ⟨hsessions, hactive⟩ := incrementSequence_sessions id
    (s.updateSnapshot id (·.ended ending))
  obtain ⟨hreleased, hreleasedNone⟩ := releaseOperation_book r.sessionId
    (s := (incrementSequence id (s.updateSnapshot id (·.ended ending))).1)
    (r := session)
    (by
      rw [Service.session?, hsessions]
      exact hsession)
    hsessionPos (hactive ▸ hactivePos)
  rw [hbook] at hreleased
  unfold completeOperation
  rw [hfound]
  dsimp only
  rw [if_neg (by rw [hopen]; exact Bool.false_ne_true)]
  have hrelease : (incrementSequence id (s.updateSnapshot id (·.ended ending))).andThen
      (releaseOperation r.sessionId) = releaseOperation r.sessionId
          (incrementSequence id (s.updateSnapshot id (·.ended ending))).1 := by
    unfold Section.andThen
    rw [hnone]
  rw [hrelease]
  constructor
  · refine Section.andThen_keeps
      (I := fun t => t.book = s.book.finish id r.sessionId ending) hreleased fun _ => ?_
    rw [(queueOperationNotification_queues config id _).book]
    exact hreleased
  · intro e he
    rcases Section.andThen_error he with hfirst | ⟨_, hsecond⟩
    · rw [hreleasedNone] at hfirst
      cases hfirst
    · exact (queueOperationNotification_queues config id _).error e hsecond

end Refinement

section Steadiness

/-- A section that ends no operation and moves no worker. -/
structure Steady (config : ServiceConfig) (s t : Service) : Prop where
  sequence : s.nextStateSequence ≤ t.nextStateSequence
  steps : t.nextStateSequence < maximumWord → s.book.Sound config.maximumRetainedOperations →
    Relation.ReflTransGen (BookStep config.maximumRetainedOperations) s.book t.book ∧
      t.book.entries.map (·.roster) = s.book.entries.map (·.roster)

theorem Steady.of_book (h : t.book = s.book) : Steady config s t where
  sequence := (congrArg (·.nextSequence) h).ge
  steps := by
    intro _ _
    rw [h]
    exact ⟨.refl, rfl⟩

theorem Steady.trans (h : Steady config s t) (h' : Steady config t u) : Steady config s u where
  sequence := h.sequence.trans h'.sequence
  steps := by
    intro hroom hsound
    obtain ⟨hfirst, hroster⟩ := h.steps (Nat.lt_of_le_of_lt h'.sequence hroom) hsound
    obtain ⟨hsecond, hroster'⟩ := h'.steps hroom (hsound.steps hfirst).1
    exact ⟨hfirst.trans hsecond, hroster'.trans hroster⟩

theorem andThen_steady {f : Service → Section} (hx : Steady config s x.1)
    (hf : x.2 = none → Steady config x.1 (f x.1).1) : Steady config s (x.andThen f).1 :=
  Section.andThen_keeps hx fun hnone => hx.trans (hf hnone)

theorem changeOperation_steady (config : ServiceConfig) (hfound : s.operation? id = some r)
    (hopen : r.isTerminal = false) (hid : ∀ x, (f x).operationId = x.operationId)
    (hmove : s.book.Sound config.maximumRetainedOperations →
      SnapshotMove r.snapshot (f r.snapshot)) :
    Steady config s (changeOperation config id f s).1 := by
  obtain ⟨hentry, hentryId, _⟩ := operation?_entry hfound
  have hisOpen := entry_isOpen hopen
  by_cases hfull : s.nextStateSequence = maximumWord
  · rw [changeOperation_exhausted f hfull]
    refine ⟨Nat.le_refl _, fun hroom => ?_⟩
    change s.nextStateSequence < maximumWord at hroom
    omega
  have hbook := changeOperation_book config id hid hfull
  refine ⟨changeOperation_sequence config id f s, fun _ hsound => ?_⟩
  rw [hbook]
  constructor
  · rw [← hentryId]
    exact .single (.renumber hentry hisOpen (hmove hsound))
  · refine map_updateKey_of_eq fun x hx hkey => ?_
    rw [hsound.eq_of_id hx hentry (hkey.trans hentryId.symm)]
    change (_, (!(f r.snapshot).state.isTerminal), _, _) = (_, r.entry.isOpen, _, _)
    rw [hisOpen, (hmove hsound).goesOn]
    exact Prod.ext (hid r.snapshot) rfl

theorem McpOperationSnapshot.cancelling_move {x : McpOperationSnapshot}
    (hopen : x.state.isTerminal = false) (hprogress : x.progress.completed ≤ x.progress.total) :
    SnapshotMove x x.cancelling where
  operationId := rfl
  sessionId := rfl
  state := by
    change x.state.mayBecome .cancelling = true
    cases hstate : x.state <;> rw [hstate] at hopen <;> first | rfl | cases hopen
  goesOn := rfl
  cancelling := ⟨fun _ => rfl, fun _ => rfl⟩
  total := rfl
  completed := Nat.le_refl _
  withinTotal := hprogress

theorem requestCancellation_steady (config : ServiceConfig) (id : String) (s : Service) :
    Steady config s (requestCancellation config id s).1 := by
  unfold requestCancellation
  split
  · exact .of_book rfl
  rename_i r hfound
  split
  · exact .of_book rfl
  next hguard =>
    rw [Bool.or_eq_true, not_or, Bool.not_eq_true] at hguard
    exact changeOperation_steady config hfound hguard.1 (fun _ => rfl) fun hsound =>
      McpOperationSnapshot.cancelling_move hguard.1 (hsound.progress _ (operation?_entry hfound).1)

theorem requestCancellations_steady (config : ServiceConfig) (ids : List String) (s : Service) :
    Steady config s (requestCancellations config ids s).1 := by
  induction ids generalizing s with
  | nil => exact .of_book rfl
  | cons id ids ih => exact andThen_steady (requestCancellation_steady config id s) fun _ => ih _

theorem reportProgress_steady
    (config : ServiceConfig) (id : String) (completed : Nat) (s : Service) :
    Steady config s (reportProgress config id completed s).1 := by
  unfold reportProgress
  split
  · exact .of_book rfl
  rename_i r hfound
  split
  · exact .of_book rfl
  rename_i hopen
  split
  · exact .of_book rfl
  rename_i hregress
  split
  · exact .of_book rfl
  rename_i hexceeds
  split
  · exact .of_book rfl
  rw [Bool.not_eq_true] at hopen
  refine changeOperation_steady config hfound hopen (fun _ => rfl) fun hsound => ?_
  have hcancelling := hsound.cancelling _ (operation?_entry hfound).1 (entry_isOpen hopen)
  exact
    { operationId := rfl
      sessionId := rfl
      state := McpOperationState.mayBecome_refl _
      goesOn := hopen
      cancelling := hcancelling
      total := rfl
      completed := Nat.le_of_not_lt hregress
      withinTotal := Nat.le_of_not_lt hexceeds }

theorem startOperation_change_steady (config : ServiceConfig) (hfound : s.operation? id = some r)
    (hopen : r.isTerminal = false) (hrequested : r.snapshot.cancelRequested = false) :
    Steady config s
      (changeOperation config id (fun x => { x with state := .running }) s).1 := by
  refine changeOperation_steady config hfound hopen (fun _ => rfl) fun hsound => ?_
  have hcancelling := hsound.cancelling _ (operation?_entry hfound).1 (entry_isOpen hopen)
  have hnot : r.snapshot.state ≠ .cancelling := fun hstate => by
    have htrue := hcancelling.mpr hstate
    rw [show r.entry.snapshot.cancelRequested = false from hrequested] at htrue
    cases htrue
  exact
    { operationId := rfl
      sessionId := rfl
      state := by
        change r.snapshot.state.mayBecome .running = true
        change r.snapshot.state.isTerminal = false at hopen
        cases hstate : r.snapshot.state <;> rw [hstate] at hopen hnot <;>
          first | rfl | exact absurd rfl hnot | cases hopen
      goesOn := rfl
      cancelling := by
        change r.snapshot.cancelRequested = true ↔ _
        rw [hrequested]
        exact ⟨nofun, nofun⟩
      total := rfl
      completed := Nat.le_refl _
      withinTotal := hsound.progress _ (operation?_entry hfound).1 }

end Steadiness

section Errors

/-- The errors that the accounts rule out are two. -/
def ServiceError.benign (e : ServiceError) : Prop := e ≠ .activeUnderflow ∧ e ≠ .terminalImmutable

/-- A change fails for want of a number or of room in the queue. -/
theorem changeOperation_benign (h : (changeOperation config id f s).2 = some e) : e.benign := by
  rcases Section.andThen_error h with hfirst | ⟨_, hsecond⟩
  · unfold incrementSequence at hfirst
    split at hfirst <;> cases hfirst
    exact ⟨nofun, nofun⟩
  · rw [(queueOperationNotification_queues config id _).error e hsecond]
    exact ⟨nofun, nofun⟩

theorem requestCancellations_benign {ids : List String}
    (h : (requestCancellations config ids s).2 = some e) : e.benign := by
  induction ids generalizing s with
  | nil => cases h
  | cons id ids ih =>
    rcases Section.andThen_error h with hfirst | ⟨_, hsecond⟩
    · unfold requestCancellation at hfirst
      split at hfirst
      · cases hfirst
      · split at hfirst
        · cases hfirst
        · exact changeOperation_benign hfirst
    · exact ih hsecond

theorem reportProgress_benign {completed : Nat}
    (h : (reportProgress config id completed s).2 = some e) : e.benign := by
  unfold reportProgress at h
  iterate 3
    split at h
    · cases h
      exact ⟨nofun, nofun⟩
  split at h
  · cases h
    exact ⟨nofun, nofun⟩
  · split at h
    · cases h
    · exact changeOperation_benign h

end Errors

section Workers

/-- The operations that go on and whose workers a shutdown still waits for. -/
def ShutdownPhase.covers : ShutdownPhase → String → Bool → Prop
  | .running, _, worker => worker = true
  | .stopping _ none, _, _ => True
  | .stopping owner (some joining), id, _ => id ∈ joining ∨ some id = owner
  | .complete, _, _ => False

/-- What the places of the workers say about their operations. -/
structure Staffed (s : Service) : Prop where
  working : ∀ e, e ∈ s.book.entries → e.place = .starting ∨ e.place = .executing → e.isOpen = true
  left : ∀ e, e ∈ s.book.entries → e.place = .leaving ∨ e.place = .exited → e.isOpen = false
  covered : ∀ e, e ∈ s.book.entries → e.isOpen = true → s.phase.covers e.id e.worker
  accepting : s.accepting = true → s.phase = .running

/-- Everything that is kept while numbers are left. -/
structure Kept (config : ServiceConfig) (s : Service) : Prop where
  sound : s.book.Sound config.maximumRetainedOperations
  staffed : Staffed s
  calm : ∀ e, e ∈ s.thrown → e.benign

/-- A step after which everything is kept, unless the numbers are exhausted. -/
structure Advances (config : ServiceConfig) (s t : Service) : Prop where
  sequence : s.nextStateSequence ≤ t.nextStateSequence
  keeps : t.nextStateSequence < maximumWord → Kept config s → Kept config t ∧
      Relation.ReflTransGen (BookStep config.maximumRetainedOperations) s.book t.book

theorem Advances.trans (h : Advances config s t) (h' : Advances config t u) :
    Advances config s u where
  sequence := h.sequence.trans h'.sequence
  keeps := by
    intro hroom hkept
    obtain ⟨hmiddle, hfirst⟩ := h.keeps (Nat.lt_of_le_of_lt h'.sequence hroom) hkept
    obtain ⟨hlast, hsecond⟩ := h'.keeps hroom hmiddle
    exact ⟨hlast, hfirst.trans hsecond⟩

/-- The operations go on or have ended, and the workers are, where they were. -/
theorem Staffed.of_back (h : Staffed s)
    (hback : ∀ y ∈ t.book.entries, ∃ x ∈ s.book.entries,
      x.isOpen = y.isOpen ∧ x.place = y.place)
    (hcovered : ∀ y ∈ t.book.entries, y.isOpen = true → t.phase.covers y.id y.worker)
    (haccepting : t.accepting = true → t.phase = .running) : Staffed t := by
  refine ⟨?_, ?_, hcovered, haccepting⟩
  all_goals
    intro y hy hplace
    obtain ⟨x, hx, hopen, hsame⟩ := hback y hy
    rw [← hopen]
  · exact h.working x hx (hsame ▸ hplace)
  · exact h.left x hx (hsame ▸ hplace)

/-- Workers whose rosters, and the phase of the service, are as before. -/
theorem Staffed.of_roster (h : Staffed s)
    (hroster : t.book.entries.map (·.roster) = s.book.entries.map (·.roster))
    (hphase : t.phase = s.phase) (haccepting : t.accepting = s.accepting) : Staffed t := by
  have hback : ∀ y ∈ t.book.entries, ∃ x ∈ s.book.entries, x.id = y.id ∧
      x.isOpen = y.isOpen ∧ x.worker = y.worker ∧ x.place = y.place := by
    intro y hy
    have hmem : y.roster ∈ s.book.entries.map (·.roster) := hroster ▸ mem_map_of_mem hy
    obtain ⟨x, hx, heq⟩ := mem_map.mp hmem
    injection heq with hid hrest
    injection hrest with hopen hrest
    injection hrest with hworker hplace
    exact ⟨x, hx, hid, hopen, hworker, hplace⟩
  refine h.of_back (fun y hy => ?_) ?_ ?_
  · obtain ⟨x, hx, _, hopen, _, hplace⟩ := hback y hy
    exact ⟨x, hx, hopen, hplace⟩
  · intro y hy hyopen
    obtain ⟨x, hx, hid, hopen, hworker, _⟩ := hback y hy
    rw [hphase, ← hid, ← hworker]
    exact h.covered x hx (hopen ▸ hyopen)
  · rw [haccepting, hphase]
    exact h.accepting

theorem Advances.of_steady (h : Steady config s t) (hphase : t.phase = s.phase)
    (haccepting : t.accepting = s.accepting) (hthrown : t.thrown = s.thrown) :
    Advances config s t where
  sequence := h.sequence
  keeps := by
    intro hroom hkept
    obtain ⟨hsteps, hroster⟩ := h.steps hroom hkept.sound
    refine ⟨⟨(hkept.sound.steps hsteps).1, ?_, ?_⟩, hsteps⟩
    · exact hkept.staffed.of_roster hroster hphase haccepting
    · rw [hthrown]
      exact hkept.calm

/-- A step that the book does not see. -/
theorem Advances.of_book (hbook : t.book = s.book) (hphase : t.phase = s.phase)
    (haccepting : t.accepting = s.accepting) (hthrown : t.thrown = s.thrown) :
    Advances config s t :=
  .of_steady (.of_book hbook) hphase haccepting hthrown

/-- An exception that goes to the caller is noted. -/
theorem Advances.settle (h : Advances config s x.1) (hbenign : ∀ e, x.2 = some e → e.benign) :
    Advances config s x.settle := by
  unfold Section.settle
  split
  · exact h
  rename_i e he
  refine ⟨h.sequence, fun hroom hkept => ?_⟩
  obtain ⟨hkept', hsteps⟩ := h.keeps hroom hkept
  refine ⟨⟨hkept'.sound, ?_, ?_⟩, hsteps⟩
  · exact ⟨hkept'.staffed.working, hkept'.staffed.left, hkept'.staffed.covered,
      hkept'.staffed.accepting⟩
  · intro other hother
    rcases mem_append.mp hother with hold | hnew
    · exact hkept'.calm other hold
    · rw [mem_singleton.mp hnew]
      exact hbenign e he

/-- A step of the book, with the workers treated apart. -/
theorem Advances.of_step (hsequence : s.nextStateSequence ≤ t.nextStateSequence)
    (hstep : t.nextStateSequence < maximumWord → Kept config s →
      Relation.ReflTransGen (BookStep config.maximumRetainedOperations) s.book t.book ∧ Staffed t)
    (hthrown : ∀ e ∈ t.thrown, e ∈ s.thrown ∨ e.benign) : Advances config s t where
  sequence := hsequence
  keeps := by
    intro hroom hkept
    obtain ⟨hsteps, hstaffed⟩ := hstep hroom hkept
    refine ⟨⟨(hkept.sound.steps hsteps).1, hstaffed, ?_⟩, hsteps⟩
    intro e he
    rcases hthrown e he with hold | hnew
    · exact hkept.calm e hold
    · exact hnew

/-- A second step that may use what was kept before the first. -/
theorem Advances.andThen (h : Advances config s t)
    (hsequence : t.nextStateSequence ≤ u.nextStateSequence)
    (h' : Kept config s → Advances config t u) : Advances config s u where
  sequence := h.sequence.trans hsequence
  keeps := by
    intro hroom hkept
    exact (h.trans (h' hkept)).keeps hroom hkept

end Workers

section Sections

theorem setPlace_book (s : Service) (id : String) (place : WorkerPlace) :
    (s.setPlace id place).book =
      { s.book with
        entries := s.book.entries.map fun e =>
          if e.id = id then { e with place := place } else e } := by
  unfold Service.book
  change Book.mk _ _ _ _ _ = Book.mk _ _ _ _ _
  congr 1
  exact map_updateKey (q := OperationRecord.id) (p := BookEntry.id)
    (e := fun e => { e with place := place }) (fun _ => rfl) (fun _ _ _ => rfl)

theorem setPlace_step {maximum : Nat} (s : Service) (id : String) (place : WorkerPlace) :
    BookStep maximum s.book (s.setPlace id place).book := by
  rw [setPlace_book]
  refine .staff fun e => ?_
  split <;> exact ⟨rfl, rfl⟩

/-- A worker goes to a place that agrees with its operation. -/
theorem Staffed.setPlace (h : Staffed s) {place : WorkerPlace}
    (hworking : place = .starting ∨ place = .executing →
      ∀ e ∈ s.book.entries, e.id = id → e.isOpen = true)
    (hleft : place = .leaving ∨ place = .exited →
      ∀ e ∈ s.book.entries, e.id = id → e.isOpen = false) :
    Staffed (s.setPlace id place) := by
  have hback : ∀ y ∈ (s.setPlace id place).book.entries,
      y ∈ s.book.entries ∨ ∃ x ∈ s.book.entries, x.id = id ∧ y = { x with place := place } := by
    intro y hy
    rw [setPlace_book] at hy
    rcases mem_updateKey (q := BookEntry.id) hy with ⟨hy, _⟩ | ⟨x, hx, hkey, heq⟩
    · exact .inl hy
    · exact .inr ⟨x, hx, hkey, heq⟩
  refine ⟨?_, ?_, ?_, h.accepting⟩
  · intro y hy hplace
    rcases hback y hy with hy | ⟨x, hx, hkey, rfl⟩
    · exact h.working y hy hplace
    · exact hworking hplace x hx hkey
  · intro y hy hplace
    rcases hback y hy with hy | ⟨x, hx, hkey, rfl⟩
    · exact h.left y hy hplace
    · exact hleft hplace x hx hkey
  · intro y hy hopen
    rcases hback y hy with hy | ⟨x, hx, hkey, rfl⟩
    · exact h.covered y hy hopen
    · exact h.covered x hx hopen

theorem setPlace_advances (place : WorkerPlace)
    (hworking : place = .starting ∨ place = .executing → Kept config s →
      ∀ e ∈ s.book.entries, e.id = id → e.isOpen = true)
    (hleft : place = .leaving ∨ place = .exited → Kept config s →
      ∀ e ∈ s.book.entries, e.id = id → e.isOpen = false) :
    Advances config s (s.setPlace id place) := by
  refine .of_step (Nat.le_refl _) (fun _ hkept => ?_) (fun e he => .inl he)
  exact ⟨.single (setPlace_step s id place),
    hkept.staffed.setPlace (fun hplace => hworking hplace hkept) (fun hplace => hleft hplace hkept)⟩

/-- The only entry with the identifier of a record that is found. -/
theorem entry_of_operation? {maximum : Nat} (hsound : s.book.Sound maximum)
    (hfound : s.operation? id = some r) {e : BookEntry} (he : e ∈ s.book.entries)
    (hid : e.id = id) : e = r.entry :=
  hsound.eq_of_id he (operation?_entry hfound).1 (hid.trans (operation?_entry hfound).2.1.symm)

theorem releaseOperation_sequence (sessionId : String) (s : Service) :
    s.nextStateSequence ≤ (releaseOperation sessionId s).1.nextStateSequence := by
  unfold releaseOperation
  split
  · exact Nat.le_refl _
  · split <;> exact Nat.le_refl _

theorem completeOperation_sequence
    (config : ServiceConfig) (id : String) (ending : OperationEnd) (s : Service) :
    s.nextStateSequence ≤ (completeOperation config id ending s).1.nextStateSequence := by
  unfold completeOperation
  split
  · exact Nat.le_refl _
  split
  · exact Nat.le_refl _
  exact andThen_sequence
    (andThen_sequence (incrementSequence_sequence id (s.updateSnapshot id (·.ended ending)))
      (releaseOperation_sequence _))
    (queueOperationNotification_sequence config id)

/-- What a section has thrown when it is settled. -/
theorem mem_settle_thrown (h : SameFrame s x.1) (he : e ∈ x.settle.thrown) :
    e ∈ s.thrown ∨ x.2 = some e := by
  unfold Section.settle at he
  split at he
  · exact .inl (h.thrown ▸ he)
  next e' he' =>
    rcases mem_append.mp he with hold | hnew
    · exact .inl (h.thrown ▸ hold)
    · rw [mem_singleton.mp hnew]
      exact .inr he'

theorem completeOperation_advances (hfound : s.operation? id = some r)
    (hopen : Kept config s → r.isTerminal = false) (ending : OperationEnd) {place : WorkerPlace}
    (hplace : place = .leaving ∨ place = .escaping) :
    Advances config s ((completeOperation config id ending s).settle.setPlace id place) := by
  have hshell := settle_shell (completeOperation_shell config id ending s)
  have hsequence := completeOperation_sequence config id ending s
  have hnext : ((completeOperation config id ending s).settle.setPlace id place).nextStateSequence
      = (completeOperation config id ending s).1.nextStateSequence :=
    congrArg (·.nextSequence) (settle_book (completeOperation config id ending s))
  refine ⟨hnext.symm ▸ hsequence, ?_⟩
  intro hroom hkept
  rw [hnext] at hroom
  obtain ⟨hbook, herror⟩ := completeOperation_book config hkept.sound
    (Nat.ne_of_lt (Nat.lt_of_le_of_lt hsequence hroom)) hfound (hopen hkept) ending
  obtain ⟨hentry, hentryId, _⟩ := operation?_entry hfound
  have hisOpen := entry_isOpen (hopen hkept)
  have hfinish : BookStep config.maximumRetainedOperations s.book
      (completeOperation config id ending s).settle.book := by
    rw [settle_book, hbook, ← hentryId]
    exact .finish ending hentry hisOpen
  have hback : ∀ y ∈ (completeOperation config id ending s).settle.book.entries,
      (y ∈ s.book.entries ∧ y.id ≠ id) ∨ (y.id = id ∧ y.isOpen = false) := by
    intro y hy
    rw [settle_book, hbook] at hy
    rcases mem_updateKey hy with ⟨hy, hne⟩ | ⟨x, hx, hkey, rfl⟩
    · exact .inl ⟨hy, hne⟩
    · refine .inr ⟨?_, ?_⟩
      · exact (McpOperationSnapshot.ended_operationId x.snapshot ending).trans hkey
      · change (!(x.snapshot.ended ending).state.isTerminal) = false
        rw [McpOperationSnapshot.ended_isTerminal]
        rfl
  have hstaffed : Staffed ((completeOperation config id ending s).settle.setPlace id place) := by
    have hplaced : ∀ y, y ∈ ((completeOperation config id ending s).settle.setPlace id
        place).book.entries → y ∈ s.book.entries ∨ (y.isOpen = false ∧ y.place = place) := by
      intro y hy
      rw [setPlace_book] at hy
      rcases mem_updateKey (q := BookEntry.id) hy with ⟨hy, hne⟩ | ⟨x, hx, hkey, rfl⟩
      · rcases hback y hy with hold | hended
        · exact .inl hold.1
        · exact absurd hended.1 hne
      · rcases hback x hx with hold | hended
        · exact absurd hkey hold.2
        · exact .inr ⟨hended.2, rfl⟩
    refine ⟨?_, ?_, ?_, ?_⟩
    · intro y hy hyplace
      rcases hplaced y hy with hy | ⟨_, hnew⟩
      · exact hkept.staffed.working y hy hyplace
      · rw [hnew] at hyplace
        rcases hplace with rfl | rfl <;> rcases hyplace with h | h <;> cases h
    · intro y hy hyplace
      rcases hplaced y hy with hy | ⟨hended, _⟩
      · exact hkept.staffed.left y hy hyplace
      · exact hended
    · intro y hy hyopen
      rcases hplaced y hy with hy | ⟨hended, _⟩
      · have hcovered := hkept.staffed.covered y hy hyopen
        rw [← hshell.phase] at hcovered
        exact hcovered
      · rw [hended] at hyopen
        cases hyopen
    · intro haccepting
      exact hshell.phase.trans (hkept.staffed.accepting (hshell.accepting ▸ haccepting))
  refine ⟨⟨?_, hstaffed, ?_⟩, (Relation.ReflTransGen.single hfinish).tail
    (setPlace_step _ id place)⟩
  · exact (setPlace_step _ id place).sound (hfinish.sound hkept.sound)
  · intro e he
    rcases mem_settle_thrown (completeOperation_shell config id ending s) he with hold | hnew
    · exact hkept.calm e hold
    · rw [herror e hnew]
      exact ⟨nofun, nofun⟩

theorem Section.settleAt_eq (x : Section) (id : String) (place : WorkerPlace) :
    ∃ later, (later = place ∨ later = .escaping) ∧
      x.settleAt id place = x.settle.setPlace id later := by
  unfold Section.settleAt
  cases hx : x.2 with
  | none =>
    refine ⟨place, .inl rfl, ?_⟩
    unfold Section.settle
    rw [hx]
  | some e => exact ⟨.escaping, .inr rfl, rfl⟩

theorem workerAt_eq_some {places : List WorkerPlace} (h : s.workerAt id places = some r) :
    s.operation? id = some r ∧ r.place ∈ places ∧ r.id = id := by
  obtain ⟨hfound, hplace⟩ := Option.filter_eq_some_iff.mp h
  exact ⟨hfound, contains_iff_mem.mp hplace, (operation?_entry hfound).2.2⟩

/-- A worker that is at work belongs to an operation that goes on. -/
theorem Kept.open_of_working (h : Kept config s) (hfound : s.operation? id = some r)
    (hplace : r.place = .starting ∨ r.place = .executing) : r.isTerminal = false := by
  have hopen := h.staffed.working r.entry (operation?_entry hfound).1 hplace
  exact (Bool.not_eq_true' _).mp hopen

theorem startOperation_advances (h : s.workerAt id [.starting] = some r) :
    Advances config s (startOperation config r s) := by
  obtain ⟨hfound, hplace, hid⟩ := workerAt_eq_some h
  have hstarting : r.place = .starting := mem_singleton.mp hplace
  unfold startOperation
  rw [hid]
  split
  · obtain ⟨later, hlater, heq⟩ := Section.settleAt_eq
      (completeOperation config id (.cancelled cancelledBeforeStart) s) id .leaving
    rw [heq]
    exact completeOperation_advances hfound
      (fun hkept => hkept.open_of_working hfound (.inl hstarting)) _ hlater
  next hrequested =>
    rw [Bool.not_eq_true] at hrequested
    obtain ⟨later, hlater, heq⟩ := Section.settleAt_eq
      (changeOperation config id (fun x => { x with state := .running }) s) id .executing
    rw [heq]
    have hshell := settle_shell
      (changeOperation_shell config id (fun x => { x with state := .running }) s)
    have hnotPlace : ¬ (later = .leaving ∨ later = .exited) := by
      rcases hlater with rfl | rfl <;> rintro (hp | hp) <;> cases hp
    have hnext : ((changeOperation config id (fun x => { x with state := .running })
        s).settle.setPlace id later).nextStateSequence =
          (changeOperation config id (fun x => { x with state := .running })
            s).1.nextStateSequence :=
      congrArg (·.nextSequence) (settle_book _)
    by_cases hopen : r.isTerminal = false
    · have hsteady := startOperation_change_steady config hfound hopen hrequested
      refine .of_step (hnext.symm ▸ hsteady.sequence) ?_ ?_
      · intro hroom hkept
        rw [hnext] at hroom
        obtain ⟨hsteps, hroster⟩ := hsteady.steps hroom hkept.sound
        rw [← settle_book] at hsteps hroster
        refine ⟨hsteps.tail (setPlace_step _ id later), ?_⟩
        have hmiddle := hkept.staffed.of_roster hroster hshell.phase hshell.accepting
        refine hmiddle.setPlace (fun _ e he heid => ?_) (fun hp => absurd hp hnotPlace)
        have hmem : e.roster ∈ s.book.entries.map (·.roster) := hroster ▸ mem_map_of_mem he
        obtain ⟨x, hx, heq⟩ := mem_map.mp hmem
        injection heq with hxid hrest
        injection hrest with hxopen _
        rw [← hxopen, entry_of_operation? hkept.sound hfound hx (hxid.trans heid)]
        exact (Bool.not_eq_true' _).mpr hopen
      · intro e he
        exact (mem_settle_thrown (changeOperation_shell config id _ s) he).imp_right
          changeOperation_benign
    · refine ⟨?_, fun _ hkept => absurd (hkept.open_of_working hfound (.inl hstarting)) hopen⟩
      rw [hnext]
      exact changeOperation_sequence config id _ s

theorem finishOperation_advances (h : s.workerAt id [.executing] = some r) (ending : OperationEnd) :
    Advances config s (finishOperation config r ending s) := by
  obtain ⟨hfound, hplace, hid⟩ := workerAt_eq_some h
  unfold finishOperation
  rw [hid]
  obtain ⟨later, hlater, heq⟩ := Section.settleAt_eq
    (completeOperation config id ending s) id .leaving
  rw [heq]
  exact completeOperation_advances hfound
    (fun hkept => hkept.open_of_working hfound (.inr (mem_singleton.mp hplace))) _ hlater

theorem failUnexpectedOperation_advances (h : s.workerAt id [.escaping] = some r) :
    Advances config s (failUnexpectedOperation config r s) := by
  obtain ⟨hfound, hplace, hid⟩ := workerAt_eq_some h
  unfold failUnexpectedOperation
  rw [hid]
  dsimp only
  cases hterminal : r.isTerminal with
  | true =>
    rw [if_pos rfl]
    refine setPlace_advances _ (by rintro (hp | hp) <;> cases hp) ?_
    intro _ hkept e he heid
    rw [entry_of_operation? hkept.sound hfound he heid]
    change (!r.isTerminal) = false
    rw [hterminal]
    rfl
  | false =>
    rw [if_neg Bool.false_ne_true]
    exact completeOperation_advances hfound (fun _ => hterminal) _ (.inl rfl)

end Sections

end Bbp.Mcp
