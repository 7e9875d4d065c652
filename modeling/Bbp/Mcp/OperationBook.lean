import Bbp.Mcp.ServiceSections

/-!
# The book of operations

What the operation service promises about operations does not depend on notifications,
subscriptions or calls.  The book keeps only what it depends on: the operations with their
snapshots and workers, the sessions with their counts, and the counters.  `BookStep` is the
short list of things that can happen to a book.

A book whose numbers are not exhausted stays sound along its steps, and an operation moves
through its life in one direction.  The service refines the book: each of its critical
sections is a sequence of book steps, unless it runs out of state sequences.
-/

namespace Bbp.Mcp

open Library McpOperationSnapshot McpOperationState List

section Books

structure BookEntry where
  snapshot : McpOperationSnapshot
  admission : Nat
  worker : Bool
  place : WorkerPlace

def BookEntry.id (e : BookEntry) : String := e.snapshot.operationId

def BookEntry.owner (e : BookEntry) : String := e.snapshot.sessionId

/-- The operation has not ended. -/
def BookEntry.isOpen (e : BookEntry) : Bool := !e.snapshot.state.isTerminal

def BookEntry.isOpenIn (sessionId : String) (e : BookEntry) : Bool :=
  e.isOpen && e.owner == sessionId

structure Book where
  entries : List BookEntry
  sessions : List (String × Nat)
  nextSequence : Nat
  nextAdmission : Nat
  active : Nat

/-- The entry with a changed snapshot that has a new number. -/
def BookEntry.renumbered (sequence : Nat) (f : McpOperationSnapshot → McpOperationSnapshot)
    (e : BookEntry) : BookEntry :=
  { e with snapshot := { f e.snapshot with sequence := sequence } }

/-- Change the snapshot of an operation and give it the next number. -/
def Book.renumber (b : Book) (id : String)
    (f : McpOperationSnapshot → McpOperationSnapshot) : Book :=
  { b with
    entries := updateKey BookEntry.id id (BookEntry.renumbered b.nextSequence f) b.entries
    nextSequence := b.nextSequence + 1 }

/-- One operation of the session less. -/
def Book.release (b : Book) (sessionId : String) : Book :=
  { b with
    sessions := updateKey Prod.fst sessionId (fun x => (x.1, x.2 - 1)) b.sessions
    active := b.active - 1 }

def Book.finish (b : Book) (id owner : String) (ending : OperationEnd) : Book :=
  (b.renumber id (·.ended ending)).release owner

def Book.admitEntry (b : Book) (e : BookEntry) : Book :=
  { entries := b.entries ++ [e]
    sessions := updateKey Prod.fst e.owner (fun x => (x.1, x.2 + 1)) b.sessions
    nextSequence := b.nextSequence + 1
    nextAdmission := b.nextAdmission + 1
    active := b.active + 1 }

/-- The states that an operation may be in later. -/
def McpOperationState.mayBecome : McpOperationState → McpOperationState → Bool
  | .queued, _ => true
  | .running, .queued => false
  | .running, _ => true
  | .cancelling, later => later == .cancelling || later.isTerminal
  | state, later => later == state

theorem McpOperationState.mayBecome_refl (state : McpOperationState) :
    state.mayBecome state = true := by
  cases state <;> rfl

theorem McpOperationState.mayBecome_trans {x y z : McpOperationState} (h : x.mayBecome y = true)
    (h' : y.mayBecome z = true) : x.mayBecome z = true := by
  cases x <;> cases y <;> cases z <;> first
    | rfl
    | exact absurd h (by decide)
    | exact absurd h' (by decide)

/-- A change of a snapshot that does not end the operation. -/
structure SnapshotMove (x y : McpOperationSnapshot) : Prop where
  operationId : y.operationId = x.operationId
  sessionId : y.sessionId = x.sessionId
  state : x.state.mayBecome y.state = true
  goesOn : y.state.isTerminal = false
  cancelling : y.cancelRequested = true ↔ y.state = .cancelling
  total : y.progress.total = x.progress.total
  completed : x.progress.completed ≤ y.progress.completed
  withinTotal : y.progress.completed ≤ y.progress.total

/-- What can happen to a book that may hold `maximum` operations. -/
inductive BookStep (maximum : Nat) : Book → Book → Prop
  | renumber {b : Book} {e : BookEntry} {f : McpOperationSnapshot → McpOperationSnapshot} :
      e ∈ b.entries → e.isOpen = true → SnapshotMove e.snapshot (f e.snapshot) →
      BookStep maximum b (b.renumber e.id f)
  | finish {b : Book} {e : BookEntry} (ending : OperationEnd) :
      e ∈ b.entries → e.isOpen = true → BookStep maximum b (b.finish e.id e.owner ending)
  /-- Threads and their handles. -/
  | staff {b : Book} {f : BookEntry → BookEntry} :
      (∀ e, (f e).snapshot = e.snapshot ∧ (f e).admission = e.admission) →
      BookStep maximum b { b with entries := b.entries.map f }
  | evict {b : Book} {e : BookEntry} :
      e ∈ b.entries → e.isOpen = false →
      BookStep maximum b
        { b with entries := b.entries.filter fun x => decide (x.id ≠ e.id) }
  | admitted {b : Book} {e : BookEntry} :
      (∀ x, x ∈ b.entries → x.id ≠ e.id) → e.owner ∈ b.sessions.map Prod.fst →
      b.entries.length < maximum → e.snapshot.state = .queued →
      e.snapshot.cancelRequested = false →
      e.snapshot.progress.completed ≤ e.snapshot.progress.total →
      e.snapshot.sequence = b.nextSequence → e.admission = b.nextAdmission →
      BookStep maximum b (b.admitEntry e)
  | skip {b : Book} (sequences admissions : Nat) :
      BookStep maximum b
        { b with
          nextSequence := b.nextSequence + sequences
          nextAdmission := b.nextAdmission + admissions }
  | register {b : Book} {id : String} :
      id ∉ b.sessions.map Prod.fst →
      BookStep maximum b { b with sessions := b.sessions ++ [(id, 0)] }
  | remove {b : Book} {id : String} :
      (∀ x, x ∈ b.sessions → x.1 = id → x.2 = 0) →
      BookStep maximum b { b with sessions := b.sessions.filter fun x => decide (x.1 ≠ id) }
  | clear {b : Book} :
      (∀ e, e ∈ b.entries → e.isOpen = false) →
      BookStep maximum b { b with sessions := [] }

end Books

section Soundness

/-- The operations of a book can be told apart, and so can their snapshots. -/
structure Book.Numbered (b : Book) : Prop where
  ids : b.entries.Pairwise fun x y => x.id ≠ y.id
  admissions : b.entries.Pairwise fun x y => x.admission ≠ y.admission
  admitted : ∀ e, e ∈ b.entries → e.admission < b.nextAdmission
  sequences : b.entries.Pairwise fun x y => x.snapshot.sequence ≠ y.snapshot.sequence
  numbered : ∀ e, e ∈ b.entries → e.snapshot.sequence < b.nextSequence
  progress : ∀ e, e ∈ b.entries → e.snapshot.progress.completed ≤ e.snapshot.progress.total

/-- The accounts of a book are right. -/
structure Book.Sound (maximum : Nat) (b : Book) : Prop extends Book.Numbered b where
  cancelling : ∀ e, e ∈ b.entries → e.isOpen = true →
    (e.snapshot.cancelRequested = true ↔ e.snapshot.state = .cancelling)
  sessionIds : b.sessions.Pairwise fun x y => x.1 ≠ y.1
  sessionActive : ∀ x, x ∈ b.sessions → x.2 = b.entries.countP (BookEntry.isOpenIn x.1)
  owned : ∀ e, e ∈ b.entries → e.isOpen = true → e.owner ∈ b.sessions.map Prod.fst
  active : b.active = b.entries.countP BookEntry.isOpen
  retained : b.entries.length ≤ maximum

/-- How an entry may have changed since the next number was `low`. -/
structure EntryMove (low : Nat) (x y : BookEntry) : Prop where
  admission : y.admission = x.admission
  id : y.id = x.id
  owner : y.owner = x.owner
  state : x.snapshot.state.mayBecome y.snapshot.state = true
  ended : x.isOpen = false → y.snapshot = x.snapshot
  completed : x.snapshot.progress.completed ≤ y.snapshot.progress.completed
  total : y.snapshot.progress.total = x.snapshot.progress.total
  sequence : y.snapshot = x.snapshot ∨ low ≤ y.snapshot.sequence

/-- Each entry of the later book is new or comes from an entry of the earlier one. -/
structure Book.Evolves (b c : Book) : Prop where
  sequence : b.nextSequence ≤ c.nextSequence
  admission : b.nextAdmission ≤ c.nextAdmission
  entries : ∀ y, y ∈ c.entries →
    (b.nextAdmission ≤ y.admission ∧ b.nextSequence ≤ y.snapshot.sequence) ∨
      ∃ x, x ∈ b.entries ∧ EntryMove b.nextSequence x y

variable {maximum : Nat} {b c d : Book}

theorem EntryMove.of_eq {low : Nat} {x y : BookEntry} (hsnapshot : y.snapshot = x.snapshot)
    (hadmission : y.admission = x.admission) : EntryMove low x y where
  admission := hadmission
  id := by rw [BookEntry.id, hsnapshot, BookEntry.id]
  owner := by rw [BookEntry.owner, hsnapshot, BookEntry.owner]
  state := by
    rw [hsnapshot]
    exact mayBecome_refl _
  ended := fun _ => hsnapshot
  completed := by rw [hsnapshot]
  total := by rw [hsnapshot]
  sequence := .inl hsnapshot

theorem EntryMove.trans {low high : Nat} {x y z : BookEntry} (h : EntryMove low x y)
    (h' : EntryMove high y z) (hle : low ≤ high) : EntryMove low x z where
  admission := h'.admission.trans h.admission
  id := h'.id.trans h.id
  owner := h'.owner.trans h.owner
  state := mayBecome_trans h.state h'.state
  ended := by
    intro hended
    have hsame := h.ended hended
    refine (h'.ended ?_).trans hsame
    rw [BookEntry.isOpen, hsame]
    exact hended
  completed := h.completed.trans h'.completed
  total := h'.total.trans h.total
  sequence := by
    rcases h'.sequence with hsame | hhigh
    · rw [hsame]
      exact h.sequence
    · exact .inr (hle.trans hhigh)

theorem Book.Evolves.refl (b : Book) : b.Evolves b where
  sequence := Nat.le_refl _
  admission := Nat.le_refl _
  entries := fun y hy => .inr ⟨y, hy, .of_eq rfl rfl⟩

theorem Book.Evolves.trans (h : b.Evolves c) (h' : c.Evolves d) : b.Evolves d where
  sequence := h.sequence.trans h'.sequence
  admission := h.admission.trans h'.admission
  entries := by
    intro z hz
    rcases h'.entries z hz with ⟨hadmission, hsequence⟩ | ⟨y, hy, hmove⟩
    · exact .inl ⟨h.admission.trans hadmission, h.sequence.trans hsequence⟩
    · rcases h.entries y hy with ⟨hadmission, hsequence⟩ | ⟨x, hx, hmove'⟩
      · refine .inl ⟨hmove.admission ▸ hadmission, ?_⟩
        rcases hmove.sequence with hsame | hhigh
        · rw [hsame]
          exact hsequence
        · exact h.sequence.trans hhigh
      · exact .inr ⟨x, hx, hmove'.trans hmove h.sequence⟩

end Soundness

section Steps

variable {maximum : Nat} {b : Book}

variable {e : BookEntry}

/-- The entry with the identifier of an entry is that entry. -/
theorem Book.Numbered.eq_of_id (h : b.Numbered) {x : BookEntry} (hx : x ∈ b.entries)
    (he : e ∈ b.entries) (hid : x.id = e.id) : x = e :=
  eq_of_key_eq h.ids hx he hid

variable {f : McpOperationSnapshot → McpOperationSnapshot}

theorem Book.Numbered.renumber (h : b.Numbered) (he : e ∈ b.entries)
    (hid : (f e.snapshot).operationId = e.snapshot.operationId)
    (hprogress : (f e.snapshot).progress.completed ≤ (f e.snapshot).progress.total) :
    (b.renumber e.id f).Numbered where
  ids := by
    refine pairwise_updateKey_of_eq (g := BookEntry.id) ?_ h.ids
    intro x hx hkey
    rw [h.eq_of_id hx he hkey]
    exact hid
  admissions := pairwise_updateKey_of_eq (g := BookEntry.admission) (fun _ _ _ => rfl) h.admissions
  admitted := by
    intro y hy
    rcases mem_updateKey hy with ⟨hy, _⟩ | ⟨x, hx, _, rfl⟩
    · exact h.admitted y hy
    · exact h.admitted x hx
  sequences := by
    refine (pairwise_map.mpr ?_)
    refine List.Pairwise.imp_of_mem ?_ (h.ids.and h.sequences)
    rintro x y hx hy ⟨hne, hsequence⟩
    have hxlow := h.numbered x hx
    have hylow := h.numbered y hy
    by_cases hxe : x.id = e.id
    · rw [if_pos hxe, if_neg (fun hye => hne (hxe.trans hye.symm))]
      exact Nat.ne_of_gt hylow
    rw [if_neg hxe]
    split
    · exact Nat.ne_of_lt hxlow
    · exact hsequence
  numbered := by
    intro y hy
    rcases mem_updateKey hy with ⟨hy, _⟩ | ⟨x, hx, _, rfl⟩
    · exact Nat.lt_succ_of_lt (h.numbered y hy)
    · exact Nat.lt_succ_self _
  progress := by
    intro y hy
    rcases mem_updateKey hy with ⟨hy, _⟩ | ⟨x, hx, hkey, rfl⟩
    · exact h.progress y hy
    · rw [h.eq_of_id hx he hkey]
      exact hprogress

theorem Book.Sound.renumber (h : b.Sound maximum) (he : e ∈ b.entries) (hopen : e.isOpen = true)
    (hmove : SnapshotMove e.snapshot (f e.snapshot)) : (b.renumber e.id f).Sound maximum := by
  have hstays : ∀ x ∈ b.entries, x.id = e.id → x = e := fun x hx hkey => h.eq_of_id hx he hkey
  have hgoesOn : (!(f e.snapshot).state.isTerminal) = true := by
    rw [hmove.goesOn]
    rfl
  exact
    { toNumbered := h.toNumbered.renumber he hmove.operationId hmove.withinTotal
      cancelling := by
        intro y hy hyopen
        rcases mem_updateKey hy with ⟨hy, _⟩ | ⟨x, hx, hkey, rfl⟩
        · exact h.cancelling y hy hyopen
        · rw [hstays x hx hkey]
          exact hmove.cancelling
      sessionIds := h.sessionIds
      sessionActive := by
        intro x hx
        rw [h.sessionActive x hx]
        refine (countP_updateKey_of_eq ?_).symm
        intro r hr hkey
        rw [hstays r hr hkey]
        change (!(f e.snapshot).state.isTerminal && (f e.snapshot).sessionId == x.1) =
          (e.isOpen && e.owner == x.1)
        rw [hgoesOn, hmove.sessionId, hopen]
        rfl
      owned := by
        intro y hy hyopen
        rcases mem_updateKey hy with ⟨hy, _⟩ | ⟨x, hx, hkey, rfl⟩
        · exact h.owned y hy hyopen
        · rw [hstays x hx hkey]
          change (f e.snapshot).sessionId ∈ _
          rw [hmove.sessionId]
          exact h.owned e he hopen
      active := by
        rw [show (b.renumber e.id f).active = b.active from rfl, h.active]
        refine (countP_updateKey_of_eq ?_).symm
        intro r hr hkey
        rw [hstays r hr hkey, hopen]
        exact hgoesOn
      retained := by
        change (updateKey _ _ _ _).length ≤ maximum
        rw [length_updateKey]
        exact h.retained }

section

variable (snapshot : McpOperationSnapshot)

include snapshot

variable (ending : OperationEnd)

theorem McpOperationSnapshot.ended_operationId :
    (snapshot.ended ending).operationId = snapshot.operationId := by
  cases ending <;> rfl

theorem McpOperationSnapshot.ended_sessionId :
    (snapshot.ended ending).sessionId = snapshot.sessionId := by
  cases ending <;> rfl

theorem McpOperationSnapshot.ended_isTerminal :
    (snapshot.ended ending).state.isTerminal = true := by
  cases ending <;> rfl

theorem McpOperationSnapshot.ended_total :
    (snapshot.ended ending).progress.total = snapshot.progress.total := by
  cases ending <;> rfl

end

/-- An end does not take progress back, and does not pass the total. -/
theorem McpOperationSnapshot.ended_completed {snapshot : McpOperationSnapshot}
    (h : snapshot.progress.completed ≤ snapshot.progress.total) (ending : OperationEnd) :
    snapshot.progress.completed ≤ (snapshot.ended ending).progress.completed ∧
      (snapshot.ended ending).progress.completed ≤
        (snapshot.ended ending).progress.total := by
  cases ending with
  | succeeded result => exact ⟨h, Nat.le_refl _⟩
  | cancelled | failed => exact ⟨Nat.le_refl _, h⟩

section

variable (h : b.Sound maximum)

include h

/-- The session of an operation that goes on counts it. -/
theorem Book.Sound.session_pos (he : e ∈ b.entries) (hopen : e.isOpen = true)
    {x : String × Nat} (hx : x ∈ b.sessions) (hid : x.1 = e.owner) : 0 < x.2 := by
  rw [h.sessionActive x hx, countP_pos_iff]
  refine ⟨e, he, ?_⟩
  rw [BookEntry.isOpenIn, hopen, hid, Bool.true_and]
  exact beq_self_eq_true _

theorem Book.Sound.active_pos (he : e ∈ b.entries) (hopen : e.isOpen = true) : 0 < b.active := by
  rw [h.active, countP_pos_iff]
  exact ⟨e, he, hopen⟩

theorem Book.Sound.finish (he : e ∈ b.entries) (hopen : e.isOpen = true)
    (ending : OperationEnd) : (b.finish e.id e.owner ending).Sound maximum := by
  have hends : (!(e.snapshot.ended ending).state.isTerminal) = false := by
    rw [ended_isTerminal]
    rfl
  have hnumbered := h.toNumbered.renumber he (f := (·.ended ending)) (ended_operationId _ _)
    (ended_completed (h.progress e he) ending).2
  have hothers : ∀ y ∈ (b.finish e.id e.owner ending).entries, y.isOpen = true →
      y ∈ b.entries ∧ y.id ≠ e.id := by
    intro y hy hyopen
    rcases mem_updateKey hy with ⟨hy, hne⟩ | ⟨x, hx, hkey, rfl⟩
    · exact ⟨hy, hne⟩
    · rw [h.eq_of_id hx he hkey] at hyopen
      rw [show BookEntry.isOpen _ = (!(e.snapshot.ended ending).state.isTerminal) from rfl,
        hends] at hyopen
      cases hyopen
  have hkeys : (b.finish e.id e.owner ending).sessions.map Prod.fst =
      b.sessions.map Prod.fst := map_updateKey_of_eq fun _ _ _ => rfl
  exact
    { toNumbered := { hnumbered with }
      cancelling := fun y hy hyopen => h.cancelling y (hothers y hy hyopen).1 hyopen
      sessionIds := pairwise_updateKey_of_eq (g := Prod.fst) (fun _ _ _ => rfl) h.sessionIds
      sessionActive := by
        intro x hx
        rcases mem_updateKey hx with ⟨hx, hne⟩ | ⟨z, hz, hkey, rfl⟩
        · rw [h.sessionActive x hx]
          refine (countP_updateKey_of_eq ?_).symm
          intro r hr hrkey
          rw [h.eq_of_id hr he hrkey]
          have hforeign : (e.snapshot.sessionId == x.1) = false :=
            beq_eq_false_iff_ne.mpr fun heq => hne heq.symm
          change (_ && (e.snapshot.ended ending).sessionId == x.1) =
            (_ && e.snapshot.sessionId == x.1)
          rw [ended_sessionId, hforeign, Bool.and_false, Bool.and_false]
        · have hcount := countP_updateKey_drop (p := BookEntry.isOpenIn z.1) (k := e.id)
            (f := BookEntry.renumbered b.nextSequence (·.ended ending)) h.ids he rfl
            (by
              rw [BookEntry.isOpenIn, hopen, hkey, Bool.true_and]
              exact beq_self_eq_true _)
            (by
              change ((!(e.snapshot.ended ending).state.isTerminal) && _) = false
              rw [hends, Bool.false_and])
          have hz' := h.sessionActive z hz
          change z.2 - 1 = countP (BookEntry.isOpenIn z.1) (updateKey _ _ _ _)
          omega
      owned := by
        intro y hy hyopen
        rw [hkeys]
        exact h.owned y (hothers y hy hyopen).1 hyopen
      active := by
        have hcount := countP_updateKey_drop (p := BookEntry.isOpen) (k := e.id)
          (f := BookEntry.renumbered b.nextSequence (·.ended ending)) h.ids he rfl hopen hends
        have hactive := h.active
        change b.active - 1 = countP _ (updateKey _ _ _ _)
        omega
      retained := by
        change (updateKey _ _ _ _).length ≤ maximum
        rw [length_updateKey]
        exact h.retained }

/-- Threads and handles are no part of the accounts. -/
theorem Book.Sound.staff {f : BookEntry → BookEntry}
    (hf : ∀ e, (f e).snapshot = e.snapshot ∧ (f e).admission = e.admission) :
    ({ b with entries := b.entries.map f } : Book).Sound maximum := by
  have hid : ∀ e, (f e).id = e.id := fun e => congrArg (·.operationId) (hf e).1
  have howner : ∀ e, (f e).owner = e.owner := fun e => congrArg (·.sessionId) (hf e).1
  have hopen : ∀ e, (f e).isOpen = e.isOpen := fun e =>
    congrArg (fun x : McpOperationSnapshot => !x.state.isTerminal) (hf e).1
  have hcount : ∀ {p : BookEntry → Bool}, (∀ e, p (f e) = p e) →
      (b.entries.map f).countP p = b.entries.countP p := by
    intro p hp
    rw [countP_map]
    exact countP_congr fun e _ => by rw [Function.comp_apply, hp]
  exact
    { ids := by
        refine pairwise_map.mpr (h.ids.imp fun {x y} hne => ?_)
        rw [hid, hid]
        exact hne
      admissions := by
        refine pairwise_map.mpr (h.admissions.imp fun {x y} hne => ?_)
        rw [(hf x).2, (hf y).2]
        exact hne
      admitted := by
        intro y hy
        obtain ⟨e, he, rfl⟩ := mem_map.mp hy
        rw [(hf e).2]
        exact h.admitted e he
      sequences := by
        refine pairwise_map.mpr (h.sequences.imp fun {x y} hne => ?_)
        rw [(hf x).1, (hf y).1]
        exact hne
      numbered := by
        intro y hy
        obtain ⟨e, he, rfl⟩ := mem_map.mp hy
        rw [(hf e).1]
        exact h.numbered e he
      progress := by
        intro y hy
        obtain ⟨e, he, rfl⟩ := mem_map.mp hy
        rw [(hf e).1]
        exact h.progress e he
      cancelling := by
        intro y hy hyopen
        obtain ⟨e, he, rfl⟩ := mem_map.mp hy
        rw [hopen] at hyopen
        rw [(hf e).1]
        exact h.cancelling e he hyopen
      sessionIds := h.sessionIds
      sessionActive := by
        intro x hx
        rw [h.sessionActive x hx]
        refine (hcount fun e => ?_).symm
        rw [BookEntry.isOpenIn, BookEntry.isOpenIn, hopen, howner]
      owned := by
        intro y hy hyopen
        obtain ⟨e, he, rfl⟩ := mem_map.mp hy
        rw [hopen] at hyopen
        rw [howner]
        exact h.owned e he hyopen
      active := h.active.trans (hcount hopen).symm
      retained := by
        rw [length_map]
        exact h.retained }

theorem Book.Sound.evict (he : e ∈ b.entries) (hended : e.isOpen = false) :
    ({ b with entries := b.entries.filter fun x => decide (x.id ≠ e.id) } : Book).Sound
      maximum := by
  have hopen : ∀ x ∈ b.entries, x.isOpen = true → decide (x.id ≠ e.id) = true := by
    intro x hx hxopen
    refine decide_eq_true fun hid => ?_
    rw [h.eq_of_id hx he hid, hended] at hxopen
    cases hxopen
  exact
    { ids := h.ids.filter _
      admissions := h.admissions.filter _
      admitted := fun x hx => h.admitted x (mem_of_mem_filter hx)
      sequences := h.sequences.filter _
      numbered := fun x hx => h.numbered x (mem_of_mem_filter hx)
      progress := fun x hx => h.progress x (mem_of_mem_filter hx)
      cancelling := fun x hx => h.cancelling x (mem_of_mem_filter hx)
      sessionIds := h.sessionIds
      sessionActive := by
        intro x hx
        rw [h.sessionActive x hx]
        refine (countP_filter_of_imp fun r hr hopenIn => hopen r hr ?_).symm
        rw [BookEntry.isOpenIn, Bool.and_eq_true] at hopenIn
        exact hopenIn.1
      owned := fun x hx => h.owned x (mem_of_mem_filter hx)
      active := h.active.trans (countP_filter_of_imp hopen).symm
      retained := (length_filter_le _ _).trans h.retained }

theorem Book.Sound.admitted_step (hfresh : ∀ x ∈ b.entries, x.id ≠ e.id)
    (howner : e.owner ∈ b.sessions.map Prod.fst) (hroom : b.entries.length < maximum)
    (hqueued : e.snapshot.state = .queued) (hrequested : e.snapshot.cancelRequested = false)
    (hprogress : e.snapshot.progress.completed ≤ e.snapshot.progress.total)
    (hsequence : e.snapshot.sequence = b.nextSequence)
    (hadmission : e.admission = b.nextAdmission) : (b.admitEntry e).Sound maximum := by
  have hopen : e.isOpen = true := by
    rw [BookEntry.isOpen, hqueued]
    rfl
  have hsnoc : ∀ {P : BookEntry → Prop}, (∀ x ∈ b.entries, P x) → P e →
      ∀ x ∈ b.entries ++ [e], P x := by
    intro P hold hnew x hx
    rcases mem_append.mp hx with hx | hx
    · exact hold x hx
    · rw [mem_singleton.mp hx]
      exact hnew
  have hkeys : (b.admitEntry e).sessions.map Prod.fst = b.sessions.map Prod.fst :=
    map_updateKey_of_eq fun _ _ _ => rfl
  have hpairwise : ∀ {R : BookEntry → BookEntry → Prop}, b.entries.Pairwise R →
      (∀ x ∈ b.entries, R x e) → (b.entries ++ [e]).Pairwise R := by
    intro R hold hnew
    refine pairwise_append.mpr ⟨hold, pairwise_singleton _ _, ?_⟩
    intro x hx y hy
    rw [mem_singleton.mp hy]
    exact hnew x hx
  exact
    { ids := hpairwise h.ids hfresh
      admissions := by
        refine hpairwise h.admissions fun x hx => ?_
        rw [hadmission]
        exact Nat.ne_of_lt (h.admitted x hx)
      admitted := by
        refine hsnoc (fun x hx => Nat.lt_succ_of_lt (h.admitted x hx)) ?_
        rw [hadmission]
        exact Nat.lt_succ_self _
      sequences := by
        refine hpairwise h.sequences fun x hx => ?_
        rw [hsequence]
        exact Nat.ne_of_lt (h.numbered x hx)
      numbered := by
        refine hsnoc (fun x hx => Nat.lt_succ_of_lt (h.numbered x hx)) ?_
        rw [hsequence]
        exact Nat.lt_succ_self _
      progress := hsnoc h.progress hprogress
      cancelling := by
        refine hsnoc h.cancelling fun _ => ?_
        rw [hrequested, hqueued]
        exact ⟨nofun, nofun⟩
      sessionIds := pairwise_updateKey_of_eq (g := Prod.fst) (fun _ _ _ => rfl) h.sessionIds
      sessionActive := by
        intro x hx
        change x.2 = (b.entries ++ [e]).countP (BookEntry.isOpenIn x.1)
        rw [countP_append]
        rcases mem_updateKey hx with ⟨hx, hne⟩ | ⟨z, hz, hkey, rfl⟩
        · have hforeign : BookEntry.isOpenIn x.1 e = false := by
            rw [BookEntry.isOpenIn, hopen, Bool.true_and]
            exact beq_eq_false_iff_ne.mpr fun heq => hne heq.symm
          rw [countP_singleton, hforeign, if_neg Bool.false_ne_true]
          exact h.sessionActive x hx
        · have hown : BookEntry.isOpenIn z.1 e = true := by
            rw [BookEntry.isOpenIn, hopen, hkey, Bool.true_and]
            exact beq_self_eq_true _
          change z.2 + 1 = b.entries.countP (BookEntry.isOpenIn z.1) +
            [e].countP (BookEntry.isOpenIn z.1)
          rw [countP_singleton, hown, if_pos rfl, h.sessionActive z hz]
      owned := by
        rw [hkeys]
        exact hsnoc h.owned fun _ => howner
      active := by
        change b.active + 1 = (b.entries ++ [e]).countP BookEntry.isOpen
        rw [countP_append, countP_singleton, if_pos hopen, h.active]
      retained := by
        change (b.entries ++ [e]).length ≤ maximum
        rw [length_append, length_singleton]
        exact hroom }

/-- Only sessions change; the counts of those that stay are right. -/
theorem Book.Sound.sessions_step {sessions : List (String × Nat)}
    (hids : sessions.Pairwise fun x y => x.1 ≠ y.1)
    (hactive : ∀ x ∈ sessions, x.2 = b.entries.countP (BookEntry.isOpenIn x.1))
    (howned : ∀ e ∈ b.entries, e.isOpen = true → e.owner ∈ sessions.map Prod.fst) :
    ({ b with sessions := sessions } : Book).Sound maximum :=
  { h with
    toNumbered := { h.toNumbered with }
    sessionIds := hids
    sessionActive := hactive
    owned := howned }

theorem Book.Sound.register {id : String} (hfresh : id ∉ b.sessions.map Prod.fst) :
    ({ b with sessions := b.sessions ++ [(id, 0)] } : Book).Sound maximum := by
  refine h.sessions_step ?_ ?_ ?_
  · refine pairwise_append.mpr ⟨h.sessionIds, pairwise_singleton _ _, ?_⟩
    intro x hx y hy hkey
    rw [mem_singleton.mp hy] at hkey
    change x.1 = id at hkey
    exact hfresh (hkey ▸ mem_map_of_mem hx)
  · intro x hx
    rcases mem_append.mp hx with hx | hx
    · exact h.sessionActive x hx
    · rw [mem_singleton.mp hx]
      refine (countP_eq_zero.mpr fun e he hopenIn => ?_).symm
      rw [BookEntry.isOpenIn, Bool.and_eq_true, beq_iff_eq] at hopenIn
      have howner : e.owner = id := hopenIn.2
      exact hfresh (howner ▸ h.owned e he hopenIn.1)
  · intro e he hopen
    rw [map_append]
    exact mem_append_left _ (h.owned e he hopen)

theorem Book.Sound.remove {id : String} (hidle : ∀ x ∈ b.sessions, x.1 = id → x.2 = 0) :
    ({ b with sessions := b.sessions.filter fun x => decide (x.1 ≠ id) } : Book).Sound maximum := by
  refine h.sessions_step (h.sessionIds.filter _) ?_ ?_
  · exact fun x hx => h.sessionActive x (mem_of_mem_filter hx)
  · intro e he hopen
    obtain ⟨x, hx, hid⟩ := mem_map.mp (h.owned e he hopen)
    refine mem_map.mpr ⟨x, mem_filter.mpr ⟨hx, decide_eq_true fun hxid => ?_⟩, hid⟩
    have hpos := h.session_pos he hopen hx hid
    rw [hidle x hx hxid] at hpos
    exact Nat.lt_irrefl 0 hpos

end

theorem BookStep.sound {c : Book} (hstep : BookStep maximum b c) (h : b.Sound maximum) :
    c.Sound maximum := by
  cases hstep with
  | renumber he hopen hmove => exact h.renumber he hopen hmove
  | finish ending he hopen => exact h.finish he hopen ending
  | staff hf => exact h.staff hf
  | evict he hended => exact h.evict he hended
  | admitted hfresh howner hroom hqueued hrequested hprogress hsequence hadmission =>
    exact h.admitted_step hfresh howner hroom hqueued hrequested hprogress hsequence hadmission
  | skip sequences admissions =>
    exact
      { h with
        admitted := fun e he => Nat.lt_add_right _ (h.admitted e he)
        numbered := fun e he => Nat.lt_add_right _ (h.numbered e he) }
  | register hfresh => exact h.register hfresh
  | remove hidle => exact h.remove hidle
  | clear hended =>
    refine h.sessions_step .nil (fun _ hx => absurd hx not_mem_nil) ?_
    intro e he hopen
    rw [hended e he] at hopen
    cases hopen

/-- An entry that is given a new number. -/
theorem EntryMove.renumbered {low : Nat} (hopen : e.isOpen = true)
    (hid : (f e.snapshot).operationId = e.snapshot.operationId)
    (howner : (f e.snapshot).sessionId = e.snapshot.sessionId)
    (hstate : e.snapshot.state.mayBecome (f e.snapshot).state = true)
    (hcompleted : e.snapshot.progress.completed ≤ (f e.snapshot).progress.completed)
    (htotal : (f e.snapshot).progress.total = e.snapshot.progress.total) :
    EntryMove low e (e.renumbered low f) where
  admission := rfl
  id := hid
  owner := howner
  state := hstate
  ended := fun hended => absurd (hopen.symm.trans hended) nofun
  completed := hcompleted
  total := htotal
  sequence := .inr (Nat.le_refl _)

/-- A book in which one entry has moved. -/
theorem Book.Evolves.renumber (h : b.Numbered) (he : e ∈ b.entries)
    (hmove : EntryMove b.nextSequence e (e.renumbered b.nextSequence f)) :
    b.Evolves (b.renumber e.id f) where
  sequence := Nat.le_succ _
  admission := Nat.le_refl _
  entries := by
    intro y hy
    rcases mem_updateKey hy with ⟨hy, _⟩ | ⟨x, hx, hkey, rfl⟩
    · exact .inr ⟨y, hy, .of_eq rfl rfl⟩
    · rw [h.eq_of_id hx he hkey]
      exact .inr ⟨e, he, hmove⟩

/-- An operation that has not ended may end in every way. -/
theorem McpOperationState.mayBecome_ended {snapshot : McpOperationSnapshot}
    (h : snapshot.state.isTerminal = false) (ending : OperationEnd) :
    snapshot.state.mayBecome (snapshot.ended ending).state = true := by
  cases hstate : snapshot.state <;> rw [hstate] at h <;> cases ending <;>
    first | rfl | cases h

theorem BookStep.evolves {c : Book} (hstep : BookStep maximum b c) (h : b.Sound maximum) :
    b.Evolves c := by
  cases hstep with
  | renumber he hopen hmove =>
    exact .renumber h.toNumbered he (.renumbered hopen hmove.operationId hmove.sessionId
      hmove.state hmove.completed hmove.total)
  | finish ending he hopen =>
    have hgoesOn := (Bool.not_eq_true' _).mp hopen
    have hevolves := Book.Evolves.renumber h.toNumbered he
      (.renumbered (f := (·.ended ending)) hopen (ended_operationId _ _) (ended_sessionId _ _)
        (mayBecome_ended hgoesOn ending)
        (ended_completed (h.progress _ he) ending).1
        (ended_total _ _))
    exact { hevolves with }
  | staff hf =>
    refine ⟨Nat.le_refl _, Nat.le_refl _, ?_⟩
    intro y hy
    obtain ⟨e, he, rfl⟩ := mem_map.mp hy
    exact .inr ⟨e, he, .of_eq (hf e).1 (hf e).2⟩
  | evict he hended =>
    exact ⟨Nat.le_refl _, Nat.le_refl _,
      fun y hy => .inr ⟨y, mem_of_mem_filter hy, .of_eq rfl rfl⟩⟩
  | admitted hfresh howner hroom hqueued hrequested hprogress hsequence hadmission =>
    refine ⟨Nat.le_succ _, Nat.le_succ _, ?_⟩
    intro y hy
    rcases mem_append.mp hy with hy | hy
    · exact .inr ⟨y, hy, .of_eq rfl rfl⟩
    · rw [mem_singleton.mp hy]
      exact .inl ⟨hadmission.symm.le, hsequence.symm.le⟩
  | skip sequences admissions =>
    exact ⟨Nat.le_add_right _ _, Nat.le_add_right _ _,
      fun y hy => .inr ⟨y, hy, .of_eq rfl rfl⟩⟩
  | register hfresh =>
    exact ⟨Nat.le_refl _, Nat.le_refl _, fun y hy => .inr ⟨y, hy, .of_eq rfl rfl⟩⟩
  | remove | clear => exact ⟨Nat.le_refl _, Nat.le_refl _, fun y hy => .inr ⟨y, hy, .of_eq rfl rfl⟩⟩

/-- What holds after any number of book steps. -/
theorem Book.Sound.steps (h : b.Sound maximum) {c : Book}
    (hsteps : Relation.ReflTransGen (BookStep maximum) b c) : c.Sound maximum ∧ b.Evolves c := by
  induction hsteps with
  | refl => exact ⟨h, .refl b⟩
  | tail _ hstep ih => exact ⟨hstep.sound ih.1, ih.2.trans (hstep.evolves ih.1)⟩

end Steps

end Bbp.Mcp
