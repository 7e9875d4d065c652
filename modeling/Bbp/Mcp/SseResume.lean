import Bbp.Mcp.SseStreams

/-!
# Which retained events a stream can be resumed from

A notification that has been delivered keeps an event identifier, and a client that names
it in `Last-Event-ID` expects its stream to go on behind it.  The cursors of a session
live in a bounded queue.  Under the protocol versions whose streams do not open with an
event of their own, the queue only ever holds cursors of notifications, in the order in
which they were bound: then no cursor of a retained notification is ever pushed out.

The version whose streams do open with an event retains a cursor for that event too.
These cursors have no notification behind them, and they push out cursors that have.
There the property holds as long as the queue has room behind the first cursor that a
retained notification needs.
-/

namespace Bbp.Mcp

open Library List

section Property

/-- The notification has been sent on the stream. -/
def Delivered (sent : List SseEvent) (stream : String) (sequence : Nat) : Prop :=
  ∃ e, e ∈ sent ∧ e.streamId = stream ∧ e.sequence = sequence ∧ e.data.isSome = true

/-- Every retained notification that was delivered on a retained stream can be named. -/
def Resumable (s : SseState) : Prop :=
  ∀ n, n ∈ s.session.notifications → ∀ stream, stream ∈ s.session.streams →
      n.streamId = some stream →
      Delivered s.sent stream n.sequence →
      ∀ streamId, (handleGet s.session (sseEventId stream n.sequence) streamId).1.accepted = true

/-- The cursors of the notifications that have a stream. -/
def boundCursors (notifications : List McpNotification) : List McpSseCursor :=
  notifications.filterMap fun n => n.streamId.map fun stream => ⟨stream, n.sequence⟩

/-- The queue from the first cursor on that a notification needs. -/
def neededCursors (notifications : List McpNotification) (cursors : List McpSseCursor) :
    List McpSseCursor :=
  cursors.dropWhile fun c => c ∉ boundCursors notifications

/-- The needed cursors do not have to make way for so many new ones. -/
def RoomFor (notifications : List McpNotification) (cursors : List McpSseCursor) (added : Nat) :
    Prop :=
  neededCursors notifications cursors = [] ∨
    (neededCursors notifications cursors).length + added ≤ maximumNotificationsPerSession

instance RoomFor.decidable (notifications : List McpNotification) (cursors : List McpSseCursor)
    (added : Nat) : Decidable (RoomFor notifications cursors added) :=
  inferInstanceAs (Decidable (_ ∨ _))

/-- The session without the stream that a new one evicts has room for the cursors of a request. -/
def hasRoomForGet (session : McpSession) (lastEvent : String) : Prop :=
  if lastEvent = "" then
    RoomFor (evictSseStream session).notifications (evictSseStream session).cursors
      ((unbound session.notifications).length + 1)
  else RoomFor session.notifications session.cursors (unbound session.notifications).length

/--
The streams of the session do not open with an event of their own, or the queue has room
for the cursors of the request.
-/
def HasRoom (s : SseState) : SseAction → Prop
  | .get lastEvent _ _ =>
    s.session.protocolVersion ≠ primingProtocolVersion ∨ hasRoomForGet s.session lastEvent
  | _ => True

instance (s : SseState) (a : SseAction) : Decidable (HasRoom s a) := by
  cases a <;> unfold HasRoom <;> try unfold hasRoomForGet
  all_goals infer_instance

end Property

section BoundCursors

/-- Notifications are bound from the oldest on. -/
def BoundFirst (notifications : List McpNotification) : Prop :=
  notifications.Pairwise fun a b => b.streamId.isSome = true → a.streamId.isSome = true

variable {n : McpNotification} {notifications : List McpNotification}

theorem mem_boundCursors {stream : String} (hn : n ∈ notifications)
    (hstream : n.streamId = some stream) :
    (⟨stream, n.sequence⟩ : McpSseCursor) ∈ boundCursors notifications :=
  mem_filterMap.mpr ⟨n, hn, by simp [hstream]⟩

theorem boundCursors_length (notifications : List McpNotification) :
    (boundCursors notifications).length + (unbound notifications).length =
      notifications.length := by
  induction notifications with
  | nil => rfl
  | cons n rest ih =>
    cases hn : n.streamId with
    | none =>
      simp only [boundCursors, unbound, filterMap_cons, hn, Option.map_none,
        filter_cons, Option.isNone_none, if_true, length_cons] at ih ⊢
      omega
    | some stream =>
      simp only [boundCursors, unbound, filterMap_cons, hn, Option.map_some,
        filter_cons, Option.isNone_some, Bool.false_eq_true, if_false,
        length_cons] at ih ⊢
      omega

theorem boundCursors_append (front rest : List McpNotification) :
    boundCursors (front ++ rest) = boundCursors front ++ boundCursors rest :=
  filterMap_append

/-- A new notification takes no cursor, and may take the front one with it. -/
theorem boundCursors_pushBounded {limit : Nat} (hn : n.streamId = none) :
    boundCursors (pushBounded limit notifications n) <:+ boundCursors notifications := by
  have hnew : boundCursors [n] = [] := by simp [boundCursors, hn]
  unfold pushBounded
  rw [boundCursors_append, hnew, append_nil]
  split
  · exact (tail_suffix notifications).filterMap _
  · exact suffix_rfl

/-- An evicted stream takes its own cursors and no others. -/
theorem boundCursors_filter (notifications : List McpNotification) (evicted : String) :
    boundCursors (notifications.filter fun n => n.streamId ≠ some evicted) =
      (boundCursors notifications).filter fun c => c.streamId ≠ evicted := by
  induction notifications with
  | nil => rfl
  | cons n rest ih =>
    cases hn : n.streamId with
    | none => simpa [boundCursors, hn] using ih
    | some stream =>
      by_cases hstream : stream = evicted
      all_goals simpa [boundCursors, hn, hstream] using ih

theorem boundFirst_unbound_tail {rest : List McpNotification} (h : BoundFirst (n :: rest))
    (hn : n.streamId = none) : boundCursors rest = [] := by
  refine filterMap_eq_nil_iff.mpr ?_
  intro m hm
  have hbound := (pairwise_cons.mp h).1 m hm
  cases hstream : m.streamId with
  | none => rfl
  | some stream =>
    have hsome := hbound (by rw [hstream]; rfl)
    rw [hn] at hsome
    cases hsome

/-- Binding the rest of the notifications puts their cursors behind the others. -/
theorem boundCursors_bind (streamId : String) (h : BoundFirst notifications) :
    boundCursors (notifications.map (·.bind streamId)) =
      boundCursors notifications ++
        (unbound notifications).map fun n => ⟨streamId, n.sequence⟩ := by
  induction notifications with
  | nil => rfl
  | cons n rest ih =>
    have hrest := ih (pairwise_cons.mp h).2
    cases hn : n.streamId with
    | none =>
      have hnone := boundFirst_unbound_tail h hn
      rw [hnone, nil_append] at hrest
      have hhead : boundCursors (n :: rest) = [] := by
        rw [boundCursors, filterMap_cons, hn]
        exact hnone
      have hbind : (n.bind streamId).streamId = some streamId := by
        rw [McpNotification.bind_of_unbound hn]
      rw [hhead, nil_append, map_cons]
      unfold boundCursors at hrest ⊢
      rw [filterMap_cons, hbind, hrest]
      simp [unbound, hn]
    | some stream =>
      rw [map_cons, McpNotification.bind_of_bound hn]
      unfold boundCursors unbound at hrest ⊢
      rw [filterMap_cons, filterMap_cons, hn, hrest]
      simp [hn]

end BoundCursors

section Retaining

variable {streamId : String} {fresh : List McpNotification}

/-- Cursors that are pushed in turn stay, with the newest cursors before them. -/
theorem foldl_retain_suffix {kept cursors : List McpSseCursor} (h : kept <:+ cursors)
    (hroom : kept.length + fresh.length ≤ maximumNotificationsPerSession) :
    kept ++ fresh.map (fun n => ⟨streamId, n.sequence⟩) <:+
      fresh.foldl (fun retained n => retainSseCursor retained streamId n.sequence)
        cursors := by
  induction fresh generalizing kept cursors with
  | nil => simpa using h
  | cons n rest ih =>
    rw [length_cons] at hroom
    have hpush : kept ++ [⟨streamId, n.sequence⟩] <:+ retainSseCursor cursors streamId n.sequence :=
      suffix_pushBounded h (by omega)
    have hrest := ih hpush (by rw [length_append, length_singleton]; omega)
    rw [append_assoc] at hrest
    exact hrest

end Retaining

section Invariant

/-- The cursors of the bound notifications are retained. -/
structure CursorsKept (version : String) (notifications : List McpNotification)
    (cursors : List McpSseCursor) : Prop where
  boundFirst : BoundFirst notifications
  bounded : notifications.length ≤ maximumNotificationsPerSession
  kept : version ≠ primingProtocolVersion → boundCursors notifications <:+ cursors
  held : ∀ c, c ∈ boundCursors notifications → c ∈ cursors

/-- What a session is like in every state that a run reaches. -/
structure Sound (session : McpSession) : Prop where
  cursors : CursorsKept session.protocolVersion session.notifications session.cursors
  identifiers : ∀ stream, stream ∈ session.streams → isStreamId stream = true
  sequence : session.nextNotificationSequence < 2 ^ 64
  sequences : ∀ n, n ∈ session.notifications → n.sequence < 2 ^ 64
  opened : session.streams ≠ [] → session.state = .initialized

theorem createSession_sound (protocolVersion : String) : Sound (createSession protocolVersion) where
  cursors :=
    { boundFirst := List.Pairwise.nil
      bounded := Nat.zero_le _
      kept := fun _ => suffix_rfl
      held := fun _ h => h }
  identifiers := fun _ h => nomatch h
  sequence := Nat.one_lt_two_pow (by decide)
  sequences := fun _ h => nomatch h
  opened := fun h => absurd rfl h

variable {version : String} {notifications : List McpNotification} {cursors : List McpSseCursor}

theorem CursorsKept.push {n : McpNotification} (h : CursorsKept version notifications cursors)
    (hn : n.streamId = none) :
    CursorsKept version (pushBounded maximumNotificationsPerSession notifications n) cursors where
  boundFirst := by
    refine pairwise_pushBounded h.boundFirst ?_
    intro m _ hsome
    rw [hn] at hsome
    cases hsome
  bounded := length_pushBounded_le (by decide) h.bounded
  kept := fun hversion => (boundCursors_pushBounded hn).trans (h.kept hversion)
  held := fun c hc => h.held c ((boundCursors_pushBounded hn).subset hc)

theorem CursorsKept.evict (h : CursorsKept version notifications cursors) (evicted : String) :
    CursorsKept version (notifications.filter fun n => n.streamId ≠ some evicted)
      (cursors.filter fun c => c.streamId ≠ evicted) where
  boundFirst := h.boundFirst.filter _
  bounded := Nat.le_trans (length_filter_le _ _) h.bounded
  kept := by
    intro hversion
    rw [boundCursors_filter]
    exact (h.kept hversion).filter _
  held := by
    intro c hc
    rw [boundCursors_filter, mem_filter] at hc
    exact mem_filter.mpr ⟨h.held c hc.1, hc.2⟩

/-- The newest cursors are all that the notifications need, with room behind them. -/
structure Room (notifications : List McpNotification) (cursors kept : List McpSseCursor)
    (added : Nat) : Prop where
  newest : kept <:+ cursors
  needed : ∀ c, c ∈ boundCursors notifications → c ∈ kept
  fits : kept.length + added ≤ maximumNotificationsPerSession

theorem CursorsKept.unbound_le (h : CursorsKept version notifications cursors) :
    (unbound notifications).length ≤ maximumNotificationsPerSession :=
  Nat.le_trans (length_filter_le _ _) h.bounded

theorem CursorsKept.mem_needed (h : CursorsKept version notifications cursors) {c : McpSseCursor}
    (hc : c ∈ boundCursors notifications) : c ∈ neededCursors notifications cursors := by
  have hmem := h.held c hc
  rw [← takeWhile_append_dropWhile (p := fun c => decide (c ∉ boundCursors notifications))
    (l := cursors), mem_append] at hmem
  rcases hmem with hfront | hrest
  · have hunneeded := mem_takeWhile_imp hfront
    exact absurd hc (of_decide_eq_true hunneeded)
  · exact hrest

theorem CursorsKept.room (h : CursorsKept version notifications cursors)
    (hroom : version ≠ primingProtocolVersion ∨
      RoomFor notifications cursors (unbound notifications).length) :
    ∃ kept, Room notifications cursors kept (unbound notifications).length := by
  rcases hroom with hversion | hroom
  · have hlength := boundCursors_length notifications
    have hbounded := h.bounded
    exact ⟨_, h.kept hversion, fun _ hc => hc, by omega⟩
  · refine ⟨_, dropWhile_suffix _, fun c hc => h.mem_needed hc, ?_⟩
    rcases hroom with hnone | hroom
    · rw [← neededCursors, hnone, length_nil, Nat.zero_add]
      exact h.unbound_le
    · exact hroom

/-- The cursor of an opening event, and room for those of the notifications behind it. -/
theorem CursorsKept.prime (h : CursorsKept version notifications cursors)
    (hroom : RoomFor notifications cursors ((unbound notifications).length + 1))
    (streamId : String) :
    ∃ kept, Room notifications (retainSseCursor cursors streamId 0) kept
      (unbound notifications).length := by
  rcases hroom with hnone | hroom
  · refine ⟨[], nil_suffix, fun c hc => hnone ▸ h.mem_needed hc, ?_⟩
    rw [length_nil, Nat.zero_add]
    exact h.unbound_le
  · refine ⟨_, suffix_pushBounded (dropWhile_suffix _) (by rw [← neededCursors]; omega),
      fun c hc => mem_append_left _ (h.mem_needed hc), ?_⟩
    rw [← neededCursors, length_append, length_singleton]
    omega

theorem boundFirst_bind (streamId : String) (notifications : List McpNotification) :
    BoundFirst (notifications.map (·.bind streamId)) := by
  refine pairwise_map.mpr (pairwise_of_forall fun a b => ?_)
  intro _
  cases ha : a.streamId with
  | none => rw [McpNotification.bind_of_unbound ha]; rfl
  | some stream => rw [McpNotification.bind_of_bound ha, ha]; rfl

/-- The loop of a request keeps the cursors of what was bound and of what it binds. -/
theorem CursorsKept.deliver (h : CursorsKept version notifications cursors)
    {kept : List McpSseCursor}
    (hroom : Room notifications cursors kept (unbound notifications).length)
    (streamId : String) (after : Nat) :
    CursorsKept version (deliver streamId after notifications cursors).notifications
      (deliver streamId after notifications cursors).cursors := by
  have hlength := boundCursors_length notifications
  have hbounded := h.bounded
  rw [deliver_notifications, deliver_cursors]
  refine ⟨boundFirst_bind streamId notifications, ?_, ?_, ?_⟩
  · rw [length_map]
    exact h.bounded
  · intro hversion
    rw [boundCursors_bind streamId h.boundFirst]
    exact foldl_retain_suffix (h.kept hversion) (by omega)
  · intro c hc
    rw [boundCursors_bind streamId h.boundFirst, mem_append] at hc
    exact (foldl_retain_suffix hroom.newest hroom.fits).subset
      (mem_append.mpr (hc.imp_left (hroom.needed c)))

end Invariant

section Steps

variable {session : McpSession}

theorem Sound.retain (h : Sound session) (json : Json) :
    Sound (session.retain json) :=
  { h with
    cursors := h.cursors.push rfl
    sequence := Nat.mod_lt _ (by decide)
    sequences := by
      intro n hn
      rcases mem_pushBounded hn with hold | rfl
      · exact h.sequences n hold
      · exact h.sequence }

theorem Sound.evict (h : Sound session) :
    Sound (evictSseStream session) := by
  unfold evictSseStream
  cases hstreams : session.streams with
  | nil => exact h
  | cons evicted streams =>
    have hinitialized : session.state = .initialized := h.opened (by simp [hstreams])
    dsimp only
    split
    · exact
        { h with
          cursors := h.cursors.evict evicted
          identifiers := fun stream hstream =>
            h.identifiers stream (hstreams ▸ mem_cons_of_mem _ hstream)
          sequences := fun n hn => h.sequences n (mem_of_mem_filter hn)
          opened := fun _ => hinitialized }
    · exact h

@[simp] theorem evictSseStream_protocolVersion (session : McpSession) :
    (evictSseStream session).protocolVersion = session.protocolVersion := by
  unfold evictSseStream
  split
  · rfl
  · split <;> rfl

@[simp] theorem evictSseStream_state (session : McpSession) :
    (evictSseStream session).state = session.state := by
  unfold evictSseStream
  split
  · rfl
  · split <;> rfl

theorem evictSseStream_unbound (session : McpSession) :
    unbound (evictSseStream session).notifications = unbound session.notifications := by
  unfold evictSseStream
  split
  · rfl
  split
  · refine (filter_filter ..).trans (filter_congr ?_)
    intro n _
    cases n.streamId <;> simp
  · rfl

theorem Sound.create {streamId : String} (h : Sound session) (hstate : session.state = .initialized)
    (hstream : isStreamId streamId = true) :
    Sound (createSseStream session streamId) := by
  have hevict := h.evict
  refine
    { hevict with
      identifiers := ?_
      opened := fun _ => (evictSseStream_state session).trans hstate }
  intro stream hmem
  rcases mem_append.mp hmem with hold | hnew
  · exact hevict.identifiers stream hold
  · rw [mem_singleton.mp hnew]
    exact hstream

theorem Sound.serve (h : Sound session) {kept : List McpSseCursor}
    (hroom : Room session.notifications session.cursors kept (unbound session.notifications).length)
    (streamId : String) (after : Nat) (opening : List SseEvent) :
    Sound (serveStream session streamId after opening).2 := by
  refine { h with cursors := h.cursors.deliver hroom streamId after, sequences := ?_ }
  intro n hn
  change n ∈ (deliver streamId after session.notifications session.cursors).notifications at hn
  rw [deliver_notifications] at hn
  obtain ⟨m, hm, rfl⟩ := mem_map.mp hn
  rw [McpNotification.bind_sequence]
  exact h.sequences m hm

theorem Sound.openStream {streamId : String} (h : Sound session)
    (hstate : session.state = .initialized) (hstream : isStreamId streamId = true)
    (hroom : session.protocolVersion ≠ primingProtocolVersion ∨ hasRoomForGet session "") :
    Sound (openStream session streamId).2 := by
  have hcreate := h.create hstate hstream
  unfold Mcp.openStream
  dsimp only
  split
  next hpriming =>
    have hroom := hroom.resolve_left fun hother =>
      hother ((evictSseStream_protocolVersion session).symm.trans hpriming)
    rw [hasRoomForGet, if_pos rfl, ← evictSseStream_unbound session] at hroom
    obtain ⟨kept, hkept⟩ := hcreate.cursors.prime hroom streamId
    have hprime : Sound
        { createSseStream session streamId with
          cursors := retainSseCursor (createSseStream session streamId).cursors streamId 0 } :=
      { hcreate with
        cursors :=
          { hcreate.cursors with
            kept := fun hother => absurd hpriming hother
            held := fun c hc => hkept.newest.subset (hkept.needed c hc) } }
    exact hprime.serve hkept streamId 0 _
  next hother =>
    obtain ⟨kept, hkept⟩ := hcreate.cursors.room (.inl hother)
    exact hcreate.serve hkept streamId 0 _

theorem Sound.get {lastEvent streamId : String} (h : Sound session)
    (hstream : isStreamId streamId = true)
    (hroom : session.protocolVersion ≠ primingProtocolVersion ∨ hasRoomForGet session lastEvent) :
    Sound (handleGet session lastEvent streamId).2 := by
  unfold handleGet
  split
  · exact h
  rename_i hstate
  split
  next hfresh => exact h.openStream (not_not.mp hstate) hstream (hfresh ▸ hroom)
  next hresume =>
    split
    · exact h
    split
    · rw [hasRoomForGet, if_neg hresume] at hroom
      obtain ⟨kept, hkept⟩ := h.cursors.room hroom
      exact h.serve hkept _ _ _
    · exact h

theorem sseStep_sound (s : SseState) (a : SseAction) (t : SseState) (hstep : sseStep s a = some t)
    (hroom : HasRoom s a) (h : Sound s.session) : Sound t.session := by
  rcases sseStep_cases hstep with ⟨state, hstate, rfl⟩ | ⟨json, -, rfl⟩ |
    ⟨lastEvent, streamId, arrived, rfl, hid, rfl⟩
  · refine { h with opened := fun hopen => ?_ }
    rcases hstate with rfl | rfl
    · exact h.opened hopen
    · rfl
  · exact h.retain json
  · exact h.get hid hroom

/-- A sound session accepts the identifier of every event it still has. -/
theorem Sound.accepts {n : McpNotification} {stream : String} (h : Sound session)
    (hn : n ∈ session.notifications) (hstream : stream ∈ session.streams)
    (hbound : n.streamId = some stream) (streamId : String) :
    (handleGet session (sseEventId stream n.sequence) streamId).1.accepted = true := by
  have hstate : session.state = .initialized := h.opened (ne_nil_of_mem hstream)
  have hparse := parseSseCursor_sseEventId (h.identifiers stream hstream) (h.sequences n hn)
  have hcursor := h.cursors.held _ (mem_boundCursors hn hbound)
  have hretained : isRetainedSseCursor session ⟨stream, n.sequence⟩ = true := by
    unfold isRetainedSseCursor
    rw [Bool.and_eq_true, any_eq_true, any_eq_true]
    exact ⟨⟨stream, hstream, beq_self_eq_true stream⟩, ⟨_, hcursor, beq_self_eq_true _⟩⟩
  unfold handleGet
  rw [if_neg (not_not.mpr hstate), if_neg (sseEventId_ne_empty _ _), hparse]
  dsimp only
  rw [if_pos hretained]
  rfl

end Steps

section Runs

/-- Where the queue of cursors has room, every retained event can be resumed from. -/
theorem retained_events_resume (protocolVersion : String) (actions : List SseAction) (s : SseState)
    (hroom : sseMachine.Meets HasRoom (sseStart protocolVersion) actions)
    (hrun : sseMachine.run (sseStart protocolVersion) actions = some s) : Resumable s := by
  have hsound : Sound s.session :=
    sseMachine.meets_preserves sseStep_sound hroom hrun (createSession_sound protocolVersion)
  intro n hn stream hstream hbound _ streamId
  exact hsound.accepts hn hstream hbound streamId

/-- A stream identifier of the right form. -/
def firstStream : String := "0000000000000000000000000000000a"

def secondStream : String := "0000000000000000000000000000000b"

def note : SseAction := .enqueue "notifications/message" .null

/-- As many notifications as are retained, a stream for them, and a second stream. -/
def twoStreams : List SseAction :=
  .becomeInitialized :: replicate maximumNotificationsPerSession note ++
    [.get "" firstStream 257, .get "" secondStream 1]

/-- The event that opens the second stream pushes out the cursor of the first event. -/
theorem second_stream_expires_first_event :
    ∃ s, sseMachine.run (sseStart primingProtocolVersion) twoStreams = some s ∧
      ¬ Resumable s := by
  obtain ⟨s, hrun, hs⟩ := sseMachine.run_of_any (sseStart primingProtocolVersion) twoStreams
    (fun s : SseState =>
      s.session.notifications.any (fun n => n.sequence == 1 && n.streamId == some firstStream)
        && s.session.streams.any (· == firstStream)
        && s.sent.any (fun e => e.streamId == firstStream && e.sequence == 1 && e.data.isSome)
        && !(handleGet s.session (sseEventId firstStream 1) secondStream).1.accepted)
    (by decide +kernel)
  simp only [Bool.and_eq_true, List.any_eq_true, beq_iff_eq, Bool.not_eq_true'] at hs
  obtain ⟨⟨⟨⟨n, hn, hsequence, hstream⟩, stream, hstreams, rfl⟩, e, he, ⟨hevent, hnumber⟩, hdata⟩,
    hrefused⟩ := hs
  refine ⟨s, hrun, fun hresumable => ?_⟩
  have haccepted := hresumable n hn firstStream hstreams hstream
    ⟨e, he, hevent, hnumber.trans hsequence.symm, hdata⟩ secondStream
  rw [hsequence, hrefused] at haccepted
  cases haccepted

/-- Two streams and two notifications leave room for every cursor. -/
theorem two_small_streams_resume :
    ∃ s,
      sseMachine.run (sseStart primingProtocolVersion)
        [.becomeInitialized, note, .get "" firstStream 2, note, .get "" secondStream 2] = some s ∧
      Resumable s ∧ s.sent.length = 4 := by
  obtain ⟨s, hrun, hs⟩ := sseMachine.run_of_any (sseStart primingProtocolVersion)
    [.becomeInitialized, note, .get "" firstStream 2, note, .get "" secondStream 2]
    (fun s : SseState => s.sent.length == 4) (by decide +kernel)
  exact ⟨s, hrun, retained_events_resume primingProtocolVersion _ s (by decide +kernel) hrun,
    beq_iff_eq.mp hs⟩

end Runs

end Bbp.Mcp
