import Bbp.Mcp.SseStreams

/-!
# What a client receives over its event streams

Notifications are numbered when they are enqueued and bound to a stream by the first GET
request that finds them.  What is sent may be lost from some event on.  A client that resumes
each stream with the identifier of the last event it received there sees every stream in
increasing order, and no notification is sent on two streams.

The numbers are unsigned 64-bit words and wrap around without a check.  What follows is
proved for sessions whose counter has not started over: after 2 ^ 64 notifications a new
notification has a smaller number than the cursor of its stream, and it is skipped.
-/

namespace Bbp.Mcp

open Library McpNotification List

section Property

/-- The last event that the client received on a stream. -/
def lastReceived (received : List SseEvent) (stream : String) : Option SseEvent :=
  (received.filter (·.streamId = stream)).getLast?

/--
A fresh request is given an identifier that no stream had before; any other request names
the last event that the client received on a stream.
-/
def ClientRequests (s : SseState) : SseAction → Prop
  | .get lastEvent streamId _ =>
    (lastEvent = "" ∧ streamId ∉ s.issued) ∨
      ∃ e, lastReceived s.received e.streamId = some e ∧
        lastEvent = sseEventId e.streamId e.sequence
  | _ => True

/-- The counter of the session has not started over. -/
def Numbered (s : SseState) : SseAction → Prop
  | .enqueue _ _ => s.session.nextNotificationSequence ≠ 0
  | .broadcast _ _ => s.session.nextNotificationSequence ≠ 0
  | _ => True

/-- The notifications that an accepted resume has to return. -/
def resumedEvents (session : McpSession) (cursor : McpSseCursor) : List SseEvent :=
  (session.notifications.filter fun n =>
      n.streamId = some cursor.streamId ∧ cursor.sequence < n.sequence).map
        (·.event cursor.streamId) ++
    (unbound session.notifications).map (·.event cursor.streamId)

/-- What a client can rely on, over all of its streams. -/
structure DeliversInOrder (s : SseState) : Prop where
  oneStream : ∀ e, e ∈ s.sent → ∀ f, f ∈ s.sent →
    e.data.isSome = true → f.data.isSome = true → e.sequence = f.sequence →
    e.streamId = f.streamId
  increasing : ∀ stream,
    ((s.received.filter (·.streamId = stream)).map (·.sequence)).Pairwise (· < ·)
  resumed : ∀ lastEvent cursor streamId, parseSseCursor lastEvent = some cursor →
    (handleGet s.session lastEvent streamId).1.accepted = true →
    (handleGet s.session lastEvent streamId).1.delivered = resumedEvents s.session cursor

/-- A notification that has a stream keeps it. -/
def KeepsStreams (s t : SseState) : Prop :=
  ∀ n, n ∈ s.session.notifications → ∀ stream, n.streamId = some stream →
    ∀ m, m ∈ t.session.notifications → m.sequence = n.sequence → m.streamId = some stream

end Property

variable {next after count : Nat} {notifications : List McpNotification}
  {cursors : List McpSseCursor} {sent received : List SseEvent} {issued : List String}
  {stream streamId : String}

section Invariant

/-- The numbers below which everything handed out so far lies. -/
def ceiling (next : Nat) : Nat := if next = 0 then 2 ^ 64 else next

/-- Older notifications have smaller numbers, and are bound first. -/
def Older (a b : McpNotification) : Prop :=
  a.sequence < b.sequence ∧ (b.streamId.isSome = true → a.streamId.isSome = true)

/-- A number that every notification without a stream exceeds. -/
def Below (next : Nat) (notifications : List McpNotification) (sequence : Nat) : Prop :=
  sequence < ceiling next ∧ ∀ n, n ∈ notifications → n.streamId = none → sequence < n.sequence

/-- The order of the notifications, the cursors and the events of a session. -/
structure Ordered (next : Nat) (notifications : List McpNotification)
    (cursors : List McpSseCursor) (sent : List SseEvent) (issued : List String) :
    Prop where
  word : next < 2 ^ 64
  older : notifications.Pairwise Older
  range : ∀ n, n ∈ notifications → 1 ≤ n.sequence ∧ n.sequence < ceiling next
  cursorsBelow : ∀ c, c ∈ cursors → Below next notifications c.sequence
  sentBelow : ∀ e, e ∈ sent → Below next notifications e.sequence
  sentIssued : ∀ e, e ∈ sent → e.streamId ∈ issued
  identifiers : ∀ stream, stream ∈ issued → isStreamId stream = true
  boundIssued : ∀ n, n ∈ notifications → ∀ stream, n.streamId = some stream → stream ∈ issued
  agree : ∀ e, e ∈ sent → e.data.isSome = true →
    ∀ n, n ∈ notifications → n.sequence = e.sequence → n.streamId = some e.streamId
  oneStream : ∀ e, e ∈ sent → ∀ f, f ∈ sent →
    e.data.isSome = true → f.data.isSome = true → e.sequence = f.sequence →
    e.streamId = f.streamId

/-- What has arrived of what was sent. -/
structure Arrived (sent received : List SseEvent) : Prop where
  wasSent : ∀ e, e ∈ received → e ∈ sent
  increasing : ∀ stream,
    ((received.filter (·.streamId = stream)).map (·.sequence)).Pairwise (· < ·)

/-- The order in a state of the machine. -/
structure SseState.Ordered (s : SseState) : Prop where
  order : Mcp.Ordered s.session.nextNotificationSequence s.session.notifications
    s.session.cursors s.sent s.issued
  arrived : Arrived s.sent s.received

theorem sseStart_ordered (protocolVersion : String) : (sseStart protocolVersion).Ordered where
  order :=
    { word := Nat.one_lt_two_pow (by decide)
      older := List.Pairwise.nil
      range := fun _ h => nomatch h
      cursorsBelow := fun _ h => nomatch h
      sentBelow := fun _ h => nomatch h
      sentIssued := fun _ h => nomatch h
      identifiers := fun _ h => nomatch h
      boundIssued := fun _ h => nomatch h
      agree := fun _ h => nomatch h
      oneStream := fun _ h => nomatch h }
  arrived := ⟨nofun, fun _ => List.Pairwise.nil⟩

theorem sequence_inj {m n : McpNotification} (h : notifications.Pairwise Older)
    (hm : m ∈ notifications) (hn : n ∈ notifications) (heq : m.sequence = n.sequence) : m = n := by
  induction h with
  | nil => cases hm
  | cons hfirst _ ih =>
    rcases mem_cons.mp hm with rfl | hm'
    · rcases mem_cons.mp hn with rfl | hn'
      · rfl
      · exact absurd heq (Nat.ne_of_lt (hfirst n hn').1)
    · rcases mem_cons.mp hn with rfl | hn'
      · exact absurd heq.symm (Nat.ne_of_lt (hfirst m hm').1)
      · exact ih hm' hn'

theorem ceiling_wrapAdd (hword : next < 2 ^ 64) (hnext : next ≠ 0) :
    ceiling (wrapAdd next 1) = next + 1 ∧ ceiling next = next := by
  unfold ceiling wrapAdd
  rw [if_neg hnext]
  refine ⟨?_, rfl⟩
  by_cases hlast : next + 1 = 2 ^ 64
  · rw [hlast, Nat.mod_self, if_pos rfl]
  · rw [Nat.mod_eq_of_lt (by omega), if_neg (by omega)]

end Invariant

section Steps

variable (h : Ordered next notifications cursors sent issued)

include h

/-- A new notification has a larger number than everything before it. -/
theorem Ordered.push (hnext : next ≠ 0) (json : Json) :
    Ordered (wrapAdd next 1)
      (pushBounded maximumNotificationsPerSession notifications ⟨next, none, json⟩)
      cursors sent issued := by
  obtain ⟨hceiling, hnow⟩ := ceiling_wrapAdd h.word hnext
  have hbelow : ∀ k, Below next notifications k → Below (wrapAdd next 1)
        (pushBounded maximumNotificationsPerSession notifications ⟨next, none, json⟩) k := by
    intro k hk
    have hlt := hk.1
    rw [hnow] at hlt
    refine ⟨by rw [hceiling]; omega, ?_⟩
    intro n hn hnone
    rcases mem_pushBounded hn with hold | rfl
    · exact hk.2 n hold hnone
    · exact hlt
  refine
    { h with
      word := Nat.mod_lt _ (by decide)
      older := pairwise_pushBounded h.older ?_
      range := ?_
      cursorsBelow := fun c hc => hbelow _ (h.cursorsBelow c hc)
      sentBelow := fun e he => hbelow _ (h.sentBelow e he)
      boundIssued := ?_
      agree := ?_ }
  · intro n hn
    have hrange := (h.range n hn).2
    rw [hnow] at hrange
    exact ⟨hrange, nofun⟩
  · intro n hn
    rw [hceiling]
    rcases mem_pushBounded hn with hold | rfl
    · have hrange := h.range n hold
      rw [hnow] at hrange
      exact ⟨hrange.1, by omega⟩
    · exact ⟨Nat.pos_of_ne_zero hnext, Nat.lt_succ_self next⟩
  · intro n hn stream hstream
    rcases mem_pushBounded hn with hold | rfl
    · exact h.boundIssued n hold stream hstream
    · cases hstream
  · intro e he hdata n hn heq
    rcases mem_pushBounded hn with hold | rfl
    · exact h.agree e he hdata n hold heq
    · have hlt := (h.sentBelow e he).1
      rw [hnow] at hlt
      exact absurd heq (Nat.ne_of_gt hlt)

/-- Fewer notifications and fewer cursors are still in order. -/
theorem Ordered.shrink {notifications' : List McpNotification} {cursors' : List McpSseCursor}
    (hsub : notifications'.Sublist notifications) (hcursors : cursors' ⊆ cursors) :
    Ordered next notifications' cursors' sent issued :=
  { h with
    older := h.older.sublist hsub
    range := fun n hn => h.range n (hsub.subset hn)
    cursorsBelow := fun c hc =>
      ⟨(h.cursorsBelow c (hcursors hc)).1,
        fun n hn => (h.cursorsBelow c (hcursors hc)).2 n (hsub.subset hn)⟩
    sentBelow := fun e he =>
      ⟨(h.sentBelow e he).1, fun n hn => (h.sentBelow e he).2 n (hsub.subset hn)⟩
    boundIssued := fun n hn => h.boundIssued n (hsub.subset hn)
    agree := fun e he hdata n hn => h.agree e he hdata n (hsub.subset hn) }

/-- A new stream is known from now on. -/
theorem Ordered.issue (hid : isStreamId streamId = true) :
    Ordered next notifications cursors sent (issued ++ [streamId]) :=
  { h with
    sentIssued := fun e he => mem_append_left _ (h.sentIssued e he)
    identifiers := by
      intro stream hstream
      rcases mem_append.mp hstream with hold | hnew
      · exact h.identifiers stream hold
      · rw [mem_singleton.mp hnew]
        exact hid
    boundIssued := fun n hn stream hstream =>
      mem_append_left _ (h.boundIssued n hn stream hstream) }

/-- The number of the event that opens a stream is below every notification. -/
theorem Ordered.below_zero :
    Below next notifications 0 := by
  refine ⟨?_, fun n hn _ => (h.range n hn).1⟩
  unfold ceiling
  split
  · decide
  next hnext => exact Nat.pos_of_ne_zero hnext

theorem Ordered.prime (hissued : streamId ∈ issued) :
    Ordered next notifications (retainSseCursor cursors streamId 0)
      (sent ++ [⟨streamId, 0, none⟩]) issued :=
  { h with
    cursorsBelow := by
      intro c hc
      rcases mem_pushBounded hc with hold | rfl
      · exact h.cursorsBelow c hold
      · exact h.below_zero
    sentBelow := by
      intro e he
      rcases mem_append.mp he with hold | hnew
      · exact h.sentBelow e hold
      · rw [mem_singleton.mp hnew]
        exact h.below_zero
    sentIssued := by
      intro e he
      rcases mem_append.mp he with hold | hnew
      · exact h.sentIssued e hold
      · rw [mem_singleton.mp hnew]
        exact hissued
    agree := by
      intro e he hdata
      rcases mem_append.mp he with hold | hnew
      · exact h.agree e hold hdata
      · rw [mem_singleton.mp hnew] at hdata
        cases hdata
    oneStream := by
      intro e he f hf hedata hfdata
      rcases mem_append.mp he with heold | henew
      · rcases mem_append.mp hf with hfold | hfnew
        · exact h.oneStream e heold f hfold hedata hfdata
        · rw [mem_singleton.mp hfnew] at hfdata
          cases hfdata
      · rw [mem_singleton.mp henew] at hedata
        cases hedata }

end Steps

section Serving

theorem bind_streamId (streamId : String) (n : McpNotification) :
    (n.bind streamId).streamId = some (n.streamId.getD streamId) := by
  cases hn : n.streamId with
  | none => rw [bind_of_unbound hn]; rfl
  | some stream => rw [bind_of_bound hn, hn]; rfl

theorem mem_foldl_retain {fresh : List McpNotification} {c : McpSseCursor}
    (h : c ∈ fresh.foldl (fun retained n => retainSseCursor retained streamId n.sequence)
      cursors) : c ∈ cursors ∨ ∃ n ∈ fresh, c.sequence = n.sequence := by
  induction fresh generalizing cursors with
  | nil => exact .inl h
  | cons n rest ih =>
    rcases ih h with hold | ⟨m, hm, heq⟩
    · rcases mem_pushBounded hold with hcursor | rfl
      · exact .inl hcursor
      · exact .inr ⟨n, mem_cons_self, rfl⟩
    · exact .inr ⟨m, mem_cons_of_mem _ hm, heq⟩

/-- Each event of the loop is a notification that the stream has, or is given. -/
theorem mem_deliver_events {e : SseEvent}
    (h : e ∈ (deliver streamId after notifications cursors).events) :
    ∃ n ∈ notifications, (n.streamId = none ∨ n.streamId = some streamId) ∧
      after < n.sequence ∧ e = n.event streamId := by
  rw [deliver_events] at h
  obtain ⟨m, hm, rfl⟩ := mem_map.mp h
  obtain ⟨hmem, hcond⟩ := mem_filter.mp hm
  obtain ⟨n, hn, rfl⟩ := mem_map.mp hmem
  have hboth : (n.bind streamId).streamId = some streamId ∧ after < n.sequence := by
    simpa using hcond
  refine ⟨n, hn, ?_, hboth.2, ?_⟩
  · cases hstream : n.streamId with
    | none => exact .inl rfl
    | some stream =>
      have hsame := hboth.1
      rw [bind_of_bound hstream, hstream] at hsame
      exact .inr hsame
  · cases hstream : n.streamId with
    | none => rw [bind_of_unbound hstream]; rfl
    | some stream => rw [bind_of_bound hstream]

theorem deliver_events_increasing (h : notifications.Pairwise Older)
    (streamId : String) (after : Nat) (cursors : List McpSseCursor) :
    ((deliver streamId after notifications cursors).events.map (·.sequence)).Pairwise
      (· < ·) := by
  rw [deliver_events, map_map]
  refine pairwise_map.mpr ?_
  refine List.Pairwise.filter _ (pairwise_map.mpr ?_)
  refine h.imp ?_
  intro a b hab
  simpa [event] using hab.1

/-- A request binds the notifications without a stream to its own. -/
theorem Ordered.serve (h : Ordered next notifications cursors sent issued)
    (hissued : streamId ∈ issued) (after : Nat) :
    Ordered next (deliver streamId after notifications cursors).notifications
      (deliver streamId after notifications cursors).cursors
      (sent ++ (deliver streamId after notifications cursors).events) issued := by
  have hbelow : ∀ k, k < ceiling next → Below next (notifications.map (·.bind streamId)) k := by
    intro k hk
    refine ⟨hk, ?_⟩
    intro m hm hnone
    obtain ⟨n, _, rfl⟩ := mem_map.mp hm
    rw [bind_streamId] at hnone
    cases hnone
  have hcross : ∀ e ∈ sent, e.data.isSome = true →
      ∀ f ∈ (deliver streamId after notifications cursors).events,
        e.sequence = f.sequence → e.streamId = f.streamId := by
    intro e he hdata f hf heq
    obtain ⟨n, hn, hstream, _, rfl⟩ := mem_deliver_events hf
    have heq : n.sequence = e.sequence := heq.symm
    rcases hstream with hnone | hsome
    · exact absurd heq (Nat.ne_of_gt ((h.sentBelow e he).2 n hn hnone))
    · have hagree := h.agree e he hdata n hn heq
      rw [hsome] at hagree
      exact (Option.some.inj hagree).symm
  have hstream : ∀ f ∈ (deliver streamId after notifications cursors).events,
      f.streamId = streamId := by
    intro f hf
    obtain ⟨n, _, _, _, rfl⟩ := mem_deliver_events hf
    rfl
  rw [deliver_notifications]
  refine
    { h with
      older := ?_
      range := ?_
      cursorsBelow := ?_
      sentBelow := ?_
      sentIssued := ?_
      boundIssued := ?_
      agree := ?_
      oneStream := ?_ }
  · refine pairwise_map.mpr (h.older.imp ?_)
    intro a b hab
    refine ⟨by simpa using hab.1, fun _ => ?_⟩
    rw [bind_streamId]
    rfl
  · intro m hm
    obtain ⟨n, hn, rfl⟩ := mem_map.mp hm
    simpa using h.range n hn
  · intro c hc
    rw [deliver_cursors] at hc
    rcases mem_foldl_retain hc with hold | ⟨n, hn, heq⟩
    · exact hbelow _ (h.cursorsBelow c hold).1
    · rw [heq]
      exact hbelow _ (h.range n (mem_unbound.mp hn).1).2
  · intro e he
    rcases mem_append.mp he with hold | hnew
    · exact hbelow _ (h.sentBelow e hold).1
    · obtain ⟨n, hn, _, _, rfl⟩ := mem_deliver_events hnew
      exact hbelow _ (h.range n hn).2
  · intro e he
    rcases mem_append.mp he with hold | hnew
    · exact h.sentIssued e hold
    · rw [hstream e hnew]
      exact hissued
  · intro m hm stream hbound
    obtain ⟨n, hn, rfl⟩ := mem_map.mp hm
    cases hn' : n.streamId with
    | none =>
      rw [bind_of_unbound hn'] at hbound
      rw [← Option.some.inj hbound]
      exact hissued
    | some other =>
      rw [bind_of_bound hn', hn'] at hbound
      rw [← Option.some.inj hbound]
      exact h.boundIssued n hn other hn'
  · intro e he hdata m hm heq
    obtain ⟨n, hn, rfl⟩ := mem_map.mp hm
    rw [bind_sequence] at heq
    rcases mem_append.mp he with hold | hnew
    · cases hn' : n.streamId with
      | none => exact absurd heq (Nat.ne_of_gt ((h.sentBelow e hold).2 n hn hn'))
      | some other =>
        rw [bind_of_bound hn']
        exact h.agree e hold hdata n hn heq
    · obtain ⟨k, hk, hkstream, _, rfl⟩ := mem_deliver_events hnew
      have hsame : n = k := sequence_inj h.older hn hk heq
      subst hsame
      rw [bind_streamId]
      rcases hkstream with hnone | hsome
      · rw [hnone]; rfl
      · rw [hsome]; rfl
  · intro e he f hf hedata hfdata heq
    rcases mem_append.mp he with heold | henew
    · rcases mem_append.mp hf with hfold | hfnew
      · exact h.oneStream e heold f hfold hedata hfdata heq
      · exact hcross e heold hedata f hfnew heq
    · rcases mem_append.mp hf with hfold | hfnew
      · exact (hcross f hfold hfdata e henew heq.symm).symm
      · rw [hstream e henew, hstream f hfnew]

/-- The events of a resumed stream: what it had, then what no stream had. -/
theorem deliver_events_eq (h : notifications.Pairwise Older)
    (hbelow : ∀ n ∈ notifications, n.streamId = none → after < n.sequence)
    (cursors : List McpSseCursor) :
    (deliver streamId after notifications cursors).events =
      (notifications.filter fun n =>
          n.streamId = some streamId ∧ after < n.sequence).map (·.event streamId) ++
        (unbound notifications).map (·.event streamId) := by
  rw [deliver_events]
  induction notifications with
  | nil => rfl
  | cons n rest ih =>
    have hrest := ih (pairwise_cons.mp h).2 (fun m hm => hbelow m (mem_cons_of_mem _ hm))
    cases hn : n.streamId with
    | none =>
      have hnone : rest.filter (fun n => n.streamId = some streamId ∧ after < n.sequence) = [] := by
        refine filter_eq_nil_iff.mpr fun m hm hcond => ?_
        have hsome : m.streamId = some streamId := (by simpa using hcond : _ ∧ _).1
        have hfirst := ((pairwise_cons.mp h).1 m hm).2 (by rw [hsome]; rfl)
        rw [hn] at hfirst
        cases hfirst
      have hlt := hbelow n mem_cons_self hn
      rw [hnone, map_nil, nil_append] at hrest
      rw [map_cons, bind_of_unbound hn, filter_cons_of_pos (by simpa using hlt), map_cons, hrest,
        filter_cons_of_neg (by simp [hn]), hnone]
      simp [unbound, hn, event]
    | some stream =>
      rw [map_cons, bind_of_bound hn]
      by_cases hcond : n.streamId = some streamId ∧ after < n.sequence
      · rw [filter_cons_of_pos (by simpa using hcond),
          filter_cons_of_pos (by simpa using hcond), map_cons, map_cons,
          hrest]
        simp [unbound, hn]
      · rw [filter_cons_of_neg (by simpa using hcond),
          filter_cons_of_neg (by simpa using hcond), hrest]
        simp [unbound, hn]

end Serving

section Runs

variable (session : McpSession) {s : SseState}

theorem ceiling_le (h : next < 2 ^ 64) : ceiling next ≤ 2 ^ 64 := by
  unfold ceiling
  split
  · exact Nat.le_refl _
  · exact Nat.le_of_lt h

/-- The last event on a stream has the largest number there. -/
theorem le_lastReceived {last : SseEvent}
    (hincreasing : ((received.filter (·.streamId = stream)).map (·.sequence)).Pairwise (· < ·))
    (hlast : lastReceived received stream = some last) {e : SseEvent} (he : e ∈ received)
    (hstream : e.streamId = stream) : e.sequence ≤ last.sequence := by
  obtain ⟨front, hfront⟩ := getLast?_eq_some_iff.mp hlast
  have hmem : e ∈ front ++ [last] := by
    rw [← hfront]
    exact mem_filter.mpr ⟨he, by simpa using hstream⟩
  rw [hfront, map_append] at hincreasing
  rcases mem_append.mp hmem with hearlier | hsame
  · exact Nat.le_of_lt ((pairwise_append.mp hincreasing).2.2 e.sequence
      (mem_map_of_mem hearlier) last.sequence (by simp))
  · rw [mem_singleton.mp hsame]

theorem lastReceived_mem {last : SseEvent} (hlast : lastReceived received stream = some last) :
    last ∈ received :=
  mem_of_mem_filter (mem_of_getLast? hlast)

/-- The events of one answer, all behind what has arrived on their stream, arrive in part. -/
theorem Arrived.take {delivered : List SseEvent} (h : Arrived sent received)
    (hstream : ∀ e ∈ delivered, e.streamId = stream)
    (hincreasing : (delivered.map (·.sequence)).Pairwise (· < ·))
    (hbehind : ∀ e ∈ received, e.streamId = stream → ∀ f ∈ delivered, e.sequence < f.sequence)
    (arrived : Nat) : Arrived (sent ++ delivered) (received ++ delivered.take arrived) where
  wasSent := by
    intro e he
    rcases mem_append.mp he with hold | hnew
    · exact mem_append_left _ (h.wasSent e hold)
    · exact mem_append_right _ (mem_of_mem_take hnew)
  increasing := by
    intro other
    rw [filter_append, map_append]
    refine pairwise_append.mpr ⟨h.increasing other, ?_, ?_⟩
    · exact hincreasing.sublist ((filter_sublist.trans (take_sublist _ _)).map _)
    · intro x hx y hy
      obtain ⟨e, he, rfl⟩ := mem_map.mp hx
      obtain ⟨f, hf, rfl⟩ := mem_map.mp hy
      obtain ⟨he, hother⟩ := mem_filter.mp he
      obtain ⟨hf, hother'⟩ := mem_filter.mp hf
      have hf := mem_of_mem_take hf
      have hsame : e.streamId = stream := by
        rw [← hstream f hf, of_decide_eq_true hother, of_decide_eq_true hother']
      exact hbehind e he hsame f hf

theorem Arrived.nothing (h : Arrived sent received) (arrived : Nat) :
    Arrived (sent ++ []) (received ++ ([] : List SseEvent).take arrived) := by
  simpa using h

theorem deliver_events_streamId {e : SseEvent}
    (he : e ∈ (deliver stream after notifications cursors).events) :
    e.streamId = stream ∧ after < e.sequence := by
  obtain ⟨n, _, _, hafter, rfl⟩ := mem_deliver_events he
  exact ⟨rfl, hafter⟩

theorem evictSseStream_ordered
    (h : Ordered session.nextNotificationSequence session.notifications session.cursors
      sent issued) :
    Ordered (evictSseStream session).nextNotificationSequence
      (evictSseStream session).notifications (evictSseStream session).cursors
      sent issued := by
  unfold evictSseStream
  split
  · exact h
  · split
    · exact h.shrink filter_sublist filter_sublist.subset
    · exact h

theorem openStream_ordered (arrived : Nat)
    (h : Ordered session.nextNotificationSequence session.notifications session.cursors
      sent issued)
    (hissued : streamId ∈ issued) (hsilent : ∀ e ∈ sent, e.streamId ≠ streamId)
    (harrived : Arrived sent received) :
    Ordered (openStream session streamId).2.nextNotificationSequence
        (openStream session streamId).2.notifications (openStream session streamId).2.cursors
        (sent ++ (openStream session streamId).1.delivered) issued ∧
      Arrived (sent ++ (openStream session streamId).1.delivered)
        (received ++ (openStream session streamId).1.delivered.take arrived) := by
  have hevict := evictSseStream_ordered session h
  have hbehind : ∀ {delivered : List SseEvent}, ∀ e ∈ received, e.streamId = streamId →
      ∀ f ∈ delivered, e.sequence < f.sequence :=
    fun e he hstream => absurd hstream (hsilent e (harrived.wasSent e he))
  unfold openStream
  dsimp only
  split
  · have hserve := (hevict.prime hissued).serve hissued 0
    rw [append_assoc] at hserve
    refine ⟨hserve, harrived.take ?_ ?_ hbehind arrived⟩
    · intro e he
      rcases mem_cons.mp he with rfl | hevent
      · rfl
      · exact (deliver_events_streamId hevent).1
    · refine pairwise_cons.mpr ⟨fun k hk => ?_, deliver_events_increasing hevict.older _ _ _⟩
      obtain ⟨e, he, rfl⟩ := mem_map.mp hk
      exact (deliver_events_streamId he).2
  · exact ⟨hevict.serve hissued _, harrived.take (fun e he => (deliver_events_streamId he).1)
      (deliver_events_increasing hevict.older _ _ _) hbehind arrived⟩

theorem handleGet_resume {lastEvent : String} {cursor : McpSseCursor}
    (hparse : parseSseCursor lastEvent = some cursor) (hempty : lastEvent ≠ "")
    (streamId : String) :
    handleGet session lastEvent streamId =
      if session.state ≠ .initialized then (.notFound, session)
      else if isRetainedSseCursor session cursor then
        serveStream session cursor.streamId cursor.sequence []
      else (.badRequest "Last-Event-ID is unknown or expired", session) := by
  unfold handleGet
  rw [if_neg hempty, hparse]

theorem get_ordered {lastEvent : String} {arrived : Nat} (h : s.Ordered)
    (hclient : ClientRequests s (.get lastEvent streamId arrived))
    (hid : isStreamId streamId = true) :
    SseState.Ordered
      { session := (handleGet s.session lastEvent streamId).2
        sent := s.sent ++ (handleGet s.session lastEvent streamId).1.delivered
        received := s.received ++ (handleGet s.session lastEvent streamId).1.delivered.take arrived
        issued := if lastEvent = "" then s.issued ++ [streamId] else s.issued } := by
  obtain ⟨horder, harrived⟩ := h
  rcases hclient with ⟨rfl, hfresh⟩ | ⟨e, hlast, rfl⟩
  · rw [if_pos rfl]
    have hissue := horder.issue hid
    unfold handleGet
    split
    · exact ⟨(append_nil s.sent).symm ▸ hissue, harrived.nothing arrived⟩
    rw [if_pos rfl]
    obtain ⟨hopen, hopened⟩ := openStream_ordered s.session arrived hissue
      (mem_append_right _ (mem_singleton_self _))
      (fun e he hsame => hfresh (hsame ▸ horder.sentIssued e he)) harrived
    exact ⟨hopen, hopened⟩
  · have hempty := sseEventId_ne_empty e.streamId e.sequence
    have he := lastReceived_mem hlast
    have hissued := horder.sentIssued e (harrived.wasSent e he)
    have hparse := parseSseCursor_sseEventId (horder.identifiers _ hissued)
      (Nat.lt_of_lt_of_le (horder.sentBelow e (harrived.wasSent e he)).1 (ceiling_le horder.word))
    rw [if_neg hempty, handleGet_resume _ hparse hempty]
    have hrefused : SseState.Ordered
        { session := s.session, sent := s.sent ++ []
          received := s.received ++ ([] : List SseEvent).take arrived, issued := s.issued } :=
      ⟨(append_nil s.sent).symm ▸ horder, harrived.nothing arrived⟩
    split
    · exact hrefused
    split
    · refine ⟨horder.serve hissued _, harrived.take (fun f hf => (deliver_events_streamId hf).1)
        (deliver_events_increasing horder.older _ _ _) ?_ arrived⟩
      intro f hf hstream g hg
      exact Nat.lt_of_le_of_lt (le_lastReceived (harrived.increasing _) hlast hf hstream)
        (deliver_events_streamId hg).2
    · exact hrefused

theorem retain_ordered (h : s.Ordered) (hnext : s.session.nextNotificationSequence ≠ 0)
    (json : Json) :
    SseState.Ordered { s with session := s.session.retain json } :=
  ⟨h.order.push hnext json, h.arrived⟩

theorem sseStep_ordered (s : SseState) (a : SseAction) (t : SseState) (hstep : sseStep s a = some t)
    (hclient : ClientRequests s a ∧ Numbered s a) (h : s.Ordered) : t.Ordered := by
  rcases sseStep_cases hstep with ⟨state, -, rfl⟩ | ⟨json, ⟨method, params, ha⟩, rfl⟩ |
    ⟨lastEvent, streamId, arrived, rfl, hid, rfl⟩
  · exact ⟨h.order, h.arrived⟩
  · refine retain_ordered h ?_ json
    rcases ha with rfl | rfl <;> exact hclient.2
  · exact get_ordered h hclient.1 hid

theorem parseSseCursor_empty : parseSseCursor "" = none := by
  decide +kernel

theorem delivers_of_ordered (h : s.Ordered) : DeliversInOrder s where
  oneStream := h.order.oneStream
  increasing := h.arrived.increasing
  resumed := by
    intro lastEvent cursor streamId hparse haccepted
    have hempty : lastEvent ≠ "" := by
      rintro rfl
      rw [parseSseCursor_empty] at hparse
      cases hparse
    rw [handleGet_resume _ hparse hempty] at haccepted ⊢
    split at haccepted
    · cases haccepted
    rename_i hstate
    split at haccepted
    next hretained =>
      rw [if_neg hstate, if_pos hretained]
      have hcursor : cursor ∈ s.session.cursors := by
        unfold isRetainedSseCursor at hretained
        rw [Bool.and_eq_true, any_eq_true, any_eq_true] at hretained
        obtain ⟨_, c, hc, heq⟩ := hretained
        exact beq_iff_eq.mp heq ▸ hc
      exact deliver_events_eq h.order.older (h.order.cursorsBelow cursor hcursor).2 _
    next => cases haccepted

/-- The stream of the notification with a number, and that the number has been used. -/
def BoundTo (stream : String) (sequence : Nat) (s : SseState) : Prop :=
  s.Ordered ∧ sequence < ceiling s.session.nextNotificationSequence ∧
    ∀ m, m ∈ s.session.notifications → m.sequence = sequence → m.streamId = some stream

theorem bind_boundTo {sequence : Nat}
    (h : ∀ m ∈ notifications, m.sequence = sequence → m.streamId = some stream)
    (m : McpNotification) (hm : m ∈ notifications.map (·.bind streamId))
    (heq : m.sequence = sequence) : m.streamId = some stream := by
  obtain ⟨n, hn, rfl⟩ := mem_map.mp hm
  rw [bind_sequence] at heq
  have hbound := h n hn heq
  rw [bind_of_bound hbound]
  exact hbound

/-- The notifications after a GET request are those before it, bound, or fewer. -/
theorem handleGet_notifications (lastEvent streamId : String) :
    (handleGet session lastEvent streamId).2.nextNotificationSequence =
        session.nextNotificationSequence ∧
      ∃ kept : List McpNotification, kept.Sublist session.notifications ∧
        ((handleGet session lastEvent streamId).2.notifications = kept ∨
          ∃ stream, (handleGet session lastEvent streamId).2.notifications =
            kept.map (·.bind stream)) := by
  have hevict : (evictSseStream session).nextNotificationSequence =
        session.nextNotificationSequence ∧
      (evictSseStream session).notifications.Sublist session.notifications := by
    unfold evictSseStream
    split
    · exact ⟨rfl, List.Sublist.refl _⟩
    · split
      · exact ⟨rfl, filter_sublist⟩
      · exact ⟨rfl, List.Sublist.refl _⟩
  unfold handleGet
  split
  · exact ⟨rfl, _, List.Sublist.refl _, .inl rfl⟩
  split
  · unfold openStream
    dsimp only
    split
    all_goals exact ⟨hevict.1, _, hevict.2, .inr ⟨streamId, deliver_notifications ..⟩⟩
  split
  · exact ⟨rfl, _, List.Sublist.refl _, .inl rfl⟩
  next cursor _ =>
    split
    · exact ⟨rfl, _, List.Sublist.refl _, .inr ⟨cursor.streamId, deliver_notifications ..⟩⟩
    · exact ⟨rfl, _, List.Sublist.refl _, .inl rfl⟩

theorem retain_boundTo {sequence : Nat} (h : BoundTo stream sequence s)
    (hnext : s.session.nextNotificationSequence ≠ 0) (json : Json) :
    BoundTo stream sequence { s with session := s.session.retain json } := by
  obtain ⟨hordered, hlt, hbound⟩ := h
  obtain ⟨hceiling, hnow⟩ := ceiling_wrapAdd hordered.order.word hnext
  rw [hnow] at hlt
  refine ⟨retain_ordered hordered hnext json, ?_, ?_⟩
  · change sequence < ceiling (wrapAdd s.session.nextNotificationSequence 1)
    rw [hceiling]
    omega
  · intro m hm heq
    rcases mem_pushBounded hm with hold | rfl
    · exact hbound m hold heq
    · exact absurd heq (Nat.ne_of_gt hlt)

theorem sseStep_boundTo (stream : String) (sequence : Nat)
    (s : SseState) (a : SseAction) (t : SseState) (hstep : sseStep s a = some t)
    (hclient : ClientRequests s a ∧ Numbered s a) (h : BoundTo stream sequence s) :
    BoundTo stream sequence t := by
  have hordered := sseStep_ordered s a t hstep hclient h.1
  rcases sseStep_cases hstep with ⟨state, -, rfl⟩ | ⟨json, ⟨method, params, ha⟩, rfl⟩ |
    ⟨lastEvent, streamId, arrived, rfl, -, rfl⟩
  · exact ⟨hordered, h.2⟩
  · refine retain_boundTo h ?_ json
    rcases ha with rfl | rfl <;> exact hclient.2
  · obtain ⟨hnext, kept, hsub, hkept⟩ := handleGet_notifications s.session lastEvent streamId
    have hbound : ∀ m ∈ kept, m.sequence = sequence → m.streamId = some stream :=
      fun m hm => h.2.2 m (hsub.subset hm)
    refine ⟨hordered, ?_, ?_⟩
    · dsimp only
      rw [hnext]
      exact h.2.1
    · dsimp only
      rcases hkept with hsame | ⟨other, hmap⟩
      · rw [hsame]
        exact hbound
      · rw [hmap]
        exact bind_boundTo hbound

/-- A client that goes on where it stopped sees every stream once and in order. -/
theorem streams_deliver_in_order
    (protocolVersion : String) (actions later : List SseAction) (s t : SseState)
    (hclient : sseMachine.Meets (fun s a => ClientRequests s a ∧ Numbered s a)
      (sseStart protocolVersion) actions)
    (hrun : sseMachine.run (sseStart protocolVersion) actions = some s)
    (hlater : sseMachine.Meets (fun s a => ClientRequests s a ∧ Numbered s a) s later)
    (hthen : sseMachine.run s later = some t) : DeliversInOrder t ∧ KeepsStreams s t := by
  have hs : s.Ordered :=
    sseMachine.meets_preserves sseStep_ordered hclient hrun (sseStart_ordered protocolVersion)
  have ht : t.Ordered := sseMachine.meets_preserves sseStep_ordered hlater hthen hs
  refine ⟨delivers_of_ordered ht, ?_⟩
  intro n hn stream hstream
  have hstart : BoundTo stream n.sequence s := by
    refine ⟨hs, (hs.order.range n hn).2, ?_⟩
    intro m hm heq
    rw [sequence_inj hs.order.older hm hn heq]
    exact hstream
  have hend : BoundTo stream n.sequence t :=
    sseMachine.meets_preserves (sseStep_boundTo stream n.sequence) hlater hthen hstart
  exact hend.2.2

/-- A notification of a test run. -/
def plainNote : SseAction := .enqueue "notifications/message" .null

def plainJson : Json := notificationJson "notifications/message" .null

def plainStream : String := "0000000000000000000000000000000c"

def otherStream : String := "0000000000000000000000000000000d"

/-- A stream is opened after two notifications, and its last event does not arrive. -/
def openingActions : List SseAction :=
  [.becomeInitialized, plainNote, plainNote, .get "" plainStream 2]

/-- The stream is resumed after another notification. -/
def resumingActions : List SseAction := [plainNote, .get (sseEventId plainStream 1) otherStream 2]

theorem resumed_stream_delivers :
    ∃ s t,
      sseMachine.run (sseStart primingProtocolVersion) openingActions = some s ∧
      sseMachine.run s resumingActions = some t ∧
      (DeliversInOrder t ∧ KeepsStreams s t) ∧
      t.received.map (·.sequence) = [0, 1, 2, 3] := by
  obtain ⟨t, hboth, ht⟩ := sseMachine.run_of_any (sseStart primingProtocolVersion)
    (openingActions ++ resumingActions)
    (fun t : SseState => t.received.map (·.sequence) == [0, 1, 2, 3]) (by decide +kernel)
  obtain ⟨s, hrun, hthen⟩ := sseMachine.run_append_iff.mp hboth
  obtain ⟨s', hrun', hs⟩ := sseMachine.run_of_any (sseStart primingProtocolVersion) openingActions
    (fun s : SseState => s.session.nextNotificationSequence == 3 &&
      (lastReceived s.received plainStream).any
        (fun e => e.streamId == plainStream && e.sequence == 1))
    (by decide +kernel)
  obtain rfl : s' = s := Option.some.inj (hrun'.symm.trans hrun)
  rw [Bool.and_eq_true, beq_iff_eq, Option.any_eq_true] at hs
  obtain ⟨hnext, e, hlast, he⟩ := hs
  rw [Bool.and_eq_true, beq_iff_eq, beq_iff_eq] at he
  refine ⟨s', t, hrun, hthen, ?_, beq_iff_eq.mp ht⟩
  refine streams_deliver_in_order primingProtocolVersion openingActions resumingActions s' t
    ?_ hrun ?_ hthen
  · refine ⟨⟨trivial, trivial⟩, fun u hu => ?_⟩
    cases hu
    refine ⟨⟨trivial, Nat.succ_ne_zero 0⟩, fun u hu => ?_⟩
    cases hu
    refine ⟨⟨trivial, Nat.succ_ne_zero 1⟩, fun u hu => ?_⟩
    cases hu
    exact ⟨⟨.inl ⟨rfl, by decide⟩, trivial⟩, fun _ _ => trivial⟩
  · refine ⟨⟨trivial, by rw [plainNote, Numbered, hnext]; decide⟩, fun u hu => ?_⟩
    cases hu
    refine ⟨⟨.inr ⟨e, ?_, ?_⟩, trivial⟩, fun _ _ => trivial⟩
    · rw [he.1]
      exact hlast
    · rw [he.1, he.2]

/-- A session that has only been sent notifications, and the number of the last one. -/
structure Silent (count : Nat) (s : SseState) : Prop where
  state : s.session.state = .initialized
  version : s.session.protocolVersion ≠ primingProtocolVersion
  streams : s.session.streams = []
  issued : s.issued = []
  next : s.session.nextNotificationSequence = (count + 1) % 2 ^ 64
  nothingBound : ∀ n, n ∈ s.session.notifications → n.streamId = none
  words : ∀ n, n ∈ s.session.notifications → n.sequence < 2 ^ 64
  last : 0 < count → ∃ front, s.session.notifications = front ++ [⟨count % 2 ^ 64, none, plainJson⟩]

theorem Silent.note (h : Silent count s) :
    ∃ t, sseMachine.step s plainNote = some t ∧ Silent (count + 1) t := by
  refine ⟨{ s with session := s.session.retain plainJson }, rfl, ?_⟩
  have hnext := h.next
  exact
    { h with
      next := by
        change wrapAdd s.session.nextNotificationSequence 1 = _
        rw [hnext]
        unfold wrapAdd
        exact Nat.mod_add_mod _ _ _
      nothingBound := fun n hn => by
        rcases mem_pushBounded hn with hold | rfl
        · exact h.nothingBound n hold
        · rfl
      words := fun n hn => by
        rcases mem_pushBounded hn with hold | rfl
        · exact h.words n hold
        · change s.session.nextNotificationSequence < 2 ^ 64
          rw [hnext]
          exact Nat.mod_lt _ (by decide)
      last := fun _ => by
        rw [← hnext]
        exact ⟨_, rfl⟩ }

/-- Any number of notifications can be enqueued. -/
theorem Silent.notes (h : Silent count s) (more : Nat) :
    ∃ t, sseMachine.run s (replicate more plainNote) = some t ∧
      Silent (count + more) t := by
  induction more generalizing count s with
  | zero => exact ⟨s, rfl, h⟩
  | succ more ih =>
    obtain ⟨t, hstep, ht⟩ := h.note
    obtain ⟨u, hrun, hu⟩ := ih ht
    refine ⟨u, sseMachine.run_cons_iff.mpr ⟨t, hstep, hrun⟩, ?_⟩
    have hcount : count + (more + 1) = count + 1 + more := by omega
    rw [hcount]
    exact hu

/-- Notifications ask nothing of the client, so a fresh request may follow them. -/
theorem notes_then_get_meets (more : Nat) (s : SseState) (hissued : s.issued = []) :
    sseMachine.Meets ClientRequests s
      (replicate more plainNote ++ [.get "" plainStream 0, plainNote]) := by
  induction more generalizing s with
  | zero =>
    refine ⟨.inl ⟨rfl, ?_⟩, fun t _ => ⟨trivial, fun _ _ => trivial⟩⟩
    rw [hissued]
    exact not_mem_nil
  | succ more ih =>
    refine ⟨trivial, fun t ht => ih t ?_⟩
    have hstep : some { s with session := s.session.retain plainJson } = some t := ht
    cases hstep
    exact hissued

theorem mem_foldl_retain_of_mem_last {front : List McpNotification} {last : McpNotification} :
    (⟨streamId, last.sequence⟩ : McpSseCursor) ∈
      (front ++ [last]).foldl
        (fun retained n => retainSseCursor retained streamId n.sequence) cursors := by
  rw [foldl_append]
  exact entry_mem_pushBounded

/-- The fresh request after the notifications gives its stream all of them. -/
theorem Silent.get (h : Silent count s) (hcount : 0 < count) :
    ∃ t, sseMachine.step s (.get "" plainStream 0) = some t ∧ t.session.state = .initialized ∧
      t.session.streams = [plainStream] ∧
      t.session.nextNotificationSequence = (count + 1) % 2 ^ 64 ∧
      (∀ n ∈ t.session.notifications, n.sequence < 2 ^ 64) ∧
      (⟨plainStream, count % 2 ^ 64⟩ : McpSseCursor) ∈ t.session.cursors := by
  have hevict : evictSseStream s.session = s.session := by
    unfold evictSseStream
    rw [h.streams]
  have hopen : openStream s.session plainStream =
      serveStream { s.session with streams := s.session.streams ++ [plainStream] }
        plainStream 0 [] := by
    unfold openStream createSseStream
    rw [hevict]
    exact if_neg h.version
  have hget : handleGet s.session "" plainStream = openStream s.session plainStream := by
    unfold handleGet
    rw [if_neg (not_not.mpr h.state), if_pos rfl]
  have hfresh : isStreamId plainStream = true ∧ plainStream ∉ s.session.streams := by
    rw [h.streams]
    exact ⟨by decide +kernel, not_mem_nil⟩
  obtain ⟨front, hfront⟩ := h.last hcount
  refine ⟨
    { session := (handleGet s.session "" plainStream).2
      sent := s.sent ++ (handleGet s.session "" plainStream).1.delivered
      received := s.received ++ (handleGet s.session "" plainStream).1.delivered.take 0
      issued := s.issued ++ [plainStream] }, if_pos hfresh, ?_⟩
  dsimp only
  rw [hget, hopen]
  refine ⟨h.state, ?_, h.next, ?_, ?_⟩
  · change s.session.streams ++ [plainStream] = [plainStream]
    rw [h.streams, nil_append]
  · intro n hn
    change n ∈ (deliver plainStream 0 s.session.notifications s.session.cursors).notifications at hn
    rw [deliver_notifications] at hn
    obtain ⟨m, hm, rfl⟩ := mem_map.mp hn
    rw [bind_sequence]
    exact h.words m hm
  · change _ ∈ (deliver plainStream 0 s.session.notifications s.session.cursors).cursors
    have hall : unbound s.session.notifications = s.session.notifications :=
      filter_eq_self.mpr fun n hn => by rw [h.nothingBound n hn]; rfl
    rw [deliver_cursors, hall, hfront]
    exact mem_foldl_retain_of_mem_last

/-- A notification whose number has started over is behind the cursor of the stream. -/
theorem skips_small_number {after : Nat} (hafter : after + 1 = 2 ^ 64)
    (hstate : session.state = .initialized) (hstreams : plainStream ∈ session.streams)
    (hcursor : (⟨plainStream, after⟩ : McpSseCursor) ∈ session.cursors)
    (hwords : ∀ n ∈ session.notifications, n.sequence < 2 ^ 64)
    (hunbound : unbound session.notifications ≠ []) :
    ∃ lastEvent cursor streamId,
      parseSseCursor lastEvent = some cursor ∧
      (handleGet session lastEvent streamId).1.accepted = true ∧
      (handleGet session lastEvent streamId).1.delivered ≠ resumedEvents session cursor := by
  have hparse : parseSseCursor (sseEventId plainStream after) = some ⟨plainStream, after⟩ :=
    parseSseCursor_sseEventId (by decide +kernel) (by omega)
  have hretained : isRetainedSseCursor session ⟨plainStream, after⟩ = true := by
    unfold isRetainedSseCursor
    rw [Bool.and_eq_true, any_eq_true, any_eq_true]
    exact ⟨⟨_, hstreams, beq_self_eq_true _⟩, ⟨_, hcursor, beq_self_eq_true _⟩⟩
  have hget := handleGet_resume session hparse (sseEventId_ne_empty plainStream after) plainStream
  rw [if_neg (not_not.mpr hstate), if_pos hretained] at hget
  refine ⟨_, _, plainStream, hparse, ?_, ?_⟩
  · rw [hget]
    rfl
  · have hnone : (deliver plainStream after session.notifications session.cursors).events = [] := by
      refine eq_nil_iff_forall_not_mem.mpr fun e he => ?_
      obtain ⟨n, hn, _, hlt, _⟩ := mem_deliver_events he
      have hword := hwords n hn
      omega
    rw [hget]
    change (deliver plainStream after session.notifications session.cursors).events ≠ _
    rw [hnone]
    intro hnil
    have hmap := (append_eq_nil_iff.mp hnil.symm).2
    exact hunbound (map_eq_nil_iff.mp hmap)

/-- All the numbers there are, a request for them, and one notification more. -/
def exhaustingActions (more : Nat) : List SseAction :=
  .becomeInitialized :: (replicate more plainNote ++ [.get "" plainStream 0, plainNote])

theorem exhausting_actions_skip {more : Nat} (hmore : more + 1 = 2 ^ 64) :
    ∃ s, sseMachine.run (sseStart "2025-06-18") (exhaustingActions more) = some s ∧
      ¬ DeliversInOrder s := by
  have hstart : Silent 0
      { sseStart "2025-06-18" with
        session := { createSession "2025-06-18" with state := .initialized } } :=
    { state := rfl
      version := by decide +kernel
      streams := rfl
      issued := rfl
      next := rfl
      nothingBound := fun _ h => nomatch h
      words := fun _ h => nomatch h
      last := fun h => absurd h (Nat.lt_irrefl 0) }
  obtain ⟨s, hnotes, hs⟩ := hstart.notes more
  rw [Nat.zero_add] at hs
  obtain ⟨t, hget, hstate, hstreams, hnext, hwords, hcursor⟩ := hs.get (by omega)
  have hzero : t.session.nextNotificationSequence = 0 := by
    rw [hnext, hmore, Nat.mod_self]
  have hsmall : more % 2 ^ 64 = more := Nat.mod_eq_of_lt (by omega)
  rw [hsmall] at hcursor
  refine ⟨{ t with session := t.session.retain plainJson }, ?_, ?_⟩
  · refine sseMachine.run_cons_iff.mpr ⟨_, rfl, ?_⟩
    refine sseMachine.run_append_iff.mpr ⟨s, hnotes, ?_⟩
    exact sseMachine.run_cons_iff.mpr ⟨t, hget, rfl⟩
  · intro hdelivers
    have hwords' : ∀ n ∈ (t.session.retain plainJson).notifications, n.sequence < 2 ^ 64 := by
      intro n hn
      rcases mem_pushBounded hn with hold | rfl
      · exact hwords n hold
      · change t.session.nextNotificationSequence < 2 ^ 64
        rw [hzero]
        decide
    have hopened : plainStream ∈ (t.session.retain plainJson).streams := by
      change plainStream ∈ t.session.streams
      rw [hstreams]
      exact mem_singleton_self _
    have hentry : (⟨t.session.nextNotificationSequence, none, plainJson⟩ : McpNotification) ∈
        unbound (t.session.retain plainJson).notifications :=
      mem_unbound.mpr ⟨entry_mem_pushBounded, rfl⟩
    obtain ⟨lastEvent, cursor, streamId, hparse, haccepted, hdiffer⟩ :=
      skips_small_number (t.session.retain plainJson) hmore hstate hopened
        hcursor hwords' (ne_nil_of_mem hentry)
    exact hdiffer (hdelivers.resumed lastEvent cursor streamId hparse haccepted)

/-- With its counter exhausted, a session accepts a resume and skips what it should send. -/
theorem exhausted_counter_skips_notification :
    sseMachine.Meets ClientRequests (sseStart "2025-06-18")
        (exhaustingActions (2 ^ 64 - 1)) ∧
      ∃ s,
        sseMachine.run (sseStart "2025-06-18") (exhaustingActions (2 ^ 64 - 1)) = some s ∧
        ¬ DeliversInOrder s := by
  refine ⟨⟨trivial, fun s hs => ?_⟩, exhausting_actions_skip (by decide)⟩
  have hstep : some { sseStart "2025-06-18" with
      session := { createSession "2025-06-18" with state := .initialized } } = some s := hs
  cases hstep
  exact notes_then_get_meets _ _ rfl

end Runs

end Bbp.Mcp
