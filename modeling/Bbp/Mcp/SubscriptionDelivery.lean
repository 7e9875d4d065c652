import Bbp.Mcp.ServiceSections

/-!
# What subscribers receive

Two results about subscriptions, over all runs of the service.

* `subscriptions_are_gap_aware`: the retained records of a subscription are consecutive and
  bounded, the count of dropped records is exact, and a chain of polls returns each record
  at most once, in order, and misses only records that were dropped ahead of it.
* `publications_reach_subscribers`: a publication reaches every subscription it matches, as
  long as no subscription was created with a cursor in the upper half of the 64-bit words.
  With a cursor just below the largest word, one subscription keeps every record from all
  subscriptions that match it.
-/

namespace Bbp.Mcp

open Library List

section Property

/-- A poll of the chain is handed the cursor that the poll before it returned. -/
def FollowsChain (s : Service) : ServiceAction → Prop
  | .endPoll sessionId id after _ true =>
    ∀ r, r ∈ s.subscriptions → r.sessionId = sessionId → r.id = id → after = r.trace.chain
  | _ => True

instance decidableFollowsChain
    (s : Service) (a : ServiceAction) :
    Decidable (FollowsChain s a) := by
  unfold FollowsChain
  split <;> infer_instance

/-- The promises of a subscription to its client. -/
structure GapAware (config : ServiceConfig) (r : SubscriptionRecord) : Prop where
  consecutive : r.notifications.map (·.sequence) =
    range' (r.nextSequence - r.notifications.length) r.notifications.length
  bounded : r.notifications.length ≤ config.maximumNotificationsPerSubscription
  dropped : r.dropped = r.trace.given.length - r.notifications.length
  once : (r.trace.returned.map (·.sequence)).Pairwise (· < ·)
  published : ∀ x, x ∈ r.trace.returned → x ∈ r.trace.given
  complete : ∀ x, x ∈ r.trace.given → x ∈ r.trace.returned ∨ x ∈ r.trace.missed ∨
      (x ∈ r.notifications ∧ r.trace.chain < x.sequence)
  /-- A missed record was dropped before the chain had reached it. -/
  missed : ∀ x, x ∈ r.trace.missed → x ∉ r.trace.returned ∧ x ∉ r.notifications

/-- A reply to a poll of the chain: retained records ahead of the chain, in order and without a
gap, as many as the limit or else all that the chain can still reach. -/
structure AnswersPoll (r : SubscriptionRecord) (limit : Nat) (reply : McpSubscriptionSnapshot) :
    Prop where
  named : reply.sessionId = r.sessionId ∧ reply.subscriptionId = r.id
  dropped : reply.dropped = r.dropped
  cursor : reply.nextCursor = (reply.items.getLast?.map (·.sequence)).getD r.trace.chain
  increasing : reply.items.Pairwise fun a b => a.sequence < b.sequence
  ahead : ∀ x, x ∈ reply.items → x ∈ r.notifications ∧ r.trace.chain < x.sequence
  gapless : ∀ x, x ∈ r.notifications → r.trace.chain < x.sequence →
    x ∈ reply.items ∨ reply.nextCursor < x.sequence
  filled : reply.items.length = limit ∨
    ∀ x, x ∈ r.trace.given → x ∈ r.trace.returned ∨ x ∈ r.trace.missed ∨ x ∈ reply.items

end Property

section Invariant

/-- The retained records are the end of what was given, and the chain is inside of it. -/
structure Tracked (limit : Nat) (r : SubscriptionRecord) : Prop where
  counted : r.nextSequence = r.trace.cursor + 1 + r.trace.given.length
  word : r.nextSequence ≤ maximumWord
  numbers : r.trace.given.map (·.sequence) = range' (r.trace.cursor + 1) r.trace.given.length
  retained : r.notifications <:+ r.trace.given
  bounded : r.notifications.length ≤ limit
  dropped : r.dropped + r.notifications.length = r.trace.given.length
  once : (r.trace.returned.map (·.sequence)).Pairwise (· < ·)
  published : ∀ x, x ∈ r.trace.returned → x ∈ r.trace.given
  behind : ∀ x, x ∈ r.trace.returned → x.sequence ≤ r.trace.chain
  chain : r.trace.chain < r.nextSequence
  complete : ∀ x, x ∈ r.trace.given → x ∈ r.trace.returned ∨ x ∈ r.trace.missed ∨
      (x ∈ r.notifications ∧ r.trace.chain < x.sequence)
  missed : ∀ x, x ∈ r.trace.missed → x.sequence + r.notifications.length < r.nextSequence ∧
      ∀ y, y ∈ r.trace.returned → y.sequence ≠ x.sequence

variable {limit : Nat} {r : SubscriptionRecord}

variable (h : Tracked limit r)

include h

theorem Tracked.consecutive :
    r.notifications.map (·.sequence) =
      range' (r.nextSequence - r.notifications.length) r.notifications.length := by
  obtain ⟨older, holder⟩ := h.retained
  have hlength : older.length + r.notifications.length = r.trace.given.length := by
    rw [← holder, length_append]
  have hnumbers := h.numbers
  rw [← holder, map_append, length_append, ← range'_append_1] at hnumbers
  have hend := (append_inj hnumbers (by simp)).2
  rw [hend, h.counted]
  congr 1
  omega

theorem Tracked.sequence_range {x : McpEvidenceRecord} (hx : x ∈ r.notifications) :
    r.nextSequence - r.notifications.length ≤ x.sequence ∧ x.sequence < r.nextSequence := by
  have hmem : x.sequence ∈ r.notifications.map (·.sequence) := mem_map_of_mem hx
  have hcounted := h.counted
  have hlength := h.retained.length_le
  rw [h.consecutive, mem_range'_1] at hmem
  omega

theorem Tracked.increasing :
    r.notifications.Pairwise fun a b => a.sequence < b.sequence := by
  refine pairwise_map.mp ?_
  rw [h.consecutive]
  exact pairwise_lt_range'

omit h in
theorem createdSubscription_tracked
    (id sessionId : String) {request : McpSubscriptionRequest} (admission : Nat)
    (hvalid : request.valid = true) :
    Tracked limit (createdSubscription id sessionId request admission) := by
  have hcursor : request.cursor < maximumWord := by
    unfold McpSubscriptionRequest.valid at hvalid
    simp only [Bool.and_eq_true, decide_eq_true_eq] at hvalid
    exact hvalid.2
  have hnext : wrapAdd request.cursor 1 = request.cursor + 1 :=
    wrapAdd_of_le (by unfold maximumWord at hcursor; omega)
  have hcounted : (createdSubscription id sessionId request admission).nextSequence =
      request.cursor + 1 := hnext
  exact
    { counted := hcounted
      word := by rw [hcounted]; exact hcursor
      numbers := rfl
      retained := suffix_rfl
      bounded := Nat.zero_le _
      dropped := rfl
      once := List.Pairwise.nil
      published := fun _ h => nomatch h
      behind := fun _ h => nomatch h
      chain := by rw [hcounted]; exact Nat.lt_succ_self _
      complete := fun _ h => nomatch h
      missed := fun _ h => nomatch h }

/-- Being active or not is none of it. -/
theorem Tracked.deactivate (active : Bool) : Tracked limit { r with active := active } :=
  { h with }

end Invariant

section Giving

variable {limit : Nat} {r : SubscriptionRecord}

/-- The front record of a full queue. -/
theorem Tracked.front (h : Tracked limit r)
    {front : McpEvidenceRecord} {rest : List McpEvidenceRecord}
    (hfront : r.notifications = front :: rest) :
    front.sequence + r.notifications.length = r.nextSequence := by
  have hconsecutive := h.consecutive
  have hcounted := h.counted
  have hlength := h.retained.length_le
  rw [hfront, map_cons, length_cons, range'_succ] at hconsecutive
  have hhead := (cons.inj hconsecutive).1
  rw [hfront, length_cons] at hlength ⊢
  omega

theorem give_lengths (hlimit : 0 < limit) (h : Tracked limit r) (record : McpEvidenceRecord) :
    (r.give limit record).dropped + (r.give limit record).notifications.length =
      r.trace.given.length + 1 := by
  have hdropped := h.dropped
  have hcounted := h.counted
  have hword := h.word
  unfold SubscriptionRecord.give pushBounded
  dsimp only
  split
  next hfull =>
    have hwrap : wrapAdd r.dropped 1 = r.dropped + 1 :=
      wrapAdd_of_le (by unfold maximumWord at hword; omega)
    rw [hwrap, length_append, length_tail, length_singleton]
    omega
  next =>
    rw [length_append, length_singleton]
    omega

/-- A record that is given keeps the promises of the subscription. -/
theorem Tracked.give (hlimit : 0 < limit) (h : Tracked limit r)
    (hnext : r.nextSequence ≠ maximumWord) (record : McpEvidenceRecord) :
    Tracked limit (r.give limit record) := by
  have hword := h.word
  have hwrap : wrapAdd r.nextSequence 1 = r.nextSequence + 1 :=
    wrapAdd_of_le (by unfold maximumWord at hword hnext; omega)
  have hsequence : (r.give limit record).nextSequence = r.nextSequence + 1 := hwrap
  have hgiven : (r.give limit record).trace.given = r.trace.given ++ [r.numbered record] := rfl
  have hchain : (r.give limit record).trace.chain = r.trace.chain := rfl
  have hqueue : (r.give limit record).notifications =
      pushBounded limit r.notifications (r.numbered record) := rfl
  have hcounted := h.counted
  refine
    { h with
      counted := ?_
      word := ?_
      numbers := ?_
      retained := pushBounded_suffix h.retained
      bounded := length_pushBounded_le hlimit h.bounded
      dropped := ?_
      published := fun x hx => mem_append_left _ (h.published x hx)
      chain := ?_
      complete := ?_
      missed := ?_ }
  · rw [hsequence, hgiven, length_append, length_singleton]
    change r.nextSequence + 1 = r.trace.cursor + 1 + (r.trace.given.length + 1)
    omega
  · rw [hsequence]
    omega
  · change (r.trace.given ++ [r.numbered record]).map (·.sequence) =
      range' (r.trace.cursor + 1) (r.trace.given ++ [r.numbered record]).length
    rw [map_append, length_append, h.numbers, length_singleton, ← range'_append_1]
    congr 1
    change [r.nextSequence] = _
    rw [hcounted]
    rfl
  · rw [give_lengths hlimit h record, hgiven, length_append, length_singleton]
  · rw [hsequence, hchain]
    have hlt := h.chain
    omega
  · intro x hx
    rcases mem_append.mp hx with hold | hnew
    · rcases h.complete x hold with hreturned | hmissed | ⟨hkept, hahead⟩
      · exact .inl hreturned
      · refine .inr (.inl ?_)
        unfold SubscriptionRecord.give
        dsimp only
        split
        · exact mem_append_left _ hmissed
        · exact hmissed
      · by_cases hfull : r.notifications.length = limit
        · obtain ⟨front, rest, hfront⟩ := exists_cons_of_ne_nil (ne_nil_of_mem hkept)
          rw [hfront] at hkept
          rcases mem_cons.mp hkept with rfl | hrest
          · refine .inr (.inl ?_)
            unfold SubscriptionRecord.give
            dsimp only
            rw [if_pos hfull]
            refine mem_append_right _ ?_
            unfold SubscriptionRecord.passedOver
            rw [hfront, take_succ_cons, take_zero]
            exact mem_filter.mpr ⟨mem_singleton_self x, by simpa using hahead⟩
          · refine .inr (.inr ⟨?_, hahead⟩)
            rw [hqueue, pushBounded, if_pos hfull, hfront, tail_cons]
            exact mem_append_left _ hrest
        · refine .inr (.inr ⟨?_, hahead⟩)
          rw [hqueue, pushBounded, if_neg hfull]
          exact mem_append_left _ hkept
    · rw [mem_singleton.mp hnew]
      exact .inr (.inr ⟨entry_mem_pushBounded, h.chain⟩)
  · intro x hx
    have hlength : (r.give limit record).notifications.length ≤ r.notifications.length + 1 := by
      rw [hqueue, pushBounded]
      split
      · rw [length_append, length_tail, length_singleton]
        omega
      · rw [length_append, length_singleton]
    have hold : ∀ y ∈ r.trace.missed, y.sequence + (r.give limit record).notifications.length <
            (r.give limit record).nextSequence ∧
          ∀ z ∈ r.trace.returned, z.sequence ≠ y.sequence := by
      intro y hy
      have hmissed := h.missed y hy
      rw [hsequence]
      exact ⟨by omega, hmissed.2⟩
    unfold SubscriptionRecord.give at hx
    dsimp only at hx
    split at hx
    next hfull =>
      rcases mem_append.mp hx with hmissed | hpassed
      · exact hold x hmissed
      · obtain ⟨hfront, hahead⟩ := mem_filter.mp hpassed
        have hahead : r.trace.chain < x.sequence := by simpa using hahead
        cases hqueue' : r.notifications with
        | nil =>
          rw [hqueue'] at hfront
          cases hfront
        | cons front rest =>
          rw [hqueue', take_succ_cons, take_zero] at hfront
          obtain rfl := mem_singleton.mp hfront
          have hfirst := h.front hqueue'
          have hfullLength : (r.give limit record).notifications.length = limit := by
            rw [hqueue, pushBounded, if_pos hfull, length_append, length_tail, length_singleton]
            omega
          rw [hfullLength, hsequence]
          refine ⟨by omega, ?_⟩
          intro y hy heq
          have hbehind := h.behind y hy
          omega
    next => exact hold x hx

end Giving

section Following

variable {limit size : Nat} {r : SubscriptionRecord} {reply : McpSubscriptionSnapshot}

/-- What the service returns for a cursor where the chain stands. -/
theorem Tracked.answers (h : Tracked limit r) (size : Nat) :
    AnswersPoll r size (r.subscriptionSnapshot r.trace.chain size) := by
  have hincreasing : (r.notifications.filter
      (r.trace.chain < ·.sequence)).Pairwise fun a b => a.sequence < b.sequence :=
    h.increasing.filter _
  have hmem : ∀ x, x ∈ r.notifications.filter (r.trace.chain < ·.sequence) ↔
      x ∈ r.notifications ∧ r.trace.chain < x.sequence := by
    intro x
    rw [mem_filter, decide_eq_true_eq]
  refine
    { named := ⟨rfl, rfl⟩
      dropped := rfl
      cursor := rfl
      increasing := hincreasing.sublist (take_sublist _ _)
      ahead := fun x hx => (hmem x).mp (mem_of_mem_take hx)
      gapless := ?_
      filled := ?_ }
  · intro x hx hchain
    have hfilter := (hmem x).mpr ⟨hx, hchain⟩
    rw [← take_append_drop size (r.notifications.filter (r.trace.chain < ·.sequence))]
      at hfilter hincreasing
    refine (mem_append.mp hfilter).imp_right fun hout => ?_
    change (((r.notifications.filter (r.trace.chain < ·.sequence)).take size).getLast?.map
      (·.sequence)).getD r.trace.chain < x.sequence
    cases hlast : ((r.notifications.filter (r.trace.chain < ·.sequence)).take size).getLast? with
    | none => exact hchain
    | some last =>
      exact (pairwise_append.mp hincreasing).2.2 last (mem_of_getLast? hlast) x hout
  · rcases Nat.le_total size (r.notifications.filter (r.trace.chain < ·.sequence)).length with
      hle | hle
    · exact .inl (length_take_of_le hle)
    · refine .inr fun x hx => (h.complete x hx).imp_right (.imp_right fun hkept => ?_)
      change x ∈ (r.notifications.filter (r.trace.chain < ·.sequence)).take size
      rw [take_of_length_le hle]
      exact (hmem x).mpr hkept

theorem AnswersPoll.chain_le (hreply : AnswersPoll r size reply) :
    r.trace.chain ≤ reply.nextCursor := by
  rw [hreply.cursor]
  cases hlast : reply.items.getLast? with
  | none => exact Nat.le_refl _
  | some last => exact Nat.le_of_lt (hreply.ahead last (mem_of_getLast? hlast)).2

theorem AnswersPoll.le_cursor (hreply : AnswersPoll r size reply) {x : McpEvidenceRecord}
    (hx : x ∈ reply.items) : x.sequence ≤ reply.nextCursor := by
  rw [hreply.cursor]
  have hincreasing := hreply.increasing
  cases hlast : reply.items.getLast? with
  | none =>
    rw [getLast?_eq_none_iff.mp hlast] at hx
    cases hx
  | some last =>
    obtain ⟨front, hfront⟩ := getLast?_eq_some_iff.mp hlast
    rw [hfront] at hincreasing hx
    rcases mem_append.mp hx with hearlier | hsame
    · exact Nat.le_of_lt ((pairwise_append.mp hincreasing).2.2 x hearlier last (by simp))
    · rw [mem_singleton.mp hsame]
      exact Nat.le_refl _

/-- A chain that receives such a reply keeps the promises of the subscription. -/
theorem Tracked.follow (h : Tracked limit r) (hreply : AnswersPoll r size reply) :
    Tracked limit (r.follow reply) := by
  refine
    { h with
      once := ?_
      published := ?_
      behind := ?_
      chain := ?_
      complete := ?_
      missed := ?_ }
  · change ((r.trace.returned ++ reply.items).map (·.sequence)).Pairwise (· < ·)
    rw [map_append]
    refine pairwise_append.mpr ⟨h.once, pairwise_map.mpr hreply.increasing, ?_⟩
    intro a ha b hb
    obtain ⟨x, hx, rfl⟩ := mem_map.mp ha
    obtain ⟨y, hy, rfl⟩ := mem_map.mp hb
    exact Nat.lt_of_le_of_lt (h.behind x hx) (hreply.ahead y hy).2
  · intro x hx
    rcases mem_append.mp hx with hold | hnew
    · exact h.published x hold
    · exact h.retained.subset (hreply.ahead x hnew).1
  · intro x hx
    rcases mem_append.mp hx with hold | hnew
    · exact Nat.le_trans (h.behind x hold) hreply.chain_le
    · exact hreply.le_cursor hnew
  · change reply.nextCursor < r.nextSequence
    rw [hreply.cursor]
    cases hlast : reply.items.getLast? with
    | none => exact h.chain
    | some last => exact (h.sequence_range (hreply.ahead last (mem_of_getLast? hlast)).1).2
  · intro x hx
    rcases h.complete x hx with hreturned | hmissed | ⟨hkept, hchain⟩
    · exact .inl (mem_append_left _ hreturned)
    · exact .inr (.inl hmissed)
    · rcases hreply.gapless x hkept hchain with hin | hout
      · exact .inl (mem_append_right _ hin)
      · exact .inr (.inr ⟨hkept, hout⟩)
  · intro x hx
    have hmissed := h.missed x hx
    refine ⟨hmissed.1, ?_⟩
    intro y hy
    rcases mem_append.mp hy with hold | hnew
    · exact hmissed.2 y hold
    · have hrange := h.sequence_range (hreply.ahead y hnew).1
      omega

end Following

section Polling

theorem Tracked.gapAware {config : ServiceConfig} {r : SubscriptionRecord}
    (h : Tracked config.maximumNotificationsPerSubscription r) : GapAware config r := by
  refine { h with consecutive := h.consecutive, dropped := ?_, missed := ?_ }
  · have hdropped := h.dropped
    omega
  · intro x hx
    have hmissed := h.missed x hx
    refine ⟨fun hreturned => hmissed.2 x hreturned rfl, fun hkept => ?_⟩
    have hrange := h.sequence_range hkept
    omega

/-- The reply to a poll is the one that its chain receives. -/
theorem endPoll_reply {config : ServiceConfig} {s t : Service} {sessionId id : String}
    {after limit : Nat} {r : SubscriptionRecord}
    (hfound : s.requireSubscription sessionId id = .ok r)
    (hstep : serviceStep config s (.endPoll sessionId id after limit true) = some t) :
    t.observed = s.observed ++
        [(sessionId, .subscription (.ok (r.subscriptionSnapshot after limit)))] ∧
      r.follow (r.subscriptionSnapshot after limit) ∈ t.subscriptions := by
  unfold serviceStep at hstep
  dsimp only at hstep
  split at hstep
  · cases hstep
    obtain ⟨hmem, hkey⟩ := requireSubscription_ok hfound
    unfold endPoll
    rw [hfound]
    exact ⟨rfl, mem_map.mpr ⟨r, hmem, if_pos hkey⟩⟩
  · cases hstep

theorem serviceStep_tracked (config : ServiceConfig) (s : Service) (a : ServiceAction) (t : Service)
    (hstep : serviceStep config s a = some t) (hfollows : FollowsChain s a)
    (h : ∀ r ∈ s.subscriptions, Tracked config.maximumNotificationsPerSubscription r)
    (r : SubscriptionRecord) (hr : r ∈ t.subscriptions) :
    Tracked config.maximumNotificationsPerSubscription r := by
  cases serviceStep_origin hstep r hr with
  | kept active hmem => exact (h _ hmem).deactivate active
  | given hmem _ hnext => exact (h _ hmem).give config.notificationsPositive hnext _
  | followed hmem =>
    rw [hfollows _ hmem rfl rfl]
    exact (h _ hmem).follow ((h _ hmem).answers _)
  | created hvalid => exact createdSubscription_tracked _ _ _ hvalid

/-- Every subscription keeps its promises, whatever else the service does, and the chain of polls
is followed by the replies that are returned. -/
theorem subscriptions_are_gap_aware
    (config : ServiceConfig) (actions : List ServiceAction) (s : Service)
    (hfollows : (serviceMachine config).Meets FollowsChain Service.empty actions)
    (hrun : (serviceMachine config).run Service.empty actions = some s) :
    (∀ r, r ∈ s.subscriptions → GapAware config r) ∧
      ∀ sessionId id limit r t, s.requireSubscription sessionId id = .ok r →
        serviceStep config s (.endPoll sessionId id r.trace.chain limit true) = some t →
        ∃ reply, t.observed = s.observed ++ [(sessionId, .subscription (.ok reply))] ∧
          r.follow reply ∈ t.subscriptions ∧ AnswersPoll r limit reply := by
  have htracked : ∀ r, r ∈ s.subscriptions → Tracked config.maximumNotificationsPerSubscription r :=
    (serviceMachine config).meets_preserves (serviceStep_tracked config) hfollows hrun
      (fun _ h => nomatch h)
  refine ⟨fun r hr => (htracked r hr).gapAware, fun sessionId id limit r t hfound hstep => ?_⟩
  have hkey := requireSubscription_ok hfound
  obtain ⟨hobserved, hmem⟩ := endPoll_reply hfound hstep
  exact ⟨_, hobserved, hmem, (htracked r hkey.1).answers limit⟩

/-- A service with small limits, whose notifications have a handler. -/
def smallConfig : ServiceConfig :=
  { maximumSessions := 2
    maximumTasksPerSession := 2
    maximumSubscriptionsPerSession := 2
    maximumNotificationsPerSubscription := 2
    maximumRetainedOperations := 1
    maximumPollItems := 2
    notificationHandler := true
    json := .compact
    sessionsPositive := by decide
    subscriptionsPositive := by decide
    notificationsPositive := by decide
    operationsPositive := by decide
    pollsPositive := by decide }

/-- A record of the events of a run. -/
def someRecord : McpEvidenceRecord := ⟨"run", .events, 0, 0, none, none, none, none, none⟩

def eventsFrom (cursor : Nat) : McpSubscriptionRequest := ⟨"run", [.events], [], cursor⟩

/-- Three records for two places, then a poll. -/
def lateReader : List ServiceAction :=
  [.registerSession "a", .createSubscription "a" (eventsFrom 0) "sub-1",
    .publish someRecord, .publish someRecord, .publish someRecord,
    .beginPoll "a" "sub-1" 0 2 true]

/-- The first record is dropped before the poll, and the reply has the other two. -/
theorem late_reader_misses_one :
    ∃ s t r reply,
      (serviceMachine smallConfig).run Service.empty lateReader = some s ∧
      s.requireSubscription "a" "sub-1" = .ok r ∧
      serviceStep smallConfig s (.endPoll "a" "sub-1" r.trace.chain 2 true) = some t ∧
      GapAware smallConfig r ∧
      t.observed = s.observed ++ [("a", .subscription (.ok reply))] ∧
      AnswersPoll r 2 reply ∧
      reply.items.map (·.sequence) = [2, 3] ∧
      reply.dropped = 1 := by
  obtain ⟨s, hrun, hs⟩ := (serviceMachine smallConfig).run_of_any Service.empty lateReader
    (fun s => (s.requireSubscription "a" "sub-1").toOption.any fun r : SubscriptionRecord =>
      (r.subscriptionSnapshot r.trace.chain 2).items.map (·.sequence) == [2, 3] &&
        r.dropped == 1 &&
        (serviceStep smallConfig s (.endPoll "a" "sub-1" r.trace.chain 2 true)).isSome)
    (by decide +kernel)
  obtain ⟨r, hr, hs⟩ := (Option.any_eq_true _ _).mp hs
  have hfound := eq_ok_of_toOption hr
  simp only [Bool.and_eq_true, beq_iff_eq, Option.isSome_iff_exists] at hs
  obtain ⟨⟨hitems, hdropped⟩, t, hstep⟩ := hs
  obtain ⟨haware, hpoll⟩ :=
    subscriptions_are_gap_aware smallConfig lateReader s (by decide +kernel) hrun
  obtain ⟨reply, hobserved, hmem, hanswers⟩ := hpoll "a" "sub-1" 2 r t hfound hstep
  have hreply := (endPoll_reply hfound hstep).1
  rw [hobserved] at hreply
  cases append_cancel_left hreply
  exact ⟨s, t, r, _, hrun, hfound, hstep, haware r (requireSubscription_ok hfound).1, hobserved,
    hanswers, hitems, hdropped⟩

end Polling

section Publication

/-- A cursor in the lower half of the 64-bit words. -/
def SmallCursors (_ : Service) : ServiceAction → Prop
  | .createSubscription _ request _ => request.cursor < 2 ^ 63
  | _ => True

instance decidableSmallCursors
    (s : Service) (a : ServiceAction) :
    Decidable (SmallCursors s a) := by
  unfold SmallCursors
  split <;> infer_instance

def ServiceAction.isPublish : ServiceAction → Bool
  | .publish _ => true
  | _ => false

/-- The number of a subscription is as far from its cursor as records were given to it. -/
structure Counted (count : Nat) (r : SubscriptionRecord) : Prop where
  cursor : r.trace.cursor < 2 ^ 63
  next : r.nextSequence = r.trace.cursor + 1 + r.trace.given.length
  given : r.trace.given.length ≤ count

theorem Counted.mono {count : Nat} {r : SubscriptionRecord} (h : Counted count r) (more : Nat) :
    Counted (count + more) r :=
  ⟨h.cursor, h.next, Nat.le_add_right_of_le h.given⟩

/-- A number that is not the largest word has another one behind it. -/
theorem Counted.give {count limit : Nat} {r : SubscriptionRecord} (h : Counted count r)
    (hcount : count + 1 < 2 ^ 63) (record : McpEvidenceRecord) :
    Counted (count + 1) (r.give limit record) := by
  have hcursor := h.cursor
  have hnext := h.next
  have hgiven := h.given
  have hwrap : wrapAdd r.nextSequence 1 = r.nextSequence + 1 := wrapAdd_of_le (by omega)
  refine ⟨h.cursor, ?_, ?_⟩
  · change wrapAdd r.nextSequence 1 =
      r.trace.cursor + 1 + (r.trace.given ++ [r.numbered record]).length
    rw [hwrap, length_append, length_singleton]
    omega
  · change (r.trace.given ++ [r.numbered record]).length ≤ count + 1
    rw [length_append, length_singleton]
    omega

theorem serviceStep_counted (config : ServiceConfig)
    (count : Nat) (s : Service) (a : ServiceAction) (t : Service)
    (hstep : serviceStep config s a = some t) (hcursors : SmallCursors s a)
    (h : count < 2 ^ 63 → ∀ r ∈ s.subscriptions, Counted count r)
    (hcount : (count + if a.isPublish then 1 else 0) < 2 ^ 63) (r : SubscriptionRecord)
    (hr : r ∈ t.subscriptions) : Counted (count + if a.isPublish then 1 else 0) r := by
  have hbefore : count < 2 ^ 63 := by omega
  cases serviceStep_origin hstep r hr with
  | kept active hmem =>
    have hcounted := (h hbefore _ hmem).mono (if a.isPublish then 1 else 0)
    exact { hcounted with }
  | given hmem _ _ => exact (h hbefore _ hmem).give hcount _
  | followed hmem =>
    have hcounted := h hbefore _ hmem
    exact { hcounted with }
  | @created sessionId id request hvalid =>
    have hcursor : request.cursor < 2 ^ 63 := hcursors
    exact ⟨hcursor, wrapAdd_of_le (by omega), Nat.zero_le _⟩

/-- A publication reaches every subscription it matches. -/
theorem publications_reach_subscribers
    (config : ServiceConfig) (actions : List ServiceAction) (s : Service)
    (record : McpEvidenceRecord)
    (hcursors : (serviceMachine config).Meets SmallCursors Service.empty actions)
    (hcount : actions.countP ServiceAction.isPublish + 1 < 2 ^ 63)
    (hrun : (serviceMachine config).run Service.empty actions = some s)
    (hvalid : record.valid config.json = true) (hopen : s.accepting = true) :
    (∀ e, (publish config record s).2 = some e → e = .notificationBound) ∧
      ∀ r, r ∈ s.subscriptions → r.receives record = true →
        r.give config.maximumNotificationsPerSubscription record ∈
          (publish config record s).1.subscriptions := by
  have hcounted := (serviceMachine config).meets_counts ServiceAction.isPublish
    (fun k s a t hstep hguard hs hk => serviceStep_counted config k s a t hstep hguard hs hk)
    hcursors hrun (I := fun k s => k < 2 ^ 63 → ∀ r, r ∈ s.subscriptions → Counted k r)
    (k := 0) (fun _ _ h => nomatch h)
  have hroom : ¬ (s.subscriptions.any fun r =>
      r.receives record && r.nextSequence == maximumWord) = true := by
    intro hany
    obtain ⟨r, hr, hfull⟩ := List.any_eq_true.mp hany
    rw [Bool.and_eq_true, beq_iff_eq] at hfull
    have h := hcounted (by omega) r hr
    have hcursor := h.cursor
    have hnext := h.next
    have hgiven := h.given
    have hword := hfull.2
    unfold maximumWord at hword
    omega
  have hpublish : publish config record s =
      queueRecords config record (s.subscriptions.filter (·.receives record))
        { s with
          subscriptions := s.subscriptions.map fun r =>
            if r.receives record then r.give config.maximumNotificationsPerSubscription record
            else r } := by
    unfold publish
    rw [if_neg (by rw [hvalid]; decide), if_neg (by rw [hopen]; decide), if_neg hroom]
  constructor
  · intro e hthrown
    rw [hpublish] at hthrown
    exact (queueRecords_queues config record _ _).error _ hthrown
  · intro r hr hreceives
    rw [hpublish, (queueRecords_queues config record _ _).shell.subscriptions]
    exact List.mem_map.mpr ⟨r, hr, if_pos hreceives⟩

/-- A subscription at the end of the words, and another one. -/
def exhaustedReader : List ServiceAction :=
  [.registerSession "a", .createSubscription "a" (eventsFrom (2 ^ 64 - 2)) "sub-1",
    .registerSession "b", .createSubscription "b" (eventsFrom 0) "sub-2"]

/-- The first subscription keeps the record from the second one. -/
theorem exhausted_reader_blocks_publication :
    ∃ s,
      (serviceMachine smallConfig).run Service.empty exhaustedReader = some s ∧
      s.accepting = true ∧
      (publish smallConfig someRecord s).2 = some .subscriptionOverflow ∧
      ∃ r, r ∈ s.subscriptions ∧ r.sessionId = "b" ∧ r.receives someRecord = true ∧
        r.give smallConfig.maximumNotificationsPerSubscription someRecord ∉
          (publish smallConfig someRecord s).1.subscriptions := by
  obtain ⟨s, hrun, hs⟩ := (serviceMachine smallConfig).run_of_any Service.empty exhaustedReader
    (fun s : Service => s.accepting &&
      decide ((publish smallConfig someRecord s).2 = some .subscriptionOverflow) &&
      s.subscriptions.any (fun r => r.sessionId == "b" && r.receives someRecord) &&
      (publish smallConfig someRecord s).1.subscriptions.all (·.trace.given.isEmpty))
    (by decide +kernel)
  simp only [Bool.and_eq_true, decide_eq_true_eq, List.any_eq_true, beq_iff_eq,
    List.all_eq_true] at hs
  obtain ⟨⟨⟨hopen, hthrown⟩, r, hr, hsession, hreceives⟩, hnothing⟩ := hs
  refine ⟨s, hrun, hopen, hthrown, r, hr, hsession, hreceives, fun hmem => ?_⟩
  have hempty := hnothing _ hmem
  rw [List.isEmpty_iff] at hempty
  exact List.append_ne_nil_of_right_ne_nil _ (List.cons_ne_nil _ _) hempty

/-- Two readers, and a record that both of them match. -/
theorem small_readers_are_reached :
    ∃ s,
      (serviceMachine smallConfig).run Service.empty
        [.registerSession "a", .createSubscription "a" (eventsFrom 5) "sub-1",
          .createSubscription "a" (eventsFrom 0) "sub-2"] = some s ∧
      s.subscriptions.map (·.receives someRecord) = [true, true] ∧
      ∀ r, r ∈ s.subscriptions →
        r.give smallConfig.maximumNotificationsPerSubscription someRecord ∈
          (publish smallConfig someRecord s).1.subscriptions := by
  obtain ⟨s, hrun, hs⟩ := (serviceMachine smallConfig).run_of_any Service.empty
    [.registerSession "a", .createSubscription "a" (eventsFrom 5) "sub-1",
      .createSubscription "a" (eventsFrom 0) "sub-2"]
    (fun s : Service => s.accepting &&
      s.subscriptions.map (·.receives someRecord) == [true, true]) (by decide +kernel)
  rw [Bool.and_eq_true, beq_iff_eq] at hs
  refine ⟨s, hrun, hs.2, fun r hr => ?_⟩
  have hreached := (publications_reach_subscribers smallConfig _ s someRecord (by decide +kernel)
    (by decide +kernel) hrun (by decide +kernel) hs.1).2 r hr
  have hreceives := mem_map_of_mem (f := (·.receives someRecord)) hr
  rw [hs.2] at hreceives
  exact hreached (by simpa using hreceives)

end Publication

end Bbp.Mcp
