import Bbp.Library.BoundedQueue
import Bbp.Library.Json
import Bbp.Library.Stores
import Bbp.Library.Transition

/-!
# Server-sent event streams of an MCP session

A session keeps the notifications that its clients have not been given for long enough,
the streams that GET requests have opened, and the cursors from which a stream can be
resumed.  Each of the three has its own bound.

A notification is bound to a stream lazily: the GET request that finds it without a stream
binds it to its own stream, and delivers it there.  A later GET request with the header
`Last-Event-ID` resumes a stream after the event it names.

The machine drives one session.  Beside the session it remembers the events that have been
sent, those of them that have reached the client, in order, and the stream identifiers that
have been handed out.
-/

namespace Bbp.Mcp

open Library

/-- The notifications, and also the cursors, that a session retains. -/
def maximumNotificationsPerSession : Nat := 256

def maximumRetainedSseStreamsPerSession : Nat := 64

/-- The protocol version whose streams open with an event of their own. -/
def primingProtocolVersion : String := "2025-11-25"

inductive McpSessionState where
  | opening
  | awaitingInitialization
  | initialized
  | closing
deriving DecidableEq

structure McpNotification where
  sequence : Nat
  /-- The empty identifier of a notification that no stream has been given. -/
  streamId : Option String
  json : Json

structure McpSseCursor where
  streamId : String
  sequence : Nat
deriving DecidableEq

structure McpSession where
  state : McpSessionState
  protocolVersion : String
  notifications : List McpNotification
  streams : List String
  cursors : List McpSseCursor
  nextNotificationSequence : Nat

/-- One event of an event stream; the event that opens a stream has no data. -/
structure SseEvent where
  streamId : String
  sequence : Nat
  data : Option Json

section EventIds

def isHexDigit (character : Char) : Bool :=
  ('0' ≤ character && character ≤ '9') || ('a' ≤ character && character ≤ 'f')

/-- The form of a random stream identifier. -/
def isStreamId (streamId : String) : Bool :=
  streamId.toList.length == 32 && streamId.toList.all isHexDigit

def sseEventId (streamId : String) (sequence : Nat) : String :=
  String.ofList (streamId.toList ++ '.' :: Nat.toDigits 10 sequence)

/-- An unsigned 64-bit number in decimal digits and nothing else. -/
def fromChars (text : List Char) : Option Nat :=
  if text ≠ [] ∧ text.all Char.isDigit ∧ Nat.ofDigitChars 10 text 0 < 2 ^ 64 then
    some (Nat.ofDigitChars 10 text 0)
  else none

/-- The event identifier is cut at its last point. -/
def parseSseCursor (value : String) : Option McpSseCursor :=
  let reversed := value.toList.reverse
  let streamId := String.ofList (reversed.dropWhile (· ≠ '.')).tail.reverse
  if isStreamId streamId then
    (fromChars (reversed.takeWhile (· ≠ '.')).reverse).map fun sequence => ⟨streamId, sequence⟩
  else none

theorem fromChars_toDigits {n : Nat} (h : n < 2 ^ 64) : fromChars (Nat.toDigits 10 n) = some n := by
  have hdigits : (Nat.toDigits 10 n).all Char.isDigit = true :=
    List.all_eq_true.mpr fun _ hc => Nat.isDigit_of_mem_toDigits (by decide) (by decide) hc
  unfold fromChars
  rw [Nat.ofDigitChars_ten_toDigits, if_pos ⟨Nat.toDigits_ne_nil, hdigits, h⟩]

theorem toDigits_no_point {n : Nat} {c : Char} (hc : c ∈ Nat.toDigits 10 n) : c ≠ '.' := by
  rintro rfl
  exact absurd (Nat.isDigit_of_mem_toDigits (by decide) (by decide) hc) (by decide)

theorem takeWhile_point {front rest : List Char} (h : ∀ c ∈ front, c ≠ '.') :
    (front ++ '.' :: rest).takeWhile (· ≠ '.') = front := by
  rw [List.takeWhile_append_of_pos (by simpa using h)]
  simp

theorem dropWhile_point {front rest : List Char} (h : ∀ c ∈ front, c ≠ '.') :
    (front ++ '.' :: rest).dropWhile (· ≠ '.') = '.' :: rest := by
  rw [List.dropWhile_append_of_pos (by simpa using h)]
  simp

/-- The identifier of an event is read back as its stream and its sequence. -/
theorem parseSseCursor_sseEventId {streamId : String} {sequence : Nat}
    (hstream : isStreamId streamId = true) (hsequence : sequence < 2 ^ 64) :
    parseSseCursor (sseEventId streamId sequence) = some ⟨streamId, sequence⟩ := by
  have hdigits : ∀ c ∈ (Nat.toDigits 10 sequence).reverse, c ≠ '.' :=
    fun c hc => toDigits_no_point (List.mem_reverse.mp hc)
  have hreversed : (sseEventId streamId sequence).toList.reverse =
        (Nat.toDigits 10 sequence).reverse ++ '.' :: streamId.toList.reverse := by
    simp [sseEventId]
  unfold parseSseCursor
  simp only [hreversed, takeWhile_point hdigits, dropWhile_point hdigits, List.tail_cons,
    List.reverse_reverse, String.ofList_toList, hstream, fromChars_toDigits hsequence,
    Option.map_some, if_true]

theorem sseEventId_ne_empty (streamId : String) (sequence : Nat) :
    sseEventId streamId sequence ≠ "" := by
  intro h
  have hlist := congrArg String.toList h
  simp [sseEventId] at hlist

end EventIds

section Session

/-- The session that a client's initialization request creates. -/
def createSession (protocolVersion : String) : McpSession :=
  { state := .awaitingInitialization
    protocolVersion := protocolVersion
    notifications := []
    streams := []
    cursors := []
    nextNotificationSequence := 1 }

def notificationJson (method : String) (params : Json) : Json :=
  .object [("jsonrpc", .string "2.0"), ("method", .string method), ("params", params)]

/-- Retain a notification for a stream to come. -/
def McpSession.retain (session : McpSession) (json : Json) : McpSession :=
  { session with
    notifications :=
      pushBounded maximumNotificationsPerSession session.notifications
        { sequence := session.nextNotificationSequence, streamId := none, json := json }
    nextNotificationSequence := wrapAdd session.nextNotificationSequence 1 }

/-- `none` is the refusal of a notification without a method. -/
def enqueueNotification (session : McpSession) (method : String) (params : Json) :
    Option McpSession :=
  if method = "" then none else some (session.retain (notificationJson method params))

/-- What a broadcast does to one of the sessions. -/
def broadcastNotification (session : McpSession) (method : String) (params : Json) :
    Option McpSession :=
  if method = "" then none
  else if session.state ≠ .initialized then some session
  else some (session.retain (notificationJson method params))

def retainSseCursor (cursors : List McpSseCursor) (streamId : String) (sequence : Nat) :
    List McpSseCursor :=
  pushBounded maximumNotificationsPerSession cursors ⟨streamId, sequence⟩

/-- The oldest stream makes room, with its notifications and its cursors. -/
def evictSseStream (session : McpSession) : McpSession :=
  match session.streams with
  | [] => session
  | evicted :: streams =>
    if session.streams.length = maximumRetainedSseStreamsPerSession then
      { session with
        streams := streams
        notifications := session.notifications.filter fun n => n.streamId ≠ some evicted
        cursors := session.cursors.filter fun c => c.streamId ≠ evicted }
    else session

def createSseStream (session : McpSession) (streamId : String) : McpSession :=
  let session := evictSseStream session
  { session with streams := session.streams ++ [streamId] }

def isRetainedSseCursor (session : McpSession) (cursor : McpSseCursor) : Bool :=
  session.streams.any (· == cursor.streamId) && session.cursors.any (· == cursor)

/-- A notification without a stream is bound to the stream of the request. -/
def McpNotification.bind (streamId : String) (n : McpNotification) : McpNotification :=
  if n.streamId.isNone then { n with streamId := some streamId } else n

def McpNotification.event (streamId : String) (n : McpNotification) : SseEvent :=
  ⟨streamId, n.sequence, some n.json⟩

/-- What the loop over the notifications of a GET request produces. -/
structure Delivery where
  notifications : List McpNotification
  cursors : List McpSseCursor
  events : List SseEvent

/-- The loop of a GET request over the retained notifications. -/
def deliver (streamId : String) (after : Nat) : List McpNotification → List McpSseCursor → Delivery
  | [], cursors => ⟨[], cursors, []⟩
  | n :: rest, cursors =>
    let bound := n.bind streamId
    let cursors :=
      if n.streamId.isNone then retainSseCursor cursors streamId n.sequence else cursors
    let delivery := deliver streamId after rest cursors
    { notifications := bound :: delivery.notifications
      cursors := delivery.cursors
      events :=
        if bound.streamId ≠ some streamId ∨ bound.sequence ≤ after then delivery.events
        else bound.event streamId :: delivery.events }

inductive GetResponse where
  | notFound
  | badRequest (message : String)
  | events (events : List SseEvent)

def GetResponse.accepted : GetResponse → Bool
  | .events _ => true
  | _ => false

def GetResponse.delivered : GetResponse → List SseEvent
  | .events sent => sent
  | _ => []

/-- Deliver on a stream after the sequence, behind the events that are there already. -/
def serveStream (session : McpSession) (streamId : String) (after : Nat)
    (opening : List SseEvent) : GetResponse × McpSession :=
  let delivery := deliver streamId after session.notifications session.cursors
  (.events (opening ++ delivery.events),
    { session with
      notifications := delivery.notifications
      cursors := delivery.cursors })

/-- The stream of a GET request without an event to resume from. -/
def openStream (session : McpSession) (streamId : String) : GetResponse × McpSession :=
  let session := createSseStream session streamId
  if session.protocolVersion = primingProtocolVersion then
    serveStream
      { session with cursors := retainSseCursor session.cursors streamId 0 }
      streamId 0 [⟨streamId, 0, none⟩]
  else serveStream session streamId 0 []

/-- A GET request; `streamId` is the identifier that a new stream would be given. -/
def handleGet (session : McpSession) (lastEvent streamId : String) : GetResponse × McpSession :=
  if session.state ≠ .initialized then (.notFound, session)
  else if lastEvent = "" then openStream session streamId
  else
    match parseSseCursor lastEvent with
    | none => (.badRequest "Last-Event-ID is not a valid BBP stream cursor", session)
    | some cursor =>
      if isRetainedSseCursor session cursor then
        serveStream session cursor.streamId cursor.sequence []
      else (.badRequest "Last-Event-ID is unknown or expired", session)

end Session

section Machine

/-- A session with what has been sent, what has arrived and the identifiers in use so far. -/
structure SseState where
  session : McpSession
  sent : List SseEvent
  received : List SseEvent
  issued : List String

inductive SseAction where
  | enqueue (method : String) (params : Json)
  | broadcast (method : String) (params : Json)
  | becomeInitialized
  /-- The connection may break: the first `arrived` events of the answer reach the client. -/
  | get (lastEvent : String) (streamId : String) (arrived : Nat)

/-- A random identifier is drawn again until no retained stream has it. -/
def sseStep (s : SseState) : SseAction → Option SseState
  | .enqueue method params =>
    some { s with session := (enqueueNotification s.session method params).getD s.session }
  | .broadcast method params =>
    some { s with
      session := (broadcastNotification s.session method params).getD s.session }
  | .becomeInitialized => some { s with session := { s.session with state := .initialized } }
  | .get lastEvent streamId arrived =>
    if isStreamId streamId = true ∧ streamId ∉ s.session.streams then
      let (response, session) := handleGet s.session lastEvent streamId
      some
        { session := session
          sent := s.sent ++ response.delivered
          received := s.received ++ response.delivered.take arrived
          issued := if lastEvent = "" then s.issued ++ [streamId] else s.issued }
    else none

def sseMachine : Machine SseState SseAction := ⟨sseStep⟩

/-- A step changes at most the state, retains a notification, or answers a request. -/
theorem sseStep_cases {s t : SseState} {a : SseAction} (h : sseStep s a = some t) :
    (∃ state, (state = s.session.state ∨ state = .initialized) ∧
      t = { s with session := { s.session with state } }) ∨
    (∃ json, (∃ method params, a = .enqueue method params ∨ a = .broadcast method params) ∧
      t = { s with session := s.session.retain json }) ∨
    ∃ lastEvent streamId arrived, a = .get lastEvent streamId arrived ∧
      isStreamId streamId = true ∧
      t =
        { session := (handleGet s.session lastEvent streamId).2
          sent := s.sent ++ (handleGet s.session lastEvent streamId).1.delivered
          received :=
            s.received ++ (handleGet s.session lastEvent streamId).1.delivered.take arrived
          issued := if lastEvent = "" then s.issued ++ [streamId] else s.issued } := by
  cases a with
  | enqueue method params =>
    cases h
    unfold enqueueNotification
    split
    · exact .inl ⟨_, .inl rfl, rfl⟩
    · exact .inr (.inl ⟨_, ⟨method, params, .inl rfl⟩, rfl⟩)
  | broadcast method params =>
    cases h
    unfold broadcastNotification
    split
    · exact .inl ⟨_, .inl rfl, rfl⟩
    split
    · exact .inl ⟨_, .inl rfl, rfl⟩
    · exact .inr (.inl ⟨_, ⟨method, params, .inr rfl⟩, rfl⟩)
  | becomeInitialized =>
    cases h
    exact .inl ⟨_, .inr rfl, rfl⟩
  | get lastEvent streamId arrived =>
    simp only [sseStep] at h
    split at h <;> cases h
    next hid => exact .inr (.inr ⟨lastEvent, streamId, arrived, rfl, hid.1, rfl⟩)

def sseStart (protocolVersion : String) : SseState := ⟨createSession protocolVersion, [], [], []⟩

end Machine

section Deliveries

/-- The notifications that no stream has been given. -/
def unbound (notifications : List McpNotification) : List McpNotification :=
  notifications.filter fun n => n.streamId.isNone

variable {n : McpNotification} (streamId : String) (after : Nat)

theorem mem_unbound {notifications : List McpNotification} :
    n ∈ unbound notifications ↔ n ∈ notifications ∧ n.streamId = none := by
  simp [unbound]

@[simp] theorem McpNotification.bind_sequence (n : McpNotification) :
    (n.bind streamId).sequence = n.sequence := by
  unfold McpNotification.bind
  split <;> rfl

@[simp] theorem McpNotification.bind_of_bound {streamId stream : String}
    (h : n.streamId = some stream) : n.bind streamId = n := by
  simp [McpNotification.bind, h]

theorem McpNotification.bind_of_unbound {streamId : String} (h : n.streamId = none) :
    n.bind streamId = { n with streamId := some streamId } := by
  simp [McpNotification.bind, h]

theorem deliver_notifications (ns : List McpNotification) (cursors : List McpSseCursor) :
    (deliver streamId after ns cursors).notifications = ns.map (·.bind streamId) := by
  induction ns generalizing cursors with
  | nil => rfl
  | cons n rest ih => simp only [deliver, List.map_cons, ih]

/-- The cursors of the notifications that the request binds are retained in order. -/
theorem deliver_cursors (ns : List McpNotification) (cursors : List McpSseCursor) :
    (deliver streamId after ns cursors).cursors =
      (unbound ns).foldl (fun retained n => retainSseCursor retained streamId n.sequence)
        cursors := by
  induction ns generalizing cursors with
  | nil => rfl
  | cons n rest ih =>
    simp only [deliver, ih]
    by_cases hn : n.streamId.isNone = true
    all_goals simp [unbound, hn]

theorem deliver_events (ns : List McpNotification) (cursors : List McpSseCursor) :
    (deliver streamId after ns cursors).events =
      ((ns.map (·.bind streamId)).filter
        fun n => n.streamId = some streamId ∧ after < n.sequence).map
          (·.event streamId) := by
  induction ns generalizing cursors with
  | nil => rfl
  | cons n rest ih =>
    simp only [deliver, ih, List.map_cons]
    by_cases hn : (n.bind streamId).streamId = some streamId ∧ after < (n.bind streamId).sequence
    · rw [List.filter_cons_of_pos (by simpa using hn), List.map_cons, if_neg (by simpa using hn)]
    · rw [List.filter_cons_of_neg (by simpa using hn), if_pos]
      by_contra hneg
      exact hn (by simpa using hneg)

end Deliveries

end Bbp.Mcp
