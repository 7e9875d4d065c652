import Bbp.Library.BoundedQueue
import Bbp.Library.Json
import Bbp.Library.Stores

/-!
# Subscriptions to the evidence of a run

A subscription retains the last records that were published for it, under numbers of its
own.  A client reads them in pages and hands the cursor of a page to its next poll.

Beside the fields of the code, a subscription of the model carries a trace: the cursor it
was created with, the records it has been given, and what one chain of polls has made of
them.  No function of the code reads the trace.
-/

namespace Bbp.Mcp

open Library

inductive McpInformationFamily where
  | capabilities | schemas | sourceScenario | resolvedScenario | runRegistry | lifecycle
  | nodes | roles | peers | topology | wallets | balances | mining | transactionLoad
  | workloads | workloadHistory | processes | namespaces | interfaces | qdiscs | cgroups
  | resourceState | cleanupState | metrics | walletMetrics | instrumentation | measurements
  | measurementHistory | comparisons | events | logs | logHistory | rpcFailures | errors
  | commandHistory | reports | chain | pool | generatedCommands | artifacts
  | artifactContents | progress | operations | notifications
deriving DecidableEq

structure McpEvidenceRecord where
  runId : String
  family : McpInformationFamily
  sequence : Nat
  timestampMs : Nat
  nodeId : Option String
  kind : Option String
  message : Option String
  artifactId : Option String
  data : Option Json

structure McpSubscriptionRequest where
  runId : String
  families : List McpInformationFamily
  nodeIds : List String
  cursor : Nat

structure McpSubscriptionSnapshot where
  subscriptionId : String
  sessionId : String
  runId : String
  items : List McpEvidenceRecord
  nextCursor : Nat
  dropped : Nat
  active : Bool

/-- What a subscription has been through. -/
structure SubscriptionTrace where
  cursor : Nat
  given : List McpEvidenceRecord
  /-- The chain of polls: where it stands, what it returned, and what was dropped ahead of
  it. -/
  chain : Nat
  returned : List McpEvidenceRecord
  missed : List McpEvidenceRecord

structure SubscriptionRecord where
  id : String
  sessionId : String
  runId : String
  families : List McpInformationFamily
  nodeIds : List String
  notifications : List McpEvidenceRecord
  nextSequence : Nat
  dropped : Nat
  active : Bool
  admissionSequence : Nat
  trace : SubscriptionTrace

/-- The largest unsigned 64-bit word. -/
def maximumWord : Nat := 2 ^ 64 - 1

def maximumSelectionItems : Nat := 10000

def maximumEvidenceTextBytes : Nat := 1024 * 1024

def maximumRetainedResultBytes : Nat := 4 * 1024 * 1024

section Requests

/-- The ids of runs and nodes. -/
def isSafeIdentifier (text : String) : Bool :=
  decide (1 ≤ text.utf8ByteSize) && decide (text.utf8ByteSize ≤ 32) &&
    text.toList.all fun c => c.isAlphanum || c == '-' || c == '_'

def isMcpIdentifier (text : String) : Bool :=
  decide (1 ≤ text.utf8ByteSize) && decide (text.utf8ByteSize ≤ 128) &&
    text.toList.head?.all (·.isAlphanum) &&
    text.toList.all fun c => c.isAlphanum || c == '_' || c == '.' || c == '-'

/-- The check of `ValidateEvidenceRecord`. -/
def McpEvidenceRecord.valid (json : JsonText) (record : McpEvidenceRecord) : Bool :=
  isSafeIdentifier record.runId &&
    record.nodeId.all isSafeIdentifier &&
    record.kind.all isMcpIdentifier &&
    record.artifactId.all isMcpIdentifier &&
    record.message.all (·.utf8ByteSize ≤ maximumEvidenceTextBytes) &&
    record.data.all fun value => json.size (json.serialize value) ≤ maximumRetainedResultBytes

/-- The checks on a request. -/
def McpSubscriptionRequest.valid (request : McpSubscriptionRequest) : Bool :=
  isSafeIdentifier request.runId &&
    !request.families.isEmpty &&
    decide request.families.Nodup &&
    decide (request.nodeIds.length ≤ maximumSelectionItems) &&
    request.nodeIds.all isSafeIdentifier &&
    decide request.nodeIds.Nodup &&
    decide (request.cursor < maximumWord)

/-- The subscription that a valid request creates. -/
def createdSubscription (id sessionId : String) (request : McpSubscriptionRequest)
    (admissionSequence : Nat) : SubscriptionRecord :=
  { id := id
    sessionId := sessionId
    runId := request.runId
    families := request.families
    nodeIds := request.nodeIds
    notifications := []
    nextSequence := wrapAdd request.cursor 1
    dropped := 0
    active := true
    admissionSequence := admissionSequence
    trace := ⟨request.cursor, [], request.cursor, [], []⟩ }

end Requests

namespace SubscriptionRecord

section Publishing

def containsFamily (families : List McpInformationFamily) (family : McpInformationFamily) : Bool :=
  families.contains family

/-- No node selection stands for every node. -/
def containsNode (nodeIds : List String) (nodeId : Option String) : Bool :=
  nodeIds.isEmpty || nodeId.any (nodeIds.contains ·)

/-- An active subscription to the run, the family and the node of a record. -/
def receives (record : McpEvidenceRecord) (subscription : SubscriptionRecord) : Bool :=
  subscription.active && subscription.runId == record.runId &&
    containsFamily subscription.families record.family &&
    containsNode subscription.nodeIds record.nodeId

/-- What the front record of a full queue leaves behind for the chain of polls. -/
def passedOver (subscription : SubscriptionRecord) : List McpEvidenceRecord :=
  (subscription.notifications.take 1).filter (subscription.trace.chain < ·.sequence)

/-- A record takes the next number of the subscription. -/
def numbered (subscription : SubscriptionRecord) (record : McpEvidenceRecord) : McpEvidenceRecord :=
  { record with sequence := subscription.nextSequence }

/-- Retain a record; a full queue drops its oldest record for it. -/
def give (limit : Nat) (record : McpEvidenceRecord) (subscription : SubscriptionRecord) :
    SubscriptionRecord :=
  let retained := subscription.numbered record
  let full := subscription.notifications.length = limit
  { subscription with
    nextSequence := wrapAdd subscription.nextSequence 1
    dropped := if full then wrapAdd subscription.dropped 1 else subscription.dropped
    notifications := pushBounded limit subscription.notifications retained
    trace :=
      { subscription.trace with
        given := subscription.trace.given ++ [retained]
        missed :=
          if full then subscription.trace.missed ++ subscription.passedOver
          else subscription.trace.missed } }

end Publishing

section Polling

/-- The records of a page. -/
def page (after limit : Nat) (notifications : List McpEvidenceRecord) : List McpEvidenceRecord :=
  (notifications.filter (after < ·.sequence)).take limit

def nextCursor (after : Nat) (items : List McpEvidenceRecord) : Nat :=
  (items.getLast?.map (·.sequence)).getD after

def subscriptionSnapshot (subscription : SubscriptionRecord) (after limit : Nat) :
    McpSubscriptionSnapshot :=
  let items := page after limit subscription.notifications
  { subscriptionId := subscription.id
    sessionId := subscription.sessionId
    runId := subscription.runId
    items := items
    nextCursor := nextCursor after items
    dropped := subscription.dropped
    active := subscription.active }

/-- The client of the chain has received a reply. -/
def follow (reply : McpSubscriptionSnapshot) (subscription : SubscriptionRecord) :
    SubscriptionRecord :=
  { subscription with
    trace :=
      { subscription.trace with
        chain := reply.nextCursor
        returned := subscription.trace.returned ++ reply.items } }

end Polling

end SubscriptionRecord

end Bbp.Mcp
