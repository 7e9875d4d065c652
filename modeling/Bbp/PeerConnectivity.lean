import Bbp.Library.Stores
import Bbp.Library.Transition

/-!
# The peer connectivity controller

The controller keeps, for every node, the peers that the logical topology allows it, and
for some nodes a policy on the number of their connections.  A node in all-peers mode has
a policy that is derived from its allowed peers: as many as there are, not one less.

The derived policy is computed when the controller is made and at a final registration.
The two operations that replace the allowed peers of a registered node do not compute it
again, so that it is about peers of the past (`allowed_peers_outgrow_policy`).  With the
number of peers unchanged the policy stays exact, and then no allowed peer is pruned
(`all_peers_policy_stays_exact`).
-/

namespace Bbp

open Library List

section Types

structure PeerCountPolicy where
  minimum : Nat
  maximum : Nat
  ordered : minimum ≤ maximum
deriving DecidableEq

/-- As many peers as this, not one more or less. -/
def PeerCountPolicy.exactly (count : Nat) : PeerCountPolicy := ⟨count, count, Nat.le_refl count⟩

structure ChainNodeConfig where
  id : String
  p2pHost : String
  p2pPort : Nat
deriving DecidableEq

def peerEndpoint (config : ChainNodeConfig) : String :=
  config.p2pHost ++ ":" ++ toString config.p2pPort

inductive PeerError where
  | unknownNode (id : String)
  | allowedPeersForEveryNode
  | missingAllowedPeers (id : String)
  | missingAllowedPeerSet (id : String)
  | containsItself
  | duplicatePeer (id : String)
  | policyRequired (id : String)
  | countExceedsUint32
  | maximumExceedsNodes (id : String)
  | minimumExceedsAllowed (id : String)
  | emptyBatch
  | emptyNodeId
  | duplicateNode (id : String)
  | alreadyRegistered (id : String)
  | batchPolicies
  | batchAllowedPeers
  | batchMissingPolicy (id : String)
  | batchMissingAllowedPeers (id : String)
  | batchExtraPolicy (id : String)
  | batchExtraAllowedPeers (id : String)
  | incompatibleWithNodes
  | policyRegistryInconsistent
  | finalNodeIds
  | finalPolicies
  | finalPolicyNotNew (id : String)
  | finalAllPeersNotNew
  | finalAllPeersPolicy
  | finalAllowedPeers
  | finalMissingAllowedPeers (id : String)
  | finalUnknownPeer (id : String)
  | finalSelfOrDuplicate
  | allPeersLostPolicy
  | outOfRange
  | incompatibleWithFinal (id : String)
  | retainedByAllowedPeers (id : String)
  | policyExceedsRemaining (id : String)
  | updateBelowMinimum (id : String)
  | minimumNotMet
deriving DecidableEq

def PeerError.message : PeerError → String
  | .unknownNode id => "unknown simulation node: " ++ id
  | .allowedPeersForEveryNode =>
    "peer connectivity controller requires allowed peers for every node"
  | .missingAllowedPeers id => "peer connectivity controller is missing allowed peers for " ++ id
  | .missingAllowedPeerSet id => "missing allowed peer set for simulation node: " ++ id
  | .containsItself => "allowed peer set must not contain its node"
  | .duplicatePeer id => "allowed peer set contains a duplicate peer: " ++ id
  | .policyRequired id => "all-peers mode requires a peer policy for " ++ id
  | .countExceedsUint32 => "all-peers policy count exceeds uint32"
  | .maximumExceedsNodes id =>
    "maximum peer count for " ++ id ++ " exceeds available simulation peers"
  | .minimumExceedsAllowed id => "minimum peer count for " ++ id ++ " exceeds allowed logical peers"
  | .emptyBatch => "peer connectivity controller registration batch must not be empty"
  | .emptyNodeId => "peer connectivity controller node id must not be empty"
  | .duplicateNode id =>
    "peer connectivity controller registration batch contains a duplicate node id: " ++ id
  | .alreadyRegistered id => "simulation node is already registered: " ++ id
  | .batchPolicies =>
    "peer connectivity controller registration batch requires one optional policy " ++
      "entry for every node"
  | .batchAllowedPeers =>
    "peer connectivity controller registration batch requires allowed peers for every " ++
      "new node"
  | .batchMissingPolicy id =>
    "peer connectivity controller registration batch is missing a policy entry for " ++ id
  | .batchMissingAllowedPeers id =>
    "peer connectivity controller registration batch is missing allowed peers for " ++ id
  | .batchExtraPolicy id =>
    "peer connectivity controller registration batch contains an extra policy entry " ++
      "for " ++ id
  | .batchExtraAllowedPeers id =>
    "peer connectivity controller registration batch contains extra allowed peers for " ++ id
  | .incompatibleWithNodes => "peer policy is incompatible with the registered node set"
  | .policyRegistryInconsistent => "peer connectivity policy registry is internally inconsistent"
  | .finalNodeIds => "peer final registration has an empty or duplicate node id"
  | .finalPolicies => "peer final registration requires one optional policy for every new node"
  | .finalPolicyNotNew id => "peer final registration contains a policy for a non-new node: " ++ id
  | .finalAllPeersNotNew => "peer final registration all-peers mode is limited to new nodes"
  | .finalAllPeersPolicy => "peer final registration all-peers node requires a policy"
  | .finalAllowedPeers => "peer final registration requires an exact allowed-peer map"
  | .finalMissingAllowedPeers id => "peer final registration is missing allowed peers for " ++ id
  | .finalUnknownPeer id => "peer final registration references unknown peer: " ++ id
  | .finalSelfOrDuplicate => "peer final registration contains a self or duplicate peer"
  | .allPeersLostPolicy => "peer all-peers registry lost its typed policy"
  | .outOfRange => "map::at"
  | .incompatibleWithFinal id => "peer policy is incompatible with the final node set: " ++ id
  | .retainedByAllowedPeers id => "cannot unregister a node retained by an allowed peer set: " ++ id
  | .policyExceedsRemaining id =>
    "cannot unregister a node while a peer policy exceeds the remaining node set: " ++ id
  | .updateBelowMinimum id => "peer policy minimum exceeds allowed logical peers for " ++ id
  | .minimumNotMet => "peer policy minimum cannot be met with running simulation peers"

abbrev PolicyMap : Type := List (String × PeerCountPolicy)

abbrev OptionalPolicyMap : Type := List (String × Option PeerCountPolicy)

abbrev AllowedPeerMap : Type := List (String × List String)

structure PeerConnectivityController where
  nodes : List ChainNodeConfig
  policies : PolicyMap
  allPeerPolicyNodeIds : List String
  allowedPeers : AllowedPeerMap
deriving DecidableEq

end Types

section Checks

def findNodeConfig (nodes : List ChainNodeConfig) (id : String) :
    Except PeerError ChainNodeConfig :=
  match nodes.find? fun node => node.id = id with
  | none => .error (.unknownNode id)
  | some node => .ok node

/-- The peers of a node are registered, different from it and from each other. -/
def checkPeers (nodes : List ChainNodeConfig) (id : String) :
    List String → List String → Option PeerError
  | _, [] => none
  | unique, peerId :: rest =>
    match findNodeConfig nodes peerId with
    | .error e => some e
    | .ok peer =>
      if peer.id = id then some .containsItself
      else if peer.id ∈ unique then some (.duplicatePeer peer.id)
      else checkPeers nodes id (peer.id :: unique) rest

/-- A new policy for each of the nodes that are to have all their peers. -/
def derivePolicies (noPolicy noPeers : String → PeerError) (allowed : AllowedPeerMap) :
    List String → PolicyMap → Except PeerError PolicyMap
  | [], policies => .ok policies
  | id :: ids, policies =>
    match policies.lookup id with
    | none => .error (noPolicy id)
    | some _ =>
      match allowed.lookup id with
      | none => .error (noPeers id)
      | some peers =>
        if peers.length > 2 ^ 32 - 1 then .error .countExceedsUint32
        else
          derivePolicies noPolicy noPeers allowed ids
            (assignKey id (.exactly peers.length) policies)

/-- One less than the number of nodes, as an unsigned word. -/
def maximumPossible (nodes : List ChainNodeConfig) : Nat :=
  if nodes.length = 0 then 2 ^ 64 - 1 else nodes.length - 1

/-- A policy asks for no more than the nodes and the allowed peers give. -/
def checkPolicy (nodes : List ChainNodeConfig) (allowed : AllowedPeerMap) (id : String)
    (policy : PeerCountPolicy) : Option PeerError :=
  if policy.maximum > maximumPossible nodes then some (.maximumExceedsNodes id)
  else
    match allowed.lookup id with
    | none => some (.missingAllowedPeerSet id)
    | some peers => if policy.minimum > peers.length then some (.minimumExceedsAllowed id) else none

end Checks

namespace PeerConnectivityController

section Operations

def validateAllowedPeers (c : PeerConnectivityController) (id : String)
    (peers : List String) : Option PeerError :=
  match findNodeConfig c.nodes id with
  | .error e => some e
  | .ok node => checkPeers c.nodes node.id [] peers

def validateAllowedPeerUpdate (c : PeerConnectivityController) (id : String)
    (peers : List String) : Option PeerError :=
  match c.validateAllowedPeers id peers with
  | some e => some e
  | none =>
    match c.policies.lookup id with
    | none => none
    | some policy => if policy.minimum > peers.length then some (.updateBelowMinimum id) else none

def create (nodes : List ChainNodeConfig) (policies : PolicyMap)
    (allowedPeers : AllowedPeerMap) (allPeerPolicyNodeIds : List String) :
    Except PeerError PeerConnectivityController :=
  let c : PeerConnectivityController := { nodes, policies, allPeerPolicyNodeIds, allowedPeers }
  if allowedPeers.length ≠ nodes.length then .error .allowedPeersForEveryNode
  else
    let failure := nodes.findSome? fun node =>
      match allowedPeers.lookup node.id with
      | none => some (.missingAllowedPeers node.id)
      | some peers => c.validateAllowedPeers node.id peers
    match failure with
    | some e => .error e
    | none =>
      match derivePolicies .policyRequired .missingAllowedPeerSet allowedPeers
          allPeerPolicyNodeIds policies with
      | .error e => .error e
      | .ok policies =>
        match policies.findSome? fun entry =>
            checkPolicy nodes allowedPeers entry.1 entry.2 with
        | some e => .error e
        | none => .ok { c with policies }

/-- The ids of a batch are new and different. -/
def checkBatch (nodes : List ChainNodeConfig) :
    List String → List ChainNodeConfig → Option PeerError
  | _, [] => none
  | batchIds, node :: rest =>
    if node.id = "" then some .emptyNodeId
    else if node.id ∈ batchIds then some (.duplicateNode node.id)
    else if nodes.any fun candidate => candidate.id = node.id then some (.alreadyRegistered node.id)
    else checkBatch nodes (node.id :: batchIds) rest

/-- The peers and the policy that a node of the batch, or an older one, will have. -/
def checkRegistered (c : PeerConnectivityController) (nextNodes : List ChainNodeConfig)
    (policies : OptionalPolicyMap) (id : String) (peers : List String) : Option PeerError :=
  match checkPeers nextNodes id [] peers with
  | some e => some e
  | none =>
    let policy :=
      match policies.lookup id with
      | some policy => policy
      | none => c.policies.lookup id
    match policy with
    | none => none
    | some policy =>
      if policy.maximum > maximumPossible nextNodes ∨ policy.minimum > peers.length
      then some .incompatibleWithNodes
      else none

def registrationFailure (c : PeerConnectivityController) (nodes : List ChainNodeConfig)
    (policies : OptionalPolicyMap) (allowedPeers : AllowedPeerMap) : Option PeerError :=
  let batchIds := (nodes.map ChainNodeConfig.id).insertionSort (· ≤ ·)
  let nextNodes := c.nodes ++ nodes
  (if nodes = [] then some .emptyBatch else none) <|>
  checkBatch c.nodes [] nodes <|>
  (if policies.length ≠ nodes.length then some .batchPolicies else none) <|>
  (if allowedPeers.length < nodes.length then some .batchAllowedPeers else none) <|>
  (batchIds.findSome? fun id =>
    if (policies.lookup id).isNone then some (.batchMissingPolicy id)
    else if (allowedPeers.lookup id).isNone then some (.batchMissingAllowedPeers id)
    else none) <|>
  (policies.findSome? fun entry =>
    if entry.1 ∈ batchIds then none else some (.batchExtraPolicy entry.1)) <|>
  (allowedPeers.findSome? fun entry =>
    if nextNodes.any fun node => node.id = entry.1 then none
    else some (.batchExtraAllowedPeers entry.1)) <|>
  (allowedPeers.findSome? fun entry => c.checkRegistered nextNodes policies entry.1 entry.2)

/-- The policies of a batch are added to those that are there. -/
def emplacePolicies (policies : OptionalPolicyMap) :
    List ChainNodeConfig → PolicyMap → Except PeerError PolicyMap
  | [], next => .ok next
  | node :: rest, next =>
    match policies.lookup node.id with
    | none => .error .outOfRange
    | some none => emplacePolicies policies rest next
    | some (some policy) =>
      if (next.lookup node.id).isSome then .error .policyRegistryInconsistent
      else emplacePolicies policies rest ((node.id, policy) :: next)

/-- The allowed peers of the batch, and of older nodes that get new ones. -/
def assignPeers (allowedPeers : AllowedPeerMap) (peers : AllowedPeerMap) : AllowedPeerMap :=
  allowedPeers.foldl (fun peers entry => assignKey entry.1 entry.2 peers) peers

def registerNodes (c : PeerConnectivityController) (nodes : List ChainNodeConfig)
    (policies : OptionalPolicyMap) (allowedPeers : AllowedPeerMap) :
    Except PeerError PeerConnectivityController :=
  match c.registrationFailure nodes policies allowedPeers with
  | some e => .error e
  | none =>
    match emplacePolicies policies nodes c.policies with
    | .error e => .error e
    | .ok next =>
      .ok
        { c with
          nodes := c.nodes ++ nodes
          policies := next
          allowedPeers := assignPeers allowedPeers c.allowedPeers }

def checkFinalIds : List String → List ChainNodeConfig → Option PeerError
  | _, [] => none
  | finalIds, node :: rest =>
    if node.id = "" ∨ node.id ∈ finalIds then some .finalNodeIds
    else checkFinalIds (node.id :: finalIds) rest

def checkFinalPeers (finalIds : List String) (id : String) :
    List String → List String → Option PeerError
  | _, [] => none
  | unique, peerId :: rest =>
    if peerId ∉ finalIds then some (.finalUnknownPeer peerId)
    else if peerId = id ∨ peerId ∈ unique then some .finalSelfOrDuplicate
    else checkFinalPeers finalIds id (peerId :: unique) rest

def finalRegistrationFailure (c : PeerConnectivityController)
    (finalNodes : List ChainNodeConfig) (newPolicies : OptionalPolicyMap)
    (finalAllowedPeers : AllowedPeerMap) (newAllPeerPolicyNodeIds : List String) :
    Option PeerError :=
  let finalIds := finalNodes.map ChainNodeConfig.id
  let newIds := finalIds.filter fun id => !c.nodes.any fun node => node.id = id
  checkFinalIds [] finalNodes <|>
  (if newPolicies.length ≠ newIds.length then some .finalPolicies else none) <|>
  (newPolicies.findSome? fun entry =>
    if entry.1 ∈ newIds then none else some (.finalPolicyNotNew entry.1)) <|>
  (newAllPeerPolicyNodeIds.findSome? fun id =>
    if id ∉ newIds then some .finalAllPeersNotNew
    else if (newPolicies.lookup id).join.isNone then some .finalAllPeersPolicy
    else none) <|>
  (if finalAllowedPeers.length ≠ finalNodes.length then some .finalAllowedPeers
    else none) <|>
  (finalNodes.findSome? fun node =>
    match finalAllowedPeers.lookup node.id with
    | none => some (.finalMissingAllowedPeers node.id)
    | some peers => checkFinalPeers finalIds node.id [] peers)

/-- The policies of the nodes that stay, and those of the new ones. -/
def finalPolicies (c : PeerConnectivityController) (finalIds newIds : List String)
    (newPolicies : OptionalPolicyMap) : PolicyMap :=
  newIds.foldl (fun policies id =>
      match (newPolicies.lookup id).join with
      | none => policies
      | some policy => if (policies.lookup id).isSome then policies else (id, policy) :: policies)
    (c.policies.filter fun entry => entry.1 ∈ finalIds)

def checkFinalPolicy (finalIds : List String) (maximum : Nat) (allowed : AllowedPeerMap)
    (id : String) (policy : PeerCountPolicy) : Option PeerError :=
  if id ∉ finalIds ∨ policy.maximum > maximum then some (.incompatibleWithFinal id)
  else
    match allowed.lookup id with
    | none => some .outOfRange
    | some peers => if policy.minimum > peers.length then some (.incompatibleWithFinal id) else none

/-- The state that a commit will swap in. -/
def prepareFinalRegistration (c : PeerConnectivityController)
    (finalNodes : List ChainNodeConfig) (newPolicies : OptionalPolicyMap)
    (finalAllowedPeers : AllowedPeerMap) (newAllPeerPolicyNodeIds : List String) :
    Except PeerError PeerConnectivityController :=
  match c.finalRegistrationFailure finalNodes newPolicies finalAllowedPeers
      newAllPeerPolicyNodeIds with
  | some e => .error e
  | none =>
    let finalIds := finalNodes.map ChainNodeConfig.id
    let newIds := finalIds.filter fun id => !c.nodes.any fun node => node.id = id
    let ids := c.allPeerPolicyNodeIds.filter (fun id => id ∈ finalIds) ++ newAllPeerPolicyNodeIds
    match derivePolicies (fun _ => .allPeersLostPolicy) (fun _ => .outOfRange)
        finalAllowedPeers ids (c.finalPolicies finalIds newIds newPolicies) with
    | .error e => .error e
    | .ok policies =>
      match policies.findSome? fun entry =>
          checkFinalPolicy finalIds (finalNodes.length - 1) finalAllowedPeers entry.1 entry.2 with
      | some e => .error e
      | none =>
        .ok
          { nodes := finalNodes
            policies
            allPeerPolicyNodeIds := ids
            allowedPeers := finalAllowedPeers }

def unregisterNode (c : PeerConnectivityController) (id : String) :
    Except PeerError PeerConnectivityController :=
  if (c.nodes.any fun node => node.id = id) = false then .error (.unknownNode id)
  else if c.allowedPeers.any fun entry => entry.1 ≠ id ∧ id ∈ entry.2 then
    .error (.retainedByAllowedPeers id)
  else
    match c.policies.find? fun entry =>
        entry.1 ≠ id ∧ entry.2.maximum > c.nodes.length - 2 with
    | some entry => .error (.policyExceedsRemaining entry.1)
    | none =>
      .ok
        { nodes := c.nodes.eraseP fun node => node.id = id
          policies := eraseKey id c.policies
          allPeerPolicyNodeIds := c.allPeerPolicyNodeIds.filter (· ≠ id)
          allowedPeers := eraseKey id c.allowedPeers }

def setPolicy (c : PeerConnectivityController) (id : String) (policy : PeerCountPolicy) :
    Except PeerError PeerConnectivityController :=
  match checkPolicy c.nodes c.allowedPeers id policy with
  | some e => .error e
  | none =>
    .ok
      { c with
        policies := assignKey id policy c.policies
        allPeerPolicyNodeIds := c.allPeerPolicyNodeIds.filter (· ≠ id) }

def setAllowedPeers (c : PeerConnectivityController) (id : String) (peers : List String) :
    Except PeerError PeerConnectivityController :=
  match c.validateAllowedPeerUpdate id peers with
  | some e => .error e
  | none => .ok { c with allowedPeers := assignKey id peers c.allowedPeers }

end Operations

section Enforcing

inductive PeerConnectivityAction where
  | connected
  | disconnected
  | topologyRestored
deriving DecidableEq

/-- What a round of the controller finds out about the other nodes. -/
structure PeerReadings where
  excluded : List String := []
  available : String → Bool := fun _ => true
  connected : List String := []

/-- Connect to peers until there are enough, or no more of them. -/
def connectPeers (minimum : Nat) (action : PeerConnectivityAction) :
    List ChainNodeConfig → List ChainNodeConfig →
      List ChainNodeConfig × List (String × PeerConnectivityAction)
  | [], connected => (connected, [])
  | peer :: rest, connected =>
    if connected.length < minimum then
      let (connected, actions) := connectPeers minimum action rest (connected ++ [peer])
      (connected, (peer.id, action) :: actions)
    else (connected, [])

/-- Disconnect from the last peer until there are not too many; the last one first. -/
def prunePeers (maximum : Nat) : List ChainNodeConfig → List (String × PeerConnectivityAction)
  | [] => []
  | peer :: rest =>
    if (peer :: rest).length > maximum then (peer.id, .disconnected) :: prunePeers maximum rest
    else []

/-- The configurations of the allowed peers that are neither excluded nor unavailable. -/
def candidates (nodes : List ChainNodeConfig) (readings : PeerReadings) :
    List String → Except PeerError (List ChainNodeConfig)
  | [] => .ok []
  | id :: rest =>
    if id ∈ readings.excluded then candidates nodes readings rest
    else
      match findNodeConfig nodes id with
      | .error e => .error e
      | .ok peer =>
        match candidates nodes readings rest with
        | .error e => .error e
        | .ok peers => .ok (if readings.available peer.id then peer :: peers else peers)

/-- The physical sessions that no allowed peer set asks for. -/
def strayPeers (c : PeerConnectivityController) (node : ChainNodeConfig)
    (allowed : List String) (readings : PeerReadings) : List ChainNodeConfig :=
  c.nodes.filter fun peer =>
    peer.id ≠ node.id ∧ peer.id ∉ allowed ∧
      ((c.allowedPeers.lookup peer.id).any fun reverse => node.id ∈ reverse) = false ∧
      peerEndpoint peer ∈ readings.connected

/--
The actions of one round for one node, as long as the configuration does not change
under it: a change ends the round early and takes the last action back.
-/
def enforcePolicy (c : PeerConnectivityController) (node : ChainNodeConfig)
    (allowed : List String) (policy : Option PeerCountPolicy) (readings : PeerReadings) :
    Except PeerError (List (String × PeerConnectivityAction)) :=
  match candidates c.nodes readings allowed with
  | .error e => .error e
  | .ok peers =>
    if policy.any fun policy => peers.length < policy.minimum then .error .minimumNotMet
    else
      let effective := policy.getD (.exactly peers.length)
      let action : PeerConnectivityAction := if policy.isNone then .topologyRestored else .connected
      let stray := (c.strayPeers node allowed readings).map
        fun peer => (peer.id, PeerConnectivityAction.disconnected)
      let isConnected := fun peer => decide (peerEndpoint peer ∈ readings.connected)
      let (connected, connects) :=
        connectPeers effective.minimum action (peers.filter fun peer => !isConnected peer)
          (peers.filter isConnected)
      .ok (stray ++ connects ++ prunePeers effective.maximum connected.reverse)

end Enforcing

end PeerConnectivityController

section Machine

inductive PeerOperation where
  | registerNodes (nodes : List ChainNodeConfig) (policies : OptionalPolicyMap)
      (allowedPeers : AllowedPeerMap)
  | finalRegistration (nodes : List ChainNodeConfig) (policies : OptionalPolicyMap)
      (allowedPeers : AllowedPeerMap) (allPeerPolicyNodeIds : List String)
  | unregisterNode (id : String)
  | setPolicy (id : String) (policy : PeerCountPolicy)
  | setAllowedPeers (id : String) (peers : List String)

namespace PeerConnectivityController

def perform (c : PeerConnectivityController) :
    PeerOperation → Except PeerError PeerConnectivityController
  | .registerNodes nodes policies allowedPeers => c.registerNodes nodes policies allowedPeers
  | .finalRegistration nodes policies allowedPeers ids =>
    c.prepareFinalRegistration nodes policies allowedPeers ids
  | .unregisterNode id => c.unregisterNode id
  | .setPolicy id policy => c.setPolicy id policy
  | .setAllowedPeers id peers => c.setAllowedPeers id peers

end PeerConnectivityController

/-- Successful operations, one after the other. -/
def peerConnectivityMachine : Machine PeerConnectivityController PeerOperation where
  step c operation := (c.perform operation).toOption

end Machine

namespace PeerConnectivityController

section Exactness

variable {c c' : PeerConnectivityController} {ids : List String} {nodes : List ChainNodeConfig}
  {allowedPeers : AllowedPeerMap} {policies : OptionalPolicyMap} {id : String}
  {policy : PeerCountPolicy}

/-- The policy of an all-peers node asks for exactly the peers it is allowed. -/
def AllPeersExact (c : PeerConnectivityController) : Prop :=
  ∀ id, id ∈ c.allPeerPolicyNodeIds → ∃ peers, c.allowedPeers.lookup id = some peers ∧
      c.policies.lookup id = some (.exactly peers.length)

theorem derivePolicies_ok {noPolicy noPeers : String → PeerError} {allowed : AllowedPeerMap}
    {policies result : PolicyMap}
    (h : derivePolicies noPolicy noPeers allowed ids policies = .ok result) :
    (∀ id ∈ ids, ∃ peers, allowed.lookup id = some peers ∧
      result.lookup id = some (.exactly peers.length)) ∧
    ∀ id, id ∉ ids → result.lookup id = policies.lookup id := by
  induction ids generalizing policies with
  | nil =>
    cases h
    exact ⟨nofun, fun _ _ => rfl⟩
  | cons first rest ih =>
    unfold derivePolicies at h
    split at h
    · cases h
    split at h
    · cases h
    rename_i peers hpeers
    split_ifs at h
    obtain ⟨hderived, hothers⟩ := ih h
    refine ⟨?_, ?_⟩
    · intro id hid
      by_cases hrest : id ∈ rest
      · exact hderived id hrest
      rcases mem_cons.mp hid with rfl | hmem
      · refine ⟨peers, hpeers, ?_⟩
        rw [hothers id hrest, lookup_assignKey, if_pos rfl]
      · exact absurd hmem hrest
    · intro id hid
      obtain ⟨hfirst, hrest⟩ := not_or.mp (fun hor => hid (mem_cons.mpr hor))
      rw [hothers id hrest, lookup_assignKey, if_neg hfirst]

theorem create_exact {policies : PolicyMap} (h : create nodes policies allowedPeers ids = .ok c) :
    c.AllPeersExact := by
  unfold create at h
  dsimp only at h
  split at h
  · cases h
  split at h
  · cases h
  split at h
  · cases h
  rename_i hderived
  split at h <;> cases h
  exact (derivePolicies_ok hderived).1

theorem prepareFinalRegistration_exact
    (h : c.prepareFinalRegistration nodes policies allowedPeers ids = .ok c') :
    c'.AllPeersExact := by
  unfold prepareFinalRegistration at h
  dsimp only at h
  split at h
  · cases h
  split at h
  · cases h
  rename_i hderived
  split at h <;> cases h
  exact (derivePolicies_ok hderived).1

/-- A policy that is there stays when a batch brings new ones. -/
theorem emplacePolicies_lookup {next result : PolicyMap}
    (h : emplacePolicies policies nodes next = .ok result) (hid : next.lookup id = some policy) :
    result.lookup id = some policy := by
  induction nodes generalizing next with
  | nil =>
    cases h
    exact hid
  | cons node rest ih =>
    unfold emplacePolicies at h
    split at h
    · cases h
    · exact ih h hid
    split_ifs at h with hnew
    refine ih h ?_
    rw [lookup]
    cases hsame : id == node.id with
    | true =>
      rw [← beq_iff_eq.mp hsame, hid] at hnew
      exact absurd rfl hnew
    | false => exact hid

/-- Peers of the old number are assigned to a node, or none. -/
theorem assignPeers_lookup {peers : AllowedPeerMap} {count : Nat}
    (hold : ∃ ids, peers.lookup id = some ids ∧ ids.length = count)
    (hnew : ∀ entry ∈ allowedPeers, entry.1 = id → entry.2.length = count) :
    ∃ ids, (assignPeers allowedPeers peers).lookup id = some ids ∧ ids.length = count := by
  induction allowedPeers generalizing peers with
  | nil => exact hold
  | cons entry rest ih =>
    refine ih ?_ (fun e he => hnew e (mem_cons_of_mem _ he))
    rw [lookup_assignKey]
    by_cases hkey : id = entry.1
    · rw [if_pos hkey]
      exact ⟨entry.2, rfl, hnew entry mem_cons_self hkey.symm⟩
    · rw [if_neg hkey]
      exact hold

/-- A node in all-peers mode gets as many peers as it has. -/
def keepsCount (c : PeerConnectivityController) (id : String) (peers : List String) : Bool :=
  !decide (id ∈ c.allPeerPolicyNodeIds) ||
    (c.allowedPeers.lookup id).all fun old => peers.length == old.length

/-- The operation changes the number of peers of no all-peers node. -/
def keepsCounts (c : PeerConnectivityController) : PeerOperation → Bool
  | .registerNodes _ _ allowedPeers => allowedPeers.all fun entry => c.keepsCount entry.1 entry.2
  | .setAllowedPeers id peers => c.keepsCount id peers
  | _ => true

theorem keepsCount_length {peers old : List String} (h : c.keepsCount id peers = true)
    (hid : id ∈ c.allPeerPolicyNodeIds) (hold : c.allowedPeers.lookup id = some old) :
    peers.length = old.length := by
  simpa [keepsCount, hid, hold] using h

variable (hexact : c.AllPeersExact)

include hexact

theorem registerNodes_exact
    (hcounts : c.keepsCounts (.registerNodes nodes policies allowedPeers) = true)
    (h : c.registerNodes nodes policies allowedPeers = .ok c') : c'.AllPeersExact := by
  unfold registerNodes at h
  split at h
  · cases h
  split at h <;> cases h
  rename_i next hnext
  intro id hid
  obtain ⟨old, hold, hpolicy⟩ := hexact id hid
  obtain ⟨peers, hpeers, hlength⟩ :
      ∃ ids, (assignPeers allowedPeers c.allowedPeers).lookup id = some ids ∧
        ids.length = old.length := by
    refine assignPeers_lookup ⟨old, hold, rfl⟩ ?_
    rintro entry hentry rfl
    exact keepsCount_length (all_eq_true.mp hcounts entry hentry) hid hold
  refine ⟨peers, hpeers, ?_⟩
  rw [hlength]
  exact emplacePolicies_lookup hnext hpolicy

theorem unregisterNode_exact (h : c.unregisterNode id = .ok c') : c'.AllPeersExact := by
  unfold unregisterNode at h
  split at h
  · cases h
  split at h
  · cases h
  split at h <;> cases h
  intro other hother
  obtain ⟨hmem, hne⟩ := mem_filter.mp hother
  have hdifferent : other ≠ id := of_decide_eq_true hne
  obtain ⟨peers, hpeers, hpolicy⟩ := hexact other hmem
  refine ⟨peers, ?_, ?_⟩
  · rw [lookup_eraseKey, if_neg hdifferent]
    exact hpeers
  · rw [lookup_eraseKey, if_neg hdifferent]
    exact hpolicy

theorem setPolicy_exact (h : c.setPolicy id policy = .ok c') : c'.AllPeersExact := by
  unfold setPolicy at h
  split at h <;> cases h
  intro other hother
  obtain ⟨hmem, hne⟩ := mem_filter.mp hother
  have hdifferent : other ≠ id := of_decide_eq_true hne
  obtain ⟨peers, hpeers, hpolicy⟩ := hexact other hmem
  refine ⟨peers, hpeers, ?_⟩
  rw [lookup_assignKey, if_neg hdifferent]
  exact hpolicy

theorem setAllowedPeers_exact {peers : List String}
    (hcount : c.keepsCount id peers = true) (h : c.setAllowedPeers id peers = .ok c') :
    c'.AllPeersExact := by
  unfold setAllowedPeers at h
  split at h <;> cases h
  intro other hother
  obtain ⟨old, hold, hpolicy⟩ := hexact other hother
  by_cases hsame : other = id
  · subst hsame
    refine ⟨peers, ?_, ?_⟩
    · rw [lookup_assignKey, if_pos rfl]
    · rw [keepsCount_length hcount hother hold]
      exact hpolicy
  · refine ⟨old, ?_, hpolicy⟩
    rw [lookup_assignKey, if_neg hsame]
    exact hold

omit hexact in
theorem step_exact {operation : PeerOperation}
    (hstep : peerConnectivityMachine.step c operation = some c')
    (hcounts : c.keepsCounts operation = true) (hexact : c.AllPeersExact) : c'.AllPeersExact := by
  have hperform : c.perform operation = .ok c' := eq_ok_of_toOption hstep
  cases operation with
  | registerNodes nodes policies allowedPeers => exact registerNodes_exact hexact hcounts hperform
  | finalRegistration nodes policies allowedPeers ids =>
    exact prepareFinalRegistration_exact hperform
  | unregisterNode id => exact unregisterNode_exact hexact hperform
  | setPolicy id policy => exact setPolicy_exact hexact hperform
  | setAllowedPeers id peers => exact setAllowedPeers_exact hexact hcounts hperform

end Exactness

section Pruning

variable {c : PeerConnectivityController} {nodes : List ChainNodeConfig} {readings : PeerReadings}
  (disconnected connected : List ChainNodeConfig) {action : PeerConnectivityAction}

theorem candidates_length {allowed : List String} {peers : List ChainNodeConfig}
    (h : candidates nodes readings allowed = .ok peers) : peers.length ≤ allowed.length := by
  induction allowed generalizing peers with
  | nil =>
    cases h
    exact Nat.le_refl 0
  | cons id rest ih =>
    unfold candidates at h
    split at h
    · exact Nat.le_succ_of_le (ih h)
    split at h
    · cases h
    split at h
    · cases h
    rename_i others hrest
    have hlength := ih hrest
    cases h
    split
    · exact Nat.succ_le_succ hlength
    · exact Nat.le_succ_of_le hlength

theorem connectPeers_length {minimum : Nat} :
    (connectPeers minimum action disconnected connected).1.length ≤
      connected.length + disconnected.length := by
  induction disconnected generalizing connected with
  | nil => exact Nat.le_refl _
  | cons peer rest ih =>
    unfold connectPeers
    split
    · have hrest := ih (connected ++ [peer])
      rw [length_append, length_singleton] at hrest
      dsimp only
      rw [length_cons]
      omega
    · exact Nat.le_add_right _ _

theorem connectPeers_actions {minimum : Nat} :
    ∀ entry ∈ (connectPeers minimum action disconnected connected).2,
      entry.2 = action := by
  induction disconnected generalizing connected with
  | nil => exact nofun
  | cons peer rest ih =>
    unfold connectPeers
    split
    · intro entry hentry
      rcases mem_cons.mp hentry with rfl | hmem
      · rfl
      · exact ih (connected ++ [peer]) entry hmem
    · exact nofun

theorem prunePeers_of_length {maximum : Nat} {connected : List ChainNodeConfig}
    (h : connected.length ≤ maximum) : prunePeers maximum connected = [] := by
  cases connected with
  | nil => rfl
  | cons peer rest =>
    unfold prunePeers
    exact if_neg (Nat.not_lt.mpr h)

/-- With a policy for exactly the allowed peers, none of them is disconnected. -/
theorem enforcePolicy_keeps {node : ChainNodeConfig} {allowed : List String}
    {actions : List (String × PeerConnectivityAction)}
    (h : c.enforcePolicy node allowed (some (.exactly allowed.length)) readings = .ok actions) :
    ∀ id ∈ allowed, (id, PeerConnectivityAction.disconnected) ∉ actions := by
  intro id hid hmem
  unfold enforcePolicy at h
  split at h
  · cases h
  rename_i peers hpeers
  split at h
  · cases h
  dsimp only [Option.getD_some, PeerCountPolicy.exactly] at h
  cases h
  have hlength := candidates_length hpeers
  have hsplit : (peers.filter fun peer => decide (peerEndpoint peer ∈ readings.connected)).length +
      (peers.filter fun peer => !decide (peerEndpoint peer ∈
        readings.connected)).length = peers.length :=
    (length_eq_length_filter_add _).symm
  rcases mem_append.mp hmem with hmem | hmem
  · rcases mem_append.mp hmem with hmem | hmem
    · obtain ⟨peer, hpeer, hpair⟩ := mem_map.mp hmem
      cases hpair
      have hstray := of_decide_eq_true (mem_filter.mp hpeer).2
      exact hstray.2.1 hid
    · have hconnect := connectPeers_actions _ _ _ hmem
      cases hconnect
  · rw [prunePeers_of_length] at hmem
    · cases hmem
    · rw [length_reverse]
      refine (connectPeers_length _ _).trans ?_
      omega

/-- A check of the peers alone never speaks of a minimum. -/
theorem checkPeers_minimum {id other : String} {unique peers : List String} :
    checkPeers nodes id unique peers ≠ some (.updateBelowMinimum other) := by
  induction peers generalizing unique with
  | nil => exact nofun
  | cons peerId rest ih =>
    unfold checkPeers
    split
    · rename_i e hfind
      unfold findNodeConfig at hfind
      split at hfind <;> cases hfind
      exact nofun
    split
    · exact nofun
    · split
      · exact nofun
      · exact ih

theorem validateAllowedPeers_minimum {id other : String} {peers : List String} :
    c.validateAllowedPeers id peers ≠ some (.updateBelowMinimum other) := by
  unfold validateAllowedPeers
  split
  · rename_i e hfind
    unfold findNodeConfig at hfind
    split at hfind <;> cases hfind
    exact nofun
  · exact checkPeers_minimum

end Pruning

end PeerConnectivityController

section Results

open PeerConnectivityController

/-- A node on a host of its own. -/
def peerNode (id host : String) : ChainNodeConfig := ⟨id, host, 18444⟩

/-- Three nodes, the first of which is to have all its peers and has one. -/
def threePeers : Except PeerError PeerConnectivityController :=
  create [peerNode "a" "10.0.0.1", peerNode "b" "10.0.0.3", peerNode "c" "10.0.0.5"]
    [("a", .exactly 0)] [("a", ["b"]), ("b", []), ("c", [])] ["a"]

/-- The first node of three with the peers it was made with. -/
def firstController : PeerConnectivityController :=
  { nodes := [peerNode "a" "10.0.0.1", peerNode "b" "10.0.0.3", peerNode "c" "10.0.0.5"]
    policies := [("a", .exactly 1)]
    allPeerPolicyNodeIds := ["a"]
    allowedPeers := [("a", ["b"]), ("b", []), ("c", [])] }

/-- Two peers of the first node, both connected. -/
def bothConnected : PeerReadings := { connected := ["10.0.0.3:18444", "10.0.0.5:18444"] }

/-- The first node has the policy and the peers, and a round takes the last one away. -/
def outgrown (c : PeerConnectivityController) : Bool :=
  decide ("a" ∈ c.allPeerPolicyNodeIds ∧ c.policies.lookup "a" = some (.exactly 1) ∧
    c.allowedPeers.lookup "a" = some ["b", "c"]) &&
  match c.enforcePolicy (peerNode "a" "10.0.0.1") ["b", "c"] (some (.exactly 1)) bothConnected with
  | .ok actions => actions == [("c", .disconnected)]
  | .error _ => false

/--
An edge to a second peer is activated: the policy still asks for one, and the controller
disconnects the new peer.  The only edge is deactivated: that is refused.
-/
theorem allowed_peers_outgrow_policy :
    threePeers.toOption = some firstController ∧
    (∃ c, peerConnectivityMachine.run firstController [.setAllowedPeers "a" ["b", "c"]] =
        some c ∧ outgrown c = true) ∧
    firstController.validateAllowedPeerUpdate "a" [] = some (.updateBelowMinimum "a") := by
  refine ⟨by decide +kernel, ?_, by decide +kernel⟩
  exact peerConnectivityMachine.run_of_any _ _ _ (by decide +kernel)

/--
In a run of successful operations that leave the number of allowed peers of every
all-peers node as it is, its policy asks for exactly that number; a round of the
controller disconnects none of its allowed peers, and no update that leaves the number is
refused because of the minimum.
-/
theorem all_peers_policy_stays_exact
    {nodes : List ChainNodeConfig} {policies : PolicyMap} {allowedPeers : AllowedPeerMap}
    {ids : List String} {start c : PeerConnectivityController} {operations : List PeerOperation}
    (hcreate : create nodes policies allowedPeers ids = .ok start)
    (hrun : peerConnectivityMachine.run start operations = some c)
    (hmeets : peerConnectivityMachine.Meets
      (fun c operation => c.keepsCounts operation = true) start operations)
    {id : String} (hid : id ∈ c.allPeerPolicyNodeIds) :
    ∃ peers policy, c.allowedPeers.lookup id = some peers ∧ c.policies.lookup id = some policy ∧
      policy.minimum = peers.length ∧ policy.maximum = peers.length ∧
      (∀ node readings actions,
        c.enforcePolicy node peers (some policy) readings = .ok actions →
          ∀ peer, peer ∈ peers → (peer, PeerConnectivityAction.disconnected) ∉ actions) ∧
      ∀ updated, c.keepsCounts (.setAllowedPeers id updated) = true →
        c.validateAllowedPeerUpdate id updated ≠ some (.updateBelowMinimum id) := by
  have hexact : c.AllPeersExact :=
    peerConnectivityMachine.meets_preserves
      (fun _ _ _ hstep hcounts hexact => step_exact hstep hcounts hexact)
      hmeets hrun (create_exact hcreate)
  obtain ⟨peers, hpeers, hpolicy⟩ := hexact id hid
  refine ⟨peers, .exactly peers.length, hpeers, hpolicy, rfl, rfl, ?_, ?_⟩
  · intro node readings actions hactions
    exact enforcePolicy_keeps hactions
  · intro updated hcount hrefused
    have hlength := keepsCount_length hcount hid hpeers
    unfold validateAllowedPeerUpdate at hrefused
    split at hrefused
    · rename_i e hinvalid
      cases hrefused
      exact validateAllowedPeers_minimum hinvalid
    rw [hpolicy] at hrefused
    dsimp only at hrefused
    rw [if_neg] at hrefused
    · cases hrefused
    · rw [hlength]
      exact Nat.lt_irrefl _

theorem create_firstController :
    threePeers = .ok firstController :=
  eq_ok_of_toOption (by decide +kernel)

/-- A second peer replaces the only one. -/
theorem exchanged_peer_keeps_policy :
    ∃ c peers policy,
      peerConnectivityMachine.run firstController [.setAllowedPeers "a" ["c"]] = some c ∧
      c.allowedPeers.lookup "a" = some peers ∧ c.policies.lookup "a" = some policy ∧
      policy.minimum = peers.length ∧ policy.maximum = peers.length := by
  obtain ⟨c, hrun, hmem⟩ := peerConnectivityMachine.run_of_any firstController
    [.setAllowedPeers "a" ["c"]] (fun c => decide ("a" ∈ c.allPeerPolicyNodeIds))
    (by decide +kernel)
  obtain ⟨peers, policy, hpeers, hpolicy, hminimum, hmaximum, -⟩ :=
    all_peers_policy_stays_exact create_firstController hrun (by decide +kernel)
      (of_decide_eq_true hmem)
  exact ⟨c, peers, policy, hrun, hpeers, hpolicy, hminimum, hmaximum⟩

end Results

end Bbp
