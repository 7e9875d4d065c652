import Bbp.Library.Json
import Bbp.Library.Stores

/-!
# The state file of a cgroup scope

The state of a scope is kept as a JSON document.  The writer puts every field of the state
into an object.  The loader reads the fields back one after the other, checks each of
them, and then checks what they say together; any other field is an error.  Documents of
the two older versions, which a writer of this version never makes, are refused here.

The main result says when the document of a state is loaded, and that it is then loaded as
the same state.
-/

namespace Bbp.Cgroup

open Library List

section Data

structure CgroupPathIdentity where
  device : Nat
  inode : Nat
deriving DecidableEq

structure CgroupDirectoryIdentity where
  path : CgroupPathIdentity
  mountId : Nat
deriving DecidableEq

structure CgroupRunBinding where
  runId : String
  runRoot : String
  resourceId : String
  runRootIdentity : CgroupPathIdentity
  cgroupIdentity : CgroupPathIdentity
deriving DecidableEq

structure CgroupScopeState where
  root : String
  simulatorName : String
  controllerName : String
  simulatorPreexisting : Bool
  controllerExpected : Bool
  restorationReady : Bool := false
  rootIdentity : Option CgroupDirectoryIdentity
  simulatorIdentity : Option CgroupDirectoryIdentity
  controllerIdentity : Option CgroupDirectoryIdentity := none
  rootControllersBefore : List String
  simulatorControllersBefore : List String
  rootControllersAdded : List String
  simulatorControllersAdded : List String
  activeRuns : List String := []
  runBindings : List (String × CgroupRunBinding) := []
  pendingRun : Option String := none
  pendingRunCreated : Bool := false
deriving DecidableEq

/-- The configuration of a scope, and the library that writes and reads its state file. -/
structure CgroupScopeConfig where
  root : String
  simulatorName : String
  stateFile : String := "/tmp/blockchain-benchmark-project-cgroup-scope-v1.json"
  allowRootProcessMove : Bool
  json : JsonText

/-- The controllers that a scope enables. -/
def managedControllers : List String := ["cpu", "io", "memory", "pids"]

def isControllerName (name : String) : Bool :=
  name != "" && name.toList.all fun c => c.isLower || c.isDigit || c == '_'

def isSafeRunId (name : String) : Bool :=
  decide (1 ≤ name.length) && decide (name.length ≤ 32) &&
    name.toList.all fun c => c.isLower || c.isUpper || c.isDigit || c == '-' || c == '_'

def isResourceCgroupName (name : String) : Bool :=
  name.length == 32 && name.toList.all fun c => c.isDigit || (decide ('a' ≤ c) && decide (c ≤ 'f'))

/-- An absolute path without empty, `.` and `..` components; it may end in a slash. -/
def isNormalAbsolutePath (path : String) : Bool :=
  match path.toList.splitOn '/' with
  | [] :: components =>
    components.dropLast.all (fun component => component != []) &&
      components.all fun component => component != ['.'] && component != ['.', '.']
  | _ => false

def ownedControllerPrefix : String := ".bbp-controller-v1-"

end Data

section Writing

def stringSetJson (values : List String) : Json := .array (values.map .string)

def scopeDirectoryIdentityJson : Option CgroupDirectoryIdentity → Json
  | none => .null
  | some identity =>
    .object [("device", .number identity.path.device),
      ("inode", .number identity.path.inode), ("mount_id", .number identity.mountId)]

def runBindingJson (binding : CgroupRunBinding) : Json :=
  .object [("run_id", .string binding.runId), ("run_root", .string binding.runRoot),
    ("resource_id", .string binding.resourceId),
    ("run_root_device", .number binding.runRootIdentity.device),
    ("run_root_inode", .number binding.runRootIdentity.inode),
    ("cgroup_device", .number binding.cgroupIdentity.device),
    ("cgroup_inode", .number binding.cgroupIdentity.inode)]

def runBindingsJson (bindings : List (String × CgroupRunBinding)) : Json :=
  .object (bindings.map fun entry => (entry.1, runBindingJson entry.2))

def pendingRunJson : Option String → Json
  | none => .null
  | some runId => .string runId

def cgroupScopeStateVersion : Nat := 3

def scopeFields (state : CgroupScopeState) : List (String × Json) :=
  [("version", .number cgroupScopeStateVersion), ("root", .string state.root),
    ("simulator_name", .string state.simulatorName),
    ("controller_name", .string state.controllerName),
    ("simulator_preexisting", .bool state.simulatorPreexisting),
    ("controller_expected", .bool state.controllerExpected),
    ("restoration_ready", .bool state.restorationReady),
    ("root_identity", scopeDirectoryIdentityJson state.rootIdentity),
    ("simulator_identity", scopeDirectoryIdentityJson state.simulatorIdentity),
    ("controller_identity", scopeDirectoryIdentityJson state.controllerIdentity),
    ("root_controllers_before", stringSetJson state.rootControllersBefore),
    ("simulator_controllers_before", stringSetJson state.simulatorControllersBefore),
    ("root_controllers_added", stringSetJson state.rootControllersAdded),
    ("simulator_controllers_added", stringSetJson state.simulatorControllersAdded),
    ("active_runs", stringSetJson state.activeRuns),
    ("run_bindings", runBindingsJson state.runBindings),
    ("pending_run", pendingRunJson state.pendingRun),
    ("pending_run_created", .bool state.pendingRunCreated)]

def serializeCgroupScopeState (json : JsonText) (state : CgroupScopeState) : json.Text :=
  json.serialize (.object (scopeFields state))

end Writing

section Reading

/-- An exception unless the condition holds. -/
def require (condition : Bool) (message : String) : Except String Unit :=
  if condition then .ok () else .error message

def requiredScopeField (object : List (String × Json)) (field : String) : Except String Json :=
  match object.lookup field with
  | none => .error ("cgroup scope state is missing field: " ++ field)
  | some value => .ok value

def scopeString (field : String) : Json → Except String String
  | .string value => .ok value
  | _ => .error ("cgroup scope state field is not a string: " ++ field)

def scopeUint64 (field : String) : Json → Except String Nat
  | .number value =>
    if 0 ≤ value ∧ value < 2 ^ 64 then .ok value.toNat
    else .error ("cgroup scope state field is not uint64: " ++ field)
  | _ => .error ("cgroup scope state field is not uint64: " ++ field)

def scopeBool (message : String) : Json → Except String Bool
  | .bool value => .ok value
  | _ => .error message

def scopeDirectoryIdentity (field : String) : Json → Except String (Option CgroupDirectoryIdentity)
  | .null => .ok none
  | .object identity => do
      require (identity.all fun member => member.1 ∈ ["device", "inode", "mount_id"])
        ("cgroup scope directory identity has unsupported field: " ++ field)
      let device ← requiredScopeField identity "device" >>= scopeUint64 "device"
      let inode ← requiredScopeField identity "inode" >>= scopeUint64 "inode"
      let mountId ← requiredScopeField identity "mount_id" >>= scopeUint64 "mount_id"
      require (inode != 0 && mountId != 0)
        ("cgroup scope directory identity contains a zero identity: " ++ field)
      return some { path := { device, inode }, mountId }
  | _ => .error ("cgroup scope directory identity is not an object: " ++ field)

inductive ScopeSetKind where
  | runIds
  | controllers
  | managedControllers
deriving DecidableEq

def requireSafeRunId (runId : String) : Except String Unit := do
  require (decide (1 ≤ runId.length) && decide (runId.length ≤ 32))
    "run id must be 1..32 characters"
  require (runId.toList.all fun c => c.isLower || c.isUpper || c.isDigit || c == '-' || c == '_')
    "run id contains unsafe character"

def requireScopeSetEntry (kind : ScopeSetKind) (text : String) : Except String Unit :=
  match kind with
  | .runIds => requireSafeRunId text
  | .controllers =>
    require (isControllerName text) ("cgroup scope state contains an invalid controller: " ++ text)
  | .managedControllers => do
      require (isControllerName text)
        ("cgroup scope state contains an invalid controller: " ++ text)
      require (decide (text ∈ managedControllers))
        ("cgroup scope state contains an unmanaged controller: " ++ text)

/-- The entries are inserted one after the other. -/
def insertScopeStrings (field : String) (kind : ScopeSetKind) :
    List Json → List String → Except String (List String)
  | [], result => .ok result
  | .string text :: values, result => do
      requireScopeSetEntry kind text
      require (decide (text ∉ result)) ("cgroup scope state contains a duplicate: " ++ text)
      insertScopeStrings field kind values (result ++ [text])
  | _ :: _, _ => .error ("cgroup scope state array is not textual: " ++ field)

def scopeStringSet (field : String) (kind : ScopeSetKind) : Json → Except String (List String)
  | .array values => insertScopeStrings field kind values []
  | _ => .error ("cgroup scope state field is not an array: " ++ field)

def runBindingFields : List String :=
  ["run_id", "run_root", "resource_id", "run_root_device", "run_root_inode",
    "cgroup_device", "cgroup_inode"]

def scopeRunBinding (cgroupName : String) : Json → Except String CgroupRunBinding
  | .object object => do
      require (isResourceCgroupName cgroupName)
        "cgroup scope state contains an invalid run binding"
      require (object.all fun member => member.1 ∈ runBindingFields)
        "cgroup scope run binding has an unsupported field"
      let runId ← requiredScopeField object "run_id" >>= scopeString "run_id"
      let runRoot ← requiredScopeField object "run_root" >>= scopeString "run_root"
      let resourceId ← requiredScopeField object "resource_id" >>= scopeString "resource_id"
      let runRootDevice ←
        requiredScopeField object "run_root_device" >>= scopeUint64 "run_root_device"
      let runRootInode ← requiredScopeField object "run_root_inode" >>= scopeUint64 "run_root_inode"
      let cgroupDevice ← requiredScopeField object "cgroup_device" >>= scopeUint64 "cgroup_device"
      let cgroupInode ← requiredScopeField object "cgroup_inode" >>= scopeUint64 "cgroup_inode"
      requireSafeRunId runId
      require (isNormalAbsolutePath runRoot && resourceId == cgroupName &&
          runRootInode != 0 && cgroupInode != 0)
        "cgroup scope state run binding is inconsistent"
      return {
        runId, runRoot, resourceId
        runRootIdentity := { device := runRootDevice, inode := runRootInode }
        cgroupIdentity := { device := cgroupDevice, inode := cgroupInode } }
  | _ => .error "cgroup scope state contains an invalid run binding"

def collectRunBindings :
    List (String × Json) → Except String (List (String × CgroupRunBinding))
  | [] => .ok []
  | (cgroupName, value) :: fields => do
      let binding ← scopeRunBinding cgroupName value
      let bindings ← collectRunBindings fields
      return (cgroupName, binding) :: bindings

def scopeRunBindings : Json → Except String (List (String × CgroupRunBinding))
  | .object fields => collectRunBindings fields
  | _ => .error "cgroup scope state run_bindings is not an object"

def scopePendingRun : Json → Except String (Option String)
  | .string runId => do
      requireSafeRunId runId
      return some runId
  | .null => .ok none
  | _ => .error "cgroup scope state pending_run is not a string or null"

def supportedScopeFields : List String :=
  ["version", "root", "simulator_name", "controller_name", "simulator_preexisting",
    "root_controllers_before", "simulator_controllers_before", "root_controllers_added",
    "simulator_controllers_added", "active_runs", "run_bindings", "pending_run",
    "pending_run_created", "controller_expected", "restoration_ready", "root_identity",
    "simulator_identity", "controller_identity"]

def requireSupportedFields (object : List (String × Json)) : Except String Unit :=
  match object.find? fun member => member.1 ∉ supportedScopeFields with
  | none => .ok ()
  | some member => .error ("cgroup scope state has unsupported field: " ++ member.1)

/-- The fields of the document. -/
def readScopeState (object : List (String × Json)) : Except String CgroupScopeState := do
  let version ← requiredScopeField object "version" >>= scopeUint64 "version"
  require (version == cgroupScopeStateVersion) "cgroup scope state version is unsupported"
  requireSupportedFields object
  let simulatorPreexisting ← requiredScopeField object "simulator_preexisting" >>=
    scopeBool "cgroup scope simulator_preexisting is not Boolean"
  let root ← requiredScopeField object "root" >>= scopeString "root"
  let simulatorName ← requiredScopeField object "simulator_name" >>= scopeString "simulator_name"
  let controllerName ← requiredScopeField object "controller_name" >>= scopeString "controller_name"
  let controllerExpected ← requiredScopeField object "controller_expected" >>=
    scopeBool "cgroup scope controller_expected is not Boolean"
  let restorationReady ← requiredScopeField object "restoration_ready" >>=
    scopeBool "cgroup scope restoration_ready is not Boolean"
  let rootIdentity ←
    requiredScopeField object "root_identity" >>= scopeDirectoryIdentity "root_identity"
  let simulatorIdentity ← requiredScopeField object "simulator_identity" >>=
    scopeDirectoryIdentity "simulator_identity"
  let controllerIdentity ← requiredScopeField object "controller_identity" >>=
    scopeDirectoryIdentity "controller_identity"
  let rootControllersBefore ← requiredScopeField object "root_controllers_before" >>=
    scopeStringSet "root_controllers_before" .controllers
  let simulatorControllersBefore ←
    requiredScopeField object "simulator_controllers_before" >>=
      scopeStringSet "simulator_controllers_before" .controllers
  let rootControllersAdded ← requiredScopeField object "root_controllers_added" >>=
    scopeStringSet "root_controllers_added" .managedControllers
  let simulatorControllersAdded ←
    requiredScopeField object "simulator_controllers_added" >>=
      scopeStringSet "simulator_controllers_added" .managedControllers
  let activeRuns ← requiredScopeField object "active_runs" >>= scopeStringSet "active_runs" .runIds
  let runBindings ← requiredScopeField object "run_bindings" >>= scopeRunBindings
  let pendingRun ← requiredScopeField object "pending_run" >>= scopePendingRun
  let pendingRunCreated ← requiredScopeField object "pending_run_created" >>=
    scopeBool "cgroup scope state pending_run_created is not Boolean"
  return {
    root, simulatorName, controllerName, simulatorPreexisting, controllerExpected
    restorationReady, rootIdentity, simulatorIdentity, controllerIdentity
    rootControllersBefore, simulatorControllersBefore, rootControllersAdded
    simulatorControllersAdded, activeRuns, runBindings, pendingRun, pendingRunCreated }

namespace CgroupScopeState

/-- Some run is active or pending. -/
def inUse (state : CgroupScopeState) : Bool := !state.activeRuns.isEmpty || state.pendingRun.isSome

/-- Every binding belongs to an active run or to the pending run that has been created. -/
def bindsKnownRuns (state : CgroupScopeState) : Bool :=
  state.runBindings.all fun entry =>
    decide (entry.1 ∈ state.activeRuns) ||
      (state.pendingRunCreated && decide (state.pendingRun = some entry.1))

def matchesConfig (config : CgroupScopeConfig) (state : CgroupScopeState) : Bool :=
  state.root == config.root && state.simulatorName == config.simulatorName &&
    ownedControllerPrefix.toList.isPrefixOf state.controllerName.toList &&
    state.controllerName.length == ownedControllerPrefix.length + 16

/-- No added controller was there before, and a new simulator cgroup had none. -/
def controllersAreConsistent (state : CgroupScopeState) : Bool :=
  state.rootControllersAdded.all (· ∉ state.rootControllersBefore) &&
    state.simulatorControllersAdded.all (· ∉ state.simulatorControllersBefore) &&
    (state.simulatorPreexisting || state.simulatorControllersBefore.isEmpty)

/-- The directory is below the other one, on the same device and mount. -/
def isBelow (child parent : CgroupDirectoryIdentity) : Bool :=
  child.path.device == parent.path.device && child.mountId == parent.mountId &&
    child.path != parent.path

def simulatorIsBelowRoot (state : CgroupScopeState) : Bool :=
  state.simulatorIdentity.all fun simulator =>
    state.rootIdentity.all fun root => isBelow simulator root

def controllerIsBelowSimulator (state : CgroupScopeState) : Bool :=
  state.controllerIdentity.all fun controller =>
    (state.simulatorIdentity.all fun simulator => isBelow controller simulator) &&
      state.rootIdentity.all fun root => controller.path != root.path

end CgroupScopeState

/-- What the fields have to say together. -/
def checkScopeState (config : CgroupScopeConfig) (state : CgroupScopeState) :
    Except String Unit := do
  require (state.pendingRun.isSome || !state.pendingRunCreated)
    "cgroup scope state marks a missing pending run as created"
  require state.bindsKnownRuns "cgroup scope state binding has no active run"
  require (state.matchesConfig config) "cgroup scope state does not match the requested scope"
  require state.controllersAreConsistent "cgroup scope controller state is inconsistent"
  require state.rootIdentity.isSome "cgroup scope state is missing its root identity"
  require (!state.simulatorPreexisting || state.simulatorIdentity.isSome)
    "cgroup scope state is missing its pre-existing simulator identity"
  require (state.controllerIdentity.isNone || state.controllerExpected)
    "cgroup scope state has an unexpected controller identity"
  require (state.controllerIdentity.isNone || state.simulatorIdentity.isSome)
    "cgroup scope controller identity has no simulator identity"
  require (state.controllerExpected || state.rootControllersAdded.isEmpty)
    "cgroup scope without a controller cannot own root controllers"
  require (!state.inUse || state.simulatorIdentity.isSome)
    "cgroup scope in use is missing its simulator identity"
  require (!state.inUse || !state.controllerExpected || state.controllerIdentity.isSome)
    "cgroup scope in use is missing its controller identity"
  require (!state.restorationReady ||
      (!state.inUse && state.runBindings.isEmpty && !state.pendingRunCreated))
    "restoration-ready cgroup scope still contains an owned run"
  require state.simulatorIsBelowRoot "cgroup scope simulator identity is outside its root identity"
  require state.controllerIsBelowSimulator
    "cgroup scope controller identity is outside its simulator identity"

/-- The text is followed by a newline in the file. -/
def loadCgroupScopeState (config : CgroupScopeConfig) (text : config.json.Text) :
    Except String CgroupScopeState :=
  if 64 * 1024 < config.json.size text + 1 then
    .error ("cgroup scope state exceeds 64 KiB: " ++ config.stateFile)
  else
    match config.json.parse text with
    | .error message => .error message
    | .ok (.object object) => do
        let state ← readScopeState object
        checkScopeState config state
        return state
    | .ok _ => .error "cgroup scope state is not a JSON object"

end Reading

section RoundTrip

variable {u : Unit}

theorem require_eq_ok {condition : Bool} {message : String} :
    require condition message = .ok u ↔ condition = true := by
  cases condition <;> simp [require]

variable {field : String}

theorem scopeUint64_eq_ok {n m : Nat} :
    scopeUint64 field (.number n) = .ok m ↔ n < 2 ^ 64 ∧ n = m := by
  have hcast : (n : Int) < 2 ^ 64 ↔ n < 2 ^ 64 := by omega
  simp only [scopeUint64, Int.natCast_nonneg, true_and, Int.toNat_natCast, hcast]
  split <;> simp_all

/-- An identity that can be read back. -/
def CgroupDirectoryIdentity.IsReadable (identity : CgroupDirectoryIdentity) : Prop :=
  identity.path.device < 2 ^ 64 ∧ identity.path.inode < 2 ^ 64 ∧
    identity.mountId < 2 ^ 64 ∧ identity.path.inode ≠ 0 ∧ identity.mountId ≠ 0

theorem scopeDirectoryIdentity_eq_ok {identity other : Option CgroupDirectoryIdentity} :
    scopeDirectoryIdentity field (scopeDirectoryIdentityJson identity) = .ok other ↔
      (∀ known, identity = some known → known.IsReadable) ∧ identity = other := by
  cases identity with
  | none => simp [scopeDirectoryIdentity, scopeDirectoryIdentityJson]
  | some identity =>
    simp [scopeDirectoryIdentity, scopeDirectoryIdentityJson, bind_eq_ok, require_eq_ok,
      map_eq_ok, requiredScopeField, lookup, scopeUint64_eq_ok,
      CgroupDirectoryIdentity.IsReadable, and_assoc]

theorem requireSafeRunId_eq_ok {runId : String} :
    requireSafeRunId runId = .ok u ↔ isSafeRunId runId = true := by
  simp [requireSafeRunId, bind_eq_ok, require_eq_ok, isSafeRunId]

/-- What an entry of a set has to look like. -/
def ScopeSetKind.admits : ScopeSetKind → String → Bool
  | .runIds => isSafeRunId
  | .controllers => isControllerName
  | .managedControllers => fun text =>
    isControllerName text && decide (text ∈ Cgroup.managedControllers)

variable {kind : ScopeSetKind}

theorem requireScopeSetEntry_eq_ok {text : String} :
    requireScopeSetEntry kind text = .ok u ↔ kind.admits text = true := by
  cases kind with
  | runIds => exact requireSafeRunId_eq_ok
  | controllers => simp [requireScopeSetEntry, require_eq_ok, ScopeSetKind.admits]
  | managedControllers =>
    simp [requireScopeSetEntry, bind_eq_ok, require_eq_ok, ScopeSetKind.admits]

theorem insertScopeStrings_eq_ok (values result other : List String) (hresult : result.Nodup) :
    insertScopeStrings field kind (values.map .string) result = .ok other ↔
      values.all kind.admits = true ∧ (result ++ values).Nodup ∧ result ++ values = other := by
  induction values generalizing result with
  | nil => simp [insertScopeStrings, hresult]
  | cons value values ih =>
    simp only [map_cons, insertScopeStrings, bind_eq_ok, requireScopeSetEntry_eq_ok,
      require_eq_ok, exists_const, decide_eq_true_eq, all_cons, Bool.and_eq_true]
    constructor
    · rintro ⟨hadmits, hnew, hrest⟩
      have hnext : (result ++ [value]).Nodup :=
        nodup_append.mpr ⟨hresult, nodup_singleton value, by
          rintro text hmem _ (hvalue : _ ∈ [value]) rfl
          exact hnew (mem_singleton.mp hvalue ▸ hmem)⟩
      have h := (ih _ hnext).mp hrest
      rw [append_assoc, singleton_append] at h
      exact ⟨⟨hadmits, h.1⟩, h.2⟩
    · rintro ⟨⟨hadmits, hall⟩, hnodup, heq⟩
      have happend : result ++ [value] ++ values = result ++ value :: values := by simp
      have hnew : value ∉ result := fun hmem =>
        (nodup_append.mp hnodup).2.2 value hmem value mem_cons_self rfl
      refine ⟨hadmits, hnew, (ih _ ?_).mpr ⟨hall, happend ▸ hnodup, happend ▸ heq⟩⟩
      exact (happend ▸ hnodup).of_append_left

theorem scopeStringSet_eq_ok {values other : List String} :
    scopeStringSet field kind (stringSetJson values) = .ok other ↔
      (values.all kind.admits = true ∧ values.Nodup) ∧ values = other := by
  rw [and_assoc]
  exact insertScopeStrings_eq_ok values [] other nodup_nil

/-- A binding that can be read back under the name of its cgroup. -/
def CgroupRunBinding.IsReadable (cgroupName : String) (binding : CgroupRunBinding) : Prop :=
  isResourceCgroupName cgroupName = true ∧ binding.runRootIdentity.device < 2 ^ 64 ∧
    binding.runRootIdentity.inode < 2 ^ 64 ∧ binding.cgroupIdentity.device < 2 ^ 64 ∧
    binding.cgroupIdentity.inode < 2 ^ 64 ∧ isSafeRunId binding.runId = true ∧
    isNormalAbsolutePath binding.runRoot = true ∧ binding.resourceId = cgroupName ∧
    binding.runRootIdentity.inode ≠ 0 ∧ binding.cgroupIdentity.inode ≠ 0

theorem scopeRunBinding_eq_ok {cgroupName : String} {binding other : CgroupRunBinding} :
    scopeRunBinding cgroupName (runBindingJson binding) = .ok other ↔
      binding.IsReadable cgroupName ∧ binding = other := by
  by_cases hname : binding.resourceId = cgroupName
  · subst hname
    simp [scopeRunBinding, runBindingJson, bind_eq_ok, require_eq_ok, map_eq_ok,
      requiredScopeField, lookup, scopeUint64_eq_ok, scopeString, runBindingFields,
      requireSafeRunId_eq_ok, CgroupRunBinding.IsReadable, and_assoc]
  · simp [scopeRunBinding, runBindingJson, bind_eq_ok, require_eq_ok, map_eq_ok,
      requiredScopeField, lookup, scopeUint64_eq_ok, scopeString, runBindingFields,
      requireSafeRunId_eq_ok, CgroupRunBinding.IsReadable, hname]

theorem collectRunBindings_eq_ok (bindings other : List (String × CgroupRunBinding)) :
    collectRunBindings (bindings.map fun entry => (entry.1, runBindingJson entry.2)) = .ok other ↔
      (∀ entry ∈ bindings, entry.2.IsReadable entry.1) ∧ bindings = other := by
  induction bindings generalizing other with
  | nil => simp [collectRunBindings]
  | cons entry bindings ih =>
    simp only [map_cons, collectRunBindings, bind_pure_comp, bind_eq_ok, map_eq_ok,
      scopeRunBinding_eq_ok, ih, forall_mem_cons]
    constructor
    · rintro ⟨binding, ⟨hreadable, rfl⟩, rest, ⟨hrest, rfl⟩, rfl⟩
      exact ⟨⟨hreadable, hrest⟩, rfl⟩
    · rintro ⟨⟨hreadable, hrest⟩, rfl⟩
      exact ⟨entry.2, ⟨hreadable, rfl⟩, bindings, ⟨hrest, rfl⟩, rfl⟩

theorem scopePendingRun_eq_ok {pending other : Option String} :
    scopePendingRun (pendingRunJson pending) = .ok other ↔
      pending.all isSafeRunId = true ∧ pending = other := by
  cases pending with
  | none => simp [scopePendingRun, pendingRunJson]
  | some runId => simp [scopePendingRun, pendingRunJson, map_eq_ok, requireSafeRunId_eq_ok]

/-- The fields of a state that can be read back. -/
structure CgroupScopeState.IsReadable (state : CgroupScopeState) : Prop where
  rootIdentity : ∀ identity, state.rootIdentity = some identity → identity.IsReadable
  simulatorIdentity : ∀ identity, state.simulatorIdentity = some identity → identity.IsReadable
  controllerIdentity : ∀ identity, state.controllerIdentity = some identity → identity.IsReadable
  rootControllersBefore : state.rootControllersBefore.all isControllerName = true ∧
      state.rootControllersBefore.Nodup
  simulatorControllersBefore : state.simulatorControllersBefore.all isControllerName = true ∧
      state.simulatorControllersBefore.Nodup
  rootControllersAdded :
    state.rootControllersAdded.all ScopeSetKind.managedControllers.admits = true ∧
      state.rootControllersAdded.Nodup
  simulatorControllersAdded :
    state.simulatorControllersAdded.all ScopeSetKind.managedControllers.admits = true ∧
      state.simulatorControllersAdded.Nodup
  activeRuns : state.activeRuns.all isSafeRunId = true ∧ state.activeRuns.Nodup
  runBindings : ∀ entry ∈ state.runBindings, entry.2.IsReadable entry.1
  pendingRun : state.pendingRun.all isSafeRunId = true

theorem requireSupportedFields_scopeFields (state : CgroupScopeState) :
    requireSupportedFields (scopeFields state) = .ok () := by
  simp [requireSupportedFields, scopeFields, supportedScopeFields]

variable {state other : CgroupScopeState}

theorem readScopeState_eq_ok :
    readScopeState (scopeFields state) = .ok other ↔ state.IsReadable ∧ state = other := by
  have hversion : scopeUint64 "version" (.number cgroupScopeStateVersion) =
      .ok cgroupScopeStateVersion := rfl
  have hbindings : ∀ bindings, scopeRunBindings (runBindingsJson state.runBindings) =
      .ok bindings ↔ _ := collectRunBindings_eq_ok state.runBindings
  simp only [readScopeState, requireSupportedFields_scopeFields, bind_eq_ok]
  simp only [requiredScopeField, scopeFields, lookup, String.reduceBEq,
    Except.ok.injEq, exists_eq_left', hversion, require_eq_ok, BEq.rfl, scopeBool,
    scopeString, scopeDirectoryIdentity_eq_ok, scopeStringSet_eq_ok, hbindings,
    scopePendingRun_eq_ok, exists_const, true_and]
  constructor
  · rintro ⟨_, ⟨hroot, rfl⟩, _, ⟨hsimulator, rfl⟩, _, ⟨hcontroller, rfl⟩,
      _, ⟨hrootBefore, rfl⟩, _, ⟨hsimulatorBefore, rfl⟩, _, ⟨hrootAdded, rfl⟩,
      _, ⟨hsimulatorAdded, rfl⟩, _, ⟨hactive, rfl⟩, _, ⟨hbound, rfl⟩,
      _, ⟨hpending, rfl⟩, hother⟩
    exact ⟨⟨hroot, hsimulator, hcontroller, hrootBefore, hsimulatorBefore, hrootAdded,
      hsimulatorAdded, hactive, hbound, hpending⟩, Except.ok.inj hother⟩
  · rintro ⟨h, rfl⟩
    exact ⟨_, ⟨h.rootIdentity, rfl⟩, _, ⟨h.simulatorIdentity, rfl⟩,
      _, ⟨h.controllerIdentity, rfl⟩, _, ⟨h.rootControllersBefore, rfl⟩,
      _, ⟨h.simulatorControllersBefore, rfl⟩, _, ⟨h.rootControllersAdded, rfl⟩,
      _, ⟨h.simulatorControllersAdded, rfl⟩, _, ⟨h.activeRuns, rfl⟩,
      _, ⟨h.runBindings, rfl⟩, _, ⟨h.pendingRun, rfl⟩, rfl⟩

/-- What the fields of a state have to say together. -/
structure CgroupScopeState.IsConsistent (config : CgroupScopeConfig)
    (state : CgroupScopeState) : Prop where
  pending : (state.pendingRun.isSome || !state.pendingRunCreated) = true
  bindings : state.bindsKnownRuns = true
  config : state.matchesConfig config = true
  controllers : state.controllersAreConsistent = true
  root : state.rootIdentity.isSome = true
  preexisting : (!state.simulatorPreexisting || state.simulatorIdentity.isSome) = true
  unexpected : (state.controllerIdentity.isNone || state.controllerExpected) = true
  simulator : (state.controllerIdentity.isNone || state.simulatorIdentity.isSome) = true
  rootControllers : (state.controllerExpected || state.rootControllersAdded.isEmpty) = true
  usedSimulator : (!state.inUse || state.simulatorIdentity.isSome) = true
  usedController :
    (!state.inUse || !state.controllerExpected || state.controllerIdentity.isSome) = true
  ready : (!state.restorationReady ||
    (!state.inUse && state.runBindings.isEmpty && !state.pendingRunCreated)) = true
  belowRoot : state.simulatorIsBelowRoot = true
  belowSimulator : state.controllerIsBelowSimulator = true

variable {config : CgroupScopeConfig}

theorem checkScopeState_eq_ok {state : CgroupScopeState} :
    checkScopeState config state = .ok u ↔ state.IsConsistent config := by
  simp only [checkScopeState, bind_eq_ok, require_eq_ok, exists_const]
  constructor
  all_goals
    rintro ⟨h1, h2, h3, h4, h5, h6, h7, h8, h9, h10, h11, h12, h13, h14⟩
    exact ⟨h1, h2, h3, h4, h5, h6, h7, h8, h9, h10, h11, h12, h13, h14⟩

/-- A state whose document is loaded. -/
structure CgroupScopeState.IsLoadable (config : CgroupScopeConfig)
    (state : CgroupScopeState) : Prop where
  size : config.json.size (serializeCgroupScopeState config.json state) + 1 ≤ 64 * 1024
  readable : state.IsReadable
  consistent : state.IsConsistent config

/-- The document of a state is loaded as the same state or not at all. -/
theorem load_serialize_eq_ok :
    loadCgroupScopeState config (serializeCgroupScopeState config.json state) = .ok other ↔
      state.IsLoadable config ∧ state = other := by
  unfold loadCgroupScopeState
  split
  · rename_i hsize
    constructor
    · rintro ⟨⟩
    · rintro ⟨h, _⟩
      exact absurd h.size (by omega)
  rename_i hsize
  simp only [serializeCgroupScopeState, config.json.parse_serialize, bind_pure_comp, bind_eq_ok,
    map_eq_ok, readScopeState_eq_ok, checkScopeState_eq_ok]
  constructor
  · rintro ⟨_, ⟨hreadable, rfl⟩, _, hconsistent, rfl⟩
    exact ⟨⟨by omega, hreadable, hconsistent⟩, rfl⟩
  · rintro ⟨h, rfl⟩
    exact ⟨state, ⟨h.readable, rfl⟩, (), h.consistent, rfl⟩

end RoundTrip

end Bbp.Cgroup
