import Vynkor.Lib.DashMap
import Vynkor.Lib.Machine
import Vynkor.Lib.Text
import Vynkor.Wire

/-! The plugin registry: who is connected, which device they belong to, which
actions they declare and which calls are in flight. Every function is one call,
executed alone. -/

namespace Vynkor
open Lib

inductive VynkorError
  | pluginNotFound (id : String)
  | pluginAlreadyRegistered (id : String)
  | invalidPluginId (reason : String)
  | permissionDenied (permission : String)
  deriving DecidableEq, Repr

def VynkorError.display : VynkorError → String
  | pluginNotFound id => "plugin not found: " ++ id
  | pluginAlreadyRegistered id => "plugin already registered: " ++ id
  | invalidPluginId reason => "invalid plugin id: " ++ reason
  | permissionDenied permission => "permission denied: " ++ permission

def validateIdentifier (id : String) (maxLen : Nat) : Except VynkorError Unit :=
  if id = "" then .error (.invalidPluginId "must not be empty")
  else if id.utf8ByteSize > maxLen then
    .error (.invalidPluginId ("too long (" ++ toString id.utf8ByteSize ++ " bytes, max " ++ toString maxLen ++ ")"))
  else if id = "." ∨ id = ".." then .error (.invalidPluginId "'.' and '..' are reserved path components")
  else if !id.toList.all (fun char => char.isAlphanum || char == '-' || char == '_' || char == '.') then
    .error (.invalidPluginId "only ASCII letters, digits, '.', '-', '_' are allowed")
  else .ok ()

def validatePluginId (id : String) : Except VynkorError Unit :=
  match validateIdentifier id 32 with
  | .error error => .error error
  | .ok () =>
    if id = "kernel" ∨ id = "*" then .error (.invalidPluginId ("'" ++ id ++ "' is reserved")) else .ok ()

/-- Only a registration that is a device may hold a dotted id, under its own name. -/
def validateDeviceScope (pluginId deviceId : String) : Except VynkorError Unit :=
  if Text.contains deviceId '.' then
    .error (.invalidPluginId ("device id '" ++ deviceId ++ "': '.' is reserved as the device separator"))
  else
    match Text.splitOnce pluginId '.' with
    | none => .ok ()
    | some (head, _) =>
      if deviceId = "" ∨ head ≠ deviceId then
        .error (.invalidPluginId
          ("'" ++ pluginId ++ "': dotted ids are reserved for <device>.<name> of the registering device"))
      else .ok ()

structure DeviceMeta where
  deviceId : String := ""
  userId : String := ""
  os : DeviceOs := .unspecified
  arch : String := ""
  osVersion : String := ""
  capabilities : List String := []
  deriving DecidableEq, Repr

structure DeviceInfo where
  deviceId : String
  os : DeviceOs
  arch : String
  osVersion : String
  capabilities : List String
  lastSeen : Nat
  state : DeviceState
  deriving DecidableEq, Repr

structure PluginEntry where
  pluginId : String
  connId : ConnId
  manifest : PluginManifest
  writeTx : Tx
  registeredAt : Nat
  deviceId : String
  userId : String
  deriving DecidableEq, Repr

inductive ActionLookup
  | notFound
  | found (entry : PluginEntry)
  | ambiguous (ids : List String)
  | dormant (id : String)
  deriving DecidableEq, Repr

structure DormantPlugin where
  pluginId : String
  actionSpecs : List ActionSpec
  idleStop : Nat
  deriving DecidableEq, Repr

/-- A kernel-routed action awaiting its provider's reply. `serial` is a history
variable, the position of its registration among all registrations; no code reads it. -/
structure PendingAction where
  requesterWriteTx : Tx
  originalActionId : String
  requesterId : String
  deadline : Instant
  providerId : String
  streaming : Bool
  sessionAccepted : Bool
  lastActivity : Instant
  serial : Nat
  deriving DecidableEq, Repr

/-- The session is open once its provider has said OK. -/
def PendingAction.accept (pending : PendingAction) (now : Instant) : PendingAction :=
  { pending with sessionAccepted := true, lastActivity := now }

/-- Declared actions: the single declarer of each, or all of them on a collision. -/
structure ActionTable where
  actionIndex : DashMap String String := ∅
  ambiguousActions : DashMap String (List String) := ∅

structure Registry extends ActionTable where
  byPluginId : DashMap String PluginEntry := ∅
  byConnId : DashMap ConnId String := ∅
  pongTimes : DashMap String Instant := ∅
  devices : DashMap String DeviceInfo := ∅
  pendingActions : DashMap String PendingAction := ∅
  actionRequirements : DashMap String (DashMap String PermissionType) := ∅
  dormant : DashMap String DormantPlugin := ∅
  dormantActions : DashMap String (List String) := ∅
  lazyGates : DashMap String (DashMap Nat Instant) := ∅
  lastUsed : DashMap String Instant := ∅

/-- Both clocks as one call reads them. -/
structure Clock where
  now : Instant
  unixMillis : Nat
  deriving DecidableEq, Repr

namespace ActionTable

/-- One declarer stays in the index; a second one moves both to the collision list. -/
def indexAction (table : ActionTable) (action pluginId : String) : ActionTable :=
  match table.ambiguousActions.get action with
  | some ids =>
    if pluginId ∈ ids then table
    else { table with ambiguousActions := table.ambiguousActions.insert action (ids ++ [pluginId]) }
  | none =>
    match table.actionIndex.get action with
    | some existing =>
      if existing = pluginId then table
      else {
        actionIndex := table.actionIndex.remove action
        ambiguousActions := table.ambiguousActions.insert action [existing, pluginId] }
    | none => { table with actionIndex := table.actionIndex.insert action pluginId }

/-- Last part of `unindex_action`: the plugin may be the single declarer. -/
def dropIndexed (table : ActionTable) (action pluginId : String) : ActionTable :=
  if table.actionIndex.get action = some pluginId then
    { table with actionIndex := table.actionIndex.remove action }
  else table

def unindexAction (table : ActionTable) (action pluginId : String) : ActionTable :=
  match table.ambiguousActions.get action with
  | some ids =>
    match ids.filter (· != pluginId) with
    | [only] => {
        ambiguousActions := table.ambiguousActions.remove action
        actionIndex := table.actionIndex.insert action only }
    | remaining =>
      dropIndexed { table with ambiguousActions := table.ambiguousActions.insert action remaining } action pluginId
  | none => table.dropIndexed action pluginId

def indexActions (table : ActionTable) (actions : List String) (pluginId : String) : ActionTable :=
  actions.foldl (fun current action => current.indexAction action pluginId) table

def unindexActions (table : ActionTable) (actions : List String) (pluginId : String) : ActionTable :=
  actions.foldl (fun current action => current.unindexAction action pluginId) table

end ActionTable

/-- A registering plugin proves its device alive: refresh or create its record. -/
def upsertDevice (devices : DashMap String DeviceInfo) (clock : Clock) (deviceId : String) (info : DeviceMeta)
    (capabilities : List String) : DashMap String DeviceInfo :=
  match devices.get deviceId with
  | some device => devices.insert deviceId { device with
      lastSeen := clock.unixMillis, state := .online, os := info.os, arch := info.arch
      osVersion := info.osVersion, capabilities := capabilities }
  | none => devices.insert deviceId
      ⟨deviceId, info.os, info.arch, info.osVersion, capabilities, clock.unixMillis, .online⟩

namespace Registry

def get (registry : Registry) (pluginId : String) : Option PluginEntry := registry.byPluginId.get pluginId

def getDevice (registry : Registry) (deviceId : String) : Option DeviceInfo := registry.devices.get deviceId

def isRegistered (registry : Registry) (connId : ConnId) : Bool := registry.byConnId.containsKey connId

def getByConnId (registry : Registry) (connId : ConnId) : Option PluginEntry :=
  match registry.byConnId.get connId with
  | some pluginId => registry.byPluginId.get pluginId
  | none => none

def list (shuffle : Shuffle String) (registry : Registry) : List PluginEntry :=
  (registry.byPluginId.iter shuffle).map Prod.snd

/-- Everything a registration writes once both slots are reserved. -/
def enroll (registry : Registry) (clock : Clock) (entry : PluginEntry) (info : DeviceMeta)
    (capabilities : List String) : Registry :=
  let registry := { registry with byConnId := registry.byConnId.insert entry.connId entry.pluginId }
  let registry := { registry with
    toActionTable := registry.toActionTable.indexActions entry.manifest.actions entry.pluginId }
  let registry := { registry with pongTimes := registry.pongTimes.insert entry.pluginId clock.now }
  let registry := { registry with devices := upsertDevice registry.devices clock entry.deviceId info capabilities }
  { registry with byPluginId := registry.byPluginId.insert entry.pluginId entry }

/-- One registration per connection and per id: both slots must be vacant. -/
def claim (registry : Registry) (clock : Clock) (entry : PluginEntry) (info : DeviceMeta)
    (capabilities : List String) : Registry × Except VynkorError Unit :=
  if registry.byConnId.containsKey entry.connId then
    (registry, .error (.pluginAlreadyRegistered
      ("connection " ++ toString entry.connId ++ " already has a registered plugin")))
  else if registry.byPluginId.containsKey entry.pluginId then
    (registry, .error (.pluginAlreadyRegistered entry.pluginId))
  else (registry.enroll clock entry info capabilities, .ok ())

/-- The entry `register_with_device` writes for these arguments. -/
def deviceEntry (clock : Clock) (pluginId : String) (connId : ConnId) (manifest : PluginManifest) (writeTx : Tx)
    (info : DeviceMeta) : PluginEntry :=
  { pluginId, connId, manifest, writeTx
    registeredAt := clock.unixMillis / 1000
    deviceId := if info.deviceId = "" then "local" else info.deviceId
    userId := if info.userId = "" then "default" else info.userId }

/-- The entry `register_device` writes for these arguments. -/
def muxEntry (clock : Clock) (deviceId : String) (connId : ConnId) (caps : List String) (manifest : PluginManifest)
    (writeTx : Tx) (info : DeviceMeta) : PluginEntry :=
  { pluginId := deviceId, connId, writeTx
    manifest := { manifest with actions := caps.map fun cap => deviceId ++ "." ++ cap }
    registeredAt := clock.unixMillis / 1000
    deviceId := if info.deviceId = "" then deviceId else info.deviceId
    userId := if info.userId = "" then "default" else info.userId }

def registerWithDevice (registry : Registry) (clock : Clock) (pluginId : String) (connId : ConnId)
    (manifest : PluginManifest) (writeTx : Tx) (info : DeviceMeta) : Registry × Except VynkorError Unit :=
  match validatePluginId pluginId with
  | .error error => (registry, .error error)
  | .ok () =>
    match validateDeviceScope pluginId info.deviceId with
    | .error error => (registry, .error error)
    | .ok () =>
      registry.claim clock (deviceEntry clock pluginId connId manifest writeTx info) info info.capabilities

/-- Single registration of a whole device: its actions are its qualified capabilities. -/
def registerDevice (registry : Registry) (clock : Clock) (deviceId : String) (connId : ConnId)
    (caps : List String) (manifest : PluginManifest) (writeTx : Tx) (info : DeviceMeta) :
    Registry × Except VynkorError Unit :=
  match validatePluginId deviceId with
  | .error error => (registry, .error error)
  | .ok () =>
    match validateDeviceScope deviceId deviceId with
    | .error error => (registry, .error error)
    | .ok () =>
      registry.claim clock (muxEntry clock deviceId connId caps manifest writeTx info) info caps

/-- Exact plugin id first, then the device in front of the first dot if the rest
is one of its capabilities. -/
def getMux (registry : Registry) (target : String) : Option PluginEntry :=
  match registry.get target with
  | some entry => some entry
  | none =>
    match Text.splitOnce target '.' with
    | none => none
    | some (device, cap) =>
      match registry.get device with
      | none => none
      | some entry =>
        if entry.manifest.actions.contains target
            || entry.manifest.actions.any (fun action => (Text.splitOnce action '.').any fun parts => parts.2 == cap)
            || (registry.devices.get device).any (fun info => info.capabilities.contains cap)
        then some entry else none

def findActionProvider (registry : Registry) (action : String) : ActionLookup :=
  match registry.ambiguousActions.get action with
  | some ids => .ambiguous ids
  | none =>
    let live := match registry.actionIndex.get action with
      | some providerId => registry.byPluginId.get providerId
      | none => none
    let dormant := (registry.dormantActions.get action).getD []
    match live with
    | some entry =>
      if dormant.all (· == entry.pluginId) then .found entry
      else .ambiguous (entry.pluginId :: dormant.filter (· != entry.pluginId))
    | none =>
      match dormant with
      | [] => .notFound
      | [id] => .dormant id
      | ids => .ambiguous ids

/-- One step of `drop_dormant_actions`: forget the id, then the empty list. -/
def dropDormantAction (pluginId : String) (actions : DashMap String (List String)) (name : String) :
    DashMap String (List String) :=
  ((actions.modify name fun ids => ids.filter (· != pluginId)).removeIf name List.isEmpty).1

def dropDormantActions (registry : Registry) (pluginId : String) : Registry :=
  match registry.dormant.get pluginId with
  | none => registry
  | some old => { registry with
      dormant := registry.dormant.remove pluginId
      dormantActions := (old.actionSpecs.map ActionSpec.name).foldl (dropDormantAction pluginId) registry.dormantActions }

def addDormantAction (pluginId : String) (actions : DashMap String (List String)) (name : String) :
    DashMap String (List String) :=
  let ids := (actions.get name).getD []
  actions.insert name (if pluginId ∈ ids then ids else ids ++ [pluginId])

def registerDormant (registry : Registry) (plugin : DormantPlugin) : Registry :=
  let registry := registry.dropDormantActions plugin.pluginId
  { registry with
    dormantActions := (plugin.actionSpecs.map ActionSpec.name).foldl (addDormantAction plugin.pluginId) registry.dormantActions
    dormant := registry.dormant.insert plugin.pluginId plugin }

def recordPong (registry : Registry) (clock : Clock) (pluginId : String) : Registry :=
  let registry := { registry with pongTimes := registry.pongTimes.insert pluginId clock.now }
  { registry with devices :=
      match registry.byPluginId.get pluginId with
      | some entry => registry.devices.modify entry.deviceId fun device =>
          { device with lastSeen := clock.unixMillis, state := .online }
      | none => registry.devices }

def setActionRequirements (registry : Registry) (pluginId : String) (requirements : DashMap String PermissionType) :
    Registry :=
  { registry with actionRequirements := registry.actionRequirements.insert pluginId requirements }

def actionRequirement (registry : Registry) (pluginId action : String) : Option PermissionType :=
  (registry.actionRequirements.get pluginId).bind fun requirements => requirements.get action

def clearActionRequirements (registry : Registry) (pluginId : String) : Registry :=
  { registry with actionRequirements := registry.actionRequirements.remove pluginId }

def touchUsed (registry : Registry) (clock : Clock) (pluginId : String) : Registry :=
  if registry.dormant.containsKey pluginId then
    { registry with lastUsed := registry.lastUsed.insert pluginId clock.now }
  else registry

def lazyGateHold (registry : Registry) (pluginId : String) : Registry :=
  { registry with lazyGates := registry.lazyGates.insert pluginId ((registry.lazyGates.get pluginId).getD ∅) }

def lazyGateRelease (registry : Registry) (pluginId : String) : Registry :=
  { registry with lazyGates := registry.lazyGates.remove pluginId }

def lazyGateAllow (registry : Registry) (clock : Clock) (pluginId : String) (frameAddr : Nat) : Registry :=
  { registry with lazyGates := registry.lazyGates.modify pluginId fun gate => gate.insert frameAddr clock.now }

/-- Whether the frame may go straight to the live plugin; an allowance is used up. -/
def lazyGatePasses (registry : Registry) (pluginId : String) (frameAddr : Nat) : Bool × Registry :=
  match registry.lazyGates.get pluginId with
  | none => (true, registry)
  | some gate =>
    (gate.containsKey frameAddr,
      { registry with lazyGates := registry.lazyGates.insert pluginId (gate.remove frameAddr) })

def hasLazyGates (registry : Registry) : Bool := !registry.lazyGates.keys.isEmpty

def lazyGateIds (shuffle : Shuffle String) (registry : Registry) : List String :=
  (registry.lazyGates.iter shuffle).map Prod.fst

/-- Drops the allowances that are older than `maxAge`; the flag says that none is left. -/
def lazyGateTrim (registry : Registry) (now : Instant) (pluginId : String) (maxAge : Nat) : Bool × Registry :=
  match registry.lazyGates.get pluginId with
  | none => (true, registry)
  | some gate =>
    let kept := gate.retain fun allowed => decide (now - allowed < maxAge)
    (kept.keys.isEmpty, { registry with lazyGates := registry.lazyGates.insert pluginId kept })

def listDormant (shuffle : Shuffle String) (registry : Registry) : List DormantPlugin :=
  (registry.dormant.iter shuffle).map Prod.snd

/-- Time since the lazy plugin was last used, if it ever was. -/
def idleForAt (registry : Registry) (pluginId : String) (now : Instant) : Option Nat :=
  (registry.lastUsed.get pluginId).map fun used => now - used

def hasPendingForProvider (registry : Registry) (providerId : String) : Bool :=
  registry.pendingActions.any fun pending => pending.providerId == providerId

def registerPendingAction (registry : Registry) (internalId : String) (pending : PendingAction) : Registry :=
  { registry with pendingActions := registry.pendingActions.insert internalId pending }

def takePendingAction (registry : Registry) (internalId : String) : Registry × Option PendingAction :=
  ({ registry with pendingActions := registry.pendingActions.remove internalId }, registry.pendingActions.get internalId)

/-- An OK for a streaming request accepts the session in place; every other reply
of the routed provider takes the entry out. -/
def resolveActionResponse (registry : Registry) (clock : Clock) (internalId providerId : String) (statusOk : Bool) :
    Registry × Option PendingAction :=
  match registry.pendingActions.get internalId with
  | none => (registry, none)
  | some pending =>
    if pending.providerId ≠ providerId then (registry, none)
    else if statusOk && pending.streaming then
      let accepted := pending.accept clock.now
      ({ registry with pendingActions := registry.pendingActions.insert internalId accepted }, some accepted)
    else registry.takePendingAction internalId

def touchPendingAction (registry : Registry) (clock : Clock) (internalId : String) : Registry :=
  { registry with pendingActions := registry.pendingActions.modify internalId fun pending =>
      { pending with lastActivity := clock.now } }

def getPendingAction (registry : Registry) (internalId : String) : Option PendingAction :=
  registry.pendingActions.get internalId

/-- First match of a scan, in whatever order the map is visited. -/
def findPendingInternalId (shuffle : Shuffle String) (registry : Registry) (requesterId originalActionId : String) :
    Option String :=
  ((registry.pendingActions.iter shuffle).find? fun entry =>
    entry.2.requesterId == requesterId && entry.2.originalActionId == originalActionId).map Prod.fst

def countPendingActionsFor (registry : Registry) (requesterId providerId : String) : Nat :=
  registry.pendingActions.count fun pending => pending.requesterId == requesterId && pending.providerId == providerId

/-- Evict the selected pending actions and return them with their keys. -/
def evictPending (shuffle : Shuffle String) (registry : Registry) (test : PendingAction → Bool) :
    Registry × List (String × PendingAction) :=
  let drained := registry.pendingActions.drain shuffle test
  ({ registry with pendingActions := drained.1 }, drained.2)

def takePendingActionsForProvider (shuffle : Shuffle String) (registry : Registry) (providerId : String) :
    Registry × List (String × PendingAction) :=
  registry.evictPending shuffle fun pending => pending.providerId == providerId

def sweepIdleSessions (shuffle : Shuffle String) (registry : Registry) (now : Instant) (idleTimeout : Nat) :
    Registry × List (String × PendingAction) :=
  registry.evictPending shuffle fun pending =>
    pending.sessionAccepted && decide (now - pending.lastActivity > idleTimeout)

def sweepExpiredActions (shuffle : Shuffle String) (registry : Registry) (now : Instant) :
    Registry × List (String × PendingAction) :=
  registry.evictPending shuffle fun pending => !pending.sessionAccepted && decide (pending.deadline ≤ now)

/-- What the requester of an evicted action is told when its provider is gone. -/
def providerGoneNotice (reason : String) (pending : PendingAction) : Send :=
  sendEnvelope pending.requesterWriteTx
    { payload :=
        if pending.sessionAccepted then .actionStreamAbort ⟨pending.originalActionId, reason⟩
        else .actionResponse ⟨pending.originalActionId, .actionError, [], reason⟩ }
    (some pending.serial)

def failPendingForProvider (shuffle : Shuffle String) (registry : Registry) (providerId : String) :
    Registry × List Send :=
  let taken := registry.takePendingActionsForProvider shuffle providerId
  (taken.1, taken.2.map fun entry => providerGoneNotice ("provider " ++ providerId ++ " disconnected") entry.2)

/-- A device is offline once none of its plugins remain. -/
def markOffline (registry : Registry) (deviceId : String) : Registry :=
  { registry with devices :=
      if registry.byPluginId.any (fun entry => entry.deviceId == deviceId) then registry.devices
      else registry.devices.modify deviceId fun device => { device with state := .offline } }

/-- What `unregister_if` does after the primary entry has been removed. -/
def cleanUp (shuffle : Shuffle String) (registry : Registry) (entry : PluginEntry) (pluginId : String) :
    Registry × List Send :=
  let registry := { registry with byConnId := registry.byConnId.remove entry.connId }
  let registry := { registry with pongTimes := registry.pongTimes.remove pluginId }
  let registry := { registry with
    toActionTable := registry.toActionTable.unindexActions entry.manifest.actions pluginId }
  let registry := registry.markOffline entry.deviceId
  registry.failPendingForProvider shuffle pluginId

/-- The result of a removal: the registry, the notices to send, and whether
anything was removed. -/
structure Removal where
  registry : Registry
  sends : List Send
  removed : Bool

def unregisterIf (shuffle : Shuffle String) (registry : Registry) (pluginId : String) (test : PluginEntry → Bool) :
    Removal :=
  match registry.byPluginId.removeIf pluginId test with
  | (_, none) => ⟨registry, [], false⟩
  | (left, some entry) =>
    let cleaned := cleanUp shuffle { registry with byPluginId := left } entry pluginId
    ⟨cleaned.1, cleaned.2, true⟩

def unregister (shuffle : Shuffle String) (registry : Registry) (pluginId : String) : Removal :=
  registry.unregisterIf shuffle pluginId fun _ => true

def unregisterConn (shuffle : Shuffle String) (registry : Registry) (pluginId : String) (connId : ConnId) : Removal :=
  registry.unregisterIf shuffle pluginId fun entry => entry.connId == connId

/-- `closed` is `Sender::is_closed`: the receiving half of the channel is gone. -/
def unregisterIfDead (shuffle : Shuffle String) (closed : Tx → Bool) (registry : Registry) (pluginId : String) :
    Removal :=
  registry.unregisterIf shuffle pluginId fun entry => closed entry.writeTx

/-- The calls that change who is registered, and the two that only refresh records. -/
inductive Call
  | registerWithDevice (clock : Clock) (pluginId : String) (connId : ConnId) (manifest : PluginManifest)
      (writeTx : Tx) (info : DeviceMeta)
  | registerDevice (clock : Clock) (deviceId : String) (connId : ConnId) (caps : List String)
      (manifest : PluginManifest) (writeTx : Tx) (info : DeviceMeta)
  | unregister (shuffle : Shuffle String) (pluginId : String)
  | unregisterConn (shuffle : Shuffle String) (pluginId : String) (connId : ConnId)
  | unregisterIfDead (shuffle : Shuffle String) (closed : Tx → Bool) (pluginId : String)
  | recordPong (clock : Clock) (pluginId : String)
  | registerDormant (plugin : DormantPlugin)

def apply (registry : Registry) : Call → Registry
  | .registerWithDevice clock pluginId connId manifest writeTx info =>
    (registry.registerWithDevice clock pluginId connId manifest writeTx info).1
  | .registerDevice clock deviceId connId caps manifest writeTx info =>
    (registry.registerDevice clock deviceId connId caps manifest writeTx info).1
  | .unregister shuffle pluginId => (registry.unregister shuffle pluginId).registry
  | .unregisterConn shuffle pluginId connId => (registry.unregisterConn shuffle pluginId connId).registry
  | .unregisterIfDead shuffle closed pluginId => (registry.unregisterIfDead shuffle closed pluginId).registry
  | .recordPong clock pluginId => registry.recordPong clock pluginId
  | .registerDormant plugin => registry.registerDormant plugin

/-- What a call sends: only a removal has anything to tell. -/
def notices (registry : Registry) : Call → List Send
  | .unregister shuffle pluginId => (registry.unregister shuffle pluginId).sends
  | .unregisterConn shuffle pluginId connId => (registry.unregisterConn shuffle pluginId connId).sends
  | .unregisterIfDead shuffle closed pluginId => (registry.unregisterIfDead shuffle closed pluginId).sends
  | _ => []

def machine : Machine Registry Call := ⟨{}, apply⟩

end Registry
end Vynkor
