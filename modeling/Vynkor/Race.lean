import Vynkor.Registry

/-! A removal and a registration of one plugin id by two tasks. `unregister_conn` and
`register_with_device` are taken apart into their single map operations, and the
schedule says whose turn it is. -/

namespace Vynkor
open Lib

/-- The arguments of both calls. -/
structure Contest where
  pluginId : String
  oldConn : ConnId
  clock : Clock
  newConn : ConnId
  manifest : PluginManifest
  writeTx : Tx
  info : DeviceMeta

def Contest.entry (contest : Contest) : PluginEntry :=
  Registry.deviceEntry contest.clock contest.pluginId contest.newConn contest.manifest contest.writeTx contest.info

/-- The next operation of `unregister_if`. -/
inductive Removing
  | start
  | freeConn (entry : PluginEntry)
  | forgetPong (entry : PluginEntry)
  | shrink (entry : PluginEntry) (action : String) (rest : List String)
  | uncollide (entry : PluginEntry) (action only : String) (rest : List String)
  | restore (entry : PluginEntry) (action only : String) (rest : List String)
  | check (entry : PluginEntry) (action : String) (rest : List String)
  | unindex (entry : PluginEntry) (action : String) (rest : List String)
  | scan (entry : PluginEntry)
  | offline (entry : PluginEntry)
  | collect
  | take (key : String) (rest : List String)
  | done (removed : Bool)
  deriving DecidableEq

/-- The next operation of `register_with_device`. -/
inductive Registering
  | start
  | reserve
  | connect
  | join (action : String) (rest : List String)
  | claim (action : String) (rest : List String)
  | collide (action existing : String) (rest : List String)
  | pong
  | device
  | enter
  | done (result : Except VynkorError Unit)
  deriving DecidableEq

/-- Before `remove_if` or after the last operation. -/
def Removing.idle : Removing → Bool
  | .start | .done _ => true
  | _ => false

/-- The vacant slot of `by_plugin_id` is held, and its shard locked, until the entry is
put into it. -/
def Registering.holdsSlot : Registering → Bool
  | .start | .reserve | .done _ => false
  | _ => true

/-- The operations on `by_plugin_id` wait for its lock. A scan that meets another plugin
of the device stops before it comes to the locked shard. -/
def Removing.needsSlot (registry : Registry) : Removing → Bool
  | .start => true
  | .scan entry => !registry.byPluginId.any fun other => other.deviceId == entry.deviceId
  | _ => false

/-- `evicted` and `routed` are history variables: what the removal took out, and the
actions routed to the plugin after its registration returned. -/
structure Race where
  registry : Registry
  removing : Removing := .start
  registering : Registering := .start
  evicted : List (String × PendingAction) := []
  routed : List (String × PendingAction) := []

inductive Turn
  | remove (shuffle : Shuffle String)
  | register
  | route (key : String) (pending : PendingAction)

namespace Removing

/-- The loop over the actions of the removed entry. -/
def nextAction (entry : PluginEntry) : List String → Removing
  | [] => .scan entry
  | action :: rest => .shrink entry action rest

/-- The loop over the collected keys. -/
def nextKey : List String → Removing
  | [] => .done true
  | key :: rest => .take key rest

def step (contest : Contest) (shuffle : Shuffle String) (registry : Registry) : Removing → Registry × Removing
  | .start =>
    match registry.byPluginId.removeIf contest.pluginId fun entry => entry.connId == contest.oldConn with
    | (_, none) => (registry, .done false)
    | (left, some entry) => ({ registry with byPluginId := left }, .freeConn entry)
  | .freeConn entry => ({ registry with byConnId := registry.byConnId.remove entry.connId }, .forgetPong entry)
  | .forgetPong entry =>
    ({ registry with pongTimes := registry.pongTimes.remove contest.pluginId }, nextAction entry entry.manifest.actions)
  | .shrink entry action rest =>
    match registry.ambiguousActions.get action with
    | none => (registry, .check entry action rest)
    | some ids =>
      let remaining := ids.filter (· != contest.pluginId)
      ({ registry with ambiguousActions := registry.ambiguousActions.insert action remaining },
        match remaining with
        | [only] => .uncollide entry action only rest
        | _ => .check entry action rest)
  | .uncollide entry action only rest =>
    ({ registry with ambiguousActions := registry.ambiguousActions.remove action }, .restore entry action only rest)
  | .restore entry action only rest =>
    ({ registry with actionIndex := registry.actionIndex.insert action only }, nextAction entry rest)
  | .check entry action rest =>
    (registry, if registry.actionIndex.get action = some contest.pluginId then .unindex entry action rest
      else nextAction entry rest)
  | .unindex entry action rest =>
    ({ registry with actionIndex := registry.actionIndex.remove action }, nextAction entry rest)
  | .scan entry =>
    (registry, if registry.byPluginId.any fun other => other.deviceId == entry.deviceId then .collect else .offline entry)
  | .offline entry =>
    ({ registry with devices := registry.devices.modify entry.deviceId fun device => { device with state := .offline } },
      .collect)
  | .collect => (registry, nextKey (((registry.pendingActions.iter shuffle).filter
      fun entry => entry.2.providerId == contest.pluginId).map Prod.fst))
  | .take key rest => ((registry.takePendingAction key).1, nextKey rest)
  | .done removed => (registry, .done removed)

end Removing

namespace Registering

/-- The loop over the actions of the new entry. -/
def nextAction : List String → Registering
  | [] => .pong
  | action :: rest => .join action rest

def step (contest : Contest) (registry : Registry) : Registering → Registry × Registering
  | .start =>
    match validatePluginId contest.pluginId with
    | .error error => (registry, .done (.error error))
    | .ok () =>
      match validateDeviceScope contest.pluginId contest.info.deviceId with
      | .error error => (registry, .done (.error error))
      | .ok () =>
        if registry.byConnId.containsKey contest.newConn then
          (registry, .done (.error (.pluginAlreadyRegistered
            ("connection " ++ toString contest.newConn ++ " already has a registered plugin"))))
        else (registry, .reserve)
  | .reserve =>
    if registry.byPluginId.containsKey contest.pluginId then
      (registry, .done (.error (.pluginAlreadyRegistered contest.pluginId)))
    else (registry, .connect)
  | .connect =>
    ({ registry with byConnId := registry.byConnId.insert contest.newConn contest.pluginId },
      nextAction contest.manifest.actions)
  | .join action rest =>
    match registry.ambiguousActions.get action with
    | some ids =>
      (if contest.pluginId ∈ ids then registry
        else { registry with ambiguousActions := registry.ambiguousActions.insert action (ids ++ [contest.pluginId]) },
        nextAction rest)
    | none => (registry, .claim action rest)
  | .claim action rest =>
    match registry.actionIndex.get action with
    | some existing =>
      if existing = contest.pluginId then (registry, nextAction rest)
      else ({ registry with actionIndex := registry.actionIndex.remove action }, .collide action existing rest)
    | none =>
      ({ registry with actionIndex := registry.actionIndex.insert action contest.pluginId }, nextAction rest)
  | .collide action existing rest =>
    ({ registry with ambiguousActions := registry.ambiguousActions.insert action [existing, contest.pluginId] },
      nextAction rest)
  | .pong =>
    ({ registry with pongTimes := registry.pongTimes.insert contest.pluginId contest.clock.now }, .device)
  | .device =>
    let capabilities := contest.info.capabilities
    ({ registry with
      devices := upsertDevice registry.devices contest.clock contest.entry.deviceId contest.info capabilities }, .enter)
  | .enter =>
    ({ registry with byPluginId := registry.byPluginId.insert contest.pluginId contest.entry }, .done (.ok ()))
  | .done result => (registry, .done result)

def returnedOk : Registering → Bool
  | .done (.ok ()) => true
  | _ => false

end Registering

namespace Race

/-- What one operation of the removal takes out of the pending actions. -/
def taken (registry : Registry) : Removing → List (String × PendingAction)
  | .take key _ => ((registry.takePendingAction key).2.map fun pending => (key, pending)).toList
  | _ => []

def step (contest : Contest) (race : Race) : Turn → Race
  | .remove shuffle =>
    if race.removing.needsSlot race.registry && race.registering.holdsSlot then race
    else
      let next := race.removing.step contest shuffle race.registry
      { race with
        registry := next.1
        removing := next.2
        evicted := race.evicted ++ taken race.registry race.removing }
  | .register =>
    let next := race.registering.step contest race.registry
    { race with registry := next.1, registering := next.2 }
  | .route key pending =>
    if race.registering.returnedOk && pending.providerId == contest.pluginId &&
        !race.registry.pendingActions.containsKey key then
      { race with
        registry := race.registry.registerPendingAction key pending
        routed := race.routed ++ [(key, pending)] }
    else race

/-- The race of the two calls on a registry. -/
def machine (contest : Contest) (registry : Registry) : Machine Race Turn := ⟨{ registry }, step contest⟩

end Race
end Vynkor
