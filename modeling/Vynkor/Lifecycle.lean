import Vynkor.Lib.Machine
import Vynkor.Router

/-! Registrations as the event bus sees them: the router's steps, the disconnect loop taken
apart into its operations, the manager's stop and the loader's subscriptions, with every call
of `EventBus::publish` that they make. -/

namespace Vynkor
open Lib

/-- A call of `EventBus::publish` and what its event is made of. The connection of a
registration is a history variable. -/
inductive Publication
  | joined (connId : ConnId) (pluginId : String) (clock : Clock) (payload : EventPayload)
  | left (connId : ConnId) (pluginId : String) (clock : Clock) (payload : EventPayload)
  | plugin (sender : String) (clock : Clock) (seq : UInt64) (eventType : String) (payloadJson : Bytes)
  | died (pluginId : String) (restartCount : UInt32) (willRestart : Bool)
  deriving DecidableEq, Repr

namespace Publication

def diedPayload (pluginId : String) (restartCount : UInt32) (willRestart : Bool) : String :=
  "\x7b\"plugin_id\":\"" ++ pluginId ++ "\",\"restart_count\":" ++ toString restartCount.toNat ++
    ",\"will_restart\":" ++ (if willRestart then "true" else "false") ++ "\x7d"

def event : Publication → Event
  | .joined _ pluginId clock payload => pluginJoinedEvent clock pluginId payload
  | .left _ pluginId clock payload => pluginLeftEvent clock pluginId payload
  | .plugin sender clock seq eventType payloadJson =>
    ⟨"evt-" ++ sender ++ "-" ++ toString clock.unixMillis ++ "-" ++ toString seq.toNat,
      "plugin." ++ sender ++ "." ++ eventType, .json payloadJson, 0⟩
  | .died pluginId restartCount willRestart =>
    ⟨"sys-died-" ++ pluginId ++ "-" ++ toString restartCount.toNat, "system.plugin_died",
      .json (diedPayload pluginId restartCount willRestart).toUTF8.data.toList, 0⟩

end Publication

def evictStalePublications (ambient : Ambient) (kernel : Kernel) (pluginId : String) : List Publication :=
  match kernel.registry.get pluginId with
  | none => []
  | some entry =>
    if ambient.closed entry.writeTx &&
        (kernel.registry.unregisterIfDead ambient.shuffle ambient.closed pluginId).removed then
      [.left entry.connId pluginId ambient.clock (pluginLifecyclePayload kernel.registry pluginId)]
    else []

def pluginRegisterPublications (config : Config) (ambient : Ambient) (kernel : Kernel) (msg : IncomingMessage)
    (register : PluginRegister) : List Publication :=
  let mismatch := if register.protocolVersion = "" then .supported
    else checkProtocolVersion config register.protocolVersion
  match mismatch with
  | .rejected _ => []
  | _ =>
    match authenticate config ambient.clock register (register.manifest.getD {}) with
    | .error _ => []
    | .ok manifest =>
      match deviceSecret config ambient register with
      | .error _ => []
      | .ok _ =>
        let manifest := clampPermissions config register.pluginId manifest
        let evicted := evictStale ambient kernel register.pluginId
        let enlisted := enlist evicted.1.registry ambient.clock msg register manifest
        evictStalePublications ambient kernel register.pluginId ++
          match enlisted.2 with
          | .error _ => []
          | .ok () =>
            [.joined msg.connId register.pluginId ambient.clock (pluginLifecyclePayload enlisted.1 register.pluginId)]

def eventPublishPublications (ambient : Ambient) (kernel : Kernel) (msg : IncomingMessage) (eventType : String)
    (payloadJson : Bytes) : List Publication :=
  let sender := senderId kernel.registry msg.connId
  if isErr (checkPermission kernel.registry sender .permissionEventPublish) then []
  else [.plugin sender ambient.clock kernel.eventSeq eventType payloadJson]

def payloadPublications (config : Config) (ambient : Ambient) (kernel : Kernel) (msg : IncomingMessage) :
    Payload → List Publication
  | .pluginRegister register => pluginRegisterPublications config ambient kernel msg register
  | .eventPublish eventType payloadJson => eventPublishPublications ambient kernel msg eventType payloadJson
  | _ => []

/-- The calls of `publish` during `routeMessage`. -/
def routeMessagePublications (config : Config) (ambient : Ambient) (kernel : Kernel) (msg : IncomingMessage)
    (target : String) : List Publication :=
  if target = "kernel" then
    match msg.frame.payload.decode with
    | none => []
    | some envelope =>
      if !envelope.payload.isRegister && !kernel.registry.isRegistered msg.connId then []
      else payloadPublications config ambient kernel msg envelope.payload
  else []

/-- Where the disconnect loop is in its handling of a connection. -/
inductive Departure
  | waiting
  | found (connId : ConnId) (pluginId : String) (payload : EventPayload)
  | unregistered (connId : ConnId) (pluginId : String) (payload : EventPayload)
  | unsubscribed (connId : ConnId) (pluginId : String) (payload : EventPayload)
  deriving DecidableEq, Repr

/-- `disconnects` is the channel of the disconnect loop, `published` a history variable. -/
structure Lifecycle where
  kernel : Kernel := {}
  disconnects : List ConnId := []
  departure : Departure := .waiting
  published : List Publication := []

inductive LifecycleInput
  | message (ambient : Ambient) (msg : IncomingMessage)
  | tick (ambient : Ambient)
  | disconnected (connId : ConnId)
  | lookUp
  | unregister (shuffle : Shuffle String)
  | unsubscribeAll
  | publishLeft (clock : Clock)
  /-- `PluginManager::stop`, once the supervisor has stopped the process. -/
  | stop (shuffle : Shuffle String) (pluginId : String)
  /-- `load_all` has spawned the plugin and subscribes it to the events of its manifest. -/
  | load (pluginId : String) (events : List String)

namespace Lifecycle

def route (config : Config) (life : Lifecycle) (ambient : Ambient) (msg : IncomingMessage) : Lifecycle :=
  match msg.frame.target with
  | none => life
  | some target =>
    { life with
      kernel := (routeMessage config ambient life.kernel msg target).kernel
      published := life.published ++ routeMessagePublications config ambient life.kernel msg target }

def lookUp (life : Lifecycle) : Lifecycle :=
  match life.departure, life.disconnects with
  | .waiting, connId :: disconnects =>
    match life.kernel.registry.getByConnId connId with
    | none => { life with disconnects }
    | some entry =>
      let payload := pluginLifecyclePayload life.kernel.registry entry.pluginId
      { life with disconnects, departure := .found connId entry.pluginId payload }
  | _, _ => life

def unregister (life : Lifecycle) (shuffle : Shuffle String) : Lifecycle :=
  match life.departure with
  | .found connId pluginId payload =>
    let removal := life.kernel.registry.unregisterConn shuffle pluginId connId
    if removal.removed then
      { life with
        kernel := { life.kernel with registry := removal.registry }
        departure := .unregistered connId pluginId payload }
    else { life with departure := .waiting }
  | _ => life

def unsubscribeAll (life : Lifecycle) : Lifecycle :=
  match life.departure with
  | .unregistered connId pluginId payload =>
    { life with
      kernel := { life.kernel with bus := life.kernel.bus.unsubscribeAll pluginId }
      departure := .unsubscribed connId pluginId payload }
  | _ => life

def publishLeft (life : Lifecycle) (clock : Clock) : Lifecycle :=
  match life.departure with
  | .unsubscribed connId pluginId payload =>
    { life with departure := .waiting, published := life.published ++ [.left connId pluginId clock payload] }
  | _ => life

def step (config : Config) (life : Lifecycle) : LifecycleInput → Lifecycle
  | .message ambient msg => life.route config ambient msg
  | .tick ambient => { life with kernel := (pruneTick config ambient life.kernel).kernel }
  | .disconnected connId => { life with disconnects := life.disconnects ++ [connId] }
  | .lookUp => life.lookUp
  | .unregister shuffle => life.unregister shuffle
  | .unsubscribeAll => life.unsubscribeAll
  | .publishLeft clock => life.publishLeft clock
  | .stop shuffle pluginId =>
    { life with kernel := { life.kernel with registry := (life.kernel.registry.unregister shuffle pluginId).registry } }
  | .load pluginId events =>
    if events.isEmpty then life
    else { life with kernel := { life.kernel with bus := life.kernel.bus.subscribe pluginId events } }

/-- The calls of `publish` during a step. -/
def publications (config : Config) (life : Lifecycle) : LifecycleInput → List Publication
  | .message ambient msg =>
    match msg.frame.target with
    | none => []
    | some target => routeMessagePublications config ambient life.kernel msg target
  | .publishLeft clock =>
    match life.departure with
    | .unsubscribed connId pluginId payload => [.left connId pluginId clock payload]
    | _ => []
  | _ => []

def machine (config : Config) : Machine Lifecycle LifecycleInput := ⟨{}, step config⟩

end Lifecycle
end Vynkor
