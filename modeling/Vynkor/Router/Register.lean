import Vynkor.Router.State

/-! Registration over the wire: checks, eviction of a dead predecessor, the ack
and the frame key. -/

namespace Vynkor
open Lib

/-- The token decides permissions and targets; its subject must be the plugin or
its device. -/
def authenticate (config : Config) (clock : Clock) (register : PluginRegister) (manifest : PluginManifest) :
    Except String PluginManifest :=
  match config.jwtValidator with
  | none => .ok manifest
  | some validate =>
    match validate clock register.jwtToken with
    | .error _ => .error "authentication failed"
    | .ok claims =>
      let deviceMatch := register.deviceId != "" && claims.sub == register.deviceId
      if claims.sub != register.pluginId && !deviceMatch then .error "token plugin_id mismatch"
      else .ok { manifest with permissions := claims.permissions, ipcTargets := claims.ipcTargets }

def deviceSecret (config : Config) (ambient : Ambient) (register : PluginRegister) : Except String (Option String) :=
  if register.deviceId != "" && config.macSecret && config.deviceStore then
    match ambient.activeSecret with
    | .ok (some secret) => .ok (some secret)
    | .ok none => .error "unknown device — pair it first"
    | .error error => .error error
  else .ok none

def clampPermissions (config : Config) (pluginId : String) (manifest : PluginManifest) : PluginManifest :=
  match config.configPermissions.bind fun table => table pluginId with
  | none => manifest
  | some allowed =>
    if allowed.isEmpty then manifest
    else { manifest with permissions := manifest.permissions.filter fun held =>
      (allowed.map normalizePermission).contains (normalizePermission held) }

/-- An earlier registration of the id whose channel is closed makes room. -/
def evictStale (ambient : Ambient) (kernel : Kernel) (pluginId : String) : Kernel × List Send :=
  match kernel.registry.get pluginId with
  | none => (kernel, [])
  | some entry =>
    if ambient.closed entry.writeTx then
      let payload := pluginLifecyclePayload kernel.registry pluginId
      let removal := kernel.registry.unregisterIfDead ambient.shuffle ambient.closed pluginId
      if removal.removed then
        let bus := kernel.bus.unsubscribeAll pluginId
        ({ kernel with registry := removal.registry, bus },
          removal.sends ++ bus.publish ambient.shuffle (pluginLeftEvent ambient.clock pluginId payload) removal.registry)
      else ({ kernel with registry := removal.registry }, removal.sends)
    else (kernel, [])

def PluginRegister.isMuxDevice (register : PluginRegister) : Bool :=
  !register.capabilities.isEmpty && register.deviceId != "" && register.pluginId == register.deviceId

def PluginRegister.deviceMeta (register : PluginRegister) : DeviceMeta where
  deviceId := register.deviceId
  userId := register.userId
  os := register.os.getD .unspecified
  arch := register.arch
  osVersion := register.osVersion
  capabilities := register.capabilities

def enlist (registry : Registry) (clock : Clock) (msg : IncomingMessage) (register : PluginRegister)
    (manifest : PluginManifest) : Registry × Except VynkorError Unit :=
  if register.isMuxDevice then
    registry.registerDevice clock register.deviceId msg.connId register.capabilities manifest msg.writeTx
      register.deviceMeta
  else registry.registerWithDevice clock register.pluginId msg.connId manifest msg.writeTx register.deviceMeta

def keyMaterial (config : Config) (secret : Option String) (pluginId : String) : KeyMaterial :=
  match secret with
  | some secret => .device secret
  | none => if config.legacyPluginMac then .master else .plugin pluginId

/-- What follows `enlist`: the ack, the frame key and the joined event. -/
def acknowledge (config : Config) (ambient : Ambient) (kernel : Kernel) (msg : IncomingMessage) (messageId : String)
    (register : PluginRegister) (secret : Option String) (result : Except VynkorError Unit) : List Send :=
  match result with
  | .error error =>
    [sendEnvelope msg.writeTx { messageId, payload := .pluginRegisterAck ⟨false, error.display, [], []⟩ }]
  | .ok () =>
    let nonce := if config.macSecret then ambient.nonce else []
    let granted := ((kernel.registry.get register.pluginId).map fun entry => entry.manifest.permissions).getD []
    sendEnvelope msg.writeTx { messageId, payload := .pluginRegisterAck ⟨true, "", granted, nonce⟩ } ::
      (if config.macSecret then
        [⟨msg.writeTx, .enableMac ⟨keyMaterial config secret register.pluginId, nonce, register.pluginId⟩, none⟩]
      else []) ++
      kernel.bus.publish ambient.shuffle
        (pluginJoinedEvent ambient.clock register.pluginId (pluginLifecyclePayload kernel.registry register.pluginId))
        kernel.registry

def handlePluginRegister (config : Config) (ambient : Ambient) (kernel : Kernel) (msg : IncomingMessage)
    (messageId : String) (register : PluginRegister) : Outcome :=
  let mismatch := if register.protocolVersion = "" then .supported
    else checkProtocolVersion config register.protocolVersion
  match mismatch with
  | .rejected reason => { kernel, sends := [sendError msg.writeTx .errProtocolMismatch reason], errored := true }
  | _ =>
    match authenticate config ambient.clock register (register.manifest.getD {}) with
    | .error reason => { kernel, sends := [sendRegisterReject msg.writeTx reason], errored := true }
    | .ok manifest =>
      match deviceSecret config ambient register with
      | .error reason => { kernel, sends := [sendRegisterReject msg.writeTx reason], errored := true }
      | .ok secret =>
        let manifest := clampPermissions config register.pluginId manifest
        let evicted := evictStale ambient kernel register.pluginId
        let enlisted := enlist evicted.1.registry ambient.clock msg register manifest
        let kernel := { evicted.1 with registry := enlisted.1 }
        { kernel, sends := evicted.2 ++ acknowledge config ambient kernel msg messageId register secret enlisted.2 }

end Vynkor
