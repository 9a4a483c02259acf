import Vynkor.Router.Actions
import Vynkor.Router.Register

/-! The router: one message by its target, the prune tick and the disconnect loop. -/

namespace Vynkor
open Lib

def readonlyCommands : List String := ["health_check", "list_plugins", "get_manifest"]

def handleEventPublish (ambient : Ambient) (kernel : Kernel) (msg : IncomingMessage) (messageId eventType : String)
    (payloadJson : Bytes) : Outcome :=
  let sender := senderId kernel.registry msg.connId
  let ack := fun eventId status => sendEnvelope msg.writeTx { messageId, payload := .eventPublishAck eventId status }
  if isErr (checkPermission kernel.registry sender .permissionEventPublish) then
    { kernel, sends := [ack "" .eventPublishPermissionDeny] }
  else
    let eventId := "evt-" ++ sender ++ "-" ++ toString ambient.clock.unixMillis ++ "-" ++ toString kernel.eventSeq.toNat
    let event := ⟨eventId, "plugin." ++ sender ++ "." ++ eventType, .json payloadJson, 0⟩
    { kernel := { kernel with eventSeq := kernel.eventSeq + 1 }
      sends := kernel.bus.publish ambient.shuffle event kernel.registry ++ [ack eventId .eventPublishOk] }

def handleKernelCommand (ambient : Ambient) (kernel : Kernel) (msg : IncomingMessage) (messageId : String)
    (command : KernelCommand) : Outcome :=
  let sender := senderId kernel.registry msg.connId
  let outcome : CommandOutcome :=
    if !readonlyCommands.contains command.command &&
        isErr (checkPermission kernel.registry sender .permissionKernelAdmin) then
      { status := .commandPermissionDenied, error := sender ++ " lacks PERMISSION_KERNEL_ADMIN" }
    else ambient.dispatch
  let ack := ⟨command.commandId, outcome.status, outcome.dataJson, outcome.error⟩
  { kernel, sends := [sendEnvelope msg.writeTx { messageId, payload := .kernelCommandAck ack }] }

def handlePayload (config : Config) (ambient : Ambient) (kernel : Kernel) (msg : IncomingMessage)
    (messageId : String) : Payload → Outcome
  | .pluginRegister register => handlePluginRegister config ambient kernel msg messageId register
  | .ping timestamp =>
    { kernel, sends := [sendEnvelope msg.writeTx { messageId, payload := .pong timestamp ambient.clock.unixMillis }] }
  | .pong _ _ =>
    match kernel.registry.getByConnId msg.connId with
    | some entry => { kernel := { kernel with registry := kernel.registry.recordPong ambient.clock entry.pluginId } }
    | none => { kernel }
  | .subscribe eventTypes =>
    match kernel.registry.getByConnId msg.connId with
    | some entry => { kernel := { kernel with bus := kernel.bus.subscribe entry.pluginId eventTypes } }
    | none => { kernel }
  | .unsubscribe eventTypes =>
    match kernel.registry.getByConnId msg.connId with
    | some entry => { kernel := { kernel with bus := kernel.bus.unsubscribe entry.pluginId eventTypes } }
    | none => { kernel }
  | .eventPublish eventType payloadJson => handleEventPublish ambient kernel msg messageId eventType payloadJson
  | .actionRequest request => handleActionRequest config ambient kernel msg messageId request
  | .actionResponse response => handleActionResponse ambient kernel msg messageId response
  | .actionRequestChunk chunk => handleActionRequestChunk ambient kernel msg messageId chunk
  | .actionResponseChunk chunk => handleActionResponseChunk ambient kernel msg messageId chunk
  | .sessionClose close => handleSessionClose ambient kernel msg messageId close
  | .kernelCommand command => handleKernelCommand ambient kernel msg messageId command
  | .eventAck _ => { kernel }
  | _ => { kernel, sends := [sendError msg.writeTx .errUnknown "unhandled message"], errored := true }

def Payload.isRegister : Payload → Bool
  | .pluginRegister _ => true
  | _ => false

def handleKernelMessage (config : Config) (ambient : Ambient) (kernel : Kernel) (msg : IncomingMessage) : Outcome :=
  match msg.frame.payload.decode with
  | none => { kernel, sends := [sendError msg.writeTx .errDeserialization "decode failed"], errored := true }
  | some envelope =>
    if !envelope.payload.isRegister && !kernel.registry.isRegistered msg.connId then
      { kernel, sends := [sendError msg.writeTx .errNotRegistered "not registered"], errored := true }
    else handlePayload config ambient kernel msg envelope.messageId envelope.payload

def rawBinary (frame : Frame) : Bool := frame.flags &&& flagRawBinary != 0

/-- The allowlist of `forward`: the target itself, or for a resolved
`<device>.<cap>` target the device. -/
def targetListed (registry : Registry) (sender : PluginEntry) (target : String) : Bool :=
  sender.manifest.ipcTargets.contains target ||
    (Text.contains target '.' && (registry.getMux target).isSome &&
      (Text.splitOnce target '.').any fun parts => sender.manifest.ipcTargets.contains parts.1)

def forwardGate (registry : Registry) (sender target : String) (frame : Frame) : Except String Unit :=
  if isErr (checkIpcSend registry sender) then .error "PERMISSION_IPC_SEND required"
  else
    match registry.get sender with
    | none => .error "sender not found"
    | some entry =>
      if (registry.getMux target).any fun resolved => resolved.userId != entry.userId then
        .error "cross-user IPC denied"
      else if !targetListed registry entry target then .error "target not in ipc_targets allowlist"
      else if rawBinary frame && isErr (checkPermission registry sender .permissionAudioStream) then
        .error "PERMISSION_AUDIO_STREAM required for FLAG_RAW_BINARY frames"
      else .ok ()

/-- The action request a forwarded frame asks the kernel to remember: one with no
action, for a capability of a device. -/
def muxRequest (target : String) (frame : Frame) : Option ActionRequest :=
  match frame.payload.decode with
  | none => none
  | some envelope =>
    match envelope.payload with
    | .actionRequest request => if request.action = "" ∧ Text.contains target '.' then some request else none
    | _ => none

def relayToHost (ambient : Ambient) (kernel : Kernel) (frame : Frame) : List Send × Bool :=
  match kernel.bridgeConns.head? with
  | none => ([], false)
  | some tx => ([⟨tx, .frame frame.stripMac, none⟩], ambient.accepts tx)

/-- The entry is stored under the id the caller chose. -/
def forward (config : Config) (ambient : Ambient) (kernel : Kernel) (msg : IncomingMessage) (target : String) :
    Outcome :=
  match kernel.registry.getByConnId msg.connId with
  | none => { kernel, sends := [sendError msg.writeTx .errNotRegistered "not registered"], errored := true }
  | some sender =>
    match forwardGate kernel.registry sender.pluginId target msg.frame with
    | .error reason => { kernel, sends := [sendError msg.writeTx .errPermissionDenied reason], errored := true }
    | .ok () =>
      match kernel.registry.getMux target with
      | some entry =>
        { kernel := match muxRequest target msg.frame with
            | some request => kernel.issue msg.connId request.actionId
                (newPending ambient kernel msg request sender.pluginId entry.pluginId 30000)
            | none => kernel
          sends := [⟨entry.writeTx, .frame msg.frame.stripMac, none⟩] }
      | none =>
        let relay := if config.bridge then relayToHost ambient kernel msg.frame else ([], false)
        if relay.2 then { kernel, sends := relay.1 }
        else { kernel, sends := relay.1 ++ [sendError msg.writeTx .errUnknown "plugin not found"], errored := true }

def broadcast (ambient : Ambient) (kernel : Kernel) (msg : IncomingMessage) : Outcome :=
  match kernel.registry.getByConnId msg.connId with
  | none => { kernel, sends := [sendError msg.writeTx .errNotRegistered "not registered"], errored := true }
  | some sender =>
    let refused := fun reason =>
      { kernel, sends := [sendError msg.writeTx .errPermissionDenied reason], errored := true : Outcome }
    if isErr (checkIpcSend kernel.registry sender.pluginId) then refused "PERMISSION_IPC_SEND required"
    else if rawBinary msg.frame && isErr (checkPermission kernel.registry sender.pluginId .permissionAudioStream) then
      refused "PERMISSION_AUDIO_STREAM required for FLAG_RAW_BINARY frames"
    else
      let recipients := (kernel.registry.list ambient.shuffle).filter fun entry =>
        entry.connId != msg.connId && !isErr (checkIpcTarget kernel.registry sender.pluginId entry.pluginId)
      { kernel, sends := recipients.map fun entry => ⟨entry.writeTx, .frame msg.frame.stripMac, none⟩ }

def routeMessage (config : Config) (ambient : Ambient) (kernel : Kernel) (msg : IncomingMessage) (target : String) :
    Outcome :=
  if target = "kernel" then handleKernelMessage config ambient kernel msg
  else if target = "*" then broadcast ambient kernel msg
  else forward config ambient kernel msg target

/-- Unaccepted requests past their deadline are answered; idle accepted sessions
are ended if the configuration bounds them. -/
def pruneTick (config : Config) (ambient : Ambient) (kernel : Kernel) : Outcome :=
  let expired := kernel.registry.sweepExpiredActions ambient.shuffle ambient.clock.now
  let timeouts := expired.2.map fun entry =>
    sendEnvelope entry.2.requesterWriteTx
      { payload := .actionResponse ⟨entry.2.originalActionId, .actionTimeout, [], "action timed out"⟩ }
      (some entry.2.serial)
  match config.sessionIdleTimeoutSecs with
  | none => { kernel := { kernel with registry := expired.1 }, sends := timeouts }
  | some idleSecs =>
    let idle := expired.1.sweepIdleSessions ambient.shuffle ambient.clock.now (secs idleSecs)
    { kernel := { kernel with registry := idle.1 }
      sends := timeouts ++ idle.2.flatMap fun entry =>
        notifyForcedTermination idle.1 entry.1 entry.2 "idle timeout" }

def handleDisconnect (ambient : Ambient) (kernel : Kernel) (connId : ConnId) : Kernel × List Send :=
  match kernel.registry.getByConnId connId with
  | none => (kernel, [])
  | some entry =>
    let payload := pluginLifecyclePayload kernel.registry entry.pluginId
    let removal := kernel.registry.unregisterConn ambient.shuffle entry.pluginId connId
    if removal.removed then
      let bus := kernel.bus.unsubscribeAll entry.pluginId
      ({ kernel with registry := removal.registry, bus },
        removal.sends ++ bus.publish ambient.shuffle (pluginLeftEvent ambient.clock entry.pluginId payload)
          removal.registry)
    else (kernel, [])

end Vynkor
