import Vynkor.Router.State

/-! Actions through the kernel: routing a request, and the replies, chunks and
closes that follow it. -/

namespace Vynkor
open Lib

/-- The lookup as the request sees it: a draining gate sends the call to the waker. -/
def gatedLookup (registry : Registry) (action : String) (frameAddr : Nat) : ActionLookup × Registry :=
  match registry.findActionProvider action with
  | .found provider =>
    let passed := registry.lazyGatePasses provider.pluginId frameAddr
    (if passed.1 then .found provider else .dormant provider.pluginId, passed.2)
  | other => (other, registry)

inductive Route
  | denied
  | missing
  | ambiguous
  | forbidden
  | quota
  | wake (pluginId : String)
  | deliver (provider : PluginEntry)

/-- Whether the action's required permission is missing on either side. A dormant
provider has no manifest to check yet. -/
def lacksPermission (registry : Registry) (sender providerId : String) (providerLive : Bool) (action : String) : Bool :=
  match (registry.actionRequirement providerId action).or (requiredPermissionForAction action) with
  | none => false
  | some permission =>
    (providerLive && isErr (checkPermission registry providerId permission)) ||
      isErr (checkPermission registry sender permission)

def guarded (config : Config) (ambient : Ambient) (registry : Registry) (sender providerId : String)
    (providerLive : Bool) (action : String) (next : Route) : Route :=
  if lacksPermission registry sender providerId providerLive action then .forbidden
  else if config.actionCallerMaxConcurrent.any fun cap =>
      decide (registry.countPendingActionsFor sender providerId ≥ cap) then .quota
  else if config.actionLimiter && ambient.actionLimited then .quota
  else next

def chooseRoute (config : Config) (ambient : Ambient) (registry : Registry) (sender : String) (callerDenied : Bool)
    (lookup : ActionLookup) (action : String) : Route :=
  if callerDenied then .denied
  else
    match lookup with
    | .notFound => .missing
    | .ambiguous _ => .ambiguous
    | .found provider => guarded config ambient registry sender provider.pluginId true action (.deliver provider)
    | .dormant id => guarded config ambient registry sender id false action (.wake id)

def Kernel.internalId (kernel : Kernel) : String := "kact-" ++ toString kernel.actionSeq.toNat

/-- Registers a pending action and records the registration. -/
def Kernel.issue (kernel : Kernel) (connId : ConnId) (key : String) (pending : PendingAction) : Kernel :=
  { kernel with
    registry := kernel.registry.registerPendingAction key pending
    issued := kernel.issued ++ [⟨connId, key, pending⟩] }

/-- The entry of a request handed to `providerId`, before any reply. -/
def newPending (ambient : Ambient) (kernel : Kernel) (msg : IncomingMessage) (request : ActionRequest)
    (sender providerId : String) (timeoutMs : Nat) : PendingAction where
  requesterWriteTx := msg.writeTx
  originalActionId := request.actionId
  requesterId := sender
  deadline := ambient.clock.now + millis timeoutMs
  providerId := providerId
  streaming := request.streaming
  sessionAccepted := false
  lastActivity := ambient.clock.now
  serial := kernel.issued.length

def effectiveTimeoutMs (config : Config) (request : ActionRequest) : Nat :=
  if request.timeoutMs = 0 then config.actionTimeoutMs else request.timeoutMs

/-- Registers a request under the next kernel id, for the named provider. -/
def Kernel.dispatch (config : Config) (ambient : Ambient) (kernel : Kernel) (msg : IncomingMessage)
    (request : ActionRequest) (sender providerId : String) : Kernel :=
  { kernel with actionSeq := kernel.actionSeq + 1 }.issue msg.connId kernel.internalId
    (newPending ambient kernel msg request sender providerId (effectiveTimeoutMs config request))

def forwardedRequest (messageId : String) (request : ActionRequest) (internalId callerId : String) : Envelope :=
  { messageId, payload := .actionRequest { request with actionId := internalId, callerPluginId := callerId } }

/-- The result of trying the host; `about` is the entry that was withdrawn. -/
structure Relay where
  kernel : Kernel
  sends : List Send := []
  relayed : Bool := false
  about : Option Nat := none

def relayActionToHost (config : Config) (ambient : Ambient) (kernel : Kernel) (msg : IncomingMessage)
    (messageId : String) (request : ActionRequest) (sender : String) : Relay :=
  if !config.bridge || msg.connId == bridgeConnIdBase then { kernel }
  else
    match kernel.registry.getByConnId bridgeConnIdBase with
    | none => { kernel }
    | some host =>
      let issued := kernel.dispatch config ambient msg request sender host.pluginId
      let sends := [sendEnvelope host.writeTx (forwardedRequest messageId request kernel.internalId sender)]
      if ambient.accepts host.writeTx then { kernel := issued, sends, relayed := true }
      else {
        kernel := { issued with registry := (issued.registry.takePendingAction kernel.internalId).1 }
        sends, about := some kernel.issued.length }

/-- The `ActionResponse` of a request that is not routed. -/
def refuse (kernel : Kernel) (msg : IncomingMessage) (messageId : String) (request : ActionRequest)
    (status : ActionStatus) (error : Option String) (about : Option Nat := none) : Send :=
  let error := match status with
    | .actionNotFound => (offlineDeviceReason kernel.registry request.action).or
        (ambiguousActionReason kernel.registry request.action)
    | _ => error
  sendEnvelope msg.writeTx
    { messageId, payload := .actionResponse ⟨request.actionId, status, [], error.getD (actionStatusMessage status)⟩ }
    about

def deviceCaller (registry : Registry) (sender : String) (request : ActionRequest) : Option DeviceCaller :=
  (registry.getDevice sender).map fun _ => DeviceCaller.new sender request.callerPluginId

def callerId (registry : Registry) (sender : String) (request : ActionRequest) : String :=
  ((deviceCaller registry sender request).map DeviceCaller.scopedId).getD sender

def callerDenied (config : Config) (registry : Registry) (sender : String) (request : ActionRequest) : Bool :=
  match deviceCaller registry sender request, config.deviceCallers with
  | some caller, some rules => !caller.allowedBy sender rules
  | _, _ => false

def handleActionRequest (config : Config) (ambient : Ambient) (kernel : Kernel) (msg : IncomingMessage)
    (messageId : String) (request : ActionRequest) : Outcome :=
  let sender := senderId kernel.registry msg.connId
  let caller := callerId kernel.registry sender request
  let denied := callerDenied config kernel.registry sender request
  let looked := gatedLookup kernel.registry request.action msg.frameAddr
  let kernel := { kernel with registry := looked.2 }
  let refusal := refuse kernel msg messageId request
  match chooseRoute config ambient kernel.registry sender denied looked.1 request.action with
  | .denied => { kernel, sends :=
      [refusal .actionPermissionDeny (some ("caller " ++ caller ++ " not allowed by device_callers"))] }
  | .missing =>
    let relay := relayActionToHost config ambient kernel msg messageId request sender
    { kernel := relay.kernel, sends := relay.sends ++
        if relay.relayed then [] else [refuse relay.kernel msg messageId request .actionNotFound none relay.about] }
  | .ambiguous => { kernel, sends := [refusal .actionNotFound none] }
  | .forbidden => { kernel, sends := [refusal .actionPermissionDeny none] }
  | .quota => { kernel, sends := [refusal .actionQuotaExceeded none] }
  | .wake pluginId =>
    if config.lazy && ambient.wakeAccepts then { kernel, wake := some ⟨pluginId, msg⟩ }
    else { kernel, sends := [refusal .actionError (some "lazy start queue unavailable")] }
  | .deliver provider =>
    let issued := kernel.dispatch config ambient msg request sender provider.pluginId
    { kernel := { issued with registry := issued.registry.touchUsed ambient.clock provider.pluginId }
      sends := [sendEnvelope provider.writeTx (forwardedRequest messageId request kernel.internalId caller)] }

def handleActionResponse (ambient : Ambient) (kernel : Kernel) (msg : IncomingMessage) (messageId : String)
    (response : ActionResponse) : Outcome :=
  match kernel.registry.getByConnId msg.connId with
  | none => { kernel }
  | some sender =>
    match kernel.registry.resolveActionResponse ambient.clock response.actionId sender.pluginId
        (response.status == .actionOk) with
    | (registry, none) => { kernel := { kernel with registry } }
    | (registry, some pending) =>
      { kernel := { kernel with registry := registry.touchUsed ambient.clock pending.providerId }
        sends := [sendEnvelope pending.requesterWriteTx
          { messageId, payload := .actionResponse { response with actionId := pending.originalActionId } }
          (some pending.serial)] }

/-- A chunk that cannot be handed on kills the stream on both sides. -/
def passChunk (ambient : Ambient) (kernel : Kernel) (internalId : String) (tx : Tx) (envelope : Envelope)
    (about : Option Nat := none) : Outcome :=
  let registry := kernel.registry.touchPendingAction ambient.clock internalId
  let send := sendEnvelope tx envelope about
  if ambient.accepts tx then { kernel := { kernel with registry }, sends := [send] }
  else
    let aborted := abortStream registry internalId "receiver backpressure"
    { kernel := { kernel with registry := aborted.1 }, sends := send :: aborted.2 }

def handleActionRequestChunk (ambient : Ambient) (kernel : Kernel) (msg : IncomingMessage) (messageId : String)
    (chunk : ActionRequestChunk) : Outcome :=
  let sender := senderId kernel.registry msg.connId
  match kernel.registry.findPendingInternalId ambient.shuffle sender chunk.actionId with
  | none => { kernel }
  | some internalId =>
    match kernel.registry.getPendingAction internalId with
    | none => { kernel }
    | some pending =>
      match kernel.registry.get pending.providerId with
      | some provider => passChunk ambient kernel internalId provider.writeTx
          { messageId, payload := .actionRequestChunk { chunk with actionId := internalId } }
      | none =>
        let aborted := abortStream (kernel.registry.touchPendingAction ambient.clock internalId) internalId
          "provider disconnected"
        { kernel := { kernel with registry := aborted.1 }, sends := aborted.2 }

def handleActionResponseChunk (ambient : Ambient) (kernel : Kernel) (msg : IncomingMessage) (messageId : String)
    (chunk : ActionResponseChunk) : Outcome :=
  match kernel.registry.getByConnId msg.connId with
  | none => { kernel }
  | some sender =>
    match (kernel.registry.getPendingAction chunk.actionId).filter fun pending =>
        pending.providerId == sender.pluginId with
    | none => { kernel }
    | some pending => passChunk ambient kernel chunk.actionId pending.requesterWriteTx
        { messageId, payload := .actionResponseChunk { chunk with actionId := pending.originalActionId } }
        (some pending.serial)

/-- Which entry a `SessionClose` means: the provider uses the internal id, the
requester its own. The flag says that the provider closes. -/
def resolveClose (shuffle : Shuffle String) (registry : Registry) (sender actionId : String) :
    Option (String × PendingAction × Bool) :=
  match (registry.getPendingAction actionId).filter fun pending => pending.providerId == sender with
  | some pending => some (actionId, pending, true)
  | none =>
    match registry.findPendingInternalId shuffle sender actionId with
    | none => none
    | some internalId => (registry.getPendingAction internalId).map fun pending => (internalId, pending, false)

def handleSessionClose (ambient : Ambient) (kernel : Kernel) (msg : IncomingMessage) (messageId : String)
    (close : SessionClose) : Outcome :=
  match kernel.registry.getByConnId msg.connId with
  | none => { kernel, sends := [sendError msg.writeTx .errNotRegistered "not registered"], errored := true }
  | some sender =>
    match resolveClose ambient.shuffle kernel.registry sender.pluginId close.actionId with
    | none => { kernel, sends := [sendError msg.writeTx .errUnknown "no matching session"], errored := true }
    | some (internalId, pending, fromProvider) =>
      if !pending.sessionAccepted then
        { kernel, sends := [sendError msg.writeTx .errUnknown "session not accepted, nothing to close"]
          errored := true }
      else
        { kernel := { kernel with registry := (kernel.registry.takePendingAction internalId).1 }
          sends :=
            if fromProvider then [sendEnvelope pending.requesterWriteTx
              { messageId, payload := .sessionClose { close with actionId := pending.originalActionId } }
              (some pending.serial)]
            else
              match kernel.registry.get pending.providerId with
              | some provider => [sendEnvelope provider.writeTx
                  { messageId, payload := .sessionClose { close with actionId := internalId } }]
              | none => [] }

end Vynkor
