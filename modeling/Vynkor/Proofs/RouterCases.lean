import Vynkor.Proofs.RegistryCalls
import Vynkor.System

/-! The outcomes of the router loop and of its larger handlers, each read off once: a
message, a request to the kernel, a frame for one peer and a frame for all of them. -/

namespace Vynkor
open Lib

theorem ok_of_isErr {ε : Type} {result : Except ε Unit} (fine : isErr result = false) : result = .ok () := by
  cases result with
  | error reason => cases fine
  | ok value => rfl

theorem EventBus.mem_publish {shuffle : Shuffle String} {bus : EventBus} {event : Event} {registry : Registry} {send : Send}
    (member : send ∈ bus.publish shuffle event registry) :
    ∃ tx, send = sendEnvelope tx { payload := .event event } := by
  obtain ⟨pluginId, -, found⟩ := List.mem_filterMap.mp member
  obtain ⟨entry, -, rfl⟩ := Option.map_eq_some_iff.mp found
  exact ⟨entry.writeTx, rfl⟩

theorem mem_evictStale {ambient : Ambient} {kernel : Kernel} {pluginId : String} {send : Send}
    (member : send ∈ (evictStale ambient kernel pluginId).2) :
    (∃ reason pending, send = Registry.providerGoneNotice reason pending) ∨
      ∃ tx event, send = sendEnvelope tx { payload := .event event } := by
  unfold evictStale at member
  split at member
  · cases member
  · split at member
    · simp only at member
      split at member
      · rcases List.mem_append.mp member with notice | event
        · exact .inl (Registry.mem_unregisterIf_sends notice)
        · obtain ⟨tx, sent⟩ := EventBus.mem_publish event
          exact .inr ⟨tx, _, sent⟩
      · exact .inl (Registry.mem_unregisterIf_sends member)
    · cases member

/-- The entry that a registration writes, where both of its slots are free. -/
structure Enlisted (registry : Registry) (msg : IncomingMessage) (register : PluginRegister) (manifest : PluginManifest)
    (entry : PluginEntry) : Prop where
  id : entry.pluginId = register.pluginId
  conn : entry.connId = msg.connId
  channel : entry.writeTx = msg.writeTx
  permissions : entry.manifest.permissions = manifest.permissions
  device : register.deviceId ≠ "" → entry.deviceId = register.deviceId
  freeConn : registry.byConnId.get entry.connId = none
  freeId : registry.byPluginId.get entry.pluginId = none

theorem enlist_cases (registry : Registry) (clock : Clock) (msg : IncomingMessage) (register : PluginRegister)
    (manifest : PluginManifest) :
    (∃ error, enlist registry clock msg register manifest = (registry, .error error)) ∨
      ∃ entry info capabilities, Enlisted registry msg register manifest entry ∧
        enlist registry clock msg register manifest = (registry.enroll clock entry info capabilities, .ok ()) := by
  unfold enlist
  split
  next mux =>
    have same : register.deviceId = register.pluginId := by
      simp only [PluginRegister.isMuxDevice, Bool.and_eq_true, beq_iff_eq] at mux
      exact mux.2.symm
    rcases registry.registerDevice_cases clock register.deviceId msg.connId register.capabilities manifest msg.writeTx
      register.deviceMeta with refused | ⟨-, -, freeConn, freeId, enrolled⟩
    · exact .inl refused
    · exact .inr ⟨_, _, _, ⟨same, rfl, rfl, rfl, fun named => if_neg named, freeConn, freeId⟩, enrolled⟩
  next =>
    rcases registry.registerWithDevice_cases clock register.pluginId msg.connId manifest msg.writeTx
      register.deviceMeta with refused | ⟨-, -, freeConn, freeId, enrolled⟩
    · exact .inl refused
    · exact .inr ⟨_, _, _, ⟨rfl, rfl, rfl, rfl, fun named => if_neg named, freeConn, freeId⟩, enrolled⟩

namespace System
variable (config : Config) (system : System) (ambient : Ambient) (msg : IncomingMessage)

def routed (target : String) : System :=
  { system with
    kernel := (routeMessage config (system.observe ambient) system.kernel msg target).kernel
    errorCounts := charge config ambient.clock.now system.errorCounts msg.connId
      (routeMessage config (system.observe ambient) system.kernel msg target).errored
    wakes := system.wakes ++ (routeMessage config (system.observe ambient) system.kernel msg target).wake.toList }.deliver
      (routeMessage config (system.observe ambient) system.kernel msg target).sends

/-- What the router loop does with a message: refuse it, drop it or route it. -/
inductive Handles : System → Prop
  | limited (limit : (config.ipcLimiter && ambient.ipcLimited) = true) :
      Handles (system.deliver [sendError msg.writeTx .errRateLimited "IPC rate limit exceeded"])
  | untargeted (unlimited : (config.ipcLimiter && ambient.ipcLimited) = false) (missing : msg.frame.target = none) :
      Handles (system.deliver [sendError msg.writeTx .errUnknown "invalid UTF-8 in frame target"])
  | dropped (target : String) (unlimited : (config.ipcLimiter && ambient.ipcLimited) = false)
      (targeted : msg.frame.target = some target) (spent : system.throttled config msg = true) : Handles system
  | routed (target : String) (unlimited : (config.ipcLimiter && ambient.ipcLimited) = false)
      (targeted : msg.frame.target = some target) (within : system.throttled config msg = false) :
      Handles (system.routed config ambient msg target)

theorem handleMessage_cases : Handles config system ambient msg (system.handleMessage config ambient msg) := by
  unfold handleMessage
  simp only
  split
  next limit => exact .limited limit
  next unlimited =>
    have unlimited : (config.ipcLimiter && ambient.ipcLimited) = false := Bool.eq_false_iff.mpr unlimited
    split
    next missing => exact .untargeted unlimited missing
    next target targeted =>
      split
      next spent => exact .dropped target unlimited targeted spent
      next within => exact .routed target unlimited targeted (Bool.eq_false_iff.mpr within)

theorem handleMessage_routed {target : String} (unlimited : (config.ipcLimiter && ambient.ipcLimited) = false)
    (targeted : msg.frame.target = some target) (within : system.throttled config msg = false) :
    system.handleMessage config ambient msg = system.routed config ambient msg target := by
  have limit : (config.ipcLimiter && (system.observe ambient).ipcLimited) = false := unlimited
  unfold handleMessage
  simp only [limit, targeted, within, Bool.false_eq_true, if_false]
  rfl

end System

section Requests
variable (config : Config) (ambient : Ambient)

/-- A request that is handed to a provider has passed every guard. -/
structure Guarded (registry : Registry) (sender : String) (provider : PluginEntry) (action : String) : Prop where
  permitted : lacksPermission registry sender provider.pluginId true action = false
  below : ∀ cap, config.actionCallerMaxConcurrent = some cap →
    registry.countPendingActionsFor sender provider.pluginId < cap

theorem guarded_cases (registry : Registry) (sender providerId : String) (live : Bool) (action : String) (next : Route) :
    guarded config ambient registry sender providerId live action next = .forbidden ∨
    guarded config ambient registry sender providerId live action next = .quota ∨
    guarded config ambient registry sender providerId live action next = next ∧
      lacksPermission registry sender providerId live action = false ∧
      ∀ cap, config.actionCallerMaxConcurrent = some cap → registry.countPendingActionsFor sender providerId < cap := by
  unfold guarded
  split
  · exact .inl rfl
  next permitted =>
    split
    · exact .inr (.inl rfl)
    next below =>
      split
      · exact .inr (.inl rfl)
      · refine .inr (.inr ⟨rfl, Bool.eq_false_iff.mpr permitted, fun cap limited => ?_⟩)
        simpa [limited] using below

theorem chooseRoute_cases (registry : Registry) (sender : String) (denied : Bool) (lookup : ActionLookup)
    (action : String) :
    let route := chooseRoute config ambient registry sender denied lookup action
    (∃ provider, route = .deliver provider ∧ lookup = .found provider ∧ Guarded config registry sender provider action) ∨
    route = .missing ∧ lookup = .notFound ∧ denied = false ∨
    (∃ id, route = .wake id ∧ lookup = .dormant id) ∨
    route ∈ [.denied, .ambiguous, .forbidden, .quota] := by
  intro route
  unfold route chooseRoute
  split
  · simp
  next allowed =>
    split
    · exact .inr (.inl ⟨rfl, rfl, Bool.eq_false_iff.mpr allowed⟩)
    · simp
    next provider =>
      rcases guarded_cases config ambient registry sender provider.pluginId true action (.deliver provider) with
        forbidden | quota | ⟨passed, permitted, below⟩
      · simp [forbidden]
      · simp [quota]
      · exact .inl ⟨provider, passed, rfl, permitted, below⟩
    next id =>
      rcases guarded_cases config ambient registry sender id false action (.wake id) with
        forbidden | quota | ⟨passed, -⟩
      · simp [forbidden]
      · simp [quota]
      · exact .inr (.inr (.inl ⟨id, passed, rfl⟩))

variable (kernel : Kernel) (msg : IncomingMessage) (messageId : String) (request : ActionRequest)

/-- The outcomes of a request to the kernel, from the state after the gate was asked. -/
inductive Requests (sender caller : String) (denied : Bool) (lookup : ActionLookup) : Outcome → Prop
  | refused (status : ActionStatus) (error : Option String) : Requests sender caller denied lookup
      { kernel, sends := [refuse kernel msg messageId request status error] }
  | woken (pluginId : String) (asleep : lookup = .dormant pluginId) :
      Requests sender caller denied lookup { kernel, wake := some ⟨pluginId, msg⟩ }
  | delivered (provider : PluginEntry) (found : lookup = .found provider)
      (guards : Guarded config kernel.registry sender provider request.action) : Requests sender caller denied lookup
      { kernel := { kernel.dispatch config ambient msg request sender provider.pluginId with
          registry := (kernel.dispatch config ambient msg request sender provider.pluginId).registry.touchUsed
            ambient.clock provider.pluginId }
        sends := [sendEnvelope provider.writeTx (forwardedRequest messageId request kernel.internalId caller)] }
  | relayed (host : PluginEntry) (missing : lookup = .notFound) (allowed : denied = false) (bridged : config.bridge = true)
      (inside : msg.connId ≠ bridgeConnIdBase) (there : kernel.registry.getByConnId bridgeConnIdBase = some host)
      (room : ambient.accepts host.writeTx = true) : Requests sender caller denied lookup
      { kernel := kernel.dispatch config ambient msg request sender host.pluginId
        sends := [sendEnvelope host.writeTx (forwardedRequest messageId request kernel.internalId sender)] }
  | withdrawn (host : PluginEntry) (missing : lookup = .notFound) (allowed : denied = false) (bridged : config.bridge = true)
      (inside : msg.connId ≠ bridgeConnIdBase) (there : kernel.registry.getByConnId bridgeConnIdBase = some host)
      (full : ambient.accepts host.writeTx = false) : Requests sender caller denied lookup
      { kernel := { kernel.dispatch config ambient msg request sender host.pluginId with
          registry := ((kernel.dispatch config ambient msg request sender host.pluginId).registry.takePendingAction
            kernel.internalId).1 }
        sends := [sendEnvelope host.writeTx (forwardedRequest messageId request kernel.internalId sender),
          refuse { kernel.dispatch config ambient msg request sender host.pluginId with
            registry := ((kernel.dispatch config ambient msg request sender host.pluginId).registry.takePendingAction
              kernel.internalId).1 } msg messageId request .actionNotFound none (some kernel.issued.length)] }

private theorem relayActionToHost_cases (sender caller : String) :
    let relay := relayActionToHost config ambient kernel msg messageId request sender
    Requests config ambient kernel msg messageId request sender caller false .notFound
      { kernel := relay.kernel, sends := relay.sends ++
          if relay.relayed then [] else [refuse relay.kernel msg messageId request .actionNotFound none relay.about] } := by
  unfold relayActionToHost
  split
  · exact .refused .actionNotFound none
  next able =>
    simp only [Bool.or_eq_true, Bool.not_eq_true', beq_iff_eq, not_or, Bool.not_eq_false] at able
    cases there : kernel.registry.getByConnId bridgeConnIdBase with
    | none => exact .refused .actionNotFound none
    | some host =>
      simp only
      split
      next room => exact .relayed host rfl rfl able.1 able.2 there room
      next full => exact .withdrawn host rfl rfl able.1 able.2 there (Bool.eq_false_iff.mpr full)

theorem handleActionRequest_cases :
    Requests config ambient { kernel with registry := (gatedLookup kernel.registry request.action msg.frameAddr).2 } msg
      messageId request (senderId kernel.registry msg.connId)
      (callerId kernel.registry (senderId kernel.registry msg.connId) request)
      (callerDenied config kernel.registry (senderId kernel.registry msg.connId) request)
      (gatedLookup kernel.registry request.action msg.frameAddr).1
      (handleActionRequest config ambient kernel msg messageId request) := by
  unfold handleActionRequest
  generalize gatedLookup kernel.registry request.action msg.frameAddr = looked
  rcases chooseRoute_cases config ambient looked.2 (senderId kernel.registry msg.connId)
    (callerDenied config kernel.registry (senderId kernel.registry msg.connId) request) looked.1 request.action with
    ⟨provider, deliver, found, guards⟩ | ⟨missing, notFound, allowed⟩ | ⟨id, wake, asleep⟩ | refused
  · simp only [deliver]
    exact @Requests.delivered config ambient { kernel with registry := looked.2 } msg messageId request _ _ _ _
      provider found guards
  · simp only [missing]
    rw [notFound, allowed]
    exact relayActionToHost_cases config ambient { kernel with registry := looked.2 } msg messageId request _ _
  · simp only [wake]
    split
    · exact .woken id asleep
    · exact .refused _ _
  · simp only [List.mem_cons, List.not_mem_nil, or_false] at refused
    rcases refused with route | route | route | route
    · simp only [route]
      exact .refused _ _
    · simp only [route]
      exact .refused _ _
    · simp only [route]
      exact .refused _ _
    · simp only [route]
      exact .refused _ _

/-- What holds of refusals, and of the request under the name of its sender or of the caller it
stands for, holds of everything that is sent. -/
theorem handleActionRequest_sends {property : Send → Prop}
    (refused : ∀ current status error about, property (refuse current msg messageId request status error about))
    (forwarded : ∀ tx key caller, caller = senderId kernel.registry msg.connId ∨
      caller = callerId kernel.registry (senderId kernel.registry msg.connId) request →
      property (sendEnvelope tx (forwardedRequest messageId request key caller))) :
    ∀ send ∈ (handleActionRequest config ambient kernel msg messageId request).sends, property send := by
  have outcome := handleActionRequest_cases config ambient kernel msg messageId request
  generalize handleActionRequest config ambient kernel msg messageId request = result at outcome ⊢
  intro send member
  cases outcome with
  | refused =>
    cases List.mem_singleton.mp member
    exact refused _ _ _ _
  | woken pluginId => cases member
  | delivered =>
    cases List.mem_singleton.mp member
    exact forwarded _ _ _ (.inr rfl)
  | relayed =>
    cases List.mem_singleton.mp member
    exact forwarded _ _ _ (.inl rfl)
  | withdrawn =>
    rcases List.mem_cons.mp member with rfl | rest
    · exact forwarded _ _ _ (.inl rfl)
    · cases List.mem_singleton.mp rest
      exact refused _ _ _ _

end Requests

section Peers
variable (config : Config) (ambient : Ambient) (kernel : Kernel) (msg : IncomingMessage) (target : String)

/-- The outcomes of a frame for one peer. -/
inductive Forwards : Outcome → Prop
  | refused (code : ErrorCode) (reason : String)
      (stopped : ∀ sender, kernel.registry.getByConnId msg.connId = some sender →
        forwardGate kernel.registry sender.pluginId target msg.frame = .ok () →
        kernel.registry.getMux target = none ∧ (config.bridge = true → kernel.bridgeConns = [])) :
      Forwards { kernel, sends := [sendError msg.writeTx code reason], errored := true }
  | delivered (sender entry : PluginEntry) (registered : kernel.registry.getByConnId msg.connId = some sender)
      (granted : forwardGate kernel.registry sender.pluginId target msg.frame = .ok ())
      (resolved : kernel.registry.getMux target = some entry) : Forwards
      { kernel := match muxRequest target msg.frame with
          | some request => kernel.issue msg.connId request.actionId
              (newPending ambient kernel msg request sender.pluginId entry.pluginId 30000)
          | none => kernel
        sends := [⟨entry.writeTx, .frame msg.frame.stripMac, none⟩] }
  | relayed (sender : PluginEntry) (tx : Tx) (registered : kernel.registry.getByConnId msg.connId = some sender)
      (granted : forwardGate kernel.registry sender.pluginId target msg.frame = .ok ())
      (missing : kernel.registry.getMux target = none) (bridged : config.bridge = true)
      (live : kernel.bridgeConns.head? = some tx) (rest : List Send) (errored : Bool)
      (left : rest = [] ∧ errored = false ∨
        rest = [sendError msg.writeTx .errUnknown "plugin not found"] ∧ errored = true)
      (taken : ambient.accepts tx = true ↔ rest = []) : Forwards
      { kernel, sends := ⟨tx, .frame msg.frame.stripMac, none⟩ :: rest, errored }

theorem forward_cases : Forwards config ambient kernel msg target (forward config ambient kernel msg target) := by
  unfold forward
  cases registered : kernel.registry.getByConnId msg.connId with
  | none => exact .refused _ _ fun sender found => by rw [registered] at found; cases found
  | some sender =>
    simp only
    cases granted : forwardGate kernel.registry sender.pluginId target msg.frame with
    | error reason =>
      refine .refused _ _ fun other found passed => ?_
      rw [registered] at found
      cases found
      rw [granted] at passed
      cases passed
    | ok passed =>
      simp only
      cases resolved : kernel.registry.getMux target with
      | some entry => exact .delivered sender entry registered granted resolved
      | none =>
        cases bridged : config.bridge with
        | false => exact .refused _ _ fun _ _ _ => ⟨resolved, fun bridge => by rw [bridged] at bridge; cases bridge⟩
        | true =>
          unfold relayToHost
          cases live : kernel.bridgeConns with
          | nil => exact .refused _ _ fun _ _ _ => ⟨resolved, fun _ => live⟩
          | cons tx others =>
            simp only [List.head?_cons]
            have head : kernel.bridgeConns.head? = some tx := by rw [live]; rfl
            cases room : ambient.accepts tx with
            | true =>
              exact .relayed sender tx registered granted resolved bridged head [] false (.inl ⟨rfl, rfl⟩) (by simp [room])
            | false =>
              exact .relayed sender tx registered granted resolved bridged head [_] true (.inr ⟨rfl, rfl⟩) (by simp [room])

/-- The outcomes of a frame for everyone. -/
inductive Broadcasts : Outcome → Prop
  | refused (code : ErrorCode) (reason : String) :
      Broadcasts { kernel, sends := [sendError msg.writeTx code reason], errored := true }
  | delivered (sender : PluginEntry) (registered : kernel.registry.getByConnId msg.connId = some sender)
      (allowed : isErr (checkIpcSend kernel.registry sender.pluginId) = false)
      (audible : (rawBinary msg.frame &&
        isErr (checkPermission kernel.registry sender.pluginId .permissionAudioStream)) = false) : Broadcasts
      { kernel, sends := ((kernel.registry.list ambient.shuffle).filter fun entry =>
          entry.connId != msg.connId && !isErr (checkIpcTarget kernel.registry sender.pluginId entry.pluginId)).map
          fun entry => ⟨entry.writeTx, .frame msg.frame.stripMac, none⟩ }

theorem broadcast_cases : Broadcasts ambient kernel msg (broadcast ambient kernel msg) := by
  unfold broadcast
  split
  · exact .refused _ _
  next sender registered =>
    simp only
    split
    · exact .refused _ _
    next allowed =>
      split
      · exact .refused _ _
      next audible => exact .delivered sender registered (Bool.eq_false_iff.mpr allowed) (Bool.eq_false_iff.mpr audible)

end Peers

section Streams
variable (ambient : Ambient) (kernel : Kernel) (msg : IncomingMessage) (messageId : String)

/-- Only pending actions change, and when a plugin was last used. -/
def Registry.Tended (registry after : Registry) : Prop :=
  ∃ pendingActions lastUsed, after = { registry with pendingActions, lastUsed }

namespace Registry.Tended
variable {registry after : Registry} (tended : registry.Tended after)
include tended

theorem touchUsed (clock : Clock) (pluginId : String) : registry.Tended (after.touchUsed clock pluginId) := by
  obtain ⟨_, _, rfl⟩ := tended
  unfold Registry.touchUsed
  split <;> exact ⟨_, _, rfl⟩

theorem abortStream (internalId reason : String) : registry.Tended (abortStream after internalId reason).1 := by
  obtain ⟨_, _, rfl⟩ := tended
  unfold Vynkor.abortStream
  split
  next left taken => exact ⟨_, _, (congrArg Prod.fst taken).symm⟩
  next left pending taken => exact ⟨_, _, (congrArg Prod.fst taken).symm⟩

end Registry.Tended

/-- What a reply, a chunk or a close does besides what it sends. -/
def Attends (outcome : Outcome) : Prop :=
  outcome.wake = none ∧ ∃ registry, kernel.registry.Tended registry ∧ outcome.kernel = { kernel with registry }

variable {kernel} in
private theorem Attends.of_tended {registry : Registry} (tended : kernel.registry.Tended registry) {sends : List Send}
    {errored : Bool} : Attends kernel { kernel := { kernel with registry }, sends, errored } :=
  ⟨rfl, registry, tended, rfl⟩

theorem handleActionResponse_attends (response : ActionResponse) :
    Attends kernel (handleActionResponse ambient kernel msg messageId response) := by
  unfold handleActionResponse
  cases kernel.registry.getByConnId msg.connId with
  | none => exact .of_tended ⟨_, _, rfl⟩
  | some sender =>
    rcases kernel.registry.resolveActionResponse_cases ambient.clock response.actionId sender.pluginId
      (response.status == .actionOk) with ⟨-, dropped⟩ | ⟨pending, -, -, ⟨-, -, accepted⟩ | ⟨-, taken⟩⟩
    · simp only [dropped]
      exact .of_tended ⟨_, _, rfl⟩
    · simp only [accepted]
      exact .of_tended (.touchUsed ⟨_, _, rfl⟩ _ _)
    · simp only [taken]
      exact .of_tended (.touchUsed ⟨_, _, rfl⟩ _ _)

private theorem passChunk_attends (internalId : String) (tx : Tx) (envelope : Envelope) (about : Option Nat) :
    Attends kernel (passChunk ambient kernel internalId tx envelope about) := by
  unfold passChunk
  simp only
  split
  · exact .of_tended ⟨_, _, rfl⟩
  · exact .of_tended (.abortStream ⟨_, _, rfl⟩ _ _)

theorem handleActionRequestChunk_attends (chunk : ActionRequestChunk) :
    Attends kernel (handleActionRequestChunk ambient kernel msg messageId chunk) := by
  unfold handleActionRequestChunk
  simp only
  split
  · exact .of_tended ⟨_, _, rfl⟩
  · split
    · exact .of_tended ⟨_, _, rfl⟩
    · split
      · exact passChunk_attends ..
      · exact .of_tended (.abortStream ⟨_, _, rfl⟩ _ _)

theorem handleActionResponseChunk_attends (chunk : ActionResponseChunk) :
    Attends kernel (handleActionResponseChunk ambient kernel msg messageId chunk) := by
  unfold handleActionResponseChunk
  split
  · exact .of_tended ⟨_, _, rfl⟩
  · split
    · exact .of_tended ⟨_, _, rfl⟩
    · exact passChunk_attends ..

theorem handleSessionClose_attends (close : SessionClose) :
    Attends kernel (handleSessionClose ambient kernel msg messageId close) := by
  unfold handleSessionClose
  split
  · exact .of_tended ⟨_, _, rfl⟩
  · split
    · exact .of_tended ⟨_, _, rfl⟩
    · split <;> exact .of_tended ⟨_, _, rfl⟩

end Streams

end Vynkor
