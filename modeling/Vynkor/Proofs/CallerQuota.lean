import Vynkor.Proofs.CallerIdentity
import Vynkor.Proofs.RequesterDeparture

/-! The quota of concurrent actions per caller and provider. The kernel's own arm looks
at it before it registers an action. A request relayed to the host and one forwarded to
a capability of a device are registered without a look. -/

namespace Vynkor
open Lib

section Unchecked
variable (config : Config) (ambient : Ambient) (kernel : Kernel) (msg : IncomingMessage)

/-- The host, if the message is a request that is relayed to it. -/
def relayedTo : Option String :=
  (msg.frame.payload.decode.bind fun envelope => envelope.payload.actionRequest?).bind fun request =>
    if config.bridge = true ∧ msg.connId ≠ bridgeConnIdBase ∧
        callerDenied config kernel.registry (senderId kernel.registry msg.connId) request = false ∧
        (gatedLookup kernel.registry request.action msg.frameAddr).1 = .notFound then
      ((kernel.registry.getByConnId bridgeConnIdBase).filter fun host => ambient.accepts host.writeTx).map
        PluginEntry.pluginId
    else none

/-- The peer, if the message is a request for a capability that is handed to it. -/
def forwardedTo (target : String) : Option String :=
  (kernel.registry.getByConnId msg.connId).bind fun sender =>
    if (muxRequest target msg.frame).isSome && !isErr (forwardGate kernel.registry sender.pluginId target msg.frame) then
      (kernel.registry.getMux target).map PluginEntry.pluginId
    else none

/-- The provider for which the message registers an action without a look at the quota. -/
def uncheckedProvider (target : String) : Option String :=
  if target = "kernel" then relayedTo config ambient kernel msg
  else if target = "*" then none
  else forwardedTo kernel msg target

end Unchecked

/-- A message that registers an action unchecked leaves the quota some room. -/
def withinQuota (config : Config) (system : System) : Input → Bool
  | .message ambient msg =>
    config.ipcLimiter && ambient.ipcLimited || system.throttled config msg ||
      (msg.frame.target.bind (uncheckedProvider config (system.observe ambient) system.kernel msg)).all fun provider =>
        config.actionCallerMaxConcurrent.all fun cap => decide
          (system.kernel.registry.countPendingActionsFor (senderId system.kernel.registry msg.connId) provider < cap)
  | _ => true

/-- No caller has more than `cap` actions in flight with one provider. -/
def Registry.Limited (registry : Registry) (cap : Nat) : Prop :=
  ∀ requester provider, registry.countPendingActionsFor requester provider ≤ cap

namespace Registry.Limited
variable {registry after : Registry} {cap : Nat}

theorem initial (cap : Nat) : Limited {} cap := fun _ _ => Nat.zero_le cap

private theorem descend (limited : registry.Limited cap)
    (descends : ∀ {key pending}, after.pendingActions.get key = some pending →
      ∃ old, registry.pendingActions.get key = some old ∧ old.Same pending) : after.Limited cap := by
  intro requester provider
  apply le_trans _ (limited requester provider)
  apply DashMap.count_le_add []
  intro key pending stored counted
  obtain ⟨old, held, same⟩ := descends stored
  rw [same.requesterId, same.providerId] at counted
  exact .inr ⟨old, held, counted⟩

theorem congr (limited : registry.Limited cap) (pending : after.pendingActions = registry.pendingActions) :
    after.Limited cap :=
  limited.descend fun stored => ⟨_, pending ▸ stored, .refl _⟩

theorem register (limited : registry.Limited cap) (key : String) {pending : PendingAction}
    (below : registry.countPendingActionsFor pending.requesterId pending.providerId < cap) :
    (registry.registerPendingAction key pending).Limited cap := by
  intro requester provider
  by_cases own : pending.requesterId = requester ∧ pending.providerId = provider
  · obtain ⟨rfl, rfl⟩ := own
    apply le_trans _ below
    apply DashMap.count_le_add [key]
    intro other found stored counted
    rcases DashMap.insert_cases stored with ⟨rfl, -⟩ | ⟨-, before⟩
    · exact .inl List.mem_cons_self
    · exact .inr ⟨found, before, counted⟩
  · apply le_trans _ (limited requester provider)
    apply DashMap.count_le_add []
    intro other found stored counted
    rcases DashMap.insert_cases stored with ⟨-, rfl⟩ | ⟨-, before⟩
    · simp only [Bool.and_eq_true, beq_iff_eq] at counted
      exact absurd counted own
    · exact .inr ⟨found, before, counted⟩

end Registry.Limited

theorem Moves.limited {input : Input} {kernel after : Kernel} {sends : List Send} {cap : Nat}
    (moves : Moves input kernel after sends) (limited : kernel.registry.Limited cap) : after.registry.Limited cap :=
  limited.descend moves.descends

section Requests
variable {config : Config} {ambient : Ambient} {kernel : Kernel} {msg : IncomingMessage} {messageId : String}
  {envelope : Envelope} {request : ActionRequest} {cap : Nat}

private theorem Kernel.dispatch_limited {sender providerId : String} (limited : kernel.registry.Limited cap)
    (below : kernel.registry.countPendingActionsFor sender providerId < cap) :
    (kernel.dispatch config ambient msg request sender providerId).registry.Limited cap :=
  limited.register kernel.internalId below

private theorem relayedTo_host {host : PluginEntry} (decoded : msg.frame.payload.decode = some envelope)
    (payload : envelope.payload = .actionRequest request)
    (missing : (gatedLookup kernel.registry request.action msg.frameAddr).1 = .notFound)
    (allowed : callerDenied config kernel.registry (senderId kernel.registry msg.connId) request = false)
    (bridged : config.bridge = true) (inside : msg.connId ≠ bridgeConnIdBase)
    (there : kernel.registry.getByConnId bridgeConnIdBase = some host) (room : ambient.accepts host.writeTx = true) :
    relayedTo config ambient kernel msg = some host.pluginId := by
  simp [relayedTo, decoded, payload, Payload.actionRequest?, missing, allowed, bridged, inside, there, Option.filter, room]

private theorem handleActionRequest_limited (decoded : msg.frame.payload.decode = some envelope)
    (payload : envelope.payload = .actionRequest request) (capped : config.actionCallerMaxConcurrent = some cap)
    (below : ∀ host, relayedTo config ambient kernel msg = some host →
      kernel.registry.countPendingActionsFor (senderId kernel.registry msg.connId) host < cap)
    (limited : kernel.registry.Limited cap) :
    (handleActionRequest config ambient kernel msg messageId request).kernel.registry.Limited cap := by
  obtain ⟨gates, opened⟩ := gatedLookup_registry kernel.registry request.action msg.frameAddr
  have outcome := handleActionRequest_cases config ambient kernel msg messageId request
  generalize handleActionRequest config ambient kernel msg messageId request = result at outcome ⊢
  generalize looked : (gatedLookup kernel.registry request.action msg.frameAddr).1 = lookup at outcome
  generalize denied : callerDenied config kernel.registry (senderId kernel.registry msg.connId) request = refusing at outcome
  rw [opened] at outcome
  have gated : Registry.Limited { kernel.registry with lazyGates := gates } cap := limited.congr rfl
  cases outcome with
  | refused | woken => exact gated
  | delivered provider found guards =>
    apply Registry.Limited.congr _ (Registry.touchUsed_pendingActions ..)
    exact Kernel.dispatch_limited gated (guards.below cap capped)
  | relayed host missing allowed bridged inside there room =>
    apply Kernel.dispatch_limited gated
    apply below
    exact relayedTo_host decoded payload (looked.trans missing) (denied.trans allowed) bridged inside there room
  | withdrawn =>
    -- the entry is taken out again under the key it was stored with
    apply gated.descend
    intro key pending stored
    obtain ⟨apart, held⟩ := DashMap.remove_some.mp stored
    rcases DashMap.insert_cases held with ⟨same, -⟩ | ⟨-, before⟩
    · exact absurd same apart
    · exact ⟨pending, before, .refl pending⟩

private theorem forward_limited {target : String}
    (below : ∀ provider, forwardedTo kernel msg target = some provider →
      kernel.registry.countPendingActionsFor (senderId kernel.registry msg.connId) provider < cap)
    (limited : kernel.registry.Limited cap) : (forward config ambient kernel msg target).kernel.registry.Limited cap := by
  have outcome := forward_cases config ambient kernel msg target
  generalize forward config ambient kernel msg target = result at outcome ⊢
  cases outcome with
  | refused | relayed => exact limited
  | delivered sender entry registered granted resolved =>
    cases wanted : muxRequest target msg.frame with
    | none => exact limited
    | some asked =>
      have unchecked : forwardedTo kernel msg target = some entry.pluginId := by
        simp [forwardedTo, registered, wanted, granted, isErr, resolved]
      have room := below _ unchecked
      rw [senderId_of_getByConnId registered] at room
      exact limited.register asked.actionId room

private theorem routeMessage_limited {target : String} (decoded : msg.frame.payload.decode = some envelope)
    (payload : envelope.payload = .actionRequest request) (capped : config.actionCallerMaxConcurrent = some cap)
    (below : ∀ provider, uncheckedProvider config ambient kernel msg target = some provider →
      kernel.registry.countPendingActionsFor (senderId kernel.registry msg.connId) provider < cap)
    (limited : kernel.registry.Limited cap) :
    (routeMessage config ambient kernel msg target).kernel.registry.Limited cap := by
  unfold uncheckedProvider at below
  unfold routeMessage
  split
  next here =>
    rw [if_pos here] at below
    unfold handleKernelMessage
    simp only [decoded, payload]
    split
    · exact limited
    · exact handleActionRequest_limited decoded payload capped below limited
  next there =>
    rw [if_neg there] at below
    split
    next => rw [(broadcast_cases ambient kernel msg).silent.1]; exact limited
    next single =>
      rw [if_neg single] at below
      exact forward_limited below limited

end Requests

private theorem System.step_limited (config : Config) {cap : Nat} (capped : config.actionCallerMaxConcurrent = some cap)
    (system : System) (input : Input) (within : withinQuota config system input = true)
    (limited : system.kernel.registry.Limited cap) : (system.step config input).kernel.registry.Limited cap := by
  by_cases asks : ∃ ambient msg envelope request, input = .message ambient msg ∧
      msg.frame.payload.decode = some envelope ∧ envelope.payload = .actionRequest request
  · obtain ⟨ambient, msg, envelope, request, rfl, decoded, payload⟩ := asks
    have handles := System.handleMessage_cases config system ambient msg
    change (system.handleMessage config ambient msg).kernel.registry.Limited cap
    generalize system.handleMessage config ambient msg = after at handles ⊢
    cases handles with
    | limited | untargeted | dropped => exact limited
    | routed target unlimited targeted unthrottled =>
      apply routeMessage_limited decoded payload capped _ limited
      intro provider unchecked
      simpa [withinQuota, unlimited, unthrottled, targeted, unchecked, capped] using within
  · obtain ⟨sends, -, step⟩ := System.step_step config system input
    apply Moves.limited (step.moves _) limited
    intro ambient msg envelope request origin decoded payload
    exact asks ⟨ambient, msg, envelope, request, origin, decoded, payload⟩

/-- In every run in which unchecked registrations leave the quota room, no caller has
more actions in flight with a provider than the quota allows. -/
theorem quota_kept (config : Config) (cap : Nat) (capped : config.actionCallerMaxConcurrent = some cap)
    (inputs : List Input)
    (obeys : (System.machine config).Obeys (fun system input => withinQuota config system input = true)
      (System.machine config).init inputs) (requester provider : String) :
    ((System.machine config).run inputs).kernel.registry.countPendingActionsFor requester provider ≤ cap := by
  have kept : ((System.machine config).run inputs).kernel.registry.Limited cap := by
    apply @Machine.Obeys.run_preserves _ _ (System.machine config) (·.kernel.registry.Limited cap) _
      (Registry.Limited.initial cap) _ _ obeys
    intro system input within limited
    exact System.step_limited config capped system input within limited
  exact kept requester provider

def oneAtATime : Config := { actionCallerMaxConcurrent := some 1 }

/-- A caller on connection 2 asks a provider on connection 1 twice. -/
def askedTwice : List Input :=
  [.call (.registerWithDevice ⟨0, 0⟩ "host" 1 { actions := ["watch"] } 1 {}),
   .call (.registerWithDevice ⟨0, 0⟩ "app" 2 {} 2 {}),
   toKernel 2 (.actionRequest { actionId := "1", action := "watch" }),
   toKernel 2 (.actionRequest { actionId := "2", action := "watch" })]

theorem quota_kept_askedTwice :
    let registry := ((System.machine oneAtATime).run askedTwice).kernel.registry
    registry.pendingActions.keys.length = 1 ∧ registry.countPendingActionsFor "app" "host" ≤ 1 :=
  ⟨by decide +kernel, quota_kept oneAtATime 1 rfl askedTwice (by decide +kernel) "app" "host"⟩

def capabilityCall (actionId : String) : Input :=
  .message {} { connId := 2, writeTx := 2, frame :=
    { target := some "dev.cam", payload := .envelope { payload := .actionRequest { actionId, action := "" } } } }

/-- Two requests forwarded to a device are both in flight, and so are two that are
relayed to the host, though the quota is one. -/
theorem quota_exceeded :
    let forwarded := ((System.machine oneAtATime).run
      [.call (.registerDevice ⟨0, 0⟩ "dev" 1 ["cam"] {} 1 { deviceId := "dev" }),
       .call (.registerWithDevice ⟨0, 0⟩ "app" 2 { permissions := ["ipc_send"], ipcTargets := ["dev"] } 2 {}),
       capabilityCall "1", capabilityCall "2"]).kernel.registry
    let relayed := ((System.machine { oneAtATime with bridge := true }).run
      [.call (.registerWithDevice ⟨0, 0⟩ "home" bridgeConnIdBase {} 1 {}),
       .call (.registerWithDevice ⟨0, 0⟩ "app" 2 {} 2 {}),
       toKernel 2 (.actionRequest { actionId := "1", action := "light" }),
       toKernel 2 (.actionRequest { actionId := "2", action := "light" })]).kernel.registry
    forwarded.countPendingActionsFor "app" "dev" = 2 ∧ relayed.countPendingActionsFor "app" "home" = 2 := by
  decide +kernel

end Vynkor
