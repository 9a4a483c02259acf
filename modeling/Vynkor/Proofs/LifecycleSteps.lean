import Vynkor.Lifecycle
import Vynkor.Proofs.RegistryShape
import Vynkor.Proofs.RouterCases

/-! What the steps of the kernel do to registrations and subscriptions. Every message that is
neither a registration, a subscription nor a publish leaves them alone. -/

namespace Vynkor
open Lib

/-- Who is registered, the subscriptions and the number of the next plugin event. -/
structure Standing where
  plugins : DashMap String PluginEntry
  conns : DashMap ConnId String
  bus : EventBus
  eventSeq : UInt64

def Standing.getByConnId (standing : Standing) (connId : ConnId) : Option PluginEntry :=
  match standing.conns.get connId with
  | some pluginId => standing.plugins.get pluginId
  | none => none

def Registry.seats (registry : Registry) : DashMap String PluginEntry × DashMap ConnId String :=
  (registry.byPluginId, registry.byConnId)

def Kernel.standing (kernel : Kernel) : Standing :=
  ⟨kernel.registry.byPluginId, kernel.registry.byConnId, kernel.bus, kernel.eventSeq⟩

private theorem Kernel.standing_congr {kernel after : Kernel} (seats : after.registry.seats = kernel.registry.seats)
    (bus : after.bus = kernel.bus) (eventSeq : after.eventSeq = kernel.eventSeq) : after.standing = kernel.standing := by
  have plugins : after.registry.byPluginId = kernel.registry.byPluginId := congrArg Prod.fst seats
  have conns : after.registry.byConnId = kernel.registry.byConnId := congrArg Prod.snd seats
  unfold standing
  rw [plugins, conns, bus, eventSeq]

namespace Registry
variable (registry : Registry)

private theorem touchUsed_seats (clock : Clock) (pluginId : String) : (registry.touchUsed clock pluginId).seats = registry.seats := by
  unfold touchUsed
  split <;> rfl

private theorem lazyGatePasses_seats (pluginId : String) (frameAddr : Nat) :
    (registry.lazyGatePasses pluginId frameAddr).2.seats = registry.seats := by
  unfold lazyGatePasses
  split <;> rfl

end Registry

section Handlers
variable (config : Config) (ambient : Ambient) (kernel : Kernel) (msg : IncomingMessage) (messageId : String)

private theorem gatedLookup_seats (registry : Registry) (action : String) (frameAddr : Nat) :
    (gatedLookup registry action frameAddr).2.seats = registry.seats := by
  unfold gatedLookup
  split
  next provider found => exact registry.lazyGatePasses_seats ..
  next => rfl

private theorem relayActionToHost_standing (request : ActionRequest) (sender : String) :
    (relayActionToHost config ambient kernel msg messageId request sender).kernel.standing = kernel.standing := by
  unfold relayActionToHost
  split
  · rfl
  · split
    · rfl
    · dsimp only
      split <;> rfl

private theorem handleActionRequest_standing (request : ActionRequest) :
    (handleActionRequest config ambient kernel msg messageId request).kernel.standing = kernel.standing := by
  have looked : Kernel.standing { kernel with registry := (gatedLookup kernel.registry request.action msg.frameAddr).2 } =
      kernel.standing := Kernel.standing_congr (gatedLookup_seats ..) rfl rfl
  unfold handleActionRequest
  dsimp only
  split
  next => exact looked
  next => exact (relayActionToHost_standing ..).trans looked
  next => exact looked
  next => exact looked
  next => exact looked
  next =>
    split <;> exact looked
  next provider _ =>
    refine Eq.trans ?_ looked
    exact Kernel.standing_congr (Registry.touchUsed_seats _ _ _) rfl rfl

theorem Attends.standing {kernel : Kernel} {outcome : Outcome} (attends : Attends kernel outcome) :
    outcome.kernel.standing = kernel.standing := by
  obtain ⟨-, _, ⟨_, _, rfl⟩, same⟩ := attends
  rw [same]
  rfl

private theorem forward_standing (target : String) : (forward config ambient kernel msg target).kernel.standing = kernel.standing := by
  unfold forward
  split
  · rfl
  · split
    · rfl
    · split
      · dsimp only
        split <;> rfl
      · dsimp only
        generalize (if config.bridge = true then relayToHost ambient kernel msg.frame else ([], false)) = relay
        split <;> rfl

private theorem broadcast_standing : (broadcast ambient kernel msg).kernel.standing = kernel.standing := by
  unfold broadcast
  split
  · rfl
  · dsimp only
    split
    · rfl
    · split <;> rfl

theorem pruneTick_standing : (pruneTick config ambient kernel).kernel.standing = kernel.standing := by
  unfold pruneTick
  dsimp only
  split <;> rfl

end Handlers

def Payload.isUnsubscribe : Payload → Bool
  | .unsubscribe _ => true
  | _ => false

def IncomingMessage.unsubscribes (msg : IncomingMessage) : Bool :=
  match msg.frame.payload.decode with
  | none => false
  | some envelope => envelope.payload.isUnsubscribe

def IncomingMessage.asked (msg : IncomingMessage) : Option Payload := msg.frame.payload.decode.map Envelope.payload

/-- One part of the router's step, and what it publishes. -/
inductive Shift (ambient : Ambient) (msg : IncomingMessage) (standing : Standing) : List Publication → Standing → Prop
  | publish (sender eventType : String) (payloadJson : Bytes) :
      Shift ambient msg standing [.plugin sender ambient.clock standing.eventSeq eventType payloadJson]
        { standing with eventSeq := standing.eventSeq + 1 }
  | subscribe (entry : PluginEntry) (eventTypes : List String) (found : standing.getByConnId msg.connId = some entry)
      (asked : msg.asked = some (.subscribe eventTypes)) :
      Shift ambient msg standing [] { standing with bus := standing.bus.subscribe entry.pluginId eventTypes }
  | unsubscribe (entry : PluginEntry) (eventTypes : List String) (asks : msg.unsubscribes = true)
      (found : standing.getByConnId msg.connId = some entry) :
      Shift ambient msg standing [] { standing with bus := standing.bus.unsubscribe entry.pluginId eventTypes }
  | leave (pluginId : String) (entry : PluginEntry) (payload : EventPayload) (quiet : msg.unsubscribes = false)
      (held : standing.plugins.get pluginId = some entry) (asked : ∃ register, msg.asked = some (.pluginRegister register)) :
      Shift ambient msg standing [.left entry.connId pluginId ambient.clock payload] { standing with
        plugins := standing.plugins.remove pluginId
        conns := standing.conns.remove entry.connId
        bus := standing.bus.unsubscribeAll pluginId }
  | join (entry : PluginEntry) (payload : EventPayload) (quiet : msg.unsubscribes = false)
      (freeConn : standing.conns.get entry.connId = none) (freeId : standing.plugins.get entry.pluginId = none)
      (comes : entry.connId = msg.connId ∧ entry.writeTx = msg.writeTx) :
      Shift ambient msg standing [.joined entry.connId entry.pluginId ambient.clock payload] { standing with
        plugins := standing.plugins.insert entry.pluginId entry
        conns := standing.conns.insert entry.connId entry.pluginId }

/-- The parts of a step, in order. -/
inductive Shifts (ambient : Ambient) (msg : IncomingMessage) : Standing → List Publication → Standing → Prop
  | none (standing : Standing) : Shifts ambient msg standing [] standing
  | more {standing middle after : Standing} {first last : List Publication}
      (shift : Shift ambient msg standing first middle) (rest : Shifts ambient msg middle last after) :
      Shifts ambient msg standing (first ++ last) after

namespace Shifts
variable {ambient : Ambient} {msg : IncomingMessage} {standing middle after : Standing} {first last : List Publication}

theorem one (shift : Shift ambient msg standing first after) : Shifts ambient msg standing first after := by
  have shifts := more shift (none after)
  rw [List.append_nil] at shifts
  exact shifts

theorem append (early : Shifts ambient msg standing first middle) (late : Shifts ambient msg middle last after) :
    Shifts ambient msg standing (first ++ last) after := by
  induction early with
  | none => exact late
  | more shift rest ih =>
    rw [List.append_assoc]
    exact more shift (ih late)

end Shifts

section Router
variable (config : Config) (ambient : Ambient) (kernel : Kernel) (msg : IncomingMessage) (messageId : String)

private theorem evictStale_shifts (quiet : msg.unsubscribes = false)
    (asked : ∃ register, msg.asked = some (.pluginRegister register)) (pluginId : String) :
    Shifts ambient msg kernel.standing (evictStalePublications ambient kernel pluginId)
      (evictStale ambient kernel pluginId).1.standing := by
  unfold evictStalePublications evictStale
  cases held : kernel.registry.get pluginId with
  | none => exact .none _
  | some entry =>
    dsimp only
    by_cases closed : ambient.closed entry.writeTx = true
    · rw [if_pos closed, closed, Bool.true_and]
      rcases kernel.registry.unregisterIf_cases ambient.shuffle pluginId (fun entry => ambient.closed entry.writeTx) with
        kept | ⟨other, there, -, removed⟩
      · unfold Registry.unregisterIfDead
        rw [kept]
        exact .none _
      · unfold Registry.unregisterIfDead
        rw [removed]
        cases held.symm.trans there
        exact .one (.leave pluginId entry _ quiet held asked)
    · rw [if_neg closed, Bool.eq_false_iff.mpr closed, Bool.false_and]
      exact .none _

private theorem handlePluginRegister_shifts (quiet : msg.unsubscribes = false) {register : PluginRegister}
    (asked : msg.asked = some (.pluginRegister register)) :
    Shifts ambient msg kernel.standing (pluginRegisterPublications config ambient kernel msg register)
      (handlePluginRegister config ambient kernel msg messageId register).kernel.standing := by
  unfold pluginRegisterPublications handlePluginRegister
  dsimp only
  generalize (if register.protocolVersion = "" then ProtocolCheck.supported
    else checkProtocolVersion config register.protocolVersion) = check
  cases check with
  | rejected reason => exact .none _
  | supported | newerMinor =>
    dsimp only
    cases authenticate config ambient.clock register (register.manifest.getD {}) with
    | error reason => exact .none _
    | ok manifest =>
      dsimp only
      cases deviceSecret config ambient register with
      | error reason => exact .none _
      | ok secret =>
        dsimp only
        have evicted := evictStale_shifts ambient kernel msg quiet ⟨register, asked⟩ register.pluginId
        rcases enlist_cases (evictStale ambient kernel register.pluginId).1.registry ambient.clock msg register
          (clampPermissions config register.pluginId manifest) with
          ⟨error, refused⟩ | ⟨entry, info, capabilities, ⟨id, conn, channel, -, -, freeConn, freeId⟩, enrolled⟩
        · rw [refused]
          dsimp only
          rw [List.append_nil]
          exact evicted
        · rw [enrolled]
          dsimp only
          rw [← conn, ← id]
          rw [← id] at evicted freeConn freeId
          exact evicted.append (.one (.join entry _ quiet freeConn freeId ⟨conn, channel⟩))

private theorem handleEventPublish_shifts (eventType : String) (payloadJson : Bytes) :
    Shifts ambient msg kernel.standing (eventPublishPublications ambient kernel msg eventType payloadJson)
      (handleEventPublish ambient kernel msg messageId eventType payloadJson).kernel.standing := by
  unfold eventPublishPublications handleEventPublish
  dsimp only
  split
  · exact .none _
  · exact .one (.publish ..)

private theorem handlePayload_shifts {payload : Payload} (asks : msg.unsubscribes = payload.isUnsubscribe)
    (asked : msg.asked = some payload) :
    Shifts ambient msg kernel.standing (payloadPublications config ambient kernel msg payload)
      (handlePayload config ambient kernel msg messageId payload).kernel.standing := by
  have keeps {outcome : Outcome} (same : outcome.kernel.standing = kernel.standing) :
      Shifts ambient msg kernel.standing [] outcome.kernel.standing := same ▸ .none _
  cases payload with
  | pluginRegister register => exact handlePluginRegister_shifts config ambient kernel msg messageId asks asked
  | eventPublish => exact handleEventPublish_shifts ..
  | subscribe eventTypes =>
    unfold handlePayload
    dsimp only
    split
    next entry found => exact .one (.subscribe entry eventTypes found asked)
    next => exact .none _
  | unsubscribe eventTypes =>
    unfold handlePayload
    dsimp only
    split
    next entry found => exact .one (.unsubscribe entry eventTypes asks found)
    next => exact .none _
  | actionRequest request => exact keeps (handleActionRequest_standing ..)
  | actionResponse response => exact keeps (handleActionResponse_attends ..).standing
  | actionRequestChunk chunk => exact keeps (handleActionRequestChunk_attends ..).standing
  | actionResponseChunk chunk => exact keeps (handleActionResponseChunk_attends ..).standing
  | sessionClose close => exact keeps (handleSessionClose_attends ..).standing
  | pong =>
    unfold handlePayload
    dsimp only
    split <;> exact .none _
  | _ => exact .none _

theorem routeMessage_shifts (target : String) :
    Shifts ambient msg kernel.standing (routeMessagePublications config ambient kernel msg target)
      (routeMessage config ambient kernel msg target).kernel.standing := by
  unfold routeMessagePublications routeMessage
  by_cases kernelBound : target = "kernel"
  · rw [if_pos kernelBound, if_pos kernelBound]
    unfold handleKernelMessage
    cases decoded : msg.frame.payload.decode with
    | none => exact .none _
    | some envelope =>
      dsimp only
      split
      · exact .none _
      · apply handlePayload_shifts
        · unfold IncomingMessage.unsubscribes
          rw [decoded]
        · rw [IncomingMessage.asked, decoded, Option.map_some]
  · rw [if_neg kernelBound, if_neg kernelBound]
    split
    · rw [broadcast_standing]
      exact .none _
    · rw [forward_standing]
      exact .none _

end Router

/-- The lifecycle as far as it concerns registrations. -/
structure Passage where
  standing : Standing
  departure : Departure

def Lifecycle.passage (life : Lifecycle) : Passage := ⟨life.kernel.standing, life.departure⟩

def Standing.remove (standing : Standing) (pluginId : String) (connId : ConnId) : Standing :=
  { standing with plugins := standing.plugins.remove pluginId, conns := standing.conns.remove connId }

/-- What a step can do, and what it publishes. -/
inductive Passage.Turns (passage : Passage) : LifecycleInput → List Publication → Passage → Prop
  | stays (input : LifecycleInput) : Turns passage input [] passage
  | routes (ambient : Ambient) (msg : IncomingMessage) (published : List Publication) (standing : Standing)
      (shifts : Shifts ambient msg passage.standing published standing) :
      Turns passage (.message ambient msg) published { passage with standing }
  | finds (connId : ConnId) (entry : PluginEntry) (payload : EventPayload) (idle : passage.departure = .waiting)
      (found : passage.standing.getByConnId connId = some entry) :
      Turns passage .lookUp [] { passage with departure := .found connId entry.pluginId payload }
  | removes (shuffle : Shuffle String) (pluginId : String) (entry : PluginEntry) (payload : EventPayload)
      (stage : passage.departure = .found entry.connId pluginId payload)
      (held : passage.standing.plugins.get pluginId = some entry) :
      Turns passage (.unregister shuffle) [] {
        standing := passage.standing.remove pluginId entry.connId
        departure := .unregistered entry.connId pluginId payload }
  | yields (shuffle : Shuffle String) (connId : ConnId) (pluginId : String) (payload : EventPayload)
      (stage : passage.departure = .found connId pluginId payload) :
      Turns passage (.unregister shuffle) [] { passage with departure := .waiting }
  | clears (connId : ConnId) (pluginId : String) (payload : EventPayload)
      (stage : passage.departure = .unregistered connId pluginId payload) :
      Turns passage .unsubscribeAll [] {
        standing := { passage.standing with bus := passage.standing.bus.unsubscribeAll pluginId }
        departure := .unsubscribed connId pluginId payload }
  | announces (clock : Clock) (connId : ConnId) (pluginId : String) (payload : EventPayload)
      (stage : passage.departure = .unsubscribed connId pluginId payload) :
      Turns passage (.publishLeft clock) [.left connId pluginId clock payload] { passage with departure := .waiting }
  | stops (shuffle : Shuffle String) (pluginId : String) (entry : PluginEntry)
      (held : passage.standing.plugins.get pluginId = some entry) :
      Turns passage (.stop shuffle pluginId) [] { passage with standing := passage.standing.remove pluginId entry.connId }
  | loads (pluginId : String) (events : List String) :
      Turns passage (.load pluginId events) [] { passage with
        standing := { passage.standing with bus := passage.standing.bus.subscribe pluginId events } }

namespace Lifecycle
variable (config : Config) (life : Lifecycle)

private theorem route_turns (ambient : Ambient) (msg : IncomingMessage) :
    life.passage.Turns (.message ambient msg) (life.publications config (.message ambient msg))
      (life.route config ambient msg).passage := by
  unfold route publications
  dsimp only
  cases msg.frame.target with
  | none => exact .stays _
  | some target => exact .routes ambient msg _ _ (routeMessage_shifts config ambient life.kernel msg target)

private theorem lookUp_turns : life.passage.Turns .lookUp [] life.lookUp.passage := by
  unfold lookUp
  split
  next connId disconnects idle queued =>
    split
    next => exact .stays _
    next entry found => exact .finds connId entry _ idle found
  next => exact .stays _

private theorem unregister_turns (shuffle : Shuffle String) :
    life.passage.Turns (.unregister shuffle) [] (life.unregister shuffle).passage := by
  unfold unregister
  split
  next connId pluginId payload stage =>
    unfold Registry.unregisterConn
    rcases life.kernel.registry.unregisterIf_cases shuffle pluginId (fun entry => entry.connId == connId) with
      kept | ⟨entry, held, own, removed⟩
    · rw [kept]
      exact .yields shuffle connId pluginId payload stage
    · rw [removed]
      cases beq_iff_eq.mp own
      exact .removes shuffle pluginId entry payload stage held
  next => exact .stays _

private theorem unsubscribeAll_turns : life.passage.Turns .unsubscribeAll [] life.unsubscribeAll.passage := by
  unfold unsubscribeAll
  split
  next connId pluginId payload stage => exact .clears connId pluginId payload stage
  next => exact .stays _

private theorem publishLeft_turns (clock : Clock) :
    life.passage.Turns (.publishLeft clock) (life.publications config (.publishLeft clock)) (life.publishLeft clock).passage := by
  unfold publishLeft publications
  dsimp only
  cases stage : life.departure with
  | unsubscribed connId pluginId payload => exact .announces clock connId pluginId payload stage
  | _ => exact .stays _

private theorem stop_turns (shuffle : Shuffle String) (pluginId : String) :
    life.passage.Turns (.stop shuffle pluginId) [] (life.step config (.stop shuffle pluginId)).passage := by
  change life.passage.Turns _ _ (passage { life with
    kernel := { life.kernel with registry := (life.kernel.registry.unregister shuffle pluginId).registry } })
  unfold Registry.unregister
  rcases life.kernel.registry.unregisterIf_cases shuffle pluginId (fun _ => true) with kept | ⟨entry, held, -, removed⟩
  · rw [kept]
    exact .stays _
  · rw [removed]
    exact .stops shuffle pluginId entry held

private theorem load_turns (pluginId : String) (events : List String) :
    life.passage.Turns (.load pluginId events) [] (life.step config (.load pluginId events)).passage := by
  unfold step
  dsimp only
  split
  · exact .stays _
  · exact .loads pluginId events

theorem step_turns (input : LifecycleInput) :
    life.passage.Turns input (life.publications config input) (life.step config input).passage := by
  cases input with
  | message ambient msg => exact life.route_turns config ambient msg
  | tick ambient =>
    have same : (life.step config (.tick ambient)).passage = life.passage := by
      change Passage.mk (pruneTick config ambient life.kernel).kernel.standing _ = _
      rw [pruneTick_standing]
      rfl
    rw [same]
    exact .stays _
  | disconnected connId => exact .stays _
  | lookUp => exact life.lookUp_turns
  | unregister shuffle => exact life.unregister_turns shuffle
  | unsubscribeAll => exact life.unsubscribeAll_turns
  | publishLeft clock => exact life.publishLeft_turns config clock
  | stop shuffle pluginId => exact life.stop_turns config shuffle pluginId
  | load pluginId events => exact life.load_turns config pluginId events

theorem step_published (input : LifecycleInput) :
    (life.step config input).published = life.published ++ life.publications config input := by
  have quiet {after : Lifecycle} (same : after.published = life.published) : after.published = life.published ++ [] := by
    rw [List.append_nil, same]
  cases input with
  | message ambient msg =>
    change (life.route config ambient msg).published = _
    unfold route publications
    dsimp only
    cases msg.frame.target with
    | none => exact quiet rfl
    | some target => rfl
  | publishLeft clock =>
    change (life.publishLeft clock).published = _
    unfold publishLeft publications
    dsimp only
    cases life.departure with
    | unsubscribed => rfl
    | _ => exact quiet rfl
  | lookUp =>
    refine quiet ?_
    change life.lookUp.published = _
    unfold lookUp
    split
    · split <;> rfl
    · rfl
  | unregister shuffle =>
    refine quiet ?_
    change (life.unregister shuffle).published = _
    unfold unregister
    split
    · dsimp only
      split <;> rfl
    · rfl
  | unsubscribeAll =>
    refine quiet ?_
    change life.unsubscribeAll.published = _
    unfold unsubscribeAll
    split <;> rfl
  | load =>
    refine quiet ?_
    unfold step
    dsimp only
    split <;> rfl
  | tick ambient | disconnected connId | stop shuffle pluginId => exact quiet rfl

end Lifecycle
end Vynkor
