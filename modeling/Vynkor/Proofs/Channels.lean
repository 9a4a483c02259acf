import Vynkor.Proofs.LifecycleSteps
import Vynkor.Proofs.PendingOrigins

/-! One channel for each connection. The channel is made with the connection; registrations
and pending actions keep the one of the connection they came on, so no two registrations
share a channel. -/

namespace Vynkor
open Lib

/-- The input has no channel for a connection but the connection's own. -/
def Input.Wired (channel : ConnId → Tx) : Input → Prop
  | .message _ msg => msg.writeTx = channel msg.connId
  | .call (.registerWithDevice _ _ connId _ writeTx _) => writeTx = channel connId
  | .call (.registerDevice _ _ connId _ _ writeTx _) => writeTx = channel connId
  | _ => True

/-- Every plugin is reached over its connection. -/
def Wired (channel : ConnId → Tx) (plugins : DashMap String PluginEntry) : Prop :=
  ∀ id entry, plugins.get id = some entry → entry.writeTx = channel entry.connId

namespace Wired
variable {channel : ConnId → Tx} {plugins : DashMap String PluginEntry} {registry : Registry}

theorem remove (wired : Wired channel plugins) (pluginId : String) : Wired channel (plugins.remove pluginId) :=
  fun id entry held => wired id entry (DashMap.remove_some.mp held).2

theorem insert (wired : Wired channel plugins) (pluginId : String) {entry : PluginEntry}
    (own : entry.writeTx = channel entry.connId) : Wired channel (plugins.insert pluginId entry) := by
  intro id found held
  rcases DashMap.insert_cases held with ⟨-, rfl⟩ | ⟨-, before⟩
  · exact own
  · exact wired id found before

theorem unregisterIf (wired : Wired channel registry.byPluginId) (shuffle : Shuffle String) (pluginId : String)
    (test : PluginEntry → Bool) : Wired channel (registry.unregisterIf shuffle pluginId test).registry.byPluginId := by
  rcases registry.unregisterIf_cases shuffle pluginId test with kept | ⟨entry, -, -, removed⟩
  · rwa [kept]
  · rw [removed]
    exact wired.remove pluginId

theorem apply (wired : Wired channel registry.byPluginId) {call : Registry.Call} (own : (Input.call call).Wired channel) :
    Wired channel (registry.apply call).byPluginId := by
  cases call with
  | registerWithDevice clock pluginId connId manifest writeTx info =>
    rcases registry.registerWithDevice_cases clock pluginId connId manifest writeTx info with
      ⟨error, refused⟩ | ⟨-, -, -, -, enrolled⟩
    · simpa only [Registry.apply, refused] using wired
    · simp only [Registry.apply, enrolled]
      refine wired.insert pluginId ?_
      exact own
  | registerDevice clock deviceId connId caps manifest writeTx info =>
    rcases registry.registerDevice_cases clock deviceId connId caps manifest writeTx info with
      ⟨error, refused⟩ | ⟨-, -, -, -, enrolled⟩
    · simpa only [Registry.apply, refused] using wired
    · simp only [Registry.apply, enrolled]
      refine wired.insert deviceId ?_
      exact own
  | unregister shuffle pluginId | unregisterConn shuffle pluginId connId | unregisterIfDead shuffle closed pluginId =>
    exact wired.unregisterIf shuffle pluginId _
  | recordPong => exact wired
  | registerDormant plugin =>
    simp only [Registry.apply, Registry.registerDormant, Registry.dropDormantActions]
    split <;> exact wired

theorem shifts {ambient : Ambient} {msg : IncomingMessage} {standing after : Standing} {published : List Publication}
    (shifts : Shifts ambient msg standing published after) (own : msg.writeTx = channel msg.connId)
    (wired : Wired channel standing.plugins) : Wired channel after.plugins := by
  induction shifts with
  | none => exact wired
  | more shift rest ih =>
    refine ih ?_
    cases shift with
    | leave pluginId => exact wired.remove pluginId
    | join entry payload quiet freeConn freeId comes =>
      exact wired.insert _ (by rw [comes.1, comes.2, own])
    | publish | subscribe | unsubscribe => exact wired

theorem step (config : Config) {system : System} {input : Input} (own : input.Wired channel)
    (wired : Wired channel system.kernel.registry.byPluginId) :
    Wired channel (system.step config input).kernel.registry.byPluginId := by
  cases input with
  | message ambient msg =>
    have handles := System.handleMessage_cases config system ambient msg
    change Wired channel (system.handleMessage config ambient msg).kernel.registry.byPluginId
    generalize system.handleMessage config ambient msg = after at handles ⊢
    cases handles with
    | routed target => exact wired.shifts (routeMessage_shifts config _ system.kernel msg target) own
    | limited | untargeted | dropped => exact wired
  | tick ambient =>
    have same : (system.step config (.tick ambient)).kernel.registry.byPluginId = system.kernel.registry.byPluginId :=
      congrArg Standing.plugins (pruneTick_standing config (system.observe ambient) system.kernel)
    rwa [same]
  | disconnect ambient connId =>
    change Wired channel (handleDisconnect _ system.kernel connId).1.registry.byPluginId
    unfold handleDisconnect
    split
    · exact wired
    · simp only
      split
      next entry found removed => exact wired.unregisterIf ambient.shuffle entry.pluginId _
      · exact wired
  | call call => exact wired.apply own
  | touchUsed clock pluginId =>
    have same : (system.step config (.touchUsed clock pluginId)).kernel.registry.byPluginId =
      system.kernel.registry.byPluginId := Registry.touchUsed_byPluginId ..
    rwa [same]
  | _ => exact wired

/-- In every run in which each connection keeps its channel. -/
theorem run (config : Config) {inputs : List Input} (own : ∀ input ∈ inputs, input.Wired channel) :
    Wired channel ((System.machine config).run inputs).kernel.registry.byPluginId := by
  induction inputs using List.reverseRecOn with
  | nil => exact nofun
  | append_singleton inputs input ih =>
    rw [Machine.run_append]
    exact (ih fun earlier member => own earlier (List.mem_append_left _ member)).step config (own input (by simp))

/-- Two registrations with one channel are on one connection. -/
theorem sole (wired : Wired channel plugins) (distinct : Function.Injective channel) {first second : String}
    {entry other : PluginEntry} (held : plugins.get first = some entry) (found : plugins.get second = some other)
    (shared : entry.writeTx = other.writeTx) : entry.connId = other.connId := by
  refine distinct ?_
  rw [← wired first entry held, ← wired second other found, shared]

end Wired

/-- The channel that a pending action is answered on is that of the connection it came on. -/
theorem requester_channel (config : Config) {channel : ConnId → Tx} (distinct : Function.Injective channel) {inputs : List Input}
    (own : ∀ input ∈ inputs, input.Wired channel) {key : String} {pending : PendingAction}
    (held : ((System.machine config).run inputs).kernel.registry.pendingActions.get key = some pending) {connId : ConnId}
    (shared : pending.requesterWriteTx = channel connId) :
    ∃ issue before request, Origin config inputs pending.serial issue before request ∧ request.connId = connId ∧
      issue.pending.Same pending := by
  obtain ⟨issue, before, request, -, version, origin⟩ := pending_origin config held
  obtain ⟨ambient, after, split⟩ := origin.split
  have wired : request.writeTx = channel request.connId := own (.message ambient request) (by simp [split])
  refine ⟨issue, before, request, origin, distinct ?_, version⟩
  rw [← wired, ← origin.channel, ← shared]
  exact version.requesterWriteTx.symm

end Vynkor
