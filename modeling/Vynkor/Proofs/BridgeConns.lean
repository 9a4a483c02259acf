import Vynkor.Proofs.BridgeTrust
import Vynkor.Router

/-! What a bridge shares with the rest of the kernel. Between the steps of its session any
other task may use the registry and the router may relay a frame; still the handle lists
the channel of the session and no other, and the registry has no entry of a session that
is over. -/

namespace Vynkor
open Lib

def Registry.Call.connId : Registry.Call → Option ConnId
  | registerWithDevice _ _ connId _ _ _ | registerDevice _ _ connId _ _ _ _ => some connId
  | _ => none

namespace Registry
variable {registry : Registry} {id : String} {entry : PluginEntry}

private theorem entry_of_unregisterIf {shuffle : Shuffle String} {pluginId : String} {test : PluginEntry → Bool}
    (held : (registry.unregisterIf shuffle pluginId test).registry.byPluginId.get id = some entry) :
    registry.byPluginId.get id = some entry := by
  rcases unregisterIf_cases shuffle registry pluginId test with kept | ⟨removed, -, -, cleaned⟩
  · rwa [kept] at held
  · rw [cleaned] at held
    exact (DashMap.remove_some.mp held).2

private theorem not_of_unregister (registry : Registry) (shuffle : Shuffle String) (pluginId : String) :
    (registry.unregister shuffle pluginId).registry.byPluginId.get pluginId = none := by
  simp only [unregister]
  rcases registry.byPluginId.removeIf_cases pluginId (fun _ => true) with ⟨entry, held, -, taken⟩ | ⟨absent, kept⟩
  · simp [unregisterIf, taken]
  · cases held : registry.byPluginId.get pluginId with
    | none => simp [unregisterIf, kept, held]
    | some entry => cases absent entry held

private theorem entry_of_apply {call : Call} (held : (registry.apply call).byPluginId.get id = some entry) :
    registry.byPluginId.get id = some entry ∨ call.connId = some entry.connId := by
  cases call with
  | registerWithDevice clock pluginId connId manifest writeTx info =>
    rcases registry.registerWithDevice_cases clock pluginId connId manifest writeTx info with
      ⟨error, refused⟩ | ⟨-, -, -, -, enrolled⟩
    · simp only [apply, refused] at held
      exact .inl held
    · simp only [apply, enrolled, enroll_byPluginId] at held
      rcases DashMap.insert_cases held with ⟨rfl, rfl⟩ | ⟨-, old⟩
      · exact .inr rfl
      · exact .inl old
  | registerDevice clock deviceId connId caps manifest writeTx info =>
    rcases registry.registerDevice_cases clock deviceId connId caps manifest writeTx info with
      ⟨error, refused⟩ | ⟨-, -, -, -, enrolled⟩
    · simp only [apply, refused] at held
      exact .inl held
    · simp only [apply, enrolled, enroll_byPluginId] at held
      rcases DashMap.insert_cases held with ⟨rfl, rfl⟩ | ⟨-, old⟩
      · exact .inr rfl
      · exact .inl old
  | unregister | unregisterConn | unregisterIfDead => exact .inl (entry_of_unregisterIf held)
  | recordPong => exact .inl held
  | registerDormant plugin =>
    refine .inl ?_
    simp only [apply, registerDormant, dropDormantActions] at held
    split at held <;> exact held

end Registry

namespace BridgeTask

/-- No other task registers a plugin on the bridge's connection id. -/
def Apart (_ : BridgeTask) : BridgeInput → Prop
  | .call call => call.connId ≠ some bridgeConnIdBase
  | _ => True

/-- The channel the local entry of the device sends to. -/
def entered : BridgeStage → Option Tx
  | .opening session | .relaying session | .unregistering session _ => some session.hostTx
  | _ => none

def listed : BridgeStage → List Tx
  | .relaying session | .unregistering session _ | .forgetting session _ => [session.hostTx]
  | _ => []

structure Wired (config : SessionConfig) (task : BridgeTask) : Prop where
  conns : task.conns = listed task.stage
  entries : ∀ id entry, task.registry.get id = some entry → entry.connId = bridgeConnIdBase →
    id = config.deviceId ∧ entered task.stage = some entry.writeTx

section
variable {codec : Codec} {config : SessionConfig} {task after : BridgeTask} {input : BridgeInput}

theorem Wired.enter (wired : task.Wired config) (conns : after.conns = task.conns)
    (registry : after.registry = task.registry) (sameConns : listed after.stage = listed task.stage)
    (sameEntry : entered after.stage = entered task.stage) : after.Wired config := by
  constructor
  · rw [conns, sameConns, wired.conns]
  · rw [registry, sameEntry]
    exact wired.entries

theorem Wired.dialNext {lastError : Option BridgeError} {transports : List TransportConfig} (wired : task.Wired config)
    (quiet : listed task.stage = []) (alone : entered task.stage = none) :
    (task.dialNext lastError transports).Wired config := by
  cases transports <;> exact wired.enter rfl rfl quiet.symm alone.symm

theorem Wired.opened {clock : Clock} {entry : PluginEntry} {transport : TransportKind} {key : Option SessionKey}
    (wired : task.Wired config) (stage : task.stage = .registering transport) (entryId : entry.pluginId = config.deviceId)
    (entryTx : entry.writeTx = task.sessions) :
    Wired config { task with
      registry := task.registry.enroll clock entry config.deviceMeta config.deviceMeta.capabilities
      sessions := task.sessions + 1
      stage := .opening ⟨transport, task.sessions, key, true⟩ } := by
  have conns := wired.conns
  rw [stage] at conns
  refine ⟨conns, fun id found held onBridge => ?_⟩
  rcases DashMap.insert_cases held with ⟨rfl, rfl⟩ | ⟨-, old⟩
  · exact ⟨entryId, by rw [entryTx]; rfl⟩
  · have nobody := (wired.entries id found old onBridge).2
    rw [stage] at nobody
    cases nobody

theorem Wired.unregistered {session : Session} {error : SessionError} (wired : task.Wired config)
    (stage : task.stage = .unregistering session error) (shuffle : Shuffle String) :
    Wired config { task with
      registry := (task.registry.unregister shuffle config.deviceId).registry
      stage := .forgetting session error } := by
  have conns := wired.conns
  rw [stage] at conns
  refine ⟨conns, fun id found held onBridge => ?_⟩
  have here := (wired.entries id found (Registry.entry_of_unregisterIf held) onBridge).1
  subst here
  have gone := task.registry.not_of_unregister shuffle config.deviceId
  cases gone.symm.trans held

theorem Wired.moves (wired : task.Wired config) (apart : task.Apart input) (moved : Moves codec config task input after) :
    after.Wired config := by
  cases moved with
  | stay => exact wired
  | tried transport rest error stage => exact wired.dialNext (by rw [stage]; rfl) (by rw [stage]; rfl)
  | reached _ _ stage | greeted _ stage | ungreeted _ _ stage | refused _ _ _ _ _ stage | clashed _ _ _ _ _ stage
  | left _ _ _ _ _ stage | finished _ _ stage | failed _ _ _ _ stage =>
    exact wired.enter rfl rfl (by rw [stage]; rfl) (by rw [stage]; rfl)
  | opened transport event clock frameAddr frame key entry stage arrived acked entryId entryTx =>
    exact wired.opened stage entryId entryTx
  | orphaned _ _ _ _ _ stage | relayed _ _ _ _ _ stage =>
    exact wired.enter (confirm_conns ..) (confirm_registry ..) (by rw [stage]; rfl) (by rw [stage]; rfl)
  | joined session shuffle stage =>
    obtain ⟨conns, entries⟩ := wired
    rw [stage] at conns entries
    exact ⟨by rw [conns]; rfl, entries⟩
  | unregistered session error shuffle stage => exact wired.unregistered stage shuffle
  | forgotten session error shuffle stage =>
    obtain ⟨conns, entries⟩ := wired
    rw [stage] at conns entries
    exact ⟨by simp [conns, listed], entries⟩
  | woken shuffle stage =>
    have waking : Wired config { task with backoff := min (task.backoff * 2) bridgeMaxBackoff } :=
      wired.enter rfl rfl rfl rfl
    exact waking.dialNext (by rw [stage]; rfl) (by rw [stage]; rfl)
  | called call =>
    refine ⟨wired.conns, fun id entry held onBridge => ?_⟩
    rcases Registry.entry_of_apply held with old | new
    · exact wired.entries id entry old onBridge
    · rw [onBridge] at new
      exact absurd new apart
  | deserted => exact wired.enter rfl rfl rfl rfl

end

/-- In every run in which other tasks keep off the bridge's connection id, the handle lists
the channel of the session under way and no other, an entry on that id is the session's own,
and what the router relays to the host goes to its channel. -/
theorem bridge_handle_follows_session (codec : Codec) (config : SessionConfig) (inputs : List BridgeInput)
    (apart : (machine codec config).Obeys Apart (machine codec config).init inputs) :
    let task := (machine codec config).run inputs
    task.conns = listed task.stage ∧
    (∀ id entry, task.registry.get id = some entry → entry.connId = bridgeConnIdBase →
      id = config.deviceId ∧ entered task.stage = some entry.writeTx) ∧
    ∀ ambient kernel frame, kernel.bridgeConns = task.conns →
      ∀ send ∈ (relayToHost ambient kernel frame).1, ∃ session, BridgeTask.session task.stage = some session ∧
        send = ⟨session.hostTx, .frame frame.stripMac, none⟩ := by
  have initial : (machine codec config).init.Wired config := by
    apply Wired.dialNext
    · exact ⟨rfl, fun id entry held => by cases held⟩
    · rfl
    · rfl
  have wired : ((machine codec config).run inputs).Wired config :=
    apart.run_preserves initial fun task input apart wired => wired.moves apart (task.step_moves codec config input)
  refine ⟨wired.conns, wired.entries, fun ambient kernel frame same send member => ?_⟩
  simp only [relayToHost, same, wired.conns] at member
  cases stage : ((machine codec config).run inputs).stage with
  | relaying session | unregistering session error | forgetting session error =>
    rw [stage] at member
    exact ⟨session, rfl, List.mem_singleton.mp member⟩
  | dialing | greeting | registering | opening | reporting | sleeping | stopped =>
    rw [stage] at member
    cases member

/-- The session of the laptop, while a plugin of its own registers. -/
def busyLaptopRun : List BridgeInput :=
  laptopRun ++ [.call (.registerWithDevice ⟨0, 0⟩ "camera" 3 {} 40 {})]

theorem bridge_handle_follows_session_laptop :
    (machine sampleCodec laptop).Obeys Apart (machine sampleCodec laptop).init busyLaptopRun ∧
    ((machine sampleCodec laptop).run busyLaptopRun).conns =
      listed ((machine sampleCodec laptop).run busyLaptopRun).stage := by
  have apart : (machine sampleCodec laptop).Obeys Apart (machine sampleCodec laptop).init busyLaptopRun := by
    simp [busyLaptopRun, laptopRun, Machine.Obeys, Apart, Registry.Call.connId, bridgeConnIdBase]
  exact ⟨apart, (bridge_handle_follows_session sampleCodec laptop busyLaptopRun apart).1⟩

end BridgeTask
end Vynkor
