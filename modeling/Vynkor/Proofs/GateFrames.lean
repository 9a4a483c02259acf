import Vynkor.Exchange
import Vynkor.Proofs.RegistryCalls
import Vynkor.Proofs.RouterCases

/-! Who touches the gates of the lazy plugins: besides the waker only a request for an
action, when it asks the gate of its provider. -/

namespace Vynkor
open Lib

namespace Registry
variable (registry : Registry)

private theorem unregisterIf_lazyGates (shuffle : Shuffle String) (pluginId : String) (test : PluginEntry → Bool) :
    (registry.unregisterIf shuffle pluginId test).registry.lazyGates = registry.lazyGates := by
  rcases unregisterIf_cases shuffle registry pluginId test with kept | ⟨entry, -, -, removed⟩
  · rw [kept]
  · rw [removed]
    rfl

private theorem registerWithDevice_lazyGates (clock : Clock) (pluginId : String) (connId : ConnId) (manifest : PluginManifest)
    (writeTx : Tx) (info : DeviceMeta) :
    (registry.registerWithDevice clock pluginId connId manifest writeTx info).1.lazyGates = registry.lazyGates := by
  rcases registerWithDevice_cases registry clock pluginId connId manifest writeTx info with
    ⟨error, refused⟩ | ⟨-, -, -, -, enrolled⟩
  · rw [refused]
  · rw [enrolled]
    rfl

private theorem registerDevice_lazyGates (clock : Clock) (deviceId : String) (connId : ConnId) (caps : List String)
    (manifest : PluginManifest) (writeTx : Tx) (info : DeviceMeta) :
    (registry.registerDevice clock deviceId connId caps manifest writeTx info).1.lazyGates = registry.lazyGates := by
  rcases registerDevice_cases registry clock deviceId connId caps manifest writeTx info with
    ⟨error, refused⟩ | ⟨-, -, -, -, enrolled⟩
  · rw [refused]
  · rw [enrolled]
    rfl

private theorem apply_lazyGates (call : Call) : (registry.apply call).lazyGates = registry.lazyGates := by
  cases call with
  | registerWithDevice => exact registry.registerWithDevice_lazyGates ..
  | registerDevice => exact registry.registerDevice_lazyGates ..
  | unregister | unregisterConn | unregisterIfDead => exact registry.unregisterIf_lazyGates ..
  | recordPong => rfl
  | registerDormant plugin =>
    simp only [apply, registerDormant, dropDormantActions]
    split <;> rfl

end Registry

section Handlers
variable (config : Config) (ambient : Ambient) (kernel : Kernel) (msg : IncomingMessage) (messageId : String)

private theorem evictStale_lazyGates (pluginId : String) :
    (evictStale ambient kernel pluginId).1.registry.lazyGates = kernel.registry.lazyGates := by
  unfold evictStale
  split
  · rfl
  · split
    · simp only
      split <;> exact kernel.registry.unregisterIf_lazyGates ..
    · rfl

private theorem enlist_lazyGates (registry : Registry) (clock : Clock) (register : PluginRegister) (manifest : PluginManifest) :
    (enlist registry clock msg register manifest).1.lazyGates = registry.lazyGates := by
  unfold enlist
  split
  · exact registry.registerDevice_lazyGates ..
  · exact registry.registerWithDevice_lazyGates ..

/-- A message that leaves the gates alone and wakes nobody. -/
def Ungated (kernel : Kernel) (outcome : Outcome) : Prop :=
  outcome.kernel.registry.lazyGates = kernel.registry.lazyGates ∧ outcome.wake = none

private theorem handlePluginRegister_ungated (register : PluginRegister) :
    Ungated kernel (handlePluginRegister config ambient kernel msg messageId register) := by
  unfold handlePluginRegister
  simp only
  split
  · exact ⟨rfl, rfl⟩
  · split
    · exact ⟨rfl, rfl⟩
    · split
      · exact ⟨rfl, rfl⟩
      · exact ⟨(enlist_lazyGates ..).trans (evictStale_lazyGates ..), rfl⟩

theorem Attends.ungated {kernel : Kernel} {outcome : Outcome} (attends : Attends kernel outcome) : Ungated kernel outcome := by
  obtain ⟨asleep, _, ⟨_, _, rfl⟩, same⟩ := attends
  exact ⟨by rw [same], asleep⟩

private theorem handlePayload_ungated {payload : Payload} (other : ∀ request, payload ≠ .actionRequest request) :
    Ungated kernel (handlePayload config ambient kernel msg messageId payload) := by
  cases payload with
  | pluginRegister register => exact handlePluginRegister_ungated ..
  | actionRequest request => exact absurd rfl (other request)
  | actionResponse response => exact (handleActionResponse_attends ..).ungated
  | actionRequestChunk chunk => exact (handleActionRequestChunk_attends ..).ungated
  | actionResponseChunk chunk => exact (handleActionResponseChunk_attends ..).ungated
  | sessionClose close => exact (handleSessionClose_attends ..).ungated
  | eventPublish =>
    simp only [handlePayload, handleEventPublish]
    split <;> exact ⟨rfl, rfl⟩
  | pong | subscribe | unsubscribe =>
    simp only [handlePayload]
    split <;> exact ⟨rfl, rfl⟩
  | _ => exact ⟨rfl, rfl⟩

theorem handleKernelMessage_ungated
    (other : ∀ envelope request, msg.frame.payload.decode = some envelope → envelope.payload ≠ .actionRequest request) :
    Ungated kernel (handleKernelMessage config ambient kernel msg) := by
  unfold handleKernelMessage
  split
  · exact ⟨rfl, rfl⟩
  next envelope decoded =>
    split
    · exact ⟨rfl, rfl⟩
    · exact handlePayload_ungated _ _ _ _ _ fun request => other envelope request decoded

private theorem pruneTick_lazyGates : (pruneTick config ambient kernel).kernel.registry.lazyGates = kernel.registry.lazyGates := by
  unfold pruneTick
  simp only
  split <;> rfl

private theorem handleDisconnect_lazyGates (connId : ConnId) :
    (handleDisconnect ambient kernel connId).1.registry.lazyGates = kernel.registry.lazyGates := by
  unfold handleDisconnect
  split
  · rfl
  · simp only
    split
    · exact kernel.registry.unregisterIf_lazyGates ..
    · rfl

end Handlers

theorem System.step_lazyGates (config : Config) (system : System) {input : Input} (foreign : input.foreign = true) :
    (system.step config input).kernel.registry.lazyGates = system.kernel.registry.lazyGates := by
  cases input with
  | tick ambient => exact pruneTick_lazyGates ..
  | disconnect => exact handleDisconnect_lazyGates ..
  | call call => exact system.kernel.registry.apply_lazyGates call
  | setActionRequirements | clearActionRequirements | bridgeUp | bridgeDown | receive | close => rfl
  | _ => cases foreign

end Vynkor
