import Vynkor.Registry

/-! What one registry call can do. Invariants are proved against these effects,
so that no later proof takes the calls apart again. -/

namespace Vynkor.Registry
open Lib

/-- The ways in which one operation changes the registry. The last four leave
alone who is registered and what is declared. -/
inductive Effect (registry : Registry) : Registry → Prop
  | unchanged : Effect registry registry
  | enrolled (clock : Clock) (entry : PluginEntry) (info : DeviceMeta) (capabilities : List String)
      (freeConn : registry.byConnId.get entry.connId = none)
      (freeId : registry.byPluginId.get entry.pluginId = none) :
      Effect registry (registry.enroll clock entry info capabilities)
  | removed (shuffle : Shuffle String) (pluginId : String) (entry : PluginEntry)
      (held : registry.byPluginId.get pluginId = some entry) :
      Effect registry
        (cleanUp shuffle { registry with byPluginId := registry.byPluginId.remove pluginId } entry pluginId).1
  | ponged (clock : Clock) (pluginId : String) : Effect registry (registry.recordPong clock pluginId)
  | slept (plugin : DormantPlugin) : Effect registry (registry.registerDormant plugin)
  | pending (map : DashMap String PendingAction) : Effect registry { registry with pendingActions := map }
  | requirements (map : DashMap String (DashMap String PermissionType)) :
      Effect registry { registry with actionRequirements := map }
  | gates (map : DashMap String (DashMap Nat Instant)) : Effect registry { registry with lazyGates := map }
  | used (map : DashMap String Instant) : Effect registry { registry with lastUsed := map }

section Fields
variable (registry : Registry) (clock : Clock) (entry : PluginEntry) (info : DeviceMeta) (capabilities : List String)
  (shuffle : Shuffle String) (pluginId : String)

@[simp] theorem enroll_byPluginId : (registry.enroll clock entry info capabilities).byPluginId =
    registry.byPluginId.insert entry.pluginId entry := rfl

@[simp] theorem enroll_byConnId : (registry.enroll clock entry info capabilities).byConnId =
    registry.byConnId.insert entry.connId entry.pluginId := rfl

@[simp] theorem enroll_pongTimes : (registry.enroll clock entry info capabilities).pongTimes =
    registry.pongTimes.insert entry.pluginId clock.now := rfl

@[simp] theorem enroll_devices : (registry.enroll clock entry info capabilities).devices =
    upsertDevice registry.devices clock entry.deviceId info capabilities := rfl

@[simp] theorem cleanUp_byPluginId : (cleanUp shuffle registry entry pluginId).1.byPluginId = registry.byPluginId := rfl

@[simp] theorem cleanUp_byConnId : (cleanUp shuffle registry entry pluginId).1.byConnId =
    registry.byConnId.remove entry.connId := rfl

@[simp] theorem cleanUp_pongTimes : (cleanUp shuffle registry entry pluginId).1.pongTimes =
    registry.pongTimes.remove pluginId := rfl

@[simp] theorem cleanUp_devices : (cleanUp shuffle registry entry pluginId).1.devices =
    if registry.byPluginId.any (fun other => other.deviceId == entry.deviceId) then registry.devices
    else registry.devices.modify entry.deviceId fun device => { device with state := .offline } := rfl

@[simp] theorem recordPong_pongTimes : (registry.recordPong clock pluginId).pongTimes =
    registry.pongTimes.insert pluginId clock.now := rfl

@[simp] theorem recordPong_devices : (registry.recordPong clock pluginId).devices =
    match registry.byPluginId.get pluginId with
    | some entry => registry.devices.modify entry.deviceId fun device =>
        { device with lastSeen := clock.unixMillis, state := .online }
    | none => registry.devices := rfl

@[simp] theorem touchUsed_pendingActions : (registry.touchUsed clock pluginId).pendingActions = registry.pendingActions := by
  unfold touchUsed
  split <;> rfl

@[simp] theorem touchUsed_lazyGates : (registry.touchUsed clock pluginId).lazyGates = registry.lazyGates := by
  unfold touchUsed
  split <;> rfl

@[simp] theorem touchUsed_byPluginId : (registry.touchUsed clock pluginId).byPluginId = registry.byPluginId := by
  unfold touchUsed
  split <;> rfl

end Fields

private theorem claim_cases (registry : Registry) (clock : Clock) (entry : PluginEntry) (info : DeviceMeta)
    (capabilities : List String) :
    (∃ error, registry.claim clock entry info capabilities = (registry, .error error)) ∨
    (registry.byConnId.get entry.connId = none ∧ registry.byPluginId.get entry.pluginId = none ∧
      registry.claim clock entry info capabilities = (registry.enroll clock entry info capabilities, .ok ())) := by
  unfold claim
  split
  · exact .inl ⟨_, rfl⟩
  next freeConn =>
    split
    · exact .inl ⟨_, rfl⟩
    next freeId =>
      refine .inr ⟨?_, ?_, rfl⟩
      · exact (DashMap.containsKey_false _ _).mp (Bool.eq_false_iff.mpr freeConn)
      · exact (DashMap.containsKey_false _ _).mp (Bool.eq_false_iff.mpr freeId)

theorem registerWithDevice_cases (registry : Registry) (clock : Clock) (pluginId : String) (connId : ConnId)
    (manifest : PluginManifest) (writeTx : Tx) (info : DeviceMeta) :
    (∃ error, registry.registerWithDevice clock pluginId connId manifest writeTx info = (registry, .error error)) ∨
    (validatePluginId pluginId = .ok () ∧ validateDeviceScope pluginId info.deviceId = .ok () ∧
      registry.byConnId.get connId = none ∧ registry.byPluginId.get pluginId = none ∧
      registry.registerWithDevice clock pluginId connId manifest writeTx info =
        (registry.enroll clock (deviceEntry clock pluginId connId manifest writeTx info) info info.capabilities,
          .ok ())) := by
  unfold registerWithDevice
  split
  · exact .inl ⟨_, rfl⟩
  next named =>
    split
    · exact .inl ⟨_, rfl⟩
    next inScope =>
      rcases claim_cases registry clock (deviceEntry clock pluginId connId manifest writeTx info) info
        info.capabilities with refused | ⟨freeConn, freeId, enrolled⟩
      · exact .inl refused
      · exact .inr ⟨named, inScope, freeConn, freeId, enrolled⟩

theorem registerDevice_cases (registry : Registry) (clock : Clock) (deviceId : String) (connId : ConnId)
    (caps : List String) (manifest : PluginManifest) (writeTx : Tx) (info : DeviceMeta) :
    (∃ error, registry.registerDevice clock deviceId connId caps manifest writeTx info = (registry, .error error)) ∨
    (validatePluginId deviceId = .ok () ∧ validateDeviceScope deviceId deviceId = .ok () ∧
      registry.byConnId.get connId = none ∧ registry.byPluginId.get deviceId = none ∧
      registry.registerDevice clock deviceId connId caps manifest writeTx info =
        (registry.enroll clock (muxEntry clock deviceId connId caps manifest writeTx info) info caps, .ok ())) := by
  unfold registerDevice
  split
  · exact .inl ⟨_, rfl⟩
  next named =>
    split
    · exact .inl ⟨_, rfl⟩
    next inScope =>
      rcases claim_cases registry clock (muxEntry clock deviceId connId caps manifest writeTx info) info caps with
        refused | ⟨freeConn, freeId, enrolled⟩
      · exact .inl refused
      · exact .inr ⟨named, inScope, freeConn, freeId, enrolled⟩

theorem unregisterIf_cases (shuffle : Shuffle String) (registry : Registry) (pluginId : String)
    (test : PluginEntry → Bool) :
    registry.unregisterIf shuffle pluginId test = ⟨registry, [], false⟩ ∨
    ∃ entry, registry.byPluginId.get pluginId = some entry ∧ test entry = true ∧
      registry.unregisterIf shuffle pluginId test =
        ⟨(cleanUp shuffle { registry with byPluginId := registry.byPluginId.remove pluginId } entry pluginId).1,
          (cleanUp shuffle { registry with byPluginId := registry.byPluginId.remove pluginId } entry pluginId).2,
          true⟩ := by
  unfold unregisterIf
  rcases registry.byPluginId.removeIf_cases pluginId test with ⟨entry, held, holds, taken⟩ | ⟨-, kept⟩
  · rw [taken]
    exact .inr ⟨entry, held, holds, rfl⟩
  · rw [kept]
    exact .inl rfl

theorem mem_unregisterIf_sends {shuffle : Shuffle String} {registry : Registry} {pluginId : String}
    {test : PluginEntry → Bool} {send : Send} (member : send ∈ (registry.unregisterIf shuffle pluginId test).sends) :
    ∃ reason pending, send = providerGoneNotice reason pending := by
  rcases unregisterIf_cases shuffle registry pluginId test with kept | ⟨entry, -, -, removed⟩
  · rw [kept] at member
    cases member
  · rw [removed] at member
    obtain ⟨taken, -, rfl⟩ := List.mem_map.mp member
    exact ⟨_, taken.2, rfl⟩

theorem unregisterIf_effect (shuffle : Shuffle String) (registry : Registry) (pluginId : String)
    (test : PluginEntry → Bool) : Effect registry (registry.unregisterIf shuffle pluginId test).registry := by
  rcases unregisterIf_cases shuffle registry pluginId test with kept | ⟨entry, held, -, removed⟩
  · rw [kept]
    exact .unchanged
  · rw [removed]
    exact .removed shuffle pluginId entry held

theorem registerWithDevice_effect (registry : Registry) (clock : Clock) (pluginId : String) (connId : ConnId)
    (manifest : PluginManifest) (writeTx : Tx) (info : DeviceMeta) :
    Effect registry (registry.registerWithDevice clock pluginId connId manifest writeTx info).1 := by
  rcases registerWithDevice_cases registry clock pluginId connId manifest writeTx info with
    ⟨error, refused⟩ | ⟨-, -, freeConn, freeId, enrolled⟩
  · rw [refused]
    exact .unchanged
  · rw [enrolled]
    exact .enrolled clock _ info _ freeConn freeId

theorem registerDevice_effect (registry : Registry) (clock : Clock) (deviceId : String) (connId : ConnId)
    (caps : List String) (manifest : PluginManifest) (writeTx : Tx) (info : DeviceMeta) :
    Effect registry (registry.registerDevice clock deviceId connId caps manifest writeTx info).1 := by
  rcases registerDevice_cases registry clock deviceId connId caps manifest writeTx info with
    ⟨error, refused⟩ | ⟨-, -, freeConn, freeId, enrolled⟩
  · rw [refused]
    exact .unchanged
  · rw [enrolled]
    exact .enrolled clock _ info _ freeConn freeId

private theorem apply_effect (registry : Registry) (call : Call) : Effect registry (registry.apply call) := by
  cases call with
  | registerWithDevice clock pluginId connId manifest writeTx info =>
    exact registerWithDevice_effect registry clock pluginId connId manifest writeTx info
  | registerDevice clock deviceId connId caps manifest writeTx info =>
    exact registerDevice_effect registry clock deviceId connId caps manifest writeTx info
  | unregister shuffle pluginId | unregisterConn shuffle pluginId connId | unregisterIfDead shuffle closed pluginId =>
    exact unregisterIf_effect shuffle registry pluginId _
  | recordPong clock pluginId => exact .ponged clock pluginId
  | registerDormant plugin => exact .slept plugin

/-- A reply is dropped, accepts a streaming session in place, or takes the entry. -/
theorem resolveActionResponse_cases (registry : Registry) (clock : Clock) (internalId providerId : String)
    (statusOk : Bool) :
    ((∀ pending, registry.pendingActions.get internalId = some pending → pending.providerId ≠ providerId) ∧
      registry.resolveActionResponse clock internalId providerId statusOk = (registry, none)) ∨
    ∃ pending, registry.pendingActions.get internalId = some pending ∧ pending.providerId = providerId ∧
      ((statusOk = true ∧ pending.streaming = true ∧
        registry.resolveActionResponse clock internalId providerId statusOk =
          ({ registry with
              pendingActions := registry.pendingActions.insert internalId (pending.accept clock.now) },
            some (pending.accept clock.now))) ∨
       (pending.streaming = true → statusOk = false) ∧
        registry.resolveActionResponse clock internalId providerId statusOk =
          ((registry.takePendingAction internalId).1, some pending)) := by
  unfold resolveActionResponse
  cases held : registry.pendingActions.get internalId with
  | none => exact .inl ⟨nofun, rfl⟩
  | some pending =>
    simp only
    split
    next other =>
      refine .inl ⟨fun found same => ?_, rfl⟩
      cases same
      exact other
    next routed =>
      refine .inr ⟨pending, rfl, not_not.mp routed, ?_⟩
      split
      next opens =>
        obtain ⟨ok, streams⟩ := Bool.and_eq_true_iff.mp opens
        exact .inl ⟨ok, streams, rfl⟩
      next ends => exact .inr ⟨fun streams => by simpa [streams] using ends, by rw [takePendingAction, held]⟩

theorem machine_preserves {valid : Registry → Prop} (initial : valid {})
    (preserved : ∀ {registry after}, Effect registry after → valid registry → valid after) (calls : List Call) :
    valid (machine.run calls) := by
  apply Machine.run_preserves
  · exact initial
  · intro registry call
    exact preserved (apply_effect registry call)

end Vynkor.Registry
