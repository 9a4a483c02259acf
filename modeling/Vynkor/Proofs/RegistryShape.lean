import Vynkor.Proofs.RegistryCalls

/-! The maps of the registry agree with each other after any sequence of calls. -/

namespace Vynkor.Registry
open Lib

/-- The representation invariant over the connection, plugin, pong and device maps. -/
structure Consistent (registry : Registry) : Prop where
  keyed : ∀ {id entry}, registry.byPluginId.get id = some entry → entry.pluginId = id
  conns : ∀ connId id, registry.byConnId.get connId = some id ↔
    ∃ entry, registry.byPluginId.get id = some entry ∧ entry.connId = connId
  ponged : ∀ {id entry}, registry.byPluginId.get id = some entry → ∃ instant, registry.pongTimes.get id = some instant
  recorded : ∀ {id entry}, registry.byPluginId.get id = some entry →
    ∃ device, registry.devices.get entry.deviceId = some device
  online : ∀ {deviceId device}, registry.devices.get deviceId = some device →
    (device.state = .online ↔ ∃ id entry, registry.byPluginId.get id = some entry ∧ entry.deviceId = deviceId)

theorem get_upsertDevice (devices : DashMap String DeviceInfo) (clock : Clock) (deviceId : String) (info : DeviceMeta)
    (capabilities : List String) (other : String) :
    (upsertDevice devices clock deviceId info capabilities).get other =
      if other = deviceId then
        some ⟨((devices.get deviceId).map DeviceInfo.deviceId).getD deviceId, info.os, info.arch, info.osVersion,
          capabilities, clock.unixMillis, .online⟩
      else devices.get other := by
  unfold upsertDevice
  cases devices.get deviceId <;> simp

namespace Consistent
variable {registry : Registry}

theorem initial : Consistent {} where
  keyed := nofun
  conns connId id := by simp
  ponged := nofun
  recorded := nofun
  online := nofun

theorem congr {after : Registry} (consistent : registry.Consistent) (byPluginId : after.byPluginId = registry.byPluginId)
    (byConnId : after.byConnId = registry.byConnId) (pongTimes : after.pongTimes = registry.pongTimes)
    (devices : after.devices = registry.devices) : after.Consistent := by
  constructor
  · rw [byPluginId]; exact consistent.keyed
  · rw [byPluginId, byConnId]; exact consistent.conns
  · rw [byPluginId, pongTimes]; exact consistent.ponged
  · rw [byPluginId, devices]; exact consistent.recorded
  · rw [byPluginId, devices]; exact consistent.online

theorem same_conn (consistent : registry.Consistent) {first second : String} {entry other : PluginEntry}
    (held : registry.byPluginId.get first = some entry) (found : registry.byPluginId.get second = some other)
    (same : entry.connId = other.connId) : first = second := by
  have forward := (consistent.conns other.connId first).mpr ⟨entry, held, same⟩
  have back := (consistent.conns other.connId second).mpr ⟨other, found, rfl⟩
  exact Option.some.inj (forward.symm.trans back)

section Enrolment
variable (consistent : registry.Consistent) (clock : Clock) (entry : PluginEntry) (info : DeviceMeta)
  (capabilities : List String) (freeId : registry.byPluginId.get entry.pluginId = none)
include consistent freeId

private theorem enroll_conns (freeConn : registry.byConnId.get entry.connId = none) (connId : ConnId) (id : String) :
    (registry.byConnId.insert entry.connId entry.pluginId).get connId = some id ↔
      ∃ held, (registry.byPluginId.insert entry.pluginId entry).get id = some held ∧ held.connId = connId := by
  constructor
  · intro mapped
    rcases DashMap.insert_cases mapped with ⟨rfl, rfl⟩ | ⟨-, before⟩
    · exact ⟨entry, by simp, rfl⟩
    · obtain ⟨held, found, located⟩ := (consistent.conns connId id).mp before
      exact ⟨held, DashMap.insert_fresh freeId found, located⟩
  · rintro ⟨held, found, rfl⟩
    rcases DashMap.insert_cases found with ⟨rfl, rfl⟩ | ⟨-, before⟩
    · simp
    · exact DashMap.insert_fresh freeConn ((consistent.conns _ id).mpr ⟨held, before, rfl⟩)

private theorem enroll_online {deviceId : String} {device : DeviceInfo}
    (stored : (upsertDevice registry.devices clock entry.deviceId info capabilities).get deviceId = some device) :
    device.state = .online ↔
      ∃ id held, (registry.byPluginId.insert entry.pluginId entry).get id = some held ∧ held.deviceId = deviceId := by
  rw [get_upsertDevice] at stored
  split at stored
  next same =>
    cases stored
    exact iff_of_true rfl ⟨entry.pluginId, entry, by simp, same.symm⟩
  next elsewhere =>
    -- the newcomer belongs to another device, and it replaces nobody
    rw [consistent.online stored]
    constructor
    · rintro ⟨id, held, found, owner⟩
      exact ⟨id, held, DashMap.insert_fresh freeId found, owner⟩
    · rintro ⟨id, held, found, owner⟩
      rcases DashMap.insert_cases found with ⟨-, rfl⟩ | ⟨-, before⟩
      · exact absurd owner.symm elsewhere
      · exact ⟨id, held, before, owner⟩

theorem enroll (freeConn : registry.byConnId.get entry.connId = none) :
    (registry.enroll clock entry info capabilities).Consistent where
  keyed {id held} found := by
    rcases DashMap.insert_cases found with ⟨rfl, rfl⟩ | ⟨-, before⟩
    · rfl
    · exact consistent.keyed before
  conns := consistent.enroll_conns entry freeId freeConn
  ponged {id held} found := by
    rw [enroll_pongTimes, DashMap.get_insert]
    rcases DashMap.insert_cases found with ⟨rfl, rfl⟩ | ⟨apart, before⟩
    · exact ⟨clock.now, if_pos rfl⟩
    · rw [if_neg apart]
      exact consistent.ponged before
  recorded {id held} found := by
    rw [enroll_devices, get_upsertDevice]
    split
    · exact ⟨_, rfl⟩
    next elsewhere =>
      rcases DashMap.insert_cases found with ⟨-, rfl⟩ | ⟨-, before⟩
      · exact absurd rfl elsewhere
      · exact consistent.recorded before
  online := consistent.enroll_online clock entry info capabilities freeId

end Enrolment

private theorem cleanUp_owners {pluginId deviceId : String} {entry : PluginEntry}
    (held : registry.byPluginId.get pluginId = some entry)
    (kept : deviceId = entry.deviceId →
      ∃ id other, (registry.byPluginId.remove pluginId).get id = some other ∧ other.deviceId = deviceId) :
    (∃ id other, registry.byPluginId.get id = some other ∧ other.deviceId = deviceId) ↔
      ∃ id other, (registry.byPluginId.remove pluginId).get id = some other ∧ other.deviceId = deviceId := by
  constructor
  · rintro ⟨id, other, found, owner⟩
    by_cases same : id = pluginId
    · subst same
      cases held.symm.trans found
      exact kept owner.symm
    · exact ⟨id, other, DashMap.remove_some.mpr ⟨same, found⟩, owner⟩
  · rintro ⟨id, other, found, owner⟩
    exact ⟨id, other, (DashMap.remove_some.mp found).2, owner⟩

section Removal
variable (consistent : registry.Consistent) {pluginId : String} {entry : PluginEntry}
  (held : registry.byPluginId.get pluginId = some entry)
include consistent held

private theorem cleanUp_conns (connId : ConnId) (id : String) :
    (registry.byConnId.remove entry.connId).get connId = some id ↔
      ∃ other, (registry.byPluginId.remove pluginId).get id = some other ∧ other.connId = connId := by
  rw [DashMap.remove_some]
  constructor
  · rintro ⟨elsewhere, mapped⟩
    obtain ⟨other, found, located⟩ := (consistent.conns connId id).mp mapped
    refine ⟨other, DashMap.remove_some.mpr ⟨?_, found⟩, located⟩
    rintro rfl
    cases held.symm.trans found
    exact elsewhere located.symm
  · rintro ⟨other, found, rfl⟩
    obtain ⟨apart, before⟩ := DashMap.remove_some.mp found
    -- only the removed plugin was on its connection
    exact ⟨fun same => apart (consistent.same_conn before held same), (consistent.conns _ id).mpr ⟨other, before, rfl⟩⟩

theorem cleanUp (shuffle : Shuffle String) :
    (cleanUp shuffle { registry with byPluginId := registry.byPluginId.remove pluginId } entry pluginId).1.Consistent where
  keyed {id other} found := consistent.keyed (DashMap.remove_some.mp found).2
  conns := consistent.cleanUp_conns held
  ponged {id other} found := by
    obtain ⟨apart, before⟩ := DashMap.remove_some.mp found
    rw [cleanUp_pongTimes, DashMap.get_remove, if_neg apart]
    exact consistent.ponged before
  recorded {id other} found := by
    obtain ⟨device, stored⟩ := consistent.recorded (DashMap.remove_some.mp found).2
    rw [cleanUp_devices]
    split
    · exact ⟨device, stored⟩
    · exact DashMap.modify_present _ stored
  online {deviceId device} stored := by
    rw [cleanUp_devices] at stored
    rw [cleanUp_byPluginId]
    split at stored
    next remaining =>
      obtain ⟨id, other, found, owner⟩ := (DashMap.any_iff _ _).mp remaining
      rw [consistent.online stored]
      exact cleanUp_owners held fun same => ⟨id, other, found, (beq_iff_eq.mp owner).trans same.symm⟩
    next nobody =>
      rw [DashMap.get_modify] at stored
      split at stored
      next same =>
        obtain ⟨before, -, rfl⟩ := Option.map_eq_some_iff.mp stored
        refine iff_of_false DeviceState.noConfusion ?_
        rintro ⟨id, other, found, owner⟩
        exact nobody ((DashMap.any_iff _ _).mpr ⟨id, other, found, beq_iff_eq.mpr (owner.trans same)⟩)
      next elsewhere =>
        rw [consistent.online stored]
        exact cleanUp_owners held fun same => absurd same elsewhere

end Removal

theorem recordPong (consistent : registry.Consistent) (clock : Clock) (pluginId : String) :
    (registry.recordPong clock pluginId).Consistent where
  keyed := consistent.keyed
  conns := consistent.conns
  ponged {id entry} found := by
    rw [recordPong_pongTimes, DashMap.get_insert]
    split
    · exact ⟨_, rfl⟩
    · exact consistent.ponged found
  recorded {id entry} found := by
    obtain ⟨device, stored⟩ := consistent.recorded found
    rw [recordPong_devices]
    split
    · exact DashMap.modify_present _ stored
    · exact ⟨device, stored⟩
  online {deviceId device} stored := by
    rw [recordPong_devices] at stored
    split at stored
    next entry held =>
      rw [DashMap.get_modify] at stored
      split at stored
      next same =>
        obtain ⟨before, -, rfl⟩ := Option.map_eq_some_iff.mp stored
        exact iff_of_true rfl ⟨pluginId, entry, held, same.symm⟩
      next => exact consistent.online stored
    next => exact consistent.online stored

theorem registerDormant (consistent : registry.Consistent) (plugin : DormantPlugin) :
    (registry.registerDormant plugin).Consistent := by
  unfold Registry.registerDormant dropDormantActions
  cases registry.dormant.get plugin.pluginId with
  | none | some => exact consistent.congr rfl rfl rfl rfl

theorem effect {after : Registry} (happened : Effect registry after) (consistent : registry.Consistent) :
    after.Consistent := by
  cases happened with
  | unchanged => exact consistent
  | enrolled clock entry info capabilities freeConn freeId =>
    exact consistent.enroll clock entry info capabilities freeId freeConn
  | removed shuffle pluginId entry held => exact consistent.cleanUp held shuffle
  | ponged clock pluginId => exact consistent.recordPong clock pluginId
  | slept plugin => exact consistent.registerDormant plugin
  | pending | requirements | gates | used => exact consistent.congr rfl rfl rfl rfl

theorem reachable (calls : List Call) : (machine.run calls).Consistent := machine_preserves initial effect calls

end Consistent

/-- The invariant holds after any sequence of calls, and a refused registration
changes no map. -/
theorem representation (calls : List Call) :
    (machine.run calls).Consistent ∧
    (∀ clock pluginId connId manifest writeTx info error,
      ((machine.run calls).registerWithDevice clock pluginId connId manifest writeTx info).2 = .error error →
      ((machine.run calls).registerWithDevice clock pluginId connId manifest writeTx info).1 = machine.run calls) ∧
    (∀ clock deviceId connId caps manifest writeTx info error,
      ((machine.run calls).registerDevice clock deviceId connId caps manifest writeTx info).2 = .error error →
      ((machine.run calls).registerDevice clock deviceId connId caps manifest writeTx info).1 = machine.run calls) := by
  refine ⟨Consistent.reachable calls, ?_, ?_⟩
  · intro clock pluginId connId manifest writeTx info error failed
    rcases registerWithDevice_cases (machine.run calls) clock pluginId connId manifest writeTx info with
      ⟨reason, refused⟩ | ⟨-, -, -, -, enrolled⟩
    · rw [refused]
    · rw [enrolled] at failed
      cases failed
  · intro clock deviceId connId caps manifest writeTx info error failed
    rcases registerDevice_cases (machine.run calls) clock deviceId connId caps manifest writeTx info with
      ⟨reason, refused⟩ | ⟨-, -, -, -, enrolled⟩
    · rw [refused]
    · rw [enrolled] at failed
      cases failed

end Vynkor.Registry
