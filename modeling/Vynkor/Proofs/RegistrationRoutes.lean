import Vynkor.Proofs.RegistryCalls

/-! The two registration routines. `register_device` is `register_with_device` for a device that
registers under its own id with its qualified capabilities as actions. -/

namespace Vynkor.Registry
open Lib

/-- Two registries that differ in nothing but the times they have noted. -/
structure SameUntimed (first second : Registry) : Prop where
  entries : ∀ id, (first.byPluginId.get id).map (fun entry => { entry with registeredAt := 0 }) =
    (second.byPluginId.get id).map fun entry => { entry with registeredAt := 0 }
  pongs : ∀ id, first.pongTimes.containsKey id = second.pongTimes.containsKey id
  devices : ∀ id, (first.devices.get id).map (fun device => { device with lastSeen := 0 }) =
    (second.devices.get id).map fun device => { device with lastSeen := 0 }
  rest : { first with byPluginId := ∅, pongTimes := ∅, devices := ∅ } =
    { second with byPluginId := ∅, pongTimes := ∅, devices := ∅ }

theorem SameUntimed.refl (registry : Registry) : SameUntimed registry registry :=
  ⟨fun _ => rfl, fun _ => rfl, fun _ => rfl, rfl⟩

section Enrolment
variable (registry : Registry) (first second : Clock) {entry other : PluginEntry} {info later : DeviceMeta}
  (capabilities : List String)

private theorem upsertDevice_untimed (devices : DashMap String DeviceInfo) (deviceId : String) (os : info.os = later.os)
    (arch : info.arch = later.arch) (osVersion : info.osVersion = later.osVersion) (id : String) :
    ((upsertDevice devices first deviceId info capabilities).get id).map (fun device => { device with lastSeen := 0 }) =
      ((upsertDevice devices second deviceId later capabilities).get id).map
        fun device => { device with lastSeen := 0 } := by
  unfold upsertDevice
  rw [os, arch, osVersion]
  cases devices.get deviceId with
  | none | some =>
    rw [DashMap.get_insert, DashMap.get_insert]
    split <;> rfl

section
variable (same : { entry with registeredAt := 0 } = { other with registeredAt := 0 }) (os : info.os = later.os)
  (arch : info.arch = later.arch) (osVersion : info.osVersion = later.osVersion)
include same os arch osVersion

/-- The clock of an enrolment goes into nothing but the times. -/
theorem enroll_untimed :
    SameUntimed (registry.enroll first entry info capabilities) (registry.enroll second other later capabilities) := by
  obtain ⟨pluginId, connId, manifest, writeTx, registeredAt, deviceId, userId⟩ := entry
  obtain ⟨pluginId', connId', manifest', writeTx', registeredAt', deviceId', userId'⟩ := other
  cases same
  constructor
  · intro id
    rw [enroll_byPluginId, enroll_byPluginId, DashMap.get_insert, DashMap.get_insert]
    split <;> rfl
  · intro id
    unfold DashMap.containsKey
    rw [enroll_pongTimes, enroll_pongTimes, DashMap.get_insert, DashMap.get_insert]
    split <;> rfl
  · exact upsertDevice_untimed first second capabilities registry.devices _ os arch osVersion
  · rfl

private theorem claim_untimed :
    (registry.claim first entry info capabilities).2 = (registry.claim second other later capabilities).2 ∧
      SameUntimed (registry.claim first entry info capabilities).1
        (registry.claim second other later capabilities).1 := by
  have conn : entry.connId = other.connId := (congrArg PluginEntry.connId same :)
  have id : entry.pluginId = other.pluginId := (congrArg PluginEntry.pluginId same :)
  unfold claim
  rw [conn, id]
  split
  · exact ⟨rfl, .refl registry⟩
  · split
    · exact ⟨rfl, .refl registry⟩
    · exact ⟨rfl, registry.enroll_untimed first second capabilities same os arch osVersion⟩

end

end Enrolment

private theorem validatePluginId_ne_empty {id : String} (valid : validatePluginId id = .ok ()) : id ≠ "" := by
  rintro rfl
  exact absurd valid (by decide)

/-- Registering a device by `register_device`, at any time, has the result of registering it by
`register_with_device` with its qualified capabilities as actions, and leaves the same registry
apart from the times noted. -/
theorem registration_routes_agree (registry : Registry) (first second : Clock) (deviceId : String) (connId : ConnId)
    (caps : List String) (manifest : PluginManifest) (writeTx : Tx) (info : DeviceMeta)
    (identity : info.deviceId = deviceId ∨ info.deviceId = "") :
    let mux := registry.registerDevice first deviceId connId caps manifest writeTx info
    let single := registry.registerWithDevice second deviceId connId
      { manifest with actions := caps.map fun cap => deviceId ++ "." ++ cap } writeTx
      { info with deviceId := deviceId, capabilities := caps }
    (mux.2 = .ok () ↔ single.2 = .ok ()) ∧ mux.2 = single.2 ∧ SameUntimed mux.1 single.1 := by
  intro mux single
  suffices same : mux.2 = single.2 ∧ SameUntimed mux.1 single.1 from ⟨by rw [same.1], same⟩
  change (registry.registerDevice ..).2 = (registry.registerWithDevice ..).2 ∧
    SameUntimed (registry.registerDevice ..).1 (registry.registerWithDevice ..).1
  unfold registerDevice registerWithDevice
  cases named : validatePluginId deviceId with
  | error reason => exact ⟨rfl, .refl registry⟩
  | ok =>
    dsimp only
    cases validateDeviceScope deviceId deviceId with
    | error reason => exact ⟨rfl, .refl registry⟩
    | ok =>
      refine registry.claim_untimed first second caps ?_ rfl rfl rfl
      have own : (if info.deviceId = "" then deviceId else info.deviceId) = deviceId := by
        rcases identity with same | empty
        · rw [same, ite_self]
        · rw [if_pos empty]
      have proper : (if deviceId = "" then "local" else deviceId) = deviceId := if_neg (validatePluginId_ne_empty named)
      unfold muxEntry deviceEntry
      dsimp only
      rw [own, proper]

theorem registration_routes_agree_phone :
    let registry : Registry := {}
    let info : DeviceMeta := { deviceId := "phone", userId := "ann" }
    SameUntimed (registry.registerDevice ⟨1, 1000⟩ "phone" 7 ["geo", "cam"] {} 3 info).1
        (registry.registerWithDevice ⟨2, 2000⟩ "phone" 7 { actions := ["phone.geo", "phone.cam"] } 3
          { info with deviceId := "phone", capabilities := ["geo", "cam"] }).1 ∧
      (registry.registerDevice ⟨1, 1000⟩ "phone" 7 ["geo", "cam"] {} 3 info).2 = .ok () := by
  intro registry info
  have agree := registration_routes_agree registry ⟨1, 1000⟩ ⟨2, 2000⟩ "phone" 7 ["geo", "cam"] {} 3 info (.inl rfl)
  exact ⟨agree.2.2, by decide +kernel⟩

end Vynkor.Registry
