import Vynkor.Bridge
import Vynkor.Lib.TextField
import Vynkor.Proofs.RegistryCalls

/-! The routing names of a device on the wire. A registration checks the id of the
device, but what travels in the 32 bytes of the target field is `<device>.<cap>`. -/

namespace Vynkor
open Lib

def routingName (deviceId cap : String) : String := deviceId ++ "." ++ cap

/-- `target_as_str` reads the field up to its first NUL. -/
def Codec.ReadsNames (codec : Codec) : Prop := ∀ bytes, codec.targetAsStr bytes = TextField.untilNul bytes

/-- The names of a device are read as they were written, are told apart by their
fields, and give the client its own capability back. -/
structure NamesKept (codec : Codec) (deviceId : String) (caps : List String) : Prop where
  preserved : ∀ cap ∈ caps,
    codec.targetAsStr (targetBytes (routingName deviceId cap)) = some (routingName deviceId cap)
  distinct : ∀ cap ∈ caps, ∀ other ∈ caps, cap ≠ other →
    targetBytes (routingName deviceId cap) ≠ targetBytes (routingName deviceId other)
  stripped : ∀ cap ∈ caps, ∀ frame, stripDevicePrefix (codec.retarget frame (routingName deviceId cap)) deviceId = cap

section Names
variable {deviceId cap : String}

private theorem routingName_toList : (routingName deviceId cap).toList = (deviceId ++ ".").toList ++ cap.toList := by
  unfold routingName
  exact String.toList_append ..

private theorem routingName_injective {other : String} (same : routingName deviceId cap = routingName deviceId other) :
    cap = other := by
  have lists := congrArg String.toList same
  rw [routingName_toList, routingName_toList] at lists
  exact String.toList_injective (List.append_cancel_left lists)

private theorem stripPrefix_routingName : Text.stripPrefix (routingName deviceId cap) (deviceId ++ ".") = some cap := by
  unfold Text.stripPrefix Text.startsWith
  rw [routingName_toList, if_pos (List.isPrefixOf_iff_prefix.mpr (List.prefix_append ..)), List.drop_left,
    String.ofList_toList]

private theorem nul_not_mem_of_valid (valid : validatePluginId deviceId = .ok ()) : TextField.nul ∉ deviceId.toList := by
  unfold validatePluginId validateIdentifier at valid
  intro member
  have refused : deviceId.toList.all (fun char => char.isAlphanum || char == '-' || char == '_' || char == '.') = false :=
    List.all_eq_false.mpr ⟨_, member, by decide⟩
  rw [refused] at valid
  simp only [Bool.not_false, if_true] at valid
  split at valid
  · cases valid
  next passed =>
    split at passed
    · cases passed
    · split at passed
      · cases passed
      · split at passed <;> cases passed

private theorem nul_mem_routingName (valid : validatePluginId deviceId = .ok ()) :
    TextField.nul ∈ (routingName deviceId cap).toList ↔ TextField.nul ∈ cap.toList := by
  have clean := nul_not_mem_of_valid valid
  have dotless : TextField.nul ∉ ".".toList := by decide
  rw [routingName_toList, String.toList_append, List.mem_append, List.mem_append]
  constructor
  · rintro ((inside | dot) | own)
    · exact absurd inside clean
    · exact absurd dot dotless
    · exact own
  · exact .inr

private theorem preserved_iff {codec : Codec} (reads : codec.ReadsNames) (valid : validatePluginId deviceId = .ok ()) :
    codec.targetAsStr (targetBytes (routingName deviceId cap)) = some (routingName deviceId cap) ↔
      (routingName deviceId cap).utf8ByteSize ≤ 32 ∧ TextField.nul ∉ cap.toList := by
  rw [reads, ← nul_mem_routingName valid]
  exact TextField.untilNul_fill

private theorem namesKept_of_preserved {codec : Codec} {caps : List String}
    (preserved : ∀ cap ∈ caps,
      codec.targetAsStr (targetBytes (routingName deviceId cap)) = some (routingName deviceId cap)) :
    NamesKept codec deviceId caps where
  preserved := preserved
  distinct cap member other second apart same := by
    have read := preserved cap member
    rw [same, preserved other second] at read
    exact apart (routingName_injective (Option.some.inj read).symm)
  stripped cap member frame := by
    unfold stripDevicePrefix Codec.retarget
    dsimp only
    rw [preserved cap member, Option.bind_some, stripPrefix_routingName, Option.getD_some]

end Names

/-- The names of an accepted device survive the wire exactly when each of them fits the
field and no capability has a NUL. -/
theorem names_survive_wire (codec : Codec) (reads : codec.ReadsNames) (registry : Registry) (clock : Clock)
    (deviceId : String) (connId : ConnId) (caps : List String) (manifest : PluginManifest) (writeTx : Tx)
    (info : DeviceMeta)
    (accepted : (registry.registerDevice clock deviceId connId caps manifest writeTx info).2 = .ok ()) :
    (∃ entry, (registry.registerDevice clock deviceId connId caps manifest writeTx info).1.get deviceId = some entry ∧
      entry.manifest.actions = caps.map (routingName deviceId)) ∧
    (NamesKept codec deviceId caps ↔
      ∀ cap ∈ caps, (routingName deviceId cap).utf8ByteSize ≤ 32 ∧ TextField.nul ∉ cap.toList) := by
  rcases registry.registerDevice_cases clock deviceId connId caps manifest writeTx info with
    ⟨error, refused⟩ | ⟨valid, -, -, -, enrolled⟩
  · rw [refused] at accepted
    cases accepted
  · constructor
    · rw [enrolled]
      refine ⟨Registry.muxEntry clock deviceId connId caps manifest writeTx info, ?_, rfl⟩
      unfold Registry.get
      rw [Registry.enroll_byPluginId, DashMap.get_insert]
      exact if_pos rfl
    · constructor
      · intro kept cap member
        exact (preserved_iff reads valid).mp (kept.preserved cap member)
      · intro fits
        exact namesKept_of_preserved fun cap member => (preserved_iff reads valid).mpr (fits cap member)

def utf8Codec : Codec := { sampleCodec with targetAsStr := TextField.untilNul }

theorem names_survive_wire_phone : NamesKept utf8Codec "phone" ["camera", "geo"] :=
  (names_survive_wire utf8Codec (fun _ => rfl) {} ⟨0, 0⟩ "phone" 1 ["camera", "geo"] {} 1 {} (by decide +kernel)).2.mpr
    (by decide +kernel)

/-- Two streams of a phone whose names agree in their first 32 bytes. -/
def longCaps : List String := ["notification-history.today", "notification-history.today-only"]

theorem long_names_truncated :
    ((({} : Registry).registerDevice ⟨0, 0⟩ "phone" 1 longCaps {} 1 {}).2 = .ok () ∧ longCaps.Nodup) ∧
    targetBytes "phone.notification-history.today" = targetBytes "phone.notification-history.today-only" ∧
    ¬NamesKept utf8Codec "phone" longCaps := by
  have collide : targetBytes "phone.notification-history.today" = targetBytes "phone.notification-history.today-only" := by
    decide +kernel
  refine ⟨by decide +kernel, collide, fun kept => ?_⟩
  exact kept.distinct "notification-history.today" (by decide) "notification-history.today-only" (by decide) (by decide)
    collide

end Vynkor
