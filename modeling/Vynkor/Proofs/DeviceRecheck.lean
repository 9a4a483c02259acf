import Vynkor.Proofs.SlotAccounting

/-! Revocation and open connections. A connection rechecks the device of the token it was
opened with, so withdrawing a device reaches the connections that registered for it as long as
every registration names that device. -/

namespace Vynkor
open Lib

namespace Gateway

section
variable {aead : Aead} {config : WsConfig} {gateway after : Gateway} {input : GatewayInput} {disk : Disk StoreError}

private theorem stillActive_reads {deviceId : String} (active : gateway.stillActive aead disk deviceId = true) :
    gateway.stillActive aead {} deviceId = true := by
  unfold stillActive activeSecret DeviceStore.activeSecret at active ⊢
  cases got : gateway.devices.get aead disk deviceId with
  | error error => simp [got] at active
  | ok found =>
    have faultless : gateway.devices.get aead {} deviceId = .ok found := by
      unfold DeviceStore.get DeviceStore.transact at got ⊢
      exact Disk.transact_faultless got
    rw [faultless]
    rw [got] at active
    exact active

private theorem accepts_active {register : PluginRegister} (mac : config.router.macSecret = true)
    (store : config.router.deviceStore = true) (named : register.deviceId ≠ "")
    (accepts : gateway.accepts aead config disk register = true) :
    gateway.stillActive aead {} register.deviceId = true := by
  refine @stillActive_reads aead gateway disk _ ?_
  have passed := (Bool.and_eq_true_iff.mp accepts).2
  have checks : (register.deviceId != "" && config.router.macSecret && config.router.deviceStore) = true := by
    simp [mac, store, named]
  unfold deviceSecret at passed
  rw [if_pos checks] at passed
  unfold stillActive
  cases answer : gateway.activeSecret aead disk register.deviceId with
  | error error => simp [answer, isErr, Except.mapError] at passed
  | ok found =>
    cases found with
    | none => simp [answer, isErr, Except.mapError] at passed
    | some secret => rfl

private theorem authorize_every {token : String} {watch : DeviceWatch}
    (admitted : gateway.authorize aead config disk token = .ok (some watch)) : watch.every = secs config.deviceRecheckSecs := by
  unfold authorize at admitted
  split at admitted
  next => cases admitted
  next validate =>
    split at admitted
    next => cases admitted
    next claims valid =>
      split at admitted
      next =>
        split at admitted
        next secret active =>
          split at admitted
          next => cases admitted; rfl
          next => cases admitted
        next => cases admitted
        next => cases admitted
      next => cases admitted

end

/-- A registration for a device comes on a connection that rechecks the device. -/
def watched (gateway : Gateway) : GatewayInput → Bool
  | .register conn _ register _ =>
    register.deviceId == "" ||
      match gateway.conns.get conn with
      | some (.live socket) => socket.recheck.any fun recheck => recheck.watch.deviceId == register.deviceId
      | _ => true
  | _ => true

end Gateway

/-- The watch ticks every `deviceRecheckSecs`, no tick is missed, and the devices that the
connection registered for are the one it watches. -/
def WsStage.Kept (config : WsConfig) (now : Instant) : WsStage → Prop
  | .admitted watch | .upgrading watch => ∀ held, watch = some held → held.every = secs config.deviceRecheckSecs
  | .refused => True
  | .live socket =>
    (∀ recheck, socket.recheck = some recheck → recheck.watch.every = secs config.deviceRecheckSecs ∧
      now ≤ recheck.due ∧ recheck.due ≤ now + secs config.deviceRecheckSecs) ∧
    ∀ deviceId ∈ socket.accepted, deviceId ≠ "" →
      ∃ recheck, socket.recheck = some recheck ∧ recheck.watch.deviceId = deviceId

namespace Gateway

def Kept (config : WsConfig) (gateway : Gateway) : Prop := gateway.conns.Every (WsStage.Kept config gateway.now.nanos)

section
variable {aead : Aead} {config : WsConfig} {gateway after : Gateway} {input : GatewayInput} {conn : Nat}

private theorem opened_kept {watch : Option DeviceWatch} (stage : (WsStage.upgrading watch).Kept config gateway.now.nanos) :
    (WsStage.live (gateway.opened config watch)).Kept config gateway.now.nanos := by
  refine ⟨?_, ?_⟩
  · intro recheck watches
    obtain ⟨held, rfl, rfl⟩ := Option.map_eq_some_iff.mp watches
    have every := stage held rfl
    exact ⟨every, Nat.le_add_right _ _, Nat.add_le_add_left every.le _⟩
  · intro deviceId registered
    cases registered

theorem Kept.goes {socket next : Socket} (kept : gateway.Kept config) (held : gateway.conns.get conn = some (.live socket))
    (guard : gateway.watched input = true) (goes : Socket.Goes aead config gateway conn socket input next) :
    (WsStage.live next).Kept config gateway.now.nanos := by
  obtain ⟨ticks, own⟩ := kept conn _ held
  cases goes with
  | registers disk register accepts =>
    refine ⟨ticks, ?_⟩
    intro deviceId registered named
    rcases List.mem_append.mp registered with earlier | new
    · exact own deviceId earlier named
    · obtain rfl := List.mem_singleton.mp new
      simp only [watched, held, Bool.or_eq_true, beq_iff_eq, named, false_or] at guard
      cases watches : socket.recheck with
      | none => simp [watches] at guard
      | some recheck => exact ⟨recheck, rfl, by simpa [watches] using guard⟩
  | arms => exact ⟨ticks, own⟩
  | rechecks disk recheck watches due active =>
    obtain ⟨every, early, late⟩ := ticks recheck watches
    refine ⟨?_, ?_⟩
    · intro renewed renews
      cases renews
      refine ⟨every, Nat.le_add_right_of_le early, ?_⟩
      exact Nat.add_le_add due every.le
    · intro deviceId registered named
      obtain ⟨old, watches', same⟩ := own deviceId registered named
      cases watches.symm.trans watches'
      exact ⟨_, rfl, same⟩

theorem Kept.step (kept : gateway.Kept config) (guard : gateway.watched input = true)
    (turns : gateway.Turns aead config input after) : after.Kept config := by
  cases turns with
  | nothing | stores => exact kept
  | admits disk token watch admitted =>
    have fresh : (WsStage.admitted watch).Kept config gateway.now.nanos := by
      rintro held rfl
      exact authorize_every admitted
    exact DashMap.Every.insert kept _ fresh
  | refuses conn watch held =>
    have refused : WsStage.refused.Kept config gateway.now.nanos := trivial
    exact DashMap.Every.insert kept conn refused
  | accepts conn watch held room =>
    have upgrading : (WsStage.upgrading watch).Kept config gateway.now.nanos := kept conn (.admitted watch) held
    exact DashMap.Every.insert kept conn upgrading
  | backsOut conn held | abandons conn watch held | ends input conn socket held => exact DashMap.Every.remove kept conn
  | upgrades conn watch held => exact DashMap.Every.insert kept conn (opened_kept (kept conn _ held))
  | goes input conn socket next held goes => exact DashMap.Every.insert kept conn (kept.goes held guard goes)
  | advances moment later idle =>
    intro conn stage there
    have before := kept conn stage there
    cases stage with
    | admitted | refused | upgrading => exact before
    | live socket =>
      refine ⟨?_, before.2⟩
      intro recheck watches
      obtain ⟨every, early, late⟩ := before.1 recheck watches
      have onTime : moment.nanos ≤ recheck.due := by
        by_contra missed
        have due : gateway.dueBefore moment = true :=
          (DashMap.any_iff _ _).mpr ⟨conn, _, there, by simpa [watches] using missed⟩
        rw [idle] at due
        cases due
      exact ⟨every, onTime, late.trans (Nat.add_le_add_right later _)⟩

end

end Gateway

/-- A connection that registered for the device is rechecked by then. -/
def WsStage.DueBy (deviceId : String) (limit : Instant) : WsStage → Prop
  | .live socket => deviceId ∈ socket.accepted → ∀ recheck, socket.recheck = some recheck → recheck.due ≤ limit
  | _ => True

namespace Gateway

def DueBy (deviceId : String) (limit : Instant) (gateway : Gateway) : Prop :=
  gateway.conns.Every (WsStage.DueBy deviceId limit)

section
variable {aead : Aead} {config : WsConfig} {gateway after : Gateway} {input : GatewayInput} {conn : Nat} {deviceId : String}
  {limit : Instant}

theorem DueBy.goes {socket next : Socket} (dueBy : gateway.DueBy deviceId limit) (kept : gateway.Kept config)
    (mac : config.router.macSecret = true) (store : config.router.deviceStore = true) (named : deviceId ≠ "")
    (inactive : gateway.stillActive aead {} deviceId = false) (held : gateway.conns.get conn = some (.live socket))
    (goes : Socket.Goes aead config gateway conn socket input next) : (WsStage.live next).DueBy deviceId limit := by
  have before := dueBy conn _ held
  cases goes with
  | registers disk register accepts =>
    intro registered
    rcases List.mem_append.mp registered with earlier | new
    · exact before earlier
    · obtain rfl := List.mem_singleton.mp new
      cases inactive.symm.trans (accepts_active mac store named accepts)
  | arms => exact before
  | rechecks disk recheck watches due active =>
    intro registered
    obtain ⟨old, watches', same⟩ := (kept conn _ held).2 deviceId registered named
    cases watches.symm.trans watches'
    rw [same] at active
    cases inactive.symm.trans (stillActive_reads active)

theorem DueBy.step (dueBy : gateway.DueBy deviceId limit) (kept : gateway.Kept config)
    (mac : config.router.macSecret = true) (store : config.router.deviceStore = true) (named : deviceId ≠ "")
    (turns : gateway.Turns aead config input after) (inactive : after.stillActive aead {} deviceId = false) :
    after.DueBy deviceId limit := by
  cases turns with
  | nothing | stores | advances => exact dueBy
  | admits disk token watch admitted =>
    have fresh : (WsStage.admitted watch).DueBy deviceId limit := trivial
    exact DashMap.Every.insert dueBy _ fresh
  | refuses conn watch held =>
    have refused : WsStage.refused.DueBy deviceId limit := trivial
    exact DashMap.Every.insert dueBy conn refused
  | accepts conn watch held room =>
    have upgrading : (WsStage.upgrading watch).DueBy deviceId limit := trivial
    exact DashMap.Every.insert dueBy conn upgrading
  | backsOut conn held | abandons conn watch held | ends input conn socket held => exact DashMap.Every.remove dueBy conn
  | upgrades conn watch held =>
    have live : (WsStage.live (gateway.opened config watch)).DueBy deviceId limit := nofun
    exact DashMap.Every.insert dueBy conn live
  | goes input conn socket next held goes =>
    exact DashMap.Every.insert dueBy conn (dueBy.goes kept mac store named inactive held goes)

theorem DueBy.runFrom (mac : config.router.macSecret = true) (store : config.router.deviceStore = true)
    (named : deviceId ≠ "") {inputs : List GatewayInput} (dueBy : gateway.DueBy deviceId limit)
    (kept : gateway.Kept config)
    (obeys : (machine aead config).Obeys (fun gateway input => gateway.watched input = true) gateway inputs)
    (inactive : ∀ count < inputs.length,
      ((machine aead config).runFrom gateway (inputs.take (count + 1))).stillActive aead {} deviceId = false) :
    ((machine aead config).runFrom gateway inputs).DueBy deviceId limit := by
  induction inputs generalizing gateway with
  | nil => exact dueBy
  | cons input inputs ih =>
    have turns := step_turns aead config gateway input
    refine ih (dueBy.step kept mac store named turns (inactive 0 (Nat.succ_pos _))) (kept.step obeys.1 turns) obeys.2 ?_
    intro count few
    exact inactive (count + 1) (Nat.succ_lt_succ few)

end
end Gateway

end Vynkor
