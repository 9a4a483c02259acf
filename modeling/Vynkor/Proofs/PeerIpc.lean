import Vynkor.Proofs.CallerIdentity

/-! Frames from one plugin to another. Without a bridge a frame reaches a plugin only
under the sender's permissions and allowlist, and a frame that is refused changes
nothing. -/

namespace Vynkor
open Lib

/-- The sender's allowlist admits the receiver under this target. -/
def Listed (registry : Registry) (sender receiver : PluginEntry) (target : String) : Prop :=
  if target = "*" then receiver.pluginId ∈ sender.manifest.ipcTargets
  else registry.getMux target = some receiver ∧
    (target ∈ sender.manifest.ipcTargets ∨
      ∃ device cap, Text.splitOnce target '.' = some (device, cap) ∧ device ∈ sender.manifest.ipcTargets)

/-- The policy under which a frame goes to a receiver. -/
structure Admitted (registry : Registry) (msg : IncomingMessage) (target : String) (sender receiver : PluginEntry) :
    Prop where
  registered : registry.getByConnId msg.connId = some sender
  present : registry.get receiver.pluginId = some receiver
  permitted : checkIpcSend registry sender.pluginId = .ok ()
  sameUser : receiver.userId = sender.userId
  listed : Listed registry sender receiver target
  audible : rawBinary msg.frame = true → checkPermission registry sender.pluginId .permissionAudioStream = .ok ()

/-- The sender is told of an error, or the frame goes to nobody. -/
def TurnsAway (msg : IncomingMessage) (sends : List Send) : Prop :=
  (∃ code text, sendError msg.writeTx code text ∈ sends) ∨ ∀ send ∈ sends, send.item ≠ .frame msg.frame.stripMac

section Policy
variable {registry : Registry} {msg : IncomingMessage} {target : String} {sender receiver : PluginEntry}

private theorem targetListed_cases (allowed : targetListed registry sender target = true) :
    target ∈ sender.manifest.ipcTargets ∨
      ∃ device cap, Text.splitOnce target '.' = some (device, cap) ∧ device ∈ sender.manifest.ipcTargets := by
  simp only [targetListed, Bool.or_eq_true, Bool.and_eq_true, List.contains_iff_mem] at allowed
  rcases allowed with named | ⟨-, device⟩
  · exact .inl named
  · cases split : Text.splitOnce target '.' with
    | none =>
      rw [split] at device
      cases device
    | some parts =>
      rw [split] at device
      exact .inr ⟨parts.1, parts.2, rfl, List.contains_iff_mem.mp device⟩

private theorem audible_of_gate
    (audible : (rawBinary msg.frame && isErr (checkPermission registry sender.pluginId .permissionAudioStream)) = false)
    (raw : rawBinary msg.frame = true) : checkPermission registry sender.pluginId .permissionAudioStream = .ok () := by
  rw [raw, Bool.true_and] at audible
  exact ok_of_isErr audible

theorem forwardGate_admits (consistent : registry.Consistent) (single : target ≠ "*")
    (registered : registry.getByConnId msg.connId = some sender)
    (granted : forwardGate registry sender.pluginId target msg.frame = .ok ())
    (resolved : registry.getMux target = some receiver) : Admitted registry msg target sender receiver := by
  obtain ⟨id, held⟩ := getMux_registered resolved
  obtain ⟨own, -⟩ := consistent.getByConnId_iff.mp registered
  unfold forwardGate at granted
  split at granted
  · cases granted
  next permitted =>
    rw [show registry.get sender.pluginId = some sender from own] at granted
    simp only [resolved, Option.any_some] at granted
    split at granted
    · cases granted
    next sameUser =>
      split at granted
      · cases granted
      next allowed =>
        split at granted
        · cases granted
        next audible =>
          constructor
          · exact registered
          · rw [consistent.keyed held]
            exact held
          · exact ok_of_isErr (Bool.eq_false_iff.mpr permitted)
          · simpa using sameUser
          · rw [Listed, if_neg single]
            exact ⟨resolved, targetListed_cases (by simpa using allowed)⟩
          · exact audible_of_gate (Bool.eq_false_iff.mpr audible)

theorem checkIpcTarget_admits (consistent : registry.Consistent)
    (registered : registry.getByConnId msg.connId = some sender)
    (allowed : isErr (checkIpcSend registry sender.pluginId) = false)
    (audible : (rawBinary msg.frame && isErr (checkPermission registry sender.pluginId .permissionAudioStream)) = false)
    (present : registry.get receiver.pluginId = some receiver)
    (listed : isErr (checkIpcTarget registry sender.pluginId receiver.pluginId) = false) :
    Admitted registry msg "*" sender receiver := by
  obtain ⟨own, -⟩ := consistent.getByConnId_iff.mp registered
  unfold checkIpcTarget at listed
  rw [show registry.get sender.pluginId = some sender from own, present] at listed
  simp only at listed
  split at listed
  · cases listed
  next sameUser =>
    split at listed
    next named =>
      refine ⟨registered, present, ok_of_isErr allowed, not_not.mp sameUser, ?_, audible_of_gate audible⟩
      rw [Listed, if_pos rfl]
      exact List.contains_iff_mem.mp named
    next => cases listed

end Policy

section Router
variable {config : Config} {ambient : Ambient} {kernel : Kernel} {msg : IncomingMessage} {target : String}

/-- Without a bridge the router hands frames only to receivers the policy admits. -/
theorem routeMessage_admits (isolated : config.bridge = false) (consistent : kernel.registry.Consistent)
    (targeted : msg.frame.target = some target) (peer : target ≠ "kernel") {send : Send}
    (member : send ∈ (routeMessage config ambient kernel msg target).sends)
    (raw : send.item = .frame msg.frame.stripMac) :
    ∃ sender receiver, receiver.writeTx = send.tx ∧ Admitted kernel.registry msg target sender receiver := by
  rcases routeMessage_raw targeted peer send member with ⟨code, text, rfl⟩ | ⟨-, sender, found, registered, same, -, passes⟩
  · cases raw
  · cases targeted.symm.trans same
    unfold PassesRaw at passes
    split at passes
    next all =>
      obtain ⟨allowed, audible, id, receiver, held, -, listed, channel⟩ := passes
      have present : kernel.registry.get receiver.pluginId = some receiver := by
        rw [consistent.keyed held]
        exact held
      subst all
      exact ⟨sender, receiver, channel, checkIpcTarget_admits consistent registered allowed audible present listed⟩
    next single =>
      obtain ⟨granted, ⟨receiver, resolved, channel⟩ | ⟨-, bridged, -⟩⟩ := passes
      · exact ⟨sender, receiver, channel, forwardGate_admits consistent single registered granted resolved⟩
      · cases isolated.symm.trans bridged

private theorem routeMessage_turnsAway (peer : target ≠ "kernel")
    (refused : TurnsAway msg (routeMessage config ambient kernel msg target).sends) :
    (routeMessage config ambient kernel msg target).kernel = kernel := by
  rw [routeMessage, if_neg peer] at refused ⊢
  split
  next all => exact (broadcast_cases ambient kernel msg).silent.1
  next single =>
    rw [if_neg single] at refused
    have outcome := forward_cases config ambient kernel msg target
    generalize forward config ambient kernel msg target = result at outcome refused ⊢
    cases outcome with
    | refused | relayed => rfl
    | delivered =>
      rcases refused with ⟨code, text, told⟩ | nobody
      · cases congrArg Send.item (List.mem_singleton.mp told)
      · exact absurd rfl (nobody _ List.mem_cons_self)

end Router

/-- Peer IPC is denied by default: without a bridge a frame that is not for the kernel
goes to a plugin only under the policy, and if it is turned away nothing changes. -/
theorem peer_ipc_default_deny (config : Config) (isolated : config.bridge = false) (inputs : List Input)
    (ambient : Ambient) (msg : IncomingMessage) (peer : msg.frame.target ≠ some "kernel") :
    let system := (System.machine config).run inputs
    let after := system.step config (.message ambient msg)
    (∀ tx, Places system after tx (.frame msg.frame.stripMac) →
      ∃ target sender receiver, msg.frame.target = some target ∧ receiver.writeTx = tx ∧
        Admitted system.kernel.registry msg target sender receiver) ∧
    (TurnsAway msg (after.log.drop system.log.length) → after.kernel.registry = system.kernel.registry) := by
  intro system after
  have consistent : system.kernel.registry.Consistent := System.consistent config inputs
  have handles : System.Handles config system ambient msg after := System.handleMessage_cases config system ambient msg
  generalize after = next at handles ⊢
  cases handles with
  | limited | untargeted =>
    refine ⟨fun tx places => ?_, fun _ => rfl⟩
    obtain ⟨send, member, -, raw⟩ := places_sent rfl places
    cases List.mem_singleton.mp member
    cases raw
  | dropped =>
    refine ⟨fun tx places => ?_, fun _ => rfl⟩
    rw [Places, List.drop_length] at places
    cases places
  | routed target unlimited targeted within =>
    have apart : target ≠ "kernel" := fun same => peer (same ▸ targeted)
    constructor
    · intro tx places
      obtain ⟨send, member, rfl, raw⟩ := places_sent rfl places
      obtain ⟨sender, receiver, channel, admitted⟩ := routeMessage_admits isolated consistent targeted apart member raw
      exact ⟨target, sender, receiver, targeted, channel, admitted⟩
    · intro refused
      change TurnsAway msg (List.drop _ (system.log ++ _)) at refused
      rw [List.drop_left] at refused
      exact congrArg Kernel.registry (routeMessage_turnsAway apart refused)

/-- The app may talk to the host and to nobody else. -/
theorem peer_ipc_default_deny_peers :
    let system := (System.machine {}).run peers
    let passed := system.step {} (.message {} (forgedRequest "host"))
    let refused := system.step {} (.message {} (forgedRequest "safe"))
    (∃ target sender receiver, (forgedRequest "host").frame.target = some target ∧ receiver.writeTx = 1 ∧
      Admitted system.kernel.registry (forgedRequest "host") target sender receiver) ∧
    Places system passed 1 (.frame (forgedRequest "host").frame.stripMac) ∧
    refused.kernel.registry = system.kernel.registry := by
  have places : Places ((System.machine {}).run peers)
      (((System.machine {}).run peers).step {} (.message {} (forgedRequest "host"))) 1
      (.frame (forgedRequest "host").frame.stripMac) := by decide +kernel
  have told : sendError 2 .errPermissionDenied "target not in ipc_targets allowlist" ∈
      (((System.machine {}).run peers).step {} (.message {} (forgedRequest "safe"))).log.drop
        ((System.machine {}).run peers).log.length := by decide +kernel
  have apart : ∀ name, name ≠ "kernel" → (forgedRequest name).frame.target ≠ some "kernel" :=
    fun name other same => other (Option.some.inj same)
  exact ⟨(peer_ipc_default_deny {} rfl peers {} (forgedRequest "host") (apart _ (by decide))).1 1 places, places,
    (peer_ipc_default_deny {} rfl peers {} (forgedRequest "safe") (apart _ (by decide))).2 (.inl ⟨_, _, told⟩)⟩

end Vynkor
