import Vynkor.Bridge
import Vynkor.Proofs.RouterCases

/-! What the host sends is not sent back to it. The action relay refuses messages of
the bridge connection; the fall-through of `forward` does not ask where a frame came
from. -/

namespace Vynkor
open Lib

def Config.unbridged (config : Config) : Config := { config with bridge := false }

/-- `forward` admits the frame, finds no peer for it and turns to the host. -/
structure FallsThrough (config : Config) (system : System) (ambient : Ambient) (msg : IncomingMessage) (target : String)
    (sender : PluginEntry) (tx : Tx) : Prop where
  unlimited : (config.ipcLimiter && ambient.ipcLimited) = false
  within : system.throttled config msg = false
  targeted : msg.frame.target = some target
  peer : target ≠ "kernel" ∧ target ≠ "*"
  registered : system.kernel.registry.getByConnId msg.connId = some sender
  granted : forwardGate system.kernel.registry sender.pluginId target msg.frame = .ok ()
  unresolved : system.kernel.registry.getMux target = none
  live : system.kernel.bridgeConns.head? = some tx

section Host
variable {config : Config} {ambient : Ambient} {kernel : Kernel} {msg : IncomingMessage}

private theorem relayActionToHost_host (host : msg.connId = bridgeConnIdBase) (messageId : String) (request : ActionRequest)
    (sender : String) : relayActionToHost config ambient kernel msg messageId request sender = { kernel } := by
  unfold relayActionToHost
  rw [if_pos]
  simp [host]

private theorem handleKernelMessage_unbridged (host : msg.connId = bridgeConnIdBase) :
    handleKernelMessage config.unbridged ambient kernel msg = handleKernelMessage config ambient kernel msg := by
  have request : ∀ messageId request, handleActionRequest config.unbridged ambient kernel msg messageId request =
      handleActionRequest config ambient kernel msg messageId request := by
    intro messageId request
    unfold handleActionRequest
    simp only [relayActionToHost_host host]
    rfl
  unfold handleKernelMessage
  split
  · rfl
  next envelope decoded =>
    split
    · rfl
    · cases envelope.payload with
      | actionRequest asked => exact request envelope.messageId asked
      | _ => rfl

private theorem forward_unbridged {target : String}
    (kept : ∀ sender, kernel.registry.getByConnId msg.connId = some sender →
      forwardGate kernel.registry sender.pluginId target msg.frame = .ok () →
      kernel.registry.getMux target = none → kernel.bridgeConns.head? = none) :
    forward config.unbridged ambient kernel msg target = forward config ambient kernel msg target := by
  unfold forward
  split
  · rfl
  next sender registered =>
    split
    · rfl
    next granted =>
      split
      · rfl
      next unresolved =>
        have offline := kept sender registered granted unresolved
        have nothing : (if config.bridge = true then relayToHost ambient kernel msg.frame else ([], false)) = ([], false) := by
          unfold relayToHost
          rw [offline]
          exact ite_self _
        rw [nothing]
        rfl

private theorem routeMessage_unbridged (host : msg.connId = bridgeConnIdBase) {target : String}
    (kept : target ≠ "kernel" ∧ target ≠ "*" → ∀ sender, kernel.registry.getByConnId msg.connId = some sender →
      forwardGate kernel.registry sender.pluginId target msg.frame = .ok () →
      kernel.registry.getMux target = none → kernel.bridgeConns.head? = none) :
    routeMessage config.unbridged ambient kernel msg target = routeMessage config ambient kernel msg target := by
  unfold routeMessage
  split
  · exact handleKernelMessage_unbridged host
  next peer =>
    split
    · rfl
    next single => exact forward_unbridged (kept ⟨peer, single⟩)

end Host

section Steps
variable {config : Config} {system : System} {ambient : Ambient} {msg : IncomingMessage}

private theorem System.step_unbridged (host : msg.connId = bridgeConnIdBase)
    (kept : ∀ target sender tx, ¬FallsThrough config system ambient msg target sender tx) :
    system.step config.unbridged (.message ambient msg) = system.step config (.message ambient msg) := by
  change system.handleMessage config.unbridged ambient msg = system.handleMessage config ambient msg
  have handles := System.handleMessage_cases config.unbridged system ambient msg
  generalize system.handleMessage config.unbridged ambient msg = after at handles ⊢
  cases handles with
  | limited limit =>
    unfold handleMessage
    exact (if_pos limit).symm
  | untargeted unlimited missing =>
    unfold handleMessage
    simp only [missing]
    exact (if_neg (Bool.eq_false_iff.mp unlimited)).symm
  | dropped target unlimited targeted spent =>
    unfold handleMessage
    simp only [targeted]
    exact ((if_neg (Bool.eq_false_iff.mp unlimited)).trans (if_pos spent)).symm
  | routed target unlimited targeted within =>
    rw [System.handleMessage_routed config system ambient msg unlimited targeted within]
    have same := @routeMessage_unbridged config (system.observe ambient) system.kernel msg host target
      fun peer sender registered granted unresolved => by
        cases live : system.kernel.bridgeConns.head? with
        | none => rfl
        | some tx =>
          exact absurd ⟨unlimited, within, targeted, peer, registered, granted, unresolved, live⟩ (kept target sender tx)
    unfold System.routed
    rw [same]
    rfl

variable {target : String} {sender : PluginEntry} {tx : Tx}

section
variable (falls : FallsThrough config system ambient msg target sender tx)
include falls

theorem FallsThrough.forwards (other : Config) (same : other = config ∨ other = config.unbridged) :
    (system.step other (.message ambient msg)).log =
      system.log ++ (forward other (system.observe ambient) system.kernel msg target).sends := by
  have routes : system.handleMessage other ambient msg = system.routed other ambient msg target := by
    rcases same with rfl | rfl <;>
    exact System.handleMessage_routed _ system ambient msg falls.unlimited falls.targeted falls.within
  change (system.handleMessage other ambient msg).log = _
  rw [routes, System.routed, routeMessage, if_neg falls.peer.1, if_neg falls.peer.2]
  rfl

private theorem FallsThrough.relays (role : config.bridge = true) : ∃ rest, (system.step config (.message ambient msg)).log =
      system.log ++ ⟨tx, .frame msg.frame.stripMac, none⟩ :: rest := by
  rw [falls.forwards config (.inl rfl)]
  have outcome := forward_cases config (system.observe ambient) system.kernel msg target
  generalize forward config (system.observe ambient) system.kernel msg target = result at outcome ⊢
  cases outcome with
  | refused code reason stopped =>
    have offline := (stopped sender falls.registered falls.granted).2 role
    have live := falls.live
    rw [offline] at live
    cases live
  | delivered other entry registered granted resolved =>
    rw [falls.unresolved] at resolved
    cases resolved
  | relayed other channel registered granted missing bridged live rest errored left taken =>
    rw [falls.live] at live
    cases live
    exact ⟨rest, rfl⟩

theorem FallsThrough.refused : ∃ code reason, (system.step config.unbridged (.message ambient msg)).log =
      system.log ++ [sendError msg.writeTx code reason] := by
  rw [falls.forwards config.unbridged (.inr rfl)]
  have outcome := forward_cases config.unbridged (system.observe ambient) system.kernel msg target
  generalize forward config.unbridged (system.observe ambient) system.kernel msg target = result at outcome ⊢
  cases outcome with
  | refused code reason stopped => exact ⟨code, reason, rfl⟩
  | delivered other entry registered granted resolved =>
    rw [falls.unresolved] at resolved
    cases resolved
  | relayed other channel registered granted missing bridged => cases bridged

end

end Steps

private theorem Bridge.readFrame_connId {bridge : Bridge} {codec : Codec} {frame : Frame} {frameAddr : Nat} {msg : IncomingMessage}
    (arrived : bridge.readFrame codec frame frameAddr = some msg) : msg.connId = bridgeConnIdBase := by
  unfold Bridge.readFrame at arrived
  split at arrived
  · cases arrived
  · split at arrived
    · cases arrived
    · cases arrived
      rfl

/-- A host frame is handled as on a kernel without a bridge unless `forward` finds no
peer for it; in that case it goes back to the host. No request is relayed. -/
theorem host_traffic_returns_iff (config : Config) (role : config.bridge = true) (bridge : Bridge) (codec : Codec)
    (frame : Frame) (frameAddr : Nat) (msg : IncomingMessage) (arrived : bridge.readFrame codec frame frameAddr = some msg)
    (system : System) (ambient : Ambient) :
    (∀ ambient kernel messageId request sender,
      relayActionToHost config ambient kernel msg messageId request sender = { kernel }) ∧
    (system.step config (.message ambient msg) = system.step config.unbridged (.message ambient msg) ↔
      ∀ target sender tx, ¬FallsThrough config system ambient msg target sender tx) ∧
    ∀ target sender tx, FallsThrough config system ambient msg target sender tx →
      ∃ rest, (system.step config (.message ambient msg)).log =
        system.log ++ ⟨tx, .frame msg.frame.stripMac, none⟩ :: rest := by
  have host := Bridge.readFrame_connId arrived
  refine ⟨fun _ _ messageId request sender => relayActionToHost_host host messageId request sender, ⟨?_, ?_⟩,
    fun target sender tx falls => falls.relays role⟩
  · intro same target sender tx falls
    obtain ⟨rest, relayed⟩ := falls.relays role
    obtain ⟨code, reason, told⟩ := falls.refused
    rw [same, told] at relayed
    cases List.append_cancel_left relayed
  · intro kept
    exact (System.step_unbridged host kept).symm

/-- The device `dev` is connected to its host and mirrors `cam`, which is not running. -/
def mirrored : List Input :=
  [.call (.registerWithDevice ⟨0, 0⟩ "dev" bridgeConnIdBase
    { permissions := ["PERMISSION_IPC_SEND"], ipcTargets := ["cam"] } 7
    { deviceId := "dev", userId := "default", capabilities := ["cam"] }), .bridgeUp 7]

def cameraFrame : Frame := { target := some "dev.cam", payload := .raw [1, 2, 3] }

theorem host_traffic_returns_iff_camera :
    let system := (System.machine { bridge := true }).run mirrored
    let msg := (Bridge.mk "dev" 7 none).hostMessage sampleCodec cameraFrame 0
    system.step { bridge := true } (.message {} msg) ≠ system.step ({ bridge := true } : Config).unbridged (.message {} msg) := by
  intro system msg
  have iff := (host_traffic_returns_iff { bridge := true } rfl ⟨"dev", 7, none⟩ sampleCodec cameraFrame 0 msg
    (by decide +kernel) system {}).2.1
  rw [Ne, iff]
  intro kept
  have registered : (system.kernel.registry.getByConnId msg.connId).map PluginEntry.pluginId = some "dev" := by
    decide +kernel
  obtain ⟨sender, registered, named⟩ := Option.map_eq_some_iff.mp registered
  have granted : (isErr (forwardGate system.kernel.registry "dev" "cam" msg.frame)) = false := by decide +kernel
  have unresolved : (system.kernel.registry.getMux "cam").isNone = true := by decide +kernel
  exact kept "cam" sender 7 ⟨rfl, by decide +kernel, by decide +kernel, by decide, registered,
    by rw [named]; exact ok_of_isErr granted, Option.isNone_iff_eq_none.mp unresolved, by decide +kernel⟩

/-- A frame of the host for the camera goes straight back to the host. -/
theorem camera_frame_returns :
    let system := (System.machine { bridge := true }).run mirrored
    let msg := (Bridge.mk "dev" 7 none).hostMessage sampleCodec cameraFrame 0
    (Bridge.mk "dev" 7 none).readFrame sampleCodec cameraFrame 0 = some msg ∧ msg.frame.target = some "cam" ∧
    system.kernel.bridgeConns = [7] ∧
    (system.step { bridge := true } (.message {} msg)).log = [⟨7, .frame msg.frame.stripMac, none⟩] ∧
    ((system.step { bridge := true } (.message {} msg)).chans 7).queue = [.frame msg.frame.stripMac] := by
  decide +kernel

end Vynkor
