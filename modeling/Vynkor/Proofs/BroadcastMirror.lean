import Vynkor.Framing
import Vynkor.Proofs.Channels
import Vynkor.Proofs.PeerIpc

/-! A frame for everyone against the same frame for one plugin. Both go through the
permissions of the sender and the same-user rule, but only a frame for one plugin is
also let through when the allowlist names the plugin's device. -/

namespace Vynkor
open Lib

def IncomingMessage.addressed (msg : IncomingMessage) (target : String) : IncomingMessage :=
  { msg with frame := { msg.frame with target := some target, targetBytes := targetBytes target } }

/-- The router puts the frame on the channel, whether there is room in it or not. -/
def Handed (config : Config) (ambient : Ambient) (kernel : Kernel) (msg : IncomingMessage) (target : String) (tx : Tx) :
    Prop :=
  ⟨tx, .frame (msg.addressed target).frame.stripMac, none⟩ ∈
    (routeMessage config ambient kernel (msg.addressed target) target).sends

instance (config : Config) (ambient : Ambient) (kernel : Kernel) (msg : IncomingMessage) (target : String) (tx : Tx) :
    Decidable (Handed config ambient kernel msg target tx) :=
  inferInstanceAs (Decidable (_ ∈ _))

/-- What both ways ask of the sender and the receiver before they look at the allowlist. -/
structure Entitled (registry : Registry) (msg : IncomingMessage) (sender receiver : PluginEntry) : Prop where
  permitted : checkIpcSend registry sender.pluginId = .ok ()
  sameUser : receiver.userId = sender.userId
  audible : rawBinary msg.frame = true → checkPermission registry sender.pluginId .permissionAudioStream = .ok ()

/-- The allowlist has the device of a dotted id and not the id. -/
def ListsDeviceOnly (sender : PluginEntry) (target : String) : Prop :=
  target ∉ sender.manifest.ipcTargets ∧
    ∃ device cap, Text.splitOnce target '.' = some (device, cap) ∧ device ∈ sender.manifest.ipcTargets

section Policy
variable {registry : Registry} {msg : IncomingMessage} {sender receiver : PluginEntry}

theorem Entitled.allowed (entitled : Entitled registry msg sender receiver) :
    isErr (checkIpcSend registry sender.pluginId) = false := by
  rw [entitled.permitted]
  rfl

private theorem Entitled.unmuted (entitled : Entitled registry msg sender receiver) :
    (rawBinary msg.frame && isErr (checkPermission registry sender.pluginId .permissionAudioStream)) = false := by
  cases raw : rawBinary msg.frame with
  | false => rfl
  | true =>
    rw [entitled.audible raw]
    rfl

private theorem Entitled.addressed (entitled : Entitled registry msg sender receiver) (target : String) :
    Entitled registry (msg.addressed target) sender receiver :=
  ⟨entitled.permitted, entitled.sameUser, entitled.audible⟩

private theorem getMux_of_get (present : registry.get receiver.pluginId = some receiver) :
    registry.getMux receiver.pluginId = some receiver := by
  unfold Registry.getMux
  rw [present]

private theorem targetListed_of_listed {target : String} (resolved : registry.getMux target = some receiver)
    (listed : target ∈ sender.manifest.ipcTargets ∨
      ∃ device cap, Text.splitOnce target '.' = some (device, cap) ∧ device ∈ sender.manifest.ipcTargets) :
    targetListed registry sender target = true := by
  rcases listed with named | ⟨device, cap, split, member⟩
  · simp [targetListed, named]
  · have dotted : Text.contains target '.' = true := by
      unfold Text.contains
      rw [(Text.splitOnce_some split).1]
      simp
    simp [targetListed, dotted, resolved, split, member]

private theorem forwardGate_of_entitled (own : registry.get sender.pluginId = some sender)
    (resolved : registry.getMux receiver.pluginId = some receiver) (entitled : Entitled registry msg sender receiver)
    (listed : targetListed registry sender receiver.pluginId = true) :
    forwardGate registry sender.pluginId receiver.pluginId msg.frame = .ok () := by
  unfold forwardGate
  rw [own, resolved, entitled.allowed, if_neg Bool.false_ne_true]
  dsimp only
  rw [if_neg (by simp [entitled.sameUser]), if_neg (by simp [listed]), entitled.unmuted]
  rfl

private theorem checkIpcTarget_of_listed (own : registry.get sender.pluginId = some sender)
    (present : registry.get receiver.pluginId = some receiver) (sameUser : receiver.userId = sender.userId)
    (listed : receiver.pluginId ∈ sender.manifest.ipcTargets) :
    isErr (checkIpcTarget registry sender.pluginId receiver.pluginId) = false := by
  unfold checkIpcTarget
  rw [own, present]
  dsimp only
  rw [if_neg (not_not.mpr sameUser), if_pos (List.contains_iff_mem.mpr listed)]
  rfl

end Policy

section Router
variable {config : Config} {ambient : Ambient} {kernel : Kernel} {msg : IncomingMessage} {sender receiver : PluginEntry}

/-- The channel of a receiver is that of no other connection. -/
def OwnChannel (registry : Registry) (receiver : PluginEntry) : Prop :=
  ∀ id other, registry.get id = some other → other.writeTx = receiver.writeTx → other.connId = receiver.connId

theorem ownChannel_of_wired (config : Config) {channel : ConnId → Tx} (distinct : Function.Injective channel)
    {inputs : List Input} (wired : ∀ input ∈ inputs, input.Wired channel) {id : String}
    (present : ((System.machine config).run inputs).kernel.registry.get id = some receiver) :
    OwnChannel ((System.machine config).run inputs).kernel.registry receiver :=
  fun _ _ held shared => (Wired.run config wired).sole distinct held present shared

section
variable (consistent : kernel.registry.Consistent) (registered : kernel.registry.getByConnId msg.connId = some sender)
  (present : kernel.registry.get receiver.pluginId = some receiver)
include consistent registered present

private theorem handed_all_iff (other : receiver.pluginId ≠ sender.pluginId) (channel : OwnChannel kernel.registry receiver) :
    Handed config ambient kernel msg "*" receiver.writeTx ↔
      Entitled kernel.registry msg sender receiver ∧ receiver.pluginId ∈ sender.manifest.ipcTargets := by
  obtain ⟨own, located⟩ := consistent.getByConnId_iff.mp registered
  constructor
  · intro handed
    rcases routeMessage_raw rfl (by decide) _ handed with
      ⟨code, text, same⟩ | ⟨-, found, target, named, targeted, -, passes⟩
    · cases congrArg Send.item same
    · cases registered.symm.trans named
      cases targeted
      rw [PassesRaw, if_pos rfl] at passes
      obtain ⟨allowed, audible, id, entry, held, -, listed, writes⟩ := passes
      -- the entry behind the channel is the receiver's
      cases consistent.same_conn held present (channel id entry held writes)
      cases Option.some.inj (held.symm.trans present)
      have admitted : Admitted kernel.registry (msg.addressed "*") "*" sender receiver :=
        checkIpcTarget_admits consistent registered allowed audible present listed
      refine ⟨⟨admitted.permitted, admitted.sameUser, admitted.audible⟩, ?_⟩
      simpa only [Listed, if_true] using admitted.listed
  · rintro ⟨entitled, listed⟩
    have audible : (rawBinary (msg.addressed "*").frame &&
        isErr (checkPermission kernel.registry sender.pluginId .permissionAudioStream)) = false :=
      (entitled.addressed "*").unmuted
    have apart : receiver.connId ≠ msg.connId := fun same =>
      other (consistent.same_conn present own (same.trans located.symm))
    have allowed := checkIpcTarget_of_listed own present entitled.sameUser listed
    change _ ∈ (broadcast ambient kernel (msg.addressed "*")).sends
    unfold broadcast
    rw [show kernel.registry.getByConnId (msg.addressed "*").connId = some sender from registered]
    simp only [entitled.allowed, audible, Bool.false_eq_true, if_false]
    refine List.mem_map.mpr ⟨receiver, List.mem_filter.mpr ⟨(mem_list ..).mpr ⟨_, present⟩, ?_⟩, rfl⟩
    rw [allowed, Bool.not_false, Bool.and_true]
    exact bne_iff_ne.mpr apart

private theorem handed_one_iff (valid : validatePluginId receiver.pluginId = .ok ()) :
    Handed config ambient kernel msg receiver.pluginId receiver.writeTx ↔
      Entitled kernel.registry msg sender receiver ∧ (receiver.pluginId ∈ sender.manifest.ipcTargets ∨
        ∃ device cap, Text.splitOnce receiver.pluginId '.' = some (device, cap) ∧ device ∈ sender.manifest.ipcTargets) := by
  obtain ⟨own, -⟩ := consistent.getByConnId_iff.mp registered
  have resolved := getMux_of_get present
  have unreserved : receiver.pluginId ≠ "kernel" ∧ receiver.pluginId ≠ "*" := by
    unfold validatePluginId at valid
    split at valid
    · cases valid
    · split at valid
      · cases valid
      next free => exact not_or.mp free
  constructor
  · intro handed
    rcases routeMessage_raw rfl unreserved.1 _ handed with
      ⟨code, text, same⟩ | ⟨-, found, target, named, targeted, -, passes⟩
    · cases congrArg Send.item same
    · cases registered.symm.trans named
      cases targeted
      rw [PassesRaw, if_neg unreserved.2] at passes
      have admitted : Admitted kernel.registry (msg.addressed receiver.pluginId) receiver.pluginId sender receiver :=
        forwardGate_admits consistent unreserved.2 registered passes.1 resolved
      refine ⟨⟨admitted.permitted, admitted.sameUser, admitted.audible⟩, ?_⟩
      have listed := admitted.listed
      rw [Listed, if_neg unreserved.2] at listed
      exact listed.2
  · rintro ⟨entitled, listed⟩
    have granted : forwardGate kernel.registry sender.pluginId receiver.pluginId (msg.addressed receiver.pluginId).frame =
        .ok () :=
      forwardGate_of_entitled own resolved (entitled.addressed _) (targetListed_of_listed resolved listed)
    unfold Handed routeMessage
    rw [if_neg unreserved.1, if_neg unreserved.2]
    unfold forward
    rw [show kernel.registry.getByConnId (msg.addressed receiver.pluginId).connId = some sender from registered]
    dsimp only
    rw [granted, resolved]
    exact List.mem_singleton_self _

end

/-- A frame for everyone reaches a plugin exactly when it would reach it alone, unless
the sender may write to the plugin's user and lists the plugin's device but not the plugin. -/
theorem broadcast_mirrors_forward (config : Config) (ambient : Ambient) (kernel : Kernel) (msg : IncomingMessage)
    (sender receiver : PluginEntry) (consistent : kernel.registry.Consistent)
    (registered : kernel.registry.getByConnId msg.connId = some sender)
    (present : kernel.registry.get receiver.pluginId = some receiver)
    (valid : validatePluginId receiver.pluginId = .ok ()) (other : receiver.pluginId ≠ sender.pluginId)
    (channel : OwnChannel kernel.registry receiver) :
    (Handed config ambient kernel msg "*" receiver.writeTx ↔
      Handed config ambient kernel msg receiver.pluginId receiver.writeTx) ↔
    ¬(Entitled kernel.registry msg sender receiver ∧ ListsDeviceOnly sender receiver.pluginId) := by
  rw [handed_all_iff consistent registered present other channel, handed_one_iff consistent registered present valid]
  constructor
  · rintro same ⟨entitled, unlisted, device⟩
    exact unlisted (same.mpr ⟨entitled, .inr device⟩).2
  · intro mirrored
    constructor
    · rintro ⟨entitled, listed⟩
      exact ⟨entitled, .inl listed⟩
    · rintro ⟨entitled, listed⟩
      refine ⟨entitled, ?_⟩
      rcases listed with named | device
      · exact named
      · by_contra unlisted
        exact mirrored ⟨entitled, unlisted, device⟩

/-- A host on connection 1, a camera of the phone on connection 3, and an app that lists
the host and the phone. -/
def phoneCamera : List Input :=
  [.call (.registerWithDevice ⟨0, 0⟩ "host" 1 {} 1 {}),
   .call (.registerWithDevice ⟨0, 0⟩ "app" 2 { permissions := ["ipc_send"], ipcTargets := ["host", "phone"] } 2 {}),
   .call (.registerWithDevice ⟨0, 0⟩ "phone.cam" 3 {} 3 { deviceId := "phone" })]

def appNote : IncomingMessage := { connId := 2, writeTx := 2, frame := { target := none, payload := .raw [1] } }

theorem broadcast_mirrors_forward_host :
    let kernel := ((System.machine {}).run phoneCamera).kernel
    Handed {} {} kernel appNote "*" 1 ∧ Handed {} {} kernel appNote "host" 1 := by
  intro kernel
  have alone : Handed {} {} kernel appNote "host" 1 := by decide +kernel
  have registered : (kernel.registry.getByConnId 2).map (fun entry => (entry.pluginId, entry.manifest.ipcTargets)) =
      some ("app", ["host", "phone"]) := by decide +kernel
  have present : (kernel.registry.get "host").map (fun entry => (entry.pluginId, entry.connId, entry.writeTx)) =
      some ("host", 1, 1) := by decide +kernel
  have wired : ∀ input ∈ phoneCamera, input.Wired id := by simp [phoneCamera, Input.Wired]
  obtain ⟨sender, registered, described⟩ := Option.map_eq_some_iff.mp registered
  obtain ⟨receiver, present, located⟩ := Option.map_eq_some_iff.mp present
  simp only [Prod.mk.injEq] at described located
  obtain ⟨named, -, writes⟩ := located
  have mirrors := broadcast_mirrors_forward {} {} kernel appNote sender receiver (System.consistent {} phoneCamera)
    registered (named ▸ present) (by rw [named]; decide +kernel) (by rw [named, described.1]; decide)
    (ownChannel_of_wired {} Function.injective_id wired (named ▸ present))
  rw [named, writes] at mirrors
  refine ⟨(mirrors.mpr ?_).mpr alone, alone⟩
  rintro ⟨-, unlisted, -⟩
  exact unlisted (by rw [described.2]; decide)

theorem broadcast_misses_camera :
    let kernel := ((System.machine {}).run phoneCamera).kernel
    (kernel.registry.get "phone.cam").map PluginEntry.writeTx = some 3 ∧ validatePluginId "phone.cam" = .ok () ∧
    Handed {} {} kernel appNote "phone.cam" 3 ∧ ¬Handed {} {} kernel appNote "*" 3 := by
  decide +kernel

end Router

end Vynkor
