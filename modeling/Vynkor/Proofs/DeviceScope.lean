import Vynkor.Proofs.CallerIdentity
import Vynkor.Proofs.RequesterDeparture

/-! Requests of remote devices. A connection is treated as a device's if its plugin id
is the id of a device, so the scope and the filter hold for registrations under the
device's own id. -/

namespace Vynkor
open Lib

def UnderDevice (deviceId caller : String) : Prop :=
  caller = deviceId ∨ ∃ name, caller = deviceId ++ "." ++ name

/-- The registration of a connection was accepted: the connection was not registered
before the request and is now. -/
def Accepts (before after : System) (connId : ConnId) : Prop :=
  before.kernel.registry.getByConnId connId = none ∧ (after.kernel.registry.getByConnId connId).isSome = true

/-- The kernel's answer to a request the table does not admit. -/
def Refused (msg : IncomingMessage) (messageId : String) (request : ActionRequest) (outcome : Outcome) : Prop :=
  ∃ text, outcome.sends = [sendEnvelope msg.writeTx
    { messageId, payload := .actionResponse ⟨request.actionId, .actionPermissionDeny, [], text⟩ }]

/-- Every request of the connection is scoped under the device and filtered by its
entry of the table. -/
def ScopedAndFiltered (config : Config) (kernel : Kernel) (connId : ConnId) (deviceId : String) : Prop :=
  ∀ ambient msg envelope request, msg.connId = connId → msg.frame.payload.decode = some envelope →
    envelope.payload = .actionRequest request →
    (∀ send ∈ (handleKernelMessage config ambient kernel msg).sends, ∀ sent,
      send.item.actionRequest? = some sent → UnderDevice deviceId sent.callerPluginId) ∧
    ∀ rules, config.deviceCallers = some rules →
      (DeviceCaller.new deviceId request.callerPluginId).allowedBy deviceId rules = false →
      Refused msg envelope.messageId request (handleKernelMessage config ambient kernel msg)

/-- No table filters the device, or its entry admits every name. -/
def Unfiltered (config : Config) (deviceId : String) : Prop :=
  ∀ rules, config.deviceCallers = some rules → ∀ claimed,
    (DeviceCaller.new deviceId claimed).allowedBy deviceId rules = true

section Admission
variable {registry : Registry}

private theorem enroll_getByConnId (clock : Clock) (entry : PluginEntry) (info : DeviceMeta) (capabilities : List String) :
    (registry.enroll clock entry info capabilities).getByConnId entry.connId = some entry := by
  rw [Registry.getByConnId, Registry.enroll_byConnId, DashMap.get_insert, if_pos rfl]
  simp only
  rw [Registry.enroll_byPluginId, DashMap.get_insert, if_pos rfl]

private theorem unregisterIf_absent {shuffle : Shuffle String} {pluginId : String} {test : PluginEntry → Bool} {connId : ConnId}
    (consistent : registry.Consistent) (absent : registry.getByConnId connId = none) :
    (registry.unregisterIf shuffle pluginId test).registry.getByConnId connId = none := by
  have after : (registry.unregisterIf shuffle pluginId test).registry.Consistent :=
    consistent.effect (Registry.unregisterIf_effect shuffle registry pluginId test)
  rcases Registry.unregisterIf_cases shuffle registry pluginId test with kept | ⟨entry, -, -, removed⟩
  · rw [kept]
    exact absent
  · cases found : (registry.unregisterIf shuffle pluginId test).registry.getByConnId connId with
    | none => rfl
    | some other =>
      obtain ⟨held, located⟩ := after.getByConnId_iff.mp found
      rw [removed] at held
      have before : registry.byPluginId.get other.pluginId = some other := (DashMap.remove_some.mp held).2
      cases absent.symm.trans (consistent.getByConnId_iff.mpr ⟨before, located⟩)

private theorem evictStale_absent (ambient : Ambient) {kernel : Kernel} (pluginId : String) {connId : ConnId}
    (consistent : kernel.registry.Consistent) (absent : kernel.registry.getByConnId connId = none) :
    (evictStale ambient kernel pluginId).1.registry.getByConnId connId = none := by
  unfold evictStale
  cases kernel.registry.get pluginId with
  | none => exact absent
  | some entry =>
    simp only
    split
    · split <;> exact unregisterIf_absent consistent absent
    · exact absent

private theorem enlist_entry {clock : Clock} {msg : IncomingMessage} {register : PluginRegister} {manifest : PluginManifest}
    {entry : PluginEntry} (absent : registry.getByConnId msg.connId = none)
    (present : (enlist registry clock msg register manifest).1.getByConnId msg.connId = some entry) :
    Enlisted registry msg register manifest entry := by
  rcases enlist_cases registry clock msg register manifest with ⟨error, refused⟩ | ⟨held, info, capabilities, enlisted, enrolled⟩
  · rw [refused, absent] at present
    cases present
  · rw [enrolled, ← enlisted.conn] at present
    cases (enroll_getByConnId ..).symm.trans present
    exact enlisted

end Admission

/-- What the entry of an accepted registration has from the request: its ids, and the permissions
of the token as far as the operator allows them. -/
structure AcceptedAs (config : Config) (clock : Clock) (register : PluginRegister) (entry : PluginEntry) : Prop where
  id : entry.pluginId = register.pluginId
  device : register.deviceId ≠ "" → entry.deviceId = register.deviceId
  permissions : ∃ manifest, authenticate config clock register (register.manifest.getD {}) = .ok manifest ∧
    entry.manifest.permissions = (clampPermissions config register.pluginId manifest).permissions

private theorem handlePluginRegister_entry {config : Config} {ambient : Ambient} {kernel : Kernel} {msg : IncomingMessage}
    {messageId : String} {register : PluginRegister} {entry : PluginEntry} (consistent : kernel.registry.Consistent)
    (absent : kernel.registry.getByConnId msg.connId = none)
    (present : (handlePluginRegister config ambient kernel msg messageId register).kernel.registry.getByConnId msg.connId =
      some entry) : AcceptedAs config ambient.clock register entry := by
  have unchanged : kernel.registry.getByConnId msg.connId ≠ some entry := by
    rw [absent]
    exact nofun
  unfold handlePluginRegister at present
  simp only at present
  split at present
  · exact absurd present unchanged
  · split at present
    · exact absurd present unchanged
    next manifest authentic =>
      split at present
      · exact absurd present unchanged
      · have enlisted := enlist_entry (evictStale_absent ambient register.pluginId consistent absent) present
        exact ⟨enlisted.id, enlisted.device, manifest, authentic, enlisted.permissions⟩

theorem accepted_entry {config : Config} {system : System} {ambient : Ambient} {msg : IncomingMessage}
    {envelope : Envelope} {register : PluginRegister} {entry : PluginEntry}
    (consistent : system.kernel.registry.Consistent) (targeted : msg.frame.target = some "kernel")
    (decoded : msg.frame.payload.decode = some envelope) (payload : envelope.payload = .pluginRegister register)
    (absent : system.kernel.registry.getByConnId msg.connId = none)
    (present : (system.step config (.message ambient msg)).kernel.registry.getByConnId msg.connId = some entry) :
    AcceptedAs config ambient.clock register entry := by
  have unchanged : system.kernel.registry.getByConnId msg.connId ≠ some entry := by
    rw [absent]
    exact nofun
  change (system.handleMessage config ambient msg).kernel.registry.getByConnId msg.connId = some entry at present
  have handles := System.handleMessage_cases config system ambient msg
  generalize system.handleMessage config ambient msg = after at handles present
  cases handles with
  | limited | untargeted | dropped => exact absurd present unchanged
  | routed target unlimited aimed within =>
    cases targeted.symm.trans aimed
    change (handleKernelMessage config (system.observe ambient) system.kernel msg).kernel.registry.getByConnId
      msg.connId = some entry at present
    unfold handleKernelMessage at present
    simp only [decoded, payload, Payload.isRegister, Bool.not_true, Bool.false_and, Bool.false_eq_true, if_false] at present
    exact @handlePluginRegister_entry config (system.observe ambient) _ _ _ _ _ consistent absent present

section Requests
variable {config : Config} {kernel : Kernel} {entry : PluginEntry} {deviceId : String}

private theorem Stamped.underDevice {registry : Registry} {sender claimed caller : String}
    (stamped : Stamped registry sender claimed caller) (under : UnderDevice deviceId sender) :
    UnderDevice deviceId caller := by
  rcases stamped with rfl | ⟨-, -, rfl⟩
  · exact under
  · rcases under with rfl | ⟨name, rfl⟩
    · exact .inr ⟨claimed, rfl⟩
    · exact .inr ⟨name ++ "." ++ claimed, by simp only [String.append_assoc]⟩

private theorem handleKernelMessage_refuses {rules : String → Option (List String)} {ambient : Ambient} {msg : IncomingMessage}
    {envelope : Envelope} {request : ActionRequest} {device : DeviceInfo}
    (registered : kernel.registry.getByConnId msg.connId = some entry)
    (known : kernel.registry.getDevice entry.pluginId = some device) (table : config.deviceCallers = some rules)
    (decoded : msg.frame.payload.decode = some envelope) (payload : envelope.payload = .actionRequest request)
    (unlisted : (DeviceCaller.new entry.pluginId request.callerPluginId).allowedBy entry.pluginId rules = false) :
    Refused msg envelope.messageId request (handleKernelMessage config ambient kernel msg) := by
  have denied : callerDenied config kernel.registry entry.pluginId request = true := by
    simp only [callerDenied, deviceCaller, known, Option.map_some, table, unlisted, Bool.not_false]
  unfold handleKernelMessage
  simp only [decoded, payload, isRegistered_of_getByConnId registered, Bool.not_true, Bool.and_false, Bool.false_eq_true,
    if_false, handlePayload, handleActionRequest, senderId_of_getByConnId registered, denied, chooseRoute, if_true]
  exact ⟨_, rfl⟩

/-- A registration under the device's own id, or under a dotted one where nothing is to
be filtered, keeps every request in scope. -/
theorem scopedAndFiltered_of_entry {connId : ConnId} (consistent : kernel.registry.Consistent)
    (registered : kernel.registry.getByConnId connId = some entry) (owned : entry.deviceId = deviceId)
    (own : entry.pluginId = deviceId ∨ UnderDevice deviceId entry.pluginId ∧ Unfiltered config deviceId) :
    ScopedAndFiltered config kernel connId deviceId := by
  intro ambient msg envelope request here decoded payload
  subst here
  constructor
  · intro send member sent read
    obtain ⟨sender, found, stamped, -⟩ :=
      (handleKernelMessage_stamps config ambient consistent decoded payload send member).2 sent read
    cases registered.symm.trans found
    exact stamped.underDevice (own.elim .inl And.left)
  · intro rules table unlisted
    rcases own with named | ⟨-, unfiltered⟩
    · obtain ⟨held, -⟩ := consistent.getByConnId_iff.mp registered
      obtain ⟨device, known⟩ := consistent.recorded held
      rw [owned, ← named] at known
      rw [← named] at unlisted
      exact handleKernelMessage_refuses registered known table decoded payload unlisted
    · cases unlisted.symm.trans (unfiltered rules table request.callerPluginId)

end Requests

/-- In every run, as long as an accepted registration with a device id stands and was
made under that id, the connection's requests are scoped and filtered. Where nothing is
to be filtered a dotted id of the device does as well. -/
theorem device_scoped_and_filtered (config : Config) (before after : List Input) (ambient : Ambient)
    (msg : IncomingMessage) (envelope : Envelope) (register : PluginRegister)
    (targeted : msg.frame.target = some "kernel") (decoded : msg.frame.payload.decode = some envelope)
    (payload : envelope.payload = .pluginRegister register) (named : register.deviceId ≠ "")
    (accepted : Accepts ((System.machine config).run before)
      ((System.machine config).run (before ++ [.message ambient msg])) msg.connId)
    (own : register.pluginId = register.deviceId ∨
      UnderDevice register.deviceId register.pluginId ∧ Unfiltered config register.deviceId)
    (standing : ((System.machine config).run (before ++ .message ambient msg :: after)).kernel.registry.getByConnId
        msg.connId =
      ((System.machine config).run (before ++ [.message ambient msg])).kernel.registry.getByConnId msg.connId) :
    ScopedAndFiltered config ((System.machine config).run (before ++ .message ambient msg :: after)).kernel msg.connId
      register.deviceId := by
  obtain ⟨absent, admitted⟩ := accepted
  obtain ⟨entry, present⟩ := Option.isSome_iff_exists.mp admitted
  have ids := accepted_entry (System.consistent config before) targeted decoded payload absent
    (by rw [Machine.run_append] at present; exact present)
  refine scopedAndFiltered_of_entry (System.consistent config _) (standing.trans present) (ids.device named) ?_
  rw [ids.id]
  exact own

def noDevices : Config := { deviceCallers := some fun _ => none }

def opener : List Input := [.call (.registerWithDevice ⟨0, 0⟩ "host" 1 { actions := ["open"] } 1 {})]

def tabletAs (pluginId : String) : Input := toKernel 2 (.pluginRegister { pluginId, deviceId := "tablet" })

def openRequest : IncomingMessage := kernelMessage 2 (.actionRequest { actionId := "1", action := "open" })

theorem device_scoped_and_filtered_tablet :
    Refused openRequest "" { actionId := "1", action := "open" }
      (handleKernelMessage noDevices {} ((System.machine noDevices).run (opener ++ [tabletAs "tablet"])).kernel
        openRequest) := by
  have absent : ((System.machine noDevices).run opener).kernel.registry.getByConnId 2 = none :=
    Option.isNone_iff_eq_none.mp (by decide +kernel)
  have present : (((System.machine noDevices).run (opener ++ [tabletAs "tablet"])).kernel.registry.getByConnId 2).isSome =
      true := by decide +kernel
  have filtered := device_scoped_and_filtered noDevices opener [] {}
    (kernelMessage 2 (.pluginRegister { pluginId := "tablet", deviceId := "tablet" })) _ _ rfl rfl rfl (by decide)
    ⟨absent, present⟩ (.inl rfl) rfl
  exact (filtered {} openRequest _ _ rfl rfl rfl).2 _ rfl rfl

/-- Under another id the tablet's requests pass a table that lists no device, and under
a plain one the host does not see that they are the tablet's. -/
theorem device_escapes_table :
    let registered (pluginId : String) := (System.machine noDevices).run (opener ++ [tabletAs pluginId])
    ["pad", "tablet.geo"].map (fun pluginId => ((registered pluginId).kernel.registry.getByConnId 2).map
      fun entry => (entry.pluginId, entry.deviceId)) = [some ("pad", "tablet"), some ("tablet.geo", "tablet")] ∧
    noDevices.deviceCallers.map (fun rules => (DeviceCaller.new "tablet" "").allowedBy "tablet" rules) = some false ∧
    ["pad", "tablet.geo"].map (fun pluginId =>
      (((registered pluginId).step noDevices (.message {} openRequest)).chans 1).queue.map
        fun item => item.actionRequest?.map ActionRequest.callerPluginId) = [[some "pad"], [some "tablet.geo"]] := by
  decide +kernel

end Vynkor
