import Vynkor.Proofs.Delivery
import Vynkor.Proofs.PendingOrigins

/-! Who providers believe is calling. The kernel's own arm writes the caller into the
request; frames addressed to peers are handed on as the sender wrote them. -/

namespace Vynkor
open Lib

def Payload.actionRequest? : Payload → Option ActionRequest
  | .actionRequest request => some request
  | _ => none

def Outbound.actionRequest? : Outbound → Option ActionRequest
  | .envelope sent => sent.payload.actionRequest?
  | .frame passed => passed.payload.decode.bind fun sent => sent.payload.actionRequest?
  | .enableMac _ => none

def Payload.claiming (claimed : String) : Payload → Payload
  | .actionRequest request => .actionRequest { request with callerPluginId := claimed }
  | other => other

/-- The same frame with another caller written into its request, as the router decodes
it. -/
def FramePayload.claiming (claimed : String) : FramePayload → FramePayload
  | .envelope sent bytes => .envelope { sent with payload := sent.payload.claiming claimed } bytes
  | .raw bytes => .raw bytes

def IncomingMessage.claiming (msg : IncomingMessage) (claimed : String) : IncomingMessage :=
  { msg with frame := { msg.frame with payload := msg.frame.payload.claiming claimed } }

/-- A caller id that says who the sender is: its plugin id, or for a device that id
and the name of the plugin behind it. -/
def Stamped (registry : Registry) (sender claimed caller : String) : Prop :=
  caller = sender ∨
    (registry.getDevice sender).isSome = true ∧ isPluginSlug claimed = true ∧ caller = sender ++ "." ++ claimed

def PeerChannel (registry : Registry) (connId : ConnId) (tx : Tx) : Prop :=
  ∃ id peer, registry.byPluginId.get id = some peer ∧ peer.connId ≠ connId ∧ peer.writeTx = tx

/-- Whatever caller the sender writes, no peer gets a request with a caller id that
does not say who the sender is. -/
def Unspoofable (config : Config) (system : System) (ambient : Ambient) (msg : IncomingMessage) : Prop :=
  ∀ claimed tx item request, PeerChannel system.kernel.registry msg.connId tx →
    Places system (system.step config (.message ambient (msg.claiming claimed))) tx item →
    item.actionRequest? = some request →
    ∃ sender, system.kernel.registry.getByConnId msg.connId = some sender ∧
      Stamped system.kernel.registry sender.pluginId claimed request.callerPluginId

def PassesRaw (config : Config) (kernel : Kernel) (msg : IncomingMessage) (sender : PluginEntry) (target : String)
    (tx : Tx) : Prop :=
  if target = "*" then
    isErr (checkIpcSend kernel.registry sender.pluginId) = false ∧
    (rawBinary msg.frame && isErr (checkPermission kernel.registry sender.pluginId .permissionAudioStream)) = false ∧
    ∃ id entry, kernel.registry.byPluginId.get id = some entry ∧ entry.connId ≠ msg.connId ∧
      isErr (checkIpcTarget kernel.registry sender.pluginId entry.pluginId) = false ∧ entry.writeTx = tx
  else
    forwardGate kernel.registry sender.pluginId target msg.frame = .ok () ∧
    ((∃ entry, kernel.registry.getMux target = some entry ∧ entry.writeTx = tx) ∨
      kernel.registry.getMux target = none ∧ config.bridge = true ∧ kernel.bridgeConns.head? = some tx)

/-- The router is about to hand the frame to a peer as it is: nothing limits the
sender, the frame is not for the kernel, and a channel of a peer has room for it. -/
def LeavesRaw (config : Config) (system : System) (ambient : Ambient) (msg : IncomingMessage) : Prop :=
  (config.ipcLimiter && ambient.ipcLimited) = false ∧ system.throttled config msg = false ∧
  ∃ sender target tx, system.kernel.registry.getByConnId msg.connId = some sender ∧ msg.frame.target = some target ∧
    target ≠ "kernel" ∧ PassesRaw config system.kernel msg sender target tx ∧
    PeerChannel system.kernel.registry msg.connId tx ∧ (system.chans tx).accepts = true

section Claiming
variable {msg : IncomingMessage} {envelope : Envelope} {request : ActionRequest}

private theorem claiming_decode (decoded : msg.frame.payload.decode = some envelope)
    (payload : envelope.payload = .actionRequest request) (claimed : String) :
    (msg.claiming claimed).frame.payload.decode =
      some { envelope with payload := .actionRequest { request with callerPluginId := claimed } } := by
  unfold IncomingMessage.claiming
  cases carried : msg.frame.payload with
  | raw bytes =>
    rw [carried] at decoded
    cases decoded
  | envelope =>
    rw [carried] at decoded
    cases decoded
    simp only [FramePayload.claiming, FramePayload.decode, Payload.claiming, payload]

private theorem claiming_throttled (config : Config) (system : System) (decoded : msg.frame.payload.decode = some envelope)
    (payload : envelope.payload = .actionRequest request) (claimed : String) :
    system.throttled config (msg.claiming claimed) = system.throttled config msg := by
  have exempt : isThrottleExempt (msg.claiming claimed).frame = isThrottleExempt msg.frame := by
    rw [isThrottleExempt, isThrottleExempt, claiming_decode decoded payload, decoded]
    simp only [payload]
  rw [System.throttled, System.throttled, exempt]
  rfl

private theorem frame_actionRequest {frame : Frame} (decoded : frame.payload.decode = some envelope)
    (payload : envelope.payload = .actionRequest request) :
    (Outbound.frame frame.stripMac).actionRequest? = some request := by
  have same : frame.stripMac.payload.decode = frame.payload.decode := rfl
  simp only [Outbound.actionRequest?, same, decoded, Option.bind_some, payload, Payload.actionRequest?]

end Claiming

section Stamping
variable (config : Config) (ambient : Ambient) (kernel : Kernel) (msg : IncomingMessage) (messageId : String)
  (request : ActionRequest)

private theorem callerId_stamped (registry : Registry) (sender : String) :
    Stamped registry sender request.callerPluginId (callerId registry sender request) := by
  unfold callerId deviceCaller DeviceCaller.new
  cases found : registry.getDevice sender with
  | none => exact .inl rfl
  | some device =>
    simp only [Option.map_some, Option.getD_some]
    split
    next slug =>
      simp only [Bool.and_eq_true] at slug
      exact .inr ⟨by rw [found]; rfl, slug.1, rfl⟩
    next => exact .inl rfl

private theorem handleActionRequest_stamps :
    ∀ send ∈ (handleActionRequest config ambient kernel msg messageId request).sends, send.prompt = true ∧
      ∀ sent, send.item.actionRequest? = some sent →
        Stamped kernel.registry (senderId kernel.registry msg.connId) request.callerPluginId sent.callerPluginId ∧
          sent.action = request.action := by
  apply handleActionRequest_sends
  · intro current status error about
    exact ⟨rfl, nofun⟩
  · intro tx key caller named
    refine ⟨rfl, fun sent read => ?_⟩
    cases read
    rcases named with rfl | rfl
    · exact ⟨.inl rfl, rfl⟩
    · exact ⟨callerId_stamped request _ _, rfl⟩

end Stamping

section Raw
variable (config : Config) (ambient : Ambient) (kernel : Kernel) (msg : IncomingMessage)

theorem mem_list (registry : Registry) (shuffle : Shuffle String) (entry : PluginEntry) :
    entry ∈ registry.list shuffle ↔ ∃ id, registry.byPluginId.get id = some entry := by
  simp only [Registry.list, List.mem_map, Prod.exists, DashMap.mem_iter]
  constructor
  · rintro ⟨id, found, held, rfl⟩
    exact ⟨id, held⟩
  · rintro ⟨id, held⟩
    exact ⟨id, entry, held, rfl⟩

def ErrorOrRaw (send : Send) : Prop :=
  (∃ code text, send = sendError msg.writeTx code text) ∨ send.item = .frame msg.frame.stripMac ∧
    ∃ sender target, kernel.registry.getByConnId msg.connId = some sender ∧ msg.frame.target = some target ∧
      target ≠ "kernel" ∧ PassesRaw config kernel msg sender target send.tx

private theorem broadcast_raw (targeted : msg.frame.target = some "*") :
    ∀ send ∈ (broadcast ambient kernel msg).sends, ErrorOrRaw config kernel msg send := by
  have failed : ∀ code text, ∀ send ∈ [sendError msg.writeTx code text], ErrorOrRaw config kernel msg send :=
    fun code text send member => .inl ⟨code, text, List.mem_singleton.mp member⟩
  have outcome := broadcast_cases ambient kernel msg
  generalize broadcast ambient kernel msg = result at outcome ⊢
  cases outcome with
  | refused => exact failed _ _
  | delivered sender registered allowed audible =>
    intro send member
    obtain ⟨entry, listed, rfl⟩ := List.mem_map.mp member
    obtain ⟨present, passes⟩ := List.mem_filter.mp listed
    obtain ⟨id, held⟩ := (mem_list ..).mp present
    simp only [Bool.and_eq_true, bne_iff_ne, ne_eq, Bool.not_eq_true'] at passes
    refine .inr ⟨rfl, sender, "*", registered, targeted, by decide, ?_⟩
    rw [PassesRaw, if_pos rfl]
    exact ⟨allowed, audible, id, entry, held, passes.1, passes.2, rfl⟩

private theorem forward_raw {target : String} (targeted : msg.frame.target = some target) (peer : target ≠ "kernel")
    (single : target ≠ "*") :
    ∀ send ∈ (forward config ambient kernel msg target).sends, ErrorOrRaw config kernel msg send := by
  have failed : ∀ code text, ∀ send ∈ [sendError msg.writeTx code text], ErrorOrRaw config kernel msg send :=
    fun code text send member => .inl ⟨code, text, List.mem_singleton.mp member⟩
  have outcome := forward_cases config ambient kernel msg target
  generalize forward config ambient kernel msg target = result at outcome ⊢
  cases outcome with
  | refused => exact failed _ _
  | delivered sender entry registered granted resolved =>
    intro send member
    cases List.mem_singleton.mp member
    refine .inr ⟨rfl, sender, target, registered, targeted, peer, ?_⟩
    rw [PassesRaw, if_neg single]
    exact ⟨granted, .inl ⟨entry, resolved, rfl⟩⟩
  | relayed sender tx registered granted missing bridged live rest errored left taken =>
    intro send member
    rcases List.mem_cons.mp member with rfl | other
    · refine .inr ⟨rfl, sender, target, registered, targeted, peer, ?_⟩
      rw [PassesRaw, if_neg single]
      exact ⟨granted, .inr ⟨missing, bridged, live⟩⟩
    · rcases left with ⟨rfl, -⟩ | ⟨rfl, -⟩
      · cases other
      · exact failed _ _ send other

theorem ErrorOrRaw.prompt {send : Send} (passed : ErrorOrRaw config kernel msg send) : send.prompt = true := by
  rcases passed with ⟨code, text, rfl⟩ | ⟨raw, -⟩
  · rfl
  · rw [Send.prompt, raw]

variable {config ambient kernel msg} {sender : PluginEntry} {target : String} {tx : Tx}

theorem routeMessage_raw (targeted : msg.frame.target = some target) (peer : target ≠ "kernel") :
    ∀ send ∈ (routeMessage config ambient kernel msg target).sends, ErrorOrRaw config kernel msg send := by
  rw [routeMessage, if_neg peer]
  split
  next all => exact broadcast_raw config ambient kernel msg (all ▸ targeted)
  next single => exact forward_raw config ambient kernel msg targeted peer single

private theorem routeMessage_passes (registered : kernel.registry.getByConnId msg.connId = some sender) (peer : target ≠ "kernel")
    (passes : PassesRaw config kernel msg sender target tx) (room : ambient.accepts tx = true) :
    (∃ send ∈ (routeMessage config ambient kernel msg target).sends, send.tx = tx) ∧
      ∀ send ∈ (routeMessage config ambient kernel msg target).sends, send.item = .frame msg.frame.stripMac := by
  rw [routeMessage, if_neg peer]
  unfold PassesRaw at passes
  split at passes
  next all =>
    obtain ⟨allowed, audible, id, entry, held, other, listed, rfl⟩ := passes
    rw [if_pos all]
    unfold broadcast
    simp only [registered, allowed, audible, Bool.false_eq_true, if_false]
    constructor
    · refine ⟨_, List.mem_map.mpr ⟨entry, List.mem_filter.mpr ⟨(mem_list ..).mpr ⟨id, held⟩, ?_⟩, rfl⟩, rfl⟩
      simp [other, listed]
    · intro send member
      obtain ⟨recipient, -, rfl⟩ := List.mem_map.mp member
      rfl
  next single =>
    obtain ⟨granted, way⟩ := passes
    rw [if_neg single]
    unfold forward
    simp only [registered, granted]
    rcases way with ⟨entry, found, rfl⟩ | ⟨missing, bridge, head⟩
    · simp only [found]
      refine ⟨⟨_, List.mem_singleton_self _, rfl⟩, fun send member => ?_⟩
      cases List.mem_singleton.mp member
      rfl
    · simp only [missing, bridge, if_true, relayToHost, head, room]
      refine ⟨⟨_, List.mem_singleton_self _, rfl⟩, fun send member => ?_⟩
      cases List.mem_singleton.mp member
      rfl

end Raw

theorem handleKernelMessage_stamps (config : Config) (ambient : Ambient) {kernel : Kernel} {msg : IncomingMessage}
    {envelope : Envelope} {request : ActionRequest} (consistent : kernel.registry.Consistent)
    (decoded : msg.frame.payload.decode = some envelope) (payload : envelope.payload = .actionRequest request) :
    ∀ send ∈ (handleKernelMessage config ambient kernel msg).sends, send.prompt = true ∧
      ∀ sent, send.item.actionRequest? = some sent →
        ∃ sender, kernel.registry.getByConnId msg.connId = some sender ∧
          Stamped kernel.registry sender.pluginId request.callerPluginId sent.callerPluginId ∧
          sent.action = request.action := by
  intro send member
  unfold handleKernelMessage at member
  simp only [decoded, payload, Payload.isRegister, Bool.not_false, Bool.true_and] at member
  split at member
  · cases List.mem_singleton.mp member
    exact ⟨rfl, nofun⟩
  next admitted =>
    obtain ⟨sender, registered⟩ := consistent.getByConnId (by simpa using admitted)
    obtain ⟨prompt, stamped⟩ := handleActionRequest_stamps config ambient kernel msg envelope.messageId request send member
    rw [senderId_of_getByConnId registered] at stamped
    exact ⟨prompt, fun sent read => ⟨sender, registered, stamped sent read⟩⟩

private theorem unlike_stamp (registry : Registry) (sender : String) :
    ¬Stamped registry sender (sender ++ "?") (sender ++ "?") := by
  rintro (same | ⟨-, -, same⟩)
  · have lengths := congrArg String.length same
    rw [String.length_append] at lengths
    change sender.length + 1 = sender.length at lengths
    omega
  · have lengths := congrArg String.length same
    simp only [String.length_append] at lengths
    change sender.length + 1 = sender.length + 1 + (sender.length + 1) at lengths
    omega

section Requests
variable {config : Config} {system : System} {ambient : Ambient} {msg : IncomingMessage} {envelope : Envelope}
  {request : ActionRequest}

private theorem spoofed_of_raw (decoded : msg.frame.payload.decode = some envelope)
    (payload : envelope.payload = .actionRequest request) (leaves : LeavesRaw config system ambient msg) :
    ¬Unspoofable config system ambient msg := by
  obtain ⟨unlimited, unthrottled, sender, target, tx, registered, targeted, peer, passes, channel, room⟩ := leaves
  intro safe
  let forged := msg.claiming (sender.pluginId ++ "?")
  have delivered := congrArg System.chans (@System.handleMessage_routed config system ambient forged target unlimited
    targeted ((claiming_throttled config system decoded payload _).trans unthrottled))
  obtain ⟨⟨send, member, rfl⟩, raw⟩ :=
    @routeMessage_passes config (system.observe ambient) system.kernel forged sender target tx registered peer passes room
  have prompt : ∀ send ∈ (routeMessage config (system.observe ambient) system.kernel forged target).sends,
      send.prompt = true := by
    intro other listed
    rw [Send.prompt, raw other listed]
  obtain ⟨item, places⟩ := placed_of_room delivered member prompt room
  obtain ⟨other, listed, -, rfl⟩ := places_sent delivered places
  have read := frame_actionRequest (claiming_decode decoded payload (sender.pluginId ++ "?")) rfl
  obtain ⟨found, present, stamped⟩ := safe _ _ _ _ channel places (by rw [raw other listed]; exact read)
  cases registered.symm.trans present
  exact unlike_stamp _ _ stamped

private theorem stamped_of_kept (consistent : system.kernel.registry.Consistent)
    (decoded : msg.frame.payload.decode = some envelope) (payload : envelope.payload = .actionRequest request)
    (kept : ¬LeavesRaw config system ambient msg) : Unspoofable config system ambient msg := by
  intro claimed tx item sent channel places read
  have handles := System.handleMessage_cases config system ambient (msg.claiming claimed)
  change Places system (system.handleMessage config ambient (msg.claiming claimed)) tx item at places
  generalize system.handleMessage config ambient (msg.claiming claimed) = after at handles places
  cases handles with
  | limited | untargeted =>
    obtain ⟨send, member, -, rfl⟩ := places_sent rfl places
    cases List.mem_singleton.mp member
    cases read
  | dropped =>
    rw [Places, List.drop_length] at places
    cases places
  | routed target unlimited targeted unthrottled =>
    obtain ⟨send, member, rfl, rfl⟩ := places_sent rfl places
    by_cases kernel : target = "kernel"
    · subst kernel
      obtain ⟨sender, registered, stamped, -⟩ := (handleKernelMessage_stamps config (system.observe ambient) consistent
        (claiming_decode decoded payload claimed) rfl send member).2 sent read
      exact ⟨sender, registered, stamped⟩
    · have passed := @routeMessage_raw config (system.observe ambient) system.kernel _ target targeted kernel
      rcases passed send member with ⟨code, text, rfl⟩ | ⟨-, sender, found, registered, same, peer, passes⟩
      · cases read
      · have room := places_accepts rfl places fun other listed => (passed other listed).prompt
        rw [claiming_throttled config system decoded payload] at unthrottled
        exact absurd ⟨unlimited, unthrottled, sender, found, send.tx, registered, same, peer, passes, channel, room⟩ kept

end Requests

/-- The caller id is safe from the sender exactly if the frame is not handed on raw. -/
theorem caller_unspoofable_iff (config : Config) (inputs : List Input) (ambient : Ambient) (msg : IncomingMessage)
    (envelope : Envelope) (request : ActionRequest) (decoded : msg.frame.payload.decode = some envelope)
    (payload : envelope.payload = .actionRequest request) :
    Unspoofable config ((System.machine config).run inputs) ambient msg ↔
      ¬LeavesRaw config ((System.machine config).run inputs) ambient msg := by
  constructor
  · intro safe leaves
    exact spoofed_of_raw decoded payload leaves safe
  · exact stamped_of_kept (System.consistent config inputs) decoded payload

def peers : List Input :=
  [.call (.registerWithDevice ⟨0, 0⟩ "host" 1 { actions := ["confirm"] } 1 {}),
   .call (.registerWithDevice ⟨0, 0⟩ "app" 2 { permissions := ["ipc_send"], ipcTargets := ["host"] } 2 {})]

def forgedRequest (target : String) : IncomingMessage where
  connId := 2
  writeTx := 2
  frame :=
    let request := { actionId := "1", action := "confirm", callerPluginId := "admin" }
    { target := some target, payload := .envelope { payload := .actionRequest request } }

theorem caller_unspoofable_iff_peers :
    Unspoofable {} ((System.machine {}).run peers) {} (forgedRequest "kernel") ∧
    ¬Unspoofable {} ((System.machine {}).run peers) {} (forgedRequest "host") := by
  constructor
  · refine (caller_unspoofable_iff {} peers {} (forgedRequest "kernel") _ _ rfl rfl).mpr ?_
    rintro ⟨-, -, sender, target, tx, -, targeted, peer, -⟩
    cases targeted
    exact peer rfl
  · rw [caller_unspoofable_iff {} peers {} (forgedRequest "host") _ _ rfl rfl, not_not]
    have registered : (((System.machine {}).run peers).kernel.registry.getByConnId 2).map PluginEntry.pluginId =
        some "app" := by decide +kernel
    have resolved : (((System.machine {}).run peers).kernel.registry.getMux "host").map PluginEntry.writeTx =
        some 1 := by decide +kernel
    have host : (((System.machine {}).run peers).kernel.registry.byPluginId.get "host").map
        (fun entry => (entry.connId, entry.writeTx)) = some (1, 1) := by decide +kernel
    obtain ⟨sender, registered, named⟩ := Option.map_eq_some_iff.mp registered
    obtain ⟨entry, found, channel⟩ := Option.map_eq_some_iff.mp resolved
    obtain ⟨peer, held, located⟩ := Option.map_eq_some_iff.mp host
    obtain ⟨connected, writes⟩ := Prod.mk.inj located
    refine ⟨rfl, by decide +kernel, sender, "host", 1, registered, rfl, by decide, ?_, ⟨"host", peer, held, ?_, writes⟩,
      by decide +kernel⟩
    · rw [PassesRaw, if_neg (by decide), named]
      exact ⟨by decide +kernel, .inl ⟨entry, found, channel⟩⟩
    · rw [connected]
      decide

/-- The host reads the admin's name in requests the app sent it directly or to all. -/
theorem forged_caller_reaches_host :
    let system := (System.machine {}).run peers
    (system.kernel.registry.getByConnId 2).map PluginEntry.pluginId = some "app" ∧
    (system.kernel.registry.getDevice "app").isSome = false ∧
    (system.kernel.registry.get "host").map (fun entry => (entry.connId, entry.writeTx)) = some (1, 1) ∧
    ["host", "*"].map (fun target => ((system.step {} (.message {} (forgedRequest target))).chans 1).queue.map
      fun item => item.actionRequest?.map ActionRequest.callerPluginId) = [[some "admin"], [some "admin"]] := by
  decide +kernel

end Vynkor
