import Vynkor.Proofs.Channels
import Vynkor.Proofs.RequesterDeparture

/-! The four messages of an action in flight. Each names at most one pending action,
by the kernel's id if it comes from a provider and by the requester's own id if not,
and leaves all others alone. -/

namespace Vynkor
open Lib

def Payload.isActionTraffic : Payload → Bool
  | .actionResponse _ | .actionResponseChunk _ | .actionRequestChunk _ | .sessionClose _ => true
  | _ => false

/-- The entry of this kernel id, if it was routed to the sender. -/
def routedTo (registry : Registry) (sender internalId : String) : Option String :=
  if (registry.getPendingAction internalId).any fun pending => pending.providerId == sender then some internalId else none

/-- The key of the pending action that a message of this sender resolves to. -/
def resolvedEntry (shuffle : Shuffle String) (registry : Registry) (sender : String) : Payload → Option String
  | .actionResponse response => routedTo registry sender response.actionId
  | .actionResponseChunk chunk => routedTo registry sender chunk.actionId
  | .actionRequestChunk chunk => registry.findPendingInternalId shuffle sender chunk.actionId
  | .sessionClose close => (resolveClose shuffle registry sender close.actionId).map Prod.fst
  | _ => none

/-- Nothing but the resolved entry changes, and a message that resolves to none is
answered with errors at most. -/
structure Confined (kernel : Kernel) (tx : Tx) (resolved : Option String) (outcome : Outcome) : Prop where
  others : ∀ key, resolved ≠ some key →
    outcome.kernel.registry.pendingActions.get key = kernel.registry.pendingActions.get key
  replies : resolved = none → ∀ send ∈ outcome.sends, ∃ code text, send = sendError tx code text

section Lookup
variable {shuffle : Shuffle String} {registry : Registry} {sender key : String} {pending : PendingAction}

private theorem routedTo_provider {internalId : String} (resolved : routedTo registry sender internalId = some key)
    (held : registry.pendingActions.get key = some pending) : pending.providerId = sender := by
  unfold routedTo at resolved
  split at resolved
  next routed =>
    cases resolved
    simpa [Registry.getPendingAction, held] using routed
  next => cases resolved

private theorem resolvedEntry_party {payload : Payload} (resolved : resolvedEntry shuffle registry sender payload = some key)
    (held : registry.pendingActions.get key = some pending) :
    pending.providerId = sender ∨ pending.requesterId = sender := by
  have requested : ∀ {actionId}, registry.findPendingInternalId shuffle sender actionId = some key →
      pending.requesterId = sender := by
    intro actionId found
    obtain ⟨other, there, requester, -⟩ := findPendingInternalId_held found
    cases held.symm.trans there
    exact requester
  cases payload with
  | actionResponse | actionResponseChunk => exact .inl (routedTo_provider resolved held)
  | actionRequestChunk chunk => exact .inr (requested resolved)
  | sessionClose close =>
    obtain ⟨⟨found, other, fromProvider⟩, closed, rfl⟩ := Option.map_eq_some_iff.mp resolved
    obtain ⟨there, routed, asked⟩ := resolveClose_cases closed
    cases held.symm.trans there
    cases fromProvider with
    | true => exact .inl (routed rfl)
    | false => exact .inr (requested (asked rfl))
  | _ => cases resolved

end Lookup

section Handlers
variable (ambient : Ambient) (kernel : Kernel) (msg : IncomingMessage) (messageId : String)

theorem Confined.still (resolved : Option String) : Confined kernel msg.writeTx resolved { kernel } :=
  ⟨fun _ _ => rfl, fun _ _ member => absurd member List.not_mem_nil⟩

theorem Confined.reply (resolved : Option String) (code : ErrorCode) (text : String) :
    Confined kernel msg.writeTx resolved { kernel, sends := [sendError msg.writeTx code text], errored := true } :=
  ⟨fun _ _ => rfl, fun _ _ member => ⟨code, text, List.mem_singleton.mp member⟩⟩

theorem Confined.at {outcome : Outcome} (key : String)
    (others : ∀ other, other ≠ key →
      outcome.kernel.registry.pendingActions.get other = kernel.registry.pendingActions.get other) :
    Confined kernel msg.writeTx (some key) outcome :=
  ⟨fun other apart => others other fun same => apart (same ▸ rfl), nofun⟩

private theorem get_take_other {registry : Registry} {key other : String} (apart : other ≠ key) :
    (registry.takePendingAction key).1.pendingActions.get other = registry.pendingActions.get other := by
  rw [Registry.takePendingAction, DashMap.get_remove, if_neg apart]

private theorem get_touch_other {registry : Registry} {key other : String} (apart : other ≠ key) :
    (registry.touchPendingAction ambient.clock key).pendingActions.get other = registry.pendingActions.get other := by
  rw [Registry.touchPendingAction, DashMap.get_modify, if_neg apart]

private theorem get_abort_other {registry : Registry} {key other : String} (reason : String) (apart : other ≠ key) :
    (abortStream registry key reason).1.pendingActions.get other = registry.pendingActions.get other := by
  have taken : (registry.takePendingAction key).1.pendingActions.get other = registry.pendingActions.get other :=
    get_take_other apart
  unfold abortStream
  cases found : registry.takePendingAction key with
  | mk left pending =>
    rw [found] at taken
    cases pending <;> exact taken

private theorem passChunk_confined (key : String) (tx : Tx) (envelope : Envelope) (about : Option Nat) :
    Confined kernel msg.writeTx (some key) (passChunk ambient kernel key tx envelope about) := by
  refine .at kernel msg key fun other apart => ?_
  unfold passChunk
  simp only
  split
  · exact get_touch_other ambient apart
  · exact (get_abort_other _ apart).trans (get_touch_other ambient apart)

variable {kernel msg} {sender : PluginEntry}

section
variable (registered : kernel.registry.getByConnId msg.connId = some sender)
include registered

private theorem handleActionResponse_confined (response : ActionResponse) :
    Confined kernel msg.writeTx (routedTo kernel.registry sender.pluginId response.actionId)
      (handleActionResponse ambient kernel msg messageId response) := by
  unfold handleActionResponse
  rw [registered]
  simp only
  rcases kernel.registry.resolveActionResponse_cases ambient.clock response.actionId sender.pluginId
    (response.status == .actionOk) with ⟨-, kept⟩ | ⟨pending, held, routed, result⟩
  · rw [kept]
    exact .still kernel msg _
  · have own : routedTo kernel.registry sender.pluginId response.actionId = some response.actionId := by
      simp [routedTo, Registry.getPendingAction, held, routed]
    rw [own]
    refine .at kernel msg _ fun other apart => ?_
    rcases result with ⟨-, -, accepted⟩ | ⟨-, taken⟩
    · rw [accepted]
      simp only [Registry.touchUsed_pendingActions]
      rw [DashMap.get_insert, if_neg apart]
    · rw [taken]
      simp only [Registry.touchUsed_pendingActions]
      exact get_take_other apart

private theorem handleActionResponseChunk_confined (chunk : ActionResponseChunk) :
    Confined kernel msg.writeTx (routedTo kernel.registry sender.pluginId chunk.actionId)
      (handleActionResponseChunk ambient kernel msg messageId chunk) := by
  unfold handleActionResponseChunk
  rw [registered]
  simp only
  split
  · exact .still kernel msg _
  next pending held =>
    obtain ⟨stored, routed⟩ := Option.filter_eq_some_iff.mp held
    have own : routedTo kernel.registry sender.pluginId chunk.actionId = some chunk.actionId := by
      simp only [routedTo, stored, Option.any_some, routed, if_true]
    rw [own]
    exact passChunk_confined ambient kernel msg ..

private theorem handleActionRequestChunk_confined (chunk : ActionRequestChunk) :
    Confined kernel msg.writeTx (kernel.registry.findPendingInternalId ambient.shuffle sender.pluginId chunk.actionId)
      (handleActionRequestChunk ambient kernel msg messageId chunk) := by
  unfold handleActionRequestChunk
  rw [senderId_of_getByConnId registered]
  simp only
  cases kernel.registry.findPendingInternalId ambient.shuffle sender.pluginId chunk.actionId with
  | none => exact .still kernel msg _
  | some internalId =>
    simp only
    split
    · exact .still kernel msg _
    · split
      · exact passChunk_confined ambient kernel msg ..
      · exact .at kernel msg _ fun other apart => (get_abort_other _ apart).trans (get_touch_other ambient apart)

private theorem handleSessionClose_confined (close : SessionClose) : Confined kernel msg.writeTx
      ((resolveClose ambient.shuffle kernel.registry sender.pluginId close.actionId).map Prod.fst)
      (handleSessionClose ambient kernel msg messageId close) := by
  unfold handleSessionClose
  rw [registered]
  simp only
  cases resolveClose ambient.shuffle kernel.registry sender.pluginId close.actionId with
  | none => exact .reply kernel msg _ _ _
  | some found =>
    simp only
    split
    · exact .reply kernel msg _ _ _
    · exact .at kernel msg _ fun other apart => get_take_other apart

end

private theorem handleKernelMessage_confined (config : Config) {envelope : Envelope}
    (decoded : msg.frame.payload.decode = some envelope) (traffic : envelope.payload.isActionTraffic = true)
    (registered : kernel.registry.getByConnId msg.connId = some sender) :
    Confined kernel msg.writeTx (resolvedEntry ambient.shuffle kernel.registry sender.pluginId envelope.payload)
      (handleKernelMessage config ambient kernel msg) := by
  have admitted := isRegistered_of_getByConnId registered
  unfold handleKernelMessage
  rw [decoded]
  simp only [admitted, Bool.not_true, Bool.and_false, Bool.false_eq_true, if_false]
  cases payload : envelope.payload with
  | actionResponse response => exact handleActionResponse_confined ambient _ registered response
  | actionResponseChunk chunk => exact handleActionResponseChunk_confined ambient _ registered chunk
  | actionRequestChunk chunk => exact handleActionRequestChunk_confined ambient _ registered chunk
  | sessionClose close => exact handleSessionClose_confined ambient _ registered close
  | _ =>
    rw [payload] at traffic
    cases traffic

end Handlers

private theorem System.step_confined (config : Config) (system : System) (ambient : Ambient) {msg : IncomingMessage}
    {envelope : Envelope} {sender : PluginEntry} (targeted : msg.frame.target = some "kernel")
    (decoded : msg.frame.payload.decode = some envelope) (traffic : envelope.payload.isActionTraffic = true)
    (registered : system.kernel.registry.getByConnId msg.connId = some sender) :
    ∃ outcome, (system.step config (.message ambient msg)).kernel = outcome.kernel ∧
      (system.step config (.message ambient msg)).log = system.log ++ outcome.sends ∧
      Confined system.kernel msg.writeTx
        (resolvedEntry ambient.shuffle system.kernel.registry sender.pluginId envelope.payload) outcome := by
  change ∃ outcome : Outcome, (system.handleMessage config ambient msg).kernel = outcome.kernel ∧
    (system.handleMessage config ambient msg).log = system.log ++ outcome.sends ∧ _
  have handles := System.handleMessage_cases config system ambient msg
  generalize system.handleMessage config ambient msg = after at handles ⊢
  cases handles with
  | limited limit => exact ⟨⟨system.kernel, _, none, true⟩, rfl, rfl, .reply system.kernel msg _ _ _⟩
  | untargeted unlimited missing => cases targeted.symm.trans missing
  | dropped =>
    exact ⟨{ kernel := system.kernel }, rfl, (List.append_nil _).symm, .still system.kernel msg _⟩
  | routed target unlimited aimed within =>
    cases targeted.symm.trans aimed
    exact ⟨_, rfl, rfl, handleKernelMessage_confined (system.observe ambient) config decoded traffic registered⟩

/-- Whoever is neither provider nor requester of an action in flight leaves its entry
as it is, and causes no more than an error on the channel the message came on unless
the message resolves to another entry. Where each connection keeps its channel, that one is
the requester's only if the connection asked under another name. A requester cannot answer
its own action. -/
theorem third_party_confined (config : Config) (system : System) (ambient : Ambient) (msg : IncomingMessage)
    (envelope : Envelope) (sender : PluginEntry) (key : String) (pending : PendingAction)
    (targeted : msg.frame.target = some "kernel") (decoded : msg.frame.payload.decode = some envelope)
    (traffic : envelope.payload.isActionTraffic = true)
    (registered : system.kernel.registry.getByConnId msg.connId = some sender)
    (held : system.kernel.registry.pendingActions.get key = some pending)
    (stranger : sender.pluginId ≠ pending.providerId) :
    let after := system.step config (.message ambient msg)
    (sender.pluginId ≠ pending.requesterId →
      after.kernel.registry.pendingActions.get key = some pending ∧
      (resolvedEntry ambient.shuffle system.kernel.registry sender.pluginId envelope.payload = none →
        ∃ sends, after.log = system.log ++ sends ∧
          ∀ send ∈ sends, ∃ code text, send = sendError msg.writeTx code text) ∧
      ∀ channel inputs, Function.Injective channel → (∀ input ∈ .message ambient msg :: inputs, input.Wired channel) →
        system = (System.machine config).run inputs → pending.requesterWriteTx = msg.writeTx →
        ∃ issue before request, Origin config inputs pending.serial issue before request ∧
          request.connId = msg.connId ∧ issue.pending.Same pending) ∧
    (∀ response, envelope.payload = .actionResponse response →
      after.kernel.registry.pendingActions.get key = some pending) := by
  obtain ⟨outcome, reached, logged, confined⟩ := System.step_confined config system ambient targeted decoded traffic registered
  intro after
  refine ⟨fun apart => ⟨?_, fun unresolved => ⟨outcome.sends, logged, confined.replies unresolved⟩, ?_⟩, fun response answers => ?_⟩
  · rw [reached, confined.others key, held]
    intro resolved
    rcases resolvedEntry_party resolved held with provider | requester
    · exact stranger provider.symm
    · exact apart requester.symm
  · intro channel inputs distinct wired reachable shared
    have own : msg.writeTx = channel msg.connId := wired _ List.mem_cons_self
    rw [reachable] at held
    exact requester_channel config distinct (fun input member => wired input (List.mem_cons_of_mem _ member)) held
      (shared.trans own)
  · rw [reached, confined.others key, held]
    intro resolved
    rw [answers] at resolved
    exact stranger (routedTo_provider resolved held).symm

/-- The app is stopped while its connection stays up and registers under another name. -/
def renamed : List Input :=
  [.call (.unregister (.unchanged String) "app"), .call (.registerWithDevice ⟨0, 0⟩ "other" 2 {} 2 {})]

def closeUnknown : Payload := .sessionClose { actionId := "9", reason := "" }

theorem third_party_confined_renamed :
    let system := (System.machine {}).run (watching ++ renamed)
    ∃ pending, system.kernel.registry.pendingActions.get "kact-0" = some pending ∧
      (system.step {} (toKernel 2 closeUnknown)).kernel.registry.pendingActions.get "kact-0" = some pending ∧
      ∃ issue before request, Origin {} (watching ++ renamed) pending.serial issue before request ∧ request.connId = 2 := by
  intro system
  have wired : ∀ input ∈ toKernel 2 closeUnknown :: (watching ++ renamed), input.Wired id := by
    simp [toKernel, kernelMessage, watching, renamed, Input.Wired]
  have named : (system.kernel.registry.getByConnId 2).map PluginEntry.pluginId = some "other" := by decide +kernel
  have parties : (system.kernel.registry.pendingActions.get "kact-0").map
      (fun pending => (pending.providerId, pending.requesterId, pending.requesterWriteTx)) = some ("host", "app", 2) := by
    decide +kernel
  obtain ⟨sender, registered, other⟩ := Option.map_eq_some_iff.mp named
  obtain ⟨pending, held, both⟩ := Option.map_eq_some_iff.mp parties
  simp only [Prod.mk.injEq] at both
  obtain ⟨provider, requester, channel⟩ := both
  have confined := third_party_confined {} system {} (kernelMessage 2 closeUnknown) { payload := closeUnknown }
    sender "kact-0" pending rfl rfl rfl registered held (by rw [other, provider]; decide)
  obtain ⟨kept, -, origin⟩ := confined.1 (by rw [other, requester]; decide)
  obtain ⟨issue, before, request, origin, same, -⟩ := origin id _ Function.injective_id wired rfl channel
  exact ⟨pending, held, kept, issue, before, request, origin, same⟩

/-- The reply to a close goes to the channel it came on, and that may be the channel of
an earlier requester. -/
theorem reply_on_requester_channel :
    let system := (System.machine {}).run (watching ++ renamed)
    (system.kernel.registry.getByConnId 2).map PluginEntry.pluginId = some "other" ∧
    (system.kernel.registry.pendingActions.get "kact-0").map
      (fun pending => (pending.providerId, pending.requesterId, pending.requesterWriteTx)) = some ("host", "app", 2) ∧
    resolvedEntry (.unchanged String) system.kernel.registry "other" closeUnknown = none ∧
    (system.step {} (toKernel 2 closeUnknown)).log.drop system.log.length =
      [sendError 2 .errUnknown "no matching session"] := by
  decide +kernel

end Vynkor
