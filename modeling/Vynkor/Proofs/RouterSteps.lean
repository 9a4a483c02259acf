import Vynkor.Proofs.RouterCases
import Vynkor.Proofs.RouterMoves

/-! Every input of the system is a `Step`: each handler, read once. -/

namespace Vynkor
open Lib

section Notices
variable (pending : PendingAction) (reason : String)

theorem sendError_silent (tx : Tx) (code : ErrorCode) (message : String) : Silent [sendError tx code message] :=
  by simp [Silent, sendError, sendEnvelope]

private theorem publish_silent (shuffle : Shuffle String) (bus : EventBus) (event : Event) (registry : Registry) :
    Silent (bus.publish shuffle event registry) := by
  intro send member
  obtain ⟨tx, rfl⟩ := EventBus.mem_publish member
  rfl

private theorem Settles.of_own {pending : PendingAction} (before told after : List Send) (quiet : Silent before)
    (own : ∀ send ∈ told, send.about = some pending.serial) (still : Silent after)
    (unaccepted : pending.sessionAccepted = false →
      ∃ send, (told.filter fun send => send.response.isSome) = [send] ∧ Answers pending send)
    (closing : pending.streaming = true → pending.phase.Keeps (told.filterMap Send.reply)) :
    Settles pending (before ++ told ++ after) := by
  have about : ∀ serial, sendsAbout serial (before ++ told ++ after) = sendsAbout serial told := by
    intro serial
    rw [sendsAbout_append, sendsAbout_append, quiet.sendsAbout, still.sendsAbout, List.append_nil, List.nil_append]
  have here : sendsAbout pending.serial told = told :=
    List.filter_eq_self.mpr fun send member => by simp [own send member]
  constructor
  · intro serial other
    rw [about, sendsAbout, List.filter_eq_nil_iff]
    intro send member same
    rw [own send member] at same
    exact other (Option.some.inj (beq_iff_eq.mp same)).symm
  · rwa [answersTo_eq, about, here]
  · rwa [repliesTo, about, here]

private theorem Settles.of_response {pending : PendingAction} (before : List Send) (envelope : Envelope)
    {response : ActionResponse} (quiet : Silent before)
    (payload : envelope.payload = .actionResponse response) (original : response.actionId = pending.originalActionId)
    (resolved : pending.streaming = true → response.status ≠ .actionOk) :
    Settles pending (before ++ [sendEnvelope pending.requesterWriteTx envelope (some pending.serial)]) := by
  rw [← List.append_nil (before ++ _)]
  refine .of_own before _ [] quiet (by simp [sendEnvelope]) .nil (fun _ => ?_) fun streams => ?_
  · have sent : (sendEnvelope pending.requesterWriteTx envelope (some pending.serial)).response = some response := by
      simp [Send.response, sendEnvelope, payload]
    exact ⟨_, by rw [List.filter_cons_of_pos (by rw [sent]; rfl), List.filter_nil], rfl, response, sent, original⟩
  · have reply : [sendEnvelope pending.requesterWriteTx envelope (some pending.serial)].filterMap Send.reply =
        [.refusal] := by simp [Send.reply, sendEnvelope, payload, resolved streams]
    rw [reply, PendingAction.phase]
    split <;> exact ⟨.ended, rfl, nofun⟩

private theorem Settles.of_notice {pending : PendingAction} (told : List Send) {after : List Send}
    (accepted : pending.sessionAccepted = true) (own : ∀ send ∈ told, send.about = some pending.serial)
    (last : told.filterMap Send.reply ∈ [[], [.close], [.abort]]) (still : Silent after) :
    Settles pending (told ++ after) := by
  refine .of_own [] told after .nil own still (fun unaccepted => ?_) fun _ => ?_
  · rw [accepted] at unaccepted
    cases unaccepted
  · rw [PendingAction.phase, if_pos accepted]
    simp only [List.mem_cons, List.not_mem_nil, or_false] at last
    rcases last with nothing | close | abort
    · rw [nothing]
      exact ⟨.accepted, rfl, nofun⟩
    · rw [close]
      exact ⟨.ended, rfl, nofun⟩
    · rw [abort]
      exact ⟨.ended, rfl, nofun⟩

private theorem providerGoneNotice_settles : Settles pending [Registry.providerGoneNotice reason pending] := by
  cases accepted : pending.sessionAccepted with
  | true =>
    refine .of_notice [_] accepted (by simp [Registry.providerGoneNotice, sendEnvelope]) ?_ .nil
    simp [Registry.providerGoneNotice, sendEnvelope, Send.reply, accepted]
  | false =>
    have settled := @Settles.of_response pending []
      { payload := .actionResponse ⟨pending.originalActionId, .actionError, [], reason⟩ } _ .nil rfl rfl
      fun _ => by simp
    simpa [Registry.providerGoneNotice, accepted] using settled

private theorem providerGoneNotice_quiet (accepted : pending.sessionAccepted = true) :
    answersTo pending.serial [Registry.providerGoneNotice reason pending] = [] := by
  simp [answersTo, Registry.providerGoneNotice, sendEnvelope, Send.response, accepted]

private theorem notifyForcedTermination_settles (registry : Registry) (internalId : String) :
    Settles pending (notifyForcedTermination registry internalId pending reason) := by
  unfold notifyForcedTermination
  cases accepted : pending.sessionAccepted with
  | true =>
    refine .of_notice [_] accepted (by simp [sendEnvelope]) (by simp [sendEnvelope, Send.reply]) ?_
    split <;> simp [Silent, sendEnvelope]
  | false =>
    -- the abort first, then the answer the requester is waiting for
    refine .of_own [] [_, _] _ .nil (by simp [sendEnvelope]) ?_ (fun _ => ⟨_, rfl, rfl, _, rfl, rfl⟩) fun _ => ?_
    · split <;> simp [Silent, sendEnvelope]
    · rw [PendingAction.phase, accepted]
      exact ⟨.ended, rfl, nofun⟩

private theorem notifyForcedTermination_quiet (registry : Registry) (internalId : String)
    (accepted : pending.sessionAccepted = true) :
    answersTo pending.serial (notifyForcedTermination registry internalId pending reason) = [] := by
  unfold notifyForcedTermination
  cases registry.get pending.providerId <;> simp [answersTo, sendEnvelope, Send.response, accepted]

end Notices

section Removals
variable {input : Input} (kernel : Kernel) (shuffle : Shuffle String) (pluginId : String)

/-- A removal takes the provider's pending actions with it; the bus may change and
more may be said. -/
theorem unregisterIf_move (test : PluginEntry → Bool) {after : Kernel} {rest : List Send}
    (registry : after.registry = (kernel.registry.unregisterIf shuffle pluginId test).registry)
    (issued : after.issued = kernel.issued) (counted : after.actionSeq = kernel.actionSeq)
    (unseats : ∀ entry, test entry = true → Unseats input pluginId entry.connId) (silent : Silent rest) :
    Move input kernel after ((kernel.registry.unregisterIf shuffle pluginId test).sends ++ rest) := by
  rcases Registry.unregisterIf_cases shuffle kernel.registry pluginId test with kept | ⟨entry, held, passes, removed⟩
  · rw [kept] at registry ⊢
    exact .aside registry issued counted silent
  · rw [removed] at registry ⊢
    let orphans := kernel.registry.pendingActions.drain shuffle fun pending => pending.providerId == pluginId
    let notice := fun entry : String × PendingAction =>
      [Registry.providerGoneNotice ("provider " ++ pluginId ++ " disconnected") entry.2]
    have sends : (Registry.cleanUp shuffle { kernel.registry with
        byPluginId := kernel.registry.byPluginId.remove pluginId } entry pluginId).2 = orphans.2.flatMap notice :=
      List.map_eq_flatMap
    have pendings : after.registry.pendingActions = orphans.1 := by rw [registry]; rfl
    have plugins : after.registry.byPluginId = kernel.registry.byPluginId.remove pluginId := by rw [registry]; rfl
    rw [sends]
    refine .drop after orphans.2 notice rest (registry ▸ .removed shuffle pluginId entry held) issued counted
      (DashMap.drained_nodup ..) ?_ ?_ (fun entry _ => providerGoneNotice_settles entry.2 _) ?_ ?_ ?_ silent ?_
      fun _ => .inl (by rw [registry]; rfl)
    · intro entry member
      exact ((DashMap.mem_drained ..).mp member).1
    · intro key
      rw [pendings]
      exact DashMap.get_drain_mem ..
    · intro key pending stored registered
      rw [pendings, DashMap.get_drain, Option.filter_eq_some_iff] at stored
      have other : pending.providerId ≠ pluginId := by simpa using stored.2
      rw [plugins, DashMap.get_remove, if_neg other]
      exact registered
    · intro id other found
      rw [plugins] at found
      exact .inl (DashMap.remove_some.mp found).2
    · intro id other found
      by_cases here : id = pluginId
      · subst here
        cases held.symm.trans found
        exact .inr (unseats entry passes)
      · rw [plugins]
        exact .inl (DashMap.remove_some.mpr ⟨here, found⟩)
    · intro entry _ accepted answered
      exact absurd (providerGoneNotice_quiet entry.2 _ accepted) answered

private theorem evictStale_move (ambient : Ambient) (unseats : ∀ connId, Unseats input pluginId connId) : Move input kernel (evictStale ambient kernel pluginId).1
    (evictStale ambient kernel pluginId).2 := by
  unfold evictStale
  cases kernel.registry.get pluginId with
  | none => exact .say .nil
  | some entry =>
    simp only
    split
    · split
      · exact unregisterIf_move kernel ambient.shuffle pluginId _ rfl rfl rfl (fun _ _ => unseats _)
          (publish_silent _ _ _ _)
      · rw [← List.append_nil (Registry.Removal.sends _)]
        exact unregisterIf_move kernel ambient.shuffle pluginId _ rfl rfl rfl (fun _ _ => unseats _) .nil
    · exact .say .nil

private theorem handleDisconnect_move (ambient : Ambient) (connId : ConnId) :
    Move (.disconnect ambient connId) kernel (handleDisconnect ambient kernel connId).1 (handleDisconnect ambient kernel connId).2 := by
  unfold handleDisconnect
  cases kernel.registry.getByConnId connId with
  | none => exact .say .nil
  | some entry =>
    simp only
    split
    · exact unregisterIf_move kernel ambient.shuffle entry.pluginId _ rfl rfl rfl
        (fun _ there => (beq_iff_eq.mp there).symm) (publish_silent _ _ _ _)
    · exact .say .nil

end Removals

section Registrations
variable {input : Input} (kernel : Kernel) (clock : Clock) {sends : List Send}

private theorem registerWithDevice_move (pluginId : String) (connId : ConnId) (manifest : PluginManifest) (writeTx : Tx)
    (info : DeviceMeta) (enlists : Enlists input pluginId) (silent : Silent sends) :
    Move input kernel { kernel with
      registry := (kernel.registry.registerWithDevice clock pluginId connId manifest writeTx info).1 } sends := by
  have effect := kernel.registry.registerWithDevice_effect clock pluginId connId manifest writeTx info
  rcases kernel.registry.registerWithDevice_cases clock pluginId connId manifest writeTx info with
    ⟨error, refused⟩ | ⟨-, -, -, free, enrolled⟩
  · rw [refused]
    exact .say silent
  · rw [enrolled] at effect ⊢
    exact .join effect rfl rfl rfl rfl free rfl enlists silent

private theorem registerDevice_move (deviceId : String) (connId : ConnId) (caps : List String) (manifest : PluginManifest)
    (writeTx : Tx) (info : DeviceMeta) (enlists : Enlists input deviceId) (silent : Silent sends) :
    Move input kernel { kernel with
      registry := (kernel.registry.registerDevice clock deviceId connId caps manifest writeTx info).1 } sends := by
  have effect := kernel.registry.registerDevice_effect clock deviceId connId caps manifest writeTx info
  rcases kernel.registry.registerDevice_cases clock deviceId connId caps manifest writeTx info with
    ⟨error, refused⟩ | ⟨-, -, -, free, enrolled⟩
  · rw [refused]
    exact .say silent
  · rw [enrolled] at effect ⊢
    exact .join effect rfl rfl rfl rfl free rfl enlists silent

end Registrations

section Handlers
variable {input : Input} (config : Config) (ambient : Ambient) (kernel : Kernel) (msg : IncomingMessage) (messageId : String)

private theorem enlist_move (register : PluginRegister) (manifest : PluginManifest) {sends : List Send}
    (enlists : Enlists input register.pluginId) (silent : Silent sends) :
    Move input kernel { kernel with registry := (enlist kernel.registry ambient.clock msg register manifest).1 } sends := by
  unfold enlist
  split
  next mux =>
    have same : register.pluginId = register.deviceId := by
      simp only [PluginRegister.isMuxDevice, Bool.and_eq_true, beq_iff_eq] at mux
      exact mux.2
    exact registerDevice_move kernel _ _ _ _ _ _ _ (same ▸ enlists) silent
  next => exact registerWithDevice_move kernel _ _ _ _ _ _ enlists silent

private theorem acknowledge_silent (register : PluginRegister) (secret : Option String) (result : Except VynkorError Unit) :
    Silent (acknowledge config ambient kernel msg messageId register secret result) := by
  have ack : ∀ ack, Silent [sendEnvelope msg.writeTx { messageId, payload := .pluginRegisterAck ack }] :=
    fun ack => (by simp [Silent, sendEnvelope])
  cases result with
  | error error => exact ack _
  | ok accepted =>
    refine (ack _).append (Silent.append ?_ (publish_silent _ _ _ _))
    split
    · simp [Silent]
    · exact .nil

private theorem handlePluginRegister_moves {ambientThen : Ambient} (register : PluginRegister)
    (enlists : Enlists (.message ambientThen msg) register.pluginId) :
    Moves (.message ambientThen msg) kernel (handlePluginRegister config ambient kernel msg messageId register).kernel
      (handlePluginRegister config ambient kernel msg messageId register).sends := by
  have rejected : ∀ reason, Silent [sendRegisterReject msg.writeTx reason] :=
    fun reason => (by simp [Silent, sendRegisterReject, sendEnvelope])
  unfold handlePluginRegister
  simp only
  split
  · exact .single (.say (sendError_silent _ _ _))
  · split
    · exact .single (.say (rejected _))
    · split
      · exact .single (.say (rejected _))
      · exact .cons (evictStale_move kernel register.pluginId ambient fun _ => enlists)
          (.single (enlist_move ambient _ msg register _ enlists (acknowledge_silent _ _ _ _ _ _ _ _)))

/-- A send to the provider, or a chunk for the requester, while the stream goes on. -/
structure Streams (pending : PendingAction) (sends : List Send) : Prop where
  others : ∀ serial, serial ≠ pending.serial → sendsAbout serial sends = []
  quiet : answersTo pending.serial sends = []
  chunks : ∀ reply ∈ repliesTo pending.serial sends, reply = .chunk

theorem Silent.streams {sends : List Send} (silent : Silent sends) (pending : PendingAction) : Streams pending sends where
  others serial _ := silent.sendsAbout serial
  quiet := silent.answersTo _
  chunks reply member := by rw [silent.repliesTo] at member; cases member

private theorem Phase.after_chunks {phase : Phase} (going : phase = .waiting ∨ phase = .accepted) {replies : List Reply}
    (chunks : ∀ reply ∈ replies, reply = .chunk) : phase.after replies = some phase := by
  induction replies with
  | nil => rfl
  | cons reply rest ih =>
    have first : phase.next reply = some phase := by
      rw [chunks reply List.mem_cons_self]
      rcases going with rfl | rfl <;> rfl
    rw [Phase.after, List.foldlM_cons, first]
    exact ih fun other member => chunks other (List.mem_cons_of_mem _ member)

private theorem touchPending_move {key : String} {pending : PendingAction} {sends : List Send}
    (held : kernel.registry.pendingActions.get key = some pending) (streams : Streams pending sends) :
    Move input kernel { kernel with registry := kernel.registry.touchPendingAction ambient.clock key } sends := by
  refine .revise key pending { pending with lastActivity := ambient.clock.now } _ sends held ⟨rfl, rfl, rfl, rfl, rfl, rfl, rfl⟩
    (fun accepted => accepted) .inl (fun other => ?_) (fun answered => absurd streams.quiet answered) streams.others
    fun _ => Phase.after_chunks ?_ streams.chunks
  · rw [DashMap.get_modify, held]
    rfl
  · rw [PendingAction.phase]
    split
    · exact .inr rfl
    · exact .inl rfl

private theorem abortStream_move {key : String} {pending : PendingAction} (reason : String)
    (held : kernel.registry.pendingActions.get key = some pending) :
    Move input kernel { kernel with registry := (abortStream kernel.registry key reason).1 }
      (abortStream kernel.registry key reason).2 := by
  have taken : abortStream kernel.registry key reason = ((kernel.registry.takePendingAction key).1,
      notifyForcedTermination (kernel.registry.takePendingAction key).1 key pending reason) := by
    simp only [abortStream, Registry.takePendingAction, held]
  rw [taken]
  exact .take held (notifyForcedTermination_settles ..) fun accepted answered =>
    absurd (notifyForcedTermination_quiet pending reason _ key accepted) answered

private theorem touched_held {key : String} {pending : PendingAction}
    (held : kernel.registry.pendingActions.get key = some pending) :
    (kernel.registry.touchPendingAction ambient.clock key).pendingActions.get key =
      some { pending with lastActivity := ambient.clock.now } := by
  rw [Registry.touchPendingAction, DashMap.get_modify, if_pos rfl, held]
  rfl

private theorem passChunk_moves {key : String} {pending : PendingAction} (tx : Tx) (envelope : Envelope) (about : Option Nat)
    (held : kernel.registry.pendingActions.get key = some pending)
    (chunk : Streams pending [sendEnvelope tx envelope about]) :
    Moves input kernel (passChunk ambient kernel key tx envelope about).kernel
      (passChunk ambient kernel key tx envelope about).sends := by
  unfold passChunk
  simp only
  split
  · exact .single (touchPending_move ambient kernel held chunk)
  · exact .cons (touchPending_move ambient kernel held chunk)
      (.single (abortStream_move { kernel with registry := _ } _ (touched_held ambient kernel held)))

private theorem touchUsed_move (pluginId : String) {sends : List Send} (silent : Silent sends) :
    Move input kernel { kernel with registry := kernel.registry.touchUsed ambient.clock pluginId } sends := by
  unfold Registry.touchUsed
  split
  · exact .keep (.used _) rfl rfl rfl rfl (fun _ => .inl rfl) silent
  · exact .say silent

private theorem handleActionResponse_moves (response : ActionResponse) (replies : RepliesFor input response.actionId) :
    Moves input kernel (handleActionResponse ambient kernel msg messageId response).kernel
      (handleActionResponse ambient kernel msg messageId response).sends := by
  unfold handleActionResponse
  cases kernel.registry.getByConnId msg.connId with
  | none => exact .single (.say .nil)
  | some sender =>
    rcases kernel.registry.resolveActionResponse_cases ambient.clock response.actionId sender.pluginId
      (response.status == .actionOk) with ⟨-, dropped⟩ |
        ⟨pending, held, -, ⟨ok, streams, accepted⟩ | ⟨refused, taken⟩⟩
    · simp only [dropped]
      exact .single (.say .nil)
    · simp only [accepted]
      rw [← List.append_nil [_]]
      refine .cons (.revise response.actionId pending (pending.accept ambient.clock.now) _ _ held
        ⟨rfl, rfl, rfl, rfl, rfl, rfl, rfl⟩ (fun _ => rfl) (fun _ => .inr streams) (fun other => DashMap.get_insert ..)
        (fun _ => ⟨streams, replies⟩) (fun serial other => ?_) fun _ => ?_) (.single (touchUsed_move ambient _ _ .nil))
      · simp [sendsAbout, sendEnvelope, PendingAction.accept, Ne.symm other]
      · -- the reply is an OK, whether or not the session was open before
        simp only [repliesTo, sendsAbout, sendEnvelope, PendingAction.accept, PendingAction.phase, beq_self_eq_true,
          List.filter_cons_of_pos, List.filter_nil, List.filterMap_cons, List.filterMap_nil, Send.reply,
          beq_iff_eq.mp ok, if_true]
        cases pending.sessionAccepted <;> rfl
    · simp only [taken]
      rw [← List.append_nil [_]]
      refine .cons (.take held (.of_response [] _ .nil rfl rfl fun streams => ?_) fun _ _ => replies)
        (.single (touchUsed_move ambient _ _ .nil))
      exact beq_eq_false_iff_ne.mp (refused streams)

private theorem handleActionRequestChunk_moves (chunk : ActionRequestChunk) :
    Moves input kernel (handleActionRequestChunk ambient kernel msg messageId chunk).kernel
      (handleActionRequestChunk ambient kernel msg messageId chunk).sends := by
  unfold handleActionRequestChunk
  simp only
  split
  · exact .single (.say .nil)
  · split
    · exact .single (.say .nil)
    next key found pending held =>
      split
      · exact passChunk_moves ambient kernel _ _ _ held (Silent.streams (by simp [Silent, sendEnvelope]) pending)
      · exact .cons (touchPending_move ambient kernel held (Silent.nil.streams pending))
          (.single (abortStream_move { kernel with registry := _ } _ (touched_held ambient kernel held)))

private theorem handleActionResponseChunk_moves (chunk : ActionResponseChunk) :
    Moves input kernel (handleActionResponseChunk ambient kernel msg messageId chunk).kernel
      (handleActionResponseChunk ambient kernel msg messageId chunk).sends := by
  unfold handleActionResponseChunk
  split
  · exact .single (.say .nil)
  · split
    · exact .single (.say .nil)
    next pending found =>
      refine passChunk_moves ambient kernel _ _ _ (Option.filter_eq_some_iff.mp found).1 ⟨fun serial other => ?_, ?_, ?_⟩
      · simp [sendsAbout, sendEnvelope, Ne.symm other]
      · simp [answersTo, sendEnvelope, Send.response]
      · simp [repliesTo, sendsAbout, sendEnvelope, Send.reply]

theorem findPendingInternalId_held {shuffle : Shuffle String} {registry : Registry}
    {requesterId originalActionId key : String}
    (found : registry.findPendingInternalId shuffle requesterId originalActionId = some key) :
    ∃ pending, registry.pendingActions.get key = some pending ∧ pending.requesterId = requesterId ∧
      pending.originalActionId = originalActionId := by
  obtain ⟨entry, first, rfl⟩ := Option.map_eq_some_iff.mp found
  have held := (DashMap.mem_iter shuffle registry.pendingActions entry.1 entry.2).mp (List.mem_of_find?_eq_some first)
  have matching := List.find?_some first
  simp only [Bool.and_eq_true, beq_iff_eq] at matching
  exact ⟨entry.2, held, matching⟩

theorem resolveClose_cases {shuffle : Shuffle String} {registry : Registry} {sender actionId key : String}
    {pending : PendingAction} {fromProvider : Bool}
    (resolved : resolveClose shuffle registry sender actionId = some (key, pending, fromProvider)) :
    registry.pendingActions.get key = some pending ∧ (fromProvider = true → pending.providerId = sender) ∧
      (fromProvider = false → registry.findPendingInternalId shuffle sender actionId = some key) := by
  unfold resolveClose at resolved
  split at resolved
  next held =>
    cases resolved
    obtain ⟨stored, routed⟩ := Option.filter_eq_some_iff.mp held
    exact ⟨stored, fun _ => beq_iff_eq.mp routed, Bool.noConfusion⟩
  next =>
    split at resolved
    · cases resolved
    next found =>
      obtain ⟨held, stored, same⟩ := Option.map_eq_some_iff.mp resolved
      cases same
      exact ⟨stored, Bool.noConfusion, fun _ => found⟩

private theorem handleSessionClose_moves (close : SessionClose) :
    Moves input kernel (handleSessionClose ambient kernel msg messageId close).kernel
      (handleSessionClose ambient kernel msg messageId close).sends := by
  unfold handleSessionClose
  split
  · exact .single (.say (sendError_silent _ _ _))
  · split
    · exact .single (.say (sendError_silent _ _ _))
    next key pending fromProvider found =>
      split
      · exact .single (.say (sendError_silent _ _ _))
      next accepted =>
        have opened : pending.sessionAccepted = true := by simpa using accepted
        refine .single (.take ((resolveClose_cases found).1) ?_ fun _ answered => absurd ?_ answered)
        · split
          · exact .of_notice [_] opened (by simp [sendEnvelope]) (by simp [sendEnvelope, Send.reply]) .nil
          · refine .of_notice [] opened (by simp) (by simp) ?_
            split <;> simp [Silent, sendEnvelope]
        · split
          · simp [answersTo, sendEnvelope, Send.response]
          · split <;> simp [answersTo, sendEnvelope]

private theorem handleEventPublish_move (eventType : String) (payloadJson : Bytes) :
    Move input kernel (handleEventPublish ambient kernel msg messageId eventType payloadJson).kernel
      (handleEventPublish ambient kernel msg messageId eventType payloadJson).sends := by
  unfold handleEventPublish
  simp only
  split
  · exact .say (by simp [Silent, sendEnvelope])
  · exact .aside rfl rfl rfl ((publish_silent _ _ _ _).append (by simp [Silent, sendEnvelope]))

theorem Broadcasts.silent {outcome : Outcome} (broadcasts : Broadcasts ambient kernel msg outcome) :
    outcome.kernel = kernel ∧ Silent outcome.sends := by
  cases broadcasts with
  | refused => exact ⟨rfl, sendError_silent _ _ _⟩
  | delivered =>
    refine ⟨rfl, fun send member => ?_⟩
    obtain ⟨entry, -, rfl⟩ := List.mem_map.mp member
    rfl

private theorem pruneTick_moves : Moves input kernel (pruneTick config ambient kernel).kernel (pruneTick config ambient kernel).sends := by
  have expired := @Move.evict input kernel ambient.shuffle
    (fun pending => !pending.sessionAccepted && decide (pending.deadline ≤ ambient.clock.now))
    (fun entry => [sendEnvelope entry.2.requesterWriteTx
      { payload := .actionResponse ⟨entry.2.originalActionId, .actionTimeout, [], "action timed out"⟩ }
      (some entry.2.serial)]) (fun entry _ => .of_response [] _ .nil rfl rfl fun _ => by simp)
    (fun entry passes accepted => by simp [accepted] at passes)
  rw [← List.map_eq_flatMap] at expired
  unfold pruneTick
  simp only
  split
  · exact .single expired
  · exact .cons expired (.single (.evict ambient.shuffle _ (fun entry => notifyForcedTermination _ entry.1 entry.2 "idle timeout")
      (fun entry _ => notifyForcedTermination_settles ..) fun entry _ accepted => notifyForcedTermination_quiet _ _ _ _ accepted))

theorem gatedLookup_registry (registry : Registry) (action : String) (frameAddr : Nat) :
    ∃ gates, (gatedLookup registry action frameAddr).2 = { registry with lazyGates := gates } := by
  unfold gatedLookup
  split
  next provider found =>
    simp only [Registry.lazyGatePasses]
    split
    · exact ⟨registry.lazyGates, rfl⟩
    · exact ⟨_, rfl⟩
  next => exact ⟨registry.lazyGates, rfl⟩

theorem findActionProvider_registered {registry : Registry} {action : String} {entry : PluginEntry}
    (found : registry.findActionProvider action = .found entry) : ∃ id, registry.byPluginId.get id = some entry := by
  unfold Registry.findActionProvider at found
  split at found
  · cases found
  · simp only at found
    split at found
    next live held =>
      split at held
      next id indexed =>
        split at found
        · cases found; exact ⟨id, held⟩
        · cases found
      · cases held
    · split at found <;> cases found

theorem gatedLookup_registered {registry : Registry} {action : String} {frameAddr : Nat} {entry : PluginEntry}
    (found : (gatedLookup registry action frameAddr).1 = .found entry) : ∃ id, registry.byPluginId.get id = some entry := by
  unfold gatedLookup at found
  split at found
  next provider live =>
    simp only at found
    split at found
    · cases found; exact findActionProvider_registered live
    · cases found
  next other => exact findActionProvider_registered found

private theorem getByConnId_registered {registry : Registry} {connId : ConnId} {entry : PluginEntry}
    (found : registry.getByConnId connId = some entry) : ∃ id, registry.byPluginId.get id = some entry := by
  unfold Registry.getByConnId at found
  split at found
  next id mapped => exact ⟨id, found⟩
  next => cases found

theorem getMux_registered {registry : Registry} {target : String} {entry : PluginEntry}
    (found : registry.getMux target = some entry) : ∃ id, registry.byPluginId.get id = some entry := by
  unfold Registry.getMux at found
  split at found
  next exact' held => cases found; exact ⟨target, held⟩
  next =>
    split at found
    · cases found
    next device cap parts =>
      split at found
      · cases found
      next owner held =>
        split at found
        · cases found; exact ⟨device, held⟩
        · cases found

private theorem dispatch_issues {envelope : Envelope} {request : ActionRequest} {providerId : String}
    (decoded : msg.frame.payload.decode = some envelope) (payload : envelope.payload = .actionRequest request)
    (registered : kernel.registry.isRegistered msg.connId = true)
    (provider : ∃ id entry, kernel.registry.byPluginId.get id = some entry ∧ entry.pluginId = providerId) :
    Issues msg kernel
      (kernel.dispatch config ambient msg request (senderId kernel.registry msg.connId) providerId) kernel.internalId
      (newPending ambient kernel msg request (senderId kernel.registry msg.connId) providerId
        (effectiveTimeoutMs config request)) where
  result := rfl
  request := ⟨envelope, request, decoded, payload, rfl, rfl⟩
  registered := registered
  requester := rfl
  channel := rfl
  provider := provider
  fresh := rfl
  unaccepted := rfl
  key := .inl ⟨rfl, rfl⟩

private theorem handleActionRequest_step {ambientThen : Ambient} {envelope : Envelope} {request : ActionRequest}
    (decoded : msg.frame.payload.decode = some envelope) (payload : envelope.payload = .actionRequest request)
    (registered : kernel.registry.isRegistered msg.connId = true) :
    Step (.message ambientThen msg) kernel (handleActionRequest config ambient kernel msg messageId request).kernel
      (handleActionRequest config ambient kernel msg messageId request).sends := by
  obtain ⟨gates, opened⟩ := gatedLookup_registry kernel.registry request.action msg.frameAddr
  have outcome := handleActionRequest_cases config ambient kernel msg messageId request
  generalize handleActionRequest config ambient kernel msg messageId request = result at outcome ⊢
  -- the gate may use up an allowance before anything else happens
  have provided := @gatedLookup_registered kernel.registry request.action msg.frameAddr
  generalize (gatedLookup kernel.registry request.action msg.frameAddr).1 = lookup at outcome provided
  rw [opened] at outcome
  have gated : Move (.message ambientThen msg) kernel { kernel with registry := { kernel.registry with lazyGates := gates } } [] :=
    .keep (.gates gates) rfl rfl rfl rfl (fun _ => .inl rfl) .nil
  refine .after_move gated rfl ?_
  have issues := fun providerId => @dispatch_issues config ambient
    { kernel with registry := { kernel.registry with lazyGates := gates } } msg envelope request providerId decoded payload
    registered
  cases outcome with
  | refused => exact .quiet (.single (.say (by simp [Silent, refuse, sendEnvelope])))
  | woken pluginId => exact .quiet (.single (.say .nil))
  | delivered provider found guards =>
    obtain ⟨id, held⟩ := provided found
    exact .of_issue rfl (issues provider.pluginId ⟨id, provider, held, rfl⟩)
      (.single (touchUsed_move ambient _ _ (by simp [Silent, sendEnvelope])))
  | relayed host missing allowed bridged inside there room =>
    obtain ⟨id, held⟩ := getByConnId_registered there
    exact .of_issue rfl (issues host.pluginId ⟨id, host, held, rfl⟩) (.single (.say (by simp [Silent, sendEnvelope])))
  | withdrawn host missing allowed bridged inside there full =>
    -- the entry is withdrawn and the refusal is its answer
    obtain ⟨id, held⟩ := getByConnId_registered there
    refine .of_issue rfl (issues host.pluginId ⟨id, host, held, rfl⟩)
      (.single (.take ((DashMap.get_insert ..).trans (if_pos rfl)) ?_ ?_))
    · exact .of_response [_] _ (by simp [Silent, sendEnvelope]) rfl rfl fun _ => by simp
    · exact fun accepted => by cases accepted

theorem muxRequest_decodes {target : String} {frame : Frame} {request : ActionRequest}
    (found : muxRequest target frame = some request) :
    ∃ envelope, frame.payload.decode = some envelope ∧ envelope.payload = .actionRequest request := by
  unfold muxRequest at found
  split at found
  · cases found
  next envelope decoded =>
    split at found
    next payload =>
      split at found
      · cases found; exact ⟨envelope, decoded, payload⟩
      · cases found
    · cases found

theorem isRegistered_of_getByConnId {registry : Registry} {connId : ConnId} {entry : PluginEntry}
    (found : registry.getByConnId connId = some entry) : registry.isRegistered connId = true := by
  unfold Registry.getByConnId at found
  split at found
  next id mapped => exact (DashMap.containsKey_iff _ _).mpr ⟨id, mapped⟩
  next => cases found

theorem senderId_of_getByConnId {registry : Registry} {connId : ConnId} {entry : PluginEntry}
    (found : registry.getByConnId connId = some entry) : senderId registry connId = entry.pluginId := by
  rw [senderId, found]
  rfl

theorem Forwards.silent {target : String} {outcome : Outcome} (forwards : Forwards config ambient kernel msg target outcome) :
    Silent outcome.sends := by
  cases forwards with
  | refused => exact sendError_silent _ _ _
  | delivered => simp [Silent]
  | relayed sender tx registered granted missing bridged live rest errored left taken =>
    rcases left with ⟨rfl, -⟩ | ⟨rfl, -⟩ <;> simp [Silent, sendError, sendEnvelope]

theorem Forwards.step {ambientThen : Ambient} {target : String} {outcome : Outcome}
    (targeted : msg.frame.target = some target) (forwards : Forwards config ambient kernel msg target outcome) :
    Step (.message ambientThen msg) kernel outcome.kernel outcome.sends := by
  have silent := forwards.silent
  cases forwards with
  | refused => exact .quiet (.single (.say silent))
  | relayed =>
    exact .quiet (.single (.say silent))
  | delivered sender entry registered granted resolved =>
    cases wanted : muxRequest target msg.frame with
    | none => exact .quiet (.single (.say silent))
    | some request =>
      obtain ⟨envelope, decoded, payload⟩ := muxRequest_decodes wanted
      obtain ⟨id, held⟩ := getMux_registered resolved
      let pending := newPending ambient kernel msg request sender.pluginId entry.pluginId 30000
      have issues : Issues msg kernel (kernel.issue msg.connId request.actionId pending) request.actionId pending := {
        result := rfl
        request := ⟨envelope, request, decoded, payload, rfl, rfl⟩
        registered := isRegistered_of_getByConnId registered
        requester := (senderId_of_getByConnId registered).symm
        channel := rfl
        provider := ⟨id, entry, held, rfl⟩
        fresh := rfl
        unaccepted := rfl
        key := .inr ⟨rfl, target, request, targeted, wanted, rfl⟩ }
      exact .of_issue rfl issues (.single (.say silent))

private theorem handlePayload_step {ambientThen : Ambient} {envelope : Envelope}
    (decoded : msg.frame.payload.decode = some envelope)
    (admitted : envelope.payload.isRegister = true ∨ kernel.registry.isRegistered msg.connId = true) :
    Step (.message ambientThen msg) kernel (handlePayload config ambient kernel msg messageId envelope.payload).kernel
      (handlePayload config ambient kernel msg messageId envelope.payload).sends := by
  have unhandled : Silent [sendError msg.writeTx .errUnknown "unhandled message"] := sendError_silent _ _ _
  cases payload : envelope.payload with
  | pluginRegister register =>
    exact .quiet (handlePluginRegister_moves config ambient kernel msg messageId register
      ⟨envelope, register, decoded, payload, rfl⟩)
  | actionRequest request =>
    have registered : kernel.registry.isRegistered msg.connId = true := by
      rcases admitted with register | registered
      · rw [payload] at register
        cases register
      · exact registered
    exact handleActionRequest_step config ambient kernel msg messageId decoded payload registered
  | actionResponse response =>
    exact .quiet (handleActionResponse_moves ambient kernel msg messageId response
      ⟨ambientThen, msg, envelope, response, rfl, decoded, payload, rfl⟩)
  | actionRequestChunk chunk => exact .quiet (handleActionRequestChunk_moves ambient kernel msg messageId chunk)
  | actionResponseChunk chunk => exact .quiet (handleActionResponseChunk_moves ambient kernel msg messageId chunk)
  | sessionClose close => exact .quiet (handleSessionClose_moves ambient kernel msg messageId close)
  | eventPublish eventType payloadJson =>
    exact .quiet (.single (handleEventPublish_move ambient kernel msg messageId eventType payloadJson))
  | ping timestamp => exact .quiet (.single (.say (by simp [Silent, handlePayload, sendEnvelope])))
  | pong =>
    refine .quiet (.single ?_)
    simp only [handlePayload]
    split
    · exact .keep (.ponged _ _) rfl rfl rfl rfl (fun _ => .inl rfl) .nil
    · exact .say .nil
  | subscribe | unsubscribe =>
    refine .quiet (.single ?_)
    simp only [handlePayload]
    split
    · exact .aside rfl rfl rfl .nil
    · exact .say .nil
  | kernelCommand command =>
    exact .quiet (.single (.say (by simp [Silent, handlePayload, handleKernelCommand, sendEnvelope])))
  | eventAck eventId => exact .quiet (.single (.say .nil))
  | pluginRegisterAck | eventPublishAck | event | actionStreamAbort | kernelCommandAck | error | unhandled =>
    exact .quiet (.single (.say unhandled))

theorem routeMessage_step {ambientThen : Ambient} {target : String} (targeted : msg.frame.target = some target) :
    Step (.message ambientThen msg) kernel (routeMessage config ambient kernel msg target).kernel
      (routeMessage config ambient kernel msg target).sends := by
  unfold routeMessage
  split
  · unfold handleKernelMessage
    split
    · exact .quiet (.single (.say (sendError_silent _ _ _)))
    next envelope decoded =>
      split
      · exact .quiet (.single (.say (sendError_silent _ _ _)))
      next admitted =>
        refine handlePayload_step config ambient kernel msg envelope.messageId decoded ?_
        cases register : envelope.payload.isRegister with
        | true => exact .inl rfl
        | false => exact .inr (by simpa [register] using admitted)
  · split
    · obtain ⟨kept, silent⟩ := (broadcast_cases ambient kernel msg).silent
      rw [kept]
      exact .quiet (.single (.say silent))
    · exact (forward_cases config ambient kernel msg target).step config ambient kernel msg targeted

end Handlers

private theorem Registry.registerDormant_frame (registry : Registry) (plugin : DormantPlugin) :
    (registry.registerDormant plugin).pendingActions = registry.pendingActions ∧
    (registry.registerDormant plugin).byPluginId = registry.byPluginId ∧
    (registry.registerDormant plugin).actionRequirements = registry.actionRequirements := by
  unfold Registry.registerDormant Registry.dropDormantActions
  split <;> exact ⟨rfl, rfl, rfl⟩

private theorem call_move (kernel : Kernel) (call : Registry.Call) :
    Move (.call call) kernel { kernel with registry := kernel.registry.apply call } (kernel.registry.notices call) := by
  cases call with
  | registerWithDevice clock pluginId connId manifest writeTx info =>
    exact registerWithDevice_move kernel clock pluginId connId manifest writeTx info rfl .nil
  | registerDevice clock deviceId connId caps manifest writeTx info =>
    exact registerDevice_move kernel clock deviceId connId caps manifest writeTx info rfl .nil
  | unregister shuffle pluginId | unregisterIfDead shuffle closed pluginId =>
    rw [← List.append_nil (Registry.notices ..)]
    exact unregisterIf_move kernel shuffle pluginId _ rfl rfl rfl (fun _ _ => rfl) .nil
  | unregisterConn shuffle pluginId connId =>
    rw [← List.append_nil (Registry.notices ..)]
    exact unregisterIf_move kernel shuffle pluginId _ rfl rfl rfl (fun _ there => ⟨rfl, (beq_iff_eq.mp there).symm⟩) .nil
  | recordPong => exact .keep (.ponged _ _) rfl rfl rfl rfl (fun _ => .inl rfl) .nil
  | registerDormant plugin =>
    obtain ⟨pending, plugins, rules⟩ := kernel.registry.registerDormant_frame plugin
    exact .keep (.slept plugin) rfl rfl pending plugins (fun _ => .inl (congrArg (DashMap.get · _) rules)) .nil

/-- Every input of the system is a step of its kernel, and logs what it sends. -/
theorem System.step_step (config : Config) (system : System) (input : Input) :
    ∃ sends, (system.step config input).log = system.log ++ sends ∧
      Step input system.kernel (system.step config input).kernel sends := by
  have still : ∀ {after : System}, after.log = system.log → Move input system.kernel after.kernel [] →
      ∃ sends, after.log = system.log ++ sends ∧ Step input system.kernel after.kernel sends :=
    fun same moved => ⟨[], same.trans (List.append_nil _).symm, .quiet (.single moved)⟩
  cases input with
  | message ambient msg =>
    change ∃ sends, (system.handleMessage config ambient msg).log = _ ∧
      Step _ _ (system.handleMessage config ambient msg).kernel sends
    have handles := System.handleMessage_cases config system ambient msg
    generalize system.handleMessage config ambient msg = after at handles ⊢
    cases handles with
    | limited | untargeted => exact ⟨_, rfl, .quiet (.single (.say (sendError_silent _ _ _)))⟩
    | dropped => exact still rfl (.say .nil)
    | routed target unlimited targeted within =>
      exact ⟨_, rfl, routeMessage_step config (system.observe ambient) system.kernel msg targeted⟩
  | tick ambient => exact ⟨_, rfl, .quiet (pruneTick_moves config ambient system.kernel)⟩
  | disconnect ambient connId => exact ⟨_, rfl, .quiet (.single (handleDisconnect_move system.kernel ambient connId))⟩
  | call call => exact ⟨_, rfl, .quiet (.single (call_move system.kernel call))⟩
  | setActionRequirements pluginId requirements =>
    refine still rfl (.keep (.requirements _) rfl rfl rfl rfl (fun id => ?_) .nil)
    by_cases here : pluginId = id
    · exact .inr here
    · exact .inl ((DashMap.get_insert ..).trans (if_neg (Ne.symm here)))
  | clearActionRequirements pluginId =>
    refine still rfl (.keep (.requirements _) rfl rfl rfl rfl (fun id => ?_) .nil)
    by_cases here : pluginId = id
    · exact .inr here
    · exact .inl ((DashMap.get_remove ..).trans (if_neg (Ne.symm here)))
  | touchUsed clock pluginId => exact still rfl (touchUsed_move { clock } system.kernel pluginId .nil)
  | lazyGateHold | lazyGateRelease | lazyGateAllow =>
    exact still rfl (.keep (.gates _) rfl rfl rfl rfl (fun _ => .inl rfl) .nil)
  | bridgeUp | bridgeDown => exact still rfl (.aside rfl rfl rfl .nil)
  | takeWake | receive | close => exact still rfl (.say .nil)

end Vynkor
