import Vynkor.Proofs.Delivery
import Vynkor.Proofs.RegistryShape

/-! What the kernel sends in a step: envelopes of its own, the frame it is handling
without its tag, and after an accepted registration the ack followed by the frame key. -/

namespace Vynkor
open Lib

def Send.isEnvelope (send : Send) : Bool :=
  match send.item with
  | .envelope _ => true
  | _ => false

structure Enveloped (sends : List Send) : Prop where
  each : ∀ send ∈ sends, send.isEnvelope = true

namespace Enveloped

theorem nil : Enveloped [] := ⟨fun _ member => absurd member List.not_mem_nil⟩

theorem single (tx : Tx) (envelope : Envelope) (about : Option Nat) : Enveloped [sendEnvelope tx envelope about] := by
  refine ⟨fun send member => ?_⟩
  cases List.mem_singleton.mp member
  rfl

theorem append {first last : List Send} (early : Enveloped first) (late : Enveloped last) : Enveloped (first ++ last) :=
  ⟨List.forall_mem_append.mpr ⟨early.each, late.each⟩⟩

theorem cons {tx : Tx} {envelope : Envelope} {about : Option Nat} {sends : List Send} (rest : Enveloped sends) :
    Enveloped (sendEnvelope tx envelope about :: sends) :=
  (single tx envelope about).append rest

end Enveloped

def acceptingAck (tx : Tx) (messageId : String) (granted : List String) (nonce : Bytes) : Send :=
  sendEnvelope tx { messageId, payload := .pluginRegisterAck ⟨true, "", granted, nonce⟩ }

/-- The sends of one message. -/
inductive Outgoing (frame : Frame) : List Send → Prop
  | replies {sends : List Send} (enveloped : Enveloped sends) : Outgoing frame sends
  | passes {sends : List Send} (each : ∀ send ∈ sends, send.isEnvelope = true ∨ send.item = .frame frame.stripMac) :
      Outgoing frame sends
  | arms {front rest : List Send} (tx : Tx) (messageId : String) (granted : List String) (key : SessionKey)
      (before : Enveloped front) (after : Enveloped rest) :
      Outgoing frame (front ++ acceptingAck tx messageId granted key.nonce :: ⟨tx, .enableMac key, none⟩ :: rest)

section Notices
variable (shuffle : Shuffle String) (registry : Registry)

private theorem publish_enveloped (bus : EventBus) (event : Event) : Enveloped (bus.publish shuffle event registry) := by
  refine ⟨fun send member => ?_⟩
  obtain ⟨tx, rfl⟩ := EventBus.mem_publish member
  rfl

private theorem unregisterIf_enveloped (pluginId : String) (test : PluginEntry → Bool) :
    Enveloped (registry.unregisterIf shuffle pluginId test).sends := by
  refine ⟨fun send member => ?_⟩
  obtain ⟨reason, pending, rfl⟩ := Registry.mem_unregisterIf_sends member
  rfl

private theorem notifyForcedTermination_enveloped (internalId : String) (pending : PendingAction) (reason : String) :
    Enveloped (notifyForcedTermination registry internalId pending reason) := by
  unfold notifyForcedTermination
  refine .append (.cons ?_) ?_
  · split
    · exact .nil
    · exact .single ..
  · split
    · exact .single ..
    · exact .nil

private theorem abortStream_enveloped (internalId reason : String) : Enveloped (abortStream registry internalId reason).2 := by
  unfold abortStream
  split
  · exact .nil
  · exact notifyForcedTermination_enveloped _ _ _ _

private theorem notices_enveloped (call : Registry.Call) : Enveloped (registry.notices call) := by
  cases call with
  | unregister | unregisterConn | unregisterIfDead => exact unregisterIf_enveloped ..
  | _ => exact .nil

end Notices

section Handlers
variable (config : Config) (ambient : Ambient) (kernel : Kernel) (msg : IncomingMessage) (messageId : String)

private theorem evictStale_enveloped (pluginId : String) : Enveloped (evictStale ambient kernel pluginId).2 := by
  refine ⟨fun send member => ?_⟩
  rcases mem_evictStale member with ⟨reason, pending, rfl⟩ | ⟨tx, event, rfl⟩ <;> rfl

private theorem acknowledge_outgoing {front : List Send} (before : Enveloped front) (register : PluginRegister)
    (secret : Option String) (result : Except VynkorError Unit) :
    Outgoing msg.frame (front ++ acknowledge config ambient kernel msg messageId register secret result) := by
  unfold acknowledge
  cases result with
  | error error => exact .replies (before.append (.single ..))
  | ok accepted =>
    simp only
    split
    · exact .arms msg.writeTx messageId _ ⟨_, ambient.nonce, _⟩ before (publish_enveloped ..)
    · exact .replies (before.append (.cons (publish_enveloped ..)))

private theorem handlePluginRegister_outgoing (register : PluginRegister) :
    Outgoing msg.frame (handlePluginRegister config ambient kernel msg messageId register).sends := by
  unfold handlePluginRegister
  simp only
  split
  · exact .replies (.single ..)
  · split
    · exact .replies (.single ..)
    · split
      · exact .replies (.single ..)
      · exact acknowledge_outgoing _ _ _ _ _ (evictStale_enveloped ..) ..

private theorem handleActionRequest_enveloped (request : ActionRequest) :
    Enveloped (handleActionRequest config ambient kernel msg messageId request).sends := by
  have outcome := handleActionRequest_cases config ambient kernel msg messageId request
  generalize handleActionRequest config ambient kernel msg messageId request = result at outcome ⊢
  cases outcome with
  | refused | delivered | relayed => exact .single ..
  | woken pluginId => exact .nil
  | withdrawn => exact .cons (.single ..)

private theorem handleEventPublish_enveloped (eventType : String) (payloadJson : Bytes) :
    Enveloped (handleEventPublish ambient kernel msg messageId eventType payloadJson).sends := by
  unfold handleEventPublish
  simp only
  split
  · exact .single ..
  · exact (publish_enveloped ..).append (.single ..)

private theorem passChunk_enveloped (internalId : String) (tx : Tx) (envelope : Envelope) (about : Option Nat) :
    Enveloped (passChunk ambient kernel internalId tx envelope about).sends := by
  unfold passChunk
  simp only
  split
  · exact .single ..
  · exact .cons (abortStream_enveloped ..)

private theorem handleActionResponse_enveloped (response : ActionResponse) :
    Enveloped (handleActionResponse ambient kernel msg messageId response).sends := by
  unfold handleActionResponse
  split
  · exact .nil
  · split
    · exact .nil
    · exact .single ..

private theorem handleActionRequestChunk_enveloped (chunk : ActionRequestChunk) :
    Enveloped (handleActionRequestChunk ambient kernel msg messageId chunk).sends := by
  unfold handleActionRequestChunk
  simp only
  split
  · exact .nil
  · split
    · exact .nil
    · split
      · exact passChunk_enveloped ..
      · exact abortStream_enveloped ..

private theorem handleActionResponseChunk_enveloped (chunk : ActionResponseChunk) :
    Enveloped (handleActionResponseChunk ambient kernel msg messageId chunk).sends := by
  unfold handleActionResponseChunk
  split
  · exact .nil
  · split
    · exact .nil
    · exact passChunk_enveloped ..

private theorem handleSessionClose_enveloped (close : SessionClose) :
    Enveloped (handleSessionClose ambient kernel msg messageId close).sends := by
  unfold handleSessionClose
  split
  · exact .single ..
  · split
    · exact .single ..
    · split
      · exact .single ..
      · simp only
        split
        · exact .single ..
        · split
          · exact .single ..
          · exact .nil

private theorem handlePayload_outgoing (payload : Payload) :
    Outgoing msg.frame (handlePayload config ambient kernel msg messageId payload).sends := by
  cases payload with
  | pluginRegister register => exact handlePluginRegister_outgoing ..
  | actionRequest request => exact .replies (handleActionRequest_enveloped ..)
  | actionResponse response => exact .replies (handleActionResponse_enveloped ..)
  | actionRequestChunk chunk => exact .replies (handleActionRequestChunk_enveloped ..)
  | actionResponseChunk chunk => exact .replies (handleActionResponseChunk_enveloped ..)
  | sessionClose close => exact .replies (handleSessionClose_enveloped ..)
  | eventPublish => exact .replies (handleEventPublish_enveloped ..)
  | pong | subscribe | unsubscribe =>
    simp only [handlePayload]
    split <;> exact .replies .nil
  | eventAck eventId => exact .replies .nil
  | _ => exact .replies (.single ..)

private theorem routeMessage_outgoing (target : String) :
    Outgoing msg.frame (routeMessage config ambient kernel msg target).sends := by
  unfold routeMessage
  split
  · unfold handleKernelMessage
    split
    · exact .replies (.single ..)
    · split
      · exact .replies (.single ..)
      · exact handlePayload_outgoing ..
  · split
    · have outcome := broadcast_cases ambient kernel msg
      generalize broadcast ambient kernel msg = result at outcome ⊢
      cases outcome with
      | refused => exact .replies (.single ..)
      | delivered =>
        refine .passes fun send member => ?_
        obtain ⟨entry, -, rfl⟩ := List.mem_map.mp member
        exact .inr rfl
    · have outcome := forward_cases config ambient kernel msg target
      generalize forward config ambient kernel msg target = result at outcome ⊢
      cases outcome with
      | refused => exact .replies (.single ..)
      | delivered =>
        refine .passes fun send member => ?_
        cases List.mem_singleton.mp member
        exact .inr rfl
      | relayed sender tx registered granted missing bridged live rest errored left taken =>
        refine .passes fun send member => ?_
        rcases List.mem_cons.mp member with rfl | rest
        · exact .inr rfl
        · rcases left with ⟨rfl, -⟩ | ⟨rfl, -⟩
          · cases rest
          · cases List.mem_singleton.mp rest
            exact .inl rfl

private theorem pruneTick_enveloped : Enveloped (pruneTick config ambient kernel).sends := by
  have timeouts : ∀ gone : List (String × PendingAction), Enveloped (gone.map fun entry =>
      sendEnvelope entry.2.requesterWriteTx
        { payload := .actionResponse ⟨entry.2.originalActionId, .actionTimeout, [], "action timed out"⟩ }
        (some entry.2.serial)) := by
    refine fun gone => ⟨fun send member => ?_⟩
    obtain ⟨entry, -, rfl⟩ := List.mem_map.mp member
    rfl
  unfold pruneTick
  simp only
  split
  · exact timeouts _
  · refine (timeouts _).append ⟨fun send member => ?_⟩
    obtain ⟨entry, -, inside⟩ := List.mem_flatMap.mp member
    exact (notifyForcedTermination_enveloped ..).each send inside

private theorem handleDisconnect_enveloped (connId : ConnId) : Enveloped (handleDisconnect ambient kernel connId).2 := by
  unfold handleDisconnect
  split
  · exact .nil
  · simp only
    split
    · exact (unregisterIf_enveloped ..).append (publish_enveloped ..)
    · exact .nil

end Handlers

/-- A step fills the channels with its sends, unless it is itself an end of a channel. -/
inductive System.Sends (config : Config) (system : System) (input : Input) : Prop
  | delivered (chans : (system.step config input).chans = (system.sends config input).foldl System.put system.chans)
      (kinds : Enveloped (system.sends config input) ∨
        ∃ ambient msg, input = .message ambient msg ∧ Outgoing msg.frame (system.sends config input))
  | received (tx : Tx) (input : input = .receive tx)
  | closed (tx : Tx) (input : input = .close tx)

theorem System.step_sends (config : Config) (system : System) (input : Input) : system.Sends config input := by
  have delivers : ∀ sends, (system.step config input).log = system.log ++ sends →
      (system.step config input).chans = sends.foldl System.put system.chans →
      (Enveloped sends ∨ ∃ ambient msg, input = .message ambient msg ∧ Outgoing msg.frame sends) →
      system.Sends config input := by
    intro sends logged placed kinds
    have same : system.sends config input = sends := by rw [System.sends, logged, List.drop_left]
    exact .delivered (by rw [same]; exact placed) (by rw [same]; exact kinds)
  have still : (system.step config input).log = system.log → (system.step config input).chans = system.chans →
      system.Sends config input :=
    fun logged kept => delivers [] (logged.trans (List.append_nil _).symm) kept (.inl .nil)
  cases input with
  | message ambient msg =>
    have handles := System.handleMessage_cases config system ambient msg
    change ∀ sends, (system.handleMessage config ambient msg).log = _ → (system.handleMessage config ambient msg).chans = _ →
      _ → _ at delivers
    change (system.handleMessage config ambient msg).log = _ → (system.handleMessage config ambient msg).chans = _ → _ at still
    generalize system.handleMessage config ambient msg = after at handles delivers still
    cases handles with
    | limited | untargeted => exact delivers _ rfl rfl (.inl (.single ..))
    | dropped => exact still rfl rfl
    | routed =>
      exact delivers _ rfl rfl (.inr ⟨ambient, msg, rfl, routeMessage_outgoing ..⟩)
  | tick ambient => exact delivers _ rfl rfl (.inl (pruneTick_enveloped ..))
  | disconnect => exact delivers _ rfl rfl (.inl (handleDisconnect_enveloped ..))
  | call call => exact delivers _ rfl rfl (.inl (notices_enveloped ..))
  | receive tx => exact .received tx rfl
  | close tx => exact .closed tx rfl
  | _ => exact still rfl rfl

end Vynkor
