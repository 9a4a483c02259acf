import Mathlib.Data.List.Chain
import Vynkor.Proofs.Delivery
import Vynkor.Proofs.RequesterDeparture

/-! The error budget of a connection. A frame that errs is counted, and a connection
past its budget is dropped without a word. Some error replies are not counted, and some
frames pass in spite of the budget; without those the budget bounds the replies. -/

namespace Vynkor
open Lib

def Send.isErrorReply (send : Send) : Bool :=
  match send.item with
  | .envelope envelope =>
    match envelope.payload with
    | .error _ _ => true
    | .pluginRegisterAck ack => !ack.accepted
    | _ => false
  | _ => false

def errorReplies (tx : Tx) (sends : List Send) : List Send := sends.filter fun send => send.tx == tx && send.isErrorReply

/-- Once for each error reply to a frame of the connection, the time of the step. -/
def System.errorTimes (config : Config) (connId : ConnId) (system : System) (input : Input) : List Instant :=
  match input with
  | .message ambient msg =>
    if msg.connId = connId then (errorReplies msg.writeTx (system.sends config input)).map fun _ => ambient.clock.now
    else []
  | _ => []

/-- The times at which the connection is sent error replies in the course of a run. -/
def errorTimes (config : Config) (connId : ConnId) : System → List Input → List Instant
  | _, [] => []
  | system, input :: inputs =>
    system.errorTimes config connId input ++ errorTimes config connId (system.step config input) inputs

def Input.routedAt : Input → Option Instant
  | .message ambient _ => some ambient.clock.now
  | _ => none

/-- A frame of the connection is answered with an error, dropped by the throttle, dropped
as a reply that nobody waits for, or meant for other plugins and taken by no channel. -/
def unaccepted (config : Config) (connId : ConnId) (system : System) (input : Input) : Bool :=
  match input with
  | .message _ msg => msg.connId != connId || !(errorReplies msg.writeTx (system.sends config input)).isEmpty ||
      system.throttled config msg || (isThrottleExempt msg.frame && (system.sends config input).isEmpty) ||
      (msg.frame.target != some "kernel" && (system.sends config input).all fun send => !(system.chans send.tx).accepts)
  | _ => true

/-- All checks of the registration pass except the registry's own. -/
def rejectedByRegistry (config : Config) (ambient : Ambient) (kernel : Kernel) (msg : IncomingMessage)
    (register : PluginRegister) : Bool :=
  match if register.protocolVersion = "" then .supported else checkProtocolVersion config register.protocolVersion with
  | .rejected _ => false
  | _ =>
    match authenticate config ambient.clock register (register.manifest.getD {}), deviceSecret config ambient register with
    | .ok manifest, .ok _ => isErr (enlist (evictStale ambient kernel register.pluginId).1.registry ambient.clock msg
        register (clampPermissions config register.pluginId manifest)).2
    | _, _ => false

/-- The gates let the frame pass to the other plugins, but the allowlist denies every one of
them or what it leaves has no room. -/
def lost (ambient : Ambient) (kernel : Kernel) (msg : IncomingMessage) (target : String) : Bool :=
  (kernel.registry.getByConnId msg.connId).any fun sender =>
    if target = "*" then
      !isErr (checkIpcSend kernel.registry sender.pluginId) &&
      !(rawBinary msg.frame && isErr (checkPermission kernel.registry sender.pluginId .permissionAudioStream)) &&
      (kernel.registry.list ambient.shuffle).all fun entry => entry.connId == msg.connId ||
        isErr (checkIpcTarget kernel.registry sender.pluginId entry.pluginId) || !ambient.accepts entry.writeTx
    else
      !isErr (forwardGate kernel.registry sender.pluginId target msg.frame) &&
      (kernel.registry.getMux target).any fun entry => !ambient.accepts entry.writeTx

/-- The budget sees the frame: it has a target, is not exempt from the throttle, is not a
registration that only the registry rejects and is not lost on the way to other plugins. -/
def counted (config : Config) (connId : ConnId) (system : System) : Input → Bool
  | .message ambient msg => msg.connId != connId || (!isThrottleExempt msg.frame && msg.frame.target.any fun target =>
      if target = "kernel" then !msg.frame.payload.decode.any fun envelope =>
        match envelope.payload with
        | .pluginRegister register => rejectedByRegistry config (system.observe ambient) system.kernel msg register
        | _ => false
      else !lost (system.observe ambient) system.kernel msg target)
  | _ => true

def Plain (sends : List Send) : Prop := ∀ send ∈ sends, send.isErrorReply = false

theorem Plain.append {first last : List Send} (early : Plain first) (late : Plain last) : Plain (first ++ last) :=
  List.forall_mem_append.mpr ⟨early, late⟩

private theorem Plain.errorReplies {sends : List Send} (plain : Plain sends) (tx : Tx) : errorReplies tx sends = [] :=
  List.filter_eq_nil_iff.mpr fun send member => by simp [plain send member]

/-- An outcome without error replies, or one that is counted and has a single one. -/
def Charged (tx : Tx) (outcome : Outcome) : Prop :=
  errorReplies tx outcome.sends = [] ∨ outcome.errored = true ∧ (errorReplies tx outcome.sends).length = 1

section Outcomes
variable {config : Config} {ambient : Ambient} {kernel : Kernel} {msg : IncomingMessage} {messageId : String}

private theorem Charged.of_error (code : ErrorCode) (text : String) :
    Charged msg.writeTx { kernel, sends := [sendError msg.writeTx code text], errored := true } := by
  refine .inr ⟨rfl, ?_⟩
  simp [errorReplies, Send.isErrorReply, sendError, sendEnvelope]

private theorem Charged.of_reject (reason : String) :
    Charged msg.writeTx { kernel, sends := [sendRegisterReject msg.writeTx reason], errored := true } := by
  refine .inr ⟨rfl, ?_⟩
  simp [errorReplies, Send.isErrorReply, sendRegisterReject, sendEnvelope]

private theorem Charged.of_plain {tx : Tx} {outcome : Outcome} (plain : Plain outcome.sends) : Charged tx outcome :=
  .inl (plain.errorReplies tx)

private theorem publish_plain (shuffle : Shuffle String) (bus : EventBus) (event : Event) (registry : Registry) :
    Plain (bus.publish shuffle event registry) := by
  intro send member
  obtain ⟨tx, rfl⟩ := EventBus.mem_publish member
  rfl

private theorem evictStale_plain (pluginId : String) : Plain (evictStale ambient kernel pluginId).2 := by
  intro send member
  rcases mem_evictStale member with ⟨reason, pending, rfl⟩ | ⟨tx, event, rfl⟩
  · unfold Registry.providerGoneNotice
    split <;> rfl
  · rfl

private theorem acknowledge_plain (register : PluginRegister) (secret : Option String) :
    Plain (acknowledge config ambient kernel msg messageId register secret (.ok ())) := by
  intro send member
  unfold acknowledge at member
  rcases List.mem_append.mp member with front | event
  · rcases List.mem_cons.mp front with rfl | key
    · rfl
    · split at key
      · cases List.mem_singleton.mp key
        rfl
      · cases key
  · exact publish_plain _ _ _ _ send event

private theorem handlePluginRegister_charged {register : PluginRegister}
    (enlists : rejectedByRegistry config ambient kernel msg register = false) :
    Charged msg.writeTx (handlePluginRegister config ambient kernel msg messageId register) := by
  unfold rejectedByRegistry at enlists
  unfold handlePluginRegister
  simp only
  split
  · exact .of_error _ _
  next supported =>
    split at enlists
    next reason mismatch => exact absurd mismatch (supported reason)
    next =>
      cases credentials : authenticate config ambient.clock register (register.manifest.getD {}) with
      | error reason => exact .of_reject reason
      | ok manifest =>
        cases known : deviceSecret config ambient register with
        | error reason => exact .of_reject reason
        | ok secret =>
          simp only [credentials, known] at enlists
          apply Charged.of_plain
          apply (evictStale_plain _).append
          rw [ok_of_isErr enlists]
          exact acknowledge_plain register secret

private theorem handleActionRequest_plain (request : ActionRequest) :
    Plain (handleActionRequest config ambient kernel msg messageId request).sends := by
  apply handleActionRequest_sends
  · intro current status error about
    rfl
  · intro tx key caller named
    rfl

private theorem handleEventPublish_plain (eventType : String) (payloadJson : Bytes) :
    Plain (handleEventPublish ambient kernel msg messageId eventType payloadJson).sends := by
  have ack : ∀ eventId status,
      Plain [sendEnvelope msg.writeTx { messageId, payload := .eventPublishAck eventId status }] := by
    intro eventId status send member
    cases List.mem_singleton.mp member
    rfl
  unfold handleEventPublish
  simp only
  split
  · exact ack _ _
  · exact (publish_plain _ _ _ _).append (ack _ _)

/-- Frames for peers are counted whenever they are answered with an error. -/
theorem forward_charged (target : String) : Charged msg.writeTx (forward config ambient kernel msg target) := by
  have outcome := forward_cases config ambient kernel msg target
  generalize forward config ambient kernel msg target = result at outcome ⊢
  cases outcome with
  | refused code reason stopped => exact .of_error code reason
  | delivered =>
    apply Charged.of_plain
    intro send member
    cases List.mem_singleton.mp member
    rfl
  | relayed sender tx registered granted missing bridged live rest errored left taken =>
    rcases left with ⟨rfl, rfl⟩ | ⟨rfl, rfl⟩
    · apply Charged.of_plain
      intro send member
      cases List.mem_singleton.mp member
      rfl
    · exact .inr ⟨rfl, by simp [errorReplies, Send.isErrorReply, sendError, sendEnvelope]⟩

private theorem broadcast_charged : Charged msg.writeTx (broadcast ambient kernel msg) := by
  have outcome := broadcast_cases ambient kernel msg
  generalize broadcast ambient kernel msg = result at outcome ⊢
  cases outcome with
  | refused code reason => exact .of_error code reason
  | delivered =>
    apply Charged.of_plain
    intro send member
    obtain ⟨entry, -, rfl⟩ := List.mem_map.mp member
    rfl

/-- The kernel's own arms count every error reply but those to exempt messages and
the registry's rejections. -/
theorem handlePayload_charged {envelope : Envelope} (decoded : msg.frame.payload.decode = some envelope)
    (unexempt : isThrottleExempt msg.frame = false)
    (enlists : ∀ register, envelope.payload = .pluginRegister register →
      rejectedByRegistry config ambient kernel msg register = false) :
    Charged msg.writeTx (handlePayload config ambient kernel msg messageId envelope.payload) := by
  have nothing : Plain [] := fun _ member => absurd member List.not_mem_nil
  unfold isThrottleExempt at unexempt
  simp only [decoded] at unexempt
  cases payload : envelope.payload with
  | pluginRegister register => exact handlePluginRegister_charged (enlists register payload)
  | actionRequest request => exact .of_plain (handleActionRequest_plain request)
  | eventPublish eventType payloadJson => exact .of_plain (handleEventPublish_plain eventType payloadJson)
  | ping | kernelCommand =>
    apply Charged.of_plain
    intro send member
    cases List.mem_singleton.mp member
    rfl
  | subscribe | unsubscribe =>
    apply Charged.of_plain
    simp only [handlePayload]
    split <;> exact nothing
  | eventAck eventId => exact .of_plain nothing
  | actionResponse | actionRequestChunk | actionResponseChunk | sessionClose | pong =>
    rw [payload] at unexempt; cases unexempt
  | pluginRegisterAck | eventPublishAck | event | actionStreamAbort | kernelCommandAck | error | unhandled =>
    exact .of_error _ _

private theorem routeMessage_charged {target : String} (unexempt : isThrottleExempt msg.frame = false)
    (enlists : target = "kernel" → ∀ envelope register, msg.frame.payload.decode = some envelope →
      envelope.payload = .pluginRegister register → rejectedByRegistry config ambient kernel msg register = false) :
    Charged msg.writeTx (routeMessage config ambient kernel msg target) := by
  unfold routeMessage
  split
  next here =>
    unfold handleKernelMessage
    split
    · exact .of_error _ _
    next envelope decoded =>
      split
      · exact .of_error _ _
      · exact handlePayload_charged decoded unexempt fun register => enlists here envelope register decoded
  · split
    · exact broadcast_charged
    · exact forward_charged target

private theorem routeMessage_lost {target : String} (elsewhere : target ≠ "kernel")
    (plain : errorReplies msg.writeTx (routeMessage config ambient kernel msg target).sends = [])
    (full : ∀ send ∈ (routeMessage config ambient kernel msg target).sends, ambient.accepts send.tx = false) :
    lost ambient kernel msg target = true := by
  have spoken {code : ErrorCode} {text : String} {before : List Send}
      (plain : errorReplies msg.writeTx (before ++ [sendError msg.writeTx code text]) = []) : False := by
    simp [errorReplies, Send.isErrorReply, sendError, sendEnvelope] at plain
  unfold routeMessage at plain full
  rw [if_neg elsewhere] at plain full
  split at plain
  next everyone =>
    rw [if_pos everyone] at full
    have outcome := broadcast_cases ambient kernel msg
    generalize broadcast ambient kernel msg = result at outcome plain full
    cases outcome with
    | refused => exact (@spoken _ _ [] plain).elim
    | delivered sender registered allowed audible =>
      simp only [lost, registered, Option.any_some, if_pos everyone, allowed, audible, Bool.not_false, Bool.true_and,
        List.all_eq_true]
      intro entry listed
      by_contra reached
      simp only [Bool.or_eq_true, not_or, beq_iff_eq, Bool.not_eq_true, Bool.not_eq_eq_eq_not, Bool.not_true] at reached
      obtain ⟨⟨apart, admitted⟩, room⟩ := reached
      have taken := full ⟨entry.writeTx, .frame msg.frame.stripMac, none⟩
        (List.mem_map.mpr ⟨entry, List.mem_filter.mpr ⟨listed, by simp [apart, admitted]⟩, rfl⟩)
      exact room taken
  next named =>
    rw [if_neg named] at full
    have outcome := forward_cases config ambient kernel msg target
    generalize forward config ambient kernel msg target = result at outcome plain full
    cases outcome with
    | refused => exact (@spoken _ _ [] plain).elim
    | delivered sender entry registered granted resolved =>
      have room := full _ (List.mem_singleton.mpr rfl)
      simp [lost, registered, named, granted, resolved, room, isErr]
    | relayed sender tx registered granted missing bridged live rest errored left taken =>
      rcases left with ⟨rfl, -⟩ | ⟨rfl, -⟩
      · cases (full _ List.mem_cons_self).symm.trans (taken.mpr rfl)
      · exact (@spoken _ _ [_] plain).elim

end Outcomes

section Budget
variable {config : Config} {counts : DashMap ConnId (Nat × Nat)} {connId other : ConnId} {now : Nat} {budget : Nat × Nat}

private theorem charge_kept (held : counts.get connId = some budget) (recent : now < budget.2 + System.errorBudgetIdleTtl) :
    (if counts.keys.length ≥ config.maxTrackedErrorConns then
      counts.retain fun budget => decide (now - budget.2 < System.errorBudgetIdleTtl) else counts).get connId =
        some budget := by
  split
  · rw [DashMap.get_retain, held]
    have positive : 0 < System.errorBudgetIdleTtl := by decide
    have inside : now - budget.2 < System.errorBudgetIdleTtl := by omega
    simp [Option.filter, inside]
  · exact held

private theorem charge_other (apart : connId ≠ other) (errored : Bool) (held : counts.get connId = some budget) :
    (System.charge config now counts other errored).get connId = some budget ∨
      budget.2 + System.errorBudgetIdleTtl ≤ now := by
  by_cases recent : now < budget.2 + System.errorBudgetIdleTtl
  · left
    unfold System.charge
    split
    · rw [DashMap.get_insert, if_neg apart]
      exact charge_kept held recent
    · rw [DashMap.get_remove, if_neg apart]
      exact held
  · right
    omega

private theorem charge_own : ∃ count, (System.charge config now counts connId true).get connId = some (count + 1, now) ∧
    ∀ budget, counts.get connId = some budget → now < budget.2 + System.errorBudgetIdleTtl → count = budget.1 := by
  refine ⟨_, (DashMap.get_insert ..).trans (if_pos rfl), fun budget held recent => ?_⟩
  rw [charge_kept held recent]
  rfl

end Budget

/-- Consecutive errors come before the budget expires. -/
def Paced (times : List Nat) : Prop := times.IsChain fun early late => late < early + System.errorBudgetIdleTtl

/-- The errors so far are in the connection's budget, or it has expired. -/
def Tracked (connId : ConnId) (counts : DashMap ConnId (Nat × Nat)) (past : List Nat) (now : Nat) : Prop :=
  ∀ last ∈ past.getLast?, (∃ count, counts.get connId = some (count, last) ∧ past.length ≤ count) ∨
    last + System.errorBudgetIdleTtl ≤ now

section Runs
variable {config : Config} {connId : ConnId} {system : System} {counts : DashMap ConnId (Nat × Nat)}
  {past : List Nat} {now later : Nat}

private theorem Tracked.wait (tracked : Tracked connId counts past now) (order : now ≤ later) : Tracked connId counts past later := by
  intro last ended
  apply (tracked last ended).imp_right
  intro expired
  omega

theorem Tracked.other (tracked : Tracked connId counts past now) {other : ConnId} (apart : connId ≠ other)
    (errored : Bool) (order : now ≤ later) :
    Tracked connId (System.charge config later counts other errored) past later := by
  intro last ended
  rcases tracked last ended with ⟨count, held, enough⟩ | expired
  · exact (charge_other apart errored held).imp_left fun kept => ⟨count, kept, enough⟩
  · exact .inr (by omega)

theorem Tracked.own (tracked : Tracked connId counts past now) (order : now ≤ later) (paced : Paced (past ++ [later])) :
    Tracked connId (System.charge config later counts connId true) (past ++ [later]) later ∧
      past.length ≤ ((counts.get connId).map Prod.fst).getD 0 := by
  obtain ⟨count, recorded, same⟩ := @charge_own config counts connId later
  cases ended : past.getLast? with
  | none =>
    obtain rfl := List.getLast?_eq_none_iff.mp ended
    refine ⟨fun last final => ?_, Nat.zero_le _⟩
    cases final
    exact .inl ⟨count + 1, recorded, by simp⟩
  | some last =>
    have recent : later < last + System.errorBudgetIdleTtl :=
      (List.isChain_append.mp paced).2.2 last ended later rfl
    rcases tracked last ended with ⟨before, held, enough⟩ | expired
    · have equal := same _ held recent
      simp only at equal
      constructor
      · intro final isLast
        rw [List.getLast?_concat] at isLast
        cases isLast
        refine .inl ⟨count + 1, recorded, ?_⟩
        rw [List.length_append, List.length_singleton]
        omega
      · rw [held]
        exact enough
    · omega

private theorem System.sends_routed (config : Config) (system : System) (ambient : Ambient) (msg : IncomingMessage)
    (target : String) : (system.routed config ambient msg target).log.drop system.log.length =
      (routeMessage config (system.observe ambient) system.kernel msg target).sends :=
  List.drop_left

private theorem routed_charged {ambient : Ambient} {msg : IncomingMessage} {target : String}
    (refused : unaccepted config msg.connId system (.message ambient msg) = true)
    (seen : counted config msg.connId system (.message ambient msg) = true) (targeted : msg.frame.target = some target)
    (within : system.throttled config msg = false)
    (stepped : system.step config (.message ambient msg) = system.routed config ambient msg target) :
    (routeMessage config (system.observe ambient) system.kernel msg target).errored = true ∧
      system.errorTimes config msg.connId (.message ambient msg) = [ambient.clock.now] ∧
      ((system.errorCounts.get msg.connId).map Prod.fst).getD 0 < config.maxConnErrors := by
  simp only [counted, bne_self_eq_false, Bool.false_or, targeted, Option.any_some, Bool.and_eq_true,
    Bool.not_eq_eq_eq_not, Bool.not_true] at seen
  obtain ⟨unexempt, passes⟩ := seen
  have sends : system.sends config (.message ambient msg) =
      (routeMessage config (system.observe ambient) system.kernel msg target).sends := by
    rw [System.sends, stepped]
    exact System.sends_routed config system ambient msg target
  have budget : ((system.errorCounts.get msg.connId).map Prod.fst).getD 0 < config.maxConnErrors := by
    simpa [System.throttled, unexempt] using within
  have charged : Charged msg.writeTx (routeMessage config (system.observe ambient) system.kernel msg target) := by
    apply routeMessage_charged unexempt
    rintro rfl envelope register decoded payload
    simpa [decoded, payload] using passes
  rcases charged with none | ⟨errored, single⟩
  · simp only [unaccepted, bne_self_eq_false, sends, none, List.isEmpty_nil, within, unexempt, targeted, Bool.not_true,
      Bool.false_or, Bool.false_and, Bool.and_eq_true, bne_iff_ne, ne_eq, Option.some.injEq, List.all_eq_true,
      Bool.not_eq_eq_eq_not] at refused
    rw [if_neg refused.1] at passes
    have gone := routeMessage_lost refused.1 none refused.2
    simp [gone] at passes
  · refine ⟨errored, ?_, budget⟩
    obtain ⟨reply, only⟩ := List.length_eq_one_iff.mp single
    simp only [System.errorTimes, if_true, sends, only, List.map_cons, List.map_nil]

/-- One step: what the connection is told is recorded, and is within its budget. -/
theorem Tracked.step {input : Input} (unlimited : config.ipcLimiter = false)
    (refused : unaccepted config connId system input = true) (seen : counted config connId system input = true)
    (tracked : Tracked connId system.errorCounts past now) (within : past.length ≤ config.maxConnErrors)
    (order : ∀ time, input.routedAt = some time → now ≤ time)
    (paced : Paced (past ++ system.errorTimes config connId input)) :
    Tracked connId (system.step config input).errorCounts (past ++ system.errorTimes config connId input)
      (input.routedAt.getD now) ∧ (past ++ system.errorTimes config connId input).length ≤ config.maxConnErrors := by
  have quiet : system.errorTimes config connId input = [] →
      Tracked connId (system.step config input).errorCounts past (input.routedAt.getD now) →
      Tracked connId (system.step config input).errorCounts (past ++ system.errorTimes config connId input)
        (input.routedAt.getD now) ∧ (past ++ system.errorTimes config connId input).length ≤ config.maxConnErrors := by
    intro nothing kept
    rw [nothing, List.append_nil]
    exact ⟨kept, within⟩
  cases input with
  | message ambient msg =>
    have later : now ≤ ambient.clock.now := order _ rfl
    have handles : System.Handles config system ambient msg (system.step config (.message ambient msg)) :=
      System.handleMessage_cases config system ambient msg
    generalize stepped : system.step config (.message ambient msg) = after at handles quiet
    by_cases own : msg.connId = connId
    · subst own
      cases handles with
      | limited limit => simp [unlimited] at limit
      | untargeted _ missing => simp [counted, missing] at seen
      | dropped =>
        apply quiet
        · have silent : system.sends config (.message ambient msg) = [] := by
            rw [System.sends, stepped, List.drop_length]
          simp [System.errorTimes, silent, errorReplies]
        · exact tracked.wait later
      | routed target _ targeted unthrottled =>
        obtain ⟨errored, once, budget⟩ := routed_charged refused seen targeted unthrottled stepped
        rw [once] at paced ⊢
        obtain ⟨recorded, below⟩ := @Tracked.own config _ _ _ _ _ tracked later paced
        constructor
        · change Tracked _ (System.charge config ambient.clock.now system.errorCounts msg.connId _) _ _
          rw [errored]
          exact recorded
        · rw [List.length_append, List.length_singleton]
          omega
    · apply quiet
      · simp [System.errorTimes, own]
      · cases handles with
        | limited | untargeted | dropped => exact tracked.wait later
        | routed target _ targeted unthrottled => exact tracked.other (Ne.symm own) _ later
  | _ => exact quiet rfl tracked

/-- The same for a run, by induction on its inputs. -/
theorem Tracked.run (unlimited : config.ipcLimiter = false) (inputs : List Input)
    (obeys : (System.machine config).Obeys (fun system input =>
      unaccepted config connId system input = true ∧ counted config connId system input = true) system inputs)
    (tracked : Tracked connId system.errorCounts past now) (within : past.length ≤ config.maxConnErrors)
    (order : (now :: inputs.filterMap Input.routedAt).Pairwise (· ≤ ·))
    (paced : Paced (past ++ errorTimes config connId system inputs)) :
    (past ++ errorTimes config connId system inputs).length ≤ config.maxConnErrors := by
  induction inputs generalizing system past now with
  | nil => rwa [errorTimes, List.append_nil]
  | cons input inputs ih =>
    obtain ⟨⟨refused, seen⟩, rest⟩ := obeys
    rw [errorTimes, ← List.append_assoc] at paced ⊢
    have early : Paced (past ++ system.errorTimes config connId input) := (List.isChain_append.mp paced).1
    have next : ∀ time, input.routedAt = some time → now ≤ time := by
      intro time seen
      apply (List.pairwise_cons.mp order).1
      rw [List.filterMap_cons, seen]
      exact List.mem_cons_self
    obtain ⟨kept, below⟩ := tracked.step unlimited refused seen within next early
    apply ih rest kept below _ paced
    cases seen : input.routedAt with
    | none =>
      rw [List.filterMap_cons, seen] at order
      exact order
    | some time =>
      rw [List.filterMap_cons, seen] at order
      exact (List.pairwise_cons.mp order).2

end Runs

/-- A connection none of whose frames is accepted is sent no more error replies than its
budget, if every one of its frames is one that the budget sees. -/
theorem error_replies_bounded (config : Config) (unlimited : config.ipcLimiter = false) (system : System)
    (connId : ConnId) (inputs : List Input)
    (obeys : (System.machine config).Obeys (fun system input =>
      unaccepted config connId system input = true ∧ counted config connId system input = true) system inputs)
    (clock : (inputs.filterMap Input.routedAt).Pairwise (· ≤ ·)) (paced : Paced (errorTimes config connId system inputs)) :
    (errorTimes config connId system inputs).length ≤ config.maxConnErrors := by
  have start : Tracked connId system.errorCounts [] 0 := fun last ended => by cases ended
  exact start.run unlimited inputs obeys (Nat.zero_le _) (List.pairwise_cons.mpr ⟨fun _ _ => Nat.zero_le _, clock⟩) paced

def garbled : Input := .message {} { connId := 2, writeTx := 2, frame := { target := some "kernel", payload := .raw [] } }

theorem error_replies_bounded_garbled :
    errorTimes { maxConnErrors := 3 } 2 {} (List.replicate 5 garbled) = [0, 0, 0] ∧
    (errorTimes { maxConnErrors := 3 } 2 {} (List.replicate 5 garbled)).length ≤ 3 := by
  have paced : List.IsChain (fun early late => late < early + System.errorBudgetIdleTtl)
      (errorTimes { maxConnErrors := 3 } 2 {} (List.replicate 5 garbled)) := by decide +kernel
  exact ⟨by decide +kernel,
    error_replies_bounded { maxConnErrors := 3 } rfl {} 2 _ (by decide +kernel) (by decide +kernel) paced⟩

/-- Runs of frames none of which is accepted, with more error replies than the budget of
sixteen: frames without a readable target, closes for a session that does not
exist, registrations that the registry rejects, and garbled frames after every fifteen of
which the budget is cleared by a stale reply, a frame for everyone that the allowlist keeps
from everyone, or a frame for a plugin whose channel is closed. -/
theorem error_replies_unbounded :
    let system := (System.machine {}).run
      [.call (.registerWithDevice ⟨0, 0⟩ "app" 2 { permissions := ["ipc_send"], ipcTargets := ["host"] } 2 {}),
       .call (.registerWithDevice ⟨0, 0⟩ "camera" 3 {} 3 {})]
    let note (target : Option String) : Input :=
      .message {} { connId := 2, writeTx := 2, frame := { target, payload := .raw [] } }
    let close := toKernel 2 (.sessionClose ⟨"1", ""⟩)
    let again := toKernel 2 (.pluginRegister { pluginId := "app" })
    let stale := toKernel 2 (.actionResponse ⟨"1", .actionOk, [], ""⟩)
    let around (input : Input) := List.replicate 15 garbled ++ input :: List.replicate 15 garbled
    ([List.replicate 20 (note none), List.replicate 20 close, List.replicate 20 again, around stale, around (note "*"),
      .call (.registerWithDevice ⟨0, 0⟩ "host" 1 {} 1 {}) :: .close 1 :: around (note "host")].map fun inputs =>
        (decide ((System.machine {}).Obeys (fun system input => unaccepted {} 2 system input = true) system inputs),
          (errorTimes {} 2 system inputs).length)) =
      [(true, 20), (true, 20), (true, 20), (true, 30), (true, 30), (true, 30)] := by
  decide +kernel

end Vynkor
