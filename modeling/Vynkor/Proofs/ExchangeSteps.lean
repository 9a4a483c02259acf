import Vynkor.Exchange
import Vynkor.Proofs.RouterCases

/-! A pass of the router that is not interrupted is one message of the router loop. -/

namespace Vynkor
open Lib

/-- What it takes for a message to be handled as a request to the kernel. -/
structure System.Asks (config : Config) (system : System) (ambient : Ambient) (msg : IncomingMessage) (messageId : String)
    (request : ActionRequest) : Prop where
  unlimited : (config.ipcLimiter && ambient.ipcLimited) = false
  targeted : msg.frame.target = some "kernel"
  within : system.throttled config msg = false
  registered : system.kernel.registry.isRegistered msg.connId = true
  decoded : ∃ envelope, msg.frame.payload.decode = some envelope ∧ envelope.messageId = messageId ∧
    envelope.payload = .actionRequest request

section
variable {config : Config} {system : System} {ambient : Ambient} {msg : IncomingMessage} {messageId : String}
  {request : ActionRequest}

theorem System.asks_some (asks : system.asks config ambient msg = some (messageId, request)) :
    system.Asks config ambient msg messageId request := by
  unfold System.asks at asks
  split at asks
  · cases asks
  next unlimited =>
    split at asks
    · cases asks
    next reaches =>
      simp only [ne_eq, Bool.or_eq_true, decide_eq_true_eq, not_or, not_not, Bool.not_eq_true] at reaches
      split at asks
      · cases asks
      next envelope decoded =>
        split at asks
        next asked payload =>
          split at asks
          next registered =>
            cases asks
            exact ⟨Bool.eq_false_iff.mpr unlimited, reaches.1, reaches.2, registered, envelope, decoded, rfl, payload⟩
          · cases asks
        · cases asks

theorem System.Asks.routeMessage (asks : system.Asks config ambient msg messageId request) :
    Vynkor.routeMessage config (system.observe ambient) system.kernel msg "kernel" =
      handleActionRequest config (system.observe ambient) system.kernel msg messageId request := by
  obtain ⟨envelope, decoded, rfl, payload⟩ := asks.decoded
  have known := asks.registered
  unfold Vynkor.routeMessage handleKernelMessage
  rw [if_pos rfl]
  simp only [decoded, payload, known, Payload.isRegister, Bool.not_true, Bool.and_false, Bool.false_eq_true, if_false]
  rfl

theorem System.Asks.handleMessage (asks : system.Asks config ambient msg messageId request) :
    system.handleMessage config ambient msg =
      (let outcome := handleActionRequest config (system.observe ambient) system.kernel msg messageId request
      { system with
        kernel := outcome.kernel
        errorCounts := System.charge config ambient.clock.now system.errorCounts msg.connId outcome.errored
        wakes := system.wakes ++ outcome.wake.toList }.deliver outcome.sends) := by
  rw [System.handleMessage_routed config system ambient msg asks.unlimited asks.targeted asks.within]
  unfold System.routed
  rw [asks.routeMessage]

end

namespace Exchange
variable {config : Config} {exchange : Exchange} {ambient : Ambient} {call : Call} {handover : Handover}

/-- A handover is a request that the gate and the guards let through. -/
structure Hands (config : Config) (exchange : Exchange) (ambient : Ambient) (call : Call) (handover : Handover) : Prop where
  surroundings : handover.ambient = ambient
  carries : handover.call = call
  asks : exchange.system.Asks config ambient call.msg handover.messageId handover.request
  route : exchange.system.kernel.route config (exchange.system.observe ambient) call.msg handover.request =
    .deliver handover.provider
  sender : handover.sender = senderId exchange.system.kernel.registry call.msg.connId
  caller : handover.caller = callerId exchange.system.kernel.registry handover.sender handover.request

theorem handover_some (found : exchange.handover config ambient call = some handover) :
    Hands config exchange ambient call handover := by
  unfold Exchange.handover at found
  split at found
  · cases found
  next messageId request asks =>
    simp only at found
    split at found
    next provider route =>
      cases found
      exact ⟨rfl, rfl, System.asks_some asks, route, rfl, rfl⟩
    · cases found

/-- Without another task in between, the operations of a pass are one message of the
router loop. -/
theorem pass_eq_handleMessage (idle : exchange.pass = .idle) {inbox : List Call} (next : exchange.inbox = call :: inbox)
    (found : exchange.handover config ambient call = some handover) :
    ((((exchange.route config ambient).advance config).advance config).advance config).system =
      exchange.system.handleMessage config ambient call.msg := by
  have hands := handover_some found
  have gated : exchange.route config ambient = { exchange with
      inbox, pass := .register handover
      system := exchange.system.updateRegistry
        (gatedLookup exchange.system.kernel.registry handover.request.action call.msg.frameAddr).2 } := by
    unfold Exchange.route
    simp only [idle, next, found]
  have route := hands.route
  unfold Kernel.route at route
  rw [hands.asks.handleMessage, gated]
  simp only [Exchange.advance, handleActionRequest]
  rw [route]
  simp only [hands.surroundings, hands.carries, hands.sender, hands.caller, List.append_nil, Option.toList_none]
  rfl

end Exchange
end Vynkor
