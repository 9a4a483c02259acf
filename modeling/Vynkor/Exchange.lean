import Vynkor.Lazy
import Vynkor.System

/-! The router loop and the waker side by side, with the two channels between them. A
request that goes to a live provider is taken apart into the operations of its pass. -/

namespace Vynkor
open Lib

/-- A request on its way to a live provider, after the gate has let it through. -/
structure Handover where
  ambient : Ambient
  call : Call
  messageId : String
  request : ActionRequest
  sender : String
  caller : String
  provider : PluginEntry

/-- The next operation of the router's pass. -/
inductive Pass
  | idle
  | register (handover : Handover)
  | forward (handover : Handover) (internalId : String)
  | touch (handover : Handover)

def Pass.handover : Pass → Option Handover
  | .idle => none
  | .register handover | .forward handover _ | .touch handover => some handover

structure Delivery where
  call : Call
  provider : PluginEntry
  deriving DecidableEq

/-- `inbox` is the router's channel and `wakes` the waker's. `arrived` and `delivered` are
history variables: how many messages have come in, and the requests put on the channel of
their provider. -/
structure Exchange where
  system : System := {}
  inbox : List Call := []
  wakes : List (String × Call) := []
  pass : Pass := .idle
  starter : Starter := {}
  arrived : Nat := 0
  delivered : List Delivery := []

inductive ExchangeInput
  | arrive (msg : IncomingMessage)
  | route (ambient : Ambient)
  | advance
  | elsewhere (input : Input)
  | receive (ambient : Ambient)
  | waker (ambient : Ambient) (event : LazyEvent)

/-- Inputs that are neither the router's messages nor the waker's doing. -/
def Input.foreign : Input → Bool
  | .tick _ | .disconnect _ _ | .call _ | .setActionRequirements _ _ | .clearActionRequirements _ | .bridgeUp _
  | .bridgeDown _ | .receive _ | .close _ => true
  | .message _ _ | .touchUsed _ _ | .lazyGateHold _ | .lazyGateRelease _ | .lazyGateAllow _ _ _ | .takeWake => false

def LazyEvent.isRequest : LazyEvent → Bool
  | .select (.request _ _) => true
  | _ => false

/-- The request in a message for the kernel that the router gets to handle. -/
def System.asks (config : Config) (system : System) (ambient : Ambient) (msg : IncomingMessage) :
    Option (String × ActionRequest) :=
  if config.ipcLimiter && ambient.ipcLimited then none
  else if msg.frame.target ≠ some "kernel" || system.throttled config msg then none
  else
    match msg.frame.payload.decode with
    | none => none
    | some envelope =>
      match envelope.payload with
      | .actionRequest request =>
        if system.kernel.registry.isRegistered msg.connId then some (envelope.messageId, request) else none
      | _ => none

/-- What the lookup, the gate and the guards of `handle_kernel_message` make of a request. -/
def Kernel.route (config : Config) (ambient : Ambient) (kernel : Kernel) (msg : IncomingMessage) (request : ActionRequest) :
    Route :=
  let sender := senderId kernel.registry msg.connId
  let looked := gatedLookup kernel.registry request.action msg.frameAddr
  chooseRoute config ambient looked.2 sender (callerDenied config kernel.registry sender request) looked.1 request.action

namespace Exchange

/-- The message is a request that goes to a live provider. -/
def handover (config : Config) (exchange : Exchange) (ambient : Ambient) (call : Call) : Option Handover :=
  match exchange.system.asks config ambient call.msg with
  | none => none
  | some (messageId, request) =>
    let kernel := exchange.system.kernel
    match kernel.route config (exchange.system.observe ambient) call.msg request with
    | .deliver provider =>
      let sender := senderId kernel.registry call.msg.connId
      some ⟨ambient, call, messageId, request, sender, callerId kernel.registry sender request, provider⟩
    | _ => none

/-- Lookup and gate check of the next message; a pass that leads nowhere else is over. -/
def route (config : Config) (exchange : Exchange) (ambient : Ambient) : Exchange :=
  match exchange.pass, exchange.inbox with
  | .idle, call :: inbox =>
    match exchange.handover config ambient call with
    | some handover =>
      let registry := exchange.system.kernel.registry
      { exchange with
        inbox
        pass := .register handover
        system := exchange.system.updateRegistry (gatedLookup registry handover.request.action call.msg.frameAddr).2 }
    | none =>
      let after := { exchange.system with wakes := [] }.handleMessage config ambient call.msg
      { exchange with
        inbox
        system := { after with wakes := [] }
        wakes := exchange.wakes ++ after.wakes.map fun wake => (wake.pluginId, call) }
  | _, _ => exchange

def advance (config : Config) (exchange : Exchange) : Exchange :=
  match exchange.pass with
  | .idle => exchange
  | .register handover =>
    let kernel := exchange.system.kernel
    let issued := kernel.dispatch config handover.ambient handover.call.msg handover.request handover.sender
      handover.provider.pluginId
    { exchange with pass := .forward handover kernel.internalId, system := { exchange.system with kernel := issued } }
  | .forward handover internalId =>
    let send := sendEnvelope handover.provider.writeTx
      (forwardedRequest handover.messageId handover.request internalId handover.caller)
    { exchange with
      pass := .touch handover
      system := exchange.system.deliver [send]
      delivered := exchange.delivered ++
        if (exchange.system.chans handover.provider.writeTx).accepts then [⟨handover.call, handover.provider⟩] else [] }
  | .touch handover =>
    let clock := handover.ambient.clock
    let touched := exchange.system.updateRegistry
      (exchange.system.kernel.registry.touchUsed clock handover.provider.pluginId)
    { exchange with
      pass := .idle
      system := { touched with
        errorCounts := System.charge config clock.now touched.errorCounts handover.call.msg.connId false } }

/-- An operation of the waker: its re-injected calls go to the end of the router's channel. -/
def progress (startTimeout : Nat) (exchange : Exchange) (ambient : Ambient) (event : LazyEvent) : Exchange :=
  let progress := exchange.starter.step startTimeout ambient exchange.system.kernel.registry event
  { exchange with
    starter := progress.starter
    system := (exchange.system.updateRegistry progress.registry).deliver (progress.fails.filterMap Failure.answer)
    inbox := exchange.inbox ++ progress.reinjects.map fun reinjected => { reinjected.2 with via := some reinjected.1 } }

def step (config : Config) (startTimeout : Nat) (exchange : Exchange) : ExchangeInput → Exchange
  | .arrive msg => { exchange with
      inbox := exchange.inbox ++ [{ msg, serial := exchange.arrived }]
      arrived := exchange.arrived + 1 }
  | .route ambient => exchange.route config ambient
  | .advance => exchange.advance config
  | .elsewhere input =>
    if input.foreign then { exchange with system := exchange.system.step config input } else exchange
  | .receive ambient =>
    match exchange.starter.task, exchange.wakes with
    | .idle, (pluginId, call) :: wakes =>
      { exchange with wakes }.progress startTimeout ambient (.select (.request pluginId call))
    | _, _ => exchange
  | .waker ambient event => if event.isRequest then exchange else exchange.progress startTimeout ambient event

def machine (config : Config) (startTimeout : Nat) : Machine Exchange ExchangeInput := ⟨{}, step config startTimeout⟩

end Exchange
end Vynkor
