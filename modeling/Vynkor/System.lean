import Vynkor.Lib.Machine
import Vynkor.Router

/-! The kernel with its channels, driven one input at a time: a message or tick of
the router loop, a disconnect, a registry call of another task, or a channel end. -/

namespace Vynkor
open Lib

/-- `log` is a history variable: every send the kernel has attempted. -/
structure System where
  kernel : Kernel := {}
  errorCounts : DashMap ConnId (Nat × Instant) := ∅
  chans : Tx → Channel Outbound := fun _ => {}
  wakes : List WakeRequest := []
  log : List Send := []

inductive Input
  | message (ambient : Ambient) (msg : IncomingMessage)
  | tick (ambient : Ambient)
  | disconnect (ambient : Ambient) (connId : ConnId)
  | call (call : Registry.Call)
  | setActionRequirements (pluginId : String) (requirements : DashMap String PermissionType)
  | clearActionRequirements (pluginId : String)
  | touchUsed (clock : Clock) (pluginId : String)
  | lazyGateHold (pluginId : String)
  | lazyGateRelease (pluginId : String)
  | lazyGateAllow (clock : Clock) (pluginId : String) (frameAddr : Nat)
  | bridgeUp (tx : Tx)
  | bridgeDown (tx : Tx)
  | takeWake
  | receive (tx : Tx)
  | close (tx : Tx)

namespace System

def errorBudgetIdleTtl : Nat := secs 300

/-- Only the frame key waits for room in the channel. -/
def put (chans : Tx → Channel Outbound) (send : Send) : Tx → Channel Outbound :=
  Function.update chans send.tx
    (match send.item with
    | .enableMac _ => (chans send.tx).send send.item
    | _ => (chans send.tx).trySend send.item)

def deliver (system : System) (sends : List Send) : System :=
  { system with chans := sends.foldl put system.chans, log := system.log ++ sends }

/-- The step sees the channels as they are when it starts. -/
def observe (system : System) (ambient : Ambient) : Ambient :=
  { ambient with accepts := fun tx => (system.chans tx).accepts, closed := fun tx => (system.chans tx).closed }

/-- An error counts against the connection; a success clears its budget. -/
def charge (config : Config) (now : Instant) (errorCounts : DashMap ConnId (Nat × Instant)) (connId : ConnId)
    (errored : Bool) : DashMap ConnId (Nat × Instant) :=
  if errored then
    let kept := if errorCounts.keys.length ≥ config.maxTrackedErrorConns then
        errorCounts.retain fun budget => decide (now - budget.2 < errorBudgetIdleTtl)
      else errorCounts
    kept.insert connId ((((kept.get connId).map Prod.fst).getD 0) + 1, now)
  else errorCounts.remove connId

def throttled (config : Config) (system : System) (msg : IncomingMessage) : Bool :=
  decide (((system.errorCounts.get msg.connId).map Prod.fst).getD 0 ≥ config.maxConnErrors) &&
    !isThrottleExempt msg.frame

/-- One message of the router loop. -/
def handleMessage (config : Config) (system : System) (ambient : Ambient) (msg : IncomingMessage) : System :=
  let ambient := system.observe ambient
  if config.ipcLimiter && ambient.ipcLimited then
    system.deliver [sendError msg.writeTx .errRateLimited "IPC rate limit exceeded"]
  else
    match msg.frame.target with
    | none => system.deliver [sendError msg.writeTx .errUnknown "invalid UTF-8 in frame target"]
    | some target =>
      if system.throttled config msg then system
      else
        let outcome := routeMessage config ambient system.kernel msg target
        { system with
          kernel := outcome.kernel
          errorCounts := charge config ambient.clock.now system.errorCounts msg.connId outcome.errored
          wakes := system.wakes ++ outcome.wake.toList }.deliver outcome.sends

def updateRegistry (system : System) (registry : Registry) : System :=
  { system with kernel := { system.kernel with registry } }

def step (config : Config) (system : System) : Input → System
  | .message ambient msg => system.handleMessage config ambient msg
  | .tick ambient =>
    let outcome := pruneTick config ambient system.kernel
    { system with kernel := outcome.kernel }.deliver outcome.sends
  | .disconnect ambient connId =>
    let result := handleDisconnect ambient system.kernel connId
    { system with kernel := result.1 }.deliver result.2
  | .call call =>
    (system.updateRegistry (system.kernel.registry.apply call)).deliver (system.kernel.registry.notices call)
  | .setActionRequirements pluginId requirements =>
    system.updateRegistry (system.kernel.registry.setActionRequirements pluginId requirements)
  | .clearActionRequirements pluginId =>
    system.updateRegistry (system.kernel.registry.clearActionRequirements pluginId)
  | .touchUsed clock pluginId => system.updateRegistry (system.kernel.registry.touchUsed clock pluginId)
  | .lazyGateHold pluginId => system.updateRegistry (system.kernel.registry.lazyGateHold pluginId)
  | .lazyGateRelease pluginId => system.updateRegistry (system.kernel.registry.lazyGateRelease pluginId)
  | .lazyGateAllow clock pluginId frameAddr =>
    system.updateRegistry (system.kernel.registry.lazyGateAllow clock pluginId frameAddr)
  | .bridgeUp tx => { system with kernel := { system.kernel with bridgeConns := system.kernel.bridgeConns ++ [tx] } }
  | .bridgeDown tx => { system with
      kernel := { system.kernel with bridgeConns := system.kernel.bridgeConns.filter (· != tx) } }
  | .takeWake => { system with wakes := system.wakes.tail }
  | .receive tx => { system with chans := Function.update system.chans tx (system.chans tx).receive }
  | .close tx => { system with chans := Function.update system.chans tx (system.chans tx).close }

def machine (config : Config) : Machine System Input := ⟨{}, step config⟩

end System
end Vynkor
