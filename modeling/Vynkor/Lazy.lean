import Vynkor.Router

/-! Wake-on-first-call for lazy plugins. The task handles one event at a time; an event
is taken apart into its operations on the registry, between which other tasks may run. -/

namespace Vynkor
open Lib

def maxQueued : Nat := 64

/-- A re-injected frame that the router never consumed stops being allowed after this. -/
def allowTtl : Nat := secs 5

/-- A message that passes through the waker. The rest are history variables: its place
among all messages and among all wake requests, and the plugin it was re-injected for. -/
structure Call where
  msg : IncomingMessage
  serial : Nat := 0
  receipt : Nat := 0
  via : Option String := none
  deriving DecidableEq

/-- A lazy plugin that is starting, or being stopped. `slot` is a history variable. -/
structure Waking where
  queue : List Call := []
  since : Instant
  starting : Bool := false
  wantStop : Bool := false
  stopping : Bool := false
  slot : Nat
  deriving DecidableEq

inductive RunKind
  | start
  | stop
  deriving DecidableEq, Repr

/-- A call of `PluginStarter` that runs off the loop. The slot that issued it and whether
the idle sweep did are history variables. -/
structure Run where
  kind : RunKind
  pluginId : String
  slot : Nat
  idle : Bool := false
  deriving DecidableEq, Repr

/-- The next operation of the event that is being handled. -/
inductive Task
  | idle
  | enter (pluginId : String) (call : Call)
  | serve (pluginId : String) (call : Call)
  | touch (pluginId : String) (call : Call)
  | wake (pluginId : String) (call : Call)
  /-- `rest` is what is left of the poll that drains the queue. -/
  | reinject (pluginId : String) (calls : List Call) (rest : Option (List String × List String))
  | survey (now : Instant) (ids ready expired : List String)
  | drain (ready expired : List String)
  | expire (ids : List String)
  | trim (ids : List String)
  | sweep (now : Instant) (rest : List DormantPlugin)
  | pending (now : Instant) (dormant : DormantPlugin) (rest : List DormantPlugin)
  | hold (now : Instant) (dormant : DormantPlugin) (rest : List DormantPlugin)
  | stop (now : Instant) (dormant : DormantPlugin) (rest : List DormantPlugin)
  deriving DecidableEq

def Task.afterReinject : Option (List String × List String) → Task
  | none => .idle
  | some (ready, expired) => .drain ready expired

structure Starter where
  waking : DashMap String Waking := ∅
  task : Task := .idle
  running : List Run := []
  started : List (Run × Bool) := []
  stopped : List Run := []
  slots : Nat := 0
  routerClosed : Bool := false

/-- The arms of the loop's `select!`. -/
inductive Arm
  | request (pluginId : String) (call : Call)
  | started
  | stopped
  | poll
  | sweep
  deriving DecidableEq

inductive LazyEvent
  | select (arm : Arm)
  /-- The next operation of the arm that was selected. -/
  | resume
  /-- The call returns, a start with or without an error. -/
  | returned (run : Run) (failed : Bool)
  | closeRouter
  deriving DecidableEq

/-- The action name of an `ActionRequest`. -/
def requestAction (msg : IncomingMessage) : Option String :=
  match msg.frame.payload.decode with
  | none => none
  | some envelope =>
    match envelope.payload with
    | .actionRequest request => some request.action
    | _ => none

def failMsg (msg : IncomingMessage) (status : ActionStatus) (error : String) : Option Send :=
  match msg.frame.payload.decode with
  | none => none
  | some envelope =>
    match envelope.payload with
    | .actionRequest request => some (sendEnvelope msg.writeTx
        { messageId := envelope.messageId, payload := .actionResponse ⟨request.actionId, status, [], error⟩ })
    | _ => none

/-- A call for a plugin that is given up, with the answer its caller gets. -/
structure Failure where
  pluginId : String
  call : Call
  answer : Option Send
  deriving DecidableEq

def fail (pluginId : String) (status : ActionStatus) (error : String) (call : Call) : Failure :=
  ⟨pluginId, call, failMsg call.msg status error⟩

def failQueue (pluginId : String) (queue : List Call) : List Failure :=
  queue.map (fail pluginId .actionError ("lazy plugin " ++ pluginId ++ " failed to start"))

/-- The result of one operation: what it re-injects and gives up, and the call whose
result it applies, with the slot it applies it to. -/
structure Progress where
  registry : Registry
  starter : Starter
  reinjects : List (String × Call) := []
  fails : List Failure := []
  applies : List (Run × Nat) := []

namespace Starter

def spawnStart (starter : Starter) (now : Instant) (pluginId : String) (w : Waking) : Starter :=
  { starter with
    waking := starter.waking.insert pluginId { w with starting := true, since := now }
    running := starter.running ++ [⟨.start, pluginId, w.slot, false⟩] }

def spawnStop (starter : Starter) (pluginId : String) (w : Waking) (idle : Bool) : Starter :=
  { starter with
    waking := starter.waking.insert pluginId { w with stopping := true }
    running := starter.running ++ [⟨.stop, pluginId, w.slot, idle⟩] }

def onWakeRequest (registry : Registry) (starter : Starter) (pluginId : String) (call : Call) : Progress :=
  match starter.waking.get pluginId with
  | some w =>
    if w.queue.length ≥ maxQueued then
      { registry, starter, fails := [fail pluginId .actionError "lazy start queue full" call] }
    else
      { registry, starter := { starter with waking := starter.waking.insert pluginId { w with queue := w.queue ++ [call] } } }
  | none => { registry, starter := { starter with task := .enter pluginId call } }

/-- A result for a slot that has gone is ignored; one of an earlier slot is not told apart. -/
def onStartResult (registry : Registry) (starter : Starter) (run : Run) (failed : Bool) : Progress :=
  match starter.waking.get run.pluginId with
  | none => { registry, starter }
  | some w =>
    if w.wantStop then
      { registry, starter := starter.spawnStop run.pluginId { w with starting := false } false, applies := [(run, w.slot)] }
    else if failed then
      { registry := registry.lazyGateRelease run.pluginId
        starter := { starter with waking := starter.waking.remove run.pluginId }
        fails := failQueue run.pluginId w.queue
        applies := [(run, w.slot)] }
    else
      { registry
        starter := { starter with waking := starter.waking.insert run.pluginId { w with starting := false } }
        applies := [(run, w.slot)] }

def onStopped (registry : Registry) (starter : Starter) (now : Instant) (pluginId : String) : Progress :=
  match starter.waking.get pluginId with
  | none => { registry, starter }
  | some w =>
    if w.queue.isEmpty then
      { registry := registry.lazyGateRelease pluginId
        starter := { starter with waking := starter.waking.remove pluginId } }
    else
      { registry := registry.lazyGateHold pluginId
        starter := starter.spawnStart now pluginId { w with stopping := false, wantStop := false } }

/-- Whether the live plugin is the one that provides the requested action. -/
def serves (registry : Registry) (pluginId : String) (msg : IncomingMessage) : Bool :=
  (requestAction msg).any fun action =>
    match registry.findActionProvider action with
    | .found provider => provider.pluginId == pluginId
    | _ => false

/-- How a poll sorts one slot. -/
def surveyOne (startTimeout : Nat) (registry : Registry) (starter : Starter) (now : Instant) (pluginId : String)
    (ready expired : List String) : List String × List String :=
  match starter.waking.get pluginId with
  | none => (ready, expired)
  | some w =>
    if w.stopping || w.wantStop then (ready, expired)
    else if (registry.get pluginId).isSome then (ready ++ [pluginId], expired)
    else if now - w.since ≥ startTimeout then (ready, expired ++ [pluginId])
    else (ready, expired)

def expireOne (registry : Registry) (starter : Starter) (pluginId : String) (rest : List String) : Progress :=
  let starter := { starter with task := .expire rest }
  match starter.waking.get pluginId with
  | none => { registry, starter }
  | some w =>
    let emptied := { w with queue := [], wantStop := true }
    { registry := registry.lazyGateRelease pluginId
      starter :=
        if w.starting then { starter with waking := starter.waking.insert pluginId emptied }
        else starter.spawnStop pluginId emptied false
      fails := failQueue pluginId w.queue }

def trimOne (registry : Registry) (starter : Starter) (now : Instant) (pluginId : String) (rest : List String) : Progress :=
  let starter := { starter with task := .trim rest }
  if starter.waking.containsKey pluginId then { registry, starter }
  else
    let trimmed := registry.lazyGateTrim now pluginId allowTtl
    { registry := if trimmed.1 then trimmed.2.lazyGateRelease pluginId else trimmed.2, starter }

def sweepOne (registry : Registry) (starter : Starter) (clock : Clock) (now : Instant) (dormant : DormantPlugin)
    (rest : List DormantPlugin) : Progress :=
  let next := { starter with task := .sweep now rest }
  if starter.waking.containsKey dormant.pluginId || (registry.get dormant.pluginId).isNone then { registry, starter := next }
  else
    match registry.idleForAt dormant.pluginId now with
    | none => { registry := registry.touchUsed clock dormant.pluginId, starter := next }
    | some idle =>
      if idle < dormant.idleStop then { registry, starter := next }
      else { registry, starter := { starter with task := .pending now dormant rest } }

def resume (startTimeout : Nat) (ambient : Ambient) (registry : Registry) (starter : Starter) : Progress :=
  match starter.task with
  | .idle => { registry, starter }
  | .enter pluginId call =>
    { registry, starter := { starter with
        task := if (registry.get pluginId).isSome then .serve pluginId call else .touch pluginId call } }
  | .serve pluginId call =>
    if serves registry pluginId call.msg then
      { registry, starter := { starter with task := .reinject pluginId [call] none } }
    else
      { registry, starter := { starter with task := .idle }
        fails := [fail pluginId .actionNotFound ("lazy plugin " ++ pluginId ++ " does not provide action " ++
          (requestAction call.msg).getD "") call] }
  | .touch pluginId call =>
    { registry := registry.touchUsed ambient.clock pluginId, starter := { starter with task := .wake pluginId call } }
  | .wake pluginId call =>
    { registry := registry.lazyGateHold pluginId
      starter := { starter with task := .idle, slots := starter.slots + 1 }.spawnStart ambient.clock.now pluginId
        { queue := [call], since := ambient.clock.now, slot := starter.slots } }
  | .reinject pluginId (call :: calls) rest =>
    { registry := registry.lazyGateAllow ambient.clock pluginId call.msg.frameAddr
      starter := { starter with
        task := if starter.routerClosed then Task.afterReinject rest else .reinject pluginId calls rest }
      reinjects := if starter.routerClosed then [] else [(pluginId, call)] }
  | .reinject _ [] rest => { registry, starter := { starter with task := Task.afterReinject rest } }
  | .survey now (pluginId :: ids) ready expired =>
    let sorted := surveyOne startTimeout registry starter now pluginId ready expired
    { registry, starter := { starter with task := .survey now ids sorted.1 sorted.2 } }
  | .survey _ [] ready expired => { registry, starter := { starter with task := .drain ready expired } }
  | .drain (pluginId :: ready) expired =>
    match starter.waking.get pluginId with
    | none => { registry, starter := { starter with task := .drain ready expired } }
    | some w =>
      { registry, starter := { starter with
          waking := starter.waking.remove pluginId, task := .reinject pluginId w.queue (some (ready, expired)) } }
  | .drain [] expired => { registry, starter := { starter with task := .expire expired } }
  | .expire (pluginId :: ids) => expireOne registry starter pluginId ids
  | .expire [] => { registry, starter := { starter with task := .trim (registry.lazyGateIds ambient.shuffle) } }
  | .trim (pluginId :: ids) => trimOne registry starter ambient.clock.now pluginId ids
  | .trim [] => { registry, starter := { starter with task := .idle } }
  | .sweep now (dormant :: rest) => sweepOne registry starter ambient.clock now dormant rest
  | .sweep _ [] => { registry, starter := { starter with task := .idle } }
  | .pending now dormant rest =>
    { registry, starter := { starter with
        task := if registry.hasPendingForProvider dormant.pluginId then .sweep now rest else .hold now dormant rest } }
  | .hold now dormant rest =>
    { registry := registry.lazyGateHold dormant.pluginId, starter := { starter with task := .stop now dormant rest } }
  | .stop now dormant rest =>
    { registry
      starter := { starter with task := .sweep now rest, slots := starter.slots + 1 }.spawnStop dormant.pluginId
        { since := now, slot := starter.slots } true }

/-- A start or stop call returns and reports to the loop. -/
def returned (starter : Starter) (run : Run) (failed : Bool) : Starter :=
  if run ∈ starter.running then
    let starter := { starter with running := starter.running.erase run }
    match run.kind with
    | .start => { starter with started := starter.started ++ [(run, failed)] }
    | .stop => { starter with stopped := starter.stopped ++ [run] }
  else starter

/-- `poll` is disabled while nothing is waking and no gate is held. -/
def select (ambient : Ambient) (registry : Registry) (starter : Starter) : Arm → Progress
  | .request pluginId call => starter.onWakeRequest registry pluginId call
  | .started =>
    match starter.started with
    | [] => { registry, starter }
    | (run, failed) :: rest => { starter with started := rest }.onStartResult registry run failed
  | .stopped =>
    match starter.stopped with
    | [] => { registry, starter }
    | run :: rest => { starter with stopped := rest }.onStopped registry ambient.clock.now run.pluginId
  | .poll =>
    if starter.waking.keys.isEmpty && !registry.hasLazyGates then { registry, starter }
    else
      let ids := (starter.waking.iter ambient.shuffle).map Prod.fst
      { registry, starter := { starter with task := .survey ambient.clock.now ids [] [] } }
  | .sweep =>
    { registry, starter := { starter with task := .sweep ambient.clock.now (registry.listDormant ambient.shuffle) } }

/-- The loop selects again only when it has finished the last arm. -/
def step (startTimeout : Nat) (ambient : Ambient) (registry : Registry) (starter : Starter) : LazyEvent → Progress
  | .select arm => if starter.task = .idle then starter.select ambient registry arm else { registry, starter }
  | .resume => starter.resume startTimeout ambient registry
  | .returned run failed => { registry, starter := starter.returned run failed }
  | .closeRouter => { registry, starter := { starter with routerClosed := true } }

end Starter

/-- The starter beside tasks that change the registry as they like. The rest are history
variables: the wake requests it has received, what became of them, and the results it has
applied. -/
structure Waker where
  registry : Registry := {}
  starter : Starter := {}
  received : List (String × Call) := []
  reinjected : List (String × Call) := []
  failed : List Failure := []
  applied : List (Run × Nat) := []

inductive WakerInput
  | event (ambient : Ambient) (event : LazyEvent)
  | elsewhere (change : Registry → Registry)

namespace Waker

/-- Numbers the wake request that the loop takes. -/
def receive (waker : Waker) : LazyEvent → LazyEvent × List (String × Call)
  | .select (.request pluginId call) =>
    if waker.starter.task = .idle then
      let call := { call with receipt := waker.received.length }
      (.select (.request pluginId call), [(pluginId, call)])
    else (.select (.request pluginId call), [])
  | event => (event, [])

def step (startTimeout : Nat) (waker : Waker) : WakerInput → Waker
  | .event ambient event =>
    let taken := waker.receive event
    let progress := waker.starter.step startTimeout ambient waker.registry taken.1
    { registry := progress.registry
      starter := progress.starter
      received := waker.received ++ taken.2
      reinjected := waker.reinjected ++ progress.reinjects
      failed := waker.failed ++ progress.fails
      applied := waker.applied ++ progress.applies }
  | .elsewhere change => { waker with registry := change waker.registry }

def machine (startTimeout : Nat) : Machine Waker WakerInput := ⟨{}, step startTimeout⟩

end Waker
end Vynkor
