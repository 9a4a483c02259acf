import Vynkor.Lib.DashMap
import Vynkor.Lib.Machine

/-! The plugin supervisor: spawning, stopping and restarting of plugin processes, and the
monitor loop that handles their exits one at a time. A call of `spawn_internal` is taken
apart into its check, the epoch it takes, the creation of the process, the report of the
sandbox shim and the insertion of the entry. Processes exit at any time; that is all that
signals bring about. -/

namespace Vynkor
open Lib

inductive RestartPolicy
  | always
  | onFailure
  | never
  deriving DecidableEq, Repr

structure PluginConfig where
  pluginId : String
  restartPolicy : RestartPolicy := .onFailure
  maxRestarts : UInt32 := 0
  sandbox : Bool := false
  deriving DecidableEq, Repr

structure ExitEvent where
  pluginId : String
  epoch : Nat
  success : Bool
  deriving DecidableEq, Repr

/-- On whose account a process is created: by `spawn_plugin`, or by the monitor loop in place
of the instance with this epoch. Whether that was forced is a history variable. -/
inductive Cause
  | manual
  | automatic (epoch : Nat)
  | forced (epoch : Nat)
  deriving DecidableEq, Repr

def Cause.replaceEpoch : Cause → Option Nat
  | .manual => none
  | .automatic epoch | .forced epoch => some epoch

/-- How far an instance has come: its process has exited, the wait task has sent the exit
event, the monitor loop has taken it. -/
inductive ProcessPhase
  | live
  | exited (success : Bool)
  | reported (success : Bool)
  | handled (success : Bool)
  deriving DecidableEq, Repr

/-- A process that was created. Only a `watched` one has a wait task. `stopped` is a history
variable: `stop_plugin` has removed the entry of this instance. -/
structure Process where
  pluginId : String
  phase : ProcessPhase := .live
  watched : Bool := false
  stopped : Bool := false
  deriving DecidableEq, Repr

/-- How far a call of `spawn_internal` has come. -/
inductive SpawnStage
  | checked
  | numbered (epoch : Nat)
  /-- The process runs; a sandboxed one has not been reported by its shim. -/
  | created (epoch : Nat)
  | ready (epoch : Nat)
  deriving DecidableEq, Repr

structure Spawn where
  config : PluginConfig
  restartCount : UInt32
  cause : Cause
  stage : SpawnStage := .checked
  deriving DecidableEq, Repr

/-- Who waits for a call of `spawn_internal`. -/
inductive Caller
  | monitor
  | api (call : Nat)
  deriving DecidableEq, Repr

/-- The place of the monitor loop in its handling of an exit event. -/
inductive Monitor
  | idle
  | retire (event : ExitEvent)
  | backoff (event : ExitEvent) (config : PluginConfig) (newCount : UInt32) (forced : Bool)
  | respawn (event : ExitEvent) (spawn : Spawn)
  deriving DecidableEq, Repr

def Monitor.event : Monitor → Option ExitEvent
  | .idle => none
  | .retire event | .backoff event _ _ _ | .respawn event _ => some event

inductive ShimReport
  | pid
  | exited
  | timedOut
  deriving DecidableEq, Repr

/-- What a run of the supervisor has brought about: processes, entries, successful returns
of `spawn_plugin`, and the exits that were announced. -/
inductive Happening
  | created (epoch : Nat) (pluginId : String) (cause : Cause)
  | inserted (epoch : Nat) (pluginId : String)
  | started (pluginId : String)
  | died (pluginId : String) (restartCount : UInt32) (willRestart : Bool)
  deriving DecidableEq, Repr

structure SupervisorEntry where
  config : PluginConfig
  restartCount : UInt32
  epoch : Nat
  deriving DecidableEq, Repr

/-- Whether the policy of the entry asks for a restart after such an exit. -/
def SupervisorEntry.restarts (entry : SupervisorEntry) (success : Bool) : Bool :=
  match entry.config.restartPolicy with
  | .never => false
  | .always => entry.restartCount < entry.config.maxRestarts
  | .onFailure => !success && entry.restartCount < entry.config.maxRestarts

/-- `forcedRestarts` is a set in the source; the epoch of the entry that `restart_plugin`
found is a history variable. So are `calls`, which numbers the calls of `spawn_plugin`, and
`log`. `stops` holds the calls of `stop_plugin` that wait for an instance to exit. -/
structure Supervisor where
  entries : DashMap String SupervisorEntry := ∅
  forcedRestarts : DashMap String Nat := ∅
  stoppedCounts : DashMap String UInt32 := ∅
  stoppedEpochs : DashMap String Nat := ∅
  nextEpoch : Nat := 0
  spawns : DashMap Nat Spawn := ∅
  calls : Nat := 0
  stops : List (String × Nat) := []
  processes : DashMap Nat Process := ∅
  events : List ExitEvent := []
  monitor : Monitor := .idle
  log : List Happening := []

inductive SupervisorInput
  | spawnPlugin (config : PluginConfig)
  | number (caller : Caller)
  | create (caller : Caller) (created : Bool)
  | shim (caller : Caller) (report : ShimReport)
  | insert (caller : Caller)
  | stopPlugin (pluginId : String)
  | stopReturned (pluginId : String) (epoch : Nat)
  | restartPlugin (pluginId : String)
  | exit (epoch : Nat) (success : Bool)
  | report (epoch : Nat)
  | decideExit
  | goOn
  deriving DecidableEq, Repr

namespace Supervisor

def isRunning (supervisor : Supervisor) (pluginId : String) : Bool := supervisor.entries.containsKey pluginId

def restartCount (supervisor : Supervisor) (pluginId : String) : Option UInt32 :=
  ((supervisor.entries.get pluginId).map SupervisorEntry.restartCount).or (supervisor.stoppedCounts.get pluginId)

/-- The process exits, once. -/
def exit (supervisor : Supervisor) (epoch : Nat) (success : Bool) : Supervisor :=
  { supervisor with processes := supervisor.processes.modify epoch fun process =>
      { process with phase := if process.phase = .live then .exited success else process.phase } }

def spawning (supervisor : Supervisor) : Caller → Option Spawn
  | .monitor =>
    match supervisor.monitor with
    | .respawn _ spawn => some spawn
    | _ => none
  | .api call => supervisor.spawns.get call

/-- The call has come this far. -/
def proceed (supervisor : Supervisor) (caller : Caller) (spawn : Spawn) : Supervisor :=
  { supervisor with
    monitor :=
      match caller, supervisor.monitor with
      | .monitor, .respawn event _ => .respawn event spawn
      | _, monitor => monitor
    spawns :=
      match caller with
      | .monitor => supervisor.spawns
      | .api call => supervisor.spawns.insert call spawn }

/-- The call returns. -/
def settle (supervisor : Supervisor) (caller : Caller) : Supervisor :=
  { supervisor with
    monitor :=
      match caller with
      | .monitor => .idle
      | .api _ => supervisor.monitor
    spawns :=
      match caller with
      | .monitor => supervisor.spawns
      | .api call => supervisor.spawns.remove call }

def number (supervisor : Supervisor) (caller : Caller) : Supervisor :=
  match supervisor.spawning caller with
  | none => supervisor
  | some spawn =>
    match spawn.stage with
    | .checked =>
      let epoch := supervisor.nextEpoch + 1
      { supervisor with nextEpoch := epoch }.proceed caller { spawn with stage := .numbered epoch }
    | _ => supervisor

def createProcess (supervisor : Supervisor) (spawn : Spawn) (epoch : Nat) : Supervisor :=
  { supervisor with
    processes := supervisor.processes.insert epoch { pluginId := spawn.config.pluginId }
    log := supervisor.log ++ [.created epoch spawn.config.pluginId spawn.cause] }

def create (supervisor : Supervisor) (caller : Caller) (created : Bool) : Supervisor :=
  match supervisor.spawning caller with
  | none => supervisor
  | some spawn =>
    match spawn.stage with
    | .numbered epoch =>
      if created then
        (supervisor.createProcess spawn epoch).proceed caller
          { spawn with stage := if spawn.config.sandbox then .created epoch else .ready epoch }
      else supervisor.settle caller
    | _ => supervisor

/-- A shim that exits early is killed and waited for; after a timeout it is left alone. -/
def shim (supervisor : Supervisor) (caller : Caller) (report : ShimReport) : Supervisor :=
  match supervisor.spawning caller with
  | none => supervisor
  | some spawn =>
    match spawn.stage with
    | .created epoch =>
      match report with
      | .pid => supervisor.proceed caller { spawn with stage := .ready epoch }
      | .exited => (supervisor.exit epoch false).settle caller
      | .timedOut => supervisor.settle caller
    | _ => supervisor

/-- The entry is inserted whatever is there, and the wait task starts. -/
def insertEntry (supervisor : Supervisor) (spawn : Spawn) (epoch : Nat) : Supervisor :=
  let pluginId := spawn.config.pluginId
  { supervisor with
    entries := supervisor.entries.insert pluginId ⟨spawn.config, spawn.restartCount, epoch⟩
    processes := supervisor.processes.modify epoch fun process => { process with watched := true }
    log := supervisor.log ++ .inserted epoch pluginId :: if spawn.cause = .manual then [.started pluginId] else [] }

def insert (supervisor : Supervisor) (caller : Caller) : Supervisor :=
  match supervisor.spawning caller with
  | none => supervisor
  | some spawn =>
    match spawn.stage with
    | .ready epoch => (supervisor.insertEntry spawn epoch).settle caller
    | _ => supervisor

def spawnPlugin (supervisor : Supervisor) (config : PluginConfig) : Supervisor :=
  if supervisor.entries.containsKey config.pluginId then supervisor
  else { supervisor with
    spawns := supervisor.spawns.insert supervisor.calls ⟨config, 0, .manual, .checked⟩
    calls := supervisor.calls + 1 }

def stopPlugin (supervisor : Supervisor) (pluginId : String) : Supervisor :=
  match supervisor.entries.get pluginId with
  | none => supervisor
  | some entry => { supervisor with
      entries := supervisor.entries.remove pluginId
      stoppedEpochs := supervisor.stoppedEpochs.insert pluginId entry.epoch
      forcedRestarts := supervisor.forcedRestarts.remove pluginId
      stops := supervisor.stops ++ [(pluginId, entry.epoch)]
      processes := supervisor.processes.modify entry.epoch fun process => { process with stopped := true } }

def restartPlugin (supervisor : Supervisor) (pluginId : String) : Supervisor :=
  match supervisor.entries.get pluginId with
  | none => supervisor
  | some entry => { supervisor with forcedRestarts := supervisor.forcedRestarts.insert pluginId entry.epoch }

/-- The wait task of a process that has exited sends the exit event. -/
def report (supervisor : Supervisor) (epoch : Nat) : Supervisor :=
  match supervisor.processes.get epoch with
  | none => supervisor
  | some process =>
    match process.phase with
    | .exited success =>
      if process.watched then { supervisor with
        processes := supervisor.processes.modify epoch fun process => { process with phase := .reported success }
        events := supervisor.events ++ [⟨process.pluginId, epoch, success⟩] }
      else supervisor
    | _ => supervisor

/-- The loop takes the next exit event and with it the flag of a manual restart. -/
def takeEvent (supervisor : Supervisor) (event : ExitEvent) (events : List ExitEvent) : Supervisor :=
  { supervisor with
    events
    forcedRestarts := supervisor.forcedRestarts.remove event.pluginId
    processes := supervisor.processes.modify event.epoch fun process => { process with phase := .handled event.success } }

/-- The event of an instance that is not registered, or was stopped, goes no further. -/
def decideExit (supervisor : Supervisor) : Supervisor :=
  match supervisor.monitor, supervisor.events with
  | .idle, event :: events =>
    let forced := supervisor.forcedRestarts.containsKey event.pluginId
    let entry := supervisor.entries.get event.pluginId
    let isCurrent := entry.any fun entry => entry.epoch == event.epoch
    let wasStopped := (supervisor.stoppedEpochs.get event.pluginId).any fun epoch => epoch == event.epoch
    if !isCurrent || wasStopped then supervisor.takeEvent event events
    else
      let decision := entry.filter fun entry => forced || entry.restarts event.success
      { supervisor.takeEvent event events with
        monitor :=
          match decision with
          | some entry => .backoff event entry.config (entry.restartCount + 1) forced
          | none => .retire event
        log := supervisor.log ++
          [.died event.pluginId ((entry.map SupervisorEntry.restartCount).getD 0) decision.isSome] }
  | _, _ => supervisor

/-- The loop goes on with its decision: it removes the entry, or after the backoff respawns
the plugin unless the instance has been stopped meanwhile. -/
def goOn (supervisor : Supervisor) : Supervisor :=
  match supervisor.monitor with
  | .retire event => { supervisor with
      monitor := .idle
      entries := supervisor.entries.remove event.pluginId
      stoppedCounts := supervisor.stoppedCounts.insert event.pluginId
        (((supervisor.entries.get event.pluginId).map SupervisorEntry.restartCount).getD 0) }
  | .backoff event config newCount forced =>
    if (supervisor.stoppedEpochs.get config.pluginId).any fun epoch => epoch == event.epoch then
      { supervisor with monitor := .idle }
    else
      let cause := if forced then .forced event.epoch else .automatic event.epoch
      { supervisor with monitor := .respawn event ⟨config, newCount, cause, .checked⟩ }
  | _ => supervisor

def step (supervisor : Supervisor) : SupervisorInput → Supervisor
  | .spawnPlugin config => supervisor.spawnPlugin config
  | .number caller => supervisor.number caller
  | .create caller created => supervisor.create caller created
  | .shim caller report => supervisor.shim caller report
  | .insert caller => supervisor.insert caller
  | .stopPlugin pluginId => supervisor.stopPlugin pluginId
  | .stopReturned pluginId epoch => { supervisor with stops := supervisor.stops.erase (pluginId, epoch) }
  | .restartPlugin pluginId => supervisor.restartPlugin pluginId
  | .exit epoch success => supervisor.exit epoch success
  | .report epoch => supervisor.report epoch
  | .decideExit => supervisor.decideExit
  | .goOn => supervisor.goOn

def machine : Machine Supervisor SupervisorInput := ⟨{}, step⟩

end Supervisor
end Vynkor
