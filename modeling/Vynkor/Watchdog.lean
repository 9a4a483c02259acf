import Vynkor.Registry

/-! The watchdog of the supervisor: round after round it pings every supervised plugin that
is registered and kills those that have been silent for too long. Time, the registry and the
supervisor's entries move on between any two plugins of a round. -/

namespace Vynkor
open Lib

/-- The plugin whose pong record a call sets: by a pong, or because it registers. -/
def Registry.hears (registry : Registry) : Registry.Call → Option String
  | .registerWithDevice clock pluginId connId manifest writeTx info =>
    if (registry.registerWithDevice clock pluginId connId manifest writeTx info).2.isOk then some pluginId else none
  | .registerDevice clock deviceId connId caps manifest writeTx info =>
    if (registry.registerDevice clock deviceId connId caps manifest writeTx info).2.isOk then some deviceId else none
  | .recordPong _ pluginId => some pluginId
  | _ => none

/-- The instant that a call reads from the clock. -/
def Registry.Call.instant : Registry.Call → Option Instant
  | .registerWithDevice clock _ _ _ _ _ | .registerDevice clock _ _ _ _ _ _ | .recordPong clock _ => some clock.now
  | _ => none

/-- What the watchdog reads of the supervisor's entry of a plugin. -/
structure Supervised where
  pid : Nat
  shimPid : Option Nat := none
  deriving DecidableEq, Repr

/-- A sandboxed plugin is killed through its shim. -/
def Supervised.target (entry : Supervised) : Nat := entry.shimPid.getD entry.pid

structure WatchdogTimes where
  interval : Nat
  timeout : Nat

def WatchdogTimes.deadline (times : WatchdogTimes) : Nat := times.interval + times.timeout

inductive WatchdogStage
  | sleeping (wakesAt : Instant)
  | sweeping (rest : List (String × Supervised))
  deriving DecidableEq, Repr

/-- What the watchdog did to a plugin, and when the plugin was heard. -/
inductive Vital
  | heard (pluginId : String) (time : Instant)
  | pinged (pluginId : String) (ping : Send) (time : Instant)
  | killed (pluginId : String) (target : Nat) (time : Instant)

/-- `log` is history, newest first. -/
structure Watchdog where
  registry : Registry := {}
  entries : DashMap String Supervised := ∅
  now : Instant := 0
  stage : WatchdogStage
  log : List Vital := []

/-- `sent` is whether `try_send` put the ping on the plugin's channel. -/
inductive WatchdogInput
  | elapse (duration : Nat)
  | supervise (pluginId : String) (entry : Supervised)
  | dismiss (pluginId : String)
  | call (call : Registry.Call)
  | wake (shuffle : Shuffle String)
  | visit (unixMillis : Nat) (sent : Bool)

namespace Watchdog
variable (times : WatchdogTimes) (watchdog : Watchdog)

/-- The round goes on, or the next sleep begins. -/
def proceed (rest : List (String × Supervised)) : WatchdogStage :=
  if rest.isEmpty then .sleeping (watchdog.now + times.interval) else .sweeping rest

/-- A call reads the clock at the moment at which it is made. -/
def called (call : Registry.Call) : Watchdog :=
  if call.instant.all (· == watchdog.now) then
    { watchdog with
      registry := watchdog.registry.apply call
      log := ((watchdog.registry.hears call).map (Vital.heard · watchdog.now)).toList ++ watchdog.log }
  else watchdog

def wake (shuffle : Shuffle String) : Watchdog :=
  match watchdog.stage with
  | .sleeping wakesAt =>
    if wakesAt ≤ watchdog.now then { watchdog with stage := watchdog.proceed times (watchdog.entries.iter shuffle) }
    else watchdog
  | .sweeping _ => watchdog

/-- Silent for longer than the deadline; a plugin without a pong record has none to miss. -/
def unresponsive (pluginId : String) : Bool :=
  (watchdog.registry.pongTimes.get pluginId).any fun lastPong => lastPong + times.deadline < watchdog.now

def visit (unixMillis : Nat) (sent : Bool) : Watchdog :=
  match watchdog.stage with
  | .sweeping ((pluginId, entry) :: rest) =>
    let visited := { watchdog with stage := watchdog.proceed times rest }
    if watchdog.unresponsive times pluginId then
      -- the pong record stays, so that the next round kills again
      { visited with log := .killed pluginId entry.target watchdog.now :: watchdog.log }
    else
      match watchdog.registry.get pluginId with
      | some regEntry =>
        if sent then
          { visited with
            log := .pinged pluginId (sendEnvelope regEntry.writeTx { payload := .ping unixMillis }) watchdog.now ::
              watchdog.log }
        else visited
      | none => visited
  | _ => watchdog

def step : WatchdogInput → Watchdog
  | .elapse duration => { watchdog with now := watchdog.now + duration }
  | .supervise pluginId entry => { watchdog with entries := watchdog.entries.insert pluginId entry }
  | .dismiss pluginId => { watchdog with entries := watchdog.entries.remove pluginId }
  | .call call => watchdog.called call
  | .wake shuffle => watchdog.wake times shuffle
  | .visit unixMillis sent => watchdog.visit times unixMillis sent

def machine : Machine Watchdog WatchdogInput := ⟨{ stage := .sleeping times.interval }, step times⟩

end Watchdog
end Vynkor
