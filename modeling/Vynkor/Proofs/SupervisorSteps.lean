import Vynkor.Supervisor

/-! What one step of the supervisor does. -/

namespace Vynkor
open Lib

namespace Supervisor

/-- The steps that change anything, with the circumstances in which they are taken. -/
inductive Turns (supervisor : Supervisor) : SupervisorInput → Supervisor → Prop
  | stay (input : SupervisorInput) : Turns supervisor input supervisor
  | entered (config : PluginConfig) (free : supervisor.entries.get config.pluginId = none) :
      Turns supervisor (.spawnPlugin config) { supervisor with
        spawns := supervisor.spawns.insert supervisor.calls ⟨config, 0, .manual, .checked⟩
        calls := supervisor.calls + 1 }
  | numbered (caller : Caller) (spawn : Spawn) (found : supervisor.spawning caller = some spawn)
      (stage : spawn.stage = .checked) :
      Turns supervisor (.number caller) ({ supervisor with nextEpoch := supervisor.nextEpoch + 1 }.proceed caller
        { spawn with stage := .numbered (supervisor.nextEpoch + 1) })
  | created (caller : Caller) (spawn : Spawn) (epoch : Nat) (later : SpawnStage)
      (found : supervisor.spawning caller = some spawn) (stage : spawn.stage = .numbered epoch)
      (next : later = .created epoch ∨ later = .ready epoch) :
      Turns supervisor (.create caller true) ((supervisor.createProcess spawn epoch).proceed caller
        { spawn with stage := later })
  | uncreated (caller : Caller) (spawn : Spawn) (epoch : Nat) (found : supervisor.spawning caller = some spawn)
      (stage : spawn.stage = .numbered epoch) : Turns supervisor (.create caller false) (supervisor.settle caller)
  | shimReported (caller : Caller) (spawn : Spawn) (epoch : Nat) (found : supervisor.spawning caller = some spawn)
      (stage : spawn.stage = .created epoch) :
      Turns supervisor (.shim caller .pid) (supervisor.proceed caller { spawn with stage := .ready epoch })
  | shimExited (caller : Caller) (spawn : Spawn) (epoch : Nat) (found : supervisor.spawning caller = some spawn)
      (stage : spawn.stage = .created epoch) :
      Turns supervisor (.shim caller .exited) ((supervisor.exit epoch false).settle caller)
  | shimTimedOut (caller : Caller) (spawn : Spawn) (epoch : Nat) (found : supervisor.spawning caller = some spawn)
      (stage : spawn.stage = .created epoch) : Turns supervisor (.shim caller .timedOut) (supervisor.settle caller)
  | inserted (caller : Caller) (spawn : Spawn) (epoch : Nat) (found : supervisor.spawning caller = some spawn)
      (stage : spawn.stage = .ready epoch) :
      Turns supervisor (.insert caller) ((supervisor.insertEntry spawn epoch).settle caller)
  | stopped (pluginId : String) (entry : SupervisorEntry) (held : supervisor.entries.get pluginId = some entry) :
      Turns supervisor (.stopPlugin pluginId) { supervisor with
        entries := supervisor.entries.remove pluginId
        stoppedEpochs := supervisor.stoppedEpochs.insert pluginId entry.epoch
        forcedRestarts := supervisor.forcedRestarts.remove pluginId
        stops := supervisor.stops ++ [(pluginId, entry.epoch)]
        processes := supervisor.processes.modify entry.epoch fun process => { process with stopped := true } }
  | stopReturned (pluginId : String) (epoch : Nat) :
      Turns supervisor (.stopReturned pluginId epoch) { supervisor with stops := supervisor.stops.erase (pluginId, epoch) }
  | restarted (pluginId : String) (entry : SupervisorEntry) (held : supervisor.entries.get pluginId = some entry) :
      Turns supervisor (.restartPlugin pluginId) { supervisor with
        forcedRestarts := supervisor.forcedRestarts.insert pluginId entry.epoch }
  | exited (epoch : Nat) (success : Bool) : Turns supervisor (.exit epoch success) (supervisor.exit epoch success)
  | reported (epoch : Nat) (process : Process) (success : Bool) (held : supervisor.processes.get epoch = some process)
      (phase : process.phase = .exited success) (watched : process.watched = true) :
      Turns supervisor (.report epoch) { supervisor with
        processes := supervisor.processes.modify epoch fun process => { process with phase := .reported success }
        events := supervisor.events ++ [⟨process.pluginId, epoch, success⟩] }
  | ignored (event : ExitEvent) (events : List ExitEvent) (idle : supervisor.monitor = .idle)
      (next : supervisor.events = event :: events)
      (stale : ∀ entry, supervisor.entries.get event.pluginId = some entry → entry.epoch = event.epoch →
        supervisor.stoppedEpochs.get event.pluginId = some event.epoch) :
      Turns supervisor .decideExit (supervisor.takeEvent event events)
  | scheduled (event : ExitEvent) (events : List ExitEvent) (entry : SupervisorEntry) (forced : Bool)
      (idle : supervisor.monitor = .idle) (next : supervisor.events = event :: events)
      (held : supervisor.entries.get event.pluginId = some entry) (current : entry.epoch = event.epoch)
      (flag : forced = supervisor.forcedRestarts.containsKey event.pluginId)
      (wanted : (forced || entry.restarts event.success) = true) :
      Turns supervisor .decideExit { supervisor.takeEvent event events with
        monitor := .backoff event entry.config (entry.restartCount + 1) forced
        log := supervisor.log ++ [.died event.pluginId entry.restartCount true] }
  | given (event : ExitEvent) (events : List ExitEvent) (entry : SupervisorEntry)
      (idle : supervisor.monitor = .idle) (next : supervisor.events = event :: events)
      (held : supervisor.entries.get event.pluginId = some entry) (current : entry.epoch = event.epoch)
      (unforced : supervisor.forcedRestarts.get event.pluginId = none) :
      Turns supervisor .decideExit { supervisor.takeEvent event events with
        monitor := .retire event
        log := supervisor.log ++ [.died event.pluginId entry.restartCount false] }
  | retired (event : ExitEvent) (monitor : supervisor.monitor = .retire event) :
      Turns supervisor .goOn { supervisor with
        monitor := .idle
        entries := supervisor.entries.remove event.pluginId
        stoppedCounts := supervisor.stoppedCounts.insert event.pluginId
          (((supervisor.entries.get event.pluginId).map SupervisorEntry.restartCount).getD 0) }
  | cancelled (event : ExitEvent) (config : PluginConfig) (newCount : UInt32) (forced : Bool)
      (monitor : supervisor.monitor = .backoff event config newCount forced)
      (stopped : supervisor.stoppedEpochs.get config.pluginId = some event.epoch) :
      Turns supervisor .goOn { supervisor with monitor := .idle }
  | respawned (event : ExitEvent) (config : PluginConfig) (newCount : UInt32) (forced : Bool) (cause : Cause)
      (monitor : supervisor.monitor = .backoff event config newCount forced)
      (because : cause = if forced then .forced event.epoch else .automatic event.epoch)
      (unstopped : supervisor.stoppedEpochs.get config.pluginId ≠ some event.epoch) :
      Turns supervisor .goOn { supervisor with monitor := .respawn event ⟨config, newCount, cause, .checked⟩ }

theorem stopped_iff {held : Option Nat} {epoch : Nat} : (held.any fun other => other == epoch) = true ↔ held = some epoch := by
  cases held with
  | none | some => simp

section
variable (supervisor : Supervisor)

private theorem number_turns (caller : Caller) : Turns supervisor (.number caller) (supervisor.number caller) := by
  unfold number
  split
  · exact .stay _
  next spawn found =>
    split
    next stage => exact .numbered caller spawn found stage
    · exact .stay _

private theorem create_turns (caller : Caller) (created : Bool) :
    Turns supervisor (.create caller created) (supervisor.create caller created) := by
  unfold create
  split
  · exact .stay _
  next spawn found =>
    split
    next epoch stage =>
      cases created with
      | true =>
        refine .created caller spawn epoch _ found stage ?_
        split
        · exact .inl rfl
        · exact .inr rfl
      | false => exact .uncreated caller spawn epoch found stage
    · exact .stay _

private theorem shim_turns (caller : Caller) (report : ShimReport) :
    Turns supervisor (.shim caller report) (supervisor.shim caller report) := by
  unfold shim
  split
  · exact .stay _
  next spawn found =>
    split
    next epoch stage =>
      cases report with
      | pid => exact .shimReported caller spawn epoch found stage
      | exited => exact .shimExited caller spawn epoch found stage
      | timedOut => exact .shimTimedOut caller spawn epoch found stage
    · exact .stay _

private theorem insert_turns (caller : Caller) : Turns supervisor (.insert caller) (supervisor.insert caller) := by
  unfold insert
  split
  · exact .stay _
  next spawn found =>
    split
    next epoch stage => exact .inserted caller spawn epoch found stage
    · exact .stay _

private theorem report_turns (epoch : Nat) : Turns supervisor (.report epoch) (supervisor.report epoch) := by
  unfold report
  split
  · exact .stay _
  next process held =>
    split
    next success phase =>
      split
      next watched => exact .reported epoch process success held phase watched
      · exact .stay _
    · exact .stay _

private theorem decideExit_turns : Turns supervisor .decideExit supervisor.decideExit := by
  unfold decideExit
  split
  next event events idle next =>
    simp only
    split
    next stale =>
      refine .ignored event events idle next fun entry held current => ?_
      simp only [held, current, Option.any_some, beq_self_eq_true, Bool.not_true, Bool.false_or] at stale
      exact stopped_iff.mp stale
    next live =>
      simp only [Bool.or_eq_true, Bool.not_eq_true', not_or, Bool.not_eq_false, Option.any_eq_true] at live
      obtain ⟨⟨entry, held, current⟩, -⟩ := live
      cases wanted : supervisor.forcedRestarts.containsKey event.pluginId || entry.restarts event.success with
      | true =>
        simp only [held, Option.filter_some, wanted, if_true]
        exact .scheduled event events entry _ idle next held (beq_iff_eq.mp current) rfl wanted
      | false =>
        simp only [held, Option.filter_some, wanted, Bool.false_eq_true, if_false]
        refine .given event events entry idle next held (beq_iff_eq.mp current) ?_
        rw [Bool.or_eq_false_iff] at wanted
        exact (DashMap.containsKey_false ..).mp wanted.1
  · exact .stay _

private theorem goOn_turns : Turns supervisor .goOn supervisor.goOn := by
  unfold goOn
  split
  next event monitor => exact .retired event monitor
  next event config newCount forced monitor =>
    split
    next stopped => exact .cancelled event config newCount forced monitor (stopped_iff.mp stopped)
    next unstopped =>
      exact .respawned event config newCount forced _ monitor rfl fun stopped => unstopped (stopped_iff.mpr stopped)
  · exact .stay _

theorem step_turns (input : SupervisorInput) : Turns supervisor input (supervisor.step input) := by
  cases input with
  | spawnPlugin config =>
    simp only [step, spawnPlugin]
    split
    · exact .stay _
    next free => exact .entered config ((DashMap.containsKey_false ..).mp (Bool.eq_false_iff.mpr free))
  | number caller => exact supervisor.number_turns caller
  | create caller created => exact supervisor.create_turns caller created
  | shim caller report => exact supervisor.shim_turns caller report
  | insert caller => exact supervisor.insert_turns caller
  | stopPlugin pluginId =>
    simp only [step, stopPlugin]
    split
    · exact .stay _
    next entry held => exact .stopped pluginId entry held
  | stopReturned pluginId epoch => exact .stopReturned pluginId epoch
  | restartPlugin pluginId =>
    simp only [step, restartPlugin]
    split
    · exact .stay _
    next entry held => exact .restarted pluginId entry held
  | exit epoch success => exact .exited epoch success
  | report epoch => exact supervisor.report_turns epoch
  | decideExit => exact supervisor.decideExit_turns
  | goOn => exact supervisor.goOn_turns

end

section
variable {supervisor : Supervisor} {caller : Caller} {old spawn : Spawn}

theorem monitor_of_spawning (found : supervisor.spawning .monitor = some spawn) :
    ∃ event, supervisor.monitor = .respawn event spawn := by
  simp only [spawning] at found
  split at found
  next event there monitor =>
    cases found
    exact ⟨event, monitor⟩
  · cases found

theorem spawning_proceed (found : supervisor.spawning caller = some old) (other : Caller) :
    (supervisor.proceed caller spawn).spawning other = if other = caller then some spawn else supervisor.spawning other := by
  cases caller with
  | monitor =>
    obtain ⟨event, monitor⟩ := monitor_of_spawning found
    cases other with
    | monitor => simp [spawning, proceed, monitor]
    | api call => simp [spawning, proceed]
  | api call =>
    cases other with
    | monitor | api => simp [spawning, proceed]

theorem spawning_settle (other : Caller) :
    (supervisor.settle caller).spawning other = if other = caller then none else supervisor.spawning other := by
  cases caller with
  | monitor | api =>
    cases other with
    | monitor | api => simp [spawning, settle]

theorem proceed_event : (supervisor.proceed caller spawn).monitor.event = supervisor.monitor.event := by
  unfold proceed
  simp only
  split
  next event there monitor => simp [monitor, Monitor.event]
  · rfl

theorem settle_event {event : ExitEvent} (busy : (supervisor.settle caller).monitor.event = some event) :
    supervisor.monitor.event = some event := by
  unfold settle at busy
  simp only at busy
  split at busy
  · cases busy
  · exact busy

end

end Supervisor

end Vynkor
