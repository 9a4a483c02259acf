import Vynkor.Proofs.SupervisorSteps

/-! What holds of the supervisor in every run: entries, calls and exit events refer to the
processes they are about. -/

namespace Vynkor
open Lib

/-- The plugin of the monitor loop's decision is that of the event. -/
def Monitor.Sound : Monitor → Prop
  | .idle | .retire _ => True
  | .backoff event config _ _ => config.pluginId = event.pluginId
  | .respawn event spawn => spawn.config.pluginId = event.pluginId ∧ spawn.cause.replaceEpoch = some event.epoch

def SpawnStage.epoch : SpawnStage → Option Nat
  | .checked => none
  | .numbered epoch | .created epoch | .ready epoch => some epoch

namespace Supervisor

def Fits (supervisor : Supervisor) (spawn : Spawn) : Prop :=
  match spawn.stage with
  | .checked => True
  | .numbered epoch => epoch ≤ supervisor.nextEpoch ∧ supervisor.processes.get epoch = none
  | .created epoch | .ready epoch => supervisor.processes.Has epoch fun process =>
      process.pluginId = spawn.config.pluginId ∧ process.watched = false ∧ process.stopped = false

/-- Entries, stops and calls refer to the processes they are about. -/
structure Rooted (supervisor : Supervisor) : Prop where
  entry : ∀ id entry, supervisor.entries.get id = some entry → entry.config.pluginId = id ∧
    supervisor.processes.Has entry.epoch fun process =>
      process.pluginId = id ∧ process.watched = true ∧ process.stopped = false
  stopped : ∀ id epoch, supervisor.stoppedEpochs.get id = some epoch →
    supervisor.processes.Has epoch fun process => process.stopped = true
  spawn : ∀ caller spawn, supervisor.spawning caller = some spawn → supervisor.Fits spawn
  manual : ∀ call spawn, supervisor.spawns.get call = some spawn → call < supervisor.calls ∧ spawn.cause = .manual
  distinct : ∀ first second early late epoch, supervisor.spawning first = some early →
    supervisor.spawning second = some late → early.stage.epoch = some epoch → late.stage.epoch = some epoch → first = second
  process : ∀ epoch process, supervisor.processes.get epoch = some process → epoch ≤ supervisor.nextEpoch

/-- Exit events, in the queue and at the monitor loop, are those of processes that have exited. -/
structure Valid (supervisor : Supervisor) : Prop extends Rooted supervisor where
  queue : ∀ event ∈ supervisor.events, supervisor.processes.Has event.epoch fun process =>
    process.pluginId = event.pluginId ∧ process.watched = true ∧ process.phase = .reported event.success
  once : (supervisor.events.map ExitEvent.epoch).Nodup
  busy : ∀ event, supervisor.monitor.event = some event → supervisor.processes.Has event.epoch fun process =>
    process.pluginId = event.pluginId ∧ process.watched = true ∧ process.phase = .handled event.success
  unhandled : ∀ epoch process, supervisor.processes.get epoch = some process → process.watched = false →
    ∀ success, process.phase ≠ .handled success
  sound : supervisor.monitor.Sound

section
variable {supervisor : Supervisor} {caller : Caller} {old spawn : Spawn}

section
variable (rooted : supervisor.Rooted)
include rooted

private theorem Rooted.epoch_le (found : supervisor.spawning caller = some spawn) {epoch : Nat}
    (stage : spawn.stage.epoch = some epoch) : epoch ≤ supervisor.nextEpoch := by
  have fits := rooted.spawn caller spawn found
  unfold Fits at fits
  cases here : spawn.stage with
  | checked =>
    rw [here] at stage
    cases stage
  | numbered number =>
    rw [here] at stage fits
    cases stage
    exact fits.1
  | created | ready =>
    rw [here] at stage fits
    cases stage
    obtain ⟨process, held, -⟩ := fits
    exact rooted.process _ process held

theorem Rooted.unwatched (found : supervisor.spawning caller = some spawn) {epoch : Nat}
    {process : Process} (there : supervisor.processes.get epoch = some process) (watched : process.watched = true) :
    spawn.stage.epoch ≠ some epoch := by
  intro stage
  have fits := rooted.spawn caller spawn found
  have clash (has : supervisor.processes.Has epoch fun process =>
      process.pluginId = spawn.config.pluginId ∧ process.watched = false ∧ process.stopped = false) : False := by
    obtain ⟨value, held, -, unwatched, -⟩ := has
    cases there.symm.trans held
    cases watched.symm.trans unwatched
  unfold Fits at fits
  cases here : spawn.stage with
  | checked =>
    rw [here] at stage
    cases stage
  | numbered number =>
    rw [here] at stage fits
    cases stage
    cases there.symm.trans fits.2
  | created | ready =>
    rw [here] at stage fits
    cases stage
    exact clash fits

theorem Rooted.numbered_free (found : supervisor.spawning caller = some spawn) {epoch : Nat}
    (stage : spawn.stage = .numbered epoch) : supervisor.processes.get epoch = none := by
  have fits := rooted.spawn caller spawn found
  unfold Fits at fits
  rw [stage] at fits
  exact fits.2

theorem Rooted.ready_own (found : supervisor.spawning caller = some spawn) {epoch : Nat}
    (stage : spawn.stage = .ready epoch) {process : Process} (there : supervisor.processes.get epoch = some process) :
    process.pluginId = spawn.config.pluginId := by
  have fits := rooted.spawn caller spawn found
  unfold Fits at fits
  rw [stage] at fits
  obtain ⟨same, held, own, -⟩ := fits
  cases held.symm.trans there
  exact own

theorem Rooted.ready_unwatched (found : supervisor.spawning caller = some spawn) {epoch : Nat}
    (stage : spawn.stage = .ready epoch) {process : Process} (there : supervisor.processes.get epoch = some process) :
    process.watched = false := by
  refine Bool.eq_false_iff.mpr fun watched => rooted.unwatched found there watched ?_
  rw [stage]
  rfl

private theorem Rooted.proceed_manual (found : supervisor.spawning caller = some old)
    (cause : spawn.cause = old.cause) (call : Nat) (other : Spawn)
    (held : (supervisor.proceed caller spawn).spawns.get call = some other) : call < supervisor.calls ∧ other.cause = .manual := by
  cases caller with
  | monitor => exact rooted.manual call other held
  | api number =>
    rcases DashMap.insert_cases held with ⟨rfl, rfl⟩ | ⟨-, before⟩
    · exact cause ▸ rooted.manual call old found
    · exact rooted.manual call other before

private theorem Rooted.proceed_distinct (found : supervisor.spawning caller = some old)
    (numbers : ∀ epoch, spawn.stage.epoch = some epoch → old.stage.epoch = some epoch ∨
      ∀ other its, supervisor.spawning other = some its → its.stage.epoch ≠ some epoch)
    (first second : Caller) (early late : Spawn) (epoch : Nat)
    (one : (supervisor.proceed caller spawn).spawning first = some early)
    (two : (supervisor.proceed caller spawn).spawning second = some late)
    (same : early.stage.epoch = some epoch) (again : late.stage.epoch = some epoch) : first = second := by
  have clash (other : Caller) (apart : other ≠ caller) (sibling : Spawn) (there : supervisor.spawning other = some sibling)
      (mine : spawn.stage.epoch = some epoch) (its : sibling.stage.epoch = some epoch) : False := by
    rcases numbers epoch mine with kept | new
    · exact apart (rooted.distinct other caller sibling old epoch there found its kept)
    · exact new other sibling there its
  rw [spawning_proceed found] at one two
  split at one
  next here =>
    split at two
    next there => rw [here, there]
    next apart =>
      cases one
      exact (clash second apart late two same again).elim
  next apart =>
    split at two
    next there =>
      cases two
      exact (clash first apart early one again same).elim
    · exact rooted.distinct first second early late epoch one two same again

theorem Rooted.proceed (found : supervisor.spawning caller = some old)
    (cause : spawn.cause = old.cause) (fits : supervisor.Fits spawn)
    (numbers : ∀ epoch, spawn.stage.epoch = some epoch → old.stage.epoch = some epoch ∨
      ∀ other its, supervisor.spawning other = some its → its.stage.epoch ≠ some epoch) :
    (supervisor.proceed caller spawn).Rooted where
  entry := rooted.entry
  stopped := rooted.stopped
  spawn other its there := by
    rw [spawning_proceed found] at there
    split at there
    · cases there
      exact fits
    · exact rooted.spawn other its there
  manual := rooted.proceed_manual found cause
  distinct := rooted.proceed_distinct found numbers
  process := rooted.process

theorem Rooted.settle (caller : Caller) : (supervisor.settle caller).Rooted where
  entry := rooted.entry
  stopped := rooted.stopped
  spawn other its there := by
    rw [spawning_settle] at there
    split at there
    · cases there
    · exact rooted.spawn other its there
  manual call other held := by
    cases caller with
    | monitor => exact rooted.manual call other held
    | api number => exact rooted.manual call other (DashMap.remove_some.mp held).2
  distinct first second early late epoch one two := by
    rw [spawning_settle] at one two
    split at one
    · cases one
    · split at two
      · cases two
      · exact rooted.distinct first second early late epoch one two
  process := rooted.process

/-- Another place of the monitor loop; a call that it has just made has no epoch yet. -/
theorem Rooted.moved (monitor : Monitor) (fresh : ∀ event spawn, monitor = .respawn event spawn → spawn.stage = .checked) :
    { supervisor with monitor }.Rooted := by
  have unnumbered {spawn : Spawn} (there : { supervisor with monitor }.spawning .monitor = some spawn) :
      spawn.stage = .checked := by
    obtain ⟨event, same⟩ := monitor_of_spawning there
    exact fresh event spawn same
  refine ⟨rooted.entry, rooted.stopped, fun other its there => ?_, rooted.manual, ?_, rooted.process⟩
  · cases other with
    | monitor =>
      unfold Fits
      rw [unnumbered there]
      trivial
    | api call => exact rooted.spawn (.api call) its there
  · intro first second early late epoch one two same again
    cases first with
    | monitor =>
      rw [unnumbered one] at same
      cases same
    | api call =>
      cases second with
      | monitor =>
        rw [unnumbered two] at again
        cases again
      | api other => exact rooted.distinct (.api call) (.api other) early late epoch one two same again

omit rooted in
theorem Fits.modify (fits : supervisor.Fits spawn) (epoch : Nat) (f : Process → Process)
    (kept : spawn.stage.epoch = some epoch → ∀ process, (f process).pluginId = process.pluginId ∧
      (f process).watched = process.watched ∧ (f process).stopped = process.stopped) :
    { supervisor with processes := supervisor.processes.modify epoch f }.Fits spawn := by
  unfold Fits at fits ⊢
  cases here : spawn.stage with
  | checked => trivial
  | numbered number =>
    rw [here] at fits
    refine ⟨fits.1, ?_⟩
    rw [DashMap.get_modify]
    split
    next same => rw [← same, fits.2]; rfl
    · exact fits.2
  | created | ready =>
    rw [here] at fits kept
    refine DashMap.Has.modify fits fun same process old => ?_
    obtain ⟨pluginId, watched, stopped⟩ := kept (congrArg some same) process
    exact ⟨pluginId.trans old.1, watched.trans old.2.1, stopped.trans old.2.2⟩

private theorem Rooted.modified_le {epoch number : Nat} {f : Process → Process} {process : Process}
    (held : (supervisor.processes.modify epoch f).get number = some process) : number ≤ supervisor.nextEpoch := by
  rw [DashMap.get_modify] at held
  split at held
  next same =>
    obtain ⟨old, there, -⟩ := Option.map_eq_some_iff.mp held
    exact rooted.process number old (same ▸ there)
  · exact rooted.process number process held

private theorem Rooted.rephase (epoch : Nat) (phase : Process → ProcessPhase) :
    { supervisor with processes := supervisor.processes.modify epoch fun process =>
      { process with phase := phase process } }.Rooted where
  entry id entry held := by
    obtain ⟨named, has⟩ := rooted.entry id entry held
    exact ⟨named, has.modify fun _ _ old => old⟩
  stopped id number held := (rooted.stopped id number held).modify fun _ _ old => old
  spawn caller spawn found := (rooted.spawn caller spawn found).modify epoch _ fun _ _ => ⟨rfl, rfl, rfl⟩
  manual := rooted.manual
  distinct := rooted.distinct
  process _ _ held := rooted.modified_le held

theorem Rooted.entered (config : PluginConfig) : { supervisor with
      spawns := supervisor.spawns.insert supervisor.calls ⟨config, 0, .manual, .checked⟩
      calls := supervisor.calls + 1 }.Rooted := by
  refine ⟨rooted.entry, rooted.stopped, fun caller spawn found => ?_, fun call spawn held => ?_, ?_, rooted.process⟩
  · cases caller with
    | monitor => exact rooted.spawn .monitor spawn found
    | api call =>
      rcases DashMap.insert_cases found with ⟨-, rfl⟩ | ⟨-, before⟩
      · trivial
      · exact rooted.spawn (.api call) spawn before
  · rcases DashMap.insert_cases held with ⟨rfl, rfl⟩ | ⟨-, before⟩
    · exact ⟨Nat.lt_succ_self _, rfl⟩
    · exact ⟨Nat.lt_succ_of_lt (rooted.manual call spawn before).1, (rooted.manual call spawn before).2⟩
  · -- the new call has no epoch, so only the old ones can share one
    have before {caller : Caller} {spawn : Spawn} {epoch : Nat}
        (found : { supervisor with
          spawns := supervisor.spawns.insert supervisor.calls ⟨config, 0, .manual, .checked⟩
          calls := supervisor.calls + 1 }.spawning caller = some spawn) (stage : spawn.stage.epoch = some epoch) :
        supervisor.spawning caller = some spawn := by
      cases caller with
      | monitor => exact found
      | api call =>
        rcases DashMap.insert_cases found with ⟨-, rfl⟩ | ⟨-, before⟩
        · cases stage
        · exact before
    intro first second early late epoch one two same again
    exact rooted.distinct first second early late epoch (before one same) (before two again) same again

theorem Rooted.created (found : supervisor.spawning caller = some spawn) {epoch : Nat}
    (stage : spawn.stage = .numbered epoch) {later : SpawnStage} (next : later = .created epoch ∨ later = .ready epoch) :
    ((supervisor.createProcess spawn epoch).proceed caller { spawn with stage := later }).Rooted := by
  have fits := rooted.spawn caller spawn found
  unfold Fits at fits
  rw [stage] at fits
  have mine : spawn.stage.epoch = some epoch := by rw [stage]; rfl
  have rests (other : Caller) (apart : other ≠ caller) (its : Spawn) (there : supervisor.spawning other = some its) :
      (supervisor.createProcess spawn epoch).Fits its := by
    have old := rooted.spawn other its there
    unfold Fits at old ⊢
    cases here : its.stage with
    | checked => trivial
    | numbered number =>
      rw [here] at old
      refine ⟨old.1, (DashMap.get_insert ..).trans ?_⟩
      rw [if_neg, old.2]
      rintro rfl
      exact apart (rooted.distinct other caller its spawn number there found (by rw [here]; rfl) mine)
    | created | ready =>
      rw [here] at old
      exact DashMap.Has.insert_fresh old fits.2
  have new : (supervisor.createProcess spawn epoch).processes.Has epoch fun process =>
      process.pluginId = spawn.config.pluginId ∧ process.watched = false ∧ process.stopped = false :=
    ⟨_, (DashMap.get_insert ..).trans (if_pos rfl), rfl, rfl, rfl⟩
  refine ⟨fun id entry held => ?_, fun id number held => ?_, fun other its there => ?_, ?_, ?_, fun number process held => ?_⟩
  · obtain ⟨named, has⟩ := rooted.entry id entry held
    exact ⟨named, has.insert_fresh fits.2⟩
  · exact (rooted.stopped id number held).insert_fresh fits.2
  · rw [@spawning_proceed (supervisor.createProcess spawn epoch) caller spawn _ found] at there
    split at there
    · cases there
      rcases next with rfl | rfl <;> exact new
    next apart => exact rests other apart its there
  · exact rooted.proceed_manual found rfl
  · refine rooted.proceed_distinct found fun number same => .inl ?_
    rcases next with rfl | rfl <;> exact mine.trans same
  · rcases DashMap.insert_cases held with ⟨rfl, -⟩ | ⟨-, before⟩
    · exact fits.1
    · exact rooted.process number process before

theorem Rooted.insertEntry {epoch : Nat} (mine : supervisor.processes.Has epoch fun process =>
      process.pluginId = spawn.config.pluginId ∧ process.watched = false ∧ process.stopped = false)
    (free : ∀ other its, supervisor.spawning other = some its → its.stage.epoch ≠ some epoch) :
    (supervisor.insertEntry spawn epoch).Rooted where
  entry id entry held := by
    rcases DashMap.insert_cases held with ⟨rfl, rfl⟩ | ⟨-, before⟩
    · refine ⟨rfl, ?_⟩
      obtain ⟨process, there, named, -, going⟩ := mine
      refine ⟨{ process with watched := true }, ?_, named, rfl, going⟩
      simp only [Supervisor.insertEntry, DashMap.get_modify, if_pos, there]
      rfl
    · obtain ⟨named, has⟩ := rooted.entry id entry before
      exact ⟨named, has.modify fun _ _ old => ⟨old.1, rfl, old.2.2⟩⟩
  stopped id number held := (rooted.stopped id number held).modify fun _ _ old => old
  spawn other its there := (rooted.spawn other its there).modify epoch _ fun same => absurd same (free other its there)
  manual := rooted.manual
  distinct := rooted.distinct
  process _ _ held := rooted.modified_le held

theorem Rooted.stop {id : String} {entry : SupervisorEntry} (held : supervisor.entries.get id = some entry) :
    { supervisor with
      entries := supervisor.entries.remove id
      stoppedEpochs := supervisor.stoppedEpochs.insert id entry.epoch
      forcedRestarts := supervisor.forcedRestarts.remove id
      stops := supervisor.stops ++ [(id, entry.epoch)]
      processes := supervisor.processes.modify entry.epoch fun process => { process with stopped := true } }.Rooted := by
  obtain ⟨-, process, there, mine, watched, -⟩ := rooted.entry id entry held
  refine ⟨fun other its left => ?_, fun other number found => ?_, fun caller spawn found => ?_, rooted.manual, rooted.distinct,
    fun _ _ left => rooted.modified_le left⟩
  · obtain ⟨apart, before⟩ := DashMap.remove_some.mp left
    obtain ⟨named, has⟩ := rooted.entry other its before
    refine ⟨named, has.modify fun same value old => ?_⟩
    -- two plugins do not share an instance
    obtain ⟨value, found, its, -⟩ := has
    rw [same, there] at found
    cases found
    exact absurd (its.symm.trans mine) apart
  · rcases DashMap.insert_cases found with ⟨-, rfl⟩ | ⟨-, before⟩
    · refine ⟨{ process with stopped := true }, ?_, rfl⟩
      simp only [DashMap.get_modify, if_pos, there]
      rfl
    · exact (rooted.stopped other number before).modify fun _ _ _ => rfl
  · refine (rooted.spawn caller spawn found).modify entry.epoch _ fun same => ?_
    exact absurd same (rooted.unwatched found there watched)

theorem Rooted.numbered (found : supervisor.spawning caller = some spawn) :
    ({ supervisor with nextEpoch := supervisor.nextEpoch + 1 }.proceed caller
      { spawn with stage := .numbered (supervisor.nextEpoch + 1) }).Rooted := by
  have higher : { supervisor with nextEpoch := supervisor.nextEpoch + 1 }.Rooted := by
    refine ⟨rooted.entry, rooted.stopped, fun other its there => ?_, rooted.manual, rooted.distinct,
      fun number process held => Nat.le_succ_of_le (rooted.process number process held)⟩
    have fits := rooted.spawn other its there
    unfold Fits at fits ⊢
    cases here : its.stage with
    | checked => trivial
    | numbered number =>
      rw [here] at fits
      exact ⟨Nat.le_succ_of_le fits.1, fits.2⟩
    | created | ready =>
      rw [here] at fits
      exact fits
  refine Rooted.proceed higher found rfl ⟨Nat.le_refl _, ?_⟩ fun epoch same => .inr fun other its there taken => ?_
  · refine Option.eq_none_iff_forall_ne_some.mpr fun process held => ?_
    exact absurd (rooted.process _ process held) (Nat.not_succ_le_self _)
  · cases same
    exact absurd (rooted.epoch_le there taken) (Nat.not_succ_le_self _)

theorem Rooted.inserted (found : supervisor.spawning caller = some spawn) {epoch : Nat}
    (stage : spawn.stage = .ready epoch) : ((supervisor.insertEntry spawn epoch).settle caller).Rooted := by
  have fits := rooted.spawn caller spawn found
  unfold Fits at fits
  rw [stage] at fits
  change ((supervisor.settle caller).insertEntry spawn epoch).Rooted
  refine (rooted.settle caller).insertEntry fits fun other its there taken => ?_
  rw [spawning_settle] at there
  split at there
  · cases there
  next apart => exact apart (rooted.distinct other caller its spawn epoch there found taken (by rw [stage]; rfl))

theorem Rooted.congr {after : Supervisor} (entries : after.entries = supervisor.entries)
    (stoppedEpochs : after.stoppedEpochs = supervisor.stoppedEpochs) (spawning : after.spawning = supervisor.spawning)
    (spawns : after.spawns = supervisor.spawns) (calls : after.calls = supervisor.calls)
    (nextEpoch : after.nextEpoch = supervisor.nextEpoch) (processes : after.processes = supervisor.processes) :
    after.Rooted where
  entry := entries ▸ processes ▸ rooted.entry
  stopped := stoppedEpochs ▸ processes ▸ rooted.stopped
  spawn caller spawn found := by
    have fits := rooted.spawn caller spawn (spawning ▸ found)
    unfold Fits at fits ⊢
    rw [nextEpoch, processes]
    exact fits
  manual := spawns ▸ calls ▸ rooted.manual
  distinct := spawning ▸ rooted.distinct
  process := processes ▸ nextEpoch ▸ rooted.process

end

theorem Turns.rooted {after : Supervisor} {input : SupervisorInput} (turns : supervisor.Turns input after)
    (rooted : supervisor.Rooted) : after.Rooted := by
  have taken (event : ExitEvent) (events : List ExitEvent) : (supervisor.takeEvent event events).Rooted :=
    (rooted.rephase event.epoch fun _ => .handled event.success).congr rfl rfl rfl rfl rfl rfl rfl
  cases turns with
  | stay => exact rooted
  | entered config free => exact rooted.entered config
  | numbered caller spawn found stage => exact rooted.numbered found
  | created caller spawn epoch later found stage next => exact rooted.created found stage next
  | uncreated caller spawn epoch found stage | shimTimedOut caller spawn epoch found stage => exact rooted.settle caller
  | shimReported caller spawn epoch found stage =>
    have fits := rooted.spawn caller spawn found
    refine rooted.proceed found rfl ?_ fun number same => .inl ?_
    · unfold Fits at fits ⊢
      rwa [stage] at fits
    · rw [stage]
      exact same
  | shimExited caller spawn epoch found stage => exact (rooted.rephase epoch _).settle caller
  | inserted caller spawn epoch found stage => exact rooted.inserted found stage
  | stopped pluginId entry held => exact rooted.stop held
  | stopReturned | restarted => exact rooted.congr rfl rfl rfl rfl rfl rfl rfl
  | exited epoch success => exact rooted.rephase epoch _
  | reported epoch process success held phase watched =>
    exact (rooted.rephase epoch fun _ => .reported success).congr rfl rfl rfl rfl rfl rfl rfl
  | ignored event events idle next stale => exact taken event events
  | scheduled event events entry forced idle next held current flag wanted =>
    have moved := (taken event events).moved (.backoff event entry.config (entry.restartCount + 1) forced)
      fun event spawn same => by cases same
    exact moved.congr rfl rfl rfl rfl rfl rfl rfl
  | given event events entry idle next held current unforced =>
    have moved := (taken event events).moved (.retire event) fun event spawn same => by cases same
    exact moved.congr rfl rfl rfl rfl rfl rfl rfl
  | retired event monitor =>
    have idle := rooted.moved .idle fun event spawn same => by cases same
    refine ⟨fun id entry held => idle.entry id entry (DashMap.remove_some.mp held).2, idle.stopped, idle.spawn, idle.manual,
      idle.distinct, idle.process⟩
  | cancelled event config newCount forced monitor stopped => exact rooted.moved .idle fun event spawn same => by cases same
  | respawned event config newCount forced cause monitor because unstopped =>
    refine rooted.moved _ fun event spawn same => ?_
    cases same
    rfl

end
end Supervisor

def ProcessPhase.isHandled : ProcessPhase → Bool
  | .handled _ => true
  | _ => false

theorem ProcessPhase.isHandled_iff {phase : ProcessPhase} : phase.isHandled = true ↔ ∃ success, phase = .handled success := by
  cases phase with
  | handled success => simp [ProcessPhase.isHandled]
  | _ => simp [ProcessPhase.isHandled]

structure Process.Becomes (old new : Process) : Prop where
  pluginId : new.pluginId = old.pluginId
  live : new.phase = .live → old.phase = .live
  stopped : old.stopped = true → new.stopped = true
  watched : old.watched = true → new.watched = true
  handled : ∀ success, old.phase = .handled success → new.phase = .handled success
  seen : ∀ success, new.phase = .handled success → old.phase = .handled success ∨ old.watched = true

theorem Process.Becomes.refl (process : Process) : process.Becomes process :=
  ⟨rfl, id, id, id, fun _ same => same, fun _ same => .inl same⟩

theorem Process.Becomes.isHandled {old new : Process} (becomes : old.Becomes new) (handled : old.phase.isHandled = true) :
    new.phase.isHandled = true := by
  obtain ⟨success, phase⟩ := ProcessPhase.isHandled_iff.mp handled
  exact ProcessPhase.isHandled_iff.mpr ⟨success, becomes.handled success phase⟩

namespace Supervisor

/-- What a step makes of the process with this epoch. -/
inductive Fate (supervisor : Supervisor) (input : SupervisorInput) (after : Supervisor) (epoch : Nat) : Prop
  | absent (before : supervisor.processes.get epoch = none) (still : after.processes.get epoch = none)
  | created (caller : Caller) (spawn : Spawn) (origin : input = .create caller true)
      (found : supervisor.spawning caller = some spawn) (stage : spawn.stage = .numbered epoch)
      (free : supervisor.processes.get epoch = none)
      (born : after.processes.get epoch = some { pluginId := spawn.config.pluginId })
  | inserted (caller : Caller) (spawn : Spawn) (old new : Process) (origin : input = .insert caller)
      (found : supervisor.spawning caller = some spawn) (stage : spawn.stage = .ready epoch)
      (held : supervisor.processes.get epoch = some old) (there : after.processes.get epoch = some new)
      (becomes : old.Becomes new)
      (entered : after.entries.get spawn.config.pluginId = some ⟨spawn.config, spawn.restartCount, epoch⟩)
      (returned : after.spawning caller = none)
  | goes (old new : Process) (held : supervisor.processes.get epoch = some old)
      (there : after.processes.get epoch = some new) (becomes : old.Becomes new) (same : new.watched = old.watched)

section
variable {supervisor after : Supervisor} {caller : Caller} {old spawn : Spawn} {input : SupervisorInput} {epoch : Nat}

theorem Fate.of_same (same : after.processes = supervisor.processes) : Fate supervisor input after epoch := by
  cases held : supervisor.processes.get epoch with
  | none => exact .absent held (same ▸ held)
  | some process => exact .goes process process held (same ▸ held) (.refl process) rfl

private theorem Fate.of_modify {number : Nat} {f : Process → Process}
    (processes : after.processes = supervisor.processes.modify number f)
    (kept : ∀ old, supervisor.processes.get number = some old → old.Becomes (f old) ∧ (f old).watched = old.watched) :
    Fate supervisor input after epoch := by
  have get := supervisor.processes.get_modify number epoch f
  rw [← processes] at get
  cases held : supervisor.processes.get epoch with
  | none =>
    refine .absent held ?_
    rw [get]
    split
    next same => rw [← same, held]; rfl
    · exact held
  | some process =>
    by_cases same : epoch = number
    · subst same
      rw [if_pos rfl, held] at get
      obtain ⟨becomes, watched⟩ := kept process held
      exact .goes process (f process) held get becomes watched
    · rw [if_neg same, held] at get
      exact .goes process process held get (.refl process) rfl

private theorem Fate.of_exit (processes : ∃ success number, after.processes = (supervisor.exit number success).processes) :
    Fate supervisor input after epoch := by
  obtain ⟨success, number, same⟩ := processes
  refine .of_modify same (fun old _ => ⟨⟨rfl, fun live => ?_, id, id, fun success handled => ?_, fun success handled => ?_⟩, rfl⟩)
  · by_contra apart
    simp only [if_neg apart] at live
    exact apart live
  · simp [handled]
  · simp only at handled
    split at handled
    · cases handled
    · exact .inl handled

private theorem Fate.of_take (valid : supervisor.Valid) {event : ExitEvent} {events : List ExitEvent}
    (next : supervisor.events = event :: events)
    (processes : after.processes = (supervisor.takeEvent event events).processes) :
    Fate supervisor input after epoch := by
  obtain ⟨process, there, -, watched, phase⟩ := valid.queue event (next ▸ List.mem_cons_self)
  refine .of_modify processes (fun old held => ?_)
  cases there.symm.trans held
  refine ⟨⟨rfl, fun live => (by cases live), id, id, fun success handled => ?_, fun _ _ => .inr watched⟩, rfl⟩
  cases phase.symm.trans handled

theorem Turns.fate (turns : supervisor.Turns input after) (valid : supervisor.Valid) (epoch : Nat) :
    Fate supervisor input after epoch := by
  cases turns with
  | created caller spawn number later found stage next =>
    have get := supervisor.processes.get_insert number epoch { pluginId := spawn.config.pluginId }
    by_cases same : epoch = number
    · subst same
      exact .created caller spawn rfl found stage (valid.numbered_free found stage) (get.trans (if_pos rfl))
    · rw [if_neg same] at get
      cases held : supervisor.processes.get epoch with
      | none => exact .absent held (get.trans held)
      | some process => exact .goes process process held (get.trans held) (.refl process) rfl
  | inserted caller spawn number found stage =>
    have get := supervisor.processes.get_modify number epoch fun process => { process with watched := true }
    by_cases same : epoch = number
    · subst same
      have fits := valid.spawn caller spawn found
      unfold Fits at fits
      rw [stage] at fits
      obtain ⟨process, held, -⟩ := fits
      rw [if_pos rfl, held] at get
      exact .inserted caller spawn process _ rfl found stage held get
        ⟨rfl, id, id, fun _ => rfl, fun _ same => same, fun _ same => .inl same⟩ ((DashMap.get_insert ..).trans (if_pos rfl))
        ((spawning_settle caller).trans (if_pos rfl))
    · rw [if_neg same] at get
      cases held : supervisor.processes.get epoch with
      | none => exact .absent held (get.trans held)
      | some process => exact .goes process process held (get.trans held) (.refl process) rfl
  | shimExited caller spawn number found stage => exact .of_exit ⟨false, number, rfl⟩
  | stopped =>
    refine .of_modify rfl (fun old _ => ⟨⟨rfl, id, fun _ => rfl, id, fun _ same => same, fun _ same => .inl same⟩, rfl⟩)
  | exited number success => exact .of_exit ⟨success, number, rfl⟩
  | reported number process success held phase watched =>
    refine .of_modify rfl (fun old there => ?_)
    cases held.symm.trans there
    refine ⟨⟨rfl, fun live => (by cases live), id, id, fun success handled => ?_, fun _ handled => (by cases handled)⟩, rfl⟩
    cases phase.symm.trans handled
  | ignored event events idle next stale | scheduled event events entry forced idle next held current flag wanted
  | given event events entry idle next held current unforced => exact .of_take valid next rfl
  | stay | entered | numbered | uncreated | shimReported | shimTimedOut | stopReturned | restarted | retired | cancelled
  | respawned => exact .of_same rfl

theorem Fate.becomes (fate : Fate supervisor input after epoch) {old : Process}
    (held : supervisor.processes.get epoch = some old) : ∃ new, after.processes.get epoch = some new ∧ old.Becomes new := by
  cases fate with
  | absent before still => cases before.symm.trans held
  | created caller spawn origin found stage free born => cases free.symm.trans held
  | inserted caller spawn same new origin found stage before there becomes entered returned
  | goes same new before there becomes watched =>
    cases before.symm.trans held
    exact ⟨new, there, becomes⟩

private theorem Fate.became (fate : Fate supervisor input after epoch) {new : Process}
    (there : after.processes.get epoch = some new) :
    (∃ id, new = { pluginId := id }) ∨ ∃ old, supervisor.processes.get epoch = some old ∧ old.Becomes new := by
  cases fate with
  | absent before still => cases still.symm.trans there
  | created caller spawn origin found stage free born =>
    cases born.symm.trans there
    exact .inl ⟨_, rfl⟩
  | inserted caller spawn old same origin found stage held now becomes entered returned
  | goes old same held now becomes watched =>
    cases now.symm.trans there
    exact .inr ⟨old, held, becomes⟩

theorem Fate.unhandled (fate : Fate supervisor input after epoch) (valid : supervisor.Valid) {process : Process}
    (there : after.processes.get epoch = some process)
    (unwatched : ∀ old, supervisor.processes.get epoch = some old → old.Becomes process → old.watched = false)
    (success : Bool) : process.phase ≠ .handled success := by
  intro handled
  rcases fate.became there with ⟨id, rfl⟩ | ⟨old, held, becomes⟩
  · cases handled
  · have before := unwatched old held becomes
    rcases becomes.seen success handled with already | watched
    · exact valid.unhandled epoch old held before success already
    · cases before.symm.trans watched

private theorem proceed_sound (found : supervisor.spawning caller = some old) (config : spawn.config = old.config)
    (cause : spawn.cause = old.cause) (sound : supervisor.monitor.Sound) : (supervisor.proceed caller spawn).monitor.Sound := by
  cases caller with
  | monitor =>
    obtain ⟨event, monitor⟩ := monitor_of_spawning found
    simp only [Supervisor.proceed, monitor] at sound ⊢
    simp only [Monitor.Sound, config, cause] at sound ⊢
    exact sound
  | api call => exact sound

private theorem settle_sound (sound : supervisor.monitor.Sound) : (supervisor.settle caller).monitor.Sound := by
  cases caller with
  | monitor => trivial
  | api call => exact sound

theorem Valid.taken (valid : supervisor.Valid) {event : ExitEvent} {events : List ExitEvent}
    (next : supervisor.events = event :: events) :
    (∀ other ∈ events, (supervisor.takeEvent event events).processes.Has other.epoch fun process =>
      process.pluginId = other.pluginId ∧ process.watched = true ∧ process.phase = .reported other.success) ∧
    (events.map ExitEvent.epoch).Nodup ∧
    (supervisor.takeEvent event events).processes.Has event.epoch fun process =>
      process.pluginId = event.pluginId ∧ process.watched = true ∧ process.phase = .handled event.success := by
  have once := valid.once
  rw [next, List.map_cons, List.nodup_cons] at once
  refine ⟨fun other member => ?_, once.2, ?_⟩
  · refine (valid.queue other (next ▸ List.mem_cons_of_mem _ member)).modify fun same => ?_
    exact absurd (List.mem_map.mpr ⟨other, member, same⟩) once.1
  · obtain ⟨process, held, named, watched, -⟩ := valid.queue event (next ▸ List.mem_cons_self)
    refine ⟨{ process with phase := .handled event.success }, ?_, named, watched, rfl⟩
    simp only [takeEvent, DashMap.get_modify, if_pos, held]
    rfl

theorem Turns.valid (turns : supervisor.Turns input after) (valid : supervisor.Valid) : after.Valid := by
  have rooted := turns.rooted valid.toRooted
  have unhandled (epoch : Nat) (process : Process) (held : after.processes.get epoch = some process)
      (unwatched : process.watched = false) : ∀ success, process.phase ≠ .handled success := by
    refine (turns.fate valid epoch).unhandled valid held fun old before becomes => ?_
    refine Bool.eq_false_iff.mpr fun watched => ?_
    cases (becomes.watched watched).symm.trans unwatched
  -- a process that has exited does not exit again
  have ended (epoch : Nat) {success : Bool} {number : Nat} {phase : ProcessPhase} (apart : phase ≠ .live) {id : String}
      (has : supervisor.processes.Has number fun process =>
        process.pluginId = id ∧ process.watched = true ∧ process.phase = phase) :
      (supervisor.exit epoch success).processes.Has number fun process =>
        process.pluginId = id ∧ process.watched = true ∧ process.phase = phase := by
    refine has.modify fun _ process old => ⟨old.1, old.2.1, ?_⟩
    rw [old.2.2, if_neg apart]
  cases turns with
  | stay => exact valid
  | entered | stopReturned | restarted => exact ⟨rooted, valid.queue, valid.once, valid.busy, unhandled, valid.sound⟩
  | numbered caller spawn found stage | shimReported caller spawn epoch found stage =>
    refine ⟨rooted, valid.queue, valid.once, fun event busy => valid.busy event ?_, unhandled, ?_⟩
    · rwa [proceed_event] at busy
    · exact proceed_sound found rfl rfl valid.sound
  | created caller spawn epoch later found stage next =>
    have free := valid.numbered_free found stage
    refine ⟨rooted, fun event member => (valid.queue event member).insert_fresh free, valid.once, fun event busy => ?_, unhandled, ?_⟩
    · rw [proceed_event] at busy
      exact (valid.busy event busy).insert_fresh free
    · exact proceed_sound found rfl rfl valid.sound
  | uncreated | shimTimedOut =>
    exact ⟨rooted, valid.queue, valid.once, fun event busy => valid.busy event (settle_event busy), unhandled, settle_sound valid.sound⟩
  | shimExited caller spawn epoch found stage =>
    exact ⟨rooted, fun event member => ended epoch (by simp) (valid.queue event member), valid.once,
      fun event busy => ended epoch (by simp) (valid.busy event (settle_event busy)), unhandled, settle_sound valid.sound⟩
  | inserted =>
    refine ⟨rooted, fun event member => (valid.queue event member).modify fun _ _ old => ⟨old.1, rfl, old.2.2⟩, valid.once,
      fun event busy => ?_, unhandled, settle_sound valid.sound⟩
    exact (valid.busy event (settle_event busy)).modify fun _ _ old => ⟨old.1, rfl, old.2.2⟩
  | stopped =>
    exact ⟨rooted, fun event member => (valid.queue event member).modify fun _ _ old => old, valid.once,
      fun event busy => (valid.busy event busy).modify fun _ _ old => old, unhandled, valid.sound⟩
  | exited epoch success =>
    exact ⟨rooted, fun event member => ended epoch (by simp) (valid.queue event member), valid.once,
      fun event busy => ended epoch (by simp) (valid.busy event busy), unhandled, valid.sound⟩
  | reported epoch process success held phase watched =>
    have unsent {event : ExitEvent} {other : ProcessPhase} (apart : other ≠ .exited success)
        (has : supervisor.processes.Has event.epoch fun process =>
          process.pluginId = event.pluginId ∧ process.watched = true ∧ process.phase = other) : event.epoch ≠ epoch := by
      rintro rfl
      obtain ⟨value, there, -, -, further⟩ := has
      cases held.symm.trans there
      exact apart (further.symm.trans phase)
    refine ⟨rooted, fun event member => ?_, ?_, fun event busy => ?_, unhandled, valid.sound⟩
    · rcases List.mem_append.mp member with before | new
      · have has := valid.queue event before
        exact has.modify fun same => absurd same (unsent (by simp) has)
      · cases List.mem_singleton.mp new
        refine ⟨{ process with phase := .reported success }, ?_, rfl, watched, rfl⟩
        simp only [DashMap.get_modify, if_pos, held]
        rfl
    · rw [List.map_append, List.nodup_append]
      refine ⟨valid.once, by simp, fun number before other new => ?_⟩
      obtain ⟨event, member, rfl⟩ := List.mem_map.mp before
      have apart := unsent (by simp) (valid.queue event member)
      simpa using (List.mem_singleton.mp new) ▸ apart
    · have has := valid.busy event busy
      exact has.modify fun same => absurd same (unsent (by simp) has)
  | ignored event events idle next stale =>
    obtain ⟨queue, once, -⟩ := valid.taken next
    refine ⟨rooted, queue, once, fun other busy => ?_, unhandled, valid.sound⟩
    change supervisor.monitor.event = some other at busy
    rw [idle] at busy
    cases busy
  | scheduled event events entry forced idle next held current flag wanted =>
    obtain ⟨queue, once, handled⟩ := valid.taken next
    refine ⟨rooted, queue, once, fun other busy => ?_, unhandled, (valid.entry _ entry held).1⟩
    cases busy
    exact handled
  | given event events entry idle next held current unforced =>
    obtain ⟨queue, once, handled⟩ := valid.taken next
    refine ⟨rooted, queue, once, fun other busy => ?_, unhandled, trivial⟩
    cases busy
    exact handled
  | retired event monitor => exact ⟨rooted, valid.queue, valid.once, fun other busy => (by cases busy), unhandled, trivial⟩
  | cancelled event config newCount forced monitor stopped =>
    exact ⟨rooted, valid.queue, valid.once, fun other busy => (by cases busy), unhandled, trivial⟩
  | respawned event config newCount forced cause monitor because unstopped =>
    have sound := valid.sound
    rw [monitor] at sound
    refine ⟨rooted, valid.queue, valid.once, fun other busy => valid.busy other ?_, unhandled, sound, ?_⟩
    · rw [monitor]
      exact busy
    · rw [because]
      cases forced with
      | true | false => rfl

theorem Valid.init : Valid {} where
  entry id _ held := by cases (DashMap.get_empty id).symm.trans held
  stopped id _ held := by cases (DashMap.get_empty id).symm.trans held
  spawn caller spawn found := by
    cases caller with
    | monitor => cases found
    | api call => cases (DashMap.get_empty call).symm.trans found
  manual call _ held := by cases (DashMap.get_empty call).symm.trans held
  distinct first second early late epoch one two := by
    cases first with
    | monitor => cases one
    | api call => cases (DashMap.get_empty call).symm.trans one
  process epoch _ held := by cases (DashMap.get_empty epoch).symm.trans held
  queue event member := absurd member List.not_mem_nil
  once := .nil
  busy event busy := by cases busy
  unhandled epoch _ held := by cases (DashMap.get_empty epoch).symm.trans held
  sound := trivial

theorem valid_run (inputs : List SupervisorInput) : (machine.run inputs).Valid := by
  refine Machine.run_preserves .init (fun supervisor input valid => ?_) inputs
  exact (supervisor.step_turns input).valid valid

/-- What every step from a valid state keeps, as long as it is allowed, holds after every run. -/
theorem run_keeps (invariant : Supervisor → Prop) {guard : Supervisor → SupervisorInput → Prop} (initial : invariant {})
    (kept : ∀ {supervisor input after}, Valid supervisor → guard supervisor input → Turns supervisor input after →
      invariant supervisor → invariant after)
    {inputs : List SupervisorInput} (obeys : machine.Obeys guard machine.init inputs) : invariant (machine.run inputs) := by
  have both : (machine.run inputs).Valid ∧ invariant (machine.run inputs) := by
    refine @Machine.Obeys.run_preserves _ _ _ (fun supervisor => supervisor.Valid ∧ invariant supervisor) _ ⟨.init, initial⟩
      ?_ _ obeys
    rintro before input allowed ⟨valid, holds⟩
    have turns := before.step_turns input
    exact ⟨turns.valid valid, kept valid allowed turns holds⟩
  exact both.2

end
end Supervisor
end Vynkor
