import Vynkor.Proofs.SupervisorRuns

/-! What becomes of a call of `spawn_internal` and of the entry of a plugin in one step. -/

namespace Vynkor
open Lib
namespace Supervisor

/-- How a call of `spawn_internal` returns, and what it leaves behind. -/
inductive Returns (after : Supervisor) (caller : Caller) (spawn : Spawn) : SupervisorInput → Prop
  | uncreated (epoch : Nat) (stage : spawn.stage = .numbered epoch) : Returns after caller spawn (.create caller false)
  | shimExited (epoch : Nat) (stage : spawn.stage = .created epoch)
      (dead : ∀ process, after.processes.get epoch = some process → process.phase ≠ .live) :
      Returns after caller spawn (.shim caller .exited)
  | shimTimedOut (epoch : Nat) (stage : spawn.stage = .created epoch) : Returns after caller spawn (.shim caller .timedOut)
  | inserted (epoch : Nat) (stage : spawn.stage = .ready epoch)
      (entered : after.entries.get spawn.config.pluginId = some ⟨spawn.config, spawn.restartCount, epoch⟩) :
      Returns after caller spawn (.insert caller)

/-- How a call of `spawn_internal` begins. -/
inductive Starts (supervisor : Supervisor) : Caller → SupervisorInput → Spawn → Prop
  | manual (config : PluginConfig) (free : supervisor.entries.get config.pluginId = none) :
      Starts supervisor (.api supervisor.calls) (.spawnPlugin config) ⟨config, 0, .manual, .checked⟩
  | automatic (event : ExitEvent) (config : PluginConfig) (newCount : UInt32) (forced : Bool) (cause : Cause)
      (monitor : supervisor.monitor = .backoff event config newCount forced)
      (because : cause = if forced then .forced event.epoch else .automatic event.epoch)
      (unstopped : supervisor.stoppedEpochs.get config.pluginId ≠ some event.epoch) :
      Starts supervisor .monitor .goOn ⟨config, newCount, cause, .checked⟩

inductive CallFate (supervisor : Supervisor) (input : SupervisorInput) (after : Supervisor) (caller : Caller) : Prop
  | same (same : after.spawning caller = supervisor.spawning caller)
  | begun (spawn : Spawn) (starts : Starts supervisor caller input spawn) (new : supervisor.spawning caller = none)
      (there : after.spawning caller = some spawn)
  | numbered (spawn : Spawn) (origin : input = .number caller) (found : supervisor.spawning caller = some spawn)
      (stage : spawn.stage = .checked)
      (there : after.spawning caller = some { spawn with stage := .numbered (supervisor.nextEpoch + 1) })
  | created (spawn : Spawn) (epoch : Nat) (later : SpawnStage) (origin : input = .create caller true)
      (found : supervisor.spawning caller = some spawn) (stage : spawn.stage = .numbered epoch)
      (next : later = .created epoch ∨ later = .ready epoch)
      (there : after.spawning caller = some { spawn with stage := later })
  | reported (spawn : Spawn) (epoch : Nat) (origin : input = .shim caller .pid)
      (found : supervisor.spawning caller = some spawn) (stage : spawn.stage = .created epoch)
      (there : after.spawning caller = some { spawn with stage := .ready epoch })
  | returned (spawn : Spawn) (found : supervisor.spawning caller = some spawn) (returns : Returns after caller spawn input)
      (gone : after.spawning caller = none)

inductive EntryFate (supervisor : Supervisor) (input : SupervisorInput) (after : Supervisor) (id : String) : Prop
  | same (same : after.entries.get id = supervisor.entries.get id)
  | inserted (caller : Caller) (spawn : Spawn) (epoch : Nat) (origin : input = .insert caller)
      (found : supervisor.spawning caller = some spawn) (stage : spawn.stage = .ready epoch)
      (mine : spawn.config.pluginId = id) (there : after.entries.get id = some ⟨spawn.config, spawn.restartCount, epoch⟩)
      (returned : after.spawning caller = none)
  | stopped (entry : SupervisorEntry) (origin : input = .stopPlugin id) (held : supervisor.entries.get id = some entry)
      (gone : after.entries.get id = none)
      (marked : ∀ process, after.processes.get entry.epoch = some process → process.stopped = true)
  | retired (event : ExitEvent) (origin : input = .goOn) (monitor : supervisor.monitor = .retire event)
      (mine : event.pluginId = id) (gone : after.entries.get id = none)

section
variable {supervisor after : Supervisor} {input : SupervisorInput}

theorem Turns.call (turns : supervisor.Turns input after) (rooted : supervisor.Rooted) (caller : Caller) :
    CallFate supervisor input after caller := by
  have spared {other : Caller} {there : Option Spawn} (apart : caller ≠ other)
      (eq : after.spawning caller = if caller = other then there else supervisor.spawning caller) :
      CallFate supervisor input after caller := .same (eq.trans (if_neg apart))
  have settled {other : Caller} {spawn : Spawn} (found : supervisor.spawning other = some spawn)
      (returns : Returns after other spawn input)
      (eq : after.spawning caller = if caller = other then none else supervisor.spawning caller) :
      CallFate supervisor input after caller := by
    by_cases here : caller = other
    · subst here
      exact .returned spawn found returns (eq.trans (if_pos rfl))
    · exact spared here eq
  cases turns with
  | entered config free =>
    cases caller with
    | monitor => exact .same rfl
    | api call =>
      have get := supervisor.spawns.get_insert supervisor.calls call ⟨config, 0, .manual, .checked⟩
      split at get
      next here =>
        subst here
        refine .begun _ (.manual config free) ?_ get
        refine Option.eq_none_iff_forall_ne_some.mpr fun spawn held => ?_
        exact Nat.lt_irrefl _ (rooted.manual _ spawn held).1
      · exact .same get
  | numbered other spawn found stage =>
    have eq := @spawning_proceed { supervisor with nextEpoch := supervisor.nextEpoch + 1 } other spawn
      { spawn with stage := .numbered (supervisor.nextEpoch + 1) } found caller
    by_cases here : caller = other
    · subst here
      exact .numbered spawn rfl found stage (eq.trans (if_pos rfl))
    · exact spared here eq
  | created other spawn epoch later found stage next =>
    have eq := @spawning_proceed (supervisor.createProcess spawn epoch) other spawn { spawn with stage := later } found caller
    by_cases here : caller = other
    · subst here
      exact .created spawn epoch later rfl found stage next (eq.trans (if_pos rfl))
    · exact spared here eq
  | shimReported other spawn epoch found stage =>
    have eq := @spawning_proceed supervisor other spawn { spawn with stage := .ready epoch } found caller
    by_cases here : caller = other
    · subst here
      exact .reported spawn epoch rfl found stage (eq.trans (if_pos rfl))
    · exact spared here eq
  | uncreated other spawn epoch found stage => exact settled found (.uncreated epoch stage) (spawning_settle caller)
  | shimExited other spawn epoch found stage =>
    refine settled found (.shimExited epoch stage fun process there live => ?_) (spawning_settle caller)
    obtain ⟨old, -, rfl⟩ := DashMap.modify_some there
    split at live
    · cases live
    next apart => exact apart live
  | shimTimedOut other spawn epoch found stage => exact settled found (.shimTimedOut epoch stage) (spawning_settle caller)
  | inserted other spawn epoch found stage => 
    exact settled found (.inserted epoch stage ((DashMap.get_insert ..).trans (if_pos rfl))) (spawning_settle caller)
  | scheduled event events entry forced idle next held current flag wanted
  | given event events entry idle next held current unforced =>
    cases caller with
    | monitor => exact .same (by simp [spawning, idle])
    | api call => exact .same rfl
  | retired event monitor | cancelled event config newCount forced monitor stopped =>
    cases caller with
    | monitor => exact .same (by simp [spawning, monitor])
    | api call => exact .same rfl
  | respawned event config newCount forced cause monitor because unstopped =>
    cases caller with
    | monitor =>
      exact .begun _ (.automatic event config newCount forced cause monitor because unstopped) (by simp [spawning, monitor]) rfl
    | api call => exact .same rfl
  | stay | stopped | stopReturned | restarted | exited | reported | ignored => exact .same rfl

theorem Turns.entry (turns : supervisor.Turns input after) (id : String) : EntryFate supervisor input after id := by
  cases turns with
  | inserted caller spawn epoch found stage =>
    have get := supervisor.entries.get_insert spawn.config.pluginId id ⟨spawn.config, spawn.restartCount, epoch⟩
    split at get
    next here => exact .inserted caller spawn epoch rfl found stage here.symm get ((spawning_settle caller).trans (if_pos rfl))
    · exact .same get
  | stopped pluginId entry held =>
    have get := supervisor.entries.get_remove pluginId id
    split at get
    next here =>
      subst here
      refine .stopped entry rfl held get fun process there => ?_
      obtain ⟨old, -, rfl⟩ := DashMap.modify_some there
      rfl
    · exact .same get
  | retired event monitor =>
    have get := supervisor.entries.get_remove event.pluginId id
    split at get
    next here => exact .retired event rfl monitor here.symm get
    · exact .same get
  | _ => exact .same rfl

/-- The monitor loop turns to the exit event of a registered instance. -/
structure Handles (supervisor : Supervisor) (after : Supervisor) (event : ExitEvent) : Prop where
  idle : supervisor.monitor = .idle
  next : ∃ events, supervisor.events = event :: events
  held : ∃ entry, supervisor.entries.get event.pluginId = some entry ∧ entry.epoch = event.epoch
  entries : after.entries = supervisor.entries
  unflagged : after.forcedRestarts = supervisor.forcedRestarts.remove event.pluginId

theorem Turns.busy (turns : supervisor.Turns input after) {event : ExitEvent} (busy : after.monitor.event = some event) :
    supervisor.monitor.event = some event ∨ supervisor.Handles after event := by
  cases turns with
  | scheduled taken events entry forced idle next held current flag wanted
  | given taken events entry idle next held current unforced =>
    cases busy
    exact .inr ⟨idle, ⟨events, next⟩, ⟨entry, held, current⟩, rfl, rfl⟩
  | numbered | created | shimReported => exact .inl (proceed_event.symm.trans busy)
  | uncreated | shimExited | shimTimedOut | inserted => exact .inl (settle_event busy)
  | retired | cancelled => cases busy
  | respawned taken config newCount forced cause monitor because unstopped =>
    rw [monitor]
    exact .inl busy
  | _ => exact .inl busy

private theorem settle_backoff {caller : Caller} {event : ExitEvent} {config : PluginConfig} {newCount : UInt32} {forced : Bool}
    (waits : (supervisor.settle caller).monitor = .backoff event config newCount forced) :
    supervisor.monitor = .backoff event config newCount forced := by
  cases caller with
  | monitor => cases waits
  | api call => exact waits

private theorem proceed_backoff {caller : Caller} {old spawn : Spawn} (found : supervisor.spawning caller = some old)
    {event : ExitEvent} {config : PluginConfig} {newCount : UInt32} {forced : Bool}
    (waits : (supervisor.proceed caller spawn).monitor = .backoff event config newCount forced) :
    supervisor.monitor = .backoff event config newCount forced := by
  cases caller with
  | monitor =>
    obtain ⟨other, monitor⟩ := monitor_of_spawning found
    simp only [proceed, monitor] at waits
    cases waits
  | api call => exact waits

theorem Turns.backoff (turns : supervisor.Turns input after) {event : ExitEvent} {config : PluginConfig} {newCount : UInt32}
    {forced : Bool} (waits : after.monitor = .backoff event config newCount forced) :
    supervisor.monitor = .backoff event config newCount forced ∨
      ∃ entry, supervisor.entries.get event.pluginId = some entry ∧ config = entry.config ∧
        (forced || entry.restarts event.success) = true ∧ newCount = entry.restartCount + 1 ∧
        supervisor.Handles after event ∧ entry.epoch = event.epoch ∧ input = .decideExit := by
  cases turns with
  | scheduled taken events entry flagged idle next held current flag wanted =>
    cases waits
    refine .inr ⟨entry, held, rfl, wanted, rfl, ?_, current, rfl⟩
    exact ⟨idle, ⟨events, next⟩, ⟨entry, held, current⟩, rfl, rfl⟩
  | given | retired | cancelled | respawned => cases waits
  | numbered caller spawn found stage =>
    exact .inl (@proceed_backoff { supervisor with nextEpoch := _ } caller spawn _ found _ _ _ _ waits)
  | created caller spawn epoch later found stage next =>
    exact .inl (@proceed_backoff (supervisor.createProcess spawn epoch) caller spawn _ found _ _ _ _ waits)
  | shimReported caller spawn epoch found stage => exact .inl (proceed_backoff found waits)
  | uncreated | shimTimedOut => exact .inl (settle_backoff waits)
  | shimExited caller spawn epoch found stage => exact .inl (@settle_backoff (supervisor.exit epoch false) caller _ _ _ _ waits)
  | inserted caller spawn epoch found stage =>
    exact .inl (@settle_backoff (supervisor.insertEntry spawn epoch) caller _ _ _ _ waits)
  | _ => exact .inl waits

/-- The call is the same one, maybe further on. -/
structure Continues (old new : Spawn) : Prop where
  config : new.config = old.config
  restartCount : new.restartCount = old.restartCount
  cause : new.cause = old.cause

theorem CallFate.continues {caller : Caller} {spawn : Spawn} (fate : CallFate supervisor input after caller)
    (found : after.spawning caller = some spawn) :
    (∃ old, supervisor.spawning caller = some old ∧ Continues old spawn) ∨
      (supervisor.spawning caller = none ∧ Starts supervisor caller input spawn) := by
  cases fate with
  | same same => exact .inl ⟨spawn, same.symm.trans found, rfl, rfl, rfl⟩
  | begun new starts free there =>
    cases there.symm.trans found
    exact .inr ⟨free, starts⟩
  | numbered old origin before stage there | created old epoch later origin before stage next there
  | reported old epoch origin before stage there =>
    cases there.symm.trans found
    exact .inl ⟨old, before, rfl, rfl, rfl⟩
  | returned old before returns gone => cases gone.symm.trans found

theorem Valid.respawning (valid : supervisor.Valid) {spawn : Spawn} (found : supervisor.spawning .monitor = some spawn) :
    ∃ event, supervisor.monitor = .respawn event spawn ∧ spawn.config.pluginId = event.pluginId ∧
      spawn.cause.replaceEpoch = some event.epoch := by
  obtain ⟨event, monitor⟩ := monitor_of_spawning found
  have sound := valid.sound
  rw [monitor] at sound
  exact ⟨event, monitor, sound⟩

theorem Valid.replacing (valid : supervisor.Valid) {caller : Caller} {spawn : Spawn} {epoch : Nat}
    (found : supervisor.spawning caller = some spawn) (replaces : spawn.cause.replaceEpoch = some epoch) :
    ∃ event, supervisor.monitor = .respawn event spawn ∧ event.epoch = epoch := by
  cases caller with
  | monitor =>
    obtain ⟨event, monitor, -, same⟩ := valid.respawning found
    exact ⟨event, monitor, Option.some.inj (same.symm.trans replaces)⟩
  | api call =>
    rw [(valid.manual call spawn found).2] at replaces
    cases replaces

/-- A call of `spawn_internal` for the plugin has not returned yet. -/
def inFlight (supervisor : Supervisor) (id : String) : Bool :=
  supervisor.spawns.any (·.config.pluginId == id) || (supervisor.spawning .monitor).any (·.config.pluginId == id)

theorem inFlight_false {id : String} : supervisor.inFlight id = false ↔
    ∀ caller spawn, supervisor.spawning caller = some spawn → spawn.config.pluginId ≠ id := by
  unfold inFlight
  rw [Bool.or_eq_false_iff, Option.any_eq_false, Bool.eq_false_iff, Ne, DashMap.any_iff]
  constructor
  · rintro ⟨others, monitor⟩ caller spawn found mine
    cases caller with
    | monitor => simpa [mine] using monitor spawn found
    | api call => exact others ⟨call, spawn, found, beq_iff_eq.mpr mine⟩
  · intro none
    refine ⟨?_, fun spawn found => ?_⟩
    · rintro ⟨call, spawn, found, mine⟩
      exact none (.api call) spawn found (beq_iff_eq.mp mine)
    · simpa using none .monitor spawn found

theorem Turns.uncalled (turns : supervisor.Turns input after) (rooted : supervisor.Rooted) {id : String}
    (quiet : supervisor.inFlight id = false)
    (none : ∀ caller spawn, Starts supervisor caller input spawn → spawn.config.pluginId ≠ id) : after.inFlight id = false := by
  refine inFlight_false.mpr fun caller spawn found => ?_
  rcases (turns.call rooted caller).continues found with ⟨old, before, continues⟩ | ⟨-, starts⟩
  · exact continues.config ▸ inFlight_false.mp quiet caller old before
  · exact none caller spawn starts

def Solo (supervisor : Supervisor) (id : String) : Prop :=
  ∀ first second early late, supervisor.spawning first = some early → supervisor.spawning second = some late →
    early.config.pluginId = id → late.config.pluginId = id → first = second

theorem Solo.init {id : String} : Solo {} id := by
  intro first second early late one
  cases first with
  | monitor => cases one
  | api call => cases (DashMap.get_empty call).symm.trans one

def begins (supervisor : Supervisor) : SupervisorInput → Option String
  | .spawnPlugin config => if supervisor.entries.containsKey config.pluginId then none else some config.pluginId
  | .goOn =>
    match supervisor.monitor with
    | .backoff event config _ _ =>
      if supervisor.stoppedEpochs.get config.pluginId = some event.epoch then none else some config.pluginId
    | _ => none
  | _ => none

theorem Starts.begins {caller : Caller} {spawn : Spawn} (starts : Starts supervisor caller input spawn) :
    supervisor.begins input = some spawn.config.pluginId := by
  cases starts with
  | manual config free => simp [Supervisor.begins, (DashMap.containsKey_false ..).mpr free]
  | automatic event config newCount forced cause monitor because unstopped => simp [Supervisor.begins, monitor, unstopped]

/-- A call for the plugin begins only while there is no other. -/
def alone (id : String) (supervisor : Supervisor) (input : SupervisorInput) : Bool :=
  supervisor.begins input != some id || !supervisor.inFlight id

theorem Starts.first {caller : Caller} {spawn : Spawn} {id : String} (starts : Starts supervisor caller input spawn)
    (alone : supervisor.alone id input = true) (mine : spawn.config.pluginId = id) : supervisor.inFlight id = false := by
  simpa [Supervisor.alone, starts.begins, mine] using alone

theorem Turns.solo (turns : supervisor.Turns input after) (rooted : supervisor.Rooted) {id : String}
    (solo : supervisor.Solo id) (alone : supervisor.alone id input = true) : after.Solo id := by
  intro first second early late one two mine its
  rcases (turns.call rooted first).continues one with ⟨old, before, continues⟩ | ⟨-, starts⟩
  · rcases (turns.call rooted second).continues two with ⟨other, there, further⟩ | ⟨-, starts⟩
    · exact solo first second old other before there (continues.config ▸ mine) (further.config ▸ its)
    · have quiet := inFlight_false.mp (starts.first alone its)
      exact absurd (continues.config ▸ mine) (quiet first old before)
  · rcases (turns.call rooted second).continues two with ⟨other, there, further⟩ | ⟨-, again⟩
    · have quiet := inFlight_false.mp (starts.first alone mine)
      exact absurd (further.config ▸ its) (quiet second other there)
    · cases starts with
      | manual | automatic =>
        cases again
        rfl

end

/-- The steps of a call of `spawn_internal` without a sandbox, after its check. -/
def launch (caller : Caller) : List SupervisorInput := [.number caller, .create caller true, .insert caller]

def starting (config : PluginConfig) (call : Nat) : List SupervisorInput := .spawnPlugin config :: launch (.api call)

def exiting (epoch : Nat) (success : Bool) : List SupervisorInput := [.exit epoch success, .report epoch]

end Supervisor
end Vynkor
