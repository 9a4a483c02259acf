import Vynkor.Proofs.SupervisorFates

/-! An explicit stop is terminal when it finds nothing under way that would bring the plugin
back: no call of `spawn_internal`, and no pending restart of another instance than the one
whose stop is remembered. -/

namespace Vynkor
open Lib

/-- The creation of a process for the plugin, or the insertion of an entry. -/
def Happening.concerns (id : String) : Happening → Bool
  | .created _ pluginId _ | .inserted _ pluginId => pluginId == id
  | _ => false

/-- The instance of the plugin whose restart waits out its backoff. -/
def Monitor.awaits (id : String) : Monitor → Option Nat
  | .backoff event config _ _ => if config.pluginId = id then some event.epoch else none
  | _ => none

namespace Supervisor

structure Halted (supervisor : Supervisor) (id : String) : Prop where
  gone : supervisor.entries.get id = none
  uncalled : supervisor.inFlight id = false
  cancelled : supervisor.monitor.awaits id = none ∨ supervisor.stoppedEpochs.get id = supervisor.monitor.awaits id

section
variable {supervisor after : Supervisor} {input : SupervisorInput} {id : String}

private theorem Turns.awaits (turns : supervisor.Turns input after) (valid : supervisor.Valid) {epoch : Nat}
    (awaits : after.monitor.awaits id = some epoch) :
    supervisor.monitor.awaits id = some epoch ∨ ∃ entry, supervisor.entries.get id = some entry := by
  have waits := awaits
  unfold Monitor.awaits at waits
  split at waits
  next event config newCount forced monitor =>
    rcases turns.backoff monitor with before | ⟨entry, held, rfl, -⟩
    · rw [monitor] at awaits
      exact .inl (before ▸ awaits)
    · split at waits
      next mine => exact .inr ⟨entry, by rwa [← mine, (valid.entry _ entry held).1]⟩
      · cases waits
  · cases waits

theorem Turns.stoppedEpochs (turns : supervisor.Turns input after) (gone : supervisor.entries.get id = none) :
    after.stoppedEpochs.get id = supervisor.stoppedEpochs.get id := by
  cases turns with
  | stopped pluginId entry held =>
    refine (DashMap.get_insert ..).trans (if_neg ?_)
    rintro rfl
    cases gone.symm.trans held
  | _ => rfl

private theorem Halted.unrestarted (halted : supervisor.Halted id) {caller : Caller} {spawn : Spawn}
    (starts : Starts supervisor caller input spawn) (unasked : ∀ config, input = .spawnPlugin config → config.pluginId ≠ id) :
    spawn.config.pluginId ≠ id := by
  cases starts with
  | manual config free => exact unasked config rfl
  | automatic event config newCount forced cause monitor because unstopped =>
    rintro rfl
    rcases halted.cancelled with none | stopped
    · simp [monitor, Monitor.awaits] at none
    · simp only [monitor, Monitor.awaits, if_true] at stopped
      exact unstopped stopped

theorem Halted.turns (halted : supervisor.Halted id) (valid : supervisor.Valid) (turns : supervisor.Turns input after)
    (unasked : ∀ config, input = .spawnPlugin config → config.pluginId ≠ id) : after.Halted id where
  gone := by
    cases turns.entry id with
    | same same => exact same.trans halted.gone
    | inserted caller spawn epoch origin found stage mine there returned =>
      exact absurd mine (inFlight_false.mp halted.uncalled caller spawn found)
    | stopped entry origin held gone marked | retired event origin monitor mine gone => exact gone
  uncalled := turns.uncalled valid.toRooted halted.uncalled fun _ _ starts => halted.unrestarted starts unasked
  cancelled := by
    cases awaits : after.monitor.awaits id with
    | none => exact .inl rfl
    | some epoch =>
      refine .inr ((turns.stoppedEpochs halted.gone).trans ?_)
      rcases turns.awaits valid awaits with before | ⟨entry, held⟩
      · rcases halted.cancelled with none | stopped
        · cases none.symm.trans before
        · exact stopped.trans before
      · cases halted.gone.symm.trans held

theorem Halted.silent (halted : supervisor.Halted id) (turns : supervisor.Turns input after) :
    after.log.filter (·.concerns id) = supervisor.log.filter (·.concerns id) := by
  have other {caller : Caller} {spawn : Spawn} (found : supervisor.spawning caller = some spawn) :
      spawn.config.pluginId ≠ id := inFlight_false.mp halted.uncalled caller spawn found
  cases turns with
  | created caller spawn epoch later found stage next =>
    simp [proceed, createProcess, Happening.concerns, other found]
  | inserted caller spawn epoch found stage =>
    simp only [settle, insertEntry, List.filter_append]
    split <;> simp [Happening.concerns, other found]
  | scheduled | given => simp [Happening.concerns]
  | _ => rfl

theorem Halted.run (halted : supervisor.Halted id) (valid : supervisor.Valid) {inputs : List SupervisorInput}
    (unasked : ∀ config, .spawnPlugin config ∈ inputs → config.pluginId ≠ id) :
    (machine.runFrom supervisor inputs).log.filter (·.concerns id) = supervisor.log.filter (·.concerns id) := by
  induction inputs generalizing supervisor with
  | nil => rfl
  | cons input inputs ih =>
    have turns := supervisor.step_turns input
    have later := halted.turns valid turns fun config same => unasked config (same ▸ List.mem_cons_self)
    have silent := ih later (turns.valid valid) fun config member => unasked config (List.mem_cons_of_mem _ member)
    exact silent.trans (halted.silent turns)

private theorem Halted.of_stop {entry : SupervisorEntry} (held : supervisor.entries.get id = some entry)
    (uncalled : supervisor.inFlight id = false) (own : ∀ epoch, supervisor.monitor.awaits id = some epoch → epoch = entry.epoch) :
    (supervisor.stopPlugin id).Halted id := by
  simp only [stopPlugin, held]
  refine ⟨(DashMap.get_remove ..).trans (if_pos rfl), uncalled, ?_⟩
  simp only [DashMap.get_insert, if_true]
  cases awaits : supervisor.monitor.awaits id with
  | none => exact .inl rfl
  | some epoch => exact .inr (congrArg some (own epoch awaits).symm)

end

/-- A stop that returns while nothing is under way is terminal; one that is called while
nothing is under way is terminal from the call on. -/
theorem explicit_stop_terminal (before after : List SupervisorInput) (id : String) (epoch : Nat)
    (unasked : ∀ config, .spawnPlugin config ∈ after → config.pluginId ≠ id) :
    let supervisor := machine.run before
    let concerning := fun inputs => (machine.run (before ++ inputs)).log.filter (·.concerns id)
    ((id, epoch) ∈ supervisor.stops → supervisor.Halted id →
      concerning (.stopReturned id epoch :: after) = concerning []) ∧
    (∀ entry, supervisor.entries.get id = some entry → supervisor.inFlight id = false →
      (∀ other, supervisor.monitor.awaits id = some other → other = entry.epoch) →
      concerning (.stopPlugin id :: after) = concerning []) := by
  intro supervisor concerning
  have valid : supervisor.Valid := valid_run before
  simp only [concerning, Machine.run_append, Machine.runFrom_nil, Machine.runFrom_cons]
  refine ⟨fun _ halted => ?_, fun entry held uncalled own => ?_⟩
  · have turns := supervisor.step_turns (.stopReturned id epoch)
    have later := halted.turns valid turns fun config same => by cases same
    exact (later.run (turns.valid valid) unasked).trans (halted.silent turns)
  · have turns := supervisor.step_turns (.stopPlugin id)
    have halted : (supervisor.step (.stopPlugin id)).Halted id := .of_stop held uncalled own
    have kept : (supervisor.stopPlugin id).log = supervisor.log := by simp [stopPlugin, held]
    refine (halted.run (turns.valid valid) unasked).trans ?_
    exact congrArg (List.filter _) kept

def backingOff : List SupervisorInput :=
  starting ⟨"p", .always, 3, false⟩ 0 ++ exiting 1 false ++ [.decideExit]

/-- The stop comes during the backoff, and the restart is cancelled. -/
theorem stop_during_backoff :
    (machine.run (backingOff ++ [.stopPlugin "p", .goOn, .stopReturned "p" 1])).log.filter (·.concerns "p") =
      [.created 1 "p" .manual, .inserted 1 "p"] := by
  have unasked (config : PluginConfig) (member : SupervisorInput.spawnPlugin config ∈ [.goOn, .stopReturned "p" 1]) :
      config.pluginId ≠ "p" := by simp at member
  have kept := (explicit_stop_terminal backingOff _ "p" 1 unasked).2 ⟨⟨"p", .always, 3, false⟩, 0, 1⟩
    (by decide +kernel) (by decide +kernel) fun other awaits => (Option.some.inj awaits).symm
  exact kept.trans (by decide +kernel)

/-- The stop comes when the monitor loop has left its backoff. `spawn_internal` does not look
at the remembered stop and brings the plugin back. -/
theorem stopped_plugin_respawned :
    let before := backingOff ++ [.goOn, .stopPlugin "p"]
    ("p", 1) ∈ (machine.run before).stops ∧
    (machine.run (before ++ .stopReturned "p" 1 :: launch .monitor)).log.filter (·.concerns "p") =
      (machine.run before).log.filter (·.concerns "p") ++ [.created 2 "p" (.automatic 1), .inserted 2 "p"] := by
  decide +kernel

end Supervisor
end Vynkor
