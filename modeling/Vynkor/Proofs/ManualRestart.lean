import Vynkor.Proofs.SupervisorFates

/-! The flag of a manual restart is kept under the plugin's id alone and goes with the next
exit event of the plugin. It reaches the instance it was set for when that is the only one
of which an exit event can still come, and nothing is about to replace its entry. -/

namespace Vynkor
open Lib

namespace Supervisor

/-- Nothing but the instance itself can come between its flag and its exit event. -/
structure Undisputed (supervisor : Supervisor) (id : String) (epoch : Nat) : Prop where
  uncalled : supervisor.inFlight id = false
  elsewhere : ∀ event, supervisor.monitor.event = some event → event.pluginId ≠ id
  others : ∀ number process, supervisor.processes.get number = some process → process.pluginId = id →
    process.watched = true → number ≠ epoch → process.phase.isHandled = true

def undisputed (supervisor : Supervisor) (id : String) (epoch : Nat) : Bool :=
  !supervisor.inFlight id && supervisor.monitor.event.all (·.pluginId != id) &&
  supervisor.processes.keys.all fun number => (supervisor.processes.get number).all fun process =>
    process.pluginId != id || !process.watched || number == epoch || process.phase.isHandled

/-- The plugin is restarted by hand only while its instance is undisputed. -/
def timely (id : String) (supervisor : Supervisor) : SupervisorInput → Bool
  | .restartPlugin pluginId =>
    pluginId != id || (supervisor.entries.get id).all fun entry => supervisor.undisputed id entry.epoch
  | _ => true

/-- A flag is that of the registered instance. -/
structure Flagged (supervisor : Supervisor) (id : String) (epoch : Nat) : Prop extends Undisputed supervisor id epoch where
  registered : ∃ entry, supervisor.entries.get id = some entry ∧ entry.epoch = epoch

section
variable {supervisor after : Supervisor} {input : SupervisorInput} {id : String} {epoch : Nat}

private theorem undisputed_iff : supervisor.undisputed id epoch = true ↔ supervisor.Undisputed id epoch := by
  unfold undisputed
  simp only [Bool.and_eq_true, Bool.not_eq_true', Option.all_eq_true, List.all_eq_true, bne_iff_ne, Bool.or_eq_true, beq_iff_eq,
    DashMap.mem_keys]
  constructor
  · rintro ⟨⟨uncalled, elsewhere⟩, others⟩
    refine ⟨uncalled, elsewhere, fun number process held mine watched apart => ?_⟩
    rcases others number ⟨process, held⟩ process held with ((other | unwatched) | same) | handled
    · exact absurd mine other
    · cases watched.symm.trans unwatched
    · exact absurd same apart
    · exact handled
  · rintro ⟨uncalled, elsewhere, others⟩
    refine ⟨⟨uncalled, elsewhere⟩, fun number _ process held => ?_⟩
    by_cases mine : process.pluginId = id
    · cases watched : process.watched with
      | false => exact .inl (.inl (.inr rfl))
      | true =>
        by_cases same : number = epoch
        · exact .inl (.inr same)
        · exact .inr (others number process held mine watched same)
    · exact .inl (.inl (.inl mine))

theorem Turns.flag (turns : supervisor.Turns input after) (flag : after.forcedRestarts.get id = some epoch) :
    supervisor.forcedRestarts.get id = some epoch ∨
      input = .restartPlugin id ∧ ∃ entry, supervisor.entries.get id = some entry ∧ entry.epoch = epoch := by
  cases turns with
  | stopped | ignored | scheduled | given => exact .inl (DashMap.remove_some.mp flag).2
  | restarted pluginId entry held =>
    rcases DashMap.insert_cases flag with ⟨rfl, rfl⟩ | ⟨-, before⟩
    · exact .inr ⟨rfl, entry, held, rfl⟩
    · exact .inl before
  | _ => exact .inl flag

theorem Undisputed.restarted (undisputed : supervisor.Undisputed id epoch)
    (turns : supervisor.Turns (.restartPlugin id) after) : after.Undisputed id epoch := by
  cases turns with
  | stay => exact undisputed
  | restarted => exact ⟨undisputed.uncalled, undisputed.elsewhere, undisputed.others⟩

private theorem Flagged.unstarted (flagged : supervisor.Flagged id epoch) (valid : supervisor.Valid) {caller : Caller} {spawn : Spawn}
    (starts : Starts supervisor caller input spawn) : spawn.config.pluginId ≠ id := by
  cases starts with
  | manual config free =>
    rintro rfl
    obtain ⟨entry, held, -⟩ := flagged.registered
    cases free.symm.trans held
  | automatic event config newCount forced cause monitor because unstopped =>
    have sound := valid.sound
    rw [monitor] at sound
    intro mine
    exact flagged.elsewhere event (by rw [monitor]; rfl) (sound.symm.trans mine)

theorem Flagged.turns (flagged : supervisor.Flagged id epoch) (valid : supervisor.Valid) (turns : supervisor.Turns input after)
    (flag : after.forcedRestarts.get id = some epoch) : after.Flagged id epoch where
  uncalled := turns.uncalled valid.toRooted flagged.uncalled fun _ _ starts => flagged.unstarted valid starts
  elsewhere := by
    intro event busy
    rcases turns.busy busy with before | handles
    · exact flagged.elsewhere event before
    · rw [handles.unflagged] at flag
      exact (DashMap.remove_some.mp flag).1.symm
  others := by
    intro number process held mine watched apart
    have foreign {caller : Caller} {spawn : Spawn} (found : supervisor.spawning caller = some spawn) :=
      inFlight_false.mp flagged.uncalled caller spawn found
    cases turns.fate valid number with
    | absent before still => cases still.symm.trans held
    | created caller spawn origin found stage free born =>
      cases born.symm.trans held
      exact absurd mine (foreign found)
    | inserted caller spawn old new origin found stage before there becomes entered returned =>
      cases there.symm.trans held
      have own := valid.ready_own found stage before
      exact absurd (own.symm.trans (becomes.pluginId.symm.trans mine)) (foreign found)
    | goes old new before there becomes same =>
      cases there.symm.trans held
      apply becomes.isHandled
      exact flagged.others number old before (becomes.pluginId.symm.trans mine) (same.symm.trans watched) apart
  registered := by
    obtain ⟨entry, held, same⟩ := flagged.registered
    cases turns.entry id with
    | same still => exact ⟨entry, still.trans held, same⟩
    | inserted caller spawn number origin found stage mine there returned =>
      exact absurd mine (inFlight_false.mp flagged.uncalled caller spawn found)
    | stopped other origin before gone marked =>
      subst origin
      cases turns with
      | stay => cases gone.symm.trans held
      | stopped => exact absurd rfl (DashMap.remove_some.mp flag).1
    | retired event origin monitor mine gone =>
      exact absurd mine (flagged.elsewhere event (by rw [monitor]; rfl))

private theorem Valid.event_registered (valid : supervisor.Valid) {event : ExitEvent} {events : List ExitEvent}
    (next : supervisor.events = event :: events) (flagged : supervisor.Flagged id epoch) (mine : event.pluginId = id) :
    event.epoch = epoch := by
  obtain ⟨process, held, named, watched, phase⟩ := valid.queue event (next ▸ List.mem_cons_self)
  by_contra apart
  have handled := flagged.others event.epoch process held (named.trans mine) watched apart
  rw [phase] at handled
  cases handled

/-- The flag of the instance is set, or its exit event has been handled. -/
def Due (supervisor : Supervisor) (id : String) (epoch : Nat) : Prop :=
  supervisor.forcedRestarts.get id = some epoch ∨
    supervisor.processes.Has epoch fun process => process.phase.isHandled = true

private theorem Due.of_restart {entry : SupervisorEntry} (held : supervisor.entries.get id = some entry) :
    (supervisor.restartPlugin id).Due id entry.epoch := by
  left
  simp [restartPlugin, held]

theorem Turns.handled (turns : supervisor.Turns input after) (valid : supervisor.Valid)
    (handled : supervisor.processes.Has epoch fun process => process.phase.isHandled = true) :
    after.processes.Has epoch fun process => process.phase.isHandled = true := by
  obtain ⟨process, held, phase⟩ := handled
  obtain ⟨new, there, becomes⟩ := (turns.fate valid epoch).becomes held
  exact ⟨new, there, becomes.isHandled phase⟩

theorem Flagged.taken (flagged : supervisor.Flagged id epoch) (valid : supervisor.Valid)
    (flag : supervisor.forcedRestarts.get id = some epoch) {event : ExitEvent} {events : List ExitEvent}
    (next : supervisor.events = event :: events) : (supervisor.takeEvent event events).Due id epoch := by
  by_cases mine : event.pluginId = id
  · obtain ⟨-, -, process, held, -, -, phase⟩ := valid.taken next
    rw [valid.event_registered next flagged mine] at held
    exact .inr ⟨process, held, ProcessPhase.isHandled_iff.mpr ⟨_, phase⟩⟩
  · exact .inl (DashMap.remove_some.mpr ⟨fun same => mine same.symm, flag⟩)

theorem Due.turns (due : supervisor.Due id epoch) (valid : supervisor.Valid) (turns : supervisor.Turns input after)
    (flagged : ∀ epoch, supervisor.forcedRestarts.get id = some epoch → supervisor.Flagged id epoch)
    (unstopped : input ≠ .stopPlugin id) : after.Due id epoch := by
  rcases due with flag | handled
  · cases turns with
    | stopped =>
      refine .inl (DashMap.remove_some.mpr ⟨?_, flag⟩)
      rintro rfl
      exact unstopped rfl
    | restarted pluginId entry held =>
      left
      refine (DashMap.get_insert ..).trans ?_
      split
      next here =>
        subst here
        obtain ⟨own, there, same⟩ := (flagged epoch flag).registered
        cases there.symm.trans held
        rw [same]
      · exact flag
    | ignored event events idle next stale | scheduled event events entry forced idle next held current forcing wanted
    | given event events entry idle next held current unforced => exact (flagged epoch flag).taken valid flag next
    | _ => exact .inl flag
  · exact .inr (turns.handled valid handled)

/-- Every flag of the plugin is that of its registered instance. -/
def Honest (supervisor : Supervisor) (id : String) : Prop :=
  supervisor.Valid ∧ ∀ epoch, supervisor.forcedRestarts.get id = some epoch → supervisor.Flagged id epoch

theorem Honest.step (honest : supervisor.Honest id) (timely : supervisor.timely id input = true) :
    (supervisor.step input).Honest id := by
  obtain ⟨valid, flagged⟩ := honest
  have turns := supervisor.step_turns input
  refine ⟨turns.valid valid, fun epoch flag => ?_⟩
  rcases turns.flag flag with before | ⟨rfl, entry, held, rfl⟩
  · exact (flagged epoch before).turns valid turns flag
  · have undisputed : supervisor.Undisputed id entry.epoch := by
      simpa [Supervisor.timely, held, undisputed_iff] using timely
    refine ⟨undisputed.restarted turns, entry, ?_, rfl⟩
    simp only [Supervisor.step, restartPlugin, held]

private theorem Honest.decides (honest : supervisor.Honest id) (flag : supervisor.forcedRestarts.get id = some epoch)
    {event : ExitEvent} {events : List ExitEvent} (idle : supervisor.monitor = .idle)
    (next : supervisor.events = event :: events) (same : event.epoch = epoch) :
    ∃ config newCount, supervisor.decideExit.monitor = .backoff event config newCount true ∧ config.pluginId = id := by
  obtain ⟨valid, flagged⟩ := honest
  obtain ⟨entry, held, current⟩ := (flagged epoch flag).registered
  obtain ⟨named, process, there, own, -, going⟩ := valid.entry id entry held
  obtain ⟨other, here, its, -⟩ := valid.queue event (next ▸ List.mem_cons_self)
  rw [same, ← current] at here
  cases here.symm.trans there
  have mine : event.pluginId = id := its.symm.trans own
  have unstopped : supervisor.stoppedEpochs.get id ≠ some event.epoch := by
    intro stopped
    obtain ⟨marked, found, was⟩ := valid.stopped id _ stopped
    rw [same, ← current] at found
    cases found.symm.trans there
    cases was.symm.trans going
  refine ⟨entry.config, entry.restartCount + 1, ?_, named⟩
  have fresh : (supervisor.stoppedEpochs.get id).any (fun number => number == event.epoch) = false := by
    rw [← Bool.not_eq_true, stopped_iff]
    exact unstopped
  unfold decideExit
  simp [idle, next, mine, held, current, same ▸ fresh, DashMap.containsKey, flag, same, Option.filter]

theorem Due.run (due : supervisor.Due id epoch) (honest : supervisor.Honest id) {inputs : List SupervisorInput}
    (timely : machine.Obeys (fun supervisor input => supervisor.timely id input = true) supervisor inputs)
    (unstopped : .stopPlugin id ∉ inputs) : (machine.runFrom supervisor inputs).Due id epoch := by
  induction inputs generalizing supervisor with
  | nil => exact due
  | cons input inputs ih =>
    rw [List.mem_cons, not_or] at unstopped
    have later := due.turns honest.1 (supervisor.step_turns input) honest.2 (Ne.symm unstopped.1)
    exact ih later (honest.step timely.1) timely.2 unstopped.2

end

/-- The exit event of the instance for which a restart was asked leads to a respawn, and no
other event finds its flag. -/
theorem manual_restart_kept (inputs : List SupervisorInput) (id : String)
    (timely : machine.Obeys (fun supervisor input => supervisor.timely id input = true) machine.init inputs) :
    let supervisor := machine.run inputs
    ∀ event events, supervisor.monitor = .idle → supervisor.events = event :: events →
      (∀ before between entry, inputs = before ++ .restartPlugin id :: between →
        (machine.run before).entries.get id = some entry → .stopPlugin id ∉ between → event.epoch = entry.epoch →
        ∃ config newCount, supervisor.decideExit.monitor = .backoff event config newCount true ∧ config.pluginId = id) ∧
      ∀ epoch, event.pluginId = id → supervisor.forcedRestarts.get id = some epoch → event.epoch = epoch := by
  intro supervisor event events idle next
  have start : machine.init.Honest id := ⟨.init, fun epoch flag => by cases (DashMap.get_empty id).symm.trans flag⟩
  have kept : ∀ before input, before.timely id input = true → before.Honest id → (machine.step before input).Honest id :=
    fun before input guarded honest => honest.step guarded
  have honest : supervisor.Honest id := timely.run_preserves start kept
  refine ⟨fun before between entry parts held unstopped same => ?_, fun epoch mine flag => ?_⟩
  · subst parts
    obtain ⟨first, rest⟩ := machine.obeys_append.mp timely
    have earlier : (machine.run before).Honest id := first.run_preserves start kept
    have flagged : (machine.step (machine.run before) (.restartPlugin id)).Due id entry.epoch := .of_restart held
    have due : supervisor.Due id entry.epoch := by
      simp only [supervisor, Machine.run_append, Machine.runFrom_cons]
      exact flagged.run (earlier.step rest.1) rest.2 unstopped
    rcases due with flag | ⟨process, there, handled⟩
    · exact honest.decides flag idle next same
    · -- an event that is still in the queue has not been handled
      obtain ⟨other, here, -, -, phase⟩ := honest.1.queue event (next ▸ List.mem_cons_self)
      rw [same] at here
      cases here.symm.trans there
      rw [phase] at handled
      cases handled
  · exact honest.1.event_registered next (honest.2 epoch flag) mine

/-- A plugin that is never restarted by policy is restarted by hand. -/
theorem manual_restart_scheduled :
    let inputs := starting ⟨"p", .never, 0, false⟩ 0 ++ [.restartPlugin "p"] ++ exiting 1 true
    ∃ config newCount, (machine.run inputs).decideExit.monitor = .backoff ⟨"p", 1, true⟩ config newCount true ∧
      config.pluginId = "p" := by
  intro inputs
  have kept := manual_restart_kept inputs "p" (by decide +kernel) ⟨"p", 1, true⟩ [] (by decide +kernel) (by decide +kernel)
  exact kept.1 (starting ⟨"p", .never, 0, false⟩ 0) (exiting 1 true) ⟨⟨"p", .never, 0, false⟩, 0, 1⟩ rfl (by decide +kernel)
    (by decide) rfl

/-- The exit event of a stopped instance is still in the queue when the new one is to be
restarted. It takes the flag, and the exit of the new instance is final. -/
theorem manual_restart_lost :
    let config : PluginConfig := ⟨"p", .never, 0, false⟩
    let before := starting config 0 ++ [.stopPlugin "p"] ++ exiting 1 true ++ [.stopReturned "p" 1] ++ starting config 1
    let after := [.decideExit] ++ exiting 2 true
    let supervisor := machine.run (before ++ .restartPlugin "p" :: after)
    (machine.run before).entries.get "p" = some ⟨config, 0, 2⟩ ∧ supervisor.monitor = .idle ∧
    supervisor.events = [⟨"p", 2, true⟩] ∧ supervisor.decideExit.monitor = .retire ⟨"p", 2, true⟩ := by
  decide +kernel

end Supervisor
end Vynkor
