import Vynkor.Proofs.SupervisorFates

/-! No zombie entries: the entry of an instance whose exit has been handled is gone or
replaced, unless a respawn fails while the dead entry is still there. -/

namespace Vynkor
open Lib

namespace Supervisor

/-- A respawn of the plugin fails only when the dead instance is registered no more. -/
def replaceable (id : String) (supervisor : Supervisor) : SupervisorInput → Bool
  | .create .monitor false | .shim .monitor .exited | .shim .monitor .timedOut =>
    match supervisor.monitor with
    | .respawn event _ => event.pluginId != id || (supervisor.entries.get id).all fun entry => entry.epoch != event.epoch
    | _ => true
  | _ => true

/-- How the monitor loop comes to the end of its handling of an event. -/
inductive Finishes (supervisor : Supervisor) (input : SupervisorInput) (after : Supervisor) (event : ExitEvent) : Prop
  | retired (monitor : supervisor.monitor = .retire event) (gone : after.entries.get event.pluginId = none)
  | cancelled (config : PluginConfig) (newCount : UInt32) (forced : Bool)
      (monitor : supervisor.monitor = .backoff event config newCount forced)
      (stopped : supervisor.stoppedEpochs.get config.pluginId = some event.epoch) (entries : after.entries = supervisor.entries)
  | failed (spawn : Spawn) (monitor : supervisor.monitor = .respawn event spawn)
      (origin : input = .create .monitor false ∨ input = .shim .monitor .exited ∨ input = .shim .monitor .timedOut)
      (entries : after.entries = supervisor.entries)
  | replaced (spawn : Spawn) (epoch : Nat) (monitor : supervisor.monitor = .respawn event spawn)
      (stage : spawn.stage = .ready epoch)
      (entered : after.entries.get spawn.config.pluginId = some ⟨spawn.config, spawn.restartCount, epoch⟩)

section
variable {supervisor after : Supervisor} {input : SupervisorInput} {id : String} {epoch : Nat}

private theorem Turns.finishes (turns : supervisor.Turns input after) {event : ExitEvent}
    (busy : supervisor.monitor.event = some event) :
    after.monitor.event = some event ∨ Finishes supervisor input after event := by
  have called {caller : Caller} {spawn : Spawn} (found : supervisor.spawning caller = some spawn)
      (settled : after.monitor = (supervisor.settle caller).monitor)
      (finishes : caller = .monitor → supervisor.monitor = .respawn event spawn → Finishes supervisor input after event) :
      after.monitor.event = some event ∨ Finishes supervisor input after event := by
    cases caller with
    | api call =>
      rw [settled]
      exact .inl busy
    | monitor =>
      obtain ⟨other, monitor⟩ := monitor_of_spawning found
      rw [monitor] at busy
      cases busy
      exact .inr (finishes rfl monitor)
  cases turns with
  | uncreated caller spawn number found stage =>
    refine called found rfl ?_
    rintro rfl monitor
    exact .failed spawn monitor (.inl rfl) rfl
  | shimExited caller spawn number found stage =>
    refine called found rfl ?_
    rintro rfl monitor
    exact .failed spawn monitor (.inr (.inl rfl)) rfl
  | shimTimedOut caller spawn number found stage =>
    refine called found rfl ?_
    rintro rfl monitor
    exact .failed spawn monitor (.inr (.inr rfl)) rfl
  | inserted caller spawn number found stage =>
    refine called found rfl fun _ monitor => ?_
    exact .replaced spawn number monitor stage ((DashMap.get_insert ..).trans (if_pos rfl))
  | retired other monitor =>
    rw [monitor] at busy
    cases busy
    exact .inr (.retired monitor ((DashMap.get_remove ..).trans (if_pos rfl)))
  | cancelled other config newCount forced monitor stopped =>
    rw [monitor] at busy
    cases busy
    exact .inr (.cancelled config newCount forced monitor stopped rfl)
  | respawned other config newCount forced cause monitor because unstopped =>
    rw [monitor] at busy
    exact .inl busy
  | scheduled other events entry forced idle next held current flag wanted
  | given other events entry idle next held current unforced =>
    rw [idle] at busy
    cases busy
  | numbered | created | shimReported => exact .inl (proceed_event.trans busy)
  | _ => exact .inl busy

theorem Turns.unhandled (turns : supervisor.Turns input after) (valid : supervisor.Valid)
    (unhandled : supervisor.processes.Has epoch fun process => process.phase.isHandled = false) :
    (after.processes.Has epoch fun process => process.phase.isHandled = false) ∨
      ∃ event events, supervisor.events = event :: events ∧ event.epoch = epoch ∧
        (after.monitor.event = some event ∨ ∀ entry, supervisor.entries.get event.pluginId = some entry →
          entry.epoch = event.epoch → supervisor.stoppedEpochs.get event.pluginId = some event.epoch) := by
  have exits (number : Nat) (success : Bool) :
      (supervisor.exit number success).processes.Has epoch fun process => process.phase.isHandled = false := by
    refine unhandled.modify fun _ process old => ?_
    simp only
    split
    · rfl
    · exact old
  have taken (event : ExitEvent) (events : List ExitEvent) (apart : event.epoch ≠ epoch) :
      (supervisor.takeEvent event events).processes.Has epoch fun process => process.phase.isHandled = false :=
    unhandled.modify fun same => absurd same.symm apart
  cases turns with
  | created caller spawn number later found stage next => exact .inl (unhandled.insert_fresh (valid.numbered_free found stage))
  | shimExited caller spawn number found stage => exact .inl (exits number false)
  | inserted | stopped => exact .inl (unhandled.modify fun _ _ old => old)
  | exited number success => exact .inl (exits number success)
  | reported => exact .inl (unhandled.modify fun _ _ _ => rfl)
  | ignored event events idle next stale =>
    by_cases same : event.epoch = epoch
    · exact .inr ⟨event, events, next, same, .inr stale⟩
    · exact .inl (taken event events same)
  | scheduled event events entry forced idle next held current flag wanted
  | given event events entry idle next held current unforced =>
    by_cases same : event.epoch = epoch
    · exact .inr ⟨event, events, next, same, .inl rfl⟩
    · exact .inl (taken event events same)
  | _ => exact .inl unhandled

private theorem Valid.registered_unstopped (valid : supervisor.Valid) {entry : SupervisorEntry}
    (held : supervisor.entries.get id = some entry) (other : String) :
    supervisor.stoppedEpochs.get other ≠ some entry.epoch := by
  intro stopped
  obtain ⟨-, process, there, -, -, going⟩ := valid.entry id entry held
  obtain ⟨marked, here, was⟩ := valid.stopped other _ stopped
  cases here.symm.trans there
  cases was.symm.trans going

/-- The entry is that of an instance whose exit is still to be handled, or is being handled. -/
def Attended (supervisor : Supervisor) (entry : SupervisorEntry) : Prop :=
  (supervisor.processes.Has entry.epoch fun process => process.phase.isHandled = false) ∨
    ∃ event, supervisor.monitor.event = some event ∧ event.epoch = entry.epoch

private theorem Finishes.unattended {event : ExitEvent} {entry : SupervisorEntry} (finishes : Finishes supervisor input after event)
    (valid : supervisor.Valid) (mine : event.pluginId = id) (before : supervisor.entries.get id = some entry)
    (same : event.epoch = entry.epoch) (held : after.entries.get id = some entry)
    (replaceable : supervisor.replaceable id input = true) : False := by
  cases finishes with
  | retired monitor gone =>
    subst mine
    cases gone.symm.trans held
  | cancelled config newCount forced monitor stopped entries =>
    exact valid.registered_unstopped before config.pluginId (same ▸ stopped)
  | failed spawn monitor origin entries =>
    have guarded : (supervisor.entries.get id).all (fun entry => entry.epoch != event.epoch) = true := by
      rcases origin with rfl | rfl | rfl <;> simpa [Supervisor.replaceable, monitor, mine] using replaceable
    simp [before, same] at guarded
  | replaced spawn number monitor stage entered =>
    -- the new instance has no wait task yet, the old one had
    have sound := valid.sound
    rw [monitor] at sound
    rw [sound.1, mine] at entered
    cases entered.symm.trans held
    obtain ⟨process, there, -, watched, -⟩ := valid.busy event (by rw [monitor]; rfl)
    rw [same] at there
    have found : supervisor.spawning .monitor = some spawn := by simp [spawning, monitor]
    cases (valid.ready_unwatched found stage there).symm.trans watched

theorem Turns.attended (turns : supervisor.Turns input after) (valid : supervisor.Valid)
    (replaceable : supervisor.replaceable id input = true)
    (attended : ∀ entry, supervisor.entries.get id = some entry → supervisor.Attended entry)
    (entry : SupervisorEntry) (held : after.entries.get id = some entry) : after.Attended entry := by
  cases turns.entry id with
  | stopped other origin before gone marked | retired event origin monitor mine gone => cases gone.symm.trans held
  | inserted caller spawn number origin found stage mine there returned =>
    cases there.symm.trans held
    obtain ⟨-, process, now, -⟩ := (turns.valid valid).entry id _ held
    refine .inl ⟨process, now, Bool.eq_false_iff.mpr fun handled => ?_⟩
    obtain ⟨success, phase⟩ := ProcessPhase.isHandled_iff.mp handled
    refine (turns.fate valid number).unhandled valid now (fun old before _ => ?_) success phase
    exact valid.ready_unwatched found stage before
  | same same =>
    have before := same.symm.trans held
    obtain ⟨-, process, there, own, -⟩ := valid.entry id entry before
    rcases attended entry before with unhandled | ⟨event, busy, current⟩
    · rcases turns.unhandled valid unhandled with still | ⟨event, events, next, current, busy | stale⟩
      · exact .inl still
      · exact .inr ⟨event, busy, current⟩
      · obtain ⟨other, here, its, -⟩ := valid.queue event (next ▸ List.mem_cons_self)
        rw [current] at here
        cases here.symm.trans there
        have stopped := stale entry (its ▸ own ▸ before) current.symm
        exact absurd (current ▸ stopped) (valid.registered_unstopped before event.pluginId)
    · rcases turns.finishes busy with still | finishes
      · exact .inr ⟨event, still, current⟩
      · obtain ⟨other, here, its, -⟩ := valid.busy event busy
        rw [current] at here
        cases here.symm.trans there
        exact (finishes.unattended valid (its.symm.trans own) before current held replaceable).elim

/-- Calls for the plugin carry larger epochs than its instances, and the registered instance
is not older than the one whose exit is being handled. -/
structure Ahead (supervisor : Supervisor) (id : String) : Prop where
  solo : supervisor.Solo id
  rising : ∀ caller spawn number epoch process, supervisor.spawning caller = some spawn → spawn.config.pluginId = id →
    spawn.stage.epoch = some number → supervisor.processes.get epoch = some process → process.pluginId = id →
    process.watched = true → epoch < number
  ahead : ∀ event entry, supervisor.monitor.event = some event → event.pluginId = id →
    supervisor.entries.get id = some entry → event.epoch ≤ entry.epoch

private theorem CallFate.numbering {caller : Caller} {spawn : Spawn} {number : Nat} (fate : CallFate supervisor input after caller)
    (found : after.spawning caller = some spawn) (numbered : spawn.stage.epoch = some number) :
    ∃ old, supervisor.spawning caller = some old ∧ Continues old spawn ∧
      (old.stage.epoch = some number ∨ number = supervisor.nextEpoch + 1) := by
  cases fate with
  | same same => exact ⟨spawn, same.symm.trans found, ⟨rfl, rfl, rfl⟩, .inl numbered⟩
  | begun new starts free there =>
    cases there.symm.trans found
    cases starts with
    | manual | automatic => cases numbered
  | numbered old origin before stage there =>
    cases there.symm.trans found
    cases numbered
    exact ⟨old, before, ⟨rfl, rfl, rfl⟩, .inr rfl⟩
  | created old epoch later origin before stage next there =>
    cases there.symm.trans found
    refine ⟨old, before, ⟨rfl, rfl, rfl⟩, .inl ?_⟩
    rw [stage]
    rcases next with rfl | rfl <;> exact numbered
  | reported old epoch origin before stage there =>
    cases there.symm.trans found
    refine ⟨old, before, ⟨rfl, rfl, rfl⟩, .inl ?_⟩
    rw [stage]
    exact numbered
  | returned old before returns gone => cases gone.symm.trans found

theorem Fate.watched (fate : Fate supervisor input after epoch) (rooted : supervisor.Rooted) {process : Process}
    (there : after.processes.get epoch = some process) (watched : process.watched = true) :
    (∃ old, supervisor.processes.get epoch = some old ∧ process.pluginId = old.pluginId ∧ old.watched = true) ∨
      ∃ caller spawn, supervisor.spawning caller = some spawn ∧ spawn.config.pluginId = process.pluginId ∧
        spawn.stage = .ready epoch ∧ after.spawning caller = none := by
  cases fate with
  | absent before still => cases still.symm.trans there
  | created caller spawn origin found stage free born =>
    cases born.symm.trans there
    cases watched
  | inserted caller spawn old same origin found stage held now becomes entered returned =>
    cases now.symm.trans there
    have own := becomes.pluginId.trans (rooted.ready_own found stage held)
    exact .inr ⟨caller, spawn, found, own.symm, stage, returned⟩
  | goes old same held now becomes kept =>
    cases now.symm.trans there
    exact .inl ⟨old, held, becomes.pluginId, kept.symm.trans watched⟩

private theorem Ahead.turns_rising (ahead : supervisor.Ahead id) (valid : supervisor.Valid) (turns : supervisor.Turns input after)
    {caller : Caller} {spawn : Spawn} {number : Nat} {process : Process} (found : after.spawning caller = some spawn)
    (mine : spawn.config.pluginId = id) (numbered : spawn.stage.epoch = some number)
    (there : after.processes.get epoch = some process) (own : process.pluginId = id) (watched : process.watched = true) :
    epoch < number := by
  obtain ⟨old, before, continues, since⟩ := (turns.call valid.toRooted caller).numbering found numbered
  have its := continues.config ▸ mine
  rcases (turns.fate valid epoch).watched valid.toRooted there watched with
    ⟨was, held, named, already⟩ | ⟨other, ready, called, same, stage, gone⟩
  · rcases since with kept | new
    · exact ahead.rising caller old number epoch was before its kept held (named.symm.trans own) already
    · have bound := valid.process epoch was held
      omega
  · -- it is the same call, which has not returned
    cases ahead.solo caller other old ready before called its (same.trans own)
    cases gone.symm.trans found

theorem Ahead.turns (ahead : supervisor.Ahead id) (valid : supervisor.Valid) (turns : supervisor.Turns input after)
    (alone : supervisor.alone id input = true) : after.Ahead id where
  solo := turns.solo valid.toRooted ahead.solo alone
  rising _ _ _ _ _ found mine numbered there own watched :=
    ahead.turns_rising valid turns found mine numbered there own watched
  ahead := by
    intro event entry busy mine held
    rcases turns.busy busy with before | handles
    · cases turns.entry id with
      | same same => exact ahead.ahead event entry before mine (same.symm.trans held)
      | stopped other origin was gone marked | retired other origin monitor its gone => cases gone.symm.trans held
      | inserted caller spawn number origin found stage its there returned =>
        cases there.symm.trans held
        obtain ⟨process, here, own, watched, -⟩ := valid.busy event before
        apply Nat.le_of_lt
        exact ahead.rising caller spawn number event.epoch process found its (by rw [stage]; rfl) here (own.trans mine) watched
    · obtain ⟨current, registered, same⟩ := handles.held
      rw [handles.entries, ← mine, registered] at held
      cases held
      exact Nat.le_of_eq same.symm

theorem Ahead.init : Ahead {} id where
  solo := .init
  rising caller spawn number epoch process found mine numbered held := by cases (DashMap.get_empty epoch).symm.trans held
  ahead event entry busy := by cases busy

private theorem Ahead.finishes (ahead : supervisor.Ahead id) (valid : supervisor.Valid) {event : ExitEvent} {entry : SupervisorEntry}
    (busy : supervisor.monitor.event = some event) (mine : event.pluginId = id)
    (finishes : Finishes supervisor input after event) (replaceable : supervisor.replaceable id input = true)
    (held : after.entries.get id = some entry) : event.epoch < entry.epoch := by
  -- the entry has stayed, and is not that of the event
  have later (same : after.entries = supervisor.entries) : event.epoch < entry.epoch := by
    have before : supervisor.entries.get id = some entry := same ▸ held
    apply Nat.lt_of_le_of_ne (ahead.ahead event entry busy mine before)
    intro current
    exact finishes.unattended valid mine before current held replaceable
  cases finishes with
  | retired monitor gone =>
    subst mine
    cases gone.symm.trans held
  | cancelled config newCount forced monitor stopped entries | failed spawn monitor origin entries => exact later entries
  | replaced spawn number monitor stage entered =>
    have sound := valid.sound
    rw [monitor] at sound
    have its := sound.1.trans mine
    rw [its] at entered
    cases entered.symm.trans held
    have found : supervisor.spawning .monitor = some spawn := by simp [spawning, monitor]
    obtain ⟨process, here, own, watched, -⟩ := valid.busy event busy
    exact ahead.rising .monitor spawn number event.epoch process found its (by rw [stage]; rfl) here (own.trans mine) watched

end

/-- A registered plugin has an instance whose exit is not handled, or is being handled; and when
an exit has been handled the entry is gone or is that of a later instance. -/
theorem no_zombie_entries (inputs : List SupervisorInput) (id : String)
    (replaceable : machine.Obeys (fun supervisor input => supervisor.replaceable id input = true) machine.init inputs) :
    let supervisor := machine.run inputs
    (supervisor.isRunning id = true → ∃ entry, supervisor.entries.get id = some entry ∧ supervisor.Attended entry) ∧
    ∀ before input event, inputs = before ++ [input] →
      machine.Obeys (fun supervisor input => supervisor.alone id input = true) machine.init inputs →
      (machine.run before).monitor.event = some event → event.pluginId = id → supervisor.monitor = .idle →
      ∀ entry, supervisor.entries.get id = some entry →
        event.epoch < entry.epoch ∧ ∃ process, supervisor.processes.get entry.epoch = some process := by
  intro supervisor
  refine ⟨fun running => ?_, ?_⟩
  · obtain ⟨entry, held⟩ := (DashMap.containsKey_iff ..).mp running
    have attended : ∀ entry, supervisor.entries.get id = some entry → supervisor.Attended entry := by
      refine run_keeps (fun supervisor => ∀ entry, supervisor.entries.get id = some entry → supervisor.Attended entry) ?_
        (fun valid guarded turns attended => turns.attended valid guarded attended) replaceable
      intro entry held
      cases (DashMap.get_empty id).symm.trans held
    exact ⟨entry, held, attended entry held⟩
  · intro before input event parts alone busy mine idle entry held
    subst parts
    have turns := (machine.run before).step_turns input
    have valid := valid_run before
    have ahead : (machine.run before).Ahead id :=
      run_keeps (fun supervisor => supervisor.Ahead id) .init (fun valid guarded turns ahead => ahead.turns valid turns guarded)
        (machine.obeys_append.mp alone).1
    simp only [supervisor, Machine.run_append, Machine.runFrom_cons, Machine.runFrom_nil] at idle held ⊢
    obtain ⟨-, process, there, -⟩ := (turns.valid valid).entry id entry held
    refine ⟨?_, process, there⟩
    rcases turns.finishes busy with still | finishes
    · have none := congrArg Monitor.event idle
      cases none.symm.trans still
    · exact ahead.finishes valid busy mine finishes (machine.obeys_append.mp replaceable).2.1 held

def restarting : List SupervisorInput :=
  starting ⟨"p", .always, 3, false⟩ 0 ++ exiting 1 false ++ [.decideExit, .goOn, .number .monitor, .create .monitor true]

theorem restarted_entry_attended :
    let supervisor := machine.run (restarting ++ [.insert .monitor])
    supervisor.isRunning "p" = true ∧ (∃ entry, supervisor.entries.get "p" = some entry ∧ supervisor.Attended entry) ∧
    ∀ entry, supervisor.entries.get "p" = some entry → 1 < entry.epoch := by
  intro supervisor
  obtain ⟨attended, later⟩ := no_zombie_entries (restarting ++ [.insert .monitor]) "p" (by decide +kernel)
  have running : supervisor.isRunning "p" = true := by decide +kernel
  refine ⟨running, attended running, fun entry held => ?_⟩
  exact (later restarting (.insert .monitor) ⟨"p", 1, false⟩ rfl (by decide +kernel) (by decide +kernel) rfl (by decide +kernel)
    entry held).1

/-- The process of the respawn cannot be created. The monitor loop ignores the error, and the
entry of the dead instance stays. -/
theorem failed_respawn_zombie :
    let supervisor := machine.run (starting ⟨"p", .always, 3, false⟩ 0 ++ exiting 1 false ++
      [.decideExit, .goOn, .number .monitor, .create .monitor false])
    supervisor.isRunning "p" = true ∧ supervisor.entries.get "p" = some ⟨⟨"p", .always, 3, false⟩, 0, 1⟩ ∧
    supervisor.processes.get 1 = some ⟨"p", .handled false, true, false⟩ ∧ supervisor.monitor = .idle ∧
    supervisor.events = [] ∧ supervisor.inFlight "p" = false := by
  decide +kernel

end Supervisor
end Vynkor
