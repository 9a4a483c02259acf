import Vynkor.Proofs.SupervisorFates

/-! One supervised process per plugin: it holds as long as the calls of `spawn_internal` for
the plugin do not overlap and the monitor loop carries out a decision only on the instance it
was made for. -/

namespace Vynkor
open Lib

namespace Supervisor

/-- A live instance of the plugin that `stop_plugin` has not removed. -/
def Supervised (supervisor : Supervisor) (id : String) (epoch : Nat) : Prop :=
  supervisor.processes.Has epoch fun process => process.pluginId = id ∧ process.phase = .live ∧ process.stopped = false

/-- The entry of the plugin is gone or is that of the instance. -/
def current (supervisor : Supervisor) (id : String) (event : ExitEvent) : Bool :=
  (supervisor.entries.get id).all fun entry => entry.epoch == event.epoch

/-- Calls for the plugin do not overlap, decisions are carried out on the instance they were
made for, and no shim is left behind. -/
def orderly (id : String) (supervisor : Supervisor) (input : SupervisorInput) : Bool :=
  supervisor.alone id input &&
  match input with
  | .goOn =>
    match supervisor.monitor with
    | .retire event => event.pluginId != id || supervisor.current id event
    | .backoff event _ _ _ => supervisor.begins .goOn != some id || supervisor.current id event
    | _ => true
  | .shim caller .timedOut => (supervisor.spawning caller).all fun spawn => spawn.config.pluginId != id
  | _ => true

structure Single (supervisor : Supervisor) (id : String) : Prop where
  solo : supervisor.Solo id
  vacant : ∀ caller spawn entry, supervisor.spawning caller = some spawn → spawn.config.pluginId = id →
    supervisor.entries.get id = some entry → spawn.cause.replaceEpoch = some entry.epoch
  known : ∀ epoch, supervisor.Supervised id epoch →
    (∃ caller spawn, supervisor.spawning caller = some spawn ∧ spawn.config.pluginId = id ∧ spawn.stage.epoch = some epoch) ∨
      ∃ entry, supervisor.entries.get id = some entry ∧ entry.epoch = epoch

section
variable {supervisor after : Supervisor} {input : SupervisorInput} {id : String}

private theorem current_epoch {event : ExitEvent} (current : supervisor.current id event = true) {entry : SupervisorEntry}
    (held : supervisor.entries.get id = some entry) : entry.epoch = event.epoch := by
  unfold Supervisor.current at current
  rw [held] at current
  exact beq_iff_eq.mp current

private theorem orderly_respawn (orderly : supervisor.orderly id .goOn = true) {event : ExitEvent} {config : PluginConfig}
    {newCount : UInt32} {forced : Bool} (monitor : supervisor.monitor = .backoff event config newCount forced)
    (begins : supervisor.begins .goOn = some id) : supervisor.current id event = true := by
  have guarded := (Bool.and_eq_true_iff.mp orderly).2
  simpa [monitor, begins] using guarded

private theorem orderly_retire (orderly : supervisor.orderly id .goOn = true) {event : ExitEvent}
    (monitor : supervisor.monitor = .retire event) (mine : event.pluginId = id) : supervisor.current id event = true := by
  have guarded := (Bool.and_eq_true_iff.mp orderly).2
  simpa [monitor, mine] using guarded

private theorem orderly_shim {caller : Caller} (orderly : supervisor.orderly id (.shim caller .timedOut) = true) {spawn : Spawn}
    (found : supervisor.spawning caller = some spawn) : spawn.config.pluginId ≠ id := by
  have guarded := (Bool.and_eq_true_iff.mp orderly).2
  simpa [found] using guarded

private theorem Valid.handled_unsupervised (valid : supervisor.Valid) {event : ExitEvent}
    (busy : supervisor.monitor.event = some event) (supervised : supervisor.Supervised id event.epoch) : False := by
  obtain ⟨process, held, -, -, phase⟩ := valid.busy event busy
  obtain ⟨other, there, -, live, -⟩ := supervised
  cases held.symm.trans there
  cases phase.symm.trans live

private theorem Single.turns_vacant (single : supervisor.Single id) (valid : supervisor.Valid) (turns : supervisor.Turns input after)
    (orderly : supervisor.orderly id input = true) {caller : Caller} {spawn : Spawn} {entry : SupervisorEntry}
    (found : after.spawning caller = some spawn) (mine : spawn.config.pluginId = id)
    (held : after.entries.get id = some entry) : spawn.cause.replaceEpoch = some entry.epoch := by
  cases turns.entry id with
  | stopped other origin before gone marked | retired event origin monitor its gone => cases gone.symm.trans held
  | inserted other its epoch origin before stage same there returned =>
    -- the call that inserts is the only one for the plugin, and it has returned
    rcases (turns.call valid.toRooted caller).continues found with ⟨old, earlier, continues⟩ | ⟨-, starts⟩
    · have here := single.solo caller other old its earlier before (continues.config ▸ mine) same
      subst here
      cases returned.symm.trans found
    · subst origin
      cases starts
  | same same =>
    have before := same.symm.trans held
    rcases (turns.call valid.toRooted caller).continues found with ⟨old, earlier, continues⟩ | ⟨-, starts⟩
    · rw [continues.cause]
      exact single.vacant caller old entry earlier (continues.config ▸ mine) before
    · have begins := starts.begins
      rw [mine] at begins
      cases starts with
      | manual config free =>
        cases mine
        cases free.symm.trans before
      | automatic event config newCount forced cause monitor because unstopped =>
        rw [current_epoch (orderly_respawn orderly monitor begins) before]
        cases forced with
        | true | false => rw [because]; rfl

theorem Supervised.before {epoch : Nat} {old new : Process} (held : supervisor.processes.get epoch = some old)
    (becomes : old.Becomes new) (pluginId : new.pluginId = id) (live : new.phase = .live) (going : new.stopped = false) :
    supervisor.Supervised id epoch := by
  refine ⟨old, held, becomes.pluginId.symm.trans pluginId, becomes.live live, ?_⟩
  refine Bool.eq_false_iff.mpr fun stopped => ?_
  cases (becomes.stopped stopped).symm.trans going

/-- A call that has created the process keeps it in sight until it is in the entry. -/
theorem Turns.called (turns : supervisor.Turns input after) (rooted : supervisor.Rooted)
    (orderly : supervisor.orderly id input = true) {epoch : Nat} (supervised : after.Supervised id epoch) {caller : Caller}
    {spawn : Spawn} (found : supervisor.spawning caller = some spawn) (mine : spawn.config.pluginId = id)
    (numbered : spawn.stage.epoch = some epoch) (made : spawn.stage = .numbered epoch → input ≠ .create caller false) :
    (∃ caller spawn, after.spawning caller = some spawn ∧ spawn.config.pluginId = id ∧ spawn.stage.epoch = some epoch) ∨
      ∃ entry, after.entries.get id = some entry ∧ entry.epoch = epoch := by
  cases turns.call rooted caller with
  | same same => exact .inl ⟨caller, spawn, same.trans found, mine, numbered⟩
  | begun other starts new there => cases new.symm.trans found
  | numbered other origin before stage there =>
    cases before.symm.trans found
    rw [stage] at numbered
    cases numbered
  | created other number later origin before stage next there =>
    cases before.symm.trans found
    rw [stage] at numbered
    cases numbered
    refine .inl ⟨caller, _, there, mine, ?_⟩
    rcases next with rfl | rfl <;> rfl
  | reported other number origin before stage there =>
    cases before.symm.trans found
    rw [stage] at numbered
    exact .inl ⟨caller, _, there, mine, numbered⟩
  | returned other before returns gone =>
    cases before.symm.trans found
    cases returns with
    | uncreated number stage =>
      rw [stage] at numbered
      cases numbered
      exact absurd rfl (made stage)
    | shimExited number stage dead =>
      rw [stage] at numbered
      cases numbered
      obtain ⟨process, there, -, live, -⟩ := supervised
      exact absurd live (dead process there)
    | shimTimedOut => exact absurd mine (orderly_shim orderly found)
    | inserted number stage entered =>
      rw [stage] at numbered
      cases numbered
      exact .inr ⟨_, mine ▸ entered, rfl⟩

theorem Single.listed (single : supervisor.Single id) (valid : supervisor.Valid) (turns : supervisor.Turns input after)
    (orderly : supervisor.orderly id input = true) {entry : SupervisorEntry} (supervised : supervisor.Supervised id entry.epoch)
    (still : after.Supervised id entry.epoch) (held : supervisor.entries.get id = some entry) :
    ∃ later, after.entries.get id = some later ∧ later.epoch = entry.epoch := by
  cases turns.entry id with
  | same same => exact ⟨entry, same.trans held, rfl⟩
  | inserted caller spawn epoch origin found stage mine there returned =>
    have replaces := single.vacant caller spawn entry found mine held
    obtain ⟨event, monitor, same⟩ := valid.replacing found replaces
    rw [← same] at supervised
    exact (valid.handled_unsupervised (by rw [monitor]; rfl) supervised).elim
  | stopped other origin before gone marked =>
    cases before.symm.trans held
    obtain ⟨process, there, -, -, going⟩ := still
    cases (marked process there).symm.trans going
  | retired event origin monitor mine gone =>
    subst origin
    rw [current_epoch (orderly_retire orderly monitor mine) held] at supervised
    exact (valid.handled_unsupervised (by rw [monitor]; rfl) supervised).elim

theorem Single.turns (single : supervisor.Single id) (valid : supervisor.Valid) (turns : supervisor.Turns input after)
    (orderly : supervisor.orderly id input = true) : after.Single id where
  solo := turns.solo valid.toRooted single.solo (Bool.and_eq_true_iff.mp orderly).1
  vacant _ _ _ found mine held := single.turns_vacant valid turns orderly found mine held
  known := by
    intro epoch supervised
    obtain ⟨process, now, pluginId, live, going⟩ := supervised
    cases turns.fate valid epoch with
    | absent before still => cases still.symm.trans now
    | created caller spawn origin found stage free born =>
      cases born.symm.trans now
      refine turns.called valid.toRooted orderly ⟨_, now, pluginId, live, going⟩ found pluginId (by rw [stage]; rfl) ?_
      intro _ uncreated
      cases origin.symm.trans uncreated
    | inserted caller spawn old new origin found stage held there becomes entered returned =>
      cases there.symm.trans now
      have mine := (valid.ready_own found stage held).symm.trans (becomes.pluginId.symm.trans pluginId)
      exact .inr ⟨_, mine ▸ entered, rfl⟩
    | goes old new held there becomes same =>
      cases there.symm.trans now
      have earlier := Supervised.before held becomes pluginId live going
      have still : after.Supervised id epoch := ⟨process, now, pluginId, live, going⟩
      rcases single.known epoch earlier with ⟨caller, spawn, found, mine, numbered⟩ | ⟨entry, listed, rfl⟩
      · refine turns.called valid.toRooted orderly still found mine numbered fun stage => ?_
        cases (valid.numbered_free found stage).symm.trans held
      · exact .inr (single.listed valid turns orderly earlier still listed)

theorem Single.init : Single {} id where
  solo := .init
  vacant caller spawn entry found mine held := by cases (DashMap.get_empty id).symm.trans held
  known epoch supervised := by
    obtain ⟨process, held, -⟩ := supervised
    cases (DashMap.get_empty epoch).symm.trans held

theorem Single.once (single : supervisor.Single id) (valid : supervisor.Valid) {first second : Nat}
    (one : supervisor.Supervised id first) (two : supervisor.Supervised id second) : first = second := by
  -- the process of a call is not the one in the entry, which has been handled
  have clash {epoch : Nat} {caller : Caller} {spawn : Spawn} {entry : SupervisorEntry}
      (found : supervisor.spawning caller = some spawn) (mine : spawn.config.pluginId = id)
      (held : supervisor.entries.get id = some entry) (same : entry.epoch = epoch)
      (supervised : supervisor.Supervised id epoch) : False := by
    obtain ⟨event, monitor, here⟩ := valid.replacing found (single.vacant caller spawn entry found mine held)
    rw [← same, ← here] at supervised
    exact valid.handled_unsupervised (by rw [monitor]; rfl) supervised
  rcases single.known first one with ⟨caller, spawn, found, mine, numbered⟩ | ⟨entry, held, same⟩
  · rcases single.known second two with ⟨other, late, there, its, later⟩ | ⟨entry, held, same⟩
    · cases single.solo caller other spawn late found there mine its
      cases found.symm.trans there
      exact Option.some.inj (numbered.symm.trans later)
    · exact (clash found mine held same two).elim
  · rcases single.known second two with ⟨other, late, there, its, later⟩ | ⟨other, there, its⟩
    · exact (clash there its held same one).elim
    · cases held.symm.trans there
      exact same.symm.trans its

end

/-- At most one supervised process; it is the one in the entry once its call has returned; and
a restart replaces no other entry than the one it was decided for. -/
theorem one_process_per_plugin (inputs : List SupervisorInput) (id : String)
    (orderly : machine.Obeys (fun supervisor input => supervisor.orderly id input = true) machine.init inputs) :
    let supervisor := machine.run inputs
    (∀ first second, supervisor.Supervised id first → supervisor.Supervised id second → first = second) ∧
    (∀ epoch, supervisor.Supervised id epoch →
      (∀ caller spawn, supervisor.spawning caller = some spawn → spawn.stage.epoch ≠ some epoch) →
      ∃ entry, supervisor.entries.get id = some entry ∧ entry.epoch = epoch) ∧
    ∀ caller spawn epoch replaced entry, supervisor.spawning caller = some spawn → spawn.config.pluginId = id →
      spawn.stage = .ready epoch → spawn.cause.replaceEpoch = some replaced →
      supervisor.entries.get id = some entry → entry.epoch = replaced := by
  intro supervisor
  have valid : supervisor.Valid := valid_run inputs
  have single : supervisor.Single id :=
    run_keeps (fun supervisor => supervisor.Single id) .init (fun valid guarded turns single => single.turns valid turns guarded)
      orderly
  refine ⟨fun first second one two => single.once valid one two, fun epoch supervised returned => ?_, ?_⟩
  · rcases single.known epoch supervised with ⟨caller, spawn, found, -, numbered⟩ | listed
    · exact absurd numbered (returned caller spawn found)
    · exact listed
  · intro caller spawn epoch replaced entry found mine _ replaces listed
    have same := single.vacant caller spawn entry found mine listed
    exact Option.some.inj (same.symm.trans replaces)

/-- The plugin exits and is restarted; its old entry is the one that is replaced. -/
theorem restart_replaces_own_entry :
    let inputs := starting ⟨"p", .always, 3, false⟩ 0 ++ exiting 1 false ++
      [.decideExit, .goOn, .number .monitor, .create .monitor true]
    let supervisor := machine.run inputs
    supervisor.entries.get "p" = some ⟨⟨"p", .always, 3, false⟩, 0, 1⟩ ∧
    supervisor.spawning .monitor = some ⟨⟨"p", .always, 3, false⟩, 1, .automatic 1, .ready 2⟩ ∧
    (∀ epoch, supervisor.Supervised "p" epoch → epoch = 2) ∧
    ∀ entry, supervisor.entries.get "p" = some entry → entry.epoch = 1 := by
  intro inputs supervisor
  obtain ⟨once, -, own⟩ := one_process_per_plugin inputs "p" (by decide +kernel)
  have spawning : supervisor.spawning .monitor = some ⟨⟨"p", .always, 3, false⟩, 1, .automatic 1, .ready 2⟩ := by
    decide +kernel
  have second : supervisor.Supervised "p" 2 := ⟨⟨"p", .live, false, false⟩, by decide +kernel, rfl, rfl, rfl⟩
  refine ⟨by decide +kernel, spawning, fun epoch supervised => once epoch 2 supervised second, ?_⟩
  intro entry held
  exact own .monitor _ 2 1 entry spawning rfl rfl rfl held

/-- Two calls of `spawn_plugin` pass the check before either inserts its entry. Both processes
live on, and the entry is that of the second. -/
theorem two_starts_two_processes :
    let config : PluginConfig := ⟨"p", .always, 3, false⟩
    let supervisor := machine.run ([.spawnPlugin config, .spawnPlugin config] ++ launch (.api 0) ++ launch (.api 1))
    supervisor.processes.get 1 = some ⟨"p", .live, true, false⟩ ∧
    supervisor.processes.get 2 = some ⟨"p", .live, true, false⟩ ∧
    supervisor.entries.get "p" = some ⟨config, 0, 2⟩ ∧ supervisor.inFlight "p" = false := by
  decide +kernel

end Supervisor
end Vynkor
