import Vynkor.Chronicle
import Vynkor.Proofs.SupervisorFates

/-! The restart counts that the monitor loop announces. Each restart counts one more, so a
plugin's announcements go up, until a call of `spawn_plugin` begins again at zero. -/

namespace Vynkor
open Lib

def Announced (published : List Publication) (pluginId : String) (count : UInt32) : Prop :=
  ∃ willRestart, .died pluginId count willRestart ∈ published

theorem Announced.append {first last : List Publication} {pluginId : String} {count : UInt32}
    (announced : Announced (first ++ last) pluginId count) : Announced first pluginId count ∨ Announced last pluginId count := by
  obtain ⟨willRestart, member⟩ := announced
  exact (List.mem_append.mp member).imp (⟨willRestart, ·⟩) (⟨willRestart, ·⟩)

namespace Supervisor

/-- The monitor loop announces the exit of a registered instance. -/
structure Announces (supervisor after : Supervisor) (event : ExitEvent) (entry : SupervisorEntry) : Prop where
  handles : supervisor.Handles after event
  held : supervisor.entries.get event.pluginId = some entry
  current : entry.epoch = event.epoch
  handled : ∀ process, after.processes.get event.epoch = some process → process.phase.isHandled = true

section
variable {supervisor after : Supervisor} {input : SupervisorInput}

private theorem announcements_same (same : after.log = supervisor.log) : supervisor.announcements after = [] := by
  unfold announcements
  rw [same, List.drop_length]
  rfl

private theorem announcements_append {happenings : List Happening} (log : after.log = supervisor.log ++ happenings) :
    supervisor.announcements after = happenings.filterMap Happening.announced? := by
  unfold announcements
  rw [log, List.drop_left]

private theorem takeEvent_handled {event : ExitEvent} {events : List ExitEvent} {process : Process}
    (there : (supervisor.takeEvent event events).processes.get event.epoch = some process) :
    process.phase.isHandled = true := by
  obtain ⟨old, -, rfl⟩ := DashMap.modify_some there
  rfl

theorem Turns.announces (turns : supervisor.Turns input after) : supervisor.announcements after = [] ∨
    ∃ event entry willRestart, input = .decideExit ∧ supervisor.Announces after event entry ∧
      supervisor.announcements after = [.died event.pluginId entry.restartCount willRestart] := by
  cases turns with
  | scheduled event events entry forced idle next held current flag wanted =>
    refine .inr ⟨event, entry, true, rfl, ?_, (announcements_append rfl).trans rfl⟩
    refine ⟨⟨idle, ⟨events, next⟩, ⟨entry, held, current⟩, rfl, rfl⟩, held, current, ?_⟩
    exact fun process there => @takeEvent_handled supervisor event events process there
  | given event events entry idle next held current unforced =>
    refine .inr ⟨event, entry, false, rfl, ?_, (announcements_append rfl).trans rfl⟩
    refine ⟨⟨idle, ⟨events, next⟩, ⟨entry, held, current⟩, rfl, rfl⟩, held, current, ?_⟩
    exact fun process there => @takeEvent_handled supervisor event events process there
  | created => exact .inl ((announcements_append rfl).trans rfl)
  | inserted =>
    refine .inl ((announcements_append rfl).trans ?_)
    rw [List.filterMap_cons_none rfl]
    split <;> rfl
  | _ => exact .inl (announcements_same rfl)

end

/-- Whatever may still be announced has a count that is not announced yet. -/
structure Counting (supervisor : Supervisor) (published : List Publication) : Prop where
  entry : ∀ id entry process count, supervisor.entries.get id = some entry →
    supervisor.processes.get entry.epoch = some process → process.phase.isHandled = false →
    Announced published id count → count < entry.restartCount
  backoff : ∀ event config newCount forced count, supervisor.monitor = .backoff event config newCount forced →
    Announced published config.pluginId count → count < newCount
  respawn : ∀ spawn count, supervisor.spawning .monitor = some spawn →
    Announced published spawn.config.pluginId count → count < spawn.restartCount

theorem Counting.initial (published : List Publication) : Counting {} published where
  entry id entry process count held := by cases (DashMap.get_empty id).symm.trans held
  backoff event config newCount forced count waits := by cases waits
  respawn spawn count found := by cases found

theorem Counting.mono {supervisor : Supervisor} {published more : List Publication} (counting : supervisor.Counting published)
    (same : ∀ pluginId count, Announced more pluginId count → Announced published pluginId count) :
    supervisor.Counting more where
  entry id entry process count held there unhandled announced :=
    counting.entry id entry process count held there unhandled (same id count announced)
  backoff event config newCount forced count waits announced :=
    counting.backoff event config newCount forced count waits (same _ count announced)
  respawn spawn count found announced := counting.respawn spawn count found (same _ count announced)

theorem Turns.quiet {supervisor after : Supervisor} {input : SupervisorInput} (turns : supervisor.Turns input after)
    (busy : supervisor.monitor ≠ .idle) : supervisor.announcements after = [] := by
  rcases turns.announces with silent | ⟨event, entry, willRestart, -, announces, -⟩
  · exact silent
  · exact absurd announces.handles.idle busy

theorem Turns.announced {supervisor after : Supervisor} {input : SupervisorInput} (turns : supervisor.Turns input after)
    {id : String} {count : UInt32} (announced : Announced (supervisor.announcements after) id count) :
    ∃ event entry, supervisor.Announces after event entry ∧ event.pluginId = id ∧ entry.restartCount = count := by
  obtain ⟨willRestart, member⟩ := announced
  rcases turns.announces with silent | ⟨event, entry, decided, -, announces, said⟩
  · rw [silent] at member
    cases member
  · rw [said] at member
    cases List.mem_singleton.mp member
    exact ⟨event, entry, announces, rfl, rfl⟩

private theorem lt_succ {count bound : UInt32} (room : bound.toNat + 1 < UInt32.size) (most : count.toNat ≤ bound.toNat) :
    count < bound + 1 := by
  have one : (1 : UInt32).toNat = 1 := rfl
  rw [UInt32.lt_iff_toNat_lt, UInt32.toNat_add, one, Nat.mod_eq_of_lt room]
  exact Nat.lt_succ_of_le most

namespace Counting
variable {supervisor after : Supervisor} {input : SupervisorInput} {published : List Publication}
  (counting : supervisor.Counting published) (valid : supervisor.Valid)
include counting valid

theorem pending {event : ExitEvent} {events : List ExitEvent} {entry : SupervisorEntry} {count : UInt32}
    (next : supervisor.events = event :: events) (held : supervisor.entries.get event.pluginId = some entry)
    (current : entry.epoch = event.epoch) (announced : Announced published event.pluginId count) :
    count < entry.restartCount := by
  have first : event ∈ supervisor.events := next ▸ List.mem_cons_self
  obtain ⟨process, there, -, -, reported⟩ := valid.queue event first
  refine counting.entry _ entry process count held (current ▸ there) ?_ announced
  rw [reported]
  rfl

theorem fresh {event : ExitEvent} {entry : SupervisorEntry} (announces : supervisor.Announces after event entry) :
    ¬Announced published event.pluginId entry.restartCount := by
  intro announced
  obtain ⟨events, next⟩ := announces.handles.next
  exact absurd (counting.pending valid next announces.held announces.current announced) (UInt32.lt_irrefl _)

private theorem step_entry (turns : supervisor.Turns input after)
    (anew : ∀ call spawn, input = .insert (.api call) → supervisor.spawns.get call = some spawn →
      ∀ count, ¬Announced published spawn.config.pluginId count)
    {id : String} {entry : SupervisorEntry} {process : Process} {count : UInt32} (held : after.entries.get id = some entry)
    (there : after.processes.get entry.epoch = some process) (unhandled : process.phase.isHandled = false)
    (announced : Announced (published ++ supervisor.announcements after) id count) : count < entry.restartCount := by
  cases turns.entry id with
  | same same =>
    have before := same.symm.trans held
    obtain ⟨-, old, root, -⟩ := valid.entry id entry before
    obtain ⟨new, now, becomes⟩ := (turns.fate valid entry.epoch).becomes root
    cases now.symm.trans there
    have waiting : old.phase.isHandled = false :=
      Bool.eq_false_iff.mpr fun handled => Bool.eq_false_iff.mp unhandled (becomes.isHandled handled)
    rcases announced.append with earlier | new
    · exact counting.entry id entry old count before root waiting earlier
    · -- the instance that is announced is handled in this very step
      obtain ⟨event, other, announces, rfl, -⟩ := turns.announced new
      cases announces.held.symm.trans before
      rw [announces.handled process (announces.current ▸ there)] at unhandled
      cases unhandled
  | inserted caller spawn epoch origin found stage mine entered returned =>
    cases entered.symm.trans held
    have silent : supervisor.announcements after = [] := by
      rcases turns.announces with silent | ⟨-, -, -, other, -⟩
      · exact silent
      · cases origin.symm.trans other
    rw [silent, List.append_nil, ← mine] at announced
    cases caller with
    | api call => exact absurd announced (anew call spawn origin found count)
    | monitor => exact counting.respawn spawn count found announced
  | stopped other origin before gone marked | retired event origin monitor mine gone => cases gone.symm.trans held

private theorem step_backoff (turns : supervisor.Turns input after)
    (room : ∀ event events entry, input = .decideExit → supervisor.events = event :: events →
      supervisor.entries.get event.pluginId = some entry → entry.restartCount.toNat + 1 < UInt32.size)
    {event : ExitEvent} {config : PluginConfig} {newCount count : UInt32} {forced : Bool}
    (waits : after.monitor = .backoff event config newCount forced)
    (announced : Announced (published ++ supervisor.announcements after) config.pluginId count) : count < newCount := by
  rcases turns.backoff waits with before | ⟨entry, held, rfl, -, rfl, handles, current, origin⟩
  · rw [turns.quiet (ne_of_eq_of_ne before nofun), List.append_nil] at announced
    exact counting.backoff event config newCount forced count before announced
  · obtain ⟨events, next⟩ := handles.next
    rw [(valid.entry event.pluginId entry held).1] at announced
    have bound := room event events entry origin next held
    rcases announced.append with earlier | new
    · have less := counting.pending valid next held current earlier
      exact lt_succ bound (UInt32.le_of_lt less)
    · obtain ⟨other, same, announces, mine, rfl⟩ := turns.announced new
      cases (mine ▸ announces.held).symm.trans held
      exact lt_succ bound (Nat.le_refl _)

private theorem step_respawn (turns : supervisor.Turns input after) {spawn : Spawn} {count : UInt32}
    (found : after.spawning .monitor = some spawn)
    (announced : Announced (published ++ supervisor.announcements after) spawn.config.pluginId count) :
    count < spawn.restartCount := by
  have busy : supervisor.monitor ≠ .idle ∧ (Announced published spawn.config.pluginId count → count < spawn.restartCount) := by
    rcases (turns.call valid.toRooted .monitor).continues found with ⟨old, before, continues⟩ | ⟨-, starts⟩
    · obtain ⟨event, monitor⟩ := monitor_of_spawning before
      refine ⟨ne_of_eq_of_ne monitor nofun, ?_⟩
      rw [continues.config, continues.restartCount]
      exact counting.respawn old count before
    · cases starts with
      | automatic event config newCount forced cause monitor because unstopped =>
        exact ⟨ne_of_eq_of_ne monitor nofun, counting.backoff event config newCount forced count monitor⟩
  rw [turns.quiet busy.1, List.append_nil] at announced
  exact busy.2 announced

theorem step (turns : supervisor.Turns input after)
    (anew : ∀ call spawn, input = .insert (.api call) → supervisor.spawns.get call = some spawn →
      ∀ count, ¬Announced published spawn.config.pluginId count)
    (room : ∀ event events entry, input = .decideExit → supervisor.events = event :: events →
      supervisor.entries.get event.pluginId = some entry → entry.restartCount.toNat + 1 < UInt32.size) :
    after.Counting (published ++ supervisor.announcements after) where
  entry _ _ _ _ held there unhandled announced := counting.step_entry valid turns anew held there unhandled announced
  backoff _ _ _ _ _ waits announced := counting.step_backoff valid turns room waits announced
  respawn _ _ found announced := counting.step_respawn valid turns found announced

end Counting

end Supervisor
end Vynkor
