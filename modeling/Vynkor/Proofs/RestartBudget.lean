import Vynkor.Proofs.SupervisorFates

/-! The restart budget. Forced and automatic restarts share one counter, which goes from entry
to entry; the processes that automatic restarts have created since the last start are never
more than the counter of the registered instance, and one more while a restart is about to
replace it. -/

namespace Vynkor
open Lib

/-- Whether the policy asks for a restart after such an exit, whatever the counter. -/
def RestartPolicy.asks : RestartPolicy → Bool → Bool
  | .never, _ => false
  | .always, _ => true
  | .onFailure, success => !success

structure PluginConfig.Follows (config : PluginConfig) (policy : RestartPolicy) (max : UInt32) : Prop where
  policy : config.restartPolicy = policy
  max : config.maxRestarts = max

private theorem SupervisorEntry.restarts_iff {entry : SupervisorEntry} {success : Bool} : entry.restarts success = true ↔
    entry.config.restartPolicy.asks success = true ∧ entry.restartCount < entry.config.maxRestarts := by
  unfold SupervisorEntry.restarts
  cases entry.config.restartPolicy with
  | never | always | onFailure => simp [RestartPolicy.asks]

def Cause.isAutomatic : Cause → Bool
  | .automatic _ => true
  | _ => false

def SpawnStage.hasProcess : SpawnStage → Bool
  | .created _ | .ready _ => true
  | _ => false

/-- The restart that the monitor loop is about to make. -/
structure Plan where
  pluginId : String
  newCount : UInt32
  automatic : Bool
  created : Bool

def Spawn.plan (spawn : Spawn) : Plan :=
  ⟨spawn.config.pluginId, spawn.restartCount, spawn.cause.isAutomatic, spawn.stage.hasProcess⟩

def Monitor.plan : Monitor → Option Plan
  | .backoff _ config newCount forced => some ⟨config.pluginId, newCount, !forced, false⟩
  | .respawn _ spawn => some spawn.plan
  | _ => none

/-- The process that an automatic restart has yet to create. -/
def Plan.owes (plan : Plan) : Nat := if plan.automatic && !plan.created then 1 else 0

/-- The processes of automatic restarts since the last start of the plugin, after one more
happening. -/
def Happening.respawns (id : String) (count : Nat) : Happening → Nat
  | .created _ pluginId cause => if pluginId = id ∧ cause.isAutomatic then count + 1 else count
  | .started pluginId => if pluginId = id then 0 else count
  | _ => count

namespace Supervisor

def respawns (supervisor : Supervisor) (id : String) : Nat := supervisor.log.foldl (Happening.respawns id) 0

/-- A respawn fails after its process was created only when no other instance is registered,
and a forced restart does not take the counter past its end. -/
def frugal (id : String) (supervisor : Supervisor) : SupervisorInput → Bool
  | .shim .monitor .exited | .shim .monitor .timedOut =>
    match supervisor.monitor with
    | .respawn event _ => event.pluginId != id || (supervisor.entries.get id).all fun entry => entry.epoch == event.epoch
    | _ => true
  | .decideExit => supervisor.events.head?.all fun event => event.pluginId != id ||
      !supervisor.forcedRestarts.containsKey id || (supervisor.entries.get id).all fun entry => entry.restartCount + 1 != 0
  | _ => true

/-- What was configured for the plugin, and that automatic restarts are those it asks for. -/
structure Lawful (supervisor : Supervisor) (id : String) (policy : RestartPolicy) (max : UInt32) : Prop where
  entry : ∀ entry, supervisor.entries.get id = some entry → entry.config.Follows policy max
  call : ∀ caller spawn, supervisor.spawning caller = some spawn → spawn.config.pluginId = id → spawn.config.Follows policy max
  backoff : ∀ event config newCount forced, supervisor.monitor = .backoff event config newCount forced →
    config.pluginId = id → config.Follows policy max ∧ (forced = false → policy.asks event.success = true)
  respawn : ∀ event spawn, supervisor.monitor = .respawn event spawn → spawn.config.pluginId = id →
    spawn.cause.isAutomatic = true → policy.asks event.success = true
  justified : ∀ number epoch, .created number id (.automatic epoch) ∈ supervisor.log →
    supervisor.processes.Has epoch fun process =>
      process.pluginId = id ∧ ∃ success, process.phase = .handled success ∧ policy.asks success = true

/-- The count against the counter of the registered instance, and of the restart under way. -/
structure Budget (supervisor : Supervisor) (id : String) (max : UInt32) : Prop where
  within : supervisor.respawns id ≤ max.toNat
  counted : ∀ entry, supervisor.entries.get id = some entry →
    (supervisor.processes.Has entry.epoch fun process => process.phase.isHandled = false) →
    supervisor.respawns id ≤ entry.restartCount.toNat ∨
      supervisor.respawns id ≤ entry.restartCount.toNat + 1 ∧
      ∃ plan, supervisor.monitor.plan = some plan ∧ plan.pluginId = id ∧ plan.created = true
  planned : ∀ plan, supervisor.monitor.plan = some plan → plan.pluginId = id →
    supervisor.respawns id + plan.owes ≤ plan.newCount.toNat ∧ (plan.automatic = true → plan.newCount.toNat ≤ max.toNat)

section
variable {supervisor after : Supervisor} {input : SupervisorInput} {id : String} {caller : Caller} {old spawn : Spawn}

private theorem proceed_plan (found : supervisor.spawning caller = some old) :
    (supervisor.proceed caller spawn).monitor.plan = if caller = .monitor then some spawn.plan else supervisor.monitor.plan := by
  cases caller with
  | monitor =>
    obtain ⟨event, monitor⟩ := monitor_of_spawning found
    simp [proceed, monitor, Monitor.plan]
  | api call => simp [proceed]

private theorem settle_plan : (supervisor.settle caller).monitor.plan = if caller = .monitor then none else supervisor.monitor.plan := by
  cases caller with
  | monitor => rfl
  | api call => simp [settle]

private theorem plan_of_spawning (found : supervisor.spawning .monitor = some spawn) : supervisor.monitor.plan = some spawn.plan := by
  obtain ⟨event, monitor⟩ := monitor_of_spawning found
  rw [monitor]
  rfl

private theorem proceed_same_plan (found : supervisor.spawning caller = some old) (same : spawn.plan = old.plan) :
    (supervisor.proceed caller spawn).monitor.plan = supervisor.monitor.plan := by
  rw [proceed_plan found]
  split
  next here =>
    subst here
    rw [plan_of_spawning found, same]
  · rfl

private theorem respawns_createProcess (epoch : Nat) : (supervisor.createProcess spawn epoch).respawns id =
    if spawn.config.pluginId = id ∧ spawn.cause.isAutomatic then supervisor.respawns id + 1 else supervisor.respawns id := by
  simp only [respawns, createProcess, List.foldl_append, List.foldl_cons, List.foldl_nil, Happening.respawns]

private theorem respawns_insertEntry (epoch : Nat) : (supervisor.insertEntry spawn epoch).respawns id =
    if spawn.config.pluginId = id ∧ spawn.cause = .manual then 0 else supervisor.respawns id := by
  simp only [respawns, insertEntry, List.foldl_append, List.foldl_cons, Happening.respawns]
  by_cases manual : spawn.cause = .manual
  · simp [manual, Happening.respawns]
  · simp [manual]

private theorem respawns_died {died : String} {count : UInt32} {restarts : Bool}
    (log : after.log = supervisor.log ++ [.died died count restarts]) : after.respawns id = supervisor.respawns id := by
  simp only [respawns, log, List.foldl_append, List.foldl_cons, List.foldl_nil, Happening.respawns]

private theorem Turns.still_unhandled (turns : supervisor.Turns input after) (valid : supervisor.Valid) {epoch : Nat} {process : Process}
    (held : supervisor.processes.get epoch = some process)
    (unhandled : after.processes.Has epoch fun process => process.phase.isHandled = false) :
    supervisor.processes.Has epoch fun process => process.phase.isHandled = false := by
  refine ⟨process, held, Bool.eq_false_iff.mpr fun handled => ?_⟩
  obtain ⟨new, there, becomes⟩ := (turns.fate valid epoch).becomes held
  obtain ⟨other, here, still⟩ := unhandled
  cases there.symm.trans here
  cases (becomes.isHandled handled).symm.trans still

section
variable {max : UInt32} (budget : supervisor.Budget id max) (valid : supervisor.Valid)
include budget valid

/-- A step that counts nothing, makes no plan, registers nothing, and ends a plan with a
process only when the registered instance is the one it was to replace. -/
theorem Budget.keep (turns : supervisor.Turns input after) (respawns : after.respawns id = supervisor.respawns id)
    (plans : ∀ plan, after.monitor.plan = some plan → plan.pluginId = id → supervisor.monitor.plan = some plan)
    (entries : ∀ entry, after.entries.get id = some entry → supervisor.entries.get id = some entry)
    (ends : ∀ plan entry, supervisor.monitor.plan = some plan → plan.pluginId = id → plan.created = true →
      supervisor.entries.get id = some entry →
      (supervisor.processes.Has entry.epoch fun process => process.phase.isHandled = false) →
      after.monitor.plan = some plan) : after.Budget id max where
  within := respawns ▸ budget.within
  counted := by
    intro entry held unhandled
    rw [respawns]
    have before := entries entry held
    obtain ⟨-, process, there, -⟩ := valid.entry id entry before
    have earlier := turns.still_unhandled valid there unhandled
    rcases budget.counted entry before earlier with enough | ⟨nearly, plan, planned, mine, created⟩
    · exact .inl enough
    · exact .inr ⟨nearly, plan, ends plan entry planned mine created before earlier, mine, created⟩
  planned := by
    intro plan planned mine
    rw [respawns]
    exact budget.planned plan (plans plan planned mine) mine

theorem Budget.created (turns : supervisor.Turns input after) {epoch : Nat} (found : supervisor.spawning .monitor = some spawn)
    (stage : spawn.stage = .numbered epoch) (mine : spawn.config.pluginId = id)
    (respawns : after.respawns id = supervisor.respawns id + spawn.plan.owes)
    (plan : after.monitor.plan = some { spawn.plan with created := true }) (entries : after.entries = supervisor.entries) :
    after.Budget id max := by
  have before := plan_of_spawning found
  obtain ⟨enough, bounded⟩ := budget.planned spawn.plan before mine
  have uncreated : spawn.plan.created = false := by simp [Spawn.plan, stage, SpawnStage.hasProcess]
  have one : spawn.plan.owes ≤ 1 := by
    unfold Plan.owes
    split
    · exact Nat.le_refl 1
    · exact Nat.zero_le 1
  refine ⟨?_, fun entry held unhandled => ?_, fun other planned _ => ?_⟩
  · rw [respawns]
    cases automatic : spawn.plan.automatic with
    | true => exact Nat.le_trans enough (bounded automatic)
    | false =>
      have none : spawn.plan.owes = 0 := by simp [Plan.owes, automatic]
      rw [none]
      exact budget.within
  · rw [entries] at held
    obtain ⟨-, process, there, -⟩ := valid.entry id entry held
    rcases budget.counted entry held (turns.still_unhandled valid there unhandled) with few | ⟨-, other, same, -, created⟩
    · right
      refine ⟨by omega, _, plan, mine, rfl⟩
    · cases before.symm.trans same
      cases uncreated.symm.trans created
  · cases plan.symm.trans planned
    refine ⟨?_, bounded⟩
    have none : Plan.owes { spawn.plan with created := true } = 0 := by simp [Plan.owes]
    rw [respawns, none]
    exact enough

/-- A start of the plugin counts from zero; a restart has the counter that was planned. -/
theorem Budget.inserted {epoch : Nat} (found : supervisor.spawning caller = some spawn) (mine : spawn.config.pluginId = id) :
    ((supervisor.insertEntry spawn epoch).settle caller).Budget id max := by
  have respawns : ((supervisor.insertEntry spawn epoch).settle caller).respawns id = _ := respawns_insertEntry epoch
  have plan := @settle_plan (supervisor.insertEntry spawn epoch) caller
  have entered : ((supervisor.insertEntry spawn epoch).settle caller).entries.get id =
      some ⟨spawn.config, spawn.restartCount, epoch⟩ := (DashMap.get_insert ..).trans (if_pos mine.symm)
  cases caller with
  | monitor =>
    rw [if_pos rfl] at plan
    have planned := budget.planned spawn.plan (plan_of_spawning found) mine
    have unasked : spawn.cause ≠ .manual := by
      obtain ⟨event, -, -, replaces⟩ := valid.respawning found
      intro manual
      rw [manual] at replaces
      cases replaces
    rw [if_neg fun both => unasked both.2] at respawns
    refine ⟨respawns ▸ budget.within, fun entry held _ => ?_, fun other same _ => ?_⟩
    · cases entered.symm.trans held
      left
      rw [respawns]
      exact Nat.le_trans (Nat.le_add_right ..) planned.1
    · cases plan.symm.trans same
  | api call =>
    rw [if_neg (by simp)] at plan
    rw [if_pos ⟨mine, (valid.manual call spawn found).2⟩] at respawns
    refine ⟨respawns ▸ Nat.zero_le _, fun entry held _ => ?_, fun other same its => ?_⟩
    · left
      rw [respawns]
      exact Nat.zero_le _
    · obtain ⟨enough, bounded⟩ := budget.planned other (plan.symm.trans same) its
      refine ⟨?_, bounded⟩
      rw [respawns]
      omega

end

private theorem toNat_succ {count : UInt32} (further : count + 1 ≠ 0) : (count + 1).toNat = count.toNat + 1 := by
  have bound := count.toNat_lt
  rw [UInt32.toNat_add]
  refine Nat.mod_eq_of_lt ?_
  by_contra full
  apply further
  apply UInt32.toNat_inj.mp
  rw [UInt32.toNat_add]
  have last : count.toNat + UInt32.toNat 1 = 2 ^ 32 := by
    have one : UInt32.toNat 1 = 1 := rfl
    omega
  rw [last]
  rfl

private theorem toNat_succ_of_lt {count max : UInt32} (below : count < max) : (count + 1).toNat = count.toNat + 1 := by
  apply toNat_succ
  intro zero
  have bound := max.toNat_lt
  have less := UInt32.lt_iff_toNat_lt.mp below
  have wrapped := congrArg UInt32.toNat zero
  rw [UInt32.toNat_add] at wrapped
  have one : UInt32.toNat 1 = 1 := rfl
  have none : UInt32.toNat 0 = 0 := rfl
  omega

private theorem Turns.created_log (turns : supervisor.Turns input after) {number : Nat} {pluginId : String} {cause : Cause}
    (member : .created number pluginId cause ∈ after.log) :
    .created number pluginId cause ∈ supervisor.log ∨
      ∃ caller spawn, supervisor.spawning caller = some spawn ∧ spawn.config.pluginId = pluginId ∧ spawn.cause = cause := by
  cases turns with
  | created caller spawn epoch later found stage next =>
    rcases List.mem_append.mp member with before | new
    · exact .inl before
    · cases List.mem_singleton.mp new
      exact .inr ⟨caller, spawn, found, rfl, rfl⟩
  | inserted =>
    rcases List.mem_append.mp member with before | new
    · exact .inl before
    · split at new <;> simp at new
  | scheduled | given =>
    rcases List.mem_append.mp member with before | new
    · exact .inl before
    · simp at new
  | _ => exact .inl member

private theorem Lawful.turns_respawn {policy : RestartPolicy} {max : UInt32} (lawful : supervisor.Lawful id policy max)
    (valid : supervisor.Valid) (turns : supervisor.Turns input after) {event : ExitEvent}
    (monitor : after.monitor = .respawn event spawn) (mine : spawn.config.pluginId = id)
    (automatic : spawn.cause.isAutomatic = true) : policy.asks event.success = true := by
  have found : after.spawning .monitor = some spawn := by simp [spawning, monitor]
  have same {other : ExitEvent} (before : supervisor.monitor.event = some other) : other = event := by
    rcases turns.busy (show after.monitor.event = some event by rw [monitor]; rfl) with busy | handles
    · exact Option.some.inj (before.symm.trans busy)
    · rw [handles.idle] at before
      cases before
  rcases (turns.call valid.toRooted .monitor).continues found with ⟨old, before, continues⟩ | ⟨-, starts⟩
  · obtain ⟨other, there⟩ := monitor_of_spawning before
    cases same (show supervisor.monitor.event = some other by rw [there]; rfl)
    exact lawful.respawn event old there (continues.config ▸ mine) (continues.cause ▸ automatic)
  · cases starts with
    | automatic other config newCount forced cause there because unstopped =>
      cases same (show supervisor.monitor.event = some other by rw [there]; rfl)
      refine (lawful.backoff event config newCount forced there mine).2 ?_
      cases forced with
      | false => rfl
      | true =>
        rw [because] at automatic
        cases automatic

theorem Lawful.turns {policy : RestartPolicy} {max : UInt32} (lawful : supervisor.Lawful id policy max)
    (valid : supervisor.Valid) (turns : supervisor.Turns input after)
    (fixed : ∀ config, input = .spawnPlugin config → config.pluginId = id → config.Follows policy max) :
    after.Lawful id policy max where
  entry := by
    intro entry held
    cases turns.entry id with
    | same same => exact lawful.entry entry (same.symm.trans held)
    | inserted caller spawn epoch origin found stage mine there returned =>
      cases there.symm.trans held
      exact lawful.call caller spawn found mine
    | stopped other origin before gone marked | retired event origin monitor mine gone => cases gone.symm.trans held
  call := by
    intro caller spawn found mine
    rcases (turns.call valid.toRooted caller).continues found with ⟨old, before, continues⟩ | ⟨-, starts⟩
    · rw [continues.config] at mine ⊢
      exact lawful.call caller old before mine
    · cases starts with
      | manual config free => exact fixed config rfl mine
      | automatic event config newCount forced cause monitor because unstopped =>
        exact (lawful.backoff event config newCount forced monitor mine).1
  backoff := by
    intro event config newCount forced monitor mine
    rcases turns.backoff monitor with before | ⟨entry, held, rfl, wanted, -⟩
    · exact lawful.backoff event config newCount forced before mine
    · rw [← (valid.entry _ entry held).1, mine] at held
      have follows := lawful.entry entry held
      refine ⟨follows, ?_⟩
      rintro rfl
      rw [← follows.policy]
      exact (SupervisorEntry.restarts_iff.mp wanted).1
  respawn _ _ monitor mine automatic := lawful.turns_respawn valid turns monitor mine automatic
  justified := by
    intro number epoch member
    have before : supervisor.processes.Has epoch fun process =>
        process.pluginId = id ∧ ∃ success, process.phase = .handled success ∧ policy.asks success = true := by
      rcases turns.created_log member with old | ⟨caller, spawn, found, mine, cause⟩
      · exact lawful.justified number epoch old
      · have replaces : spawn.cause.replaceEpoch = some epoch := by rw [cause]; rfl
        obtain ⟨event, monitor, rfl⟩ := valid.replacing found replaces
        have found : supervisor.spawning .monitor = some spawn := by simp [spawning, monitor]
        obtain ⟨process, there, own, -, phase⟩ := valid.busy event (by rw [monitor]; rfl)
        obtain ⟨same, again, its, -⟩ := valid.respawning found
        cases monitor.symm.trans again
        refine ⟨process, there, own.trans (its.symm.trans mine), _, phase, ?_⟩
        exact lawful.respawn event spawn monitor mine (by rw [cause]; rfl)
    obtain ⟨process, held, own, success, phase, asked⟩ := before
    obtain ⟨new, there, becomes⟩ := (turns.fate valid epoch).becomes held
    exact ⟨new, there, becomes.pluginId.trans own, success, becomes.handled success phase, asked⟩

private theorem Budget.idle_counted {max : UInt32} (budget : supervisor.Budget id max) (idle : supervisor.monitor = .idle)
    {entry : SupervisorEntry} (held : supervisor.entries.get id = some entry)
    (unhandled : supervisor.processes.Has entry.epoch fun process => process.phase.isHandled = false) :
    supervisor.respawns id ≤ entry.restartCount.toNat := by
  rcases budget.counted entry held unhandled with few | ⟨-, plan, planned, -⟩
  · exact few
  · rw [idle] at planned
    cases planned

theorem Budget.scheduled {policy : RestartPolicy} {max : UInt32} (budget : supervisor.Budget id max) (valid : supervisor.Valid)
    (lawful : supervisor.Lawful id policy max) (turns : supervisor.Turns .decideExit after)
    (frugal : supervisor.frugal id .decideExit = true) {event : ExitEvent} {events : List ExitEvent}
    {entry : SupervisorEntry} {forced : Bool} (idle : supervisor.monitor = .idle) (next : supervisor.events = event :: events)
    (held : supervisor.entries.get event.pluginId = some entry) (current : entry.epoch = event.epoch)
    (flag : forced = supervisor.forcedRestarts.containsKey event.pluginId)
    (wanted : (forced || entry.restarts event.success) = true) (respawns : after.respawns id = supervisor.respawns id)
    (monitor : after.monitor = .backoff event entry.config (entry.restartCount + 1) forced)
    (entries : after.entries = supervisor.entries) : after.Budget id max where
  within := respawns ▸ budget.within
  counted := by
    intro other there unhandled
    rw [entries] at there
    obtain ⟨-, process, here, -⟩ := valid.entry id other there
    left
    rw [respawns]
    exact budget.idle_counted idle there (turns.still_unhandled valid here unhandled)
  planned := by
    intro plan planned mine
    rw [monitor] at planned
    cases planned
    obtain ⟨process, there, -, -, phase⟩ := valid.queue event (next ▸ List.mem_cons_self)
    have own : event.pluginId = id := (valid.entry _ entry held).1.symm.trans mine
    subst own
    have unhandled : process.phase.isHandled = false := by rw [phase]; rfl
    have few := budget.idle_counted idle held ⟨process, current ▸ there, unhandled⟩
    rw [respawns]
    cases forced with
    | true =>
      have further : entry.restartCount + 1 ≠ 0 := by
        simpa [Supervisor.frugal, next, held, ← flag] using frugal
      have succ := toNat_succ further
      refine ⟨?_, fun automatic => (by cases automatic)⟩
      simp only [Plan.owes, Bool.not_true, Bool.false_and, Bool.false_eq_true, if_false]
      omega
    | false =>
      have below := (SupervisorEntry.restarts_iff.mp wanted).2
      rw [(lawful.entry entry held).max] at below
      have succ := toNat_succ_of_lt below
      have less := UInt32.lt_iff_toNat_lt.mp below
      simp only [Plan.owes, Bool.not_false, Bool.true_and, if_true]
      omega

private theorem Valid.replaced_handled (valid : supervisor.Valid) {event : ExitEvent} (busy : supervisor.monitor.event = some event)
    {entry : SupervisorEntry} (same : entry.epoch = event.epoch)
    (unhandled : supervisor.processes.Has entry.epoch fun process => process.phase.isHandled = false) : False := by
  obtain ⟨process, there, -, -, phase⟩ := valid.busy event busy
  obtain ⟨other, here, still⟩ := unhandled
  rw [same] at here
  cases here.symm.trans there
  rw [phase] at still
  cases still

theorem Budget.settled {max : UInt32} (budget : supervisor.Budget id max) (valid : supervisor.Valid)
    (turns : supervisor.Turns input after) (respawns : after.respawns id = supervisor.respawns id)
    (found : supervisor.spawning caller = some spawn)
    (entries : ∀ entry, after.entries.get id = some entry → supervisor.entries.get id = some entry)
    (plan : after.monitor.plan = (supervisor.settle caller).monitor.plan)
    (vain : caller = .monitor → spawn.config.pluginId = id → spawn.stage.hasProcess = true →
      ∀ entry, supervisor.entries.get id = some entry →
        ¬ supervisor.processes.Has entry.epoch fun process => process.phase.isHandled = false) : after.Budget id max := by
  rw [settle_plan] at plan
  refine budget.keep valid turns respawns (fun other planned _ => ?_) entries ?_
  · rw [plan] at planned
    split at planned
    · cases planned
    · exact planned
  · intro other entry planned mine created held unhandled
    rw [plan]
    split
    next here =>
      subst here
      cases (plan_of_spawning found).symm.trans planned
      exact absurd unhandled (vain rfl mine created entry held)
    · exact planned

private theorem Valid.shim_vain (valid : supervisor.Valid) (found : supervisor.spawning .monitor = some spawn)
    (mine : spawn.config.pluginId = id)
    (frugal : supervisor.frugal id (.shim .monitor .exited) = true ∨ supervisor.frugal id (.shim .monitor .timedOut) = true)
    {entry : SupervisorEntry} (held : supervisor.entries.get id = some entry) :
    ¬ supervisor.processes.Has entry.epoch fun process => process.phase.isHandled = false := by
  intro unhandled
  obtain ⟨event, monitor, its, -⟩ := valid.respawning found
  have own : event.pluginId = id := its.symm.trans mine
  have same : entry.epoch = event.epoch := by
    rcases frugal with exited | timedOut
    · simpa [Supervisor.frugal, monitor, own, held] using exited
    · simpa [Supervisor.frugal, monitor, own, held] using timedOut
  exact valid.replaced_handled (by rw [monitor]; rfl) same unhandled

theorem Budget.turns {policy : RestartPolicy} {max : UInt32} (budget : supervisor.Budget id max) (valid : supervisor.Valid)
    (lawful : supervisor.Lawful id policy max) (turns : supervisor.Turns input after)
    (frugal : supervisor.frugal id input = true) : after.Budget id max := by
  have again := turns
  -- nothing is counted and the plan stays
  have same (respawns : after.respawns id = supervisor.respawns id) (plan : after.monitor.plan = supervisor.monitor.plan)
      (entries : ∀ entry, after.entries.get id = some entry → supervisor.entries.get id = some entry) : after.Budget id max := by
    refine budget.keep valid again respawns (fun _ planned _ => plan ▸ planned) entries ?_
    intro other entry planned mine created held unhandled
    exact plan.trans planned
  cases turns with
  | created caller spawn epoch later found stage next =>
    have respawns := @respawns_createProcess supervisor id spawn epoch
    have plan := @proceed_plan (supervisor.createProcess spawn epoch) caller spawn { spawn with stage := later } found
    cases caller with
    | api call =>
      refine same (respawns.trans (if_neg fun both => ?_)) (plan.trans (if_neg (by simp))) fun _ held => held
      rw [(valid.manual call spawn found).2] at both
      cases both.2
    | monitor =>
      have planned : Spawn.plan { spawn with stage := later } = { spawn.plan with created := true } := by
        rcases next with rfl | rfl <;> rfl
      rw [if_pos rfl, planned] at plan
      by_cases mine : spawn.config.pluginId = id
      · refine budget.created valid again found stage mine (respawns.trans ?_) plan rfl
        simp only [mine, true_and, Plan.owes, Spawn.plan, stage, SpawnStage.hasProcess, Bool.not_false, Bool.and_true]
        split <;> rfl
      · refine budget.keep valid again (respawns.trans (if_neg fun both => mine both.1)) ?_ (fun _ held => held) ?_
        · intro other there its
          cases plan.symm.trans there
          exact absurd its mine
        · intro other entry there its
          cases (plan_of_spawning found).symm.trans there
          exact absurd its mine
  | inserted caller spawn epoch found stage =>
    by_cases mine : spawn.config.pluginId = id
    · exact budget.inserted valid found mine
    · have respawns := @respawns_insertEntry supervisor id spawn epoch
      refine budget.settled valid again (respawns.trans (if_neg fun both => mine both.1)) found ?_ rfl fun _ its => absurd its mine
      intro entry held
      rcases DashMap.insert_cases held with ⟨same, -⟩ | ⟨-, before⟩
      · exact absurd same.symm mine
      · exact before
  | uncreated caller spawn epoch found stage =>
    refine budget.settled valid again rfl found (fun _ held => held) rfl fun _ _ created => ?_
    rw [stage] at created
    cases created
  | shimExited caller spawn epoch found stage =>
    refine budget.settled valid again rfl found (fun _ held => held) rfl ?_
    rintro rfl mine - entry held
    exact valid.shim_vain found mine (.inl frugal) held
  | shimTimedOut caller spawn epoch found stage =>
    refine budget.settled valid again rfl found (fun _ held => held) rfl ?_
    rintro rfl mine - entry held
    exact valid.shim_vain found mine (.inr frugal) held
  | scheduled event events entry forced idle next held current flag wanted =>
    exact budget.scheduled valid lawful again frugal idle next held current flag wanted (respawns_died rfl) rfl rfl
  | given event events entry idle next held current unforced =>
    refine same (respawns_died rfl) ?_ fun _ held => held
    rw [idle]
    rfl
  | retired event monitor =>
    refine same rfl ?_ fun _ held => (DashMap.remove_some.mp held).2
    rw [monitor]
    rfl
  | cancelled event config newCount forced monitor stopped =>
    refine budget.keep valid again rfl (fun _ planned _ => (by cases planned)) (fun _ held => held) ?_
    intro plan entry planned mine created
    rw [monitor] at planned
    cases planned
    cases created
  | respawned event config newCount forced cause monitor because unstopped =>
    refine same rfl ?_ fun _ held => held
    rw [monitor]
    cases forced with
    | true | false => rw [because]; rfl
  | numbered caller spawn found stage =>
    refine same rfl ?_ fun _ held => held
    refine @proceed_same_plan { supervisor with nextEpoch := _ } caller spawn _ found ?_
    simp [Spawn.plan, stage, SpawnStage.hasProcess]
  | shimReported caller spawn epoch found stage =>
    refine same rfl (proceed_same_plan found ?_) fun _ held => held
    simp [Spawn.plan, stage, SpawnStage.hasProcess]
  | stopped pluginId entry held => exact same rfl rfl fun _ held => (DashMap.remove_some.mp held).2
  | _ => exact same rfl rfl fun _ held => held

theorem Lawful.init {policy : RestartPolicy} {max : UInt32} : Lawful {} id policy max where
  entry entry held := by cases (DashMap.get_empty id).symm.trans held
  call caller spawn found := by
    cases caller with
    | monitor => cases found
    | api call => cases (DashMap.get_empty call).symm.trans found
  backoff _ _ _ _ monitor := by cases monitor
  respawn _ _ monitor := by cases monitor
  justified _ _ member := absurd member List.not_mem_nil

theorem Budget.init {max : UInt32} : Budget {} id max where
  within := Nat.zero_le _
  counted entry held := by cases (DashMap.get_empty id).symm.trans held
  planned _ planned := by cases planned

private theorem respawns_zero (log : List Happening) (none : ∀ number epoch, .created number id (.automatic epoch) ∉ log) :
    log.foldl (Happening.respawns id) 0 = 0 := by
  induction log with
  | nil => rfl
  | cons happening log ih =>
    have first : Happening.respawns id 0 happening = 0 := by
      cases happening with
      | created number pluginId cause =>
        cases cause with
        | automatic epoch =>
          have apart : pluginId ≠ id := by
            rintro rfl
            exact none number epoch List.mem_cons_self
          simp [Happening.respawns, apart]
        | manual | forced => simp [Happening.respawns, Cause.isAutomatic]
      | started pluginId => simp [Happening.respawns]
      | inserted | died => rfl
    rw [List.foldl_cons, first]
    exact ih fun number epoch member => none number epoch (List.mem_cons_of_mem _ member)

end

/-- The automatic restarts of a plugin since its last start are within its budget, there are
none under the policy `never`, and under `onFailure` each follows a failure. -/
theorem restart_budget_kept (inputs : List SupervisorInput) (id : String) (policy : RestartPolicy) (max : UInt32)
    (fixed : ∀ config, .spawnPlugin config ∈ inputs → config.pluginId = id → config.Follows policy max) :
    let supervisor := machine.run inputs
    (machine.Obeys (fun supervisor input => supervisor.frugal id input = true) machine.init inputs →
      supervisor.respawns id ≤ max.toNat) ∧
    (policy = .never → supervisor.respawns id = 0) ∧
    (policy = .onFailure → ∀ number epoch, .created number id (.automatic epoch) ∈ supervisor.log →
      supervisor.processes.Has epoch fun process => process.pluginId = id ∧ process.phase = .handled false) := by
  intro supervisor
  have configured : machine.Obeys (fun _ input => ∀ config, input = .spawnPlugin config → config.pluginId = id →
      config.Follows policy max) machine.init inputs := by
    apply Machine.obeys_of_forall
    intro input member config same
    exact fixed config (same ▸ member)
  have lawful : supervisor.Lawful id policy max :=
    run_keeps (fun supervisor => supervisor.Lawful id policy max) .init
      (fun valid guarded turns lawful => lawful.turns valid turns guarded) configured
  refine ⟨fun frugal => ?_, ?_, ?_⟩
  · have kept : supervisor.Lawful id policy max ∧ supervisor.Budget id max := by
      refine run_keeps (fun supervisor => supervisor.Lawful id policy max ∧ supervisor.Budget id max) ⟨.init, .init⟩ ?_
        (configured.and frugal)
      rintro before input after valid guarded turns ⟨lawful, budget⟩
      exact ⟨lawful.turns valid turns guarded.1, budget.turns valid lawful turns guarded.2⟩
    exact kept.2.within
  · rintro rfl
    apply respawns_zero
    intro number epoch member
    obtain ⟨process, -, -, success, -, asked⟩ := lawful.justified number epoch member
    cases asked
  · rintro rfl number epoch member
    refine (lawful.justified number epoch member).imp fun process restarted => ⟨restarted.1, ?_⟩
    obtain ⟨-, success, phase, asked⟩ := restarted
    cases success with
    | false => exact phase
    | true => cases asked

/-- A plugin with one restart, which it uses. -/
theorem one_restart_used :
    let inputs := starting ⟨"p", .onFailure, 1, false⟩ 0 ++ exiting 1 false ++ [.decideExit, .goOn] ++ launch .monitor ++
      exiting 2 false ++ [.decideExit, .goOn]
    let supervisor := machine.run inputs
    supervisor.respawns "p" = 1 ∧ supervisor.respawns "p" ≤ (1 : UInt32).toNat ∧
    supervisor.processes.Has 1 fun process => process.pluginId = "p" ∧ process.phase = .handled false := by
  intro inputs supervisor
  have fixed (config : PluginConfig) (member : .spawnPlugin config ∈ inputs) (_ : config.pluginId = "p") :
      config.Follows .onFailure 1 := by
    simp only [inputs, starting, launch, exiting, List.mem_append, List.mem_cons, List.not_mem_nil, or_false, reduceCtorEq,
      SupervisorInput.spawnPlugin.injEq] at member
    subst member
    exact ⟨rfl, rfl⟩
  obtain ⟨within, -, failed⟩ := restart_budget_kept inputs "p" .onFailure 1 fixed
  exact ⟨by decide +kernel, within (by decide +kernel), failed rfl 2 1 (by decide +kernel)⟩

/-- A restart that was decided for an older instance creates its process after a new start,
and its shim exits. The new instance still has its whole budget. -/
theorem budget_exceeded :
    let config : PluginConfig := ⟨"p", .always, 1, true⟩
    let sandboxed (caller : Caller) : List SupervisorInput :=
      [.number caller, .create caller true, .shim caller .pid, .insert caller]
    let start (call : Nat) : List SupervisorInput := .spawnPlugin config :: sandboxed (.api call)
    let supervisor := machine.run (start 0 ++ exiting 1 false ++ [.decideExit, .stopPlugin "p"] ++ start 1 ++
      [.stopPlugin "p"] ++ start 2 ++ [.goOn, .number .monitor, .create .monitor true, .shim .monitor .exited] ++
      exiting 3 false ++ [.decideExit, .goOn] ++ sandboxed .monitor)
    supervisor.respawns "p" = 2 ∧ config.maxRestarts = 1 := by
  decide +kernel

end Supervisor
end Vynkor
