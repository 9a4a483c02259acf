import Vynkor.Race
import Vynkor.Proofs.RegistryCalls

/-! The single operations of a removal and of a registration add up to the calls. What
is left of a call at one of its operations is the rest of the call made at once. -/

namespace Vynkor
open Lib

section Undisturbed
variable {Phase : Type} {next : Registry → Phase → Registry × Phase} {registry : Registry} {phase last : Phase}

/-- A task that no other disturbs, after so many operations. -/
def undisturbed (next : Registry → Phase → Registry × Phase) (count : Nat) (registry : Registry) (phase : Phase) :
    Registry × Phase :=
  (fun state => next state.1 state.2)^[count] (registry, phase)

/-- The task gets from here to its last operation. -/
def Halts (next : Registry → Phase → Registry × Phase) (registry : Registry) (phase last : Phase) : Prop :=
  ∃ count, (undisturbed next count registry phase).2 = last

theorem Halts.done : Halts next registry last last := ⟨0, rfl⟩

theorem Halts.step (later : Halts next (next registry phase).1 (next registry phase).2 last) : Halts next registry phase last := by
  obtain ⟨count, ended⟩ := later
  exact ⟨count + 1, ended⟩

private theorem undisturbed_finish {finish : Registry → Phase → Registry}
    (kept : ∀ registry phase, finish (next registry phase).1 (next registry phase).2 = finish registry phase) (count : Nat)
    (registry : Registry) (phase : Phase) :
    finish (undisturbed next count registry phase).1 (undisturbed next count registry phase).2 = finish registry phase := by
  induction count generalizing registry phase with
  | zero => rfl
  | succ count ih => exact (ih _ _).trans (kept registry phase)

theorem Halts.finished (halts : Halts next registry phase last) {finish : Registry → Phase → Registry}
    (kept : ∀ registry phase, finish (next registry phase).1 (next registry phase).2 = finish registry phase)
    (complete : ∀ registry, finish registry last = registry) :
    ∃ count, undisturbed next count registry phase = (finish registry phase, last) := by
  obtain ⟨count, ended⟩ := halts
  have reached := undisturbed_finish kept count registry phase
  rw [ended, complete] at reached
  exact ⟨count, Prod.ext reached ended⟩

end Undisturbed

namespace Removing
variable (contest : Contest) (shuffle : Shuffle String)

def evict (registry : Registry) : Registry :=
  (registry.takePendingActionsForProvider shuffle contest.pluginId).1

def withdraw (entry : PluginEntry) (actions : List String) (registry : Registry) : Registry :=
  let registry := { registry with toActionTable := registry.toActionTable.unindexActions actions contest.pluginId }
  evict contest shuffle (registry.markOffline entry.deviceId)

/-- The registry at the end of the removal if no other task comes between. -/
def finish (registry : Registry) : Removing → Registry
  | .start => (registry.unregisterConn shuffle contest.pluginId contest.oldConn).registry
  | .freeConn entry => (Registry.cleanUp shuffle registry entry contest.pluginId).1
  | .forgetPong entry => withdraw contest shuffle entry entry.manifest.actions
      { registry with pongTimes := registry.pongTimes.remove contest.pluginId }
  | .shrink entry action rest => withdraw contest shuffle entry (action :: rest) registry
  | .uncollide entry action only rest => withdraw contest shuffle entry rest { registry with
      ambiguousActions := registry.ambiguousActions.remove action
      actionIndex := registry.actionIndex.insert action only }
  | .restore entry action only rest => withdraw contest shuffle entry rest
      { registry with actionIndex := registry.actionIndex.insert action only }
  | .check entry action rest => withdraw contest shuffle entry rest
      { registry with toActionTable := registry.toActionTable.dropIndexed action contest.pluginId }
  | .unindex entry action rest => withdraw contest shuffle entry rest
      { registry with actionIndex := registry.actionIndex.remove action }
  | .scan entry => evict contest shuffle (registry.markOffline entry.deviceId)
  | .offline entry => evict contest shuffle { registry with
      devices := registry.devices.modify entry.deviceId fun device => { device with state := .offline } }
  | .collect => evict contest shuffle registry
  | .take key rest => { registry with pendingActions := (registry.pendingActions.takeAll (key :: rest)).1 }
  | .done _ => registry

private theorem finish_nextAction (registry : Registry) (entry : PluginEntry) (rest : List String) :
    finish contest shuffle registry (nextAction entry rest) = withdraw contest shuffle entry rest registry := by
  cases rest with
  | nil | cons => rfl

theorem finish_nextKey (registry : Registry) (keys : List String) :
    finish contest shuffle registry (nextKey keys) =
      { registry with pendingActions := (registry.pendingActions.takeAll keys).1 } := by
  cases keys with
  | nil | cons => rfl

private theorem withdraw_cons (registry : Registry) (entry : PluginEntry) (action : String) (rest : List String) :
    withdraw contest shuffle entry (action :: rest) registry = withdraw contest shuffle entry rest
      { registry with toActionTable := registry.toActionTable.unindexAction action contest.pluginId } := rfl

private theorem finish_shrink (registry : Registry) (entry : PluginEntry) (action : String) (rest : List String) :
    finish contest shuffle (step contest shuffle registry (.shrink entry action rest)).1
      (step contest shuffle registry (.shrink entry action rest)).2 =
      finish contest shuffle registry (.shrink entry action rest) := by
  refine Eq.trans ?_ (withdraw_cons contest shuffle registry entry action rest).symm
  cases found : registry.ambiguousActions.get action with
  | none => simp only [step, found, finish, ActionTable.unindexAction]
  | some ids =>
    simp only [step, found, ActionTable.unindexAction]
    generalize ids.filter (· != contest.pluginId) = remaining
    rcases remaining with _ | ⟨only, _ | ⟨second, more⟩⟩
    · rfl
    · simp only [finish, DashMap.remove_insert]
    · rfl

/-- An operation leaves the end of the removal where it was. -/
theorem finish_step (registry : Registry) (removing : Removing) :
    finish contest shuffle (step contest shuffle registry removing).1 (step contest shuffle registry removing).2 =
      finish contest shuffle registry removing := by
  cases removing with
  | start =>
    simp only [step, finish, Registry.unregisterConn, Registry.unregisterIf]
    cases registry.byPluginId.removeIf contest.pluginId fun entry => entry.connId == contest.oldConn with
    | mk left taken => cases taken <;> rfl
  | freeConn | uncollide | offline | done => rfl
  | forgetPong | restore | unindex => exact finish_nextAction ..
  | shrink => exact finish_shrink ..
  | check entry action rest =>
    by_cases held : registry.actionIndex.get action = some contest.pluginId
    · simp only [step, if_pos held, finish, ActionTable.dropIndexed]
    · simp only [step, if_neg held]
      rw [finish_nextAction]
      simp only [finish, ActionTable.dropIndexed, if_neg held]
  | scan entry =>
    cases still : registry.byPluginId.any fun other => other.deviceId == entry.deviceId <;>
      simp only [step, finish, Registry.markOffline, still] <;> rfl
  | collect => exact finish_nextKey ..
  | take key rest =>
    refine (finish_nextKey ..).trans ?_
    cases held : registry.pendingActions.get key with
    | none =>
      simp only [step, finish, Registry.takePendingAction, DashMap.takeAll, held, DashMap.remove_absent _ held]
    | some pending => simp only [step, finish, Registry.takePendingAction, DashMap.takeAll, held]

variable {contest shuffle}

private theorem halts_keys (keys : List String) (registry : Registry) :
    Halts (step contest shuffle) registry (nextKey keys) (.done true) := by
  induction keys generalizing registry with
  | nil => exact .done
  | cons key rest ih => exact .step (ih _)

private theorem halts_scan (registry : Registry) (entry : PluginEntry) :
    Halts (step contest shuffle) registry (.scan entry) (.done true) := by
  have collected (registry : Registry) : Halts (step contest shuffle) registry .collect (.done true) := .step (halts_keys _ _)
  refine .step ?_
  simp only [step]
  split
  · exact collected registry
  · exact .step (collected _)

private theorem halts_actions (entry : PluginEntry) (actions : List String) (registry : Registry) :
    Halts (step contest shuffle) registry (nextAction entry actions) (.done true) := by
  induction actions generalizing registry with
  | nil => exact halts_scan registry entry
  | cons action rest ih =>
    have checked (registry : Registry) : Halts (step contest shuffle) registry (.check entry action rest) (.done true) := by
      refine .step ?_
      simp only [step]
      split
      · exact .step (ih _)
      · exact ih registry
    change Halts (step contest shuffle) registry (.shrink entry action rest) (.done true)
    refine .step ?_
    cases found : registry.ambiguousActions.get action with
    | none => simpa only [step, found] using checked registry
    | some ids =>
      simp only [step, found]
      split
      · exact .step (.step (ih _))
      · exact checked _

/-- Undisturbed, the operations are the call. -/
theorem halts_start (registry : Registry) :
    Halts (step contest shuffle) registry .start
      (.done (registry.unregisterConn shuffle contest.pluginId contest.oldConn).removed) := by
  refine .step ?_
  simp only [step, Registry.unregisterConn, Registry.unregisterIf]
  cases registry.byPluginId.removeIf contest.pluginId fun entry => entry.connId == contest.oldConn with
  | mk left taken =>
    cases taken with
    | none => exact .done
    | some entry => exact .step (.step (halts_actions entry _ _))

end Removing

namespace Registering
variable (contest : Contest)

def publish (actions : List String) (registry : Registry) : Registry :=
  let registry := { registry with toActionTable := registry.toActionTable.indexActions actions contest.pluginId }
  let registry := { registry with pongTimes := registry.pongTimes.insert contest.pluginId contest.clock.now }
  let registry := { registry with
    devices := upsertDevice registry.devices contest.clock contest.entry.deviceId contest.info contest.info.capabilities }
  { registry with byPluginId := registry.byPluginId.insert contest.pluginId contest.entry }

/-- The action is in no collision: it is indexed or collides now. -/
def claimed (table : ActionTable) (action : String) : ActionTable :=
  match table.actionIndex.get action with
  | some existing =>
    if existing = contest.pluginId then table
    else {
      actionIndex := table.actionIndex.remove action
      ambiguousActions := table.ambiguousActions.insert action [existing, contest.pluginId] }
  | none => { table with actionIndex := table.actionIndex.insert action contest.pluginId }

/-- The registry at the end of the registration if no other task comes between. -/
def finish (registry : Registry) : Registering → Registry
  | .start => (registry.registerWithDevice contest.clock contest.pluginId contest.newConn contest.manifest contest.writeTx
      contest.info).1
  | .reserve => if registry.byPluginId.containsKey contest.pluginId then registry
      else registry.enroll contest.clock contest.entry contest.info contest.info.capabilities
  | .connect => registry.enroll contest.clock contest.entry contest.info contest.info.capabilities
  | .join action rest => publish contest (action :: rest) registry
  | .claim action rest => publish contest rest
      { registry with toActionTable := claimed contest registry.toActionTable action }
  | .collide action existing rest => publish contest rest
      { registry with ambiguousActions := registry.ambiguousActions.insert action [existing, contest.pluginId] }
  | .pong => publish contest [] registry
  | .device =>
    let devices := upsertDevice registry.devices contest.clock contest.entry.deviceId contest.info contest.info.capabilities
    { registry with devices, byPluginId := registry.byPluginId.insert contest.pluginId contest.entry }
  | .enter => { registry with byPluginId := registry.byPluginId.insert contest.pluginId contest.entry }
  | .done _ => registry

private theorem finish_nextAction (registry : Registry) (rest : List String) :
    finish contest registry (nextAction rest) = publish contest rest registry := by
  cases rest with
  | nil | cons => rfl

private theorem publish_cons (registry : Registry) (action : String) (rest : List String) :
    publish contest (action :: rest) registry = publish contest rest
      { registry with toActionTable := registry.toActionTable.indexAction action contest.pluginId } := rfl

private theorem indexAction_claimed {table : ActionTable} {action : String} (free : table.ambiguousActions.get action = none) :
    table.indexAction action contest.pluginId = claimed contest table action := by
  unfold ActionTable.indexAction
  split
  next held => cases free.symm.trans held
  next => rfl

theorem step_start (registry : Registry) :
    (∃ error, step contest registry .start = (registry, .done (.error error)) ∧
      registry.registerWithDevice contest.clock contest.pluginId contest.newConn contest.manifest contest.writeTx
        contest.info = (registry, .error error)) ∨
    (step contest registry .start = (registry, .reserve) ∧ registry.byConnId.get contest.newConn = none ∧
      registry.registerWithDevice contest.clock contest.pluginId contest.newConn contest.manifest contest.writeTx
        contest.info = if registry.byPluginId.containsKey contest.pluginId
          then (registry, .error (.pluginAlreadyRegistered contest.pluginId))
          else (registry.enroll contest.clock contest.entry contest.info contest.info.capabilities, .ok ())) := by
  unfold Registry.registerWithDevice
  cases valid : validatePluginId contest.pluginId with
  | error error => exact .inl ⟨error, by simp only [step, valid], rfl⟩
  | ok checked =>
    cases scope : validateDeviceScope contest.pluginId contest.info.deviceId with
    | error error => exact .inl ⟨error, by simp only [step, valid, scope], rfl⟩
    | ok apart =>
      have conn : contest.entry.connId = contest.newConn := rfl
      have id : contest.entry.pluginId = contest.pluginId := rfl
      change (∃ error, _ ∧ registry.claim contest.clock contest.entry contest.info contest.info.capabilities =
        (registry, .error error)) ∨ _ ∧ _ ∧
        registry.claim contest.clock contest.entry contest.info contest.info.capabilities = _
      cases taken : registry.byConnId.containsKey contest.newConn with
      | true =>
        refine .inl ⟨.pluginAlreadyRegistered
          ("connection " ++ toString contest.newConn ++ " already has a registered plugin"), ?_, ?_⟩
        · simp only [step, valid, scope, taken, if_true]
        · simp only [Registry.claim, conn, taken, if_true]
      | false =>
        refine .inr ⟨?_, (DashMap.containsKey_false ..).mp taken, ?_⟩
        · simp only [step, valid, scope, taken, Bool.false_eq_true, if_false]
        · simp only [Registry.claim, conn, id, taken, Bool.false_eq_true, if_false]

/-- An operation leaves the end of the registration where it was. -/
theorem finish_step (registry : Registry) (registering : Registering) :
    finish contest (step contest registry registering).1 (step contest registry registering).2 =
      finish contest registry registering := by
  cases registering with
  | start =>
    rcases step_start contest registry with ⟨error, stepped, refused⟩ | ⟨stepped, -, whole⟩
    · rw [stepped]
      exact (congrArg Prod.fst refused).symm
    · rw [stepped]
      simp only [finish, whole]
      split <;> rfl
  | reserve =>
    cases taken : registry.byPluginId.containsKey contest.pluginId <;> simp only [step, taken, finish] <;> rfl
  | connect | collide => exact finish_nextAction ..
  | join action rest =>
    refine Eq.trans ?_ (publish_cons contest registry action rest).symm
    cases found : registry.ambiguousActions.get action with
    | none => simp only [step, found, finish, indexAction_claimed contest found]
    | some ids =>
      simp only [step, found, ActionTable.indexAction]
      rw [finish_nextAction]
      split <;> rfl
  | claim action rest =>
    cases found : registry.actionIndex.get action with
    | none =>
      simp only [step, found]
      rw [finish_nextAction]
      simp only [finish, claimed, found]
    | some existing =>
      by_cases same : existing = contest.pluginId
      · simp only [step, found, if_pos same]
        rw [finish_nextAction]
        simp only [finish, claimed, found, if_pos same]
      · simp only [step, found, if_neg same, finish, claimed]
  | pong | device | enter | done => rfl

variable {contest}

private theorem halts_actions (actions : List String) (registry : Registry) :
    Halts (step contest) registry (nextAction actions) (.done (.ok ())) := by
  induction actions generalizing registry with
  | nil => exact .step (.step (.step .done))
  | cons action rest ih =>
    change Halts (step contest) registry (.join action rest) (.done (.ok ()))
    refine .step ?_
    simp only [step]
    split
    · exact ih _
    · refine .step ?_
      simp only [step]
      split
      · split
        · exact ih _
        · exact .step (ih _)
      · exact ih _

/-- Undisturbed, the operations are the call. -/
theorem halts_start (registry : Registry) :
    Halts (step contest) registry .start (.done (registry.registerWithDevice contest.clock contest.pluginId contest.newConn
      contest.manifest contest.writeTx contest.info).2) := by
  refine .step ?_
  rcases step_start contest registry with ⟨error, stepped, refused⟩ | ⟨stepped, -, whole⟩
  · rw [stepped, refused]
    exact .done
  · rw [stepped, whole]
    refine .step ?_
    simp only [step]
    split
    · exact .done
    · exact .step (halts_actions contest.manifest.actions _)

end Registering

namespace Race
variable {contest : Contest} {race : Race}

theorem removes (shuffle : Shuffle String) (count : Nat) (waiting : race.registering = .start) :
    let last := (List.replicate count (.remove shuffle)).foldl (step contest) race
    (last.registry, last.removing) = undisturbed (Removing.step contest shuffle) count race.registry race.removing ∧
      last.registering = .start := by
  induction count generalizing race with
  | zero => exact ⟨rfl, waiting⟩
  | succ count ih =>
    have moved : race.step contest (.remove shuffle) = { race with
        registry := (race.removing.step contest shuffle race.registry).1
        removing := (race.removing.step contest shuffle race.registry).2
        evicted := race.evicted ++ taken race.registry race.removing } := by
      simp only [step, waiting, Registering.holdsSlot, Bool.and_false, Bool.false_eq_true, if_false]
    rw [List.replicate_succ, List.foldl_cons, moved]
    exact ih waiting

theorem registers (count : Nat) : let last := (List.replicate count .register).foldl (step contest) race
    (last.registry, last.registering) = undisturbed (Registering.step contest) count race.registry race.registering ∧
      last.removing = race.removing := by
  induction count generalizing race with
  | zero => exact ⟨rfl, rfl⟩
  | succ count ih => exact @ih (race.step contest .register)

/-- When the registration waits for the end of the removal, the race comes to the two
calls one after the other. -/
theorem sequential (contest : Contest) (shuffle : Shuffle String) (registry : Registry) :
    ∃ first second,
      let last := (machine contest registry).run
        (List.replicate first (.remove shuffle) ++ List.replicate second .register)
      let removal := registry.unregisterConn shuffle contest.pluginId contest.oldConn
      let registration := removal.registry.registerWithDevice contest.clock contest.pluginId contest.newConn
        contest.manifest contest.writeTx contest.info
      last.registry = registration.1 ∧ last.removing = .done removal.removed ∧
        last.registering = .done registration.2 := by
  obtain ⟨first, removed⟩ := (Removing.halts_start registry).finished (Removing.finish_step contest shuffle) fun _ => rfl
  obtain ⟨second, registered⟩ := (Registering.halts_start (registry.unregisterConn shuffle contest.pluginId
    contest.oldConn).registry).finished (Registering.finish_step contest) fun _ => rfl
  obtain ⟨left, waiting⟩ := @removes contest { registry } shuffle first rfl
  obtain ⟨leftRegistry, leftPhase⟩ := Prod.mk.inj (left.trans removed)
  refine ⟨first, second, ?_⟩
  rw [Machine.run_append]
  obtain ⟨joined, still⟩ := @registers contest ((machine contest registry).run (List.replicate first (.remove shuffle))) second
  have started : undisturbed (Registering.step contest) second _ _ = _ := (congrArg₂ _ leftRegistry waiting).trans registered
  obtain ⟨reached, result⟩ := Prod.mk.inj (joined.trans started)
  exact ⟨reached, still.trans leftPhase, result⟩

end Race
end Vynkor
