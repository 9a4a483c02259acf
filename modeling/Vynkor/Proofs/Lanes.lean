import Vynkor.Lane
import Vynkor.Proofs.RegistryCalls

/-! Every operation of the waker moves the lane of at most one plugin. -/

namespace Vynkor
open Lib

theorem Lane.Glides.calls {lane after : Lane} (glides : Lane.Glides lane after) : after.calls = lane.calls := by
  cases glides with
  | stay | trim => rfl
  | serve call stage | finish stage | look stage free | spare stage | close stage => simp [Lane.calls, stage, Stage.calls]
  | sort stage w sorted unsorted slot going wanted =>
    rcases sorted with rfl | rfl <;> simp [Lane.calls, unsorted, Stage.calls]
  | miss sorted free => rcases sorted with stage | stage <;> simp [Lane.calls, stage, Stage.calls]

@[simp] theorem callsFor_append (id : String) (first last : List (String × Call)) :
    callsFor id (first ++ last) = callsFor id first ++ callsFor id last := by
  simp [callsFor]

def Progress.Moves (closed : Bool) (id : String) (registry : Registry) (starter : Starter) (takes : List (String × Call))
    (progress : Progress) : Prop :=
  ∃ losses, Lane.Step closed id (starter.lane registry id) (progress.traffic takes losses id)
    (progress.starter.lane progress.registry id)

section
variable {closed : Bool} {id : String} {registry : Registry} {starter : Starter}

attribute [local simp] Starter.lane Task.stage Progress.traffic Starter.spawnStart Starter.spawnStop Registry.lazyGateHold
  Registry.lazyGateRelease Registry.lazyGateAllow

private theorem Progress.Moves.of_step {lane : Lane} {traffic : Traffic} {takes : List (String × Call)} {progress : Progress}
    (step : Lane.Step closed id (starter.lane registry id) traffic lane)
    (crosses : progress.traffic takes traffic.losses id = traffic)
    (arrives : progress.starter.lane progress.registry id = lane) :
    progress.Moves closed id registry starter takes := by
  refine ⟨traffic.losses, ?_⟩
  rw [crosses, arrives]
  exact step

private theorem Progress.Moves.of_stay {takes : List (String × Call)} {progress : Progress}
    (crosses : progress.traffic takes [] id = {})
    (arrives : progress.starter.lane progress.registry id = starter.lane registry id) :
    progress.Moves closed id registry starter takes :=
  .of_step (.glide .stay) crosses arrives

@[simp] theorem callsFor_failQueue (queue : List Call) : callsFor id ((failQueue id queue).map Failure.request) = queue := by
  simp [callsFor, failQueue, fail, Failure.request, List.filter_map, Function.comp_def]

private theorem callsFor_failQueue_other {pluginId : String} (other : pluginId ≠ id) (queue : List Call) :
    callsFor id ((failQueue pluginId queue).map Failure.request) = [] := by
  simp [callsFor, failQueue, fail, Failure.request, List.filter_map, Function.comp_def, other]

@[simp] theorem callsFor_nil : callsFor id [] = [] := rfl

private theorem onWakeRequest_moves (idle : starter.task = .idle) (pluginId : String) (call : Call) :
    (starter.onWakeRequest registry pluginId call).Moves closed id registry starter [(pluginId, call)] := by
  have stage : (starter.lane registry id).stage = .none := by simp [idle]
  unfold Starter.onWakeRequest
  by_cases same : pluginId = id
  · subst same
    split
    next w held =>
      split
      · exact .of_step (.full call) (by simp [callsFor, Failure.request, fail]) rfl
      next room =>
        exact .of_step (.push w call stage held (Nat.lt_of_not_le room)) (by simp [callsFor]) (by simp)
    next free =>
      exact .of_step (.enter call stage free) (by simp [callsFor]) (by simp)
  · split
    · split
      · exact .of_stay (by simp [callsFor, Failure.request, fail, same]) rfl
      · exact .of_stay (by simp [callsFor, same]) (by simp [Ne.symm same])
    · exact .of_stay (by simp [callsFor, same]) (by simp [idle, same])

private theorem onStartResult_moves {run : Run} {failed : Bool} {rest : List (Run × Bool)} (idle : starter.task = .idle)
    (results : starter.started = (run, failed) :: rest) :
    ({ starter with started := rest }.onStartResult registry run failed).Moves closed id registry starter [] := by
  have stage : (starter.lane registry id).stage = .none := by simp [idle]
  unfold Starter.onStartResult
  by_cases same : run.pluginId = id
  · subst same
    have queue : (starter.lane registry run.pluginId).started =
        (run, failed) :: rest.filter (·.1.pluginId == run.pluginId) := by simp [results]
    split
    next free => exact .of_step (.late run failed _ queue stage free) rfl (by simp)
    next w held =>
      split
      next want =>
        exact .of_step (.wanted run failed _ w queue stage held want) (by simp)
          (by simp)
      next unwanted =>
        have unwanted : w.wantStop = false := Bool.eq_false_iff.mpr unwanted
        split
        next broken =>
          subst broken
          exact .of_step (.broke run _ w queue stage held unwanted) (by simp)
            (by simp)
        next fine =>
          cases Bool.eq_false_iff.mpr fine
          exact .of_step (.began run _ w queue stage held unwanted) (by simp) (by simp)
  · have queue : starter.started.filter (·.1.pluginId == id) = rest.filter (·.1.pluginId == id) := by simp [results, same]
    split
    · exact .of_stay rfl (by simp [queue])
    · split
      · exact .of_stay (by simp [same])
          (by simp [queue, same, Ne.symm same])
      · split
        · exact .of_stay (by simp [same, callsFor_failQueue_other])
            (by simp [queue, Ne.symm same])
        · exact .of_stay (by simp [same]) (by simp [queue, Ne.symm same])

private theorem onStopped_moves {run : Run} {rest : List Run} (idle : starter.task = .idle) (results : starter.stopped = run :: rest)
    (now : Instant) :
    ({ starter with stopped := rest }.onStopped registry now run.pluginId).Moves closed id registry starter [] := by
  have stage : (starter.lane registry id).stage = .none := by simp [idle]
  unfold Starter.onStopped
  by_cases same : run.pluginId = id
  · subst same
    have queue : (starter.lane registry run.pluginId).stopped = run :: rest.filter (·.pluginId == run.pluginId) := by
      simp [results]
    split
    next free => exact .of_step (.gone run _ queue stage free) rfl (by simp)
    next w held =>
      split
      next empty =>
        exact .of_step (.rest run _ w queue stage held (List.isEmpty_iff.mp empty)) rfl
          (by simp)
      next waiting =>
        exact .of_step (.again run _ w now queue stage held) rfl
          (by simp)
  · have queue : starter.stopped.filter (·.pluginId == id) = rest.filter (·.pluginId == id) := by simp [results, same]
    split
    · exact .of_stay rfl (by simp [queue])
    · split
      · exact .of_stay rfl (by simp [queue, Ne.symm same])
      · exact .of_stay rfl
          (by simp [queue, same, Ne.symm same])

private theorem returned_moves (run : Run) (failed : Bool) :
    Progress.Moves closed id registry starter [] { registry, starter := starter.returned run failed } := by
  unfold Starter.returned
  split
  next under =>
    have left := @List.erase_filter _ _ run _ (fun run : Run => run.pluginId == id) starter.running
    by_cases same : run.pluginId = id
    · have mine : (run.pluginId == id) = true := by simp [same]
      have inside : run ∈ (starter.lane registry id).running := List.mem_filter.mpr ⟨under, mine⟩
      simp only
      split
      next kind => exact .of_step (.startReturned run failed kind inside) rfl (by simp [← left, same])
      next kind => exact .of_step (.stopReturned run kind inside) rfl (by simp [← left, same])
    · rw [List.erase_of_not_mem (by simp [same])] at left
      simp only
      split <;> exact .of_stay rfl (by simp [← left, same])
  · exact .of_stay rfl rfl

private theorem serve_moves {pluginId : String} {call : Call} (task : starter.task = .serve pluginId call) (error : String) :
    Progress.Moves closed id registry starter []
      (if Starter.serves registry pluginId call.msg then
        { registry, starter := { starter with task := .reinject pluginId [call] none } }
      else { registry, starter := { starter with task := .idle }, fails := [fail pluginId .actionNotFound error call] }) := by
  by_cases same : pluginId = id
  · subst same
    have stage : (starter.lane registry pluginId).stage = .admitting call := by simp [task]
    split
    · exact .of_step (.glide (.serve call stage)) rfl (by simp)
    · exact .of_step (.refuse call stage) (by simp [callsFor, Failure.request, fail]) (by simp)
  · split
    · exact .of_stay rfl (by simp [task, same])
    · exact .of_stay (by simp [callsFor, Failure.request, fail, same]) (by simp [task, same])

private theorem wake_moves {pluginId : String} {call : Call} (task : starter.task = .wake pluginId call) (now : Instant) :
    Progress.Moves closed id registry starter []
      { registry := registry.lazyGateHold pluginId
        starter := { starter with task := .idle, slots := starter.slots + 1 }.spawnStart now pluginId
          { queue := [call], since := now, slot := starter.slots } } := by
  by_cases same : pluginId = id
  · subst same
    have stage : (starter.lane registry pluginId).stage = .admitting call := by simp [task]
    exact .of_step (.wake call now starter.slots stage) rfl
      (by simp)
  · exact .of_stay rfl (by simp [task, same, Ne.symm same])

private theorem Stage.ofLists_absent {ready expired : List String} (absent : id ∉ ready ++ expired) :
    Stage.ofLists ready expired id = .none := by
  rw [List.mem_append, not_or] at absent
  simp [Stage.ofLists, absent]

@[simp] theorem Stage.ofLists_nil : Stage.ofLists [] [] id = .none := rfl

private theorem Task.stage_afterReinject {pluginId : String} {calls : List Call} {rest : Option (List String × List String)}
    (tidy : (Task.reinject pluginId calls rest).Tidy) : (Task.afterReinject rest).stage pluginId = .none := by
  cases rest with
  | none => rfl
  | some lists =>
    obtain ⟨ready, expired⟩ := lists
    exact Stage.ofLists_absent (List.nodup_cons.mp tidy).1

private theorem Task.stage_afterReinject_other {pluginId : String} {calls : List Call} {rest : Option (List String × List String)}
    (other : pluginId ≠ id) : (Task.afterReinject rest).stage id = (Task.reinject pluginId calls rest).stage id := by
  cases rest with
  | none => exact (if_neg other).symm
  | some lists =>
    obtain ⟨ready, expired⟩ := lists
    exact (if_neg other).symm

private theorem reinject_moves {pluginId : String} {call : Call} {calls : List Call} {rest : Option (List String × List String)}
    (tidy : (Task.reinject pluginId (call :: calls) rest).Tidy)
    (task : starter.task = .reinject pluginId (call :: calls) rest) (clock : Clock) :
    Progress.Moves starter.routerClosed id registry starter []
      { registry := registry.lazyGateAllow clock pluginId call.msg.frameAddr
        starter := { starter with
          task := if starter.routerClosed then Task.afterReinject rest else .reinject pluginId calls rest }
        reinjects := if starter.routerClosed then [] else [(pluginId, call)] } := by
  by_cases same : pluginId = id
  · subst same
    have stage : (starter.lane registry pluginId).stage = .draining (call :: calls) := by
      simp [task]
    cases shut : starter.routerClosed with
    | true =>
      refine .of_step (.lose call calls clock.now rfl stage) (by simp) ?_
      simp [-Task.stage, Task.stage_afterReinject tidy]
    | false =>
      exact .of_step (.reinject call calls clock.now stage) (by simp [callsFor])
        (by simp)
  · cases shut : starter.routerClosed with
    | true =>
      refine .of_stay rfl ?_
      simp [-Task.stage, task, Ne.symm same, @Task.stage_afterReinject_other _ pluginId (call :: calls) rest same]
    | false =>
      exact .of_stay (by simp [callsFor, same])
        (by simp [task, same, Ne.symm same])

private theorem finish_moves {pluginId : String} {rest : Option (List String × List String)}
    (tidy : (Task.reinject pluginId [] rest).Tidy) (task : starter.task = .reinject pluginId [] rest) :
    Progress.Moves closed id registry starter [] { registry, starter := { starter with task := Task.afterReinject rest } } := by
  by_cases same : pluginId = id
  · subst same
    refine .of_step (.glide (.finish (by simp [task]))) rfl ?_
    simp [-Task.stage, Task.stage_afterReinject tidy]
  · exact .of_stay rfl (by simp [-Task.stage, task, @Task.stage_afterReinject_other _ pluginId [] rest same])

private theorem surveyOne_cases (startTimeout : Nat) (now : Instant) (pluginId : String) (ready expired : List String) :
    starter.surveyOne startTimeout registry now pluginId ready expired = (ready, expired) ∨
    ∃ w, starter.waking.get pluginId = some w ∧ w.stopping = false ∧ w.wantStop = false ∧
      (starter.surveyOne startTimeout registry now pluginId ready expired = (ready ++ [pluginId], expired) ∨
        starter.surveyOne startTimeout registry now pluginId ready expired = (ready, expired ++ [pluginId])) := by
  unfold Starter.surveyOne
  split
  · exact .inl rfl
  next w held =>
    split
    · exact .inl rfl
    next going =>
      simp only [Bool.or_eq_true, not_or, Bool.not_eq_true] at going
      split
      · exact .inr ⟨w, held, going.1, going.2, .inl rfl⟩
      · split
        · exact .inr ⟨w, held, going.1, going.2, .inr rfl⟩
        · exact .inl rfl

private theorem survey_moves {startTimeout : Nat} {now : Instant} {pluginId : String} {ids ready expired : List String}
    (tidy : (Task.survey now (pluginId :: ids) ready expired).Tidy)
    (task : starter.task = .survey now (pluginId :: ids) ready expired) :
    Progress.Moves closed id registry starter []
      (let sorted := starter.surveyOne startTimeout registry now pluginId ready expired
      { registry, starter := { starter with task := .survey now ids sorted.1 sorted.2 } }) := by
  have fresh : pluginId ∉ ready ++ expired := fun member =>
    (List.nodup_append.mp tidy).2.2 pluginId List.mem_cons_self pluginId member rfl
  have stage : (starter.lane registry pluginId).stage = .none := by
    simpa [task] using Stage.ofLists_absent fresh
  rcases @surveyOne_cases registry starter startTimeout now pluginId ready expired with
    skipped | ⟨w, held, going, wanted, sorted | sorted⟩
  · exact .of_stay rfl (by simp [task, skipped])
  · by_cases same : pluginId = id
    · subst same
      exact .of_step (.glide (.sort .ready w (.inl rfl) stage held going wanted)) rfl
        (by simp [sorted, Stage.ofLists])
    · exact .of_stay rfl (by simp [task, sorted, Stage.ofLists, Ne.symm same])
  · by_cases same : pluginId = id
    · subst same
      rw [List.mem_append, not_or] at fresh
      exact .of_step (.glide (.sort .expired w (.inr rfl) stage held going wanted)) rfl
        (by simp [sorted, Stage.ofLists, fresh.1])
    · exact .of_stay rfl (by simp [task, sorted, Stage.ofLists, Ne.symm same])

private theorem drain_moves {pluginId : String} {ready expired : List String}
    (tidy : (Task.drain (pluginId :: ready) expired).Tidy) (task : starter.task = .drain (pluginId :: ready) expired) :
    Progress.Moves closed id registry starter []
      (match starter.waking.get pluginId with
      | none => { registry, starter := { starter with task := .drain ready expired } }
      | some w =>
        { registry, starter := { starter with
            waking := starter.waking.remove pluginId, task := .reinject pluginId w.queue (some (ready, expired)) } }) := by
  have once : Stage.ofLists ready expired pluginId = .none := Stage.ofLists_absent (List.nodup_cons.mp tidy).1
  by_cases same : pluginId = id
  · subst same
    have stage : (starter.lane registry pluginId).stage = .ready := by simp [task, Stage.ofLists]
    split
    next free => exact .of_step (.glide (.miss (.inl stage) free)) rfl (by simp [once])
    next w held => exact .of_step (.drain w stage held) rfl (by simp)
  · split
    · exact .of_stay rfl (by simp [task, Stage.ofLists, Ne.symm same])
    · exact .of_stay rfl (by simp [task, Stage.ofLists, same, Ne.symm same])

private theorem expire_moves {pluginId : String} {ids : List String} (tidy : (Task.expire (pluginId :: ids)).Tidy)
    (task : starter.task = .expire (pluginId :: ids)) :
    (starter.expireOne registry pluginId ids).Moves closed id registry starter [] := by
  have once : Stage.ofLists [] ids pluginId = .none := Stage.ofLists_absent (List.nodup_cons.mp tidy).1
  unfold Starter.expireOne
  simp only
  by_cases same : pluginId = id
  · subst same
    have stage : (starter.lane registry pluginId).stage = .expired := by simp [task, Stage.ofLists]
    split
    next free => exact .of_step (.glide (.miss (.inr stage) free)) rfl (by simp [once])
    next w held =>
      split
      next starting =>
        exact .of_step (.expire w stage held starting) (by simp)
          (by simp [once])
      next waiting =>
        exact .of_step (.halt w stage held (Bool.eq_false_iff.mpr waiting)) (by simp)
          (by simp [once])
  · split
    · exact .of_stay rfl (by simp [task, Stage.ofLists, Ne.symm same])
    · refine .of_stay (by simp [same, callsFor_failQueue_other]) ?_
      split
      · simp [task, Stage.ofLists, Ne.symm same]
      · simp [task, Stage.ofLists, same, Ne.symm same]

private theorem trim_moves {pluginId : String} {ids : List String} (task : starter.task = .trim (pluginId :: ids)) (now : Instant) :
    (starter.trimOne registry now pluginId ids).Moves closed id registry starter [] := by
  unfold Starter.trimOne
  simp only
  split
  · exact .of_stay rfl (by simp [task])
  next free =>
    have free := (DashMap.containsKey_false ..).mp (Bool.eq_false_iff.mpr free)
    by_cases same : pluginId = id
    · subst same
      have trims {after : Registry} (fewer : ∀ frameAddr, allows (after.lazyGates.get pluginId) frameAddr →
          allows (registry.lazyGates.get pluginId) frameAddr) : Progress.Moves closed pluginId registry starter []
            { registry := after, starter := { starter with task := .trim ids } } :=
        .of_step (.glide (.trim (after.lazyGates.get pluginId) fewer (by simp [task]) free)) rfl
          (by simp [task])
      split
      · exact trims fun frameAddr passes => by simp [allows] at passes
      · refine trims fun frameAddr passes => ?_
        unfold Registry.lazyGateTrim at passes
        split at passes
        · exact passes
        next gate held =>
          simp only [DashMap.get_insert, if_true, allows, Option.any_some, DashMap.containsKey, DashMap.get_retain] at passes
          simpa only [held, allows, Option.any_some, DashMap.containsKey] using Option.isSome_of_isSome_filter _ _ passes
    · refine .of_stay rfl ?_
      have kept : (registry.lazyGateTrim now pluginId allowTtl).2.lazyGates.get id = registry.lazyGates.get id := by
        unfold Registry.lazyGateTrim
        split
        · rfl
        · simp [Ne.symm same]
      split
      · simp [task, kept, Ne.symm same]
      · simp [task, kept]

section
variable {now : Instant} {dormant : DormantPlugin} {rest : List DormantPlugin}

private theorem sweep_moves (task : starter.task = .sweep now (dormant :: rest)) (clock : Clock) :
    (starter.sweepOne registry clock now dormant rest).Moves closed id registry starter [] := by
  unfold Starter.sweepOne
  simp only
  split
  · exact .of_stay rfl (by simp [task])
  next candidate =>
    simp only [Bool.or_eq_true, not_or, Bool.not_eq_true, DashMap.containsKey_false] at candidate
    split
    · exact .of_stay rfl (by simp [task])
    · split
      · exact .of_stay rfl (by simp [task])
      · by_cases same : dormant.pluginId = id
        · subst same
          exact .of_step (.glide (.look (by simp [task]) candidate.1)) rfl
            (by simp)
        · exact .of_stay rfl (by simp [task, same])

private theorem pending_moves (task : starter.task = .pending now dormant rest) :
    Progress.Moves closed id registry starter []
      { registry, starter := { starter with
          task := if registry.hasPendingForProvider dormant.pluginId then .sweep now rest else .hold now dormant rest } } := by
  by_cases same : dormant.pluginId = id
  · subst same
    split
    · exact .of_step (.glide (.spare (by simp [task]))) rfl (by simp)
    · exact .of_stay rfl (by simp [task])
  · split <;> exact .of_stay rfl (by simp [task, same])

private theorem hold_moves (task : starter.task = .hold now dormant rest) : Progress.Moves closed id registry starter []
      { registry := registry.lazyGateHold dormant.pluginId, starter := { starter with task := .stop now dormant rest } } := by
  by_cases same : dormant.pluginId = id
  · subst same
    exact .of_step (.glide (.close (by simp [task]))) rfl
      (by simp)
  · exact .of_stay rfl (by simp [task, same, Ne.symm same])

private theorem stop_moves (task : starter.task = .stop now dormant rest) : Progress.Moves closed id registry starter []
      { registry
        starter := { starter with task := .sweep now rest, slots := starter.slots + 1 }.spawnStop dormant.pluginId
          { since := now, slot := starter.slots } true } := by
  by_cases same : dormant.pluginId = id
  · subst same
    exact .of_step (.stop now starter.slots (by simp [task])) rfl
      (by simp)
  · exact .of_stay rfl (by simp [task, same, Ne.symm same])

end

private theorem resume_moves (tidy : starter.task.Tidy) (startTimeout : Nat) (ambient : Ambient) :
    (starter.resume startTimeout ambient registry).Moves starter.routerClosed id registry starter [] := by
  have stays {next : Task} (same : next.stage id = starter.task.stage id) :
      Progress.Moves starter.routerClosed id registry starter [] { registry, starter := { starter with task := next } } :=
    .of_stay rfl (by simp only [Starter.lane, same])
  unfold Starter.resume
  split
  next task => exact .of_stay rfl rfl
  next task => split <;> exact stays (by simp [task])
  next task => exact serve_moves task _
  next task => exact .of_stay rfl (by simp [task])
  next task => exact wake_moves task ambient.clock.now
  next task => exact reinject_moves (task ▸ tidy) task ambient.clock
  next task => exact finish_moves (task ▸ tidy) task
  next task => exact survey_moves (task ▸ tidy) task
  next task => exact stays (by rw [task]; rfl)
  next task => exact drain_moves (task ▸ tidy) task
  next task => exact stays (by rw [task]; rfl)
  next task => exact expire_moves (task ▸ tidy) task
  next task => exact stays (by rw [task]; rfl)
  next task => exact trim_moves task ambient.clock.now
  next task => exact stays (by rw [task]; rfl)
  next task => exact sweep_moves task ambient.clock
  next task => exact stays (by rw [task]; rfl)
  next task => exact pending_moves task
  next task => exact hold_moves task
  next task => exact stop_moves task

private theorem Task.afterReinject_tidy {pluginId : String} {calls : List Call} {rest : Option (List String × List String)}
    (tidy : (Task.reinject pluginId calls rest).Tidy) : (Task.afterReinject rest).Tidy := by
  cases rest with
  | none => trivial
  | some lists => exact (List.nodup_cons.mp tidy).2

private theorem surveyOne_tidy {startTimeout : Nat} {now : Instant} {pluginId : String} {ids ready expired : List String}
    (tidy : (Task.survey now (pluginId :: ids) ready expired).Tidy) :
    (Task.survey now ids (starter.surveyOne startTimeout registry now pluginId ready expired).1
      (starter.surveyOne startTimeout registry now pluginId ready expired).2).Tidy := by
  have tidy : (pluginId :: (ids ++ (ready ++ expired))).Nodup := tidy
  have moved (lists : List String) (perm : lists.Perm (pluginId :: (ready ++ expired))) : (ids ++ lists).Nodup := by
    refine List.Perm.nodup (List.Perm.symm ?_) tidy
    exact (perm.append_left ids).trans List.perm_middle
  rcases @surveyOne_cases registry starter startTimeout now pluginId ready expired with skipped | ⟨-, -, -, -, sorted | sorted⟩
  · rw [skipped]
    exact (List.nodup_cons.mp tidy).2
  · rw [sorted]
    refine moved _ ?_
    rw [List.append_assoc]
    exact List.perm_middle
  · rw [sorted]
    refine moved _ ?_
    rw [← List.append_assoc]
    exact List.perm_append_singleton pluginId (ready ++ expired)

private theorem resume_tidy (tidy : starter.task.Tidy) (startTimeout : Nat) (ambient : Ambient) :
    (starter.resume startTimeout ambient registry).starter.task.Tidy := by
  unfold Starter.resume
  split
  next task => exact tidy
  next => split <;> trivial
  next => split <;> trivial
  next => trivial
  next => trivial
  next pluginId call calls rest task =>
    rw [task] at tidy
    have after := Task.afterReinject_tidy tidy
    simp only
    split
    · exact after
    · cases rest with
      | none => trivial
      | some lists => exact tidy
  next pluginId rest task => exact Task.afterReinject_tidy (task ▸ tidy)
  next now pluginId ids ready expired task => exact surveyOne_tidy (task ▸ tidy)
  next now ready expired task =>
    rw [task] at tidy
    exact tidy
  next pluginId ready expired task =>
    rw [task] at tidy
    split
    · exact (List.nodup_cons.mp tidy).2
    · exact tidy
  next expired task =>
    rw [task] at tidy
    exact tidy
  next pluginId ids task =>
    rw [task] at tidy
    have left : ids.Nodup := (List.nodup_cons.mp tidy).2
    unfold Starter.expireOne
    simp only
    split
    · exact left
    · split <;> exact left
  next => trivial
  next =>
    unfold Starter.trimOne
    simp only
    split <;> trivial
  next => trivial
  next =>
    unfold Starter.sweepOne
    simp only
    split
    · trivial
    · split
      · trivial
      · split <;> trivial
  next => trivial
  next => split <;> trivial
  next => trivial
  next => trivial

private theorem select_tidy (idle : starter.task = .idle) (ambient : Ambient) (arm : Arm) :
    (starter.select ambient registry arm).starter.task.Tidy := by
  have waits : starter.task.Tidy := idle ▸ trivial
  cases arm with
  | request pluginId call =>
    simp only [Starter.select, Starter.onWakeRequest]
    split
    · split <;> exact waits
    · trivial
  | started =>
    simp only [Starter.select, Starter.onStartResult]
    split
    · exact waits
    · split
      · exact waits
      · split
        · exact waits
        · split <;> exact waits
  | stopped =>
    simp only [Starter.select, Starter.onStopped]
    split
    · exact waits
    · split
      · exact waits
      · split <;> exact waits
  | poll =>
    simp only [Starter.select]
    split
    · exact waits
    · change (((starter.waking.iter ambient.shuffle).map Prod.fst) ++ ([] ++ [])).Nodup
      rw [List.append_nil, List.append_nil]
      exact DashMap.iter_nodup ..
  | sweep => trivial

theorem step_tidy (tidy : starter.task.Tidy) (startTimeout : Nat) (ambient : Ambient) (event : LazyEvent) :
    (starter.step startTimeout ambient registry event).starter.task.Tidy := by
  cases event with
  | select arm =>
    simp only [Starter.step]
    split
    next idle => exact select_tidy idle ambient arm
    · exact tidy
  | resume => exact resume_tidy tidy startTimeout ambient
  | returned =>
    simp only [Starter.step, Starter.returned]
    split
    · split <;> exact tidy
    · exact tidy
  | closeRouter => exact tidy

/-- Every event of the waker moves the lane of at most one plugin. -/
theorem step_moves (tidy : starter.task.Tidy) (startTimeout : Nat) (ambient : Ambient) (event : LazyEvent) :
    (starter.step startTimeout ambient registry event).Moves starter.routerClosed id registry starter (starter.takes event) := by
  cases event with
  | select arm =>
    by_cases idle : starter.task = .idle
    · simp only [Starter.step, idle, if_true]
      cases arm with
      | request pluginId call =>
        simp only [Starter.select, Starter.takes, idle, if_true]
        exact onWakeRequest_moves idle pluginId call
      | started =>
        simp only [Starter.select, Starter.takes]
        split
        · exact .of_stay rfl rfl
        next run failed rest results => exact onStartResult_moves idle results
      | stopped =>
        simp only [Starter.select, Starter.takes]
        split
        · exact .of_stay rfl rfl
        next run rest results => exact onStopped_moves idle results ambient.clock.now
      | poll =>
        simp only [Starter.select, Starter.takes]
        split
        · exact .of_stay rfl rfl
        · exact .of_stay rfl (by simp [idle])
      | sweep => exact .of_stay rfl (by simp [Starter.select, idle])
    · have takes : starter.takes (.select arm) = [] := by
        cases arm <;> simp [Starter.takes, idle]
      rw [takes]
      simp only [Starter.step, idle, if_false]
      exact .of_stay rfl rfl
  | resume => exact resume_moves tidy startTimeout ambient
  | returned run failed => exact returned_moves run failed
  | closeRouter => exact .of_stay rfl rfl

private theorem resume_frame (startTimeout : Nat) (ambient : Ambient) :
    (starter.resume startTimeout ambient registry).starter.routerClosed = starter.routerClosed ∧
    (starter.resume startTimeout ambient registry).registry.pendingActions = registry.pendingActions ∧
    (starter.resume startTimeout ambient registry).registry.byPluginId = registry.byPluginId := by
  unfold Starter.resume
  split <;> try exact ⟨rfl, rfl, rfl⟩
  · split <;> exact ⟨rfl, rfl, rfl⟩
  · exact ⟨rfl, registry.touchUsed_pendingActions .., registry.touchUsed_byPluginId ..⟩
  · split <;> exact ⟨rfl, rfl, rfl⟩
  · unfold Starter.expireOne
    simp only
    split
    · exact ⟨rfl, rfl, rfl⟩
    · split <;> exact ⟨rfl, rfl, rfl⟩
  · unfold Starter.trimOne Registry.lazyGateTrim
    simp only
    split
    · exact ⟨rfl, rfl, rfl⟩
    · split
      · exact ⟨rfl, by split <;> rfl, by split <;> rfl⟩
      · exact ⟨rfl, by split <;> rfl, by split <;> rfl⟩
  · unfold Starter.sweepOne
    simp only
    split
    · exact ⟨rfl, rfl, rfl⟩
    · split
      · exact ⟨rfl, registry.touchUsed_pendingActions .., registry.touchUsed_byPluginId ..⟩
      · split <;> exact ⟨rfl, rfl, rfl⟩

private theorem select_frame (ambient : Ambient) (arm : Arm) :
    (starter.select ambient registry arm).starter.routerClosed = starter.routerClosed ∧
    (starter.select ambient registry arm).registry.pendingActions = registry.pendingActions ∧
    (starter.select ambient registry arm).registry.byPluginId = registry.byPluginId := by
  cases arm with
  | request =>
    simp only [Starter.select, Starter.onWakeRequest]
    split
    · split <;> exact ⟨rfl, rfl, rfl⟩
    · exact ⟨rfl, rfl, rfl⟩
  | started =>
    simp only [Starter.select, Starter.onStartResult]
    split
    · exact ⟨rfl, rfl, rfl⟩
    · split
      · exact ⟨rfl, rfl, rfl⟩
      · split
        · exact ⟨rfl, rfl, rfl⟩
        · split <;> exact ⟨rfl, rfl, rfl⟩
  | stopped =>
    simp only [Starter.select, Starter.onStopped]
    split
    · exact ⟨rfl, rfl, rfl⟩
    · split
      · exact ⟨rfl, rfl, rfl⟩
      · split <;> exact ⟨rfl, rfl, rfl⟩
  | poll =>
    simp only [Starter.select]
    split <;> exact ⟨rfl, rfl, rfl⟩
  | sweep => exact ⟨rfl, rfl, rfl⟩

theorem step_routerClosed {event : LazyEvent} (other : event ≠ .closeRouter) (startTimeout : Nat) (ambient : Ambient) :
    (starter.step startTimeout ambient registry event).starter.routerClosed = starter.routerClosed := by
  cases event with
  | select arm =>
    simp only [Starter.step]
    split
    · exact (select_frame ambient arm).1
    · rfl
  | resume => exact (resume_frame startTimeout ambient).1
  | returned =>
    simp only [Starter.step, Starter.returned]
    split
    · split <;> rfl
    · rfl
  | closeRouter => exact absurd rfl other

theorem step_frame (startTimeout : Nat) (ambient : Ambient) (event : LazyEvent) :
    (starter.step startTimeout ambient registry event).registry.pendingActions = registry.pendingActions ∧
    (starter.step startTimeout ambient registry event).registry.byPluginId = registry.byPluginId := by
  cases event with
  | select arm =>
    simp only [Starter.step]
    split
    · exact (select_frame ambient arm).2
    · exact ⟨rfl, rfl⟩
  | resume => exact (resume_frame startTimeout ambient).2
  | returned | closeRouter => exact ⟨rfl, rfl⟩

end
end Vynkor
