import Vynkor.Proofs.LazyConservation

/-! Starts and stops of a lazy plugin exclude each other as long as no slot is drained
before its start call has returned. A plugin that registers while the call is still
running loses its slot, and with it the flags that keep the calls apart. -/

namespace Vynkor
open Lib

/-- The calls of a slot that have not been handled: the one its flags speak of. -/
def Waking.Accounts (id : String) (w : Waking) (runs : List Run) : Prop :=
  (w.starting = true ∧ w.stopping = false ∧ runs = [⟨.start, id, w.slot, false⟩]) ∨
  (w.starting = false ∧ w.stopping = true ∧ ∃ idle, runs = [⟨.stop, id, w.slot, idle⟩]) ∨
  (w.starting = false ∧ w.stopping = false ∧ runs = [])

namespace Lane

def outstanding (lane : Lane) : List Run := lane.running ++ (lane.started.map Prod.fst ++ lane.stopped)

structure Exclusive (id : String) (lane : Lane) : Prop where
  starts : ∀ result ∈ lane.started, result.1.kind = .start
  stops : ∀ run ∈ lane.stopped, run.kind = .stop
  free : lane.slot = none → lane.outstanding = []
  busy : ∀ w, lane.slot = some w → w.Accounts id lane.outstanding

section
variable {closed : Bool} {id : String} {lane after : Lane} {traffic : Traffic}

theorem outstanding_nil (none : lane.outstanding = []) : lane.running = [] ∧ lane.started = [] ∧ lane.stopped = [] := by
  simpa [outstanding] using none

section
variable (exclusive : lane.Exclusive id)
include exclusive

theorem Exclusive.single : lane.outstanding.length ≤ 1 := by
  cases slot : lane.slot with
  | none => simp [exclusive.free slot]
  | some w =>
    rcases exclusive.busy w slot with ⟨-, -, runs⟩ | ⟨-, -, idle, runs⟩ | ⟨-, -, runs⟩ <;> simp [runs]

theorem Exclusive.vacant {w : Waking} (slot : lane.slot = some w)
    (starting : w.starting = false) (stopping : w.stopping = false) : lane.outstanding = [] := by
  rcases exclusive.busy w slot with ⟨started, -⟩ | ⟨-, stopped, -⟩ | ⟨-, -, none⟩
  · cases started.symm.trans starting
  · cases stopped.symm.trans stopping
  · exact none

theorem Exclusive.started {run : Run} {failed : Bool} {rest : List (Run × Bool)}
    (results : lane.started = (run, failed) :: rest) :
    ∃ w, lane.slot = some w ∧ w.starting = true ∧ w.stopping = false ∧ run.slot = w.slot ∧
      lane.running = [] ∧ rest = [] ∧ lane.stopped = [] := by
  have kind : run.kind = .start := exclusive.starts (run, failed) (by simp [results])
  have alone := exclusive.single
  simp only [outstanding, results, List.length_append, List.map_cons, List.length_cons, List.length_map] at alone
  have running : lane.running = [] := List.eq_nil_of_length_eq_zero (by omega)
  have nothing : rest = [] := List.eq_nil_of_length_eq_zero (by omega)
  have stopped : lane.stopped = [] := List.eq_nil_of_length_eq_zero (by omega)
  have runs : lane.outstanding = [run] := by simp [outstanding, results, running, nothing, stopped]
  cases slot : lane.slot with
  | none => cases runs.symm.trans (exclusive.free slot)
  | some w =>
    have accounts := exclusive.busy w slot
    rw [runs] at accounts
    rcases accounts with ⟨starting, going, same⟩ | ⟨-, -, idle, same⟩ | ⟨-, -, same⟩
    · cases same
      exact ⟨w, rfl, starting, going, rfl, running, nothing, stopped⟩
    · cases same
      cases kind
    · cases same

theorem Exclusive.stopped {run : Run} {rest : List Run} (results : lane.stopped = run :: rest) :
    ∃ w, lane.slot = some w ∧ w.starting = false ∧ w.stopping = true ∧
      lane.running = [] ∧ lane.started = [] ∧ rest = [] := by
  have kind : run.kind = .stop := exclusive.stops run (by simp [results])
  have alone := exclusive.single
  simp only [outstanding, results, List.length_append, List.length_cons, List.length_map] at alone
  have running : lane.running = [] := List.eq_nil_of_length_eq_zero (by omega)
  have started : lane.started = [] := List.eq_nil_of_length_eq_zero (by omega)
  have nothing : rest = [] := List.eq_nil_of_length_eq_zero (by omega)
  have runs : lane.outstanding = [run] := by simp [outstanding, results, running, nothing, started]
  cases slot : lane.slot with
  | none => cases runs.symm.trans (exclusive.free slot)
  | some w =>
    have accounts := exclusive.busy w slot
    rw [runs] at accounts
    rcases accounts with ⟨-, -, same⟩ | ⟨starting, stopping, -⟩ | ⟨-, -, same⟩
    · cases same
      cases kind
    · exact ⟨w, rfl, starting, stopping, running, started, nothing⟩
    · cases same

/-- The call that returns is the only one. -/
theorem Exclusive.returned {run : Run} (under : run ∈ lane.running) :
    lane.running = [run] ∧ lane.started = [] ∧ lane.stopped = [] := by
  have alone := exclusive.single
  have inside := List.length_pos_of_mem under
  simp only [outstanding, List.length_append, List.length_map] at alone
  have started : lane.started = [] := List.eq_nil_of_length_eq_zero (by omega)
  have stopped : lane.stopped = [] := List.eq_nil_of_length_eq_zero (by omega)
  obtain ⟨only, running⟩ := List.length_eq_one_iff.mp (show lane.running.length = 1 by omega)
  rw [running] at under
  exact ⟨by rw [running, List.mem_singleton.mp under], started, stopped⟩

end

private theorem Exclusive.of_running (started : lane.started = []) (stopped : lane.stopped = [])
    (free : lane.slot = none → lane.running = []) (busy : ∀ w, lane.slot = some w → w.Accounts id lane.running) :
    lane.Exclusive id := by
  have runs : lane.outstanding = lane.running := by simp [outstanding, started, stopped]
  refine ⟨by simp [started], by simp [stopped], ?_, ?_⟩
  · rwa [runs]
  · rwa [runs]

private theorem Exclusive.of_slot (exclusive : lane.Exclusive id) {w w' : Waking} (slot : lane.slot = some w)
    (left : after.slot = some w') (starting : w'.starting = w.starting) (stopping : w'.stopping = w.stopping)
    (same : w'.slot = w.slot) (runs : after.outstanding = lane.outstanding) (started : after.started = lane.started)
    (stopped : after.stopped = lane.stopped) : after.Exclusive id := by
  refine ⟨started ▸ exclusive.starts, stopped ▸ exclusive.stops, fun free => ?_, fun found held => ?_⟩
  · cases left.symm.trans free
  · cases left.symm.trans held
    have accounts := exclusive.busy w slot
    unfold Waking.Accounts at accounts ⊢
    rw [runs, starting, stopping, same]
    exact accounts

theorem Glides.exclusive (glides : Glides lane after) (exclusive : lane.Exclusive id) : after.Exclusive id := by
  cases glides <;> exact ⟨exclusive.starts, exclusive.stops, exclusive.free, exclusive.busy⟩

/-- Every step keeps the calls apart, unless it drains a slot whose start is under way. -/
theorem Step.exclusive (step : Step closed id lane traffic after) (valid : lane.Valid) (exclusive : lane.Exclusive id)
    (settled : ∀ w, lane.stage = .ready → lane.slot = some w → w.starting = false) :
    after.Exclusive id ∧ ∀ result ∈ traffic.applies, result.1.slot = result.2 := by
  have fits := valid.fits
  have quiet : ∀ result ∈ ([] : List (Run × Nat)), result.1.slot = result.2 := fun _ member => absurd member List.not_mem_nil
  cases step with
  | glide glides => exact ⟨glides.exclusive exclusive, quiet⟩
  | push w call stage slot room | expire w stage slot starting =>
    exact ⟨exclusive.of_slot slot rfl rfl rfl rfl rfl rfl rfl, quiet⟩
  | full call => exact ⟨exclusive, quiet⟩
  | enter call stage free | refuse | reinject | lose =>
    exact ⟨⟨exclusive.starts, exclusive.stops, exclusive.free, exclusive.busy⟩, quiet⟩
  | wake call now slot stage =>
    have free : lane.slot = none := by rwa [stage] at fits
    obtain ⟨running, started, stopped⟩ := outstanding_nil (exclusive.free free)
    refine ⟨.of_running started stopped (fun free => by cases free) (fun w held => ?_), quiet⟩
    cases held
    exact .inl ⟨rfl, rfl, by simp [running]⟩
  | drain w stage slot =>
    rw [stage] at fits
    obtain ⟨sorted, held, going, -⟩ := fits
    cases slot.symm.trans held
    have none := exclusive.vacant slot (settled w stage slot) going
    exact ⟨⟨exclusive.starts, exclusive.stops, fun _ => none, fun w held => by cases held⟩, quiet⟩
  | halt w stage slot starting =>
    rw [stage] at fits
    obtain ⟨sorted, held, going, -⟩ := fits
    cases slot.symm.trans held
    obtain ⟨running, started, stopped⟩ := outstanding_nil (exclusive.vacant slot starting going)
    refine ⟨.of_running started stopped (fun free => by cases free) (fun w held => ?_), quiet⟩
    cases held
    exact .inr (.inl ⟨starting, rfl, false, by simp [running]⟩)
  | stop now slot stage =>
    have free : lane.slot = none := by rwa [stage] at fits
    obtain ⟨running, started, stopped⟩ := outstanding_nil (exclusive.free free)
    refine ⟨.of_running started stopped (fun free => by cases free) (fun w held => ?_), quiet⟩
    cases held
    exact .inr (.inl ⟨rfl, rfl, true, by simp [running]⟩)
  | late run failed rest results stage free =>
    obtain ⟨w, held, -⟩ := exclusive.started results
    cases held.symm.trans free
  | wanted run failed rest w results stage slot want =>
    obtain ⟨found, held, -, -, same, running, nothing, stopped⟩ := exclusive.started results
    cases slot.symm.trans held
    refine ⟨.of_running nothing stopped (fun free => by cases free) (fun w held => ?_), ?_⟩
    · cases held
      exact .inr (.inl ⟨rfl, rfl, false, by simp [running]⟩)
    · simpa using same
  | broke run rest w results stage slot want =>
    obtain ⟨found, held, -, -, same, running, nothing, stopped⟩ := exclusive.started results
    cases slot.symm.trans held
    exact ⟨.of_running nothing stopped (fun _ => running) (fun w held => by cases held), by simpa using same⟩
  | began run rest w results stage slot want =>
    obtain ⟨found, held, -, going, same, running, nothing, stopped⟩ := exclusive.started results
    cases slot.symm.trans held
    refine ⟨.of_running nothing stopped (fun free => by cases free) (fun w held => ?_), by simpa using same⟩
    cases held
    exact .inr (.inr ⟨rfl, going, running⟩)
  | gone run rest results stage free =>
    obtain ⟨w, held, -⟩ := exclusive.stopped results
    cases held.symm.trans free
  | rest run rest w results stage slot empty =>
    obtain ⟨found, held, -, -, running, started, nothing⟩ := exclusive.stopped results
    exact ⟨.of_running started nothing (fun _ => running) (fun w held => by cases held), quiet⟩
  | again run rest w now results stage slot =>
    obtain ⟨found, held, -, -, running, started, nothing⟩ := exclusive.stopped results
    refine ⟨.of_running started nothing (fun free => by cases free) (fun w held => ?_), quiet⟩
    cases held
    exact .inl ⟨rfl, rfl, by simp [running]⟩
  | startReturned run failed kind under =>
    obtain ⟨running, started, stopped⟩ := exclusive.returned under
    have same : lane.outstanding = [run] := by simp [outstanding, running, started, stopped]
    refine ⟨⟨by simp [started, kind], exclusive.stops, fun free => ?_, fun w slot => ?_⟩, quiet⟩
    · cases same.symm.trans (exclusive.free free)
    · have accounts := exclusive.busy w slot
      rw [same] at accounts
      simpa [outstanding, running, started, stopped] using accounts
  | stopReturned run kind under =>
    obtain ⟨running, started, stopped⟩ := exclusive.returned under
    have same : lane.outstanding = [run] := by simp [outstanding, running, started, stopped]
    refine ⟨⟨exclusive.starts, by simp [stopped, kind], fun free => ?_, fun w slot => ?_⟩, quiet⟩
    · cases same.symm.trans (exclusive.free free)
    · have accounts := exclusive.busy w slot
      rw [same] at accounts
      simpa [outstanding, running, started, stopped] using accounts

end
end Lane

/-- No plugin that a poll has found registered is still being started. -/
def Starter.Settled (starter : Starter) : Prop :=
  ∀ id ∈ starter.task.ready, (starter.waking.get id).all (fun w => !w.starting) = true

instance (starter : Starter) : Decidable starter.Settled := inferInstanceAs (Decidable (∀ id ∈ _, _))

private theorem Stage.ready_of_ofLists {ready expired : List String} {id : String} (stage : Stage.ofLists ready expired id = .ready) :
    id ∈ ready := by
  unfold Stage.ofLists at stage
  split at stage
  next member => exact member
  · split at stage <;> cases stage

private theorem Task.mem_ready {task : Task} {id : String} (stage : task.stage id = .ready) : id ∈ task.ready := by
  unfold Task.stage at stage
  split at stage
  · split at stage <;> cases stage
  · split at stage <;> cases stage
  · split at stage <;> cases stage
  · split at stage <;> cases stage
  · split at stage
    · cases stage
    · split at stage
      · exact Stage.ready_of_ofLists stage
      · cases stage
  · exact Stage.ready_of_ofLists stage
  · exact Stage.ready_of_ofLists stage
  · exact absurd (Stage.ready_of_ofLists stage) List.not_mem_nil
  · split at stage <;> cases stage
  · split at stage <;> cases stage
  · split at stage <;> cases stage
  · cases stage
  · cases stage
  · cases stage

/-- What holds of every plugin in a run in which slots are not drained too early. -/
structure Starter.Separate (registry : Registry) (starter : Starter) : Prop where
  tidy : starter.task.Tidy
  valid : ∀ id, (starter.lane registry id).Valid
  exclusive : ∀ id, (starter.lane registry id).Exclusive id

theorem Starter.Separate.init (registry : Registry) : Starter.Separate registry {} where
  tidy := trivial
  valid id := ⟨trivial, fun w held => by cases (DashMap.get_empty id).symm.trans held⟩
  exclusive id := .of_running rfl rfl (fun _ => rfl) fun w held => by cases (DashMap.get_empty id).symm.trans held

section
variable {registry : Registry} {starter : Starter} (separate : starter.Separate registry)
include separate

theorem Starter.Separate.step (settled : starter.Settled) (startTimeout : Nat) (ambient : Ambient) (event : LazyEvent) :
    let progress := starter.step startTimeout ambient registry event
    progress.starter.Separate progress.registry ∧ ∀ result ∈ progress.applies, result.1.slot = result.2 := by
  intro progress
  have lanes (id : String) : (progress.starter.lane progress.registry id).Valid ∧
      (progress.starter.lane progress.registry id).Exclusive id ∧
      ∀ result ∈ progress.applies.filter (·.1.pluginId == id), result.1.slot = result.2 := by
    obtain ⟨losses, step⟩ := @step_moves id registry starter separate.tidy startTimeout ambient event
    refine ⟨step.valid (separate.valid id), step.exclusive (separate.valid id) (separate.exclusive id) fun w stage slot => ?_⟩
    have fresh := settled id (Task.mem_ready stage)
    have held : starter.waking.get id = some w := slot
    simpa [held] using fresh
  refine ⟨⟨step_tidy separate.tidy _ _ _, fun id => (lanes id).1, fun id => (lanes id).2.1⟩, fun result member => ?_⟩
  exact (lanes result.1.pluginId).2.2 result (List.mem_filter.mpr ⟨member, beq_self_eq_true _⟩)

theorem Starter.Separate.elsewhere (other : Registry) : starter.Separate other where
  tidy := separate.tidy
  valid id := ⟨(separate.valid id).fits, (separate.valid id).short⟩
  exclusive id := ⟨(separate.exclusive id).starts, (separate.exclusive id).stops, (separate.exclusive id).free,
    (separate.exclusive id).busy⟩

theorem Starter.Separate.running (id : String) : (starter.running.filter (·.pluginId == id)).length ≤ 1 := by
  have single := (separate.exclusive id).single
  simp only [Lane.outstanding, List.length_append] at single
  exact Nat.le_trans (Nat.le_add_right ..) single

end

private theorem Waker.separate_run {startTimeout : Nat} {inputs : List WakerInput}
    (settled : (Waker.machine startTimeout).Obeys (fun waker _ => waker.starter.Settled) {} inputs) :
    ((Waker.machine startTimeout).run inputs).starter.Separate ((Waker.machine startTimeout).run inputs).registry ∧
      ∀ result ∈ ((Waker.machine startTimeout).run inputs).applied, result.1.slot = result.2 := by
  refine @Machine.Obeys.run_preserves _ _ (Waker.machine startTimeout)
    (fun waker => waker.starter.Separate waker.registry ∧ ∀ result ∈ waker.applied, result.1.slot = result.2) _
    ⟨.init _, fun _ member => absurd member List.not_mem_nil⟩ (fun waker input settled separate => ?_) inputs settled
  cases input with
  | event ambient event =>
    have stepped := separate.1.step settled startTimeout ambient (waker.receive event).1
    refine ⟨stepped.1, fun result member => ?_⟩
    rcases List.mem_append.mp member with before | now
    · exact separate.2 result before
    · exact stepped.2 result now
  | elsewhere change => exact ⟨separate.1.elsewhere _, separate.2⟩

/-- In a run that drains no slot before its start call has returned, no two calls of the
starter for one plugin run at a time, and a result is applied to the slot that asked for it. -/
theorem lazy_calls_separate (startTimeout : Nat) (inputs : List WakerInput)
    (settled : (Waker.machine startTimeout).Obeys (fun waker _ => waker.starter.Settled) {} inputs) :
    let waker := (Waker.machine startTimeout).run inputs
    (∀ id, (waker.starter.running.filter (·.pluginId == id)).length ≤ 1) ∧
    ∀ result ∈ waker.applied, result.1.slot = result.2 := by
  obtain ⟨separate, applied⟩ := Waker.separate_run settled
  exact ⟨separate.running, applied⟩

/-- The plugin registers by itself, with the action it declares. -/
def registerGreeter (registry : Registry) : Registry :=
  registry.apply (.registerWithDevice ⟨0, 0⟩ "greeter" 7 { actions := ["greet"] } 7 {})

/-- The first call for the plugin, up to the start of its process. -/
def wakeGreeter : List WakerInput :=
  [.event {} (.select (.request "greeter" { msg := greetMessage 1 })), .event {} .resume, .event {} .resume, .event {} .resume]

def pollFully (operations : Nat) : List WakerInput :=
  .event {} (.select .poll) :: List.replicate operations (.event {} .resume)

theorem prompt_wake_separate :
    let inputs := .elsewhere (·.registerDormant greeter) :: wakeGreeter ++
      [.event {} (.returned ⟨.start, "greeter", 0, false⟩ false), .event {} (.select .started), .elsewhere registerGreeter] ++
      pollFully 9
    let waker := (Waker.machine (secs 10)).run inputs
    waker.reinjected.length = 1 ∧ (waker.starter.running.filter (·.pluginId == "greeter")).length ≤ 1 := by
  intro inputs waker
  exact ⟨by decide +kernel, (lazy_calls_separate (secs 10) inputs (by decide +kernel)).1 "greeter"⟩

/-- The plugin registers before its start call returns, is drained, and leaves again; the
next call starts it a second time, and the failure of the first start is applied to the
second. -/
theorem overlapping_starts :
    let inputs := .elsewhere (·.registerDormant greeter) :: wakeGreeter ++ [.elsewhere registerGreeter] ++ pollFully 9 ++
      [.elsewhere (·.apply (.unregister (Shuffle.unchanged String) "greeter"))] ++ wakeGreeter
    let waker := (Waker.machine (secs 10)).run inputs
    let later := (Waker.machine (secs 10)).runFrom waker
      [.event {} (.returned ⟨.start, "greeter", 0, false⟩ true), .event {} (.select .started)]
    waker.starter.running = [⟨.start, "greeter", 0, false⟩, ⟨.start, "greeter", 1, false⟩] ∧
    later.applied = [(⟨.start, "greeter", 0, false⟩, 1)] ∧
    later.failures = [("greeter", { msg := greetMessage 1, receipt := 1 })] := by
  decide +kernel

end Vynkor
