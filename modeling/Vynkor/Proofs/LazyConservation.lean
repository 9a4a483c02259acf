import Vynkor.Proofs.Lanes

/-! No lazy call is lost or served twice: a wake request waits in one queue, was
re-injected once, or was given up once. -/

namespace Vynkor
open Lib

/-- What is known of the slot while the task has its plugin in hand. -/
def Stage.Fits : Stage → Option Waking → Prop
  | .none, _ => True
  | .ready, slot | .expired, slot => ∃ w, slot = some w ∧ w.stopping = false ∧ w.wantStop = false
  | .admitting _, slot | .draining _, slot | .idling, slot | .closing, slot => slot = Option.none

namespace Lane

structure Valid (lane : Lane) : Prop where
  fits : lane.stage.Fits lane.slot
  short : ∀ w, lane.slot = some w → w.queue.length ≤ maxQueued

section
variable {closed : Bool} {id : String} {lane after : Lane} {traffic : Traffic}

theorem Glides.valid (glides : Glides lane after) (valid : lane.Valid) : after.Valid := by
  have fits := valid.fits
  cases glides with
  | stay => exact valid
  | serve call stage | close stage => exact ⟨by rwa [stage] at fits, valid.short⟩
  | finish | miss | spare => exact ⟨trivial, valid.short⟩
  | sort stage w sorted unsorted slot going wanted =>
    rcases sorted with rfl | rfl <;> exact ⟨⟨w, slot, going, wanted⟩, valid.short⟩
  | look stage free => exact ⟨free, valid.short⟩
  | trim => exact ⟨fits, valid.short⟩

theorem Step.valid (step : Step closed id lane traffic after) (valid : lane.Valid) : after.Valid := by
  have fits := valid.fits
  have short := valid.short
  cases step with
  | glide glides => exact glides.valid valid
  | push w call stage slot room => exact ⟨by simp [stage, Stage.Fits], by simpa using Nat.succ_le_of_lt room⟩
  | full call => exact valid
  | enter call stage free => exact ⟨free, short⟩
  | refuse | lose => exact ⟨trivial, short⟩
  | wake call now slot stage => exact ⟨trivial, by simp [maxQueued]⟩
  | reinject call calls now stage => exact ⟨by rwa [stage] at fits, short⟩
  | drain => exact ⟨rfl, by simp⟩
  | expire | halt | stop => exact ⟨trivial, by simp⟩
  | late | gone | startReturned | stopReturned => exact ⟨fits, short⟩
  | wanted run failed rest w results stage slot want | began run rest w results stage slot want
  | again run rest w now results stage slot =>
    exact ⟨by simp [stage, Stage.Fits], by simpa using short w slot⟩
  | broke run rest w results stage slot want | rest run rest w results stage slot empty =>
    exact ⟨by simp [stage, Stage.Fits], by simp⟩

/-- Every call of a lane, and every call that comes in, stays or leaves once. -/
theorem Step.conserves (step : Step closed id lane traffic after) (valid : lane.Valid) :
    (lane.calls ++ traffic.takes).Perm (traffic.reinjects ++ (traffic.losses ++ (traffic.fails ++ after.calls))) := by
  have fits := valid.fits
  cases step with
  | glide glides => simp [glides.calls]
  | push w call stage slot room | drain w stage slot | expire w stage slot starting | halt w stage slot starting
  | broke run rest w results stage slot want => simp [Lane.calls, stage, slot, Stage.calls]
  | full call => exact List.perm_append_singleton ..
  | enter call stage free => simp [Lane.calls, stage, free, Stage.calls]
  | refuse call stage | reinject call calls now stage | lose call calls now shut stage =>
    simp [Lane.calls, stage, Stage.calls]
  | wake call now slot stage | stop now slot stage =>
    have free : lane.slot = none := by rwa [stage] at fits
    simp [Lane.calls, stage, free, Stage.calls]
  | late | gone | startReturned | stopReturned => simp [Lane.calls]
  | wanted run failed rest w results stage slot want | began run rest w results stage slot want
  | again run rest w now results stage slot => simp [Lane.calls, slot]
  | rest run rest w results stage slot empty => simp [Lane.calls, slot, empty]

theorem Step.losses (step : Step false id lane traffic after) : traffic.losses = [] := by
  cases step with
  | lose call calls now shut stage => cases shut
  | _ => rfl

end
end Lane

private theorem count_callsFor (id : String) (call : Call) (requests : List (String × Call)) :
    (callsFor id requests).count call = requests.count (id, call) := by
  induction requests with
  | nil => rfl
  | cons request rest ih =>
    obtain ⟨pluginId, other⟩ := request
    by_cases same : pluginId = id
    · subst same
      by_cases equal : other = call
      · subst equal
        simpa [callsFor] using ih
      · simpa [callsFor, equal] using ih
    · simpa [callsFor, same] using ih

namespace Waker

/-- How often the call waits in the queue of plugin `id`. -/
def waiting (waker : Waker) (id : String) (call : Call) : Nat :=
  (((waker.starter.waking.get id).map Waking.queue).getD []).count call

def failures (waker : Waker) : List (String × Call) := waker.failed.map Failure.request

structure Balanced (waker : Waker) : Prop where
  tidy : waker.starter.task.Tidy
  valid : ∀ id, (waker.starter.lane waker.registry id).Valid
  routed : waker.starter.routerClosed = false
  conserved : ∀ id, (callsFor id waker.received).Perm (callsFor id waker.reinjected ++
    (callsFor id waker.failures ++ (waker.starter.lane waker.registry id).calls))
  numbered : waker.received.map (·.2.receipt) = List.range waker.received.length

variable {startTimeout : Nat} {waker : Waker}

private theorem receive_takes (event : LazyEvent) : (waker.receive event).2 = waker.starter.takes (waker.receive event).1 := by
  unfold receive
  split
  next pluginId call =>
    split
    next idle => simp [Starter.takes, idle]
    next busy => simp [Starter.takes, busy]
  next other =>
    unfold Starter.takes
    split
    next requested => exact (other _ _ requested).elim
    · rfl

private theorem receive_numbered (event : LazyEvent) (numbered : waker.received.map (·.2.receipt) = List.range waker.received.length) :
    (waker.received ++ (waker.receive event).2).map (·.2.receipt) =
      List.range (waker.received ++ (waker.receive event).2).length := by
  have single (call : String × Call) (next : call.2.receipt = waker.received.length) :
      (waker.received ++ [call]).map (·.2.receipt) = List.range (waker.received ++ [call]).length := by
    rw [List.map_append, numbered, List.length_append, List.length_singleton, List.range_succ, List.map_singleton, next]
  unfold receive
  split
  · split
    · exact single _ rfl
    · simpa using numbered
  · simpa using numbered

private theorem receive_closeRouter {event : LazyEvent} (other : event ≠ .closeRouter) : (waker.receive event).1 ≠ .closeRouter := by
  unfold receive
  split
  · split <;> exact LazyEvent.noConfusion
  · exact other

theorem Balanced.event (balanced : waker.Balanced) {event : LazyEvent} (other : event ≠ .closeRouter) (ambient : Ambient) :
    (waker.step startTimeout (.event ambient event)).Balanced := by
  have moves (id : String) := @step_moves id waker.registry waker.starter balanced.tidy startTimeout ambient (waker.receive event).1
  refine ⟨step_tidy balanced.tidy _ _ _, fun id => ?_, ?_, fun id => ?_, receive_numbered event balanced.numbered⟩
  · obtain ⟨losses, step⟩ := moves id
    exact step.valid (balanced.valid id)
  · exact (step_routerClosed (receive_closeRouter other) startTimeout ambient).trans balanced.routed
  · obtain ⟨losses, step⟩ := moves id
    rw [balanced.routed] at step
    have lost := step.losses
    have moved := step.conserves (balanced.valid id)
    rw [lost, ← receive_takes event] at moved
    have before := balanced.conserved id
    rw [List.perm_iff_count] at moved before ⊢
    intro call
    have moved := moved call
    have before := before call
    simp only [Waker.step, Waker.failures, Progress.traffic, List.map_append, callsFor_append, List.count_append,
      List.count_nil] at moved before ⊢
    omega

theorem Balanced.elsewhere (balanced : waker.Balanced) (change : Registry → Registry) :
    Balanced { waker with registry := change waker.registry } :=
  ⟨balanced.tidy, fun id => ⟨(balanced.valid id).fits, (balanced.valid id).short⟩, balanced.routed, balanced.conserved,
    balanced.numbered⟩

theorem Balanced.run (inputs : List WakerInput) (stays : ∀ ambient, .event ambient .closeRouter ∉ inputs) :
    ((machine startTimeout).run inputs).Balanced := by
  have obeys : (machine startTimeout).Obeys (fun _ input => ∀ ambient, input ≠ .event ambient .closeRouter)
      (machine startTimeout).init inputs := by
    refine Machine.obeys_of_forall fun input member ambient same => stays ambient ?_
    exact same ▸ member
  refine obeys.run_preserves ?_ ?_
  · refine ⟨trivial, fun id => ⟨trivial, fun w held => ?_⟩, rfl, fun id => .refl _, rfl⟩
    cases (DashMap.get_empty id).symm.trans held
  · intro waker input other balanced
    cases input with
    | event ambient event => exact balanced.event (fun same => other ambient (congrArg _ same)) ambient
    | elsewhere change => exact balanced.elsewhere change

theorem Balanced.once (balanced : waker.Balanced) (idle : waker.starter.task = .idle) (id : String) (call : Call) :
    waker.waiting id call + waker.reinjected.count (id, call) + waker.failures.count (id, call) =
      waker.received.count (id, call) := by
  have counts := (balanced.conserved id).count_eq call
  have calls : (waker.starter.lane waker.registry id).calls = ((waker.starter.waking.get id).map Waking.queue).getD [] := by
    simp [Lane.calls, Starter.lane, idle, Task.stage, Stage.calls]
  rw [calls] at counts
  simp only [List.count_append, count_callsFor] at counts
  unfold waiting
  omega

private theorem Balanced.received_nodup (balanced : waker.Balanced) : (waker.received.map (·.2.receipt)).Nodup := by
  rw [balanced.numbered]
  exact List.nodup_range

private theorem Balanced.received_unique (balanced : waker.Balanced) {id other : String} {call : Call}
    (received : (id, call) ∈ waker.received) (elsewhere : (other, call) ∈ waker.received) : other = id := by
  have same := List.inj_on_of_nodup_map balanced.received_nodup elsewhere received rfl
  exact congrArg Prod.fst same

end Waker

def Failure.Told (failure : Failure) : Prop :=
  ∃ status error, (status = .actionError ∨ status = .actionNotFound) ∧
    failure.answer = failMsg failure.call.msg status error

private theorem failQueue_told (pluginId : String) (queue : List Call) : ∀ failure ∈ failQueue pluginId queue, failure.Told := by
  intro failure member
  obtain ⟨call, -, rfl⟩ := List.mem_map.mp member
  exact ⟨.actionError, _, .inl rfl, rfl⟩

section
variable {registry : Registry} {starter : Starter}

private theorem resume_told (startTimeout : Nat) (ambient : Ambient) :
    ∀ failure ∈ (starter.resume startTimeout ambient registry).fails, failure.Told := by
  have silent : ∀ failure ∈ ([] : List Failure), failure.Told := fun _ member => absurd member List.not_mem_nil
  unfold Starter.resume
  split <;> try exact silent
  · split
    · exact silent
    · intro failure member
      cases List.mem_singleton.mp member
      exact ⟨.actionNotFound, _, .inr rfl, rfl⟩
  · split <;> exact silent
  · unfold Starter.expireOne
    simp only
    split
    · exact silent
    · exact failQueue_told _ _
  · unfold Starter.trimOne
    simp only
    split <;> exact silent
  · unfold Starter.sweepOne
    simp only
    split
    · exact silent
    · split
      · exact silent
      · split <;> exact silent

private theorem select_told (ambient : Ambient) (arm : Arm) :
    ∀ failure ∈ (starter.select ambient registry arm).fails, failure.Told := by
  have silent : ∀ failure ∈ ([] : List Failure), failure.Told := fun _ member => absurd member List.not_mem_nil
  cases arm with
  | request =>
    simp only [Starter.select, Starter.onWakeRequest]
    split
    · split
      · intro failure member
        cases List.mem_singleton.mp member
        exact ⟨.actionError, _, .inl rfl, rfl⟩
      · exact silent
    · exact silent
  | started =>
    simp only [Starter.select, Starter.onStartResult]
    split
    · exact silent
    · split
      · exact silent
      · split
        · exact silent
        · split
          · exact failQueue_told _ _
          · exact silent
  | stopped =>
    simp only [Starter.select, Starter.onStopped]
    split
    · exact silent
    · split
      · exact silent
      · split <;> exact silent
  | poll =>
    simp only [Starter.select]
    split <;> exact silent
  | sweep => exact silent

private theorem step_told (startTimeout : Nat) (ambient : Ambient) (event : LazyEvent) :
    ∀ failure ∈ (starter.step startTimeout ambient registry event).fails, failure.Told := by
  cases event with
  | select arm =>
    simp only [Starter.step]
    split
    · exact select_told ambient arm
    · exact fun _ member => absurd member List.not_mem_nil
  | resume => exact resume_told startTimeout ambient
  | returned | closeRouter => exact fun _ member => absurd member List.not_mem_nil

end

theorem Waker.told (startTimeout : Nat) (inputs : List WakerInput) :
    ∀ failure ∈ ((Waker.machine startTimeout).run inputs).failed, failure.Told := by
  refine @Machine.run_preserves _ _ (Waker.machine startTimeout) (fun waker => ∀ failure ∈ waker.failed, failure.Told)
    (fun _ member => absurd member List.not_mem_nil) (fun waker input told => ?_) inputs
  cases input with
  | event ambient event =>
    intro failure member
    rcases List.mem_append.mp member with before | now
    · exact told failure before
    · exact step_told startTimeout ambient _ failure now
  | elsewhere change => exact told

theorem Failure.Told.answer {failure : Failure} (told : failure.Told) {envelope : Envelope} {request : ActionRequest}
    (decoded : failure.call.msg.frame.payload.decode = some envelope) (asks : envelope.payload = .actionRequest request) :
    ∃ status error, (status = .actionError ∨ status = .actionNotFound) ∧
      failure.answer = some (sendEnvelope failure.call.msg.writeTx
        { messageId := envelope.messageId, payload := .actionResponse ⟨request.actionId, status, [], error⟩ }) := by
  obtain ⟨status, error, failing, answered⟩ := told
  refine ⟨status, error, failing, answered.trans ?_⟩
  unfold failMsg
  simp only [decoded, asks]

/-- While the router channel is open, a wake request that was received is, between two
events, in one queue, or re-injected once, or given up once with an answer; and no queue
is longer than the bound. -/
theorem lazy_calls_conserved (startTimeout : Nat) (inputs : List WakerInput)
    (stays : ∀ ambient, .event ambient .closeRouter ∉ inputs) :
    let waker := (Waker.machine startTimeout).run inputs
    (waker.starter.task = .idle → ∀ id call, (id, call) ∈ waker.received →
      waker.waiting id call + waker.reinjected.count (id, call) + waker.failures.count (id, call) = 1 ∧
      ∀ other, other ≠ id →
        waker.waiting other call = 0 ∧ waker.reinjected.count (other, call) = 0 ∧ waker.failures.count (other, call) = 0) ∧
    (∀ failure ∈ waker.failed, ∀ envelope request, failure.call.msg.frame.payload.decode = some envelope →
      envelope.payload = .actionRequest request → ∃ status error, (status = .actionError ∨ status = .actionNotFound) ∧
        failure.answer = some (sendEnvelope failure.call.msg.writeTx
          { messageId := envelope.messageId, payload := .actionResponse ⟨request.actionId, status, [], error⟩ })) ∧
    ∀ id w, waker.starter.waking.get id = some w → w.queue.length ≤ maxQueued := by
  intro waker
  have balanced := @Waker.Balanced.run startTimeout inputs stays
  refine ⟨fun idle id call received => ⟨?_, fun other apart => ?_⟩, ?_, ?_⟩
  · rw [balanced.once idle]
    exact List.count_eq_one_of_mem (List.Nodup.of_map _ balanced.received_nodup) received
  · have once := balanced.once idle other call
    have absent : waker.received.count (other, call) = 0 :=
      List.count_eq_zero.mpr fun member => apart (balanced.received_unique received member)
    have none : waker.waiting other call + waker.reinjected.count (other, call) + waker.failures.count (other, call) = 0 :=
      once.trans absent
    omega
  · intro failure member envelope request decoded asks
    exact (Waker.told startTimeout inputs failure member).answer decoded asks
  · intro id w held
    exact (balanced.valid id).short w held

def greeter : DormantPlugin := ⟨"greeter", [{ name := "greet" }], secs 60⟩

/-- A request for the plugin's action, with its payload at this address. -/
def greetMessage (frameAddr : Nat) : IncomingMessage where
  connId := 1
  writeTx := 1
  frameAddr := frameAddr
  frame :=
    let request : ActionRequest := { actionId := "a", action := "greet" }
    { target := some "kernel", payload := .envelope { messageId := "m", payload := .actionRequest request } }

/-- A call wakes the plugin and a second one queues behind it; then the start fails. -/
def failedWake : List WakerInput :=
  [.elsewhere fun registry => registry.registerDormant greeter,
   .event {} (.select (.request "greeter" { msg := greetMessage 1 })), .event {} .resume, .event {} .resume, .event {} .resume,
   .event {} (.select (.request "greeter" { msg := greetMessage 2 })),
   .event {} (.returned ⟨.start, "greeter", 0, false⟩ true), .event {} (.select .started)]

theorem failedWake_conserved :
    let waker := (Waker.machine 0).run failedWake
    waker.waiting "greeter" { msg := greetMessage 2, receipt := 1 } +
      waker.reinjected.count ("greeter", { msg := greetMessage 2, receipt := 1 }) +
      waker.failures.count ("greeter", { msg := greetMessage 2, receipt := 1 }) = 1 := by
  intro waker
  have stays : ∀ ambient, .event ambient .closeRouter ∉ failedWake := by simp [failedWake]
  exact ((lazy_calls_conserved 0 failedWake stays).1 (by decide +kernel) "greeter" _ (by decide +kernel)).1

end Vynkor
