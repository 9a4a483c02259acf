import Vynkor.Proofs.GateFrames
import Vynkor.Proofs.LazyExclusion
import Vynkor.Proofs.LazyOrder
import Vynkor.Proofs.SystemRuns

/-! The idle stop. The sweep reads the idle time, looks for pending actions, holds the gate
and issues the stop in four operations. If nothing was on its way to the plugin when the
gate was held, nothing reaches it until the stop is over. -/

namespace Vynkor
open Lib

namespace Lane

/-- The sweep has held the gate for an idle stop that is not over. -/
def Stopping (lane : Lane) : Prop :=
  lane.stage = .closing ∨ ∃ run ∈ lane.running, run.kind = .stop ∧ run.idle = true

instance (lane : Lane) : Decidable lane.Stopping := inferInstanceAs (Decidable (_ ∨ _))

section
variable {closed : Bool} {id : String} {lane after : Lane} {traffic : Traffic}

private theorem not_stopping (apart : lane.stage ≠ .closing) (none : ∀ run ∈ lane.running, run.kind = .stop → run.idle = false) :
    ¬ lane.Stopping := by
  rintro (closing | ⟨run, under, kind, idle⟩)
  · exact apart closing
  · cases idle.symm.trans (none run under kind)

theorem Stopping.before (stopping : after.Stopping) (apart : after.stage ≠ .closing)
    (inside : ∀ run ∈ after.running, run.idle = true → run ∈ lane.running) : lane.Stopping := by
  obtain ⟨run, under, kind, idle⟩ := stopping.resolve_left apart
  exact .inr ⟨run, inside run under idle, kind, idle⟩

theorem Glides.stopping (glides : Glides lane after) (exclusive : lane.Exclusive id) (stopping : after.Stopping) :
    (lane.Stopping ∧ after.gate = lane.gate) ∨
      (lane.stage = .idling ∧ after.stage = .closing ∧ after.gate = some (lane.gate.getD ∅)) := by
  have same : ∀ run ∈ lane.running, run.idle = true → run ∈ lane.running := fun _ under _ => under
  cases glides with
  | stay => exact .inl ⟨stopping, rfl⟩
  | serve | finish | miss | look | spare => exact .inl ⟨stopping.before (by simp) same, rfl⟩
  | sort stage w sorted unsorted slot going wanted =>
    refine .inl ⟨stopping.before ?_ same, rfl⟩
    rintro (rfl : stage = .closing)
    simp at sorted
  | close stage => exact .inr ⟨stage, rfl, rfl⟩
  | trim gate fewer stage free =>
    have running := (outstanding_nil (exclusive.free free)).1
    exact absurd stopping (not_stopping (by simp [stage]) (by simp [running]))

/-- An idle stop begins when the sweep holds the gate, and the gate stays as it is until
the stop is over. -/
theorem Step.stopping (step : Step closed id lane traffic after) (valid : lane.Valid) (exclusive : lane.Exclusive id)
    (stopping : after.Stopping) :
    (lane.Stopping ∧ after.gate = lane.gate) ∨
      (lane.stage = .idling ∧ after.stage = .closing ∧ after.gate = some (lane.gate.getD ∅)) := by
  have fits := valid.fits
  have same : ∀ run ∈ lane.running, run.idle = true → run ∈ lane.running := fun _ under _ => under
  cases step with
  | glide glides => exact glides.stopping exclusive stopping
  | push | full | late | began | gone => exact .inl ⟨stopping, rfl⟩
  | enter | refuse | drain => exact .inl ⟨stopping.before (by simp) same, rfl⟩
  | wake call now slot stage | reinject call calls now stage | lose call calls now shut stage =>
    rw [stage] at fits
    have running := (outstanding_nil (exclusive.free fits)).1
    exact absurd stopping (not_stopping (by simp) (by simp [running]))
  | expire w stage slot starting =>
    have runs : lane.outstanding = [⟨.start, id, w.slot, false⟩] := by
      rcases exclusive.busy w slot with ⟨-, -, runs⟩ | ⟨idle, -⟩ | ⟨idle, -⟩
      · exact runs
      · cases starting.symm.trans idle
      · cases starting.symm.trans idle
    refine absurd stopping (not_stopping (by simp) fun run under kind => ?_)
    have only : run ∈ lane.outstanding := List.mem_append_left _ under
    rw [runs, List.mem_singleton] at only
    rw [only]
  | halt w stage slot starting =>
    rw [stage] at fits
    obtain ⟨sorted, held, going, -⟩ := fits
    cases slot.symm.trans held
    have running := (outstanding_nil (exclusive.vacant slot starting going)).1
    exact absurd stopping (not_stopping (by simp) (by simp [running]))
  | stop now slot stage => exact .inl ⟨.inl stage, rfl⟩
  | wanted run failed rest w results stage slot want =>
    refine .inl ⟨stopping.before (by simp [stage]) fun other under idle => ?_, rfl⟩
    rcases List.mem_append.mp under with before | new
    · exact before
    · cases List.mem_singleton.mp new
      cases idle
  | broke run rest w results stage slot want =>
    obtain ⟨-, -, -, -, -, running, -⟩ := exclusive.started results
    exact absurd stopping (not_stopping (by simp [stage]) (by simp [running]))
  | rest run rest w results stage slot empty | again run rest w now results stage slot =>
    obtain ⟨-, -, -, -, running, -⟩ := exclusive.stopped results
    exact absurd stopping (not_stopping (by simp [stage]) (by simp [running]))
  | startReturned | stopReturned =>
    exact .inl ⟨stopping.imp_right fun ⟨other, left, stops⟩ => ⟨other, List.mem_of_mem_erase left, stops⟩, rfl⟩

end
end Lane

/-- The gate of the plugin lets no frame through, and no request is pending with it. -/
structure Registry.Sealed (registry : Registry) (id : String) : Prop where
  gate : ∃ gate, registry.lazyGates.get id = some gate ∧ ∀ frameAddr, gate.get frameAddr = none
  unused : ∀ key pending, registry.pendingActions.get key = some pending → pending.providerId ≠ id

/-- The frame goes to the plugin without asking its gate: the plugin is the host of the
bridge, or the frame asks one of its capabilities by name. -/
def Registry.bypassed (registry : Registry) (id : String) (frame : Frame) : Bool :=
  (registry.getByConnId bridgeConnIdBase).any (·.pluginId == id) ||
  frame.target.any fun target =>
    (muxRequest target frame).isSome && (registry.getMux target).any (·.pluginId == id)

/-- The lookup of the action ends at the plugin, live or dormant. -/
def Registry.offers (registry : Registry) (id action : String) : Bool :=
  match registry.findActionProvider action with
  | .found provider => provider.pluginId == id
  | .dormant pluginId => pluginId == id
  | _ => false

section
variable {registry after : Registry} {id : String}

private theorem Registry.Sealed.of_moves {input : Input} {kernel later : Kernel} {sends : List Send}
    (closed : kernel.registry.Sealed id) (moves : Moves input kernel later sends)
    (gates : later.registry.lazyGates = kernel.registry.lazyGates) : later.registry.Sealed id where
  gate := gates ▸ closed.gate
  unused key pending held := by
    obtain ⟨old, there, same⟩ := moves.descends held
    exact same.providerId ▸ closed.unused key old there

private theorem Registry.Sealed.of_hold (unused : registry.hasPendingForProvider id = false)
    (empty : (registry.lazyGates.get id).all (fun gate => gate.keys.isEmpty) = true)
    (gate : after.lazyGates.get id = some ((registry.lazyGates.get id).getD ∅))
    (pending : after.pendingActions = registry.pendingActions) : after.Sealed id where
  gate := by
    refine ⟨_, gate, fun frameAddr => ?_⟩
    cases held : registry.lazyGates.get id with
    | none => exact DashMap.get_empty frameAddr
    | some found =>
      simp only [held, Option.all_some, List.isEmpty_iff] at empty
      refine Option.eq_none_iff_forall_ne_some.mpr fun value there => ?_
      have member := (DashMap.mem_keys found frameAddr).mpr ⟨value, there⟩
      rw [empty] at member
      cases member
  unused key entry held mine := by
    rw [pending] at held
    have used := (DashMap.any_iff _ fun pending : PendingAction => pending.providerId == id).mpr
      ⟨key, entry, held, beq_iff_eq.mpr mine⟩
    cases used.symm.trans unused

theorem Registry.Sealed.touchUsed (closed : registry.Sealed id) (clock : Clock) (pluginId : String) :
    (registry.touchUsed clock pluginId).Sealed id where
  gate := by simpa using closed.gate
  unused := by simpa using closed.unused

theorem Registry.Sealed.registerPendingAction (closed : registry.Sealed id) (key : String) {pending : PendingAction}
    (apart : pending.providerId ≠ id) : (registry.registerPendingAction key pending).Sealed id where
  gate := closed.gate
  unused other found held := by
    rcases DashMap.insert_cases held with ⟨-, rfl⟩ | ⟨-, before⟩
    · exact apart
    · exact closed.unused other found before

theorem Registry.Sealed.takePendingAction (closed : registry.Sealed id) (key : String) :
    (registry.takePendingAction key).1.Sealed id where
  gate := closed.gate
  unused other found held := closed.unused other found (DashMap.remove_some.mp held).2

theorem Registry.Sealed.gatedLookup (closed : registry.Sealed id) (action : String) (frameAddr : Nat) :
    (Vynkor.gatedLookup registry action frameAddr).2.Sealed id ∧
    ∀ provider, (Vynkor.gatedLookup registry action frameAddr).1 = .found provider → provider.pluginId ≠ id := by
  obtain ⟨gate, held, none⟩ := closed.gate
  unfold Vynkor.gatedLookup
  split
  next provider found =>
    by_cases mine : provider.pluginId = id
    · subst mine
      have refused : gate.containsKey frameAddr = false := (DashMap.containsKey_false ..).mpr (none frameAddr)
      simp only [Registry.lazyGatePasses, held, refused]
      refine ⟨⟨⟨_, (DashMap.get_insert ..).trans (if_pos rfl), fun addr => ?_⟩, closed.unused⟩, fun provider passed => ?_⟩
      · rw [DashMap.get_remove]
        split
        · rfl
        · exact none addr
      · cases passed
    · refine ⟨?_, fun other passed => ?_⟩
      · unfold Registry.lazyGatePasses
        split
        · exact closed
        · refine ⟨⟨gate, ?_, none⟩, closed.unused⟩
          rw [DashMap.get_insert, if_neg (Ne.symm mine)]
          exact held
      · simp only at passed
        split at passed
        · cases passed
          exact mine
        · cases passed
  next other unfound => exact ⟨closed, fun provider found => absurd found (unfound provider)⟩

private theorem Registry.Sealed.gatedLookup_offered (closed : registry.Sealed id) {action : String}
    (offers : registry.offers id action = true) (frameAddr : Nat) :
    (Vynkor.gatedLookup registry action frameAddr).1 = .dormant id := by
  obtain ⟨gate, held, none⟩ := closed.gate
  unfold Registry.offers at offers
  unfold Vynkor.gatedLookup
  split at offers
  next provider found =>
    cases beq_iff_eq.mp offers
    have refused : gate.containsKey frameAddr = false := (DashMap.containsKey_false ..).mpr (none frameAddr)
    simp [found, Registry.lazyGatePasses, held, refused]
  next pluginId found =>
    cases beq_iff_eq.mp offers
    simp [found]
  · cases offers

end

section
variable {id : String} (config : Config) (ambient : Ambient) (kernel : Kernel) (msg : IncomingMessage) (messageId : String)

private theorem dispatch_sealed {kernel : Kernel} (closed : kernel.registry.Sealed id) (request : ActionRequest) (sender : String)
    {providerId : String} (apart : providerId ≠ id) :
    (kernel.dispatch config ambient msg request sender providerId).registry.Sealed id :=
  closed.registerPendingAction _ apart

private theorem handleActionRequest_sealed {kernel : Kernel} (closed : kernel.registry.Sealed id) (request : ActionRequest)
    (host : ∀ entry, kernel.registry.getByConnId bridgeConnIdBase = some entry → entry.pluginId ≠ id) :
    (handleActionRequest config ambient kernel msg messageId request).kernel.registry.Sealed id := by
  have requests := handleActionRequest_cases config ambient kernel msg messageId request
  obtain ⟨passed, apart⟩ := closed.gatedLookup request.action msg.frameAddr
  obtain ⟨gates, opened⟩ := gatedLookup_registry kernel.registry request.action msg.frameAddr
  generalize handleActionRequest config ambient kernel msg messageId request = outcome at requests ⊢
  cases requests with
  | refused | woken => exact passed
  | delivered provider found guards =>
    exact (dispatch_sealed config ambient msg passed request _ (apart provider found)).touchUsed _ _
  | relayed entry missing allowed bridged inside there room =>
    have elsewhere := host entry (by rw [opened] at there; exact there)
    exact dispatch_sealed config ambient msg passed request _ elsewhere
  | withdrawn entry missing allowed bridged inside there full =>
    have elsewhere := host entry (by rw [opened] at there; exact there)
    exact (dispatch_sealed config ambient msg passed request _ elsewhere).takePendingAction _

private theorem forward_sealed {kernel : Kernel} {target : String} (closed : kernel.registry.Sealed id)
    (named : (muxRequest target msg.frame).isSome = true → ∀ entry, kernel.registry.getMux target = some entry →
      entry.pluginId ≠ id) :
    (forward config ambient kernel msg target).kernel.registry.Sealed id := by
  have forwards := forward_cases config ambient kernel msg target
  generalize forward config ambient kernel msg target = outcome at forwards ⊢
  cases forwards with
  | refused | relayed => exact closed
  | delivered sender entry registered granted resolved =>
    simp only
    split
    next request wanted => exact closed.registerPendingAction _ (named (by rw [wanted]; rfl) entry resolved)
    · exact closed

private theorem handleKernelMessage_sealed {kernel : Kernel} (targeted : msg.frame.target = some "kernel")
    (closed : kernel.registry.Sealed id)
    (host : ∀ entry, kernel.registry.getByConnId bridgeConnIdBase = some entry → entry.pluginId ≠ id) :
    (routeMessage config ambient kernel msg "kernel").kernel.registry.Sealed id := by
  by_cases asks : ∃ envelope request, msg.frame.payload.decode = some envelope ∧ envelope.payload = .actionRequest request
  · obtain ⟨envelope, request, decoded, payload⟩ := asks
    unfold routeMessage handleKernelMessage
    simp only [if_pos, decoded, payload]
    split
    · exact closed
    · exact handleActionRequest_sealed config ambient msg envelope.messageId closed request host
  · have other : ∀ envelope request, msg.frame.payload.decode = some envelope → envelope.payload ≠ .actionRequest request :=
      fun envelope request decoded payload => asks ⟨envelope, request, decoded, payload⟩
    have step := @routeMessage_step config ambient kernel msg ambient "kernel" targeted
    refine closed.of_moves (step.moves fun {_ sent envelope request} same decoded => ?_) ?_
    · cases same
      exact other envelope request decoded
    · exact (handleKernelMessage_ungated config ambient kernel msg other).1

private theorem routeMessage_sealed {kernel : Kernel} {target : String} (targeted : msg.frame.target = some target)
    (closed : kernel.registry.Sealed id) (gated : kernel.registry.bypassed id msg.frame = false) :
    (routeMessage config ambient kernel msg target).kernel.registry.Sealed id := by
  simp only [Registry.bypassed, targeted, Option.any_some, Bool.or_eq_false_iff, Bool.and_eq_false_iff] at gated
  have host : ∀ entry, kernel.registry.getByConnId bridgeConnIdBase = some entry → entry.pluginId ≠ id :=
    fun entry there => by simpa [there] using gated.1
  by_cases kernelTarget : target = "kernel"
  · subst kernelTarget
    exact handleKernelMessage_sealed config ambient msg targeted closed host
  · unfold routeMessage
    rw [if_neg kernelTarget]
    split
    · have broadcasts := (broadcast_cases ambient kernel msg).silent.1
      rw [broadcasts]
      exact closed
    · refine forward_sealed config ambient msg closed fun wanted entry resolved => ?_
      rcases gated.2 with unwanted | elsewhere
      · cases unwanted.symm.trans wanted
      · simpa [resolved] using elsewhere

private theorem System.handleMessage_sealed {system : System} (closed : system.kernel.registry.Sealed id)
    (gated : system.kernel.registry.bypassed id msg.frame = false) :
    (system.handleMessage config ambient msg).kernel.registry.Sealed id := by
  have handles := System.handleMessage_cases config system ambient msg
  generalize system.handleMessage config ambient msg = after at handles ⊢
  cases handles with
  | limited | untargeted | dropped => exact closed
  | routed target unlimited targeted within => exact routeMessage_sealed config _ msg targeted closed gated

private theorem chooseRoute_dormant (registry : Registry) (sender : String) (denied : Bool) (action : String) :
    chooseRoute config ambient registry sender denied (.dormant id) action ∈ [.denied, .forbidden, .quota, .wake id] := by
  unfold chooseRoute
  split
  · simp
  · rcases guarded_cases config ambient registry sender id false action (.wake id) with forbidden | quota | ⟨passed, -⟩
    · simp [forbidden]
    · simp [quota]
    · simp [passed]

end

private theorem Task.stage_idling {task : Task} {id : String} (idling : task.stage id = .idling) :
    (∃ now dormant rest, task = .pending now dormant rest ∧ dormant.pluginId = id) ∨
    ∃ now dormant rest, task = .hold now dormant rest ∧ dormant.pluginId = id := by
  have unlisted {ready expired : List String} : Stage.ofLists ready expired id ≠ .idling := by
    unfold Stage.ofLists
    split
    · exact Stage.noConfusion
    · split <;> exact Stage.noConfusion
  cases task with
  | pending now dormant rest =>
    simp only [Task.stage] at idling
    split at idling
    next same => exact .inl ⟨now, dormant, rest, rfl, same⟩
    · cases idling
  | hold now dormant rest =>
    simp only [Task.stage] at idling
    split at idling
    next same => exact .inr ⟨now, dormant, rest, rfl, same⟩
    · cases idling
  | reinject =>
    simp only [Task.stage] at idling
    split at idling
    · cases idling
    · split at idling
      · exact (unlisted idling).elim
      · cases idling
  | survey | drain | expire => exact (unlisted idling).elim
  | idle | trim | sweep => cases idling
  | enter | serve | touch | wake | stop =>
    simp only [Task.stage] at idling
    split at idling <;> cases idling

private theorem Starter.step_closes {startTimeout : Nat} {ambient : Ambient} {registry : Registry} {starter : Starter} {id : String}
    {event : LazyEvent} (idling : starter.task.stage id = .idling)
    (closing : (starter.step startTimeout ambient registry event).starter.task.stage id = .closing) :
    event = .resume ∧ ∃ now dormant rest, starter.task = .hold now dormant rest ∧ dormant.pluginId = id := by
  have still (same : (starter.step startTimeout ambient registry event).starter.task = starter.task) : False := by
    rw [same, idling] at closing
    cases closing
  cases event with
  | select arm =>
    refine (still ?_).elim
    have busy : starter.task ≠ .idle := fun idle => by
      rw [idle] at idling
      cases idling
    simp only [Starter.step, if_neg busy]
  | resume =>
    refine ⟨rfl, ?_⟩
    rcases Task.stage_idling idling with ⟨now, dormant, rest, task, same⟩ | ⟨now, dormant, rest, task, same⟩
    · simp only [Starter.step, Starter.resume, task] at closing
      split at closing
      · cases closing
      · simp only [Task.stage, same, if_pos] at closing
        cases closing
    · exact ⟨now, dormant, rest, task, same⟩
  | returned =>
    refine (still ?_).elim
    simp only [Starter.step, Starter.returned]
    split
    · split <;> rfl
    · rfl
  | closeRouter => exact (still rfl).elim

namespace Exchange

/-- Nothing is on its way to the plugin, and nothing gets past its gate. -/
structure Still (exchange : Exchange) (id : String) : Prop where
  shut : exchange.system.kernel.registry.Sealed id
  apart : exchange.underway id = []

/-- Whether the hold of a sweep finds the plugin unused, and whether frames that ask no gate
leave it alone while it is being stopped. -/
def undisturbed (id : String) (exchange : Exchange) : ExchangeInput → Bool
  | .waker _ .resume =>
    let registry := exchange.system.kernel.registry
    match exchange.starter.task with
    | .hold _ dormant _ => dormant.pluginId != id ||
        (exchange.underway id == [] && !registry.hasPendingForProvider id &&
          (registry.lazyGates.get id).all fun gate => gate.keys.isEmpty)
    | _ => true
  | .route _ =>
    match exchange.inbox with
    | call :: _ => !(decide (exchange.lane id).Stopping && exchange.system.kernel.registry.bypassed id call.msg.frame)
    | [] => true
  | _ => true

structure Calm (id : String) (exchange : Exchange) : Prop where
  separate : exchange.starter.Separate exchange.system.kernel.registry
  still : (exchange.lane id).Stopping → exchange.Still id

section
variable {config : Config} {startTimeout : Nat} {exchange after : Exchange} {id : String}

theorem Still.route (still : exchange.Still id) (ambient : Ambient)
    (gated : ∀ call ∈ exchange.inbox.head?, exchange.system.kernel.registry.bypassed id call.msg.frame = false) :
    (exchange.route config ambient).Still id := by
  unfold Exchange.route
  split
  next call inbox idle next =>
    split
    next handover found =>
      have hands := handover_some found
      obtain ⟨shut, apart⟩ := still.shut.gatedLookup handover.request.action call.msg.frameAddr
      have elsewhere := apart handover.provider (Kernel.route_deliver hands.route)
      exact ⟨shut, by simp [underway, elsewhere]⟩
    next missed =>
      refine ⟨?_, by simp [underway, idle]⟩
      exact @System.handleMessage_sealed id config ambient call.msg { exchange.system with wakes := [] } still.shut
        (gated call (by simp [next]))
  · exact still

theorem Still.advance (still : exchange.Still id) : (exchange.advance config).Still id := by
  unfold Exchange.advance
  have apart := still.apart
  split
  · exact still
  next handover pass =>
    have elsewhere : handover.provider.pluginId ≠ id := by simpa [underway, pass] using apart
    exact ⟨dispatch_sealed config _ _ still.shut _ _ elsewhere, by simp [underway, elsewhere]⟩
  next handover internalId pass => exact ⟨still.shut, rfl⟩
  next handover pass => exact ⟨still.shut.touchUsed _ _, rfl⟩

theorem Still.elsewhere (still : exchange.Still id) {input : Input} (foreign : input.foreign = true) :
    Still { exchange with system := exchange.system.step config input } id := by
  obtain ⟨sends, -, step⟩ := System.step_step config exchange.system input
  refine ⟨still.shut.of_moves (step.moves fun origin => ?_) (System.step_lazyGates config exchange.system foreign), still.apart⟩
  rw [origin] at foreign
  cases foreign

theorem Calm.init : Calm id {} where
  separate := .init _
  still stopping := by
    rcases stopping with closing | ⟨run, under, -⟩
    · cases closing
    · cases under

private theorem Calm.of_starter (calm : exchange.Calm id) (starter : after.starter = exchange.starter)
    (still : (exchange.lane id).Stopping → exchange.Still id → after.Still id) : after.Calm id where
  separate := starter ▸ calm.separate.elsewhere _
  still stopping := by
    have before : (exchange.lane id).Stopping := by
      unfold Exchange.lane at stopping
      rw [starter] at stopping
      exact stopping
    exact still before (calm.still before)

theorem Calm.progress (calm : exchange.Calm id) (settled : exchange.starter.Settled) {ambient : Ambient} {event : LazyEvent}
    (guarded : event = .resume → exchange.undisturbed id (.waker ambient .resume) = true) :
    (exchange.progress startTimeout ambient event).Calm id := by
  refine ⟨(calm.separate.step settled startTimeout ambient event).1, fun stopping => ?_⟩
  obtain ⟨losses, step⟩ :=
    @step_moves id exchange.system.kernel.registry exchange.starter calm.separate.tidy startTimeout ambient event
  have pending := (@step_frame exchange.system.kernel.registry exchange.starter startTimeout ambient event).1
  rcases step.stopping (calm.separate.valid id) (calm.separate.exclusive id) stopping with
    ⟨before, gate⟩ | ⟨idling, closing, gate⟩
  · have still := calm.still before
    refine ⟨⟨?_, fun key entry held => still.shut.unused key entry (pending ▸ held)⟩, still.apart⟩
    obtain ⟨found, held, none⟩ := still.shut.gate
    exact ⟨found, gate.trans held, none⟩
  · obtain ⟨rfl, now, dormant, rest, task, same⟩ := Starter.step_closes idling closing
    have clear := guarded rfl
    simp only [undisturbed, task, same, bne_self_eq_false, Bool.false_or, Bool.and_eq_true, beq_iff_eq,
      Bool.not_eq_true'] at clear
    exact ⟨.of_hold clear.1.2 clear.2 gate pending, clear.1.1⟩

theorem Calm.step (calm : exchange.Calm id) {input : ExchangeInput} (settled : exchange.starter.Settled)
    (guarded : exchange.undisturbed id input = true) : (exchange.step config startTimeout input).Calm id := by
  cases input with
  | arrive msg => exact calm.of_starter rfl fun _ still => ⟨still.shut, still.apart⟩
  | route ambient =>
    refine calm.of_starter (route_starter ambient).1 fun stopping still => still.route ambient fun call first => ?_
    cases next : exchange.inbox with
    | nil => rw [next] at first; cases first
    | cons head rest =>
      rw [next] at first
      cases first
      simpa [undisturbed, next, stopping] using guarded
  | advance => exact calm.of_starter advance_starter.1 fun _ still => still.advance
  | elsewhere input =>
    simp only [Exchange.step]
    split
    next foreign => exact calm.of_starter rfl fun _ still => still.elsewhere foreign
    · exact calm
  | receive ambient =>
    simp only [Exchange.step]
    split
    next pluginId call wakes idle waiting =>
      have without : Calm id { exchange with wakes } := calm.of_starter rfl fun _ still => ⟨still.shut, still.apart⟩
      exact without.progress settled fun resume => LazyEvent.noConfusion resume
    · exact calm
  | waker =>
    simp only [Exchange.step]
    split
    · exact calm
    · refine calm.progress settled fun resume => ?_
      subst resume
      exact guarded

private theorem Still.undelivered (still : exchange.Still id) (input : ExchangeInput) :
    (exchange.step config startTimeout input).delivered.filter (·.provider.pluginId == id) =
      exchange.delivered.filter (·.provider.pluginId == id) := by
  cases input with
  | arrive msg => rfl
  | route ambient =>
    simp only [Exchange.step, Exchange.route]
    split
    · split <;> rfl
    · rfl
  | advance =>
    have apart := still.apart
    simp only [Exchange.step, Exchange.advance]
    split
    · rfl
    · rfl
    next handover internalId pass =>
      have elsewhere : handover.provider.pluginId ≠ id := by simpa [underway, pass] using apart
      rw [List.filter_append]
      split
      · simp [elsewhere]
      · simp
    · rfl
  | elsewhere | receive | waker =>
    simp only [Exchange.step]
    split <;> rfl

/-- A request for the plugin ends with its pass: it is refused, or queued in the waker. -/
theorem Still.asked (still : exchange.Still id) {ambient : Ambient} {call : Call} {inbox : List Call} {messageId : String}
    {request : ActionRequest} (idle : exchange.pass = .idle) (next : exchange.inbox = call :: inbox)
    (asks : exchange.system.asks config ambient call.msg = some (messageId, request))
    (wanted : exchange.system.kernel.registry.offers id request.action = true) :
    let route := exchange.system.kernel.route config (exchange.system.observe ambient) call.msg request
    route ∈ [.denied, .forbidden, .quota, .wake id] ∧ (exchange.route config ambient).pass = .idle ∧
    (route = .wake id → config.lazy = true → ambient.wakeAccepts = true →
      (exchange.route config ambient).wakes = exchange.wakes ++ [(id, call)]) := by
  intro route
  have refuses : route ∈ [.denied, .forbidden, .quota, .wake id] := by
    simp only [route, Kernel.route, still.shut.gatedLookup_offered wanted]
    exact chooseRoute_dormant ..
  have missed : exchange.handover config ambient call = none := by
    unfold Exchange.handover
    simp only [asks]
    split
    next provider deliver =>
      simp only [route, deliver] at refuses
      simp at refuses
    · rfl
  have ended : (exchange.route config ambient).pass = .idle := by
    unfold Exchange.route
    simp only [idle, next, missed]
  have wakes : (exchange.route config ambient).wakes = exchange.wakes ++
      (System.handleMessage config { exchange.system with wakes := [] } ambient call.msg).wakes.map
        fun wake : WakeRequest => (wake.pluginId, call) := by
    unfold Exchange.route
    simp only [idle, next, missed]
  refine ⟨refuses, ended, fun woken lazy room => ?_⟩
  have asked : System.Asks config { exchange.system with wakes := [] } ambient call.msg messageId request :=
    System.asks_some asks
  have outcome : (handleActionRequest config (exchange.system.observe ambient) exchange.system.kernel call.msg messageId
      request).wake = some ⟨id, call.msg⟩ := by
    simp only [route, Kernel.route] at woken
    have accepts : (exchange.system.observe ambient).wakeAccepts = true := room
    simp only [handleActionRequest, woken, lazy, accepts, Bool.and_true, if_true]
  rw [wakes, asked.handleMessage]
  simp only [System.deliver, List.nil_append]
  change _ ++ List.map _ (handleActionRequest config (exchange.system.observe ambient) exchange.system.kernel call.msg messageId
      request).wake.toList = _
  rw [outcome]
  rfl

end
end Exchange
/-- If the sweep holds the gate of a plugin only while nobody uses the plugin, and frames
that ask no gate leave the plugin alone, then as long as the idle stop runs no action is
pending with the plugin, nothing is put on its channel, and every request for it that is
not refused is queued in the waker. -/
theorem idle_stop_undisturbed (config : Config) (startTimeout : Nat) (inputs : List ExchangeInput) (id : String)
    (calm : (Exchange.machine config startTimeout).Obeys
      (fun exchange input => exchange.starter.Settled ∧ exchange.undisturbed id input = true) {} inputs) :
    let exchange := (Exchange.machine config startTimeout).run inputs
    (∃ run ∈ exchange.starter.running, run.pluginId = id ∧ run.kind = .stop ∧ run.idle = true) →
    exchange.system.kernel.registry.hasPendingForProvider id = false ∧
    (∀ input, (exchange.step config startTimeout input).delivered.filter (·.provider.pluginId == id) =
      exchange.delivered.filter (·.provider.pluginId == id)) ∧
    ∀ ambient call inbox messageId request, exchange.pass = .idle → exchange.inbox = call :: inbox →
      exchange.system.asks config ambient call.msg = some (messageId, request) →
      exchange.system.kernel.registry.offers id request.action = true →
      let route := exchange.system.kernel.route config (exchange.system.observe ambient) call.msg request
      route ∈ [.denied, .forbidden, .quota, .wake id] ∧ (exchange.route config ambient).pass = .idle ∧
      (route = .wake id → config.lazy = true → ambient.wakeAccepts = true →
        (exchange.route config ambient).wakes = exchange.wakes ++ [(id, call)]) := by
  rintro exchange ⟨run, running, mine, kind, idle⟩
  have held : exchange.Calm id := by
    refine calm.run_preserves .init ?_
    intro exchange input guarded held
    exact held.step guarded.1 guarded.2
  have still := held.still (.inr ⟨run, List.mem_filter.mpr ⟨running, beq_iff_eq.mpr mine⟩, kind, idle⟩)
  refine ⟨?_, still.undelivered, fun ambient call inbox messageId request => still.asked⟩
  cases used : exchange.system.kernel.registry.hasPendingForProvider id with
  | false => rfl
  | true =>
    obtain ⟨key, pending, found, provider⟩ := (DashMap.any_iff ..).mp used
    exact absurd (beq_iff_eq.mp provider) (still.shut.unused key pending found)

/-- The plugin registers by itself, and the first sweep starts its clock. -/
def idleSetup : List ExchangeInput :=
  lazySetup ++ [greeterJoins, .waker {} (.select .sweep), .waker {} .resume, .waker {} .resume]

def laterSweep (operations : Nat) : List ExchangeInput :=
  .waker { clock := ⟨secs 100, 0⟩ } (.select .sweep) ::
    List.replicate operations (.waker { clock := ⟨secs 100, 0⟩ } .resume)

/-- A call that comes while the stop runs waits in the waker. -/
theorem call_during_idle_stop_queued :
    let inputs := idleSetup ++ laterSweep 4 ++ [askGreeter 1]
    let exchange := (Exchange.machine { lazy := true } (secs 10)).run inputs
    exchange.system.kernel.registry.hasPendingForProvider "greeter" = false ∧
    (exchange.route { lazy := true } {}).pass = .idle ∧
    ∃ call ∈ exchange.inbox, (exchange.route { lazy := true } {}).wakes = [("greeter", call)] := by
  intro inputs exchange
  have stop : ∃ run ∈ exchange.starter.running, run.pluginId = "greeter" ∧ run.kind = .stop ∧ run.idle = true := by
    decide +kernel
  obtain ⟨unused, -, asked⟩ := idle_stop_undisturbed { lazy := true } (secs 10) inputs "greeter" (by decide +kernel) stop
  obtain ⟨-, ended, queued⟩ := asked {} _ [] "m" { actionId := "a", action := "greet" } rfl rfl rfl (by decide +kernel)
  exact ⟨unused, ended, _, List.mem_singleton_self _, queued rfl rfl rfl⟩

/-- The router asks the gate after the sweep has looked for pending actions and before it
holds the gate. The call is registered and delivered while the stop runs. -/
theorem call_delivered_during_idle_stop :
    let inputs := idleSetup ++ laterSweep 2 ++ [askGreeter 1, .route {}] ++
      List.replicate 2 (.waker { clock := ⟨secs 100, 0⟩ } .resume) ++ [.advance, .advance]
    let exchange := (Exchange.machine { lazy := true } (secs 10)).run inputs
    exchange.starter.running = [⟨.stop, "greeter", 0, true⟩] ∧
    exchange.system.kernel.registry.hasPendingForProvider "greeter" = true ∧
    exchange.delivered.map (fun delivery => (delivery.call.serial, delivery.provider.pluginId)) = [(0, "greeter")] := by
  decide +kernel

end Vynkor
