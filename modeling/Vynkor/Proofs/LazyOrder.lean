import Vynkor.Proofs.LazyGate

/-! The order of the calls for a lazy plugin. Calls that have been handed to the plugin,
that wait on the way through the waker and that have not yet been routed form one line.
While calls wait for a live plugin its gate is up, so nobody jumps the line, as long as the
gate is up when the plugin comes and is not let go before the last of them. -/

namespace Vynkor
open Lib

namespace Lane
variable {closed : Bool} {id : String} {lane after : Lane} {traffic : Traffic}

/-- A lane re-injects its calls in the order in which it took them. -/
theorem Step.ordered (step : Step closed id lane traffic after) :
    (traffic.reinjects ++ after.calls).Sublist (lane.calls ++ traffic.takes) := by
  cases step with
  | glide glides => simp [glides.calls]
  | push w call stage slot room | drain w stage slot | expire w stage slot starting | halt w stage slot starting
  | broke run rest w results stage slot want => simp [Lane.calls, stage, slot, Stage.calls]
  | full call => exact List.sublist_append_left ..
  | enter call stage free => simp [Lane.calls, stage, free, Stage.calls]
  | refuse call stage | wake call now slot stage | reinject call calls now stage | lose call calls now shut stage
  | stop now slot stage => simp [Lane.calls, stage, Stage.calls]
  | late | gone | startReturned | stopReturned => simp [Lane.calls]
  | wanted run failed rest w results stage slot want | began run rest w results stage slot want
  | again run rest w now results stage slot => simp [Lane.calls, slot]
  | rest run rest w results stage slot empty => simp [Lane.calls, slot, empty]

end Lane

def Call.tag (call : Call) : Nat × Nat := (call.serial, call.msg.frameAddr)

def Task.calls : Task → List Call
  | .enter _ call | .serve _ call | .touch _ call | .wake _ call => [call]
  | .reinject _ calls _ => calls
  | _ => []

def Starter.calls (starter : Starter) : List Call :=
  starter.task.calls ++ (starter.waking.iter (.unchanged String)).flatMap fun entry => entry.2.queue

private theorem Task.stage_calls (task : Task) (id : String) : (task.stage id).calls ⊆ task.calls := by
  cases task with
  | reinject pluginId calls rest => cases rest <;> grind [Task.stage, Stage.ofLists, Stage.calls, Task.calls]
  | _ => grind [Task.stage, Stage.ofLists, Stage.calls, Task.calls]

private theorem Starter.lane_calls (registry : Registry) (starter : Starter) (id : String) :
    (starter.lane registry id).calls ⊆ starter.calls := by
  intro call member
  rcases List.mem_append.mp member with staged | queued
  · exact List.mem_append_left _ (starter.task.stage_calls id staged)
  · cases slot : starter.waking.get id with
    | none => simp [Starter.lane, slot] at queued
    | some w =>
      simp only [Starter.lane, slot, Option.map_some, Option.getD_some] at queued
      exact List.mem_append_right _ (List.mem_flatMap.mpr ⟨(id, w), (DashMap.mem_iter ..).mpr slot, queued⟩)

namespace Exchange

section
variable (exchange : Exchange)

def lane (id : String) : Lane := exchange.starter.lane exchange.system.kernel.registry id

def underway (id : String) : List Call :=
  match exchange.pass with
  | .register handover | .forward handover _ => if handover.provider.pluginId = id then [handover.call] else []
  | .idle | .touch _ => []

def handed (id : String) : List Call :=
  (exchange.delivered.filter (·.provider.pluginId == id)).map Delivery.call ++ exchange.underway id

/-- The calls for the plugin on the way through the waker, first the ones that come back. -/
def pipeline (id : String) : List Call :=
  exchange.inbox.filter (·.via == some id) ++ ((exchange.lane id).calls ++ callsFor id exchange.wakes)

def fresh : List Call := exchange.inbox.filter (·.via == none)

def waiting (id : String) : List Call := exchange.pipeline id ++ exchange.fresh

/-- The messages that neither the router nor the waker is done with. -/
def inFlight : List Call :=
  exchange.inbox ++ exchange.wakes.map Prod.snd ++ exchange.starter.calls

/-- No live plugin of the registry has come while calls wait for it, unless its gate is up. -/
def joinsGated (changed : Registry) : Bool :=
  let registry := exchange.system.kernel.registry
  !changed.byPluginId.any fun entry => !registry.isLive entry.pluginId && !(exchange.pipeline entry.pluginId).isEmpty &&
    (registry.lazyGates.get entry.pluginId).isNone

/-- The call finds the plugin that it waited for, or goes to the waker again with nobody
behind it; a live plugin is not taken for dormant. -/
def finds (call : Call) : Bool :=
  let registry := exchange.system.kernel.registry
  match (requestAction call.msg).map registry.findActionProvider with
  | some (.found provider) => call.via.all (· == provider.pluginId)
  | some (.dormant id) => !registry.isLive id && call.via.all fun via => via == id && exchange.pipeline id == [call]
  | _ => true

/-- The waker leaves the calls that it has re-injected their allowance, and lets the gate of a
live plugin go only when no call for it is in the wake channel. -/
def keepsGates (changed : Registry) : Bool :=
  let registry := exchange.system.kernel.registry
  (exchange.inbox.all fun call => call.via.all fun id => allows (changed.lazyGates.get id) call.msg.frameAddr) &&
  !registry.byPluginId.any fun entry => (registry.lazyGates.get entry.pluginId).isSome &&
    (changed.lazyGates.get entry.pluginId).isNone && callsFor entry.pluginId exchange.wakes != []

end

/-- What the tasks around the gate have to keep to. The payload of a message that arrives is
not at the address of one in flight, or of one that a gate still expects. -/
def orderly (config : Config) (startTimeout : Nat) (exchange : Exchange) (input : ExchangeInput) : Bool :=
  let changed := (exchange.step config startTimeout input).system.kernel.registry
  exchange.joinsGated changed &&
  match input with
  | .arrive msg => exchange.inFlight.all (·.msg.frameAddr != msg.frameAddr) &&
      !exchange.system.kernel.registry.lazyGates.any (·.containsKey msg.frameAddr)
  | .route _ => exchange.inbox.head?.all exchange.finds
  | .waker _ _ => exchange.keepsGates changed
  | _ => true

/-- The line moves on: what is handed to the plugin was first among those that wait. -/
def Shifts (id : String) (exchange after : Exchange) : Prop :=
  ∃ moved, ((after.handed id).map Call.tag).Sublist ((exchange.handed id).map Call.tag ++ moved) ∧
    (moved ++ (after.waiting id).map Call.tag).Sublist ((exchange.waiting id).map Call.tag)

structure Ordered (exchange : Exchange) : Prop where
  tidy : exchange.starter.task.Tidy
  sorted : ∀ id, ((exchange.handed id ++ exchange.waiting id).map Call.serial).Pairwise (· < ·)
  below : ∀ id, ∀ call ∈ exchange.handed id ++ exchange.waiting id, call.serial < exchange.arrived

/-- While calls wait for a live plugin its gate is up. It lets through those that come back,
and none that has not been routed. -/
structure Fenced (exchange : Exchange) : Prop where
  valid : ∀ id, (exchange.lane id).Valid
  held : ∀ id, (exchange.lane id).Held
  shut : ∀ id, exchange.system.kernel.registry.isLive id = true → exchange.pipeline id ≠ [] →
    (exchange.system.kernel.registry.lazyGates.get id).isSome = true
  admitted : ∀ id, ∀ call ∈ exchange.inbox, call.via = some id →
    allows (exchange.system.kernel.registry.lazyGates.get id) call.msg.frameAddr = true
  strange : ∀ id, ∀ call ∈ exchange.fresh,
    allows (exchange.system.kernel.registry.lazyGates.get id) call.msg.frameAddr = false
  apart : ∀ id, ((exchange.waiting id).map (·.msg.frameAddr)).Nodup

section
variable {config : Config} {startTimeout : Nat} {exchange after : Exchange} {id : String}

theorem Shifts.refl (handed : after.handed id = exchange.handed id) (waiting : after.waiting id = exchange.waiting id) :
    Shifts id exchange after := by
  refine ⟨[], ?_, ?_⟩
  · rw [handed, List.append_nil]
  · rw [waiting, List.nil_append]

private theorem Shifts.line (shifts : Shifts id exchange after) : ((after.handed id ++ after.waiting id).map Call.tag).Sublist
    ((exchange.handed id ++ exchange.waiting id).map Call.tag) := by
  obtain ⟨moved, handed, waiting⟩ := shifts
  rw [List.map_append, List.map_append]
  refine (handed.append (.refl _)).trans ?_
  rw [List.append_assoc]
  exact (List.Sublist.refl _).append waiting

theorem Shifts.waiting (shifts : Shifts id exchange after) :
    ((after.waiting id).map Call.tag).Sublist ((exchange.waiting id).map Call.tag) := by
  obtain ⟨moved, -, waiting⟩ := shifts
  exact (List.sublist_append_right ..).trans waiting

theorem Shifts.apart (shifts : Shifts id exchange after) (apart : ((exchange.waiting id).map (·.msg.frameAddr)).Nodup) :
    ((after.waiting id).map (·.msg.frameAddr)).Nodup := by
  have addresses := shifts.waiting.map Prod.snd
  rw [List.map_map, List.map_map] at addresses
  exact addresses.nodup apart

theorem Ordered.shifts (ordered : exchange.Ordered) (tidy : after.starter.task.Tidy) (arrived : after.arrived = exchange.arrived)
    (shifts : ∀ id, Shifts id exchange after) : after.Ordered := by
  have serials (id : String) := (shifts id).line.map Prod.fst
  simp only [List.map_map] at serials
  refine ⟨tidy, fun id => (ordered.sorted id).sublist (serials id), fun id call member => ?_⟩
  obtain ⟨before, there, same⟩ := List.mem_map.mp ((serials id).subset (List.mem_map_of_mem member))
  rw [arrived]
  have there := ordered.below id before there
  exact lt_of_eq_of_lt same.symm there

/-- A message that is routed, and the plugin it wakes or is handed to. -/
inductive Routes (exchange : Exchange) : Exchange → Prop
  | stay : Routes exchange exchange
  | hands (call : Call) (inbox : List Call) (handover : Handover) (system : System) (idle : exchange.pass = .idle)
      (next : exchange.inbox = call :: inbox) (carries : handover.call = call)
      (found : ∃ action, requestAction call.msg = some action ∧
        (gatedLookup exchange.system.kernel.registry action call.msg.frameAddr).1 = .found handover.provider)
      (knocks : Knocks exchange.system.kernel.registry call.msg none system.kernel.registry) :
      Routes exchange { exchange with inbox, pass := .register handover, system }
  | ends (call : Call) (inbox : List Call) (wake : Option WakeRequest) (system : System) (idle : exchange.pass = .idle)
      (next : exchange.inbox = call :: inbox)
      (knocks : Knocks exchange.system.kernel.registry call.msg wake system.kernel.registry) :
      Routes exchange { exchange with
        inbox, system, wakes := exchange.wakes ++ wake.toList.map fun wake => (wake.pluginId, call) }

private theorem route_routes (ambient : Ambient) : Routes exchange (exchange.route config ambient) := by
  unfold route
  split
  next call inbox idle next =>
    split
    next handover found =>
      have hands := handover_some found
      have lookup := Kernel.route_deliver hands.route
      obtain ⟨envelope, decoded, -, payload⟩ := hands.asks.decoded
      have asked : requestAction call.msg = some handover.request.action := by simp [requestAction, decoded, payload]
      obtain ⟨gates, opened⟩ := gatedLookup_registry exchange.system.kernel.registry handover.request.action
        call.msg.frameAddr
      exact .hands call inbox handover _ idle next hands.carries ⟨_, asked, lookup⟩
        (.asks _ asked (by rw [System.updateRegistry, opened]) rfl fun _ absent => by cases absent)
    next missed =>
      obtain ⟨wake, woken, knocks⟩ :=
        @System.handleMessage_knocks config ambient call.msg { exchange.system with wakes := [] } rfl
      simp only [woken]
      exact .ends call inbox wake { System.handleMessage config { exchange.system with wakes := [] } ambient call.msg with
        wakes := [] } idle next knocks
  · exact .stay

/-- The calls that wait behind the message that is being routed. -/
def behind (exchange : Exchange) (inbox : List Call) (id : String) : List Call × List Call :=
  (inbox.filter (·.via == some id) ++ ((exchange.lane id).calls ++ callsFor id exchange.wakes), inbox.filter (·.via == none))

private theorem waiting_of_next {call : Call} {inbox : List Call} (next : exchange.inbox = call :: inbox) (id : String) :
    exchange.pipeline id = (if call.via = some id then [call] else []) ++ (exchange.behind inbox id).1 ∧
    exchange.fresh = (if call.via = none then [call] else []) ++ (exchange.behind inbox id).2 := by
  constructor
  · simp only [pipeline, behind, next, List.filter_cons, beq_iff_eq]
    split <;> rfl
  · simp only [fresh, behind, next, List.filter_cons, beq_iff_eq]
    split <;> rfl

private theorem behind_sublist {call : Call} {inbox : List Call} (next : exchange.inbox = call :: inbox) (id : String) :
    ((exchange.behind inbox id).1 ++ (exchange.behind inbox id).2).Sublist (exchange.waiting id) := by
  rw [waiting, (waiting_of_next next id).1, (waiting_of_next next id).2]
  exact (List.sublist_append_right ..).append (List.sublist_append_right ..)

section
variable (fenced : exchange.Fenced) {call : Call} {inbox : List Call} (next : exchange.inbox = call :: inbox)
  (finds : exchange.finds call = true) {action : String}
include fenced next finds

/-- A message that is handed to a live plugin is the first for it. -/
theorem Fenced.first (asked : requestAction call.msg = some action) {provider : PluginEntry}
    (found : (gatedLookup exchange.system.kernel.registry action call.msg.frameAddr).1 = .found provider) :
    call.via = none ∧ exchange.pipeline provider.pluginId = [] ∨ call.via = some provider.pluginId := by
  obtain ⟨lookup, gate⟩ := gatedLookup_found found
  cases via : call.via with
  | none =>
    refine .inl ⟨rfl, Decidable.byContradiction fun waits => ?_⟩
    have up := fenced.shut _ (Registry.isLive_of_found lookup) waits
    have refused := fenced.strange provider.pluginId call (by simp [fresh, next, via])
    rcases gate with free | passes
    · rw [free] at up
      cases up
    · cases refused.symm.trans passes
  | some id =>
    simp only [Exchange.finds, asked, Option.map_some, lookup, via, Option.all_some, beq_iff_eq] at finds
    exact .inr (by rw [finds])

/-- A message that wakes a plugin is new, or alone. -/
theorem Fenced.again (asked : requestAction call.msg = some action)
    (asleep : (gatedLookup exchange.system.kernel.registry action call.msg.frameAddr).1 = .dormant id) :
    call.via = none ∨ call.via = some id ∧ exchange.pipeline id = [call] := by
  cases via : call.via with
  | none => exact .inl rfl
  | some plugin =>
    rcases gatedLookup_dormant asleep with lookup | ⟨provider, lookup, mine, -, refused⟩
    · simp only [Exchange.finds, asked, Option.map_some, lookup, via, Option.all_some, Bool.and_eq_true, beq_iff_eq] at finds
      exact .inr ⟨by rw [finds.2.1], finds.2.2⟩
    · simp only [Exchange.finds, asked, Option.map_some, lookup, via, Option.all_some, beq_iff_eq] at finds
      have passes := fenced.admitted id call (by simp [next]) (by rw [via, finds, mine])
      cases refused.symm.trans passes

end

private theorem callsFor_woken {wake : Option WakeRequest} {call : Call} (quiet : ¬∃ request, wake = some request ∧ request.pluginId = id) :
    callsFor id (wake.toList.map fun wake => (wake.pluginId, call)) = [] := by
  cases wake with
  | none => rfl
  | some request =>
    have apart : request.pluginId ≠ id := fun same => quiet ⟨request, rfl, same⟩
    simp [callsFor, apart]

theorem Routes.shifts (routes : Routes exchange after) (fenced : exchange.Fenced)
    (finds : exchange.inbox.head?.all exchange.finds = true) (id : String) : Shifts id exchange after := by
  cases routes with
  | stay => exact .refl rfl rfl
  | hands call inbox handover system idle next carries found knocks =>
    obtain ⟨action, asked, lookup⟩ := found
    rw [next] at finds
    have turn := fenced.first next finds asked lookup
    obtain ⟨waits, unrouted⟩ := waiting_of_next next id
    have given : exchange.handed id = (exchange.delivered.filter (·.provider.pluginId == id)).map Delivery.call := by
      simp [handed, underway, idle]
    by_cases mine : handover.provider.pluginId = id
    · subst mine
      refine ⟨[call.tag], ?_, ?_⟩
      · rw [given]
        simp [handed, underway, carries]
      · have front : exchange.waiting handover.provider.pluginId =
            call :: ((exchange.behind inbox handover.provider.pluginId).1 ++
              (exchange.behind inbox handover.provider.pluginId).2) := by
          rw [waiting, waits, unrouted]
          rcases turn with ⟨first, nobody⟩ | back
          · rw [waits, first, if_neg nofun, List.nil_append] at nobody
            simp [first, nobody]
          · simp [back]
        rw [front]
        exact .refl _
    · refine ⟨[], ?_, (behind_sublist next id).map _⟩
      rw [given]
      simp [handed, underway, mine]
  | ends call inbox wake system idle next knocks =>
    refine ⟨[], ?_, ?_⟩
    · rw [List.append_nil]
      exact .refl _
    obtain ⟨waits, unrouted⟩ := waiting_of_next next id
    have after : Exchange.waiting { exchange with
        inbox, system, wakes := exchange.wakes ++ wake.toList.map fun wake => (wake.pluginId, call) } id =
        (exchange.behind inbox id).1 ++ (callsFor id (wake.toList.map fun wake => (wake.pluginId, call)) ++
          (exchange.behind inbox id).2) := by
      simp only [waiting, pipeline, fresh, callsFor_append, List.append_assoc, behind]
      rfl
    rw [List.nil_append, after]
    refine List.Sublist.map _ ?_
    by_cases woken : ∃ request, wake = some request ∧ request.pluginId = id
    · obtain ⟨request, rfl, rfl⟩ := woken
      rw [next] at finds
      cases knocks with
      | asks action asked live gates asleep =>
        have moved : callsFor request.pluginId [(request.pluginId, call)] = [call] := by simp [callsFor]
        rw [Option.toList_some, List.map_singleton, moved, waiting, waits, unrouted]
        rcases fenced.again next finds asked (asleep request rfl) with first | ⟨back, alone⟩
        · simp [first]
        · rw [waits, back, if_pos rfl, List.singleton_append, List.cons.injEq] at alone
          simp [back, alone.2]
      | other quiet gates => cases quiet
    · rw [callsFor_woken woken]
      exact behind_sublist next id

private theorem joinsGated_live {changed : Registry} (joins : exchange.joinsGated changed = true) (live : changed.isLive id = true) :
    exchange.system.kernel.registry.isLive id = true ∨ exchange.pipeline id = [] ∨
      (exchange.system.kernel.registry.lazyGates.get id).isSome = true := by
  obtain ⟨key, entry, held, same⟩ := (DashMap.any_iff ..).mp live
  cases beq_iff_eq.mp same
  by_contra neither
  simp only [not_or, Bool.not_eq_true] at neither
  refine Bool.eq_false_iff.mp (Bool.not_eq_eq_eq_not.mp joins) ((DashMap.any_iff ..).mpr ⟨key, entry, held, ?_⟩)
  simpa [and_assoc] using neither

private theorem Fenced.unmoved (fenced : exchange.Fenced) (starter : after.starter = exchange.starter)
    (inbox : after.inbox = exchange.inbox) (wakes : after.wakes = exchange.wakes)
    (gates : after.system.kernel.registry.lazyGates = exchange.system.kernel.registry.lazyGates)
    (joins : exchange.joinsGated after.system.kernel.registry = true) : after.Fenced := by
  have lane (id : String) : after.lane id = exchange.lane id := by
    simp only [Exchange.lane, Starter.lane, starter, gates]
  have pipeline (id : String) : after.pipeline id = exchange.pipeline id := by
    simp only [Exchange.pipeline, lane, inbox, wakes]
  have fresh : after.fresh = exchange.fresh := by simp only [Exchange.fresh, inbox]
  refine ⟨fun id => ?_, fun id => ?_, fun id live waits => ?_, fun id => ?_, fun id => ?_, fun id => ?_⟩
  · rw [lane]
    exact fenced.valid id
  · rw [lane]
    exact fenced.held id
  · rw [pipeline] at waits
    rw [gates]
    rcases joinsGated_live joins live with before | nobody | up
    · exact fenced.shut id before waits
    · exact absurd nobody waits
    · exact up
  · rw [inbox, gates]
    exact fenced.admitted id
  · rw [fresh, gates]
    exact fenced.strange id
  · rw [waiting, pipeline, fresh]
    exact fenced.apart id

theorem Fenced.keeps (fenced : exchange.Fenced) {call other : Call} {inbox : List Call} (next : exchange.inbox = call :: inbox)
    (member : other ∈ inbox) (back : other.via = some id) (either : call.via = none ∨ call.via = some id) :
    other.msg.frameAddr ≠ call.msg.frameAddr := by
  have apart := fenced.apart id
  obtain ⟨waits, unrouted⟩ := waiting_of_next next id
  have there : other ∈ (exchange.behind inbox id).1 :=
    List.mem_append_left _ (List.mem_filter.mpr ⟨member, by simp [back]⟩)
  rw [waiting, waits, unrouted] at apart
  intro same
  rcases either with first | back
  · rw [first, if_neg nofun, if_pos rfl, List.nil_append, List.map_append] at apart
    exact (List.nodup_append.mp apart).2.2 _ (List.mem_map_of_mem there) _
      (List.mem_map_of_mem (List.mem_append_left _ (List.mem_singleton.mpr rfl))) same
  · rw [back, if_pos rfl, List.singleton_append, List.cons_append, List.map_cons] at apart
    refine (List.nodup_cons.mp apart).1 ?_
    rw [← same]
    exact List.mem_map_of_mem (List.mem_append_left _ there)

private theorem Fenced.knock (fenced : exchange.Fenced) {call : Call} {inbox : List Call} (next : exchange.inbox = call :: inbox)
    (finds : exchange.finds call = true) {wake : Option WakeRequest}
    (knocks : Knocks exchange.system.kernel.registry call.msg wake after.system.kernel.registry)
    (starter : after.starter = exchange.starter) (rest : after.inbox = inbox)
    (wakes : after.wakes = exchange.wakes ++ wake.toList.map fun wake => (wake.pluginId, call))
    (joins : exchange.joinsGated after.system.kernel.registry = true) (shifts : ∀ id, Shifts id exchange after) :
    after.Fenced := by
  have up (id : String) : (after.system.kernel.registry.lazyGates.get id).isSome =
      (exchange.system.kernel.registry.lazyGates.get id).isSome := by
    cases knocks with
    | asks action asked live gates asleep => rw [gates, gatedLookup_isSome]
    | other quiet gates => rw [gates]
  refine ⟨fun id => ?_, fun id => ?_, fun id live waits => ?_, fun id other member back => ?_, fun id other member => ?_,
    fun id => (shifts id).apart (fenced.apart id)⟩
  · refine ⟨?_, ?_⟩
    · simp only [lane, starter]
      exact (fenced.valid id).fits
    · simp only [lane, starter]
      exact (fenced.valid id).short
  · refine ⟨fun w slot going wanted => ?_, fun calls draining => ?_⟩
    · simp only [lane, starter] at slot
      exact (up id).trans ((fenced.held id).slot w slot going wanted)
    · simp only [lane, starter] at draining
      exact (up id).trans ((fenced.held id).draining calls draining)
  · rw [up]
    by_cases earlier : exchange.pipeline id = []
    · -- The message itself has just gone to the waker for the plugin.
      obtain ⟨request, rfl, rfl⟩ : ∃ request, wake = some request ∧ request.pluginId = id := by
        by_contra quiet
        have nobody := (List.append_eq_nil_iff.mp ((waiting_of_next next id).1.symm.trans earlier)).2
        refine waits ?_
        rw [pipeline, rest, wakes, callsFor_append, callsFor_woken quiet, List.append_nil, lane, starter]
        exact nobody
      cases knocks with
      | asks action asked same gates asleep =>
        rcases gatedLookup_dormant (asleep request rfl) with lookup | ⟨-, -, -, held, -⟩
        · simp only [Exchange.finds, asked, Option.map_some, lookup, Bool.and_eq_true, Bool.not_eq_eq_eq_not] at finds
          rw [Registry.isLive, same] at live
          cases finds.1.symm.trans live
        · exact held
      | other quiet gates => cases quiet
    · rcases joinsGated_live joins live with before | nobody | held
      · exact fenced.shut id before earlier
      · exact absurd nobody earlier
      · exact held
  · rw [rest] at member
    have passes := fenced.admitted id other (next ▸ List.mem_cons_of_mem _ member) back
    cases knocks with
    | asks action asked live gates asleep =>
      rw [gates]
      refine gatedLookup_keeps passes fun provider found mine => fenced.keeps next member back ?_
      cases via : call.via with
      | none => exact .inl rfl
      | some plugin =>
        simp only [Exchange.finds, asked, Option.map_some, found, via, Option.all_some, beq_iff_eq] at finds
        exact .inr (by rw [finds, mine])
    | other quiet gates => rwa [gates]
  · have unrouted : other ∈ exchange.fresh := by
      rw [fresh, rest] at member
      rw [fresh, next, List.filter_cons]
      split
      · exact List.mem_cons_of_mem _ member
      · exact member
    have refused := fenced.strange id other unrouted
    cases knocks with
    | asks action asked live gates asleep =>
      rw [gates]
      refine Bool.eq_false_iff.mpr fun passes => ?_
      cases refused.symm.trans (gatedLookup_allows passes)
    | other quiet gates => rwa [gates]

private theorem advance_shifts (id : String) : Shifts id exchange (exchange.advance config) := by
  unfold advance
  split
  · exact .refl rfl rfl
  next handover pass => exact .refl (by simp only [handed, underway, pass]) rfl
  next handover internalId pass =>
    refine ⟨[], ?_, .refl _⟩
    simp only [handed, underway, pass, List.filter_append, List.map_append, List.append_nil]
    refine (List.Sublist.refl _).append ?_
    split
    · simp only [List.filter_cons, List.filter_nil, beq_iff_eq]
      split <;> exact .refl _
    · exact List.nil_sublist _
  next handover pass => exact .refl (by simp only [handed, underway, pass]) rfl

theorem route_starter (ambient : Ambient) : (exchange.route config ambient).starter = exchange.starter ∧
    (exchange.route config ambient).arrived = exchange.arrived := by
  unfold route
  split
  · split <;> exact ⟨rfl, rfl⟩
  · exact ⟨rfl, rfl⟩

theorem advance_starter : (exchange.advance config).starter = exchange.starter ∧
    (exchange.advance config).arrived = exchange.arrived := by
  unfold advance
  split <;> exact ⟨rfl, rfl⟩

private theorem advance_registry : (exchange.advance config).inbox = exchange.inbox ∧ (exchange.advance config).wakes = exchange.wakes ∧
    (exchange.advance config).system.kernel.registry.lazyGates = exchange.system.kernel.registry.lazyGates := by
  unfold advance
  split
  · exact ⟨rfl, rfl, rfl⟩
  · exact ⟨rfl, rfl, rfl⟩
  · exact ⟨rfl, rfl, rfl⟩
  · exact ⟨rfl, rfl, Registry.touchUsed_lazyGates ..⟩

private theorem reinjected_via (reinjects : List (String × Call)) :
    (reinjects.map fun reinjected => { reinjected.2 with via := some reinjected.1 }).filter (·.via == some id) =
      (callsFor id reinjects).map fun call => { call with via := some id } := by
  induction reinjects with
  | nil => rfl
  | cons reinjected rest ih =>
    by_cases same : reinjected.1 = id <;> simpa [callsFor, same] using ih

section Progress
variable {ambient : Ambient} {event : LazyEvent} {wakes : List (String × Call)}

private theorem progress_pipeline : ({ exchange with wakes }.progress startTimeout ambient event).pipeline id =
    exchange.inbox.filter (·.via == some id) ++ ((callsFor id (exchange.starter.step startTimeout ambient
      exchange.system.kernel.registry event).reinjects).map (fun call => { call with via := some id }) ++
      ((({ exchange with wakes }.progress startTimeout ambient event).lane id).calls ++ callsFor id wakes)) := by
  rw [← reinjected_via, ← List.append_assoc, ← List.filter_append]
  rfl

private theorem progress_fresh : ({ exchange with wakes }.progress startTimeout ambient event).fresh = exchange.fresh := by
  simp [Exchange.fresh, progress, List.filter_append, List.filter_map, Function.comp_def]

private theorem progress_shifts (tidy : exchange.starter.task.Tidy)
    (taken : ∀ id, callsFor id exchange.wakes = callsFor id (exchange.starter.takes event) ++ callsFor id wakes) (id : String) :
    Shifts id exchange ({ exchange with wakes }.progress startTimeout ambient event) := by
  obtain ⟨losses, step⟩ := @step_moves id exchange.system.kernel.registry exchange.starter tidy startTimeout ambient event
  have ordered := step.ordered.map Call.tag
  refine ⟨[], ?_, ?_⟩
  · rw [List.append_nil]
    exact .refl _
  rw [List.nil_append, waiting, waiting, progress_pipeline, progress_fresh, pipeline, taken]
  simp only [List.map_append, List.map_map, List.append_assoc] at ordered ⊢
  refine (List.Sublist.refl _).append ?_
  rw [← List.append_assoc, ← List.append_assoc (List.map Call.tag (exchange.lane id).calls)]
  exact ordered.append (.refl _)

section
variable (fenced : exchange.Fenced) (tidy : exchange.starter.task.Tidy)
  (taken : ∀ id, callsFor id exchange.wakes = callsFor id (exchange.starter.takes event) ++ callsFor id wakes)
  (kept : ∀ id, ∀ call ∈ exchange.inbox, call.via = some id → allows ((exchange.starter.step startTimeout ambient
    exchange.system.kernel.registry event).registry.lazyGates.get id) call.msg.frameAddr = true)
  (freed : ∀ id, exchange.system.kernel.registry.isLive id = true →
    (exchange.system.kernel.registry.lazyGates.get id).isSome = true →
    ((exchange.starter.step startTimeout ambient exchange.system.kernel.registry event).registry.lazyGates.get id).isSome = false →
    callsFor id wakes = [])
include fenced tidy taken kept freed

/-- The gate of a live plugin is let go behind the last of the calls that wait for it. -/
private theorem Fenced.drained (live : exchange.system.kernel.registry.isLive id = true)
    (gone : ((exchange.starter.step startTimeout ambient exchange.system.kernel.registry event).registry.lazyGates.get id).isSome =
      false) : ({ exchange with wakes }.progress startTimeout ambient event).pipeline id = [] := by
  obtain ⟨losses, step⟩ := @step_moves id exchange.system.kernel.registry exchange.starter tidy startTimeout ambient event
  have refuses (frameAddr : Nat) : allows ((exchange.starter.step startTimeout ambient exchange.system.kernel.registry
      event).registry.lazyGates.get id) frameAddr ≠ true := by
    intro passes
    cases gone.symm.trans (allows_isSome passes)
  have returned : exchange.inbox.filter (·.via == some id) = [] := by
    refine List.filter_eq_nil_iff.mpr fun call member back => refuses call.msg.frameAddr ?_
    exact kept id call member (beq_iff_eq.mp back)
  have reinjects : callsFor id (exchange.starter.step startTimeout ambient exchange.system.kernel.registry event).reinjects = [] :=
    List.eq_nil_iff_forall_not_mem.mpr fun call member => refuses _ (step.reinjected (fenced.held id) member)
  have rest : (({ exchange with wakes }.progress startTimeout ambient event).lane id).calls ++ callsFor id wakes = [] := by
    by_cases up : (exchange.system.kernel.registry.lazyGates.get id).isSome = true
    · rw [freed id live up gone, List.append_nil]
      exact step.released up gone
    · have nobody : exchange.pipeline id = [] := Decidable.byContradiction fun waits => up (fenced.shut id live waits)
      rw [pipeline, taken] at nobody
      simp only [List.append_eq_nil_iff] at nobody
      have part := step.ordered
      rw [show (exchange.starter.lane exchange.system.kernel.registry id).calls = [] from nobody.2.1, List.nil_append,
        show (Progress.traffic _ (exchange.starter.takes event) losses id).takes = [] from nobody.2.2.1] at part
      rw [nobody.2.2.2, List.append_nil]
      exact (List.append_eq_nil_iff.mp (List.sublist_nil.mp part)).2
  rw [progress_pipeline, returned, reinjects, rest]
  rfl

private theorem Fenced.progress : ({ exchange with wakes }.progress startTimeout ambient event).Fenced := by
  have moves (id : String) := @step_moves id exchange.system.kernel.registry exchange.starter tidy startTimeout ambient event
  have frame := @step_frame exchange.system.kernel.registry exchange.starter startTimeout ambient event
  have same (id : String) : ({ exchange with wakes }.progress startTimeout ambient event).system.kernel.registry.isLive id =
      exchange.system.kernel.registry.isLive id := by
    simp only [Registry.isLive]
    exact congrArg (fun plugins => DashMap.any plugins _) frame.2
  refine ⟨fun id => ?_, fun id => ?_, fun id live waits => ?_, fun id call member back => ?_, fun id call member => ?_,
    fun id => (progress_shifts tidy taken id).apart (fenced.apart id)⟩
  · obtain ⟨losses, step⟩ := moves id
    exact step.valid (fenced.valid id)
  · obtain ⟨losses, step⟩ := moves id
    refine step.held (fenced.valid id) (fenced.held id) fun call admitting draining => ?_
    -- The plugin has been found live, so that its gate is up while the call is in the lane.
    have staged : call ∈ (exchange.lane id).calls := by
      rw [Lane.calls, show (exchange.lane id).stage = .admitting call from admitting]
      exact List.mem_append_left _ (List.mem_singleton.mpr rfl)
    refine fenced.shut id (Starter.isLive_of_serves (Starter.step_serves admitting draining)) ?_
    exact List.ne_nil_of_mem (List.mem_append_right _ (List.mem_append_left _ staged))
  · rw [same] at live
    exact Bool.not_eq_false _ ▸ fun gone => waits (fenced.drained tidy taken kept freed live gone)
  · obtain ⟨losses, step⟩ := moves id
    rcases List.mem_append.mp member with before | new
    · exact kept id call before back
    · obtain ⟨reinjected, there, rfl⟩ := List.mem_map.mp new
      cases back
      have mine : reinjected.2 ∈ callsFor reinjected.1 (exchange.starter.step startTimeout ambient
          exchange.system.kernel.registry event).reinjects :=
        List.mem_map_of_mem (List.mem_filter.mpr ⟨there, beq_self_eq_true _⟩)
      have passes := step.reinjected (fenced.held _) mine
      exact passes
  · obtain ⟨losses, step⟩ := moves id
    rw [progress_fresh] at member
    refine Bool.eq_false_iff.mpr fun passes => ?_
    rcases step.passes passes with before | ⟨other, there, address⟩
    · cases (fenced.strange id call member).symm.trans before
    · have apart := fenced.apart id
      rw [waiting, List.map_append] at apart
      refine (List.nodup_append.mp apart).2.2 _ (List.mem_map_of_mem ?_) _ (List.mem_map_of_mem member) address
      exact List.mem_append_right _ (List.mem_append_left _ there)

end
end Progress

private theorem waiting_arrive (msg : IncomingMessage) : (exchange.step config startTimeout (.arrive msg)).waiting id =
    exchange.waiting id ++ [{ msg, serial := exchange.arrived }] := by
  simp [step, waiting, pipeline, fresh, lane]

private theorem waiting_inFlight {call : Call} (member : call ∈ exchange.waiting id) : call ∈ exchange.inFlight := by
  have inbox (p : Call → Bool) (there : call ∈ exchange.inbox.filter p) : call ∈ exchange.inFlight :=
    List.mem_append_left _ (List.mem_append_left _ (List.mem_of_mem_filter there))
  simp only [waiting, pipeline, List.mem_append] at member
  rcases member with (back | staged | asleep) | unrouted
  · exact inbox _ back
  · exact List.mem_append_right _ (Starter.lane_calls _ _ _ staged)
  · obtain ⟨request, there, rfl⟩ := List.mem_map.mp asleep
    exact List.mem_append_left _ (List.mem_append_right _ (List.mem_map_of_mem (List.mem_of_mem_filter there)))
  · exact inbox _ unrouted

theorem Ordered.arrive (ordered : exchange.Ordered) (msg : IncomingMessage) :
    (exchange.step config startTimeout (.arrive msg)).Ordered := by
  have line (id : String) : (exchange.step config startTimeout (.arrive msg)).handed id ++
      (exchange.step config startTimeout (.arrive msg)).waiting id =
      (exchange.handed id ++ exchange.waiting id) ++ [{ msg, serial := exchange.arrived }] := by
    rw [waiting_arrive, List.append_assoc]
    rfl
  refine ⟨ordered.tidy, fun id => ?_, fun id call member => ?_⟩
  · rw [line, List.map_append]
    refine List.pairwise_append.mpr ⟨ordered.sorted id, List.pairwise_singleton .., fun earlier member last new => ?_⟩
    cases List.mem_singleton.mp new
    obtain ⟨call, there, rfl⟩ := List.mem_map.mp member
    exact ordered.below id call there
  · rw [line] at member
    rcases List.mem_append.mp member with before | new
    · exact Nat.lt_succ_of_lt (ordered.below id call before)
    · cases List.mem_singleton.mp new
      exact Nat.lt_succ_self _

theorem Fenced.arrive (fenced : exchange.Fenced) {msg : IncomingMessage}
    (apart : ∀ call ∈ exchange.inFlight, call.msg.frameAddr ≠ msg.frameAddr)
    (unknown : ∀ id, allows (exchange.system.kernel.registry.lazyGates.get id) msg.frameAddr = false) :
    (exchange.step config startTimeout (.arrive msg)).Fenced := by
  have pipeline (id : String) : (exchange.step config startTimeout (.arrive msg)).pipeline id = exchange.pipeline id := by
    simp [step, Exchange.pipeline, lane]
  refine ⟨fenced.valid, fenced.held, fun id live waits => ?_, fun id call member back => ?_, fun id call member => ?_,
    fun id => ?_⟩
  · rw [pipeline] at waits
    exact fenced.shut id live waits
  · rcases List.mem_append.mp member with before | new
    · exact fenced.admitted id call before back
    · cases List.mem_singleton.mp new
      cases back
  · rw [fresh, step, List.filter_append] at member
    rcases List.mem_append.mp member with before | new
    · exact fenced.strange id call before
    · cases List.mem_singleton.mp (List.mem_of_mem_filter new)
      exact unknown id
  · rw [waiting_arrive, List.map_append]
    refine List.nodup_append.mpr ⟨fenced.apart id, List.nodup_singleton _, fun earlier member last new => ?_⟩
    cases List.mem_singleton.mp new
    obtain ⟨call, there, rfl⟩ := List.mem_map.mp member
    exact apart call (waiting_inFlight there)

private theorem takes_of_other {event : LazyEvent} (other : event.isRequest = false) : exchange.starter.takes event = [] := by
  unfold LazyEvent.isRequest at other
  split at other
  · cases other
  next unrelated =>
    unfold Starter.takes
    split
    · exact (unrelated _ _ rfl).elim
    · rfl

private theorem keepsGates_live {changed : Registry} (keeps : exchange.keepsGates changed = true) :
    (∀ id, ∀ call ∈ exchange.inbox, call.via = some id → allows (changed.lazyGates.get id) call.msg.frameAddr = true) ∧
    ∀ id, exchange.system.kernel.registry.isLive id = true →
      (exchange.system.kernel.registry.lazyGates.get id).isSome = true → (changed.lazyGates.get id).isSome = false →
      callsFor id exchange.wakes = [] := by
  simp only [keepsGates, Bool.and_eq_true, List.all_eq_true, Bool.not_eq_eq_eq_not] at keeps
  refine ⟨fun id call member back => ?_, fun id live up gone => Decidable.byContradiction fun waits => ?_⟩
  · simpa [back] using keeps.1 call member
  · obtain ⟨key, entry, held, same⟩ := (DashMap.any_iff ..).mp live
    cases beq_iff_eq.mp same
    refine Bool.eq_false_iff.mp keeps.2 ((DashMap.any_iff ..).mpr ⟨key, entry, held, ?_⟩)
    simpa [up, waits] using gone

structure Lined (exchange : Exchange) : Prop where
  fenced : exchange.Fenced
  ordered : exchange.Ordered

theorem Lined.initial : Lined {} := by
  have slot (id : String) : (lane {} id).slot = none := rfl
  refine ⟨⟨fun id => ⟨trivial, by simp [slot]⟩, fun id => ⟨by simp [slot], fun _ draining => ?_⟩, fun _ _ waits => absurd rfl waits,
    fun _ _ member => ?_, fun _ _ member => ?_, fun _ => .nil⟩, trivial, fun _ => .nil, fun _ _ member => ?_⟩
  · cases draining
  · cases member
  · cases member
  · cases member

private theorem Lined.route (lined : exchange.Lined) (ambient : Ambient) (finds : exchange.inbox.head?.all exchange.finds = true)
    (joins : exchange.joinsGated (exchange.route config ambient).system.kernel.registry = true) :
    (exchange.route config ambient).Lined := by
  obtain ⟨fenced, ordered⟩ := lined
  have routes := @route_routes config exchange ambient
  have shifts := routes.shifts fenced finds
  have kept := @route_starter config exchange ambient
  refine ⟨?_, ordered.shifts (kept.1 ▸ ordered.tidy) kept.2 shifts⟩
  generalize exchange.route config ambient = after at routes shifts joins ⊢
  cases routes with
  | stay => exact fenced
  | hands call inbox handover system idle next carries found knocks =>
    rw [next] at finds
    exact fenced.knock next finds knocks rfl rfl (List.append_nil _).symm joins shifts
  | ends call inbox wake system idle next knocks =>
    rw [next] at finds
    exact fenced.knock next finds knocks rfl rfl rfl joins shifts

theorem Lined.step (lined : exchange.Lined) {input : ExchangeInput}
    (orderly : exchange.orderly config startTimeout input = true) : (exchange.step config startTimeout input).Lined := by
  obtain ⟨fenced, ordered⟩ := lined
  simp only [Exchange.orderly, Bool.and_eq_true] at orderly
  obtain ⟨joins, orderly⟩ := orderly
  cases input with
  | arrive msg =>
    simp only [Bool.and_eq_true, List.all_eq_true, bne_iff_ne, Bool.not_eq_eq_eq_not] at orderly
    refine ⟨fenced.arrive orderly.1 fun id => Bool.eq_false_iff.mpr fun passes => ?_, ordered.arrive msg⟩
    obtain ⟨gate, up⟩ := Option.isSome_iff_exists.mp (allows_isSome passes)
    refine Bool.eq_false_iff.mp orderly.2 ((DashMap.any_iff ..).mpr ⟨id, gate, up, ?_⟩)
    rwa [up] at passes
  | route ambient => exact Lined.route ⟨fenced, ordered⟩ ambient orderly joins
  | advance =>
    have kept := @advance_starter config exchange
    obtain ⟨inbox, wakes, gates⟩ := @advance_registry config exchange
    exact ⟨fenced.unmoved kept.1 inbox wakes gates joins, ordered.shifts (kept.1 ▸ ordered.tidy) kept.2 advance_shifts⟩
  | elsewhere input =>
    simp only [Exchange.step] at joins ⊢
    split
    next foreign =>
      rw [if_pos foreign] at joins
      exact ⟨fenced.unmoved rfl rfl rfl (System.step_lazyGates config exchange.system foreign) joins,
        ordered.shifts ordered.tidy rfl fun id => .refl rfl rfl⟩
    · exact ⟨fenced, ordered⟩
  | receive ambient =>
    simp only [Exchange.step]
    split
    next pluginId call wakes idle waiting =>
      have taken (id : String) : callsFor id exchange.wakes =
          callsFor id (exchange.starter.takes (.select (.request pluginId call))) ++ callsFor id wakes := by
        rw [waiting, Starter.takes, if_pos idle, ← callsFor_append]
        rfl
      have same : (exchange.starter.step startTimeout ambient exchange.system.kernel.registry
          (.select (.request pluginId call))).registry = exchange.system.kernel.registry := by
        simp only [Starter.step, if_pos idle, Starter.select, Starter.onWakeRequest]
        split
        · split <;> rfl
        · rfl
      refine ⟨fenced.progress ordered.tidy taken ?_ fun id live up gone => ?_,
        ordered.shifts (step_tidy ordered.tidy _ _ _) rfl (progress_shifts ordered.tidy taken)⟩
      · rw [same]
        exact fenced.admitted
      · rw [same, up] at gone
        cases gone
    · exact ⟨fenced, ordered⟩
  | waker ambient event =>
    simp only [Exchange.step] at orderly ⊢
    split
    · exact ⟨fenced, ordered⟩
    next other =>
      rw [if_neg other] at orderly
      obtain ⟨kept, freed⟩ := keepsGates_live orderly
      have taken (id : String) : callsFor id exchange.wakes =
          callsFor id (exchange.starter.takes event) ++ callsFor id exchange.wakes := by
        rw [takes_of_other (Bool.eq_false_iff.mpr other)]
        rfl
      exact ⟨fenced.progress ordered.tidy taken kept freed,
        ordered.shifts (step_tidy ordered.tidy _ _ _) rfl (progress_shifts ordered.tidy taken)⟩

end
end Exchange

def lazySetup : List ExchangeInput :=
  [.elsewhere (.call (.registerDormant ⟨"greeter", [{ name := "greet" }], secs 60⟩)),
   .elsewhere (.call (.registerWithDevice ⟨0, 0⟩ "app" 1 {} 1 {}))]

def askGreeter (frameAddr : Nat) : ExchangeInput :=
  let request : ActionRequest := { actionId := "a", action := "greet" }
  .arrive { connId := 1, writeTx := 1, frameAddr, frame :=
    { target := some "kernel", payload := .envelope { messageId := "m", payload := .actionRequest request } } }

def greeterJoins : ExchangeInput :=
  .elsewhere (.call (.registerWithDevice ⟨0, 0⟩ "greeter" 7 { actions := ["greet"] } 7 {}))

def takeWake (operations : Nat) : List ExchangeInput := .receive {} :: List.replicate operations (.waker {} .resume)

end Vynkor
