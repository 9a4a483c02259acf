import Vynkor.Proofs.GateFrames
import Vynkor.Proofs.ExchangeSteps
import Vynkor.Proofs.LazyConservation
import Vynkor.Proofs.RouterSteps

/-! The gate of a lazy plugin. A request uses up its own allowance and no other; only the
waker gives allowances, for the calls it re-injects, and it lets a gate go only when it has
no call of the plugin in hand. -/

namespace Vynkor
open Lib

def Registry.isLive (registry : Registry) (id : String) : Bool := registry.byPluginId.any fun entry => entry.pluginId == id

theorem allows_isSome {gate : Option (DashMap Nat Instant)} {frameAddr : Nat} (passes : allows gate frameAddr = true) :
    gate.isSome = true := by
  cases gate with
  | none => cases passes
  | some gate => rfl

section Lookup
variable {registry : Registry} {action : String} {frameAddr : Nat} {id : String}

theorem Registry.isLive_of_found {provider : PluginEntry} (found : registry.findActionProvider action = .found provider) :
    registry.isLive provider.pluginId = true := by
  obtain ⟨key, held⟩ := findActionProvider_registered found
  exact (DashMap.any_iff ..).mpr ⟨key, provider, held, beq_self_eq_true _⟩

private theorem gatedLookup_gate (registry : Registry) (action : String) (frameAddr : Nat) (id : String) :
    (gatedLookup registry action frameAddr).2.lazyGates.get id = registry.lazyGates.get id ∨
    ∃ provider gate, registry.findActionProvider action = .found provider ∧ provider.pluginId = id ∧
      registry.lazyGates.get id = some gate ∧
      (gatedLookup registry action frameAddr).2.lazyGates.get id = some (gate.remove frameAddr) := by
  unfold gatedLookup
  split
  next provider found =>
    unfold Registry.lazyGatePasses
    split
    · exact .inl rfl
    next gate held =>
      by_cases mine : id = provider.pluginId
      · subst mine
        exact .inr ⟨provider, gate, found, rfl, held, by simp⟩
      · exact .inl (by simp [mine])
  next => exact .inl rfl

theorem gatedLookup_isSome : ((gatedLookup registry action frameAddr).2.lazyGates.get id).isSome =
    (registry.lazyGates.get id).isSome := by
  rcases gatedLookup_gate registry action frameAddr id with same | ⟨provider, gate, -, -, held, left⟩
  · rw [same]
  · rw [held, left]
    rfl

theorem gatedLookup_allows {other : Nat} (passes : allows ((gatedLookup registry action frameAddr).2.lazyGates.get id) other) :
    allows (registry.lazyGates.get id) other := by
  rcases gatedLookup_gate registry action frameAddr id with same | ⟨provider, gate, -, -, held, left⟩
  · rwa [same] at passes
  · rw [left, allows, Option.any_some, DashMap.containsKey, DashMap.get_remove] at passes
    split at passes
    · cases passes
    · rw [held]
      exact passes

theorem gatedLookup_keeps {other : Nat} (passes : allows (registry.lazyGates.get id) other)
    (apart : ∀ provider, registry.findActionProvider action = .found provider → provider.pluginId = id → other ≠ frameAddr) :
    allows ((gatedLookup registry action frameAddr).2.lazyGates.get id) other := by
  rcases gatedLookup_gate registry action frameAddr id with same | ⟨provider, gate, found, mine, held, left⟩
  · rwa [same]
  · rw [held] at passes
    rw [left, allows, Option.any_some, DashMap.containsKey, DashMap.get_remove, if_neg (apart provider found mine)]
    exact passes

theorem gatedLookup_found {provider : PluginEntry} (found : (gatedLookup registry action frameAddr).1 = .found provider) :
    registry.findActionProvider action = .found provider ∧
      (registry.lazyGates.get provider.pluginId = none ∨ allows (registry.lazyGates.get provider.pluginId) frameAddr) := by
  unfold gatedLookup at found
  split at found
  next live lookup =>
    simp only at found
    split at found
    next passed =>
      cases found
      refine ⟨lookup, ?_⟩
      unfold Registry.lazyGatePasses at passed
      split at passed
      next free => exact .inl free
      next gate held => exact .inr (by rw [held]; exact passed)
    · cases found
  next other => exact absurd found (other provider)

/-- A request goes to the waker for a dormant plugin, or because the gate is in its way. -/
theorem gatedLookup_dormant (asleep : (gatedLookup registry action frameAddr).1 = .dormant id) :
    registry.findActionProvider action = .dormant id ∨
    ∃ provider, registry.findActionProvider action = .found provider ∧ provider.pluginId = id ∧
      (registry.lazyGates.get id).isSome = true ∧ allows (registry.lazyGates.get id) frameAddr = false := by
  unfold gatedLookup at asleep
  split at asleep
  next provider lookup =>
    simp only at asleep
    split at asleep
    · cases asleep
    next refused =>
      cases asleep
      refine .inr ⟨provider, lookup, rfl, ?_⟩
      unfold Registry.lazyGatePasses at refused
      split at refused
      · exact absurd rfl refused
      next gate held => rw [held]; exact ⟨rfl, Bool.eq_false_iff.mpr refused⟩
  · exact .inl asleep

end Lookup

section Messages
variable {config : Config} {ambient : Ambient} {kernel : Kernel} {msg : IncomingMessage} {messageId : String}

theorem Kernel.route_deliver {request : ActionRequest} {provider : PluginEntry}
    (deliver : kernel.route config ambient msg request = .deliver provider) :
    (gatedLookup kernel.registry request.action msg.frameAddr).1 = .found provider := by
  unfold Kernel.route at deliver
  rcases chooseRoute_cases config ambient (gatedLookup kernel.registry request.action msg.frameAddr).2
    (senderId kernel.registry msg.connId)
    (callerDenied config kernel.registry (senderId kernel.registry msg.connId) request)
    (gatedLookup kernel.registry request.action msg.frameAddr).1 request.action with
    ⟨other, there, found, -⟩ | ⟨there, -⟩ | ⟨other, there, -⟩ | there
  · cases there.symm.trans deliver
    exact found
  · cases there.symm.trans deliver
  · cases there.symm.trans deliver
  · simp only [deliver] at there
    simp at there

/-- What a message does to the gates: a request asks that of its provider and may wake the
plugin, anything else leaves the gates alone. -/
inductive Knocks (registry : Registry) (msg : IncomingMessage) (wake : Option WakeRequest) (after : Registry) : Prop
  | asks (action : String) (asked : requestAction msg = some action) (live : after.byPluginId = registry.byPluginId)
      (gates : after.lazyGates = (gatedLookup registry action msg.frameAddr).2.lazyGates)
      (asleep : ∀ woken, wake = some woken → (gatedLookup registry action msg.frameAddr).1 = .dormant woken.pluginId)
  | other (quiet : wake = none) (gates : after.lazyGates = registry.lazyGates)

private theorem handleActionRequest_knocks {envelope : Envelope} {request : ActionRequest}
    (decoded : msg.frame.payload.decode = some envelope) (payload : envelope.payload = .actionRequest request) :
    Knocks kernel.registry msg (handleActionRequest config ambient kernel msg messageId request).wake
      (handleActionRequest config ambient kernel msg messageId request).kernel.registry := by
  have asked : requestAction msg = some request.action := by simp [requestAction, decoded, payload]
  have requests := handleActionRequest_cases config ambient kernel msg messageId request
  obtain ⟨gates, opened⟩ := gatedLookup_registry kernel.registry request.action msg.frameAddr
  have live : (gatedLookup kernel.registry request.action msg.frameAddr).2.byPluginId = kernel.registry.byPluginId := by
    rw [opened]
  generalize handleActionRequest config ambient kernel msg messageId request = outcome at requests ⊢
  have quiet (woken : WakeRequest) (absent : none = some woken) :
      (gatedLookup kernel.registry request.action msg.frameAddr).1 = .dormant woken.pluginId := by cases absent
  cases requests with
  | refused | relayed | withdrawn => exact .asks _ asked live rfl quiet
  | woken pluginId asleep =>
    refine .asks _ asked live rfl fun woken same => ?_
    cases same
    exact asleep
  | delivered =>
    exact .asks _ asked ((Registry.touchUsed_byPluginId ..).trans live) (Registry.touchUsed_lazyGates ..) quiet

private theorem handleKernelMessage_knocks : Knocks kernel.registry msg (handleKernelMessage config ambient kernel msg).wake
    (handleKernelMessage config ambient kernel msg).kernel.registry := by
  by_cases asks : ∃ envelope request, msg.frame.payload.decode = some envelope ∧ envelope.payload = .actionRequest request
  · obtain ⟨envelope, request, decoded, payload⟩ := asks
    unfold handleKernelMessage
    simp only [decoded, payload]
    split
    · exact .other rfl rfl
    · exact handleActionRequest_knocks decoded payload
  · have other : ∀ envelope request, msg.frame.payload.decode = some envelope → envelope.payload ≠ .actionRequest request :=
      fun envelope request decoded payload => asks ⟨envelope, request, decoded, payload⟩
    have ungated := handleKernelMessage_ungated config ambient kernel msg other
    exact .other ungated.2 ungated.1

private theorem routeMessage_knocks {target : String} : Knocks kernel.registry msg
    (routeMessage config ambient kernel msg target).wake (routeMessage config ambient kernel msg target).kernel.registry := by
  unfold routeMessage
  split
  · exact handleKernelMessage_knocks
  · split
    · have outcome := broadcast_cases ambient kernel msg
      generalize broadcast ambient kernel msg = result at outcome ⊢
      cases outcome <;> exact .other rfl rfl
    · have outcome := forward_cases config ambient kernel msg target
      generalize forward config ambient kernel msg target = result at outcome ⊢
      cases outcome with
      | delivered =>
        refine .other rfl ?_
        simp only
        split <;> rfl
      | _ => exact .other rfl rfl

theorem System.handleMessage_knocks (system : System) (unwoken : system.wakes = []) : ∃ wake : Option WakeRequest,
    (system.handleMessage config ambient msg).wakes = wake.toList ∧
    Knocks system.kernel.registry msg wake (system.handleMessage config ambient msg).kernel.registry := by
  have handles := System.handleMessage_cases config system ambient msg
  generalize system.handleMessage config ambient msg = after at handles ⊢
  cases handles with
  | limited | untargeted | dropped => exact ⟨none, unwoken, .other rfl rfl⟩
  | routed =>
    exact ⟨_, congrArg (· ++ _) unwoken, routeMessage_knocks⟩

end Messages

namespace Lane
variable {closed : Bool} {id : String} {lane after : Lane} {traffic : Traffic}

/-- The gate is up while the waker starts the plugin and while it re-injects calls. -/
structure Held (lane : Lane) : Prop where
  slot : ∀ w, lane.slot = some w → w.stopping = false → w.wantStop = false → lane.gate.isSome = true
  draining : ∀ calls, lane.stage = .draining calls → lane.gate.isSome = true

theorem Glides.held (glides : Glides lane after) (held : lane.Held)
    (serves : ∀ call, lane.stage = .admitting call → after.stage = .draining [call] → lane.gate.isSome = true) :
    after.Held := by
  cases glides with
  | stay => exact held
  | serve call stage => exact ⟨held.slot, fun _ _ => serves call stage rfl⟩
  | sort stage w sorted unsorted slot going wanted =>
    refine ⟨held.slot, fun calls draining => ?_⟩
    rcases sorted with rfl | rfl <;> cases draining
  | close stage => exact ⟨fun _ _ _ _ => rfl, nofun⟩
  | trim gate fewer stage free => exact ⟨by simp [free], by simp [stage]⟩
  | finish | miss | look | spare => exact ⟨held.slot, nofun⟩

section
variable (step : Step closed id lane traffic after)
include step

theorem Step.held (valid : lane.Valid) (held : lane.Held)
    (serves : ∀ call, lane.stage = .admitting call → after.stage = .draining [call] → lane.gate.isSome = true) :
    after.Held := by
  have fits := valid.fits
  cases step with
  | glide glides => exact glides.held held serves
  | push w call stage slot room =>
    refine ⟨fun v same going wanted => ?_, held.draining⟩
    cases same
    exact held.slot w slot going wanted
  | full call => exact held
  | enter | refuse => exact ⟨held.slot, nofun⟩
  | wake | again => exact ⟨fun _ _ _ _ => rfl, fun _ _ => rfl⟩
  | reinject call calls now stage =>
    refine ⟨fun w slot going wanted => ?_, fun _ _ => ?_⟩
    · rw [Option.isSome_map]
      exact held.slot w slot going wanted
    · rw [Option.isSome_map]
      exact held.draining _ stage
  | lose call calls now shut stage =>
    have free : lane.slot = none := by rwa [stage] at fits
    exact ⟨by simp [free], nofun⟩
  | drain w stage slot =>
    obtain ⟨v, same, going, wanted⟩ : ∃ v, lane.slot = some v ∧ v.stopping = false ∧ v.wantStop = false := by
      rwa [stage] at fits
    exact ⟨nofun, fun _ _ => held.slot v same going wanted⟩
  | expire | halt =>
    refine ⟨fun v same going wanted => ?_, nofun⟩
    cases same
    cases wanted
  | stop | wanted =>
    refine ⟨fun v same going => ?_, by simp_all⟩
    cases same
    cases going
  | broke run rest w results stage slot want | rest run rest w results stage slot empty => exact ⟨nofun, by simp [stage]⟩
  | began run rest w results stage slot want =>
    refine ⟨fun v same going wanted => ?_, held.draining⟩
    cases same
    exact held.slot w slot going want
  | late | gone | startReturned | stopReturned => exact ⟨held.slot, held.draining⟩

/-- A gate lets through what it let through before and the calls of its lane. -/
theorem Step.passes {frameAddr : Nat} (passes : allows after.gate frameAddr) :
    allows lane.gate frameAddr ∨ ∃ call ∈ lane.calls, call.msg.frameAddr = frameAddr := by
  have raised (passes : allows (some (lane.gate.getD ∅)) frameAddr) : allows lane.gate frameAddr := by
    cases gate : lane.gate with
    | none => simp [gate, allows, DashMap.containsKey] at passes
    | some found => rwa [gate] at passes
  have admitted {call : Call} {calls : List Call} {now : Instant} (stage : lane.stage = .draining (call :: calls))
      (passes : allows (lane.gate.map fun gate => gate.insert call.msg.frameAddr now) frameAddr) :
      allows lane.gate frameAddr ∨ ∃ call ∈ lane.calls, call.msg.frameAddr = frameAddr := by
    cases gate : lane.gate with
    | none => rw [gate] at passes; cases passes
    | some found =>
      rw [gate, Option.map_some, allows, Option.any_some, DashMap.containsKey, DashMap.get_insert] at passes
      split at passes
      next same => exact .inr ⟨call, by simp [Lane.calls, stage, Stage.calls], same.symm⟩
      next => exact .inl passes
  cases step with
  | glide glides =>
    cases glides with
    | close stage => exact .inl (raised passes)
    | trim gate fewer stage free => exact .inl (fewer frameAddr passes)
    | _ => exact .inl passes
  | wake | again => exact .inl (raised passes)
  | reinject call calls now stage | lose call calls now shut stage => exact admitted stage passes
  | expire | halt | broke | rest => cases passes
  | _ => exact .inl passes

theorem Step.reinjected (held : lane.Held) {call : Call}
    (member : call ∈ traffic.reinjects) : allows after.gate call.msg.frameAddr := by
  cases step with
  | reinject other calls now stage =>
    cases List.mem_singleton.mp member
    obtain ⟨gate, up⟩ := Option.isSome_iff_exists.mp (held.draining _ stage)
    simp [up, allows, DashMap.containsKey]
  | _ => cases member

/-- A gate is let go when the lane is empty. -/
theorem Step.released (up : lane.gate.isSome = true) (gone : after.gate.isSome = false) : after.calls = [] := by
  cases step with
  | glide glides =>
    cases glides with
    | close stage => cases gone
    | trim gate fewer stage free => simp [Lane.calls, stage, free, Stage.calls]
    | _ => cases up.symm.trans gone
  | wake | again => cases gone
  | reinject | lose =>
    rw [Option.isSome_map] at gone
    cases up.symm.trans gone
  | expire | halt => rfl
  | broke run rest w results stage slot want | rest run rest w results stage slot empty =>
    simp [Lane.calls, stage, Stage.calls]
  | _ => cases up.symm.trans gone

end

end Lane

private theorem Task.stage_admitting {task : Task} {id : String} {call : Call} (admitting : task.stage id = .admitting call) :
    task = .enter id call ∨ task = .serve id call ∨ task = .touch id call ∨ task = .wake id call := by
  cases task with
  | reinject pluginId calls rest => cases rest <;> grind [Task.stage, Stage.ofLists]
  | _ => grind [Task.stage, Stage.ofLists]

theorem Starter.isLive_of_serves {registry : Registry} {id : String} {msg : IncomingMessage}
    (served : serves registry id msg = true) : registry.isLive id = true := by
  unfold serves at served
  cases asked : requestAction msg with
  | none => rw [asked] at served; cases served
  | some action =>
    rw [asked, Option.any_some] at served
    split at served
    next provider found => exact beq_iff_eq.mp served ▸ Registry.isLive_of_found found
    · cases served

/-- A call is re-injected without having been queued only if its plugin is found live. -/
theorem Starter.step_serves {startTimeout : Nat} {ambient : Ambient} {registry : Registry} {starter : Starter} {id : String}
    {event : LazyEvent} {call : Call} (admitting : starter.task.stage id = .admitting call)
    (draining : (starter.step startTimeout ambient registry event).starter.task.stage id = .draining [call]) :
    serves registry id call.msg = true := by
  have moved : (starter.step startTimeout ambient registry event).starter.task ≠ starter.task := by
    intro same
    rw [same, admitting] at draining
    cases draining
  cases event with
  | select arm =>
    have busy : starter.task ≠ .idle := by
      intro idle
      rw [idle] at admitting
      cases admitting
    exact absurd (by simp only [step, if_neg busy]) moved
  | resume =>
    rcases Task.stage_admitting admitting with task | task | task | task
    · simp only [step, resume, task] at draining
      split at draining <;> simp [Task.stage] at draining
    · simp only [step, resume, task] at draining
      split at draining
      next found => exact found
      next => cases draining
    · simp [step, resume, task, Task.stage] at draining
    · simp [step, resume, task, spawnStart, Task.stage] at draining
  | returned =>
    refine absurd ?_ moved
    simp only [step, returned]
    split
    · split <;> rfl
    · rfl
  | closeRouter => exact absurd rfl moved

end Vynkor
