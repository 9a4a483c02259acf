import Vynkor.Proofs.DeclaredSubscriptions

/-! Every registration is announced when it is accepted and again when it has ended, and takes
its subscriptions with it. What is still to be announced is either a registration that stands or
one that the disconnect loop has removed and not yet published. -/

namespace Vynkor
open Lib

def seated (plugins : DashMap String PluginEntry) (connId : ConnId) (pluginId : String) : Bool :=
  (plugins.get pluginId).any fun entry => entry.connId == connId

/-- The registration that the disconnect loop has removed and not yet announced. -/
def Departure.owed : Departure → List (ConnId × String)
  | .unregistered connId pluginId _ | .unsubscribed connId pluginId _ => [(connId, pluginId)]
  | _ => []

/-- How often `system.plugin_joined` was published for the plugin on this connection. -/
def Lifecycle.joins (life : Lifecycle) (connId : ConnId) (pluginId : String) : Nat :=
  (life.published.filterMap Publication.joined?).count (connId, pluginId)

/-- The same for `system.plugin_left`. -/
def Lifecycle.lefts (life : Lifecycle) (connId : ConnId) (pluginId : String) : Nat :=
  (life.published.filterMap Publication.left?).count (connId, pluginId)

def LifecycleInput.isLoad : LifecycleInput → Bool
  | .load _ _ => true
  | _ => false

/-- `PluginManager::stop` finds no registration, and no plugin registers between the disconnect
loop's `unregister_conn` and `unsubscribe_all` of the same id. -/
def Lifecycle.orderly (config : Config) (life : Lifecycle) : LifecycleInput → Bool
  | .message ambient msg =>
    (life.publications config (.message ambient msg)).all fun publication =>
      publication.joined?.all fun registration => life.departure.cleaning != some registration.2
  | .stop _ pluginId => (life.kernel.registry.get pluginId).isNone
  | _ => true

section Seats
variable (plugins : DashMap String PluginEntry) (connId : ConnId) (pluginId other : String)

private theorem seated_remove :
    seated (plugins.remove other) connId pluginId = if pluginId = other then false else seated plugins connId pluginId := by
  unfold seated
  rw [DashMap.get_remove]
  split <;> rfl

private theorem seated_insert (entry : PluginEntry) : seated (plugins.insert other entry) connId pluginId =
    if pluginId = other then entry.connId == connId else seated plugins connId pluginId := by
  unfold seated
  rw [DashMap.get_insert]
  split <;> rfl

variable {plugins connId pluginId}

private theorem seated_of_get {entry : PluginEntry} (held : plugins.get pluginId = some entry) :
    seated plugins connId pluginId = (entry.connId == connId) := by
  unfold seated
  rw [held]
  rfl

private theorem seated_of_none (free : plugins.get pluginId = none) : seated plugins connId pluginId = false := by
  unfold seated
  rw [free]
  rfl

private theorem count_registration (removed : ConnId) :
    [(removed, other)].count (connId, pluginId) = if pluginId = other then (removed == connId).toNat else 0 := by
  rw [List.count_singleton]
  by_cases same : pluginId = other
  · subst same
    cases here : removed == connId with
    | false | true => simp_all
  · simp [same, Ne.symm same]

end Seats

section Balance
variable {ambient : Ambient} {msg : IncomingMessage} {standing after : Standing} {published : List Publication}

private theorem Shift.balance (shift : Shift ambient msg standing published after) (connId : ConnId) (pluginId : String) :
    (published.filterMap Publication.joined?).count (connId, pluginId) + (seated standing.plugins connId pluginId).toNat =
      (published.filterMap Publication.left?).count (connId, pluginId) + (seated after.plugins connId pluginId).toNat := by
  cases shift with
  | publish | subscribe | unsubscribe => rfl
  | leave other entry payload quiet held =>
    change 0 + _ = [(entry.connId, other)].count (connId, pluginId) + (seated (standing.plugins.remove other) _ _).toNat
    rw [count_registration, seated_remove]
    split
    next same =>
      subst same
      rw [seated_of_get held, Nat.zero_add]
      rfl
    next => rfl
  | join entry payload quiet freeConn freeId =>
    change [(entry.connId, entry.pluginId)].count (connId, pluginId) + _ =
      0 + (seated (standing.plugins.insert entry.pluginId entry) _ _).toNat
    rw [count_registration, seated_insert]
    split
    next same =>
      subst same
      rw [seated_of_none freeId, Nat.zero_add]
      rfl
    next => rfl

private theorem Shifts.balance (shifts : Shifts ambient msg standing published after) (connId : ConnId) (pluginId : String) :
    (published.filterMap Publication.joined?).count (connId, pluginId) + (seated standing.plugins connId pluginId).toNat =
      (published.filterMap Publication.left?).count (connId, pluginId) + (seated after.plugins connId pluginId).toNat := by
  induction shifts with
  | none => rfl
  | more shift _ ih =>
    have first := shift.balance connId pluginId
    rw [List.filterMap_append, List.filterMap_append, List.count_append, List.count_append]
    omega

/-- What a step publishes makes up for the registrations that it begins, ends or owes. -/
theorem Passage.Turns.balance {passage after : Passage} {input : LifecycleInput} (turns : passage.Turns input published after)
    (unstopped : ∀ shuffle pluginId, input = .stop shuffle pluginId → passage.standing.plugins.get pluginId = none)
    (connId : ConnId) (pluginId : String) :
    (published.filterMap Publication.joined?).count (connId, pluginId) +
        (seated passage.standing.plugins connId pluginId).toNat + passage.departure.owed.count (connId, pluginId) =
      (published.filterMap Publication.left?).count (connId, pluginId) +
        (seated after.standing.plugins connId pluginId).toNat + after.departure.owed.count (connId, pluginId) := by
  cases turns with
  | stays | loads => rfl
  | finds connId entry payload idle => rw [idle]; rfl
  | yields shuffle connId pluginId payload stage | clears connId pluginId payload stage => rw [stage]; rfl
  | routes ambient msg published standing shifts => exact congrArg (· + _) (shifts.balance connId pluginId)
  | stops shuffle other entry held => cases (unstopped shuffle other rfl).symm.trans held
  | announces clock removed other payload stage =>
    rw [stage]
    have moved (seats announced : Nat) : 0 + seats + announced = announced + seats + 0 := by omega
    exact moved _ _
  | removes shuffle other entry payload stage held =>
    rw [stage]
    change 0 + _ + 0 = 0 + (seated (passage.standing.plugins.remove other) connId pluginId).toNat +
      [(entry.connId, other)].count (connId, pluginId)
    rw [count_registration, seated_remove]
    split
    next same =>
      subst same
      rw [seated_of_get held, Bool.toNat_false]
      omega
    next => rfl

end Balance

/-- Whoever subscribes is registered, or the disconnect loop is about to end its subscriptions;
and whom the disconnect loop is about to clean up after is not registered. -/
structure Standing.Settled (standing : Standing) (cleaning : Option String) : Prop where
  subscribed : ∀ eventType pluginId, pluginId ∈ standing.bus.subscribers eventType →
    standing.plugins.get pluginId ≠ none ∨ cleaning = some pluginId
  apart : ∀ pluginId, cleaning = some pluginId → standing.plugins.get pluginId = none

section Settled
variable {ambient : Ambient} {msg : IncomingMessage} {standing after : Standing} {published : List Publication}
  {cleaning : Option String}

theorem Shift.settled (shift : Shift ambient msg standing published after) (sound : standing.Sound)
    (ordered : ∀ connId pluginId, (connId, pluginId) ∈ published.filterMap Publication.joined? → cleaning ≠ some pluginId)
    (settled : standing.Settled cleaning) : after.Settled cleaning := by
  cases shift with
  | publish => exact ⟨settled.subscribed, settled.apart⟩
  | subscribe entry eventTypes found =>
    refine ⟨?_, settled.apart⟩
    intro eventType pluginId member
    rcases (EventBus.mem_subscribe ..).mp member with earlier | ⟨rfl, -⟩
    · exact settled.subscribed eventType pluginId earlier
    · exact .inl (ne_of_eq_of_ne (sound.registered found) nofun)
  | unsubscribe =>
    refine ⟨?_, settled.apart⟩
    intro eventType pluginId member
    exact settled.subscribed eventType pluginId ((sound.tidy.mem_unsubscribe ..).mp member).1
  | leave =>
    constructor
    · intro eventType pluginId member
      obtain ⟨earlier, apart⟩ := (sound.tidy.mem_unsubscribeAll ..).mp member
      refine (settled.subscribed eventType pluginId earlier).imp_left fun registered => ?_
      rw [DashMap.get_remove, if_neg apart]
      exact registered
    · intro pluginId pending
      rw [DashMap.get_remove, settled.apart pluginId pending, ite_self]
  | join entry payload quiet freeConn freeId =>
    constructor
    · intro eventType pluginId member
      refine (settled.subscribed eventType pluginId member).imp_left fun registered => ?_
      rw [DashMap.get_insert]
      split
      · exact nofun
      · exact registered
    · intro pluginId pending
      have apart : pluginId ≠ entry.pluginId := by
        rintro rfl
        exact ordered entry.connId entry.pluginId List.mem_cons_self pending
      rw [DashMap.get_insert, if_neg apart]
      exact settled.apart pluginId pending

theorem Shifts.settled (shifts : Shifts ambient msg standing published after) (sound : standing.Sound)
    (ordered : ∀ connId pluginId, (connId, pluginId) ∈ published.filterMap Publication.joined? → cleaning ≠ some pluginId)
    (settled : standing.Settled cleaning) : after.Settled cleaning := by
  induction shifts with
  | none => exact settled
  | more shift _ ih =>
    simp only [List.filterMap_append, List.mem_append] at ordered
    refine ih (shift.sound sound) (fun connId pluginId member => ordered connId pluginId (.inr member)) ?_
    exact shift.settled sound (fun connId pluginId member => ordered connId pluginId (.inl member)) settled

theorem Passage.Turns.settled {passage after : Passage} {input : LifecycleInput} (turns : passage.Turns input published after)
    (sound : passage.standing.Sound) (scope : input.isLoad = false)
    (unstopped : ∀ shuffle pluginId, input = .stop shuffle pluginId → passage.standing.plugins.get pluginId = none)
    (ordered : ∀ connId pluginId, (connId, pluginId) ∈ published.filterMap Publication.joined? →
      passage.departure.cleaning ≠ some pluginId)
    (settled : passage.standing.Settled passage.departure.cleaning) : after.standing.Settled after.departure.cleaning := by
  cases turns with
  | stays => exact settled
  | routes ambient msg published standing shifts => exact shifts.settled sound ordered settled
  | loads => cases scope
  | stops shuffle other entry held => cases (unstopped shuffle other rfl).symm.trans held
  | finds connId entry payload idle =>
    rw [idle] at settled
    exact settled
  | yields shuffle connId pluginId payload stage | announces clock connId pluginId payload stage =>
    rw [stage] at settled
    exact settled
  | removes shuffle other entry payload stage held =>
    rw [stage] at settled
    constructor
    · intro eventType pluginId member
      by_cases same : pluginId = other
      · exact .inr (congrArg some same.symm)
      · refine .inl ?_
        change (passage.standing.plugins.remove other).get pluginId ≠ none
        rw [DashMap.get_remove, if_neg same]
        exact (settled.subscribed eventType pluginId member).resolve_right nofun
    · intro pluginId pending
      cases pending
      exact (DashMap.get_remove ..).trans (if_pos rfl)
  | clears connId other payload stage =>
    rw [stage] at settled
    refine ⟨?_, nofun⟩
    intro eventType pluginId member
    obtain ⟨earlier, apart⟩ := (sound.tidy.mem_unsubscribeAll ..).mp member
    refine .inl ((settled.subscribed eventType pluginId earlier).resolve_right fun pending => ?_)
    exact apart (Option.some.inj pending).symm

end Settled

namespace Lifecycle
variable {config : Config} {life : Lifecycle}

/-- What a run keeps if no plugin is loaded and all its steps are orderly. -/
structure Regular (life : Lifecycle) : Prop where
  sound : life.kernel.standing.Sound
  settled : life.kernel.standing.Settled life.departure.cleaning
  balanced : ∀ connId pluginId, life.joins connId pluginId = life.lefts connId pluginId +
    (seated life.kernel.registry.byPluginId connId pluginId).toNat + life.departure.owed.count (connId, pluginId)

private theorem orderly_stop {input : LifecycleInput} (orderly : life.orderly config input = true) (shuffle : Shuffle String)
    (pluginId : String) (stops : input = .stop shuffle pluginId) : life.passage.standing.plugins.get pluginId = none := by
  subst stops
  exact Option.isNone_iff_eq_none.mp orderly

private theorem orderly_joins {input : LifecycleInput} (orderly : life.orderly config input = true) (connId : ConnId)
    (pluginId : String) (joins : (connId, pluginId) ∈ (life.publications config input).filterMap Publication.joined?) :
    life.departure.cleaning ≠ some pluginId := by
  obtain ⟨publication, member, joined⟩ := List.mem_filterMap.mp joins
  cases input with
  | message =>
    have apart := List.all_eq_true.mp orderly publication member
    rw [joined] at apart
    exact bne_iff_ne.mp apart
  | publishLeft clock =>
    unfold publications at member
    dsimp only at member
    split at member
    · cases List.mem_singleton.mp member
      cases joined
    · cases member
  | _ => cases member

theorem Regular.step (regular : life.Regular) {input : LifecycleInput} (scope : input.isLoad = false)
    (orderly : life.orderly config input = true) : (life.step config input).Regular where
  sound := (life.step_turns config input).sound regular.sound
  settled := (life.step_turns config input).settled regular.sound scope (orderly_stop orderly) (orderly_joins orderly)
    regular.settled
  balanced connId pluginId := by
    have balance := (life.step_turns config input).balance (orderly_stop orderly) connId pluginId
    have before := regular.balanced connId pluginId
    unfold joins lefts at before ⊢
    rw [step_published, List.filterMap_append, List.filterMap_append, List.count_append, List.count_append]
    change _ + (seated life.kernel.registry.byPluginId connId pluginId).toNat + life.departure.owed.count (connId, pluginId) =
      _ + (seated (life.step config input).kernel.registry.byPluginId connId pluginId).toNat +
        (life.step config input).departure.owed.count (connId, pluginId) at balance
    omega

theorem Regular.initial : Regular {} where
  sound := ⟨.empty, nofun⟩
  settled := ⟨fun _ _ member => (List.not_mem_nil member).elim, nofun⟩
  balanced _ _ := rfl

private theorem run_regular (config : Config) (inputs : List LifecycleInput) (scope : ∀ input ∈ inputs, input.isLoad = false)
    (orderly : (machine config).Obeys (fun life input => life.orderly config input = true) {} inputs) :
    ((machine config).run inputs).Regular := by
  have unloaded : (machine config).Obeys (fun _ input => input.isLoad = false) {} inputs := Machine.obeys_of_forall scope
  refine @Machine.Obeys.run_preserves _ _ (machine config) Regular _ .initial ?_ _ (unloaded.and orderly)
  rintro life input ⟨scope, orderly⟩ regular
  exact regular.step scope orderly

end Lifecycle

/-- In a run of the router, the disconnect loop and the manager whose steps are all orderly, every
registration that was announced stands, is owed its `system.plugin_left` by the disconnect loop, or
has had exactly one; a plugin without a registration subscribes to nothing once its cleanup is over;
no step takes a subscription from a plugin that stays registered and does not ask for it; and an
eviction leaves none, also where the plugin registers anew in the same step. -/
theorem lifecycle_follows_registrations (config : Config) (inputs : List LifecycleInput)
    (scope : ∀ input ∈ inputs, input.isLoad = false)
    (orderly : (Lifecycle.machine config).Obeys (fun life input => life.orderly config input = true) {} inputs) :
    let life := (Lifecycle.machine config).run inputs
    (∀ connId pluginId, life.joins connId pluginId = life.lefts connId pluginId +
      (seated life.kernel.registry.byPluginId connId pluginId).toNat + life.departure.owed.count (connId, pluginId)) ∧
    (∀ pluginId, life.kernel.registry.get pluginId = none → life.departure.cleaning ≠ some pluginId →
      ∀ eventType, pluginId ∉ life.kernel.bus.subscribers eventType) ∧
    (∀ pluginId input, life.kernel.registry.get pluginId ≠ none → life.unsubscribesItself pluginId input = false →
      life.evicts config pluginId input = false → ∀ eventType, pluginId ∈ life.kernel.bus.subscribers eventType →
        pluginId ∈ (life.step config input).kernel.bus.subscribers eventType) ∧
    ∀ pluginId input, life.evicts config pluginId input = true → ∀ eventType,
      pluginId ∉ (life.step config input).kernel.bus.subscribers eventType := by
  intro life
  have regular : life.Regular := Lifecycle.run_regular config inputs scope orderly
  refine ⟨regular.balanced, ?_, ?_, fun pluginId input evicts eventType => Lifecycle.step_evicted regular.sound evicts⟩
  · intro pluginId removed processed eventType member
    rcases regular.settled.subscribed eventType pluginId member with registered | cleaning
    · exact registered removed
    · exact processed cleaning
  · intro pluginId input registered silent stays eventType member
    refine Lifecycle.step_keeps regular.sound silent ?_ member
    cases input with
    | unsubscribeAll =>
      refine beq_eq_false_iff_ne.mpr fun cleaning => ?_
      exact registered (regular.settled.apart pluginId cleaning)
    | _ => exact stays

def agentSubscribes (connId : ConnId) : LifecycleInput :=
  .message {} (kernelMessage connId (.subscribe ["plugin.clock.tick"]))

/-- The agent comes back while its last registration is still to be announced. -/
def agentReconnects : List LifecycleInput :=
  [agentRegisters 1, agentSubscribes 1, .disconnected 1, .lookUp, .unregister (.unchanged _), .unsubscribeAll,
    agentRegisters 2, agentSubscribes 2, .publishLeft ⟨5, 5⟩]

theorem lifecycle_follows_registrations_reconnect :
    let life := (Lifecycle.machine {}).run agentReconnects
    life.joins 1 "agent" = life.lefts 1 "agent" + (seated life.kernel.registry.byPluginId 1 "agent").toNat +
      life.departure.owed.count (1, "agent") ∧
    life.joins 1 "agent" = 1 ∧ life.lefts 1 "agent" = 1 ∧ "agent" ∈ life.kernel.bus.subscribers "plugin.clock.tick" :=
  ⟨(lifecycle_follows_registrations {} agentReconnects (by decide) (by decide +kernel)).1 1 "agent", by decide +kernel⟩

def agentStopped : List LifecycleInput :=
  [agentRegisters 1, agentSubscribes 1, .stop (.unchanged _) "agent", .disconnected 1, .lookUp]

/-- The agent comes back before the disconnect loop has ended its subscriptions. -/
def agentOvertakes : List LifecycleInput :=
  [agentRegisters 1, .disconnected 1, .lookUp, .unregister (.unchanged _), agentRegisters 2, agentSubscribes 2]

/-- After `PluginManager::stop` and with every disconnect processed, the registration has had no
`system.plugin_left` and its subscriptions are still there; and a subscription on the second
connection goes with the cleanup after the first. -/
theorem lifecycle_loses_registrations :
    let stopped := (Lifecycle.machine {}).run agentStopped
    let overtaken := (Lifecycle.machine {}).run agentOvertakes
    let cleaned := overtaken.step {} .unsubscribeAll
    ((stopped.kernel.registry.get "agent").isNone = true ∧ stopped.disconnects = [] ∧ stopped.departure = .waiting ∧
      stopped.joins 1 "agent" = 1 ∧ stopped.lefts 1 "agent" = 0 ∧
      "agent" ∈ stopped.kernel.bus.subscribers "plugin.clock.tick") ∧
    (seated overtaken.kernel.registry.byPluginId 2 "agent" = true ∧
      "agent" ∈ overtaken.kernel.bus.subscribers "plugin.clock.tick" ∧
      seated cleaned.kernel.registry.byPluginId 2 "agent" = true ∧
      "agent" ∉ cleaned.kernel.bus.subscribers "plugin.clock.tick") := by
  decide +kernel

end Vynkor
