import Vynkor.Proofs.LifecycleSteps
import Vynkor.Proofs.RequesterDeparture
import Vynkor.Proofs.Subscriptions

/-! Subscriptions of a manifest, made once when the plugin is loaded. They last for as long as
no cleanup of the plugin runs; the cleanup after a disconnect takes them away and nothing makes
them again. -/

namespace Vynkor
open Lib

def Publication.joined? : Publication → Option (ConnId × String)
  | .joined connId pluginId _ _ => some (connId, pluginId)
  | _ => none

def Publication.left? : Publication → Option (ConnId × String)
  | .left connId pluginId _ _ => some (connId, pluginId)
  | _ => none

/-- What holds of every reachable standing. -/
structure Standing.Sound (standing : Standing) : Prop where
  tidy : standing.bus.Tidy
  keyed : ∀ pluginId entry, standing.plugins.get pluginId = some entry → entry.pluginId = pluginId

namespace Standing.Sound
variable {standing : Standing} (sound : standing.Sound)
include sound

theorem registered {connId : ConnId} {entry : PluginEntry} (found : standing.getByConnId connId = some entry) :
    standing.plugins.get entry.pluginId = some entry := by
  unfold getByConnId at found
  split at found
  next pluginId seat => rw [sound.keyed pluginId entry found, found]
  next => cases found

private theorem withBus {bus : EventBus} (tidy : bus.Tidy) : Sound { standing with bus } := ⟨tidy, sound.keyed⟩

theorem remove (pluginId : String) (connId : ConnId) : (standing.remove pluginId connId).Sound where
  tidy := sound.tidy
  keyed other entry held := sound.keyed other entry (DashMap.remove_some.mp held).2

theorem insert (entry : PluginEntry) : Sound { standing with
    plugins := standing.plugins.insert entry.pluginId entry
    conns := standing.conns.insert entry.connId entry.pluginId } where
  tidy := sound.tidy
  keyed other found held := by
    obtain ⟨rfl, rfl⟩ | ⟨-, earlier⟩ := DashMap.insert_cases held
    · rfl
    · exact sound.keyed other found earlier

end Standing.Sound

section Sound
variable {ambient : Ambient} {msg : IncomingMessage} {standing after : Standing} {published : List Publication}

theorem Shift.sound (shift : Shift ambient msg standing published after) (sound : standing.Sound) : after.Sound := by
  cases shift with
  | publish => exact ⟨sound.tidy, sound.keyed⟩
  | subscribe => exact sound.withBus (sound.tidy.subscribe ..)
  | unsubscribe => exact sound.withBus (sound.tidy.unsubscribe ..)
  | leave pluginId entry => exact (sound.remove pluginId entry.connId).withBus (sound.tidy.unsubscribeAll pluginId)
  | join entry => exact sound.insert entry

theorem Shifts.sound (shifts : Shifts ambient msg standing published after) (sound : standing.Sound) : after.Sound := by
  induction shifts with
  | none => exact sound
  | more shift _ ih => exact ih (shift.sound sound)

theorem Passage.Turns.sound {passage after : Passage} {input : LifecycleInput} (turns : passage.Turns input published after)
    (sound : passage.standing.Sound) : after.standing.Sound := by
  cases turns with
  | routes ambient msg published standing shifts => exact shifts.sound sound
  | removes | stops => exact sound.remove ..
  | clears => exact sound.withBus (sound.tidy.unsubscribeAll _)
  | loads => exact sound.withBus (sound.tidy.subscribe ..)
  | stays | finds | yields | announces => exact sound

end Sound

theorem Lifecycle.run_sound (config : Config) (inputs : List LifecycleInput) :
    ((machine config).run inputs).kernel.standing.Sound := by
  have initial : (Kernel.standing {}).Sound := ⟨.empty, nofun⟩
  refine @Machine.run_preserves _ _ (machine config) (fun life => life.kernel.standing.Sound) initial ?_ inputs
  intro life input sound
  exact (life.step_turns config input).sound sound

def Lifecycle.unsubscribesItself (pluginId : String) (life : Lifecycle) : LifecycleInput → Bool
  | .message _ msg => msg.unsubscribes && (life.kernel.registry.getByConnId msg.connId).any (·.pluginId == pluginId)
  | _ => false

/-- The plugin whose subscriptions the disconnect loop ends next. -/
def Departure.cleaning : Departure → Option String
  | .unregistered _ pluginId _ => some pluginId
  | _ => none

/-- The router finds the plugin's channel closed and ends its registration. -/
def Lifecycle.evicts (config : Config) (pluginId : String) (life : Lifecycle) : LifecycleInput → Bool
  | .message ambient msg =>
    (life.publications config (.message ambient msg)).any fun publication =>
      publication.left?.any fun registration => registration.2 == pluginId
  | _ => false

def Lifecycle.cleansUp (config : Config) (pluginId : String) (life : Lifecycle) : LifecycleInput → Bool
  | .unsubscribeAll => life.departure.cleaning == some pluginId
  | input => life.evicts config pluginId input

section Lasting
variable {ambient : Ambient} {msg : IncomingMessage} {standing after : Standing} {published : List Publication}
  {pluginId eventType : String}

theorem Shift.getByConnId (shift : Shift ambient msg standing published after) (asks : msg.unsubscribes = true)
    (connId : ConnId) : after.getByConnId connId = standing.getByConnId connId := by
  cases shift with
  | publish | subscribe | unsubscribe => rfl
  | leave pluginId entry payload quiet held | join entry payload quiet freeConn freeId =>
    exact nomatch asks.symm.trans quiet

theorem Shift.keeps (shift : Shift ambient msg standing published after) (sound : standing.Sound)
    (foreign : msg.unsubscribes = true → ∀ entry, standing.getByConnId msg.connId = some entry → entry.pluginId ≠ pluginId)
    (stays : ∀ connId, (connId, pluginId) ∉ published.filterMap Publication.left?)
    (subscribed : pluginId ∈ standing.bus.subscribers eventType) : pluginId ∈ after.bus.subscribers eventType := by
  cases shift with
  | publish | join => exact subscribed
  | subscribe => exact (EventBus.mem_subscribe ..).mpr (.inl subscribed)
  | unsubscribe entry eventTypes asks found =>
    refine (sound.tidy.mem_unsubscribe ..).mpr ⟨subscribed, ?_⟩
    rintro ⟨same, -⟩
    exact foreign asks entry found same.symm
  | leave other entry payload quiet held =>
    refine (sound.tidy.mem_unsubscribeAll ..).mpr ⟨subscribed, ?_⟩
    rintro rfl
    exact stays entry.connId List.mem_cons_self

theorem Shifts.keeps (shifts : Shifts ambient msg standing published after) (sound : standing.Sound)
    (foreign : msg.unsubscribes = true → ∀ entry, standing.getByConnId msg.connId = some entry → entry.pluginId ≠ pluginId)
    (stays : ∀ connId, (connId, pluginId) ∉ published.filterMap Publication.left?)
    (subscribed : pluginId ∈ standing.bus.subscribers eventType) : pluginId ∈ after.bus.subscribers eventType := by
  induction shifts with
  | none => exact subscribed
  | @more standing middle after first last shift rest ih =>
    simp only [List.filterMap_append, List.mem_append, not_or] at stays
    refine ih (shift.sound sound) ?_ (fun connId => (stays connId).2) ?_
    · intro asks entry found
      exact foreign asks entry ((shift.getByConnId asks _).symm.trans found)
    · exact shift.keeps sound foreign (fun connId => (stays connId).1) subscribed

theorem Shift.absent (shift : Shift ambient msg standing published after) (sound : standing.Sound)
    (asked : ∃ register, msg.asked = some (.pluginRegister register))
    (absent : pluginId ∉ standing.bus.subscribers eventType) : pluginId ∉ after.bus.subscribers eventType := by
  cases shift with
  | publish | join => exact absent
  | subscribe entry eventTypes found subscribes =>
    obtain ⟨register, asked⟩ := asked
    cases asked.symm.trans subscribes
  | unsubscribe => exact fun member => absent ((sound.tidy.mem_unsubscribe ..).mp member).1
  | leave => exact fun member => absent ((sound.tidy.mem_unsubscribeAll ..).mp member).1

theorem Shifts.absent (shifts : Shifts ambient msg standing published after) (sound : standing.Sound)
    (asked : ∃ register, msg.asked = some (.pluginRegister register))
    (absent : pluginId ∉ standing.bus.subscribers eventType) : pluginId ∉ after.bus.subscribers eventType := by
  induction shifts with
  | none => exact absent
  | more shift _ ih => exact ih (shift.sound sound) (shift.absent sound asked absent)

/-- The registration that follows an eviction brings no subscriptions. -/
theorem Shifts.evicted (shifts : Shifts ambient msg standing published after) (sound : standing.Sound) {connId : ConnId}
    (leaves : (connId, pluginId) ∈ published.filterMap Publication.left?) : pluginId ∉ after.bus.subscribers eventType := by
  induction shifts with
  | none => cases leaves
  | more shift rest ih =>
    rw [List.filterMap_append] at leaves
    have still := shift.sound sound
    rcases List.mem_append.mp leaves with now | later
    · cases shift with
      | leave other entry payload quiet held asked =>
        cases List.mem_singleton.mp now
        exact rest.absent still asked fun member => ((sound.tidy.mem_unsubscribeAll ..).mp member).2 rfl
      | publish | subscribe | unsubscribe | join => cases now
    · exact ih still later

end Lasting

namespace Lifecycle
variable {config : Config} {life : Lifecycle} {pluginId eventType : String}

theorem step_keeps (sound : life.kernel.standing.Sound) {input : LifecycleInput}
    (silent : life.unsubscribesItself pluginId input = false) (spared : life.cleansUp config pluginId input = false)
    (subscribed : pluginId ∈ life.kernel.bus.subscribers eventType) :
    pluginId ∈ (life.step config input).kernel.bus.subscribers eventType := by
  have turns := life.step_turns config input
  change pluginId ∈ (life.step config input).passage.standing.bus.subscribers eventType
  generalize (life.step config input).passage = after at turns
  generalize said : life.publications config input = published at turns
  cases turns with
  | stays | finds | removes | yields | announces | stops => exact subscribed
  | loads => exact (EventBus.mem_subscribe ..).mpr (.inl subscribed)
  | clears connId other payload stage =>
    refine (sound.tidy.mem_unsubscribeAll ..).mpr ⟨subscribed, ?_⟩
    rintro rfl
    have cleansUp : life.cleansUp config pluginId .unsubscribeAll = true := by
      change (life.passage.departure.cleaning == some pluginId) = true
      rw [stage]
      exact beq_self_eq_true (some pluginId)
    exact nomatch cleansUp.symm.trans spared
  | routes ambient msg published standing shifts =>
    refine shifts.keeps sound ?_ ?_ subscribed
    · intro asks entry found same
      have found : life.kernel.registry.getByConnId msg.connId = some entry := found
      simp only [unsubscribesItself, asks, found, Option.any_some, same, beq_self_eq_true, Bool.and_self] at silent
      cases silent
    · intro connId leaves
      obtain ⟨publication, member, left⟩ := List.mem_filterMap.mp leaves
      have cleansUp : life.cleansUp config pluginId (.message ambient msg) = true := by
        refine List.any_eq_true.mpr ⟨publication, said ▸ member, ?_⟩
        rw [left]
        exact beq_self_eq_true pluginId
      exact nomatch cleansUp.symm.trans spared

theorem step_evicted (sound : life.kernel.standing.Sound) {input : LifecycleInput}
    (evicts : life.evicts config pluginId input = true) :
    pluginId ∉ (life.step config input).kernel.bus.subscribers eventType := by
  cases input with
  | message ambient msg =>
    obtain ⟨publication, member, left⟩ := List.any_eq_true.mp evicts
    obtain ⟨⟨connId, other⟩, leaves, same⟩ := (Option.any_eq_true ..).mp left
    cases beq_iff_eq.mp same
    have leaves := List.mem_filterMap.mpr ⟨publication, member, leaves⟩
    have turns := life.step_turns config (.message ambient msg)
    change other ∉ (life.step config (.message ambient msg)).passage.standing.bus.subscribers eventType
    generalize (life.step config (.message ambient msg)).passage = after at turns
    generalize life.publications config (.message ambient msg) = published at turns leaves
    cases turns with
    | stays => cases leaves
    | routes ambient msg published standing shifts => exact shifts.evicted sound leaves
  | _ => cases evicts

end Lifecycle

/-- A plugin that was loaded with these events and sends no Unsubscribe subscribes to them for
as long as no cleanup of it runs, whether it is registered or not. -/
theorem declared_subscriptions_last (config : Config) (before after : List LifecycleInput) (pluginId : String)
    (events : List String)
    (silent : (Lifecycle.machine config).Obeys (fun life input => life.unsubscribesItself pluginId input = false)
      ((Lifecycle.machine config).run (before ++ [.load pluginId events])) after)
    (spared : (Lifecycle.machine config).Obeys (fun life input => life.cleansUp config pluginId input = false)
      ((Lifecycle.machine config).run (before ++ [.load pluginId events])) after) :
    ∀ eventType ∈ events, pluginId ∈
      ((Lifecycle.machine config).run (before ++ .load pluginId events :: after)).kernel.bus.subscribers eventType := by
  intro eventType declared
  have loaded : pluginId ∈ ((Lifecycle.machine config).run (before ++ [.load pluginId events])).kernel.bus.subscribers
      eventType := by
    rw [Machine.run_append, Machine.runFrom_cons, Machine.runFrom_nil]
    have some : events.isEmpty = false := List.isEmpty_eq_false_iff_exists_mem.mpr ⟨eventType, declared⟩
    change _ ∈ EventBus.subscribers (Lifecycle.kernel (if events.isEmpty then _ else _)).bus eventType
    rw [some]
    exact (EventBus.mem_subscribe ..).mpr (.inr ⟨rfl, declared⟩)
  have sound := Lifecycle.run_sound config (before ++ [.load pluginId events])
  have split : before ++ .load pluginId events :: after = (before ++ [.load pluginId events]) ++ after := by simp
  rw [split, Machine.run_append]
  -- soundness travels with the subscription: the cleanup of another plugin needs it
  refine (@Machine.Obeys.runFrom_preserves _ _ (Lifecycle.machine config) (fun life => life.kernel.standing.Sound ∧
    pluginId ∈ life.kernel.bus.subscribers eventType) _ ?_ _ _ (silent.and spared) ⟨sound, loaded⟩).2
  rintro life input ⟨quiet, kept⟩ ⟨sound, subscribed⟩
  exact ⟨(life.step_turns config input).sound sound, Lifecycle.step_keeps sound quiet kept subscribed⟩

def agentRegisters (connId : ConnId) : LifecycleInput :=
  .message {} (kernelMessage connId (.pluginRegister { pluginId := "agent" }))

def loadAgent : LifecycleInput := .load "agent" ["plugin.clock.tick"]

def agentRestarted : List LifecycleInput := [agentRegisters 1, .stop (.unchanged _) "agent", agentRegisters 2]

theorem declared_subscriptions_last_restarted :
    let life := (Lifecycle.machine {}).run ([] ++ loadAgent :: agentRestarted)
    (life.kernel.registry.getByConnId 2).isSome = true ∧ "agent" ∈ life.kernel.bus.subscribers "plugin.clock.tick" :=
  ⟨by decide +kernel, declared_subscriptions_last {} [] agentRestarted "agent" ["plugin.clock.tick"] (by decide +kernel)
    (by decide +kernel) "plugin.clock.tick" List.mem_cons_self⟩

/-- The agent crashes, the disconnect loop cleans up, and the supervisor's new process registers. -/
def agentCrashed : List LifecycleInput :=
  [agentRegisters 1, .disconnected 1, .lookUp, .unregister (.unchanged _), .unsubscribeAll, .publishLeft ⟨5, 5⟩, agentRegisters 2]

/-- The agent sends nothing but registrations, and yet misses the events of its manifest. -/
theorem declared_subscription_lost :
    let life := (Lifecycle.machine {}).run (loadAgent :: agentCrashed)
    (Lifecycle.machine {}).Obeys (fun life input => life.unsubscribesItself "agent" input = false)
      ((Lifecycle.machine {}).run [loadAgent]) agentCrashed ∧
    (life.kernel.registry.getByConnId 2).map PluginEntry.pluginId = some "agent" ∧
    "agent" ∉ life.kernel.bus.subscribers "plugin.clock.tick" := by
  decide +kernel

end Vynkor
