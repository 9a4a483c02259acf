import Vynkor.Proofs.RaceSteps
import Vynkor.Proofs.SystemRuns

/-! A registration that takes over the id of a removal. It survives the removal if its
slot is reserved while the removal is not between its operations; one that comes in
between is taken apart by the operations that are left. -/

namespace Vynkor
open Lib

structure Sound (registry : Registry) : Prop where
  consistent : registry.Consistent
  indexed : registry.Indexed

namespace Sound
variable {registry : Registry}

theorem effect {after : Registry} (sound : Sound registry) (happened : registry.Effect after) : Sound after :=
  ⟨.effect happened sound.consistent, .effect happened sound.indexed⟩

theorem pending (sound : Sound registry) (map : DashMap String PendingAction) :
    Sound { registry with pendingActions := map } :=
  sound.effect (.pending map)

end Sound

def Names (pluginId : String) : ActionLookup → Prop
  | .found entry => entry.pluginId = pluginId
  | .ambiguous ids => pluginId ∈ ids
  | .dormant _ | .notFound => False

theorem Registry.Indexed.names {registry : Registry} (indexed : registry.Indexed) {pluginId action : String}
    {entry : PluginEntry} (held : registry.byPluginId.get pluginId = some entry) (declared : action ∈ entry.manifest.actions) :
    Names pluginId (registry.findActionProvider action) := by
  have live : pluginId ∈ registry.liveDeclarers action := mem_liveDeclarers.mpr ⟨entry, held, declared⟩
  rcases Nat.lt_or_ge (registry.liveDeclarers action).card 2 with few | several
  · have positive := Finset.card_pos.mpr ⟨pluginId, live⟩
    obtain ⟨id, single⟩ := Finset.card_eq_one.mp (show (registry.liveDeclarers action).card = 1 by omega)
    obtain rfl : pluginId = id := by simpa only [single, Finset.mem_singleton] using live
    obtain ⟨found, -, named, answer⟩ := indexed.find_of_single single
    rw [answer]
    split
    · exact named
    · exact List.mem_cons_self
  · obtain ⟨listed, answer, -, same⟩ := indexed.find_of_several several
    rw [answer]
    exact List.mem_toFinset.mp (same ▸ live)

/-- The registration as its caller left it: the plugin is registered on the new connection
with everything that goes with it, and no action routed to it since is gone. -/
structure Survives (contest : Contest) (registry : Registry) (routed : List (String × PendingAction)) : Prop where
  registered : registry.get contest.pluginId = some contest.entry
  connected : registry.byConnId.get contest.newConn = some contest.pluginId
  ponged : ∃ instant, registry.pongTimes.get contest.pluginId = some instant
  seen : ∀ action ∈ contest.manifest.actions, Names contest.pluginId (registry.findActionProvider action)
  online : ∃ device, registry.devices.get contest.entry.deviceId = some device ∧ device.state = .online
  kept : ∀ key pending, (key, pending) ∈ routed → registry.pendingActions.get key = some pending

private theorem Sound.survives {contest : Contest} {registry : Registry} {routed : List (String × PendingAction)}
    (sound : Sound registry)
    (held : registry.byPluginId.get contest.pluginId = some contest.entry)
    (kept : ∀ key pending, (key, pending) ∈ routed → registry.pendingActions.get key = some pending) :
    Survives contest registry routed where
  registered := held
  connected := (sound.consistent.conns contest.newConn contest.pluginId).mpr ⟨contest.entry, held, rfl⟩
  ponged := sound.consistent.ponged held
  seen _ declared := sound.indexed.names held declared
  online := by
    obtain ⟨device, recorded⟩ := sound.consistent.recorded held
    exact ⟨device, recorded, (sound.consistent.online recorded).mpr ⟨contest.pluginId, contest.entry, held, rfl⟩⟩
  kept := kept

theorem Survives.route {contest : Contest} {registry : Registry} {routed : List (String × PendingAction)}
    (survives : Survives contest registry routed) (key : String) (pending : PendingAction)
    (free : registry.pendingActions.get key = none) :
    Survives contest (registry.registerPendingAction key pending) (routed ++ [(key, pending)]) where
  registered := survives.registered
  connected := survives.connected
  ponged := survives.ponged
  seen := survives.seen
  online := survives.online
  kept other held recorded := by
    rw [Registry.registerPendingAction, DashMap.get_insert]
    rcases List.mem_append.mp recorded with earlier | new
    · have kept := survives.kept other held earlier
      rw [if_neg (by rintro rfl; exact nomatch free.symm.trans kept)]
      exact kept
    · cases List.mem_singleton.mp new
      exact if_pos rfl

namespace Removing
variable {contest : Contest} {shuffle : Shuffle String} {registry : Registry} {removing : Removing}

def begun : Removing → Bool
  | .start => false
  | _ => true

/-- The removal starts from a sound registry and ends with one, whatever the order of
its scan. -/
structure Sane (contest : Contest) (registry : Registry) (removing : Removing) : Prop where
  starts : removing.begun = false → Sound registry
  ends : ∀ shuffle, Sound (removing.finish contest shuffle registry)

private theorem sane_start (sound : Sound registry) : Sane contest registry .start where
  starts _ := sound
  ends _ := sound.effect (Registry.unregisterIf_effect ..)

theorem Sane.sound (sane : Sane contest registry removing) (idle : removing.idle = true) : Sound registry := by
  cases removing with
  | start => exact sane.starts rfl
  | done removed => exact sane.ends (.unchanged String)
  | _ => cases idle

private theorem nextAction_begun (entry : PluginEntry) (rest : List String) : (nextAction entry rest).begun = true := by
  cases rest <;> rfl

private theorem nextKey_begun (keys : List String) : (nextKey keys).begun = true := by
  cases keys <;> rfl

private theorem step_begun : (removing.step contest shuffle registry).2.begun = true := by
  cases removing with
  | start | scan => simp only [step]; split <;> rfl
  | shrink =>
    simp only [step]
    split
    · rfl
    · simp only
      split <;> rfl
  | check entry action rest =>
    simp only [step]
    split
    · rfl
    · exact nextAction_begun entry rest
  | forgetPong entry => exact nextAction_begun entry _
  | restore entry action only rest | unindex entry action rest => exact nextAction_begun entry rest
  | collect => exact nextKey_begun _
  | take key rest => exact nextKey_begun rest
  | freeConn entry | uncollide entry action only rest | offline entry | done removed => rfl

private theorem finish_step_shuffle (sound : Sound (removing.finish contest shuffle registry)) (other : Shuffle String) :
    Sound ((removing.step contest other registry).2.finish contest shuffle (removing.step contest other registry).1) := by
  rw [← finish_step] at sound
  cases removing with
  | collect =>
    rw [step, finish_nextKey] at sound ⊢
    exact sound.pending _
  | _ => exact sound

theorem Sane.step (sane : Sane contest registry removing) (shuffle : Shuffle String) :
    Sane contest (removing.step contest shuffle registry).1 (removing.step contest shuffle registry).2 where
  starts waiting := Bool.noConfusion (waiting.symm.trans step_begun)
  ends other := finish_step_shuffle (sane.ends other) shuffle

private theorem step_vacant {connId : ConnId} (vacant : registry.byConnId.get connId = none) :
    (removing.step contest shuffle registry).1.byConnId.get connId = none := by
  cases removing with
  | start | shrink => simp only [step]; split <;> exact vacant
  | freeConn entry =>
    simp only [step, DashMap.get_remove]
    split
    · rfl
    · exact vacant
  | _ => exact vacant

end Removing

/-- The slot is reserved, and the registration goes through. -/
def Registering.committed (registering : Registering) : Bool := registering.holdsSlot || registering.returnedOk

private theorem Registering.committed_nextAction (rest : List String) : (nextAction rest).committed = true := by
  cases rest <;> rfl

private theorem Registering.committed_step {contest : Contest} {registry : Registry} {registering : Registering}
    (committed : registering.committed = true) : (registering.step contest registry).2.committed = true := by
  cases registering with
  | start | reserve => cases committed
  | join action rest =>
    simp only [step]
    split
    · exact committed_nextAction rest
    · rfl
  | claim action rest =>
    simp only [step]
    split
    · split
      · exact committed_nextAction rest
      · rfl
    · exact committed_nextAction rest
  | connect => exact committed_nextAction _
  | collide action existing rest => exact committed_nextAction rest
  | pong | device | enter => rfl
  | done result => exact committed

/-- The two tasks do not get in each other's way. Before the slot is reserved the removal
is on its way to a sound registry. From then on it stands still, and the registration is
on its way to a registry in which it survives. -/
structure Calm (contest : Contest) (race : Race) : Prop where
  before : race.registering.committed = false → race.removing.Sane contest race.registry ∧ race.routed = []
  vacant : race.registering = .reserve → race.registry.byConnId.get contest.newConn = none
  idle : race.registering.committed = true → race.removing.idle = true
  after : race.registering.committed = true →
    Survives contest (race.registering.finish contest race.registry) race.routed

/-- The slot is reserved while the removal is not between its operations. -/
def Undisturbed (race : Race) : Turn → Prop
  | .register => race.registering = .reserve → race.removing.idle = true
  | .remove _ | .route .. => True

instance (race : Race) : (turn : Turn) → Decidable (Undisturbed race turn)
  | .register => inferInstanceAs (Decidable (_ = _ → _ = true))
  | .remove _ | .route .. => .isTrue trivial

namespace Calm
variable {contest : Contest} {race : Race}

theorem initial {registry : Registry} (sound : Sound registry) : Calm contest { registry } where
  before _ := ⟨Removing.sane_start sound, rfl⟩
  vacant := nofun
  idle := nofun
  after := nofun

private theorem done_of_returnedOk {registering : Registering} (returned : registering.returnedOk = true) :
    registering = .done (.ok ()) := by
  cases registering with
  | done result =>
    cases result with
    | ok value => rfl
    | error error => cases returned
  | _ => cases returned

private theorem remove_idle (apart : contest.newConn ≠ contest.oldConn) (calm : Calm contest race) (shuffle : Shuffle String)
    (committed : race.registering.committed = true)
    (free : (race.removing.needsSlot race.registry && race.registering.holdsSlot) = false) :
    (race.removing.step contest shuffle race.registry).1 = race.registry ∧
      (race.removing.step contest shuffle race.registry).2.idle = true := by
  have idle := calm.idle committed
  cases removing : race.removing with
  | done removed => exact ⟨rfl, rfl⟩
  | start =>
    rw [removing] at free
    have released : race.registering.holdsSlot = false := free
    have returned : race.registering.returnedOk = true := by
      simpa only [Registering.committed, released, Bool.false_or] using committed
    have held := (calm.after committed).registered
    rw [done_of_returnedOk returned] at held
    rcases DashMap.removeIf_cases race.registry.byPluginId contest.pluginId
      fun entry => entry.connId == contest.oldConn with ⟨entry, stored, passes, -⟩ | ⟨-, kept⟩
    · obtain rfl : contest.entry = entry := Option.some.inj (held.symm.trans stored)
      exact absurd (beq_iff_eq.mp passes) apart
    · simp only [Removing.step, kept, Removing.idle, and_self]
  | _ => rw [removing] at idle; cases idle

theorem remove (apart : contest.newConn ≠ contest.oldConn) (calm : Calm contest race) (shuffle : Shuffle String) :
    Calm contest (race.step contest (.remove shuffle)) := by
  simp only [Race.step]
  split
  · exact calm
  · next open_ =>
    have free := Bool.eq_false_iff.mpr open_
    constructor
    · intro early
      obtain ⟨sane, fresh⟩ := calm.before early
      exact ⟨sane.step shuffle, fresh⟩
    · exact fun reserving => Removing.step_vacant (calm.vacant reserving)
    · exact fun committed => (calm.remove_idle apart shuffle committed free).2
    · intro committed
      rw [(calm.remove_idle apart shuffle committed free).1]
      exact calm.after committed

theorem waits (calm : Calm contest race) (early : race.registering.committed = false) {next : Registering}
    (still : next.committed = false)
    (vacant : next = .reserve → race.registry.byConnId.get contest.newConn = none) :
    Calm contest { race with registering := next } where
  before _ := calm.before early
  vacant := vacant
  idle committed := absurd (committed.symm.trans still) nofun
  after committed := absurd (committed.symm.trans still) nofun

private theorem reserves (calm : Calm contest race) (reserving : race.registering = .reserve)
    (idle : race.removing.idle = true) (free : race.registry.byPluginId.get contest.pluginId = none) :
    Calm contest { race with registering := .connect } where
  before := nofun
  vacant := nofun
  idle _ := idle
  after _ := by
    obtain ⟨sane, fresh⟩ := calm.before (by rw [reserving]; rfl)
    have enrolled : Sound (race.registry.enroll contest.clock contest.entry contest.info contest.info.capabilities) :=
      (sane.sound idle).effect (.enrolled _ _ _ _ (calm.vacant reserving) free)
    refine enrolled.survives ?_ ?_
    · rw [Registry.enroll_byPluginId]
      exact (DashMap.get_insert ..).trans (if_pos rfl)
    · intro key pending routed
      rw [fresh] at routed
      cases routed

private theorem register_step (next : Registry × Registering) (stepped : race.registering.step contest race.registry = next) :
    race.step contest .register = { race with registry := next.1, registering := next.2 } := by
  rw [← stepped]
  rfl

theorem register (calm : Calm contest race) (undisturbed : Undisturbed race .register) :
    Calm contest (race.step contest .register) := by
  cases committed : race.registering.committed with
  | true =>
    have still : (race.registering.step contest race.registry).2.committed = true :=
      Registering.committed_step committed
    refine ⟨fun early => ?_, fun reserving => ?_, fun _ => calm.idle committed, fun _ => ?_⟩
    · cases still.symm.trans early
    · change (race.registering.step contest race.registry).2 = .reserve at reserving
      rw [reserving] at still
      cases still
    · have survives := calm.after committed
      rw [← Registering.finish_step] at survives
      exact survives
  | false =>
    cases registering : race.registering with
    | start =>
      rcases Registering.step_start contest race.registry with ⟨error, stepped, -⟩ | ⟨stepped, vacant, -⟩
      · rw [register_step _ (registering ▸ stepped)]
        exact calm.waits committed rfl (fun reserving => by cases reserving)
      · rw [register_step _ (registering ▸ stepped)]
        exact calm.waits committed rfl fun _ => vacant
    | reserve =>
      cases taken : race.registry.byPluginId.containsKey contest.pluginId with
      | true =>
        rw [register_step (race.registry, .done (.error (.pluginAlreadyRegistered contest.pluginId)))
          (by rw [registering, Registering.step, if_pos taken])]
        exact calm.waits committed rfl (fun reserving => by cases reserving)
      | false =>
        rw [register_step (race.registry, .connect) (by rw [registering, Registering.step, taken]; rfl)]
        exact calm.reserves registering (undisturbed registering) ((DashMap.containsKey_false ..).mp taken)
    | done result =>
      rw [register_step (race.registry, .done result) (by rw [registering]; rfl)]
      exact calm.waits committed (registering ▸ committed) (fun reserving => by cases reserving)
    | _ => rw [registering] at committed; cases committed

theorem route (calm : Calm contest race) (key : String) (pending : PendingAction) :
    Calm contest (race.step contest (.route key pending)) := by
  simp only [Race.step]
  split
  · next accepted =>
    simp only [Bool.and_eq_true, Bool.not_eq_true'] at accepted
    have returned := done_of_returnedOk accepted.1.1
    have committed : race.registering.committed = true := by rw [returned]; rfl
    have survives := calm.after committed
    rw [returned] at survives
    refine ⟨fun early => ?_, fun reserving => ?_, calm.idle, fun _ => ?_⟩
    · cases committed.symm.trans early
    · cases returned.symm.trans reserving
    · simp only [returned]
      exact survives.route key pending ((DashMap.containsKey_false ..).mp accepted.2)
  · exact calm

theorem step (apart : contest.newConn ≠ contest.oldConn) (turn : Turn) (undisturbed : Undisturbed race turn)
    (calm : Calm contest race) : Calm contest (race.step contest turn) := by
  cases turn with
  | remove shuffle => exact calm.remove apart shuffle
  | register => exact calm.register undisturbed
  | route key pending => exact calm.route key pending

end Calm

/-- From the return of the registration on, and so also when both tasks have finished,
the registration has survived the removal of the old connection. -/
theorem registration_survives_removal (config : Config) (inputs : List Input) (contest : Contest)
    (apart : contest.newConn ≠ contest.oldConn) (turns : List Turn) :
    let machine := Race.machine contest ((System.machine config).run inputs).kernel.registry
    machine.Obeys Undisturbed machine.init turns →
    (machine.run turns).registering.returnedOk = true →
    Survives contest (machine.run turns).registry (machine.run turns).routed := by
  intro machine obeys returned
  have sound : Sound ((System.machine config).run inputs).kernel.registry :=
    ⟨System.consistent config inputs, System.indexed config inputs⟩
  have calm : Calm contest (machine.run turns) :=
    obeys.run_preserves (Calm.initial sound) fun _ turn undisturbed calm => calm.step apart turn undisturbed
  have done := Calm.done_of_returnedOk returned
  have survives := calm.after (by rw [done]; rfl)
  rw [done] at survives
  exact survives

def removals (count : Nat) : List Turn := List.replicate count (.remove (.unchanged String))

def registrations (count : Nat) : List Turn := List.replicate count .register

/-- The player comes back on connection 2 while connection 1 is cleaned up. -/
def comeback : Contest where
  pluginId := "player"
  oldConn := 1
  clock := ⟨1, 1⟩
  newConn := 2
  manifest := { actions := ["play"] }
  writeTx := 2
  info := {}

def firstVisit : List Input := [.call (.registerWithDevice ⟨0, 0⟩ "player" 1 { actions := ["play"] } 1 {})]

def playing : PendingAction where
  requesterWriteTx := 3
  originalActionId := "call"
  requesterId := "app"
  deadline := 30
  providerId := "player"
  streaming := false
  sessionAccepted := false
  lastActivity := 1
  serial := 0

theorem registration_survives_removal_comeback :
    let race := (Race.machine comeback ((System.machine {}).run firstVisit).kernel.registry).run
      (removals 9 ++ registrations 8 ++ [.route "act_0" playing])
    race.removing = .done true ∧ race.routed = [("act_0", playing)] ∧ Survives comeback race.registry race.routed :=
  ⟨by decide +kernel, by decide +kernel,
    registration_survives_removal {} firstVisit comeback (by decide) _ (by decide +kernel) (by decide +kernel)⟩

/-- A registration that comes right after `remove_if` loses its pong time, its action and
what was routed to it; one that comes after the scan of the device is left offline. -/
theorem removal_strips_comeback :
    let machine := Race.machine comeback ((System.machine {}).run firstVisit).kernel.registry
    let early := machine.run (removals 1 ++ registrations 8 ++ [.route "act_0" playing] ++ removals 8)
    let late := machine.run (removals 7 ++ registrations 8 ++ removals 2)
    early.registering.returnedOk = true ∧ early.removing = .done true ∧
    early.registry.pongTimes.get "player" = none ∧ early.registry.findActionProvider "play" = .notFound ∧
    early.routed = [("act_0", playing)] ∧ early.evicted = [("act_0", playing)] ∧
    late.registering.returnedOk = true ∧ late.removing = .done true ∧
    (late.registry.get "player").map PluginEntry.deviceId = some "local" ∧
    (late.registry.devices.get "local").map DeviceInfo.state = some .offline := by
  decide +kernel

end Vynkor
