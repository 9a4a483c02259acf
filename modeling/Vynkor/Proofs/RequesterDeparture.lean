import Vynkor.Proofs.PendingOrigins

/-! What becomes of a pending action whose requester leaves. Removals look at the
provider only, so the entry stays until a reply, a sweep or the provider's own
removal takes it out. -/

namespace Vynkor
open Lib

/-- The prune tick drops an unaccepted request at its deadline, and an accepted
session only if the configuration bounds its idle time. -/
def PendingAction.lapsed (pending : PendingAction) (config : Config) (now : Instant) : Bool :=
  if pending.sessionAccepted then
    config.sessionIdleTimeoutSecs.any fun idleSecs => decide (now - pending.lastActivity > secs idleSecs)
  else decide (pending.deadline ≤ now)

section Removal
variable {registry : Registry} {key : String} {pending : PendingAction}

private theorem unregisterIf_pending (shuffle : Shuffle String) (pluginId : String) (test : PluginEntry → Bool)
    (other : pending.providerId ≠ pluginId) (held : registry.pendingActions.get key = some pending) :
    (registry.unregisterIf shuffle pluginId test).registry.pendingActions.get key = some pending := by
  rcases Registry.unregisterIf_cases shuffle registry pluginId test with kept | ⟨entry, -, -, removed⟩
  · rw [kept]
    exact held
  · rw [removed]
    change (registry.pendingActions.drain shuffle fun pending => pending.providerId == pluginId).1.get key = some pending
    rw [DashMap.get_drain, held, Option.filter_some, if_pos]
    simpa using other

private theorem handleDisconnect_pending (ambient : Ambient) {kernel : Kernel} {connId : ConnId}
    (other : ∀ entry, kernel.registry.getByConnId connId = some entry → pending.providerId ≠ entry.pluginId)
    (held : kernel.registry.pendingActions.get key = some pending) :
    (handleDisconnect ambient kernel connId).1.registry.pendingActions.get key = some pending := by
  unfold handleDisconnect
  cases found : kernel.registry.getByConnId connId with
  | none => exact held
  | some entry =>
    simp only
    split
    · exact unregisterIf_pending ambient.shuffle entry.pluginId _ (other entry found) held
    · exact held

end Removal

section Sweeps
variable {registry : Registry} {key : String} {pending : PendingAction}

private theorem evictPending_held (shuffle : Shuffle String) (test : PendingAction → Bool)
    (held : registry.pendingActions.get key = some pending) :
    (registry.evictPending shuffle test).1.pendingActions.get key = if test pending then none else some pending := by
  refine (DashMap.get_drain ..).trans ?_
  rw [held, Option.filter_some]
  cases test pending <;> rfl

private theorem evictPending_absent (shuffle : Shuffle String) (test : PendingAction → Bool)
    (absent : registry.pendingActions.get key = none) :
    (registry.evictPending shuffle test).1.pendingActions.get key = none := by
  refine (DashMap.get_drain ..).trans ?_
  rw [absent]
  rfl

end Sweeps

private theorem pruneTick_registry (config : Config) (ambient : Ambient) (kernel : Kernel) :
    let expired := (kernel.registry.sweepExpiredActions ambient.shuffle ambient.clock.now).1
    (pruneTick config ambient kernel).kernel.registry = match config.sessionIdleTimeoutSecs with
      | none => expired
      | some idleSecs => (expired.sweepIdleSessions ambient.shuffle ambient.clock.now (secs idleSecs)).1 := by
  unfold pruneTick
  cases config.sessionIdleTimeoutSecs with
  | none | some => rfl

/-- The sweeps do not overlap: the deadline bounds requests, the idle time sessions. -/
theorem pruneTick_pending (config : Config) (ambient : Ambient) {kernel : Kernel} {key : String} {pending : PendingAction}
    (held : kernel.registry.pendingActions.get key = some pending) :
    (pruneTick config ambient kernel).kernel.registry.pendingActions.get key =
      if pending.lapsed config ambient.clock.now then none else some pending := by
  have expiry : (kernel.registry.sweepExpiredActions ambient.shuffle ambient.clock.now).1.pendingActions.get key =
      if !pending.sessionAccepted && decide (pending.deadline ≤ ambient.clock.now) then none else some pending :=
    evictPending_held _ _ held
  rw [pruneTick_registry]
  unfold PendingAction.lapsed
  cases config.sessionIdleTimeoutSecs with
  | none =>
    cases accepted : pending.sessionAccepted <;> simpa [accepted] using expiry
  | some idleSecs =>
    simp only [Registry.sweepIdleSessions, Option.any_some]
    generalize secs idleSecs = limit
    cases accepted : pending.sessionAccepted with
    | true =>
      rw [evictPending_held _ _ (by simpa [accepted] using expiry), accepted, Bool.true_and, if_pos rfl]
    | false =>
      by_cases expired : pending.deadline ≤ ambient.clock.now
      · rw [evictPending_absent _ _ (by simpa [accepted, expired] using expiry)]
        simp [expired]
      · rw [evictPending_held _ _ (by simpa [accepted, expired] using expiry), accepted]
        simp [expired]

section Lookups
variable {registry : Registry} {key : String} {pending : PendingAction}

private theorem findPendingInternalId_isSome (shuffle : Shuffle String)
    (held : registry.pendingActions.get key = some pending) :
    (registry.findPendingInternalId shuffle pending.requesterId pending.originalActionId).isSome = true := by
  rw [Registry.findPendingInternalId, Option.isSome_map, List.find?_isSome]
  exact ⟨(key, pending), (DashMap.mem_iter ..).mpr held, by simp⟩

def Registry.Counts (registry : Registry) (requesterId providerId : String) (keys : List String) : Prop :=
  keys.Nodup ∧ ∀ key, key ∈ keys ↔ ∃ pending, registry.pendingActions.get key = some pending ∧
    pending.requesterId = requesterId ∧ pending.providerId = providerId

private theorem countPendingActionsFor_counts (registry : Registry) (requesterId providerId : String) :
    ∃ keys, registry.Counts requesterId providerId keys ∧
      registry.countPendingActionsFor requesterId providerId = keys.length := by
  refine ⟨_, ⟨registry.pendingActions.keys_nodup.filter _, fun key => ?_⟩, List.countP_eq_length_filter⟩
  rw [DashMap.mem_counted]
  simp only [Bool.and_eq_true, beq_iff_eq]

end Lookups

private theorem requester_stays {config : Config} {inputs before after : List Input} {ambient : Ambient} {msg : IncomingMessage}
    {envelope : Envelope} {request : ActionRequest} {sender : PluginEntry}
    (registered : ((System.machine config).run before).kernel.registry.getByConnId msg.connId = some sender)
    (split : inputs = before ++ .message ambient msg :: after) (decoded : msg.frame.payload.decode = some envelope)
    (payload : envelope.payload = .actionRequest request) :
    ((System.machine config).run inputs).kernel.registry.getByConnId msg.connId = some sender ∨
      ∃ input ∈ after, Unseats input sender.pluginId msg.connId := by
  obtain ⟨held, located⟩ := (System.consistent config before).getByConnId_iff.mp registered
  rcases System.registration_stays config before (.message ambient msg :: after) held with stays | ⟨input, member, unseats⟩
  · exact .inl (split ▸ (System.consistent config _).getByConnId_iff.mpr ⟨stays, located⟩)
  · rw [located] at unseats
    rcases List.mem_cons.mp member with rfl | later
    · obtain ⟨other, register, same, registers, -⟩ := unseats
      cases decoded.symm.trans same
      cases payload.symm.trans registers
    · exact .inr ⟨input, later, unseats⟩

/-- A pending action goes back to a request of a plugin registered at that time, and
the requester's departure takes nothing out: the entry is there, counted and found
until a sweep, whoever is registered under the requester's id by then. -/
theorem pending_outlives_requester (config : Config) (inputs : List Input) (key : String) (pending : PendingAction)
    (held : ((System.machine config).run inputs).kernel.registry.pendingActions.get key = some pending) :
    let system := (System.machine config).run inputs
    (∃ before ambient msg after envelope request sender, inputs = before ++ .message ambient msg :: after ∧
      msg.frame.payload.decode = some envelope ∧ envelope.payload = .actionRequest request ∧
      request.actionId = pending.originalActionId ∧ msg.writeTx = pending.requesterWriteTx ∧
      ((System.machine config).run before).kernel.registry.getByConnId msg.connId = some sender ∧
      sender.pluginId = pending.requesterId ∧
      (system.kernel.registry.getByConnId msg.connId = some sender ∨
        ∃ input ∈ after, Unseats input pending.requesterId msg.connId)) ∧
    (∀ shuffle pluginId test, pending.providerId ≠ pluginId →
      (system.kernel.registry.unregisterIf shuffle pluginId test).registry.pendingActions.get key = some pending) ∧
    (∀ ambient connId, (∀ entry, system.kernel.registry.getByConnId connId = some entry →
        pending.providerId ≠ entry.pluginId) →
      (system.step config (.disconnect ambient connId)).kernel.registry.pendingActions.get key = some pending) ∧
    (∀ ambient, (system.step config (.tick ambient)).kernel.registry.pendingActions.get key =
      if pending.lapsed config ambient.clock.now then none else some pending) ∧
    (∃ keys, system.kernel.registry.Counts pending.requesterId pending.providerId keys ∧ key ∈ keys ∧
      system.kernel.registry.countPendingActionsFor pending.requesterId pending.providerId = keys.length) ∧
    ∀ shuffle, (system.kernel.registry.findPendingInternalId shuffle pending.requesterId
      pending.originalActionId).isSome = true := by
  intro system
  refine ⟨?_, ?_, ?_, ?_, ?_, fun shuffle => findPendingInternalId_isSome shuffle held⟩
  · obtain ⟨issue, before, msg, -, version, origin⟩ := pending_origin config held
    obtain ⟨ambient, after, split⟩ := origin.split
    obtain ⟨envelope, request, decoded, payload, original⟩ := origin.request
    obtain ⟨sender, registered, named⟩ := origin.requester
    have named := named.trans version.requesterId.symm
    have kept := requester_stays registered split decoded payload
    rw [named] at kept
    exact ⟨before, ambient, msg, after, envelope, request, sender, split, decoded, payload,
      original.symm.trans version.originalActionId.symm, origin.channel.symm.trans version.requesterWriteTx.symm,
      registered, named, kept⟩
  · intro shuffle pluginId test other
    exact unregisterIf_pending shuffle pluginId test other held
  · intro ambient connId other
    exact handleDisconnect_pending ambient other held
  · intro ambient
    exact pruneTick_pending config ambient held
  · obtain ⟨keys, counts, same⟩ :=
      countPendingActionsFor_counts system.kernel.registry pending.requesterId pending.providerId
    exact ⟨keys, counts, (counts.2 key).mpr ⟨pending, held, rfl, rfl⟩, same⟩

def kernelMessage (connId : ConnId) (payload : Payload) : IncomingMessage where
  connId
  writeTx := connId
  frame := { target := some "kernel", payload := .envelope { payload } }

def toKernel (connId : ConnId) (payload : Payload) : Input := .message {} (kernelMessage connId payload)

/-- An app on connection 2 opens a session with a provider on connection 1. -/
def watching : List Input :=
  [.call (.registerWithDevice ⟨0, 0⟩ "host" 1 { actions := ["watch"] } 1 {}),
   .call (.registerWithDevice ⟨0, 0⟩ "app" 2 {} 2 {}),
   toKernel 2 (.actionRequest { actionId := "1", action := "watch", streaming := true }),
   toKernel 1 (.actionResponse ⟨"kact-0", .actionOk, [], ""⟩)]

/-- The app's connection is lost, and much later the tick comes round. -/
def appLost : List Input := [.disconnect {} 2, .tick { clock := ⟨secs 1000000, 0⟩ }]

theorem pending_outlives_requester_watching :
    let registry := ((System.machine {}).run (watching ++ appLost)).kernel.registry
    ∃ pending, registry.pendingActions.get "kact-0" = some pending ∧
      ∃ keys, registry.Counts pending.requesterId pending.providerId keys ∧ "kact-0" ∈ keys ∧
        registry.countPendingActionsFor pending.requesterId pending.providerId = keys.length := by
  have kept : (((System.machine {}).run (watching ++ appLost)).kernel.registry.pendingActions.get
      "kact-0").isSome = true := by decide +kernel
  obtain ⟨pending, held⟩ := Option.isSome_iff_exists.mp kept
  exact ⟨pending, held, (pending_outlives_requester {} (watching ++ appLost) "kact-0" pending held).2.2.2.2.1⟩

/-- The accepted session is still there when nobody is registered as its requester,
and it is counted for the app that comes back on another connection. -/
theorem session_outlives_app :
    let gone := ((System.machine {}).run (watching ++ appLost)).kernel
    let back := ((System.machine {}).run (watching ++ appLost ++
      [.call (.registerWithDevice ⟨0, 0⟩ "app" 3 {} 3 {})])).kernel
    (gone.registry.pendingActions.get "kact-0").map (fun pending => (pending.requesterId, pending.sessionAccepted)) =
      some ("app", true) ∧
    gone.issued.map Issue.connId = [2] ∧ (gone.registry.get "app").isSome = false ∧
    (back.registry.getByConnId 3).map PluginEntry.pluginId = some "app" ∧
    back.registry.countPendingActionsFor "app" "host" = 1 ∧
    back.registry.findPendingInternalId (.unchanged String) "app" "1" = some "kact-0" := by
  decide +kernel

end Vynkor
