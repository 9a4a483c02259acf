import Vynkor.Proofs.SystemRuns

/-! Pending actions and their providers: every provider is registered, and a
provider that is removed takes its own actions with it, and no others. -/

namespace Vynkor
open Lib

def Registry.Attended (registry : Registry) : Prop :=
  ∀ key pending, registry.pendingActions.get key = some pending → registry.byPluginId.get pending.providerId ≠ none

theorem Move.attended {input : Input} {kernel after : Kernel} {sends : List Send} (moved : Move input kernel after sends)
    (attended : kernel.registry.Attended) : after.registry.Attended := by
  cases moved with
  | drop after gone notice rest effect issued counted distinct held left settles providers =>
    intro key pending stored
    refine providers key pending stored (attended key pending ?_)
    rw [left] at stored
    split at stored
    · cases stored
    · exact stored
  | revise changed before revised map sends held same progress accepted lookup =>
    intro key pending stored
    change map.get key = some pending at stored
    rw [lookup] at stored
    split at stored
    · cases stored
      exact same.providerId ▸ attended changed before held
    · exact attended key pending stored

theorem Issues.attended {msg : IncomingMessage} {kernel after : Kernel} {key : String} {pending : PendingAction}
    (issues : Issues msg kernel after key pending) (consistent : kernel.registry.Consistent)
    (attended : kernel.registry.Attended) : after.registry.Attended := by
  rw [issues.result]
  intro other found stored
  rcases DashMap.insert_cases stored with ⟨rfl, rfl⟩ | ⟨-, before⟩
  · obtain ⟨id, entry, held, named⟩ := issues.provider
    change kernel.registry.byPluginId.get found.providerId ≠ none
    rw [← named, consistent.keyed held, held]
    exact nofun
  · exact attended other found before

/-- The provider of every pending action is registered under its own id. -/
structure Registry.Served (registry : Registry) : Prop where
  consistent : registry.Consistent
  attended : registry.Attended

theorem System.attended (config : Config) (inputs : List Input) :
    ((System.machine config).run inputs).kernel.registry.Attended := by
  refine (@System.run_preserves (fun kernel _ => kernel.registry.Served) config ⟨.initial, nofun⟩ ?_ ?_ inputs).attended
  · intro input kernel after sends log moved ⟨consistent, attended⟩
    exact ⟨consistent.effect moved.effect, moved.attended attended⟩
  · intro msg kernel added key pending log issues ⟨consistent, attended⟩
    exact ⟨consistent.effect issues.effect, issues.attended consistent attended⟩

/-- The notice a requester gets when its provider is gone. -/
structure Notice (pending : PendingAction) (send : Send) : Prop where
  requester : send.tx = pending.requesterWriteTx
  failed : pending.sessionAccepted = false → ∃ reason, send.item =
    .envelope { payload := .actionResponse ⟨pending.originalActionId, .actionError, [], reason⟩ }
  aborted : pending.sessionAccepted = true → ∃ reason, send.item =
    .envelope { payload := .actionStreamAbort ⟨pending.originalActionId, reason⟩ }

/-- The removal takes out exactly the pending actions of the plugin and sends one
notice for each of them. -/
structure Evicts (registry : Registry) (pluginId : String) (removal : Registry.Removal) : Prop where
  left : ∀ key, removal.registry.pendingActions.get key =
    (registry.pendingActions.get key).filter fun pending => pending.providerId != pluginId
  told : ∃ gone : List (String × PendingAction), (gone.map Prod.fst).Nodup ∧
    (∀ key pending, (key, pending) ∈ gone ↔
      registry.pendingActions.get key = some pending ∧ pending.providerId = pluginId) ∧
    List.Forall₂ (fun entry send => Notice entry.2 send) gone removal.sends

private theorem providerGoneNotice_notice (reason : String) (pending : PendingAction) :
    Notice pending (Registry.providerGoneNotice reason pending) where
  requester := rfl
  failed waiting := ⟨reason, by simp [Registry.providerGoneNotice, sendEnvelope, waiting]⟩
  aborted accepted := ⟨reason, by simp [Registry.providerGoneNotice, sendEnvelope, accepted]⟩

private theorem unregisterIf_evicts (shuffle : Shuffle String) (registry : Registry) (pluginId : String)
    (test : PluginEntry → Bool) (removed : (registry.unregisterIf shuffle pluginId test).removed = true) :
    Evicts registry pluginId (registry.unregisterIf shuffle pluginId test) := by
  rcases Registry.unregisterIf_cases shuffle registry pluginId test with kept | ⟨entry, held, -, result⟩
  · rw [kept] at removed
    cases removed
  · rw [result]
    constructor
    · intro key
      exact DashMap.get_drain ..
    · refine ⟨(registry.pendingActions.drain shuffle fun pending => pending.providerId == pluginId).2,
        DashMap.drained_nodup .., fun key pending => ?_, ?_⟩
      · rw [DashMap.mem_drained, beq_iff_eq]
      · exact List.forall₂_map_right_iff.mpr
          (List.forall₂_same.mpr fun gone _ => providerGoneNotice_notice _ gone.2)

/-- No pending action outlives its provider, in any run, whichever call removes it. -/
theorem no_action_outlives_provider (config : Config) (inputs : List Input) :
    let registry := ((System.machine config).run inputs).kernel.registry
    (∀ key pending, registry.pendingActions.get key = some pending →
      ∃ entry, registry.get pending.providerId = some entry) ∧
    (∀ shuffle pluginId, (registry.unregister shuffle pluginId).removed = true →
      Evicts registry pluginId (registry.unregister shuffle pluginId)) ∧
    (∀ shuffle pluginId connId, (registry.unregisterConn shuffle pluginId connId).removed = true →
      Evicts registry pluginId (registry.unregisterConn shuffle pluginId connId)) ∧
    (∀ shuffle closed pluginId, (registry.unregisterIfDead shuffle closed pluginId).removed = true →
      Evicts registry pluginId (registry.unregisterIfDead shuffle closed pluginId)) := by
  intro registry
  refine ⟨?_, ?_, ?_, ?_⟩
  · intro key pending stored
    exact Option.ne_none_iff_exists'.mp (System.attended config inputs key pending stored)
  · intro shuffle pluginId removed
    exact unregisterIf_evicts shuffle registry pluginId _ removed
  · intro shuffle pluginId connId removed
    exact unregisterIf_evicts shuffle registry pluginId _ removed
  · intro shuffle closed pluginId removed
    exact unregisterIf_evicts shuffle registry pluginId _ removed

end Vynkor
