import Vynkor.Bus
import Vynkor.Lib.Buckets

/-! Who subscribes to what. The bus keeps subscriptions twice, per event type and per plugin;
as long as the second view lists everything in the first, the cleanup of a plugin ends all of
its subscriptions and nobody else's. -/

namespace Vynkor
open Lib

namespace EventBus
variable {bus : EventBus} (pluginId : String) (eventTypes : List String)

private theorem subscribe_subscriptions :
    (bus.subscribe pluginId eventTypes).subscriptions = bus.subscriptions.fill eventTypes pluginId := rfl

private theorem unsubscribe_subscriptions :
    (bus.unsubscribe pluginId eventTypes).subscriptions = bus.subscriptions.pick eventTypes pluginId := rfl

private theorem mem_subscribers {eventType other : String} :
    other ∈ bus.subscribers eventType ↔ other ∈ bus.subscriptions.bucket eventType := Iff.rfl

private theorem unsubscribeAll_subscriptions :
    (bus.unsubscribeAll pluginId).subscriptions = bus.subscriptions.pick (bus.byPlugin.bucket pluginId) pluginId := by
  unfold unsubscribeAll DashMap.bucket
  cases bus.byPlugin.get pluginId with
  | none | some => rfl

theorem unsubscribeAll_byPlugin {other : String} (apart : other ≠ pluginId) :
    (bus.unsubscribeAll pluginId).byPlugin.bucket other = bus.byPlugin.bucket other := by
  unfold unsubscribeAll
  split
  · rfl
  · unfold DashMap.bucket
    rw [DashMap.get_remove, if_neg apart]

theorem mem_subscribe {eventType other : String} : other ∈ (bus.subscribe pluginId eventTypes).subscribers eventType ↔
    other ∈ bus.subscribers eventType ∨ (other = pluginId ∧ eventType ∈ eventTypes) := by
  rw [mem_subscribers, subscribe_subscriptions]
  exact DashMap.mem_bucket_fill ..

theorem mem_byPlugin_subscribe {other eventType : String} :
    eventType ∈ (bus.subscribe pluginId eventTypes).byPlugin.bucket other ↔
      eventType ∈ bus.byPlugin.bucket other ∨ (other = pluginId ∧ eventType ∈ eventTypes) := by
  unfold subscribe
  rw [DashMap.bucket_insert]
  split
  next same =>
    subst same
    rw [DashMap.mem_foldl_insert]
    simp only [true_and]
    rfl
  next apart => simp only [apart, false_and, or_false]

theorem byPlugin_unsubscribe (other : String) : (bus.unsubscribe pluginId eventTypes).byPlugin.bucket other =
    if other = pluginId then eventTypes.foldl (fun types eventType => types.erase eventType) (bus.byPlugin.bucket pluginId)
    else bus.byPlugin.bucket other :=
  DashMap.bucket_modify _ _ _ (List.sublist_nil.mp (DashMap.foldl_erase_sublist eventTypes []))

theorem mem_byPlugin_unsubscribe {other eventType : String} (listed : eventType ∈ bus.byPlugin.bucket other)
    (kept : ¬(other = pluginId ∧ eventType ∈ eventTypes)) :
    eventType ∈ (bus.unsubscribe pluginId eventTypes).byPlugin.bucket other := by
  rw [byPlugin_unsubscribe]
  split
  next same =>
    subst same
    exact DashMap.mem_foldl_erase listed fun asked => kept ⟨rfl, asked⟩
  next => exact listed

/-- The sets have no repetitions, and the view per plugin misses no subscription. -/
structure Tidy (bus : EventBus) : Prop where
  distinct : ∀ eventType, (bus.subscribers eventType).Nodup
  listed : ∀ eventType pluginId, pluginId ∈ bus.subscribers eventType → eventType ∈ bus.byPlugin.bucket pluginId

namespace Tidy

theorem empty : Tidy {} := ⟨fun _ => List.nodup_nil, fun _ _ member => nomatch member⟩

variable (tidy : bus.Tidy)
include tidy

theorem mem_unsubscribe {eventType other : String} :
    other ∈ (bus.unsubscribe pluginId eventTypes).subscribers eventType ↔
      other ∈ bus.subscribers eventType ∧ ¬(other = pluginId ∧ eventType ∈ eventTypes) := by
  rw [mem_subscribers, unsubscribe_subscriptions]
  exact DashMap.mem_bucket_pick _ _ _ _ (tidy.distinct eventType)

theorem mem_unsubscribeAll {eventType other : String} :
    other ∈ (bus.unsubscribeAll pluginId).subscribers eventType ↔ other ∈ bus.subscribers eventType ∧ other ≠ pluginId := by
  rw [mem_subscribers, unsubscribeAll_subscriptions, DashMap.mem_bucket_pick _ _ _ _ (tidy.distinct eventType)]
  refine and_congr_right fun member => not_congr ⟨And.left, ?_⟩
  rintro rfl
  exact ⟨rfl, tidy.listed eventType other member⟩

theorem subscribe : (bus.subscribe pluginId eventTypes).Tidy where
  distinct eventType := DashMap.fill_nodup eventTypes pluginId bus.subscriptions (tidy.distinct eventType)
  listed eventType other member := by
    rcases (mem_subscribe ..).mp member with earlier | ⟨rfl, asked⟩
    · exact (mem_byPlugin_subscribe ..).mpr (.inl (tidy.listed eventType other earlier))
    · exact (mem_byPlugin_subscribe ..).mpr (.inr ⟨rfl, asked⟩)

theorem unsubscribe : (bus.unsubscribe pluginId eventTypes).Tidy where
  distinct eventType := (DashMap.pick_sublist eventTypes pluginId bus.subscriptions eventType).nodup (tidy.distinct eventType)
  listed eventType other member := by
    obtain ⟨earlier, kept⟩ := (tidy.mem_unsubscribe ..).mp member
    exact mem_byPlugin_unsubscribe pluginId eventTypes (tidy.listed eventType other earlier) kept

theorem unsubscribeAll : (bus.unsubscribeAll pluginId).Tidy where
  distinct eventType := by
    have fewer := DashMap.pick_sublist (bus.byPlugin.bucket pluginId) pluginId bus.subscriptions eventType
    rw [← unsubscribeAll_subscriptions] at fewer
    exact fewer.nodup (tidy.distinct eventType)
  listed eventType other member := by
    obtain ⟨earlier, apart⟩ := (tidy.mem_unsubscribeAll ..).mp member
    rw [unsubscribeAll_byPlugin pluginId apart]
    exact tidy.listed eventType other earlier

end Tidy
end EventBus
end Vynkor
