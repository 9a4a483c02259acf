import Mathlib.Data.List.Induction
import Vynkor.Proofs.Subscriptions

/-! The two views of the subscriptions always agree with each other and with the calls that were
made, so that an event goes once to every registered subscriber and to nobody else. -/

namespace Vynkor
open Lib

inductive BusCall
  | subscribe (pluginId : String) (eventTypes : List String)
  | unsubscribe (pluginId : String) (eventTypes : List String)
  | unsubscribeAll (pluginId : String)
  deriving DecidableEq, Repr

def BusCall.ends (pluginId eventType : String) : BusCall → Bool
  | .subscribe _ _ => false
  | .unsubscribe other eventTypes => pluginId == other && eventTypes.contains eventType
  | .unsubscribeAll other => pluginId == other

/-- The plugin has subscribed to the type and has not unsubscribed from it since. -/
def Subscribed (calls : List BusCall) (pluginId eventType : String) : Prop :=
  ∃ before eventTypes after, calls = before ++ .subscribe pluginId eventTypes :: after ∧ eventType ∈ eventTypes ∧
    ∀ call ∈ after, call.ends pluginId eventType = false

namespace EventBus

def apply (bus : EventBus) : BusCall → EventBus
  | .subscribe pluginId eventTypes => bus.subscribe pluginId eventTypes
  | .unsubscribe pluginId eventTypes => bus.unsubscribe pluginId eventTypes
  | .unsubscribeAll pluginId => bus.unsubscribeAll pluginId

def machine : Machine EventBus BusCall := ⟨{}, apply⟩

end EventBus

private theorem subscribed_snoc {calls : List BusCall} {call : BusCall} {pluginId eventType : String} :
    Subscribed (calls ++ [call]) pluginId eventType ↔
      (∃ eventTypes, call = .subscribe pluginId eventTypes ∧ eventType ∈ eventTypes) ∨
        Subscribed calls pluginId eventType ∧ call.ends pluginId eventType = false := by
  constructor
  · rintro ⟨before, eventTypes, after, split, listed, kept⟩
    rcases List.eq_nil_or_concat after with rfl | ⟨rest, last, rfl⟩
    · obtain ⟨-, same⟩ := List.append_inj' split rfl
      cases same
      exact .inl ⟨eventTypes, rfl, listed⟩
    · rw [List.concat_eq_append, ← List.cons_append, ← List.append_assoc] at split
      obtain ⟨rfl, same⟩ := List.append_inj' split rfl
      cases same
      refine .inr ⟨⟨before, eventTypes, rest, rfl, listed, fun call member => ?_⟩, ?_⟩
      · exact kept call (by simp [member])
      · exact kept _ (by simp)
  · rintro (⟨eventTypes, rfl, listed⟩ | ⟨⟨before, eventTypes, after, rfl, listed, kept⟩, lasts⟩)
    · exact ⟨calls, eventTypes, [], rfl, listed, fun call member => absurd member List.not_mem_nil⟩
    · refine ⟨before, eventTypes, after ++ [call], by simp, listed, fun other member => ?_⟩
      rcases List.mem_append.mp member with earlier | last
      · exact kept other earlier
      · cases List.mem_singleton.mp last
        exact lasts

namespace EventBus

/-- Both views list what the calls have asked for, without repetitions. -/
structure Follows (calls : List BusCall) (bus : EventBus) : Prop where
  tidy : bus.Tidy
  types : ∀ pluginId, (bus.byPlugin.bucket pluginId).Nodup
  subscribed : ∀ pluginId eventType, pluginId ∈ bus.subscribers eventType ↔ Subscribed calls pluginId eventType
  mirrored : ∀ pluginId eventType, eventType ∈ bus.byPlugin.bucket pluginId ↔ Subscribed calls pluginId eventType

namespace Follows
variable {calls : List BusCall} {bus : EventBus} (follows : Follows calls bus) (pluginId : String) (eventTypes : List String)
include follows

theorem subscribe : Follows (calls ++ [.subscribe pluginId eventTypes]) (bus.subscribe pluginId eventTypes) := by
  have asked : ∀ other eventType, Subscribed (calls ++ [.subscribe pluginId eventTypes]) other eventType ↔
      Subscribed calls other eventType ∨ (other = pluginId ∧ eventType ∈ eventTypes) := by
    intro other eventType
    rw [subscribed_snoc, or_comm]
    simp only [BusCall.subscribe.injEq, BusCall.ends, and_true, and_assoc, exists_and_left, exists_eq_left', eq_comm]
  constructor
  · exact follows.tidy.subscribe pluginId eventTypes
  · intro other
    unfold EventBus.subscribe
    rw [DashMap.bucket_insert]
    split
    · exact DashMap.foldl_insert_nodup eventTypes (follows.types pluginId)
    · exact follows.types other
  · intro other eventType
    rw [mem_subscribe, asked, follows.subscribed]
  · intro other eventType
    rw [mem_byPlugin_subscribe, asked, follows.mirrored]

theorem unsubscribe : Follows (calls ++ [.unsubscribe pluginId eventTypes]) (bus.unsubscribe pluginId eventTypes) := by
  have asked : ∀ other eventType, Subscribed (calls ++ [.unsubscribe pluginId eventTypes]) other eventType ↔
      Subscribed calls other eventType ∧ ¬(other = pluginId ∧ eventType ∈ eventTypes) := by
    intro other eventType
    rw [subscribed_snoc]
    simp [BusCall.ends]
  constructor
  · exact follows.tidy.unsubscribe pluginId eventTypes
  · intro other
    rw [byPlugin_unsubscribe]
    split
    · exact (DashMap.foldl_erase_sublist ..).nodup (follows.types pluginId)
    · exact follows.types other
  · intro other eventType
    rw [follows.tidy.mem_unsubscribe, asked, follows.subscribed]
  · intro other eventType
    rw [asked, ← follows.mirrored]
    constructor
    · intro left
      rw [byPlugin_unsubscribe] at left
      split at left
      next same =>
        subst same
        refine ⟨(DashMap.foldl_erase_sublist ..).subset left, fun taken => ?_⟩
        exact DashMap.not_mem_foldl_erase (follows.types other) taken.2 left
      next apart => exact ⟨left, fun taken => apart taken.1⟩
    · intro listed
      exact mem_byPlugin_unsubscribe pluginId eventTypes listed.1 listed.2

theorem unsubscribeAll : Follows (calls ++ [.unsubscribeAll pluginId]) (bus.unsubscribeAll pluginId) := by
  have asked : ∀ other eventType, Subscribed (calls ++ [.unsubscribeAll pluginId]) other eventType ↔
      Subscribed calls other eventType ∧ other ≠ pluginId := by
    intro other eventType
    rw [subscribed_snoc]
    simp [BusCall.ends]
  have gone : (bus.unsubscribeAll pluginId).byPlugin.bucket pluginId = [] := by
    unfold EventBus.unsubscribeAll DashMap.bucket
    cases held : bus.byPlugin.get pluginId with
    | none => exact congrArg (fun types => Option.getD types []) held
    | some types =>
      dsimp only
      rw [DashMap.get_remove, if_pos rfl]
      rfl
  constructor
  · exact follows.tidy.unsubscribeAll pluginId
  · intro other
    by_cases same : other = pluginId
    · rw [same, gone]
      exact List.nodup_nil
    · rw [unsubscribeAll_byPlugin pluginId same]
      exact follows.types other
  · intro other eventType
    rw [follows.tidy.mem_unsubscribeAll, asked, follows.subscribed]
  · intro other eventType
    rw [asked, ← follows.mirrored]
    by_cases same : other = pluginId
    · rw [same, gone]
      simp
    · rw [unsubscribeAll_byPlugin pluginId same]
      exact (and_iff_left same).symm

end Follows

theorem follows (calls : List BusCall) : Follows calls (machine.run calls) := by
  induction calls using List.reverseRecOn with
  | nil =>
    have none : ∀ pluginId eventType, ¬Subscribed [] pluginId eventType := by
      rintro pluginId eventType ⟨before, eventTypes, after, split, -⟩
      exact absurd split (by simp)
    refine ⟨.empty, fun _ => List.nodup_nil, fun pluginId eventType => ?_, fun pluginId eventType => ?_⟩
    · exact iff_of_false List.not_mem_nil (none pluginId eventType)
    · exact iff_of_false List.not_mem_nil (none pluginId eventType)
  | append_singleton calls call ih =>
    rw [Machine.run_append]
    cases call with
    | subscribe pluginId eventTypes => exact ih.subscribe pluginId eventTypes
    | unsubscribe pluginId eventTypes => exact ih.unsubscribe pluginId eventTypes
    | unsubscribeAll pluginId => exact ih.unsubscribeAll pluginId

/-- The registered plugins an event is delivered to, in the order of the fan-out. -/
def recipients (shuffle : Shuffle String) (bus : EventBus) (event : Event) (registry : Registry) :
    List (String × PluginEntry) :=
  (shuffle.order (bus.targets event.eventType)).filterMap fun pluginId =>
    (registry.get pluginId).map fun entry => (pluginId, entry)

private theorem mem_targets {bus : EventBus} {eventType pluginId : String} :
    pluginId ∈ bus.targets eventType ↔ pluginId ∈ bus.subscribers eventType ∨ pluginId ∈ bus.subscribers "*" :=
  List.mem_union_iff

private theorem Tidy.targets_nodup {bus : EventBus} (tidy : bus.Tidy) (eventType : String) : (bus.targets eventType).Nodup :=
  (tidy.distinct "*").union _

private theorem mem_recipients {shuffle : Shuffle String} {bus : EventBus} {event : Event} {registry : Registry}
    {pluginId : String} {entry : PluginEntry} : (pluginId, entry) ∈ recipients shuffle bus event registry ↔
      registry.get pluginId = some entry ∧ pluginId ∈ bus.targets event.eventType := by
  unfold recipients
  rw [List.mem_filterMap]
  constructor
  · rintro ⟨other, member, pair⟩
    obtain ⟨found, held, same⟩ := Option.map_eq_some_iff.mp pair
    cases same
    exact ⟨held, (shuffle.perm _).mem_iff.mp member⟩
  · rintro ⟨held, member⟩
    exact ⟨pluginId, (shuffle.perm _).mem_iff.mpr member, by rw [held]; rfl⟩

private theorem deliver_eq (shuffle : Shuffle String) (bus : EventBus) (event : Event) (registry : Registry) :
    bus.deliver shuffle event registry = (recipients shuffle bus event registry).map fun recipient =>
      sendEnvelope recipient.2.writeTx { payload := .event event } := by
  unfold deliver recipients
  rw [List.map_filterMap]
  congr 1
  funext pluginId
  rw [Option.map_map]
  rfl

end EventBus

/-- After any calls, the two views agree with each other and with what was asked for. An event is
sent once to every registered plugin that is subscribed to its type or to all types, and to
nobody else. -/
theorem subscriptions_and_fanout_exact (calls : List BusCall) :
    let bus := EventBus.machine.run calls
    (∀ pluginId eventType,
      (eventType ∈ bus.byPlugin.bucket pluginId ↔ pluginId ∈ bus.subscriptions.bucket eventType) ∧
      (pluginId ∈ bus.subscriptions.bucket eventType ↔ Subscribed calls pluginId eventType)) ∧
    ∀ shuffle event registry, ∃ recipients : List (String × PluginEntry),
      bus.deliver shuffle event registry = recipients.map (fun recipient =>
        sendEnvelope recipient.2.writeTx { payload := .event event }) ∧
      (recipients.map Prod.fst).Nodup ∧
      ∀ pluginId entry, (pluginId, entry) ∈ recipients ↔ registry.get pluginId = some entry ∧
        (Subscribed calls pluginId event.eventType ∨ Subscribed calls pluginId "*") := by
  intro bus
  have follows : bus.Follows calls := EventBus.follows calls
  refine ⟨fun pluginId eventType => ⟨?_, follows.subscribed pluginId eventType⟩, fun shuffle event registry => ?_⟩
  · exact (follows.mirrored pluginId eventType).trans (follows.subscribed pluginId eventType).symm
  · refine ⟨_, bus.deliver_eq shuffle event registry, ?_, fun pluginId entry => ?_⟩
    · unfold EventBus.recipients Registry.get
      rw [DashMap.map_fst_filterMap]
      exact ((shuffle.perm _).nodup_iff.mpr (follows.tidy.targets_nodup _)).filter _
    · rw [EventBus.mem_recipients, EventBus.mem_targets, follows.subscribed, follows.subscribed]

end Vynkor
