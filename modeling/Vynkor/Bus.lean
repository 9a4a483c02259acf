import Vynkor.Registry

/-! The event bus: subscriptions per event type and per plugin, and the fan-out
of one event. Persistence of events is not part of it. -/

namespace Vynkor
open Lib

/-- The sets of the source are lists without repetitions. -/
structure EventBus where
  subscriptions : DashMap String (List String) := ∅
  byPlugin : DashMap String (List String) := ∅

namespace EventBus

def subscribe (bus : EventBus) (pluginId : String) (eventTypes : List String) : EventBus where
  subscriptions := eventTypes.foldl (fun subscriptions eventType =>
    subscriptions.insert eventType (((subscriptions.get eventType).getD []).insert pluginId)) bus.subscriptions
  byPlugin := bus.byPlugin.insert pluginId
    (eventTypes.foldl (fun types eventType => types.insert eventType) ((bus.byPlugin.get pluginId).getD []))

def unsubscribe (bus : EventBus) (pluginId : String) (eventTypes : List String) : EventBus where
  subscriptions := eventTypes.foldl (fun subscriptions eventType =>
    subscriptions.modify eventType fun subs => subs.erase pluginId) bus.subscriptions
  byPlugin := bus.byPlugin.modify pluginId fun types =>
    eventTypes.foldl (fun types eventType => types.erase eventType) types

def unsubscribeAll (bus : EventBus) (pluginId : String) : EventBus :=
  match bus.byPlugin.get pluginId with
  | none => bus
  | some types => {
      subscriptions := types.foldl (fun subscriptions eventType =>
        subscriptions.modify eventType fun subs => subs.erase pluginId) bus.subscriptions
      byPlugin := bus.byPlugin.remove pluginId }

def subscribers (bus : EventBus) (eventType : String) : List String := (bus.subscriptions.get eventType).getD []

/-- Every subscriber of the type and every wildcard subscriber, once each. -/
def targets (bus : EventBus) (eventType : String) : List String :=
  ((bus.subscriptions.get eventType).getD []).union ((bus.subscriptions.get "*").getD [])

def deliver (shuffle : Shuffle String) (bus : EventBus) (event : Event) (registry : Registry) : List Send :=
  (shuffle.order (bus.targets event.eventType)).filterMap fun pluginId =>
    (registry.get pluginId).map fun entry => sendEnvelope entry.writeTx { payload := .event event }

/-- `persist_async` is left out. -/
def publish (shuffle : Shuffle String) (bus : EventBus) (event : Event) (registry : Registry) : List Send :=
  bus.deliver shuffle event registry

end EventBus

def pluginLifecyclePayload (registry : Registry) (pluginId : String) : EventPayload :=
  let deviceId := ((registry.get pluginId).map PluginEntry.deviceId).getD ""
  let device := registry.getDevice deviceId
  .lifecycle {
    pluginId, deviceId
    os := (device.map DeviceInfo.os).getD .unspecified
    capabilities := (device.map DeviceInfo.capabilities).getD []
    actionSpecs := ((registry.get pluginId).map fun entry => entry.manifest.actionSpecs).getD [] }

def pluginLeftEvent (clock : Clock) (pluginId : String) (payload : EventPayload) : Event :=
  ⟨"sys-left-" ++ pluginId ++ "-" ++ toString clock.unixMillis, "system.plugin_left", payload, 0⟩

def pluginJoinedEvent (clock : Clock) (pluginId : String) (payload : EventPayload) : Event :=
  ⟨"sys-joined-" ++ pluginId ++ "-" ++ toString clock.unixMillis, "system.plugin_joined", payload, 0⟩

end Vynkor
