import Mathlib.Data.List.Induction
import Vynkor.Proofs.RegistryShape

/-! Which plugin answers for a capability of a device. The lookup also believes actions of other
namespaces and the record of the device, which any plugin of that device rewrites and which
outlives all of them; it is strict as long as registrations leave no room for that. -/

namespace Vynkor.Registry
open Lib

/-- `declared` is a history variable: the capabilities with which each id has last registered. -/
structure Roster where
  registry : Registry := {}
  declared : DashMap String (List String) := ∅

namespace Roster

def declare (roster : Roster) : Call → DashMap String (List String)
  | .registerWithDevice clock pluginId connId manifest writeTx info =>
    match (roster.registry.registerWithDevice clock pluginId connId manifest writeTx info).2 with
    | .ok () => roster.declared.insert pluginId info.capabilities
    | .error _ => roster.declared
  | .registerDevice clock deviceId connId caps manifest writeTx info =>
    match (roster.registry.registerDevice clock deviceId connId caps manifest writeTx info).2 with
    | .ok () => roster.declared.insert deviceId caps
    | .error _ => roster.declared
  | _ => roster.declared

def step (roster : Roster) (call : Call) : Roster := ⟨roster.registry.apply call, roster.declare call⟩

def machine : Machine Roster Call := ⟨{}, step⟩

def own (roster : Roster) (pluginId : String) : List String := (roster.declared.get pluginId).getD []

end Roster

def declares (entry : PluginEntry) (capabilities : List String) (cap : String) : Bool :=
  entry.manifest.actions.contains (entry.pluginId ++ "." ++ cap) || capabilities.contains cap

namespace Roster

/-- Whatever follows the first dot of an action is a capability of the plugin itself, unless its
name cannot be that of a device. -/
def namespaced (entry : PluginEntry) (capabilities : List String) : Bool :=
  Text.contains entry.pluginId '.' || entry.manifest.actions.all fun action =>
    (Text.splitOnce action '.').all fun parts => declares entry capabilities parts.2

/-- The record of a device goes with the plugin that has the device's name: either this is the
plugin that registers, or its name is that of no device with other capabilities, and the
plugin with the device's name declares all that is put into the record. -/
def recorded (roster : Roster) (entry : PluginEntry) (capabilities : List String) : Bool :=
  entry.deviceId == entry.pluginId ||
    ((roster.registry.devices.get entry.pluginId).all fun device => device.capabilities.all (declares entry capabilities)) &&
      (roster.registry.get entry.deviceId).all fun owner => capabilities.all (declares owner (roster.own entry.deviceId))

def proper (roster : Roster) (entry : PluginEntry) (capabilities : List String) : Bool :=
  namespaced entry capabilities && roster.recorded entry capabilities

def guard (roster : Roster) : Call → Bool
  | .registerWithDevice clock pluginId connId manifest writeTx info =>
    roster.proper (deviceEntry clock pluginId connId manifest writeTx info) info.capabilities
  | .registerDevice clock deviceId connId caps manifest writeTx info =>
    roster.proper (muxEntry clock deviceId connId caps manifest writeTx info) caps
  | _ => true

end Roster

/-- Everything by which the lookup could go for a plugin was declared by its registration. -/
structure Strict (roster : Roster) : Prop where
  consistent : roster.registry.Consistent
  actions : ∀ {dev entry}, roster.registry.get dev = some entry → Text.contains dev '.' = false →
    ∀ action ∈ entry.manifest.actions, ∀ parts, Text.splitOnce action '.' = some parts →
      declares entry (roster.own dev) parts.2 = true
  records : ∀ {dev entry device}, roster.registry.get dev = some entry → roster.registry.devices.get dev = some device →
    ∀ cap ∈ device.capabilities, declares entry (roster.own dev) cap = true

namespace Strict
variable {roster : Roster} (strict : Strict roster)
include strict

theorem shrink {registry : Registry} (consistent : registry.Consistent)
    (fewer : ∀ dev entry, registry.get dev = some entry → roster.registry.get dev = some entry)
    (same : ∀ dev device, registry.devices.get dev = some device →
      ∃ before, roster.registry.devices.get dev = some before ∧ device.capabilities = before.capabilities) :
    Strict { roster with registry } := by
  constructor
  · exact consistent
  · intro dev entry held
    exact strict.actions (fewer dev entry held)
  · intro dev entry device held stored cap member
    obtain ⟨before, earlier, equal⟩ := same dev device stored
    exact strict.records (fewer dev entry held) earlier cap (equal ▸ member)

private theorem modified {registry : Registry} (consistent : registry.Consistent) (deviceId : String)
    (refresh : DeviceInfo → DeviceInfo) (kept : ∀ device, (refresh device).capabilities = device.capabilities)
    (fewer : ∀ dev entry, registry.get dev = some entry → roster.registry.get dev = some entry)
    (devices : registry.devices = roster.registry.devices ∨
      registry.devices = roster.registry.devices.modify deviceId refresh) : Strict { roster with registry } := by
  refine strict.shrink consistent fewer fun dev device stored => ?_
  rcases devices with same | changed
  · exact ⟨device, same ▸ stored, rfl⟩
  · rw [changed, DashMap.get_modify] at stored
    split at stored
    next here =>
      obtain ⟨before, earlier, rfl⟩ := Option.map_eq_some_iff.mp stored
      exact ⟨before, here ▸ earlier, kept before⟩
    next => exact ⟨device, stored, rfl⟩

theorem unregisterIf (shuffle : Shuffle String) (pluginId : String) (test : PluginEntry → Bool) :
    Strict { roster with registry := (roster.registry.unregisterIf shuffle pluginId test).registry } := by
  rcases unregisterIf_cases shuffle roster.registry pluginId test with kept | ⟨entry, held, -, removed⟩
  · rw [kept]
    exact strict
  · rw [removed]
    refine strict.modified (strict.consistent.cleanUp held shuffle) entry.deviceId
      (fun device => { device with state := .offline }) (fun _ => rfl) (fun dev other found => ?_) ?_
    · exact (DashMap.remove_some.mp found).2
    · rw [cleanUp_devices]
      split
      · exact .inl rfl
      · exact .inr rfl

theorem recordPong (clock : Clock) (pluginId : String) :
    Strict { roster with registry := roster.registry.recordPong clock pluginId } := by
  refine strict.modified (strict.consistent.recordPong clock pluginId)
    (((roster.registry.byPluginId.get pluginId).map PluginEntry.deviceId).getD "")
    (fun device => { device with lastSeen := clock.unixMillis, state := .online }) (fun _ => rfl) (fun _ _ found => found) ?_
  rw [recordPong_devices]
  cases roster.registry.byPluginId.get pluginId with
  | none => exact .inl rfl
  | some entry => exact .inr rfl

theorem registerDormant (plugin : DormantPlugin) :
    Strict { roster with registry := roster.registry.registerDormant plugin } := by
  have same : (roster.registry.registerDormant plugin).byPluginId = roster.registry.byPluginId ∧
      (roster.registry.registerDormant plugin).devices = roster.registry.devices := by
    unfold Registry.registerDormant dropDormantActions
    cases roster.registry.dormant.get plugin.pluginId with
    | none | some => exact ⟨rfl, rfl⟩
  refine strict.shrink (strict.consistent.registerDormant plugin) ?_ ?_
  · intro dev entry held
    unfold get at held ⊢
    rwa [same.1] at held
  · intro dev device stored
    exact ⟨device, same.2 ▸ stored, rfl⟩

theorem enroll (clock : Clock) {entry : PluginEntry} (info : DeviceMeta) {capabilities : List String}
    (freeConn : roster.registry.byConnId.get entry.connId = none)
    (freeId : roster.registry.byPluginId.get entry.pluginId = none) (proper : roster.proper entry capabilities = true) :
    Strict ⟨roster.registry.enroll clock entry info capabilities, roster.declared.insert entry.pluginId capabilities⟩ := by
  obtain ⟨namespaced, recorded⟩ := Bool.and_eq_true_iff.mp proper
  have mine : Roster.own ⟨roster.registry.enroll clock entry info capabilities,
      roster.declared.insert entry.pluginId capabilities⟩ entry.pluginId = capabilities := by
    unfold Roster.own
    rw [DashMap.get_insert, if_pos rfl]
    rfl
  have others : ∀ dev, dev ≠ entry.pluginId → Roster.own ⟨roster.registry.enroll clock entry info capabilities,
      roster.declared.insert entry.pluginId capabilities⟩ dev = roster.own dev := by
    intro dev apart
    unfold Roster.own
    rw [DashMap.get_insert, if_neg apart]
  constructor
  · exact strict.consistent.enroll clock entry info capabilities freeId freeConn
  · intro dev held found plain action member parts split
    rcases DashMap.insert_cases found with ⟨rfl, rfl⟩ | ⟨apart, before⟩
    · rw [mine]
      unfold Roster.namespaced at namespaced
      rw [plain, Bool.false_or] at namespaced
      have passes := List.all_eq_true.mp namespaced action member
      rwa [split] at passes
    · rw [others dev apart]
      exact strict.actions before plain action member parts split
  · intro dev held device found stored cap member
    rw [enroll_devices, get_upsertDevice] at stored
    rw [Roster.recorded, Bool.or_eq_true, Bool.and_eq_true, beq_iff_eq] at recorded
    rcases DashMap.insert_cases found with ⟨rfl, rfl⟩ | ⟨apart, before⟩
    · rw [mine]
      split at stored
      next =>
        -- the newcomer's own record
        cases stored
        unfold declares
        rw [List.contains_iff_mem.mpr member, Bool.or_true]
      next elsewhere =>
        have covered := (recorded.resolve_left (Ne.symm elsewhere)).1
        rw [stored] at covered
        exact List.all_eq_true.mp covered cap member
    · rw [others dev apart]
      split at stored
      next here =>
        -- the record of a plugin that was there before
        cases stored
        subst here
        have covered := (recorded.resolve_left apart).2
        rw [show roster.registry.get entry.deviceId = some held from before] at covered
        exact List.all_eq_true.mp covered cap member
      next => exact strict.records before stored cap member

theorem step {call : Call} (guarded : roster.guard call = true) : Strict (roster.step call) := by
  unfold Roster.step
  cases call with
  | registerWithDevice clock pluginId connId manifest writeTx info =>
    unfold Roster.declare apply
    dsimp only
    rcases registerWithDevice_cases roster.registry clock pluginId connId manifest writeTx info with
      ⟨error, refused⟩ | ⟨-, -, freeConn, freeId, enrolled⟩
    · rw [refused]
      exact strict
    · rw [enrolled]
      exact strict.enroll clock info freeConn freeId guarded
  | registerDevice clock deviceId connId caps manifest writeTx info =>
    unfold Roster.declare apply
    dsimp only
    rcases registerDevice_cases roster.registry clock deviceId connId caps manifest writeTx info with
      ⟨error, refused⟩ | ⟨-, -, freeConn, freeId, enrolled⟩
    · rw [refused]
      exact strict
    · rw [enrolled]
      exact strict.enroll clock info freeConn freeId guarded
  | unregister shuffle pluginId | unregisterConn shuffle pluginId connId | unregisterIfDead shuffle closed pluginId =>
    exact strict.unregisterIf shuffle pluginId _
  | recordPong clock pluginId => exact strict.recordPong clock pluginId
  | registerDormant plugin => exact strict.registerDormant plugin

/-- A target that resolves although it is no plugin names a device and one of its capabilities. -/
theorem getMux {target dev cap : String} {entry : PluginEntry} (unregistered : roster.registry.get target = none)
    (split : Text.splitOnce target '.' = some (dev, cap)) (resolved : roster.registry.getMux target = some entry) :
    roster.registry.get dev = some entry ∧ (target ∈ entry.manifest.actions ∨ cap ∈ roster.own dev) := by
  obtain ⟨whole, plain⟩ := Text.splitOnce_some split
  have name : dev ++ "." ++ cap = target := by
    apply String.toList_injective
    rw [whole]
    simp
  unfold Registry.getMux at resolved
  rw [unregistered, split] at resolved
  dsimp only at resolved
  cases held : roster.registry.get dev with
  | none =>
    rw [held] at resolved
    cases resolved
  | some found =>
    rw [held] at resolved
    dsimp only at resolved
    split at resolved
    next passes =>
      cases resolved
      have keyed : entry.pluginId = dev := strict.consistent.keyed held
      have declared : declares entry (roster.own dev) cap = true → target ∈ entry.manifest.actions ∨ cap ∈ roster.own dev := by
        intro declared
        unfold declares at declared
        rwa [keyed, name, Bool.or_eq_true, List.contains_iff_mem, List.contains_iff_mem] at declared
      refine ⟨rfl, ?_⟩
      rw [Bool.or_eq_true, Bool.or_eq_true, List.contains_iff_mem] at passes
      rcases passes with (listed | foreign) | recorded
      · exact .inl listed
      · obtain ⟨action, member, same⟩ := List.any_eq_true.mp foreign
        obtain ⟨parts, found, equal⟩ := (Option.any_eq_true ..).mp same
        cases beq_iff_eq.mp equal
        exact declared (strict.actions held (by simpa [Text.contains] using plain) action member parts found)
      · obtain ⟨device, stored, listed⟩ := (Option.any_eq_true ..).mp recorded
        exact declared (strict.records held stored cap (List.contains_iff_mem.mp listed))
    next => cases resolved

end Strict

private theorem Roster.registry_run (calls : List Call) : (Roster.machine.run calls).registry = Registry.machine.run calls := by
  induction calls using List.reverseRecOn with
  | nil => rfl
  | append_singleton calls call ih =>
    rw [Machine.run_append, Machine.run_append, ← ih]
    rfl

theorem Strict.initial : Strict {} where
  consistent := .initial
  actions {dev entry} held := by cases (DashMap.get_empty dev).symm.trans held
  records {dev entry device} held := by cases (DashMap.get_empty dev).symm.trans held

/-- As long as every registration keeps its actions in its own namespace and the record of a
device holds nothing that the plugin of its name does not declare, a target that is no plugin
resolves only to the plugin of the device, and only for a capability it has declared. -/
theorem mux_resolution_strict (calls : List Call)
    (proper : Roster.machine.Obeys (fun roster call => roster.guard call = true) {} calls)
    (target dev cap : String) (entry : PluginEntry) (unregistered : (machine.run calls).get target = none)
    (split : Text.splitOnce target '.' = some (dev, cap)) (resolved : (machine.run calls).getMux target = some entry) :
    (machine.run calls).get dev = some entry ∧
      (target ∈ entry.manifest.actions ∨ cap ∈ (Roster.machine.run calls).own dev) := by
  have strict : Strict (Roster.machine.run calls) :=
    @Machine.Obeys.run_preserves _ _ Roster.machine Strict _ .initial
      (fun _ _ guarded strict => strict.step guarded) _ proper
  rw [← Roster.registry_run] at unregistered resolved ⊢
  exact strict.getMux unregistered split resolved

/-- A phone with two capabilities, and a plugin of its own that is registered apart. -/
def phoneRegisters : List Call :=
  [.registerDevice ⟨0, 0⟩ "phone" 1 ["geo", "cam"] {} 1 { deviceId := "phone" },
   .registerWithDevice ⟨1, 1⟩ "phone.cam" 2 { actions := ["phone.cam"] } 2 { deviceId := "phone", capabilities := ["cam"] }]

theorem mux_resolution_strict_phone :
    ∃ entry, (machine.run phoneRegisters).get "phone" = some entry ∧
      ("phone.geo" ∈ entry.manifest.actions ∨ "geo" ∈ (Roster.machine.run phoneRegisters).own "phone") := by
  have resolves : ((machine.run phoneRegisters).getMux "phone.geo").isSome = true := by decide +kernel
  obtain ⟨entry, resolved⟩ := Option.isSome_iff_exists.mp resolves
  exact ⟨entry, mux_resolution_strict phoneRegisters (by decide +kernel) "phone.geo" "phone" "geo" entry (by decide +kernel)
    (by decide +kernel) resolved⟩

/-- The phone has left, and a plugin without actions takes its name. -/
def phoneReplaced : List Call :=
  [.registerDevice ⟨0, 0⟩ "phone" 1 ["geo"] {} 1 { deviceId := "phone" }, .unregister (Shuffle.unchanged _) "phone",
   .registerWithDevice ⟨1, 1⟩ "phone" 2 {} 2 {}]

def notesRegister : List Call := [.registerWithDevice ⟨0, 0⟩ "notes" 1 { actions := ["clock.set"] } 1 {}]

/-- The plugin with the phone's name gets the frames for the phone's capabilities, and the other
one those for a capability of its own that it does not have. -/
theorem mux_resolution_loose :
    ((machine.run phoneReplaced).get "phone.geo" = none ∧ (Roster.machine.run phoneReplaced).own "phone" = [] ∧
      ((machine.run phoneReplaced).getMux "phone.geo").map (fun entry => (entry.connId, entry.manifest.actions)) =
        some (2, [])) ∧
    ((machine.run notesRegister).get "notes.set" = none ∧ (Roster.machine.run notesRegister).own "notes" = [] ∧
      ((machine.run notesRegister).getMux "notes.set").map (fun entry => (entry.connId, entry.manifest.actions)) =
        some (1, ["clock.set"])) := by
  decide +kernel

end Vynkor.Registry
