import Vynkor.Bus
import Vynkor.Lib.Kahn
import Vynkor.Permissions
import Vynkor.Supervisor

/-! The loader: which of the configured plugins are started, in which order. A plugin is
refused if its manifest is not acceptable, if it requires something that is not configured, or
if it is part of a cycle of requirements or depends on one. -/

namespace Vynkor
open Lib

structure PluginDef where
  id : String
  restart : String := "on-failure"
  maxRestarts : UInt32 := 5
  sandbox : Bool := false
  lazy : Bool := false
  idleStopSecs : Option Nat := none
  permissions : List String := []
  deriving DecidableEq, Repr

structure ManifestAction where
  name : String
  permission : Option String := none
  deriving DecidableEq, Repr

structure InstallManifest where
  permissions : List String := []
  requires : List String := []
  actions : Option (List ManifestAction) := none
  events : Option (List String) := none
  deriving DecidableEq, Repr

/-- What the loader meets outside the kernel: the `plugin.json` beside a binary as
`validate_manifest` returns it, the action specs in its raw text, and whether the supervisor
can spawn a plugin. -/
structure Installation where
  manifest : PluginDef → Except String (Option InstallManifest)
  actionSpecs : PluginDef → List ActionSpec
  spawns : PluginConfig → Bool

def PermissionType.known : List PermissionType :=
  [.permissionNetwork, .permissionFilesRead, .permissionFilesWrite, .permissionSystem, .permissionAudio,
   .permissionNotify, .permissionScheduler, .permissionBrowser, .permissionIpcSend, .permissionAudioStream,
   .permissionKernelAdmin, .permissionEventPublish, .permissionStorage, .permissionSecrets, .permissionClipboard,
   .permissionLaunch, .permissionScreen, .permissionHome]

/-- The unknown permission is no requirement. -/
def resolvePermission (text : String) : Option PermissionType :=
  let name := "PERMISSION_" ++ Text.toAsciiUppercase ((Text.stripPrefix text "PERMISSION_").getD text)
  PermissionType.known.find? fun permission => permission.asStrName == name

/-- An empty list of granted permissions places no restriction. -/
def validatePluginDef (installation : Installation) (plugin : PluginDef) : Except String (Option InstallManifest) :=
  match installation.manifest plugin with
  | .error reason => .error reason
  | .ok none => .ok none
  | .ok (some manifest) =>
    let ungranted := manifest.permissions.find? fun held =>
      !plugin.permissions.any fun granted => normalizePermission granted == normalizePermission held
    match if plugin.permissions.isEmpty then none else ungranted with
    | none => .ok (some manifest)
    | some held => .error (VynkorError.permissionDenied
        ("Plugin '" ++ plugin.id ++ "' requests permission '" ++ held ++ "' which is not granted in config")).display

def declaredRequirements (manifest : InstallManifest) : DashMap String PermissionType :=
  (manifest.actions.getD []).foldl (fun requirements action =>
    match action.permission.bind resolvePermission with
    | some permission => requirements.insert action.name permission
    | none => requirements) ∅

structure Screening where
  registry : Registry
  manifests : DashMap String (Option InstallManifest) := ∅
  refused : List String := []
  lazySpecs : DashMap String (List ActionSpec) := ∅

/-- The manifest of one plugin is read and checked. -/
def Screening.screen (installation : Installation) (screening : Screening) (plugin : PluginDef) : Screening :=
  match validatePluginDef installation plugin with
  | .error _ => { screening with refused := plugin.id :: screening.refused }
  | .ok manifest => {
      registry := match manifest.map declaredRequirements with
        | none => screening.registry
        | some requirements =>
          if requirements.keys.isEmpty then screening.registry
          else screening.registry.setActionRequirements plugin.id requirements
      manifests := screening.manifests.insert plugin.id manifest
      refused := screening.refused
      lazySpecs :=
        if plugin.lazy then screening.lazySpecs.insert plugin.id (installation.actionSpecs plugin)
        else screening.lazySpecs }

def Screening.manifest (screening : Screening) (id : String) : Option InstallManifest :=
  (screening.manifests.get id).join

structure Resolution where
  deps : DashMap String (List String) := ∅
  refused : List String

/-- A plugin that requires something outside the configuration is refused. -/
def Resolution.resolve (manifest : String → Option InstallManifest) (idSet : List String) (resolution : Resolution)
    (plugin : PluginDef) : Resolution :=
  if resolution.refused.contains plugin.id then resolution
  else
    let required := ((manifest plugin.id).map InstallManifest.requires).getD []
    if required.any fun dep => !idSet.contains dep then { resolution with refused := plugin.id :: resolution.refused }
    else { resolution with deps := resolution.deps.insert plugin.id required }

/-- The ids that are not refused, in the order of the configuration. -/
def activeIds (defs : List PluginDef) (refused : List String) : List String :=
  (defs.map PluginDef.id).filter fun id => !refused.contains id

/-- What a plugin requires, apart from refused plugins. -/
def activeDeps (deps : DashMap String (List String)) (refused : List String) (id : String) : List String :=
  ((deps.get id).getD []).filter fun dep => !refused.contains dep

/-- Ids with the required ones first, or the ids that a cycle keeps from being sorted. `none` if
the loop has not ended after `fuel` rounds. -/
def topoSort (fuel : Nat) (defs : List PluginDef) (deps : DashMap String (List String)) (refused : List String) :
    Option (Except (List String) (List String)) :=
  Kahn.sort (activeDeps deps refused) fuel (activeIds defs refused)

structure StartPlan where
  order : List String
  refused : List String

/-- With a cycle, what is left is started in the order of the configuration. -/
def startPlan (defs : List PluginDef) (refused : List String) : Except (List String) (List String) → StartPlan
  | .ok order => ⟨order, refused⟩
  | .error cycle => ⟨activeIds defs (cycle ++ refused), cycle ++ refused⟩

def restartPolicy : String → RestartPolicy
  | "always" => .always
  | "never" => .never
  | _ => .onFailure

def configFromDef (plugin : PluginDef) : PluginConfig where
  pluginId := plugin.id
  restartPolicy := restartPolicy plugin.restart
  maxRestarts := plugin.maxRestarts
  sandbox := plugin.sandbox

/-- `started` is a history variable: the plugins spawned or registered dormant, in order. -/
structure Loaded where
  registry : Registry
  bus : Option EventBus
  lazySpecs : DashMap String (List ActionSpec) := ∅
  lazyConfigs : DashMap String PluginConfig := ∅
  started : List String := []

namespace Loaded

def registerLazy (loaded : Loaded) (plugin : PluginDef) (specs : List ActionSpec) (defaultIdleStopSecs : Nat) : Loaded :=
  { loaded with
    registry := loaded.registry.registerDormant
      ⟨plugin.id, specs, secs (plugin.idleStopSecs.getD defaultIdleStopSecs)⟩
    lazyConfigs := loaded.lazyConfigs.insert plugin.id (configFromDef plugin)
    started := loaded.started ++ [plugin.id] }

/-- A spawned plugin subscribes to the events of its manifest; a failed spawn is skipped. -/
def spawn (installation : Installation) (loaded : Loaded) (plugin : PluginDef) (manifest : Option InstallManifest) :
    Loaded :=
  if installation.spawns (configFromDef plugin) then
    { loaded with
      bus :=
        let events := (manifest.bind InstallManifest.events).getD []
        if events.isEmpty then loaded.bus else loaded.bus.map fun bus => bus.subscribe plugin.id events
      started := loaded.started ++ [plugin.id] }
  else loaded

/-- A lazy plugin that no event and no action could wake is started at once. -/
def start (installation : Installation) (lazyIdleStopSecs : Nat) (manifest : Option InstallManifest) (loaded : Loaded)
    (plugin : PluginDef) : Loaded :=
  if plugin.lazy then
    let specs := (loaded.lazySpecs.get plugin.id).getD []
    let loaded := { loaded with lazySpecs := loaded.lazySpecs.remove plugin.id }
    if !((manifest.bind InstallManifest.events).getD []).isEmpty || specs.isEmpty then
      loaded.spawn installation plugin manifest
    else loaded.registerLazy plugin specs lazyIdleStopSecs
  else loaded.spawn installation plugin manifest

def launch (installation : Installation) (lazyIdleStopSecs : Nat) (defs : List PluginDef) (screening : Screening)
    (refused : List String) (loaded : Loaded) (id : String) : Loaded :=
  match defs.find? fun plugin => plugin.id == id with
  | none => loaded
  | some plugin =>
    if refused.contains id then loaded
    else loaded.start installation lazyIdleStopSecs (screening.manifest plugin.id) plugin

end Loaded

/-- `none` if the sort has not ended after `fuel` rounds. -/
def loadAll (fuel : Nat) (installation : Installation) (defs : List PluginDef) (registry : Registry)
    (bus : Option EventBus) (lazyIdleStopSecs : Nat) : Option Loaded :=
  if defs.isEmpty then some { registry, bus }
  else
    let screening := defs.foldl (Screening.screen installation) { registry }
    let resolution := defs.foldl (Resolution.resolve screening.manifest (defs.map PluginDef.id))
      { refused := screening.refused }
    (topoSort fuel defs resolution.deps resolution.refused).map fun sorted =>
      let plan := startPlan defs resolution.refused sorted
      plan.order.foldl (Loaded.launch installation lazyIdleStopSecs defs screening plan.refused)
        { registry := screening.registry, bus, lazySpecs := screening.lazySpecs }

end Vynkor
