import Vynkor.Lib.Utf8
import Vynkor.Loader

/-! Loading the configuration: the file, the drop-in definitions beside it, and the values that
are put right. -/

namespace Vynkor
open Lib

/-- The fields of the configuration that loading it reads or writes. `bridgeKeepaliveSecs` is that of
the bridge, if there is one. -/
structure KernelConfig where
  plugins : List PluginDef := []
  pluginsDir : Option Bytes := none
  configFile : Option String := none
  routerChannelCapacity : Nat := 1024
  maxConnections : Nat := 1024
  watchdogIntervalSecs : Nat := 30
  watchdogTimeoutSecs : Nat := 10
  bridgeKeepaliveSecs : Option Nat := none
  maxWsConnections : Nat := 1024
  maxArchiveBytes : Nat := 256 * 1024 * 1024
  deriving DecidableEq, Repr

/-- The disk and the YAML reader. A directory lists its entries in any order, and an entry may
fail; `parent` is that of a path in the standard library. -/
structure Files where
  readToString : Bytes → Except String String
  isDir : Bytes → Bool
  readDir : Bytes → Except String (List (Except String Bytes))
  parent : Bytes → Option Bytes
  parseConfig : String → Except String KernelConfig
  parsePluginDef : String → Except String PluginDef

/-- A setting of the configuration, or the directory `plugins.d` beside the file. -/
def resolvePluginsDir (files : Files) (configPath : Bytes) (explicit : Option Bytes) : Bytes :=
  explicit.getD (match files.parent configPath with
    | some dir => Paths.join dir (TextField.encoded "plugins.d")
    | none => TextField.encoded "plugins.d")

def isYaml (name : Bytes) : Bool :=
  match Paths.extension name with
  | none => false
  | some suffix => suffix == TextField.encoded "yaml" || suffix == TextField.encoded "yml"

/-- The definition in one file. No other definition has its id. -/
def mergeDropin (files : Files) (dir : Bytes) (config : KernelConfig) (name : Bytes) : Except String KernelConfig := do
  let file := Paths.join dir name
  let content ← files.readToString file
  let plugin ← (files.parsePluginDef content).mapError fun error => Paths.display file ++ ": " ++ error
  if config.plugins.any fun known => known.id == plugin.id then
    .error ("duplicate plugin id '" ++ plugin.id ++ "': defined both in " ++ Paths.display file ++
      " and in an inline \x60plugins:\x60 entry or another drop-in file")
  else .ok { config with plugins := config.plugins ++ [plugin] }

/-- In the order of the file names. -/
def mergePluginDropins (files : Files) (dir : Bytes) (config : KernelConfig) : Except String KernelConfig :=
  if !files.isDir dir then .ok config
  else do
    let entries ← files.readDir dir
    let names := (entries.filterMap Except.toOption).filter isYaml
    (names.mergeSort fun first second => decide (first ≤ second)).foldlM (mergeDropin files dir) config

/-- Zero is no valid value. -/
def clampZero (default value : Nat) : Nat := if value = 0 then default else value

def clampInvalidNumerics (config : KernelConfig) : KernelConfig :=
  { config with
    routerChannelCapacity := clampZero 1024 config.routerChannelCapacity
    maxConnections := clampZero 1024 config.maxConnections
    watchdogIntervalSecs := clampZero 30 config.watchdogIntervalSecs
    watchdogTimeoutSecs := clampZero 10 config.watchdogTimeoutSecs
    bridgeKeepaliveSecs := config.bridgeKeepaliveSecs.map (clampZero 15)
    maxWsConnections := clampZero 1024 config.maxWsConnections
    maxArchiveBytes := clampZero (256 * 1024 * 1024) config.maxArchiveBytes }

def loadConfig (files : Files) (path : String) : Except String KernelConfig := do
  let content ← files.readToString (TextField.encoded path)
  let config ← files.parseConfig content
  let dir := resolvePluginsDir files (TextField.encoded path) config.pluginsDir
  let config ← mergePluginDropins files dir { config with configFile := some path, pluginsDir := some dir }
  .ok (clampInvalidNumerics config)

/-- The kernel's table of what the operator allows a plugin id. -/
def configPermissions (plugins : List PluginDef) : DashMap String (List String) :=
  plugins.foldl (fun table plugin => table.insert plugin.id plugin.permissions) ∅

end Vynkor
