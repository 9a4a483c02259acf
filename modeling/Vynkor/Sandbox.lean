import Mathlib.Logic.Function.Basic
import Vynkor.Lib.Utf8
import Vynkor.Lib.Text
import Vynkor.Wire

/-! The filesystem restriction of a sandboxed plugin. The supervisor hands it to the shim in
environment variables, and the shim makes Landlock rules of it. -/

namespace Vynkor
open Lib

inductive FsAccessMode
  | full
  | readOnly
  | none
  deriving DecidableEq, Repr

namespace FsAccessMode

def asStr : FsAccessMode → String
  | full => "full"
  | readOnly => "read-only"
  | none => "none"

def parse (text : String) : Option FsAccessMode :=
  if text = "full" then some full
  else if text = "read-only" ∨ text = "readonly" then some readOnly
  else if text = "none" then some none
  else Option.none

end FsAccessMode

structure FsRestriction where
  mode : FsAccessMode
  readonlyPaths : List Bytes
  writablePaths : List Bytes
  deriving DecidableEq, Repr

/-- The variables of a process that are set to text. -/
abbrev Environment := String → Option String

def Environment.set (env : Environment) (name value : String) : Environment := Function.update env name (some value)

def maxFsAccessEnv : String := "VYN_MAX_FS_ACCESS"

def roPathsEnv : String := "VYN_RO_PATHS"

def rwPathsEnv : String := "VYN_RW_PATHS"

def pathSep : Char := Char.ofNat 31

def joinPathsEnv (paths : List Bytes) : String := (String.singleton pathSep).intercalate (paths.map Paths.display)

def parsePathsEnv (env : Environment) (name : String) : List Bytes :=
  match env name with
  | none => []
  | some value =>
    ((value.toList.splitOn pathSep).filter fun piece => !piece.isEmpty).map fun piece =>
      TextField.encoded (String.ofList piece)

/-- What the shim reads. -/
def fromEnv (env : Environment) : Option FsRestriction :=
  match (env maxFsAccessEnv).bind FsAccessMode.parse with
  | none => none
  | some mode =>
    if mode = .full then none
    else some ⟨mode, parsePathsEnv env roPathsEnv, parsePathsEnv env rwPathsEnv⟩

/-- The fields of a plugin's configuration that matter to the shim. -/
structure SandboxConfig where
  pluginId : String
  env : List String := []
  graceSeconds : Nat := 0
  maxFsAccess : FsAccessMode := .full
  readonlyPaths : List Bytes := []
  writablePaths : List Bytes := []
  deriving DecidableEq, Repr

/-- The writable paths and the plugin's data directory, which is one of them if it could be made. -/
def grantDataDir (dataDir : Option Bytes) (creates : Bytes → Bool) (config : SandboxConfig) : List Bytes × Option Bytes :=
  match dataDir with
  | none => (config.writablePaths, none)
  | some dir =>
    let pluginData := Paths.join (Paths.join dir (TextField.encoded "plugins")) (TextField.encoded config.pluginId)
    if creates pluginData then (config.writablePaths ++ [pluginData], some pluginData) else (config.writablePaths, none)

/-- The operator's variables, and on top the key of the plugin. -/
def mergedEnv (operatorEnv : List String) (macOverride : Option String) : List (String × String) :=
  (operatorEnv.filterMap fun entry => Text.splitOnce entry '=').filter
      (fun entry => macOverride.isNone || entry.1 != "VYN_JWT_SECRET") ++
    (macOverride.map fun key => ("VYN_JWT_SECRET", key)).toList

/-- The variables of the shim. Those of the operator come last. -/
def shimEnv (inherited : Environment) (socketPath : String) (macOverride : Option String) (dataDir : Option Bytes)
    (creates : Bytes → Bool) (config : SandboxConfig) : Environment :=
  let granted := grantDataDir dataDir creates config
  let env := if config.graceSeconds > 0 then inherited.set "VYN_SHIM_GRACE_SECS" (toString config.graceSeconds) else inherited
  let env := if config.maxFsAccess ≠ .full then
      ((env.set maxFsAccessEnv config.maxFsAccess.asStr).set roPathsEnv (joinPathsEnv config.readonlyPaths)).set
        rwPathsEnv (joinPathsEnv granted.1)
    else env
  let env := env.set "VYN_SOCKET_PATH" socketPath
  let env := match granted.2 with
    | some dir => Function.update env "VYN_DATA_DIR" (String.fromUTF8? dir.toByteArray)
    | none => env
  (mergedEnv config.env macOverride).foldl (fun env entry => env.set entry.1 entry.2) env

inductive FsAccess
  | all
  | read
  | fileRead
  | fileWrite
  | socket
  deriving DecidableEq, Repr

structure LandlockRule where
  path : Bytes
  access : FsAccess
  deriving DecidableEq, Repr

/-- What the shim meets on the disk: whether a path exists, whether it is a directory, and whether
it can be opened. -/
structure PathTable where
  present : Bytes → Bool
  isDir : Bytes → Bool
  openFd : Bytes → Except String Unit

/-- A missing path has no rule. -/
def ruleFor (table : PathTable) (path : Bytes) (dirAccess fileAccess : FsAccess) : Except String (List LandlockRule) :=
  if !table.present path then .ok []
  else
    match table.openFd path with
    | .error error => .error error
    | .ok () => .ok [⟨path, if table.isDir path then dirAccess else fileAccess⟩]

def defaultSystemReadDirs : List Bytes := ["/usr/lib", "/usr/lib64", "/lib", "/lib64"].map TextField.encoded

/-- The rules of a restriction, in the order in which they are added. `binaryDir` is the directory
of the resolved binary. -/
def landlockRules (table : PathTable) (restriction : FsRestriction) (binaryDir socketPath : Option Bytes) :
    Except String (List LandlockRule) := do
  let system ← defaultSystemReadDirs.mapM fun dir => ruleFor table dir .read .fileRead
  let binary ← (binaryDir.toList.filter fun dir => !dir.isEmpty).mapM fun dir => ruleFor table dir .read .fileRead
  let cache ← ruleFor table (TextField.encoded "/etc/ld.so.cache") .read .fileRead
  let socket ← socketPath.toList.mapM fun path => ruleFor table path .socket .socket
  let readonly ← (if restriction.mode = .readOnly then restriction.readonlyPaths else []).mapM fun path =>
    ruleFor table path .read .fileRead
  let writable ← restriction.writablePaths.mapM fun path => ruleFor table path .all .fileWrite
  .ok (system.flatten ++ binary.flatten ++ cache ++ socket.flatten ++ readonly.flatten ++ writable.flatten)

end Vynkor
