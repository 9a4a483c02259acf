import Vynkor.Bus
import Vynkor.Permissions

/-! The state the router works on. Handling one message is a function of this
state, the configuration and what the step reads from its surroundings; it
returns the new state and the sends it attempts, in order. -/

namespace Vynkor
open Lib

structure Claims where
  sub : String
  permissions : List String
  ipcTargets : List String

/-- The parameters of the router task. `protocolVersion` is the wire crate's
constant and `debugFormat` the debug rendering of a string. -/
structure Config where
  jwtValidator : Option (Clock → String → Except String Claims) := none
  macSecret : Bool := false
  legacyPluginMac : Bool := false
  configPermissions : Option (String → Option (List String)) := none
  deviceStore : Bool := false
  ipcLimiter : Bool := false
  actionLimiter : Bool := false
  actionCallerMaxConcurrent : Option Nat := none
  actionTimeoutMs : Nat := 30000
  maxConnErrors : Nat := 16
  maxTrackedErrorConns : Nat := 8192
  sessionIdleTimeoutSecs : Option Nat := none
  bridge : Bool := false
  deviceCallers : Option (String → Option (List String)) := none
  lazy : Bool := false
  protocolVersion : String := "1.7"
  debugFormat : String → String := fun text => "\"" ++ text ++ "\""

structure CommandOutcome where
  status : CommandStatus := .commandOk
  dataJson : Bytes := []
  error : String := ""

/-- What one step reads besides the kernel's state: the clocks, the order in which
maps are visited, the channels, and the answers of the limiters, the credential
store, the random generator and the command handler. -/
structure Ambient where
  clock : Clock := ⟨0, 0⟩
  shuffle : Shuffle String := Shuffle.unchanged String
  accepts : Tx → Bool := fun _ => true
  closed : Tx → Bool := fun _ => false
  wakeAccepts : Bool := true
  ipcLimited : Bool := false
  actionLimited : Bool := false
  activeSecret : Except String (Option String) := .ok none
  nonce : Bytes := []
  dispatch : CommandOutcome := {}

/-- History: one registration of a pending action and the connection it came from. -/
structure Issue where
  connId : ConnId
  key : String
  pending : PendingAction
  deriving DecidableEq, Repr

structure Kernel where
  registry : Registry := {}
  bus : EventBus := {}
  actionSeq : UInt64 := 0
  eventSeq : UInt64 := 0
  bridgeConns : List Tx := []
  issued : List Issue := []

structure WakeRequest where
  pluginId : String
  msg : IncomingMessage

structure Outcome where
  kernel : Kernel
  sends : List Send := []
  wake : Option WakeRequest := none
  errored : Bool := false

def bridgeConnIdBase : ConnId := 2000000000

def isErr {ε α : Type} : Except ε α → Bool
  | .error _ => true
  | .ok _ => false

def isThrottleExempt (frame : Frame) : Bool :=
  match frame.payload.decode with
  | none => false
  | some envelope =>
    match envelope.payload with
    | .actionResponse _ | .actionResponseChunk _ | .actionRequestChunk _ | .sessionClose _ | .pong _ _ => true
    | _ => false

def actionStatusMessage : ActionStatus → String
  | .actionNotFound => "action not found"
  | .actionPermissionDeny => "permission denied"
  | .actionTimeout => "action timed out"
  | .actionQuotaExceeded => "quota exceeded"
  | .actionStreamBackpressure => "stream backpressure"
  | .actionError => "action failed"
  | .actionOk | .actionUnknown | .other _ => "unknown action status"

inductive ProtocolCheck
  | supported
  | newerMinor
  | rejected (reason : String)
  deriving DecidableEq, Repr

/-- A non-empty run of decimal digits below 2^32. -/
def versionComponent (digits : List Char) : Option Nat :=
  if digits.isEmpty || !digits.all Char.isDigit then none
  else
    let value := digits.foldl (fun value digit => value * 10 + (digit.toNat - '0'.toNat)) 0
    if value < 4294967296 then some value else none

def parseProtocolVersion (version : String) : Option (Nat × Nat) :=
  match version.toList.splitOn '.' with
  | [major, minor] =>
    match versionComponent major, versionComponent minor with
    | some major, some minor => some (major, minor)
    | _, _ => none
  | [major, minor, patch] =>
    match versionComponent major, versionComponent minor, versionComponent patch with
    | some major, some minor, some _ => some (major, minor)
    | _, _, _ => none
  | _ => none

def minSupportedProtocolVersion : String := "1.5"

def versionBefore (first second : Nat × Nat) : Bool :=
  decide (first.1 < second.1) || (first.1 == second.1 && decide (first.2 < second.2))

def checkProtocolVersion (config : Config) (version : String) : ProtocolCheck :=
  let range := minSupportedProtocolVersion ++ "–" ++ config.protocolVersion
  match parseProtocolVersion minSupportedProtocolVersion, parseProtocolVersion config.protocolVersion with
  | some least, some most =>
    match parseProtocolVersion version with
    | none => .rejected
        ("malformed protocol_version " ++ config.debugFormat version ++ "; kernel supports " ++ range)
    | some got =>
      if versionBefore got least || got.1 != most.1 then
        .rejected ("protocol " ++ version ++ " unsupported; kernel supports " ++ range)
      else if versionBefore most got then .newerMinor
      else .supported
  | _, _ => .rejected ("kernel protocol range " ++ range ++ " invalid")

def offlineDeviceReason (registry : Registry) (action : String) : Option String :=
  match Text.splitOnce action '.' with
  | none => none
  | some (deviceId, _) =>
    match registry.getDevice deviceId with
    | none => none
    | some device =>
      match device.state with
      | .offline => some ("device " ++ deviceId ++ " offline")
      | .revoked => some ("device " ++ deviceId ++ " revoked")
      | _ => none

def ambiguousActionReason (registry : Registry) (action : String) : Option String :=
  match registry.findActionProvider action with
  | .ambiguous providers => some ("action " ++ action ++ " is ambiguous: declared by " ++
      String.intercalate ", " (providers.mergeSort fun first second => decide (first ≤ second)))
  | _ => none

/-- Tells both sides that a stream is over. A requester that has not had its
`ActionResponse` gets one. -/
def notifyForcedTermination (registry : Registry) (internalId : String) (pending : PendingAction) (reason : String) :
    List Send :=
  sendEnvelope pending.requesterWriteTx { payload := .actionStreamAbort ⟨pending.originalActionId, reason⟩ }
      (some pending.serial) ::
    (if pending.sessionAccepted then []
      else [sendEnvelope pending.requesterWriteTx
        { payload := .actionResponse ⟨pending.originalActionId, .actionStreamBackpressure, [], reason⟩ }
        (some pending.serial)]) ++
    match registry.get pending.providerId with
    | some provider => [sendEnvelope provider.writeTx { payload := .actionStreamAbort ⟨internalId, reason⟩ }]
    | none => []

def abortStream (registry : Registry) (internalId reason : String) : Registry × List Send :=
  match registry.takePendingAction internalId with
  | (left, none) => (left, [])
  | (left, some pending) => (left, notifyForcedTermination left internalId pending reason)

def isPluginSlug (text : String) : Bool :=
  text != "" && decide (text.utf8ByteSize ≤ 64) &&
    text.toList.all fun char => char.isLower || char.isDigit || char == '-' || char == '_'

/-- Identity of a request that arrives over a device connection. -/
structure DeviceCaller where
  scopedId : String
  plugin : Option String

def DeviceCaller.new (deviceId claimed : String) : DeviceCaller :=
  if isPluginSlug claimed && claimed != deviceId then ⟨deviceId ++ "." ++ claimed, some claimed⟩
  else ⟨deviceId, none⟩

def DeviceCaller.allowedBy (caller : DeviceCaller) (deviceId : String) (rules : String → Option (List String)) : Bool :=
  (rules deviceId).any fun names => names.any fun name => name == "*" || caller.plugin == some name

def senderId (registry : Registry) (connId : ConnId) : String :=
  ((registry.getByConnId connId).map PluginEntry.pluginId).getD ""

end Vynkor
