import Mathlib.Data.List.Basic

/-! Messages and frames as the router sees them. A payload is known by what
`Envelope::decode` makes of it, since the router looks at it in no other way; its
bytes matter only to the connections. -/

namespace Vynkor

abbrev Bytes := List UInt8

/-- Identity of an mpsc channel; clones of a sender share it. -/
abbrev Tx := Nat

abbrev ConnId := Nat

/-- A point of the monotonic clock, in nanoseconds. -/
abbrev Instant := Nat

def millis (count : Nat) : Nat := 1000000 * count

def secs (count : Nat) : Nat := 1000000000 * count

/-- The wire field is an `i32`; `other` is any value outside the enumeration. -/
inductive ActionStatus
  | actionUnknown | actionOk | actionError | actionNotFound | actionPermissionDeny | actionTimeout
  | actionQuotaExceeded | actionStreamBackpressure
  | other (code : Int)
  deriving DecidableEq, Repr

inductive ErrorCode
  | errUnknown | errDeserialization | errNotRegistered | errPermissionDenied | errProtocolMismatch | errRateLimited
  | errMacMissing | errMacInvalid
  deriving DecidableEq, Repr

inductive PermissionType
  | permissionUnknown | permissionNetwork | permissionFilesRead | permissionFilesWrite | permissionSystem
  | permissionAudio | permissionNotify | permissionScheduler | permissionBrowser | permissionIpcSend
  | permissionAudioStream | permissionKernelAdmin | permissionEventPublish | permissionStorage | permissionSecrets
  | permissionClipboard | permissionLaunch | permissionScreen | permissionHome
  deriving DecidableEq, Repr

def PermissionType.asStrName : PermissionType → String
  | permissionUnknown => "PERMISSION_UNKNOWN"
  | permissionNetwork => "PERMISSION_NETWORK"
  | permissionFilesRead => "PERMISSION_FILES_READ"
  | permissionFilesWrite => "PERMISSION_FILES_WRITE"
  | permissionSystem => "PERMISSION_SYSTEM"
  | permissionAudio => "PERMISSION_AUDIO"
  | permissionNotify => "PERMISSION_NOTIFY"
  | permissionScheduler => "PERMISSION_SCHEDULER"
  | permissionBrowser => "PERMISSION_BROWSER"
  | permissionIpcSend => "PERMISSION_IPC_SEND"
  | permissionAudioStream => "PERMISSION_AUDIO_STREAM"
  | permissionKernelAdmin => "PERMISSION_KERNEL_ADMIN"
  | permissionEventPublish => "PERMISSION_EVENT_PUBLISH"
  | permissionStorage => "PERMISSION_STORAGE"
  | permissionSecrets => "PERMISSION_SECRETS"
  | permissionClipboard => "PERMISSION_CLIPBOARD"
  | permissionLaunch => "PERMISSION_LAUNCH"
  | permissionScreen => "PERMISSION_SCREEN"
  | permissionHome => "PERMISSION_HOME"

inductive DeviceOs
  | unspecified | linux | macos | windows | android | ios | freebsd
  deriving DecidableEq, Repr

inductive DeviceState
  | unspecified | online | offline | revoked
  deriving DecidableEq, Repr

inductive EventPublishStatus
  | eventPublishOk | eventPublishPermissionDeny
  deriving DecidableEq, Repr

inductive CommandStatus
  | commandUnknown | commandOk | commandError | commandPermissionDenied
  deriving DecidableEq, Repr

structure ActionSpec where
  name : String
  description : String := ""
  paramsSchema : String := ""
  risk : Int := 0
  requiresConfirmation : Bool := false
  deriving DecidableEq, Repr

structure PluginManifest where
  permissions : List String := []
  actions : List String := []
  ipcTargets : List String := []
  actionSpecs : List ActionSpec := []
  deriving DecidableEq, Repr, Inhabited

/-- `os` is `none` when the wire value is not a known system. -/
structure PluginRegister where
  pluginId : String
  manifest : Option PluginManifest := none
  jwtToken : String := ""
  deviceId : String := ""
  userId : String := ""
  os : Option DeviceOs := some .unspecified
  arch : String := ""
  osVersion : String := ""
  capabilities : List String := []
  protocolVersion : String := ""
  deriving DecidableEq, Repr

structure PluginRegisterAck where
  accepted : Bool
  rejectReason : String
  grantedPermissions : List String
  sessionNonce : Bytes
  deriving DecidableEq, Repr

structure ActionRequest where
  actionId : String
  action : String
  paramsJson : Bytes := []
  timeoutMs : Nat := 0
  streaming : Bool := false
  callerPluginId : String := ""
  deriving DecidableEq, Repr

structure ActionResponse where
  actionId : String
  status : ActionStatus
  dataJson : Bytes
  error : String
  deriving DecidableEq, Repr

structure ActionRequestChunk where
  actionId : String
  seq : Nat
  chunk : Bytes
  final : Bool
  deriving DecidableEq, Repr

structure ActionResponseChunk where
  actionId : String
  seq : Nat
  chunk : Bytes
  deriving DecidableEq, Repr

structure ActionStreamAbort where
  actionId : String
  reason : String
  deriving DecidableEq, Repr

structure SessionClose where
  actionId : String
  reason : String
  deriving DecidableEq, Repr

/-- What `plugin_lifecycle_payload` renders as JSON. -/
structure LifecycleInfo where
  pluginId : String
  deviceId : String
  os : DeviceOs
  capabilities : List String
  actionSpecs : List ActionSpec
  deriving DecidableEq, Repr

inductive EventPayload
  | json (bytes : Bytes)
  | lifecycle (info : LifecycleInfo)
  deriving DecidableEq, Repr

structure Event where
  eventId : String
  eventType : String
  payload : EventPayload
  retryCount : Nat
  deriving DecidableEq, Repr

structure KernelCommand where
  commandId : String
  command : String
  paramsJson : Bytes
  deriving DecidableEq, Repr

structure KernelCommandAck where
  commandId : String
  status : CommandStatus
  dataJson : Bytes
  error : String
  deriving DecidableEq, Repr

/-- The envelope's oneof. `unhandled` stands for the arms the kernel has no case
for (audio chunks, shutdown notices) and for an absent payload. -/
inductive Payload
  | pluginRegister (register : PluginRegister)
  | pluginRegisterAck (ack : PluginRegisterAck)
  | ping (timestamp : Nat)
  | pong (originalTimestamp serverTimestamp : Nat)
  | subscribe (eventTypes : List String)
  | unsubscribe (eventTypes : List String)
  | eventPublish (eventType : String) (payloadJson : Bytes)
  | eventPublishAck (eventId : String) (status : EventPublishStatus)
  | event (event : Event)
  | eventAck (eventId : String)
  | actionRequest (request : ActionRequest)
  | actionResponse (response : ActionResponse)
  | actionRequestChunk (chunk : ActionRequestChunk)
  | actionResponseChunk (chunk : ActionResponseChunk)
  | actionStreamAbort (abort : ActionStreamAbort)
  | sessionClose (close : SessionClose)
  | kernelCommand (command : KernelCommand)
  | kernelCommandAck (ack : KernelCommandAck)
  | error (code : ErrorCode) (message : String)
  | unhandled
  deriving DecidableEq, Repr

/-- `build_outbound` also stamps sender, time and, if it is empty, a trace id. -/
structure Envelope where
  messageId : String := ""
  payload : Payload
  deriving DecidableEq, Repr

inductive FramePayload
  | envelope (envelope : Envelope) (bytes : Bytes := [])
  | raw (bytes : Bytes)
  deriving DecidableEq, Repr

namespace FramePayload

def decode : FramePayload → Option Envelope
  | .envelope decoded _ => some decoded
  | .raw _ => none

def bytes : FramePayload → Bytes
  | .envelope _ bytes => bytes
  | .raw bytes => bytes

def ofBytes (decode : Bytes → Option Envelope) (bytes : Bytes) : FramePayload :=
  match decode bytes with
  | some decoded => .envelope decoded bytes
  | none => .raw bytes

@[simp] theorem bytes_ofBytes (decode : Bytes → Option Envelope) (bytes : Bytes) :
    (ofBytes decode bytes).bytes = bytes := by
  unfold ofBytes
  split <;> rfl

end FramePayload

def flagMacPresent : BitVec 16 := 0x0001

def flagFragmented : BitVec 16 := 0x0004

def flagRawBinary : BitVec 16 := 0x0010

/-- `targetBytes` is the header field and `target` what `target_as_str` reads in it,
`none` if that is not UTF-8. -/
structure Frame where
  magic : BitVec 16 := 0x5652
  flags : BitVec 16 := 0
  length : Nat := 0
  target : Option String
  targetBytes : Bytes := []
  crc32 : BitVec 32 := 0
  payload : FramePayload
  mac : Option Bytes := none
  deriving DecidableEq, Repr

/-- The frame handed on: the recipient's write loop adds its own tag. -/
def Frame.stripMac (frame : Frame) : Frame :=
  { frame with flags := frame.flags &&& ~~~flagMacPresent, mac := none }

/-- Input key material of `derive_session_key`, which itself stays symbolic. -/
inductive KeyMaterial
  | device (secret : String)
  | master
  | plugin (pluginId : String)
  deriving DecidableEq, Repr

structure SessionKey where
  material : KeyMaterial
  nonce : Bytes
  pluginId : String
  deriving DecidableEq, Repr

inductive Outbound
  | envelope (envelope : Envelope)
  | frame (frame : Frame)
  | enableMac (key : SessionKey)
  deriving DecidableEq, Repr

/-- One attempt to put an item on a channel. `about` is a history variable: the
serial number of the pending action for which the kernel sends. -/
structure Send where
  tx : Tx
  item : Outbound
  about : Option Nat := none
  deriving DecidableEq, Repr

def sendEnvelope (tx : Tx) (envelope : Envelope) (about : Option Nat := none) : Send :=
  ⟨tx, .envelope envelope, about⟩

def sendError (tx : Tx) (code : ErrorCode) (message : String) : Send :=
  sendEnvelope tx { payload := .error code message }

def sendRegisterReject (tx : Tx) (reason : String) : Send :=
  sendEnvelope tx { payload := .pluginRegisterAck ⟨false, reason, [], []⟩ }

structure IncomingMessage where
  connId : ConnId
  frame : Frame
  writeTx : Tx
  /-- Address of the payload allocation, which a re-injected copy shares. -/
  frameAddr : Nat := 0
  deriving DecidableEq, Repr

end Vynkor
