import Vynkor.Framing
import Vynkor.Router.State

/-! The bridge of a client kernel to its host: what becomes of a host frame on its way
to the local router, and of a local frame on its way to the host. -/

namespace Vynkor
open Lib

/-- The gateway and the bridge take whole frames only. -/
def parseFrame (frame : Frame) : Option Frame := if frame.hasFlag flagFragmented then none else some frame

/-- Payloads for the kernel's own arms; everything else is device traffic. -/
def isKernelRouted (frame : Frame) : Bool :=
  match frame.payload.decode with
  | none => false
  | some envelope =>
    match envelope.payload with
    | .actionRequest _ | .actionRequestChunk _ | .actionResponse _ | .actionResponseChunk _ | .sessionClose _
    | .actionStreamAbort _ | .ping _ | .pong _ _ | .error _ _ | .eventPublishAck _ _ | .kernelCommandAck _
    | .eventAck _ | .pluginRegisterAck _ => true
    | _ => false

/-- A host frame names `<device>.<cap>`, the local plugin is the bare `<cap>`. -/
def stripDevicePrefix (frame : Frame) (deviceId : String) : String :=
  (frame.target.bind fun target => Text.stripPrefix target (deviceId ++ ".")).getD "kernel"

def localTarget (frame : Frame) (deviceId : String) : String :=
  if isKernelRouted frame then "kernel" else stripDevicePrefix frame deviceId

/-- One connection to the host, after its registration was accepted. -/
structure Bridge where
  deviceId : String
  hostTx : Tx
  key : Option SessionKey := none

namespace Bridge
variable (bridge : Bridge) (codec : Codec)

/-- What `read_loop` hands to the router for a frame that verified. -/
def hostMessage (frame : Frame) (frameAddr : Nat) : IncomingMessage where
  connId := bridgeConnIdBase
  frame := codec.retarget frame.stripMac (localTarget frame.stripMac bridge.deviceId)
  writeTx := bridge.hostTx
  frameAddr := frameAddr

/-- A frame that does not parse or verify ends the connection. -/
def readFrame (frame : Frame) (frameAddr : Nat) : Option IncomingMessage :=
  match parseFrame frame with
  | none => none
  | some frame =>
    if bridge.key.any fun key => !codec.verified key frame then none
    else some (bridge.hostMessage codec frame frameAddr)

/-- The host is addressed as `kernel`, where the local kernel wrote `client`. -/
def writeFrame (frame : Frame) : Frame :=
  codec.tag bridge.key (if frame.target = some "client" then codec.retarget frame "kernel" else frame)

end Bridge
end Vynkor
