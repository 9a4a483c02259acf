import Vynkor.Bridge
import Vynkor.Connection
import Vynkor.System

/-! The kernel with its connections: read loops that hand frames to the router, and
write loops that empty the channels the router fills. A connection is named by its
write channel. -/

namespace Vynkor
open Lib

inductive Transport
  | unix (limits : ReadLimits)
  | webSocket
  | bridge (bridge : Bridge)

structure Link where
  connId : ConnId
  transport : Transport

inductive WriteResult
  | ok | tooLarge | failed
  deriving DecidableEq, Repr

/-- What a write loop has done; a written frame is listed with the key armed then. -/
inductive WriteEvent
  | wrote (item : Outbound) (frame : Frame) (key : Option SessionKey)
  | armed (key : SessionKey)
  deriving DecidableEq, Repr

/-- The loops of one connection: `key` tags outbound frames and `cell` is the
`SessionKeyCell` of the inbound check. `log` is a history variable. -/
structure Conn where
  reader : Reader := {}
  parseErrors : Nat := 0
  key : Option SessionKey := none
  cell : Option SessionKey := none
  stopped : Bool := false
  log : List WriteEvent := []

def maxWsParseErrors : Nat := 16

/-- What a read loop does with one frame, or with a failed read. -/
structure Reading where
  conn : Conn
  msg : Option IncomingMessage := none
  notice : Option ErrorCode := none

namespace Conn
variable (codec : Codec) (conn : Conn)

def finish (reason : ReadEnd) : Conn := { conn with reader := { conn.reader with ended := some reason } }

def readUnix (limits : ReadLimits) (connId : ConnId) (tx : Tx) (arrival : Arrival) (frameAddr : Nat) : Reading :=
  let reader := conn.reader.step codec limits arrival
  { conn := { conn with reader }
    msg := (conn.reader.emits codec limits arrival).map fun dispatch => ⟨connId, dispatch.frame, tx, frameAddr⟩
    -- the peer is told why its frame is refused
    notice := match reader.ended with
      | some .macInvalid => some .errMacInvalid
      | some .macMissing => some .errMacMissing
      | _ => none }

def parseFailure : Conn :=
  let counted := { conn with parseErrors := conn.parseErrors + 1 }
  if counted.parseErrors ≥ maxWsParseErrors then counted.finish .readFailed else counted

def readSocket (connId : ConnId) (tx : Tx) (frame : Frame) (frameAddr : Nat) : Reading :=
  match parseFrame frame with
  | none => { conn := conn.parseFailure }
  | some frame =>
    if conn.cell.any fun key => !codec.verified key frame then { conn := conn.finish .macInvalid }
    else { conn, msg := some ⟨connId, frame, tx, frameAddr⟩ }

def readBridge (bridge : Bridge) (frame : Frame) (frameAddr : Nat) : Reading :=
  match bridge.readFrame codec frame frameAddr with
  | none => { conn := conn.finish .readFailed }
  | some msg => { conn, msg := some msg }

def read (link : Link) (tx : Tx) (frame : Option Frame) (frameAddr : Nat) (now opened : Instant) : Reading :=
  if conn.reader.ended.isSome then { conn }
  else
    match link.transport, frame with
    | .unix limits, some frame => conn.readUnix codec limits link.connId tx ⟨frame, conn.cell, now, opened⟩ frameAddr
    | .webSocket, some frame => conn.readSocket codec link.connId tx frame frameAddr
    | .bridge bridge, some frame => conn.readBridge codec bridge frame frameAddr
    | .webSocket, none => { conn := conn.parseFailure }
    | _, none => { conn := conn.finish .readFailed }

end Conn

/-- An envelope was encoded and framed when it was sent, with the target its sender
chose. -/
def Outbound.built (codec : Codec) (stamp : Stamp) : Outbound → Option Frame
  | .envelope sent => some (codec.buildFrame stamp.target 0 (codec.encode stamp sent))
  | .frame passed => some passed
  | .enableMac _ => none

namespace Conn
variable (codec : Codec) (conn : Conn)

def armedKey : Transport → Option SessionKey
  | .bridge bridge => bridge.key
  | _ => conn.key

/-- The frame as it goes to the socket. -/
def outgoing (transport : Transport) (frame : Frame) : Frame :=
  match transport with
  | .bridge bridge => bridge.writeFrame codec frame
  | _ => codec.tag conn.key frame

def arm (transport : Transport) (key : SessionKey) : Conn :=
  match transport with
  | .bridge _ => conn
  | _ => { conn with key := some key, cell := some key, log := conn.log ++ [.armed key] }

/-- Only `write_frame_raw` drops a frame that is too large and goes on. -/
def writeOne (transport : Transport) (stamp : Stamp) (item : Outbound) (result : WriteResult) : Conn :=
  match item with
  | .enableMac key => conn.arm transport key
  | .envelope _ | .frame _ =>
    match item.built codec stamp, result, transport with
    | none, _, _ => conn
    | some _, .tooLarge, .unix _ => conn
    | some frame, .ok, _ =>
      { conn with log := conn.log ++ [.wrote item (conn.outgoing codec transport frame) (conn.armedKey transport)] }
    | _, _, _ => { conn with stopped := true }

end Conn

/-- The bytes of a frame on the socket. On a Unix socket `write_frame_raw` emits the
header, the payload and the tag of the frame it is given. -/
def emitted (codec : Codec) (transport : Transport) (frame : Frame) : Bytes :=
  match transport with
  | .unix _ => codec.serializeHeader frame ++ frame.bytes ++ frame.mac.getD []
  | _ => frameToBytes frame

/-- `arrived` is a history variable: what the read loops have handed to the router. -/
structure Node where
  system : System := {}
  conns : Tx → Conn := fun _ => {}
  arrived : List IncomingMessage := []

/-- A step of the kernel, a notice of another task, a read, a write, or the
registration frame that opens a connection to the host. -/
inductive NodeInput
  | kernel (input : Input)
  | post (tx : Tx) (envelope : Envelope) (awaited : Bool)
  | read (tx : Tx) (frame : Option Frame) (frameAddr : Nat) (now opened : Instant)
  | write (tx : Tx) (stamp : Stamp) (result : WriteResult)
  | register (tx : Tx) (stamp : Stamp) (envelope : Envelope)

namespace Node
variable (config : Config) (codec : Codec) (links : Tx → Link)

def setConn (node : Node) (tx : Tx) (conn : Conn) : Node := { node with conns := Function.update node.conns tx conn }

def post (node : Node) (tx : Tx) (envelope : Envelope) (awaited : Bool) : Node :=
  let chan := node.system.chans tx
  let filled := if awaited then chan.send (.envelope envelope) else chan.trySend (.envelope envelope)
  { node with system := { node.system with chans := Function.update node.system.chans tx filled } }

def read (node : Node) (tx : Tx) (frame : Option Frame) (frameAddr : Nat) (now opened : Instant) : Node :=
  let reading := (node.conns tx).read codec (links tx) tx frame frameAddr now opened
  let after := { node with arrived := node.arrived ++ reading.msg.toList }.setConn tx reading.conn
  match reading.notice with
  | none => after
  | some code => after.post tx { payload := .error code "" } true

def write (node : Node) (tx : Tx) (stamp : Stamp) (result : WriteResult) : Node :=
  match (node.system.chans tx).queue with
  | [] => node
  | item :: _ =>
    if (node.conns tx).stopped then node
    else { node with system := node.system.step config (.receive tx) }.setConn tx
      ((node.conns tx).writeOne codec (links tx).transport stamp item result)

/-- Written before there is a session key. -/
def register (node : Node) (tx : Tx) (stamp : Stamp) (envelope : Envelope) : Node :=
  match (links tx).transport with
  | .bridge _ =>
    let frame := codec.buildFrame "kernel" 0 (codec.encode stamp envelope)
    let conn := node.conns tx
    node.setConn tx { conn with log := conn.log ++ [.wrote (.envelope envelope) frame none] }
  | _ => node

/-- The channels are emptied by the write loops only. -/
def step (node : Node) : NodeInput → Node
  | .kernel (.receive _) => node
  | .kernel input => { node with system := node.system.step config input }
  | .post tx envelope awaited => node.post tx envelope awaited
  | .read tx frame frameAddr now opened => node.read codec links tx frame frameAddr now opened
  | .write tx stamp result => node.write config codec links tx stamp result
  | .register tx stamp envelope => node.register codec links tx stamp envelope

def machine : Machine Node NodeInput := ⟨{}, step config codec links⟩

end Node
end Vynkor
