import Vynkor.Bridge
import Vynkor.Bridge.Transport

/-! The bridge task of a client kernel: it dials its host, registers there, hands what
verifies to the local router and starts over after a pause that grows. The router and the
embedder read its handle at any moment, and other tasks use the registry, so whatever they
can see changes in a step of its own. -/

namespace Vynkor
open Lib

inductive TransportKind
  | direct
  | relay
  deriving DecidableEq, Repr

def TransportConfig.kind : TransportConfig → TransportKind
  | direct _ _ => .direct
  | relay _ _ => .relay

inductive BridgeFailure
  | unreachable | noRoute | timeout | tls | auth | protocol | unsupported
  deriving DecidableEq, Repr

inductive BridgeStatus
  | disabled
  | connecting (transport : TransportKind)
  | connected (transport : TransportKind)
  | failed (kind : BridgeFailure) (detail : String) (retryIn : Nat)
  deriving DecidableEq, Repr

def BridgeStatus.isConnected : BridgeStatus → Bool
  | connected _ => true
  | _ => false

/-- How a whole cycle fails: while dialling, or later in its session. -/
inductive SessionError
  | dialling (error : BridgeError)
  | register (reason : String)
  | rejected (reason : String)
  | wire (reason : String)
  | mac
  | disconnected
  | shutdown
  deriving DecidableEq, Repr

def BridgeError.display : BridgeError → String
  | connect reason | io _ reason => "connect: " ++ reason
  | tls reason => "tls: " ++ reason
  | http code => "connect: http status " ++ toString code.toNat
  | timeout => "timed out"
  | unsupported reason => reason
  | wire reason => "wire: internal error: " ++ reason

def SessionError.display : SessionError → String
  | dialling error => error.display
  | register reason => "registration rejected: " ++ reason
  | rejected reason => "host rejected the session: " ++ reason
  | wire reason => "wire: " ++ reason
  | mac => "frame MAC verification failed"
  | disconnected => "disconnected"
  | shutdown => "shutdown"

def classify : SessionError → BridgeFailure
  | .dialling (.io kind _) =>
    if kind = "HostUnreachable" ∨ kind = "NetworkUnreachable" then .noRoute
    else if kind = "TimedOut" then .timeout
    else .unreachable
  | .dialling .timeout => .timeout
  | .dialling (.connect _) => .unreachable
  | .dialling (.tls _) => .tls
  | .dialling (.http code) => if code = 401 ∨ code = 403 then .auth else .protocol
  | .register _ | .rejected _ | .mac => .auth
  | .dialling (.wire _) | .wire _ | .disconnected | .shutdown => .protocol
  | .dialling (.unsupported _) => .unsupported

/-- Close code of the gateway for a frame whose tag is wrong. -/
def closeMacInvalid : Nat := 4401

def closed : Option (Nat × String) → SessionError
  | some (code, reason) => if code = closeMacInvalid then .rejected reason else .disconnected
  | none => .disconnected

/-- What reading the web socket gives: a message, its end, or nothing for three keepalive
intervals. A binary message comes as the wire crate reads it. -/
inductive WsEvent
  | binary (frame : Except String Frame)
  | close (reason : Option (Nat × String))
  | other
  | failure (error : BridgeError)
  | ended
  | silence

/-- One turn of `next_binary`, and of the head of `read_loop`: `none` reads on. -/
def WsEvent.frame : WsEvent → Except SessionError (Option Frame)
  | binary (.ok frame) =>
    match parseFrame frame with
    | some frame => .ok (some frame)
    | none => .error (.wire "internal error: fragmented inbound frames not supported over WebSocket")
  | binary (.error reason) => .error (.wire reason)
  | close reason => .error (closed reason)
  | other => .ok none
  | failure error => .error (.dialling error)
  | ended => .error .disconnected
  | silence => .error (.dialling .timeout)

/-- The bridge's configuration with what only a session reads. -/
structure SessionConfig where
  bridge : BridgeConfig
  deviceId : String
  secret : Option String := none

namespace SessionConfig
variable (config : SessionConfig)

/-- The registration sent to the host: one for the device and all it mirrors. -/
def register : PluginRegister where
  pluginId := config.deviceId
  manifest := some { permissions := ["PERMISSION_IPC_SEND", "PERMISSION_EVENT_PUBLISH"] }
  jwtToken := config.bridge.token.getD ""
  deviceId := config.deviceId
  capabilities := config.bridge.mirror

def sessionKey (nonce : Bytes) : Option SessionKey :=
  match config.secret with
  | some secret => if nonce.isEmpty then none else some ⟨.device secret, nonce, config.deviceId⟩
  | none => none

/-- What a frame before the ack means; `none` waits on. A host leaves `details` empty. -/
def reply (frame : Frame) : Except SessionError (Option (Option SessionKey)) :=
  match frame.payload.decode with
  | none => .error (.wire "internal error: decode register ack")
  | some envelope =>
    match envelope.payload with
    | .pluginRegisterAck ack =>
      if ack.accepted then .ok (some (config.sessionKey ack.sessionNonce)) else .error (.register ack.rejectReason)
    | .error _ message => .error (.register (message ++ ": "))
    | _ => .ok none

/-- The local entry is a routing proxy: it declares no action. -/
def localManifest : PluginManifest where
  ipcTargets := config.bridge.mirror
  permissions := ["PERMISSION_IPC_SEND"]

def deviceMeta : DeviceMeta where
  deviceId := config.deviceId
  userId := "default"
  capabilities := config.bridge.mirror

end SessionConfig

/-- A session whose registration the host accepted. `pending` is the status that the first
frame to verify will publish. -/
structure Session where
  transport : TransportKind
  hostTx : Tx
  key : Option SessionKey
  pending : Bool := true
  deriving DecidableEq, Repr

/-- The whole check of a host frame: without a key there is nothing to verify. -/
def Session.admits (codec : Codec) (session : Session) (frame : Frame) : Bool :=
  session.key.all fun key => codec.verified key frame

inductive BridgeStage
  | dialing (transport : TransportConfig) (rest : List TransportConfig)
  | greeting (transport : TransportKind)
  | registering (transport : TransportKind)
  | opening (session : Session)
  | relaying (session : Session)
  | unregistering (session : Session) (error : SessionError)
  | forgetting (session : Session) (error : SessionError)
  | reporting (result : Except SessionError Unit)
  | sleeping
  | stopped

/-- The task with what it shares. `published` lists the statuses of the watch channel, the
current one first; `sessions` numbers the channels to the host. -/
structure BridgeTask where
  stage : BridgeStage := .stopped
  backoff : Nat := secs 1
  conns : List Tx := []
  published : List BridgeStatus := []
  registry : Registry := {}
  sessions : Nat := 0
  routerClosed : Bool := false
  routed : List IncomingMessage := []

inductive BridgeInput
  | dialled (result : Except BridgeError Unit)
  | greeted (result : Except BridgeError Unit)
  | arrives (event : WsEvent) (clock : Clock) (frameAddr : Nat)
  | goOn (shuffle : Shuffle String)
  | call (call : Registry.Call)
  | closeRouter

def bridgeMaxBackoff : Nat := secs 30

namespace BridgeTask
variable (codec : Codec) (config : SessionConfig) (task : BridgeTask)

def status : BridgeStatus := task.published.headD .disabled

def publish (status : BridgeStatus) : BridgeTask := { task with published := status :: task.published }

/-- `one_cycle` tries the transports in turn and keeps the error of the last one. -/
def dialNext (lastError : Option BridgeError) : List TransportConfig → BridgeTask
  | [] => { task with stage := .reporting (.error (.dialling (lastError.getD (.connect "no transports configured")))) }
  | transport :: rest => { task.publish (.connecting transport.kind) with stage := .dialing transport rest }

def oneCycle : BridgeTask := task.dialNext none config.bridge.effectiveTransports

def dialled (transport : TransportConfig) (rest : List TransportConfig) : Except BridgeError Unit → BridgeTask
  | .ok () => { task with stage := .greeting transport.kind }
  | .error error => task.dialNext (some error) rest

def greeted (transport : TransportKind) : Except BridgeError Unit → BridgeTask
  | .ok () => { task with stage := .registering transport }
  | .error error => { task with stage := .reporting (.error (.dialling error)) }

/-- The ack gives the session its key, and the device its entry in the local registry. -/
def openSession (transport : TransportKind) (key : Option SessionKey) (clock : Clock) : BridgeTask :=
  let hostTx := task.sessions
  match task.registry.registerWithDevice clock config.deviceId bridgeConnIdBase config.localManifest hostTx
    config.deviceMeta with
  | (registry, .ok ()) =>
    { task with registry, sessions := hostTx + 1, stage := .opening ⟨transport, hostTx, key, true⟩ }
  | (registry, .error error) =>
    { task with registry, sessions := hostTx + 1, stage := .reporting (.error (.register error.display)) }

def awaitAck (transport : TransportKind) (event : WsEvent) (clock : Clock) : BridgeTask :=
  match event.frame with
  | .error error => { task with stage := .reporting (.error error) }
  | .ok none => task
  | .ok (some frame) =>
    match config.reply frame with
    | .error error => { task with stage := .reporting (.error error) }
    | .ok none => task
    | .ok (some key) => task.openSession config transport key clock

def leave (session : Session) (error : SessionError) : BridgeTask :=
  { task with stage := .unregistering session error }

/-- `Connected` is published by the first frame that verifies, before the frame is routed. -/
def confirm (session : Session) : BridgeTask :=
  if session.pending then task.publish (.connected session.transport) else task

/-- One turn of `read_loop`. -/
def readLoop (session : Session) (event : WsEvent) (frameAddr : Nat) : BridgeTask :=
  match event.frame with
  | .error error => task.leave session error
  | .ok none => task
  | .ok (some frame) =>
    if !session.admits codec frame then task.leave session .mac
    else
      let confirmed := task.confirm session
      let session := { session with pending := false }
      if task.routerClosed then confirmed.leave session .shutdown
      else
        let bridge : Bridge := ⟨config.deviceId, session.hostTx, session.key⟩
        { confirmed with
          stage := .relaying session
          routed := task.routed ++ [bridge.hostMessage codec frame frameAddr] }

/-- `run` after a cycle: a session that was connected starts the pauses anew. -/
def report (result : Except SessionError Unit) : BridgeTask :=
  let backoff := if task.status.isConnected then secs 1 else task.backoff
  match result with
  | .error .shutdown => { task with backoff, stage := .stopped }
  | .ok () =>
    { task.publish (.failed .protocol "host closed the connection" backoff) with backoff, stage := .sleeping }
  | .error error =>
    { task.publish (.failed (classify error) error.display backoff) with backoff, stage := .sleeping }

def goOn (shuffle : Shuffle String) : BridgeTask :=
  match task.stage with
  | .opening session => { task with conns := task.conns ++ [session.hostTx], stage := .relaying session }
  | .unregistering session error =>
    { task with
      registry := (task.registry.unregister shuffle config.deviceId).registry
      stage := .forgetting session error }
  | .forgetting session error =>
    { task with conns := task.conns.filter (· != session.hostTx), stage := .reporting (.error error) }
  | .reporting result => task.report result
  | .sleeping => { task with backoff := min (task.backoff * 2) bridgeMaxBackoff }.oneCycle config
  | _ => task

def step : BridgeInput → BridgeTask
  | .dialled result =>
    match task.stage with
    | .dialing transport rest => task.dialled transport rest result
    | _ => task
  | .greeted result =>
    match task.stage with
    | .greeting transport => task.greeted transport result
    | _ => task
  | .arrives event clock frameAddr =>
    match task.stage with
    | .registering transport => task.awaitAck config transport event clock
    | .relaying session => task.readLoop codec config session event frameAddr
    | _ => task
  | .goOn shuffle => task.goOn config shuffle
  | .call call => { task with registry := task.registry.apply call }
  | .closeRouter => { task with routerClosed := true }

def machine : Machine BridgeTask BridgeInput := ⟨({} : BridgeTask).oneCycle config, step codec config⟩

end BridgeTask
end Vynkor
