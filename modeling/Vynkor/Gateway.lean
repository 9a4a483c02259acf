import Vynkor.Credentials
import Vynkor.Router.Register

/-! The WebSocket gateway: upgrade requests, the connection slots they take, and the
connections they become, with the checks of a device's credential at the upgrade, at a
registration and from then on. What a connection reads and writes is not part of it. Time
passes by `advance` alone, and not past a recheck that is due. -/

namespace Vynkor
open Lib

/-- A point in time as both clocks show it, in nanoseconds since the epoch. -/
structure Moment where
  nanos : Nat
  fits : nanos / 1000000000 < UInt64.size
  deriving DecidableEq, Repr

def Moment.secs (moment : Moment) : UInt64 := UInt64.ofNat (moment.nanos / 1000000000)

def Moment.clock (moment : Moment) : Clock := ⟨moment.nanos, moment.nanos / 1000000⟩

def Moment.epoch : Moment := ⟨0, by decide⟩

/-- The router shares the validator and the store with the gateway. -/
structure WsConfig where
  router : Config := {}
  maxConnections : Nat := 1024
  registerTimeoutSecs : Nat := 10
  deviceRecheckSecs : Nat := 10

structure DeviceWatch where
  deviceId : String
  every : Nat
  deriving DecidableEq, Repr

/-- A watch and when its interval ticks next. -/
structure Recheck where
  watch : DeviceWatch
  due : Instant
  deriving DecidableEq, Repr

/-- `accepted` is a history variable: the devices of the registrations that were accepted on
the connection. -/
structure Socket where
  recheck : Option Recheck := none
  deadline : Option Instant := none
  registered : Bool := false
  accepted : List String := []
  deriving DecidableEq, Repr

/-- How far an upgrade request has come. -/
inductive WsStage
  | admitted (watch : Option DeviceWatch)
  /-- Counted, found to be past the cap, and not yet backed out. -/
  | refused
  /-- Accepted; the callback has not run. -/
  | upgrading (watch : Option DeviceWatch)
  | live (socket : Socket)
  deriving DecidableEq, Repr

/-- `requests` numbers the requests; `abandoned` counts, as history, the accepted ones whose
client went away before the upgrade finished. -/
structure Gateway where
  devices : DeviceStore := {}
  now : Moment := Moment.epoch
  openConns : Nat := 0
  conns : DashMap Nat WsStage := ∅
  requests : Nat := 0
  abandoned : Nat := 0

inductive GatewayInput
  | request (disk : Disk StoreError) (token : String)
  | reserve (conn : Nat)
  | backOut (conn : Nat)
  | upgraded (conn : Nat)
  | abandon (conn : Nat)
  /-- The router handles a `PluginRegister`; `enlisted` says whether its other checks pass. -/
  | register (conn : Nat) (disk : Disk StoreError) (register : PluginRegister) (enlisted : Bool)
  | enableMac (conn : Nat)
  | recheck (conn : Nat) (disk : Disk StoreError)
  | registerTimeout (conn : Nat)
  | close (conn : Nat)
  | devices (call : DeviceCall)
  | advance (moment : Moment)
  deriving DecidableEq

namespace Gateway

def activeSecret (aead : Aead) (gateway : Gateway) (disk : Disk StoreError) (deviceId : String) :
    Except StoreError (Option String) :=
  gateway.devices.activeSecret aead disk deviceId gateway.now.secs

def stillActive (aead : Aead) (gateway : Gateway) (disk : Disk StoreError) (deviceId : String) : Bool :=
  match gateway.activeSecret aead disk deviceId with
  | .ok (some _) => true
  | _ => false

/-- The checks of `ws_handler` before it takes a slot, and the watch it decides on. -/
def authorize (aead : Aead) (config : WsConfig) (gateway : Gateway) (disk : Disk StoreError) (token : String) :
    Except String (Option DeviceWatch) :=
  match config.router.jwtValidator with
  | none => .ok none
  | some validate =>
    match validate gateway.now.clock token with
    | .error _ => .error "unauthorized"
    | .ok claims =>
      if config.router.deviceStore then
        match gateway.activeSecret aead disk claims.sub with
        | .ok (some _) =>
          .ok (if 0 < config.deviceRecheckSecs then some ⟨claims.sub, secs config.deviceRecheckSecs⟩ else none)
        | .ok none => .ok none
        | .error _ => .error "unauthorized"
      else .ok none

def request (aead : Aead) (config : WsConfig) (gateway : Gateway) (disk : Disk StoreError) (token : String) : Gateway :=
  match gateway.authorize aead config disk token with
  | .error _ => gateway
  | .ok watch => { gateway with
      conns := gateway.conns.insert gateway.requests (.admitted watch)
      requests := gateway.requests + 1 }

/-- The slot is taken first and compared afterwards. -/
def reserve (config : WsConfig) (gateway : Gateway) (conn : Nat) : Gateway :=
  match gateway.conns.get conn with
  | some (.admitted watch) => { gateway with
      openConns := gateway.openConns + 1
      conns := gateway.conns.insert conn (if config.maxConnections ≤ gateway.openConns then .refused else .upgrading watch) }
  | _ => gateway

def backOut (gateway : Gateway) (conn : Nat) : Gateway :=
  match gateway.conns.get conn with
  | some .refused => { gateway with openConns := gateway.openConns - 1, conns := gateway.conns.remove conn }
  | _ => gateway

/-- `handle_socket` begins: the deadline of the registration and the first tick are set. -/
def opened (config : WsConfig) (gateway : Gateway) (watch : Option DeviceWatch) : Socket where
  recheck := watch.map fun watch => ⟨watch, gateway.now.nanos + watch.every⟩
  deadline := if config.router.jwtValidator.isSome && 0 < config.registerTimeoutSecs then
      some (gateway.now.nanos + secs config.registerTimeoutSecs)
    else none

def upgraded (config : WsConfig) (gateway : Gateway) (conn : Nat) : Gateway :=
  match gateway.conns.get conn with
  | some (.upgrading watch) => { gateway with conns := gateway.conns.insert conn (.live (gateway.opened config watch)) }
  | _ => gateway

/-- The callback never runs, so the slot is not given back. -/
def abandon (gateway : Gateway) (conn : Nat) : Gateway :=
  match gateway.conns.get conn with
  | some (.upgrading _) => { gateway with conns := gateway.conns.remove conn, abandoned := gateway.abandoned + 1 }
  | _ => gateway

/-- The loop of `handle_socket` ends, and the callback with it. -/
def release (gateway : Gateway) (conn : Nat) : Gateway :=
  { gateway with openConns := gateway.openConns - 1, conns := gateway.conns.remove conn }

def setSocket (gateway : Gateway) (conn : Nat) (socket : Socket) : Gateway :=
  { gateway with conns := gateway.conns.insert conn (.live socket) }

/-- The router's checks of the token and of the device's credential. -/
def accepts (aead : Aead) (config : WsConfig) (gateway : Gateway) (disk : Disk StoreError) (register : PluginRegister) :
    Bool :=
  let activeSecret := (gateway.activeSecret aead disk register.deviceId).mapError StoreError.display
  !isErr (authenticate config.router gateway.now.clock register (register.manifest.getD {})) &&
    !isErr (deviceSecret config.router { activeSecret } register)

def register (aead : Aead) (config : WsConfig) (gateway : Gateway) (conn : Nat) (disk : Disk StoreError)
    (register : PluginRegister) (enlisted : Bool) : Gateway :=
  match gateway.conns.get conn with
  | some (.live socket) =>
    if enlisted && gateway.accepts aead config disk register then
      gateway.setSocket conn { socket with accepted := socket.accepted ++ [register.deviceId] }
    else gateway
  | _ => gateway

def enableMac (gateway : Gateway) (conn : Nat) : Gateway :=
  match gateway.conns.get conn with
  | some (.live socket) => gateway.setSocket conn { socket with registered := true }
  | _ => gateway

def recheck (aead : Aead) (gateway : Gateway) (conn : Nat) (disk : Disk StoreError) : Gateway :=
  match gateway.conns.get conn with
  | some (.live socket) =>
    match socket.recheck with
    | some recheck =>
      if recheck.due ≤ gateway.now.nanos then
        if gateway.stillActive aead disk recheck.watch.deviceId then
          gateway.setSocket conn { socket with recheck := some ⟨recheck.watch, recheck.due + recheck.watch.every⟩ }
        else gateway.release conn
      else gateway
    | none => gateway
  | _ => gateway

def registerTimeout (gateway : Gateway) (conn : Nat) : Gateway :=
  match gateway.conns.get conn with
  | some (.live socket) =>
    if !socket.registered && socket.deadline.any fun deadline => deadline ≤ gateway.now.nanos then gateway.release conn
    else gateway
  | _ => gateway

/-- Any other way in which the loop ends: the client closes, an error, the router is gone. -/
def close (gateway : Gateway) (conn : Nat) : Gateway :=
  match gateway.conns.get conn with
  | some (.live _) => gateway.release conn
  | _ => gateway

/-- A live connection whose recheck is due before the moment. -/
def dueBefore (gateway : Gateway) (moment : Moment) : Bool :=
  gateway.conns.any fun
    | .live socket => socket.recheck.any fun recheck => recheck.due < moment.nanos
    | _ => false

def advance (gateway : Gateway) (moment : Moment) : Gateway :=
  if moment.nanos < gateway.now.nanos || gateway.dueBefore moment then gateway else { gateway with now := moment }

def step (aead : Aead) (config : WsConfig) (gateway : Gateway) : GatewayInput → Gateway
  | .request disk token => gateway.request aead config disk token
  | .reserve conn => gateway.reserve config conn
  | .backOut conn => gateway.backOut conn
  | .upgraded conn => gateway.upgraded config conn
  | .abandon conn => gateway.abandon conn
  | .register conn disk register enlisted => gateway.register aead config conn disk register enlisted
  | .enableMac conn => gateway.enableMac conn
  | .recheck conn disk => gateway.recheck aead conn disk
  | .registerTimeout conn => gateway.registerTimeout conn
  | .close conn => gateway.close conn
  | .devices call => { gateway with devices := (DeviceDesk.step aead ⟨gateway.devices, []⟩ call).store }
  | .advance moment => gateway.advance moment

def machine (aead : Aead) (config : WsConfig) : Machine Gateway GatewayInput := ⟨{}, step aead config⟩

end Gateway
end Vynkor
