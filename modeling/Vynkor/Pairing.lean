import Vynkor.Credentials
import Vynkor.Lib.DashMap

/-! The ticket exchange: calls of `PairingService::consume` that run side by side, each taken
apart into the consumption of its ticket, the draws of an id with their lookups, the issue of
the credential and the rest. Tickets and devices are also changed by other calls. -/

namespace Vynkor
open Lib

structure PairingConfig where
  deviceTtlSecs : UInt64
  deriving DecidableEq, Repr

structure PairPayload where
  v : Nat := 2
  name : String
  hostUrl : String
  deviceId : String
  jwtToken : String
  deviceSecret : String
  certPem : Option String
  deriving DecidableEq, Repr

/-- A credential that `consume` has written. When, and whether the id had a row before, are
history. -/
structure Mint where
  deviceId : String
  secret : String
  issuedAt : UInt64
  hadRow : Bool
  deriving DecidableEq, Repr

/-- How far a call of `consume` has come. -/
inductive ConsumeStage
  | drawing (record : TicketRecord)
  /-- The lookup has found no row for the id. -/
  | drawn (record : TicketRecord) (deviceId : String)
  | minted (record : TicketRecord) (mint : Mint)
  deriving DecidableEq, Repr

/-- Who wrote a row: a call of `consume`, or an explicit call for the device. -/
inductive Author
  | consume (call : Nat)
  | explicit
  deriving DecidableEq, Repr

/-- A call of `consume` that returned `Ok`. -/
structure Paired where
  call : Nat
  mint : Mint
  payload : PairPayload
  deriving DecidableEq, Repr

/-- `calls` numbers the calls of `consume`; `log` and `paired` are history. -/
structure PairingService where
  tickets : TicketStore := {}
  devices : DeviceStore := {}
  consumers : DashMap Nat ConsumeStage := ∅
  calls : Nat := 0
  log : List (Author × DeviceEvent) := []
  paired : List Paired := []

inductive PairingInput
  | tickets (call : TicketCall)
  | consume (disk : Disk StoreError) (ticket : String) (now : UInt64)
  | draw (call : Nat) (disk : Disk StoreError) (deviceId : String)
  | issue (call : Nat) (disk : Disk StoreError) (nonce : SealNonce) (secretHex : String) (now : UInt64)
  | finish (call : Nat) (jwtToken : Except StoreError String) (certPem : Except StoreError (Option String))
  | devices (call : DeviceCall)

namespace PairingService

def consume (hashTicket : String → String) (service : PairingService) (disk : Disk StoreError) (ticket : String)
    (now : UInt64) : PairingService :=
  match service.tickets.consumeAt hashTicket disk ticket now with
  | (tickets, .error _) => { service with tickets }
  | (tickets, .ok record) => { service with
      tickets
      consumers := service.consumers.insert service.calls (.drawing record)
      calls := service.calls + 1 }

/-- One turn of the loop of `fresh_device_id`. -/
def draw (aead : Aead) (service : PairingService) (call : Nat) (disk : Disk StoreError) (deviceId : String) :
    PairingService :=
  match service.consumers.get call with
  | some (.drawing record) =>
    match service.devices.get aead disk deviceId with
    | .error _ => { service with consumers := service.consumers.remove call }
    | .ok (some _) => service
    | .ok none => { service with consumers := service.consumers.insert call (.drawn record deviceId) }
  | _ => service

def issue (aead : Aead) (config : PairingConfig) (service : PairingService) (call : Nat) (disk : Disk StoreError)
    (nonce : SealNonce) (secretHex : String) (now : UInt64) : PairingService :=
  match service.consumers.get call with
  | some (.drawn record deviceId) =>
    let hadRow := (Table.find DeviceRecord.deviceId service.devices.rows deviceId).isSome
    match service.devices.issue aead disk nonce secretHex now deviceId (record.name.getD deviceId)
        config.deviceTtlSecs with
    | (devices, .error _) => { service with devices, consumers := service.consumers.remove call }
    | (devices, .ok secret) => { service with
        devices
        consumers := service.consumers.insert call (.minted record ⟨deviceId, secret, now, hadRow⟩)
        log := service.log ++ [(.consume call, .issued deviceId secret now config.deviceTtlSecs)] }
  | _ => service

/-- The token is signed and the served certificate read; either may fail. -/
def finish (service : PairingService) (call : Nat) (jwtToken : Except StoreError String)
    (certPem : Except StoreError (Option String)) : PairingService :=
  match service.consumers.get call with
  | some (.minted record mint) =>
    match jwtToken, certPem with
    | .ok jwtToken, .ok certPem => { service with
        consumers := service.consumers.remove call
        paired := service.paired ++ [⟨call, mint, {
          name := record.name.getD mint.deviceId
          hostUrl := record.ws
          deviceId := mint.deviceId
          jwtToken
          deviceSecret := mint.secret
          certPem }⟩] }
    | _, _ => { service with consumers := service.consumers.remove call }
  | _ => service

def step (hashTicket : String → String) (aead : Aead) (config : PairingConfig) (service : PairingService) :
    PairingInput → PairingService
  | .tickets call => { service with tickets := (TicketDesk.step hashTicket ⟨service.tickets, [], []⟩ call).store }
  | .consume disk ticket now => service.consume hashTicket disk ticket now
  | .draw call disk deviceId => service.draw aead call disk deviceId
  | .issue call disk nonce secretHex now => service.issue aead config call disk nonce secretHex now
  | .finish call jwtToken certPem => service.finish call jwtToken certPem
  | .devices call =>
    let desk := DeviceDesk.step aead ⟨service.devices, []⟩ call
    { service with devices := desk.store, log := service.log ++ desk.done.map fun event => (.explicit, event) }

def machine (hashTicket : String → String) (aead : Aead) (config : PairingConfig) : Machine PairingService PairingInput :=
  ⟨{}, step hashTicket aead config⟩

end PairingService
end Vynkor
