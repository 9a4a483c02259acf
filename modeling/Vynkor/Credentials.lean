import Vynkor.Lib.Machine
import Vynkor.Lib.Table
import Vynkor.Wire

/-! The two files of credentials: single-use pairing tickets, of which only the hash is kept,
and one row per paired device with its sealed secret. Times are unix seconds as the callers
read them. The JSON encoding is left out, and a missing or blank file has no rows. -/

namespace Vynkor
open Lib

inductive TicketRejection
  | unknown
  | alreadyUsed
  | expired
  deriving DecidableEq, Repr

inductive StoreError
  | io (message : String)
  | internal (message : String)
  | auth (message : String)
  | ticket (rejection : TicketRejection)
  deriving DecidableEq, Repr

def StoreError.display : StoreError → String
  | .io message => "io error: " ++ message
  | .internal message => "internal error: " ++ message
  | .auth message => "auth error: " ++ message
  | .ticket .unknown => "unknown pairing ticket"
  | .ticket .alreadyUsed => "pairing ticket already used"
  | .ticket .expired => "pairing ticket expired"

def saturatingAdd (left right : UInt64) : UInt64 :=
  if left.toNat + right.toNat < UInt64.size then left + right else UInt64.ofNat (UInt64.size - 1)

structure TicketRecord where
  ticketSha256 : String
  createdAt : UInt64
  expiresAt : UInt64
  usedAt : Option UInt64 := none
  name : Option String := none
  ws : String := ""
  deriving DecidableEq, Repr

structure IssuedTicket where
  ticket : String
  record : TicketRecord
  deriving DecidableEq, Repr

/-- Its state is the file, so a store that is opened again is the same store. -/
structure TicketStore where
  rows : List TicketRecord := []
  deriving DecidableEq, Repr

def ticketLen : Nat := 43

def staleRetentionSecs : UInt64 := 3600

def TicketRecord.isStale (record : TicketRecord) (now : UInt64) : Bool :=
  decide (saturatingAdd (max record.expiresAt (record.usedAt.getD 0)) staleRetentionSecs ≤ now)

def TicketRecord.markUsed (now : UInt64) (record : TicketRecord) : TicketRecord := { record with usedAt := some now }

namespace TicketStore

/-- `ticket` is what `random_ticket` has drawn and `hashTicket` its digest. -/
def issueAt (hashTicket : String → String) (disk : Disk StoreError) (store : TicketStore) (ticket : String)
    (now ttlSecs : UInt64) (name : Option String) (ws : String) : TicketStore × Except StoreError IssuedTicket :=
  let record : TicketRecord := {
    ticketSha256 := hashTicket ticket, createdAt := now, expiresAt := saturatingAdd now ttlSecs, name, ws }
  let call := disk.transact store.rows fun rows =>
    .ok (some (rows.filter (fun row => !row.isStale now) ++ [record]), IssuedTicket.mk ticket record)
  (⟨call.1⟩, call.2)

def consumeAt (hashTicket : String → String) (disk : Disk StoreError) (store : TicketStore) (ticket : String)
    (now : UInt64) : TicketStore × Except StoreError TicketRecord :=
  if ticket.utf8ByteSize ≠ ticketLen then (store, .error (.ticket .unknown))
  else
    let call := disk.transact store.rows fun rows =>
      match Table.find TicketRecord.ticketSha256 rows (hashTicket ticket) with
      | none => .error (.ticket .unknown)
      | some row =>
        if row.usedAt.isSome then .error (.ticket .alreadyUsed)
        else if row.expiresAt ≤ now then .error (.ticket .expired)
        else .ok (
          some (Table.update TicketRecord.ticketSha256 (hashTicket ticket) (TicketRecord.markUsed now) rows),
          row.markUsed now)
    (⟨call.1⟩, call.2)

def sweepExpired (disk : Disk StoreError) (store : TicketStore) (now : UInt64) : TicketStore × Except StoreError Nat :=
  let call := disk.transact store.rows fun rows =>
    let kept := rows.filter fun row => !row.isStale now
    let removed := rows.length - kept.length
    .ok (if 0 < removed then some kept else none, removed)
  (⟨call.1⟩, call.2)

end TicketStore

inductive TicketCall
  | issueAt (disk : Disk StoreError) (ticket : String) (now ttlSecs : UInt64) (name : Option String) (ws : String)
  | consumeAt (disk : Disk StoreError) (ticket : String) (now : UInt64)
  | sweepExpired (disk : Disk StoreError) (now : UInt64)
  | reopen
  deriving DecidableEq, Repr

/-- A call of `consume_at` that returned `Ok`. -/
structure Redemption where
  ticket : String
  now : UInt64
  record : TicketRecord
  deriving DecidableEq, Repr

/-- The store under a sequence of calls. What the calls returned is kept as history. -/
structure TicketDesk where
  store : TicketStore := {}
  issued : List IssuedTicket := []
  redeemed : List Redemption := []
  deriving DecidableEq, Repr

namespace TicketDesk

def step (hashTicket : String → String) (desk : TicketDesk) : TicketCall → TicketDesk
  | .issueAt disk ticket now ttlSecs name ws =>
    let call := desk.store.issueAt hashTicket disk ticket now ttlSecs name ws
    { desk with store := call.1, issued := desk.issued ++ call.2.toOption.toList }
  | .consumeAt disk ticket now =>
    let call := desk.store.consumeAt hashTicket disk ticket now
    { desk with
      store := call.1
      redeemed := desk.redeemed ++ (call.2.toOption.map fun record => ⟨ticket, now, record⟩).toList }
  | .sweepExpired disk now => { desk with store := (desk.store.sweepExpired disk now).1 }
  | .reopen => desk

def machine (hashTicket : String → String) : Machine TicketDesk TicketCall := ⟨{}, step hashTicket⟩

end TicketDesk

inductive DeviceStatus
  | active
  | revoked
  | expired
  deriving DecidableEq, Repr

structure DeviceRecord where
  deviceId : String
  name : String
  createdAt : UInt64
  expiresAt : UInt64
  revoked : Bool
  secretEnc : Bytes
  deriving DecidableEq, Repr

def DeviceRecord.status (record : DeviceRecord) (nowSecs : UInt64) : DeviceStatus :=
  if record.revoked then .revoked else if record.expiresAt ≤ nowSecs then .expired else .active

/-- Pairing again gives a new secret and lifetime and lifts a revocation. -/
def DeviceRecord.rotate (name : String) (now ttlSecs : UInt64) (enc : Bytes) (record : DeviceRecord) : DeviceRecord :=
  { record with name, createdAt := now, expiresAt := now + ttlSecs, revoked := false, secretEnc := enc }

def DeviceRecord.setRevoked (revoked : Bool) (record : DeviceRecord) : DeviceRecord := { record with revoked }

def nonceLen : Nat := 12

/-- AES-256-GCM under the key of the store. The ciphertext ends in a tag, so it is not empty. -/
structure Aead where
  encrypt : Bytes → String → Option Bytes
  decrypt : Bytes → Bytes → Option String
  decrypt_encrypt : ∀ {nonce message sealed}, encrypt nonce message = some sealed → decrypt nonce sealed = some message
  encrypt_length : ∀ {nonce message sealed}, encrypt nonce message = some sealed → 0 < sealed.length

structure SealNonce where
  bytes : Bytes
  length : bytes.length = nonceLen
  deriving DecidableEq, Repr

structure DeviceStore where
  rows : List DeviceRecord := []
  deriving DecidableEq, Repr

namespace DeviceStore

def sealSecret (aead : Aead) (nonce : SealNonce) (secretHex : String) : Except StoreError Bytes :=
  match aead.encrypt nonce.bytes secretHex with
  | none => .error (.auth "device store encryption failed")
  | some sealed => .ok (nonce.bytes ++ sealed)

def unsealSecret (aead : Aead) (enc : Bytes) : Except StoreError String :=
  if enc.length ≤ nonceLen then .error (.auth "corrupt device store entry")
  else
    match aead.decrypt (enc.take nonceLen) (enc.drop nonceLen) with
    | none => .error (.auth
        "device store decrypt failed — was jwt_secret rotated? re-pair devices (rm <data_dir>/devices.json)")
    | some secretHex => .ok secretHex

/-- Every row must be decryptable before any of them is used. -/
def checkRows (aead : Aead) : List DeviceRecord → Except StoreError Unit
  | [] => .ok ()
  | row :: rows =>
    match unsealSecret aead row.secretEnc with
    | .error error => .error error
    | .ok _ => checkRows aead rows

/-- `read_all`, and what the call makes of the rows. -/
def transact {α : Type} (aead : Aead) (disk : Disk StoreError) (store : DeviceStore)
    (body : List DeviceRecord → Except StoreError (Option (List DeviceRecord) × α)) : DeviceStore × Except StoreError α :=
  let call := disk.transact store.rows fun rows =>
    match checkRows aead rows with
    | .error error => .error error
    | .ok () => body rows
  (⟨call.1⟩, call.2)

/-- The sum of the clock and the lifetime wraps around, as it does in a release build. -/
def issue (aead : Aead) (disk : Disk StoreError) (store : DeviceStore) (nonce : SealNonce) (secretHex : String)
    (now : UInt64) (deviceId name : String) (ttlSecs : UInt64) : DeviceStore × Except StoreError String :=
  store.transact aead disk fun rows =>
    match sealSecret aead nonce secretHex with
    | .error error => .error error
    | .ok enc =>
      match Table.find DeviceRecord.deviceId rows deviceId with
      | some _ =>
        .ok (some (Table.update DeviceRecord.deviceId deviceId (DeviceRecord.rotate name now ttlSecs enc) rows), secretHex)
      | none => .ok (some (rows ++ [⟨deviceId, name, now, now + ttlSecs, false, enc⟩]), secretHex)

/-- `read_all` has unsealed every row, so the second unsealing does not fail. -/
def get (aead : Aead) (disk : Disk StoreError) (store : DeviceStore) (deviceId : String) :
    Except StoreError (Option (DeviceRecord × String)) :=
  (store.transact aead disk fun rows =>
    match Table.find DeviceRecord.deviceId rows deviceId with
    | none => .ok (none, none)
    | some row =>
      match unsealSecret aead row.secretEnc with
      | .error error => .error error
      | .ok secret => .ok (none, some (row, secret))).2

def setRevoked (aead : Aead) (disk : Disk StoreError) (store : DeviceStore) (deviceId : String) (revoked : Bool) :
    DeviceStore × Except StoreError Bool :=
  store.transact aead disk fun rows =>
    let changed := rows.any fun row => row.deviceId = deviceId
    .ok (
      if changed then some (Table.updateAll DeviceRecord.deviceId deviceId (DeviceRecord.setRevoked revoked) rows) else none,
      changed)

def remove (aead : Aead) (disk : Disk StoreError) (store : DeviceStore) (deviceId : String) :
    DeviceStore × Except StoreError Bool :=
  store.transact aead disk fun rows =>
    let kept := rows.filter fun row => row.deviceId ≠ deviceId
    if kept.length ≠ rows.length then .ok (some kept, true) else .ok (none, false)

def activeSecret (aead : Aead) (disk : Disk StoreError) (store : DeviceStore) (deviceId : String) (nowSecs : UInt64) :
    Except StoreError (Option String) :=
  match store.get aead disk deviceId with
  | .error error => .error error
  | .ok none => .ok none
  | .ok (some (row, secret)) =>
    match row.status nowSecs with
    | .active => .ok (some secret)
    | .revoked => .error (.auth ("device '" ++ deviceId ++ "' is revoked — re-pair to restore access"))
    | .expired => .error (.auth ("device '" ++ deviceId ++ "' credential expired — re-pair"))

end DeviceStore

inductive DeviceCall
  | issue (disk : Disk StoreError) (nonce : SealNonce) (secretHex : String) (now : UInt64) (deviceId name : String)
      (ttlSecs : UInt64)
  | setRevoked (disk : Disk StoreError) (deviceId : String) (revoked : Bool)
  | remove (disk : Disk StoreError) (deviceId : String)
  deriving DecidableEq, Repr

/-- A call that returned `Ok`, with the secret it returned. -/
inductive DeviceEvent
  | issued (deviceId secret : String) (now ttlSecs : UInt64)
  | revoked (deviceId : String) (revoked : Bool)
  | removed (deviceId : String)
  deriving DecidableEq, Repr

/-- The store under a sequence of calls, with the successful ones as history. -/
structure DeviceDesk where
  store : DeviceStore := {}
  done : List DeviceEvent := []
  deriving DecidableEq, Repr

namespace DeviceDesk

def step (aead : Aead) (desk : DeviceDesk) : DeviceCall → DeviceDesk
  | .issue disk nonce secretHex now deviceId name ttlSecs =>
    let call := desk.store.issue aead disk nonce secretHex now deviceId name ttlSecs
    ⟨call.1, desk.done ++ (call.2.toOption.map fun secret => .issued deviceId secret now ttlSecs).toList⟩
  | .setRevoked disk deviceId revoked =>
    let call := desk.store.setRevoked aead disk deviceId revoked
    ⟨call.1, desk.done ++ (call.2.toOption.map fun _ => .revoked deviceId revoked).toList⟩
  | .remove disk deviceId =>
    let call := desk.store.remove aead disk deviceId
    ⟨call.1, desk.done ++ (call.2.toOption.map fun _ => .removed deviceId).toList⟩

def machine (aead : Aead) : Machine DeviceDesk DeviceCall := ⟨{}, step aead⟩

end DeviceDesk
end Vynkor
