import Vynkor.Bus
import Vynkor.Lib.Machine
import Vynkor.Lib.Table

/-! The event store and the worker that redelivers what was not acknowledged. Each call of
the store is atomic and succeeds; the worker's sweep is taken apart into the calls it makes,
so that publishes and acknowledgements come between any two of them. -/

namespace Vynkor
open Lib

inductive EventStatus
  | pending
  | delivered
  | dead
  deriving DecidableEq, Repr

/-- A row of the table `events`. The system clock counts seconds in an `i64`, so `created_at`
holds what it shows. -/
structure EventRow where
  eventId : String
  eventType : String
  payload : EventPayload
  status : EventStatus
  createdAt : Nat
  retryCount : Nat
  deriving DecidableEq, Repr

namespace EventRow

def isTerminal (row : EventRow) : Bool := row.status == .delivered || row.status == .dead

def markDelivered (row : EventRow) : EventRow := { row with status := .delivered }

/-- Both updates of `increment_retry_or_dead`; neither asks for the status. -/
def bump (maxRetries : UInt32) (row : EventRow) : EventRow :=
  { row with
    retryCount := row.retryCount + 1
    status := if maxRetries.toNat ≤ row.retryCount + 1 then .dead else row.status }

def toEvent (row : EventRow) : Event := ⟨row.eventId, row.eventType, row.payload, row.retryCount % UInt32.size⟩

def ofEvent (now : Nat) (event : Event) : EventRow := ⟨event.eventId, event.eventType, event.payload, .pending, now, 0⟩

/-- The row is at least that old when the clock shows `now`; the difference saturates. -/
def olderThan (now age : Nat) (row : EventRow) : Bool := decide (row.createdAt ≤ now - age)

@[simp] theorem markDelivered_eventId (row : EventRow) : row.markDelivered.eventId = row.eventId := rfl

@[simp] theorem bump_eventId (maxRetries : UInt32) (row : EventRow) : (row.bump maxRetries).eventId = row.eventId := rfl

end EventRow

/-- The table, whose primary key is `event_id`. -/
structure EventStore where
  rows : List EventRow := []
  unique : Table.Unique EventRow.eventId rows := by exact Table.Unique.empty _

namespace EventStore

def get (store : EventStore) (eventId : String) : Option EventRow := Table.find EventRow.eventId store.rows eventId

/-- `INSERT OR IGNORE`. -/
def persist (store : EventStore) (now : Nat) (event : Event) : EventStore :=
  if fresh : Table.find EventRow.eventId store.rows event.eventId = none then
    ⟨store.rows ++ [EventRow.ofEvent now event], store.unique.append fresh⟩
  else store

def markDelivered (store : EventStore) (eventId : String) : EventStore where
  rows := Table.updateAll EventRow.eventId eventId EventRow.markDelivered store.rows
  unique := store.unique.updateAll EventRow.markDelivered_eventId eventId

/-- The rows come in any order. -/
def pendingOlderThan (store : EventStore) (order : Shuffle EventRow) (now ageSecs : Nat) : List Event :=
  (order.order (store.rows.filter fun row => row.status == .pending && row.olderThan now ageSecs)).map EventRow.toEvent

def prune (store : EventStore) (now retentionSecs : Nat) : EventStore where
  rows := store.rows.filter fun row => !(row.isTerminal && row.olderThan now retentionSecs)
  unique := store.unique.filter _

def incrementRetryOrDead (store : EventStore) (eventId : String) (maxRetries : UInt32) : EventStore where
  rows := Table.updateAll EventRow.eventId eventId (EventRow.bump maxRetries) store.rows
  unique := store.unique.updateAll (EventRow.bump_eventId maxRetries) eventId

end EventStore

structure RetryConfig where
  maxRetries : UInt32 := 5
  retentionSecs : Nat := 3600

/-- Where the retry worker is in its loop. -/
inductive Sweep
  | asleep
  /-- Of the events that the scan found, `left` are still to be counted. -/
  | bumping (found left : List Event)
  | redelivering (left : List Event)
  deriving DecidableEq, Repr

/-- A call of `redeliver` and what it puts on the channels. -/
structure Redelivery where
  event : Event
  sends : List Send

/-- `scans` and `redelivered` are history variables: the times of the scans and the calls of
`redeliver`, in order. -/
structure Outbox where
  store : EventStore := {}
  sweep : Sweep := .asleep
  scans : List Nat := []
  redelivered : List Redelivery := []

/-- Each call that reads the clock carries what the clock shows; a redelivery finds the bus and
the registry in any state. -/
inductive OutboxInput
  | publish (now : Nat) (event : Event)
  | eventAck (eventId : String)
  | scan (now : Nat) (order : Shuffle EventRow)
  | bump
  | prune (now : Nat)
  | redeliver (shuffle : Shuffle String) (bus : EventBus) (registry : Registry)

namespace Outbox

def scan (outbox : Outbox) (now : Nat) (order : Shuffle EventRow) : Outbox :=
  match outbox.sweep with
  | .asleep =>
    let pending := outbox.store.pendingOlderThan order now 10
    { outbox with sweep := .bumping pending pending, scans := outbox.scans ++ [now] }
  | _ => outbox

def bump (config : RetryConfig) (outbox : Outbox) : Outbox :=
  match outbox.sweep with
  | .bumping found (event :: left) =>
    { outbox with
      store := outbox.store.incrementRetryOrDead event.eventId config.maxRetries
      sweep := .bumping found left }
  | _ => outbox

def prune (config : RetryConfig) (outbox : Outbox) (now : Nat) : Outbox :=
  match outbox.sweep with
  | .bumping found [] =>
    { outbox with store := outbox.store.prune now config.retentionSecs, sweep := .redelivering found }
  | _ => outbox

/-- The next event of the scan, as it was then; after the last one the worker sleeps again. -/
def redeliver (outbox : Outbox) (shuffle : Shuffle String) (bus : EventBus) (registry : Registry) : Outbox :=
  match outbox.sweep with
  | .redelivering [] => { outbox with sweep := .asleep }
  | .redelivering (event :: left) =>
    { outbox with
      sweep := .redelivering left
      redelivered := outbox.redelivered ++ [⟨event, bus.deliver shuffle event registry⟩] }
  | _ => outbox

def step (config : RetryConfig) (outbox : Outbox) : OutboxInput → Outbox
  | .publish now event => { outbox with store := outbox.store.persist now event }
  | .eventAck eventId => { outbox with store := outbox.store.markDelivered eventId }
  | .scan now order => outbox.scan now order
  | .bump => outbox.bump config
  | .prune now => outbox.prune config now
  | .redeliver shuffle bus registry => outbox.redeliver shuffle bus registry

def machine (config : RetryConfig) : Machine Outbox OutboxInput := ⟨{}, step config⟩

end Outbox
end Vynkor
