import Mathlib.Data.List.Induction
import Vynkor.Proofs.DeliveredFinal

/-! Redeliveries of an event that is never acknowledged: one for each sweep whose scan finds it
old enough, up to the limit, after which it is dead. -/

namespace Vynkor
open Lib

namespace OutboxInput

def publishes (eventId : String) : OutboxInput → Bool
  | .publish _ event => event.eventId == eventId
  | _ => false

def acknowledges (eventId : String) : OutboxInput → Bool
  | .eventAck acked => acked == eventId
  | _ => false

end OutboxInput

/-- The first redeliveries of an event, each with the count of those before it. -/
def Event.copies (event : Event) (count : Nat) : List Event :=
  (List.range count).map fun retryCount => { event with retryCount }

private theorem Event.copies_succ (event : Event) (count : Nat) :
    event.copies (count + 1) = event.copies count ++ [{ event with retryCount := count }] := by
  unfold copies
  rw [List.range_succ, List.map_append]
  rfl

def Place.owed : Place → List Event
  | .idle => []
  | .toBump event | .toSend event => [event]

/-- The scans after the first `since` that find a row of that age at least ten seconds old; a
row of the clock's first second is always found. -/
def dueScans (created since : Nat) (scans : List Nat) : Nat :=
  (scans.drop since).countP fun scan => created + 10 ≤ scan ∨ created = 0

private theorem EventRow.olderThan_iff (now age : Nat) (row : EventRow) :
    row.olderThan now age = true ↔ row.createdAt + age ≤ now ∨ row.createdAt = 0 := by
  unfold olderThan
  rw [decide_eq_true_iff]
  omega

/-- The row after that many sweeps have counted: pending below the limit, and at the limit dead
or gone. -/
structure EventRow.Stands (limit : Nat) (event : Event) (created count : Nat) (row : Option EventRow) : Prop where
  pending : count < limit → row = some { ofEvent created event with retryCount := count }
  finished : limit ≤ count → row = none ∨ row = some { ofEvent created event with status := .dead, retryCount := limit }

namespace Track

/-- How far the event has come when `due` scans have found it old enough. -/
inductive Progress (limit : Nat) (event : Event) (created due : Nat) (track : Track) : Prop
  | rests (idle : track.place = .idle) (sent : track.sent = event.copies (min due limit))
      (row : EventRow.Stands limit event created (min due limit) track.row)
  | counts (few : due ≤ limit) (count : Nat) (next : due = count + 1)
      (place : track.place = .toBump { event with retryCount := count }) (sent : track.sent = event.copies count)
      (row : track.row = some { EventRow.ofEvent created event with retryCount := count })
  | goes (few : due ≤ limit) (count : Nat) (next : due = count + 1)
      (place : track.place = .toSend { event with retryCount := count }) (sent : track.sent = event.copies count)
      (row : EventRow.Stands limit event created due track.row)

structure Awaited (limit : Nat) (event : Event) (created since : Nat) (track : Track) : Prop where
  within : since ≤ track.scans.length
  progress : track.Progress limit event created (dueScans created since track.scans)

/-- Nothing is known of the id. -/
structure Unheard (track : Track) : Prop where
  row : track.row = none
  idle : track.place = .idle
  sent : track.sent = []

end Track

section
variable {config : RetryConfig} {event : Event} {track after : Track} {input : OutboxInput} {created since : Nat}

theorem Track.Unheard.step (unheard : track.Unheard) (turns : track.Turns config event.eventId input after)
    (unpublished : input.publishes event.eventId = false) : after.Unheard := by
  cases turns with
  | stays => exact unheard
  | stores now other mine absent => simp [OutboxInput.publishes, mine] at unpublished
  | acks row held | finds now order row idle held | prunes now row held => cases unheard.row.symm.trans held
  | passes now order idle undue => exact ⟨unheard.row, idle, unheard.sent⟩
  | bumps other place | sends shuffle bus registry other place => cases unheard.idle.symm.trans place

private theorem dueScans_append {scans : List Nat} (within : since ≤ scans.length) (now : Nat) :
    dueScans created since (scans ++ [now]) =
      dueScans created since scans + if created + 10 ≤ now ∨ created = 0 then 1 else 0 := by
  unfold dueScans
  rw [List.drop_append_of_le_length within, List.countP_append, List.countP_singleton]
  simp only [decide_eq_true_eq]

private theorem toEvent_pending {count : Nat} (few : count < max 1 config.maxRetries.toNat) :
    EventRow.toEvent { EventRow.ofEvent created event with retryCount := count } = { event with retryCount := count } := by
  have bounded : config.maxRetries.toNat < UInt32.size := config.maxRetries.toNat_lt
  have one : 1 < UInt32.size := by decide
  have fits : count < UInt32.size := by omega
  exact congrArg (Event.mk event.eventId event.eventType event.payload) (Nat.mod_eq_of_lt fits)

private theorem bump_stands {count : Nat} (few : count < max 1 config.maxRetries.toNat) :
    EventRow.Stands (max 1 config.maxRetries.toNat) event created (count + 1)
      (some (EventRow.bump config.maxRetries { EventRow.ofEvent created event with retryCount := count })) := by
  refine ⟨?_, ?_⟩
  · intro below
    have pending : ¬ config.maxRetries.toNat ≤ count + 1 := by omega
    exact congrArg some (congrArg (fun status => EventRow.mk _ _ _ status _ _) (if_neg pending))
  · intro reached
    have dead : config.maxRetries.toNat ≤ count + 1 := by omega
    have last : count + 1 = max 1 config.maxRetries.toNat := by omega
    right
    rw [← last]
    exact congrArg some (congrArg (fun status => EventRow.mk _ _ _ status _ _) (if_pos dead))

private theorem EventRow.Stands.not_terminal {limit count : Nat} {row : EventRow}
    (stands : EventRow.Stands limit event created count (some row)) (terminal : row.isTerminal = true) : limit ≤ count := by
  by_contra below
  cases stands.pending (Nat.lt_of_not_le below)
  cases terminal

private theorem EventRow.Stands.not_pending {limit count : Nat} {row : EventRow}
    (stands : EventRow.Stands limit event created count (some row)) (pending : row.status = .pending) : count < limit := by
  by_contra above
  rcases stands.finished (Nat.le_of_not_lt above) with gone | dead
  · cases gone
  · cases dead
    cases pending

theorem EventRow.Stands.gone {limit count : Nat} (reached : limit ≤ count) : EventRow.Stands limit event created count none :=
  ⟨fun below => absurd reached (Nat.not_le_of_lt below), fun _ => .inl rfl⟩

theorem Track.Progress.passes {due now : Nat}
    (progress : track.Progress (max 1 config.maxRetries.toNat) event created due) (idle : track.place = .idle)
    (undue : ∀ row, track.row = some row → row.status = .pending → row.olderThan now 10 = false) (scans : List Nat) :
    Track.Progress (max 1 config.maxRetries.toNat) event created (due + if created + 10 ≤ now ∨ created = 0 then 1 else 0)
      { track with scans } := by
  cases progress with
  | counts _ count next place | goes _ count next place => cases idle.symm.trans place
  | rests _ sent row =>
    have same : min (due + if created + 10 ≤ now ∨ created = 0 then 1 else 0) (max 1 config.maxRetries.toNat) =
        min due (max 1 config.maxRetries.toNat) := by
      by_cases below : min due (max 1 config.maxRetries.toNat) < max 1 config.maxRetries.toNat
      · have young := undue _ (row.pending below) rfl
        have notDue : ¬ (created + 10 ≤ now ∨ created = 0) := by
          intro due
          rw [(EventRow.olderThan_iff now 10 _).mpr due] at young
          cases young
        rw [if_neg notDue]
        rfl
      · omega
    refine .rests idle ?_ ?_
    · rw [same]
      exact sent
    · rw [same]
      exact row

theorem Track.Progress.finds {due now : Nat} {row : EventRow}
    (progress : track.Progress (max 1 config.maxRetries.toNat) event created due) (idle : track.place = .idle)
    (held : track.row = some row) (pending : row.status = .pending) (old : row.olderThan now 10 = true) (scans : List Nat) :
    Track.Progress (max 1 config.maxRetries.toNat) event created (due + if created + 10 ≤ now ∨ created = 0 then 1 else 0)
      { track with place := .toBump row.toEvent, scans } := by
  cases progress with
  | counts _ count next place | goes _ count next place => cases idle.symm.trans place
  | rests _ sent stands =>
    have below := (held ▸ stands).not_pending pending
    have same : min due (max 1 config.maxRetries.toNat) = due := by omega
    rw [same] at below sent stands
    cases held.symm.trans (stands.pending below)
    have isDue : created + 10 ≤ now ∨ created = 0 := (EventRow.olderThan_iff now 10 _).mp old
    rw [if_pos isDue]
    exact .counts below due rfl (congrArg Place.toBump (toEvent_pending below)) sent held

theorem Track.Awaited.step (awaited : track.Awaited (max 1 config.maxRetries.toNat) event created since)
    (turns : track.Turns config event.eventId input after) (unpublished : input.publishes event.eventId = false)
    (unacked : input.acknowledges event.eventId = false) :
    after.Awaited (max 1 config.maxRetries.toNat) event created since := by
  obtain ⟨within, progress⟩ := awaited
  have longer (now : Nat) : since ≤ (track.scans ++ [now]).length := by
    rw [List.length_append]
    exact Nat.le_add_right_of_le within
  cases turns with
  | stays => exact ⟨within, progress⟩
  | stores now other mine absent => simp [OutboxInput.publishes, mine] at unpublished
  | acks => simp [OutboxInput.acknowledges] at unacked
  | passes now order idle undue =>
    refine ⟨longer now, ?_⟩
    rw [dueScans_append within]
    exact progress.passes idle undue _
  | finds now order row idle held pending old =>
    refine ⟨longer now, ?_⟩
    rw [dueScans_append within]
    exact progress.finds idle held pending old _
  | bumps other place =>
    refine ⟨within, ?_⟩
    cases progress with
    | rests idle => cases idle.symm.trans place
    | goes _ count next sending => cases sending.symm.trans place
    | counts few count next counting sent row =>
      cases counting.symm.trans place
      refine .goes few count next rfl sent ?_
      have below : count < max 1 config.maxRetries.toNat := by omega
      change EventRow.Stands _ _ _ (dueScans created since track.scans) (track.row.map _)
      rw [row, next]
      exact bump_stands below
  | prunes now row held terminal old past =>
    refine ⟨within, ?_⟩
    cases progress with
    | counts _ count next place => exact absurd place (past _)
    | rests idle sent stands => exact .rests idle sent (.gone ((held ▸ stands).not_terminal terminal))
    | goes few count next place sent stands => exact .goes few count next place sent (.gone ((held ▸ stands).not_terminal terminal))
  | sends shuffle bus registry other place =>
    refine ⟨within, ?_⟩
    cases progress with
    | rests idle => cases idle.symm.trans place
    | counts _ count next counting => cases counting.symm.trans place
    | goes few count next sending sent stands =>
      cases sending.symm.trans place
      have all : min (dueScans created since track.scans) (max 1 config.maxRetries.toNat) = dueScans created since track.scans :=
        Nat.min_eq_left few
      refine .rests rfl ?_ ?_
      · rw [all, next, Event.copies_succ]
        exact congrArg (· ++ _) sent
      · rw [all]
        exact stands

theorem Track.Progress.total {limit due : Nat} (progress : track.Progress limit event created due) :
    track.sent ++ track.place.owed = event.copies (min due limit) := by
  cases progress with
  | rests idle sent row => rw [idle, sent, Place.owed, List.append_nil]
  | counts few count next place sent row | goes few count next place sent row =>
    rw [place, sent, Place.owed, Nat.min_eq_left few, next, Event.copies_succ]

private theorem Track.Progress.stands {limit due : Nat} (progress : track.Progress limit event created due)
    (counted : ∀ other, track.place ≠ .toBump other) : EventRow.Stands limit event created (min due limit) track.row := by
  cases progress with
  | rests idle sent row => exact row
  | counts few count next place => exact absurd place (counted _)
  | goes few count next place sent row =>
    rw [Nat.min_eq_left few]
    exact row

end

namespace Outbox
variable {config : RetryConfig} {event : Event} {outbox : Outbox} {inputs : List OutboxInput} {created since : Nat}

private theorem run_unheard (unpublished : ∀ input ∈ inputs, input.publishes event.eventId = false) :
    (((machine config).run inputs).track event.eventId).Unheard := by
  induction inputs using List.reverseRecOn with
  | nil => exact ⟨rfl, rfl, rfl⟩
  | append_singleton inputs input ih =>
    rw [Machine.run_append]
    exact (ih fun earlier member => unpublished earlier (List.mem_append_left _ member)).step
      (step_turns config event.eventId (run_fine config inputs) input)
      (unpublished input (List.mem_append_right _ List.mem_cons_self))

private theorem runFrom_awaited (fine : outbox.sweep.Fine)
    (awaited : (outbox.track event.eventId).Awaited (max 1 config.maxRetries.toNat) event created since)
    (unpublished : ∀ input ∈ inputs, input.publishes event.eventId = false)
    (unacked : ∀ input ∈ inputs, input.acknowledges event.eventId = false) :
    (((machine config).runFrom outbox inputs).track event.eventId).Awaited (max 1 config.maxRetries.toNat) event created since := by
  induction inputs generalizing outbox with
  | nil => exact awaited
  | cons input inputs ih =>
    refine ih (step_fine config input fine) ?_ (fun later member => unpublished later (List.mem_cons_of_mem _ member))
      (fun later member => unacked later (List.mem_cons_of_mem _ member))
    exact awaited.step (step_turns config event.eventId fine input) (unpublished input List.mem_cons_self)
      (unacked input List.mem_cons_self)

end Outbox

private theorem Outbox.published_awaited {config : RetryConfig} {outbox : Outbox} {event : Event} (now : Nat)
    (unheard : (outbox.track event.eventId).Unheard) :
    ((outbox.step config (.publish now event)).track event.eventId).Awaited (max 1 config.maxRetries.toNat) event now
      outbox.scans.length := by
  have none_due : dueScans now outbox.scans.length outbox.scans = 0 := by
    unfold dueScans
    rw [List.drop_length]
    rfl
  have row : ((outbox.step config (.publish now event)).track event.eventId).row = some (EventRow.ofEvent now event) := by
    refine (EventStore.get_persist outbox.store now event event.eventId).trans ?_
    have absent : outbox.store.get event.eventId = none := unheard.row
    rw [if_pos rfl, absent, Option.none_or]
  refine ⟨Nat.le_refl _, ?_⟩
  change Track.Progress _ _ _ (dueScans now outbox.scans.length outbox.scans) _
  rw [none_due]
  refine .rests unheard.idle unheard.sent ?_
  rw [Nat.zero_min, row]
  refine ⟨fun _ => rfl, ?_⟩
  intro reached
  omega

/-- An event that is published once and never acknowledged is redelivered once for each scan
that finds it at least ten seconds old, with the counts `0, 1, 2, …`, up to `max 1 maxRetries`
times; its row is pending until the sweep of the last redelivery makes it dead. A sweep deletes
a row if and only if the row is terminal and at least as old as the retention time or from the
first second of the clock. -/
theorem redelivery_bounded (config : RetryConfig) (before after : List OutboxInput) (now : Nat) (event : Event)
    (unique : ∀ input ∈ before ++ after, input.publishes event.eventId = false)
    (unacked : ∀ input ∈ after, input.acknowledges event.eventId = false) :
    let outbox := (Outbox.machine config).run (before ++ .publish now event :: after)
    let due := dueScans now ((Outbox.machine config).run before).scans.length outbox.scans
    let limit := max 1 config.maxRetries.toNat
    outbox.redeliveries event.eventId ++ (outbox.sweep.place event.eventId).owed = event.copies (min due limit) ∧
      ((∀ found, outbox.sweep.place event.eventId ≠ .toBump found) →
        EventRow.Stands limit event now (min due limit) (outbox.store.get event.eventId)) ∧
      ∀ row ∈ outbox.store.rows, ∀ clock,
        (row ∉ (outbox.store.prune clock config.retentionSecs).rows ↔
          row.isTerminal = true ∧ (row.createdAt + config.retentionSecs ≤ clock ∨ row.createdAt = 0)) := by
  intro outbox due limit
  have fine := Outbox.run_fine config before
  have unheard : (((Outbox.machine config).run before).track event.eventId).Unheard :=
    Outbox.run_unheard fun input member => unique input (List.mem_append_left _ member)
  have awaited := Outbox.runFrom_awaited (Outbox.step_fine config (.publish now event) fine)
    (Outbox.published_awaited now unheard) (fun input member => unique input (List.mem_append_right _ member)) unacked
  have same : outbox = (Outbox.machine config).runFrom
      (((Outbox.machine config).run before).step config (.publish now event)) after := Machine.run_append _ _ _
  rw [← same] at awaited
  refine ⟨awaited.progress.total, awaited.progress.stands, ?_⟩
  intro row member clock
  change row ∉ List.filter _ _ ↔ _
  rw [List.mem_filter, ← EventRow.olderThan_iff]
  simp [member]

/-- Five sweeps: the first comes too early, the next two redeliver, the last one deletes. -/
def fiveSweeps : List OutboxInput := sweepOnce 105 ++ sweepOnce 110 ++ sweepOnce 115 ++ sweepOnce 120 ++ sweepOnce 4000

theorem redelivery_bounded_heartbeat :
    let outbox := (Outbox.machine { maxRetries := 2 }).run ([] ++ .publish 100 heartbeat :: fiveSweeps)
    outbox.redeliveries heartbeat.eventId = [heartbeat, { heartbeat with retryCount := 1 }] ∧
      outbox.store.get heartbeat.eventId = none := by
  intro outbox
  have bounded := redelivery_bounded { maxRetries := 2 } [] fiveSweeps 100 heartbeat (by decide +kernel) (by decide +kernel)
  have asleep : (outbox.sweep.place heartbeat.eventId).owed = [] := by decide +kernel
  have total := bounded.1
  rw [asleep, List.append_nil] at total
  exact ⟨total.trans (by decide +kernel), by decide +kernel⟩

/-- The clock shows its first second when the event is published: five seconds later the
acknowledged event is deleted, although it is to be kept for an hour. -/
theorem young_event_pruned :
    let inputs := [.publish 0 heartbeat, .eventAck heartbeat.eventId, .scan 5 (Shuffle.unchanged _)]
    (((Outbox.machine {}).run inputs).store.get heartbeat.eventId).map (fun row => (row.status, row.createdAt)) =
        some (.delivered, 0) ∧
      0 + ({} : RetryConfig).retentionSecs > 5 ∧
      ((Outbox.machine {}).run (inputs ++ [.prune 5])).store.get heartbeat.eventId = none := by
  decide +kernel

end Vynkor
