import Vynkor.Outbox

/-! The outbox as one event id sees it: its row, its place in the worker's sweep and its
redeliveries. Each step of the outbox is a step of this view. -/

namespace Vynkor
open Lib

namespace EventStore
variable (store : EventStore)

theorem get_persist (now : Nat) (event : Event) (eventId : String) :
    (store.persist now event).get eventId =
      if eventId = event.eventId then (store.get eventId).or (some (EventRow.ofEvent now event)) else store.get eventId := by
  unfold persist
  split
  next fresh =>
    unfold get
    rw [Table.find_append]
    by_cases mine : eventId = event.eventId
    · rw [if_pos mine, mine]
      exact congrArg _ (if_pos rfl)
    · rw [if_neg mine]
      have apart : (EventRow.ofEvent now event).eventId ≠ eventId := Ne.symm mine
      rw [if_neg apart, Option.or_none]
  next held =>
    split
    next mine =>
      obtain ⟨row, found⟩ := Option.ne_none_iff_exists'.mp held
      rw [mine]
      unfold get
      rw [found]
      rfl
    next => rfl

theorem get_markDelivered (wanted eventId : String) :
    (store.markDelivered wanted).get eventId =
      if eventId = wanted then (store.get wanted).map EventRow.markDelivered else store.get eventId :=
  Table.find_updateAll EventRow.markDelivered_eventId ..

theorem get_incrementRetryOrDead (wanted eventId : String) (maxRetries : UInt32) :
    (store.incrementRetryOrDead wanted maxRetries).get eventId =
      if eventId = wanted then (store.get wanted).map (EventRow.bump maxRetries) else store.get eventId :=
  Table.find_updateAll (EventRow.bump_eventId maxRetries) ..

theorem get_prune (now retentionSecs : Nat) (eventId : String) :
    (store.prune now retentionSecs).get eventId =
      (store.get eventId).filter fun row => !(row.isTerminal && row.olderThan now retentionSecs) :=
  store.unique.find_filter _ eventId

private theorem pendingOlderThan_unique (order : Shuffle EventRow) (now ageSecs : Nat) :
    Table.Unique Event.eventId (store.pendingOlderThan order now ageSecs) := by
  unfold Table.Unique pendingOlderThan
  rw [List.map_map]
  exact ((order.perm _).map EventRow.eventId).nodup_iff.mpr (store.unique.filter _)

private theorem find_pendingOlderThan (order : Shuffle EventRow) (now ageSecs : Nat) (eventId : String) :
    Table.find Event.eventId (store.pendingOlderThan order now ageSecs) eventId =
      ((store.get eventId).filter fun row => row.status == .pending && row.olderThan now ageSecs).map EventRow.toEvent := by
  have filtered := store.unique.filter fun row => row.status == .pending && row.olderThan now ageSecs
  unfold get
  rw [← store.unique.find_filter]
  cases found : Table.find EventRow.eventId
      (store.rows.filter fun row => row.status == .pending && row.olderThan now ageSecs) eventId with
  | none =>
    refine Table.find_none.mpr ?_
    intro event member
    obtain ⟨row, there, rfl⟩ := List.mem_map.mp member
    exact Table.find_none.mp found row ((order.perm _).mem_iff.mp there)
  | some row =>
    obtain ⟨there, rfl⟩ := Table.find_some found
    exact (store.pendingOlderThan_unique order now ageSecs).find_eq
      (List.mem_map_of_mem ((order.perm _).mem_iff.mpr there))

end EventStore

/-- What the sweep is still to do with an event. -/
inductive Place
  | idle
  | toBump (event : Event)
  | toSend (event : Event)
  deriving DecidableEq, Repr

def Place.sends : Option Event → Place
  | some event => .toSend event
  | none => .idle

def Place.counts (left found : Option Event) : Place :=
  match left with
  | some event => .toBump event
  | none => .sends found

namespace Sweep

def place (eventId : String) : Sweep → Place
  | .asleep => .idle
  | .bumping found left => .counts (Table.find Event.eventId left eventId) (Table.find Event.eventId found eventId)
  | .redelivering left => .sends (Table.find Event.eventId left eventId)

private theorem place_bumping (found left : List Event) (eventId : String) : (Sweep.bumping found left).place eventId =
    .counts (Table.find Event.eventId left eventId) (Table.find Event.eventId found eventId) := rfl

private theorem place_redelivering (left : List Event) (eventId : String) :
    (Sweep.redelivering left).place eventId = .sends (Table.find Event.eventId left eventId) := rfl

def Fine : Sweep → Prop
  | .asleep => True
  | .bumping found left => Table.Unique Event.eventId found ∧ left <:+ found
  | .redelivering left => Table.Unique Event.eventId left

end Sweep

structure Track where
  row : Option EventRow
  place : Place
  scans : List Nat
  sent : List Event

namespace Outbox

def redeliveries (outbox : Outbox) (eventId : String) : List Event :=
  (outbox.redelivered.map Redelivery.event).filter fun event => event.eventId = eventId

def track (outbox : Outbox) (eventId : String) : Track where
  row := outbox.store.get eventId
  place := outbox.sweep.place eventId
  scans := outbox.scans
  sent := outbox.redeliveries eventId

end Outbox

inductive Track.Turns (config : RetryConfig) (eventId : String) (track : Track) : OutboxInput → Track → Prop
  | stays (input : OutboxInput) : Turns config eventId track input track
  | stores (now : Nat) (event : Event) (mine : event.eventId = eventId) (absent : track.row = none) :
      Turns config eventId track (.publish now event) { track with row := some (EventRow.ofEvent now event) }
  | acks (row : EventRow) (held : track.row = some row) :
      Turns config eventId track (.eventAck eventId) { track with row := some row.markDelivered }
  | passes (now : Nat) (order : Shuffle EventRow) (idle : track.place = .idle)
      (undue : ∀ row, track.row = some row → row.status = .pending → row.olderThan now 10 = false) :
      Turns config eventId track (.scan now order) { track with scans := track.scans ++ [now] }
  | finds (now : Nat) (order : Shuffle EventRow) (row : EventRow) (idle : track.place = .idle)
      (held : track.row = some row) (pending : row.status = .pending) (due : row.olderThan now 10 = true) :
      Turns config eventId track (.scan now order)
        { track with place := .toBump row.toEvent, scans := track.scans ++ [now] }
  | bumps (event : Event) (place : track.place = .toBump event) :
      Turns config eventId track .bump
        { track with row := track.row.map (EventRow.bump config.maxRetries), place := .toSend event }
  | prunes (now : Nat) (row : EventRow) (held : track.row = some row) (terminal : row.isTerminal = true)
      (old : row.olderThan now config.retentionSecs = true) (past : ∀ event, track.place ≠ .toBump event) :
      Turns config eventId track (.prune now) { track with row := none }
  | sends (shuffle : Shuffle String) (bus : EventBus) (registry : Registry) (event : Event)
      (place : track.place = .toSend event) :
      Turns config eventId track (.redeliver shuffle bus registry)
        { track with place := .idle, sent := track.sent ++ [event] }

namespace Outbox
variable {outbox : Outbox} (config : RetryConfig)

theorem step_fine (input : OutboxInput) (fine : outbox.sweep.Fine) : (outbox.step config input).sweep.Fine := by
  cases input with
  | publish | eventAck => exact fine
  | scan now order =>
    change (outbox.scan now order).sweep.Fine
    unfold scan
    split
    next => exact ⟨outbox.store.pendingOlderThan_unique .., List.suffix_refl _⟩
    next => exact fine
  | bump =>
    change (outbox.bump config).sweep.Fine
    unfold bump
    split
    next found event left here =>
      rw [here] at fine
      exact ⟨fine.1, (List.suffix_cons event left).trans fine.2⟩
    next => exact fine
  | prune now =>
    change (outbox.prune config now).sweep.Fine
    unfold prune
    split
    next found here =>
      rw [here] at fine
      exact fine.1
    next => exact fine
  | redeliver shuffle bus registry =>
    change (outbox.redeliver shuffle bus registry).sweep.Fine
    unfold redeliver
    split
    next => trivial
    next event left here =>
      rw [here] at fine
      exact List.Nodup.of_cons fine
    next => exact fine

theorem run_fine (inputs : List OutboxInput) : ((machine config).run inputs).sweep.Fine := by
  have initial : ({} : Outbox).sweep.Fine := trivial
  exact @Machine.run_preserves _ _ (machine config) (fun outbox => outbox.sweep.Fine) initial
    (fun _ input fine => step_fine config input fine) inputs

variable (eventId : String)

private theorem publish_turns (now : Nat) (event : Event) :
    (outbox.track eventId).Turns config eventId (.publish now event)
      { outbox.track eventId with row := (outbox.store.persist now event).get eventId } := by
  rw [EventStore.get_persist]
  by_cases mine : eventId = event.eventId
  · rw [if_pos mine]
    cases held : outbox.store.get eventId with
    | none => exact .stores now event mine.symm held
    | some row =>
      rw [Option.some_or, ← held]
      exact .stays _
  · rw [if_neg mine]
    exact .stays _

private theorem eventAck_turns (wanted : String) :
    (outbox.track eventId).Turns config eventId (.eventAck wanted)
      { outbox.track eventId with row := (outbox.store.markDelivered wanted).get eventId } := by
  rw [EventStore.get_markDelivered]
  by_cases mine : eventId = wanted
  · subst mine
    rw [if_pos rfl]
    cases held : outbox.store.get eventId with
    | none =>
      rw [Option.map_none, ← held]
      exact .stays _
    | some row => exact .acks row held
  · rw [if_neg mine]
    exact .stays _

private theorem scan_turns (now : Nat) (order : Shuffle EventRow) (asleep : outbox.sweep = .asleep) :
    (outbox.track eventId).Turns config eventId (.scan now order)
      { outbox.track eventId with
        place := (Sweep.bumping (outbox.store.pendingOlderThan order now 10)
          (outbox.store.pendingOlderThan order now 10)).place eventId
        scans := outbox.scans ++ [now] } := by
  have idle : (outbox.track eventId).place = .idle := congrArg (Sweep.place eventId) asleep
  have passes (undue : ∀ row, outbox.store.get eventId = some row → row.status = .pending → row.olderThan now 10 = false) :
      (outbox.track eventId).Turns config eventId (.scan now order)
        { outbox.track eventId with place := .idle, scans := outbox.scans ++ [now] } := by
    rw [← idle]
    exact .passes now order idle undue
  rw [Sweep.place_bumping, EventStore.find_pendingOlderThan]
  cases held : outbox.store.get eventId with
  | none =>
    refine passes ?_
    intro row there
    cases held.symm.trans there
  | some row =>
    rw [Option.filter_some]
    by_cases due : (row.status == .pending && row.olderThan now 10) = true
    · rw [if_pos due]
      obtain ⟨pending, old⟩ := Bool.and_eq_true_iff.mp due
      exact .finds now order row idle held (beq_iff_eq.mp pending) old
    · rw [if_neg due]
      refine passes ?_
      intro other there pending
      cases held.symm.trans there
      rw [pending] at due
      exact Bool.eq_false_iff.mpr due

private theorem bump_turns {found left : List Event} {event : Event} (here : outbox.sweep = .bumping found (event :: left))
    (fine : outbox.sweep.Fine) :
    (outbox.track eventId).Turns config eventId .bump
      { outbox.track eventId with
        row := (outbox.store.incrementRetryOrDead event.eventId config.maxRetries).get eventId
        place := (Sweep.bumping found left).place eventId } := by
  rw [here] at fine
  obtain ⟨unique, suffix⟩ := fine
  have before : (outbox.track eventId).place = (Sweep.bumping found (event :: left)).place eventId :=
    congrArg (Sweep.place eventId) here
  rw [Sweep.place_bumping, Table.find_cons] at before
  rw [EventStore.get_incrementRetryOrDead, Sweep.place_bumping]
  by_cases mine : event.eventId = eventId
  · subst mine
    have unmet : Table.Unique Event.eventId (event :: left) := (suffix.sublist.map Event.eventId).nodup unique
    have there : Table.find Event.eventId found event.eventId = some event :=
      unique.find_eq (suffix.subset List.mem_cons_self)
    rw [if_pos rfl] at before
    rw [if_pos rfl, unmet.find_tail, there]
    exact .bumps event before
  · rw [if_neg mine] at before
    rw [if_neg (Ne.symm mine), ← before]
    exact .stays _

private theorem prune_turns {found : List Event} (here : outbox.sweep = .bumping found []) (now : Nat) :
    (outbox.track eventId).Turns config eventId (.prune now)
      { outbox.track eventId with
        row := (outbox.store.prune now config.retentionSecs).get eventId
        place := (Sweep.redelivering found).place eventId } := by
  have before : (outbox.track eventId).place = .sends (Table.find Event.eventId found eventId) :=
    congrArg (Sweep.place eventId) here
  rw [EventStore.get_prune, Sweep.place_redelivering, ← before]
  cases held : outbox.store.get eventId with
  | none =>
    rw [Option.filter_none, ← held]
    exact .stays _
  | some row =>
    rw [Option.filter_some]
    by_cases pruned : (row.isTerminal && row.olderThan now config.retentionSecs) = true
    · rw [pruned]
      obtain ⟨terminal, old⟩ := Bool.and_eq_true_iff.mp pruned
      refine .prunes now row held terminal old ?_
      intro event
      rw [before]
      cases Table.find Event.eventId found eventId with
      | none | some => nofun
    · rw [Bool.eq_false_iff.mpr pruned, Bool.not_false, if_pos rfl, ← held]
      exact .stays _

private theorem redeliveries_append (redelivery : Redelivery) :
    redeliveries { outbox with redelivered := outbox.redelivered ++ [redelivery] } eventId =
      outbox.redeliveries eventId ++ if redelivery.event.eventId = eventId then [redelivery.event] else [] := by
  unfold redeliveries
  rw [List.map_append, List.filter_append]
  by_cases mine : redelivery.event.eventId = eventId <;> simp [mine]

private theorem redeliver_turns {left : List Event} {event : Event} (here : outbox.sweep = .redelivering (event :: left))
    (fine : outbox.sweep.Fine) (shuffle : Shuffle String) (bus : EventBus) (registry : Registry) :
    (outbox.track eventId).Turns config eventId (.redeliver shuffle bus registry)
      { outbox.track eventId with
        place := (Sweep.redelivering left).place eventId
        sent := redeliveries { outbox with
          redelivered := outbox.redelivered ++ [⟨event, bus.deliver shuffle event registry⟩] } eventId } := by
  rw [here] at fine
  have before : (outbox.track eventId).place = (Sweep.redelivering (event :: left)).place eventId :=
    congrArg (Sweep.place eventId) here
  rw [Sweep.place_redelivering, Table.find_cons] at before
  rw [Sweep.place_redelivering, redeliveries_append]
  by_cases mine : event.eventId = eventId
  · subst mine
    have unmet : Table.Unique Event.eventId (event :: left) := fine
    rw [if_pos rfl] at before
    rw [if_pos rfl, unmet.find_tail]
    exact .sends shuffle bus registry event before
  · rw [if_neg mine] at before
    rw [if_neg mine, ← before, List.append_nil]
    exact .stays _

/-- Each step of the outbox is a step of the view. -/
theorem step_turns (fine : outbox.sweep.Fine) (input : OutboxInput) :
    (outbox.track eventId).Turns config eventId input ((outbox.step config input).track eventId) := by
  cases input with
  | publish now event => exact publish_turns config eventId now event
  | eventAck wanted => exact eventAck_turns config eventId wanted
  | scan now order =>
    change Track.Turns _ _ _ _ ((outbox.scan now order).track eventId)
    unfold scan
    split
    next asleep => exact scan_turns config eventId now order asleep
    next => exact .stays _
  | bump =>
    change Track.Turns _ _ _ _ ((outbox.bump config).track eventId)
    unfold bump
    split
    next found event left here => exact bump_turns config eventId here fine
    next => exact .stays _
  | prune now =>
    change Track.Turns _ _ _ _ ((outbox.prune config now).track eventId)
    unfold prune
    split
    next found here => exact prune_turns config eventId here now
    next => exact .stays _
  | redeliver shuffle bus registry =>
    change Track.Turns _ _ _ _ ((outbox.redeliver shuffle bus registry).track eventId)
    unfold redeliver
    split
    next here =>
      have idle : (outbox.track eventId).place = .idle := congrArg (Sweep.place eventId) here
      have same : track { outbox with sweep := .asleep } eventId = outbox.track eventId := by
        unfold track at idle ⊢
        dsimp only at idle ⊢
        rw [idle]
        rfl
      rw [same]
      exact .stays _
    next event left here => exact redeliver_turns config eventId here fine shuffle bus registry
    next => exact .stays _

end Outbox
end Vynkor
