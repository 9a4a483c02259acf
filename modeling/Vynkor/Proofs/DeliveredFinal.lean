import Vynkor.Proofs.OutboxSteps

/-! Acknowledged events. The worker acts on what its scan found, so an acknowledgement is final
when it finds the event outside the sweep that is under way. -/

namespace Vynkor
open Lib

/-- The event was acknowledged, and the sweep has nothing to do with it. -/
structure Track.Settled (sent : List Event) (track : Track) : Prop where
  delivered : ∀ row, track.row = some row → row.status = .delivered
  idle : track.place = .idle
  sent : track.sent = sent

namespace Outbox

/-- The id is published while it has no row, so that it is stored anew. -/
def republishes (eventId : String) (outbox : Outbox) : OutboxInput → Bool
  | .publish _ event => event.eventId == eventId && (outbox.store.get eventId).isNone
  | _ => false

end Outbox

section
variable {config : RetryConfig} {eventId : String} {track after : Track} {input : OutboxInput} {sent : List Event}

theorem Track.Settled.step (settled : track.Settled sent) (turns : track.Turns config eventId input after)
    (once : ∀ now event, input = .publish now event → event.eventId = eventId → track.row ≠ none) : after.Settled sent := by
  cases turns with
  | stays => exact settled
  | stores now event mine absent => exact absurd absent (once now event rfl mine)
  | acks =>
    refine ⟨?_, settled.idle, settled.sent⟩
    rintro _ ⟨⟩
    rfl
  | passes now order idle undue => exact ⟨settled.delivered, idle, settled.sent⟩
  | finds now order row idle held pending due =>
    have delivered := settled.delivered row held
    rw [pending] at delivered
    cases delivered
  | bumps event place | sends shuffle bus registry event place => cases settled.idle.symm.trans place
  | prunes =>
    refine ⟨?_, settled.idle, settled.sent⟩
    rintro _ ⟨⟩

private theorem Outbox.runFrom_settled {outbox : Outbox} {inputs : List OutboxInput} (fine : outbox.sweep.Fine)
    (settled : (outbox.track eventId).Settled sent)
    (obeys : (Outbox.machine config).Obeys (fun outbox input => outbox.republishes eventId input = false) outbox inputs) :
    (((Outbox.machine config).runFrom outbox inputs).track eventId).Settled sent := by
  induction inputs generalizing outbox with
  | nil => exact settled
  | cons input inputs ih =>
    have stepped := settled.step (Outbox.step_turns config eventId fine input) ?_
    · exact ih (Outbox.step_fine config input fine) stepped obeys.2
    · rintro now event rfl mine absent
      have anew := obeys.1
      change outbox.store.get eventId = none at absent
      simp [Outbox.republishes, mine, absent] at anew

end

/-- An event that is stored and acknowledged while the worker's sweep does not hold it: from
then on its status is delivered for as long as its row is there, and no redelivery carries it,
in every run in which its id is not published anew once the row is gone. -/
theorem delivered_is_final (config : RetryConfig) {before after : List OutboxInput} {eventId : String} {row : EventRow}
    (stored : ((Outbox.machine config).run before).store.get eventId = some row)
    (unclaimed : ((Outbox.machine config).run before).sweep.place eventId = .idle)
    (once : (Outbox.machine config).Obeys (fun outbox input => outbox.republishes eventId input = false)
      ((Outbox.machine config).run before) (.eventAck eventId :: after)) :
    let outbox := (Outbox.machine config).run (before ++ .eventAck eventId :: after)
    (∀ row, outbox.store.get eventId = some row → row.status = .delivered) ∧
      outbox.redeliveries eventId = ((Outbox.machine config).run before).redeliveries eventId := by
  intro outbox
  have fine := Outbox.run_fine config before
  have acked : (((Outbox.machine config).run before).step config (.eventAck eventId)).store.get eventId =
      some row.markDelivered := by
    refine (EventStore.get_markDelivered _ eventId eventId).trans ?_
    rw [if_pos rfl, stored]
    rfl
  have settled : ((((Outbox.machine config).run before).step config (.eventAck eventId)).track eventId).Settled
      (((Outbox.machine config).run before).redeliveries eventId) := by
    refine ⟨?_, unclaimed, rfl⟩
    intro other there
    cases acked.symm.trans there
    rfl
  have final := Outbox.runFrom_settled (Outbox.step_fine config _ fine) settled once.2
  have same : outbox = (Outbox.machine config).runFrom
      (((Outbox.machine config).run before).step config (.eventAck eventId)) after := Machine.run_append _ _ _
  rw [same]
  exact ⟨final.delivered, final.sent⟩

def heartbeat : Event := ⟨"evt-agent-100000-0", "plugin.agent.heartbeat", .json [], 0⟩

def sweepOnce (now : Nat) : List OutboxInput :=
  [.scan now (Shuffle.unchanged _), .bump, .prune now, .redeliver (Shuffle.unchanged _) {} {},
    .redeliver (Shuffle.unchanged _) {} {}]

theorem delivered_is_final_heartbeat :
    let outbox := (Outbox.machine { maxRetries := 2 }).run
      ((.publish 100 heartbeat :: sweepOnce 110) ++ .eventAck heartbeat.eventId :: sweepOnce 120)
    (∀ row, outbox.store.get heartbeat.eventId = some row → row.status = .delivered) ∧
      outbox.redeliveries heartbeat.eventId = [heartbeat] := by
  intro outbox
  have stored : ((Outbox.machine { maxRetries := 2 }).run (.publish 100 heartbeat :: sweepOnce 110)).store.get
      heartbeat.eventId = some ⟨"evt-agent-100000-0", "plugin.agent.heartbeat", .json [], .pending, 100, 1⟩ := by
    decide +kernel
  have once : (Outbox.machine { maxRetries := 2 }).Obeys (fun outbox input => outbox.republishes heartbeat.eventId input = false)
      ((Outbox.machine { maxRetries := 2 }).run (.publish 100 heartbeat :: sweepOnce 110))
      (.eventAck heartbeat.eventId :: sweepOnce 120) := by
    decide +kernel
  have final := delivered_is_final { maxRetries := 2 } stored (by decide +kernel) once
  exact ⟨final.1, final.2.trans (by decide +kernel)⟩

/-- The acknowledgement arrives between the scan and the count: the event is declared dead and
redelivered. -/
theorem delivered_event_dies :
    let outbox := (Outbox.machine { maxRetries := 1 }).run
      [.publish 100 heartbeat, .scan 110 (Shuffle.unchanged _), .eventAck heartbeat.eventId, .bump, .prune 110,
        .redeliver (Shuffle.unchanged _) {} {}]
    (outbox.store.get heartbeat.eventId).map EventRow.status = some .dead ∧
      outbox.redeliveries heartbeat.eventId = [heartbeat] := by
  decide +kernel

end Vynkor
