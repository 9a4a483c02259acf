import Vynkor.Lib.Precedence
import Vynkor.Proofs.NodeSteps
import Vynkor.Proofs.Outgoing

/-! The ack of a registration and its key travel through the write channel, the ack by
a send that does not wait and the key by one that does. The write loop arms the key
after the ack if the ack found room and was not too large to write. -/

namespace Vynkor
open Lib

def Outbound.ackNonce : Outbound → Option Bytes
  | .envelope sent =>
    match sent.payload with
    | .pluginRegisterAck ack => if ack.accepted then some ack.sessionNonce else none
    | _ => none
  | _ => none

def Outbound.keyNonce : Outbound → Option Bytes
  | .enableMac key => some key.nonce
  | _ => none

/-- Every frame key is sent right after a send that finds room. -/
def ackFits (chans : Tx → Channel Outbound) : List Send → Bool
  | [] => true
  | send :: rest =>
    (match rest.head?.bind fun next => next.item.keyNonce with
      | some _ => (chans send.tx).accepts
      | none => true) && ackFits (System.put chans send) rest

/-- The ack of a registration is neither dropped for lack of room nor for its size. -/
def ackKept (config : Config) (node : Node) : NodeInput → Bool
  | .kernel input => ackFits node.system.chans (node.system.sends config input)
  | .write tx _ .tooLarge => ((node.system.chans tx).queue.head?.bind Outbound.ackNonce).isNone
  | _ => true

def Acked (word : List Outbound) : Prop :=
  Preceded Outbound.keyNonce (fun item nonce => item.ackNonce = some nonce) (fun _ => False) word

/-- What has gone to the socket, followed by what waits, unless the loop has stopped. -/
structure Heralded (queue : List Outbound) (conn : Conn) : Prop where
  written : Acked (conn.log.map WriteEvent.item)
  waiting : conn.stopped = false → Acked (conn.log.map WriteEvent.item ++ queue)

namespace Heralded
variable {queue placed : List Outbound} {conn : Conn}

theorem extend (heralded : Heralded queue conn) (keyless : ∀ item ∈ placed, item.keyNonce = none) :
    Heralded (queue ++ placed) conn := by
  refine ⟨heralded.written, fun running => ?_⟩
  rw [← List.append_assoc]
  exact (heralded.waiting running).extend keyless

private theorem acknowledged (heralded : Heralded queue conn) {ack : Outbound} {key : SessionKey}
    (names : ack.ackNonce = some key.nonce) : Heralded (queue ++ [ack, .enableMac key]) conn := by
  refine ⟨heralded.written, fun running => ?_⟩
  rw [← List.append_assoc]
  refine Preceded.append_iff.mpr ⟨heralded.waiting running, fun needed asks => ?_, fun needed asks => ?_, trivial⟩
  · cases ack with
    | enableMac other => cases names
    | _ => cases asks
  · cases asks
    exact .inr names

theorem logged {item : Outbound} (heralded : Heralded (item :: queue) conn) {after : Conn} (event : WriteEvent)
    (running : conn.stopped = false) (same : event.item = item) (log : after.log = conn.log ++ [event]) :
    Heralded queue after := by
  have word : Acked (after.log.map WriteEvent.item ++ queue) := by
    rw [log, List.map_append, List.map_singleton, same, List.append_assoc]
    exact heralded.waiting running
  exact ⟨(Preceded.append_iff.mp word).1, fun _ => word⟩

theorem lost {item : Outbound} (heralded : Heralded (item :: queue) conn) (nothing : item.ackNonce = none) :
    Heralded queue conn :=
  ⟨heralded.written, fun running => (heralded.waiting running).remove fun nonce names => by
    rw [nothing] at names
    cases names⟩

theorem same {after : Conn} (heralded : Heralded queue conn) (log : after.log = conn.log)
    (stopped : after.stopped = conn.stopped) : Heralded queue after :=
  ⟨by rw [log]; exact heralded.written, fun running => by rw [log]; exact heralded.waiting (stopped ▸ running)⟩

theorem spoken {after : Conn} (heralded : Heralded queue conn) (envelope : Envelope)
    (log : after.log.map WriteEvent.item = conn.log.map WriteEvent.item ++ [.envelope envelope])
    (stopped : after.stopped = conn.stopped) : Heralded queue after := by
  refine ⟨?_, fun running => ?_⟩
  · rw [log]
    apply heralded.written.extend
    intro item member
    cases List.mem_singleton.mp member
    rfl
  · rw [log, List.append_assoc]
    exact (heralded.waiting (stopped ▸ running)).insert rfl

theorem stop (heralded : Heralded queue conn) {rest : List Outbound} : Heralded rest { conn with stopped := true } :=
  ⟨heralded.written, fun running => nomatch running⟩

end Heralded

private theorem keyNonce_of_isEnvelope {send : Send} (envelope : send.isEnvelope = true) : send.item.keyNonce = none := by
  unfold Send.isEnvelope at envelope
  cases carried : send.item with
  | envelope sent => rfl
  | _ => rw [carried] at envelope; cases envelope

section Sends
variable {chans : Tx → Channel Outbound} {sends front rest : List Send} {tx : Tx} {conn : Conn}

theorem Heralded.sent (heralded : Heralded (chans tx).queue conn) (keyless : ∀ send ∈ sends, send.item.keyNonce = none) :
    Heralded (sends.foldl System.put chans tx).queue conn := by
  obtain ⟨placed, grown, sent⟩ := System.foldl_put_queue chans sends tx
  rw [grown]
  apply heralded.extend
  intro item member
  obtain ⟨send, listed, -, rfl⟩ := sent item member
  exact keyless send listed

private theorem ackFits_append (fits : ackFits chans (front ++ rest) = true) :
    ackFits (front.foldl System.put chans) rest = true := by
  induction front generalizing chans with
  | nil => exact fits
  | cons send front ih =>
    rw [List.cons_append, ackFits, Bool.and_eq_true] at fits
    exact ih fits.2

theorem Heralded.armed {messageId : String} {granted : List String} {key : SessionKey} {own : Tx}
    (heralded : Heralded (chans tx).queue conn)
    (fits : ackFits chans (acceptingAck own messageId granted key.nonce :: ⟨own, .enableMac key, none⟩ :: rest) = true) :
    Heralded ((System.put (System.put chans (acceptingAck own messageId granted key.nonce))
      ⟨own, .enableMac key, none⟩) tx).queue conn := by
  rw [ackFits, Bool.and_eq_true] at fits
  have room : (chans own).accepts = true := fits.1
  by_cases here : tx = own
  · subst here
    have ack : System.put chans (acceptingAck tx messageId granted key.nonce) tx =
        { chans tx with queue := (chans tx).queue ++ [(acceptingAck tx messageId granted key.nonce).item] } := by
      refine (System.put_prompt chans rfl).trans ?_
      exact if_pos room
    have live : (chans tx).closed = false := by
      unfold Channel.accepts at room
      simpa using (Bool.and_eq_true_iff.mp room).1
    rw [System.put, Function.update_self]
    simp only [ack, Channel.send, live, Bool.false_eq_true, if_false, List.append_assoc, List.singleton_append]
    exact heralded.acknowledged rfl
  · rw [System.put_other _ here, System.put_other _ here]
    exact heralded

theorem Heralded.outgoing {frame : Frame} (heralded : Heralded (chans tx).queue conn) (outgoing : Outgoing frame sends)
    (fits : ackFits chans sends = true) : Heralded (sends.foldl System.put chans tx).queue conn := by
  cases outgoing with
  | replies enveloped => exact heralded.sent fun send member => keyNonce_of_isEnvelope (enveloped.each send member)
  | passes each =>
    refine heralded.sent fun send member => ?_
    rcases each send member with envelope | passed
    · exact keyNonce_of_isEnvelope envelope
    · rw [passed]
      rfl
  | arms own messageId granted key before after =>
    rw [List.foldl_append, List.foldl_cons, List.foldl_cons]
    have early := heralded.sent fun send member => keyNonce_of_isEnvelope (before.each send member)
    have armed := early.armed (ackFits_append fits)
    exact armed.sent fun send member => keyNonce_of_isEnvelope (after.each send member)

end Sends

section Steps
variable {config : Config} {codec : Codec} {links : Tx → Link} {node : Node}
  (heralded : ∀ tx, Heralded (node.system.chans tx).queue (node.conns tx))
include heralded

theorem Heralded.post (own : Tx) (envelope : Envelope) (awaited : Bool) (tx : Tx) :
    Heralded ((node.post own envelope awaited).system.chans tx).queue ((node.post own envelope awaited).conns tx) := by
  obtain ⟨placed, grown, sent⟩ := node.post_queue own envelope awaited tx
  rw [grown]
  apply (heralded tx).extend
  intro item member
  rw [sent item member]
  rfl

theorem Heralded.write (own : Tx) (stamp : Stamp)
    (result : WriteResult) (kept : ackKept config node (.write own stamp result) = true) (tx : Tx) :
    Heralded ((node.write config codec links own stamp result).system.chans tx).queue
      ((node.write config codec links own stamp result).conns tx) := by
  have writes := node.write_cases config codec links own stamp result
  generalize node.write config codec links own stamp result = after at writes ⊢
  cases writes with
  | idle => exact heralded tx
  | taken item rest conn waits running handled =>
    change Heralded (Function.update node.system.chans own (node.system.chans own).receive tx).queue
      (Function.update node.conns own conn tx)
    by_cases here : tx = own
    · subst here
      have before := heralded tx
      rw [waits] at before
      rw [Function.update_self, Function.update_self, Channel.receive, waits, List.tail_cons]
      cases handled with
      | armed key same => exact before.logged (.armed key) running same.symm rfl
      | ignored key same => exact before.lost (by rw [same]; rfl)
      | wrote => exact before.logged (.wrote item _ _) running rfl rfl
      | tooLarge large =>
        subst large
        refine before.lost ?_
        change ((node.system.chans tx).queue.head?.bind Outbound.ackNonce).isNone = true at kept
        rw [waits] at kept
        exact Option.isNone_iff_eq_none.mp kept
      | failed => exact before.stop
    · rw [Function.update_of_ne here, Function.update_of_ne here]
      exact heralded tx

theorem Heralded.kernel (input : Input) (kept : ackKept config node (.kernel input) = true) (tx : Tx) :
    Heralded ((node.step config codec links (.kernel input)).system.chans tx).queue
      ((node.step config codec links (.kernel input)).conns tx) := by
  rcases node.step_kernel config codec links input with same | ⟨unread, same⟩
  · rw [same]
    exact heralded tx
  · rw [same]
    change Heralded ((node.system.step config input).chans tx).queue (node.conns tx)
    cases node.system.step_sends config input with
    | delivered chans kinds =>
      rw [chans]
      rcases kinds with enveloped | ⟨ambient, msg, -, outgoing⟩
      · exact (heralded tx).sent fun send member => keyNonce_of_isEnvelope (enveloped.each send member)
      · exact (heralded tx).outgoing outgoing kept
    | received own input => exact absurd input (unread own)
    | closed own input =>
      rw [input, System.close_queue]
      exact heralded tx

theorem Heralded.read (own : Tx) (frame : Option Frame) (frameAddr : Nat) (now opened : Instant) (tx : Tx) :
    Heralded ((node.read codec links own frame frameAddr now opened).system.chans tx).queue
      ((node.read codec links own frame frameAddr now opened).conns tx) := by
  obtain ⟨log, stopped⟩ := (node.conns own).read_sending codec (links own) own frame frameAddr now opened
  have after := node.setConn_all (P := fun tx conn => Heralded (node.system.chans tx).queue conn)
    ((heralded own).same log stopped) heralded
  rcases node.read_cases codec links own frame frameAddr now opened with same | ⟨code, same⟩
  · rw [same]
    exact after tx
  · rw [same]
    exact Heralded.post after own _ true tx

theorem Heralded.register (own : Tx) (stamp : Stamp) (envelope : Envelope) (tx : Tx) :
    Heralded ((node.register codec links own stamp envelope).system.chans tx).queue
      ((node.register codec links own stamp envelope).conns tx) := by
  rcases node.register_cases codec links own stamp envelope with same | same
  · rw [same]
    exact heralded tx
  · rw [same]
    refine node.setConn_all (P := fun tx conn => Heralded (node.system.chans tx).queue conn) ?_ heralded tx
    apply (heralded own).spoken envelope
    · rw [List.map_append]
      rfl
    · rfl

theorem Heralded.step (input : NodeInput) (kept : ackKept config node input = true) (tx : Tx) :
    Heralded ((node.step config codec links input).system.chans tx).queue
      ((node.step config codec links input).conns tx) := by
  cases input with
  | kernel input => exact Heralded.kernel heralded input kept tx
  | post own envelope awaited => exact Heralded.post heralded own envelope awaited tx
  | read own frame frameAddr now opened => exact Heralded.read heralded own frame frameAddr now opened tx
  | write own stamp result => exact Heralded.write heralded own stamp result kept tx
  | register own stamp envelope => exact Heralded.register heralded own stamp envelope tx

omit heralded in
theorem Heralded.run (config : Config) (codec : Codec) (links : Tx → Link) {inputs : List NodeInput}
    (obeys : (Node.machine config codec links).Obeys (fun node input => ackKept config node input = true) {} inputs)
    (tx : Tx) : Heralded (((Node.machine config codec links).run inputs).system.chans tx).queue
      (((Node.machine config codec links).run inputs).conns tx) := by
  refine @Machine.Obeys.run_preserves _ _ _ (fun node => ∀ tx, Heralded (node.system.chans tx).queue (node.conns tx))
    _ ?_ ?_ _ obeys tx
  · exact fun _ => ⟨trivial, fun _ => trivial⟩
  · exact fun node input kept heralded tx => Heralded.step heralded input kept tx

end Steps

/-- If no accepting ack is lost, each key that a write loop arms comes after the ack with
its nonce. -/
theorem key_armed_after_ack (config : Config) (codec : Codec) (links : Tx → Link) (inputs : List NodeInput)
    (obeys : (Node.machine config codec links).Obeys (fun node input => ackKept config node input = true) {} inputs)
    (tx : Tx) (before after : List WriteEvent) (key : SessionKey)
    (armed : (((Node.machine config codec links).run inputs).conns tx).log = before ++ .armed key :: after) :
    ∃ item frame tag, .wrote item frame tag ∈ before ∧ item.ackNonce = some key.nonce := by
  have word := (Heralded.run config codec links obeys tx).written
  rw [armed, List.map_append, List.map_cons] at word
  obtain ⟨item, member, names⟩ := word.given rfl
  obtain ⟨event, inside, rfl⟩ := List.mem_map.mp member
  cases event with
  | wrote item frame tag => exact ⟨item, frame, tag, inside, names⟩
  | armed other => cases names

def registration : NodeInput :=
  .kernel (.message { nonce := [1] } { connId := 1, writeTx := 1, frame :=
    { target := some "kernel", payload := .envelope { payload := .pluginRegister { pluginId := "app" } } } })

/-- The connection 1 over a Unix socket, on a kernel with a secret. -/
def securedRun (inputs : List NodeInput) : List WriteEvent :=
  (((Node.machine { macSecret := true } sampleCodec fun tx => ⟨tx, .unix {}⟩).run inputs).conns 1).log

theorem key_armed_after_ack_registered :
    ∃ item frame tag, WriteEvent.wrote item frame tag ∈
      (securedRun [registration, .write 1 {} .ok, .write 1 {} .ok]).take 1 ∧ item.ackNonce = some [1] := by
  refine key_armed_after_ack { macSecret := true } sampleCodec (fun tx => ⟨tx, .unix {}⟩)
    [registration, .write 1 {} .ok, .write 1 {} .ok] (by decide +kernel) 1 _ [] ⟨.plugin "app", [1], "app"⟩ ?_
  decide +kernel

/-- A frame whose target is not UTF-8; it is answered with an error. -/
def garbledTarget : NodeInput :=
  .kernel (.message {} { connId := 1, writeTx := 1, frame := { target := none, payload := .raw [] } })

/-- The key is armed although its ack is never written: the channel is full of error
replies when the plugin registers, or the ack is too large. -/
theorem key_armed_without_ack :
    let full := securedRun (List.replicate 64 garbledTarget ++ registration :: List.replicate 65 (.write 1 {} .ok))
    let large := securedRun [registration, .write 1 {} .tooLarge, .write 1 {} .ok]
    (.armed ⟨.plugin "app", [1], "app"⟩ ∈ full ∧ full.all fun event => event.item.ackNonce.isNone) ∧
    (.armed ⟨.plugin "app", [1], "app"⟩ ∈ large ∧ large.all fun event => event.item.ackNonce.isNone) := by
  decide +kernel

end Vynkor
