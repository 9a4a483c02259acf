import Vynkor.Node
import Vynkor.Proofs.ReadLoop

/-! What one step of the node does to its channels and connections. -/

namespace Vynkor
open Lib

def WriteEvent.item : WriteEvent → Outbound
  | .wrote item _ _ => item
  | .armed key => .enableMac key

namespace Conn
variable (codec : Codec) (conn : Conn)

/-- The outcomes of one write. -/
inductive Writes (transport : Transport) (stamp : Stamp) (item : Outbound) (result : WriteResult) : Conn → Prop
  | armed (key : SessionKey) (same : item = .enableMac key) :
      Writes transport stamp item result { conn with key := some key, cell := some key, log := conn.log ++ [.armed key] }
  | ignored (key : SessionKey) (same : item = .enableMac key) : Writes transport stamp item result conn
  | wrote (frame : Frame) (built : item.built codec stamp = some frame) :
      Writes transport stamp item result { conn with
        log := conn.log ++ [.wrote item (conn.outgoing codec transport frame) (conn.armedKey transport)] }
  | tooLarge (large : result = .tooLarge) : Writes transport stamp item result conn
  | failed : Writes transport stamp item result { conn with stopped := true }

private theorem writeOne_cases (transport : Transport) (stamp : Stamp) (item : Outbound) (result : WriteResult) :
    conn.Writes codec transport stamp item result (conn.writeOne codec transport stamp item result) := by
  cases item with
  | enableMac key =>
    cases transport with
    | bridge bridge => exact .ignored key rfl
    | unix | webSocket => exact .armed key rfl
  | _ =>
    cases result with
    | ok => exact .wrote _ rfl
    | failed => exact .failed
    | tooLarge =>
      cases transport with
      | unix limits => exact .tooLarge rfl
      | webSocket | bridge => exact .failed

section Read
variable (link : Link) (tx : Tx) (frame : Option Frame) (frameAddr : Nat) (now opened : Instant)

/-- The outcomes of one read. -/
inductive Reads : Reading → Prop
  | nothing (parseErrors : Nat) (ended : Option ReadEnd) :
      Reads { conn := { conn with parseErrors, reader := { conn.reader with ended } } }
  | looped (limits : ReadLimits) (received : Frame) (read : frame = some received) :
      Reads (conn.readUnix codec limits link.connId tx ⟨received, conn.cell, now, opened⟩ frameAddr)
  | parsed (received parsed : Frame) (read : frame = some received) (parses : parseFrame received = some parsed) :
      Reads { conn, msg := some ⟨link.connId, parsed, tx, frameAddr⟩ }
  | bridged (bridge : Bridge) (received : Frame) (msg : IncomingMessage) (read : frame = some received)
      (reads : bridge.readFrame codec received frameAddr = some msg) : Reads { conn, msg := some msg }

theorem read_outcomes : conn.Reads codec link tx frame frameAddr now opened
    (conn.read codec link tx frame frameAddr now opened) := by
  have failed : conn.Reads codec link tx frame frameAddr now opened { conn := conn.parseFailure } := by
    unfold parseFailure
    simp only
    split
    · exact .nothing (conn.parseErrors + 1) (some .readFailed)
    · exact .nothing (conn.parseErrors + 1) conn.reader.ended
  unfold read
  split
  · exact .nothing conn.parseErrors conn.reader.ended
  · split
    next limits received _ => exact .looped limits received rfl
    next received _ =>
      unfold readSocket
      split
      · exact failed
      next parsed parses =>
        split
        · exact .nothing conn.parseErrors (some .macInvalid)
        · exact .parsed received parsed rfl parses
    next bridge received _ =>
      unfold readBridge
      split
      · exact .nothing conn.parseErrors (some .readFailed)
      next msg reads => exact .bridged bridge received msg rfl reads
    · exact failed
    · exact .nothing conn.parseErrors (some .readFailed)

theorem read_sending :
    let after := (conn.read codec link tx frame frameAddr now opened).conn
    after.log = conn.log ∧ after.stopped = conn.stopped := by
  have reads := conn.read_outcomes codec link tx frame frameAddr now opened
  generalize conn.read codec link tx frame frameAddr now opened = reading at reads ⊢
  cases reads with
  | nothing | looped | parsed | bridged => exact ⟨rfl, rfl⟩

end Read

end Conn

namespace Node
variable (config : Config) (codec : Codec) (links : Tx → Link) (node : Node)

theorem setConn_all {P : Tx → Conn → Prop} {own : Tx} {conn : Conn} (new : P own conn)
    (every : ∀ tx, P tx (node.conns tx)) (tx : Tx) : P tx ((node.setConn own conn).conns tx) :=
  (Function.forall_update_iff node.conns P).mpr ⟨new, fun other _ => every other⟩ tx

theorem post_queue (own : Tx) (envelope : Envelope) (awaited : Bool) (tx : Tx) :
    ∃ placed, ((node.post own envelope awaited).system.chans tx).queue = (node.system.chans tx).queue ++ placed ∧
      ∀ item ∈ placed, item = .envelope envelope := by
  have kept : ∀ chan : Channel Outbound, ∃ placed : List Outbound, chan.queue = chan.queue ++ placed ∧
      ∀ item ∈ placed, item = .envelope envelope :=
    fun chan => ⟨[], (List.append_nil _).symm, fun _ member => absurd member List.not_mem_nil⟩
  by_cases here : tx = own
  · subst here
    unfold post
    simp only [Function.update_self]
    split
    · unfold Channel.send
      split
      · exact kept _
      · exact ⟨_, rfl, fun item member => List.mem_singleton.mp member⟩
    · unfold Channel.trySend
      split
      · exact ⟨_, rfl, fun item member => List.mem_singleton.mp member⟩
      · exact kept _
  · unfold post
    simp only [Function.update_of_ne here]
    exact kept _

inductive Writes (own : Tx) (stamp : Stamp) (result : WriteResult) : Node → Prop
  | idle : Writes own stamp result node
  | taken (item : Outbound) (rest : List Outbound) (conn : Conn) (waits : (node.system.chans own).queue = item :: rest)
      (running : (node.conns own).stopped = false)
      (handled : (node.conns own).Writes codec (links own).transport stamp item result conn) :
      Writes own stamp result ({ node with system := node.system.step config (.receive own) }.setConn own conn)

theorem write_cases (own : Tx) (stamp : Stamp) (result : WriteResult) :
    node.Writes config codec links own stamp result (node.write config codec links own stamp result) := by
  unfold write
  split
  · exact .idle
  next item rest waits =>
    split
    · exact .idle
    next running =>
      exact .taken item rest _ waits (Bool.eq_false_iff.mpr running) (Conn.writeOne_cases ..)

theorem step_kernel (input : Input) : node.step config codec links (.kernel input) = node ∨
    (∀ tx, input ≠ .receive tx) ∧
      node.step config codec links (.kernel input) = { node with system := node.system.step config input } := by
  cases input with
  | receive tx => exact .inl rfl
  | _ => exact .inr ⟨nofun, rfl⟩

def afterRead (own : Tx) (reading : Reading) : Node :=
  { node with arrived := node.arrived ++ reading.msg.toList }.setConn own reading.conn

theorem read_cases (own : Tx) (frame : Option Frame) (frameAddr : Nat) (now opened : Instant) :
    let after := node.afterRead own ((node.conns own).read codec (links own) own frame frameAddr now opened)
    node.read codec links own frame frameAddr now opened = after ∨
      ∃ code, node.read codec links own frame frameAddr now opened = after.post own { payload := .error code "" } true := by
  unfold read
  simp only
  split
  · exact .inl rfl
  next code _ => exact .inr ⟨code, rfl⟩

theorem register_cases (own : Tx) (stamp : Stamp) (envelope : Envelope) :
    node.register codec links own stamp envelope = node ∨
    node.register codec links own stamp envelope = node.setConn own { node.conns own with
      log := (node.conns own).log ++
        [.wrote (.envelope envelope) (codec.buildFrame "kernel" 0 (codec.encode stamp envelope)) none] } := by
  unfold register
  split
  · exact .inr rfl
  · exact .inl rfl

end Node
end Vynkor
