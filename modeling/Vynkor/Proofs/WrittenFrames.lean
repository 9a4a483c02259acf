import Mathlib.Data.Nat.Digits.Lemmas
import Mathlib.Logic.Equiv.List
import Mathlib.Tactic.DeriveEncodable
import Vynkor.Proofs.NodeSteps
import Vynkor.Proofs.Outgoing
import Vynkor.Proofs.ReassemblyBounds

/-! Every frame that leaves the node is well formed. Frames come in from `read_frame`
or are built by the kernel; in between they lose their tag and fragment flag, and a
write loop adds the tag of its own key. -/

namespace Vynkor
open Lib

/-- What the development takes from the wire crate: the header layout, tags of 32 bytes, and
a largest payload that fits the length field. -/
structure Codec.Lawful (codec : Codec) : Prop where
  header : ∀ frame, codec.serializeHeader frame = frame.headerBytes
  tag : ∀ key header payload, (codec.computeTag key header payload).length = 32
  cap : codec.maxPayloadSize < 4294967296

/-- A frame as `read_frame` returns it; the length is a `u32`. -/
structure Received (codec : Codec) (frame : Frame) : Prop where
  length : frame.length = frame.bytes.length
  short : frame.length < 4294967296
  crc : frame.crc32 = codec.crc32 frame.bytes
  tagged : frame.hasFlag flagMacPresent = frame.mac.isSome

/-- A whole frame whose header describes its payload. -/
structure Intact (codec : Codec) (frame : Frame) : Prop where
  length : frame.length = frame.bytes.length
  crc : frame.crc32 = codec.crc32 frame.bytes
  whole : frame.hasFlag flagFragmented = false

structure Untagged (frame : Frame) : Prop where
  flag : frame.hasFlag flagMacPresent = false
  mac : frame.mac = none

/-- A frame on the socket of a connection with this key: the header, the payload, and a
tag exactly when the header says so. -/
structure WellFormed (codec : Codec) (transport : Transport) (key : Option SessionKey) (frame : Frame) : Prop where
  intact : Intact codec frame
  layout : ∃ tag, emitted codec transport frame = codec.serializeHeader frame ++ frame.bytes ++ tag ∧
    (frame.hasFlag flagMacPresent = true ∧ tag.length = 32 ∨ frame.hasFlag flagMacPresent = false ∧ tag = []) ∧
    ∀ armed, key = some armed → frame.hasFlag flagMacPresent = true ∧
      tag = codec.computeTag armed (codec.serializeHeader frame) frame.bytes

section Headers
variable {codec : Codec} {frame : Frame}

private theorem stripMac_untagged (frame : Frame) : Untagged frame.stripMac := by
  refine ⟨?_, rfl⟩
  unfold Frame.hasFlag Frame.stripMac
  rw [BitVec.and_assoc]
  simp [flagMacPresent]

theorem Intact.stripMac (intact : Intact codec frame) : Intact codec frame.stripMac := by
  refine ⟨intact.length, intact.crc, ?_⟩
  have apart : ~~~flagMacPresent &&& flagFragmented = flagFragmented := by decide
  have whole := intact.whole
  unfold Frame.hasFlag at whole ⊢
  unfold Frame.stripMac
  rw [BitVec.and_assoc, apart]
  exact whole

theorem Intact.retarget (intact : Intact codec frame) (target : String) : Intact codec (codec.retarget frame target) :=
  ⟨intact.length, intact.crc, intact.whole⟩

theorem Untagged.retarget (untagged : Untagged frame) (target : String) : Untagged (codec.retarget frame target) :=
  ⟨untagged.flag, untagged.mac⟩

private theorem asU32_eq {count : Nat} (small : count < 4294967296) : asU32 count = count := Nat.mod_eq_of_lt small

private theorem buildFrame_intact {bytes : Bytes} (short : bytes.length < 4294967296) (target : String) :
    Intact codec (codec.buildFrame target 0 bytes) ∧ Untagged (codec.buildFrame target 0 bytes) := by
  have carried : (codec.buildFrame target 0 bytes).bytes = bytes := FramePayload.bytes_ofBytes ..
  have bare : ((0 : BitVec 16) &&& flagFragmented != 0) = false ∧ ((0 : BitVec 16) &&& flagMacPresent != 0) = false := by decide
  refine ⟨⟨?_, ?_, bare.1⟩, bare.2, rfl⟩
  · rw [carried]
    exact asU32_eq short
  · rw [carried]
    rfl

private theorem assembled_intact {buf : ReassemblyBuf} (accounted : Accounted codec buf) (cap : codec.maxPayloadSize < 4294967296)
    (last : Frame) : Intact codec (assembled codec last buf) := by
  have carried : (assembled codec last buf).bytes = buf.reassemble := FramePayload.bytes_ofBytes ..
  have size := buf.length_reassemble
  rw [← accounted.counted] at size
  have bound := accounted.bounded
  refine ⟨?_, ?_, ?_⟩
  · rw [carried]
    exact asU32_eq (by omega)
  · rw [carried]
    rfl
  · unfold Frame.hasFlag assembled
    rw [BitVec.and_assoc]
    simp [flagFragmented]

private theorem tag_wellFormed (lawful : codec.Lawful) (intact : Intact codec frame) (untagged : Untagged frame)
    (transport : Transport) (key : Option SessionKey) : WellFormed codec transport key (codec.tag key frame) := by
  have bytes : ∀ frame, emitted codec transport frame = codec.serializeHeader frame ++ frame.bytes ++ frame.mac.getD [] := by
    intro frame
    cases transport with
    | unix limits => rfl
    | webSocket | bridge => rw [lawful.header]; rfl
  cases key with
  | none =>
    refine ⟨intact, [], ?_, .inr ⟨untagged.flag, rfl⟩, nofun⟩
    rw [bytes]
    change _ ++ frame.mac.getD [] = _
    rw [untagged.mac]
    rfl
  | some key =>
    have present : (codec.tag (some key) frame).hasFlag flagMacPresent = true := by
      change ((frame.flags ||| flagMacPresent) &&& flagMacPresent != 0) = true
      have flag : frame.flags &&& flagMacPresent = 0 := by simpa [Frame.hasFlag] using untagged.flag
      rw [BitVec.and_or_distrib_right, flag]
      decide
    have whole : (codec.tag (some key) frame).hasFlag flagFragmented = false := by
      change ((frame.flags ||| flagMacPresent) &&& flagFragmented != 0) = false
      have flag : frame.flags &&& flagFragmented = 0 := by simpa [Frame.hasFlag] using intact.whole
      rw [BitVec.and_or_distrib_right, flag]
      decide
    have header : codec.serializeHeader (codec.tag (some key) frame) =
        codec.serializeHeader { frame with flags := frame.flags ||| flagMacPresent } := by
      rw [lawful.header, lawful.header]
      rfl
    refine ⟨⟨intact.length, intact.crc, whole⟩, _, bytes _, .inl ⟨present, lawful.tag ..⟩, fun armed same => ⟨present, ?_⟩⟩
    cases same
    rw [header]
    rfl

end Headers

/-- The router handles messages that have arrived, frames arrive from `read_frame`, and an
envelope that is written fits the length field. -/
def Enters (codec : Codec) (node : Node) : NodeInput → Prop
  | .kernel (.message _ msg) => msg ∈ node.arrived
  | .read _ (some frame) _ _ _ => Received codec frame
  | .write tx stamp _ => ∀ sent rest, (node.system.chans tx).queue = .envelope sent :: rest →
      (codec.encode stamp sent).length < 4294967296
  | .register _ stamp envelope => (codec.encode stamp envelope).length < 4294967296
  | _ => True

section Reading
variable {codec : Codec} {frame : Frame} {msg : IncomingMessage} {frameAddr : Nat}

private theorem parseFrame_intact (received : Received codec frame) {parsed : Frame} (parses : parseFrame frame = some parsed) :
    Intact codec parsed := by
  unfold parseFrame at parses
  split at parses
  · cases parses
  next whole =>
    cases parses
    exact ⟨received.length, received.crc, Bool.eq_false_iff.mpr whole⟩

private theorem Bridge.readFrame_intact (received : Received codec frame) {bridge : Bridge}
    (reads : bridge.readFrame codec frame frameAddr = some msg) : Intact codec msg.frame := by
  unfold Bridge.readFrame at reads
  split at reads
  · cases reads
  next parsed parses =>
    split at reads
    · cases reads
    · cases reads
      exact (parseFrame_intact received parses).stripMac.retarget _

private theorem Reader.emits_intact (lawful : codec.Lawful) {reader : Reader} {limits : ReadLimits} {arrival : Arrival}
    (received : Received codec arrival.frame) (accounted : AllAccounted codec reader.map) {dispatch : Dispatch}
    (emitted : reader.emits codec limits arrival = some dispatch) : Intact codec dispatch.frame := by
  have steps := Reader.step_cases codec limits reader arrival
  rw [emitted] at steps
  generalize reader.step codec limits arrival = after at steps
  cases steps with
  | whole running clear whole => exact ⟨received.length, received.crc, whole⟩
  | completed running header entry buf stores complete =>
    have short := le_isizeMax (received.length ▸ received.short)
    exact assembled_intact (stores.accounted accounted (le_isizeMax lawful.cap) short) lawful.cap _

private theorem Conn.read_intact (lawful : codec.Lawful) {conn : Conn} (accounted : AllAccounted codec conn.reader.map) (link : Link)
    (tx : Tx) {frame : Option Frame} (received : ∀ read, frame = some read → Received codec read) (frameAddr : Nat)
    (now opened : Instant) :
    AllAccounted codec (conn.read codec link tx frame frameAddr now opened).conn.reader.map ∧
      ∀ msg, (conn.read codec link tx frame frameAddr now opened).msg = some msg → Intact codec msg.frame := by
  have reads := conn.read_outcomes codec link tx frame frameAddr now opened
  generalize conn.read codec link tx frame frameAddr now opened = reading at reads ⊢
  cases reads with
  | nothing => exact ⟨accounted, fun msg hands => absurd hands.symm (Option.some_ne_none msg)⟩
  | looped limits frame read =>
    have received := received frame read
    refine ⟨accounted.step (le_isizeMax lawful.cap) (le_isizeMax (received.length ▸ received.short)), fun msg hands => ?_⟩
    obtain ⟨dispatch, emitted, rfl⟩ := Option.map_eq_some_iff.mp hands
    exact Reader.emits_intact lawful received accounted emitted
  | parsed frame parsed read parses =>
    refine ⟨accounted, fun msg hands => ?_⟩
    cases hands
    exact parseFrame_intact (received frame read) parses
  | bridged bridge frame msg read reads =>
    refine ⟨accounted, fun other hands => ?_⟩
    cases hands
    exact Bridge.readFrame_intact (received frame read) reads

end Reading

/-- Frames are intact when they arrive, untagged in the channels and well formed on the
sockets. -/
structure Clean (codec : Codec) (links : Tx → Link) (node : Node) : Prop where
  arrived : ∀ msg ∈ node.arrived, Intact codec msg.frame
  buffered : ∀ tx, AllAccounted codec (node.conns tx).reader.map
  queued : ∀ tx frame, .frame frame ∈ (node.system.chans tx).queue → Intact codec frame ∧ Untagged frame
  written : ∀ tx item frame key, .wrote item frame key ∈ (node.conns tx).log →
    WellFormed codec (links tx).transport key frame

section Steps
variable {config : Config} {codec : Codec} {links : Tx → Link} {node : Node}

theorem Clean.setConn (clean : Clean codec links node) {own : Tx} {conn : Conn}
    (buffered : AllAccounted codec conn.reader.map)
    (written : ∀ item frame key, .wrote item frame key ∈ conn.log → WellFormed codec (links own).transport key frame) :
    Clean codec links (node.setConn own conn) where
  arrived := clean.arrived
  buffered := node.setConn_all (P := fun _ conn => AllAccounted codec conn.reader.map) buffered clean.buffered
  queued := clean.queued
  written := node.setConn_all (P := fun tx conn => ∀ item frame key, .wrote item frame key ∈ conn.log →
    WellFormed codec (links tx).transport key frame) written clean.written

theorem Clean.post (clean : Clean codec links node) (own : Tx) (envelope : Envelope) (awaited : Bool) :
    Clean codec links (node.post own envelope awaited) := by
  refine ⟨clean.arrived, clean.buffered, fun tx frame waits => ?_, clean.written⟩
  obtain ⟨placed, grown, sent⟩ := node.post_queue own envelope awaited tx
  rw [grown] at waits
  rcases List.mem_append.mp waits with before | added
  · exact clean.queued tx frame before
  · cases sent _ added

theorem Clean.read (lawful : codec.Lawful) (clean : Clean codec links node) (own : Tx) {frame : Option Frame}
    (received : ∀ read, frame = some read → Received codec read) (frameAddr : Nat) (now opened : Instant) :
    Clean codec links (node.read codec links own frame frameAddr now opened) := by
  have after : Clean codec links (node.afterRead own
      ((node.conns own).read codec (links own) own frame frameAddr now opened)) := by
    obtain ⟨accounted, intact⟩ := Conn.read_intact lawful (clean.buffered own) (links own) own received frameAddr now opened
    obtain ⟨log, -⟩ := (node.conns own).read_sending codec (links own) own frame frameAddr now opened
    apply Clean.setConn
    · refine ⟨fun msg member => ?_, clean.buffered, clean.queued, clean.written⟩
      rcases List.mem_append.mp member with before | added
      · exact clean.arrived msg before
      · exact intact msg (Option.mem_toList.mp added)
    · exact accounted
    · rw [log]
      exact clean.written own
  rcases node.read_cases codec links own frame frameAddr now opened with same | ⟨code, same⟩
  · rw [same]
    exact after
  · rw [same]
    exact after.post ..

theorem Outgoing.passed {frame passed : Frame} {sends : List Send} (outgoing : Outgoing frame sends) {send : Send}
    (member : send ∈ sends) (carries : send.item = .frame passed) : passed = frame.stripMac := by
  have enveloped : send.isEnvelope = true → passed = frame.stripMac := by
    intro envelope
    rw [Send.isEnvelope, carries] at envelope
    cases envelope
  cases outgoing with
  | replies all => exact enveloped (all.each send member)
  | passes each =>
    rcases each send member with envelope | same
    · exact enveloped envelope
    · rw [carries] at same
      exact Outbound.frame.inj same
  | arms own messageId granted key before after =>
    rcases List.mem_append.mp member with early | late
    · exact enveloped (before.each send early)
    · rcases List.mem_cons.mp late with rfl | late
      · exact enveloped rfl
      · rcases List.mem_cons.mp late with rfl | late
        · cases carries
        · exact enveloped (after.each send late)

theorem Clean.kernel (clean : Clean codec links node) {input : Input} (enters : Enters codec node (.kernel input)) :
    Clean codec links (node.step config codec links (.kernel input)) := by
  rcases node.step_kernel config codec links input with same | ⟨unread, same⟩
  · rw [same]
    exact clean
  · rw [same]
    refine ⟨clean.arrived, clean.buffered, fun tx frame waits => ?_, clean.written⟩
    change .frame frame ∈ ((node.system.step config input).chans tx).queue at waits
    cases node.system.step_sends config input with
    | delivered chans kinds =>
      obtain ⟨placed, grown, sent⟩ := System.foldl_put_queue node.system.chans (node.system.sends config input) tx
      rw [chans, grown] at waits
      rcases List.mem_append.mp waits with before | added
      · exact clean.queued tx frame before
      · obtain ⟨send, member, -, carries⟩ := sent _ added
        rcases kinds with enveloped | ⟨ambient, msg, rfl, outgoing⟩
        · have envelope := enveloped.each send member
          rw [Send.isEnvelope, carries] at envelope
          cases envelope
        · cases outgoing.passed member carries
          exact ⟨(clean.arrived msg enters).stripMac, stripMac_untagged _⟩
    | received own input => exact absurd input (unread own)
    | closed own input =>
      rw [input, System.close_queue] at waits
      exact clean.queued tx frame waits

private theorem Conn.outgoing_wellFormed (lawful : codec.Lawful) (conn : Conn) {item : Outbound} {stamp : Stamp} {frame : Frame}
    (built : item.built codec stamp = some frame)
    (short : ∀ sent, item = .envelope sent → (codec.encode stamp sent).length < 4294967296)
    (queued : ∀ passed, item = .frame passed → Intact codec passed ∧ Untagged passed) (transport : Transport) :
    WellFormed codec transport (conn.armedKey transport) (conn.outgoing codec transport frame) := by
  have clean : Intact codec frame ∧ Untagged frame := by
    cases item with
    | envelope sent =>
      cases built
      exact buildFrame_intact (short sent rfl) _
    | frame passed =>
      cases built
      exact queued frame rfl
    | enableMac key => cases built
  cases transport with
  | unix | webSocket => exact tag_wellFormed lawful clean.1 clean.2 _ _
  | bridge bridge =>
    change WellFormed codec _ bridge.key (bridge.writeFrame codec frame)
    unfold Bridge.writeFrame
    split
    · exact tag_wellFormed lawful (clean.1.retarget _) (clean.2.retarget _) _ _
    · exact tag_wellFormed lawful clean.1 clean.2 _ _

theorem Clean.writes (lawful : codec.Lawful) (clean : Clean codec links node) {own : Tx} {stamp : Stamp}
    {result : WriteResult} {item : Outbound} {rest : List Outbound} {conn : Conn}
    (waits : (node.system.chans own).queue = item :: rest)
    (short : ∀ sent, item = .envelope sent → (codec.encode stamp sent).length < 4294967296)
    (handled : (node.conns own).Writes codec (links own).transport stamp item result conn) :
    conn.reader = (node.conns own).reader ∧
      ∀ item frame key, .wrote item frame key ∈ conn.log → WellFormed codec (links own).transport key frame := by
  have before := clean.written own
  cases handled with
  | armed =>
    refine ⟨rfl, fun item frame tag written => ?_⟩
    rcases List.mem_append.mp written with early | late
    · exact before item frame tag early
    · cases List.mem_singleton.mp late
  | wrote built made =>
    refine ⟨rfl, fun item frame tag written => ?_⟩
    rcases List.mem_append.mp written with early | late
    · exact before item frame tag early
    · cases List.mem_singleton.mp late
      apply Conn.outgoing_wellFormed lawful _ made short
      intro passed same
      subst same
      exact clean.queued own passed (by rw [waits]; exact List.mem_cons_self)
  | ignored | tooLarge | failed => exact ⟨rfl, before⟩

theorem Clean.receive (clean : Clean codec links node) (own : Tx) :
    Clean codec links { node with system := node.system.step config (.receive own) } := by
  refine ⟨clean.arrived, clean.buffered, fun tx frame waiting => ?_, clean.written⟩
  change .frame frame ∈ (Function.update node.system.chans own (node.system.chans own).receive tx).queue at waiting
  by_cases here : tx = own
  · subst here
    rw [Function.update_self] at waiting
    exact clean.queued tx frame (List.mem_of_mem_tail waiting)
  · rw [Function.update_of_ne here] at waiting
    exact clean.queued tx frame waiting

theorem Clean.write (lawful : codec.Lawful) (clean : Clean codec links node) {own : Tx} {stamp : Stamp}
    {result : WriteResult} (enters : Enters codec node (.write own stamp result)) :
    Clean codec links (node.write config codec links own stamp result) := by
  have writes := node.write_cases config codec links own stamp result
  generalize node.write config codec links own stamp result = after at writes ⊢
  cases writes with
  | idle => exact clean
  | taken item rest conn waits running handled =>
    obtain ⟨reader, written⟩ := clean.writes lawful waits (fun sent same => enters sent rest (same ▸ waits)) handled
    refine (clean.receive own).setConn ?_ written
    rw [reader]
    exact clean.buffered own

theorem Clean.register (lawful : codec.Lawful) (clean : Clean codec links node) (own : Tx) {stamp : Stamp}
    {envelope : Envelope} (short : (codec.encode stamp envelope).length < 4294967296) : Clean codec links (node.register codec links own stamp envelope) := by
  rcases node.register_cases codec links own stamp envelope with same | same
  · rw [same]
    exact clean
  · rw [same]
    refine clean.setConn (clean.buffered own) fun item frame key written => ?_
    rcases List.mem_append.mp written with early | late
    · exact clean.written own item frame key early
    · cases List.mem_singleton.mp late
      obtain ⟨intact, untagged⟩ := @buildFrame_intact codec _ short "kernel"
      exact tag_wellFormed lawful intact untagged _ none

theorem Clean.step (lawful : codec.Lawful) (clean : Clean codec links node) {input : NodeInput}
    (enters : Enters codec node input) : Clean codec links (node.step config codec links input) := by
  cases input with
  | kernel input => exact clean.kernel enters
  | post own envelope awaited => exact clean.post own envelope awaited
  | read own frame frameAddr now opened =>
    refine clean.read lawful own (fun read same => ?_) frameAddr now opened
    subst same
    exact enters
  | write => exact clean.write lawful enters
  | register own stamp envelope => exact clean.register lawful own enters

end Steps

/-- In every run in which frames enter through `read_frame`, the router handles what has
arrived and the envelopes that are written fit the length field, all frames on all sockets
are well formed. -/
theorem written_frames_wellFormed (config : Config) (codec : Codec) (lawful : codec.Lawful) (links : Tx → Link)
    (inputs : List NodeInput) (enters : (Node.machine config codec links).Obeys (Enters codec) {} inputs) (tx : Tx)
    (item : Outbound) (frame : Frame) (key : Option SessionKey)
    (written : .wrote item frame key ∈ (((Node.machine config codec links).run inputs).conns tx).log) :
    WellFormed codec (links tx).transport key frame := by
  have initial : Clean codec links {} := by
    refine ⟨fun _ member => absurd member List.not_mem_nil, fun tx stream buf held => ?_,
      fun _ _ waits => absurd waits List.not_mem_nil, fun _ _ _ _ written => absurd written List.not_mem_nil⟩
    cases (DashMap.get_empty stream).symm.trans held
  have clean := @Machine.Obeys.run_preserves _ _ (Node.machine config codec links) (Clean codec links) (Enters codec)
    initial (fun node input enters clean => clean.step lawful enters) inputs enters
  exact clean.written tx item frame key written

instance encodableUInt8 : Encodable UInt8 := Encodable.ofLeftInjection UInt8.toNat (fun code => some (UInt8.ofNat code)) (by simp)

instance encodableChar : Encodable Char := Encodable.ofLeftInjection Char.toNat (fun code => some (Char.ofNat code)) (by simp)

instance encodableString : Encodable String :=
  Encodable.ofLeftInjection String.toList (fun chars => some (String.ofList chars)) (by simp)

deriving instance Encodable for ActionStatus, ErrorCode, EventPublishStatus, CommandStatus, DeviceOs, ActionSpec,
  PluginManifest, PluginRegister, PluginRegisterAck, ActionRequest, ActionResponse, ActionRequestChunk,
  ActionResponseChunk, ActionStreamAbort, SessionClose, LifecycleInfo, EventPayload, Event, KernelCommand,
  KernelCommandAck, Payload, Envelope

def numberCodec : Codec := { sampleCodec with
  encode := fun _ envelope => (Nat.digits 256 (Encodable.encode envelope)).map UInt8.ofNat
  decode := fun bytes => Encodable.decode (Nat.ofDigits 256 (bytes.map UInt8.toNat)) }

private theorem numberCodec_roundTrip (stamp : Stamp) (envelope : Envelope) :
    numberCodec.decode (numberCodec.encode stamp envelope) = some envelope := by
  have digits : ((Nat.digits 256 (Encodable.encode envelope)).map UInt8.ofNat).map UInt8.toNat =
      Nat.digits 256 (Encodable.encode envelope) := by
    rw [List.map_map]
    refine (List.map_congr_left fun digit member => ?_).trans (List.map_id _)
    exact UInt8.toNat_ofNat_of_lt' (Nat.digits_lt_base (by decide) member)
  simp only [numberCodec, digits, Nat.ofDigits_digits, Encodable.encodek]

private theorem numberCodec_lawful : numberCodec.Lawful where
  header _ := rfl
  tag key _ _ := by simp [numberCodec, sampleCodec]
  cap := by decide

/-- A frame of the app on connection 2 for the host on connection 1, which has a key. -/
def greeting : Frame where
  length := 3
  target := some "host"
  crc32 := 3
  payload := .raw [1, 2, 3]

def forwarding : List NodeInput :=
  [.kernel (.call (.registerWithDevice ⟨0, 0⟩ "host" 1 {} 1 {})),
   .kernel (.call (.registerWithDevice ⟨0, 0⟩ "app" 2 { permissions := ["ipc_send"], ipcTargets := ["host"] } 2 {})),
   .read 2 (some greeting) 0 0 0, .kernel (.message {} ⟨2, greeting, 2, 0⟩), .write 1 {} .ok]

def pinging : List NodeInput := [.post 1 { payload := .ping 0 } false, .write 1 {} .ok]

theorem written_frames_wellFormed_forwarding :
    let ping := numberCodec.buildFrame "client" 0 (numberCodec.encode {} { payload := .ping 0 })
    (∀ stamp envelope, numberCodec.decode (numberCodec.encode stamp envelope) = some envelope) ∧
    ((((Node.machine {} numberCodec fun tx => ⟨tx, .unix {}⟩).run forwarding).conns 1).log = [.wrote (.frame greeting) greeting none]) ∧
    WellFormed numberCodec (.unix {}) none greeting ∧ WellFormed numberCodec (.unix {}) none ping := by
  intro ping
  have log : (((Node.machine {} numberCodec fun tx => ⟨tx, .unix {}⟩).run forwarding).conns 1).log =
      [.wrote (.frame greeting) greeting none] := by decide +kernel
  have pinged : (((Node.machine {} numberCodec fun tx => ⟨tx, .unix {}⟩).run pinging).conns 1).log =
      [.wrote (.envelope { payload := .ping 0 }) ping none] := rfl
  refine ⟨numberCodec_roundTrip, log, ?_, ?_⟩
  · refine written_frames_wellFormed {} numberCodec numberCodec_lawful (fun tx => ⟨tx, .unix {}⟩) forwarding ?_ 1
      (.frame greeting) greeting none (by rw [log]; exact List.mem_singleton.mpr rfl)
    have queue : (((Node.machine {} numberCodec fun tx => ⟨tx, .unix {}⟩).run (forwarding.take 4)).system.chans 1).queue =
        [.frame greeting] := by decide +kernel
    refine ⟨trivial, trivial, ⟨rfl, by decide, rfl, rfl⟩, ?_, fun sent rest waits => ?_, trivial⟩
    · change (_ : IncomingMessage) ∈ (_ : List IncomingMessage)
      decide +kernel
    · cases queue.symm.trans waits
  · refine written_frames_wellFormed {} numberCodec numberCodec_lawful (fun tx => ⟨tx, .unix {}⟩) pinging ?_ 1
      (.envelope { payload := .ping 0 }) ping none (by rw [pinged]; exact List.mem_singleton.mpr rfl)
    refine ⟨trivial, fun sent rest waits => ?_, trivial⟩
    cases waits
    decide +kernel

end Vynkor
