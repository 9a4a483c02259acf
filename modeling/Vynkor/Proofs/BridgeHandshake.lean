import Vynkor.Proofs.BridgeTrust
import Vynkor.Proofs.GrantedPermissions

/-! The two ends of a bridge. The host derives the key of a session from the secret in the
device's row, the client from its own; the first frame that the host tags shows whether
they are the same. -/

namespace Vynkor
open Lib

section Host
variable {config : Config} {ambient : Ambient} {kernel : Kernel} {msg : IncomingMessage} {messageId : String}
  {register : PluginRegister} {tx : Tx} {id : String} {ack : PluginRegisterAck}

private theorem acknowledge_key {secret : Option String} {result : Except VynkorError Unit} (accepted : ack.accepted = true)
    (sent : sendEnvelope tx { messageId := id, payload := .pluginRegisterAck ack } ∈
      acknowledge config ambient kernel msg messageId register secret result) :
    ack.sessionNonce = (if config.macSecret then ambient.nonce else []) ∧
    (config.macSecret = true →
      ⟨msg.writeTx, .enableMac ⟨keyMaterial config secret register.pluginId, ambient.nonce, register.pluginId⟩, none⟩ ∈
        acknowledge config ambient kernel msg messageId register secret result) := by
  obtain ⟨rfl, -⟩ := mem_acknowledge accepted sent
  simp only [acknowledge, List.cons_append] at sent ⊢
  constructor
  · rcases List.mem_cons.mp sent with answer | rest
    · cases answer
      rfl
    · rcases List.mem_append.mp rest with key | event
      · split at key
        · cases List.mem_singleton.mp key
        · cases key
      · obtain ⟨other, same⟩ := EventBus.mem_publish event
        cases same
  · intro secured
    simp [secured]

private theorem accepted_registration_key (accepted : ack.accepted = true)
    (sent : sendEnvelope tx { messageId := id, payload := .pluginRegisterAck ack } ∈
      (handlePluginRegister config ambient kernel msg messageId register).sends) :
    ∃ secret, deviceSecret config ambient register = .ok secret ∧
      ack.sessionNonce = (if config.macSecret then ambient.nonce else []) ∧
      (config.macSecret = true →
        ⟨msg.writeTx, .enableMac ⟨keyMaterial config secret register.pluginId, ambient.nonce, register.pluginId⟩, none⟩ ∈
          (handlePluginRegister config ambient kernel msg messageId register).sends) := by
  simp only [handlePluginRegister] at sent ⊢
  generalize (if register.protocolVersion = "" then ProtocolCheck.supported
    else checkProtocolVersion config register.protocolVersion) = check at sent ⊢
  cases check with
  | rejected reason => cases List.mem_singleton.mp sent
  | supported | newerMinor =>
    cases authentic : authenticate config ambient.clock register (register.manifest.getD {}) with
    | error reason =>
      rw [authentic] at sent
      cases List.mem_singleton.mp sent
      cases accepted
    | ok manifest =>
      rw [authentic] at sent
      cases known : deviceSecret config ambient register with
      | error reason =>
        rw [known] at sent
        cases List.mem_singleton.mp sent
        cases accepted
      | ok secret =>
        rw [known] at sent
        obtain ⟨nonce, armed⟩ := acknowledge_key accepted ((List.mem_append.mp sent).resolve_left ack_not_evicted)
        exact ⟨secret, rfl, nonce, fun secured => List.mem_append_right _ (armed secured)⟩

end Host

/-- What the header and the tags of the wire crate guarantee. -/
structure Codec.Tagging (codec : Codec) : Prop where
  header : ∀ (frame : Frame) mac, codec.serializeHeader { frame with mac } = codec.serializeHeader frame
  verifies : ∀ key header payload, codec.verifyTag key header payload (codec.computeTag key header payload) = true

def Codec.Distinguishes (codec : Codec) (key other : SessionKey) : Prop :=
  ∀ header payload, codec.verifyTag key header payload (codec.computeTag other header payload) = false

def Frame.marked (frame : Frame) : Frame := { frame with flags := frame.flags ||| flagMacPresent }

section Tags
variable {codec : Codec} {key other : SessionKey} {frame : Frame}

private theorem tagPresent_tag : Codec.tagPresent (codec.tag (some key) frame) = true := by
  have set : (frame.flags ||| flagMacPresent) &&& flagMacPresent = flagMacPresent := by
    ext place
    simp only [BitVec.getElem_and, BitVec.getElem_or]
    cases frame.flags[place] <;> simp
  simp only [Codec.tagPresent, Codec.tag, Frame.hasFlag, set]
  rfl

private theorem verified_tag (tagging : codec.Tagging) :
    codec.verified key (codec.tag (some other) frame) =
      codec.verifyTag key (codec.serializeHeader frame.marked) frame.bytes
        (codec.computeTag other (codec.serializeHeader frame.marked) frame.bytes) := by
  rw [Codec.verified, tagPresent_tag, Bool.true_and]
  have same := tagging.header frame.marked
    (some (codec.computeTag other (codec.serializeHeader frame.marked) frame.bytes))
  change codec.verifyTag key (codec.serializeHeader { frame.marked with
    mac := some (codec.computeTag other (codec.serializeHeader frame.marked) frame.bytes) }) frame.bytes _ = _
  rw [same]
  rfl

end Tags

namespace BridgeTask

section
variable {codec : Codec} {client : SessionConfig} {task : BridgeTask} {transport : TransportKind} {event : WsEvent}
  {frame : Frame} {key : Option SessionKey}

private theorem step_of_ack (codec : Codec) (stage : task.stage = .registering transport) (arrived : event.frame = .ok (some frame))
    (acked : client.reply frame = .ok (some key)) (clock : Clock)
    (free : (task.registry.registerWithDevice clock client.deviceId bridgeConnIdBase client.localManifest task.sessions
      client.deviceMeta).2 = .ok ()) (frameAddr : Nat) (shuffle : Shuffle String) :
    let joined := (machine codec client).runFrom task [.arrives event clock frameAddr, .goOn shuffle]
    joined.stage = .relaying ⟨transport, task.sessions, key, true⟩ ∧ joined.published = task.published ∧
      joined.backoff = task.backoff := by
  cases registered : task.registry.registerWithDevice clock client.deviceId bridgeConnIdBase client.localManifest
      task.sessions client.deviceMeta with
  | mk registry result =>
    rw [registered] at free
    cases free
    simp [machine, step, stage, awaitAck, arrived, acked, openSession, registered, goOn]

private theorem step_of_frame {session : Session} (stage : task.stage = .relaying session) (waiting : session.pending = true)
    (arrived : event.frame = .ok (some frame)) (admitted : session.admits codec frame = true) (clock : Clock)
    (frameAddr : Nat) :
    (task.step codec client (.arrives event clock frameAddr)).status = .connected session.transport := by
  simp only [step, stage, readLoop, arrived, admitted, Bool.not_true, Bool.false_eq_true, if_false]
  split
  · simp [leave, confirm, waiting, status, publish]
  · simp [confirm, waiting, status, publish]

private theorem steps_of_forgery {session : Session} (stage : task.stage = .relaying session)
    (trying : task.Trying transport) (arrived : event.frame = .ok (some frame))
    (refused : session.admits codec frame = false) (clock : Clock) (frameAddr : Nat)
    (shuffle : Shuffle String) :
    ((machine codec client).runFrom task
      [.arrives event clock frameAddr, .goOn shuffle, .goOn shuffle, .goOn shuffle]).published =
        .failed .auth "frame MAC verification failed" (BridgeStatus.pause task.published) :: task.published := by
  have left : (machine codec client).step task (.arrives event clock frameAddr) = task.leave session .mac := by
    simp [machine, step, stage, readLoop, arrived, refused]
  rw [Machine.runFrom_cons, left, ← report_pause ⟨transport, .inl trying⟩]
  rfl

private theorem admits_host_frame {session : Session} {key hostKey : SessionKey} {frame : Frame} (tagging : codec.Tagging)
    (keyed : session.key = some key) :
    session.admits codec (codec.tag (some hostKey) frame) =
      codec.verifyTag key (codec.serializeHeader frame.marked) frame.bytes
        (codec.computeTag hostKey (codec.serializeHeader frame.marked) frame.bytes) := by
  rw [Session.admits, keyed, Option.all_some, verified_tag tagging]

end

/-- The host accepts the client's registration with the secret of the device's row and arms
a key for it. The client that reads the ack and then a frame under that key is connected if
it has the same secret; with another one all that it reports, from the ack on, is the failure
of its credentials. -/
theorem handshake_settles_secret (codec : Codec) (tagging : codec.Tagging) (host : Config) (ambient : Ambient)
    (kernel : Kernel) (msg : IncomingMessage) (messageId secret : String) (ack : PluginRegisterAck)
    (client : SessionConfig) (secured : host.macSecret = true) (stored : host.deviceStore = true)
    (row : ambient.activeSecret = .ok (some secret)) (nonce : ambient.nonce ≠ []) (named : client.deviceId ≠ "")
    (accepted : ack.accepted = true)
    (sent : sendEnvelope msg.writeTx { messageId, payload := .pluginRegisterAck ack } ∈
      (handlePluginRegister host ambient kernel msg messageId client.register).sends)
    (inputs : List BridgeInput) (transport : TransportKind)
    (stage : ((machine codec client).run inputs).stage = .registering transport) :
    let hostKey : SessionKey := ⟨.device secret, ambient.nonce, client.deviceId⟩
    let task := (machine codec client).run inputs
    ⟨msg.writeTx, .enableMac hostKey, none⟩ ∈
      (handlePluginRegister host ambient kernel msg messageId client.register).sends ∧
    ∀ event clock frameAddr shuffle frame reply plain, event.frame = .ok (some frame) →
      frame.payload.decode = some { messageId, payload := .pluginRegisterAck ack } →
      (task.registry.registerWithDevice clock client.deviceId bridgeConnIdBase client.localManifest task.sessions
        client.deviceMeta).2 = .ok () →
      reply.frame = .ok (some (codec.tag (some hostKey) plain)) →
      (client.secret = some secret →
        ((machine codec client).run (inputs ++ [.arrives event clock frameAddr, .goOn shuffle] ++
          [.arrives reply clock frameAddr])).status = .connected transport) ∧
      ∀ wrong, client.secret = some wrong →
        codec.Distinguishes ⟨.device wrong, ambient.nonce, client.deviceId⟩ hostKey →
        ((machine codec client).run (inputs ++ [.arrives event clock frameAddr, .goOn shuffle] ++
          [.arrives reply clock frameAddr, .goOn shuffle, .goOn shuffle, .goOn shuffle])).published =
            .failed .auth "frame MAC verification failed" (BridgeStatus.pause task.published) :: task.published := by
  intro hostKey task
  obtain ⟨held, known, sameNonce, armed⟩ := accepted_registration_key accepted sent
  have isRow : held = some secret := by
    simpa [deviceSecret, SessionConfig.register, named, secured, stored, row] using known.symm
  subst isRow
  rw [if_pos secured] at sameNonce
  refine ⟨armed secured, ?_⟩
  intro event clock frameAddr shuffle frame reply plain arrived decoded free answered
  -- The key of the client's session: the nonce is the host's, the secret its own.
  have acked (own : String) (has : client.secret = some own) :
      client.reply frame = .ok (some (some ⟨.device own, ambient.nonce, client.deviceId⟩)) := by
    simp [SessionConfig.reply, decoded, accepted, SessionConfig.sessionKey, has, sameNonce, nonce]
  have joined (own : String) (has : client.secret = some own) :=
    step_of_ack codec stage arrived (acked own has) clock free frameAddr shuffle
  have trying : task.Trying transport := by
    have staged := (announced codec client inputs).staged
    simp only [Staged, stage] at staged
    exact staged
  refine ⟨fun has => ?_, fun wrong has distinguished => ?_⟩
  · obtain ⟨relaying, -, -⟩ := joined secret has
    rw [List.append_assoc, Machine.run_append, Machine.runFrom_append]
    apply step_of_frame relaying rfl answered
    rw [admits_host_frame tagging rfl]
    exact tagging.verifies ..
  · obtain ⟨relaying, published, backoff⟩ := joined wrong has
    rw [List.append_assoc, Machine.run_append, Machine.runFrom_append, ← published]
    apply steps_of_forgery relaying
    · rw [Trying, published, backoff]
      exact trying
    · exact answered
    · rw [admits_host_frame tagging rfl]
      exact distinguished ..

/-! The laptop registers with a host that has its row. -/

def pairedHost : Config where
  macSecret := true
  deviceStore := true

def pairedAmbient : Ambient where
  activeSecret := .ok (some "secret")
  nonce := [7]

def laptopRegister : IncomingMessage where
  connId := 1000000001
  frame := { target := some "kernel", payload := .envelope { payload := .pluginRegister laptop.register } }
  writeTx := 9

def pairedAck : PluginRegisterAck where
  accepted := true
  rejectReason := ""
  grantedPermissions := ["PERMISSION_IPC_SEND", "PERMISSION_EVENT_PUBLISH"]
  sessionNonce := [7]

def pairedAckEvent : WsEvent :=
  .binary (.ok { target := some "client", payload := .envelope { payload := .pluginRegisterAck pairedAck } })

theorem handshake_settles_secret_laptop :
    ⟨9, .enableMac ⟨.device "secret", [7], "laptop"⟩, none⟩ ∈
      (handlePluginRegister pairedHost pairedAmbient {} laptopRegister "" laptop.register).sends ∧
    ((machine sampleCodec laptop).run ([.dialled (.ok ()), .greeted (.ok ())] ++
      [.arrives pairedAckEvent ⟨0, 0⟩ 0, .goOn (Shuffle.unchanged String)] ++
      [.arrives (.binary (.ok laptopPong)) ⟨0, 0⟩ 0])).status = .connected .direct := by
  have tagging : sampleCodec.Tagging := ⟨fun _ _ => rfl, fun _ _ _ => beq_self_eq_true _⟩
  obtain ⟨armed, settled⟩ := handshake_settles_secret sampleCodec tagging pairedHost pairedAmbient {} laptopRegister ""
    "secret" pairedAck laptop rfl rfl rfl (by decide) (by decide) rfl (by decide) [.dialled (.ok ()), .greeted (.ok ())]
    .direct rfl
  exact ⟨armed, (settled _ _ _ _ _ _ { target := some "client", payload := .envelope { payload := .pong 1 2 } } rfl rfl
    (by decide) rfl).1 rfl⟩

end BridgeTask
end Vynkor
