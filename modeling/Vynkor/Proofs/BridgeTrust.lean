import Vynkor.Lib.Machine
import Vynkor.Proofs.BridgeStatuses

/-! What a bridge believes of its host. A session that has a key trusts only frames whose
tag verifies: no other frame reaches the local router, and none makes the bridge report
`Connected`. -/

namespace Vynkor
open Lib

namespace BridgeTask
variable (codec : Codec) (config : SessionConfig)

/-- The input brings a frame that the session under way accepts. -/
structure Takes (task : BridgeTask) (input : BridgeInput) (session : Session) (frame : Frame) (frameAddr : Nat) : Prop where
  stage : task.stage = .relaying session
  arrives : ∃ event clock, input = .arrives event clock frameAddr ∧ event.frame = .ok (some frame)
  admitted : session.admits codec frame = true

/-- An ack of the host opened the session, and its nonce gives the session its key. -/
def Acked (inputs : List BridgeInput) (session : Session) : Prop :=
  ∃ first event clock frameAddr rest frame envelope ack, inputs = first ++ .arrives event clock frameAddr :: rest ∧
    ((machine codec config).run first).stage = .registering session.transport ∧
    ((machine codec config).run first).sessions = session.hostTx ∧
    event.frame = .ok (some frame) ∧ frame.payload.decode = some envelope ∧ envelope.payload = .pluginRegisterAck ack ∧
    ack.accepted = true ∧ session.key = config.sessionKey ack.sessionNonce

/-- After `before` the run takes a frame, in a session that an ack has opened. -/
structure Accepts (inputs before : List BridgeInput) (session : Session) (frame : Frame) (frameAddr : Nat) : Prop where
  taken : ∃ input after, inputs = before ++ input :: after ∧
    ((machine codec config).run before).Takes codec input session frame frameAddr
  acked : Acked codec config before session

/-- The session of a stage, from the ack to the end of the read loop. -/
def session : BridgeStage → Option Session
  | .opening session | .relaying session | .unregistering session _ | .forgetting session _ => some session
  | _ => none

section
variable {codec config}

private theorem reply_acked {frame : Frame} {key : Option SessionKey} (acked : config.reply frame = .ok (some key)) :
    ∃ envelope ack, frame.payload.decode = some envelope ∧ envelope.payload = .pluginRegisterAck ack ∧
      ack.accepted = true ∧ key = config.sessionKey ack.sessionNonce := by
  simp only [SessionConfig.reply] at acked
  split at acked
  · cases acked
  next envelope decoded =>
    split at acked
    next ack payload =>
      split at acked
      next accepted =>
        cases acked
        exact ⟨envelope, ack, decoded, payload, accepted, rfl⟩
      · cases acked
    · cases acked
    · cases acked

private theorem dialNext_session (task : BridgeTask) (lastError : Option BridgeError) (transports : List TransportConfig) :
    session (task.dialNext lastError transports).stage = none := by
  cases transports <;> rfl

theorem Acked.later {inputs : List BridgeInput} {current : Session} (acked : Acked codec config inputs current)
    (input : BridgeInput) : Acked codec config (inputs ++ [input]) current := by
  obtain ⟨first, event, clock, frameAddr, rest, frame, envelope, ack, rfl, opened⟩ := acked
  exact ⟨first, event, clock, frameAddr, rest ++ [input], frame, envelope, ack, by simp, opened⟩

end

theorem acked (inputs : List BridgeInput) (current : Session)
    (here : session ((machine codec config).run inputs).stage = some current) : Acked codec config inputs current := by
  induction inputs using List.reverseRecOn generalizing current with
  | nil =>
    change session (dialNext ..).stage = _ at here
    rw [dialNext_session] at here
    cases here
  | append_singleton inputs input ih =>
    rw [Machine.run_snoc] at here
    have moved := step_moves codec config ((machine codec config).run inputs) input
    change session (step codec config _ input).stage = _ at here
    generalize step codec config ((machine codec config).run inputs) input = after at moved here
    cases moved with
    | stay | called | deserted => exact (ih current here).later _
    | tried | woken =>
      change session (dialNext ..).stage = _ at here
      rw [dialNext_session] at here
      cases here
    | opened transport event clock frameAddr frame key entry stage arrived acked =>
      cases here
      obtain ⟨envelope, ack, decoded, payload, accepted, nonce⟩ := reply_acked acked
      exact ⟨inputs, event, clock, frameAddr, [], frame, envelope, ack, rfl, stage, rfl, arrived, decoded, payload, accepted,
        nonce⟩
    | left earlier _ _ _ _ stage | orphaned earlier _ _ _ _ stage | relayed earlier _ _ _ _ stage | joined earlier _ stage
    | unregistered earlier _ _ stage =>
      rw [← Option.some.inj here]
      exact (ih earlier (by rw [stage]; rfl)).later _
    | reached | greeted | ungreeted | refused | clashed | forgotten | finished | failed => cases here

section
variable {codec config} {task after : BridgeTask} {input : BridgeInput} {transport : TransportKind}

private theorem confirm_status {session : Session} (connected : (task.confirm session).status = .connected transport)
    (fresh : task.status ≠ .connected transport) : session.transport = transport := by
  simp only [confirm] at connected
  split at connected
  · cases connected
    rfl
  · exact absurd connected fresh

private theorem dialNext_unconnected {lastError : Option BridgeError} {transports : List TransportConfig}
    (fresh : task.status ≠ .connected transport) : (task.dialNext lastError transports).status ≠ .connected transport := by
  intro connected
  cases transports with
  | nil => exact fresh connected
  | cons => cases connected

private theorem Moves.connects (moved : Moves codec config task input after) (connected : after.status = .connected transport)
    (fresh : task.status ≠ .connected transport) :
    ∃ session frame frameAddr, task.Takes codec input session frame frameAddr ∧ session.transport = transport ∧
      after.sessions = task.sessions := by
  cases moved with
  | orphaned session event clock frameAddr frame stage arrived admitted
  | relayed session event clock frameAddr frame stage arrived admitted =>
    exact ⟨session, frame, frameAddr, ⟨stage, ⟨event, clock, rfl, arrived⟩, admitted⟩, confirm_status connected fresh,
      confirm_sessions task session⟩
  | tried | woken => exact absurd connected (dialNext_unconnected fresh)
  | failed => cases connected
  | stay | reached | greeted | ungreeted | refused | clashed | opened | left | joined | unregistered | forgotten
  | finished | called | deserted => exact absurd connected fresh

theorem Moves.sessions (moved : Moves codec config task input after) (announced : task.Announced config)
    (connected : task.status = .connected transport) : after.sessions = task.sessions := by
  have busy {other : TransportKind} (stage : task.stage = .registering other) : False := by
    have trying := announced.staged
    simp only [Staged, stage] at trying
    rw [status_of_head trying.1] at connected
    cases connected
  cases moved with
  | clashed _ _ _ _ _ stage | opened _ _ _ _ _ _ _ stage => exact (busy stage).elim
  | orphaned session | relayed session => exact confirm_sessions task session
  | tried | woken => exact dialNext_sessions ..
  | stay | reached | greeted | ungreeted | refused | left | joined | unregistered | forgotten | finished | failed
  | called | deserted => rfl

theorem Moves.routes {message : IncomingMessage} (moved : Moves codec config task input after)
    (routed : message ∈ after.routed) (fresh : message ∉ task.routed) :
    ∃ session frame frameAddr, task.Takes codec input session frame frameAddr ∧
      message = (Bridge.mk config.deviceId session.hostTx session.key).hostMessage codec frame frameAddr := by
  cases moved with
  | relayed session event clock frameAddr frame stage arrived admitted =>
    rcases List.mem_append.mp routed with old | new
    · exact absurd old fresh
    · exact ⟨session, frame, frameAddr, ⟨stage, ⟨event, clock, rfl, arrived⟩, admitted⟩, List.mem_singleton.mp new⟩
  | orphaned => exact absurd (by simpa [leave] using routed) fresh
  | tried => exact absurd (by simpa using routed) fresh
  | woken => exact absurd (by simpa [oneCycle] using routed) fresh
  | stay | reached | greeted | ungreeted | refused | clashed | opened | left | joined | unregistered | forgotten
  | finished | failed | called | deserted => exact absurd routed fresh

end

private theorem accepts_of_takes {before after : List BridgeInput} {input : BridgeInput} {session : Session} {frame : Frame}
    {frameAddr : Nat} (takes : ((machine codec config).run before).Takes codec input session frame frameAddr) :
    Accepts codec config (before ++ input :: after) before session frame frameAddr :=
  ⟨⟨input, after, rfl, takes⟩, acked codec config before session (by rw [takes.stage]; rfl)⟩

/-- Whenever the bridge reports `Connected`, its latest session has accepted a frame, and
everything it hands to the router was accepted in the session it came in: under the key of
the ack, if there is one. -/
theorem bridge_trusts_verified_frames (codec : Codec) (config : SessionConfig) (inputs : List BridgeInput) :
    (∀ transport, ((machine codec config).run inputs).status = .connected transport →
      ∃ before session frame frameAddr, Accepts codec config inputs before session frame frameAddr ∧
        session.transport = transport ∧
        ((machine codec config).run inputs).sessions = ((machine codec config).run before).sessions) ∧
    ∀ message ∈ ((machine codec config).run inputs).routed,
      ∃ before session frame frameAddr, Accepts codec config inputs before session frame frameAddr ∧
        message = (Bridge.mk config.deviceId session.hostTx session.key).hostMessage codec frame frameAddr := by
  refine ⟨fun transport connected => ?_, fun message routed => ?_⟩
  · obtain ⟨before, input, after, rfl, fresh, rising, kept⟩ :=
      Machine.last_rise (fun task : BridgeTask => task.status = .connected transport)
        (dialNext_unconnected fun never => by cases never) connected
    obtain ⟨session, frame, frameAddr, takes, same, numbered⟩ := (step_moves codec config _ input).connects rising fresh
    refine ⟨before, session, frame, frameAddr, accepts_of_takes codec config takes, same, ?_⟩
    calc ((machine codec config).run (before ++ input :: after)).sessions
        = ((machine codec config).run (before ++ [input])).sessions := by
          apply Machine.constant_since (fun task => task.status = .connected transport) BridgeTask.sessions kept
          intro inputs next connected
          rw [Machine.run_snoc]
          exact (step_moves codec config _ next).sessions (announced codec config inputs) connected
      _ = ((machine codec config).run before).sessions := by
          rw [Machine.run_snoc]
          exact numbered
  · obtain ⟨before, input, after, rfl, fresh, rising, -⟩ :=
      Machine.last_rise (fun task : BridgeTask => message ∈ task.routed) (by simp [machine, oneCycle]) routed
    obtain ⟨session, frame, frameAddr, takes, same⟩ := (step_moves codec config _ input).routes rising fresh
    exact ⟨before, session, frame, frameAddr, accepts_of_takes codec config takes, same⟩

/-! A laptop with a paired secret: the host acks its registration and answers its probe. -/

def laptop : SessionConfig where
  bridge := { hostUrl := "wss://host:8080/ws", token := some "token", mirror := ["camera"] }
  deviceId := "laptop"
  secret := some "secret"

def laptopAck : Frame where
  target := some "client"
  payload := .envelope { payload := .pluginRegisterAck ⟨true, "", [], [7]⟩ }

def laptopPong : Frame :=
  sampleCodec.tag (laptop.sessionKey [7]) { target := some "client", payload := .envelope { payload := .pong 1 2 } }

def laptopRun : List BridgeInput :=
  [.dialled (.ok ()), .greeted (.ok ()), .arrives (.binary (.ok laptopAck)) ⟨0, 0⟩ 0, .goOn (Shuffle.unchanged String),
    .arrives (.binary (.ok laptopPong)) ⟨0, 0⟩ 1]

theorem bridge_trusts_verified_frames_laptop :
    ((machine sampleCodec laptop).run laptopRun).status = .connected .direct ∧
    ∃ before session frame frameAddr, Accepts sampleCodec laptop laptopRun before session frame frameAddr ∧
      session.transport = .direct ∧
      ((machine sampleCodec laptop).run laptopRun).sessions = ((machine sampleCodec laptop).run before).sessions :=
  ⟨by decide, (bridge_trusts_verified_frames sampleCodec laptop laptopRun).1 .direct (by decide)⟩

end BridgeTask
end Vynkor
