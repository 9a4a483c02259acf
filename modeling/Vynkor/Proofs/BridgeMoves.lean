import Vynkor.Bridge.Session
import Vynkor.Proofs.RegistryCalls

/-! What one step of the bridge task does. -/

namespace Vynkor
open Lib

namespace BridgeTask

section Fields
variable (task : BridgeTask) (session : Session) (lastError : Option BridgeError) (transports : List TransportConfig)

@[simp] theorem dialNext_sessions : (task.dialNext lastError transports).sessions = task.sessions := by
  cases transports <;> rfl

@[simp] theorem dialNext_routed : (task.dialNext lastError transports).routed = task.routed := by
  cases transports <;> rfl

@[simp] theorem confirm_conns : (task.confirm session).conns = task.conns := by
  simp only [confirm]
  split <;> rfl

@[simp] theorem confirm_registry : (task.confirm session).registry = task.registry := by
  simp only [confirm]
  split <;> rfl

@[simp] theorem confirm_sessions : (task.confirm session).sessions = task.sessions := by
  simp only [confirm]
  split <;> rfl

@[simp] theorem confirm_routed : (task.confirm session).routed = task.routed := by
  simp only [confirm]
  split <;> rfl

end Fields

/-- The steps that change anything, with the circumstances in which they are taken. -/
inductive Moves (codec : Codec) (config : SessionConfig) (task : BridgeTask) : BridgeInput → BridgeTask → Prop
  | stay (input) : Moves codec config task input task
  | tried (transport rest error) (stage : task.stage = .dialing transport rest) :
      Moves codec config task (.dialled (.error error)) (task.dialNext (some error) rest)
  | reached (transport rest) (stage : task.stage = .dialing transport rest) :
      Moves codec config task (.dialled (.ok ())) { task with stage := .greeting transport.kind }
  | greeted (transport) (stage : task.stage = .greeting transport) :
      Moves codec config task (.greeted (.ok ())) { task with stage := .registering transport }
  | ungreeted (transport error) (stage : task.stage = .greeting transport) :
      Moves codec config task (.greeted (.error error)) { task with stage := .reporting (.error (.dialling error)) }
  | refused (transport event clock frameAddr error) (stage : task.stage = .registering transport) :
      Moves codec config task (.arrives event clock frameAddr) { task with stage := .reporting (.error error) }
  | clashed (transport event clock frameAddr reason) (stage : task.stage = .registering transport) :
      Moves codec config task (.arrives event clock frameAddr) { task with
        sessions := task.sessions + 1
        stage := .reporting (.error (.register reason)) }
  | opened (transport event clock frameAddr frame key) (entry : PluginEntry) (stage : task.stage = .registering transport)
      (arrived : event.frame = .ok (some frame)) (acked : config.reply frame = .ok (some key))
      (entryId : entry.pluginId = config.deviceId) (entryTx : entry.writeTx = task.sessions) :
      Moves codec config task (.arrives event clock frameAddr) { task with
        registry := task.registry.enroll clock entry config.deviceMeta config.deviceMeta.capabilities
        sessions := task.sessions + 1
        stage := .opening ⟨transport, task.sessions, key, true⟩ }
  | left (session event clock frameAddr error) (stage : task.stage = .relaying session) :
      Moves codec config task (.arrives event clock frameAddr) (task.leave session error)
  | orphaned (session event clock frameAddr frame) (stage : task.stage = .relaying session)
      (arrived : event.frame = .ok (some frame)) (admitted : session.admits codec frame = true) :
      Moves codec config task (.arrives event clock frameAddr)
        ((task.confirm session).leave { session with pending := false } .shutdown)
  | relayed (session event clock frameAddr frame) (stage : task.stage = .relaying session)
      (arrived : event.frame = .ok (some frame)) (admitted : session.admits codec frame = true) :
      Moves codec config task (.arrives event clock frameAddr) { task.confirm session with
        stage := .relaying { session with pending := false }
        routed := task.routed ++
          [(Bridge.mk config.deviceId session.hostTx session.key).hostMessage codec frame frameAddr] }
  | joined (session shuffle) (stage : task.stage = .opening session) :
      Moves codec config task (.goOn shuffle) { task with
        conns := task.conns ++ [session.hostTx]
        stage := .relaying session }
  | unregistered (session error shuffle) (stage : task.stage = .unregistering session error) :
      Moves codec config task (.goOn shuffle) { task with
        registry := (task.registry.unregister shuffle config.deviceId).registry
        stage := .forgetting session error }
  | forgotten (session error shuffle) (stage : task.stage = .forgetting session error) :
      Moves codec config task (.goOn shuffle) { task with
        conns := task.conns.filter (· != session.hostTx)
        stage := .reporting (.error error) }
  | finished (backoff shuffle) (stage : task.stage = .reporting (.error .shutdown)) :
      Moves codec config task (.goOn shuffle) { task with backoff, stage := .stopped }
  | failed (kind detail result shuffle) (stage : task.stage = .reporting result) :
      Moves codec config task (.goOn shuffle) {
        task.publish (.failed kind detail (if task.status.isConnected then secs 1 else task.backoff)) with
        backoff := if task.status.isConnected then secs 1 else task.backoff
        stage := .sleeping }
  | woken (shuffle) (stage : task.stage = .sleeping) :
      Moves codec config task (.goOn shuffle)
        ({ task with backoff := min (task.backoff * 2) bridgeMaxBackoff }.oneCycle config)
  | called (call) : Moves codec config task (.call call) { task with registry := task.registry.apply call }
  | deserted : Moves codec config task .closeRouter { task with routerClosed := true }

section
variable (codec : Codec) (config : SessionConfig) (task : BridgeTask)

private theorem awaitAck_moves {transport : TransportKind} (stage : task.stage = .registering transport) (event : WsEvent)
    (clock : Clock) (frameAddr : Nat) :
    Moves codec config task (.arrives event clock frameAddr) (task.awaitAck config transport event clock) := by
  unfold awaitAck
  split
  next error arrived => exact .refused transport event clock frameAddr error stage
  · exact .stay _
  next frame arrived =>
    split
    next error answered => exact .refused transport event clock frameAddr error stage
    · exact .stay _
    next key acked =>
      unfold openSession
      simp only
      rcases task.registry.registerWithDevice_cases clock config.deviceId bridgeConnIdBase config.localManifest
        task.sessions config.deviceMeta with ⟨error, refused⟩ | ⟨-, -, -, -, enrolled⟩
      · rw [refused]
        exact .clashed transport event clock frameAddr _ stage
      · rw [enrolled]
        exact .opened transport event clock frameAddr frame key _ stage arrived acked rfl rfl

private theorem readLoop_moves {session : Session} (stage : task.stage = .relaying session) (event : WsEvent)
    (clock : Clock) (frameAddr : Nat) :
    Moves codec config task (.arrives event clock frameAddr) (task.readLoop codec config session event frameAddr) := by
  unfold readLoop
  split
  next error arrived => exact .left session event clock frameAddr error stage
  · exact .stay _
  next frame arrived =>
    cases admitted : session.admits codec frame with
    | false => exact .left session event clock frameAddr .mac stage
    | true =>
      cases task.routerClosed with
      | true => exact .orphaned session event clock frameAddr frame stage arrived admitted
      | false => exact .relayed session event clock frameAddr frame stage arrived admitted

private theorem report_moves {result : Except SessionError Unit} (stage : task.stage = .reporting result)
    (shuffle : Shuffle String) : Moves codec config task (.goOn shuffle) (task.report result) := by
  unfold report
  simp only
  split
  · exact .finished _ shuffle stage
  · exact .failed _ _ _ shuffle stage
  · exact .failed _ _ _ shuffle stage

private theorem goOn_moves (shuffle : Shuffle String) : Moves codec config task (.goOn shuffle) (task.goOn config shuffle) := by
  unfold goOn
  split
  next session stage => exact .joined session shuffle stage
  next session error stage => exact .unregistered session error shuffle stage
  next session error stage => exact .forgotten session error shuffle stage
  next result stage => exact task.report_moves codec config stage shuffle
  next stage => exact .woken shuffle stage
  · exact .stay _

theorem step_moves (input : BridgeInput) : Moves codec config task input (task.step codec config input) := by
  cases input with
  | dialled result =>
    simp only [step]
    split
    next transport rest stage =>
      cases result with
      | ok done => exact .reached transport rest stage
      | error error => exact .tried transport rest error stage
    · exact .stay _
  | greeted result =>
    simp only [step]
    split
    next transport stage =>
      cases result with
      | ok done => exact .greeted transport stage
      | error error => exact .ungreeted transport error stage
    · exact .stay _
  | arrives event clock frameAddr =>
    simp only [step]
    split
    next transport stage => exact task.awaitAck_moves codec config stage event clock frameAddr
    next session stage => exact task.readLoop_moves codec config stage event clock frameAddr
    · exact .stay _
  | goOn shuffle => exact task.goOn_moves codec config shuffle
  | call call => exact .called call
  | closeRouter => exact .deserted

end

end BridgeTask
end Vynkor
