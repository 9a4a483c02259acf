import Vynkor.Proofs.BridgeMoves
import Mathlib.Tactic.Common

/-! The statuses a bridge publishes follow a protocol that an embedder can rely on: each
cycle tries the transports in their order, `Connected` comes only from the transport tried
last, and the pause of every failure is known from the statuses before it. -/

namespace Vynkor
open Lib

namespace BridgeStatus

/-- The cycles that failed since the host was last reached, in a history with the latest
status first. -/
def failures : List BridgeStatus → Nat
  | [] => 0
  | connected _ :: _ => 0
  | failed _ _ _ :: earlier => failures earlier + 1
  | connecting _ :: earlier | disabled :: earlier => failures earlier

/-- One second, doubled by each failure in a row, and thirty at most. -/
def pause (earlier : List BridgeStatus) : Nat := min (secs (2 ^ failures earlier)) (secs 30)

/-- The transports of the cycle under way, in the order in which they were tried. -/
def attempts : List BridgeStatus → List TransportKind
  | connecting transport :: earlier => attempts earlier ++ [transport]
  | _ => []

/-- A history with the latest status first, over the transports `kinds`. -/
def Lawful (kinds : List TransportKind) : List BridgeStatus → Prop
  | [] => True
  | disabled :: _ => False
  | connecting transport :: earlier =>
    attempts earlier ++ [transport] <+: kinds ∧ (earlier.headD disabled).isConnected = false ∧ Lawful kinds earlier
  | connected transport :: earlier => earlier.head? = some (connecting transport) ∧ Lawful kinds earlier
  | failed _ _ retryIn :: earlier =>
    retryIn = pause earlier ∧
      (∃ transport, earlier.head? = some (connecting transport) ∨ earlier.head? = some (connected transport)) ∧
      Lawful kinds earlier

private theorem pause_of_reached {history : List BridgeStatus} {transport : TransportKind}
    (latest : history.head? = some (connected transport)) : pause history = secs 1 := by
  cases history with
  | nil => cases latest
  | cons =>
    cases latest
    rfl

private theorem pause_failed (kind : BridgeFailure) (detail : String) (retryIn : Nat) (earlier : List BridgeStatus) :
    pause (failed kind detail retryIn :: earlier) = min (pause earlier * 2) (secs 30) := by
  simp only [pause, failures, pow_succ, secs]
  omega

end BridgeStatus

namespace BridgeTask
open BridgeStatus

def kinds (config : SessionConfig) : List TransportKind := config.bridge.effectiveTransports.map TransportConfig.kind

/-- The cycle tries this transport, and the next pause is the one the history gives. -/
def Trying (task : BridgeTask) (transport : TransportKind) : Prop :=
  task.published.head? = some (.connecting transport) ∧ task.backoff = pause task.published

def Reached (task : BridgeTask) (transport : TransportKind) : Prop :=
  task.published.head? = some (.connected transport)

def InSession (task : BridgeTask) (session : Session) : Prop :=
  if session.pending then task.Trying session.transport else task.Reached session.transport

def Staged (config : SessionConfig) (task : BridgeTask) : Prop :=
  match task.stage with
  | .dialing transport rest =>
    task.Trying transport.kind ∧ attempts task.published ++ rest.map TransportConfig.kind = kinds config
  | .greeting transport | .registering transport => task.Trying transport
  | .opening session => session.pending = true ∧ task.Trying session.transport
  | .relaying session | .unregistering session _ | .forgetting session _ => task.InSession session
  | .reporting _ => ∃ transport, task.Trying transport ∨ task.Reached transport
  | .sleeping => task.status.isConnected = false ∧ attempts task.published = [] ∧
      min (task.backoff * 2) bridgeMaxBackoff = pause task.published
  | .stopped => True

structure Announced (config : SessionConfig) (task : BridgeTask) : Prop where
  lawful : Lawful (kinds config) task.published
  staged : task.Staged config

section
variable {config : SessionConfig} {task : BridgeTask}

private theorem effectiveTransports_ne_nil (bridge : BridgeConfig) : bridge.effectiveTransports ≠ [] := by
  simp only [BridgeConfig.effectiveTransports]
  split
  · exact List.cons_ne_nil _ _
  next given => simpa using given

theorem InSession.some {session : Session} (running : task.InSession session) :
    ∃ transport, task.Trying transport ∨ task.Reached transport := by
  simp only [InSession] at running
  split at running
  · exact ⟨_, .inl running⟩
  · exact ⟨_, .inr running⟩

theorem Announced.dialNext (task : BridgeTask) (lastError : Option BridgeError) {transports : List TransportConfig}
    (lawful : Lawful (kinds config) task.published) (pausing : task.backoff = pause task.published)
    (unreached : task.status.isConnected = false)
    (left : attempts task.published ++ transports.map TransportConfig.kind = kinds config)
    (exhausted : transports = [] → ∃ transport, task.Trying transport) :
    (task.dialNext lastError transports).Announced config := by
  cases transports with
  | nil =>
    obtain ⟨transport, trying⟩ := exhausted rfl
    exact ⟨lawful, transport, .inl trying⟩
  | cons transport rest =>
    have inOrder : attempts task.published ++ [transport.kind] ++ rest.map TransportConfig.kind = kinds config := by
      simpa using left
    exact ⟨⟨⟨_, inOrder⟩, unreached, lawful⟩, ⟨rfl, pausing⟩, inOrder⟩

theorem Announced.initial : (({} : BridgeTask).oneCycle config).Announced config := by
  apply Announced.dialNext {} none
  · trivial
  · rfl
  · rfl
  · rfl
  · intro none
    exact absurd none (effectiveTransports_ne_nil config.bridge)

/-- The first frame that verifies turns the attempt into a connection. -/
theorem confirm_reaches {session : Session} (lawful : Lawful (kinds config) task.published)
    (running : task.InSession session) :
    Lawful (kinds config) (task.confirm session).published ∧ (task.confirm session).Reached session.transport := by
  simp only [BridgeTask.confirm]
  split
  next waiting =>
    simp only [InSession, waiting, if_true] at running
    exact ⟨⟨running.1, lawful⟩, rfl⟩
  next confirmed =>
    simp only [InSession, confirmed] at running
    exact ⟨lawful, running⟩

theorem status_of_head {status : BridgeStatus} (latest : task.published.head? = some status) : task.status = status := by
  rw [BridgeTask.status, List.headD_eq_head?_getD, latest, Option.getD_some]

/-- The pause that `run` reports is the one the history gives, whether or not it starts anew. -/
theorem report_pause (ended : ∃ transport, task.Trying transport ∨ task.Reached transport) :
    (if task.status.isConnected then secs 1 else task.backoff) = pause task.published := by
  obtain ⟨transport, trying | reached⟩ := ended
  · rw [status_of_head trying.1]
    exact trying.2
  · rw [status_of_head reached]
    exact (pause_of_reached reached).symm

theorem Announced.report {result : Except SessionError Unit} (kind : BridgeFailure) (detail : String)
    (announced : task.Announced config) (stage : task.stage = .reporting result) :
    Announced config {
      task.publish (.failed kind detail (if task.status.isConnected then secs 1 else task.backoff)) with
      backoff := if task.status.isConnected then secs 1 else task.backoff
      stage := .sleeping } := by
  have ended : ∃ transport, task.Trying transport ∨ task.Reached transport := by
    have staged := announced.staged
    simp only [Staged, stage] at staged
    exact staged
  have pausing := report_pause ended
  refine ⟨⟨pausing, ?_, announced.lawful⟩, rfl, rfl, ?_⟩
  · obtain ⟨transport, trying | reached⟩ := ended
    · exact ⟨transport, .inl trying.1⟩
    · exact ⟨transport, .inr reached⟩
  · simp only [pausing, publish, pause_failed]
    rfl

theorem Announced.moves {codec : Codec} {input : BridgeInput} {after : BridgeTask} (announced : task.Announced config)
    (moved : Moves codec config task input after) : after.Announced config := by
  obtain ⟨lawful, staged⟩ := announced
  cases moved with
  | stay | called | deserted => exact ⟨lawful, staged⟩
  | tried transport rest error stage =>
    simp only [Staged, stage] at staged
    apply Announced.dialNext task (some error) lawful staged.1.2
    · rw [status_of_head staged.1.1]
      rfl
    · exact staged.2
    · exact fun _ => ⟨_, staged.1⟩
  | reached transport rest stage =>
    simp only [Staged, stage] at staged
    exact ⟨lawful, staged.1⟩
  | greeted _ stage | left _ _ _ _ _ stage | unregistered _ _ _ stage =>
    simp only [Staged, stage] at staged
    exact ⟨lawful, staged⟩
  | ungreeted transport _ stage | refused transport _ _ _ _ stage | clashed transport _ _ _ _ stage =>
    simp only [Staged, stage] at staged
    exact ⟨lawful, transport, .inl staged⟩
  | opened transport event clock frameAddr frame key entry stage =>
    simp only [Staged, stage] at staged
    exact ⟨lawful, rfl, staged⟩
  | orphaned _ _ _ _ _ stage | relayed _ _ _ _ _ stage =>
    simp only [Staged, stage] at staged
    obtain ⟨extended, reached⟩ := confirm_reaches lawful staged
    exact ⟨extended, reached⟩
  | joined session shuffle stage =>
    simp only [Staged, stage] at staged
    have running : task.InSession session := by
      simp only [InSession, staged.1, if_true]
      exact staged.2
    exact ⟨lawful, running⟩
  | forgotten session error shuffle stage =>
    simp only [Staged, stage] at staged
    exact ⟨lawful, staged.some⟩
  | finished backoff shuffle stage => exact ⟨lawful, trivial⟩
  | failed kind detail result shuffle stage => exact Announced.report kind detail ⟨lawful, staged⟩ stage
  | woken shuffle stage =>
    simp only [Staged, stage] at staged
    apply Announced.dialNext { task with backoff := min (task.backoff * 2) bridgeMaxBackoff } none
    · exact lawful
    · exact staged.2.2
    · exact staged.1
    · rw [show attempts task.published = [] from staged.2.1]
      rfl
    · intro none
      exact absurd none (effectiveTransports_ne_nil config.bridge)

theorem announced (codec : Codec) (config : SessionConfig) (inputs : List BridgeInput) :
    ((machine codec config).run inputs).Announced config :=
  Machine.run_preserves Announced.initial
    (fun task input announced => announced.moves (task.step_moves codec config input)) inputs

/-- In every run of the bridge the history of its statuses is lawful. -/
theorem bridge_statuses_lawful (codec : Codec) (config : SessionConfig) (inputs : List BridgeInput) :
    Lawful (kinds config) ((machine codec config).run inputs).published :=
  (announced codec config inputs).lawful

end

end BridgeTask
end Vynkor
