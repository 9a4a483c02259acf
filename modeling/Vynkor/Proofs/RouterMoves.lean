import Vynkor.Proofs.RegistryCalls
import Vynkor.System

/-! What one step of the system does to the actions in flight: entries leave with
their notices, change in place, or are added by the request being handled. Every
invariant over runs is proved against these moves. -/

namespace Vynkor
open Lib

def Send.response (send : Send) : Option ActionResponse :=
  match send.item with
  | .envelope envelope =>
    match envelope.payload with
    | .actionResponse response => some response
    | _ => none
  | _ => none

/-- The attempts to answer the pending action with this serial number. -/
def answersTo (serial : Nat) (sends : List Send) : List Send :=
  sends.filter fun send => send.about == some serial && send.response.isSome

@[simp] theorem answersTo_nil (serial : Nat) : answersTo serial [] = [] := rfl

@[simp] theorem answersTo_append (serial : Nat) (first last : List Send) :
    answersTo serial (first ++ last) = answersTo serial first ++ answersTo serial last :=
  List.filter_append ..

/-- The sends on behalf of the pending action with this serial number. -/
def sendsAbout (serial : Nat) (sends : List Send) : List Send := sends.filter fun send => send.about == some serial

theorem sendsAbout_append (serial : Nat) (first last : List Send) :
    sendsAbout serial (first ++ last) = sendsAbout serial first ++ sendsAbout serial last :=
  List.filter_append ..

theorem answersTo_eq (serial : Nat) (sends : List Send) :
    answersTo serial sends = (sendsAbout serial sends).filter fun send => send.response.isSome := by
  rw [sendsAbout, List.filter_filter]
  exact congrFun (congrArg List.filter (funext fun send => Bool.and_comm ..)) sends

/-- None of the sends is on behalf of a pending action. -/
def Silent (sends : List Send) : Prop := ∀ send ∈ sends, send.about = none

theorem Silent.nil : Silent [] := fun _ member => absurd member List.not_mem_nil

theorem Silent.append {first last : List Send} (quiet : Silent first) (still : Silent last) : Silent (first ++ last) :=
  List.forall_mem_append.mpr ⟨quiet, still⟩

theorem Silent.sendsAbout {sends : List Send} (silent : Silent sends) (serial : Nat) : sendsAbout serial sends = [] :=
  List.filter_eq_nil_iff.mpr fun send member => by simp [silent send member]

theorem Silent.answersTo {sends : List Send} (silent : Silent sends) (serial : Nat) : answersTo serial sends = [] := by
  rw [answersTo_eq, silent.sendsAbout, List.filter_nil]

/-- What a requester is sent about its request. -/
inductive Reply
  | ok
  | refusal
  | chunk
  | close
  | abort
  deriving DecidableEq, Repr

def Send.reply (send : Send) : Option Reply :=
  match send.item with
  | .envelope envelope =>
    match envelope.payload with
    | .actionResponse response => some (if response.status = .actionOk then .ok else .refusal)
    | .actionResponseChunk _ => some .chunk
    | .sessionClose _ => some .close
    | .actionStreamAbort _ => some .abort
    | _ => none
  | _ => none

def repliesTo (serial : Nat) (sends : List Send) : List Reply := (sendsAbout serial sends).filterMap Send.reply

@[simp] theorem repliesTo_append (serial : Nat) (first last : List Send) :
    repliesTo serial (first ++ last) = repliesTo serial first ++ repliesTo serial last := by
  rw [repliesTo, sendsAbout_append, List.filterMap_append]
  rfl

theorem repliesTo_append_none {serial : Nat} {last : List Send} (nothing : sendsAbout serial last = [])
    (first : List Send) : repliesTo serial (first ++ last) = repliesTo serial first := by
  rw [repliesTo, sendsAbout_append, nothing, List.append_nil]
  rfl

theorem Silent.repliesTo {sends : List Send} (silent : Silent sends) (serial : Nat) : repliesTo serial sends = [] := by
  rw [Vynkor.repliesTo, silent.sendsAbout, List.filterMap_nil]

/-- How far the replies to a streaming request have come. A stream that is cut before
it was accepted gets the abort first and then its `ActionResponse`. -/
inductive Phase
  | waiting
  | accepted
  | aborted
  | ended
  deriving DecidableEq, Repr

/-- The reply protocol of a streaming request. -/
def Phase.next : Phase → Reply → Option Phase
  | waiting, .chunk => some waiting
  | waiting, .ok => some accepted
  | waiting, .abort => some aborted
  | waiting, .refusal => some ended
  | accepted, .chunk => some accepted
  | accepted, .ok => some accepted
  | accepted, .close => some ended
  | accepted, .abort => some ended
  | accepted, .refusal => some ended
  | aborted, .refusal => some ended
  | _, _ => none

/-- The phase after these replies, if they keep to the protocol. -/
def Phase.after (phase : Phase) (replies : List Reply) : Option Phase := replies.foldlM Phase.next phase

theorem Phase.after_append (phase : Phase) (first last : List Reply) :
    phase.after (first ++ last) = (phase.after first).bind fun middle => middle.after last :=
  List.foldlM_append

/-- The replies keep to the protocol, and no abort waits for its response. -/
def Phase.Keeps (phase : Phase) (replies : List Reply) : Prop := ∃ last, phase.after replies = some last ∧ last ≠ .aborted

def PendingAction.phase (pending : PendingAction) : Phase := if pending.sessionAccepted then .accepted else .waiting

/-- The send is the `ActionResponse` this pending action owes its requester. -/
structure Answers (pending : PendingAction) (send : Send) : Prop where
  tx : send.tx = pending.requesterWriteTx
  response : ∃ response, send.response = some response ∧ response.actionId = pending.originalActionId

/-- What is sent when an entry leaves: nothing about another one, for an entry that was
not accepted exactly one answer, and for a stream what the protocol allows. -/
structure Settles (pending : PendingAction) (sends : List Send) : Prop where
  others : ∀ serial, serial ≠ pending.serial → sendsAbout serial sends = []
  unaccepted : pending.sessionAccepted = false → ∃ send, answersTo pending.serial sends = [send] ∧ Answers pending send
  closing : pending.streaming = true → pending.phase.Keeps (repliesTo pending.serial sends)

/-- An entry and a later version of it. -/
structure PendingAction.Same (first second : PendingAction) : Prop where
  requesterWriteTx : second.requesterWriteTx = first.requesterWriteTx
  originalActionId : second.originalActionId = first.originalActionId
  requesterId : second.requesterId = first.requesterId
  deadline : second.deadline = first.deadline
  providerId : second.providerId = first.providerId
  streaming : second.streaming = first.streaming
  serial : second.serial = first.serial

theorem PendingAction.Same.refl (pending : PendingAction) : pending.Same pending := ⟨rfl, rfl, rfl, rfl, rfl, rfl, rfl⟩

theorem PendingAction.Same.trans {first second third : PendingAction} (early : first.Same second)
    (late : second.Same third) : first.Same third where
  requesterWriteTx := late.requesterWriteTx.trans early.requesterWriteTx
  originalActionId := late.originalActionId.trans early.originalActionId
  requesterId := late.requesterId.trans early.requesterId
  deadline := late.deadline.trans early.deadline
  providerId := late.providerId.trans early.providerId
  streaming := late.streaming.trans early.streaming
  serial := late.serial.trans early.serial

def Enlists (input : Input) (id : String) : Prop :=
  match input with
  | .message _ msg => ∃ envelope register, msg.frame.payload.decode = some envelope ∧
      envelope.payload = .pluginRegister register ∧ register.pluginId = id
  | .call (.registerWithDevice _ pluginId _ _ _ _) => pluginId = id
  | .call (.registerDevice _ deviceId _ _ _ _ _) => deviceId = id
  | _ => False

/-- The input may end the registration of this plugin id on this connection. A
registration request makes room by removing an earlier entry of its id. -/
def Unseats (input : Input) (id : String) (connId : ConnId) : Prop :=
  match input with
  | .message _ _ => Enlists input id
  | .disconnect _ gone => gone = connId
  | .call (.unregister _ pluginId) => pluginId = id
  | .call (.unregisterConn _ pluginId gone) => pluginId = id ∧ gone = connId
  | .call (.unregisterIfDead _ _ pluginId) => pluginId = id
  | _ => False

/-- The input replaces or clears the action requirements of this plugin id. -/
def Requires (input : Input) (id : String) : Prop :=
  match input with
  | .setActionRequirements pluginId _ => pluginId = id
  | .clearActionRequirements pluginId => pluginId = id
  | _ => False

/-- The input is a reply to the pending action with this key. -/
def RepliesFor (input : Input) (key : String) : Prop :=
  ∃ ambient msg envelope response, input = .message ambient msg ∧ msg.frame.payload.decode = some envelope ∧
    envelope.payload = .actionResponse response ∧ response.actionId = key

/-- A change of the kernel that adds no pending action. -/
inductive Move (input : Input) (kernel : Kernel) : Kernel → List Send → Prop
  | drop (after : Kernel) (gone : List (String × PendingAction)) (notice : String × PendingAction → List Send)
      (rest : List Send) (effect : Registry.Effect kernel.registry after.registry)
      (issued : after.issued = kernel.issued) (counted : after.actionSeq = kernel.actionSeq)
      (distinct : (gone.map Prod.fst).Nodup)
      (held : ∀ entry ∈ gone, kernel.registry.pendingActions.get entry.1 = some entry.2)
      (left : ∀ key, after.registry.pendingActions.get key =
        if key ∈ gone.map Prod.fst then none else kernel.registry.pendingActions.get key)
      (settles : ∀ entry ∈ gone, Settles entry.2 (notice entry))
      (providers : ∀ key pending, after.registry.pendingActions.get key = some pending →
        kernel.registry.byPluginId.get pending.providerId ≠ none →
        after.registry.byPluginId.get pending.providerId ≠ none)
      (newcomers : ∀ id entry, after.registry.byPluginId.get id = some entry →
        kernel.registry.byPluginId.get id = some entry ∨ Enlists input id)
      (leavers : ∀ id entry, kernel.registry.byPluginId.get id = some entry →
        after.registry.byPluginId.get id = some entry ∨ Unseats input id entry.connId)
      (silent : Silent rest)
      (passed : ∀ entry ∈ gone, entry.2.sessionAccepted = true → answersTo entry.2.serial (notice entry) ≠ [] →
        RepliesFor input entry.1)
      (rules : ∀ id, after.registry.actionRequirements.get id = kernel.registry.actionRequirements.get id ∨
        Requires input id) :
      Move input kernel after (gone.flatMap notice ++ rest)
  | revise (key : String) (pending revised : PendingAction) (map : DashMap String PendingAction) (sends : List Send)
      (held : kernel.registry.pendingActions.get key = some pending)
      (same : pending.Same revised)
      (progress : pending.sessionAccepted = true → revised.sessionAccepted = true)
      (accepted : revised.sessionAccepted = true → pending.sessionAccepted = true ∨ pending.streaming = true)
      (stored : ∀ other, map.get other = if other = key then some revised else kernel.registry.pendingActions.get other)
      (streamed : answersTo pending.serial sends ≠ [] → pending.streaming = true ∧ RepliesFor input key)
      (others : ∀ serial, serial ≠ pending.serial → sendsAbout serial sends = [])
      (continues : pending.streaming = true →
        pending.phase.after (repliesTo pending.serial sends) = some revised.phase) :
      Move input kernel { kernel with registry := { kernel.registry with pendingActions := map } } sends

/-- Any number of moves, their sends in order. -/
inductive Moves (input : Input) : Kernel → Kernel → List Send → Prop
  | nil {kernel : Kernel} : Moves input kernel kernel []
  | cons {kernel middle after : Kernel} {first last : List Send} (moved : Move input kernel middle first)
      (rest : Moves input middle after last) : Moves input kernel after (first ++ last)

theorem Moves.single {input : Input} {kernel after : Kernel} {sends : List Send} (moved : Move input kernel after sends) :
    Moves input kernel after sends := by
  simpa using Moves.cons moved .nil

namespace Move
variable {input : Input} {kernel : Kernel}

/-- A change that leaves every pending action where it is, and in which nobody comes or goes. -/
theorem keep {after : Kernel} {sends : List Send} (effect : Registry.Effect kernel.registry after.registry)
    (issued : after.issued = kernel.issued) (counted : after.actionSeq = kernel.actionSeq)
    (pending : after.registry.pendingActions = kernel.registry.pendingActions)
    (plugins : after.registry.byPluginId = kernel.registry.byPluginId)
    (rules : ∀ id, after.registry.actionRequirements.get id = kernel.registry.actionRequirements.get id ∨ Requires input id)
    (silent : Silent sends) : Move input kernel after sends :=
  .drop after [] (fun _ => []) sends effect issued counted .nil nofun (fun key => by rw [pending]; rfl) nofun
    (by rw [plugins]; exact fun _ _ _ kept => kept) (by rw [plugins]; exact fun _ _ kept => .inl kept)
    (by rw [plugins]; exact fun _ _ kept => .inl kept) silent nofun rules

theorem join {after : Kernel} {sends : List Send} {entry : PluginEntry}
    (effect : Registry.Effect kernel.registry after.registry)
    (issued : after.issued = kernel.issued) (counted : after.actionSeq = kernel.actionSeq)
    (pending : after.registry.pendingActions = kernel.registry.pendingActions)
    (plugins : after.registry.byPluginId = kernel.registry.byPluginId.insert entry.pluginId entry)
    (free : kernel.registry.byPluginId.get entry.pluginId = none)
    (rules : after.registry.actionRequirements = kernel.registry.actionRequirements)
    (enlists : Enlists input entry.pluginId) (silent : Silent sends) : Move input kernel after sends := by
  refine .drop after [] (fun _ => []) sends effect issued counted .nil nofun (fun key => by rw [pending]; rfl) nofun
    (fun _ pending _ registered => ?_) (fun id newcomer found => ?_) (fun id resident found => .inl ?_) silent nofun
    fun _ => .inl (by rw [rules])
  · rw [plugins, DashMap.get_insert]
    split
    · exact Option.some_ne_none _
    · exact registered
  · rw [plugins] at found
    rcases DashMap.insert_cases found with ⟨rfl, -⟩ | ⟨-, before⟩
    · exact .inr enlists
    · exact .inl before
  · rw [plugins]
    exact DashMap.insert_fresh free found

theorem aside {after : Kernel} {sends : List Send} (registry : after.registry = kernel.registry)
    (issued : after.issued = kernel.issued) (counted : after.actionSeq = kernel.actionSeq) (silent : Silent sends) :
    Move input kernel after sends :=
  keep (registry ▸ .unchanged) issued counted (by rw [registry]) (by rw [registry]) (fun _ => .inl (by rw [registry])) silent

theorem say {sends : List Send} (silent : Silent sends) : Move input kernel kernel sends := aside rfl rfl rfl silent

theorem evict (shuffle : Shuffle String) (test : PendingAction → Bool) (notice : String × PendingAction → List Send)
    (settles : ∀ entry, test entry.2 = true → Settles entry.2 (notice entry))
    (quiet : ∀ entry, test entry.2 = true → entry.2.sessionAccepted = true →
      answersTo entry.2.serial (notice entry) = []) :
    Move input kernel { kernel with registry := (kernel.registry.evictPending shuffle test).1 }
      ((kernel.registry.evictPending shuffle test).2.flatMap notice) := by
  have listed : ∀ entry ∈ (kernel.registry.evictPending shuffle test).2,
      kernel.registry.pendingActions.get entry.1 = some entry.2 ∧ test entry.2 = true :=
    fun entry member => (DashMap.mem_drained shuffle _ test entry.1 entry.2).mp member
  rw [← List.append_nil (List.flatMap ..)]
  refine .drop _ (kernel.registry.evictPending shuffle test).2 notice [] (.pending _) rfl rfl
    (DashMap.drained_nodup shuffle _ test) (fun entry member => (listed entry member).1) (fun key => ?_)
    (fun entry member => settles entry (listed entry member).2) (fun _ _ _ kept => kept) (fun _ _ kept => .inl kept)
    (fun _ _ kept => .inl kept) .nil
    (fun entry member accepted answered => absurd (quiet entry (listed entry member).2 accepted) answered)
    fun _ => .inl rfl
  exact DashMap.get_drain_mem shuffle _ test key

theorem take {key : String} {pending : PendingAction} {sends : List Send}
    (held : kernel.registry.pendingActions.get key = some pending) (settles : Settles pending sends)
    (passed : pending.sessionAccepted = true → answersTo pending.serial sends ≠ [] → RepliesFor input key) :
    Move input kernel { kernel with registry := (kernel.registry.takePendingAction key).1 } sends := by
  have alone : sends = [(key, pending)].flatMap (fun _ => sends) ++ [] := by simp
  rw [alone]
  refine .drop _ [(key, pending)] (fun _ => sends) [] (.pending _) rfl rfl (by simp) (by simp [held]) (fun other => ?_)
    (by simp [settles]) (fun _ _ _ kept => kept) (fun _ _ kept => .inl kept)
    (fun _ _ kept => .inl kept) .nil (by simpa using passed) fun _ => .inl rfl
  rw [Registry.takePendingAction, DashMap.get_remove]
  simp

end Move

/-- A registration of a pending action on behalf of the message. -/
structure Issues (msg : IncomingMessage) (kernel after : Kernel) (key : String) (pending : PendingAction) : Prop where
  result : after = { kernel.issue msg.connId key pending with actionSeq := after.actionSeq }
  request : ∃ envelope request, msg.frame.payload.decode = some envelope ∧
    envelope.payload = .actionRequest request ∧ pending.originalActionId = request.actionId ∧
    pending.streaming = request.streaming
  registered : kernel.registry.isRegistered msg.connId = true
  requester : pending.requesterId = senderId kernel.registry msg.connId
  channel : pending.requesterWriteTx = msg.writeTx
  provider : ∃ id entry, kernel.registry.byPluginId.get id = some entry ∧ entry.pluginId = pending.providerId
  fresh : pending.serial = kernel.issued.length
  unaccepted : pending.sessionAccepted = false
  key : (key = kernel.internalId ∧ after.actionSeq = kernel.actionSeq + 1) ∨
    (after.actionSeq = kernel.actionSeq ∧
      ∃ target request, msg.frame.target = some target ∧ muxRequest target msg.frame = some request ∧
        key = request.actionId)

/-- One input: moves only, or moves around one registration, before which nobody
comes or goes. -/
inductive Step (input : Input) (kernel after : Kernel) : List Send → Prop
  | quiet {sends : List Send} (moves : Moves input kernel after sends) : Step input kernel after sends
  | issued {ambient : Ambient} {msg : IncomingMessage} {before added : Kernel} {key : String} {pending : PendingAction}
      {first last : List Send} (origin : input = .message ambient msg) (early : Moves input kernel before first)
      (present : before.registry.getByConnId = kernel.registry.getByConnId)
      (issues : Issues msg before added key pending) (late : Moves input added after last) :
      Step input kernel after (first ++ last)

namespace Step
variable {input : Input} {kernel middle after : Kernel} {sends : List Send}

theorem of_issue {ambient : Ambient} {msg : IncomingMessage} {added : Kernel} {key : String} {pending : PendingAction}
    (origin : input = .message ambient msg) (issues : Issues msg kernel added key pending)
    (late : Moves input added after sends) : Step input kernel after sends :=
  .issued origin .nil rfl issues late

theorem after_move (moved : Move input kernel middle []) (still : middle.registry.getByConnId = kernel.registry.getByConnId)
    (step : Step input middle after sends) : Step input kernel after sends := by
  cases step with
  | quiet moves => exact .quiet (.cons moved moves)
  | issued origin early present issues late =>
    exact .issued origin (.cons moved early) (present.trans still) issues late

end Step
end Vynkor
