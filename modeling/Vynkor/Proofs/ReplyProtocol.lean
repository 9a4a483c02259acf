import Vynkor.Proofs.RequesterDeparture

/-! What a requester is sent about a streaming request. Its replies go through the
phases of `Phase.next`: chunks and one answer that opens the session or ends it, then
chunks and further OKs of the provider, then at most one message that ends it. -/

namespace Vynkor
open Lib

/-- A stream in flight is in the phase to which its replies have led, and the replies to
every stream keep to the protocol. -/
structure Orderly (kernel : Kernel) (log : List Send) : Prop where
  recorded : Recorded kernel
  ahead : ∀ {serial}, kernel.issued.length ≤ serial → repliesTo serial log = []
  going : ∀ {key pending}, kernel.registry.pendingActions.get key = some pending → pending.streaming = true →
    Phase.waiting.after (repliesTo pending.serial log) = some pending.phase
  kept : ∀ {serial issue}, kernel.issued[serial]? = some issue → issue.pending.streaming = true →
    Phase.waiting.Keeps (repliesTo serial log)

private theorem PendingAction.phase_ne_aborted (pending : PendingAction) : pending.phase ≠ .aborted := by
  unfold PendingAction.phase
  split <;> nofun

namespace Orderly
variable {kernel after : Kernel} {log : List Send}

theorem initial : Orderly {} [] := ⟨Recorded.initial, fun _ => rfl, nofun, nofun⟩

theorem streams {serial : Nat} {issue : Issue} {key : String} {pending : PendingAction} (recorded : Recorded kernel)
    (held : kernel.registry.pendingActions.get key = some pending) (known : kernel.issued[serial]? = some issue)
    (same : pending.serial = serial) (streaming : issue.pending.streaming = true) : pending.streaming = true := by
  obtain ⟨first, again, -, version⟩ := recorded held
  rw [same, known] at again
  cases again
  exact version.streaming.trans streaming

theorem drop {gone : List (String × PendingAction)} {notice : String × PendingAction → List Send} {rest : List Send}
    (orderly : Orderly kernel log) (recorded : Recorded after) (issued : after.issued = kernel.issued)
    (distinct : (gone.map Prod.fst).Nodup)
    (held : ∀ entry ∈ gone, kernel.registry.pendingActions.get entry.1 = some entry.2)
    (left : ∀ key, after.registry.pendingActions.get key =
      if key ∈ gone.map Prod.fst then none else kernel.registry.pendingActions.get key)
    (settles : ∀ entry ∈ gone, Settles entry.2 (notice entry)) (silent : Silent rest) :
    Orderly after (log ++ (gone.flatMap notice ++ rest)) := by
  have told := Recorded.told orderly.recorded distinct held settles silent
  refine ⟨recorded, fun {serial} beyond => ?_, fun {key pending} stored streaming => ?_,
    fun {serial issue} known streaming => ?_⟩
  · rcases told serial with ⟨-, nothing⟩ | ⟨entry, member, same, -⟩
    · rw [repliesTo_append_none nothing]
      exact orderly.ahead (issued ▸ beyond)
    · have bound := Recorded.serial_lt orderly.recorded (held entry member)
      rw [issued] at beyond
      omega
  · rw [left] at stored
    split at stored
    · cases stored
    next present =>
      rcases told pending.serial with ⟨-, nothing⟩ | ⟨entry, member, same, -⟩
      · rw [repliesTo_append_none nothing]
        exact orderly.going stored streaming
      · have key := Recorded.same_entry orderly.recorded (held entry member) stored same
        exact absurd (key ▸ List.mem_map_of_mem member) present
  · rw [issued] at known
    rcases told serial with ⟨-, nothing⟩ | ⟨entry, member, same, notices⟩
    · rw [repliesTo_append_none nothing]
      exact orderly.kept known streaming
    · -- the entry leaves: its last replies follow those that led to its phase
      have stream := streams orderly.recorded (held entry member) known same streaming
      have before := orderly.going (held entry member) stream
      have closing := (settles entry member).closing stream
      rw [same] at before closing
      have last : repliesTo serial (gone.flatMap notice ++ rest) = repliesTo serial (notice entry) :=
        congrArg (List.filterMap Send.reply) notices
      rw [Phase.Keeps, repliesTo_append, Phase.after_append, before, last]
      exact closing

theorem revise {sends : List Send} {key : String} {pending revised : PendingAction}
    {map : DashMap String PendingAction} (orderly : Orderly kernel log)
    (recorded : Recorded { kernel with registry := { kernel.registry with pendingActions := map } })
    (held : kernel.registry.pendingActions.get key = some pending) (same : pending.Same revised)
    (stored : ∀ other, map.get other = if other = key then some revised else kernel.registry.pendingActions.get other)
    (others : ∀ serial, serial ≠ pending.serial → sendsAbout serial sends = [])
    (continues : pending.streaming = true →
      pending.phase.after (repliesTo pending.serial sends) = some revised.phase) :
    Orderly { kernel with registry := { kernel.registry with pendingActions := map } } (log ++ sends) := by
  have untold : ∀ {serial}, serial ≠ pending.serial → repliesTo serial (log ++ sends) = repliesTo serial log := by
    intro serial other
    exact repliesTo_append_none (others serial other) log
  have onward : pending.streaming = true →
      Phase.waiting.after (repliesTo pending.serial (log ++ sends)) = some revised.phase := by
    intro streaming
    rw [repliesTo_append, Phase.after_append, orderly.going held streaming]
    exact continues streaming
  refine ⟨recorded, fun {serial} beyond => ?_, fun {other found} present streaming => ?_,
    fun {serial issue} known streaming => ?_⟩
  · have bound := Recorded.serial_lt orderly.recorded held
    change kernel.issued.length ≤ serial at beyond
    rw [untold (by omega)]
    exact orderly.ahead beyond
  · change map.get other = some found at present
    rw [stored] at present
    split at present
    · cases present
      rw [same.serial]
      exact onward (same.streaming ▸ streaming)
    next apart =>
      rw [untold fun number => apart (Recorded.same_entry orderly.recorded present held number)]
      exact orderly.going present streaming
  · by_cases here : serial = pending.serial
    · subst here
      exact ⟨_, onward (streams orderly.recorded held known rfl streaming), revised.phase_ne_aborted⟩
    · rw [untold here]
      exact orderly.kept known streaming

theorem moved {input : Input} {sends : List Send} (moved : Move input kernel after sends)
    (orderly : Orderly kernel log) : Orderly after (log ++ sends) := by
  have recorded : Recorded after := Recorded.moved moved orderly.recorded
  cases moved with
  | drop after gone notice rest effect issued counted distinct held left settles providers newcomers leavers silent =>
    exact orderly.drop recorded issued distinct held left settles silent
  | revise key pending revised map sends held same progress accepted stored streamed others continues =>
    exact orderly.revise recorded held same stored others continues

theorem issued {msg : IncomingMessage} {key : String} {pending : PendingAction}
    (issues : Issues msg kernel after key pending) (orderly : Orderly kernel log) : Orderly after log := by
  have recorded : Recorded after := Recorded.issued issues orderly.recorded
  have history : after.issued = kernel.issued ++ [⟨msg.connId, key, pending⟩] := by rw [issues.result]; rfl
  have fresh : Phase.waiting.after (repliesTo kernel.issued.length log) = some .waiting := by
    rw [orderly.ahead le_rfl]
    rfl
  refine ⟨recorded, fun {serial} beyond => ?_, fun {other found} stored streaming => ?_,
    fun {serial issue} known streaming => ?_⟩
  · rw [history, List.length_append, List.length_singleton] at beyond
    exact orderly.ahead (by omega)
  · rw [issues.result] at stored
    rcases DashMap.insert_cases stored with ⟨-, rfl⟩ | ⟨-, before⟩
    · rw [issues.fresh, fresh, PendingAction.phase, issues.unaccepted]
      rfl
    · exact orderly.going before streaming
  · rw [history, List.getElem?_append] at known
    split at known
    · exact orderly.kept known streaming
    next beyond =>
      rw [List.getElem?_singleton] at known
      split at known
      next here =>
        have last : serial = kernel.issued.length := by omega
        exact ⟨.waiting, last ▸ fresh, Phase.noConfusion⟩
      next => cases known

theorem run (config : Config) (inputs : List Input) :
    Orderly ((System.machine config).run inputs).kernel ((System.machine config).run inputs).log :=
  System.run_preserves config initial moved issued inputs

/-- A stream still waits only if it has had nothing but chunks. -/
theorem chunks_of_waiting {replies : List Reply} (waits : Phase.waiting.after replies = some .waiting) :
    ∀ reply ∈ replies, reply = .chunk := by
  induction replies using List.reverseRecOn with
  | nil => simp
  | append_singleton earlier last ih =>
    rw [Phase.after_append, Option.bind_eq_some_iff] at waits
    obtain ⟨phase, before, step⟩ := waits
    have stays : phase = .waiting ∧ last = .chunk := by
      cases phase <;> cases last <;> first | exact ⟨rfl, rfl⟩ | cases step
    obtain ⟨rfl, rfl⟩ := stays
    exact List.forall_mem_append.mpr ⟨ih before, by simp⟩

theorem accepted (orderly : Orderly kernel log) {key : String} {pending : PendingAction}
    (held : kernel.registry.pendingActions.get key = some pending) (streaming : pending.streaming = true)
    (answered : answersTo pending.serial log ≠ []) : pending.sessionAccepted = true := by
  by_contra unaccepted
  have going := orderly.going held streaming
  rw [PendingAction.phase, if_neg unaccepted] at going
  rw [answersTo_eq] at answered
  obtain ⟨send, member⟩ := List.exists_mem_of_ne_nil _ answered
  obtain ⟨about, responds⟩ := List.mem_filter.mp member
  have chunks := chunks_of_waiting going
  -- the response is one of the replies, and it is no chunk
  unfold Send.response at responds
  split at responds
  next envelope carried =>
    split at responds
    next response payload =>
      have reply : send.reply = some (if response.status = .actionOk then .ok else .refusal) := by
        simp [Send.reply, carried, payload]
      have chunk := chunks _ (List.mem_filterMap.mpr ⟨send, about, reply⟩)
      split at chunk <;> cases chunk
    next => cases responds
  next => cases responds

/-- A stream that had been answered at the start of a step has not been answered since,
unless the step passes on a reply. -/
structure Passing (input : Input) (serial : Nat) (issue : Issue) (start : List Send) (kernel : Kernel) (log : List Send) : Prop where
  orderly : Orderly kernel log
  known : kernel.issued[serial]? = some issue
  answered : answersTo serial log ≠ []
  passed : answersTo serial log = answersTo serial start ∨ ∃ key, RepliesFor input key

theorem passed {input : Input} {sends : List Send} {serial : Nat} {issue : Issue} (orderly : Orderly kernel log)
    (known : kernel.issued[serial]? = some issue) (streaming : issue.pending.streaming = true)
    (answered : answersTo serial log ≠ []) (step : Step input kernel after sends)
    (again : answersTo serial sends ≠ []) : ∃ key, RepliesFor input key := by
  have result : Passing input serial issue log after (log ++ sends) := by
    refine @Step.preserves (Passing input serial issue log) input ?_ kernel after sends log ?_ step ⟨orderly, known, answered, .inl rfl⟩
    · intro current next told sofar move ⟨orderly, known, answered, same⟩
      refine ⟨orderly.moved move, (Moves.single move).unissued.1 ▸ known, by simp [answered], ?_⟩
      by_cases quiet : answersTo serial told = []
      · rw [answersTo_append, quiet, List.append_nil]
        exact same
      refine .inr ?_
      rw [answersTo_eq] at quiet
      cases move with
      | drop next gone notice rest effect issued counted distinct held left settles providers newcomers leavers silent
          passed =>
        rcases Recorded.told orderly.recorded distinct held settles silent serial with
          ⟨-, nothing⟩ | ⟨entry, member, rfl, notices⟩
        · exact absurd (by rw [nothing]; rfl) quiet
        · rw [notices, ← answersTo_eq] at quiet
          have stream := streams orderly.recorded (held entry member) known rfl streaming
          exact ⟨entry.1, passed entry member (orderly.accepted (held entry member) stream answered) quiet⟩
      | revise key pending revised map told held same progress accepted stored streamed others =>
        obtain rfl : serial = pending.serial := by
          by_contra other
          exact quiet (by rw [others serial other]; rfl)
        rw [← answersTo_eq] at quiet
        exact ⟨key, (streamed quiet).2⟩
    · intro ambient msg before added key pending first sofar origin early present issues ⟨orderly, known, answered, same⟩
      refine ⟨orderly.issued issues, ?_, answered, same⟩
      have history : added.issued = before.issued ++ [⟨msg.connId, key, pending⟩] := by rw [issues.result]; rfl
      rw [history, List.getElem?_append_left (List.getElem?_eq_some_iff.mp known).choose]
      exact known
  rcases result.passed with same | replies
  · rw [answersTo_append] at same
    exact absurd (List.append_right_eq_self.mp same) again
  · exact replies

end Orderly

end Vynkor
