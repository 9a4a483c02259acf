import Vynkor.Proofs.SystemRuns

/-! Where pending actions come from: each is a version of a recorded registration,
and each registration was made for a request of a connection whose plugin was
registered when the request arrived. -/

namespace Vynkor
open Lib

def Recorded (kernel : Kernel) : Prop :=
  ∀ {key pending}, kernel.registry.pendingActions.get key = some pending →
    ∃ issue, kernel.issued[pending.serial]? = some issue ∧ issue.key = key ∧ issue.pending.Same pending

namespace Recorded
variable {kernel after : Kernel}

theorem initial : Recorded {} := nofun

theorem moved {input : Input} {sends : List Send} (moved : Move input kernel after sends) (recorded : Recorded kernel) : Recorded after := by
  cases moved with
  | drop after gone notice rest effect issued counted distinct held left =>
    intro key pending stored
    rw [left] at stored
    split at stored
    · cases stored
    · rw [issued]
      exact recorded stored
  | revise changed old revised map sends held same progress accepted lookup =>
    intro key pending stored
    change map.get key = some pending at stored
    rw [lookup] at stored
    split at stored
    next here =>
      cases stored
      obtain ⟨issue, found, name, version⟩ := recorded held
      exact ⟨issue, same.serial ▸ found, name.trans here.symm, version.trans same⟩
    next => exact recorded stored

theorem serial_lt (recorded : Recorded kernel) {key : String} {pending : PendingAction}
    (held : kernel.registry.pendingActions.get key = some pending) : pending.serial < kernel.issued.length := by
  obtain ⟨issue, found, -⟩ := recorded held
  exact (List.getElem?_eq_some_iff.mp found).choose

theorem issued {msg : IncomingMessage} {key : String} {pending : PendingAction}
    (issues : Issues msg kernel after key pending) (recorded : Recorded kernel) : Recorded after := by
  rw [issues.result]
  intro other found stored
  change ∃ issue, (kernel.issued ++ [⟨msg.connId, key, pending⟩])[found.serial]? = some issue ∧ _
  rcases DashMap.insert_cases stored with ⟨rfl, rfl⟩ | ⟨-, before⟩
  · exact ⟨⟨msg.connId, other, found⟩, by simp [issues.fresh], rfl, .refl _⟩
  · obtain ⟨issue, known, name, version⟩ := recorded before
    refine ⟨issue, ?_, name, version⟩
    rw [List.getElem?_append_left (recorded.serial_lt before)]
    exact known

theorem same_entry (recorded : Recorded kernel) {first second : String} {pending other : PendingAction}
    (held : kernel.registry.pendingActions.get first = some pending)
    (found : kernel.registry.pendingActions.get second = some other) (same : pending.serial = other.serial) :
    first = second := by
  obtain ⟨issue, known, key, -⟩ := recorded held
  obtain ⟨late, again, name, -⟩ := recorded found
  rw [same, again] at known
  cases known
  exact key.symm.trans name

theorem told (recorded : Recorded kernel) {gone : List (String × PendingAction)}
    {notice : String × PendingAction → List Send} {rest : List Send} (distinct : (gone.map Prod.fst).Nodup)
    (held : ∀ entry ∈ gone, kernel.registry.pendingActions.get entry.1 = some entry.2)
    (settles : ∀ entry ∈ gone, Settles entry.2 (notice entry)) (silent : Silent rest) (serial : Nat) :
    ((∀ entry ∈ gone, entry.2.serial ≠ serial) ∧ sendsAbout serial (gone.flatMap notice ++ rest) = []) ∨
    ∃ entry ∈ gone, entry.2.serial = serial ∧
      sendsAbout serial (gone.flatMap notice ++ rest) = sendsAbout serial (notice entry) := by
  have quiet : ∀ {some : List (String × PendingAction)}, (∀ entry ∈ some, entry ∈ gone ∧ entry.2.serial ≠ serial) →
      sendsAbout serial (some.flatMap notice) = [] := by
    intro some apart
    rw [sendsAbout, List.filter_flatMap]
    refine List.flatMap_eq_nil_iff.mpr fun entry member => ?_
    exact (settles entry (apart entry member).1).others serial (Ne.symm (apart entry member).2)
  by_cases there : ∃ entry ∈ gone, entry.2.serial = serial
  · obtain ⟨entry, member, same⟩ := there
    refine .inr ⟨entry, member, same, ?_⟩
    obtain ⟨before, after, rfl⟩ := List.append_of_mem member
    have apart : ∀ other ∈ before ++ after, other ∈ before ++ entry :: after ∧ other.2.serial ≠ serial := by
      intro other listed
      have inside : other ∈ before ++ entry :: after := by
        rcases List.mem_append.mp listed with early | late <;> simp [*]
      refine ⟨inside, fun equal => ?_⟩
      have key := recorded.same_entry (held other inside) (held entry member) (equal.trans same.symm)
      rw [List.map_append, List.map_cons, List.nodup_middle, List.nodup_cons, ← List.map_append] at distinct
      exact distinct.1 (key ▸ List.mem_map_of_mem listed)
    rw [List.flatMap_append, List.flatMap_cons, sendsAbout_append, sendsAbout_append, sendsAbout_append,
      silent.sendsAbout, quiet fun other early => apart other (by simp [early]),
      quiet fun other late => apart other (by simp [late]), List.append_nil, List.append_nil, List.nil_append]
  · have elsewhere : ∀ entry ∈ gone, entry.2.serial ≠ serial := fun entry member same => there ⟨entry, member, same⟩
    refine .inl ⟨elsewhere, ?_⟩
    rw [sendsAbout_append, silent.sendsAbout, quiet fun entry member => ⟨member, elsewhere entry member⟩, List.append_nil]

theorem run (config : Config) (inputs : List Input) : Recorded ((System.machine config).run inputs).kernel :=
  @System.run_preserves (fun kernel _ => Recorded kernel) config initial (fun moved => .moved moved)
    (fun issues => .issued issues) inputs

end Recorded

/-- The registration with this number was made for a request of the run, on a
connection that was registered as the requester at that time. -/
structure Origin (config : Config) (inputs : List Input) (serial : Nat) (issue : Issue) (before : List Input)
    (msg : IncomingMessage) : Prop where
  split : ∃ ambient after, inputs = before ++ .message ambient msg :: after
  number : ((System.machine config).run before).kernel.issued.length = serial
  request : ∃ envelope request, msg.frame.payload.decode = some envelope ∧
    envelope.payload = .actionRequest request ∧ issue.pending.originalActionId = request.actionId
  connection : issue.connId = msg.connId
  channel : issue.pending.requesterWriteTx = msg.writeTx
  requester : ∃ sender, ((System.machine config).run before).kernel.registry.getByConnId msg.connId = some sender ∧
    sender.pluginId = issue.pending.requesterId

theorem Registry.Consistent.getByConnId {registry : Registry} (consistent : registry.Consistent) {connId : ConnId}
    (registered : registry.isRegistered connId = true) : ∃ entry, registry.getByConnId connId = some entry := by
  obtain ⟨id, mapped⟩ := (DashMap.containsKey_iff _ _).mp registered
  obtain ⟨entry, held, -⟩ := (consistent.conns connId id).mp mapped
  exact ⟨entry, by rw [Registry.getByConnId, mapped]; exact held⟩

theorem Registry.Consistent.getByConnId_iff {registry : Registry} (consistent : registry.Consistent) {connId : ConnId}
    {entry : PluginEntry} : registry.getByConnId connId = some entry ↔
      registry.byPluginId.get entry.pluginId = some entry ∧ entry.connId = connId := by
  constructor
  · intro found
    unfold Registry.getByConnId at found
    split at found
    next id mapped =>
      obtain ⟨other, there, located⟩ := (consistent.conns connId id).mp mapped
      cases found.symm.trans there
      exact ⟨by rw [consistent.keyed found]; exact found, located⟩
    next => cases found
  · rintro ⟨held, located⟩
    have mapped := (consistent.conns connId entry.pluginId).mpr ⟨entry, held, located⟩
    rw [Registry.getByConnId, mapped]
    exact held

theorem Moves.consistent {input : Input} {kernel after : Kernel} {sends : List Send} (moves : Moves input kernel after sends)
    (consistent : kernel.registry.Consistent) : after.registry.Consistent :=
  @Moves.preserves (fun kernel _ => kernel.registry.Consistent) _ (fun moved kept => kept.effect moved.effect) _ _ _ []
    moves consistent

private theorem issued_origin (config : Config) (inputs : List Input) (serial : Nat) (issue : Issue)
    (recorded : ((System.machine config).run inputs).kernel.issued[serial]? = some issue) :
    ∃ before msg, Origin config inputs serial issue before msg := by
  induction inputs using List.reverseRecOn with
  | nil => cases recorded
  | append_singleton inputs input ih =>
    have earlier : ((System.machine config).run inputs).kernel.issued[serial]? = some issue →
        ∃ before msg, Origin config (inputs ++ [input]) serial issue before msg := by
      intro known
      obtain ⟨before, msg, ⟨ambient, after, rfl⟩, number, request, connection, channel, requester⟩ := ih known
      exact ⟨before, msg, ⟨ambient, after ++ [input], by simp⟩, number, request, connection, channel, requester⟩
    obtain ⟨sends, -, step⟩ := System.step_step config ((System.machine config).run inputs) input
    rw [Machine.run_append] at recorded
    change (((System.machine config).run inputs).step config input).kernel.issued[serial]? = some issue at recorded
    rcases step.issued_cases with
      same | ⟨ambient, msg, before, added, key, pending, first, rfl, early, present, issues, known⟩
    · rw [same] at recorded
      exact earlier recorded
    · rw [known, List.getElem?_append] at recorded
      split at recorded
      · exact earlier recorded
      · next beyond =>
        rw [List.getElem?_singleton] at recorded
        split at recorded
        next here =>
          cases recorded
          obtain ⟨envelope, request, decoded, payload, original, -⟩ := issues.request
          obtain ⟨sender, found⟩ := (early.consistent (System.consistent config inputs)).getByConnId issues.registered
          refine ⟨inputs, msg, ⟨ambient, [], rfl⟩, by omega, ⟨envelope, request, decoded, payload, original⟩, rfl,
            issues.channel, sender, by rw [← present]; exact found, ?_⟩
          rw [issues.requester, senderId_of_getByConnId found]
        next => cases recorded

/-- Every pending action of a run goes back to a request of the run. -/
theorem pending_origin (config : Config) {inputs : List Input} {key : String} {pending : PendingAction}
    (held : ((System.machine config).run inputs).kernel.registry.pendingActions.get key = some pending) :
    ∃ issue before msg, ((System.machine config).run inputs).kernel.issued[pending.serial]? = some issue ∧
      issue.pending.Same pending ∧ Origin config inputs pending.serial issue before msg := by
  obtain ⟨issue, known, -, version⟩ := Recorded.run config inputs held
  obtain ⟨before, msg, origin⟩ := issued_origin config inputs pending.serial issue known
  exact ⟨issue, before, msg, known, version, origin⟩

end Vynkor
