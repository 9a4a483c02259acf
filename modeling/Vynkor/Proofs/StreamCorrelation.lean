import Vynkor.Proofs.RequesterDeparture

/-! A requester names a stream by the id it gave the request, and the kernel looks for
an entry with that id and that requester. The lookup is right in runs in which no
request reuses an id that is still in flight and nobody comes back under a plugin id
with requests in flight. -/

namespace Vynkor
open Lib

/-- The input starts no second stream under a name that is in use. -/
structure Singular (system : System) (input : Input) : Prop where
  newcomers : ∀ {id key pending}, Enlists input id → system.kernel.registry.pendingActions.get key = some pending →
    pending.requesterId ≠ id
  requests : ∀ {ambient msg envelope request sender key pending}, input = .message ambient msg →
    msg.frame.payload.decode = some envelope → envelope.payload = .actionRequest request →
    system.kernel.registry.getByConnId msg.connId = some sender →
    system.kernel.registry.pendingActions.get key = some pending → pending.requesterId = sender.pluginId →
    pending.originalActionId ≠ request.actionId

/-- A requester and its action id name one entry, and a requester that is registered
is on the connection its requests came from. -/
structure Homed (kernel : Kernel) : Prop where
  consistent : kernel.registry.Consistent
  recorded : Recorded kernel
  unique : ∀ {first second pending other}, kernel.registry.pendingActions.get first = some pending →
    kernel.registry.pendingActions.get second = some other → pending.requesterId = other.requesterId →
    pending.originalActionId = other.originalActionId → first = second
  home : ∀ {key pending issue entry}, kernel.registry.pendingActions.get key = some pending →
    kernel.issued[pending.serial]? = some issue →
    kernel.registry.byPluginId.get pending.requesterId = some entry → entry.connId = issue.connId

namespace Homed
variable {kernel after : Kernel}

theorem initial : Homed {} := ⟨.initial, Recorded.initial, nofun, nofun⟩

theorem moved {input : Input} {sends : List Send} (moved : Move input kernel after sends)
    (newcomers : ∀ {id key pending}, Enlists input id → kernel.registry.pendingActions.get key = some pending →
      pending.requesterId ≠ id) (homed : Homed kernel) : Homed after where
  consistent := homed.consistent.effect moved.effect
  recorded := Recorded.moved moved homed.recorded
  unique held found requester original := by
    obtain ⟨pending, was, same⟩ := moved.descends held
    obtain ⟨other, there, alike⟩ := moved.descends found
    refine homed.unique was there ?_ ?_
    · rw [← same.requesterId, ← alike.requesterId, requester]
    · rw [← same.originalActionId, ← alike.originalActionId, original]
  home held known registered := by
    obtain ⟨pending, was, same⟩ := moved.descends held
    rw [same.requesterId] at registered
    rw [same.serial, (Moves.single moved).unissued.1] at known
    rcases moved.newcomers registered with present | enlists
    · exact homed.home was known present
    · exact absurd rfl (newcomers enlists was)

theorem issued {msg : IncomingMessage} {key : String} {pending : PendingAction}
    (issues : Issues msg kernel after key pending)
    (requests : ∀ {other found}, kernel.registry.pendingActions.get other = some found →
      found.requesterId = pending.requesterId → found.originalActionId ≠ pending.originalActionId)
    (homed : Homed kernel) : Homed after := by
  have stored : ∀ other, after.registry.pendingActions.get other =
      if other = key then some pending else kernel.registry.pendingActions.get other := by
    intro other
    rw [issues.result]
    exact DashMap.get_insert ..
  have history : after.issued = kernel.issued ++ [⟨msg.connId, key, pending⟩] := by
    rw [issues.result]
    rfl
  refine ⟨homed.consistent.effect issues.effect, Recorded.issued issues homed.recorded, ?_, ?_⟩
  · intro first second old other held found requester original
    rw [stored] at held found
    split at held <;> split at found
    next here there => exact here.trans there.symm
    next =>
      cases held
      exact absurd original.symm (requests found requester.symm)
    next =>
      cases found
      exact absurd original (requests held requester)
    next => exact homed.unique held found requester original
  · intro other found issue entry held known registered
    rw [stored] at held
    rw [issues.byPluginId] at registered
    rw [history] at known
    split at held
    next =>
      -- the new entry: its requester is the sender of the request
      cases held
      obtain ⟨sender, present⟩ := homed.consistent.getByConnId issues.registered
      obtain ⟨there, located⟩ := homed.consistent.getByConnId_iff.mp present
      rw [issues.requester, senderId_of_getByConnId present] at registered
      cases there.symm.trans registered
      rw [issues.fresh, List.getElem?_concat_length] at known
      cases known
      exact located
    next =>
      rw [List.getElem?_append_left (Recorded.serial_lt homed.recorded held)] at known
      exact homed.home held known registered

/-- In the course of a step that enlists nobody with requests in flight. -/
structure Within (input : Input) (kernel : Kernel) : Prop where
  homed : Homed kernel
  newcomers : ∀ {id key pending}, Enlists input id → kernel.registry.pendingActions.get key = some pending →
    pending.requesterId ≠ id

theorem run (config : Config) {inputs : List Input}
    (obeys : (System.machine config).Obeys Singular (System.machine config).init inputs) :
    Homed ((System.machine config).run inputs).kernel := by
  refine @Machine.Obeys.run_preserves _ _ (System.machine config) (Homed ·.kernel) _ initial ?_ _ obeys
  intro system input singular homed
  obtain ⟨sends, -, step⟩ := System.step_step config system input
  refine (@Step.preserves (fun kernel _ => Within input kernel) input ?_ _ _ _ [] ?_ step ⟨homed, singular.newcomers⟩).homed
  · intro kernel after sends log moved ⟨homed, newcomers⟩
    refine ⟨homed.moved moved newcomers, fun enlists held => ?_⟩
    obtain ⟨old, was, same⟩ := moved.descends held
    rw [same.requesterId]
    exact newcomers enlists was
  · intro ambient msg before added key pending first log origin early present issues ⟨homed, newcomers⟩
    obtain ⟨envelope, request, decoded, payload, original, -⟩ := issues.request
    obtain ⟨sender, found⟩ := homed.consistent.getByConnId issues.registered
    have named := issues.requester.trans (senderId_of_getByConnId found)
    constructor
    · refine homed.issued issues fun held requester => ?_
      obtain ⟨old, was, same⟩ := early.descends held
      rw [same.originalActionId, original]
      rw [same.requesterId, named] at requester
      exact singular.requests origin decoded payload (present ▸ found) was requester
    · -- a request enlists nobody
      intro id other found enlists
      subst origin
      obtain ⟨again, register, same, registers, -⟩ := enlists
      cases decoded.symm.trans same
      cases payload.symm.trans registers

end Homed

/-- A request chunk or a requester's close on a connection goes to the one stream its
plugin opened under that id, and it opened it on this connection. -/
theorem stream_found_is_own (config : Config) (inputs : List Input)
    (obeys : (System.machine config).Obeys Singular (System.machine config).init inputs) (shuffle : Shuffle String)
    (connId : ConnId) (sender : PluginEntry) (actionId key : String)
    (registered : ((System.machine config).run inputs).kernel.registry.getByConnId connId = some sender)
    (resolved : ((System.machine config).run inputs).kernel.registry.findPendingInternalId shuffle sender.pluginId
        actionId = some key ∨
      ∃ pending, resolveClose shuffle ((System.machine config).run inputs).kernel.registry sender.pluginId actionId =
        some (key, pending, false)) :
    ∃ pending, ((System.machine config).run inputs).kernel.registry.pendingActions.get key = some pending ∧
      pending.requesterId = sender.pluginId ∧ pending.originalActionId = actionId ∧
      (∀ other found, ((System.machine config).run inputs).kernel.registry.pendingActions.get other = some found →
        found.requesterId = sender.pluginId → found.originalActionId = actionId → other = key) ∧
      ∃ issue before msg, ((System.machine config).run inputs).kernel.issued[pending.serial]? = some issue ∧
        Origin config inputs pending.serial issue before msg ∧ msg.connId = connId ∧
        issue.pending.originalActionId = actionId := by
  have homed := Homed.run config obeys
  have found := resolved.elim id fun ⟨_, closed⟩ => (resolveClose_cases closed).2.2 rfl
  obtain ⟨pending, held, requester, original⟩ := findPendingInternalId_held found
  obtain ⟨there, located⟩ := homed.consistent.getByConnId_iff.mp registered
  refine ⟨pending, held, requester, original, ?_, ?_⟩
  · intro other again stored named called
    exact homed.unique stored held (named.trans requester.symm) (called.trans original.symm)
  · obtain ⟨issue, before, msg, known, version, origin⟩ := pending_origin config held
    refine ⟨issue, before, msg, known, origin, ?_, version.originalActionId.symm.trans original⟩
    have home := homed.home held known (by rw [requester]; exact there)
    rw [← origin.connection, ← home, located]

private theorem Singular.of_idle {system : System} {input : Input} (idle : system.kernel.registry.pendingActions.keys = []) :
    Singular system input := by
  have free : ∀ {key pending}, system.kernel.registry.pendingActions.get key ≠ some pending := by
    intro key pending held
    have listed := (DashMap.mem_keys system.kernel.registry.pendingActions key).mpr (by simp [held])
    rw [idle] at listed
    cases listed
  exact ⟨fun _ held => absurd held free, fun _ _ _ _ held => absurd held free⟩

theorem stream_found_is_own_watching :
    let run := (System.machine {}).run
    ∃ sender pending, (run watching).kernel.registry.getByConnId 2 = some sender ∧
      (run watching).kernel.registry.pendingActions.get "kact-0" = some pending ∧ pending.originalActionId = "1" ∧
      ∃ issue before msg, Origin {} watching pending.serial issue before msg ∧ msg.connId = 2 ∧
        issue.pending.originalActionId = "1" := by
  have obeys : (System.machine {}).Obeys Singular (System.machine {}).init watching := by
    refine ⟨.of_idle rfl, .of_idle (by decide +kernel), .of_idle (by decide +kernel), ⟨?_, ?_⟩, trivial⟩
    · rintro id key pending ⟨envelope, register, decoded, registers, -⟩
      cases decoded
      cases registers
    · intro ambient msg envelope request sender key pending same decoded requests
      cases same
      cases decoded
      cases requests
  have named : (((System.machine {}).run watching).kernel.registry.getByConnId 2).map PluginEntry.pluginId =
      some "app" := by decide +kernel
  obtain ⟨sender, registered, called⟩ := Option.map_eq_some_iff.mp named
  have found : ((System.machine {}).run watching).kernel.registry.findPendingInternalId (.unchanged String) "app" "1" =
      some "kact-0" := by decide +kernel
  obtain ⟨pending, held, -, original, -, issue, before, msg, -, origin, own⟩ :=
    stream_found_is_own {} watching obeys (.unchanged String) 2 sender "1" "kact-0" registered (.inl (called ▸ found))
  exact ⟨sender, pending, registered, held, original, issue, before, msg, origin, own⟩

/-- The app's connection is lost and it comes back on another one. -/
def appBack : List Input := [.disconnect {} 2, .call (.registerWithDevice ⟨0, 0⟩ "app" 3 {} 3 {})]

/-- The new process counts its requests from one again. Its chunks go to the stream of
the old connection, and its own request makes a second entry of that name. -/
theorem chunk_joins_stale_stream :
    let back := (System.machine {}).run (watching ++ appBack)
    let asked := (System.machine {}).run (watching ++ appBack ++
      [toKernel 3 (.actionRequest { actionId := "1", action := "watch", streaming := true })])
    (back.kernel.registry.getByConnId 3).map PluginEntry.pluginId = some "app" ∧
    back.kernel.registry.findPendingInternalId (.unchanged String) "app" "1" = some "kact-0" ∧
    (resolveClose (.unchanged String) back.kernel.registry "app" "1").map (fun found => (found.1, found.2.2)) =
      some ("kact-0", false) ∧
    back.kernel.issued.map (fun issue => (issue.key, issue.connId)) = [("kact-0", 2)] ∧
    ((back.step {} (toKernel 3 (.actionRequestChunk { actionId := "1", seq := 0, chunk := [], final := true }))).log.drop
      back.log.length).map (fun send => (send.tx, send.item)) =
      [(1, .envelope { payload := .actionRequestChunk { actionId := "kact-0", seq := 0, chunk := [], final := true } })] ∧
    ["kact-0", "kact-1"].map (fun key => (asked.kernel.registry.pendingActions.get key).map fun pending =>
      (pending.requesterId, pending.originalActionId)) = [some ("app", "1"), some ("app", "1")] := by
  decide +kernel

end Vynkor
