import Vynkor.Proofs.DeathCounts
import Vynkor.Proofs.DeclaredSubscriptions
import Vynkor.Proofs.EventIds
import Vynkor.Proofs.OutboxSteps

/-! Event ids are unique where the numbers in them are: a plugin joins or leaves at most once in
a millisecond, a kernel starts later than the last one ended, the counters do not wrap, and no
plugin whose exit was announced is started anew. -/

namespace Vynkor
open Lib

def Publication.kind (publication : Publication) : EventKind := publication.key.kind

section Kinds
variable (config : Config) (ambient : Ambient) (kernel : Kernel) (msg : IncomingMessage)

private theorem evictStalePublications_kinds (pluginId : String) :
    (evictStalePublications ambient kernel pluginId).map Publication.kind = [] ∨
      (evictStalePublications ambient kernel pluginId).map Publication.kind = [.left] := by
  unfold evictStalePublications
  split
  · exact .inl rfl
  · split
    · exact .inr rfl
    · exact .inl rfl

private theorem pluginRegisterPublications_kinds (register : PluginRegister) :
    ((pluginRegisterPublications config ambient kernel msg register).map Publication.kind).Nodup := by
  unfold pluginRegisterPublications
  dsimp only
  split
  · exact List.nodup_nil
  · split
    · exact List.nodup_nil
    · split
      · exact List.nodup_nil
      · rw [List.map_append]
        rcases evictStalePublications_kinds ambient kernel register.pluginId with none | left
        · rw [none]
          split
          · exact List.nodup_nil
          · exact List.nodup_singleton _
        · rw [left]
          split
          · exact List.nodup_singleton _
          · change [EventKind.left, EventKind.joined].Nodup
            decide

private theorem payloadPublications_kinds (payload : Payload) :
    ((payloadPublications config ambient kernel msg payload).map Publication.kind).Nodup := by
  cases payload with
  | pluginRegister register => exact pluginRegisterPublications_kinds config ambient kernel msg register
  | eventPublish =>
    change ((eventPublishPublications ..).map _).Nodup
    unfold eventPublishPublications
    dsimp only
    split
    · exact List.nodup_nil
    · exact List.nodup_singleton _
  | _ => exact List.nodup_nil

private theorem Lifecycle.publications_kinds (life : Lifecycle) (input : LifecycleInput) :
    ((life.publications config input).map Publication.kind).Nodup := by
  cases input with
  | message =>
    unfold publications
    dsimp only
    split
    · exact List.nodup_nil
    · unfold routeMessagePublications
      split
      · split
        · exact List.nodup_nil
        · split
          · exact List.nodup_nil
          · exact payloadPublications_kinds ..
      · exact List.nodup_nil
  | publishLeft clock =>
    unfold publications
    dsimp only
    split
    · exact List.nodup_singleton _
    · exact List.nodup_nil
  | _ => exact List.nodup_nil

end Kinds

section Sequence
variable {ambient : Ambient} {msg : IncomingMessage} {standing after : Standing} {published : List Publication}

theorem Shift.sequence (shift : Shift ambient msg standing published after)
    (room : standing.eventSeq.toNat + published.length < UInt64.size) :
    (standing.eventSeq.toNat ≤ after.eventSeq.toNat ∧
      after.eventSeq.toNat ≤ standing.eventSeq.toNat + published.length) ∧
    ∀ sender clock seq eventType payloadJson, .plugin sender clock seq eventType payloadJson ∈ published →
      clock = ambient.clock ∧ standing.eventSeq.toNat ≤ seq.toNat ∧ seq.toNat < after.eventSeq.toNat := by
  cases shift with
  | publish =>
    have next : (standing.eventSeq + 1).toNat = standing.eventSeq.toNat + 1 := by
      rw [UInt64.toNat_add]
      exact Nat.mod_eq_of_lt room
    rw [next]
    refine ⟨⟨Nat.le_succ _, Nat.le_refl _⟩, ?_⟩
    intro other clock seq type json member
    cases List.mem_singleton.mp member
    exact ⟨rfl, Nat.le_refl _, Nat.lt_succ_self _⟩
  | subscribe | unsubscribe => exact ⟨⟨Nat.le_refl _, Nat.le_add_right _ _⟩, fun _ _ _ _ _ member => nomatch member⟩
  | leave | join =>
    refine ⟨⟨Nat.le_refl _, Nat.le_add_right _ _⟩, ?_⟩
    intro other clock seq type json member
    cases List.mem_singleton.mp member

theorem Shifts.sequence (shifts : Shifts ambient msg standing published after)
    (room : standing.eventSeq.toNat + published.length < UInt64.size) :
    standing.eventSeq.toNat ≤ after.eventSeq.toNat ∧
    ∀ sender clock seq eventType payloadJson, .plugin sender clock seq eventType payloadJson ∈ published →
      clock = ambient.clock ∧ standing.eventSeq.toNat ≤ seq.toNat ∧ seq.toNat < after.eventSeq.toNat := by
  induction shifts with
  | none => exact ⟨Nat.le_refl _, fun _ _ _ _ _ member => nomatch member⟩
  | @more standing middle after first last shift rest ih =>
    rw [List.length_append] at room
    obtain ⟨⟨grown, most⟩, firsts⟩ := shift.sequence (by omega)
    obtain ⟨further, lasts⟩ := ih (by omega)
    refine ⟨Nat.le_trans grown further, ?_⟩
    intro sender clock seq eventType payloadJson member
    rcases List.mem_append.mp member with early | late
    · obtain ⟨time, low, high⟩ := firsts _ _ _ _ _ early
      exact ⟨time, low, Nat.lt_of_lt_of_le high further⟩
    · obtain ⟨time, low, high⟩ := lasts _ _ _ _ _ late
      exact ⟨time, Nat.le_trans grown low, high⟩

theorem Passage.Turns.sequence {passage after : Passage} {input : LifecycleInput} (turns : passage.Turns input published after)
    (room : passage.standing.eventSeq.toNat + published.length < UInt64.size) :
    passage.standing.eventSeq.toNat ≤ after.standing.eventSeq.toNat ∧
    ∀ sender clock seq eventType payloadJson, .plugin sender clock seq eventType payloadJson ∈ published →
      (∃ ambient msg, input = .message ambient msg ∧ clock = ambient.clock) ∧
      passage.standing.eventSeq.toNat ≤ seq.toNat ∧ seq.toNat < after.standing.eventSeq.toNat := by
  cases turns with
  | routes ambient msg published standing shifts =>
    obtain ⟨grown, numbers⟩ := shifts.sequence room
    refine ⟨grown, ?_⟩
    intro sender clock seq eventType payloadJson member
    obtain ⟨time, range⟩ := numbers _ _ _ _ _ member
    exact ⟨⟨ambient, msg, rfl, time⟩, range⟩
  | announces clock connId pluginId payload stage =>
    refine ⟨Nat.le_refl _, ?_⟩
    intro sender clock seq eventType payloadJson member
    cases List.mem_singleton.mp member
  | stays | finds | removes | yields | clears | stops | loads =>
    exact ⟨Nat.le_refl _, fun _ _ _ _ _ member => nomatch member⟩

private theorem Shift.undying (shift : Shift ambient msg standing published after) (pluginId : String) (count : UInt32) :
    ¬Announced published pluginId count := by
  rintro ⟨willRestart, member⟩
  cases shift with
  | publish | leave | join => cases List.mem_singleton.mp member
  | subscribe | unsubscribe => cases member

private theorem Shifts.undying (shifts : Shifts ambient msg standing published after) (pluginId : String) (count : UInt32) :
    ¬Announced published pluginId count := by
  induction shifts with
  | none => exact fun ⟨_, member⟩ => nomatch member
  | more shift _ ih =>
    intro announced
    rcases announced.append with early | late
    · exact shift.undying pluginId count early
    · exact ih late

private theorem Passage.Turns.undying {passage after : Passage} {input : LifecycleInput} (turns : passage.Turns input published after)
    (pluginId : String) (count : UInt32) : ¬Announced published pluginId count := by
  rintro ⟨willRestart, member⟩
  cases turns with
  | routes ambient msg published standing shifts => exact shifts.undying pluginId count ⟨willRestart, member⟩
  | announces => cases List.mem_singleton.mp member
  | stays | finds | removes | yields | clears | stops | loads => cases member

end Sequence

private theorem Outbox.step_get (config : RetryConfig) (outbox : Outbox) (input : OutboxInput) {eventId : String}
    (there : (outbox.step config input).store.get eventId ≠ none) :
    outbox.store.get eventId ≠ none ∨ ∃ now event, input = .publish now event ∧ event.eventId = eventId := by
  cases input with
  | publish now event =>
    by_cases mine : eventId = event.eventId
    · exact .inr ⟨now, event, rfl, mine.symm⟩
    · refine .inl fun missing => there ?_
      exact (EventStore.get_persist ..).trans ((if_neg mine).trans missing)
  | eventAck wanted =>
    refine .inl fun missing => there ((EventStore.get_markDelivered ..).trans ?_)
    split
    next same => rw [← same, missing, Option.map_none]
    next => exact missing
  | scan now order =>
    refine .inl fun missing => there ?_
    change (outbox.scan now order).store.get eventId = none
    unfold scan
    split <;> exact missing
  | bump =>
    refine .inl fun missing => there ?_
    change (outbox.bump config).store.get eventId = none
    unfold bump
    split
    · rw [EventStore.get_incrementRetryOrDead]
      split
      next same => rw [← same, missing, Option.map_none]
      next => exact missing
    · exact missing
  | prune now =>
    refine .inl fun missing => there ?_
    change (outbox.prune config now).store.get eventId = none
    unfold prune
    split
    · rw [EventStore.get_prune, missing, Option.filter_none]
    · exact missing
  | redeliver shuffle bus registry =>
    refine .inl fun missing => there ?_
    change (outbox.redeliver shuffle bus registry).store.get eventId = none
    unfold redeliver
    split <;> exact missing

namespace Chronicle
variable {retry : RetryConfig} {chronicle : Chronicle}

/-- No two publications have one key, every row is that of a publication, and none was ignored. -/
structure Kept (chronicle : Chronicle) : Prop where
  distinct : (chronicle.published.map Publication.key).Nodup
  rows : ∀ eventId, chronicle.outbox.store.get eventId ≠ none →
    ∃ publication ∈ chronicle.published, publication.event.eventId = eventId
  ignored : chronicle.ignored = []

theorem Kept.publish (kept : chronicle.Kept) {publication : Publication}
    (new : publication.key ∉ chronicle.published.map Publication.key) : (chronicle.publish retry publication).Kept where
  distinct := by
    change ((chronicle.published ++ [publication]).map Publication.key).Nodup
    rw [List.map_append]
    exact List.Nodup.append kept.distinct (List.nodup_singleton _) (List.disjoint_singleton.mpr new)
  rows eventId there := by
    rcases Outbox.step_get _ _ _ there with earlier | ⟨now, event, same, mine⟩
    · obtain ⟨old, member, its⟩ := kept.rows eventId earlier
      exact ⟨old, List.mem_append_left _ member, its⟩
    · cases same
      exact ⟨publication, List.mem_append_right _ List.mem_cons_self, mine⟩
  ignored := by
    have missing : chronicle.outbox.store.get publication.event.eventId = none := by
      by_contra there
      obtain ⟨old, member, same⟩ := kept.rows _ there
      exact new (List.mem_map.mpr ⟨old, member, Publication.eventId_eq_iff.mp same⟩)
    change chronicle.ignored ++ (if (chronicle.outbox.store.get _).isSome then _ else _) = []
    rw [missing, kept.ignored]
    rfl

private theorem Kept.publishAll (kept : chronicle.Kept) {publications : List Publication}
    (distinct : ((chronicle.published ++ publications).map Publication.key).Nodup) :
    (publications.foldl (Chronicle.publish retry) chronicle).Kept := by
  induction publications generalizing chronicle with
  | nil => exact kept
  | cons first rest ih =>
    have together : chronicle.published ++ first :: rest = (chronicle.published ++ [first]) ++ rest := by simp
    rw [together] at distinct
    refine ih (kept.publish ?_) distinct
    have early : ((chronicle.published ++ [first]).map Publication.key).Nodup := by
      rw [List.map_append] at distinct
      exact distinct.of_append_left
    rw [List.map_append] at early
    exact fun member => (List.disjoint_of_nodup_append early) member List.mem_cons_self

private theorem publishAll_frame (publications : List Publication) :
    ∃ outbox ignored, publications.foldl (publish retry) chronicle =
      { chronicle with outbox, published := chronicle.published ++ publications, ignored } := by
  induction publications generalizing chronicle with
  | nil => exact ⟨chronicle.outbox, chronicle.ignored, by rw [List.append_nil]; rfl⟩
  | cons first rest ih =>
    obtain ⟨outbox, ignored, same⟩ := @ih (chronicle.publish retry first)
    refine ⟨outbox, ignored, same.trans ?_⟩
    have together : chronicle.published ++ [first] ++ rest = chronicle.published ++ first :: rest := by simp
    rw [← together]
    rfl

theorem Kept.store (kept : chronicle.Kept) {input : OutboxInput} (unpublished : ∀ now event, input ≠ .publish now event) :
    (chronicle.store retry input).Kept where
  distinct := kept.distinct
  rows eventId there := by
    rcases Outbox.step_get _ _ _ there with earlier | ⟨now, event, same, -⟩
    · exact kept.rows eventId earlier
    · exact absurd same (unpublished now event)
  ignored := kept.ignored

def publishesDeath (pluginId : String) : Publication → Bool
  | .died other _ _ => other == pluginId
  | _ => false

/-- The plugin has not joined, or left, at this millisecond before. -/
def firstInMilli (chronicle : Chronicle) (publication : Publication) : Bool :=
  match publication.kind with
  | .joined | .left => !chronicle.published.any fun earlier => earlier.key == publication.key
  | _ => true

/-- `spawn_plugin` enters only plugins of which no exit was announced, and no restart count wraps. -/
def countsOn (chronicle : Chronicle) : SupervisorInput → Bool
  | .insert (.api call) =>
    match chronicle.supervisor.spawns.get call with
    | none => true
    | some spawn => !chronicle.published.any (publishesDeath spawn.config.pluginId)
  | .decideExit =>
    match chronicle.supervisor.events with
    | [] => true
    | event :: _ =>
      match chronicle.supervisor.entries.get event.pluginId with
      | none => true
      | some entry => entry.restartCount.toNat + 1 < UInt32.size
  | _ => true

/-- No plugin joins or leaves twice in a millisecond, the counters do not wrap, `spawn_plugin`
begins anew with no plugin whose exit was announced, and a kernel starts later than the last
moment of the one before. -/
def calm (config : Config) (chronicle : Chronicle) (input : ChronicleInput) : Bool :=
  match input.act with
  | .lifecycle act =>
    let publications := chronicle.lifecycle.publications config (act.timed input.millis)
    publications.all chronicle.firstInMilli &&
      decide (chronicle.lifecycle.kernel.eventSeq.toNat + publications.length < UInt64.size)
  | .supervisor act => chronicle.countsOn act
  | .reboot => decide (chronicle.millis < input.millis)
  | _ => true

private theorem countsOn_insert {call : Nat} {spawn : Spawn} (counts : chronicle.countsOn (.insert (.api call)) = true)
    (found : chronicle.supervisor.spawns.get call = some spawn) (count : UInt32) :
    ¬Announced chronicle.published spawn.config.pluginId count := by
  rintro ⟨willRestart, member⟩
  unfold countsOn at counts
  dsimp only at counts
  rw [found] at counts
  dsimp only at counts
  rw [Bool.not_eq_true'] at counts
  exact List.any_eq_false.mp counts _ member (beq_self_eq_true spawn.config.pluginId)

private theorem countsOn_decideExit {event : ExitEvent} {events : List ExitEvent} {entry : SupervisorEntry}
    (counts : chronicle.countsOn .decideExit = true) (next : chronicle.supervisor.events = event :: events)
    (held : chronicle.supervisor.entries.get event.pluginId = some entry) : entry.restartCount.toNat + 1 < UInt32.size := by
  unfold countsOn at counts
  dsimp only at counts
  rw [next] at counts
  dsimp only at counts
  rw [held] at counts
  exact of_decide_eq_true counts

private theorem firstInMilli_new {publication : Publication} (first : chronicle.firstInMilli publication = true)
    (kind : publication.kind = .joined ∨ publication.kind = .left) :
    publication.key ∉ chronicle.published.map Publication.key := by
  intro member
  obtain ⟨earlier, there, same⟩ := List.mem_map.mp member
  have none : (!chronicle.published.any fun earlier => earlier.key == publication.key) = true := by
    unfold firstInMilli at first
    rcases kind with joined | left
    · rw [joined] at first
      exact first
    · rw [left] at first
      exact first
  rw [Bool.not_eq_true'] at none
  exact List.any_eq_false.mp none earlier there (beq_iff_eq.mpr same)

/-- The number of a plugin's event is below the counter, unless a kernel of the past gave it. -/
structure Numbered (chronicle : Chronicle) : Prop where
  kept : chronicle.Kept
  valid : chronicle.supervisor.Valid
  counting : chronicle.supervisor.Counting chronicle.published
  time : chronicle.booted ≤ chronicle.millis
  sequence : ∀ sender clock seq eventType payloadJson, .plugin sender clock seq eventType payloadJson ∈ chronicle.published →
    clock.unixMillis ≤ chronicle.millis ∧
      (clock.unixMillis < chronicle.booted ∨ seq.toNat < chronicle.lifecycle.kernel.eventSeq.toNat)

theorem Numbered.initial : Numbered {} where
  kept := ⟨List.nodup_nil, fun _ there => absurd rfl there, rfl⟩
  valid := .init
  counting := .initial []
  time := Nat.le_refl _
  sequence := nofun

theorem Numbered.later (numbered : chronicle.Numbered) {millis : Nat} (forward : chronicle.millis ≤ millis) :
    Numbered { chronicle with millis } where
  kept := ⟨numbered.kept.distinct, numbered.kept.rows, numbered.kept.ignored⟩
  valid := numbered.valid
  counting := numbered.counting
  time := Nat.le_trans numbered.time forward
  sequence sender clock seq eventType payloadJson member :=
    ((numbered.sequence sender clock seq eventType payloadJson member).imp_left fun early => Nat.le_trans early forward)

private theorem keys_of_kinds {publications : List Publication} (kinds : (publications.map Publication.kind).Nodup) :
    (publications.map Publication.key).Nodup := by
  have same : publications.map Publication.kind = (publications.map Publication.key).map EventKey.kind := by
    rw [List.map_map]
    rfl
  rw [same] at kinds
  exact kinds.of_map _

private theorem Numbered.publishAll {publications : List Publication} (kept : chronicle.Kept)
    (distinct : ((chronicle.published ++ publications).map Publication.key).Nodup) (valid : chronicle.supervisor.Valid)
    (counting : chronicle.supervisor.Counting (chronicle.published ++ publications))
    (time : chronicle.booted ≤ chronicle.millis)
    (sequence : ∀ sender clock seq eventType payloadJson,
      .plugin sender clock seq eventType payloadJson ∈ chronicle.published ++ publications →
      clock.unixMillis ≤ chronicle.millis ∧
        (clock.unixMillis < chronicle.booted ∨ seq.toNat < chronicle.lifecycle.kernel.eventSeq.toNat)) :
    (publications.foldl (Chronicle.publish retry) chronicle).Numbered := by
  have stored := @Kept.publishAll retry chronicle kept publications distinct
  obtain ⟨outbox, ignored, after⟩ := @publishAll_frame retry chronicle publications
  rw [after] at stored ⊢
  exact ⟨stored, valid, counting, time, sequence⟩

private theorem timed_message {input : LifecycleInput} {millis : Nat} {ambient : Ambient} {msg : IncomingMessage}
    (same : input.timed millis = .message ambient msg) : ambient.clock.unixMillis = millis := by
  cases input with
  | message => cases same; rfl
  | _ => cases same

section Lifecycle
variable {config : Config} {input : LifecycleInput} (numbered : chronicle.Numbered)
  (first : ∀ publication ∈ chronicle.lifecycle.publications config (input.timed chronicle.millis),
    chronicle.firstInMilli publication = true)
  (room : chronicle.lifecycle.kernel.eventSeq.toNat +
    (chronicle.lifecycle.publications config (input.timed chronicle.millis)).length < UInt64.size)
include numbered first room

private theorem Numbered.lifecycle_new {publication : Publication}
    (member : publication ∈ chronicle.lifecycle.publications config (input.timed chronicle.millis)) :
    publication.key ∉ chronicle.published.map Publication.key := by
  have turns := chronicle.lifecycle.step_turns config (input.timed chronicle.millis)
  cases publication with
  | joined => exact firstInMilli_new (first _ member) (.inl rfl)
  | left => exact firstInMilli_new (first _ member) (.inr rfl)
  | died pluginId count willRestart => exact absurd ⟨willRestart, member⟩ (turns.undying pluginId count)
  | plugin sender clock seq eventType payloadJson =>
    obtain ⟨⟨ambient, msg, same, rfl⟩, low, -⟩ := (turns.sequence room).2 _ _ _ _ _ member
    intro earlier
    obtain ⟨old, there, key⟩ := List.mem_map.mp earlier
    cases old with
    | plugin other time number type json =>
      obtain ⟨rfl, times, numbers⟩ : other = sender ∧ time.unixMillis = ambient.clock.unixMillis ∧
          number.toNat = seq.toNat := by
        injection key with senders times numbers
        exact ⟨senders, times, numbers⟩
      have now := timed_message same
      have begun := numbered.time
      have low : chronicle.lifecycle.kernel.eventSeq.toNat ≤ seq.toNat := low
      obtain ⟨-, past | below⟩ := numbered.sequence _ _ _ _ _ there
      · omega
      · omega
    | _ => cases key

theorem Numbered.lifecycle : (chronicle.act config retry (.lifecycle input)).Numbered := by
  have turns := chronicle.lifecycle.step_turns config (input.timed chronicle.millis)
  obtain ⟨grown, numbers⟩ := turns.sequence room
  have distinct : ((chronicle.published ++
      chronicle.lifecycle.publications config (input.timed chronicle.millis)).map Publication.key).Nodup := by
    rw [List.map_append]
    refine numbered.kept.distinct.append (keys_of_kinds (chronicle.lifecycle.publications_kinds config _)) ?_
    intro key old new
    obtain ⟨publication, member, rfl⟩ := List.mem_map.mp new
    exact numbered.lifecycle_new first room member old
  have kept : Kept { chronicle with lifecycle := chronicle.lifecycle.step config (input.timed chronicle.millis) } :=
    ⟨numbered.kept.distinct, numbered.kept.rows, numbered.kept.ignored⟩
  refine Numbered.publishAll kept distinct numbered.valid ?_ numbered.time ?_
  · refine numbered.counting.mono fun pluginId count announced => ?_
    exact announced.append.resolve_right (turns.undying pluginId count)
  · intro sender clock seq eventType payloadJson member
    rcases List.mem_append.mp member with old | new
    · obtain ⟨early, before⟩ := numbered.sequence _ _ _ _ _ old
      exact ⟨early, before.imp_right fun below => Nat.lt_of_lt_of_le below grown⟩
    · obtain ⟨⟨ambient, msg, same, rfl⟩, -, high⟩ := numbers _ _ _ _ _ new
      exact ⟨Nat.le_of_eq (timed_message same), .inr high⟩

end Lifecycle

section
variable (numbered : chronicle.Numbered)
include numbered

private theorem Numbered.supervisor_new (input : SupervisorInput) :
    ((chronicle.published ++ chronicle.supervisor.announcements (chronicle.supervisor.step input)).map Publication.key).Nodup := by
  rcases (chronicle.supervisor.step_turns input).announces with silent | ⟨event, entry, willRestart, -, announces, said⟩
  · rw [silent, List.append_nil]
    exact numbered.kept.distinct
  · rw [said, List.map_append]
    refine numbered.kept.distinct.append (List.nodup_singleton _) (List.disjoint_singleton.mpr fun member => ?_)
    obtain ⟨old, there, key⟩ := List.mem_map.mp member
    cases old with
    | died other count restarts =>
      injection key with plugins counts
      cases UInt32.toNat_inj.mp counts
      exact numbered.counting.fresh numbered.valid announces ⟨restarts, plugins ▸ there⟩
    | _ => cases key

theorem Numbered.supervisor {config : Config} {input : SupervisorInput}
    (counts : chronicle.countsOn input = true) : (chronicle.act config retry (.supervisor input)).Numbered := by
  have turns := chronicle.supervisor.step_turns input
  have kept : Kept { chronicle with supervisor := chronicle.supervisor.step input } :=
    ⟨numbered.kept.distinct, numbered.kept.rows, numbered.kept.ignored⟩
  refine Numbered.publishAll kept (numbered.supervisor_new input) (turns.valid numbered.valid) ?_ numbered.time ?_
  · refine numbered.counting.step numbered.valid turns ?_ ?_
    · rintro call spawn rfl found count
      exact countsOn_insert counts found count
    · rintro event events entry rfl next held
      exact countsOn_decideExit counts next held
  · intro sender clock seq eventType payloadJson member
    rcases List.mem_append.mp member with old | new
    · exact numbered.sequence _ _ _ _ _ old
    · rcases turns.announces with silent | ⟨event, entry, willRestart, -, -, said⟩
      · rw [silent] at new
        cases new
      · rw [said] at new
        cases List.mem_singleton.mp new

theorem Numbered.reboot {config : Config} {millis : Nat} (later : chronicle.millis < millis) :
    (Chronicle.act config retry { chronicle with millis } .reboot).Numbered where
  kept := ⟨numbered.kept.distinct, numbered.kept.rows, numbered.kept.ignored⟩
  valid := .init
  counting := .initial _
  time := Nat.le_refl _
  sequence sender clock seq eventType payloadJson member := by
    obtain ⟨early, -⟩ := numbered.sequence _ _ _ _ _ member
    have past := Nat.lt_of_le_of_lt early later
    exact ⟨Nat.le_of_lt past, .inl past⟩

theorem Numbered.store {input : OutboxInput}
    (unpublished : ∀ now event, input ≠ .publish now event) : (chronicle.store retry input).Numbered :=
  ⟨numbered.kept.store unpublished, numbered.valid, numbered.counting, numbered.time, numbered.sequence⟩

theorem Numbered.step {config : Config} {input : ChronicleInput}
    (forward : chronicle.millis ≤ input.millis) (calm : chronicle.calm config input = true) :
    (chronicle.step config retry input).Numbered := by
  have later := numbered.later forward
  obtain ⟨millis, act⟩ := input
  cases act with
  | lifecycle act =>
    obtain ⟨first, room⟩ := Bool.and_eq_true_iff.mp calm
    exact later.lifecycle (List.all_eq_true.mp first) (of_decide_eq_true room)
  | supervisor act => exact later.supervisor calm
  | reboot => exact numbered.reboot (of_decide_eq_true calm)
  | eventAck | scan | bump | prune | redeliver => exact later.store nofun

end

end Chronicle

/-- Over the lives of all kernels that use one database and under a clock that does not go back,
no two publishes have one event id and each of them becomes a row, as long as the run is calm. -/
theorem event_ids_unique (config : Config) (retry : RetryConfig) (inputs : List ChronicleInput)
    (forward : (Chronicle.machine config retry).Obeys (fun chronicle input => chronicle.millis ≤ input.millis) {} inputs)
    (calm : (Chronicle.machine config retry).Obeys (fun chronicle input => chronicle.calm config input = true) {} inputs) :
    let chronicle := (Chronicle.machine config retry).run inputs
    (chronicle.published.map fun publication => publication.event.eventId).Nodup ∧ chronicle.ignored = [] := by
  intro chronicle
  have numbered : chronicle.Numbered := by
    refine @Machine.Obeys.run_preserves _ _ (Chronicle.machine config retry) Chronicle.Numbered _ .initial ?_ _
      (forward.and calm)
    rintro chronicle input ⟨forward, calm⟩ numbered
    exact numbered.step forward calm
  refine ⟨?_, numbered.kept.ignored⟩
  have ids : chronicle.published.map (fun publication => publication.event.eventId) =
      (chronicle.published.map Publication.key).map EventKey.eventId := by
    rw [List.map_map]
    exact List.map_congr_left fun publication _ => publication.eventId_key
  rw [ids]
  exact numbered.kept.distinct.map EventKey.eventId_injective

def millisecondApart (acts : List ChronicleAct) : List ChronicleInput :=
  acts.zipIdx.map fun (act, millis) => ⟨millis, act⟩

def agentConfig : PluginConfig := { pluginId := "agent", restartPolicy := .onFailure, maxRestarts := 1 }

def agentExits (epoch : Nat) : List SupervisorInput := Supervisor.exiting epoch false ++ [.decideExit, .goOn]

/-- The agent registers and is lost; its process exits and is replaced, that one exits as well, and
another kernel takes over. -/
def agentDiesTwice : List ChronicleInput :=
  millisecondApart ((Supervisor.starting agentConfig 0).map .supervisor ++ agentCrashed.map .lifecycle ++
    (agentExits 1 ++ Supervisor.launch .monitor ++ agentExits 2).map .supervisor ++
    [.reboot, .lifecycle (agentRegisters 1)])

theorem event_ids_unique_agent :
    let chronicle := (Chronicle.machine {} {}).run agentDiesTwice
    (chronicle.published.map fun publication => publication.event.eventId).Nodup ∧ chronicle.ignored = [] ∧
    (chronicle.published.map fun publication => publication.event.eventId) =
      ["sys-joined-agent-4", "sys-left-agent-9", "sys-joined-agent-10", "sys-died-agent-0", "sys-died-agent-1",
        "sys-joined-agent-23"] := by
  obtain ⟨distinct, stored⟩ := event_ids_unique {} {} agentDiesTwice (by decide +kernel) (by decide +kernel)
  exact ⟨distinct, stored, by decide +kernel⟩

/-- The agent may not restart; it is started, exits, and is started and exits again. -/
def agentStartedTwice : List ChronicleInput :=
  let agent := { agentConfig with maxRestarts := 0 }
  millisecondApart ((Supervisor.starting agent 0 ++ agentExits 1 ++ Supervisor.starting agent 1 ++ agentExits 2).map
    .supervisor)

/-- The second exit has the id of the first, and no row is made of it. -/
theorem event_id_repeated :
    (Chronicle.machine {} {}).Obeys (fun chronicle input => chronicle.millis ≤ input.millis) {} agentStartedTwice ∧
    let chronicle := (Chronicle.machine {} {}).run agentStartedTwice
    (chronicle.published.map fun publication => publication.event.eventId) = ["sys-died-agent-0", "sys-died-agent-0"] ∧
    chronicle.ignored = [.died "agent" 0 false] ∧ chronicle.outbox.store.rows.length = 1 := by
  decide +kernel

end Vynkor
