import Vynkor.Lib.Machine
import Vynkor.Proofs.RegistryCalls
import Vynkor.Watchdog

/-! Whom the watchdog kills: only plugins that were silent for the whole deadline, all of
those, and never one that answers its pings in time. -/

namespace Vynkor
open Lib

namespace Registry
variable {registry : Registry} {pluginId : String}

private theorem pongTimes_of_unregisterIf {shuffle : Shuffle String} {id : String} {test : PluginEntry → Bool} {lastPong : Instant}
    (held : (registry.unregisterIf shuffle id test).registry.pongTimes.get pluginId = some lastPong) :
    registry.pongTimes.get pluginId = some lastPong := by
  rcases unregisterIf_cases shuffle registry id test with kept | ⟨entry, -, -, removed⟩
  · rwa [kept] at held
  · rw [removed] at held
    exact (DashMap.remove_some.mp held).2

/-- A call sets the pong record of the plugin it hears; one that hears nobody leaves pong
records as they are, or removes them. -/
theorem hears_cases (registry : Registry) (call : Call) :
    (∃ pluginId now, registry.hears call = some pluginId ∧ call.instant = some now ∧
      (registry.apply call).pongTimes = registry.pongTimes.insert pluginId now) ∨
    registry.hears call = none ∧ ∀ {pluginId lastPong}, (registry.apply call).pongTimes.get pluginId = some lastPong →
      registry.pongTimes.get pluginId = some lastPong := by
  cases call with
  | recordPong clock id => exact .inl ⟨id, clock.now, rfl, rfl, rfl⟩
  | registerWithDevice clock id connId manifest writeTx info =>
    simp only [hears, apply]
    rcases registerWithDevice_cases registry clock id connId manifest writeTx info with
      ⟨error, refused⟩ | ⟨-, -, -, -, enrolled⟩
    · rw [refused]
      exact .inr ⟨rfl, fun held => held⟩
    · rw [enrolled]
      exact .inl ⟨id, clock.now, rfl, rfl, rfl⟩
  | registerDevice clock id connId caps manifest writeTx info =>
    simp only [hears, apply]
    rcases registerDevice_cases registry clock id connId caps manifest writeTx info with
      ⟨error, refused⟩ | ⟨-, -, -, -, enrolled⟩
    · rw [refused]
      exact .inr ⟨rfl, fun held => held⟩
    · rw [enrolled]
      exact .inl ⟨id, clock.now, rfl, rfl, rfl⟩
  | unregister | unregisterConn | unregisterIfDead => exact .inr ⟨rfl, pongTimes_of_unregisterIf⟩
  | registerDormant plugin =>
    refine .inr ⟨rfl, fun {pluginId lastPong} held => ?_⟩
    simp only [apply, registerDormant, dropDormantActions] at held
    cases asleep : registry.dormant.get plugin.pluginId <;> simpa only [asleep] using held

end Registry

namespace Watchdog

/-- What a visit leaves in the log. -/
inductive Verdict (times : WatchdogTimes) (watchdog : Watchdog) (pluginId : String) (entry : Supervised) :
    Option Vital → Prop
  | killed (silent : watchdog.unresponsive times pluginId = true) :
      Verdict times watchdog pluginId entry (some (.killed pluginId entry.target watchdog.now))
  | pinged (ping) (responsive : watchdog.unresponsive times pluginId = false) :
      Verdict times watchdog pluginId entry (some (.pinged pluginId ping watchdog.now))
  | missed (responsive : watchdog.unresponsive times pluginId = false) : Verdict times watchdog pluginId entry none

/-- The steps that change anything, with the circumstances in which they are taken. -/
inductive Turns (times : WatchdogTimes) (watchdog : Watchdog) : WatchdogInput → Watchdog → Prop
  | stay (input) : Turns times watchdog input watchdog
  | elapsed (duration) : Turns times watchdog (.elapse duration) { watchdog with now := watchdog.now + duration }
  | entries (input entries) : Turns times watchdog input { watchdog with entries }
  | heard (call pluginId)
      (records : (watchdog.registry.apply call).pongTimes = watchdog.registry.pongTimes.insert pluginId watchdog.now) :
      Turns times watchdog (.call call)
        { watchdog with
          registry := watchdog.registry.apply call, log := .heard pluginId watchdog.now :: watchdog.log }
  | unheard (call)
      (records : ∀ {pluginId lastPong}, (watchdog.registry.apply call).pongTimes.get pluginId = some lastPong →
        watchdog.registry.pongTimes.get pluginId = some lastPong) :
      Turns times watchdog (.call call) { watchdog with registry := watchdog.registry.apply call }
  | woke (shuffle wakesAt) (asleep : watchdog.stage = .sleeping wakesAt)
      (due : wakesAt ≤ watchdog.now) :
      Turns times watchdog (.wake shuffle)
        { watchdog with stage := watchdog.proceed times (watchdog.entries.iter shuffle) }
  | visited (unixMillis sent pluginId entry rest event) (next : watchdog.stage = .sweeping ((pluginId, entry) :: rest))
      (verdict : Verdict times watchdog pluginId entry event) :
      Turns times watchdog (.visit unixMillis sent)
        { watchdog with stage := watchdog.proceed times rest, log := event.toList ++ watchdog.log }

variable {times : WatchdogTimes} {watchdog after : Watchdog} {input : WatchdogInput}

private theorem unresponsive_iff {pluginId : String} : watchdog.unresponsive times pluginId = true ↔
    ∃ lastPong, watchdog.registry.pongTimes.get pluginId = some lastPong ∧ lastPong + times.deadline < watchdog.now := by
  simp only [unresponsive, Option.any_eq_true, decide_eq_true_eq]

private theorem called_turns (call : Registry.Call) : Turns times watchdog (.call call) (watchdog.called call) := by
  simp only [called]
  split
  next timely =>
    rcases watchdog.registry.hears_cases call with ⟨pluginId, now, heard, read, records⟩ | ⟨deaf, records⟩
    · rw [read, Option.all_some, beq_iff_eq] at timely
      rw [heard]
      exact .heard call pluginId (timely ▸ records)
    · rw [deaf]
      exact .unheard call records
  next => exact .stay _

private theorem visit_turns (unixMillis : Nat) (sent : Bool) :
    Turns times watchdog (.visit unixMillis sent) (watchdog.visit times unixMillis sent) := by
  simp only [visit]
  split
  next pluginId entry rest next =>
    split
    next silent => exact .visited unixMillis sent pluginId entry rest _ next (.killed silent)
    next responsive =>
      have responsive := Bool.eq_false_iff.mpr responsive
      split
      next regEntry registered =>
        split
        next => exact .visited unixMillis sent pluginId entry rest _ next (.pinged _ responsive)
        next => exact .visited unixMillis sent pluginId entry rest none next (.missed responsive)
      next => exact .visited unixMillis sent pluginId entry rest none next (.missed responsive)
  next => exact .stay _

theorem step_turns (times : WatchdogTimes) (watchdog : Watchdog) (input : WatchdogInput) :
    Turns times watchdog input (watchdog.step times input) := by
  cases input with
  | elapse duration => exact .elapsed duration
  | supervise | dismiss => exact .entries _ _
  | call call => exact called_turns call
  | wake shuffle =>
    simp only [step, wake]
    split
    next wakesAt asleep =>
      split
      next due => exact .woke shuffle wakesAt asleep due
      next => exact .stay _
    next => exact .stay _
  | visit unixMillis sent => exact visit_turns unixMillis sent

private theorem wake_due {shuffle : Shuffle String} {wakesAt : Instant} (asleep : watchdog.stage = .sleeping wakesAt)
    (due : wakesAt ≤ watchdog.now) :
    watchdog.wake times shuffle = { watchdog with stage := watchdog.proceed times (watchdog.entries.iter shuffle) } := by
  simp only [wake, asleep, if_pos due]

/-- The time of the last message exchanged with the plugin, a registration counting as one. -/
def lastContact (pluginId : String) : List Vital → Option Instant
  | [] => none
  | .heard id time :: older | .pinged id _ time :: older => if id = pluginId then some time else lastContact pluginId older
  | .killed _ _ _ :: older => lastContact pluginId older

/-- The time of the first ping since the plugin was last heard. -/
def unanswered (pluginId : String) : List Vital → Option Instant
  | [] => none
  | .heard id _ :: older => if id = pluginId then none else unanswered pluginId older
  | .pinged id _ time :: older =>
    if id = pluginId then some ((unanswered pluginId older).getD time) else unanswered pluginId older
  | .killed _ _ _ :: older => unanswered pluginId older

def nextVisit (watchdog : Watchdog) : Option String :=
  match watchdog.stage with
  | .sweeping rest => (rest.head?).map Prod.fst
  | .sleeping _ => none

/-- Whenever the watchdog comes to the plugin, the last message is at most `gap` old, and no
ping has waited longer than `answer`. -/
def Responsive (gap answer : Nat) (pluginId : String) (watchdog : Watchdog) : WatchdogInput → Prop
  | .visit _ _ => watchdog.nextVisit = some pluginId → watchdog.registry.pongTimes.containsKey pluginId = true →
      (∀ contact ∈ lastContact pluginId watchdog.log, watchdog.now ≤ contact + gap) ∧
      ∀ first ∈ unanswered pluginId watchdog.log, watchdog.now ≤ first + answer
  | _ => True

instance decidableResponsive (gap answer : Nat) (pluginId : String) (watchdog : Watchdog) :
    (input : WatchdogInput) → Decidable (Responsive gap answer pluginId watchdog input)
  | .visit _ _ => inferInstanceAs (Decidable (_ = _ → _ = _ → (∀ _ ∈ _, _) ∧ ∀ _ ∈ _, _))
  | .elapse _ | .supervise _ _ | .dismiss _ | .call _ | .wake _ => .isTrue trivial

/-- The first ping that waits for an answer was sent at most `gap` after the last pong. -/
def Answering (gap : Nat) (pluginId : String) (lastPong : Instant) (log : List Vital) : Prop :=
  unanswered pluginId log = none ∧ lastContact pluginId log = some lastPong ∨
    ∃ first, unanswered pluginId log = some first ∧ first ≤ lastPong + gap

structure Spared (gap : Nat) (pluginId : String) (watchdog : Watchdog) : Prop where
  answering : ∀ lastPong, watchdog.registry.pongTimes.get pluginId = some lastPong →
    Answering gap pluginId lastPong watchdog.log
  spared : ∀ target time, Vital.killed pluginId target time ∉ watchdog.log

section Answering
variable {gap answer : Nat} {pluginId : String} {lastPong : Instant} {log : List Vital}

private theorem Answering.heard_self (time : Instant) : Answering gap pluginId time (.heard pluginId time :: log) :=
  .inl ⟨if_pos rfl, if_pos rfl⟩

theorem Answering.other (answering : Answering gap pluginId lastPong log) {event : Vital}
    (apart : unanswered pluginId (event :: log) = unanswered pluginId log)
    (same : lastContact pluginId (event :: log) = lastContact pluginId log) :
    Answering gap pluginId lastPong (event :: log) := by
  simpa only [Answering, apart, same] using answering

private theorem Answering.pinged_self (answering : Answering gap pluginId lastPong log) {ping : Send} {now : Instant}
    (visited : ∀ contact ∈ lastContact pluginId log, now ≤ contact + gap) :
    Answering gap pluginId lastPong (.pinged pluginId ping now :: log) := by
  rcases answering with ⟨answered, contact⟩ | ⟨first, waiting, early⟩
  · refine .inr ⟨now, ?_, visited _ contact⟩
    simp [unanswered, answered]
  · refine .inr ⟨first, ?_, early⟩
    simp [unanswered, waiting]

private theorem Answering.in_time (answering : Answering gap pluginId lastPong log) {now : Instant}
    (visited : ∀ contact ∈ lastContact pluginId log, now ≤ contact + gap)
    (answers : ∀ first ∈ unanswered pluginId log, now ≤ first + answer) :
    now ≤ lastPong + (gap + answer) := by
  rcases answering with ⟨-, contact⟩ | ⟨first, waiting, early⟩
  · calc now ≤ lastPong + gap := visited lastPong contact
      _ ≤ lastPong + (gap + answer) := Nat.add_le_add_left (Nat.le_add_right gap answer) lastPong
  · calc now ≤ first + answer := answers first waiting
      _ ≤ lastPong + gap + answer := Nat.add_le_add_right early answer
      _ = lastPong + (gap + answer) := Nat.add_assoc lastPong gap answer

theorem Spared.turns (spared : watchdog.Spared gap pluginId) (within : gap + answer ≤ times.deadline)
    (guard : Responsive gap answer pluginId watchdog input) (turns : Turns times watchdog input after) :
    after.Spared gap pluginId := by
  obtain ⟨answering, spared⟩ := spared
  cases turns with
  | stay | elapsed | entries | woke => exact ⟨answering, spared⟩
  | heard call id records =>
    refine ⟨fun lastPong held => ?_, fun target time => by simpa using spared target time⟩
    rcases DashMap.insert_cases (records ▸ held) with ⟨rfl, rfl⟩ | ⟨apart, before⟩
    · exact .heard_self _
    · exact (answering lastPong before).other (if_neg (Ne.symm apart)) (if_neg (Ne.symm apart))
  | unheard call records => exact ⟨fun lastPong held => answering lastPong (records held), spared⟩
  | visited unixMillis sent id entry rest event next verdict =>
    have timely {lastPong} (held : watchdog.registry.pongTimes.get id = some lastPong) (same : id = pluginId) :=
      guard (by rw [nextVisit, next, ← same]; rfl) ((DashMap.containsKey_iff _ _).mpr ⟨lastPong, same ▸ held⟩)
    cases verdict with
    | killed silent =>
      refine ⟨fun lastPong held => (answering lastPong held).other rfl rfl, fun target time killed => ?_⟩
      rcases List.mem_cons.mp killed with same | old
      · cases same
        obtain ⟨lastPong, held, late⟩ := unresponsive_iff.mp silent
        obtain ⟨visited, answers⟩ := timely held rfl
        have inTime := (answering lastPong held).in_time visited answers
        exact absurd late (Nat.not_lt.mpr (inTime.trans (Nat.add_le_add_left within lastPong)))
      · exact spared target time old
    | pinged ping =>
      refine ⟨fun lastPong held => ?_, fun target time => by simpa using spared target time⟩
      by_cases same : id = pluginId
      · subst same
        exact (answering lastPong held).pinged_self (timely held rfl).1
      · exact (answering lastPong held).other (if_neg same) (if_neg same)
    | missed => exact ⟨answering, spared⟩

end Answering

/-- A plugin that the watchdog visits at most `gap` after the last message, and that answers
its pings within `answer`, is never killed, if the two make at most the deadline. -/
theorem watchdog_spares_responsive (times : WatchdogTimes) (gap answer : Nat) (pluginId : String)
    (within : gap + answer ≤ times.interval + times.timeout) (inputs : List WatchdogInput)
    (responsive : (machine times).Obeys (Responsive gap answer pluginId) (machine times).init inputs) :
    ∀ target time, Vital.killed pluginId target time ∉ ((machine times).run inputs).log := by
  have initial : (machine times).init.Spared gap pluginId := ⟨nofun, nofun⟩
  have kept : ((machine times).run inputs).Spared gap pluginId :=
    responsive.run_preserves initial fun watchdog input guard spared =>
      spared.turns within guard (step_turns times watchdog input)
  exact kept.spared

/-- Two rounds of a camera that registers at once and answers its first ping after 3. -/
def answeringCamera : List WatchdogInput :=
  [.supervise "camera" ⟨40, some 39⟩, .call (.registerWithDevice ⟨0, 0⟩ "camera" 1 {} 7 {}), .elapse 10,
    .wake (Shuffle.unchanged String), .visit 10 true, .elapse 3, .call (.recordPong ⟨13, 13⟩ "camera"), .elapse 7,
    .wake (Shuffle.unchanged String), .visit 20 true]

theorem watchdog_spares_responsive_camera :
    (machine ⟨10, 5⟩).Obeys (Responsive 10 5 "camera") (machine ⟨10, 5⟩).init answeringCamera ∧
    ∀ target time, Vital.killed "camera" target time ∉ ((machine ⟨10, 5⟩).run answeringCamera).log := by
  have responsive : (machine ⟨10, 5⟩).Obeys (Responsive 10 5 "camera") (machine ⟨10, 5⟩).init answeringCamera := by decide
  exact ⟨responsive, watchdog_spares_responsive ⟨10, 5⟩ 10 5 "camera" (by decide) answeringCamera responsive⟩

/-- The supervisor had this entry of the plugin when the round under way began. -/
def Enlisted (times : WatchdogTimes) (inputs : List WatchdogInput) (pluginId : String) (entry : Supervised) : Prop :=
  ∃ first shuffle later, inputs = first ++ .wake shuffle :: later ∧
    ((machine times).run first).entries.get pluginId = some entry ∧
    ∀ since, since <+: later → ∃ rest, ((machine times).run (first ++ .wake shuffle :: since)).stage = .sweeping rest

private theorem enlisted_of_rest {inputs : List WatchdogInput} {rest : List (String × Supervised)} {pluginId : String}
    {entry : Supervised} (sweeping : ((machine times).run inputs).stage = .sweeping rest)
    (member : (pluginId, entry) ∈ rest) : Enlisted times inputs pluginId entry := by
  induction inputs using List.reverseRecOn generalizing rest with
  | nil => cases sweeping
  | append_singleton inputs input ih =>
    have now := sweeping
    have earlier {rest} (sweeping : ((machine times).run inputs).stage = .sweeping rest) (member : (pluginId, entry) ∈ rest) :
        Enlisted times (inputs ++ [input]) pluginId entry := by
      obtain ⟨first, shuffle, later, rfl, held, round⟩ := ih sweeping member
      refine ⟨first, shuffle, later ++ [input], by simp, held, fun since part => ?_⟩
      rcases List.prefix_concat_iff.mp part with rfl | part
      · exact ⟨_, by simpa using now⟩
      · exact round since part
    rw [Machine.run_snoc] at sweeping
    generalize stepped : (machine times).step ((machine times).run inputs) input = after at sweeping
    have turns : Turns times ((machine times).run inputs) input after := stepped ▸ step_turns times _ input
    have proceeded {visited} (left : ((machine times).run inputs).proceed times visited = .sweeping rest) : rest = visited := by
      simp only [proceed] at left
      split at left
      · cases left
      · exact (WatchdogStage.sweeping.inj left).symm
    cases turns with
    | stay | elapsed | entries | heard | unheard => exact earlier sweeping member
    | woke shuffle =>
      rw [proceeded sweeping] at member
      exact ⟨inputs, shuffle, [], rfl, (DashMap.mem_iter _ _ _ _).mp member,
        fun since part => List.prefix_nil.mp part ▸ ⟨_, now⟩⟩
    | visited _ _ _ _ _ _ next =>
      exact earlier next (List.mem_cons_of_mem _ (proceeded sweeping ▸ member))

/-- The visit that kills: the plugin's entry as it was when the round began, and a last pong
that the deadline has passed. -/
def Condemned (times : WatchdogTimes) (inputs : List WatchdogInput) (pluginId : String) (target : Nat) (time : Instant) :
    Prop :=
  ∃ before unixMillis sent later entry lastPong, inputs = before ++ .visit unixMillis sent :: later ∧
    Enlisted times before pluginId entry ∧ target = entry.target ∧ time = ((machine times).run before).now ∧
    ((machine times).run before).registry.pongTimes.get pluginId = some lastPong ∧ lastPong + times.deadline < time

/-- Every signal of the watchdog has its reason. -/
theorem watchdog_kills_silent_only (times : WatchdogTimes) (inputs : List WatchdogInput) (pluginId : String) (target : Nat)
    (time : Instant) (killed : Vital.killed pluginId target time ∈ ((machine times).run inputs).log) :
    Condemned times inputs pluginId target time := by
  obtain ⟨before, input, later, rfl, fresh, rising, -⟩ :=
    Machine.last_rise (fun watchdog : Watchdog => Vital.killed pluginId target time ∈ watchdog.log) (by nofun) killed
  generalize stepped : (machine times).step ((machine times).run before) input = after at rising
  have turns : Turns times ((machine times).run before) input after := stepped ▸ step_turns times _ input
  cases turns with
  | stay | elapsed | entries | unheard | woke => exact absurd rising fresh
  | heard => exact absurd ((List.mem_cons.mp rising).resolve_left nofun) fresh
  | visited unixMillis sent id entry rest event next verdict =>
    have new := (List.mem_append.mp rising).resolve_right fresh
    cases verdict with
    | killed silent =>
      cases List.mem_singleton.mp new
      obtain ⟨lastPong, ponged, late⟩ := unresponsive_iff.mp silent
      exact ⟨before, unixMillis, sent, later, entry, lastPong, rfl, enlisted_of_rest next List.mem_cons_self, rfl, rfl,
        ponged, late⟩
    | pinged ping => cases List.mem_singleton.mp new
    | missed => cases new

def silentCamera : List WatchdogInput :=
  [.supervise "camera" ⟨40, some 39⟩, .call (.registerWithDevice ⟨0, 0⟩ "camera" 1 {} 7 {}), .elapse 36]

theorem watchdog_kills_silent_only_camera :
    Condemned ⟨10, 5⟩ (silentCamera ++ [.wake (Shuffle.unchanged String), .visit 36 true]) "camera" 39 36 :=
  watchdog_kills_silent_only ⟨10, 5⟩ (silentCamera ++ [.wake (Shuffle.unchanged String), .visit 36 true]) "camera" 39 36
    List.mem_cons_self

/-- The plugin's pong record stays as it is. -/
def Unheard (pluginId : String) (watchdog : Watchdog) : WatchdogInput → Prop
  | .call call => (watchdog.registry.apply call).pongTimes.get pluginId = watchdog.registry.pongTimes.get pluginId
  | _ => True

/-- A silent plugin that the round has yet to reach, or has killed. -/
structure Doomed (times : WatchdogTimes) (pluginId : String) (entry : Supervised) (lastPong began : Instant)
    (watchdog : Watchdog) : Prop where
  ponged : watchdog.registry.pongTimes.get pluginId = some lastPong
  late : lastPong + times.deadline < watchdog.now
  since : began ≤ watchdog.now
  fate : (∃ time, began ≤ time ∧ Vital.killed pluginId entry.target time ∈ watchdog.log) ∨
    ∃ rest, watchdog.stage = .sweeping rest ∧ (pluginId, entry) ∈ rest

section Doomed
variable {pluginId : String} {entry : Supervised} {lastPong began : Instant}

private theorem proceed_of_mem {rest : List (String × Supervised)} (member : (pluginId, entry) ∈ rest) :
    watchdog.proceed times rest = .sweeping rest := by
  cases rest with
  | nil => cases member
  | cons => rfl

theorem Doomed.unresponsive (doomed : watchdog.Doomed times pluginId entry lastPong began) :
    watchdog.unresponsive times pluginId = true :=
  unresponsive_iff.mpr ⟨lastPong, doomed.ponged, doomed.late⟩

theorem Doomed.turns (doomed : watchdog.Doomed times pluginId entry lastPong began)
    (unheard : Unheard pluginId watchdog input) (turns : Turns times watchdog input after) :
    after.Doomed times pluginId entry lastPong began := by
  have silent := doomed.unresponsive
  obtain ⟨ponged, late, since, fate⟩ := doomed
  cases turns with
  | stay | entries => exact ⟨ponged, late, since, fate⟩
  | elapsed duration => exact ⟨ponged, late.trans_le (Nat.le_add_right _ _), since.trans (Nat.le_add_right _ _), fate⟩
  | heard =>
    refine ⟨unheard.trans ponged, late, since, fate.imp_left ?_⟩
    exact fun ⟨time, after, killed⟩ => ⟨time, after, List.mem_cons_of_mem _ killed⟩
  | unheard => exact ⟨unheard.trans ponged, late, since, fate⟩
  | woke shuffle wakesAt asleep due =>
    rcases fate with killed | ⟨rest, sweeping, -⟩
    · exact ⟨ponged, late, since, .inl killed⟩
    · rw [asleep] at sweeping
      cases sweeping
  | visited unixMillis sent id other rest event next verdict =>
    refine ⟨ponged, late, since, ?_⟩
    rcases fate with ⟨time, after, killed⟩ | ⟨whole, sweeping, member⟩
    · exact .inl ⟨time, after, List.mem_append_right _ killed⟩
    · cases next.symm.trans sweeping
      rcases List.mem_cons.mp member with same | later
      · cases same
        cases verdict with
        | killed => exact .inl ⟨watchdog.now, since, List.mem_cons_self⟩
        | pinged ping responsive | missed responsive => cases silent.symm.trans responsive
      · exact .inr ⟨rest, proceed_of_mem later, later⟩

end Doomed

/-- A round kills every plugin that was supervised when it began, had been silent for longer
than the deadline by then and stays silent until the round is over. -/
theorem round_kills_silent (times : WatchdogTimes) (inputs later : List WatchdogInput) (shuffle : Shuffle String)
    (pluginId : String) (entry : Supervised) (wakesAt lastPong sleepsUntil : Instant)
    (asleep : ((machine times).run inputs).stage = .sleeping wakesAt) (due : wakesAt ≤ ((machine times).run inputs).now)
    (supervised : ((machine times).run inputs).entries.get pluginId = some entry)
    (ponged : ((machine times).run inputs).registry.pongTimes.get pluginId = some lastPong)
    (late : lastPong + times.deadline < ((machine times).run inputs).now)
    (unheard : (machine times).Obeys (Unheard pluginId) ((machine times).run (inputs ++ [.wake shuffle])) later)
    (done : ((machine times).run (inputs ++ .wake shuffle :: later)).stage = .sleeping sleepsUntil) :
    ∃ time, ((machine times).run inputs).now ≤ time ∧
      Vital.killed pluginId entry.target time ∈ ((machine times).run (inputs ++ .wake shuffle :: later)).log := by
  generalize began : ((machine times).run inputs).now = start at late ⊢
  have member := (DashMap.mem_iter shuffle ((machine times).run inputs).entries pluginId entry).mpr supervised
  have doomed : ((machine times).run (inputs ++ [.wake shuffle])).Doomed times pluginId entry lastPong start := by
    rw [Machine.run_snoc]
    have woken : (machine times).step ((machine times).run inputs) (.wake shuffle) = _ := wake_due asleep due
    rw [woken]
    exact ⟨ponged, began ▸ late, Nat.le_of_eq began.symm, .inr ⟨_, proceed_of_mem member, member⟩⟩
  have ended : ((machine times).run (inputs ++ .wake shuffle :: later)).Doomed times pluginId entry lastPong start := by
    rw [← List.singleton_append, ← List.append_assoc, Machine.run_append]
    exact unheard.runFrom_preserves (fun watchdog input unheard doomed =>
      doomed.turns unheard (step_turns times watchdog input)) doomed
  rcases ended.fate with killed | ⟨rest, sweeping, -⟩
  · exact killed
  · rw [done] at sweeping
    cases sweeping

theorem round_kills_silent_camera :
    ((machine ⟨10, 5⟩).run silentCamera).registry.pongTimes.get "camera" = some 0 ∧
    ∃ time, 36 ≤ time ∧ Vital.killed "camera" 39 time ∈
      ((machine ⟨10, 5⟩).run (silentCamera ++ [.wake (Shuffle.unchanged String), .visit 36 true])).log :=
  ⟨by decide, round_kills_silent ⟨10, 5⟩ silentCamera [.visit 36 true] (Shuffle.unchanged String) "camera" ⟨40, some 39⟩
    10 0 46 (by decide) (by decide) (by decide) (by decide) (by decide) ⟨trivial, trivial⟩ (by decide)⟩

end Watchdog
end Vynkor
