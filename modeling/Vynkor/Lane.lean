import Vynkor.Lazy

/-! The waker as one plugin sees it: its gate, its slot, the calls that the task has in
hand for it and the start and stop calls that are under way. A lane moves by itself;
what the waker does for other plugins leaves it alone. -/

namespace Vynkor
open Lib

/-- What the task is about to do with the plugin. -/
inductive Stage
  | none
  | admitting (call : Call)
  | draining (calls : List Call)
  /-- The poll has found it registered. -/
  | ready
  /-- The poll has found its time to be up. -/
  | expired
  | idling
  | closing
  deriving DecidableEq

def Stage.calls : Stage → List Call
  | .admitting call => [call]
  | .draining calls => calls
  | _ => []

structure Lane where
  gate : Option (DashMap Nat Instant) := none
  slot : Option Waking := none
  stage : Stage := .none
  running : List Run := []
  started : List (Run × Bool) := []
  stopped : List Run := []

/-- What a step takes from the wake channel, re-injects, gives up and loses, and the
results it applies. -/
structure Traffic where
  takes : List Call := []
  reinjects : List Call := []
  fails : List Call := []
  losses : List Call := []
  applies : List (Run × Nat) := []

/-- The gate lets the frame through. -/
def allows (gate : Option (DashMap Nat Instant)) (frameAddr : Nat) : Bool :=
  gate.any fun allowed => allowed.containsKey frameAddr

namespace Lane

/-- The calls of a lane, oldest first. -/
def calls (lane : Lane) : List Call := lane.stage.calls ++ (lane.slot.map Waking.queue).getD []

/-- A step that leaves the slot alone and moves no call. -/
inductive Glides (lane : Lane) : Lane → Prop
  | stay : Glides lane lane
  | serve (call : Call) (stage : lane.stage = .admitting call) : Glides lane { lane with stage := .draining [call] }
  | finish (stage : lane.stage = .draining []) : Glides lane { lane with stage := .none }
  | sort (stage : Stage) (w : Waking) (sorted : stage = .ready ∨ stage = .expired) (unsorted : lane.stage = .none)
      (slot : lane.slot = some w) (going : w.stopping = false) (wanted : w.wantStop = false) : Glides lane { lane with stage }
  | miss (sorted : lane.stage = .ready ∨ lane.stage = .expired) (free : lane.slot = none) :
      Glides lane { lane with stage := .none }
  | look (stage : lane.stage = .none) (free : lane.slot = none) : Glides lane { lane with stage := .idling }
  | spare (stage : lane.stage = .idling) : Glides lane { lane with stage := .none }
  | close (stage : lane.stage = .idling) : Glides lane { lane with stage := .closing, gate := some (lane.gate.getD ∅) }
  | trim (gate : Option (DashMap Nat Instant)) (fewer : ∀ frameAddr, allows gate frameAddr → allows lane.gate frameAddr)
      (stage : lane.stage = .none) (free : lane.slot = none) : Glides lane { lane with gate }

/-- One step of the lane of plugin `id`. -/
inductive Step (closed : Bool) (id : String) (lane : Lane) : Traffic → Lane → Prop
  | glide {after : Lane} (glides : Glides lane after) : Step closed id lane {} after
  | push (w : Waking) (call : Call) (stage : lane.stage = .none) (slot : lane.slot = some w)
      (room : w.queue.length < maxQueued) :
      Step closed id lane { takes := [call] } { lane with slot := some { w with queue := w.queue ++ [call] } }
  | full (call : Call) : Step closed id lane { takes := [call], fails := [call] } lane
  | enter (call : Call) (stage : lane.stage = .none) (free : lane.slot = none) :
      Step closed id lane { takes := [call] } { lane with stage := .admitting call }
  | refuse (call : Call) (stage : lane.stage = .admitting call) :
      Step closed id lane { fails := [call] } { lane with stage := .none }
  | wake (call : Call) (now : Instant) (slot : Nat) (stage : lane.stage = .admitting call) :
      Step closed id lane {} { lane with
        gate := some (lane.gate.getD ∅)
        slot := some { queue := [call], since := now, starting := true, slot }
        stage := .none
        running := lane.running ++ [⟨.start, id, slot, false⟩] }
  | reinject (call : Call) (calls : List Call) (now : Instant) (stage : lane.stage = .draining (call :: calls)) :
      Step closed id lane { reinjects := [call] } { lane with
        gate := lane.gate.map fun gate => gate.insert call.msg.frameAddr now
        stage := .draining calls }
  | lose (call : Call) (calls : List Call) (now : Instant) (shut : closed = true)
      (stage : lane.stage = .draining (call :: calls)) :
      Step closed id lane { losses := call :: calls } { lane with
        gate := lane.gate.map fun gate => gate.insert call.msg.frameAddr now
        stage := .none }
  | drain (w : Waking) (stage : lane.stage = .ready) (slot : lane.slot = some w) :
      Step closed id lane {} { lane with slot := none, stage := .draining w.queue }
  | expire (w : Waking) (stage : lane.stage = .expired) (slot : lane.slot = some w) (starting : w.starting = true) :
      Step closed id lane { fails := w.queue } { lane with
        gate := none
        slot := some { w with queue := [], wantStop := true }
        stage := .none }
  | halt (w : Waking) (stage : lane.stage = .expired) (slot : lane.slot = some w) (starting : w.starting = false) :
      Step closed id lane { fails := w.queue } { lane with
        gate := none
        slot := some { w with queue := [], wantStop := true, stopping := true }
        stage := .none
        running := lane.running ++ [⟨.stop, id, w.slot, false⟩] }
  | stop (now : Instant) (slot : Nat) (stage : lane.stage = .closing) :
      Step closed id lane {} { lane with
        slot := some { since := now, stopping := true, slot }
        stage := .none
        running := lane.running ++ [⟨.stop, id, slot, true⟩] }
  | late (run : Run) (failed : Bool) (rest : List (Run × Bool)) (results : lane.started = (run, failed) :: rest)
      (stage : lane.stage = .none) (free : lane.slot = none) : Step closed id lane {} { lane with started := rest }
  | wanted (run : Run) (failed : Bool) (rest : List (Run × Bool)) (w : Waking)
      (results : lane.started = (run, failed) :: rest) (stage : lane.stage = .none) (slot : lane.slot = some w)
      (want : w.wantStop = true) :
      Step closed id lane { applies := [(run, w.slot)] } { lane with
        slot := some { w with starting := false, stopping := true }
        started := rest
        running := lane.running ++ [⟨.stop, id, w.slot, false⟩] }
  | broke (run : Run) (rest : List (Run × Bool)) (w : Waking) (results : lane.started = (run, true) :: rest)
      (stage : lane.stage = .none) (slot : lane.slot = some w) (want : w.wantStop = false) :
      Step closed id lane { fails := w.queue, applies := [(run, w.slot)] } { lane with
        gate := none
        slot := none
        started := rest }
  | began (run : Run) (rest : List (Run × Bool)) (w : Waking) (results : lane.started = (run, false) :: rest)
      (stage : lane.stage = .none) (slot : lane.slot = some w) (want : w.wantStop = false) :
      Step closed id lane { applies := [(run, w.slot)] } { lane with
        slot := some { w with starting := false }
        started := rest }
  | gone (run : Run) (rest : List Run) (results : lane.stopped = run :: rest) (stage : lane.stage = .none)
      (free : lane.slot = none) :
      Step closed id lane {} { lane with stopped := rest }
  | rest (run : Run) (rest : List Run) (w : Waking) (results : lane.stopped = run :: rest) (stage : lane.stage = .none)
      (slot : lane.slot = some w) (empty : w.queue = []) :
      Step closed id lane {} { lane with gate := none, slot := none, stopped := rest }
  | again (run : Run) (rest : List Run) (w : Waking) (now : Instant) (results : lane.stopped = run :: rest)
      (stage : lane.stage = .none) (slot : lane.slot = some w) :
      Step closed id lane {} { lane with
        gate := some (lane.gate.getD ∅)
        slot := some { w with starting := true, since := now, stopping := false, wantStop := false }
        stopped := rest
        running := lane.running ++ [⟨.start, id, w.slot, false⟩] }
  | startReturned (run : Run) (failed : Bool) (kind : run.kind = .start) (under : run ∈ lane.running) :
      Step closed id lane {} { lane with
        running := lane.running.erase run
        started := lane.started ++ [(run, failed)] }
  | stopReturned (run : Run) (kind : run.kind = .stop) (under : run ∈ lane.running) :
      Step closed id lane {} { lane with
        running := lane.running.erase run
        stopped := lane.stopped ++ [run] }

end Lane

/-- The lists of a poll. -/
def Stage.ofLists (ready expired : List String) (id : String) : Stage :=
  if id ∈ ready then .ready else if id ∈ expired then .expired else .none

def Task.stage (id : String) : Task → Stage
  | .enter pluginId call | .serve pluginId call | .touch pluginId call | .wake pluginId call =>
    if pluginId = id then .admitting call else .none
  | .reinject pluginId calls rest =>
    if pluginId = id then .draining calls
    else
      match rest with
      | some (ready, expired) => .ofLists ready expired id
      | none => .none
  | .survey _ _ ready expired | .drain ready expired => .ofLists ready expired id
  | .expire ids => .ofLists [] ids id
  | .pending _ dormant _ | .hold _ dormant _ => if dormant.pluginId = id then .idling else .none
  | .stop _ dormant _ => if dormant.pluginId = id then .closing else .none
  | .idle | .trim _ | .sweep _ _ => .none

/-- The plugins that a poll has found registered and not yet drained. -/
def Task.ready : Task → List String
  | .survey _ _ ready _ | .drain ready _ | .reinject _ _ (some (ready, _)) => ready
  | _ => []

/-- The lists of a poll name every plugin once. -/
def Task.Tidy : Task → Prop
  | .survey _ ids ready expired => (ids ++ (ready ++ expired)).Nodup
  | .drain ready expired => (ready ++ expired).Nodup
  | .reinject pluginId _ (some (ready, expired)) => (pluginId :: (ready ++ expired)).Nodup
  | .expire ids => ids.Nodup
  | _ => True

def Starter.lane (registry : Registry) (starter : Starter) (id : String) : Lane where
  gate := registry.lazyGates.get id
  slot := starter.waking.get id
  stage := starter.task.stage id
  running := starter.running.filter (·.pluginId == id)
  started := starter.started.filter (·.1.pluginId == id)
  stopped := starter.stopped.filter (·.pluginId == id)

/-- The calls of a list that are for plugin `id`. -/
def callsFor (id : String) (requests : List (String × Call)) : List Call := (requests.filter (·.1 == id)).map Prod.snd

def Failure.request (failure : Failure) : String × Call := (failure.pluginId, failure.call)

/-- What an operation does in the lane of plugin `id`. -/
def Progress.traffic (progress : Progress) (takes : List (String × Call)) (losses : List Call) (id : String) : Traffic where
  takes := callsFor id takes
  reinjects := callsFor id progress.reinjects
  fails := callsFor id (progress.fails.map Failure.request)
  losses
  applies := progress.applies.filter (·.1.pluginId == id)

/-- The wake request that the loop takes. -/
def Starter.takes (starter : Starter) : LazyEvent → List (String × Call)
  | .select (.request pluginId call) => if starter.task = .idle then [(pluginId, call)] else []
  | _ => []

end Vynkor
