import Vynkor.Lifecycle
import Vynkor.Outbox
import Vynkor.Supervisor

/-! Everything that is published into one event database, over the lives of the kernels that
use it: the events of registrations and of plugins, and the exits that the supervisor announces. -/

namespace Vynkor
open Lib

def Happening.announced? : Happening → Option Publication
  | .died pluginId restartCount willRestart => some (.died pluginId restartCount willRestart)
  | _ => none

/-- The calls of `publish` by the monitor loop during a step. -/
def Supervisor.announcements (before after : Supervisor) : List Publication :=
  (after.log.drop before.log.length).filterMap Happening.announced?

/-- The input, with what the system clock shows. -/
def LifecycleInput.timed (millis : Nat) : LifecycleInput → LifecycleInput
  | .message ambient msg => .message { ambient with clock := { ambient.clock with unixMillis := millis } } msg
  | .tick ambient => .tick { ambient with clock := { ambient.clock with unixMillis := millis } }
  | .publishLeft clock => .publishLeft { clock with unixMillis := millis }
  | input => input

/-- `millis` is what the clock showed last and `booted` what it showed when the kernel started.
`published` holds every call of `publish`, and `ignored` those of which `persist` made no row. -/
structure Chronicle where
  lifecycle : Lifecycle := {}
  supervisor : Supervisor := {}
  outbox : Outbox := {}
  millis : Nat := 0
  booted : Nat := 0
  published : List Publication := []
  ignored : List Publication := []

inductive ChronicleAct
  | lifecycle (input : LifecycleInput)
  | supervisor (input : SupervisorInput)
  | eventAck (eventId : String)
  | scan (order : Shuffle EventRow)
  | bump
  | prune
  | redeliver (shuffle : Shuffle String)
  /-- The kernel ends, and another one opens the database. -/
  | reboot

structure ChronicleInput where
  millis : Nat
  act : ChronicleAct

namespace Chronicle

def publish (retry : RetryConfig) (chronicle : Chronicle) (publication : Publication) : Chronicle :=
  { chronicle with
    outbox := chronicle.outbox.step retry (.publish (chronicle.millis / 1000) publication.event)
    published := chronicle.published ++ [publication]
    ignored := chronicle.ignored ++
      if (chronicle.outbox.store.get publication.event.eventId).isSome then [publication] else [] }

def store (retry : RetryConfig) (chronicle : Chronicle) (input : OutboxInput) : Chronicle :=
  { chronicle with outbox := chronicle.outbox.step retry input }

def act (config : Config) (retry : RetryConfig) (chronicle : Chronicle) : ChronicleAct → Chronicle
  | .lifecycle input =>
    let input := input.timed chronicle.millis
    (chronicle.lifecycle.publications config input).foldl (publish retry)
      { chronicle with lifecycle := chronicle.lifecycle.step config input }
  | .supervisor input =>
    let after := chronicle.supervisor.step input
    (chronicle.supervisor.announcements after).foldl (publish retry) { chronicle with supervisor := after }
  | .eventAck eventId => chronicle.store retry (.eventAck eventId)
  | .scan order => chronicle.store retry (.scan (chronicle.millis / 1000) order)
  | .bump => chronicle.store retry .bump
  | .prune => chronicle.store retry (.prune (chronicle.millis / 1000))
  | .redeliver shuffle =>
    chronicle.store retry (.redeliver shuffle chronicle.lifecycle.kernel.bus chronicle.lifecycle.kernel.registry)
  | .reboot =>
    { chronicle with
      lifecycle := {}
      supervisor := {}
      outbox := { chronicle.outbox with sweep := .asleep }
      booted := chronicle.millis }

def step (config : Config) (retry : RetryConfig) (chronicle : Chronicle) (input : ChronicleInput) : Chronicle :=
  { chronicle with millis := input.millis }.act config retry input.act

def machine (config : Config) (retry : RetryConfig) : Machine Chronicle ChronicleInput := ⟨{}, step config retry⟩

end Chronicle
end Vynkor
