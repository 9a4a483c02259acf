import Mathlib
import Vynkor.Proofs.PendingOrigins

/-! The accounts of routed actions: what was registered, what is in flight and
what has been answered. They balance as long as no registration takes a key that
is in use. -/

namespace Vynkor
open Lib

/-- The entry with this serial number is in the map of pending actions. -/
def InFlight (kernel : Kernel) (serial : Nat) : Prop :=
  ∃ key pending, kernel.registry.pendingActions.get key = some pending ∧ pending.serial = serial

def IsInternalId (key : String) (number : Nat) : Prop := key = "kact-" ++ toString number

theorem IsInternalId.unique {key : String} {first second : Nat} (one : IsInternalId key first)
    (other : IsInternalId key second) : first = second :=
  Nat.repr_injective ((String.append_right_inj _).mp (one.symm.trans other))

structure Ledger (kernel : Kernel) (log : List Send) : Prop where
  keys : ∀ {key pending number}, kernel.registry.pendingActions.get key = some pending → IsInternalId key number →
    number < kernel.actionSeq.toNat
  recorded : Recorded kernel
  plain : ∀ {key pending}, kernel.registry.pendingActions.get key = some pending → pending.streaming = false →
    pending.sessionAccepted = false
  ahead : ∀ {serial}, kernel.issued.length ≤ serial → answersTo serial log = []
  waiting : ∀ {key pending}, kernel.registry.pendingActions.get key = some pending → pending.streaming = false →
    answersTo pending.serial log = []
  settled : ∀ {serial issue}, kernel.issued[serial]? = some issue → issue.pending.streaming = false →
    ¬InFlight kernel serial → ∃ send, answersTo serial log = [send] ∧ Answers issue.pending send

theorem Ledger.initial : Ledger {} [] where
  keys := nofun
  recorded := Recorded.initial
  plain := nofun
  ahead _ := rfl
  waiting := nofun
  settled := nofun

theorem Answers.of_same {pending revised : PendingAction} {send : Send} (same : pending.Same revised)
    (answers : Answers revised send) : Answers pending send where
  tx := answers.tx.trans same.requesterWriteTx
  response := same.originalActionId ▸ answers.response

theorem Ledger.drop {kernel after : Kernel} {log rest : List Send} {gone : List (String × PendingAction)}
    {notice : String × PendingAction → List Send} (ledger : Ledger kernel log) (recorded : Recorded after)
    (issued : after.issued = kernel.issued) (counted : after.actionSeq = kernel.actionSeq)
    (distinct : (gone.map Prod.fst).Nodup)
    (held : ∀ entry ∈ gone, kernel.registry.pendingActions.get entry.1 = some entry.2)
    (left : ∀ key, after.registry.pendingActions.get key =
      if key ∈ gone.map Prod.fst then none else kernel.registry.pendingActions.get key)
    (settles : ∀ entry ∈ gone, Settles entry.2 (notice entry)) (silent : Silent rest) :
    Ledger after (log ++ (gone.flatMap notice ++ rest)) := by
  have stays : ∀ {key pending}, after.registry.pendingActions.get key = some pending →
      key ∉ gone.map Prod.fst ∧ kernel.registry.pendingActions.get key = some pending := by
    intro key pending stored
    rw [left] at stored
    split at stored
    · cases stored
    next present => exact ⟨present, stored⟩
  have told := Recorded.told ledger.recorded distinct held settles silent
  have untold : ∀ {serial}, (∀ entry ∈ gone, entry.2.serial ≠ serial) →
      answersTo serial (log ++ (gone.flatMap notice ++ rest)) = answersTo serial log := by
    intro serial elsewhere
    rcases told serial with ⟨-, nothing⟩ | ⟨entry, member, same, -⟩
    · rw [answersTo_append, answersTo_eq serial (_ ++ rest), nothing, List.filter_nil, List.append_nil]
    · exact absurd same (elsewhere entry member)
  constructor
  · intro key pending number stored named
    rw [counted]
    exact ledger.keys (stays stored).2 named
  · exact recorded
  · intro key pending stored
    exact ledger.plain (stays stored).2
  · intro serial beyond
    rw [issued] at beyond
    rw [untold]
    · exact ledger.ahead beyond
    · intro entry member same
      have bound := Recorded.serial_lt ledger.recorded (held entry member)
      omega
  · intro key pending stored plain
    obtain ⟨present, before⟩ := stays stored
    rw [untold]
    · exact ledger.waiting before plain
    · intro entry member same
      exact present (Recorded.same_entry ledger.recorded (held entry member) before same ▸ List.mem_map_of_mem member)
  · intro serial issue known plain landed
    rw [issued] at known
    rcases told serial with ⟨elsewhere, -⟩ | ⟨entry, member, same, notices⟩
    · rw [untold elsewhere]
      apply ledger.settled known plain
      rintro ⟨key, pending, stored, same⟩
      refine landed ⟨key, pending, ?_, same⟩
      rw [left, if_neg]
      · exact stored
      · intro listed
        obtain ⟨entry, member, rfl⟩ := List.mem_map.mp listed
        cases (held entry member).symm.trans stored
        exact elsewhere entry member same
    · obtain ⟨first, again, -, version⟩ := ledger.recorded (held entry member)
      rw [same, known] at again
      cases again
      have streams : entry.2.streaming = false := version.streaming.trans plain
      obtain ⟨send, answered, answers⟩ := (settles entry member).unaccepted (ledger.plain (held entry member) streams)
      have before := ledger.waiting (held entry member) streams
      rw [same] at answered before
      refine ⟨send, ?_, answers.of_same version⟩
      rw [answersTo_append, before, answersTo_eq serial (_ ++ rest), notices, ← answersTo_eq, answered, List.nil_append]

theorem Ledger.revise {kernel : Kernel} {log sends : List Send} {key : String} {pending revised : PendingAction}
    {map : DashMap String PendingAction} (ledger : Ledger kernel log)
    (recorded : Recorded { kernel with registry := { kernel.registry with pendingActions := map } })
    (held : kernel.registry.pendingActions.get key = some pending) (same : pending.Same revised)
    (accepted : revised.sessionAccepted = true → pending.sessionAccepted = true ∨ pending.streaming = true)
    (stored : ∀ other, map.get other = if other = key then some revised else kernel.registry.pendingActions.get other)
    (streamed : ∀ serial, answersTo serial sends ≠ [] → serial = pending.serial ∧ pending.streaming = true) :
    Ledger { kernel with registry := { kernel.registry with pendingActions := map } } (log ++ sends) := by
  have before : ∀ {other found}, map.get other = some found →
      ∃ old, kernel.registry.pendingActions.get other = some old ∧ old.Same found ∧
        (found.sessionAccepted = true → old.sessionAccepted = true ∨ old.streaming = true) := by
    intro other found present
    rw [stored] at present
    split at present
    next here => cases present; exact ⟨pending, here ▸ held, same, accepted⟩
    next => exact ⟨found, present, .refl _, .inl⟩
  have untold : ∀ {serial issue}, kernel.issued[serial]? = some issue → issue.pending.streaming = false →
      answersTo serial (log ++ sends) = answersTo serial log := by
    intro serial issue known plain
    rw [answersTo_append]
    by_cases told : answersTo serial sends = []
    · rw [told, List.append_nil]
    · obtain ⟨rfl, streams⟩ := streamed serial told
      obtain ⟨first, again, -, version⟩ := ledger.recorded held
      rw [known] at again
      cases again
      rw [version.streaming, plain] at streams
      cases streams
  have plainly : ∀ {other found}, map.get other = some found → found.streaming = false →
      ∃ old issue, kernel.registry.pendingActions.get other = some old ∧ old.streaming = false ∧
        found.serial = old.serial ∧ kernel.issued[old.serial]? = some issue ∧ issue.pending.streaming = false := by
    intro other found present plain
    obtain ⟨old, was, version, -⟩ := before present
    obtain ⟨issue, known, -, origin⟩ := ledger.recorded was
    have wasPlain : old.streaming = false := version.streaming.symm.trans plain
    exact ⟨old, issue, was, wasPlain, version.serial, known, origin.streaming.symm.trans wasPlain⟩
  constructor
  · intro other found number present named
    obtain ⟨old, was, -⟩ := before present
    exact ledger.keys was named
  · exact recorded
  · intro other found present plain
    obtain ⟨old, was, version, opens⟩ := before present
    have wasPlain : old.streaming = false := version.streaming.symm.trans plain
    by_contra opened
    rcases opens (by simpa using opened) with wasOpen | streams
    · rw [ledger.plain was wasPlain] at wasOpen
      cases wasOpen
    · rw [wasPlain] at streams
      cases streams
  · intro serial beyond
    change kernel.issued.length ≤ serial at beyond
    have bound := Recorded.serial_lt ledger.recorded held
    rw [answersTo_append, ledger.ahead beyond, List.nil_append]
    by_contra told
    have here := (streamed serial told).1
    omega
  · intro other found present plain
    obtain ⟨old, issue, was, wasPlain, number, known, origin⟩ := plainly present plain
    rw [number, untold known origin]
    exact ledger.waiting was wasPlain
  · intro serial issue known plain landed
    change kernel.issued[serial]? = some issue at known
    rw [untold known plain]
    apply ledger.settled known plain
    rintro ⟨other, old, was, number⟩
    apply landed
    by_cases here : other = key
    · subst here
      cases held.symm.trans was
      exact ⟨other, revised, (stored other).trans (if_pos rfl), same.serial.trans number⟩
    · exact ⟨other, old, (stored other).trans ((if_neg here).trans was), number⟩

theorem Ledger.moved {input : Input} {kernel after : Kernel} {sends log : List Send} (moved : Move input kernel after sends)
    (ledger : Ledger kernel log) : Ledger after (log ++ sends) := by
  have recorded : Recorded after := Recorded.moved moved ledger.recorded
  cases moved with
  | drop after gone notice rest effect issued counted distinct held left settles providers newcomers leavers silent =>
    exact ledger.drop recorded issued counted distinct held left settles silent
  | revise key pending revised map sends held same progress accepted stored streamed others =>
    refine ledger.revise recorded held same accepted stored fun serial answered => ?_
    obtain rfl : serial = pending.serial := by
      by_contra other
      exact answered (by rw [answersTo_eq, others serial other, List.filter_nil])
    exact ⟨rfl, (streamed answered).1⟩

theorem Ledger.issue {kernel : Kernel} {log : List Send} {connId : ConnId} {key : String} {pending : PendingAction}
    {actionSeq : UInt64} (ledger : Ledger kernel log)
    (recorded : Recorded { kernel.issue connId key pending with actionSeq }) (free : kernel.registry.pendingActions.get key = none)
    (fresh : pending.serial = kernel.issued.length) (unaccepted : pending.sessionAccepted = false)
    (later : kernel.actionSeq.toNat ≤ actionSeq.toNat)
    (chosen : ∀ number, IsInternalId key number → number < actionSeq.toNat) :
    Ledger { kernel.issue connId key pending with actionSeq } log := by
  constructor
  · intro other found number present named
    rcases DashMap.insert_cases present with ⟨rfl, rfl⟩ | ⟨-, was⟩
    · exact chosen number named
    · exact Nat.lt_of_lt_of_le (ledger.keys was named) later
  · exact recorded
  · intro other found present plain
    rcases DashMap.insert_cases present with ⟨rfl, rfl⟩ | ⟨-, was⟩
    · exact unaccepted
    · exact ledger.plain was plain
  · intro serial beyond
    change (kernel.issued ++ [_]).length ≤ serial at beyond
    rw [List.length_append] at beyond
    exact ledger.ahead (by omega)
  · intro other found present plain
    rcases DashMap.insert_cases present with ⟨rfl, rfl⟩ | ⟨-, was⟩
    · exact ledger.ahead (by omega)
    · exact ledger.waiting was plain
  · intro serial issue known plain landed
    change (kernel.issued ++ [⟨connId, key, pending⟩])[serial]? = some issue at known
    have present : (kernel.registry.pendingActions.insert key pending).get key = some pending := by simp
    by_cases here : serial = kernel.issued.length
    · exact absurd ⟨key, pending, present, fresh.trans here.symm⟩ landed
    · have old : kernel.issued[serial]? = some issue := by
        rw [List.getElem?_append] at known
        split at known
        · exact known
        · rw [List.getElem?_singleton] at known
          split at known
          · omega
          · cases known
      apply ledger.settled old plain
      rintro ⟨other, found, was, number⟩
      exact landed ⟨other, found, DashMap.insert_fresh free was, number⟩

/-- A forwarded request that asks the kernel to remember it brings an id that no
pending action has and that is not a kernel id; and kernel ids have not run out. -/
def FreshKeys (system : System) : Input → Prop
  | .message _ msg =>
    (∀ target request, msg.frame.target = some target → muxRequest target msg.frame = some request →
      system.kernel.registry.pendingActions.get request.actionId = none ∧
      ∀ number, ¬IsInternalId request.actionId number) ∧
    system.kernel.actionSeq.toNat + 1 < 2 ^ 64
  | _ => True

private theorem Ledger.internalId_free {kernel : Kernel} {log : List Send} (ledger : Ledger kernel log) :
    kernel.registry.pendingActions.get kernel.internalId = none := by
  cases found : kernel.registry.pendingActions.get kernel.internalId with
  | none => rfl
  | some pending => exact absurd (ledger.keys found rfl) (Nat.lt_irrefl _)

theorem Ledger.issued {system : System} {ambient : Ambient} {msg : IncomingMessage} {before added : Kernel} {key : String}
    {pending : PendingAction} {first log : List Send} (fresh : FreshKeys system (.message ambient msg))
    (early : Moves (.message ambient msg) system.kernel before first) (issues : Issues msg before added key pending)
    (ledger : Ledger before log) : Ledger added log := by
  obtain ⟨mux, room⟩ := fresh
  have counted := early.unissued.2
  have recorded : Recorded added := Recorded.issued issues ledger.recorded
  rw [issues.result] at recorded ⊢
  rcases issues.key with ⟨rfl, next⟩ | ⟨same, target, request, targeted, wanted, rfl⟩
  · have advanced : added.actionSeq.toNat = before.actionSeq.toNat + 1 := by
      rw [next, UInt64.toNat_add, counted]
      exact Nat.mod_eq_of_lt room
    refine ledger.issue recorded ledger.internalId_free issues.fresh issues.unaccepted (by omega) fun number named => ?_
    have number_eq : number = before.actionSeq.toNat := named.unique rfl
    omega
  · obtain ⟨free, foreign⟩ := mux target request targeted wanted
    exact ledger.issue recorded (early.vacant free) issues.fresh issues.unaccepted (by rw [same])
      fun number named => absurd named (foreign number)

theorem Ledger.run (config : Config) {inputs : List Input}
    (obeys : (System.machine config).Obeys FreshKeys (System.machine config).init inputs) :
    Ledger ((System.machine config).run inputs).kernel ((System.machine config).run inputs).log := by
  refine @Machine.Obeys.run_preserves _ _ (System.machine config) (System.Holds Ledger) _ Ledger.initial ?_ _ obeys
  intro system input fresh ledger
  obtain ⟨sends, logged, step⟩ := System.step_step config system input
  change Ledger (system.step config input).kernel (system.step config input).log
  rw [logged]
  refine step.preserves Ledger.moved ?_ ledger
  intro ambient msg before added key pending first log origin early present issues current
  subst origin
  exact current.issued fresh early issues

private theorem Ledger.key_free {system : System} {input : Input} {after : Kernel} {sends : List Send} {issue : Issue}
    (ledger : Ledger system.kernel system.log) (fresh : FreshKeys system input)
    (step : Step input system.kernel after sends) (added : after.issued = system.kernel.issued ++ [issue]) :
    system.kernel.registry.pendingActions.get issue.key = none := by
  rcases step.issued_cases with
    same | ⟨ambient, msg, before, middle, key, pending, first, origin, early, -, issues, recorded⟩
  · rw [same] at added
    simp at added
  · obtain rfl : issue = ⟨msg.connId, key, pending⟩ := by
      simpa using added.symm.trans recorded
    subst origin
    rcases issues.key with ⟨rfl, -⟩ | ⟨-, target, request, targeted, wanted, rfl⟩
    · have named : before.internalId = system.kernel.internalId := by
        rw [Kernel.internalId, Kernel.internalId, early.unissued.2]
      change system.kernel.registry.pendingActions.get before.internalId = none
      rw [named]
      exact ledger.internalId_free
    · exact (fresh.1 target request targeted wanted).1

/-- In a run in which every forwarded request brings a fresh id, no registration
replaces an entry, and every non-streaming action has no answer while it is in
flight and exactly one once it is not. -/
theorem answered_exactly_once (config : Config) (inputs : List Input)
    (obeys : (System.machine config).Obeys FreshKeys (System.machine config).init inputs) :
    (∀ before input after issue, inputs = before ++ input :: after →
      ((System.machine config).run (before ++ [input])).kernel.issued =
        ((System.machine config).run before).kernel.issued ++ [issue] →
      ((System.machine config).run before).kernel.registry.pendingActions.get issue.key = none) ∧
    ∀ (serial : Nat) (issue : Issue), ((System.machine config).run inputs).kernel.issued[serial]? = some issue →
      issue.pending.streaming = false →
      (InFlight ((System.machine config).run inputs).kernel serial →
        answersTo serial ((System.machine config).run inputs).log = []) ∧
      (¬InFlight ((System.machine config).run inputs).kernel serial →
        ∃ send, answersTo serial ((System.machine config).run inputs).log = [send] ∧ Answers issue.pending send) := by
  refine ⟨?_, ?_⟩
  · intro before input after issue split added
    rw [split, Machine.obeys_append] at obeys
    obtain ⟨early, fresh, -⟩ := obeys
    obtain ⟨sends, -, step⟩ := System.step_step config ((System.machine config).run before) input
    rw [Machine.run_append] at added
    exact (Ledger.run config early).key_free fresh step added
  · intro serial issue recorded plain
    have ledger := Ledger.run config obeys
    refine ⟨?_, ledger.settled recorded plain⟩
    intro ⟨key, pending, held, number⟩
    subst number
    obtain ⟨origin, recorded', -, version⟩ := ledger.recorded held
    rw [recorded] at recorded'
    cases recorded'
    exact ledger.waiting held (version.streaming.trans plain)

instance (kernel : Kernel) (serial : Nat) : Decidable (InFlight kernel serial) :=
  decidable_of_iff (kernel.registry.pendingActions.any fun pending => pending.serial == serial)
    (by simp [DashMap.any_iff, InFlight])

def cameraCall (connId : ConnId) : Input :=
  let payload := .envelope { payload := .actionRequest { actionId := "x", action := "" } }
  .message {} { connId, writeTx := connId, frame := { target := some "dev.cam", payload } }

def cameraReply : Input :=
  let payload := .envelope { payload := .actionResponse ⟨"x", .actionOk, [], ""⟩ }
  .message {} { connId := 1, writeTx := 1, frame := { target := some "kernel", payload } }

/-- A device with a camera on connection 1 and two callers on 2 and 3. -/
def cameraCallers : List Input :=
  let caller := { permissions := ["ipc_send"], ipcTargets := ["dev"] }
  [.call (.registerDevice ⟨0, 0⟩ "dev" 1 ["cam"] {} 1 { deviceId := "dev" }),
   .call (.registerWithDevice ⟨0, 0⟩ "a" 2 caller 2 {}),
   .call (.registerWithDevice ⟨0, 0⟩ "b" 3 caller 3 {})]

theorem answered_exactly_once_camera :
    let run := (System.machine {}).run
    InFlight (run (cameraCallers ++ [cameraCall 2])).kernel 0 ∧
    answersTo 0 (run (cameraCallers ++ [cameraCall 2])).log = [] ∧
    ¬InFlight (run (cameraCallers ++ [cameraCall 2, cameraReply])).kernel 0 ∧
    (answersTo 0 (run (cameraCallers ++ [cameraCall 2, cameraReply])).log).length = 1 := by
  have called : FreshKeys ((System.machine {}).run cameraCallers) (cameraCall 2) := by
    refine ⟨fun target request targeted wanted => ?_, by decide +kernel⟩
    obtain ⟨envelope, decoded, payload⟩ := muxRequest_decodes wanted
    cases decoded
    cases payload
    refine ⟨by decide +kernel, fun number named => ?_⟩
    have lengths := congrArg String.length named
    rw [String.length_append] at lengths
    change 1 = 5 + (toString number).length at lengths
    omega
  have replied : FreshKeys ((System.machine {}).run (cameraCallers ++ [cameraCall 2])) cameraReply := by
    refine ⟨fun target request targeted wanted => ?_, by decide +kernel⟩
    cases targeted
    cases wanted
  have calls : (System.machine {}).Obeys FreshKeys (System.machine {}).init (cameraCallers ++ [cameraCall 2]) :=
    ⟨trivial, trivial, trivial, called, trivial⟩
  have both : (System.machine {}).Obeys FreshKeys (System.machine {}).init (cameraCallers ++ [cameraCall 2, cameraReply]) :=
    ⟨trivial, trivial, trivial, called, replied, trivial⟩
  -- one evaluation of each run
  have ⟨flying, called⟩ : InFlight ((System.machine {}).run (cameraCallers ++ [cameraCall 2])).kernel 0 ∧
      ((System.machine {}).run (cameraCallers ++ [cameraCall 2])).kernel.issued[0]?.map
        (fun issue => issue.pending.streaming) = some false := by decide +kernel
  have ⟨landed, replied⟩ : ¬InFlight ((System.machine {}).run (cameraCallers ++ [cameraCall 2, cameraReply])).kernel 0 ∧
      ((System.machine {}).run (cameraCallers ++ [cameraCall 2, cameraReply])).kernel.issued[0]?.map
        (fun issue => issue.pending.streaming) = some false := by decide +kernel
  obtain ⟨first, recorded, plain⟩ := Option.map_eq_some_iff.mp called
  obtain ⟨second, kept, still⟩ := Option.map_eq_some_iff.mp replied
  obtain ⟨send, answered, -⟩ := ((answered_exactly_once {} _ both).2 0 second kept still).2 landed
  exact ⟨flying, ((answered_exactly_once {} _ calls).2 0 first recorded plain).1 flying, landed,
    congrArg List.length answered⟩

/-- Two callers that count their requests alike use one id. The second request takes
the first one's place, and the first caller is never answered. -/
theorem shared_id_loses_request :
    let run := (System.machine {}).run
    (run (cameraCallers ++ [cameraCall 2, cameraCall 3])).kernel.issued.map
      (fun issue => (issue.key, issue.pending.requesterId, issue.pending.streaming)) =
        [("x", "a", false), ("x", "b", false)] ∧
    InFlight (run (cameraCallers ++ [cameraCall 2])).kernel 0 ∧
    ¬InFlight (run (cameraCallers ++ [cameraCall 2, cameraCall 3])).kernel 0 ∧
    answersTo 0 (run (cameraCallers ++ [cameraCall 2, cameraCall 3])).log = [] := by
  decide +kernel

end Vynkor
