import Mathlib.Data.List.Induction
import Vynkor.Proofs.ReadLoop

/-! Reassembly is exact. The specification follows one stream by its own fragments
alone and keeps every one of them; the read loop keeps a map of the newest and counts
its keys. -/

namespace Vynkor
open Lib

/-- The fragments of one stream since its buffer was opened, in order of arrival. -/
structure Collected where
  total : Nat
  opened : Instant
  log : Journal Nat Bytes := []

namespace Collected

def full (collected : Collected) : Prop := ∀ sequence < collected.total, (collected.log.latest sequence).isSome = true

instance (collected : Collected) : Decidable collected.full := Nat.decidableBallLT _ _

/-- The newest data of each sequence, in order. -/
def message (collected : Collected) : Bytes :=
  (List.range collected.total).flatMap fun sequence => (collected.log.latest sequence).getD []

def fresh (limits : ReadLimits) (now : Instant) (collected : Collected) : Bool :=
  decide (now - collected.opened < limits.fragmentTimeout)

/-- One more fragment; a collection that has timed out is replaced by a new one. -/
def extend (limits : ReadLimits) (current : Option Collected) (arrival : Arrival) (header : FragmentHeader) : Collected :=
  let begun := (current.filter (fresh limits arrival.now)).getD { total := header.total, opened := arrival.opened }
  { begun with log := begun.log ++ [(header.sequence, arrival.contribution)] }

end Collected

def ownFragment (codec : Codec) (stream : Nat) (arrival : Arrival) : Option FragmentHeader :=
  if arrival.frame.hasFlag flagFragmented then
    (codec.parseFragHeader arrival.frame.bytes).filter fun header => header.streamId == stream
  else none

def collect (codec : Codec) (limits : ReadLimits) (stream : Nat) (current : Option Collected) (arrival : Arrival) :
    Option Collected :=
  match ownFragment codec stream arrival with
  | none => current
  | some header =>
    let extended := Collected.extend limits current arrival header
    if extended.full then none else some extended

/-- What has arrived for a stream and is not yet dispatched. -/
def collected (codec : Codec) (limits : ReadLimits) (stream : Nat) (arrivals : List Arrival) : Option Collected :=
  arrivals.foldl (collect codec limits stream) none

private theorem collected_own (codec : Codec) (limits : ReadLimits) (stream : Nat) (arrivals : List Arrival) :
    collected codec limits stream arrivals =
      collected codec limits stream (arrivals.filter fun arrival => (ownFragment codec stream arrival).isSome) := by
  unfold collected
  rw [List.foldl_filter]
  congr 1
  funext current arrival
  unfold collect
  cases own : ownFragment codec stream arrival with
  | none | some => rfl

/-- The buffer holds the newest fragment of each sequence of the collection. -/
structure Holds (buf : ReassemblyBuf) (collected : Collected) : Prop where
  total : buf.total = collected.total
  opened : buf.firstSeen = collected.opened
  records : buf.fragments.Records Fragment.data collected.log
  below : ∀ key ∈ buf.fragments.keys, key < buf.total

namespace Holds
variable {buf : ReassemblyBuf} {collected : Collected}

theorem complete_iff (holds : Holds buf collected) : buf.isComplete = true ↔ collected.full := by
  unfold ReassemblyBuf.isComplete Collected.full
  rw [beq_iff_eq, DashMap.length_keys_eq_iff holds.below, holds.total]
  apply forall₂_congr
  intro sequence small
  rw [← holds.records sequence, Option.isSome_map]

private theorem flatMap_data (holds : Holds buf collected) (sequences : List Nat) :
    (sequences.filterMap buf.fragments.get).flatMap Fragment.data =
      sequences.flatMap fun sequence => (collected.log.latest sequence).getD [] := by
  induction sequences with
  | nil => rfl
  | cons sequence rest ih =>
    rw [List.flatMap_cons, ← ih, ← holds.records sequence]
    cases held : buf.fragments.get sequence with
    | none => rw [List.filterMap_cons_none held]; rfl
    | some fragment => rw [List.filterMap_cons_some held]; rfl

theorem reassemble (holds : Holds buf collected) (complete : buf.isComplete = true) :
    buf.reassemble = collected.message := by
  have many : buf.fragments.keys.length = buf.total := beq_iff_eq.mp complete
  unfold ReassemblyBuf.reassemble ReassemblyBuf.inOrder Collected.message
  rw [DashMap.insertionSort_keys holds.below many, holds.total]
  exact holds.flatMap_data _

end Holds

/-- A stream without a buffer has no collection, or one that has timed out. -/
inductive Tracks (limits : ReadLimits) (last : Nat) : Option ReassemblyBuf → Option Collected → Prop
  | idle : Tracks limits last none none
  | expired (collected : Collected) (old : limits.fragmentTimeout ≤ last - collected.opened) :
      Tracks limits last none (some collected)
  | active (buf : ReassemblyBuf) (collected : Collected) (holds : Holds buf collected) :
      Tracks limits last (some buf) (some collected)

section Steps
variable {codec : Codec} {limits : ReadLimits}

theorem Tracks.prune {last now : Nat} {buf : Option ReassemblyBuf} {current : Option Collected}
    (tracks : Tracks limits last buf current) (later : last ≤ now) :
    let kept := buf.filter fun buf => decide (now - buf.firstSeen < limits.fragmentTimeout)
    Tracks limits now kept current ∧ Tracks limits now kept (current.filter (Collected.fresh limits now)) := by
  cases tracks with
  | idle => exact ⟨.idle, .idle⟩
  | expired collected old =>
    have older : limits.fragmentTimeout ≤ now - collected.opened := Nat.le_trans old (Nat.sub_le_sub_right later _)
    have stale : Collected.fresh limits now collected = false := decide_eq_false (Nat.not_lt.mpr older)
    refine ⟨.expired collected older, ?_⟩
    rw [Option.filter_some, if_neg (by rw [stale]; exact Bool.false_ne_true)]
    exact .idle
  | active buf collected holds =>
    have same : decide (now - buf.firstSeen < limits.fragmentTimeout) = Collected.fresh limits now collected := by
      rw [holds.opened]
      rfl
    rw [Option.filter_some, Option.filter_some, same]
    split
    · exact ⟨.active buf collected holds, .active buf collected holds⟩
    next stale =>
      have old := of_decide_eq_false (Bool.eq_false_iff.mpr stale)
      exact ⟨.expired collected (Nat.le_of_not_lt old), .idle⟩

variable {map : ReassemblyMap} {arrival : Arrival} {header : FragmentHeader} {entry buf : ReassemblyBuf}
  {current : Option Collected} {last : Nat}

theorem Stores.holds (stores : Stores codec limits map arrival header entry buf)
    (tracks : Tracks limits last (map.get header.streamId) current) (later : last ≤ arrival.now) :
    Holds buf (Collected.extend limits current arrival header) ∧
      (Collected.extend limits current arrival header).total = header.total := by
  have kept := (tracks.prune later).2
  have begun : Holds entry ((current.filter (Collected.fresh limits arrival.now)).getD
      { total := header.total, opened := arrival.opened }) ∧ entry.total = header.total := by
    rcases stores.opened with ⟨held, agrees⟩ | ⟨free, rfl, -⟩
    · rw [get_pruned] at held
      simp only [held] at kept
      cases found : current.filter (Collected.fresh limits arrival.now) with
      | none => rw [found] at kept; cases kept
      | some collected =>
        rw [found] at kept
        cases kept with
        | active _ _ holds => exact ⟨holds, agrees⟩
    · rw [get_pruned] at free
      simp only [free] at kept
      have unheld : current.filter (Collected.fresh limits arrival.now) = none := by
        cases found : current.filter (Collected.fresh limits arrival.now) with
        | none => rfl
        | some collected =>
          rw [found] at kept
          cases kept with
          | expired _ old =>
            have young := of_decide_eq_true (Option.filter_eq_some_iff.mp found).2
            exact absurd young (Nat.not_lt.mpr old)
      rw [unheld]
      exact ⟨⟨rfl, rfl, .empty _, fun _ member => absurd member List.not_mem_nil⟩, rfl⟩
  obtain ⟨bytes, rfl⟩ := ReassemblyBuf.store_ok stores.stored
  obtain ⟨begun, agrees⟩ := begun
  have data : arrival.contribution = arrival.frame.bytes.drop fragHeaderSize := if_pos stores.fragmented
  refine ⟨⟨begun.total, begun.opened, ?_, ?_⟩, begun.total.symm.trans agrees⟩
  · unfold Collected.extend
    rw [data]
    exact begun.records.insert header.sequence _
  · intro key member
    obtain ⟨fragment, held⟩ := (DashMap.mem_keys ..).mp member
    rcases DashMap.insert_cases held with ⟨rfl, -⟩ | ⟨-, before⟩
    · change header.sequence < entry.total
      rw [agrees]
      exact stores.below
    · exact begun.below key ((DashMap.mem_keys ..).mpr ⟨fragment, before⟩)

theorem Stores.own (stores : Stores codec limits map arrival header entry buf) :
    ownFragment codec header.streamId arrival = some header := by
  unfold ownFragment
  rw [if_pos stores.fragmented, stores.parsed, Option.filter_some, if_pos (beq_self_eq_true _)]

theorem Stores.other (stores : Stores codec limits map arrival header entry buf) {stream : Nat}
    (apart : stream ≠ header.streamId) : ownFragment codec stream arrival = none := by
  unfold ownFragment
  rw [if_pos stores.fragmented, stores.parsed, Option.filter_some, if_neg]
  rw [beq_iff_eq]
  exact Ne.symm apart

/-- One frame keeps every stream in step with its collection. -/
theorem Tracks.step {reader : Reader} {current : Nat → Option Collected}
    (tracks : ∀ stream, Tracks limits last (reader.map.get stream) (current stream)) (later : last ≤ arrival.now)
    (running : (reader.step codec limits arrival).ended = none) (stream : Nat) :
    Tracks limits arrival.now ((reader.step codec limits arrival).map.get stream)
      (collect codec limits stream (current stream) arrival) := by
  have lives := Reader.step_lives running
  generalize (reader.step codec limits arrival).map = after at lives ⊢
  generalize reader.emits codec limits arrival = dispatch at lives
  have kept := ((tracks stream).prune later).1
  rw [← get_pruned] at kept
  cases lives with
  | whole clear whole =>
    have foreign : ownFragment codec stream arrival = none := if_neg (Bool.eq_false_iff.mp whole)
    rw [collect, foreign]
    exact kept
  | buffered header entry buf stores incomplete =>
    simp only [DashMap.get_insert]
    split
    next here =>
      subst here
      obtain ⟨holds, -⟩ := stores.holds (tracks header.streamId) later
      have missing := mt holds.complete_iff.mpr (Bool.eq_false_iff.mp incomplete)
      simp only [collect, stores.own, if_neg missing]
      exact .active buf _ holds
    next apart =>
      rw [collect, stores.other apart]
      exact kept
  | completed header entry buf stores complete =>
    simp only [DashMap.get_remove]
    split
    next here =>
      subst here
      obtain ⟨holds, -⟩ := stores.holds (tracks header.streamId) later
      simp only [collect, stores.own, if_pos (holds.complete_iff.mp complete)]
      exact .idle
    next apart =>
      rw [collect, stores.other apart]
      exact kept

theorem Reader.ended_stays {reader : Reader} (running : (reader.step codec limits arrival).ended = none) :
    reader.ended = none := by
  have steps := Reader.step_cases codec limits reader arrival
  generalize reader.step codec limits arrival = after at steps running
  generalize reader.emits codec limits arrival = dispatch at steps
  cases steps with
  | dropped reason => cases running
  | _ => exact running

/-- A whole run keeps every stream in step with what has arrived for it. -/
theorem Tracks.run (arrivals : List Arrival) (ordered : arrivals.Pairwise fun first second => first.now ≤ second.now)
    (running : ((Reader.machine codec limits).run arrivals).ended = none) :
    ∃ last, (∀ arrival, (∀ earlier ∈ arrivals, earlier.now ≤ arrival) → last ≤ arrival) ∧
      ∀ stream, Tracks limits last (((Reader.machine codec limits).run arrivals).map.get stream)
        (collected codec limits stream arrivals) := by
  induction arrivals using List.reverseRecOn with
  | nil => exact ⟨0, fun _ _ => Nat.zero_le _, fun _ => .idle⟩
  | append_singleton arrivals arrival ih =>
    obtain ⟨before, -, bound⟩ := List.pairwise_append.mp ordered
    rw [Machine.run_append] at running ⊢
    change (((Reader.machine codec limits).run arrivals).step codec limits arrival).ended = none at running
    obtain ⟨last, least, tracks⟩ := ih before (Reader.ended_stays running)
    have later := least arrival.now fun earlier member => bound earlier member arrival (List.mem_singleton.mpr rfl)
    refine ⟨arrival.now, fun _ above => above arrival (by simp), fun stream => ?_⟩
    unfold collected
    rw [List.foldl_append]
    exact Tracks.step tracks later running stream

/-- Until the connection is dropped, a whole frame is handed on as it is, and a fragment
is answered by the message of its stream, built from the newest data of each sequence
since its buffer was opened, or by nothing while a sequence is missing. Only fragments of
the same stream have a say in it. -/
theorem reassembly_exact (codec : Codec) (limits : ReadLimits) (before : List Arrival) (arrival : Arrival)
    (ordered : (before ++ [arrival]).Pairwise fun first second => first.now ≤ second.now)
    (running : ((Reader.machine codec limits).run (before ++ [arrival])).ended = none) :
    let dispatched := ((Reader.machine codec limits).run before).emits codec limits arrival
    (arrival.frame.hasFlag flagFragmented = false → dispatched = some ⟨arrival.frame, [arrival]⟩) ∧
    (arrival.frame.hasFlag flagFragmented = true → ∃ header, codec.parseFragHeader arrival.frame.bytes = some header ∧
      let own := before.filter fun earlier => (ownFragment codec header.streamId earlier).isSome
      let log := (Collected.extend limits (collected codec limits header.streamId own) arrival header).log
      dispatched.map (fun dispatch => dispatch.frame.bytes) =
        if ∀ sequence < header.total, (log.latest sequence).isSome = true then
          some ((List.range header.total).flatMap fun sequence => (log.latest sequence).getD [])
        else none) := by
  obtain ⟨early, -, bound⟩ := List.pairwise_append.mp ordered
  rw [Machine.run_append] at running
  change (((Reader.machine codec limits).run before).step codec limits arrival).ended = none at running
  obtain ⟨last, least, tracks⟩ := Tracks.run before early (Reader.ended_stays running)
  have later := least arrival.now fun earlier member => bound earlier member arrival (List.mem_singleton.mpr rfl)
  have lives := Reader.step_lives running
  generalize (((Reader.machine codec limits).run before).step codec limits arrival).map = after at lives
  generalize ((Reader.machine codec limits).run before).emits codec limits arrival = dispatch at lives
  intro dispatched
  cases lives with
  | whole clear whole => exact ⟨fun _ => rfl, fun fragmented => by rw [whole] at fragmented; cases fragmented⟩
  | buffered header entry buf stores incomplete =>
    refine ⟨fun whole => absurd stores.fragmented (by rw [whole]; exact Bool.false_ne_true), fun _ =>
      ⟨header, stores.parsed, ?_⟩⟩
    simp only
    rw [← collected_own]
    obtain ⟨holds, total⟩ := stores.holds (tracks header.streamId) later
    have missing := mt holds.complete_iff.mpr (Bool.eq_false_iff.mp incomplete)
    unfold Collected.full at missing
    rw [total] at missing
    rw [if_neg missing]
    rfl
  | completed header entry buf stores complete =>
    refine ⟨fun whole => absurd stores.fragmented (by rw [whole]; exact Bool.false_ne_true), fun _ =>
      ⟨header, stores.parsed, ?_⟩⟩
    simp only
    rw [← collected_own]
    obtain ⟨holds, total⟩ := stores.holds (tracks header.streamId) later
    have full := holds.complete_iff.mp complete
    have message := holds.reassemble complete
    unfold Collected.full at full
    unfold Collected.message at message
    rw [total] at full message
    rw [if_pos full, ← message]
    exact congrArg some (FramePayload.bytes_ofBytes ..)

end Steps

/-- Two streams and a whole frame; the second fragment of stream 1 is sent twice. -/
def interleaved : List Arrival :=
  [⟨fragmentFrame 1 2 1 [7], none, 0, 0⟩, ⟨fragmentFrame 0 2 2 [5], none, 1, 1⟩, ⟨wholeFrame [9], none, 2, 2⟩,
   ⟨fragmentFrame 1 2 1 [8], none, 3, 3⟩]

theorem reassembly_exact_interleaved :
    (((Reader.machine sampleCodec {}).run interleaved).emits sampleCodec {} ⟨fragmentFrame 0 2 1 [6], none, 4, 4⟩).map
      (fun dispatch => dispatch.frame.bytes) = some [6, 8] := by
  obtain ⟨header, parsed, exact_⟩ := (reassembly_exact sampleCodec {} interleaved ⟨fragmentFrame 0 2 1 [6], none, 4, 4⟩
    (by decide +kernel) (by decide +kernel)).2 (by decide +kernel)
  have read : sampleCodec.parseFragHeader (fragmentFrame 0 2 1 [6]).bytes = some ⟨0, 0, 2, 1⟩ := by decide +kernel
  cases read.symm.trans parsed
  rw [exact_]
  decide +kernel

end Vynkor
