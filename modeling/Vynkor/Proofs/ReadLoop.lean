import Vynkor.Connection
import Vynkor.Lib.Journal

/-! What the read loop can do with a frame: end, hand it on whole, keep a fragment or
complete a message. -/

namespace Vynkor
open Lib

/-- The bytes a frame adds to a message: all of them, or those after the fragment header. -/
def Arrival.contribution (arrival : Arrival) : Bytes :=
  if arrival.frame.hasFlag flagFragmented then arrival.frame.bytes.drop fragHeaderSize else arrival.frame.bytes

section Store
variable {codec : Codec} {limits : ReadLimits} {entry buf : ReassemblyBuf} {sequence : Nat} {fragment : Fragment}

theorem ReassemblyBuf.store_ok (stored : entry.store codec limits sequence fragment = .ok buf) :
    ∃ bytes, buf = { entry with bufferedBytes := bytes, fragments := entry.fragments.insert sequence fragment } := by
  unfold ReassemblyBuf.store at stored
  simp only at stored
  split at stored
  · cases stored
  · split at stored
    · cases stored
    · split at stored
      · cases stored
      next bytes _ =>
        cases stored
        exact ⟨bytes, rfl⟩

end Store

section Receive
variable (codec : Codec) (limits : ReadLimits) (map : ReassemblyMap) (arrival : Arrival)

def pruned : ReassemblyMap := pruneStaleReassembly map arrival.now limits.fragmentTimeout

/-- The fragment is stored in the buffer of its stream, which may be a new one. -/
structure Stores (header : FragmentHeader) (entry buf : ReassemblyBuf) : Prop where
  clear : macFault codec arrival = none
  fragmented : arrival.frame.hasFlag flagFragmented = true
  parsed : codec.parseFragHeader arrival.frame.bytes = some header
  below : header.sequence < header.total
  opened : (pruned limits map arrival).get header.streamId = some entry ∧ entry.total = header.total ∨
    (pruned limits map arrival).get header.streamId = none ∧ entry = openBuffer arrival header ∧
      (pruned limits map arrival).keys.length < limits.maxReassemblyStreams
  stored : entry.store codec limits header.sequence ⟨arrival.frame.bytes.drop fragHeaderSize, arrival⟩ = .ok buf

/-- The fragment reaches the buffer of its stream, which may be a new one. -/
structure Reaches (header : FragmentHeader) (entry : ReassemblyBuf) : Prop where
  clear : macFault codec arrival = none
  fragmented : arrival.frame.hasFlag flagFragmented = true
  parsed : codec.parseFragHeader arrival.frame.bytes = some header
  below : header.sequence < header.total
  opened : (pruned limits map arrival).get header.streamId = some entry ∧ entry.total = header.total ∨
    (pruned limits map arrival).get header.streamId = none ∧ entry = openBuffer arrival header ∧
      (pruned limits map arrival).keys.length < limits.maxReassemblyStreams

inductive Receives : ReadOutcome → Prop
  | dropped (reason : ReadEnd) : Receives (.dropped reason)
  | whole (clear : macFault codec arrival = none) (whole : arrival.frame.hasFlag flagFragmented = false) :
      Receives (.dispatched (pruned limits map arrival) ⟨arrival.frame, [arrival]⟩)
  | buffered (header : FragmentHeader) (entry buf : ReassemblyBuf)
      (stores : Stores codec limits map arrival header entry buf) (incomplete : buf.isComplete = false) :
      Receives (.buffered ((pruned limits map arrival).insert header.streamId buf))
  | completed (header : FragmentHeader) (entry buf : ReassemblyBuf)
      (stores : Stores codec limits map arrival header entry buf) (complete : buf.isComplete = true) :
      Receives (.dispatched ((pruned limits map arrival).remove header.streamId)
        ⟨assembled codec arrival.frame buf, buf.inOrder.map Fragment.source⟩)

variable {codec limits map arrival}

private theorem macFault_ne_panicked : macFault codec arrival ≠ some .panicked := by
  unfold macFault
  split
  · exact nofun
  · split
    · exact nofun
    · split <;> exact nofun

theorem Reaches.receive_eq {header : FragmentHeader} {entry : ReassemblyBuf}
    (reaches : Reaches codec limits map arrival header entry) : receive codec limits map arrival =
      addFragment codec limits (pruned limits map arrival) arrival header entry := by
  have valid : ¬(header.total = 0 ∨ header.sequence ≥ header.total) := by
    have below := reaches.below
    omega
  unfold receive
  simp only [reaches.clear, reaches.fragmented, reaches.parsed, if_true]
  change receiveFragment codec limits (pruned limits map arrival) arrival header = _
  unfold receiveFragment
  rw [if_neg valid]
  rcases reaches.opened with ⟨held, agrees⟩ | ⟨free, rfl, room⟩
  · simp only [held]
    rw [if_neg (not_not.mpr agrees)]
  · simp only [free]
    rw [if_neg (Nat.not_le.mpr room)]

/-- A frame is refused before it reaches a buffer, is whole, or reaches one. -/
theorem receive_reaches :
    (∃ reason, receive codec limits map arrival = .dropped reason ∧ reason ≠ .panicked) ∨
    (macFault codec arrival = none ∧ arrival.frame.hasFlag flagFragmented = false ∧
      receive codec limits map arrival = .dispatched (pruned limits map arrival) ⟨arrival.frame, [arrival]⟩) ∨
    ∃ header entry, Reaches codec limits map arrival header entry := by
  cases clear : macFault codec arrival with
  | some reason =>
    refine .inl ⟨reason, ?_, fun same => macFault_ne_panicked (clear.trans (congrArg some same))⟩
    unfold receive
    rw [clear]
  | none =>
    cases fragmented : arrival.frame.hasFlag flagFragmented with
    | false =>
      refine .inr (.inl ⟨rfl, rfl, ?_⟩)
      unfold receive
      simp only [clear, fragmented, Bool.false_eq_true, if_false]
      rfl
    | true =>
      unfold receive
      simp only [clear, fragmented, if_true]
      cases parsed : codec.parseFragHeader arrival.frame.bytes with
      | none => exact .inl ⟨_, rfl, by simp⟩
      | some header =>
        simp only
        change (∃ reason, receiveFragment codec limits (pruned limits map arrival) arrival header = .dropped reason ∧ _) ∨ _
        unfold receiveFragment
        split
        · exact .inl ⟨_, rfl, by simp⟩
        next valid =>
          have below : header.sequence < header.total := by omega
          split
          next existing held =>
            split
            · exact .inl ⟨_, rfl, by simp⟩
            next agrees =>
              exact .inr (.inr ⟨header, existing, clear, fragmented, parsed, below, .inl ⟨held, not_not.mp agrees⟩⟩)
          next free =>
            split
            · exact .inl ⟨_, rfl, by simp⟩
            next room =>
              exact .inr (.inr ⟨header, _, clear, fragmented, parsed, below, .inr ⟨free, rfl, Nat.lt_of_not_le room⟩⟩)

theorem Reaches.cases {header : FragmentHeader} {entry : ReassemblyBuf}
    (reaches : Reaches codec limits map arrival header entry) :
    Receives codec limits map arrival (addFragment codec limits (pruned limits map arrival) arrival header entry) := by
  have stores : ∀ {buf}, entry.store codec limits header.sequence ⟨arrival.frame.bytes.drop fragHeaderSize, arrival⟩ =
      .ok buf → Stores codec limits map arrival header entry buf :=
    fun stored => ⟨reaches.clear, reaches.fragmented, reaches.parsed, reaches.below, reaches.opened, stored⟩
  unfold addFragment
  split
  · exact .dropped _
  · split
    · exact .dropped _
    next buf stored =>
      split
      next complete => exact .completed header entry buf (stores stored) complete
      next incomplete => exact .buffered header entry buf (stores stored) (Bool.eq_false_iff.mpr incomplete)

private theorem receive_cases : Receives codec limits map arrival (receive codec limits map arrival) := by
  rcases @receive_reaches codec limits map arrival with ⟨reason, dropped, -⟩ | ⟨clear, whole, handed⟩ |
    ⟨header, entry, reaches⟩
  · rw [dropped]
    exact .dropped reason
  · rw [handed]
    exact .whole clear whole
  · rw [reaches.receive_eq]
    exact reaches.cases

@[simp] theorem get_pruned (stream : Nat) : (pruned limits map arrival).get stream =
    (map.get stream).filter fun buf => decide (arrival.now - buf.firstSeen < limits.fragmentTimeout) :=
  DashMap.get_retain ..

theorem pruned_held {stream : Nat} {buf : ReassemblyBuf} (held : (pruned limits map arrival).get stream = some buf) :
    map.get stream = some buf := by
  rw [get_pruned, Option.filter_eq_some_iff] at held
  exact held.1

end Receive

namespace Reader
variable (codec : Codec) (limits : ReadLimits)

/-- A loop that has not ended takes the outcome as its next state. -/
inductive Steps (reader : Reader) (arrival : Arrival) : Reader → Option Dispatch → Prop
  | finished (ended : reader.ended.isSome = true) : Steps reader arrival reader none
  | dropped (reason : ReadEnd) : Steps reader arrival { reader with ended := some reason } none
  | whole (running : reader.ended = none) (clear : macFault codec arrival = none)
      (whole : arrival.frame.hasFlag flagFragmented = false) :
      Steps reader arrival { reader with
        map := pruned limits reader.map arrival, dispatched := reader.dispatched ++ [⟨arrival.frame, [arrival]⟩] }
        (some ⟨arrival.frame, [arrival]⟩)
  | buffered (running : reader.ended = none) (header : FragmentHeader) (entry buf : ReassemblyBuf)
      (stores : Stores codec limits reader.map arrival header entry buf) (incomplete : buf.isComplete = false) :
      Steps reader arrival { reader with map := (pruned limits reader.map arrival).insert header.streamId buf } none
  | completed (running : reader.ended = none) (header : FragmentHeader) (entry buf : ReassemblyBuf)
      (stores : Stores codec limits reader.map arrival header entry buf) (complete : buf.isComplete = true) :
      Steps reader arrival { reader with
        map := (pruned limits reader.map arrival).remove header.streamId
        dispatched := reader.dispatched ++
          [⟨assembled codec arrival.frame buf, buf.inOrder.map Fragment.source⟩] }
        (some ⟨assembled codec arrival.frame buf, buf.inOrder.map Fragment.source⟩)

theorem step_cases (reader : Reader) (arrival : Arrival) :
    Steps codec limits reader arrival (reader.step codec limits arrival) (reader.emits codec limits arrival) := by
  unfold step emits
  split
  next ended => exact .finished ended
  next running =>
    have running : reader.ended = none := Option.not_isSome_iff_eq_none.mp running
    have outcome := @receive_cases codec limits reader.map arrival
    generalize receive codec limits reader.map arrival = result at outcome ⊢
    cases outcome with
    | dropped reason => exact .dropped reason
    | whole clear whole => exact .whole running clear whole
    | buffered header entry buf stores incomplete => exact .buffered running header entry buf stores incomplete
    | completed header entry buf stores complete => exact .completed running header entry buf stores complete

/-- What a frame does to a connection that outlives it. -/
inductive Lives (reader : Reader) (arrival : Arrival) : ReassemblyMap → Option Dispatch → Prop
  | whole (clear : macFault codec arrival = none) (whole : arrival.frame.hasFlag flagFragmented = false) :
      Lives reader arrival (pruned limits reader.map arrival) (some ⟨arrival.frame, [arrival]⟩)
  | buffered (header : FragmentHeader) (entry buf : ReassemblyBuf)
      (stores : Stores codec limits reader.map arrival header entry buf) (incomplete : buf.isComplete = false) :
      Lives reader arrival ((pruned limits reader.map arrival).insert header.streamId buf) none
  | completed (header : FragmentHeader) (entry buf : ReassemblyBuf)
      (stores : Stores codec limits reader.map arrival header entry buf) (complete : buf.isComplete = true) :
      Lives reader arrival ((pruned limits reader.map arrival).remove header.streamId)
        (some ⟨assembled codec arrival.frame buf, buf.inOrder.map Fragment.source⟩)

variable {codec limits}

theorem step_lives {reader : Reader} {arrival : Arrival} (running : (reader.step codec limits arrival).ended = none) :
    Lives codec limits reader arrival (reader.step codec limits arrival).map (reader.emits codec limits arrival) := by
  have steps := step_cases codec limits reader arrival
  generalize reader.step codec limits arrival = after at steps running ⊢
  generalize reader.emits codec limits arrival = dispatch at steps ⊢
  cases steps with
  | finished ended =>
    rw [running] at ended
    cases ended
  | dropped reason => cases running
  | whole _ clear whole => exact .whole clear whole
  | buffered _ header entry buf stores incomplete => exact .buffered header entry buf stores incomplete
  | completed _ header entry buf stores complete => exact .completed header entry buf stores complete

end Reader

def wholeFrame (bytes : Bytes) : Frame := { target := some "kernel", payload := .raw bytes }

def fragmentFrame (sequence total stream : Nat) (data : Bytes) : Frame where
  flags := flagFragmented
  target := some "kernel"
  payload := .raw (toBeBytes 2 0 ++ toBeBytes 2 sequence ++ toBeBytes 2 total ++ toBeBytes 4 stream ++ data)

end Vynkor
