import Vynkor.Proofs.Reassembly

/-! A message against the order in which its fragments arrive. Its bytes do not depend
on it, its header does: the target is that of the fragment that came first, and the
magic and the flags are those of the fragment that came last. -/

namespace Vynkor
open Lib

section Fragments
variable (codec : Codec) (stream : Nat)

def ownArrivals (arrivals : List Arrival) : List Arrival :=
  arrivals.filter fun arrival => (ownFragment codec stream arrival).isSome

/-- The sequences of a stream with their data, in order of arrival. -/
def fragmentEntries (arrivals : List Arrival) : Journal Nat Bytes :=
  (ownArrivals codec stream arrivals).filterMap fun arrival =>
    (ownFragment codec stream arrival).map fun header => (header.sequence, arrival.contribution)

end Fragments

/-- What a connection reads from some moment on, up to the last fragment of a message. -/
structure ArrivalOrder where
  reader : Reader := {}
  before : List Arrival := []
  last : Arrival

namespace ArrivalOrder
variable (order : ArrivalOrder)

def arrivals : List Arrival := order.before ++ [order.last]

def awaiting (codec : Codec) (limits : ReadLimits) : Reader :=
  order.before.foldl (Reader.step codec limits) order.reader

/-- Every sequence below the total arrives once, in time, between frames of other
streams and whole ones, and the connection lives. -/
structure Complete (codec : Codec) (limits : ReadLimits) (stream total : Nat) : Prop where
  idle : order.reader.map.get stream = none
  ordered : order.arrivals.Pairwise fun first second => first.now ≤ second.now
  running : ((order.awaiting codec limits).step codec limits order.last).ended = none
  closes : (ownFragment codec stream order.last).isSome = true
  totals : ∀ arrival ∈ order.arrivals, ∀ header, ownFragment codec stream arrival = some header → header.total = total
  once : ((fragmentEntries codec stream order.arrivals).map Prod.fst).Perm (List.range total)
  timely : ∀ opening, (ownArrivals codec stream order.arrivals).head? = some opening →
    order.last.now - opening.opened < limits.fragmentTimeout

/-- The newest data of each sequence, in order. -/
def message (codec : Codec) (stream total : Nat) : Bytes :=
  (⟨total, 0, fragmentEntries codec stream order.arrivals⟩ : Collected).message

/-- The last fragment is answered by this frame, and no other fragment of the stream by any. -/
def Dispatches (codec : Codec) (limits : ReadLimits) (stream : Nat) (frame : Frame) : Prop :=
  (∃ dispatch, (order.awaiting codec limits).emits codec limits order.last = some dispatch ∧ dispatch.frame = frame) ∧
  ∀ earlier arrival later, order.before = earlier ++ arrival :: later →
    (ownFragment codec stream arrival).isSome = true →
    (earlier.foldl (Reader.step codec limits) order.reader).emits codec limits arrival = none

/-- The header of a message takes its target from the first fragment and the rest from the last. -/
structure Heads (opening : Arrival) (frame : Frame) : Prop where
  magic : frame.magic = order.last.frame.magic
  flags : frame.flags = order.last.frame.flags &&& ~~~flagFragmented
  target : frame.target = opening.frame.target
  targetBytes : frame.targetBytes = opening.frame.targetBytes
  untagged : frame.mac = none

/-- What a message is besides its header. -/
structure Carries (codec : Codec) (bytes : Bytes) (frame : Frame) : Prop where
  payload : frame.payload = .ofBytes codec.decode bytes
  length : frame.length = asU32 bytes.length
  crc32 : frame.crc32 = codec.crc32 bytes

end ArrivalOrder

section Steps
variable {codec : Codec} {limits : ReadLimits} {stream total : Nat} {arrivals : List Arrival} {arrival : Arrival}
  {header : FragmentHeader} {reader : Reader}

private theorem ownArrivals_snoc (own : ownFragment codec stream arrival = some header) :
    ownArrivals codec stream (arrivals ++ [arrival]) = ownArrivals codec stream arrivals ++ [arrival] := by
  unfold ownArrivals
  rw [List.filter_append, List.filter_singleton, own]
  rfl

private theorem fragmentEntries_snoc (own : ownFragment codec stream arrival = some header) :
    fragmentEntries codec stream (arrivals ++ [arrival]) =
      fragmentEntries codec stream arrivals ++ [(header.sequence, arrival.contribution)] := by
  unfold fragmentEntries
  rw [ownArrivals_snoc own, List.filterMap_append, List.filterMap_cons_some (by rw [own]; rfl), List.filterMap_nil]

private theorem fragmentEntries_append (earlier later : List Arrival) : fragmentEntries codec stream (earlier ++ later) =
    fragmentEntries codec stream earlier ++ fragmentEntries codec stream later := by
  unfold fragmentEntries ownArrivals
  rw [List.filter_append, List.filterMap_append]

private theorem ownArrivals_foreign (foreign : ownFragment codec stream arrival = none) :
    ownArrivals codec stream (arrivals ++ [arrival]) = ownArrivals codec stream arrivals := by
  unfold ownArrivals
  rw [List.filter_append, List.filter_singleton, foreign]
  exact List.append_nil _

private theorem fragmentEntries_foreign (foreign : ownFragment codec stream arrival = none) :
    fragmentEntries codec stream (arrivals ++ [arrival]) = fragmentEntries codec stream arrivals := by
  unfold fragmentEntries
  rw [ownArrivals_foreign foreign]

/-- The buffer has the fragments that arrived and the target of the first of them. -/
structure Begun (codec : Codec) (stream total : Nat) (arrivals : List Arrival) (opening : Arrival) (buf : ReassemblyBuf) :
    Prop where
  holds : Holds buf ⟨total, opening.opened, fragmentEntries codec stream arrivals⟩
  target : buf.target = opening.frame.target
  targetBytes : buf.targetBytes = opening.frame.targetBytes

/-- The stream has no buffer before its first fragment, and one from then on. -/
def Gathered (codec : Codec) (stream total : Nat) (arrivals : List Arrival) (held : Option ReassemblyBuf) : Prop :=
  match (ownArrivals codec stream arrivals).head? with
  | none => held = none
  | some opening => ∃ buf, held = some buf ∧ Begun codec stream total arrivals opening buf

/-- The stream has not timed out when the frame comes. -/
def InTime (codec : Codec) (limits : ReadLimits) (stream : Nat) (arrivals : List Arrival) (arrival : Arrival) : Prop :=
  ∀ opening, (ownArrivals codec stream arrivals).head? = some opening →
    arrival.now - opening.opened < limits.fragmentTimeout

theorem Gathered.prune {map : ReassemblyMap} (gathered : Gathered codec stream total arrivals (map.get stream))
    (timely : InTime codec limits stream arrivals arrival) :
    (pruned limits map arrival).get stream = map.get stream := by
  rw [get_pruned]
  unfold Gathered at gathered
  cases opened : (ownArrivals codec stream arrivals).head? with
  | none =>
    rw [opened] at gathered
    rw [show map.get stream = none from gathered]
    rfl
  | some opening =>
    rw [opened] at gathered
    obtain ⟨buf, held, begun⟩ := gathered
    rw [held, Option.filter_some, if_pos]
    have seen : buf.firstSeen = opening.opened := begun.holds.opened
    rw [seen]
    exact decide_eq_true (timely opening opened)

section Storing
variable {map : ReassemblyMap} {entry buf : ReassemblyBuf}

theorem Begun.opens (empty : ownArrivals codec header.streamId arrivals = []) (free : map.get header.streamId = none)
    (kept : (pruned limits map arrival).get header.streamId = map.get header.streamId)
    (stores : Stores codec limits map arrival header entry buf) :
    Begun codec header.streamId header.total (arrivals ++ [arrival]) arrival buf := by
  have unwritten : fragmentEntries codec header.streamId arrivals = [] := by
    rw [fragmentEntries, empty]
    rfl
  have fresh : entry = openBuffer arrival header := by
    rcases stores.opened with ⟨held, -⟩ | ⟨-, same, -⟩
    · rw [kept, free] at held
      cases held
    · exact same
  have tracks : Tracks limits 0 (map.get header.streamId) none := by
    rw [free]
    exact .idle
  obtain ⟨holds, -⟩ := stores.holds tracks (Nat.zero_le _)
  obtain ⟨bytes, rfl⟩ := ReassemblyBuf.store_ok stores.stored
  subst fresh
  refine ⟨?_, rfl, rfl⟩
  rw [fragmentEntries_snoc stores.own, unwritten]
  exact holds

theorem Begun.extends {held : ReassemblyBuf} {opening : Arrival}
    (begun : Begun codec header.streamId total arrivals opening held) (found : map.get header.streamId = some held)
    (kept : (pruned limits map arrival).get header.streamId = map.get header.streamId)
    (young : arrival.now - opening.opened < limits.fragmentTimeout)
    (stores : Stores codec limits map arrival header entry buf) :
    Begun codec header.streamId total (arrivals ++ [arrival]) opening buf := by
  have same : entry = held := by
    rcases stores.opened with ⟨present, -⟩ | ⟨free, -⟩
    · rw [kept, found] at present
      exact (Option.some.inj present).symm
    · rw [kept, found] at free
      cases free
  have tracks : Tracks limits 0 (map.get header.streamId)
      (some ⟨total, opening.opened, fragmentEntries codec header.streamId arrivals⟩) := by
    rw [found]
    exact .active held _ begun.holds
  obtain ⟨holds, -⟩ := stores.holds tracks (Nat.zero_le _)
  have fresh : Collected.fresh limits arrival.now
      ⟨total, opening.opened, fragmentEntries codec header.streamId arrivals⟩ = true := decide_eq_true young
  unfold Collected.extend at holds
  rw [Option.filter_some, if_pos fresh] at holds
  obtain ⟨bytes, rfl⟩ := ReassemblyBuf.store_ok stores.stored
  subst same
  refine ⟨?_, begun.target, begun.targetBytes⟩
  rw [fragmentEntries_snoc stores.own]
  exact holds

theorem Gathered.stores (gathered : Gathered codec header.streamId total arrivals (map.get header.streamId))
    (timely : InTime codec limits header.streamId arrivals arrival) (agrees : header.total = total)
    (stores : Stores codec limits map arrival header entry buf) :
    ∃ opening, (ownArrivals codec header.streamId (arrivals ++ [arrival])).head? = some opening ∧
      Begun codec header.streamId total (arrivals ++ [arrival]) opening buf := by
  have kept := gathered.prune timely
  unfold Gathered at gathered
  rw [ownArrivals_snoc stores.own]
  cases opened : (ownArrivals codec header.streamId arrivals).head? with
  | none =>
    rw [opened] at gathered
    have empty := List.head?_eq_none_iff.mp opened
    rw [empty, ← agrees]
    exact ⟨arrival, rfl, .opens empty gathered kept stores⟩
  | some opening =>
    rw [opened] at gathered
    obtain ⟨held, found, begun⟩ := gathered
    rw [List.head?_append, opened]
    exact ⟨opening, rfl, begun.extends found kept (timely opening opened) stores⟩

end Storing

theorem Gathered.foreign {held : Option ReassemblyBuf} (gathered : Gathered codec stream total arrivals held)
    (foreign : ownFragment codec stream arrival = none) : Gathered codec stream total (arrivals ++ [arrival]) held := by
  unfold Gathered at gathered ⊢
  rw [ownArrivals_foreign foreign]
  cases opened : (ownArrivals codec stream arrivals).head? with
  | none =>
    rw [opened] at gathered
    exact gathered
  | some opening =>
    rw [opened] at gathered
    obtain ⟨buf, found, begun⟩ := gathered
    refine ⟨buf, found, ?_, begun.target, begun.targetBytes⟩
    rw [fragmentEntries_foreign foreign]
    exact begun.holds

/-- While a sequence is missing, a frame adds to the buffer at most and nothing of the
stream is dispatched. -/
theorem Gathered.step (gathered : Gathered codec stream total arrivals (reader.map.get stream))
    (timely : InTime codec limits stream arrivals arrival)
    (totals : ∀ header, ownFragment codec stream arrival = some header → header.total = total)
    (missing : ∃ sequence < total, sequence ∉ (fragmentEntries codec stream (arrivals ++ [arrival])).map Prod.fst)
    (running : (reader.step codec limits arrival).ended = none) :
    Gathered codec stream total (arrivals ++ [arrival]) ((reader.step codec limits arrival).map.get stream) ∧
      ((ownFragment codec stream arrival).isSome = true → reader.emits codec limits arrival = none) := by
  have kept := gathered.prune timely
  have lives := Reader.step_lives running
  generalize (reader.step codec limits arrival).map = after at lives ⊢
  generalize reader.emits codec limits arrival = dispatch at lives ⊢
  cases lives with
  | whole clear whole =>
    have foreign : ownFragment codec stream arrival = none := if_neg (Bool.eq_false_iff.mp whole)
    refine ⟨?_, fun own => by rw [foreign] at own; cases own⟩
    rw [← kept] at gathered
    exact gathered.foreign foreign
  | buffered header entry buf stores incomplete =>
    refine ⟨?_, fun _ => rfl⟩
    simp only [DashMap.get_insert]
    split
    next here =>
      subst here
      obtain ⟨opening, opened, begun⟩ := gathered.stores timely (totals header stores.own) stores
      unfold Gathered
      rw [opened]
      exact ⟨buf, rfl, begun⟩
    next apart =>
      rw [kept]
      exact gathered.foreign (stores.other apart)
  | completed header entry buf stores complete =>
    by_cases here : stream = header.streamId
    · subst here
      obtain ⟨opening, -, begun⟩ := gathered.stores timely (totals header stores.own) stores
      obtain ⟨sequence, small, absent⟩ := missing
      -- a complete buffer has every sequence
      have full := begun.holds.complete_iff.mp complete sequence small
      obtain ⟨data, written⟩ := Option.isSome_iff_exists.mp full
      exact absurd (List.mem_map_of_mem (Journal.mem_of_latest written)) absent
    · refine ⟨?_, fun own => by rw [stores.other here] at own; cases own⟩
      simp only [DashMap.get_remove, if_neg here]
      rw [kept]
      exact gathered.foreign (stores.other here)

private theorem Stores.stream_eq {map : ReassemblyMap} {entry buf : ReassemblyBuf}
    (stores : Stores codec limits map arrival header entry buf) (own : (ownFragment codec stream arrival).isSome = true) :
    stream = header.streamId := by
  by_contra apart
  rw [stores.other apart] at own
  cases own

private theorem Reader.foldl_running {rest : List Arrival} (running : (rest.foldl (Reader.step codec limits) reader).ended = none) :
    reader.ended = none := by
  induction rest generalizing reader with
  | nil => exact running
  | cons arrival rest ih => exact Reader.ended_stays (ih running)

end Steps

namespace ArrivalOrder
variable {codec : Codec} {limits : ReadLimits} {stream total : Nat} {order : ArrivalOrder}

namespace Complete
variable (complete : order.Complete codec limits stream total)
include complete

private theorem sequences_nodup : ((fragmentEntries codec stream order.arrivals).map Prod.fst).Nodup :=
  complete.once.nodup_iff.mpr List.nodup_range

private theorem last_own : order.last ∈ ownArrivals codec stream order.arrivals :=
  List.mem_filter.mpr ⟨List.mem_append_right _ List.mem_cons_self, complete.closes⟩

theorem missing (earlier later : List Arrival) (split : order.before = earlier ++ later) :
    ∃ sequence < total, sequence ∉ (fragmentEntries codec stream earlier).map Prod.fst := by
  obtain ⟨header, own⟩ := Option.isSome_iff_exists.mp complete.closes
  have whole : fragmentEntries codec stream order.arrivals = fragmentEntries codec stream earlier ++
      (fragmentEntries codec stream later ++ [(header.sequence, order.last.contribution)]) := by
    unfold arrivals
    rw [fragmentEntries_snoc own, split, fragmentEntries_append, List.append_assoc]
  have nodup := complete.sequences_nodup
  have small := complete.once.mem_iff (a := header.sequence)
  rw [whole, List.map_append] at nodup small
  refine ⟨header.sequence, List.mem_range.mp (small.mp (by simp)), fun member => ?_⟩
  exact (List.nodup_append.mp nodup).2.2 _ member header.sequence (by simp) rfl

theorem inTime {earlier later : List Arrival} {arrival : Arrival} (split : order.arrivals = earlier ++ later)
    (within : arrival.now ≤ order.last.now) : InTime codec limits stream earlier arrival := by
  intro opening opened
  have first : (ownArrivals codec stream order.arrivals).head? = some opening := by
    unfold ownArrivals at opened ⊢
    rw [split, List.filter_append, List.head?_append, opened]
    rfl
  exact Nat.lt_of_le_of_lt (Nat.sub_le_sub_right within _) (complete.timely opening first)

private theorem no_later_than_last {arrival : Arrival} (member : arrival ∈ order.before) : arrival.now ≤ order.last.now :=
  (List.pairwise_append.mp complete.ordered).2.2 arrival member order.last (List.mem_singleton.mpr rfl)

private theorem gathered_step {earlier later : List Arrival} {arrival : Arrival} (split : order.before = earlier ++ arrival :: later)
    (gathered : Gathered codec stream total earlier
      ((earlier.foldl (Reader.step codec limits) order.reader).map.get stream)) :
    Gathered codec stream total (earlier ++ [arrival])
      (((earlier.foldl (Reader.step codec limits) order.reader).step codec limits arrival).map.get stream) ∧
    ((ownFragment codec stream arrival).isSome = true →
      (earlier.foldl (Reader.step codec limits) order.reader).emits codec limits arrival = none) := by
  have member : arrival ∈ order.before := by
    rw [split]
    simp
  have whole : order.arrivals = earlier ++ (arrival :: later ++ [order.last]) := by
    unfold arrivals
    rw [split, List.append_assoc]
  have running : ((earlier.foldl (Reader.step codec limits) order.reader).step codec limits arrival).ended = none := by
    have alive := Reader.ended_stays complete.running
    unfold awaiting at alive
    rw [split, List.foldl_append, List.foldl_cons] at alive
    exact Reader.foldl_running alive
  apply gathered.step
  · exact complete.inTime whole (complete.no_later_than_last member)
  · exact complete.totals arrival (List.mem_append_left _ member)
  · apply complete.missing (earlier ++ [arrival]) later
    rw [split, List.append_assoc]
    rfl
  · exact running

private theorem gathered {earlier later : List Arrival} (split : order.before = earlier ++ later) :
    Gathered codec stream total earlier ((earlier.foldl (Reader.step codec limits) order.reader).map.get stream) := by
  induction earlier using List.reverseRecOn generalizing later with
  | nil => exact complete.idle
  | append_singleton earlier arrival ih =>
    have longer : order.before = earlier ++ arrival :: later := by
      rw [split, List.append_assoc]
      rfl
    rw [List.foldl_append]
    exact (complete.gathered_step longer (ih longer)).1

theorem full : (⟨total, 0, fragmentEntries codec stream order.arrivals⟩ : Collected).full := by
  intro sequence small
  have member := complete.once.mem_iff.mpr (List.mem_range.mpr small)
  obtain ⟨⟨key, data⟩, written, rfl⟩ := List.mem_map.mp member
  rw [(Journal.latest_eq_some_iff complete.sequences_nodup).mpr written]
  rfl

theorem closing : ∃ opening dispatch, (ownArrivals codec stream order.arrivals).head? = some opening ∧
    (order.awaiting codec limits).emits codec limits order.last = some dispatch ∧ order.Heads opening dispatch.frame ∧
    Carries codec (order.message codec stream total) dispatch.frame := by
  have gathered := complete.gathered (List.append_nil _).symm
  have timely : InTime codec limits stream order.before order.last := complete.inTime rfl (Nat.le_refl _)
  have totals := complete.totals order.last (List.mem_filter.mp complete.last_own).1
  have own := complete.closes
  have lives := Reader.step_lives complete.running
  generalize ((order.awaiting codec limits).step codec limits order.last).map = after at lives
  generalize (order.awaiting codec limits).emits codec limits order.last = dispatch at lives ⊢
  cases lives with
  | whole clear whole =>
    rw [show ownFragment codec stream order.last = none from if_neg (Bool.eq_false_iff.mp whole)] at own
    cases own
  | buffered header entry buf stores incomplete =>
    cases stores.stream_eq own
    obtain ⟨opening, -, begun⟩ := gathered.stores timely (totals header stores.own) stores
    exact absurd (begun.holds.complete_iff.mpr complete.full) (Bool.eq_false_iff.mp incomplete)
  | completed header entry buf stores filled =>
    cases stores.stream_eq own
    obtain ⟨opening, opened, begun⟩ := gathered.stores timely (totals header stores.own) stores
    have message : buf.reassemble = order.message codec header.streamId total := begun.holds.reassemble filled
    refine ⟨opening, _, opened, rfl, ⟨rfl, rfl, begun.target, begun.targetBytes, rfl⟩, ?_⟩
    rw [← message]
    exact ⟨rfl, rfl, rfl⟩

theorem dispatches : ∃ opening frame, (ownArrivals codec stream order.arrivals).head? = some opening ∧
    order.Dispatches codec limits stream frame ∧ order.Heads opening frame ∧
    Carries codec (order.message codec stream total) frame := by
  obtain ⟨opening, dispatch, opened, emitted, heads, carries⟩ := complete.closing
  refine ⟨opening, dispatch.frame, opened, ⟨⟨dispatch, emitted, rfl⟩, ?_⟩, heads, carries⟩
  intro earlier arrival later split
  exact (complete.gathered_step split (complete.gathered split)).2

end Complete

private theorem fragmentEntries_frames (arrivals : List Arrival) : fragmentEntries codec stream arrivals =
    ((ownArrivals codec stream arrivals).map Arrival.frame).filterMap fun frame =>
      (ownFragment codec stream { frame }).map fun header => (header.sequence, Arrival.contribution { frame }) := by
  rw [List.filterMap_map]
  rfl

private theorem message_perm {other : ArrivalOrder} (complete : order.Complete codec limits stream total)
    (same : ((ownArrivals codec stream order.arrivals).map Arrival.frame).Perm
      ((ownArrivals codec stream other.arrivals).map Arrival.frame)) :
    order.message codec stream total = other.message codec stream total := by
  have entries : (fragmentEntries codec stream order.arrivals).Perm (fragmentEntries codec stream other.arrivals) := by
    rw [fragmentEntries_frames, fragmentEntries_frames]
    exact same.filterMap _
  unfold message Collected.message
  apply List.flatMap_congr
  intro sequence member
  rw [Journal.latest_perm entries complete.sequences_nodup]

private theorem frame_eq_iff {other : ArrivalOrder} {opening second : Arrival} {frame later : Frame} {bytes : Bytes}
    (heads : order.Heads opening frame) (carries : Carries codec bytes frame) (others : other.Heads second later)
    (carried : Carries codec bytes later) : frame = later ↔
      (opening.frame.target = second.frame.target ∧ opening.frame.targetBytes = second.frame.targetBytes) ∧
      order.last.frame.magic = other.last.frame.magic ∧
      order.last.frame.flags &&& ~~~flagFragmented = other.last.frame.flags &&& ~~~flagFragmented := by
  rw [← heads.target, ← heads.targetBytes, ← heads.magic, ← heads.flags, ← others.target, ← others.targetBytes,
    ← others.magic, ← others.flags]
  constructor
  · rintro rfl
    exact ⟨⟨rfl, rfl⟩, rfl, rfl⟩
  · rintro ⟨⟨target, targetBytes⟩, magic, flags⟩
    have payload := carries.payload.trans carried.payload.symm
    have length := carries.length.trans carried.length.symm
    have crc32 := carries.crc32.trans carried.crc32.symm
    have mac := heads.untagged.trans others.untagged.symm
    cases frame
    cases later
    simp only [Frame.mk.injEq]
    exact ⟨magic, flags, length, target, targetBytes, crc32, payload, mac⟩

end ArrivalOrder

/-- The header fields that a message takes from its fragments. -/
def SameHeader (first second : Frame) : Prop :=
  first.magic = second.magic ∧ first.flags = second.flags ∧ first.target = second.target ∧
    first.targetBytes = second.targetBytes

/-- In two orders of one complete set of fragments the message has the same payload, and it
is the same frame exactly when the first fragments agree in the target and the last ones in
magic and flags, as they do where all fragments have one header. -/
theorem message_of_arrival_order (codec : Codec) (limits : ReadLimits) (stream total : Nat) (first second : ArrivalOrder)
    (one : first.Complete codec limits stream total) (two : second.Complete codec limits stream total)
    (same : ((ownArrivals codec stream first.arrivals).map Arrival.frame).Perm
      ((ownArrivals codec stream second.arrivals).map Arrival.frame)) :
    ∃ opening other frame later,
      ((ownArrivals codec stream first.arrivals).head? = some opening ∧
        (ownArrivals codec stream second.arrivals).head? = some other) ∧
      (first.Dispatches codec limits stream frame ∧ second.Dispatches codec limits stream later) ∧
      (frame.payload = later.payload ∧ frame.length = later.length ∧ frame.crc32 = later.crc32) ∧
      (first.Heads opening frame ∧ second.Heads other later) ∧
      (frame = later ↔
        (opening.frame.target = other.frame.target ∧ opening.frame.targetBytes = other.frame.targetBytes) ∧
        first.last.frame.magic = second.last.frame.magic ∧
        first.last.frame.flags &&& ~~~flagFragmented = second.last.frame.flags &&& ~~~flagFragmented) ∧
      ((∀ arrival ∈ ownArrivals codec stream first.arrivals, ∀ fragment ∈ ownArrivals codec stream first.arrivals,
        SameHeader arrival.frame fragment.frame) → frame = later) := by
  obtain ⟨opening, frame, opened, dispatched, heads, carries⟩ := one.dispatches
  obtain ⟨other, later, begun, followed, others, carried⟩ := two.dispatches
  rw [← ArrivalOrder.message_perm one same] at carried
  have frames := ArrivalOrder.frame_eq_iff heads carries others carried
  refine ⟨opening, other, frame, later, ⟨opened, begun⟩, ⟨dispatched, followed⟩, ?_, ⟨heads, others⟩, frames, ?_⟩
  · exact ⟨carries.payload.trans carried.payload.symm, carries.length.trans carried.length.symm,
      carries.crc32.trans carried.crc32.symm⟩
  · intro uniform
    -- every fragment of the second order is one of the first
    have known : ∀ arrival ∈ ownArrivals codec stream second.arrivals,
        ∃ fragment ∈ ownArrivals codec stream first.arrivals, fragment.frame = arrival.frame := by
      intro arrival member
      exact List.mem_map.mp (same.mem_iff.mpr (List.mem_map_of_mem member))
    obtain ⟨start, started, starts⟩ := known other (List.mem_of_head? begun)
    obtain ⟨close, closed, closes⟩ := known second.last two.last_own
    obtain ⟨-, -, target, targetBytes⟩ := uniform opening (List.mem_of_head? opened) start started
    obtain ⟨magic, flags, -⟩ := uniform first.last one.last_own close closed
    rw [starts] at target targetBytes
    rw [closes] at magic flags
    exact frames.mpr ⟨⟨target, targetBytes⟩, magic, by rw [flags]⟩

def twoFragments (first second : Frame) : ArrivalOrder where
  before := [⟨first, none, 0, 0⟩]
  last := ⟨second, none, 1, 1⟩

private theorem twoFragments_complete {first second : Frame} (one two : FragmentHeader)
    (opens : ownFragment sampleCodec 1 ⟨first, none, 0, 0⟩ = some one)
    (closes : ownFragment sampleCodec 1 ⟨second, none, 1, 1⟩ = some two)
    (totals : one.total = 2 ∧ two.total = 2) (once : [one.sequence, two.sequence].Perm (List.range 2))
    (running : (((twoFragments first second).awaiting sampleCodec {}).step sampleCodec {}
      (twoFragments first second).last).ended = none) :
    (twoFragments first second).Complete sampleCodec {} 1 2 where
  idle := DashMap.get_empty 1
  ordered := List.pairwise_pair.mpr (Nat.zero_le 1)
  running := running
  closes := by rw [show ownFragment sampleCodec 1 (twoFragments first second).last = some two from closes]; rfl
  totals := by
    intro arrival member header own
    rcases List.mem_pair.mp member with rfl | rfl
    · cases opens.symm.trans own
      exact totals.1
    · cases closes.symm.trans own
      exact totals.2
  once := by
    simpa [fragmentEntries, ownArrivals, ArrivalOrder.arrivals, twoFragments, opens, closes] using once
  timely := by
    intro opening opened
    simp only [ownArrivals, ArrivalOrder.arrivals, twoFragments, List.cons_append, List.nil_append, List.filter_cons, opens,
      Option.isSome_some, if_true, List.head?_cons, Option.some.injEq] at opened
    subst opened
    change 1 - 0 < secs 30
    decide

theorem message_of_arrival_order_plain :
    let first := twoFragments (fragmentFrame 0 2 1 [6]) (fragmentFrame 1 2 1 [7])
    let second := twoFragments (fragmentFrame 1 2 1 [7]) (fragmentFrame 0 2 1 [6])
    ∃ frame, first.Dispatches sampleCodec {} 1 frame ∧ second.Dispatches sampleCodec {} 1 frame := by
  intro first second
  have one : first.Complete sampleCodec {} 1 2 := twoFragments_complete ⟨0, 0, 2, 1⟩ ⟨0, 1, 2, 1⟩
    (by decide +kernel) (by decide +kernel) ⟨rfl, rfl⟩ (by decide) (by decide +kernel)
  have two : second.Complete sampleCodec {} 1 2 := twoFragments_complete ⟨0, 1, 2, 1⟩ ⟨0, 0, 2, 1⟩
    (by decide +kernel) (by decide +kernel) ⟨rfl, rfl⟩ (by decide) (by decide +kernel)
  obtain ⟨-, -, frame, later, -, ⟨dispatched, followed⟩, -, -, -, uniform⟩ :=
    message_of_arrival_order sampleCodec {} 1 2 first second one two (by decide +kernel)
  cases uniform (by unfold SameHeader; decide +kernel)
  exact ⟨frame, dispatched, followed⟩

/-- The first half of a message for the host, and the second half as raw bytes for the camera. -/
def hostHalf : Frame := { fragmentFrame 0 2 1 [6] with target := some "host" }

def cameraHalf : Frame :=
  { fragmentFrame 1 2 1 [7] with target := some "phone.cam", flags := flagFragmented ||| flagRawBinary }

theorem header_follows_arrival_order :
    let first := twoFragments hostHalf cameraHalf
    let second := twoFragments cameraHalf hostHalf
    (first.Complete sampleCodec {} 1 2 ∧ second.Complete sampleCodec {} 1 2) ∧
    ((first.awaiting sampleCodec {}).emits sampleCodec {} first.last).map (fun dispatch =>
      (dispatch.frame.bytes, dispatch.frame.target, dispatch.frame.flags, dispatch.frame.magic)) =
        some ([6, 7], some "host", flagRawBinary, 0x5652) ∧
    ((second.awaiting sampleCodec {}).emits sampleCodec {} second.last).map (fun dispatch =>
      (dispatch.frame.bytes, dispatch.frame.target, dispatch.frame.flags, dispatch.frame.magic)) =
        some ([6, 7], some "phone.cam", 0, 0x5652) := by
  intro first second
  refine ⟨⟨?_, ?_⟩, by decide +kernel⟩
  · exact twoFragments_complete ⟨0, 0, 2, 1⟩ ⟨0, 1, 2, 1⟩ (by decide +kernel) (by decide +kernel) ⟨rfl, rfl⟩ (by decide)
      (by decide +kernel)
  · exact twoFragments_complete ⟨0, 1, 2, 1⟩ ⟨0, 0, 2, 1⟩ (by decide +kernel) (by decide +kernel) ⟨rfl, rfl⟩ (by decide)
      (by decide +kernel)

end Vynkor
