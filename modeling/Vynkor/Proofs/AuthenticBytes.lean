import Mathlib.Data.List.Induction
import Vynkor.Proofs.ReadLoop

/-! Which bytes the read loop has checked. A frame is checked when it arrives, with the
key that is installed then; a message is dispatched when its last fragment arrives. -/

namespace Vynkor
open Lib

/-- The frame arrived when this key was installed, and its tag was valid. -/
def Authentic (codec : Codec) (key : SessionKey) (source : Arrival) : Prop :=
  source.key = some key ∧ codec.verified key source.frame = true

/-- A fragment of the stream that this frame continues, received without this key, waits
in the buffer and is not replaced by the frame. -/
def Mixes (codec : Codec) (limits : ReadLimits) (reader : Reader) (arrival : Arrival) (key : SessionKey) : Prop :=
  arrival.frame.hasFlag flagFragmented = true ∧
  ∃ header buf sequence fragment, codec.parseFragHeader arrival.frame.bytes = some header ∧
    (pruned limits reader.map arrival).get header.streamId = some buf ∧ sequence ≠ header.sequence ∧
    buf.fragments.get sequence = some fragment ∧ fragment.source.key ≠ some key

/-- Every buffered fragment is what a frame of the run contributed, after its check. -/
def Sourced (codec : Codec) (arrivals : List Arrival) (map : ReassemblyMap) : Prop :=
  ∀ ⦃stream buf sequence fragment⦄, map.get stream = some buf → buf.fragments.get sequence = some fragment →
    fragment.source ∈ arrivals ∧ fragment.data = fragment.source.contribution ∧ macFault codec fragment.source = none

private theorem verified_of_macFault {codec : Codec} {arrival : Arrival} {key : SessionKey} (clear : macFault codec arrival = none)
    (keyed : arrival.key = some key) : codec.verified key arrival.frame = true := by
  unfold macFault at clear
  simp only [keyed] at clear
  split at clear
  next valid => exact valid
  next => cases clear

private theorem ReassemblyBuf.mem_inOrder (buf : ReassemblyBuf) (fragment : Fragment) :
    fragment ∈ buf.inOrder ↔ ∃ sequence, buf.fragments.get sequence = some fragment := by
  unfold ReassemblyBuf.inOrder
  rw [List.mem_filterMap]
  constructor
  · rintro ⟨sequence, -, held⟩
    exact ⟨sequence, held⟩
  · rintro ⟨sequence, held⟩
    exact ⟨sequence, (List.mem_insertionSort _).mpr ((DashMap.mem_keys ..).mpr ⟨fragment, held⟩), held⟩

section Steps
variable {codec : Codec} {limits : ReadLimits} {arrivals : List Arrival} {map : ReassemblyMap} {arrival : Arrival}
  {header : FragmentHeader} {entry buf : ReassemblyBuf}

theorem Stores.fragments (stores : Stores codec limits map arrival header entry buf) (sequence : Nat)
    (fragment : Fragment) : buf.fragments.get sequence = some fragment ↔
      sequence = header.sequence ∧ fragment = ⟨arrival.frame.bytes.drop fragHeaderSize, arrival⟩ ∨
      sequence ≠ header.sequence ∧ ∃ old, (pruned limits map arrival).get header.streamId = some old ∧
        old.fragments.get sequence = some fragment := by
  obtain ⟨bytes, rfl⟩ := ReassemblyBuf.store_ok stores.stored
  have earlier : entry.fragments.get sequence = some fragment ↔
      ∃ old, (pruned limits map arrival).get header.streamId = some old ∧ old.fragments.get sequence = some fragment := by
    rcases stores.opened with ⟨held, -⟩ | ⟨free, rfl, -⟩
    · rw [held]
      exact ⟨fun stored => ⟨entry, rfl, stored⟩, fun ⟨_, same, stored⟩ => by cases same; exact stored⟩
    · rw [free]
      exact ⟨nofun, nofun⟩
  rw [DashMap.get_insert]
  split
  next here => simp [here, eq_comm]
  next apart => simp [apart, earlier]

private theorem Stores.sourced (stores : Stores codec limits map arrival header entry buf) (sourced : Sourced codec arrivals map)
    {sequence : Nat} {fragment : Fragment} (held : buf.fragments.get sequence = some fragment) :
    fragment.source ∈ arrivals ++ [arrival] ∧ fragment.data = fragment.source.contribution ∧
      macFault codec fragment.source = none := by
  rcases (stores.fragments sequence fragment).mp held with ⟨-, rfl⟩ | ⟨-, old, kept, stored⟩
  · exact ⟨List.mem_append_right _ (List.mem_singleton.mpr rfl), (if_pos stores.fragmented).symm, stores.clear⟩
  · obtain ⟨known, data, clear⟩ := sourced (pruned_held kept) stored
    exact ⟨List.mem_append_left _ known, data, clear⟩

private theorem Stores.sourced_inOrder (stores : Stores codec limits map arrival header entry buf)
    (sourced : Sourced codec arrivals map) {fragment : Fragment} (member : fragment ∈ buf.inOrder) :
    fragment.source ∈ arrivals ++ [arrival] ∧ fragment.data = fragment.source.contribution ∧
      macFault codec fragment.source = none := by
  obtain ⟨sequence, held⟩ := (buf.mem_inOrder fragment).mp member
  exact stores.sourced sourced held

/-- A buffer that the frame was added to has only authentic fragments, unless the frame
is mixed with some from before the key. -/
theorem Stores.authentic_iff {reader : Reader} (stores : Stores codec limits reader.map arrival header entry buf)
    (sourced : Sourced codec arrivals reader.map) {key : SessionKey} (keyed : arrival.key = some key) :
    (∀ fragment ∈ buf.inOrder, Authentic codec key fragment.source) ↔ ¬Mixes codec limits reader arrival key := by
  constructor
  · rintro authentic ⟨-, other, old, sequence, fragment, parsed, kept, apart, held, unkeyed⟩
    cases stores.parsed.symm.trans parsed
    have stored := (stores.fragments sequence fragment).mpr (.inr ⟨apart, old, kept, held⟩)
    exact unkeyed (authentic fragment ((buf.mem_inOrder fragment).mpr ⟨sequence, stored⟩)).1
  · intro unmixed fragment member
    obtain ⟨sequence, held⟩ := (buf.mem_inOrder fragment).mp member
    have checked : fragment.source.key = some key := by
      rcases (stores.fragments sequence fragment).mp held with ⟨-, rfl⟩ | ⟨apart, old, kept, stored⟩
      · exact keyed
      · by_contra unkeyed
        exact unmixed ⟨stores.fragmented, header, old, sequence, fragment, stores.parsed, kept, apart, stored, unkeyed⟩
    exact ⟨checked, verified_of_macFault (stores.sourced_inOrder sourced member).2.2 checked⟩

theorem Sourced.pruned (sourced : Sourced codec arrivals map) :
    Sourced codec (arrivals ++ [arrival]) (pruned limits map arrival) := by
  intro stream buf sequence fragment kept held
  obtain ⟨known, rest⟩ := sourced (pruned_held kept) held
  exact ⟨List.mem_append_left _ known, rest⟩

theorem Sourced.step {reader : Reader} (sourced : Sourced codec arrivals reader.map) :
    Sourced codec (arrivals ++ [arrival]) (reader.step codec limits arrival).map := by
  have idle : Sourced codec (arrivals ++ [arrival]) reader.map := fun _ _ _ _ kept held =>
    (sourced kept held).imp_left (List.mem_append_left _)
  have steps := Reader.step_cases codec limits reader arrival
  generalize reader.step codec limits arrival = after at steps ⊢
  generalize reader.emits codec limits arrival = dispatch at steps
  cases steps with
  | finished | dropped => exact idle
  | whole => exact sourced.pruned
  | buffered running header entry buf stores incomplete =>
    intro stream found sequence fragment kept held
    rcases DashMap.insert_cases kept with ⟨-, rfl⟩ | ⟨-, kept⟩
    · exact stores.sourced sourced held
    · exact sourced.pruned kept held
  | completed =>
    intro stream found sequence fragment kept held
    exact sourced.pruned (DashMap.remove_some.mp kept).2 held

theorem Sourced.run (codec : Codec) (limits : ReadLimits) (arrivals : List Arrival) :
    Sourced codec arrivals ((Reader.machine codec limits).run arrivals).map := by
  induction arrivals using List.reverseRecOn with
  | nil =>
    intro stream buf sequence fragment kept
    cases (DashMap.get_empty stream).symm.trans kept
  | append_singleton arrivals arrival ih =>
    rw [Machine.run_append]
    exact ih.step

end Steps

/-- A message dispatched under a key consists of bytes of frames that arrived before; all
of them were checked with that key exactly when no fragment from before the key is mixed
in. -/
theorem dispatched_authentic_iff (codec : Codec) (limits : ReadLimits) (before : List Arrival) (arrival : Arrival)
    (key : SessionKey) (keyed : arrival.key = some key) (dispatch : Dispatch)
    (emitted : ((Reader.machine codec limits).run before).emits codec limits arrival = some dispatch) :
    dispatch.frame.bytes = dispatch.sources.flatMap Arrival.contribution ∧
    (∀ source ∈ dispatch.sources, source ∈ before ++ [arrival]) ∧
    ((∀ source ∈ dispatch.sources, Authentic codec key source) ↔
      ¬Mixes codec limits ((Reader.machine codec limits).run before) arrival key) := by
  have sourced := Sourced.run codec limits before
  have steps := Reader.step_cases codec limits ((Reader.machine codec limits).run before) arrival
  rw [emitted] at steps
  generalize ((Reader.machine codec limits).run before).step codec limits arrival = after at steps
  generalize (Reader.machine codec limits).run before = reader at *
  cases steps with
  | whole running clear whole =>
    refine ⟨?_, ?_, fun _ => ?_, fun _ source member => ?_⟩
    · simp [Arrival.contribution, whole]
    · intro source member
      exact List.mem_append_right _ member
    · rintro ⟨fragmented, -⟩
      rw [whole] at fragmented
      cases fragmented
    · cases List.mem_singleton.mp member
      exact ⟨keyed, verified_of_macFault clear keyed⟩
  | completed running header entry buf stores complete =>
    refine ⟨?_, ?_, ?_⟩
    · have bytes : (assembled codec arrival.frame buf).bytes = buf.reassemble := FramePayload.bytes_ofBytes ..
      rw [bytes, List.flatMap_map]
      exact List.flatMap_congr fun fragment member => (stores.sourced_inOrder sourced member).2.1
    · intro source member
      obtain ⟨fragment, inside, rfl⟩ := List.mem_map.mp member
      exact (stores.sourced_inOrder sourced inside).1
    · rw [← stores.authentic_iff sourced keyed]
      exact List.forall_mem_map

def armedKey : SessionKey := ⟨.master, [1], "app"⟩

/-- The first half of a message arrives before the key, without a tag. -/
def untaggedHalf : Arrival := ⟨fragmentFrame 0 2 1 [6], none, 0, 0⟩

/-- The second half arrives with the key installed and carries a valid tag. -/
def taggedHalf : Arrival :=
  ⟨{ fragmentFrame 1 2 1 [7] with flags := flagFragmented ||| flagMacPresent, mac := some (sampleCodec.computeTag armedKey [] []) }, some armedKey, 1, 1⟩

theorem dispatched_authentic_iff_tagged :
    let reader := (Reader.machine sampleCodec {}).run [{ taggedHalf with frame := { taggedHalf.frame with
      payload := (fragmentFrame 0 2 1 [6]).payload } }]
    ∃ dispatch, reader.emits sampleCodec {} taggedHalf = some dispatch ∧
      ∀ source ∈ dispatch.sources, Authentic sampleCodec armedKey source := by
  intro reader
  have emitted : (reader.emits sampleCodec {} taggedHalf).isSome = true := by decide +kernel
  obtain ⟨dispatch, emitted⟩ := Option.isSome_iff_exists.mp emitted
  refine ⟨dispatch, emitted, ?_⟩
  refine (dispatched_authentic_iff sampleCodec {} _ taggedHalf armedKey rfl dispatch emitted).2.2.mpr ?_
  rintro ⟨-, header, buf, sequence, fragment, -, kept, -, held, unkeyed⟩
  have sourced := (Sourced.run sampleCodec {} _ (pruned_held kept) held).1
  exact unkeyed (congrArg Arrival.key (List.mem_singleton.mp sourced))

/-- The message is dispatched under the key with the bytes of the untagged half. -/
theorem untagged_half_dispatched :
    ((Reader.machine sampleCodec {}).run [untaggedHalf, taggedHalf]).dispatched.map
      (fun dispatch => (dispatch.frame.bytes, dispatch.sources)) = [([6, 7], [untaggedHalf, taggedHalf])] ∧
    taggedHalf.key = some armedKey ∧ untaggedHalf.key = none ∧ untaggedHalf.frame.mac = none ∧
    sampleCodec.verified armedKey untaggedHalf.frame = false := by
  decide +kernel

end Vynkor
