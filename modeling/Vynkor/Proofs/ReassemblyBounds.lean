import Mathlib.Data.List.Induction
import Vynkor.Lib.Weight
import Vynkor.Proofs.ReadLoop

/-! The byte count of a reassembly buffer is the size of the fragments it holds, also
where a resend makes the `usize` arithmetic wrap around. -/

namespace Vynkor
open Lib

def Fragment.size (fragment : Fragment) : Nat := fragment.data.length

structure Accounted (codec : Codec) (buf : ReassemblyBuf) : Prop where
  counted : buf.bufferedBytes = buf.fragments.weight Fragment.size
  bounded : buf.bufferedBytes ≤ codec.maxPayloadSize

section Arithmetic
variable {checks : Bool} {held size replaced result : Nat}

private theorem usizeAdd_eq (small : held + size < usizeSpan) : usizeAdd checks held size = some (held + size) := if_pos small

/-- The count grows by a difference that may wrap around, and comes out right. -/
theorem usize_replace (known : replaced ≤ held) (small : held + size < usizeSpan)
    (grown : (usizeSub checks size replaced).bind (usizeAdd checks held) = some result) :
    result = held + size - replaced := by
  unfold usizeSub at grown
  split at grown
  next shorter =>
    have sum := @usizeAdd_eq checks held (size - replaced) (by omega)
    rw [Option.bind_some, sum] at grown
    cases grown
    omega
  next longer =>
    split at grown
    · cases grown
    next unchecked =>
      rw [Option.bind_some, usizeAdd, if_neg (by omega), if_neg unchecked] at grown
      cases grown
      have wrapped : held + (size + usizeSpan - replaced) = held + size - replaced + usizeSpan := by omega
      rw [wrapped, Nat.add_mod_right, Nat.mod_eq_of_lt (by omega)]

end Arithmetic

/-- No allocation is larger. -/
def isizeMax : Nat := 9223372036854775807

theorem le_isizeMax {count : Nat} (small : count < 4294967296) : count ≤ isizeMax := by
  unfold isizeMax
  omega

section Store
variable {codec : Codec} {limits : ReadLimits} {entry buf : ReassemblyBuf} {sequence : Nat} {fragment : Fragment}

theorem Accounted.fits (accounted : Accounted codec entry) (cap : codec.maxPayloadSize ≤ isizeMax)
    (short : fragment.size ≤ isizeMax) (sequence : Nat) :
    entry.fragments.weightAt Fragment.size sequence ≤ entry.bufferedBytes ∧
      entry.bufferedBytes + fragment.size < usizeSpan := by
  refine ⟨?_, ?_⟩
  · rw [accounted.counted]
    exact DashMap.weightAt_le ..
  · have bound := accounted.bounded
    unfold isizeMax at cap short
    unfold usizeSpan
    omega

theorem Accounted.checked (accounted : Accounted codec entry) (cap : codec.maxPayloadSize ≤ isizeMax)
    (short : fragment.size ≤ isizeMax) (checks : Bool) (sequence : Nat) :
    (usizeAdd checks entry.bufferedBytes fragment.data.length).bind
      (usizeSub checks · (((entry.fragments.get sequence).map fun old => old.data.length).getD 0)) =
      some (entry.bufferedBytes + fragment.size - entry.fragments.weightAt Fragment.size sequence) := by
  obtain ⟨known, small⟩ := accounted.fits cap short sequence
  refine (congrArg (Option.bind · _) (usizeAdd_eq small)).trans ?_
  exact if_pos (Nat.le_trans known (Nat.le_add_right ..))

private theorem ReassemblyBuf.store_accounted (cap : codec.maxPayloadSize ≤ isizeMax) (short : fragment.size ≤ isizeMax)
    (accounted : Accounted codec entry) (stored : entry.store codec limits sequence fragment = .ok buf) :
    Accounted codec buf := by
  obtain ⟨known, small⟩ := accounted.fits cap short sequence
  have replaces := @DashMap.weight_insert _ _ _ Fragment.size entry.fragments sequence fragment
  rw [← accounted.counted] at replaces
  unfold ReassemblyBuf.store at stored
  simp only [accounted.checked cap short] at stored
  split at stored
  · cases stored
  next fits =>
    split at stored
    · cases stored
    next bytes grown =>
      cases stored
      have equal : bytes = entry.bufferedBytes + fragment.size - entry.fragments.weightAt Fragment.size sequence :=
        usize_replace known small grown
      refine ⟨?_, ?_⟩
      · change bytes = (entry.fragments.insert sequence fragment).weight Fragment.size
        omega
      · change bytes ≤ codec.maxPayloadSize
        omega

/-- With overflow checks on, the store panics if the new bytes are fewer than those they
replace, and in no other case. -/
theorem ReassemblyBuf.store_panics_iff (cap : codec.maxPayloadSize ≤ isizeMax) (short : fragment.size ≤ isizeMax)
    (accounted : Accounted codec entry) :
    entry.store codec { limits with overflowChecks := true } sequence fragment = .error .panicked ↔
      fragment.size < entry.fragments.weightAt Fragment.size sequence := by
  obtain ⟨known, small⟩ := accounted.fits cap short sequence
  have bound := accounted.bounded
  unfold ReassemblyBuf.store
  simp only [accounted.checked cap short]
  split
  next large => exact iff_of_false (fun ended => by cases ended) (by omega)
  next fits =>
    by_cases shorter : fragment.size < entry.fragments.weightAt Fragment.size sequence
    · have fails : usizeSub true fragment.data.length
          (((entry.fragments.get sequence).map fun old => old.data.length).getD 0) = none :=
        (if_neg (Nat.not_le.mpr shorter)).trans (if_pos rfl)
      rw [fails]
      exact iff_of_true rfl shorter
    · have differs : usizeSub true fragment.data.length
          (((entry.fragments.get sequence).map fun old => old.data.length).getD 0) =
          some (fragment.size - entry.fragments.weightAt Fragment.size sequence) :=
        if_pos (Nat.le_of_not_lt shorter)
      rw [differs, Option.bind_some, usizeAdd_eq (by omega)]
      exact iff_of_false (fun ended => by cases ended) shorter

private theorem openBuffer_accounted (arrival : Arrival) (header : FragmentHeader) : Accounted codec (openBuffer arrival header) :=
  ⟨rfl, Nat.zero_le _⟩

theorem ReassemblyBuf.length_reassemble (buf : ReassemblyBuf) :
    buf.reassemble.length = buf.fragments.weight Fragment.size := by
  have pieces : ∀ keys : List Nat, ((keys.filterMap buf.fragments.get).flatMap Fragment.data).length =
      (keys.map (buf.fragments.weightAt Fragment.size)).sum := by
    intro keys
    induction keys with
    | nil => rfl
    | cons key rest ih =>
      rw [List.map_cons, List.sum_cons, ← ih, DashMap.weightAt]
      cases held : buf.fragments.get key with
      | none =>
        rw [List.filterMap_cons_none held]
        exact (Nat.zero_add _).symm
      | some fragment =>
        rw [List.filterMap_cons_some held, List.flatMap_cons, List.length_append]
        rfl
  unfold ReassemblyBuf.reassemble ReassemblyBuf.inOrder DashMap.weight
  rw [pieces]
  exact ((List.perm_insertionSort ..).map _).sum_eq

end Store

def AllAccounted (codec : Codec) (map : ReassemblyMap) : Prop :=
  ∀ ⦃stream buf⦄, map.get stream = some buf → Accounted codec buf

section Steps
variable {codec : Codec} {limits : ReadLimits} {map : ReassemblyMap} {arrival : Arrival} {header : FragmentHeader}
  {entry buf : ReassemblyBuf}

theorem AllAccounted.pruned (accounted : AllAccounted codec map) : AllAccounted codec (pruned limits map arrival) :=
  fun _ _ kept => accounted (pruned_held kept)

theorem Stores.accounted (stores : Stores codec limits map arrival header entry buf) (accounted : AllAccounted codec map)
    (cap : codec.maxPayloadSize ≤ isizeMax) (short : arrival.frame.bytes.length ≤ isizeMax) : Accounted codec buf := by
  have before : Accounted codec entry := by
    rcases stores.opened with ⟨held, -⟩ | ⟨-, rfl, -⟩
    · exact accounted.pruned held
    · exact openBuffer_accounted ..
  refine ReassemblyBuf.store_accounted cap ?_ before stores.stored
  change (arrival.frame.bytes.drop fragHeaderSize).length ≤ isizeMax
  rw [List.length_drop]
  exact Nat.le_trans (Nat.sub_le ..) short

theorem AllAccounted.step {reader : Reader} (accounted : AllAccounted codec reader.map)
    (cap : codec.maxPayloadSize ≤ isizeMax) (short : arrival.frame.bytes.length ≤ isizeMax) :
    AllAccounted codec (reader.step codec limits arrival).map := by
  have steps := Reader.step_cases codec limits reader arrival
  generalize reader.step codec limits arrival = after at steps ⊢
  generalize reader.emits codec limits arrival = dispatch at steps
  cases steps with
  | finished | dropped => exact accounted
  | whole => exact accounted.pruned
  | buffered running header entry buf stores incomplete =>
    intro stream found kept
    rcases DashMap.insert_cases kept with ⟨-, rfl⟩ | ⟨-, kept⟩
    · exact stores.accounted accounted cap short
    · exact accounted.pruned kept
  | completed =>
    intro stream found kept
    exact accounted.pruned (DashMap.remove_some.mp kept).2

end Steps

/-- The frame panics in a build with overflow checks, and not because it is too short for
its header. -/
def Overflows (codec : Codec) (limits : ReadLimits) (reader : Reader) (arrival : Arrival) : Prop :=
  receive codec { limits with overflowChecks := true } reader.map arrival = .dropped .panicked ∧
    fragHeaderSize ≤ arrival.frame.bytes.length

/-- The frame is accepted as a resend of a fragment that was longer. -/
def Shrinks (codec : Codec) (limits : ReadLimits) (reader : Reader) (arrival : Arrival) : Prop :=
  macFault codec arrival = none ∧ arrival.frame.hasFlag flagFragmented = true ∧
  ∃ header buf old, codec.parseFragHeader arrival.frame.bytes = some header ∧
    (pruned limits reader.map arrival).get header.streamId = some buf ∧ buf.total = header.total ∧
    buf.fragments.get header.sequence = some old ∧ fragHeaderSize ≤ arrival.frame.bytes.length ∧
    (arrival.frame.bytes.drop fragHeaderSize).length < old.data.length

structure ReassemblyMap.Sound (codec : Codec) (limits : ReadLimits) (map : ReassemblyMap) : Prop where
  accounted : AllAccounted codec map
  below : ∀ ⦃stream buf⦄, map.get stream = some buf → ∀ ⦃sequence fragment⦄,
    buf.fragments.get sequence = some fragment → sequence < buf.total
  few : map.keys.length ≤ limits.maxReassemblyStreams

section Memory
variable {codec : Codec} {limits : ReadLimits} {map : ReassemblyMap} {arrival : Arrival} {header : FragmentHeader}
  {entry buf : ReassemblyBuf}

theorem ReassemblyMap.Sound.pruned (sound : ReassemblyMap.Sound codec limits map) : ReassemblyMap.Sound codec limits (pruned limits map arrival) where
  accounted := sound.accounted.pruned
  below _ _ kept := sound.below (pruned_held kept)
  few := by
    refine Nat.le_trans (DashMap.length_keys_le fun stream buf kept => ?_) sound.few
    exact (DashMap.mem_keys ..).mpr ⟨buf, pruned_held kept⟩

private theorem Stores.below_total (stores : Stores codec limits map arrival header entry buf) (sound : ReassemblyMap.Sound codec limits map)
    {sequence : Nat} {fragment : Fragment} (held : buf.fragments.get sequence = some fragment) : sequence < buf.total := by
  obtain ⟨bytes, rfl⟩ := ReassemblyBuf.store_ok stores.stored
  rcases stores.opened with ⟨open_, total⟩ | ⟨-, rfl, -⟩
  · rcases DashMap.insert_cases held with ⟨rfl, -⟩ | ⟨-, before⟩
    · exact total ▸ stores.below
    · exact sound.pruned.below open_ before
  · rcases DashMap.insert_cases held with ⟨rfl, -⟩ | ⟨-, before⟩
    · exact stores.below
    · cases (DashMap.get_empty sequence).symm.trans before

theorem Stores.few (stores : Stores codec limits map arrival header entry buf) (sound : ReassemblyMap.Sound codec limits map) :
    ((pruned limits map arrival).insert header.streamId buf).keys.length ≤ limits.maxReassemblyStreams := by
  have keys : ∀ stream found, ((pruned limits map arrival).insert header.streamId buf).get stream = some found →
      stream = header.streamId ∨ stream ∈ (pruned limits map arrival).keys := by
    intro stream found held
    rcases DashMap.insert_cases held with ⟨same, -⟩ | ⟨-, before⟩
    · exact .inl same
    · exact .inr ((DashMap.mem_keys ..).mpr ⟨found, before⟩)
  rcases stores.opened with ⟨open_, -⟩ | ⟨-, -, room⟩
  · refine Nat.le_trans (DashMap.length_keys_le fun stream found held => ?_) (@ReassemblyMap.Sound.pruned _ _ _ arrival sound).few
    rcases keys stream found held with rfl | known
    · exact (DashMap.mem_keys ..).mpr ⟨entry, open_⟩
    · exact known
  · refine Nat.le_trans (@DashMap.length_keys_le _ _ _ _ (header.streamId :: (Vynkor.pruned limits map arrival).keys)
      fun stream found held => ?_) room
    exact List.mem_cons.mpr (keys stream found held)

theorem ReassemblyMap.Sound.step {reader : Reader} (sound : ReassemblyMap.Sound codec limits reader.map) (cap : codec.maxPayloadSize ≤ isizeMax)
    (short : arrival.frame.bytes.length ≤ isizeMax) : ReassemblyMap.Sound codec limits (reader.step codec limits arrival).map := by
  have accounted := @AllAccounted.step codec limits arrival reader sound.accounted cap short
  have steps := Reader.step_cases codec limits reader arrival
  generalize reader.step codec limits arrival = after at steps accounted ⊢
  generalize reader.emits codec limits arrival = dispatch at steps
  cases steps with
  | finished | dropped => exact sound
  | whole => exact sound.pruned
  | buffered running header entry buf stores incomplete =>
    refine ⟨accounted, fun stream found kept sequence fragment held => ?_, stores.few sound⟩
    rcases DashMap.insert_cases kept with ⟨-, rfl⟩ | ⟨-, kept⟩
    · exact stores.below_total sound held
    · exact sound.pruned.below kept held
  | completed =>
    refine ⟨accounted, fun stream found kept => sound.pruned.below (DashMap.remove_some.mp kept).2, ?_⟩
    refine Nat.le_trans (DashMap.length_keys_le fun stream found kept => ?_) (@ReassemblyMap.Sound.pruned _ _ _ arrival sound).few
    exact (DashMap.mem_keys ..).mpr ⟨found, (DashMap.remove_some.mp kept).2⟩

theorem ReassemblyMap.Sound.run (codec : Codec) (cap : codec.maxPayloadSize ≤ isizeMax) (limits : ReadLimits) {arrivals : List Arrival}
    (short : ∀ arrival ∈ arrivals, arrival.frame.bytes.length ≤ isizeMax) :
    ReassemblyMap.Sound codec limits ((Reader.machine codec limits).run arrivals).map := by
  refine @Machine.Obeys.run_preserves _ _ _ (fun reader : Reader => ReassemblyMap.Sound codec limits reader.map) _ ?_ ?_ _
    (Machine.obeys_of_forall short)
  · refine ⟨fun stream buf held => ?_, fun stream buf held => ?_, Nat.zero_le _⟩
    · cases (DashMap.get_empty stream).symm.trans held
    · cases (DashMap.get_empty stream).symm.trans held
  · intro reader arrival fits before
    exact before.step cap fits

private theorem Reaches.overflows_iff (reaches : Reaches codec { limits with overflowChecks := true } map arrival header entry)
    (sound : ReassemblyMap.Sound codec limits map) (cap : codec.maxPayloadSize ≤ isizeMax)
    (short : arrival.frame.bytes.length ≤ isizeMax) (long : fragHeaderSize ≤ arrival.frame.bytes.length) :
    receive codec { limits with overflowChecks := true } map arrival = .dropped .panicked ↔
      (arrival.frame.bytes.drop fragHeaderSize).length < entry.fragments.weightAt Fragment.size header.sequence := by
  have size : Fragment.size ⟨arrival.frame.bytes.drop fragHeaderSize, arrival⟩ ≤ isizeMax := by
    change (arrival.frame.bytes.drop fragHeaderSize).length ≤ isizeMax
    rw [List.length_drop]
    exact Nat.le_trans (Nat.sub_le ..) short
  have accounted : Accounted codec entry := by
    rcases reaches.opened with ⟨held, -⟩ | ⟨-, rfl, -⟩
    · exact sound.accounted.pruned held
    · exact openBuffer_accounted ..
  refine Iff.trans ?_ (@ReassemblyBuf.store_panics_iff codec limits entry header.sequence _ cap size accounted)
  rw [reaches.receive_eq]
  unfold addFragment
  rw [if_neg (Nat.not_lt.mpr long)]
  constructor
  · intro panics
    split at panics
    next reason failed =>
      cases panics
      exact failed
    · split at panics <;> cases panics
  · intro failed
    rw [failed]

private theorem overflows_iff_shrinks {reader : Reader} (sound : ReassemblyMap.Sound codec limits reader.map)
    (cap : codec.maxPayloadSize ≤ isizeMax) (short : arrival.frame.bytes.length ≤ isizeMax) :
    Overflows codec limits reader arrival ↔ Shrinks codec limits reader arrival := by
  constructor
  · rintro ⟨panics, long⟩
    rcases @receive_reaches codec { limits with overflowChecks := true } reader.map arrival with
      ⟨reason, dropped, other⟩ | ⟨-, -, handed⟩ | ⟨header, entry, reaches⟩
    · exact absurd (ReadOutcome.dropped.inj (dropped.symm.trans panics)) other
    · cases handed.symm.trans panics
    · have shorter := (reaches.overflows_iff sound cap short long).mp panics
      rw [DashMap.weightAt] at shorter
      cases replaced : entry.fragments.get header.sequence with
      | none =>
        rw [replaced] at shorter
        exact absurd shorter (Nat.not_lt_zero _)
      | some old =>
        rw [replaced] at shorter
        rcases reaches.opened with ⟨held, agrees⟩ | ⟨-, rfl, -⟩
        · exact ⟨reaches.clear, reaches.fragmented, header, entry, old, reaches.parsed, held, agrees, replaced, long, shorter⟩
        · cases (DashMap.get_empty header.sequence).symm.trans replaced
  · rintro ⟨clear, fragmented, header, buf, old, parsed, held, agrees, replaced, long, shorter⟩
    have below : header.sequence < header.total := agrees ▸ sound.pruned.below held replaced
    have reaches : Reaches codec { limits with overflowChecks := true } reader.map arrival header buf :=
      ⟨clear, fragmented, parsed, below, .inl ⟨held, agrees⟩⟩
    refine ⟨(reaches.overflows_iff sound cap short long).mpr ?_, long⟩
    rw [DashMap.weightAt, replaced]
    exact shorter

end Memory

/-- In every state of the read loop all buffers are accounted for, hold only sequences
below their total and are few; and the next frame makes the arithmetic overflow exactly
when it is a resend that is shorter than what it replaces. -/
theorem reassembly_overflows_iff (codec : Codec) (cap : codec.maxPayloadSize ≤ isizeMax) (limits : ReadLimits)
    (before : List Arrival) (arrival : Arrival)
    (short : ∀ earlier ∈ before ++ [arrival], earlier.frame.bytes.length ≤ isizeMax) :
    let reader := (Reader.machine codec limits).run before
    (∀ stream buf, reader.map.get stream = some buf →
      buf.bufferedBytes = buf.fragments.weight Fragment.size ∧ buf.bufferedBytes ≤ codec.maxPayloadSize ∧
      ∀ sequence ∈ buf.fragments.keys, sequence < buf.total) ∧
    reader.map.keys.length ≤ limits.maxReassemblyStreams ∧
    (Overflows codec limits reader arrival ↔ Shrinks codec limits reader arrival) := by
  have sound := ReassemblyMap.Sound.run codec cap limits fun earlier member => short earlier (List.mem_append_left _ member)
  refine ⟨fun stream buf held => ?_, sound.few, ?_⟩
  · have accounted := sound.accounted held
    refine ⟨accounted.counted, accounted.bounded, fun sequence member => ?_⟩
    obtain ⟨fragment, stored⟩ := (DashMap.mem_keys ..).mp member
    exact sound.below held stored
  · exact overflows_iff_shrinks sound cap (short arrival (List.mem_append_right _ (List.mem_singleton.mpr rfl)))

/-- Two bytes of the first of two fragments, and then one byte in their place. -/
def firstHalf : Arrival := ⟨fragmentFrame 0 2 1 [1, 2], none, 0, 0⟩

def shorterHalf : Arrival := ⟨fragmentFrame 0 2 1 [3], none, 1, 1⟩

theorem shorter_resend_overflows : Overflows sampleCodec {} ((Reader.machine sampleCodec {}).run [firstHalf]) shorterHalf := by
  refine (reassembly_overflows_iff sampleCodec (by decide) {} [firstHalf] shorterHalf (by decide +kernel)).2.2.mpr ?_
  have header : sampleCodec.parseFragHeader shorterHalf.frame.bytes = some ⟨0, 0, 2, 1⟩ := by decide +kernel
  let buffered : ReassemblyBuf :=
    { openBuffer firstHalf ⟨0, 0, 2, 1⟩ with fragments := DashMap.insert ∅ 0 ⟨[1, 2], firstHalf⟩, bufferedBytes := 2 }
  exact ⟨rfl, rfl, _, buffered, ⟨[1, 2], firstHalf⟩, header, rfl, rfl, rfl, by decide +kernel, by decide +kernel⟩

/-- The resend kills the read loop of a checked build; without the checks the count wraps
around and comes out right. -/
theorem shorter_resend_panics :
    let run := fun checks => (Reader.machine sampleCodec { overflowChecks := checks }).run [firstHalf, shorterHalf]
    (run true).ended = some .panicked ∧ (run false).ended = none ∧
    ((run false).map.get 1).map (·.bufferedBytes) = some 1 := by
  decide +kernel

end Vynkor
