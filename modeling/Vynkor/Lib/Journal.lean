import Mathlib.Data.List.Sort
import Vynkor.Lib.DashMap

/-! Entries in the order in which they were written. A map that replaces an entry by
the next one of the same key holds what was written last. -/

namespace Vynkor.Lib

universe u v

abbrev Journal (κ : Type u) (ν : Type v) := List (κ × ν)

namespace Journal
variable {κ : Type u} {ν : Type v} [DecidableEq κ]

/-- What was written last under a key. -/
def latest (journal : Journal κ ν) (key : κ) : Option ν :=
  ((journal.filter fun entry => entry.1 = key).getLast?).map Prod.snd

@[simp] theorem latest_append (journal : Journal κ ν) (key other : κ) (value : ν) :
    latest (journal ++ [(key, value)]) other = if other = key then some value else latest journal other := by
  unfold latest
  rw [List.filter_append]
  by_cases same : other = key
  · subst same
    simp
  · have apart : key ≠ other := Ne.symm same
    simp [same, apart]

theorem mem_of_latest {journal : Journal κ ν} {key : κ} {value : ν} (found : journal.latest key = some value) :
    (key, value) ∈ journal := by
  obtain ⟨entry, last, same⟩ := Option.map_eq_some_iff.mp found
  obtain ⟨member, named⟩ := List.mem_filter.mp (List.mem_of_getLast? last)
  rw [← same, ← of_decide_eq_true named]
  exact member

/-- Where no key is written twice, the last entry of a key is its only one. -/
theorem latest_eq_some_iff {journal : Journal κ ν} (once : (journal.map Prod.fst).Nodup) {key : κ} {value : ν} :
    journal.latest key = some value ↔ (key, value) ∈ journal := by
  constructor
  · exact mem_of_latest
  · intro member
    cases found : journal.latest key with
    | none =>
      have empty := List.getLast?_eq_none_iff.mp (Option.map_eq_none_iff.mp found)
      exact absurd (List.mem_filter.mpr ⟨member, decide_eq_true rfl⟩) (empty ▸ List.not_mem_nil)
    | some other =>
      have same := List.inj_on_of_nodup_map once (mem_of_latest found) member rfl
      rw [(Prod.mk.inj same).2]

theorem latest_perm {journal other : Journal κ ν} (perm : journal.Perm other) (once : (journal.map Prod.fst).Nodup)
    (key : κ) : journal.latest key = other.latest key := by
  apply Option.ext
  intro value
  rw [latest_eq_some_iff once, latest_eq_some_iff ((perm.map Prod.fst).nodup_iff.mp once)]
  exact perm.mem_iff

end Journal

namespace DashMap
variable {κ : Type u} {ν : Type v} [DecidableEq κ] {μ : Type v}

/-- The map holds, seen through `view`, what the journal says last. -/
def Records (map : DashMap κ μ) (view : μ → ν) (journal : Journal κ ν) : Prop :=
  ∀ key, (map.get key).map view = journal.latest key

theorem Records.empty (view : μ → ν) : Records (∅ : DashMap κ μ) view [] := fun _ => rfl

theorem Records.insert {map : DashMap κ μ} {view : μ → ν} {journal : Journal κ ν} (records : map.Records view journal)
    (key : κ) (value : μ) : (map.insert key value).Records view (journal ++ [(key, view value)]) := by
  intro other
  rw [get_insert, Journal.latest_append]
  split
  · rfl
  · exact records other

section Numbered
variable {map : DashMap Nat μ} {bound : Nat}

theorem keys_perm_range (below : ∀ key ∈ map.keys, key < bound) (many : map.keys.length = bound) :
    map.keys.Perm (List.range bound) := by
  have inside : map.keys ⊆ List.range bound := fun key member => List.mem_range.mpr (below key member)
  have subperm := List.subperm_of_subset map.keys_nodup inside
  exact subperm.perm_of_length_le (by rw [List.length_range, many])

/-- Distinct numbers below a bound are as many as the bound if and only if none is
missing. -/
theorem length_keys_eq_iff (below : ∀ key ∈ map.keys, key < bound) :
    map.keys.length = bound ↔ ∀ key < bound, (map.get key).isSome = true := by
  constructor
  · intro many key small
    have member := (keys_perm_range below many).mem_iff.mpr (List.mem_range.mpr small)
    exact Option.isSome_iff_exists.mpr ((mem_keys ..).mp member)
  · intro present
    have inside : map.keys ⊆ List.range bound := fun key member => List.mem_range.mpr (below key member)
    have covered : List.range bound ⊆ map.keys := fun key small =>
      (mem_keys ..).mpr (Option.isSome_iff_exists.mp (present key (List.mem_range.mp small)))
    have few := (List.subperm_of_subset map.keys_nodup inside).length_le
    have enough := (List.subperm_of_subset List.nodup_range covered).length_le
    rw [List.length_range] at few enough
    exact Nat.le_antisymm few enough

theorem insertionSort_keys (below : ∀ key ∈ map.keys, key < bound) (many : map.keys.length = bound) :
    map.keys.insertionSort (· ≤ ·) = List.range bound := by
  apply List.Perm.eq_of_pairwise _ (List.pairwise_insertionSort (· ≤ ·) map.keys) List.pairwise_le_range
  · exact (List.perm_insertionSort ..).trans (keys_perm_range below many)
  · intro first second _ _ before after
    exact Nat.le_antisymm before after

end Numbered
end DashMap
end Vynkor.Lib
