import Mathlib.Algebra.BigOperators.Group.List.Basic
import Mathlib.Algebra.Order.BigOperators.Group.List
import Mathlib.Algebra.Order.Ring.Nat
import Vynkor.Lib.DashMap

/-! The sum of the weights of a map's entries. -/

namespace Vynkor.Lib.DashMap

universe u v
variable {κ : Type u} {ν : Type v} [DecidableEq κ] (weigh : ν → Nat)

/-- The weight of the entry under a key, if there is one. -/
def weightAt (map : DashMap κ ν) (key : κ) : Nat := ((map.get key).map weigh).getD 0

def weight (map : DashMap κ ν) : Nat := (map.keys.map (map.weightAt weigh)).sum

variable {weigh}

theorem weightAt_le (map : DashMap κ ν) (key : κ) : map.weightAt weigh key ≤ map.weight weigh := by
  cases held : map.get key with
  | none =>
    rw [weightAt, held]
    exact Nat.zero_le _
  | some value =>
    apply List.le_sum_of_mem
    exact List.mem_map_of_mem ((mem_keys ..).mpr ⟨value, held⟩)

/-- The weight of one key and the sum over the others. -/
theorem weight_split (map : DashMap κ ν) (key : κ) :
    ((map.keys.erase key).map (map.weightAt weigh)).sum + map.weightAt weigh key = map.weight weigh := by
  by_cases there : key ∈ map.keys
  · have split := List.sum_map_erase (map.weightAt weigh) there
    rw [weight]
    omega
  · have absent : map.weightAt weigh key = 0 := by
      cases held : map.get key with
      | none => rw [weightAt, held]; rfl
      | some value => exact absurd ((mem_keys ..).mpr ⟨value, held⟩) there
    rw [List.erase_of_not_mem there, absent, weight]
    omega

theorem sum_others {map other : DashMap κ ν} {key : κ} (same : ∀ kept, kept ≠ key → other.get kept = map.get kept) :
    ((map.keys.erase key).map (other.weightAt weigh)).sum = ((map.keys.erase key).map (map.weightAt weigh)).sum := by
  congr 1
  apply List.map_congr_left
  intro kept member
  have apart : kept ≠ key := ((map.keys_nodup.mem_erase_iff).mp member).1
  rw [weightAt, weightAt, same kept apart]

/-- The new entry takes the place of the old one. -/
theorem weight_insert (map : DashMap κ ν) (key : κ) (value : ν) :
    (map.insert key value).weight weigh + map.weightAt weigh key = map.weight weigh + weigh value := by
  have others := @sum_others _ _ _ weigh map (map.insert key value) key fun kept apart => by rw [get_insert, if_neg apart]
  have own : (map.insert key value).weightAt weigh key = weigh value := by
    rw [weightAt, get_insert, if_pos rfl]
    rfl
  have keys : (map.insert key value).keys = key :: map.keys.erase key := AList.keys_insert _
  have split := @weight_split _ _ _ weigh map key
  rw [weight, keys, List.map_cons, List.sum_cons, others, own]
  omega

theorem weight_remove (map : DashMap κ ν) (key : κ) :
    (map.remove key).weight weigh + map.weightAt weigh key = map.weight weigh := by
  have others := @sum_others _ _ _ weigh map (map.remove key) key fun kept apart => by rw [get_remove, if_neg apart]
  have keys : (map.remove key).keys = map.keys.erase key := AList.keys_erase _ _
  rw [weight, keys, others]
  exact map.weight_split key

/-- A count is the weight that gives every counted entry one. -/
theorem count_eq_weight (map : DashMap κ ν) (test : ν → Bool) : map.count test = map.weight fun value => (test value).toNat := by
  unfold count weight weightAt
  generalize map.keys = keys
  induction keys with
  | nil => rfl
  | cons key keys ih =>
    rw [List.countP_cons, List.map_cons, List.sum_cons, ih, Nat.add_comm]
    congr 1
    cases map.get key with
    | none => rfl
    | some value => cases h : test value <;> simp [h]

section Counts
variable {map : DashMap κ ν} {key : κ} {old : ν}

theorem count_insert_new (free : map.get key = none) (value : ν) (test : ν → Bool) :
    (map.insert key value).count test = map.count test + (test value).toNat := by
  have step := @weight_insert _ _ _ (fun value => (test value).toNat) map key value
  rw [weightAt, free, Option.map_none, Option.getD_none] at step
  rw [count_eq_weight, count_eq_weight]
  exact step

theorem count_insert (held : map.get key = some old) (value : ν) (test : ν → Bool) :
    (map.insert key value).count test + (test old).toNat = map.count test + (test value).toNat := by
  have step := @weight_insert _ _ _ (fun value => (test value).toNat) map key value
  rw [weightAt, held, Option.map_some, Option.getD_some] at step
  rw [count_eq_weight, count_eq_weight]
  exact step

theorem count_remove (held : map.get key = some old) (test : ν → Bool) :
    (map.remove key).count test + (test old).toNat = map.count test := by
  have step := @weight_remove _ _ _ (fun value => (test value).toNat) map key
  rw [weightAt, held, Option.map_some, Option.getD_some] at step
  rw [count_eq_weight, count_eq_weight]
  exact step

end Counts
end Vynkor.Lib.DashMap
