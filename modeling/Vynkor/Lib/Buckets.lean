import Vynkor.Lib.DashMap

/-! A map whose values are sets, held as lists without repetitions. One value is put into, or
taken out of, the sets under several keys, one key after another. -/

namespace Vynkor.Lib.DashMap

universe u v
variable {κ : Type u} {ν : Type v} [DecidableEq κ]

def bucket (map : DashMap κ (List ν)) (key : κ) : List ν := (map.get key).getD []

theorem bucket_insert (map : DashMap κ (List ν)) (key other : κ) (values : List ν) :
    (map.insert key values).bucket other = if other = key then values else map.bucket other := by
  unfold bucket
  rw [get_insert]
  split <;> rfl

theorem bucket_modify (map : DashMap κ (List ν)) (key other : κ) {f : List ν → List ν} (empty : f [] = []) :
    (map.modify key f).bucket other = if other = key then f (map.bucket key) else map.bucket other := by
  unfold bucket
  rw [get_modify]
  split
  · cases map.get key with
    | none => exact empty.symm
    | some values => rfl
  · rfl

variable [DecidableEq ν]

def fill (keys : List κ) (value : ν) (map : DashMap κ (List ν)) : DashMap κ (List ν) :=
  keys.foldl (fun map key => map.insert key (((map.get key).getD []).insert value)) map

def pick (keys : List κ) (value : ν) (map : DashMap κ (List ν)) : DashMap κ (List ν) :=
  keys.foldl (fun map key => map.modify key fun values => values.erase value) map

theorem bucket_fill (keys : List κ) (value : ν) (map : DashMap κ (List ν)) (key : κ) :
    (map.fill keys value).bucket key = if key ∈ keys then (map.bucket key).insert value else map.bucket key := by
  induction keys generalizing map with
  | nil => rfl
  | cons first rest ih =>
    change (fill rest value (map.insert first ((map.bucket first).insert value))).bucket key = _
    rw [ih, bucket_insert]
    by_cases here : key = first
    · subst here
      have twice : ((map.bucket key).insert value).insert value = (map.bucket key).insert value :=
        List.insert_of_mem List.mem_insert_self
      rw [if_pos rfl, twice, ite_self, if_pos List.mem_cons_self]
    · rw [if_neg here]
      simp only [List.mem_cons, here, false_or]

theorem mem_bucket_fill (keys : List κ) (value other : ν) (map : DashMap κ (List ν)) (key : κ) :
    other ∈ (map.fill keys value).bucket key ↔ other ∈ map.bucket key ∨ (other = value ∧ key ∈ keys) := by
  rw [bucket_fill]
  split
  next listed => rw [List.mem_insert_iff, or_comm, and_iff_left listed]
  next unlisted => simp only [unlisted, and_false, or_false]

theorem fill_nodup (keys : List κ) (value : ν) (map : DashMap κ (List ν)) {key : κ} (distinct : (map.bucket key).Nodup) :
    ((map.fill keys value).bucket key).Nodup := by
  rw [bucket_fill]
  split
  · exact distinct.insert
  · exact distinct

theorem mem_foldl_insert (added values : List ν) (value : ν) :
    value ∈ added.foldl (fun values value => values.insert value) values ↔ value ∈ values ∨ value ∈ added := by
  induction added generalizing values with
  | nil => simp
  | cons first rest ih =>
    rw [List.foldl_cons, ih, List.mem_insert_iff, List.mem_cons]
    tauto

theorem mem_foldl_erase {dropped values : List ν} {value : ν} (held : value ∈ values) (kept : value ∉ dropped) :
    value ∈ dropped.foldl (fun values value => values.erase value) values := by
  induction dropped generalizing values with
  | nil => exact held
  | cons first rest ih =>
    obtain ⟨apart, kept⟩ := not_or.mp (List.mem_cons.not.mp kept)
    exact ih ((List.mem_erase_of_ne apart).mpr held) kept

theorem foldl_erase_sublist (dropped values : List ν) :
    (dropped.foldl (fun values value => values.erase value) values).Sublist values := by
  induction dropped generalizing values with
  | nil => exact List.Sublist.refl _
  | cons first rest ih => exact (ih _).trans List.erase_sublist

/-- What is erased from a list without repetitions is gone. -/
theorem not_mem_foldl_erase {dropped values : List ν} (distinct : values.Nodup) {value : ν} (listed : value ∈ dropped) :
    value ∉ dropped.foldl (fun values value => values.erase value) values := by
  induction dropped generalizing values with
  | nil => exact absurd listed List.not_mem_nil
  | cons first rest ih =>
    rcases List.mem_cons.mp listed with rfl | later
    · intro left
      exact distinct.not_mem_erase ((foldl_erase_sublist rest _).subset left)
    · exact ih (distinct.erase first) later

theorem foldl_insert_nodup (added : List ν) {values : List ν} (distinct : values.Nodup) :
    (added.foldl (fun values value => values.insert value) values).Nodup := by
  induction added generalizing values with
  | nil => exact distinct
  | cons first rest ih => exact ih distinct.insert

theorem pick_sublist (keys : List κ) (value : ν) (map : DashMap κ (List ν)) (key : κ) :
    ((map.pick keys value).bucket key).Sublist (map.bucket key) := by
  induction keys generalizing map with
  | nil => exact List.Sublist.refl _
  | cons first rest ih =>
    refine (ih (map.modify first fun values => values.erase value)).trans ?_
    rw [bucket_modify _ _ _ (List.erase_nil value)]
    split
    next here => exact here ▸ List.erase_sublist
    next => exact List.Sublist.refl _

/-- A set without repetitions loses the value under every key that is listed. -/
theorem mem_bucket_pick (keys : List κ) (value other : ν) (map : DashMap κ (List ν)) {key : κ}
    (distinct : (map.bucket key).Nodup) :
    other ∈ (map.pick keys value).bucket key ↔ other ∈ map.bucket key ∧ ¬(other = value ∧ key ∈ keys) := by
  induction keys generalizing map with
  | nil => simp [pick]
  | cons first rest ih =>
    change other ∈ (pick rest value (map.modify first fun values => values.erase value)).bucket key ↔ _
    have picked := bucket_modify map first key (f := fun values => values.erase value) (List.erase_nil value)
    by_cases here : key = first
    · subst here
      rw [if_pos rfl] at picked
      rw [ih, picked, distinct.mem_erase_iff]
      · simp only [List.mem_cons, true_or, and_true]
        tauto
      · exact picked ▸ distinct.erase _
    · rw [if_neg here] at picked
      rw [ih, picked]
      · simp only [List.mem_cons, here, false_or]
      · exact picked ▸ distinct

end Vynkor.Lib.DashMap
