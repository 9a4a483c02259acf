import Mathlib.Data.List.AList

/-! A concurrent hash map, one operation at a time. Lookups do not depend on any
order; an iteration visits every entry once, in an order the map does not promise. -/

namespace Vynkor.Lib

universe u v

/-- The order in which one iteration happens to visit the keys. -/
structure Shuffle (κ : Type u) where
  order : List κ → List κ
  perm : ∀ keys, (order keys).Perm keys

def Shuffle.unchanged (κ : Type u) : Shuffle κ := ⟨id, fun _ => .refl _⟩

structure DashMap (κ : Type u) (ν : Type v) where
  entries : AList fun _ : κ => ν

namespace DashMap
variable {κ : Type u} {ν : Type v}

def empty : DashMap κ ν := ⟨∅⟩

instance : EmptyCollection (DashMap κ ν) := ⟨empty⟩

instance : Inhabited (DashMap κ ν) := ⟨empty⟩

def keys (map : DashMap κ ν) : List κ := map.entries.keys

theorem keys_nodup (map : DashMap κ ν) : map.keys.Nodup := map.entries.keys_nodup

variable [DecidableEq κ]

def get (map : DashMap κ ν) (key : κ) : Option ν := map.entries.lookup key

def containsKey (map : DashMap κ ν) (key : κ) : Bool := (map.get key).isSome

def insert (map : DashMap κ ν) (key : κ) (value : ν) : DashMap κ ν := ⟨map.entries.insert key value⟩

def remove (map : DashMap κ ν) (key : κ) : DashMap κ ν := ⟨map.entries.erase key⟩

/-- `get_mut` followed by an update in place; nothing happens without an entry. -/
def modify (map : DashMap κ ν) (key : κ) (f : ν → ν) : DashMap κ ν :=
  match map.get key with
  | some value => map.insert key (f value)
  | none => map

def removeIf (map : DashMap κ ν) (key : κ) (test : ν → Bool) : DashMap κ ν × Option ν :=
  match map.get key with
  | some value => if test value then (map.remove key, some value) else (map, none)
  | none => (map, none)

def iter (shuffle : Shuffle κ) (map : DashMap κ ν) : List (κ × ν) :=
  (shuffle.order map.keys).filterMap fun key => (map.get key).map fun value => (key, value)

/-- Keep the entries whose value passes. -/
def retain (map : DashMap κ ν) (test : ν → Bool) : DashMap κ ν :=
  map.keys.foldl (fun left key => (left.removeIf key fun value => !test value).1) map

def any (map : DashMap κ ν) (test : ν → Bool) : Bool :=
  map.keys.any fun key => (map.get key).any test

def count (map : DashMap κ ν) (test : ν → Bool) : Nat :=
  map.keys.countP fun key => (map.get key).any test

/-- Remove keys collected earlier, one by one, keeping what was still there. -/
def takeAll (map : DashMap κ ν) : List κ → DashMap κ ν × List (κ × ν)
  | [] => (map, [])
  | key :: keys =>
    match map.get key with
    | some value => ((takeAll (map.remove key) keys).1, (key, value) :: (takeAll (map.remove key) keys).2)
    | none => takeAll map keys

/-- Collect the keys of the selected entries, then take them out. -/
def drain (shuffle : Shuffle κ) (map : DashMap κ ν) (test : ν → Bool) : DashMap κ ν × List (κ × ν) :=
  map.takeAll (((map.iter shuffle).filter fun entry => test entry.2).map Prod.fst)

@[simp] theorem get_empty (key : κ) : (∅ : DashMap κ ν).get key = none := rfl

@[simp] theorem get_insert (map : DashMap κ ν) (key other : κ) (value : ν) :
    (map.insert key value).get other = if other = key then some value else map.get other := by
  split
  next same => subst same; exact AList.lookup_insert _
  next different => exact AList.lookup_insert_ne different

@[simp] theorem get_remove (map : DashMap κ ν) (key other : κ) :
    (map.remove key).get other = if other = key then none else map.get other := by
  split
  next same => subst same; exact AList.lookup_erase _ _
  next different => exact AList.lookup_erase_ne different

section Entries
variable {map : DashMap κ ν} {key other : κ} {value found : ν}

theorem insert_cases (held : (map.insert key value).get other = some found) :
    (other = key ∧ found = value) ∨ (other ≠ key ∧ map.get other = some found) := by
  rw [get_insert] at held
  split at held
  next same => exact .inl ⟨same, (Option.some.inj held).symm⟩
  next apart => exact .inr ⟨apart, held⟩

/-- An insertion under a free key replaces nothing. -/
theorem insert_fresh (free : map.get key = none) (held : map.get other = some found) :
    (map.insert key value).get other = some found := by
  rw [get_insert, if_neg]
  · exact held
  · rintro rfl
    exact nomatch free.symm.trans held

theorem remove_some : (map.remove key).get other = some found ↔ other ≠ key ∧ map.get other = some found := by
  rw [get_remove]
  split
  next same => exact ⟨nofun, fun ⟨apart, _⟩ => absurd same apart⟩
  next apart => exact ⟨fun held => ⟨apart, held⟩, And.right⟩

end Entries

theorem remove_insert (map : DashMap κ ν) (key : κ) (value : ν) : (map.insert key value).remove key = map.remove key := by
  refine congrArg DashMap.mk (AList.ext ?_)
  exact List.kerase_cons_eq rfl

theorem remove_absent (map : DashMap κ ν) {key : κ} (absent : map.get key = none) : map.remove key = map := by
  refine congrArg DashMap.mk (AList.ext ?_)
  exact List.kerase_of_notMem_keys (AList.lookup_eq_none.mp absent)

@[simp] theorem get_modify (map : DashMap κ ν) (key other : κ) (f : ν → ν) :
    (map.modify key f).get other = if other = key then (map.get key).map f else map.get other := by
  unfold modify
  split
  next value found => simp [found]
  next missing =>
    split
    next same => simp [same, missing]
    next => rfl

theorem modify_some {map : DashMap κ ν} {key : κ} {f : ν → ν} {found : ν} (held : (map.modify key f).get key = some found) :
    ∃ value, map.get key = some value ∧ f value = found := by
  rw [get_modify, if_pos rfl] at held
  exact Option.map_eq_some_iff.mp held

theorem modify_present {map : DashMap κ ν} {key other : κ} {value : ν} (f : ν → ν) (held : map.get other = some value) :
    ∃ found, (map.modify key f).get other = some found := by
  rw [get_modify]
  split
  next same => exact ⟨f value, by rw [← same, held]; rfl⟩
  next => exact ⟨value, held⟩

@[simp] theorem containsKey_iff (map : DashMap κ ν) (key : κ) :
    map.containsKey key = true ↔ ∃ value, map.get key = some value := by
  simp [containsKey, Option.isSome_iff_exists]

theorem containsKey_false (map : DashMap κ ν) (key : κ) :
    map.containsKey key = false ↔ map.get key = none := by
  simp [containsKey]

theorem mem_keys (map : DashMap κ ν) (key : κ) : key ∈ map.keys ↔ ∃ value, map.get key = some value := by
  rw [← Option.isSome_iff_exists]
  exact AList.lookup_isSome.symm

/-- A map with fewer keys is not larger. -/
theorem length_keys_le {map : DashMap κ ν} {keys : List κ} (inside : ∀ key value, map.get key = some value → key ∈ keys) :
    map.keys.length ≤ keys.length := by
  refine (List.subperm_of_subset map.keys_nodup fun key member => ?_).length_le
  obtain ⟨value, held⟩ := (mem_keys ..).mp member
  exact inside key value held

/-- The map has an entry under the key, with this property. -/
def Has (map : DashMap κ ν) (key : κ) (property : ν → Prop) : Prop := ∃ value, map.get key = some value ∧ property value

theorem Has.imp {map : DashMap κ ν} {key : κ} {property other : ν → Prop} (has : map.Has key property)
    (weaker : ∀ value, property value → other value) : map.Has key other := by
  obtain ⟨value, held, holds⟩ := has
  exact ⟨value, held, weaker value holds⟩

theorem Has.modify {map : DashMap κ ν} {key other : κ} {property : ν → Prop} {f : ν → ν} (has : map.Has key property)
    (kept : key = other → ∀ value, property value → property (f value)) : (map.modify other f).Has key property := by
  obtain ⟨value, held, holds⟩ := has
  by_cases here : key = other
  · refine ⟨f value, ?_, kept here value holds⟩
    rw [get_modify, if_pos here, ← here, held]
    rfl
  · exact ⟨value, by rw [get_modify, if_neg here, held], holds⟩

/-- An entry under another key, or a better one under the same. -/
theorem Has.insert {map : DashMap κ ν} {key other : κ} {property : ν → Prop} {new : ν} (has : map.Has key property)
    (kept : key = other → property new) : (map.insert other new).Has key property := by
  obtain ⟨value, held, holds⟩ := has
  by_cases here : key = other
  · exact ⟨new, by rw [get_insert, if_pos here], kept here⟩
  · exact ⟨value, by rw [get_insert, if_neg here, held], holds⟩

theorem Has.insert_fresh {map : DashMap κ ν} {key other : κ} {property : ν → Prop} {new : ν} (has : map.Has key property)
    (free : map.get other = none) : (map.insert other new).Has key property := by
  refine has.insert fun here => ?_
  obtain ⟨value, held, -⟩ := has
  rw [here, free] at held
  cases held

/-- Every entry of the map has this property. -/
def Every (map : DashMap κ ν) (property : ν → Prop) : Prop := ∀ key value, map.get key = some value → property value

theorem Every.empty (property : ν → Prop) : (∅ : DashMap κ ν).Every property := by
  intro key value held
  cases (get_empty key).symm.trans held

theorem Every.insert {map : DashMap κ ν} {property : ν → Prop} (every : map.Every property) (key : κ) {value : ν}
    (new : property value) : (map.insert key value).Every property := by
  intro other found held
  obtain ⟨-, rfl⟩ | ⟨-, earlier⟩ := insert_cases held
  · exact new
  · exact every other found earlier

theorem Every.remove {map : DashMap κ ν} {property : ν → Prop} (every : map.Every property) (key : κ) :
    (map.remove key).Every property := by
  intro other found held
  exact every other found (remove_some.mp held).2

theorem any_iff (map : DashMap κ ν) (test : ν → Bool) :
    map.any test = true ↔ ∃ key value, map.get key = some value ∧ test value = true := by
  simp only [any, List.any_eq_true, Option.any_eq_true_iff_get, mem_keys]
  constructor
  · rintro ⟨key, -, present, holds⟩
    exact ⟨key, _, (Option.some_get present).symm, holds⟩
  · rintro ⟨key, value, found, holds⟩
    exact ⟨key, ⟨value, found⟩, by simp [found], by simpa [found] using holds⟩

theorem mem_counted (map : DashMap κ ν) (test : ν → Bool) (key : κ) :
    key ∈ map.keys.filter (fun key => (map.get key).any test) ↔ ∃ value, map.get key = some value ∧ test value = true := by
  rw [List.mem_filter, mem_keys]
  constructor
  · rintro ⟨⟨value, stored⟩, holds⟩
    rw [stored] at holds
    exact ⟨value, stored, holds⟩
  · rintro ⟨value, stored, holds⟩
    exact ⟨⟨value, stored⟩, by rw [stored]; exact holds⟩

/-- A map counts no more than another one, apart from some keys, if whatever it counts
is counted there. -/
theorem count_le_add {small big : DashMap κ ν} {test : ν → Bool} (extra : List κ)
    (kept : ∀ key value, small.get key = some value → test value = true →
      key ∈ extra ∨ ∃ other, big.get key = some other ∧ test other = true) :
    small.count test ≤ big.count test + extra.length := by
  rw [count, count, List.countP_eq_length_filter, List.countP_eq_length_filter, ← List.length_append]
  apply List.Subperm.length_le
  apply List.subperm_of_subset (small.keys_nodup.filter _)
  intro key counted
  obtain ⟨value, stored, holds⟩ := (mem_counted ..).mp counted
  apply List.mem_append.mpr
  exact (kept key value stored holds).symm.imp_left (mem_counted ..).mpr

theorem removeIf_cases (map : DashMap κ ν) (key : κ) (test : ν → Bool) :
    (∃ value, map.get key = some value ∧ test value = true ∧
      map.removeIf key test = (map.remove key, some value)) ∨
    ((∀ value, map.get key = some value → test value = false) ∧ map.removeIf key test = (map, none)) := by
  unfold removeIf
  split
  next value found =>
    split
    next holds => exact .inl ⟨value, found, holds, rfl⟩
    next fails =>
      refine .inr ⟨fun other same => ?_, rfl⟩
      cases found.symm.trans same
      simpa using fails
  next missing => exact .inr ⟨by simp [missing], rfl⟩

private theorem get_retained (keys : List κ) (test : ν → Bool) (map : DashMap κ ν) (key : κ) :
    (keys.foldl (fun left key => (left.removeIf key fun value => !test value).1) map).get key =
      if key ∈ keys then (map.get key).filter test else map.get key := by
  induction keys generalizing map with
  | nil => rfl
  | cons first rest ih =>
    rw [List.foldl_cons, ih]
    rcases map.removeIf_cases first (fun value => !test value) with ⟨value, found, fails, removed⟩ | ⟨passes, kept⟩
    · rw [removed, get_remove]
      by_cases here : key = first
      · subst here
        have fails : test value = false := by simpa using fails
        simp [found, Option.filter, fails]
      · simp [here]
    · rw [kept]
      by_cases here : key = first
      · subst here
        cases found : map.get key with
        | none => simp
        | some value =>
          have holds : test value = true := by simpa using passes value found
          simp [Option.filter, holds]
      · simp [here]

@[simp] theorem get_retain (map : DashMap κ ν) (test : ν → Bool) (key : κ) :
    (map.retain test).get key = (map.get key).filter test := by
  rw [retain, get_retained]
  split
  · rfl
  next absent =>
    have missing : map.get key = none := by
      cases found : map.get key with
      | none => rfl
      | some value => exact absurd ((mem_keys ..).mpr ⟨value, found⟩) absent
    rw [missing, Option.filter_none]

theorem mem_iter (shuffle : Shuffle κ) (map : DashMap κ ν) (key : κ) (value : ν) :
    (key, value) ∈ map.iter shuffle ↔ map.get key = some value := by
  unfold iter
  rw [List.mem_filterMap]
  constructor
  · rintro ⟨other, -, pair⟩
    obtain ⟨found, stored, same⟩ := Option.map_eq_some_iff.mp pair
    cases same
    exact stored
  · intro stored
    exact ⟨key, (shuffle.perm map.keys).mem_iff.mpr ((mem_keys _ _).mpr ⟨value, stored⟩), by simp [stored]⟩

theorem map_fst_filterMap (map : DashMap κ ν) (keys : List κ) :
    ((keys.filterMap fun key => (map.get key).map fun value => (key, value)).map Prod.fst) =
      keys.filter fun key => (map.get key).isSome := by
  induction keys with
  | nil => rfl
  | cons key keys ih =>
    cases found : map.get key with
    | none => simp [found, ih]
    | some value => simp [found, ih]

theorem iter_nodup (shuffle : Shuffle κ) (map : DashMap κ ν) :
    ((map.iter shuffle).map Prod.fst).Nodup := by
  unfold iter
  rw [map_fst_filterMap]
  exact ((shuffle.perm map.keys).nodup_iff.mpr map.keys_nodup).filter _

@[simp] theorem get_takeAll (map : DashMap κ ν) (keys : List κ) (key : κ) :
    (map.takeAll keys).1.get key = if key ∈ keys then none else map.get key := by
  induction keys generalizing map with
  | nil => rfl
  | cons first rest ih =>
    unfold takeAll
    split
    next value found =>
      rw [ih, get_remove]
      by_cases same : key = first <;> simp [same]
    next missing =>
      rw [ih]
      by_cases same : key = first <;> simp [same, missing]

/-- Distinct keys are taken out with the values they had at the start. -/
theorem takeAll_snd (map : DashMap κ ν) (keys : List κ) (distinct : keys.Nodup) :
    (map.takeAll keys).2 = keys.filterMap fun key => (map.get key).map fun value => (key, value) := by
  induction keys generalizing map with
  | nil => rfl
  | cons first rest ih =>
    obtain ⟨absent, distinct⟩ := List.nodup_cons.mp distinct
    unfold takeAll
    split
    next value found =>
      have unchanged : ∀ key ∈ rest, (map.remove first).get key = map.get key := by
        intro key member
        rw [get_remove, if_neg]
        rintro rfl
        exact absent member
      rw [ih _ distinct]
      simp only [List.filterMap_cons, found, Option.map_some]
      congr 1
      exact List.filterMap_congr fun key member => by rw [unchanged key member]
    next missing => rw [ih _ distinct]; simp [missing]

theorem mem_drained (shuffle : Shuffle κ) (map : DashMap κ ν) (test : ν → Bool) (key : κ) (value : ν) :
    (key, value) ∈ (map.drain shuffle test).2 ↔ map.get key = some value ∧ test value = true := by
  have distinct : (((map.iter shuffle).filter fun entry => test entry.2).map Prod.fst).Nodup :=
    (map.iter_nodup shuffle).sublist (List.filter_sublist.map _)
  simp only [drain, takeAll_snd _ _ distinct, List.mem_filterMap, List.mem_map, List.mem_filter,
    Option.map_eq_some_iff, Prod.mk.injEq, Prod.exists, mem_iter]
  constructor
  · rintro ⟨other, ⟨first, second, ⟨stored, holds⟩, rfl⟩, found, present, rfl, rfl⟩
    cases stored.symm.trans present
    exact ⟨present, holds⟩
  · rintro ⟨stored, holds⟩
    exact ⟨key, ⟨key, value, ⟨stored, holds⟩, rfl⟩, value, stored, rfl, rfl⟩

theorem drained_nodup (shuffle : Shuffle κ) (map : DashMap κ ν) (test : ν → Bool) :
    ((map.drain shuffle test).2.map Prod.fst).Nodup := by
  have distinct : (((map.iter shuffle).filter fun entry => test entry.2).map Prod.fst).Nodup :=
    (map.iter_nodup shuffle).sublist (List.filter_sublist.map _)
  rw [drain, takeAll_snd _ _ distinct, map_fst_filterMap]
  exact distinct.filter _

theorem get_drain (shuffle : Shuffle κ) (map : DashMap κ ν) (test : ν → Bool) (key : κ) :
    (map.drain shuffle test).1.get key = (map.get key).filter fun value => !test value := by
  simp only [drain, get_takeAll, List.mem_map, List.mem_filter, Prod.exists, mem_iter, exists_and_right,
    exists_eq_right]
  cases found : map.get key with
  | none => simp
  | some value => cases holds : test value <;> simp [Option.filter, holds]

/-- The same, by what was taken out. -/
theorem get_drain_mem (shuffle : Shuffle κ) (map : DashMap κ ν) (test : ν → Bool) (key : κ) :
    (map.drain shuffle test).1.get key =
      if key ∈ (map.drain shuffle test).2.map Prod.fst then none else map.get key := by
  have taken : key ∈ (map.drain shuffle test).2.map Prod.fst ↔ ∃ value, map.get key = some value ∧ test value = true := by
    simp only [List.mem_map, Prod.exists, exists_and_right, exists_eq_right, mem_drained]
  rw [get_drain]
  cases found : map.get key with
  | none => simp
  | some value =>
    cases holds : test value with
    | true => rw [if_pos (taken.mpr ⟨value, found, holds⟩)]; simp [Option.filter, holds]
    | false =>
      rw [if_neg]
      · simp [Option.filter, holds]
      · intro member
        obtain ⟨other, same, passes⟩ := taken.mp member
        cases found.symm.trans same
        rw [holds] at passes
        cases passes

end DashMap
end Vynkor.Lib
