import Mathlib.Data.List.Nodup

/-! A table kept as a list of rows that are found by a key, and the file it is kept in:
one call reads the file, computes and writes the file anew as a whole. -/

namespace Vynkor.Lib

universe u v w

namespace Table
variable {ρ : Type u} {κ : Type v} (key : ρ → κ)

/-- No two rows have the same key. -/
def Unique (rows : List ρ) : Prop := (rows.map key).Nodup

theorem Unique.empty : Unique key [] := List.nodup_nil

theorem Unique.filter {key : ρ → κ} {rows : List ρ} (unique : Unique key rows) (test : ρ → Bool) :
    Unique key (rows.filter test) :=
  (List.filter_sublist.map key).nodup unique

variable [DecidableEq κ]

instance (rows : List ρ) : Decidable (Unique key rows) := inferInstanceAs (Decidable (rows.map key).Nodup)

/-- The first row of a key. -/
def find (rows : List ρ) (wanted : κ) : Option ρ := rows.find? fun row => key row = wanted

/-- Change the first row of a key. -/
def update (wanted : κ) (f : ρ → ρ) : List ρ → List ρ
  | [] => []
  | row :: rows => if key row = wanted then f row :: rows else row :: update wanted f rows

/-- Change every row of a key. -/
def updateAll (wanted : κ) (f : ρ → ρ) (rows : List ρ) : List ρ :=
  rows.map fun row => if key row = wanted then f row else row

variable {key} {rows : List ρ} {row : ρ} {wanted other : κ} {f : ρ → ρ}

theorem find_some (found : find key rows wanted = some row) : row ∈ rows ∧ key row = wanted :=
  ⟨List.mem_of_find?_eq_some found, by simpa using List.find?_some found⟩

theorem find_none : find key rows wanted = none ↔ ∀ row ∈ rows, key row ≠ wanted := by
  unfold find
  rw [List.find?_eq_none]
  simp only [decide_eq_true_eq, ne_eq]

theorem find_cons (row : ρ) (rows : List ρ) (wanted : κ) :
    find key (row :: rows) wanted = if key row = wanted then some row else find key rows wanted := by
  unfold find
  rw [List.find?_cons]
  by_cases same : key row = wanted <;> simp [same]

theorem find_append (rows : List ρ) (row : ρ) (wanted : κ) :
    find key (rows ++ [row]) wanted = (find key rows wanted).or (if key row = wanted then some row else none) := by
  unfold find
  rw [List.find?_append]
  by_cases same : key row = wanted <;> simp [same]

theorem find_update (keeps : ∀ row, key (f row) = key row) (rows : List ρ) (wanted other : κ) :
    find key (update key wanted f rows) other =
      if other = wanted then (find key rows wanted).map f else find key rows other := by
  induction rows with
  | nil => split <;> rfl
  | cons row rows ih =>
    unfold update
    by_cases mine : key row = wanted
    · rw [if_pos mine, find_cons, find_cons, find_cons, keeps, mine, if_pos rfl]
      by_cases same : other = wanted
      · rw [if_pos same, if_pos same.symm]
        rfl
      · rw [if_neg same, if_neg (Ne.symm same), if_neg (Ne.symm same)]
    · rw [if_neg mine, find_cons, find_cons, find_cons, ih, if_neg mine]
      by_cases same : other = wanted
      · rw [if_pos same, if_neg (same ▸ mine)]
        simp [same]
      · simp [same]

theorem find_updateAll (keeps : ∀ row, key (f row) = key row) (rows : List ρ) (wanted other : κ) :
    find key (updateAll key wanted f rows) other =
      if other = wanted then (find key rows wanted).map f else find key rows other := by
  have kept (row : ρ) : key (if key row = wanted then f row else row) = key row := by
    split
    · exact keeps row
    · rfl
  unfold updateAll find
  rw [List.find?_map]
  simp only [Function.comp_def, kept]
  by_cases same : other = wanted
  · subst same
    rw [if_pos rfl]
    cases found : rows.find? fun row => decide (key row = other) with
    | none => rfl
    | some row => simp [(find_some found).2]
  · rw [if_neg same]
    cases found : rows.find? fun row => decide (key row = other) with
    | none => rfl
    | some row =>
      have apart : key row ≠ wanted := (find_some found).2 ▸ same
      simp [apart]

/-- Rows without a key are those with another key. -/
theorem find_without (rows : List ρ) (wanted other : κ) :
    find key (rows.filter fun row => key row ≠ wanted) other = if other = wanted then none else find key rows other := by
  unfold find
  rw [List.find?_filter]
  split
  next same =>
    rw [List.find?_eq_none]
    simp [same]
  next apart =>
    congr 1
    funext row
    by_cases mine : key row = other
    · simp [mine, apart]
    · simp [mine]

theorem mem_update_other (apart : key row ≠ wanted) (keeps : ∀ row, key (f row) = key row) :
    row ∈ update key wanted f rows ↔ row ∈ rows := by
  induction rows with
  | nil => rfl
  | cons first rows ih =>
    unfold update
    split
    next mine =>
      have left : row ≠ f first := fun same => apart (same ▸ (keeps first).trans mine)
      have right : row ≠ first := fun same => apart (same ▸ mine)
      simp [left, right]
    next => rw [List.mem_cons, List.mem_cons, ih]

namespace Unique

theorem find_eq (unique : Unique key rows) (member : row ∈ rows) : find key rows (key row) = some row := by
  cases found : find key rows (key row) with
  | none => exact absurd rfl (find_none.mp found row member)
  | some first =>
    obtain ⟨there, same⟩ := find_some found
    exact congrArg some (List.inj_on_of_nodup_map unique there member same)

/-- The key of the first row is not found again. -/
theorem find_tail (unique : Unique key (row :: rows)) : find key rows (key row) = none := by
  refine find_none.mpr ?_
  intro other member same
  exact (List.nodup_cons.mp unique).1 (same ▸ List.mem_map_of_mem member)

/-- Rows that pass a test are found as before, the others are not. -/
theorem find_filter (unique : Unique key rows) (test : ρ → Bool) (wanted : κ) :
    find key (rows.filter test) wanted = (find key rows wanted).filter test := by
  cases found : find key rows wanted with
  | none =>
    have absent := find_none.mp found
    exact find_none.mpr fun row member => absent row (List.mem_filter.mp member).1
  | some row =>
    obtain ⟨member, rfl⟩ := find_some found
    by_cases passes : test row = true
    · rw [(unique.filter test).find_eq (List.mem_filter.mpr ⟨member, passes⟩), Option.filter_some_pos passes]
    · rw [Option.filter_some_neg (Bool.eq_false_iff.mpr passes), find_none]
      intro other there same
      obtain ⟨inside, passed⟩ := List.mem_filter.mp there
      cases List.inj_on_of_nodup_map unique inside member same
      exact passes passed

theorem append (unique : Unique key rows) (fresh : find key rows (key row) = none) : Unique key (rows ++ [row]) := by
  unfold Unique
  rw [List.map_append]
  refine List.nodup_append.mpr ⟨unique, List.nodup_singleton _, ?_⟩
  intro held member new single
  obtain ⟨other, inside, rfl⟩ := List.mem_map.mp member
  rw [List.map_cons, List.map_nil, List.mem_singleton] at single
  rw [single]
  exact find_none.mp fresh other inside

theorem updateAll (unique : Unique key rows) (keeps : ∀ row, key (f row) = key row) (wanted : κ) :
    Unique key (updateAll key wanted f rows) := by
  have same : (Table.updateAll key wanted f rows).map key = rows.map key := by
    unfold Table.updateAll
    rw [List.map_map]
    apply List.map_congr_left
    intro row _
    change key (if key row = wanted then f row else row) = key row
    split
    · exact keeps row
    · rfl
  unfold Unique
  rw [same]
  exact unique

theorem update (unique : Unique key rows) (keeps : ∀ row, key (f row) = key row) (wanted : κ) :
    Unique key (update key wanted f rows) := by
  have same : (Table.update key wanted f rows).map key = rows.map key := by
    clear unique
    induction rows with
    | nil => rfl
    | cons row rows ih =>
      unfold Table.update
      split
      · rw [List.map_cons, List.map_cons, keeps]
      · rw [List.map_cons, List.map_cons, ih]
  unfold Unique
  rw [same]
  exact unique

end Unique
end Table

/-- What the disk makes of one call: the error of the read, if it fails, and that of the
write. -/
structure Disk (ε : Type u) where
  read : Option ε := none
  write : Option ε := none
  deriving DecidableEq, Repr

/-- A call reads the rows and computes a result and, if there is something to write, the new
rows, which then replace the file by a rename. -/
def Disk.transact {ε : Type u} {ρ : Type v} {α : Type w} (disk : Disk ε) (rows : List ρ)
    (body : List ρ → Except ε (Option (List ρ) × α)) : List ρ × Except ε α :=
  match disk.read with
  | some error => (rows, .error error)
  | none =>
    match body rows with
    | .error error => (rows, .error error)
    | .ok (none, result) => (rows, .ok result)
    | .ok (some written, result) =>
      match disk.write with
      | some error => (rows, .error error)
      | none => (written, .ok result)

namespace Disk
variable {ε : Type u} {ρ : Type v} {α : Type w} {disk : Disk ε} {rows : List ρ}
  {body : List ρ → Except ε (Option (List ρ) × α)}

/-- Either the call fails and the file is as it was, or it does what was computed. -/
theorem transact_cases (disk : Disk ε) (rows : List ρ) (body : List ρ → Except ε (Option (List ρ) × α)) :
    (∃ error, disk.transact rows body = (rows, .error error)) ∨
      ∃ written result, body rows = .ok (written, result) ∧ disk.transact rows body = (written.getD rows, .ok result) := by
  unfold transact
  cases disk.read with
  | some error => exact .inl ⟨error, rfl⟩
  | none =>
    cases computed : body rows with
    | error error => exact .inl ⟨error, rfl⟩
    | ok outcome =>
      obtain ⟨written, result⟩ := outcome
      cases written with
      | none => exact .inr ⟨none, result, rfl, rfl⟩
      | some new =>
        cases disk.write with
        | some error => exact .inl ⟨error, rfl⟩
        | none => exact .inr ⟨some new, result, rfl, rfl⟩

theorem transact_ok {result : α} (ok : (disk.transact rows body).2 = .ok result) :
    ∃ written, body rows = .ok (written, result) ∧ (disk.transact rows body).1 = written.getD rows := by
  obtain ⟨error, failed⟩ | ⟨written, other, computed, done⟩ := transact_cases disk rows body
  · rw [failed] at ok
    cases ok
  · rw [done] at ok
    cases ok
    exact ⟨written, computed, by rw [done]⟩

/-- A call that succeeds does what it does on a file that can always be read and written. -/
theorem transact_faultless {result : α} (ok : (disk.transact rows body).2 = .ok result) :
    (({} : Disk ε).transact rows body).2 = .ok result := by
  obtain ⟨written, computed, -⟩ := transact_ok ok
  unfold transact
  rw [computed]
  cases written with
  | none => rfl
  | some new => rfl

end Disk
end Vynkor.Lib
