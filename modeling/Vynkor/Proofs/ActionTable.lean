import Vynkor.Registry

/-! The action index as a set of declarers per action. Indexing adds a declarer
and unindexing takes one away, wherever the table happens to keep it. -/

namespace Vynkor.ActionTable
open Lib

def declarers (table : ActionTable) (action : String) : List String :=
  match table.ambiguousActions.get action with
  | some ids => ids
  | none => (table.actionIndex.get action).toList

/-- A collision list holds at least two distinct ids, and its action is in no
other place. -/
structure Valid (table : ActionTable) : Prop where
  several : ∀ {action ids}, table.ambiguousActions.get action = some ids → 2 ≤ ids.length
  distinct : ∀ {action ids}, table.ambiguousActions.get action = some ids → ids.Nodup
  exclusive : ∀ {action ids}, table.ambiguousActions.get action = some ids → table.actionIndex.get action = none

variable {table : ActionTable}

theorem Valid.initial : Valid {} := by
  constructor <;> intro action ids stored <;> cases stored

theorem Valid.declarers_nodup (valid : table.Valid) (action : String) : (table.declarers action).Nodup := by
  unfold declarers
  cases stored : table.ambiguousActions.get action with
  | some ids => exact valid.distinct stored
  | none => cases table.actionIndex.get action <;> simp

private theorem declarers_congr {other : ActionTable} {action : String}
    (ambiguous : other.ambiguousActions.get action = table.ambiguousActions.get action)
    (index : other.actionIndex.get action = table.actionIndex.get action) :
    other.declarers action = table.declarers action := by
  unfold declarers
  rw [ambiguous, index]

private theorem Valid.update {other : ActionTable} (valid : table.Valid) (action : String)
    (frame : ∀ name, name ≠ action → other.ambiguousActions.get name = table.ambiguousActions.get name ∧
      other.actionIndex.get name = table.actionIndex.get name)
    (here : ∀ ids, other.ambiguousActions.get action = some ids →
      2 ≤ ids.length ∧ ids.Nodup ∧ other.actionIndex.get action = none) : other.Valid := by
  have each : ∀ name ids, other.ambiguousActions.get name = some ids →
      2 ≤ ids.length ∧ ids.Nodup ∧ other.actionIndex.get name = none := by
    intro name ids stored
    by_cases same : name = action
    · subst same
      exact here ids stored
    · obtain ⟨ambiguous, index⟩ := frame name same
      rw [ambiguous] at stored
      exact ⟨valid.several stored, valid.distinct stored, index.trans (valid.exclusive stored)⟩
  exact ⟨fun stored => (each _ _ stored).1, fun stored => (each _ _ stored).2.1, fun stored => (each _ _ stored).2.2⟩

private theorem indexAction_frame (table : ActionTable) (action pluginId name : String) (other : name ≠ action) :
    (table.indexAction action pluginId).ambiguousActions.get name = table.ambiguousActions.get name ∧
      (table.indexAction action pluginId).actionIndex.get name = table.actionIndex.get name := by
  unfold indexAction
  split
  · split <;> simp [other]
  · split
    · split <;> simp [other]
    · simp [other]

theorem Valid.indexAction (valid : table.Valid) (action pluginId : String) :
    (table.indexAction action pluginId).Valid := by
  refine valid.update action (table.indexAction_frame action pluginId) fun ids stored => ?_
  unfold ActionTable.indexAction at stored ⊢
  split at stored
  next held found =>
    split at stored
    next member =>
      rw [if_pos member]
      exact ⟨valid.several stored, valid.distinct stored, valid.exclusive stored⟩
    next absent =>
      rw [if_neg absent]
      simp only [DashMap.get_insert, if_true, Option.some.injEq] at stored
      subst stored
      have several := valid.several found
      refine ⟨by simp; omega, ?_, valid.exclusive found⟩
      simpa [List.nodup_append] using ⟨valid.distinct found, fun id member same => absent (same ▸ member)⟩
  next free =>
    split at stored
    next existing indexed =>
      split at stored
      next => rw [free] at stored; cases stored
      next different =>
        simp only [DashMap.get_insert, if_true, Option.some.injEq] at stored
        subst stored
        simp [different]
    next => rw [free] at stored; cases stored

private theorem mem_declarers_indexAction (table : ActionTable) (action pluginId name id : String) :
    id ∈ (table.indexAction action pluginId).declarers name ↔
      id ∈ table.declarers name ∨ (name = action ∧ id = pluginId) := by
  by_cases same : name = action
  · subst same
    simp only [declarers, ActionTable.indexAction, true_and]
    cases found : table.ambiguousActions.get name with
    | some ids =>
      by_cases member : pluginId ∈ ids
      · simp only [member, if_true, found]
        exact ⟨.inl, fun either => either.elim (fun held => held) fun same => same ▸ member⟩
      · simp [member]
    | none =>
      cases indexed : table.actionIndex.get name with
      | none => simp [found, eq_comm]
      | some existing =>
        by_cases already : existing = pluginId
        · simp only [already, if_true, found, indexed]
          simp [eq_comm]
        · simp [already, eq_comm]
  · obtain ⟨ambiguous, index⟩ := table.indexAction_frame action pluginId name same
    rw [declarers_congr ambiguous index]
    simp [same]

private theorem unindexAction_frame (table : ActionTable) (action pluginId name : String) (other : name ≠ action) :
    (table.unindexAction action pluginId).ambiguousActions.get name = table.ambiguousActions.get name ∧
      (table.unindexAction action pluginId).actionIndex.get name = table.actionIndex.get name := by
  unfold unindexAction dropIndexed
  split
  · split
    · simp [other]
    · split <;> simp [other]
  · split <;> simp [other]

private theorem filter_ne_nil {ids : List String} (several : 2 ≤ ids.length) (distinct : ids.Nodup) (id : String) :
    ids.filter (· != id) ≠ [] := by
  match ids, several with
  | first :: second :: rest, _ =>
    have differ : first ≠ second := fun same => by simp [same] at distinct
    intro none
    have gone : ∀ other ∈ first :: second :: rest, other = id := by simpa using none
    exact differ ((gone first (by simp)).trans (gone second (by simp)).symm)

/-- The three outcomes of unindexing: a pair gives way to its other half, a longer
list shrinks, and without a collision only the index is concerned. -/
private theorem Valid.unindexAction_cases (valid : table.Valid) (action pluginId : String) :
    (∃ ids only, table.ambiguousActions.get action = some ids ∧ ids.filter (· != pluginId) = [only] ∧
      table.unindexAction action pluginId =
        ⟨table.actionIndex.insert action only, table.ambiguousActions.remove action⟩) ∨
    (∃ ids, table.ambiguousActions.get action = some ids ∧ 2 ≤ (ids.filter (· != pluginId)).length ∧
      table.unindexAction action pluginId =
        ⟨table.actionIndex, table.ambiguousActions.insert action (ids.filter (· != pluginId))⟩) ∨
    (table.ambiguousActions.get action = none ∧
      table.unindexAction action pluginId = table.dropIndexed action pluginId) := by
  unfold ActionTable.unindexAction
  cases found : table.ambiguousActions.get action with
  | none => exact .inr (.inr ⟨rfl, rfl⟩)
  | some ids =>
    have left := filter_ne_nil (valid.several found) (valid.distinct found) pluginId
    have untouched := valid.exclusive found
    cases remaining : ids.filter (· != pluginId) with
    | nil => exact absurd remaining left
    | cons first rest =>
      cases rest with
      | nil => exact .inl ⟨ids, first, rfl, remaining, by simp [remaining]⟩
      | cons =>
        exact .inr (.inl ⟨ids, rfl, by simp [remaining], by simp [remaining, dropIndexed, untouched]⟩)

theorem Valid.unindexAction (valid : table.Valid) (action pluginId : String) :
    (table.unindexAction action pluginId).Valid := by
  refine valid.update action (table.unindexAction_frame action pluginId) fun ids stored => ?_
  rcases valid.unindexAction_cases action pluginId with
    ⟨held, only, found, -, result⟩ | ⟨held, found, several, result⟩ | ⟨free, result⟩
  · simp [result] at stored
  · rw [result] at stored ⊢
    simp only [DashMap.get_insert, if_true, Option.some.injEq] at stored
    subst stored
    exact ⟨several, (valid.distinct found).filter _, valid.exclusive found⟩
  · rw [result, dropIndexed] at stored
    split at stored <;> (rw [free] at stored; cases stored)

private theorem Valid.mem_declarers_unindexAction (valid : table.Valid) (action pluginId name id : String) :
    id ∈ (table.unindexAction action pluginId).declarers name ↔
      id ∈ table.declarers name ∧ ¬(name = action ∧ id = pluginId) := by
  by_cases same : name = action
  · subst same
    rcases valid.unindexAction_cases name pluginId with
      ⟨ids, only, found, single, result⟩ | ⟨ids, found, -, result⟩ | ⟨free, result⟩
    · have kept : id ∈ [only] ↔ id ∈ ids ∧ id ≠ pluginId := by simp [← single]
      simpa [result, declarers, found, eq_comm] using kept
    · simp [result, declarers, found]
    · rw [result, dropIndexed]
      split
      next indexed => simp [declarers, free, indexed, eq_comm]
      next differs =>
        simp only [declarers, free, Option.mem_toList, true_and, iff_self_and]
        intro indexed same
        exact differs (same ▸ indexed)
  · obtain ⟨ambiguous, index⟩ := table.unindexAction_frame action pluginId name same
    rw [declarers_congr ambiguous index]
    simp [same]

theorem Valid.indexActions (valid : table.Valid) (actions : List String) (pluginId : String) :
    (table.indexActions actions pluginId).Valid := by
  induction actions generalizing table with
  | nil => exact valid
  | cons action actions ih => exact ih (valid.indexAction action pluginId)

theorem mem_declarers_indexActions (table : ActionTable) (actions : List String) (pluginId name id : String) :
    id ∈ (table.indexActions actions pluginId).declarers name ↔
      id ∈ table.declarers name ∨ (name ∈ actions ∧ id = pluginId) := by
  induction actions generalizing table with
  | nil => simp [indexActions]
  | cons action actions ih =>
    have step : table.indexActions (action :: actions) pluginId =
        (table.indexAction action pluginId).indexActions actions pluginId := rfl
    rw [step, ih, mem_declarers_indexAction, List.mem_cons, or_and_right, or_assoc]

theorem Valid.unindexActions (valid : table.Valid) (actions : List String) (pluginId : String) :
    (table.unindexActions actions pluginId).Valid := by
  induction actions generalizing table with
  | nil => exact valid
  | cons action actions ih => exact ih (valid.unindexAction action pluginId)

theorem Valid.mem_declarers_unindexActions (valid : table.Valid) (actions : List String) (pluginId name id : String) :
    id ∈ (table.unindexActions actions pluginId).declarers name ↔
      id ∈ table.declarers name ∧ ¬(name ∈ actions ∧ id = pluginId) := by
  induction actions generalizing table with
  | nil => simp [ActionTable.unindexActions]
  | cons action actions ih =>
    have step : table.unindexActions (action :: actions) pluginId =
        (table.unindexAction action pluginId).unindexActions actions pluginId := rfl
    rw [step, ih (valid.unindexAction action pluginId), valid.mem_declarers_unindexAction, List.mem_cons,
      or_and_right, not_or, and_assoc]

end Vynkor.ActionTable
