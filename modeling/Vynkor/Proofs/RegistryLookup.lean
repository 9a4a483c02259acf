import Mathlib.Data.Finset.Card
import Vynkor.Proofs.ActionTable
import Vynkor.Proofs.RegistryCalls

/-! Action lookup answers as a scan over all live and dormant declarations would. -/

namespace Vynkor.Registry
open Lib

/-- The registered plugins whose manifest lists the action, by scanning all of them. -/
def liveDeclarers (registry : Registry) (action : String) : Finset String :=
  (registry.byPluginId.keys.filter fun id =>
    (registry.byPluginId.get id).any fun entry => entry.manifest.actions.contains action).toFinset

/-- The ids whose dormant record lists the action, by scanning all of them. -/
def dormantDeclarers (registry : Registry) (action : String) : Finset String :=
  (registry.dormant.keys.filter fun id =>
    (registry.dormant.get id).any fun plugin => (plugin.actionSpecs.map ActionSpec.name).contains action).toFinset

theorem mem_liveDeclarers {registry : Registry} {action id : String} :
    id ∈ registry.liveDeclarers action ↔
      ∃ entry, registry.byPluginId.get id = some entry ∧ action ∈ entry.manifest.actions := by
  simp only [liveDeclarers, List.mem_toFinset, List.mem_filter, DashMap.mem_keys]
  cases registry.byPluginId.get id <;> simp

private theorem mem_dormantDeclarers {registry : Registry} {action id : String} :
    id ∈ registry.dormantDeclarers action ↔
      ∃ plugin, registry.dormant.get id = some plugin ∧ action ∈ plugin.actionSpecs.map ActionSpec.name := by
  simp only [dormantDeclarers, List.mem_toFinset, List.mem_filter, DashMap.mem_keys]
  cases registry.dormant.get id <;> simp

def dormantIds (actions : DashMap String (List String)) (action : String) : List String :=
  (actions.get action).getD []

section DormantIndex
variable (actions : DashMap String (List String)) (pluginId name action : String)

private theorem dormantIds_dropDormantAction :
    dormantIds (dropDormantAction pluginId actions name) action =
      if action = name then (dormantIds actions action).filter (· != pluginId) else dormantIds actions action := by
  unfold dropDormantAction dormantIds
  rcases DashMap.removeIf_cases (actions.modify name fun ids => ids.filter (· != pluginId)) name List.isEmpty with
    ⟨left, stored, empty, result⟩ | ⟨-, result⟩
  · rw [result]
    rw [DashMap.get_modify, if_pos rfl] at stored
    rw [DashMap.get_remove, DashMap.get_modify]
    split
    next same =>
      subst same
      obtain ⟨ids, held, filtered⟩ := Option.map_eq_some_iff.mp stored
      simpa [held, filtered] using empty
    next => rfl
  · rw [result, DashMap.get_modify]
    split
    next same =>
      subst same
      cases actions.get action <;> simp
    next => rfl

private theorem dormantIds_addDormantAction :
    dormantIds (addDormantAction pluginId actions name) action =
      if action = name ∧ pluginId ∉ dormantIds actions action then dormantIds actions action ++ [pluginId]
      else dormantIds actions action := by
  unfold addDormantAction dormantIds
  by_cases same : action = name
  · subst same
    by_cases member : pluginId ∈ (actions.get action).getD [] <;> simp [member]
  · simp [same]

private theorem mem_dormantIds_dropDormantAction (id : String) :
    id ∈ dormantIds (dropDormantAction pluginId actions name) action ↔
      id ∈ dormantIds actions action ∧ ¬(action = name ∧ id = pluginId) := by
  rw [dormantIds_dropDormantAction]
  split
  next same => simp [same]
  next other => simp [other]

private theorem mem_dormantIds_addDormantAction (id : String) :
    id ∈ dormantIds (addDormantAction pluginId actions name) action ↔
      id ∈ dormantIds actions action ∨ (action = name ∧ id = pluginId) := by
  rw [dormantIds_addDormantAction]
  split
  next fresh => simp [fresh.1]
  next known =>
    constructor
    · exact .inl
    · intro either
      rcases either with held | ⟨same, rfl⟩
      · exact held
      · by_contra absent
        exact known ⟨same, absent⟩

end DormantIndex

private theorem mem_dormantIds_drop (pluginId : String) (names : List String) (actions : DashMap String (List String))
    (action id : String) :
    id ∈ dormantIds (names.foldl (dropDormantAction pluginId) actions) action ↔
      id ∈ dormantIds actions action ∧ ¬(action ∈ names ∧ id = pluginId) := by
  induction names generalizing actions with
  | nil => simp
  | cons name names ih =>
    rw [List.foldl_cons, ih, mem_dormantIds_dropDormantAction, List.mem_cons, or_and_right, not_or, and_assoc]

private theorem mem_dormantIds_add (pluginId : String) (names : List String) (actions : DashMap String (List String))
    (action id : String) :
    id ∈ dormantIds (names.foldl (addDormantAction pluginId) actions) action ↔
      id ∈ dormantIds actions action ∨ (action ∈ names ∧ id = pluginId) := by
  induction names generalizing actions with
  | nil => simp
  | cons name names ih =>
    rw [List.foldl_cons, ih, mem_dormantIds_addDormantAction, List.mem_cons, or_and_right, or_assoc]

private theorem dormantIds_drop_nodup (pluginId : String) (names : List String) {actions : DashMap String (List String)}
    (distinct : ∀ action, (dormantIds actions action).Nodup) (action : String) :
    (dormantIds (names.foldl (dropDormantAction pluginId) actions) action).Nodup := by
  induction names generalizing actions with
  | nil => exact distinct action
  | cons name names ih =>
    refine ih fun other => ?_
    rw [dormantIds_dropDormantAction]
    split
    · exact (distinct other).filter _
    · exact distinct other

private theorem dormantIds_add_nodup (pluginId : String) (names : List String) {actions : DashMap String (List String)}
    (distinct : ∀ action, (dormantIds actions action).Nodup) (action : String) :
    (dormantIds (names.foldl (addDormantAction pluginId) actions) action).Nodup := by
  induction names generalizing actions with
  | nil => exact distinct action
  | cons name names ih =>
    refine ih fun other => ?_
    rw [dormantIds_addDormantAction]
    split
    next fresh => simpa using (distinct other).concat fresh.2
    next => exact distinct other

/-- The maps behind the lookup say what the registered manifests and the dormant
records say. -/
structure Indexed (registry : Registry) : Prop where
  keyed : ∀ {id entry}, registry.byPluginId.get id = some entry → entry.pluginId = id
  table : registry.toActionTable.Valid
  live : ∀ action id, id ∈ registry.toActionTable.declarers action ↔
    ∃ entry, registry.byPluginId.get id = some entry ∧ action ∈ entry.manifest.actions
  distinct : ∀ action, (dormantIds registry.dormantActions action).Nodup
  asleep : ∀ action id, id ∈ dormantIds registry.dormantActions action ↔
    ∃ plugin, registry.dormant.get id = some plugin ∧ action ∈ plugin.actionSpecs.map ActionSpec.name

namespace Indexed
variable {registry : Registry}

theorem initial : Indexed {} where
  keyed := nofun
  table := .initial
  live action id := by simp [ActionTable.declarers]
  distinct action := by simp [dormantIds]
  asleep action id := by simp [dormantIds]

theorem congr {after : Registry} (indexed : registry.Indexed) (table : after.toActionTable = registry.toActionTable)
    (byPluginId : after.byPluginId = registry.byPluginId) (dormant : after.dormant = registry.dormant)
    (dormantActions : after.dormantActions = registry.dormantActions) : after.Indexed := by
  constructor
  · rw [byPluginId]; exact indexed.keyed
  · rw [table]; exact indexed.table
  · rw [table, byPluginId]; exact indexed.live
  · rw [dormantActions]; exact indexed.distinct
  · rw [dormantActions, dormant]; exact indexed.asleep

theorem enroll (indexed : registry.Indexed) (clock : Clock) (entry : PluginEntry) (info : DeviceMeta)
    (capabilities : List String) (freeId : registry.byPluginId.get entry.pluginId = none) :
    (registry.enroll clock entry info capabilities).Indexed where
  keyed {id held} found := by
    rcases DashMap.insert_cases found with ⟨rfl, rfl⟩ | ⟨-, before⟩
    · rfl
    · exact indexed.keyed before
  table := indexed.table.indexActions _ _
  live action id := by
    change id ∈ (registry.toActionTable.indexActions entry.manifest.actions entry.pluginId).declarers action ↔
      ∃ held, (registry.byPluginId.insert entry.pluginId entry).get id = some held ∧ action ∈ held.manifest.actions
    rw [ActionTable.mem_declarers_indexActions, indexed.live, DashMap.get_insert]
    by_cases same : id = entry.pluginId
    · simp [same, freeId]
    · simp [same]
  distinct := indexed.distinct
  asleep := indexed.asleep

theorem cleanUp (indexed : registry.Indexed) (shuffle : Shuffle String) {pluginId : String} {entry : PluginEntry}
    (held : registry.byPluginId.get pluginId = some entry) :
    (cleanUp shuffle { registry with byPluginId := registry.byPluginId.remove pluginId } entry pluginId).1.Indexed where
  keyed {id other} found := indexed.keyed (DashMap.remove_some.mp found).2
  table := indexed.table.unindexActions _ _
  live action id := by
    change id ∈ (registry.toActionTable.unindexActions entry.manifest.actions pluginId).declarers action ↔
      ∃ other, (registry.byPluginId.remove pluginId).get id = some other ∧ action ∈ other.manifest.actions
    rw [indexed.table.mem_declarers_unindexActions, indexed.live, DashMap.get_remove]
    by_cases same : id = pluginId
    · simp [same, held]
    · simp [same]
  distinct := indexed.distinct
  asleep := indexed.asleep

theorem dropDormantActions (indexed : registry.Indexed) (pluginId : String) :
    (registry.dropDormantActions pluginId).Indexed ∧
      (registry.dropDormantActions pluginId).dormant.get pluginId = none := by
  unfold Registry.dropDormantActions
  split
  next awake => exact ⟨indexed, awake⟩
  next old stored =>
    refine ⟨⟨indexed.keyed, indexed.table, indexed.live, ?_, ?_⟩, by simp⟩
    · exact dormantIds_drop_nodup pluginId _ indexed.distinct
    · intro action id
      rw [mem_dormantIds_drop, indexed.asleep, DashMap.get_remove]
      by_cases same : id = pluginId
      · simp [same, stored]
      · simp [same]

theorem registerDormant (indexed : registry.Indexed) (plugin : DormantPlugin) :
    (registry.registerDormant plugin).Indexed := by
  obtain ⟨dropped, free⟩ := indexed.dropDormantActions plugin.pluginId
  refine ⟨dropped.keyed, dropped.table, dropped.live, ?_, ?_⟩
  · exact dormantIds_add_nodup plugin.pluginId _ dropped.distinct
  · intro action id
    change id ∈ dormantIds (List.foldl _ _ _) action ↔ ∃ other, (DashMap.insert _ _ _).get id = some other ∧ _
    rw [mem_dormantIds_add, dropped.asleep, DashMap.get_insert]
    by_cases same : id = plugin.pluginId
    · simp [same, free]
    · simp [same]

theorem effect {after : Registry} (happened : Effect registry after) (indexed : registry.Indexed) : after.Indexed := by
  cases happened with
  | unchanged => exact indexed
  | enrolled clock entry info capabilities freeConn freeId => exact indexed.enroll clock entry info capabilities freeId
  | removed shuffle pluginId entry held => exact indexed.cleanUp shuffle held
  | ponged | pending | requirements | gates | used => exact indexed.congr rfl rfl rfl rfl
  | slept plugin => exact indexed.registerDormant plugin

theorem reachable (calls : List Call) : (machine.run calls).Indexed := machine_preserves initial effect calls

private theorem declarers_toFinset (indexed : registry.Indexed) (action : String) :
    (registry.toActionTable.declarers action).toFinset = registry.liveDeclarers action := by
  ext id
  rw [List.mem_toFinset, indexed.live, mem_liveDeclarers]

private theorem dormantIds_toFinset (indexed : registry.Indexed) (action : String) :
    (dormantIds registry.dormantActions action).toFinset = registry.dormantDeclarers action := by
  ext id
  rw [List.mem_toFinset, indexed.asleep, mem_dormantDeclarers]

private theorem ambiguous_iff (indexed : registry.Indexed) (action : String) :
    (∃ ids, registry.ambiguousActions.get action = some ids) ↔ 2 ≤ (registry.liveDeclarers action).card := by
  rw [← indexed.declarers_toFinset, List.toFinset_card_of_nodup (indexed.table.declarers_nodup action),
    ActionTable.declarers]
  cases found : registry.ambiguousActions.get action with
  | some ids => simpa using indexed.table.several found
  | none => cases registry.actionIndex.get action <;> simp

private theorem actionIndex_of_free (indexed : registry.Indexed) {action : String}
    (free : registry.ambiguousActions.get action = none) :
    (registry.actionIndex.get action).toList.toFinset = registry.liveDeclarers action := by
  rw [← indexed.declarers_toFinset, ActionTable.declarers, free]

end Indexed

/-- The lookup refuses to choose among exactly these ids, each listed once. -/
def Refuses (lookup : ActionLookup) (ids : Finset String) : Prop :=
  ∃ listed, lookup = .ambiguous listed ∧ listed.Nodup ∧ listed.toFinset = ids

namespace Indexed
variable {registry : Registry} {action : String}

theorem find_of_several (indexed : registry.Indexed) (several : 2 ≤ (registry.liveDeclarers action).card) :
    Refuses (registry.findActionProvider action) (registry.liveDeclarers action) := by
  obtain ⟨ids, found⟩ := (indexed.ambiguous_iff action).mpr several
  refine ⟨ids, ?_, indexed.table.distinct found, ?_⟩
  · rw [findActionProvider, found]
  · rw [← indexed.declarers_toFinset, ActionTable.declarers, found]

private theorem free_of_few (indexed : registry.Indexed) (action : String) (few : (registry.liveDeclarers action).card < 2) :
    registry.ambiguousActions.get action = none := by
  cases found : registry.ambiguousActions.get action with
  | none => rfl
  | some ids =>
    have several := (indexed.ambiguous_iff action).mp ⟨ids, found⟩
    omega

theorem find_of_single (indexed : registry.Indexed) {id : String} (single : registry.liveDeclarers action = {id}) :
    ∃ entry, registry.get id = some entry ∧ entry.pluginId = id ∧
      registry.findActionProvider action =
        if (dormantIds registry.dormantActions action).all (· == id) then .found entry
        else .ambiguous (id :: (dormantIds registry.dormantActions action).filter (· != id)) := by
  have free := indexed.free_of_few action (by rw [single]; simp)
  have indexedAs : registry.actionIndex.get action = some id := by
    have only := (indexed.actionIndex_of_free free).trans single
    cases stored : registry.actionIndex.get action with
    | none => simp [stored] at only
    | some other => simpa [stored] using only
  obtain ⟨entry, held, -⟩ := mem_liveDeclarers.mp (single ▸ Finset.mem_singleton_self id)
  have named := indexed.keyed held
  refine ⟨entry, held, named, ?_⟩
  simp only [findActionProvider, free, indexedAs, held, named]
  rfl

private theorem find_of_none (indexed : registry.Indexed) (none : registry.liveDeclarers action = ∅) :
    registry.findActionProvider action =
      match dormantIds registry.dormantActions action with
      | [] => .notFound
      | [id] => .dormant id
      | ids => .ambiguous ids := by
  have free := indexed.free_of_few action (by rw [none]; simp)
  have absent : registry.actionIndex.get action = .none := by
    have empty := (indexed.actionIndex_of_free free).trans none
    cases stored : registry.actionIndex.get action with
    | none => rfl
    | some other => simp [stored] at empty
  simp only [findActionProvider, free, absent]
  rfl

end Indexed

/-- Action lookup refines the scan, after any sequence of calls. -/
theorem findActionProvider_scans (calls : List Call) (action : String) :
    let registry := machine.run calls
    let live := registry.liveDeclarers action
    let dormant := registry.dormantDeclarers action
    let answer := registry.findActionProvider action
    (2 ≤ live.card → Refuses answer live) ∧
    (∀ id, live = {id} → dormant ⊆ {id} →
      ∃ entry, registry.get id = some entry ∧ entry.pluginId = id ∧ answer = .found entry) ∧
    (∀ id, live = {id} → ¬dormant ⊆ {id} → Refuses answer (insert id dormant)) ∧
    (live = ∅ → dormant.card = 0 → answer = .notFound) ∧
    (live = ∅ → ∀ id, dormant = {id} → answer = .dormant id) ∧
    (live = ∅ → 2 ≤ dormant.card → Refuses answer dormant) := by
  intro registry live dormant answer
  have indexed : registry.Indexed := Indexed.reachable calls
  have asleep : (dormantIds registry.dormantActions action).toFinset = dormant := indexed.dormantIds_toFinset action
  have distinct := indexed.distinct action
  have size : (dormantIds registry.dormantActions action).length = dormant.card := by
    rw [← asleep, List.toFinset_card_of_nodup distinct]
  have alone : ∀ id, (dormantIds registry.dormantActions action).all (· == id) = true ↔ dormant ⊆ {id} := by
    intro id
    simp [← asleep, Finset.subset_iff]
  refine ⟨indexed.find_of_several, fun id single within => ?_, fun id single beyond => ?_, fun empty => ?_,
    fun empty id only => ?_, fun empty several => ?_⟩
  · obtain ⟨entry, held, named, result⟩ := indexed.find_of_single single
    exact ⟨entry, held, named, result.trans (if_pos ((alone id).mpr within))⟩
  · obtain ⟨entry, held, named, result⟩ := indexed.find_of_single single
    refine ⟨_, result.trans (if_neg fun all => beyond ((alone id).mp all)), ?_, ?_⟩
    · exact List.nodup_cons.mpr ⟨by simp, distinct.filter _⟩
    · ext other
      by_cases same : other = id <;> simp [same, ← asleep]
  · intro none
    rw [Finset.card_eq_zero] at none
    have nothing : dormantIds registry.dormantActions action = [] := List.toFinset_eq_empty_iff _ |>.mp (asleep.trans none)
    exact (indexed.find_of_none empty).trans (by rw [nothing])
  · have listed : dormantIds registry.dormantActions action = [id] := by
      obtain ⟨other, single⟩ := List.length_eq_one_iff.mp (size.trans (by rw [only]; simp))
      simpa [single] using asleep.trans only
    exact (indexed.find_of_none empty).trans (by rw [listed])
  · refine ⟨dormantIds registry.dormantActions action, ?_, distinct, asleep⟩
    rw [← size] at several
    refine (indexed.find_of_none empty).trans ?_
    match dormantIds registry.dormantActions action, several with
    | first :: second :: rest, _ => rfl

end Vynkor.Registry
