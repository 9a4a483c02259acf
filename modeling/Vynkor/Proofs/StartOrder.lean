import Vynkor.Loader

/-! The order in which plugins are started. The sort puts what is required first; what the loader
does with its result keeps that order only if nothing required is refused or fails to spawn, and,
where a cycle has made the loader fall back on the configuration, if that lists it first. -/

namespace Vynkor
open Lib

private theorem mem_activeIds {defs : List PluginDef} {refused : List String} {id : String} :
    id ∈ activeIds defs refused ↔ id ∈ defs.map PluginDef.id ∧ id ∉ refused := by
  unfold activeIds
  rw [List.mem_filter]
  simp

private theorem mem_activeIds_append {defs : List PluginDef} {cycle refused : List String} {id : String} :
    id ∈ activeIds defs (cycle ++ refused) ↔ id ∈ activeIds defs refused ∧ id ∉ cycle := by
  rw [mem_activeIds, mem_activeIds, List.mem_append, not_or, and_assoc]
  exact and_congr_right fun _ => and_comm

private theorem topoSort_spec (fuel : Nat) {defs : List PluginDef} {deps : DashMap String (List String)} {refused : List String}
    (distinct : (defs.map PluginDef.id).Nodup)
    (known : ∀ id ∈ activeIds defs refused, ∀ dep ∈ (deps.get id).getD [], dep ∈ defs.map PluginDef.id)
    (enough : defs.length ≤ fuel) :
    (∃ order, topoSort fuel defs deps refused = some (.ok order) ∧ order.Perm (activeIds defs refused) ∧
      Ordered (activeDeps deps refused) order ∧ Acyclic (activeDeps deps refused) (activeIds defs refused)) ∨
    (∃ cycle, topoSort fuel defs deps refused = some (.error cycle) ∧ cycle.Sublist (activeIds defs refused) ∧
      ¬Acyclic (activeDeps deps refused) (activeIds defs refused) ∧
      ∀ id, id ∈ cycle ↔ id ∈ activeIds defs refused ∧ ReachesCycle (activeDeps deps refused) id) := by
  have closed : ∀ id ∈ activeIds defs refused, ∀ dep ∈ activeDeps deps refused id, dep ∈ activeIds defs refused := by
    intro id member dep named
    obtain ⟨listed, active⟩ := List.mem_filter.mp named
    exact mem_activeIds.mpr ⟨known id member dep listed, by simpa using active⟩
  have short : (activeIds defs refused).length ≤ fuel := by
    have fewer := List.length_filter_le (fun id => !refused.contains id) (defs.map PluginDef.id)
    rw [List.length_map] at fewer
    exact Nat.le_trans fewer enough
  rw [acyclic_iff closed]
  rcases Kahn.sort_spec (activeDeps deps refused) (distinct.filter _) closed short with
    ⟨order, sorted, perm, ordered, none⟩ | ⟨cycle, failed, sublist, ⟨id, member, reaches⟩, exactly⟩
  · exact .inl ⟨order, sorted, perm, ordered, none⟩
  · exact .inr ⟨cycle, failed, sublist, fun none => none id member reaches, exactly⟩

/-- For distinct ids that require only configured ids, the sort ends. It succeeds exactly if the
plugins that are not refused do not depend on themselves; then it lists them all, each after
those it requires. Otherwise it reports those from which a cycle can be reached. -/
theorem topo_sort_exact (fuel : Nat) (defs : List PluginDef) (deps : DashMap String (List String)) (refused : List String)
    (distinct : (defs.map PluginDef.id).Nodup)
    (known : ∀ id ∈ activeIds defs refused, ∀ dep ∈ (deps.get id).getD [], dep ∈ defs.map PluginDef.id)
    (enough : defs.length ≤ fuel) :
    let nodes := activeIds defs refused
    let needs := activeDeps deps refused
    ((∃ order, topoSort fuel defs deps refused = some (.ok order)) ↔ Acyclic needs nodes) ∧
    (∀ order, topoSort fuel defs deps refused = some (.ok order) → order.Perm nodes ∧ Ordered needs order) ∧
    (¬Acyclic needs nodes → ∃ cycle, topoSort fuel defs deps refused = some (.error cycle) ∧ cycle.Sublist nodes ∧
      ∀ id, id ∈ cycle ↔ id ∈ nodes ∧ ReachesCycle needs id) := by
  intro nodes needs
  rcases topoSort_spec fuel distinct known enough with
    ⟨order, sorted, perm, ordered, acyclic⟩ | ⟨cycle, failed, sublist, cyclic, exactly⟩
  · refine ⟨⟨fun _ => acyclic, fun _ => ⟨order, sorted⟩⟩, fun other same => ?_, fun cyclic => absurd acyclic cyclic⟩
    cases sorted.symm.trans same
    exact ⟨perm, ordered⟩
  · refine ⟨⟨?_, fun acyclic => absurd acyclic cyclic⟩, ?_, fun _ => ⟨cycle, failed, sublist, exactly⟩⟩
    · rintro ⟨order, sorted⟩
      cases failed.symm.trans sorted
    · intro order sorted
      cases failed.symm.trans sorted

/-- A plugin that names itself twice and one that depends on it are reported; the third is not. -/
theorem topo_sort_exact_self :
    let defs : List PluginDef := [⟨"a", "", 0, false, false, none, []⟩, ⟨"b", "", 0, false, false, none, []⟩,
      ⟨"c", "", 0, false, false, none, []⟩]
    let deps := ((∅ : DashMap String (List String)).insert "a" ["a", "a"]).insert "b" ["a", "c", "c"]
    topoSort 3 defs deps [] = some (.error ["a", "b"]) ∧
      ¬Acyclic (activeDeps deps []) (activeIds defs []) := by
  intro defs deps
  have failed : topoSort 3 defs deps [] = some (.error ["a", "b"]) := by decide +kernel
  refine ⟨failed, fun acyclic => ?_⟩
  obtain ⟨order, sorted⟩ :=
    (topo_sort_exact 3 defs deps [] (by decide) (by decide +kernel) (by decide)).1.mpr acyclic
  cases failed.symm.trans sorted

section Configuration
variable (installation : Installation) (defs : List PluginDef)

/-- The manifest of a plugin that passes validation, if it has one. -/
def manifestOf (plugin : PluginDef) : Option InstallManifest :=
  match validatePluginDef installation plugin with
  | .ok manifest => manifest
  | .error _ => none

def requirements (plugin : PluginDef) : List String :=
  ((manifestOf installation plugin).map InstallManifest.requires).getD []

def requiredBy (id : String) : List String :=
  ((defs.find? fun plugin => plugin.id == id).map (requirements installation)).getD []

/-- The manifest is valid and names no plugin outside the configuration. -/
def acceptable (plugin : PluginDef) : Bool :=
  (validatePluginDef installation plugin).isOk &&
    (requirements installation plugin).all fun dep => (defs.map PluginDef.id).contains dep

def acceptedIds : List String := (defs.filter (acceptable installation defs)).map PluginDef.id

/-- What an accepted plugin requires among the accepted ones. -/
def dependencies (id : String) : List String :=
  if id ∈ acceptedIds installation defs then
    (requiredBy installation defs id).filter fun dep => (acceptedIds installation defs).contains dep
  else []

/-- A lazy plugin that declares actions and no events is registered dormant. -/
def sleeps (plugin : PluginDef) : Bool :=
  plugin.lazy && !(!(((manifestOf installation plugin).bind InstallManifest.events).getD []).isEmpty ||
    (installation.actionSpecs plugin).isEmpty)

def startable (plugin : PluginDef) : Bool := sleeps installation plugin || installation.spawns (configFromDef plugin)

def startableId (id : String) : Bool := (defs.find? fun plugin => plugin.id == id).any (startable installation)

end Configuration

theorem find_id {defs : List PluginDef} (distinct : (defs.map PluginDef.id).Nodup) {plugin : PluginDef}
    (member : plugin ∈ defs) : (defs.find? fun other => other.id == plugin.id) = some plugin := by
  cases found : defs.find? fun other => other.id == plugin.id with
  | none => exact absurd (List.find?_eq_none.mp found plugin member) (by simp)
  | some other =>
    have same : other.id = plugin.id := by simpa using List.find?_some found
    exact congrArg some (List.inj_on_of_nodup_map distinct (List.mem_of_find?_eq_some found) member same)

private theorem mem_acceptedIds {installation : Installation} {defs : List PluginDef} (distinct : (defs.map PluginDef.id).Nodup)
    (id : String) : id ∈ acceptedIds installation defs ↔
      ∃ plugin, (defs.find? fun plugin => plugin.id == id) = some plugin ∧ acceptable installation defs plugin = true := by
  unfold acceptedIds
  rw [List.mem_map]
  constructor
  · rintro ⟨plugin, member, rfl⟩
    obtain ⟨listed, accepted⟩ := List.mem_filter.mp member
    exact ⟨plugin, find_id distinct listed, accepted⟩
  · rintro ⟨plugin, found, accepted⟩
    exact ⟨plugin, List.mem_filter.mpr ⟨List.mem_of_find?_eq_some found, accepted⟩, by simpa using List.find?_some found⟩

section Passes
variable {installation : Installation} {defs : List PluginDef}

private theorem find_absent {seen : List PluginDef} {id : String} (absent : id ∉ seen.map PluginDef.id) :
    (seen.find? fun plugin => plugin.id == id) = none := by
  rw [List.find?_eq_none]
  intro plugin member same
  exact absent (List.mem_map.mpr ⟨plugin, member, by simpa using same⟩)

private theorem find_snoc {earlier : List PluginDef} {plugin : PluginDef} (fresh : plugin.id ∉ earlier.map PluginDef.id)
    (id : String) : ((earlier ++ [plugin]).find? fun other => other.id == id) =
      if id = plugin.id then some plugin else earlier.find? fun other => other.id == id := by
  rw [List.find?_append]
  by_cases here : id = plugin.id
  · subst here
    rw [find_absent fresh, if_pos rfl, Option.none_or, List.find?_cons_of_pos (by simp)]
  · rw [if_neg here, List.find?_cons_of_neg (by simpa using Ne.symm here), List.find?_nil, Option.or_none]

/-- What is known of the plugins whose manifests have been read. -/
structure Screened (installation : Installation) (seen : List PluginDef) (screening : Screening) : Prop where
  manifest : ∀ id, screening.manifest id = (seen.find? fun plugin => plugin.id == id).bind (manifestOf installation)
  refused : ∀ id, id ∈ screening.refused ↔
    ∃ plugin, (seen.find? fun plugin => plugin.id == id) = some plugin ∧
      (validatePluginDef installation plugin).isOk = false
  specs : ∀ id, screening.lazySpecs.get id = ((seen.find? fun plugin => plugin.id == id).filter fun plugin =>
    plugin.lazy && (validatePluginDef installation plugin).isOk).map installation.actionSpecs

section
variable {earlier : List PluginDef} {screening : Screening} {plugin : PluginDef}
  (screened : Screened installation earlier screening)
include screened

private theorem Screened.snoc_refused (fresh : plugin.id ∉ earlier.map PluginDef.id) {reason : String}
    (invalid : validatePluginDef installation plugin = .error reason) :
    Screened installation (earlier ++ [plugin]) { screening with refused := plugin.id :: screening.refused } := by
  have before := screened.manifest plugin.id
  have silent := screened.specs plugin.id
  rw [find_absent fresh] at before silent
  constructor
  · intro id
    rw [find_snoc fresh]
    split
    next here =>
      rw [Option.bind_some, manifestOf, invalid, here]
      exact before
    next => exact screened.manifest id
  · intro id
    rw [find_snoc fresh, List.mem_cons, screened.refused]
    split
    next here => simp [here, invalid, Except.isOk, Except.toBool]
    next apart => simp [apart]
  · intro id
    rw [find_snoc fresh]
    split
    next here =>
      rw [Option.filter_some, if_neg (by simp [invalid, Except.isOk, Except.toBool]), here]
      exact silent
    next => exact screened.specs id

private theorem Screened.snoc_accepted (fresh : plugin.id ∉ earlier.map PluginDef.id) {manifest : Option InstallManifest}
    (valid : validatePluginDef installation plugin = .ok manifest) (registry : Registry) :
    Screened installation (earlier ++ [plugin]) {
      registry
      manifests := screening.manifests.insert plugin.id manifest
      refused := screening.refused
      lazySpecs :=
        if plugin.lazy then screening.lazySpecs.insert plugin.id (installation.actionSpecs plugin)
        else screening.lazySpecs } := by
  constructor
  · intro id
    rw [find_snoc fresh]
    unfold Screening.manifest
    rw [DashMap.get_insert]
    split
    · rw [Option.bind_some, manifestOf, valid]
      rfl
    · exact screened.manifest id
  · intro id
    rw [find_snoc fresh]
    refine (screened.refused id).trans ?_
    split
    next here => simp [here, find_absent fresh, valid, Except.isOk, Except.toBool]
    next => rfl
  · intro id
    rw [find_snoc fresh]
    by_cases lazy : plugin.lazy = true
    · simp only [lazy, if_true, DashMap.get_insert]
      split
      · rw [Option.filter_some, if_pos (by simp [lazy, valid, Except.isOk, Except.toBool])]
        rfl
      · exact screened.specs id
    · simp only [lazy]
      refine (screened.specs id).trans ?_
      split
      next here =>
        rw [here, find_absent fresh, Option.filter_some, if_neg (by simp [lazy])]
        rfl
      next => rfl

theorem Screened.snoc (fresh : plugin.id ∉ earlier.map PluginDef.id) :
    Screened installation (earlier ++ [plugin]) (screening.screen installation plugin) := by
  unfold Screening.screen
  cases valid : validatePluginDef installation plugin with
  | error reason => exact screened.snoc_refused fresh valid
  | ok manifest => exact screened.snoc_accepted fresh valid _

end

private theorem screened (registry : Registry) (seen : List PluginDef) (distinct : (seen.map PluginDef.id).Nodup) :
    Screened installation seen (seen.foldl (Screening.screen installation) { registry }) := by
  induction seen using List.reverseRecOn with
  | nil => exact ⟨fun _ => rfl, fun _ => ⟨fun member => absurd member List.not_mem_nil, by simp⟩, fun _ => rfl⟩
  | append_singleton earlier plugin ih =>
    rw [List.map_append, List.nodup_append] at distinct
    rw [List.foldl_append]
    refine (ih distinct.1).snoc fun member => ?_
    exact distinct.2.2 _ member plugin.id (by simp) rfl

/-- What is known of the plugins whose requirements have been looked up. -/
structure Resolved (installation : Installation) (defs : List PluginDef) (screening : Screening) (seen : List PluginDef)
    (resolution : Resolution) : Prop where
  refused : ∀ id, id ∈ resolution.refused ↔ id ∈ screening.refused ∨
    ∃ plugin, (seen.find? fun plugin => plugin.id == id) = some plugin ∧ acceptable installation defs plugin = false
  deps : ∀ id, (resolution.deps.get id).getD [] = (((seen.find? fun plugin => plugin.id == id).filter
    (acceptable installation defs)).map (requirements installation)).getD []

section
variable {screening : Screening} {earlier : List PluginDef} {resolution : Resolution} {plugin : PluginDef}
  (resolved : Resolved installation defs screening earlier resolution)
include resolved

private theorem Resolved.deps_refused (fresh : plugin.id ∉ earlier.map PluginDef.id) (refused : acceptable installation defs plugin = false) (id : String) :
    (resolution.deps.get id).getD [] = ((((earlier ++ [plugin]).find? fun plugin => plugin.id == id).filter
      (acceptable installation defs)).map (requirements installation)).getD [] := by
  rw [find_snoc fresh, resolved.deps id]
  split
  next here =>
    rw [here, find_absent fresh, Option.filter_some, if_neg (by simp [refused])]
    rfl
  next => rfl

private theorem Resolved.snoc_invalid (fresh : plugin.id ∉ earlier.map PluginDef.id) (known : plugin.id ∈ screening.refused)
    (refused : acceptable installation defs plugin = false) :
    Resolved installation defs screening (earlier ++ [plugin]) resolution := by
  refine ⟨fun id => ?_, resolved.deps_refused fresh refused⟩
  rw [find_snoc fresh]
  refine (resolved.refused id).trans ?_
  split
  next here =>
    subst here
    simp [known]
  next => rfl

private theorem Resolved.snoc_refused (fresh : plugin.id ∉ earlier.map PluginDef.id) (refused : acceptable installation defs plugin = false) :
    Resolved installation defs screening (earlier ++ [plugin])
      { resolution with refused := plugin.id :: resolution.refused } := by
  refine ⟨fun id => ?_, resolved.deps_refused fresh refused⟩
  rw [find_snoc fresh, List.mem_cons, resolved.refused]
  split
  next here => simp [here, refused]
  next apart => simp [apart]

private theorem Resolved.snoc_accepted (fresh : plugin.id ∉ earlier.map PluginDef.id) (accepted : acceptable installation defs plugin = true) :
    Resolved installation defs screening (earlier ++ [plugin])
      { resolution with deps := resolution.deps.insert plugin.id (requirements installation plugin) } := by
  constructor
  · intro id
    rw [find_snoc fresh]
    refine (resolved.refused id).trans ?_
    split
    next here => simp [here, accepted, find_absent fresh]
    next => rfl
  · intro id
    rw [find_snoc fresh, DashMap.get_insert]
    split
    · rw [Option.filter_some, if_pos accepted]
      rfl
    · exact resolved.deps id

theorem Resolved.snoc (screened : Screened installation defs screening)
    (found : (defs.find? fun other => other.id == plugin.id) = some plugin)
    (fresh : plugin.id ∉ earlier.map PluginDef.id) :
    Resolved installation defs screening (earlier ++ [plugin])
      (resolution.resolve screening.manifest (defs.map PluginDef.id) plugin) := by
  have invalid : plugin.id ∈ screening.refused ↔ (validatePluginDef installation plugin).isOk = false := by
    rw [screened.refused, found]
    simp
  have known : plugin.id ∈ resolution.refused ↔ (validatePluginDef installation plugin).isOk = false := by
    rw [resolved.refused, find_absent fresh, ← invalid]
    simp
  have required : ((screening.manifest plugin.id).map InstallManifest.requires).getD [] = requirements installation plugin := by
    rw [screened.manifest, found]
    rfl
  unfold Resolution.resolve
  rw [required]
  cases valid : (validatePluginDef installation plugin).isOk with
  | false =>
    rw [if_pos (by simpa [valid] using known)]
    apply resolved.snoc_invalid fresh (invalid.mpr valid)
    simp only [acceptable, valid, Bool.false_and]
  | true =>
    have accepted : acceptable installation defs plugin =
        !(requirements installation plugin).any fun dep => !(defs.map PluginDef.id).contains dep := by
      simp [acceptable, valid, List.all_eq_not_any_not]
    rw [if_neg (by simpa [valid] using known)]
    dsimp only
    split
    next missing =>
      apply resolved.snoc_refused fresh
      rw [accepted, missing]
      rfl
    next complete =>
      apply resolved.snoc_accepted fresh
      rw [accepted, Bool.eq_false_iff.mpr complete]
      rfl

end

theorem resolved {screening : Screening} (screened : Screened installation defs screening)
    (distinct : (defs.map PluginDef.id).Nodup) (seen : List PluginDef) (known : seen.Sublist defs) :
    Resolved installation defs screening seen
      (seen.foldl (Resolution.resolve screening.manifest (defs.map PluginDef.id)) { refused := screening.refused }) := by
  induction seen using List.reverseRecOn with
  | nil => exact ⟨fun _ => by simp, fun _ => rfl⟩
  | append_singleton earlier plugin ih =>
    rw [List.foldl_append]
    refine (ih ((List.sublist_append_left ..).trans known)).snoc screened (find_id distinct (known.subset (by simp))) ?_
    have apart := (known.map PluginDef.id).nodup distinct
    rw [List.map_append, List.nodup_append] at apart
    exact fun member => apart.2.2 _ member plugin.id (by simp) rfl

private theorem spawn_started (loaded : Loaded) (plugin : PluginDef) (manifest : Option InstallManifest) :
    (loaded.spawn installation plugin manifest).started =
      loaded.started ++ if installation.spawns (configFromDef plugin) then [plugin.id] else [] := by
  unfold Loaded.spawn
  split
  · rfl
  · exact (List.append_nil _).symm

private theorem spawn_lazySpecs (loaded : Loaded) (plugin : PluginDef) (manifest : Option InstallManifest) :
    (loaded.spawn installation plugin manifest).lazySpecs = loaded.lazySpecs := by
  unfold Loaded.spawn
  split <;> rfl

private theorem start_started (secs : Nat) {loaded : Loaded} {plugin : PluginDef}
    (specs : plugin.lazy = true → (loaded.lazySpecs.get plugin.id).getD [] = installation.actionSpecs plugin) :
    (loaded.start installation secs (manifestOf installation plugin) plugin).started =
      loaded.started ++ (if startable installation plugin then [plugin.id] else []) ∧
    ∀ other, other ≠ plugin.id →
      (loaded.start installation secs (manifestOf installation plugin) plugin).lazySpecs.get other =
        loaded.lazySpecs.get other := by
  unfold Loaded.start startable sleeps
  by_cases lazy : plugin.lazy = true
  · rw [if_pos lazy, specs lazy, lazy, Bool.true_and]
    dsimp only
    split
    next eager =>
      rw [eager]
      refine ⟨spawn_started .., fun other apart => ?_⟩
      rw [spawn_lazySpecs, DashMap.get_remove, if_neg apart]
    next dormant =>
      rw [Bool.eq_false_iff.mpr dormant]
      refine ⟨rfl, fun other apart => ?_⟩
      exact (DashMap.get_remove ..).trans (if_neg apart)
  · rw [if_neg lazy, Bool.eq_false_iff.mpr lazy]
    exact ⟨spawn_started .., fun other _ => by rw [spawn_lazySpecs]⟩

private theorem launched {secs : Nat} {screening : Screening} {refused : List String} (screened : Screened installation defs screening)
    (ids : List String) (distinct : ids.Nodup)
    (accepted : ∀ id ∈ ids, id ∉ refused ∧ ∃ plugin, (defs.find? fun plugin => plugin.id == id) = some plugin ∧
      (validatePluginDef installation plugin).isOk = true)
    (loaded : Loaded) (specs : ∀ id ∈ ids, loaded.lazySpecs.get id = screening.lazySpecs.get id) :
    (ids.foldl (Loaded.launch installation secs defs screening refused) loaded).started =
      loaded.started ++ ids.filter (startableId installation defs) := by
  induction ids generalizing loaded with
  | nil => exact (List.append_nil _).symm
  | cons id rest ih =>
    obtain ⟨allowed, plugin, found, valid⟩ := accepted id List.mem_cons_self
    obtain ⟨absent, distinct⟩ := List.nodup_cons.mp distinct
    have named : plugin.id = id := by simpa using List.find?_some found
    have manifest : screening.manifest plugin.id = manifestOf installation plugin := by
      rw [screened.manifest, named, found]
      rfl
    have held : plugin.lazy = true → (loaded.lazySpecs.get plugin.id).getD [] = installation.actionSpecs plugin := by
      intro lazy
      rw [named, specs id List.mem_cons_self, screened.specs, found, Option.filter_some, if_pos (by simp [lazy, valid])]
      rfl
    obtain ⟨started, kept⟩ := start_started secs held
    rw [List.foldl_cons]
    have step : loaded.launch installation secs defs screening refused id =
        loaded.start installation secs (manifestOf installation plugin) plugin := by
      unfold Loaded.launch
      rw [found]
      dsimp only
      rw [if_neg (by simpa using allowed), manifest]
    rw [step, ih distinct (fun id member => accepted id (List.mem_cons_of_mem _ member)), started, List.append_assoc]
    · congr 1
      rw [List.filter_cons, startableId, found, Option.any_some, named]
      split <;> rfl
    · intro other member
      rw [kept other (by rintro rfl; exact absent (named ▸ member)), specs other (List.mem_cons_of_mem _ member)]

theorem passed (distinct : (defs.map PluginDef.id).Nodup) {screening : Screening} {resolution : Resolution}
    (screened : Screened installation defs screening) (resolved : Resolved installation defs screening defs resolution) :
    activeIds defs resolution.refused = acceptedIds installation defs ∧
      activeDeps resolution.deps resolution.refused = dependencies installation defs := by
  have refused : ∀ id, id ∈ resolution.refused ↔
      ∃ plugin, (defs.find? fun plugin => plugin.id == id) = some plugin ∧ acceptable installation defs plugin = false := by
    intro id
    rw [resolved.refused, or_iff_right_of_imp]
    intro invalid
    obtain ⟨plugin, found, fails⟩ := (screened.refused id).mp invalid
    exact ⟨plugin, found, by rw [acceptable, fails, Bool.false_and]⟩
  have ids : activeIds defs resolution.refused = acceptedIds installation defs := by
    unfold activeIds acceptedIds
    rw [List.filter_map]
    congr 1
    apply List.filter_congr
    intro plugin member
    have own := refused plugin.id
    rw [find_id distinct member] at own
    simp only [Option.some.injEq, exists_eq_left'] at own
    cases accepted : acceptable installation defs plugin <;> simp [own, accepted]
  refine ⟨ids, funext fun id => ?_⟩
  unfold activeDeps dependencies requiredBy
  rw [resolved.deps]
  cases found : defs.find? fun plugin => plugin.id == id with
  | none => rw [if_neg fun member => by simpa [found] using (mem_acceptedIds distinct id).mp member]; rfl
  | some plugin =>
    cases accepted : acceptable installation defs plugin with
    | false =>
      rw [if_neg fun member => by simpa [found, accepted] using (mem_acceptedIds distinct id).mp member,
        Option.filter_some, if_neg (by simp [accepted])]
      rfl
    | true =>
      rw [if_pos ((mem_acceptedIds distinct id).mpr ⟨plugin, found, accepted⟩), Option.filter_some, if_pos accepted]
      apply List.filter_congr
      intro dep named
      have known : dep ∈ defs.map PluginDef.id := by
        unfold acceptable at accepted
        exact List.contains_iff_mem.mp (List.all_eq_true.mp (Bool.and_eq_true_iff.mp accepted).2 dep named)
      rw [Bool.eq_iff_iff, List.contains_iff_mem, ← ids, mem_activeIds, and_iff_right known]
      simp

end Passes

section Call
variable {installation : Installation} {defs : List PluginDef}

/-- A call of `load_all` works through the accepted plugins from which no cycle can be reached:
sorted if there is no cycle at all, and as the configuration lists them if there is one. -/
theorem loadAll_started {fuel : Nat} (distinct : (defs.map PluginDef.id).Nodup) (enough : defs.length ≤ fuel)
    (registry : Registry) (bus : Option EventBus) (secs : Nat) :
    ∃ loaded order, loadAll fuel installation defs registry bus secs = some loaded ∧
      loaded.started = order.filter (startableId installation defs) ∧ order.Nodup ∧
      (∀ id, id ∈ order ↔ id ∈ acceptedIds installation defs ∧ ¬ReachesCycle (dependencies installation defs) id) ∧
      (Acyclic (dependencies installation defs) (acceptedIds installation defs) ∧
          Ordered (dependencies installation defs) order ∨
        ¬Acyclic (dependencies installation defs) (acceptedIds installation defs) ∧
          ∃ kept, order = (defs.map PluginDef.id).filter kept) := by
  unfold loadAll
  split
  next empty =>
    cases List.isEmpty_iff.mp empty
    exact ⟨_, [], rfl, rfl, List.nodup_nil, fun id => by simp [acceptedIds], .inl ⟨nofun, .nil⟩⟩
  next =>
    have screened : Screened installation defs (defs.foldl (Screening.screen installation) { registry }) :=
      screened registry defs distinct
    dsimp only
    generalize defs.foldl (Screening.screen installation) { registry } = screening at screened ⊢
    have resolved := resolved screened distinct defs (.refl _)
    generalize defs.foldl (Resolution.resolve screening.manifest (defs.map PluginDef.id)) { refused := screening.refused } =
      resolution at resolved ⊢
    obtain ⟨ids, deps⟩ := passed distinct screened resolved
    have valid : ∀ id ∈ acceptedIds installation defs, ∃ plugin, (defs.find? fun plugin => plugin.id == id) = some plugin ∧
        (validatePluginDef installation plugin).isOk = true := by
      intro id member
      obtain ⟨plugin, found, accepted⟩ := (mem_acceptedIds distinct id).mp member
      exact ⟨plugin, found, (Bool.and_eq_true_iff.mp accepted).1⟩
    have known : ∀ id ∈ activeIds defs resolution.refused, ∀ dep ∈ (resolution.deps.get id).getD [],
        dep ∈ defs.map PluginDef.id := by
      intro id member dep named
      obtain ⟨plugin, found, accepted⟩ := (mem_acceptedIds distinct id).mp (ids ▸ member)
      rw [resolved.deps, found, Option.filter_some, if_pos accepted] at named
      exact List.contains_iff_mem.mp (List.all_eq_true.mp (Bool.and_eq_true_iff.mp accepted).2 dep named)
    have active : ∀ id ∈ acceptedIds installation defs, id ∉ resolution.refused := by
      intro id member
      exact (mem_activeIds.mp (ids ▸ member)).2
    have nodup : (acceptedIds installation defs).Nodup := ids ▸ distinct.filter _
    have outcome := topoSort_spec fuel distinct known enough
    rw [ids, deps] at outcome
    rcases outcome with ⟨order, sorted, perm, ordered, acyclic⟩ | ⟨cycle, failed, sublist, cyclic, exactly⟩
    · rw [sorted]
      refine ⟨_, order, rfl, ?_, perm.nodup_iff.mpr nodup, fun id => ?_, .inl ⟨acyclic, ordered⟩⟩
      · refine launched screened order (perm.nodup_iff.mpr nodup) (fun id member => ?_) _ fun _ _ => rfl
        exact ⟨active id (perm.mem_iff.mp member), valid id (perm.mem_iff.mp member)⟩
      · rw [perm.mem_iff]
        exact (and_iff_left_of_imp fun member => ordered.not_reachesCycle (perm.mem_iff.mpr member)).symm
    · rw [failed]
      have members : ∀ id, id ∈ activeIds defs (cycle ++ resolution.refused) ↔
          id ∈ acceptedIds installation defs ∧ ¬ReachesCycle (dependencies installation defs) id := by
        intro id
        rw [mem_activeIds_append, ids, exactly]
        exact and_congr_right fun accepted => not_congr (and_iff_right accepted)
      have fewer : (activeIds defs (cycle ++ resolution.refused)).Nodup := distinct.filter _
      refine ⟨_, _, rfl, ?_, fewer, members, .inr ⟨cyclic, _, rfl⟩⟩
      refine launched screened _ fewer (fun id member => ?_) _ fun _ _ => rfl
      exact ⟨(mem_activeIds.mp member).2, valid id ((members id).mp member).1⟩

/-- Whatever is started was preceded by all it requires. Nothing is started that depends on a
cycle, on a plugin outside the configuration or on a refused one. -/
structure StartsInOrder (installation : Installation) (defs : List PluginDef) (started : List String) : Prop where
  earlier : Ordered (requiredBy installation defs) started
  acyclic : ∀ id ∈ started, ¬ReachesCycle (requiredBy installation defs) id
  supported : ∀ id ∈ started, ∀ dep, Relation.TransGen (Needs (requiredBy installation defs)) id dep →
    dep ∈ acceptedIds installation defs

/-- Every plugin that can be started requires only plugins that are accepted and can be started,
and that the configuration lists before it if there is a cycle anywhere. -/
def Sustained (installation : Installation) (defs : List PluginDef) : Prop :=
  ∀ id ∈ acceptedIds installation defs, ¬ReachesCycle (dependencies installation defs) id →
    startableId installation defs id = true → ∀ dep ∈ requiredBy installation defs id,
      dep ∈ acceptedIds installation defs ∧ startableId installation defs dep = true ∧
        (Acyclic (dependencies installation defs) (acceptedIds installation defs) ∨
          Before (defs.map PluginDef.id) dep id)

/-- A call starts every plugin after all it requires, and nothing whose requirements cannot be
met, exactly if every requirement of a plugin that it can start is accepted, can be started and,
where a cycle makes it fall back on the configuration, is listed first. -/
theorem plugins_start_in_order (fuel : Nat) (installation : Installation) (defs : List PluginDef) (registry : Registry)
    (bus : Option EventBus) (lazyIdleStopSecs : Nat) (distinct : (defs.map PluginDef.id).Nodup)
    (enough : defs.length ≤ fuel) :
    ∃ loaded, loadAll fuel installation defs registry bus lazyIdleStopSecs = some loaded ∧
      (StartsInOrder installation defs loaded.started ↔ Sustained installation defs) := by
  obtain ⟨loaded, order, returned, started, nodup, members, plan⟩ :=
    @loadAll_started installation defs fuel distinct enough registry bus lazyIdleStopSecs
  have starts : ∀ id, id ∈ loaded.started ↔ (id ∈ acceptedIds installation defs ∧
      ¬ReachesCycle (dependencies installation defs) id) ∧ startableId installation defs id = true := by
    intro id
    rw [started, List.mem_filter, members]
  refine ⟨loaded, returned, fun inOrder => ?_, fun sustained => ?_⟩
  · intro id accepted clear startable dep named
    have before := inOrder.earlier.before ((starts id).mpr ⟨⟨accepted, clear⟩, startable⟩) named
    obtain ⟨⟨known, -⟩, able⟩ := (starts dep).mp (before.subset List.mem_cons_self)
    refine ⟨known, able, plan.imp And.left fun fallback => ?_⟩
    obtain ⟨-, kept, rfl⟩ := fallback
    rw [started] at before
    exact before.trans (List.filter_sublist.trans List.filter_sublist)
  · have earlier : Ordered (requiredBy installation defs) loaded.started := by
      refine .of_before (started ▸ nodup.filter _) fun id member dep named => ?_
      obtain ⟨⟨accepted, clear⟩, startable⟩ := (starts id).mp member
      obtain ⟨known, able, listed⟩ := sustained id accepted clear startable dep named
      have needed : dep ∈ dependencies installation defs id := by
        rw [dependencies, if_pos accepted]
        exact List.mem_filter.mpr ⟨named, List.contains_iff_mem.mpr known⟩
      have free : ¬ReachesCycle (dependencies installation defs) dep := fun reaches => clear (.of_needs needed reaches)
      have planned : Before order dep id := by
        rcases plan with ⟨-, ordered⟩ | ⟨cyclic, kept, rfl⟩
        · exact ordered.before ((members id).mpr ⟨accepted, clear⟩) needed
        · refine (listed.resolve_left cyclic).filter ?_ ?_
          · exact (List.mem_filter.mp ((members dep).mpr ⟨known, free⟩)).2
          · exact (List.mem_filter.mp ((members id).mpr ⟨accepted, clear⟩)).2
      rw [started]
      exact planned.filter able startable
    refine ⟨earlier, fun id member => earlier.not_reachesCycle member, fun id member dep path => ?_⟩
    exact ((starts dep).mp (earlier.inside member path)).1.1

end Call

/-- Manifests that only require, some of them invalid, and plugins that cannot be spawned. -/
def requiring (requires : List (String × List String)) (invalid unspawnable : List String) : Installation where
  manifest plugin :=
    if invalid.contains plugin.id then .error "invalid manifest"
    else .ok ((requires.lookup plugin.id).map fun ids => { requires := ids })
  actionSpecs _ := []
  spawns config := !unspawnable.contains config.pluginId

def configured (ids : List String) : List PluginDef := ids.map fun id => { id }

theorem plugins_start_in_order_pair :
    ∃ loaded, loadAll 2 (requiring [("b", ["a"])] [] []) (configured ["b", "a"]) {} none 0 = some loaded ∧
      loaded.started = ["a", "b"] ∧
      (StartsInOrder (requiring [("b", ["a"])] [] []) (configured ["b", "a"]) loaded.started ↔
        Sustained (requiring [("b", ["a"])] [] []) (configured ["b", "a"])) := by
  obtain ⟨loaded, returned, exactly⟩ :=
    plugins_start_in_order 2 (requiring [("b", ["a"])] [] []) (configured ["b", "a"]) {} none 0 (by decide) (by decide)
  have started : (loadAll 2 (requiring [("b", ["a"])] [] []) (configured ["b", "a"]) {} none 0).map Loaded.started =
      some ["a", "b"] := by decide +kernel
  rw [returned] at started
  exact ⟨loaded, returned, Option.some.inj started, exactly⟩

/-- A plugin is started although what it requires is invalid or does not spawn. Where two other
plugins require each other, it is started before what it requires. -/
theorem started_without_requirement :
    ((loadAll 2 (requiring [("p", ["q"])] ["q"] []) (configured ["p", "q"]) {} none 0).map Loaded.started = some ["p"] ∧
      "q" ∈ requiredBy (requiring [("p", ["q"])] ["q"] []) (configured ["p", "q"]) "p") ∧
    ((loadAll 2 (requiring [("p", ["q"])] [] ["q"]) (configured ["p", "q"]) {} none 0).map Loaded.started = some ["p"] ∧
      "q" ∈ requiredBy (requiring [("p", ["q"])] [] ["q"]) (configured ["p", "q"]) "p") ∧
    ((loadAll 4 (requiring [("p", ["q"]), ("a", ["b"]), ("b", ["a"])] [] []) (configured ["p", "q", "a", "b"]) {} none 0).map
      Loaded.started = some ["p", "q"] ∧
      ¬StartsInOrder (requiring [("p", ["q"]), ("a", ["b"]), ("b", ["a"])] [] []) (configured ["p", "q", "a", "b"])
        ["p", "q"]) := by
  refine ⟨⟨by decide +kernel, by decide +kernel⟩, ⟨by decide +kernel, by decide +kernel⟩, by decide +kernel, fun inOrder => ?_⟩
  exact absurd (inOrder.earlier [] "p" ["q"] rfl "q" (by decide +kernel)) List.not_mem_nil

end Vynkor
