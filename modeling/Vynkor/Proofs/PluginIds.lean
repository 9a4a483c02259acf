import Vynkor.Lib.Text
import Vynkor.Proofs.StartOrder
import Vynkor.Settings

/-! The definitions of a loaded configuration. Drop-ins are checked against everything before
them, the definitions of the file itself are not checked against each other. -/

namespace Vynkor
open Lib

/-- The files whose definitions are added. -/
def dropinNames (files : Files) (dir : Bytes) : List Bytes :=
  if files.isDir dir then
    match files.readDir dir with
    | .ok entries => (entries.filterMap Except.toOption).filter isYaml
    | .error _ => []
  else []

def Defines (files : Files) (dir name : Bytes) (plugin : PluginDef) : Prop :=
  ∃ content, files.readToString (Paths.join dir name) = .ok content ∧ files.parsePluginDef content = .ok plugin

/-- The definitions of the directory's files, in the order of the file names. -/
def InFileOrder (files : Files) (dir : Bytes) (dropins : List PluginDef) : Prop :=
  ∃ names, names.Perm (dropinNames files dir) ∧ names.Pairwise (· ≤ ·) ∧ List.Forall₂ (Defines files dir) names dropins

/-- The kernel's table and the loader go by this definition. -/
def GoverningDefinition (plugins : List PluginDef) (plugin : PluginDef) : Prop :=
  (configPermissions plugins).get plugin.id = some plugin.permissions ∧
    ∀ installation lazyIdleStopSecs screening refused loaded,
      Loaded.launch installation lazyIdleStopSecs plugins screening refused loaded plugin.id =
        if refused.contains plugin.id then loaded
        else loaded.start installation lazyIdleStopSecs (screening.manifest plugin.id) plugin

section Dropins
variable {files : Files} {dir name : Bytes} {before after : KernelConfig}

private theorem mergeDropin_eq_ok (merged : mergeDropin files dir before name = .ok after) :
    ∃ plugin, Defines files dir name plugin ∧ plugin.id ∉ before.plugins.map PluginDef.id ∧
      after.plugins = before.plugins ++ [plugin] := by
  obtain ⟨content, read, merged⟩ := bind_eq_ok.mp merged
  obtain ⟨plugin, parsed, merged⟩ := bind_eq_ok.mp merged
  obtain ⟨fresh, merged⟩ := guard_eq_ok.mp merged
  cases merged
  refine ⟨plugin, ⟨content, read, mapError_eq_ok.mp parsed⟩, ?_, rfl⟩
  simpa using fresh

private theorem foldlM_mergeDropin {names : List Bytes} (merged : names.foldlM (mergeDropin files dir) before = .ok after) :
    ∃ dropins, after.plugins = before.plugins ++ dropins ∧ List.Forall₂ (Defines files dir) names dropins ∧
      ((after.plugins.map PluginDef.id).Nodup ↔ (before.plugins.map PluginDef.id).Nodup) := by
  induction names generalizing before with
  | nil =>
    cases merged
    exact ⟨[], (List.append_nil _).symm, .nil, Iff.rfl⟩
  | cons name names ih =>
    rw [List.foldlM_cons] at merged
    obtain ⟨middle, first, rest⟩ := bind_eq_ok.mp merged
    obtain ⟨plugin, defined, fresh, added⟩ := mergeDropin_eq_ok first
    obtain ⟨dropins, whole, defines, distinct⟩ := ih rest
    -- the new id is compared with all before it, so distinct ids stay distinct
    refine ⟨plugin :: dropins, ?_, .cons defined defines, ?_⟩
    · rw [whole, added, List.append_assoc]
      rfl
    · rw [distinct, added, List.map_append, List.map_singleton, List.nodup_append_comm, List.singleton_append,
        List.nodup_cons]
      exact and_iff_right fresh

private theorem pairwise_sortedNames (names : List Bytes) :
    (names.mergeSort fun first second => decide (first ≤ second)).Pairwise (· ≤ ·) := by
  refine (List.pairwise_mergeSort ?_ ?_ names).imp of_decide_eq_true
  · intro first second third lower upper
    exact decide_eq_true (List.le_trans (of_decide_eq_true lower) (of_decide_eq_true upper))
  · intro first second
    simpa using List.le_total first second

private theorem mergePluginDropins_eq_ok (merged : mergePluginDropins files dir before = .ok after) :
    ∃ dropins, after.plugins = before.plugins ++ dropins ∧ InFileOrder files dir dropins ∧
      ((after.plugins.map PluginDef.id).Nodup ↔ (before.plugins.map PluginDef.id).Nodup) := by
  unfold mergePluginDropins at merged
  cases isDir : files.isDir dir with
  | false =>
    rw [isDir] at merged
    cases merged
    refine ⟨[], (List.append_nil _).symm, ⟨[], ?_, .nil, .nil⟩, Iff.rfl⟩
    unfold dropinNames
    rw [isDir]
    exact List.Perm.refl _
  | true =>
    rw [isDir] at merged
    obtain ⟨entries, listed, merged⟩ := bind_eq_ok.mp merged
    obtain ⟨dropins, whole, defines, distinct⟩ := foldlM_mergeDropin merged
    refine ⟨dropins, whole, ⟨_, ?_, ?_, defines⟩, distinct⟩
    · unfold dropinNames
      rw [isDir, if_pos rfl, listed]
      exact List.mergeSort_perm _ _
    · exact pairwise_sortedNames _

end Dropins

private theorem get_configPermissions {plugins : List PluginDef} {plugin : PluginDef} (member : plugin ∈ plugins)
    (distinct : (plugins.map PluginDef.id).Nodup) :
    (configPermissions plugins).get plugin.id = some plugin.permissions := by
  unfold configPermissions
  -- from the right, since the last insertion decides
  induction plugins using List.reverseRecOn with
  | nil => cases member
  | append_singleton earlier last ih =>
    rw [List.foldl_append, List.foldl_cons, List.foldl_nil, DashMap.get_insert]
    rw [List.map_append, List.nodup_append] at distinct
    obtain ⟨distinctEarlier, _, apart⟩ := distinct
    rcases List.mem_append.mp member with inside | here
    · rw [if_neg (fun same => apart plugin.id (List.mem_map_of_mem inside) last.id (by simp) same)]
      exact ih inside distinctEarlier
    · cases List.mem_singleton.mp here
      rw [if_pos rfl]

private theorem governing_of_distinct {plugins : List PluginDef} (distinct : (plugins.map PluginDef.id).Nodup) {plugin : PluginDef}
    (member : plugin ∈ plugins) : GoverningDefinition plugins plugin := by
  refine ⟨get_configPermissions member distinct, fun installation lazyIdleStopSecs screening refused loaded => ?_⟩
  unfold Loaded.launch
  rw [find_id distinct member]

private theorem loadConfig_eq_ok {files : Files} {path : String} {config : KernelConfig} (loaded : loadConfig files path = .ok config) :
    ∃ content parsed merged, files.readToString (TextField.encoded path) = .ok content ∧
      files.parseConfig content = .ok parsed ∧ merged.plugins = config.plugins ∧
      mergePluginDropins files (resolvePluginsDir files (TextField.encoded path) parsed.pluginsDir)
        { parsed with
          configFile := some path
          pluginsDir := some (resolvePluginsDir files (TextField.encoded path) parsed.pluginsDir) } = .ok merged := by
  obtain ⟨content, read, loaded⟩ := bind_eq_ok.mp loaded
  obtain ⟨parsed, parse, loaded⟩ := bind_eq_ok.mp loaded
  obtain ⟨merged, merge, clamped⟩ := bind_eq_ok.mp loaded
  cases clamped
  exact ⟨content, parsed, merged, read, parse, rfl, merge⟩

/-- The definitions of the file come first and those of the directory follow by file name. They
have distinct ids, so that kernel and loader go by the same ones, if and only if those of the file
do: nothing compares these with each other. -/
theorem loaded_definitions_unique (files : Files) (path : String) (config : KernelConfig)
    (loaded : loadConfig files path = .ok config) :
    ∃ content parsed, files.readToString (TextField.encoded path) = .ok content ∧
      files.parseConfig content = .ok parsed ∧
      (∃ dropins, config.plugins = parsed.plugins ++ dropins ∧
        InFileOrder files (resolvePluginsDir files (TextField.encoded path) parsed.pluginsDir) dropins) ∧
      (((config.plugins.map PluginDef.id).Nodup ∧
          ∀ plugin ∈ config.plugins, GoverningDefinition config.plugins plugin) ↔
        (parsed.plugins.map PluginDef.id).Nodup) := by
  obtain ⟨content, parsed, merged, read, parse, same, merge⟩ := loadConfig_eq_ok loaded
  obtain ⟨dropins, whole, ordered, distinct⟩ := mergePluginDropins_eq_ok merge
  rw [same] at whole distinct
  refine ⟨content, parsed, read, parse, ⟨dropins, whole, ordered⟩, ?_⟩
  rw [← distinct]
  constructor
  · rintro ⟨unique, _⟩
    exact unique
  · intro unique
    exact ⟨unique, fun plugin => governing_of_distinct unique⟩

/-- One definition in the file, two beside it, listed against the order of their names. -/
def officeFiles : Files where
  readToString path := .ok (Paths.display path)
  isDir _ := true
  readDir _ := .ok [.ok (TextField.encoded "b.yaml"), .ok (TextField.encoded "notes.txt"),
    .ok (TextField.encoded "a.yml")]
  parent _ := some (TextField.encoded "/etc")
  parseConfig _ := .ok { plugins := [{ id := "mail" }] }
  parsePluginDef content := .ok { id := content }

def officeConfig : KernelConfig :=
  { plugins := [{ id := "mail" }, { id := "/etc/plugins.d/a.yml" }, { id := "/etc/plugins.d/b.yaml" }]
    pluginsDir := some (TextField.encoded "/etc/plugins.d")
    configFile := some "/etc/vynkor.yaml" }

private theorem sortedNames_office : ([TextField.encoded "b.yaml", TextField.encoded "a.yml"].mergeSort fun first second =>
    decide (first ≤ second)) = [TextField.encoded "a.yml", TextField.encoded "b.yaml"] := by
  have later : ¬ TextField.encoded "b.yaml" ≤ TextField.encoded "a.yml" := by decide
  simp [List.mergeSort, later]

private theorem loadConfig_office : loadConfig officeFiles "/etc/vynkor.yaml" = .ok officeConfig := by
  have merge : mergePluginDropins officeFiles (TextField.encoded "/etc/plugins.d")
      { plugins := [{ id := "mail" }]
        pluginsDir := some (TextField.encoded "/etc/plugins.d")
        configFile := some "/etc/vynkor.yaml" } = .ok officeConfig := by
    refine bind_eq_ok.mpr ⟨_, rfl, ?_⟩
    change List.foldlM _ _ ([TextField.encoded "b.yaml", TextField.encoded "a.yml"].mergeSort _) = _
    rw [sortedNames_office]
    decide +kernel
  exact bind_eq_ok.mpr ⟨_, rfl, bind_eq_ok.mpr ⟨_, rfl, bind_eq_ok.mpr ⟨officeConfig, merge, rfl⟩⟩⟩

theorem loaded_definitions_unique_office :
    loadConfig officeFiles "/etc/vynkor.yaml" = .ok officeConfig ∧
      ∀ plugin ∈ officeConfig.plugins, GoverningDefinition officeConfig.plugins plugin := by
  refine ⟨loadConfig_office, ?_⟩
  obtain ⟨_, parsed, _, parse, _, unique⟩ :=
    loaded_definitions_unique officeFiles "/etc/vynkor.yaml" officeConfig loadConfig_office
  cases parse
  exact (unique.mpr (by decide)).2

def repeatedFiles : Files where
  readToString _ := .ok "plugins"
  isDir _ := false
  readDir _ := .error "not a directory"
  parent _ := some (TextField.encoded "/etc")
  parseConfig _ := .ok { plugins := [{ id := "mail" }, { id := "mail", permissions := ["PERMISSION_KERNEL_ADMIN"] }] }
  parsePluginDef _ := .error "no definition"

/-- The configuration loads. The loader starts the first definition and the kernel allows it what
the second one lists. -/
theorem repeated_id_loads : ∃ config,
    loadConfig repeatedFiles "/etc/vynkor.yaml" = .ok config ∧
      config.plugins.map PluginDef.id = ["mail", "mail"] ∧
      config.plugins.find? (fun plugin => plugin.id == "mail") = some { id := "mail" } ∧
      (configPermissions config.plugins).get "mail" = some ["PERMISSION_KERNEL_ADMIN"] := by
  exact ⟨_, rfl, rfl, rfl, by decide⟩

end Vynkor
