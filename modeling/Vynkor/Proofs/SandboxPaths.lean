import Vynkor.Sandbox

/-! Path lists on their way to the shim. A path comes through if it is text and does not
contain the separator; otherwise the shim restricts the plugin to other paths. -/

namespace Vynkor
open Lib

def Transmissible (path : Bytes) : Prop := (∃ text, TextField.encoded text = path) ∧ UInt8.ofNat 31 ∉ path

private theorem transmissible_encoded {text : String} : Transmissible (TextField.encoded text) ↔ pathSep ∉ text.toList := by
  unfold Transmissible
  rw [TextField.ofNat_mem_encoded (by omega)]
  exact ⟨And.right, fun absent => ⟨⟨text, rfl⟩, absent⟩⟩

private theorem encoded_eq_nil {text : String} : TextField.encoded text = [] ↔ text.toList = [] := by
  constructor
  · intro empty
    rw [← Utf8.lossy_encoded text, empty]
    rfl
  · intro empty
    unfold TextField.encoded
    rw [empty]
    rfl

private theorem transmissible_of_mem_parse {env : Environment} {name : String} {path : Bytes}
    (member : path ∈ parsePathsEnv env name) : Transmissible path := by
  unfold parsePathsEnv at member
  split at member
  · cases member
  next value set =>
    obtain ⟨piece, kept, rfl⟩ := List.mem_map.mp member
    rw [transmissible_encoded, String.toList_ofList]
    exact Text.not_mem_of_mem_splitOn (List.mem_filter.mp kept).1

private theorem parse_join_encoded {env : Environment} {name : String} {texts : List String}
    (solid : ∀ text ∈ texts, text.toList ≠ []) (absent : ∀ text ∈ texts, pathSep ∉ text.toList)
    (set : env name = some (joinPathsEnv (texts.map TextField.encoded))) :
    parsePathsEnv env name = texts.map TextField.encoded := by
  have shown : (texts.map TextField.encoded).map Paths.display = texts := by
    simp [Function.comp_def, Paths.display_encoded]
  unfold parsePathsEnv
  rw [set]
  dsimp only
  unfold joinPathsEnv
  rw [shown, String.toList_intercalate, String.toList_singleton]
  cases texts with
  | nil => rfl
  | cons first rest =>
    rw [List.splitOn_intercalate]
    · rw [List.filter_eq_self.mpr]
      · simp [Function.comp_def]
      · intro piece member
        obtain ⟨text, listed, rfl⟩ := List.mem_map.mp member
        simpa using solid text listed
    · intro piece member
      obtain ⟨text, listed, rfl⟩ := List.mem_map.mp member
      exact absent text listed
    · exact List.cons_ne_nil _ _

private theorem exists_texts {paths : List Bytes} (text : ∀ path ∈ paths, ∃ text, TextField.encoded text = path) :
    ∃ texts : List String, texts.map TextField.encoded = paths := by
  induction paths with
  | nil => exact ⟨[], rfl⟩
  | cons path paths ih =>
    obtain ⟨first, rfl⟩ := text path List.mem_cons_self
    obtain ⟨texts, rfl⟩ := ih fun path member => text path (List.mem_cons_of_mem _ member)
    exact ⟨first :: texts, rfl⟩

private theorem parse_join_iff {env : Environment} {name : String} {paths : List Bytes} (solid : ∀ path ∈ paths, path ≠ [])
    (set : env name = some (joinPathsEnv paths)) :
    parsePathsEnv env name = paths ↔ ∀ path ∈ paths, Transmissible path := by
  constructor
  · intro same path member
    rw [← same] at member
    exact transmissible_of_mem_parse member
  · intro carried
    obtain ⟨texts, rfl⟩ := exists_texts fun path member => (carried path member).1
    refine parse_join_encoded ?_ ?_ set
    · intro text member empty
      exact solid _ (List.mem_map_of_mem member) (encoded_eq_nil.mpr empty)
    · intro text member
      exact transmissible_encoded.mp (carried _ (List.mem_map_of_mem member))

private theorem FsAccessMode.parse_asStr (mode : FsAccessMode) : parse mode.asStr = some mode := by
  cases mode <;> rfl

private theorem foldl_set_of_absent {entries : List (String × String)} {env : Environment} {name : String}
    (absent : ∀ entry ∈ entries, entry.1 ≠ name) :
    (entries.foldl (fun env entry => env.set entry.1 entry.2) env) name = env name := by
  induction entries generalizing env with
  | nil => rfl
  | cons entry entries ih =>
    rw [List.foldl_cons, ih fun later member => absent later (List.mem_cons_of_mem _ member)]
    exact Function.update_of_ne (absent entry List.mem_cons_self).symm ..

section Shim
variable {inherited : Environment} {socketPath : String} {macOverride : Option String} {dataDir : Option Bytes}
  {creates : Bytes → Bool} {config : SandboxConfig}

private theorem shimEnv_restriction (restricted : config.maxFsAccess ≠ .full)
    (unset : ∀ entry ∈ mergedEnv config.env macOverride, entry.1 ∉ [maxFsAccessEnv, roPathsEnv, rwPathsEnv]) :
    let env := shimEnv inherited socketPath macOverride dataDir creates config
    env maxFsAccessEnv = some config.maxFsAccess.asStr ∧ env roPathsEnv = some (joinPathsEnv config.readonlyPaths) ∧
      env rwPathsEnv = some (joinPathsEnv (grantDataDir dataDir creates config).1) := by
  intro env
  have lasting : ∀ name ∈ [maxFsAccessEnv, roPathsEnv, rwPathsEnv],
      ∀ entry ∈ mergedEnv config.env macOverride, entry.1 ≠ name := by
    rintro name listed entry member rfl
    exact unset entry member listed
  have names : maxFsAccessEnv = "VYN_MAX_FS_ACCESS" ∧ roPathsEnv = "VYN_RO_PATHS" ∧ rwPathsEnv = "VYN_RW_PATHS" :=
    ⟨rfl, rfl, rfl⟩
  refine ⟨(foldl_set_of_absent (lasting _ (by simp))).trans ?_, (foldl_set_of_absent (lasting _ (by simp))).trans ?_,
    (foldl_set_of_absent (lasting _ (by simp))).trans ?_⟩
  all_goals
    rw [if_pos restricted]
    cases (grantDataDir dataDir creates config).2 with
    | none | some => simp [Environment.set, names]

private theorem join_ne_nil {base name : Bytes} (solid : base ≠ [] ∨ name ≠ []) : Paths.join base name ≠ [] := by
  unfold Paths.join
  split
  next absolute =>
    rintro rfl
    cases absolute
  · split
    · intro empty
      obtain ⟨noBase, noName⟩ := List.append_eq_nil_iff.mp empty
      exact solid.elim (absurd noBase) (absurd noName)
    · exact fun empty => absurd empty (by simp)

private theorem granted_ne_nil (solid : ∀ path ∈ config.writablePaths, path ≠ []) :
    ∀ path ∈ (grantDataDir dataDir creates config).1, path ≠ [] := by
  unfold grantDataDir
  cases dataDir with
  | none => exact solid
  | some dir =>
    dsimp only
    split
    · intro path member
      rcases List.mem_append.mp member with listed | data
      · exact solid path listed
      · cases List.mem_singleton.mp data
        exact join_ne_nil (.inl (join_ne_nil (.inr (by decide))))
    · exact solid

private theorem fromEnv_shimEnv (restricted : config.maxFsAccess ≠ .full)
    (solid : ∀ path ∈ config.readonlyPaths ++ config.writablePaths, path ≠ [])
    (unset : ∀ entry ∈ mergedEnv config.env macOverride, entry.1 ∉ [maxFsAccessEnv, roPathsEnv, rwPathsEnv]) :
    fromEnv (shimEnv inherited socketPath macOverride dataDir creates config) =
        some ⟨config.maxFsAccess, config.readonlyPaths, (grantDataDir dataDir creates config).1⟩ ↔
      ∀ path ∈ config.readonlyPaths ++ (grantDataDir dataDir creates config).1, Transmissible path := by
  obtain ⟨mode, readonly, writable⟩ := @shimEnv_restriction inherited socketPath macOverride dataDir creates config
    restricted unset
  obtain ⟨solidReadonly, solidWritable⟩ := List.forall_mem_append.mp solid
  unfold fromEnv
  rw [mode, Option.bind_some, FsAccessMode.parse_asStr]
  dsimp only
  rw [if_neg restricted, Option.some.injEq, FsRestriction.mk.injEq, List.forall_mem_append,
    parse_join_iff solidReadonly readonly, parse_join_iff (granted_ne_nil solidWritable) writable]
  exact and_iff_right rfl

end Shim

/-- A list of paths is read as it was written if and only if every path is UTF-8 and free of the
separator. With such paths, and only with such, the shim gets the restriction that was configured,
and makes its rules. -/
theorem sandbox_paths_round_trip (env : Environment) (name : String) (paths : List Bytes)
    (solid : ∀ path ∈ paths, path ≠ []) (written : env name = some (joinPathsEnv paths)) :
    (parsePathsEnv env name = paths ↔ ∀ path ∈ paths, Transmissible path) ∧
    ∀ inherited socketPath macOverride dataDir creates (config : SandboxConfig), config.maxFsAccess ≠ .full →
      (∀ path ∈ config.readonlyPaths ++ config.writablePaths, path ≠ []) →
      (∀ entry ∈ mergedEnv config.env macOverride, entry.1 ∉ [maxFsAccessEnv, roPathsEnv, rwPathsEnv]) →
      let env := shimEnv inherited socketPath macOverride dataDir creates config
      let granted := (grantDataDir dataDir creates config).1
      let configured : FsRestriction := ⟨config.maxFsAccess, config.readonlyPaths, granted⟩
      (fromEnv env = some configured ↔ ∀ path ∈ config.readonlyPaths ++ granted, Transmissible path) ∧
      ((∀ path ∈ config.readonlyPaths ++ granted, Transmissible path) → ∀ table binaryDir socket,
        (fromEnv env).map (fun restriction => landlockRules table restriction binaryDir socket) =
          some (landlockRules table configured binaryDir socket)) := by
  refine ⟨parse_join_iff solid written, ?_⟩
  intro inherited socketPath macOverride dataDir creates config restricted allSolid unset env granted configured
  have arrives := @fromEnv_shimEnv inherited socketPath macOverride dataDir creates config restricted allSolid unset
  refine ⟨arrives, fun carried table binaryDir socket => ?_⟩
  rw [arrives.mpr carried]
  rfl

/-- A plugin that may read its sources and write to one directory. -/
def builderConfig : SandboxConfig where
  pluginId := "builder"
  maxFsAccess := .readOnly
  readonlyPaths := [TextField.encoded "/usr/src"]
  writablePaths := [TextField.encoded "/srv/out"]

theorem sandbox_paths_round_trip_builder :
    parsePathsEnv (fun _ => some (joinPathsEnv [TextField.encoded "/usr/src", TextField.encoded "/srv/out"])) roPathsEnv =
        [TextField.encoded "/usr/src", TextField.encoded "/srv/out"] ∧
      fromEnv (shimEnv (fun _ => none) "/run/vyn.sock" none none (fun _ => true) builderConfig) =
        some ⟨.readOnly, [TextField.encoded "/usr/src"], [TextField.encoded "/srv/out"]⟩ := by
  have carried : ∀ path ∈ [TextField.encoded "/usr/src", TextField.encoded "/srv/out"], Transmissible path := by
    intro path member
    rcases List.mem_pair.mp member with rfl | rfl <;> exact transmissible_encoded.mpr (by decide +kernel)
  obtain ⟨list, shim⟩ := sandbox_paths_round_trip
    (fun _ => some (joinPathsEnv [TextField.encoded "/usr/src", TextField.encoded "/srv/out"])) roPathsEnv
    [TextField.encoded "/usr/src", TextField.encoded "/srv/out"] (by decide +kernel) rfl
  exact ⟨list.mpr carried, (shim (fun _ => none) "/run/vyn.sock" none none (fun _ => true) builderConfig (by decide)
    (by decide +kernel) (by decide +kernel)).1.mpr carried⟩

/-- A separator in a writable path makes two paths of it, the second one outside of the first; a
byte that is not UTF-8 makes it another path. -/
theorem separator_splits_path :
    let written (path : Bytes) : Environment := fun _ => some (joinPathsEnv [path])
    parsePathsEnv (written (TextField.encoded "/srv/out" ++ 31 :: TextField.encoded "/etc")) rwPathsEnv =
        [TextField.encoded "/srv/out", TextField.encoded "/etc"] ∧
      parsePathsEnv (written (TextField.encoded "/srv/" ++ [255])) rwPathsEnv =
        [TextField.encoded "/srv/" ++ [239, 191, 189]] := by
  decide +kernel

end Vynkor
