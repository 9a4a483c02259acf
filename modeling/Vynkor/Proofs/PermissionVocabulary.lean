import Mathlib
import Vynkor.Loader
import Vynkor.Proofs.GrantedPermissions

/-! The permissions that an action requires and those that a plugin holds are written in the
same words: what the loader resolves is what the check compares. -/

namespace Vynkor
open Lib

/-- The form of every name of the enumeration, also of those that may be added to it. -/
def IsPermissionName (name : String) : Prop :=
  Text.startsWith name "PERMISSION_" = true ∧ Text.toAsciiUppercase name = name

instance (name : String) : Decidable (IsPermissionName name) := inferInstanceAs (Decidable (_ ∧ _))

/-- The name under which the loader looks a permission up. -/
def requirementName (text : String) : String :=
  "PERMISSION_" ++ Text.toAsciiUppercase ((Text.stripPrefix text "PERMISSION_").getD text)

private theorem uppercase_lowercase (text : String) :
    Text.toAsciiUppercase (Text.toAsciiLowercase text) = Text.toAsciiUppercase text := by
  simp [Text.toAsciiUppercase, Text.toAsciiLowercase, Function.comp_def]

private theorem lowercase_uppercase (text : String) :
    Text.toAsciiLowercase (Text.toAsciiUppercase text) = Text.toAsciiLowercase text := by
  simp [Text.toAsciiUppercase, Text.toAsciiLowercase, Function.comp_def]

private theorem lowercase_eq_iff {first second : String} :
    Text.toAsciiLowercase first = Text.toAsciiLowercase second ↔
      Text.toAsciiUppercase first = Text.toAsciiUppercase second := by
  constructor
  · intro same
    rw [← uppercase_lowercase first, same, uppercase_lowercase]
  · intro same
    rw [← lowercase_uppercase first, same, lowercase_uppercase]

private theorem requirementName_eq_iff {text name : String} (proper : IsPermissionName name) :
    requirementName text = name ↔ normalizePermission text = normalizePermission name := by
  obtain ⟨starts, upper⟩ := proper
  obtain ⟨rest, rfl⟩ := Text.startsWith_iff.mp starts
  have front : Text.toAsciiUppercase "PERMISSION_" = "PERMISSION_" := by decide +kernel
  rw [Text.uppercase_append, front, String.append_right_inj] at upper
  unfold requirementName normalizePermission
  rw [String.append_right_inj, Text.stripPrefix_append, Option.getD_some, lowercase_eq_iff, upper]

namespace PermissionType

private theorem isPermissionName (permission : PermissionType) : IsPermissionName permission.asStrName := by
  cases permission <;> decide +kernel

private theorem mem_known {permission : PermissionType} : permission ∈ known ↔ permission ≠ .permissionUnknown := by
  cases permission <;> decide

private theorem asStrName_inj : ∀ first ∈ known, ∀ second ∈ known, first.asStrName = second.asStrName → first = second := by
  decide +kernel

end PermissionType

private theorem resolvePermission_eq_some {text : String} {permission : PermissionType} :
    resolvePermission text = some permission ↔
      permission ≠ .permissionUnknown ∧ requirementName text = permission.asStrName := by
  change PermissionType.known.find? (fun other => other.asStrName == requirementName text) = some permission ↔ _
  rw [← PermissionType.mem_known]
  constructor
  · intro found
    have named := List.find?_some found
    rw [beq_iff_eq] at named
    exact ⟨List.mem_of_find?_eq_some found, named.symm⟩
  · rintro ⟨known, named⟩
    cases found : PermissionType.known.find? fun other => other.asStrName == requirementName text with
    | none =>
      have missing := List.find?_eq_none.mp found permission known
      exact absurd (beq_iff_eq.mpr named.symm) missing
    | some other =>
      have same := List.find?_some found
      rw [beq_iff_eq, named] at same
      rw [PermissionType.asStrName_inj other (List.mem_of_find?_eq_some found) permission known same]

private theorem declared_of_requirement {manifest : InstallManifest} {action : String} {permission : PermissionType}
    (required : (declaredRequirements manifest).get action = some permission) :
    ∃ text, (⟨action, some text⟩ : ManifestAction) ∈ manifest.actions.getD [] ∧
      resolvePermission text = some permission := by
  unfold declaredRequirements at required
  generalize manifest.actions.getD [] = actions at required ⊢
  -- from the last declaration to the first: the last of a name decides
  induction actions using List.reverseRecOn with
  | nil => cases (DashMap.get_empty action).symm.trans required
  | append_singleton earlier last ih =>
    have before := fun held => (ih held).imp fun text => And.imp_left (List.mem_append_left [last])
    rw [List.foldl_append, List.foldl_cons, List.foldl_nil] at required
    cases resolved : last.permission.bind resolvePermission with
    | none =>
      rw [resolved] at required
      exact before required
    | some newest =>
      rw [resolved] at required
      dsimp only at required
      rw [DashMap.get_insert] at required
      split at required
      next named =>
        cases required
        obtain ⟨text, written, resolves⟩ := Option.bind_eq_some_iff.mp resolved
        refine ⟨text, List.mem_append_right _ (List.mem_singleton.mpr ?_), resolves⟩
        obtain ⟨name, spec⟩ := last
        cases named
        cases written
        rfl
      next => exact before required

private theorem checkPermission_eq_ok {registry : Registry} {pluginId : String} {required : PermissionType} :
    checkPermission registry pluginId required = .ok () ↔ ∃ entry, registry.get pluginId = some entry ∧
      ∃ held ∈ entry.manifest.permissions, normalizePermission held = normalizePermission required.asStrName := by
  cases present : registry.get pluginId with
  | none =>
    unfold checkPermission
    rw [present]
    simp
  | some entry =>
    rw [checkPermission_iff present]
    simp

/-- Resolving a permission and normalizing it distinguish the same texts, for every name the
enumeration can have; a plugin satisfies a requirement of the loader exactly if it holds a
permission that normalizes as the one declared. -/
theorem permission_vocabulary_agrees :
    (∀ text name, IsPermissionName name →
      (requirementName text = name ↔ normalizePermission text = normalizePermission name)) ∧
    (∀ text permission, resolvePermission text = some permission ↔
      permission ≠ .permissionUnknown ∧ normalizePermission text = normalizePermission permission.asStrName) ∧
    ∀ manifest action permission, (declaredRequirements manifest).get action = some permission →
      ∃ text, (⟨action, some text⟩ : ManifestAction) ∈ manifest.actions.getD [] ∧
        resolvePermission text = some permission ∧
        ∀ (registry : Registry) pluginId, checkPermission registry pluginId permission = .ok () ↔
          ∃ entry, registry.get pluginId = some entry ∧
            ∃ held ∈ entry.manifest.permissions, normalizePermission held = normalizePermission text := by
  have resolves : ∀ text permission, resolvePermission text = some permission ↔
      permission ≠ .permissionUnknown ∧ normalizePermission text = normalizePermission permission.asStrName := by
    intro text permission
    rw [resolvePermission_eq_some, requirementName_eq_iff permission.isPermissionName]
  refine ⟨fun text name => requirementName_eq_iff, resolves, fun manifest action permission required => ?_⟩
  obtain ⟨text, declared, resolved⟩ := declared_of_requirement required
  refine ⟨text, declared, resolved, fun registry pluginId => ?_⟩
  rw [checkPermission_eq_ok, ((resolves text permission).mp resolved).2]

/-- An action that requires the network, with a spelling of its own. -/
def fetchManifest : InstallManifest := { actions := some [⟨"fetch", some "PERMISSION_network"⟩] }

theorem permission_vocabulary_agrees_fetch :
    resolvePermission "PERMISSION_network" = some .permissionNetwork ∧
      ∀ (registry : Registry) pluginId, checkPermission registry pluginId .permissionNetwork = .ok () ↔
        ∃ entry, registry.get pluginId = some entry ∧
          ∃ held ∈ entry.manifest.permissions, normalizePermission held = normalizePermission "PERMISSION_network" := by
  obtain ⟨_, resolves, required⟩ := permission_vocabulary_agrees
  refine ⟨(resolves _ _).mpr ⟨by decide, by decide +kernel⟩, ?_⟩
  obtain ⟨text, declared, _, satisfied⟩ := required fetchManifest "fetch" .permissionNetwork (by decide +kernel)
  cases List.mem_singleton.mp declared
  exact satisfied

end Vynkor
