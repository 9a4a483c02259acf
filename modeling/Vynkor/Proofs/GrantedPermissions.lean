import Vynkor.Proofs.RouterCases

/-! What a registration grants: the permissions that the token claims, or the manifest where
tokens are not checked, as far as the operator's list allows them. -/

namespace Vynkor
open Lib

def claimedPermissions (config : Config) (clock : Clock) (register : PluginRegister) : List String :=
  match config.jwtValidator with
  | none => (register.manifest.getD {}).permissions
  | some validate =>
    match validate clock register.jwtToken with
    | .ok claims => claims.permissions
    | .error _ => []

theorem authenticate_permissions {config : Config} {clock : Clock} {register : PluginRegister} {manifest : PluginManifest}
    (authentic : authenticate config clock register (register.manifest.getD {}) = .ok manifest) :
    manifest.permissions = claimedPermissions config clock register := by
  unfold authenticate at authentic
  unfold claimedPermissions
  cases checked : config.jwtValidator with
  | none =>
    rw [checked] at authentic
    cases authentic
    rfl
  | some validate =>
    rw [checked] at authentic
    dsimp only at authentic ⊢
    cases valid : validate clock register.jwtToken with
    | error reason =>
      rw [valid] at authentic
      cases authentic
    | ok claims =>
      rw [valid] at authentic
      dsimp only at authentic
      split at authentic
      · cases authentic
      · cases authentic
        rfl

theorem mem_clampPermissions {config : Config} {pluginId : String} {manifest : PluginManifest} {held : String} :
    held ∈ (clampPermissions config pluginId manifest).permissions ↔ held ∈ manifest.permissions ∧
      ∀ allowed, (config.configPermissions.bind fun table => table pluginId) = some allowed → allowed ≠ [] →
        normalizePermission held ∈ allowed.map normalizePermission := by
  unfold clampPermissions
  cases config.configPermissions.bind fun table => table pluginId with
  | none => simp
  | some allowed =>
    dsimp only
    by_cases empty : allowed = []
    · subst empty
      simp
    · rw [if_neg (by simpa using empty), List.mem_filter, List.contains_iff_mem]
      refine and_congr_right fun _ => ⟨fun passes other same _ => ?_, fun every => every allowed rfl empty⟩
      cases same
      exact passes

theorem checkPermission_iff {registry : Registry} {pluginId : String} {entry : PluginEntry}
    (present : registry.get pluginId = some entry) (required : PermissionType) :
    checkPermission registry pluginId required = .ok () ↔
      ∃ held ∈ entry.manifest.permissions, normalizePermission held = normalizePermission required.asStrName := by
  unfold checkPermission
  rw [present]
  dsimp only
  split
  next found => simpa using found
  next missing => simpa using missing

section Answer
variable {config : Config} {ambient : Ambient} {kernel : Kernel} {msg : IncomingMessage} {messageId : String}
  {register : PluginRegister} {tx : Tx} {id : String} {ack : PluginRegisterAck}

theorem ack_not_evicted {pluginId : String} : sendEnvelope tx { messageId := id, payload := .pluginRegisterAck ack } ∉
    (evictStale ambient kernel pluginId).2 := by
  intro member
  rcases mem_evictStale member with ⟨reason, pending, same⟩ | ⟨other, event, same⟩
  · unfold Registry.providerGoneNotice at same
    split at same
    · cases same
    · cases same
  · cases same

theorem mem_acknowledge {secret : Option String} {result : Except VynkorError Unit} (accepted : ack.accepted = true)
    (sent : sendEnvelope tx { messageId := id, payload := .pluginRegisterAck ack } ∈
      acknowledge config ambient kernel msg messageId register secret result) :
    result = .ok () ∧ ack.grantedPermissions =
      ((kernel.registry.get register.pluginId).map fun entry => entry.manifest.permissions).getD [] := by
  unfold acknowledge at sent
  cases result with
  | error error =>
    cases List.mem_singleton.mp sent
    cases accepted
  | ok =>
    refine ⟨rfl, ?_⟩
    dsimp only at sent
    rw [List.cons_append] at sent
    rcases List.mem_cons.mp sent with answer | rest
    · cases answer
      rfl
    · rcases List.mem_append.mp rest with key | event
      · split at key
        · cases List.mem_singleton.mp key
        · cases key
      · obtain ⟨other, same⟩ := EventBus.mem_publish event
        cases same

private theorem accepted_registration_entry (accepted : ack.accepted = true)
    (sent : sendEnvelope tx { messageId := id, payload := .pluginRegisterAck ack } ∈
      (handlePluginRegister config ambient kernel msg messageId register).sends) :
    ∃ entry manifest,
      (handlePluginRegister config ambient kernel msg messageId register).kernel.registry.get register.pluginId = some entry ∧
      authenticate config ambient.clock register (register.manifest.getD {}) = .ok manifest ∧
      entry.manifest.permissions = (clampPermissions config register.pluginId manifest).permissions ∧
      ack.grantedPermissions = entry.manifest.permissions := by
  unfold handlePluginRegister at sent ⊢
  dsimp only at sent ⊢
  generalize (if register.protocolVersion = "" then ProtocolCheck.supported
    else checkProtocolVersion config register.protocolVersion) = check at sent ⊢
  cases check with
  | rejected reason => cases List.mem_singleton.mp sent
  | supported | newerMinor =>
    dsimp only at sent ⊢
    cases authentic : authenticate config ambient.clock register (register.manifest.getD {}) with
    | error reason =>
      rw [authentic] at sent
      cases List.mem_singleton.mp sent
      cases accepted
    | ok manifest =>
      rw [authentic] at sent
      dsimp only at sent ⊢
      cases known : deviceSecret config ambient register with
      | error reason =>
        rw [known] at sent
        cases List.mem_singleton.mp sent
        cases accepted
      | ok secret =>
        rw [known] at sent
        dsimp only at sent ⊢
        obtain ⟨succeeded, granted⟩ := mem_acknowledge accepted ((List.mem_append.mp sent).resolve_left ack_not_evicted)
        rcases enlist_cases (evictStale ambient kernel register.pluginId).1.registry ambient.clock msg register
          (clampPermissions config register.pluginId manifest) with
          ⟨error, refused⟩ | ⟨entry, info, capabilities, enlisted, enrolled⟩
        · rw [refused] at succeeded
          cases succeeded
        · rw [enrolled] at granted ⊢
          have present : (Registry.enroll (evictStale ambient kernel register.pluginId).1.registry ambient.clock entry info
              capabilities).get register.pluginId = some entry := by
            rw [← enlisted.id]
            exact (DashMap.get_insert ..).trans (if_pos rfl)
          dsimp only at granted
          rw [present] at granted
          exact ⟨entry, manifest, present, rfl, enlisted.permissions, granted⟩

end Answer

/-- Right after the router has accepted a registration, the plugin has exactly those permissions
that were claimed for it and that the operator's list, if there is one, allows; the answer
lists those of its entry. -/
theorem granted_permissions_exact (config : Config) (ambient : Ambient) (kernel : Kernel) (msg : IncomingMessage)
    (messageId : String) (register : PluginRegister) (ack : PluginRegisterAck)
    (decoded : msg.frame.payload.decode = some ⟨messageId, .pluginRegister register⟩) (accepted : ack.accepted = true)
    (sent : sendEnvelope msg.writeTx { messageId := messageId, payload := .pluginRegisterAck ack } ∈
      (routeMessage config ambient kernel msg "kernel").sends) :
    let after := (routeMessage config ambient kernel msg "kernel").kernel.registry
    (∃ entry, after.get register.pluginId = some entry ∧ ack.grantedPermissions = entry.manifest.permissions) ∧
    ∀ permission : PermissionType, checkPermission after register.pluginId permission = .ok () ↔
      normalizePermission permission.asStrName ∈
          (claimedPermissions config ambient.clock register).map normalizePermission ∧
        ∀ allowed, (config.configPermissions.bind fun table => table register.pluginId) = some allowed → allowed ≠ [] →
          normalizePermission permission.asStrName ∈ allowed.map normalizePermission := by
  have handled : routeMessage config ambient kernel msg "kernel" =
      handlePluginRegister config ambient kernel msg messageId register := by
    unfold routeMessage handleKernelMessage
    rw [if_pos rfl, decoded]
    rfl
  rw [handled] at sent ⊢
  intro after
  obtain ⟨entry, manifest, present, authentic, clamped, granted⟩ := accepted_registration_entry accepted sent
  refine ⟨⟨entry, present, granted⟩, fun permission => ?_⟩
  rw [checkPermission_iff present, clamped, List.mem_map]
  constructor
  · rintro ⟨held, kept, same⟩
    obtain ⟨claimed, within⟩ := mem_clampPermissions.mp kept
    rw [authenticate_permissions authentic] at claimed
    exact ⟨⟨held, claimed, same⟩, fun allowed listed proper => same ▸ within allowed listed proper⟩
  · rintro ⟨⟨held, claimed, same⟩, within⟩
    refine ⟨held, mem_clampPermissions.mpr ⟨?_, fun allowed listed proper => ?_⟩, same⟩
    · rw [authenticate_permissions authentic]
      exact claimed
    · rw [same]
      exact within allowed listed proper

def appRegister : PluginRegister := { pluginId := "app", manifest := some { permissions := ["network", "PERMISSION_STORAGE"] } }

def appRegisters : IncomingMessage where
  connId := 1
  writeTx := 1
  frame := { target := some "kernel", payload := .envelope { payload := .pluginRegister appRegister } }

def networkOnly : Config := { configPermissions := some fun _ => some ["PERMISSION_NETWORK"] }

theorem granted_permissions_exact_app :
    let after := (routeMessage networkOnly {} {} appRegisters "kernel").kernel.registry
    (∃ entry, after.get "app" = some entry ∧ ["network"] = entry.manifest.permissions) ∧
      checkPermission after "app" .permissionNetwork = .ok () ∧ checkPermission after "app" .permissionStorage ≠ .ok () := by
  have exactly := granted_permissions_exact networkOnly {} {} appRegisters "" appRegister ⟨true, "", ["network"], []⟩ rfl rfl
    (by decide +kernel)
  refine ⟨exactly.1, (exactly.2 _).mpr ⟨by decide +kernel, fun allowed listed _ => ?_⟩, fun granted => ?_⟩
  · cases listed
    decide +kernel
  · exact absurd (((exactly.2 _).mp granted).2 _ rfl (by decide)) (by decide +kernel)

end Vynkor
