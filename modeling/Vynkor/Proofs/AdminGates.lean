import Vynkor.Api
import Vynkor.Proofs.DeviceScope
import Vynkor.Proofs.PermissionVocabulary

/-! Who may administrate the kernel, over HTTP and over a plugin's connection. The HTTP layer
compares the permissions of the token with the name as it is written, the router compares
normalized texts. -/

namespace Vynkor
open Lib

/-- Commands of the connection that are not free for all reach the command handler. -/
def Dispatches (config : Config) (kernel : Kernel) (connId : ConnId) : Prop :=
  ∀ ambient msg envelope command, msg.connId = connId → msg.frame.payload.decode = some envelope →
    envelope.payload = .kernelCommand command → command.command ∉ readonlyCommands →
    (handleKernelMessage config ambient kernel msg).sends = [sendEnvelope msg.writeTx
      { messageId := envelope.messageId
        payload := .kernelCommandAck ⟨command.commandId, ambient.dispatch.status, ambient.dispatch.dataJson,
          ambient.dispatch.error⟩ }]

private theorem adminRoute_eq_ok {config : Config} {validate : Clock → String → Except String Claims}
    (checked : config.jwtValidator = some validate) {clock : Clock} {request : HttpRequest} {token : String}
    {claims : Claims} (bearer : request.authorization = some ("Bearer " ++ token))
    (valid : validate clock token = .ok claims) :
    (∃ admitted, adminRoute config clock request = .ok admitted) ↔ "PERMISSION_KERNEL_ADMIN" ∈ claims.permissions := by
  have authentic : authMiddleware config clock request = .ok { request with
      verifiedPermissions := some claims.permissions
      verifiedSub := some claims.sub } := by
    unfold authMiddleware
    rw [checked, bearer, Option.bind_some, Text.stripPrefix_append]
    dsimp only
    rw [valid]
  unfold adminRoute
  rw [authentic]
  change (∃ admitted, (if !claims.permissions.any (· == "PERMISSION_KERNEL_ADMIN") then Except.error StatusCode.forbidden
    else .ok _) = .ok admitted) ↔ _
  by_cases listed : "PERMISSION_KERNEL_ADMIN" ∈ claims.permissions
  · rw [if_neg (by simpa using listed)]
    exact ⟨fun _ => listed, fun _ => ⟨_, rfl⟩⟩
  · have missing : claims.permissions.any (· == "PERMISSION_KERNEL_ADMIN") = false := by
      rw [List.any_eq_false]
      intro held member same
      exact listed (beq_iff_eq.mp same ▸ member)
    rw [missing, Bool.not_false, if_pos rfl]
    constructor
    · rintro ⟨admitted, impossible⟩
      cases impossible
    · exact fun member => absurd member listed

section Commands
variable {config : Config} {kernel : Kernel} {connId : ConnId} {entry : PluginEntry}

private theorem handleKernelMessage_command (registered : kernel.registry.getByConnId connId = some entry) {ambient : Ambient}
    {msg : IncomingMessage} {envelope : Envelope} {command : KernelCommand} (here : msg.connId = connId)
    (decoded : msg.frame.payload.decode = some envelope) (payload : envelope.payload = .kernelCommand command)
    (restricted : command.command ∉ readonlyCommands) :
    (handleKernelMessage config ambient kernel msg).sends =
      let outcome : CommandOutcome :=
        if isErr (checkPermission kernel.registry entry.pluginId .permissionKernelAdmin) then
          { status := .commandPermissionDenied, error := entry.pluginId ++ " lacks PERMISSION_KERNEL_ADMIN" }
        else ambient.dispatch
      [sendEnvelope msg.writeTx { messageId := envelope.messageId
                                  payload := .kernelCommandAck ⟨command.commandId, outcome.status, outcome.dataJson,
                                    outcome.error⟩ }] := by
  subst here
  have listed : readonlyCommands.contains command.command = false := by simpa using restricted
  unfold handleKernelMessage
  simp only [decoded, payload, isRegistered_of_getByConnId registered, Bool.not_true, Bool.and_false,
    Bool.false_eq_true, if_false, handlePayload, handleKernelCommand, senderId_of_getByConnId registered, listed,
    Bool.not_false, Bool.true_and]

private theorem dispatches_iff (registered : kernel.registry.getByConnId connId = some entry) :
    Dispatches config kernel connId ↔ checkPermission kernel.registry entry.pluginId .permissionKernelAdmin = .ok () := by
  constructor
  · intro dispatches
    have answered := dispatches {} (kernelMessage connId (.kernelCommand ⟨"1", "reload_config", []⟩)) _ _ rfl rfl rfl
      (by decide)
    rw [handleKernelMessage_command registered rfl rfl rfl (by decide)] at answered
    cases allowed : checkPermission kernel.registry entry.pluginId .permissionKernelAdmin with
    | ok => rfl
    | error reason =>
      rw [allowed] at answered
      cases answered
  · intro allowed ambient msg envelope command here decoded payload restricted
    rw [handleKernelMessage_command registered here decoded payload restricted, allowed]
    rfl

end Commands

private theorem AcceptedAs.permissions_of_token {config : Config} {clock : Clock} {register : PluginRegister} {entry : PluginEntry}
    (accepted : AcceptedAs config clock register entry) {validate : Clock → String → Except String Claims}
    (checked : config.jwtValidator = some validate) {claims : Claims}
    (valid : validate clock register.jwtToken = .ok claims)
    (unlisted : ∀ allowed, (config.configPermissions.bind fun table => table register.pluginId) = some allowed →
      allowed = []) :
    ∀ held, held ∈ entry.manifest.permissions ↔ held ∈ claims.permissions := by
  obtain ⟨manifest, authentic, clamped⟩ := accepted.permissions
  have claimed : claimedPermissions config clock register = claims.permissions := by
    unfold claimedPermissions
    rw [checked]
    dsimp only
    rw [valid]
  intro held
  rw [clamped, mem_clampPermissions, authenticate_permissions authentic, claimed]
  exact ⟨And.left, fun member => ⟨member, fun allowed table proper => absurd (unlisted allowed table) proper⟩⟩

/-- In every run, as long as the registration of a plugin without an operator's list stands: the
HTTP gate admits the plugin's token if and only if the router carries out its commands, provided
that the permission, if the token has it in any spelling, is there under its own name. Otherwise
the two disagree. -/
theorem admin_gates_agree (config : Config) (validate : Clock → String → Except String Claims)
    (checked : config.jwtValidator = some validate) (before after : List Input) (ambient : Ambient)
    (msg : IncomingMessage) (envelope : Envelope) (register : PluginRegister) (claims : Claims)
    (targeted : msg.frame.target = some "kernel") (decoded : msg.frame.payload.decode = some envelope)
    (payload : envelope.payload = .pluginRegister register)
    (accepted : Accepts ((System.machine config).run before)
      ((System.machine config).run (before ++ [.message ambient msg])) msg.connId)
    (valid : validate ambient.clock register.jwtToken = .ok claims)
    (unlisted : ∀ allowed, (config.configPermissions.bind fun table => table register.pluginId) = some allowed →
      allowed = [])
    (standing : ((System.machine config).run (before ++ .message ambient msg :: after)).kernel.registry.getByConnId
        msg.connId =
      ((System.machine config).run (before ++ [.message ambient msg])).kernel.registry.getByConnId msg.connId)
    (clock : Clock) (request : HttpRequest) (bearer : request.authorization = some ("Bearer " ++ register.jwtToken))
    (stillValid : validate clock register.jwtToken = .ok claims) :
    ((∃ admitted, adminRoute config clock request = .ok admitted) ↔
      Dispatches config ((System.machine config).run (before ++ .message ambient msg :: after)).kernel msg.connId) ↔
    ((∃ held ∈ claims.permissions, normalizePermission held = "kernel_admin") →
      "PERMISSION_KERNEL_ADMIN" ∈ claims.permissions) := by
  obtain ⟨absent, joined⟩ := accepted
  obtain ⟨entry, present⟩ := Option.isSome_iff_exists.mp joined
  have asked := accepted_entry (System.consistent config before) targeted decoded payload absent
    (by rw [Machine.run_append] at present; exact present)
  have registered := standing.trans present
  have held := (System.consistent config (before ++ .message ambient msg :: after)).getByConnId_iff.mp registered
  have name : normalizePermission PermissionType.permissionKernelAdmin.asStrName = "kernel_admin" := by decide +kernel
  rw [adminRoute_eq_ok checked bearer stillValid, dispatches_iff registered, checkPermission_iff held.1, name]
  simp only [asked.permissions_of_token checked valid unlisted]
  constructor
  · intro agree spelled
    exact agree.mpr spelled
  · intro spelled
    exact ⟨fun listed => ⟨_, listed, name⟩, spelled⟩

/-- A kernel that takes every token for one of `ops` with these permissions. -/
def opsKernel (permissions : List String) : Config := { jwtValidator := some fun _ _ => .ok ⟨"ops", permissions, []⟩ }

def opsRegister : PluginRegister := { pluginId := "ops", jwtToken := "token" }

def opsJoins : IncomingMessage := kernelMessage 1 (.pluginRegister opsRegister)

def opsRequest : HttpRequest := { authorization := some "Bearer token" }

theorem admin_gates_agree_ops :
    (∃ admitted, adminRoute (opsKernel ["PERMISSION_KERNEL_ADMIN"]) ⟨0, 0⟩ opsRequest = .ok admitted) ↔
      Dispatches (opsKernel ["PERMISSION_KERNEL_ADMIN"])
        ((System.machine (opsKernel ["PERMISSION_KERNEL_ADMIN"])).run [.message {} opsJoins]).kernel 1 := by
  have joined : (((System.machine (opsKernel ["PERMISSION_KERNEL_ADMIN"])).run
      ([] ++ [.message {} opsJoins])).kernel.registry.getByConnId 1).isSome = true := by decide +kernel
  have agree := admin_gates_agree (opsKernel ["PERMISSION_KERNEL_ADMIN"]) _ rfl [] [] {} opsJoins _ opsRegister _ rfl rfl rfl
    ⟨rfl, joined⟩ rfl (fun allowed table => nomatch table) rfl ⟨0, 0⟩ opsRequest rfl rfl
  exact agree.mpr fun _ => List.mem_singleton.mpr rfl

/-- The documented lowercase form gives the router's permission and not that of the HTTP layer. -/
theorem lowercase_admin_forbidden :
    let config := opsKernel ["kernel_admin"]
    let kernel := ((System.machine config).run [.message {} opsJoins]).kernel
    adminRoute config ⟨0, 0⟩ opsRequest = .error .forbidden ∧
      (handleKernelMessage config {} kernel (kernelMessage 1 (.kernelCommand ⟨"1", "reload_config", []⟩))).sends =
        [sendEnvelope 1 { payload := .kernelCommandAck ⟨"1", .commandOk, [], ""⟩ }] := by
  exact ⟨rfl, by decide +kernel⟩

end Vynkor
