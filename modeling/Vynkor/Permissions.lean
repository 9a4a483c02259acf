import Vynkor.Registry

/-! Permission checks over the manifests of registered plugins. -/

namespace Vynkor
open Lib

/-- Manifests may use the lowercase form or the name of the enumeration. -/
def normalizePermission (text : String) : String :=
  Text.toAsciiLowercase ((Text.stripPrefix text "PERMISSION_").getD text)

def checkPermission (registry : Registry) (pluginId : String) (required : PermissionType) : Except VynkorError Unit :=
  match registry.get pluginId with
  | none => .error (.pluginNotFound pluginId)
  | some entry =>
    if entry.manifest.permissions.any fun held => normalizePermission held == normalizePermission required.asStrName then
      .ok ()
    else .error (.permissionDenied (pluginId ++ " lacks " ++ required.asStrName))

def checkIpcSend (registry : Registry) (pluginId : String) : Except VynkorError Unit :=
  checkPermission registry pluginId .permissionIpcSend

def checkIpcTarget (registry : Registry) (senderId targetId : String) : Except VynkorError Unit :=
  match registry.get senderId with
  | none => .error (.pluginNotFound senderId)
  | some entry =>
    match registry.get targetId with
    | none => .error (.permissionDenied ("unknown ipc target " ++ targetId))
    | some target =>
      if target.userId ≠ entry.userId then
        .error (.permissionDenied ("cross-user IPC denied: " ++ senderId ++ " (user " ++ entry.userId ++ ") -> " ++
          targetId ++ " (user " ++ target.userId ++ ")"))
      else if entry.manifest.ipcTargets.contains targetId then .ok ()
      else .error (.permissionDenied (senderId ++ " ipc_targets does not include " ++ targetId))

/-- The hardcoded table is gone; what is left only warns. -/
def requiredPermissionForAction (_action : String) : Option PermissionType := none

end Vynkor
