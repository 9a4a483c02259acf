import Vynkor.Proofs.CallerIdentity
import Vynkor.Proofs.Channels
import Vynkor.Proofs.RequesterDeparture

/-! The permission that an action requires of its provider and of its caller. The kernel
arm asks for it in the state in which it delivers, whatever became of the two plugins
and of the call since the requirement was set. -/

namespace Vynkor
open Lib

section Arm
variable {config : Config} {ambient : Ambient} {kernel : Kernel} {msg : IncomingMessage} {messageId : String}
  {request : ActionRequest} {permission : PermissionType} {provider : PluginEntry}

end Arm

/-- Watching requires the audio permission. The provider restarts before the caller's
request comes. -/
def restarted : List Input :=
  [.call (.registerWithDevice ⟨0, 0⟩ "host" 1 { actions := ["watch"], permissions := ["audio"] } 1 {}),
   .disconnect {} 1,
   .call (.registerWithDevice ⟨0, 0⟩ "app" 2 { permissions := ["audio"] } 2 {}),
   .call (.registerWithDevice ⟨0, 0⟩ "host" 3 { actions := ["watch"], permissions := ["audio"] } 3 {})]

end Vynkor
