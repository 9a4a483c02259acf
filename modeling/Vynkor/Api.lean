import Vynkor.Router

/-! The gate before the administration routes of the HTTP API: a request carries a token, and
the token has to claim the permission. -/

namespace Vynkor
open Lib

inductive StatusCode
  | unauthorized
  | forbidden
  deriving DecidableEq, Repr

/-- A request on its way through the layers: the authorization header, if it is there and is text,
and the extensions that the layers have added. -/
structure HttpRequest where
  authorization : Option String := none
  verifiedPermissions : Option (List String) := none
  verifiedSub : Option String := none
  deriving DecidableEq, Repr

/-- The validator is the router's. Without one, nobody is asked. -/
def authMiddleware (config : Config) (clock : Clock) (request : HttpRequest) : Except StatusCode HttpRequest :=
  match config.jwtValidator with
  | none => .ok request
  | some validate =>
    match request.authorization.bind fun value => Text.stripPrefix value "Bearer " with
    | none => .error .unauthorized
    | some token =>
      match validate clock token with
      | .error _ => .error .unauthorized
      | .ok claims => .ok { request with
          verifiedPermissions := some claims.permissions
          verifiedSub := some claims.sub }

/-- Without verified permissions tokens are not checked, and the layer does nothing. -/
def requireKernelAdmin (request : HttpRequest) : Except StatusCode HttpRequest :=
  match request.verifiedPermissions with
  | some perms =>
    if !perms.any (· == PermissionType.permissionKernelAdmin.asStrName) then .error .forbidden else .ok request
  | none => .ok request

/-- The layers of a route of the administration, apart from the rate limit. -/
def adminRoute (config : Config) (clock : Clock) (request : HttpRequest) : Except StatusCode HttpRequest := do
  let request ← authMiddleware config clock request
  requireKernelAdmin request

end Vynkor
