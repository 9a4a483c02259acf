import Vynkor.Bridge.Transport
import Vynkor.Lib.Urls

/-! The URL a device is told to dial, which it reads off a QR code. -/

namespace Vynkor
open Lib

/-- The errors of the kernel that resolving the URL ends with. -/
inductive AdvertiseError
  | networkError (reason : String)
  | invalidInput (reason : String)
  deriving DecidableEq, Repr

/-- An address of this machine, as the standard library writes and classifies it. -/
structure IpAddr where
  text : String
  isLoopback : Bool
  deriving DecidableEq, Repr

def advertiseScheme (tls : Bool) : String := if tls then "wss" else "ws"

/-- The override, or the address that leads out of this machine. -/
def advertiseHost (detectLanIp : Option IpAddr) (port : UInt16) (hostOverride : Option String) :
    Except AdvertiseError String :=
  match (hostOverride.map Text.trim).filter (· != "") with
  | some host => .ok host
  | none =>
    match detectLanIp with
    | none =>
      .error (.networkError ("could not auto-detect a LAN address — pass a host (e.g. " ++
        "100.64.0.2 or myhost.tailnet)"))
    | some ip =>
      if ip.isLoopback then
        .error (.networkError ("detected loopback " ++ ip.text ++ " — a phone scanning this QR would reach itself; " ++
          "pass a LAN IP or Tailscale name"))
      else .ok (ip.text ++ ":" ++ toString port.toNat)

def badHost (host reason : String) : AdvertiseError := .invalidInput ("bad host '" ++ host ++ "'" ++ reason)

/-- A bare host gets the kernel's port, and a URL without a path that of the gateway. -/
def completeUrl (port : UInt16) (gaveBareHost : Bool) (url : Url) : Url :=
  -- a default port that was given counts as missing, for the parser has dropped it
  let url := if url.port.isNone && gaveBareHost then url.setPort (some port) else url
  if url.path = "" ∨ url.path = "/" then url.setPath defaultWsPath else url

def withScheme (host : String) (url : Url) (target : String) : Except AdvertiseError String :=
  match url.setScheme target with
  | some url => .ok url.toText
  | none => .error (badHost host "")

/-- An explicit scheme wins over the kernel's own `tls` flag. -/
def resolveAdvertiseUrl (parser : UrlParser) (detectLanIp : Option IpAddr) (port : UInt16) (tls : Bool)
    (hostOverride : Option String) : Except AdvertiseError String := do
  let host ← advertiseHost detectLanIp port hostOverride
  let gaveBareHost := !Text.containsText host "://"
  let url ← (parser.parse (if gaveBareHost then advertiseScheme tls ++ "://" ++ host else host)).mapError
    fun error => badHost host (": " ++ error)
  let url := completeUrl port gaveBareHost url
  if gaveBareHost then withScheme host url (advertiseScheme tls)
  else if url.scheme = "ws" ∨ url.scheme = "wss" then .ok url.toText
  else
    match wsSchemeFor url.scheme with
    | some target => withScheme host url target
    | none => .error (badHost host ": scheme must be ws, wss, http or https")

end Vynkor
