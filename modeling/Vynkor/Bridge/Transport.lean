import Vynkor.Loader

/-! How a client kernel reaches its host: what the boot check accepts of the bridge's
configuration, and how the bridge dials the transports of an accepted one. -/

namespace Vynkor
open Lib

inductive Role
  | host
  | client
  deriving DecidableEq, Repr

/-- One way to reach the host kernel. -/
inductive TransportConfig
  | direct (url : String) (caCertPath : Option String)
  | relay (url : String) (key : Option String)
  deriving DecidableEq, Repr

def TransportConfig.url : TransportConfig → String
  | direct url _ | relay url _ => url

structure BridgeConfig where
  hostUrl : String := ""
  transports : List TransportConfig := []
  token : Option String := none
  mirror : List String := []
  caCertPath : Option String := none
  deriving DecidableEq, Repr

/-- The part of the kernel's configuration that decides about the bridge. -/
structure BootConfig where
  role : Role := .host
  bridge : Option BridgeConfig := none
  plugins : List PluginDef := []
  deriving DecidableEq, Repr

/-- `transports` if set, else `host_url` with its pin as the only transport. -/
def BridgeConfig.effectiveTransports (bridge : BridgeConfig) : List TransportConfig :=
  if bridge.transports.isEmpty then [.direct bridge.hostUrl bridge.caCertPath] else bridge.transports

def isPlaintext (url : String) : Bool := Text.startsWith url "ws://" || Text.startsWith url "http://"

def hasKnownScheme (url : String) : Bool :=
  ["ws://", "wss://", "http://", "https://"].any fun scheme => Text.startsWith url scheme

/-- The host is given once, as a URL or as a list of transports. -/
def checkSources (bridge : BridgeConfig) : Except String Unit :=
  let hasUrl := bridge.hostUrl != ""
  if hasUrl && !bridge.transports.isEmpty then .error "bridge: set either host_url or transports, not both"
  else if !hasUrl && bridge.transports.isEmpty then .error "bridge: host_url or transports is required"
  else .ok ()

def checkHostUrl (bridge : BridgeConfig) : Except String Unit :=
  if !hasKnownScheme bridge.hostUrl then
    .error ("invalid bridge host_url '" ++ bridge.hostUrl ++ "': expected http(s):// or ws(s)://")
  else if bridge.caCertPath.isSome && isPlaintext bridge.hostUrl then
    .error ("bridge.ca_cert_path is set but host_url '" ++ bridge.hostUrl ++ "' is plaintext: use https:// or wss://")
  else .ok ()

def checkTransport (index : Nat) : TransportConfig → Except String Unit
  | .direct url caCertPath =>
    if !hasKnownScheme url then
      .error ("invalid bridge.transports[" ++ toString index ++ "] url '" ++ url ++
        "': expected http(s):// or ws(s)://")
    else if caCertPath.isSome && isPlaintext url then
      .error ("bridge.transports[" ++ toString index ++ "].ca_cert_path is set but url '" ++ url ++
        "' is plaintext: use https:// or wss://")
    else .ok ()
  | .relay url _ =>
    if !(Text.startsWith url "wss://" || Text.startsWith url "https://") then
      .error ("invalid bridge.transports[" ++ toString index ++ "] relay url '" ++ url ++
        "': expected wss:// or https://")
    else .ok ()

/-- Fallback must never downgrade. -/
def checkFallback (index : Nat) (transport : TransportConfig) : Except String Unit :=
  if isPlaintext transport.url then
    .error ("bridge.transports: mixing plaintext and TLS transports is not allowed " ++
      "(plaintext would leak the token on fallback): transports[" ++ toString index ++ "] is '" ++ transport.url ++ "'")
  else .ok ()

/-- The error names the configured plugins in the order of a hash set. -/
def checkMirror (shuffle : Shuffle String) (plugins : List PluginDef) (cap : String) : Except String Unit :=
  let configured := (plugins.map PluginDef.id).dedup
  if !configured.contains cap then
    .error ("bridge mirror '" ++ cap ++ "' is not a configured plugin (plugins: [" ++
      ", ".intercalate (shuffle.order configured) ++ "])")
  else .ok ()

/-- A loop that stops at the first item that fails. -/
def checkEach {α : Type} (check : Nat → α → Except String Unit) (index : Nat) : List α → Except String Unit
  | [] => .ok ()
  | item :: rest => do
    check index item
    checkEach check (index + 1) rest

def validateBridgeConfig (shuffle : Shuffle String) (cfg : BootConfig) : Except String Unit :=
  if cfg.role ≠ .client then .ok ()
  else
    match cfg.bridge with
    | none => .error "role: client requires a `bridge:` block in config or --bridge-url"
    | some bridge => do
      checkSources bridge
      (if bridge.hostUrl != "" then checkHostUrl bridge else .ok ())
      checkEach checkTransport 0 bridge.transports
      (if bridge.transports.length > 1 then checkEach checkFallback 0 bridge.transports else .ok ())
      (if bridge.mirror.isEmpty then
        .error "role: client requires at least one mirrored plugin (`bridge.mirror` or --bridge-mirror)"
      else .ok ())
      checkEach (fun _ => checkMirror shuffle cfg.plugins) 0 bridge.mirror

/-- The errors of a cycle that did not connect. -/
inductive BridgeError
  | connect (reason : String)
  | io (kind reason : String)
  | tls (reason : String)
  | http (code : UInt16)
  | timeout
  | unsupported (reason : String)
  | wire (reason : String)
  deriving DecidableEq, Repr

def wsSchemeFor (scheme : String) : Option String :=
  if scheme = "http" then some "ws" else if scheme = "https" then some "wss" else none

def defaultWsPath : String := "/ws"

def badHostUrl : BridgeError := .wire "host_url must start with ws://, wss://, http://, or https://"

/-- URLs of a web socket are used as they are; a base URL changes its scheme and
gets the path of the gateway if it has none. -/
def resolveWsUrl (hostUrl : String) : Except BridgeError String :=
  if Text.startsWith hostUrl "ws://" || Text.startsWith hostUrl "wss://" then .ok hostUrl
  else
    match Text.splitOnceText hostUrl "://" with
    | none => .error badHostUrl
    | some (scheme, rest) =>
      match wsSchemeFor scheme with
      | none => .error badHostUrl
      | some wsScheme =>
        match Text.splitOnce rest '/' with
        | some (host, path) => .ok (wsScheme ++ "://" ++ host ++ "/" ++ path)
        | none => .ok (wsScheme ++ "://" ++ rest ++ defaultWsPath)

/-- Whom a connection trusts: nobody is asked, the public roots, or one certificate. -/
inductive Connector
  | plain
  | webpki
  | pinned (path : String)
  deriving DecidableEq, Repr

/-- One connection that was tried, with the subprotocol header that carries the token. -/
structure Dial where
  url : String
  protocol : String
  connector : Connector
  deriving DecidableEq, Repr

/-- The libraries and the network behind the bridge. -/
structure Dialer where
  clientRequest : String → Except String Unit
  headerValue : String → Except String Unit
  loadPinnedConfig : String → Except BridgeError Unit
  connect : Dial → Except BridgeError Unit

def subprotocol (token : String) : String := if token = "" then "vynkor" else "vynkor, " ++ token

namespace Dialer
variable (dialer : Dialer)

/-- What was dialled comes first. -/
def dial (dial : Dial) : List Dial × Except BridgeError Unit := ([dial], dialer.connect dial)

def connectDirect (url : String) (caCertPath : Option String) (token : String) : List Dial × Except BridgeError Unit :=
  match resolveWsUrl url with
  | .error error => ([], .error error)
  | .ok url =>
    match dialer.clientRequest url, dialer.headerValue (subprotocol token) with
    | .error reason, _ => ([], .error (.connect reason))
    | .ok (), .error reason => ([], .error (.connect reason))
    | .ok (), .ok () =>
      if Text.startsWith url "wss://" then
        match caCertPath with
        | some path =>
          match dialer.loadPinnedConfig path with
          | .error error => ([], .error error)
          | .ok () => dialer.dial ⟨url, subprotocol token, .pinned path⟩
        | none => dialer.dial ⟨url, subprotocol token, .webpki⟩
      else dialer.dial ⟨url, subprotocol token, .plain⟩

def connectTransport (token : String) : TransportConfig → List Dial × Except BridgeError Unit
  | .direct url caCertPath => dialer.connectDirect url caCertPath token
  | .relay _ _ => ([], .error (.unsupported "relay transport is not implemented yet"))

/-- The first transport that connects is taken; `lastError` is that of the one before. -/
def walk (token : String) (lastError : Option BridgeError) :
    List TransportConfig → List Dial × Except BridgeError TransportConfig
  | [] => ([], .error (lastError.getD (.connect "no transports configured")))
  | transport :: rest =>
    match dialer.connectTransport token transport with
    | (dials, .ok ()) => (dials, .ok transport)
    | (dials, .error error) =>
      let later := walk token (some error) rest
      (dials ++ later.1, later.2)

/-- A cycle up to the transport whose connection then runs the session. -/
def oneCycle (config : BridgeConfig) : List Dial × Except BridgeError TransportConfig :=
  dialer.walk (config.token.getD "") none config.effectiveTransports

end Dialer

end Vynkor
