import Vynkor.Lib.Text
import Vynkor.Bridge.Transport

/-! What the boot check lets the bridge dial. The check looks at the lead of a URL, the
bridge rewrites the URL with a parser of its own; on every URL the check accepts the two
agree about which connections are encrypted. -/

namespace Vynkor
open Lib

def Encrypted (url : String) : Prop := Text.startsWith url "wss://" = true

section Resolve
variable {url : String}

private theorem resolveWsUrl_base (scheme wsScheme rest : String) (plain : ':' ∉ scheme.toList)
    (mapped : wsSchemeFor scheme = some wsScheme)
    (base : (Text.startsWith (scheme ++ "://" ++ rest) "ws://" ||
      Text.startsWith (scheme ++ "://" ++ rest) "wss://") = false) :
    ∃ tail, resolveWsUrl (scheme ++ "://" ++ rest) = .ok (wsScheme ++ "://" ++ tail) := by
  have split : Text.splitOnceText (scheme ++ "://" ++ rest) "://" = some (scheme, rest) :=
    Text.splitOnceText_append rfl plain
  unfold resolveWsUrl
  rw [base, split]
  dsimp only
  rw [mapped]
  cases Text.splitOnce rest '/' with
  | none => exact ⟨rest ++ defaultWsPath, by rw [← String.append_assoc]; rfl⟩
  | some parts => exact ⟨parts.1 ++ "/" ++ parts.2, by rw [← String.append_assoc, ← String.append_assoc]; rfl⟩

/-- The bridge takes what the check takes, and encrypts what the check takes to be encrypted. -/
theorem resolveWsUrl_accepts (known : hasKnownScheme url = true) :
    ∃ resolved, resolveWsUrl url = .ok resolved ∧ (isPlaintext url = false → Encrypted resolved) := by
  cases verbatim : Text.startsWith url "ws://" || Text.startsWith url "wss://" with
  | true =>
    refine ⟨url, by rw [resolveWsUrl, verbatim]; rfl, fun encrypted => ?_⟩
    have lead : Text.startsWith url "ws://" = false := (Bool.or_eq_false_iff.mp encrypted).1
    rw [lead] at verbatim
    exact verbatim
  | false =>
    have based : Text.startsWith url "http://" = true ∨ Text.startsWith url "https://" = true := by
      rw [Bool.or_eq_false_iff] at verbatim
      simpa [hasKnownScheme, verbatim.1, verbatim.2] using known
    rcases based with http | https
    · obtain ⟨rest, rfl⟩ := Text.startsWith_iff.mp http
      obtain ⟨tail, resolved⟩ := resolveWsUrl_base "http" "ws" rest (by decide) rfl verbatim
      refine ⟨_, resolved, fun encrypted => ?_⟩
      have lead := (Bool.or_eq_false_iff.mp encrypted).2
      cases http.symm.trans lead
    · obtain ⟨rest, rfl⟩ := Text.startsWith_iff.mp https
      obtain ⟨tail, resolved⟩ := resolveWsUrl_base "https" "wss" rest (by decide) rfl verbatim
      exact ⟨_, resolved, fun _ => Text.startsWith_append "wss://" tail⟩

end Resolve

section Check

private theorem checkEach_passes {α : Type} {check : Nat → α → Except String Unit} {items : List α} {index : Nat}
    (passed : checkEach check index items = .ok ()) : ∀ item ∈ items, ∃ place, check place item = .ok () := by
  induction items generalizing index with
  | nil => exact fun item member => absurd member List.not_mem_nil
  | cons first rest ih =>
    obtain ⟨own, others⟩ := then_eq_ok.mp passed
    intro item member
    rcases List.mem_cons.mp member with rfl | later
    · exact ⟨index, own⟩
    · exact ih others item later

/-- What the check has seen of a transport. -/
structure Vetted (transport : TransportConfig) : Prop where
  known : hasKnownScheme transport.url = true
  pinned : ∀ url path, transport = .direct url (some path) → isPlaintext url = false

private theorem vetted_direct {url : String} {caCertPath : Option String} (known : (!hasKnownScheme url) = false)
    (unpinned : (caCertPath.isSome && isPlaintext url) = false) : Vetted (.direct url caCertPath) where
  known := (Bool.not_eq_false' _).mp known
  pinned other path same := by
    cases same
    exact unpinned

private theorem checkTransport_vetted {index : Nat} {transport : TransportConfig}
    (passed : checkTransport index transport = .ok ()) : Vetted transport := by
  cases transport with
  | direct =>
    obtain ⟨known, passed⟩ := guard_eq_ok.mp passed
    obtain ⟨unpinned, -⟩ := guard_eq_ok.mp passed
    exact vetted_direct known unpinned
  | relay url key =>
    obtain ⟨secure, -⟩ := guard_eq_ok.mp passed
    refine ⟨?_, fun _ _ other => by cases other⟩
    rw [Bool.not_eq_false', Bool.or_eq_true] at secure
    rcases secure with wss | https
    · simp [hasKnownScheme, TransportConfig.url, wss]
    · simp [hasKnownScheme, TransportConfig.url, https]

private theorem checkHostUrl_vetted {bridge : BridgeConfig} (passed : checkHostUrl bridge = .ok ()) :
    Vetted (.direct bridge.hostUrl bridge.caCertPath) := by
  obtain ⟨known, passed⟩ := guard_eq_ok.mp passed
  obtain ⟨unpinned, -⟩ := guard_eq_ok.mp passed
  exact vetted_direct known unpinned

variable {shuffle : Shuffle String} {cfg : BootConfig} {bridge : BridgeConfig}

/-- Every transport the bridge will try was looked at, and a fallback is never plaintext. -/
theorem validateBridgeConfig_vets (client : cfg.role = .client) (configured : cfg.bridge = some bridge)
    (valid : validateBridgeConfig shuffle cfg = .ok ()) :
    (∀ transport ∈ bridge.effectiveTransports, Vetted transport) ∧
    (1 < bridge.effectiveTransports.length →
      ∀ transport ∈ bridge.effectiveTransports, isPlaintext transport.url = false) := by
  unfold validateBridgeConfig at valid
  rw [configured, if_neg (not_not.mpr client)] at valid
  obtain ⟨sources, valid⟩ := then_eq_ok.mp valid
  obtain ⟨hosted, valid⟩ := then_eq_ok.mp valid
  obtain ⟨transports, valid⟩ := then_eq_ok.mp valid
  obtain ⟨fallback, -⟩ := then_eq_ok.mp valid
  unfold BridgeConfig.effectiveTransports
  cases empty : bridge.transports.isEmpty with
  | true =>
    have given : (bridge.hostUrl != "") = true := by
      unfold checkSources at sources
      cases url : bridge.hostUrl != "" with
      | true => rfl
      | false =>
        rw [url, empty] at sources
        cases sources
    rw [given, if_pos rfl] at hosted
    rw [if_pos rfl]
    refine ⟨fun transport member => ?_, fun several => absurd several (Nat.lt_irrefl 1)⟩
    cases List.mem_singleton.mp member
    exact checkHostUrl_vetted hosted
  | false =>
    rw [if_neg Bool.false_ne_true]
    constructor
    · intro transport member
      obtain ⟨index, passed⟩ := checkEach_passes transports transport member
      exact checkTransport_vetted passed
    · intro several transport member
      rw [if_pos several] at fallback
      obtain ⟨index, passed⟩ := checkEach_passes fallback transport member
      exact (guard_eq_ok.mp passed).1

end Check

section Dialling
variable (dialer : Dialer) {url path token : String} {dial : Dial}

private theorem connectDirect_pinned {resolved : String} (resolves : resolveWsUrl url = .ok resolved)
    (encrypted : Encrypted resolved) :
    (∀ dial ∈ (dialer.connectDirect url (some path) token).1, dial = ⟨resolved, subprotocol token, .pinned path⟩) ∧
    (dialer.clientRequest resolved = .ok () → dialer.headerValue (subprotocol token) = .ok () →
      dialer.loadPinnedConfig path = .ok () →
      dialer.connectDirect url (some path) token = dialer.dial ⟨resolved, subprotocol token, .pinned path⟩) := by
  unfold Dialer.connectDirect
  rw [resolves]
  dsimp only
  rw [show Text.startsWith resolved "wss://" = true from encrypted, if_pos rfl]
  constructor
  · intro dial tried
    split at tried
    · cases tried
    · cases tried
    · split at tried
      · cases tried
      · exact List.mem_singleton.mp tried
  · intro request header loaded
    rw [request, header, loaded]

private theorem connectDirect_encrypted {caCertPath : Option String} {resolved : String}
    (resolves : resolveWsUrl url = .ok resolved) (encrypted : Encrypted resolved) :
    ∀ dial ∈ (dialer.connectDirect url caCertPath token).1, Encrypted dial.url ∧ dial.connector ≠ .plain := by
  cases caCertPath with
  | some path =>
    intro dial tried
    have pinned := (connectDirect_pinned dialer resolves encrypted).1 dial tried
    subst pinned
    exact ⟨encrypted, Connector.noConfusion⟩
  | none =>
    intro dial tried
    unfold Dialer.connectDirect at tried
    rw [resolves] at tried
    dsimp only at tried
    rw [show Text.startsWith resolved "wss://" = true from encrypted, if_pos rfl] at tried
    split at tried
    · cases tried
    · cases tried
    · cases List.mem_singleton.mp tried
      exact ⟨encrypted, Connector.noConfusion⟩

private theorem walk_dials {property : Dial → Prop} {transports : List TransportConfig}
    (each : ∀ transport ∈ transports, ∀ dial ∈ (dialer.connectTransport token transport).1, property dial) :
    ∀ lastError, ∀ dial ∈ (dialer.walk token lastError transports).1, property dial := by
  induction transports with
  | nil => exact fun lastError dial tried => absurd tried List.not_mem_nil
  | cons transport rest ih =>
    intro lastError dial tried
    have own := each transport List.mem_cons_self
    have others := ih fun other member => each other (List.mem_cons_of_mem _ member)
    unfold Dialer.walk at tried
    split at tried
    next dials connected =>
      rw [connected] at own
      exact own dial tried
    next dials error failed =>
      rw [failed] at own
      rcases List.mem_append.mp tried with here | later
      · exact own dial here
      · exact others _ dial later

/-- Where the bridge has something to fall back to, no cycle dials in plaintext. -/
theorem oneCycle_encrypted {shuffle : Shuffle String} {cfg : BootConfig} {bridge : BridgeConfig}
    (client : cfg.role = .client) (configured : cfg.bridge = some bridge)
    (valid : validateBridgeConfig shuffle cfg = .ok ()) (several : 1 < bridge.effectiveTransports.length) :
    ∀ dial ∈ (dialer.oneCycle bridge).1, Encrypted dial.url ∧ dial.connector ≠ .plain := by
  obtain ⟨vetted, fallback⟩ := validateBridgeConfig_vets client configured valid
  apply walk_dials
  intro transport member
  obtain ⟨resolved, resolves, encrypted⟩ := resolveWsUrl_accepts (vetted transport member).known
  have secure := encrypted (fallback several transport member)
  cases transport with
  | direct => exact connectDirect_encrypted dialer resolves secure
  | relay => exact fun dial tried => absurd tried List.not_mem_nil

end Dialling

/-- The transports of an accepted client configuration all resolve, to encrypted URLs if
there is more than one of them, and a pinned one is dialled with its pin and nothing else. -/
theorem transports_never_downgrade (shuffle : Shuffle String) (cfg : BootConfig) (bridge : BridgeConfig)
    (client : cfg.role = .client) (configured : cfg.bridge = some bridge)
    (valid : validateBridgeConfig shuffle cfg = .ok ()) :
    (∀ transport ∈ bridge.effectiveTransports, ∃ resolved, resolveWsUrl transport.url = .ok resolved) ∧
    (1 < bridge.effectiveTransports.length → ∀ transport ∈ bridge.effectiveTransports, ∀ resolved,
      resolveWsUrl transport.url = .ok resolved → Encrypted resolved) ∧
    (∀ url path, .direct url (some path) ∈ bridge.effectiveTransports →
      ∃ resolved, resolveWsUrl url = .ok resolved ∧ Encrypted resolved ∧ ∀ (dialer : Dialer) (token : String),
        (∀ dial ∈ (dialer.connectDirect url (some path) token).1,
          dial = ⟨resolved, subprotocol token, .pinned path⟩) ∧
        (dialer.clientRequest resolved = .ok () → dialer.headerValue (subprotocol token) = .ok () →
          dialer.loadPinnedConfig path = .ok () →
          dialer.connectDirect url (some path) token = dialer.dial ⟨resolved, subprotocol token, .pinned path⟩)) := by
  obtain ⟨vetted, fallback⟩ := validateBridgeConfig_vets client configured valid
  refine ⟨?_, ?_, ?_⟩
  · intro transport member
    obtain ⟨resolved, resolves, -⟩ := resolveWsUrl_accepts (vetted transport member).known
    exact ⟨resolved, resolves⟩
  · intro several transport member resolved resolves
    obtain ⟨other, same, encrypted⟩ := resolveWsUrl_accepts (vetted transport member).known
    cases same.symm.trans resolves
    exact encrypted (fallback several transport member)
  · intro url path member
    have seen := vetted _ member
    obtain ⟨resolved, resolves, encrypted⟩ := resolveWsUrl_accepts seen.known
    have secure := encrypted (seen.pinned url path rfl)
    exact ⟨resolved, resolves, secure, fun dialer token => connectDirect_pinned dialer resolves secure⟩

/-- A laptop that reaches its host directly, or else through a relay. -/
def laptopBridge : BridgeConfig where
  transports := [.direct "https://10.0.0.2:8080" (some "host.pem"), .relay "wss://relay.example" none]
  mirror := ["daemon"]

theorem transports_never_downgrade_laptop :
    (∃ resolved, resolveWsUrl "https://10.0.0.2:8080" = .ok resolved ∧ Encrypted resolved) ∧
    ∃ resolved, resolveWsUrl "wss://relay.example" = .ok resolved ∧ Encrypted resolved := by
  obtain ⟨resolves, encrypted, pinned⟩ := transports_never_downgrade (.unchanged _)
    { role := .client, bridge := some laptopBridge, plugins := [{ id := "daemon" }] }
    laptopBridge rfl rfl (by decide +kernel)
  constructor
  · obtain ⟨resolved, known, secure, -⟩ := pinned "https://10.0.0.2:8080" "host.pem" List.mem_cons_self
    exact ⟨resolved, known, secure⟩
  · have member : .relay "wss://relay.example" none ∈ laptopBridge.effectiveTransports := by decide
    obtain ⟨resolved, known⟩ := resolves _ member
    exact ⟨resolved, known, encrypted (by decide) _ member resolved known⟩

def stranded : Dialer where
  clientRequest _ := .ok ()
  headerValue _ := .ok ()
  loadPinnedConfig _ := .ok ()
  connect _ := .error (.connect "refused")

theorem oneCycle_encrypted_stranded :
    ∃ dial ∈ (stranded.oneCycle laptopBridge).1, Encrypted dial.url ∧ dial.connector ≠ .plain := by
  obtain ⟨dial, tried⟩ := List.exists_mem_of_ne_nil (stranded.oneCycle laptopBridge).1 (by decide +kernel)
  exact ⟨dial, tried, @oneCycle_encrypted stranded (.unchanged _)
    { role := .client, bridge := some laptopBridge, plugins := [{ id := "daemon" }] } laptopBridge rfl rfl
    (by decide +kernel) (by decide) dial tried⟩

end Vynkor
