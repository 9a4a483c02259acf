import Vynkor.Advertise
import Vynkor.Lib.Text

/-! Where the advertised URL leads. For a bare host the port is looked for after the parser has
dropped the default one; a full URL is left as it is. -/

namespace Vynkor
open Lib

/-- The port of the scheme that a bare host is given. -/
def schemePort (tls : Bool) : UInt16 := if tls then 443 else 80

private theorem defaultPort_advertiseScheme (tls : Bool) : Url.defaultPort (advertiseScheme tls) = some (schemePort tls) := by
  cases tls <;> decide

/-- What is written out in the end, for any override. -/
def advertisedUrl (target name : String) (port : Option UInt16) (path : String) : Url :=
  { scheme := target
    host := name
    port := Url.keptPort target port
    path := if path = "" ∨ path = "/" then defaultWsPath else path }

section Advertised
variable {parser : UrlParser} {text scheme target name path : String} {given : Option UInt16}

private theorem advertiseHost_solid (config : UInt16) (detectLanIp : Option IpAddr) (nonempty : text ≠ "")
    (solid : ∀ char ∈ text.toList, Text.isWhitespace char = false) :
    advertiseHost detectLanIp config (some text) = .ok text := by
  unfold advertiseHost
  rw [Option.map_some, Text.trim_eq_self solid, Option.filter_some, if_pos (bne_iff_ne.mpr nonempty)]

private theorem withScheme_advertisedUrl (known : (Url.defaultPort scheme).isSome)
    (same : Url.defaultPort target = Url.defaultPort scheme) :
    withScheme text (advertisedUrl scheme name given path) target = .ok (advertisedUrl target name given path).toText := by
  have changed : (advertisedUrl scheme name given path).setScheme target = some (advertisedUrl target name given path) := by
    unfold Url.setScheme advertisedUrl
    rw [if_pos ⟨known, same ▸ known⟩]
    dsimp only
    rw [Url.keptPort_congr same, Url.keptPort_keptPort]
  unfold withScheme
  rw [changed]

private theorem plain_advertisedUrl (known : (Url.defaultPort target).isSome) (host : HostText name)
    (normal : parser.host name = some name) (pathText : PathText path) : parser.Plain (advertisedUrl target name given path) where
  known
  host
  normal
  kept := Url.keptPort_keptPort _ _
  path := by
    unfold advertisedUrl
    dsimp only
    split
    · exact @PathText.segment ['w', 's'] (List.all_eq_true.mp (by decide))
    · exact pathText
  rooted := by
    unfold advertisedUrl
    dsimp only
    split
    · exact fun (empty : "/ws" = "") => absurd empty (by decide)
    next other => exact (not_or.mp other).1
  bare := ⟨rfl, rfl⟩

end Advertised

section BareHost
variable {parser : UrlParser} {text name portText : String} {given : Option UInt16} (config : UInt16) (tls : Bool)
  (detectLanIp : Option IpAddr)

private theorem advertiseHost_bare (host : HostText text) (port : PortText portText given) :
    advertiseHost detectLanIp config (some (text ++ portText)) = .ok (text ++ portText) := by
  apply advertiseHost_solid
  · intro empty
    exact host.nonempty (String.append_eq_empty_iff.mp empty).1
  · intro char member
    rw [String.toList_append, List.mem_append] at member
    exact member.elim (host.solid char) (port.solid char)

private theorem containsText_bare (host : HostText text) (port : PortText portText given) :
    Text.containsText (text ++ portText) "://" = false := by
  apply @Text.containsText_eq_false _ _ '/' (by decide)
  rw [String.toList_append, List.mem_append]
  exact not_or.mpr ⟨host.not_mem (by decide), port.slash_not_mem⟩

private theorem known_advertiseScheme : (Url.defaultPort (advertiseScheme tls)).isSome := by
  rw [defaultPort_advertiseScheme]
  rfl

private theorem completeUrl_bare :
    completeUrl config true { scheme := advertiseScheme tls, host := name, port := Url.keptPort (advertiseScheme tls) given } =
      advertisedUrl (advertiseScheme tls) name (some ((Url.keptPort (advertiseScheme tls) given).getD config)) "" := by
  have kept := Url.keptPort_keptPort (advertiseScheme tls) given
  unfold advertisedUrl
  cases port : Url.keptPort (advertiseScheme tls) given with
  | none => rfl
  | some port =>
    rw [port] at kept
    rw [Option.getD_some, kept]
    rfl

private theorem resolve_bare (documented : parser.Documented) (host : HostText text) (normal : parser.host text = some name)
    (port : PortText portText given) :
    resolveAdvertiseUrl parser detectLanIp config tls (some (text ++ portText)) =
      .ok (advertisedUrl (advertiseScheme tls) name (some ((Url.keptPort (advertiseScheme tls) given).getD config)) "").toText := by
  have parsed := documented.parse_plain (known_advertiseScheme tls) host normal port .absent
  rw [String.append_empty, String.append_assoc, if_pos rfl] at parsed
  refine bind_eq_ok.mpr ⟨_, advertiseHost_bare config detectLanIp host port, ?_⟩
  dsimp only
  rw [containsText_bare host port]
  refine bind_eq_ok.mpr ⟨_, mapError_eq_ok.mpr parsed, ?_⟩
  rw [Bool.not_false, completeUrl_bare]
  exact withScheme_advertisedUrl (known_advertiseScheme tls) rfl

private theorem keptPort_getD_eq_iff {port : UInt16} :
    (Url.keptPort (advertiseScheme tls) (some port)).getD config = port ↔ port ≠ schemePort tls ∨ config = port := by
  unfold Url.keptPort
  rw [defaultPort_advertiseScheme]
  by_cases dropped : port = schemePort tls
  · rw [if_pos (congrArg some dropped), Option.getD_none]
    exact ⟨.inr, fun either => either.resolve_left (not_not.mpr dropped)⟩
  · rw [if_neg fun same => dropped (Option.some.inj same)]
    exact ⟨fun _ => .inl dropped, fun _ => rfl⟩

private theorem endpoint_bare (port : UInt16) :
    (advertisedUrl (advertiseScheme tls) name (some port) "").endpoint = some ⟨advertiseScheme tls, name, port⟩ := by
  unfold Url.endpoint advertisedUrl
  dsimp only
  rw [Url.or_keptPort]
  rfl

end BareHost

/-- Without a port, a client dials that of the kernel. A port in the override is the one dialled if
and only if it is not the default of the scheme, or the kernel has the same. -/
theorem advertised_port_kept (parser : UrlParser) (documented : parser.Documented) (detectLanIp : Option IpAddr)
    (config : UInt16) (tls : Bool) (host name : String) (text : HostText host) (normal : parser.host host = some name) :
    (∃ url, resolveAdvertiseUrl parser detectLanIp config tls (some host) = .ok url ∧
      parser.dialled url = some ⟨advertiseScheme tls, name, config⟩) ∧
    ∀ portText port, PortText portText (some port) →
      ((∃ url, resolveAdvertiseUrl parser detectLanIp config tls (some (host ++ portText)) = .ok url ∧
          parser.dialled url = some ⟨advertiseScheme tls, name, port⟩) ↔
        port ≠ schemePort tls ∨ config = port) := by
  obtain ⟨nameText, nameNormal⟩ := documented.host_stable text normal
  have dialled : ∀ port, parser.dialled (advertisedUrl (advertiseScheme tls) name (some port) "").toText =
      some ⟨advertiseScheme tls, name, port⟩ := by
    intro port
    rw [documented.dialled_toText (plain_advertisedUrl (known_advertiseScheme tls) nameText nameNormal .absent),
      endpoint_bare]
  constructor
  · have resolved := resolve_bare config tls detectLanIp documented text normal .absent
    rw [String.append_empty] at resolved
    refine ⟨_, resolved, ?_⟩
    rw [dialled, Url.keptPort_none, Option.getD_none]
  · intro portText port given
    rw [resolve_bare config tls detectLanIp documented text normal given, ← keptPort_getD_eq_iff]
    constructor
    · rintro ⟨url, resolved, there⟩
      cases resolved
      rw [dialled] at there
      exact congrArg Endpoint.port (Option.some.inj there)
    · intro kept
      refine ⟨_, rfl, ?_⟩
      rw [dialled, kept]

theorem advertised_port_kept_phone :
    (∃ url, resolveAdvertiseUrl .plain none 25565 true (some "100.64.0.2") = .ok url ∧
      UrlParser.plain.dialled url = some ⟨"wss", "100.64.0.2", 25565⟩) ∧
    ∃ url, resolveAdvertiseUrl .plain none 25565 true (some "100.64.0.2:8443") = .ok url ∧
      UrlParser.plain.dialled url = some ⟨"wss", "100.64.0.2", 8443⟩ := by
  obtain ⟨bare, explicit⟩ := advertised_port_kept .plain UrlParser.plain_documented none 25565 true "100.64.0.2" "100.64.0.2"
    ⟨by decide, List.all_eq_true.mp (by decide)⟩ (by decide)
  have port : PortText ":8443" (some 8443) :=
    @PortText.given ['8', '4', '4', '3'] 8443 (by decide) (List.all_eq_true.mp (by decide)) (by decide)
  exact ⟨bare, (explicit ":8443" 8443 port).mpr (.inl (by decide))⟩

/-- A plaintext kernel on port 8080 is told to advertise port 80 and advertises its own. -/
theorem default_port_replaced :
    resolveAdvertiseUrl .plain none 8080 false (some "myhost.tailnet:80") = .ok "ws://myhost.tailnet:8080/ws" ∧
      UrlParser.plain.dialled "ws://myhost.tailnet:8080/ws" = some ⟨"ws", "myhost.tailnet", 8080⟩ := by
  decide +kernel

def webSocketScheme (scheme : String) : Option String :=
  if scheme = "ws" ∨ scheme = "wss" then some scheme else wsSchemeFor scheme

private theorem defaultPort_webSocketScheme {scheme target : String} (mapped : webSocketScheme scheme = some target) :
    (Url.defaultPort scheme).isSome ∧ Url.defaultPort target = Url.defaultPort scheme := by
  unfold webSocketScheme wsSchemeFor at mapped
  by_cases webSocket : scheme = "ws" ∨ scheme = "wss"
  · rw [if_pos webSocket] at mapped
    cases mapped
    rcases webSocket with rfl | rfl <;> decide
  rw [if_neg webSocket] at mapped
  by_cases http : scheme = "http"
  · rw [if_pos http] at mapped
    cases mapped
    cases http
    decide
  rw [if_neg http] at mapped
  by_cases https : scheme = "https"
  · rw [if_pos https] at mapped
    cases mapped
    cases https
    decide
  rw [if_neg https] at mapped
  cases mapped

section FullUrl
variable {parser : UrlParser} {scheme target host name portText path : String} {given : Option UInt16} (config : UInt16)
  (tls : Bool) (detectLanIp : Option IpAddr)

private theorem advertiseHost_full (known : (Url.defaultPort scheme).isSome) (text : HostText host) (port : PortText portText given)
    (pathText : PathText path) :
    advertiseHost detectLanIp config (some (scheme ++ "://" ++ host ++ portText ++ path)) =
      .ok (scheme ++ "://" ++ host ++ portText ++ path) := by
  apply advertiseHost_solid
  · intro empty
    simp only [String.append_eq_empty_iff] at empty
    exact text.nonempty empty.1.1.2
  · intro char member
    simp only [String.toList_append, List.mem_append] at member
    rcases member with (((inScheme | sign) | inHost) | inPort) | inPath
    · exact Url.solid_scheme known char inScheme
    · exact Text.solid_of_all (by decide) char sign
    · exact text.solid char inHost
    · exact port.solid char inPort
    · exact pathText.solid char inPath

private theorem completeUrl_full :
    completeUrl config false
        { scheme, host := name, port := Url.keptPort scheme given, path := if path = "" then "/" else path } =
      advertisedUrl scheme name given path := by
  unfold completeUrl advertisedUrl
  dsimp only
  rw [Bool.and_false, if_neg Bool.false_ne_true]
  by_cases empty : path = ""
  · cases empty
    rfl
  by_cases root : path = "/"
  · cases root
    rfl
  rw [if_neg empty, if_neg (not_or.mpr ⟨empty, root⟩), if_neg (not_or.mpr ⟨empty, root⟩)]

private theorem resolve_full (documented : parser.Documented) (mapped : webSocketScheme scheme = some target) (text : HostText host)
    (normal : parser.host host = some name) (port : PortText portText given) (pathText : PathText path) :
    resolveAdvertiseUrl parser detectLanIp config tls (some (scheme ++ "://" ++ host ++ portText ++ path)) =
      .ok (advertisedUrl target name given path).toText := by
  obtain ⟨known, same⟩ := defaultPort_webSocketScheme mapped
  have parsed := documented.parse_plain known text normal port pathText
  have full : Text.containsText (scheme ++ "://" ++ host ++ portText ++ path) "://" = true := by
    rw [@String.append_assoc _ portText path, @String.append_assoc _ host]
    exact Text.containsText_append rfl (Url.colon_not_mem_scheme known)
  refine bind_eq_ok.mpr ⟨_, advertiseHost_full config detectLanIp known text port pathText, ?_⟩
  dsimp only
  rw [full]
  refine bind_eq_ok.mpr ⟨_, mapError_eq_ok.mpr parsed, ?_⟩
  rw [Bool.not_true, completeUrl_full, if_neg Bool.false_ne_true]
  by_cases webSocket : scheme = "ws" ∨ scheme = "wss"
  · unfold webSocketScheme at mapped
    rw [if_pos webSocket] at mapped
    cases mapped
    exact if_pos webSocket
  · unfold webSocketScheme at mapped
    rw [if_neg webSocket] at mapped
    have kept : (advertisedUrl scheme name given path).scheme = scheme := rfl
    rw [kept, if_neg webSocket, mapped]
    exact withScheme_advertisedUrl known same

/-- A full URL keeps its port and its path, and its own scheme decides whether the connection is
secured. -/
theorem full_url_kept (documented : parser.Documented) (mapped : webSocketScheme scheme = some target) (text : HostText host)
    (normal : parser.host host = some name) (port : PortText portText given) (pathText : PathText path) :
    ∃ url, resolveAdvertiseUrl parser detectLanIp config tls (some (scheme ++ "://" ++ host ++ portText ++ path)) = .ok url ∧
      parser.parse url = .ok (advertisedUrl target name given path) := by
  obtain ⟨known, same⟩ := defaultPort_webSocketScheme mapped
  obtain ⟨nameText, nameNormal⟩ := documented.host_stable text normal
  refine ⟨_, resolve_full config tls detectLanIp documented mapped text normal port pathText, ?_⟩
  exact documented.parse_toText (plain_advertisedUrl (same ▸ known) nameText nameNormal pathText)

end FullUrl

theorem full_url_kept_hub :
    ∃ url, resolveAdvertiseUrl .plain none 25565 false (some ("https" ++ "://" ++ "hub.tailnet" ++ ":443" ++ "/agent")) = .ok url ∧
      UrlParser.plain.parse url = .ok (advertisedUrl "wss" "hub.tailnet" (some 443) "/agent") := by
  have port : PortText ":443" (some 443) :=
    @PortText.given ['4', '4', '3'] 443 (by decide) (List.all_eq_true.mp (by decide)) (by decide)
  have path : PathText "/agent" := @PathText.segment ['a', 'g', 'e', 'n', 't'] (List.all_eq_true.mp (by decide))
  exact full_url_kept 25565 false none UrlParser.plain_documented (by decide) ⟨by decide, List.all_eq_true.mp (by decide)⟩
    (by decide) port path

end Vynkor
