import Vynkor.Lib.Text

/-! URLs whose scheme has a default port. A URL does not keep that port, so the text of one names
its port or leaves it to the scheme. -/

namespace Vynkor.Lib

/-- A URL by its parts. `credentials` and `suffix` are written with the signs that set them off. -/
structure Url where
  scheme : String
  credentials : String := ""
  host : String
  port : Option UInt16 := none
  path : String := "/"
  suffix : String := ""
  deriving DecidableEq, Repr

/-- Where a client connects to. -/
structure Endpoint where
  scheme : String
  host : String
  port : UInt16
  deriving DecidableEq, Repr

namespace Url

def defaultPort (scheme : String) : Option UInt16 :=
  if scheme = "http" ∨ scheme = "ws" then some 80
  else if scheme = "https" ∨ scheme = "wss" then some 443
  else if scheme = "ftp" then some 21
  else none

def keptPort (scheme : String) (port : Option UInt16) : Option UInt16 :=
  if port = defaultPort scheme then none else port

def setPort (url : Url) (port : Option UInt16) : Url := { url with port := keptPort url.scheme port }

def setPath (url : Url) (path : String) : Url := { url with path }

/-- Only from one scheme with a default port to another. -/
def setScheme (url : Url) (scheme : String) : Option Url :=
  if (defaultPort url.scheme).isSome ∧ (defaultPort scheme).isSome then
    some { url with scheme, port := keptPort scheme url.port }
  else none

def portText : Option UInt16 → String
  | none => ""
  | some port => ":" ++ toString port.toNat

def toText (url : Url) : String :=
  url.scheme ++ "://" ++ url.credentials ++ url.host ++ portText url.port ++ url.path ++ url.suffix

def endpoint (url : Url) : Option Endpoint :=
  (url.port.or (defaultPort url.scheme)).map fun port => ⟨url.scheme, url.host, port⟩

theorem scheme_of_defaultPort {scheme : String} (known : (defaultPort scheme).isSome) :
    scheme ∈ ["http", "ws", "https", "wss", "ftp"] := by
  unfold defaultPort at known
  by_cases plain : scheme = "http" ∨ scheme = "ws"
  · rcases plain with rfl | rfl <;> decide
  by_cases secure : scheme = "https" ∨ scheme = "wss"
  · rcases secure with rfl | rfl <;> decide
  by_cases file : scheme = "ftp"
  · cases file
    decide
  rw [if_neg plain, if_neg secure, if_neg file] at known
  cases known

theorem colon_not_mem_scheme {scheme : String} (known : (defaultPort scheme).isSome) : ':' ∉ scheme.toList := by
  have schemes : ∀ scheme ∈ ["http", "ws", "https", "wss", "ftp"], ':' ∉ scheme.toList := by decide
  exact schemes scheme (scheme_of_defaultPort known)

theorem solid_scheme {scheme : String} (known : (defaultPort scheme).isSome) :
    ∀ char ∈ scheme.toList, Text.isWhitespace char = false := by
  have schemes : ∀ scheme ∈ ["http", "ws", "https", "wss", "ftp"], scheme.toList.all (!Text.isWhitespace ·) = true := by
    decide
  exact Text.solid_of_all (schemes scheme (scheme_of_defaultPort known))

theorem or_keptPort (scheme : String) (port : Option UInt16) :
    (keptPort scheme port).or (defaultPort scheme) = port.or (defaultPort scheme) := by
  unfold keptPort
  by_cases dropped : port = defaultPort scheme
  · rw [if_pos dropped, dropped, Option.or_self, Option.none_or]
  · rw [if_neg dropped]

@[simp] theorem keptPort_none (scheme : String) : keptPort scheme none = none := by
  unfold keptPort
  split <;> rfl

theorem keptPort_congr {first second : String} (same : defaultPort first = defaultPort second) :
    keptPort first = keptPort second := by
  funext port
  unfold keptPort
  rw [same]

theorem keptPort_keptPort (scheme : String) (port : Option UInt16) :
    keptPort scheme (keptPort scheme port) = keptPort scheme port := by
  unfold keptPort
  by_cases dropped : port = defaultPort scheme
  · rw [if_pos dropped]
    exact keptPort_none scheme
  · rw [if_neg dropped, if_neg dropped]

end Url

/-- No sign that ends a host or sets off another part, and nothing that is stripped. -/
def isHostChar (char : Char) : Bool :=
  !Text.isWhitespace char && 32 < char.toNat && char.toNat != 127 && !"/\\?#@:[]".toList.contains char

/-- A name or an address as it may stand in a URL. -/
structure HostText (text : String) : Prop where
  nonempty : text ≠ ""
  plain : ∀ char ∈ text.toList, isHostChar char = true

/-- What may stand between host and path. -/
inductive PortText : String → Option UInt16 → Prop
  | absent : PortText "" none
  | given {digits : List Char} {port : UInt16} (nonempty : digits ≠ []) (decimal : ∀ char ∈ digits, char.isDigit = true)
      (value : Nat.ofDigitChars 10 digits 0 = port.toNat) : PortText (":" ++ String.ofList digits) (some port)

/-- No path, or a single segment of letters and digits. -/
inductive PathText : String → Prop
  | absent : PathText ""
  | segment {name : List Char} (plain : ∀ char ∈ name, char.isAlphanum = true) : PathText ("/" ++ String.ofList name)

theorem HostText.not_mem {text : String} (host : HostText text) {sign : Char} (other : isHostChar sign = false) :
    sign ∉ text.toList := by
  intro member
  have plain := host.plain sign member
  rw [other] at plain
  cases plain

theorem isWhitespace_of_alphanum {char : Char} (alphanum : char.isAlphanum = true) : Text.isWhitespace char = false := by
  have bounds : 48 ≤ char.val.toNat ∧ char.val.toNat ≤ 122 := by
    delta Char.isAlphanum Char.isAlpha Char.isUpper Char.isLower Char.isDigit at alphanum
    simp only [Bool.or_eq_true, Bool.and_eq_true, decide_eq_true_eq, ge_iff_le, UInt32.le_iff_toNat_le] at alphanum
    have signs : 'A'.val.toNat = 65 ∧ 'Z'.val.toNat = 90 ∧ 'a'.val.toNat = 97 ∧ 'z'.val.toNat = 122 ∧
      '0'.val.toNat = 48 ∧ '9'.val.toNat = 57 := by decide
    omega
  change 48 ≤ char.toNat ∧ char.toNat ≤ 122 at bounds
  simp only [Text.isWhitespace, Bool.or_eq_false_iff, Bool.and_eq_false_iff, decide_eq_false_iff_not, beq_eq_false_iff_ne]
  omega

theorem HostText.solid {text : String} (host : HostText text) : ∀ char ∈ text.toList, Text.isWhitespace char = false := by
  intro char member
  have plain := host.plain char member
  unfold isHostChar at plain
  simp only [Bool.and_eq_true, Bool.not_eq_true'] at plain
  exact plain.1.1.1

theorem PortText.chars {text : String} {given : Option UInt16} (port : PortText text given) :
    ∀ char ∈ text.toList, char = ':' ∨ char.isDigit = true := by
  cases port with
  | absent =>
    intro char member
    cases member
  | given nonempty decimal value =>
    intro char member
    rw [String.toList_append] at member
    rcases List.mem_append.mp member with colon | digit
    · exact .inl (List.mem_singleton.mp colon)
    · rw [String.toList_ofList] at digit
      exact .inr (decimal char digit)

theorem PortText.slash_not_mem {text : String} {given : Option UInt16} (port : PortText text given) : '/' ∉ text.toList := by
  intro member
  rcases port.chars _ member with colon | digit
  · revert colon
    decide
  · revert digit
    decide

theorem PortText.solid {text : String} {given : Option UInt16} (port : PortText text given) :
    ∀ char ∈ text.toList, Text.isWhitespace char = false := by
  intro char member
  rcases port.chars char member with rfl | digit
  · decide
  · apply isWhitespace_of_alphanum
    unfold Char.isAlphanum
    rw [digit, Bool.or_true]

theorem PortText.head {text : String} {given : Option UInt16} (port : PortText text given) :
    ∀ char ∈ text.toList.head?, char = ':' := by
  cases port with
  | absent =>
    intro char member
    cases member
  | given nonempty decimal value =>
    intro char member
    rw [String.toList_append] at member
    cases member
    rfl

theorem PathText.head {text : String} (path : PathText text) : ∀ char ∈ text.toList.head?, char = '/' := by
  cases path with
  | absent =>
    intro char member
    cases member
  | segment plain =>
    intro char member
    rw [String.toList_append] at member
    cases member
    rfl

theorem PathText.solid {text : String} (path : PathText text) : ∀ char ∈ text.toList, Text.isWhitespace char = false := by
  cases path with
  | absent =>
    intro char member
    cases member
  | segment plain =>
    intro char member
    rw [String.toList_append] at member
    rcases List.mem_append.mp member with slash | inside
    · cases List.mem_singleton.mp slash
      decide
    · rw [String.toList_ofList] at inside
      exact isWhitespace_of_alphanum (plain char inside)

theorem portText_portText (port : Option UInt16) : PortText (Url.portText port) port := by
  cases port with
  | none => exact .absent
  | some port =>
    change PortText (":" ++ toString port.toNat) (some port)
    rw [Nat.toString_eq_ofList_toDigits]
    refine .given Nat.toDigits_ne_nil (fun char member => ?_) Nat.ofDigitChars_ten_toDigits
    exact Nat.isDigit_of_mem_toDigits (by decide) (by decide) member

/-- `host` is the normal form of a host that is accepted. -/
structure UrlParser where
  host : String → Option String
  parse : String → Except String Url

namespace UrlParser

def dialled (parser : UrlParser) (text : String) : Option Endpoint :=
  match parser.parse text with
  | .ok url => url.endpoint
  | .error _ => none

/-- Schemes with a default port, on texts that need no decoding. -/
structure Documented (parser : UrlParser) : Prop where
  host_stable : ∀ {text name : String}, HostText text → parser.host text = some name →
    HostText name ∧ parser.host name = some name
  parse_plain : ∀ {scheme text name port path : String} {given : Option UInt16},
    (Url.defaultPort scheme).isSome → HostText text → parser.host text = some name → PortText port given →
    PathText path → parser.parse (scheme ++ "://" ++ text ++ port ++ path) =
      .ok { scheme, host := name, port := Url.keptPort scheme given, path := if path = "" then "/" else path }

/-- A URL as the parser leaves it, without any text that needs decoding. -/
structure Plain (parser : UrlParser) (url : Url) : Prop where
  known : (Url.defaultPort url.scheme).isSome
  host : HostText url.host
  normal : parser.host url.host = some url.host
  kept : Url.keptPort url.scheme url.port = url.port
  path : PathText url.path
  rooted : url.path ≠ ""
  bare : url.credentials = "" ∧ url.suffix = ""

section Documented
variable {parser : UrlParser} {url : Url}

theorem Documented.parse_toText (documented : parser.Documented) (plain : parser.Plain url) :
    parser.parse url.toText = .ok url := by
  have parsed := documented.parse_plain plain.known plain.host plain.normal (portText_portText url.port) plain.path
  rw [plain.kept, if_neg plain.rooted] at parsed
  obtain ⟨noCredentials, noSuffix⟩ := plain.bare
  cases url
  cases noCredentials
  cases noSuffix
  unfold Url.toText
  rw [String.append_empty, String.append_empty]
  exact parsed

theorem Documented.dialled_toText (documented : parser.Documented) (plain : parser.Plain url) :
    parser.dialled url.toText = url.endpoint := by
  unfold dialled
  rw [documented.parse_toText plain]

end Documented

def plainHost (text : List Char) : Option String :=
  if !text.isEmpty && text.all isHostChar then some (String.ofList text) else none

def plainPort : List Char → Option (Option UInt16)
  | [] => some none
  | _ :: digits =>
    let value := Nat.ofDigitChars 10 digits 0
    if !digits.isEmpty && digits.all Char.isDigit && value < 65536 then some (some (.ofNat value)) else none

/-- The rest of the text falls into its parts at the first slash and the first colon. -/
def parsePlain (text : String) : Except String Url :=
  match Text.splitOnceText text "://" with
  | none => .error "relative URL without a base"
  | some (scheme, rest) =>
    let authority := rest.toList.takeWhile (· != '/')
    let path := rest.toList.dropWhile (· != '/')
    match plainHost (authority.takeWhile (· != ':')), plainPort (authority.dropWhile (· != ':')) with
    | none, _ => .error "empty host"
    | some _, none => .error "invalid port number"
    | some host, some port =>
      .ok { scheme, host, port := Url.keptPort scheme port
            path := if path.isEmpty then "/" else String.ofList path }

def plain : UrlParser where
  host text := plainHost text.toList
  parse := parsePlain

theorem plainHost_of_text {text : String} (host : HostText text) : plainHost text.toList = some text := by
  unfold plainHost
  have nonempty : text.toList ≠ [] := fun empty => host.nonempty (String.toList_eq_nil_iff.mp empty)
  rw [if_pos, String.ofList_toList]
  rw [Bool.and_eq_true, List.all_eq_true]
  exact ⟨by simpa using nonempty, host.plain⟩

theorem plainPort_of_text {text : String} {given : Option UInt16} (port : PortText text given) :
    plainPort text.toList = some given := by
  cases port with
  | absent => rfl
  | @given digits port nonempty decimal value =>
    have small : port.toNat < 65536 := port.toNat_lt
    rw [String.toList_append, @String.toList_ofList digits]
    change plainPort (':' :: digits) = _
    unfold plainPort
    dsimp only
    rw [value, if_pos, UInt16.ofNat_toNat]
    simpa [nonempty, small] using decimal

theorem plain_documented : plain.Documented where
  host_stable {text name} host normal := by
    cases (plainHost_of_text host).symm.trans normal
    exact ⟨host, normal⟩
  parse_plain {scheme text name port path given} known host normal portText pathText := by
    cases (plainHost_of_text host).symm.trans normal
    have whole : scheme ++ "://" ++ text ++ port ++ path = scheme ++ "://" ++ (text ++ port ++ path) := by
      simp only [String.append_assoc]
    have slash : '/' ∉ (text ++ port).toList := by
      rw [String.toList_append, List.mem_append]
      exact not_or.mpr ⟨host.not_mem (by decide), portText.slash_not_mem⟩
    change parsePlain _ = _
    unfold parsePlain
    rw [whole, Text.splitOnceText_append rfl (Url.colon_not_mem_scheme known)]
    dsimp only
    -- the authority ends at the slash of the path, the host at the colon of the port
    rw [String.toList_append, (Text.span_append slash pathText.head).1, (Text.span_append slash pathText.head).2,
      String.toList_append, (Text.span_append (host.not_mem (by decide)) portText.head).1,
      (Text.span_append (host.not_mem (by decide)) portText.head).2, plainHost_of_text host, plainPort_of_text portText]
    simp

end UrlParser

end Vynkor.Lib
