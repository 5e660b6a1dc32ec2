import Termd.Library.CharBoundary
import Termd.Library.TextSplit
import Termd.Library.Whitespace

/-!
# Relay endpoints, and where the daemon dials

An endpoint is written as a URL, with or without a path, and kept in a canonical form. The daemon dials
the WebSocket URL that it stands for. Where there is a proxy, it takes the host and the port out of that
URL again, and asks the proxy for them: by a request with header lines, or by one with a length in front
of the host.

An endpoint without a path stands for one with the path `/ws`, and keeps a canonical form of its own.

## Main definitions

* `RelayBaseUrl.parse`, `RelayBaseUrl.canonicalUrl`, `RelayBaseUrl.daemonMuxUrl`: endpoints
* `normalizeRelayEndpoints`: the endpoints of a configuration
* `relayTargetFromWsUrl`: the host, the port and the authority that are dialled
* `httpConnectRequest`, `socks5ConnectRequest`: what a proxy is asked
* `Written`: a host and a port written as an authority

## Main results

* `endpoints_agree_iff`: when two endpoints are kept apart as they should, and the proxy is asked for the
  host and the port that are dialled
* `kept_apart`: one relay with two canonical forms
-/

namespace Termd.Relay.Endpoint

/-! ### Endpoints

Where something is refused, the error is always the same. -/

inductive RelayUrlScheme
  | ws
  | wss
deriving DecidableEq

def RelayUrlScheme.asStr : RelayUrlScheme → List Char
  | ws => "ws".toList
  | wss => "wss".toList

/-- `default_port_for_scheme` -/
def defaultPortForScheme (scheme : List Char) : Option ℕ :=
  if scheme = "ws".toList then some 80
  else if scheme = "wss".toList then some 443
  else none

structure RelayBasePath where
  canonicalSuffix : List Char
  endpointSuffix : List Char
deriving DecidableEq

structure RelayBaseUrl where
  scheme : RelayUrlScheme
  authority : List Char
  basePath : RelayBasePath
deriving DecidableEq

def parseU16 (text : List Char) : Option ℕ := parseUnsigned 65535 text

def validateAuthority (authority : List Char) : Bool :=
  if authority = [] ∨ '@' ∈ authority then false
  else match stripPrefix ['['] authority with
    | some afterBracket =>
      match splitOnce ']' afterBracket with
      | none => false
      | some (host, suffix) =>
        if host = [] then false
        else match stripPrefix [':'] suffix with
          | some port => (parseU16 port).isSome
          | none => suffix = []
    | none =>
      match rsplitOnce ':' authority with
      | some (host, port) => !(host = [] || ':' ∈ host || (parseU16 port).isNone)
      | none => true

/-- What is refused in a path. -/
def pathRefused (trimmed : List Char) : Bool :=
  "//".toList <:+: trimmed || (trimmed.splitOn '/').any (fun segment =>
    segment = [] || segment = ".".toList || segment = "..".toList) ||
  "/client".toList <:+ trimmed || "/daemon".toList <:+ trimmed ||
  "/daemon-mux".toList <:+ trimmed || (trimmed ≠ "ws".toList && !("/ws".toList <:+ trimmed))

def RelayBasePath.parse : Option (List Char) → Option RelayBasePath
  | none => some { canonicalSuffix := [], endpointSuffix := "/ws".toList }
  | some rawPath =>
    let trimmed := trimMatches '/' rawPath
    if trimmed = [] then some { canonicalSuffix := [], endpointSuffix := "/ws".toList }
    else if pathRefused trimmed then none
    else some { canonicalSuffix := '/' :: trimmed, endpointSuffix := '/' :: trimmed }

namespace RelayBaseUrl

/-- What comes before the colon, and after the slashes. -/
def splitScheme (value : List Char) : Option (RelayUrlScheme × List Char) :=
  match stripPrefix "ws://".toList value with
  | some rest => some (.ws, rest)
  | none => (stripPrefix "wss://".toList value).map fun rest => (.wss, rest)

def parse (value : List Char) : Option RelayBaseUrl :=
  match splitScheme value with
  | none => none
  | some (scheme, rest) =>
    if rest = [] ∨ '?' ∈ rest ∨ '#' ∈ rest then none
    else
      let (authority, rawPath) := match splitOnce '/' rest with
        | some (authority, path) => (authority, some path)
        | none => (rest, none)
      if validateAuthority authority then
        (RelayBasePath.parse rawPath).map fun basePath => { scheme, authority, basePath }
      else none

variable (b : RelayBaseUrl)

def canonicalUrl : List Char :=
  b.scheme.asStr ++ "://".toList ++ b.authority ++ b.basePath.canonicalSuffix

/-- `unified_ws_url` -/
def daemonMuxUrl : List Char :=
  b.scheme.asStr ++ "://".toList ++ b.authority ++ b.basePath.endpointSuffix

end RelayBaseUrl

inductive RelayEndpointError
  | empty
  | tooMany
  | invalid (endpoint : List Char)

/-- The loop of `normalize_relay_endpoints`; what was seen is what is in the list. -/
def normalizeFrom (normalized : List (List Char)) :
    List (List Char) → Except RelayEndpointError (List (List Char))
  | [] => .ok normalized
  | endpoint :: endpoints =>
    let trimmed := trim endpoint
    if trimmed = [] then .error .empty
    else match RelayBaseUrl.parse trimmed with
      | none => .error (.invalid trimmed)
      | some base =>
        let canonical := base.canonicalUrl
        if canonical ∈ normalized then normalizeFrom normalized endpoints
        else if normalized ≠ [] then .error .tooMany
        else normalizeFrom [canonical] endpoints

def normalizeRelayEndpoints (endpoints : List (List Char)) :
    Except RelayEndpointError (List (List Char)) :=
  normalizeFrom [] endpoints

/-! ### What is dialled -/

def parseTargetAuthority (authority scheme : List Char) : Option (List Char × ℕ) :=
  match stripPrefix ['['] authority with
  | some afterBracket =>
    match splitOnce ']' afterBracket with
    | none => none
    | some (host, suffix) =>
      if host = [] then none
      else (((stripPrefix [':'] suffix).bind parseU16).or (defaultPortForScheme scheme)).map
        fun port => (host, port)
  | none =>
    match rsplitOnce ':' authority with
    | some (host, port) =>
      if host = [] ∨ ':' ∈ host then none else (parseU16 port).map fun port => (host, port)
    | none =>
      match defaultPortForScheme scheme with
      | none => none
      | some port => if authority = [] ∨ ':' ∈ authority then none else some (authority, port)

def authorityHasExplicitPort (authority : List Char) : Bool :=
  match stripPrefix ['['] authority with
  | some afterBracket =>
    (splitOnce ']' afterBracket).any fun (_, suffix) => suffix.head? = some ':'
  | none =>
    (rsplitOnce ':' authority).any fun (host, port) =>
      host ≠ [] && ':' ∉ host && (parseU16 port).isSome

def formatAuthority (host : List Char) (port : ℕ) : List Char :=
  if ':' ∈ host then '[' :: host ++ "]:".toList ++ Nat.toDigits 10 port
  else host ++ ':' :: Nat.toDigits 10 port

structure RelayConnectTarget where
  host : List Char
  port : ℕ
  authority : List Char

def relayTargetFromWsUrl (url : List Char) : Option RelayConnectTarget :=
  match RelayBaseUrl.splitScheme url with
  | none => none
  | some (scheme, rest) =>
    let authority := ((splitOnce '/' rest).map Prod.fst).getD rest
    let authority := ((splitOnce '?' authority).map Prod.fst).getD authority
    (parseTargetAuthority authority scheme.asStr).map fun (host, port) =>
      { host, port
        authority := if authorityHasExplicitPort authority then authority
          else formatAuthority host port }

/-- The end of a header line. -/
def crlf : List Char := ['\r', '\n']

def httpConnectRequest (targetAuthority : List Char) : List Char :=
  "CONNECT ".toList ++ targetAuthority ++ " HTTP/1.1".toList ++ crlf ++
    ("Host: ".toList ++ targetAuthority ++ crlf) ++ ("Proxy-Connection: Keep-Alive".toList ++ crlf) ++
    crlf

/-- `u16::to_be_bytes` -/
def portBytes (port : ℕ) : List UInt8 := [UInt8.ofNat (port / 256), UInt8.ofNat port]

def socks5ConnectRequest (host : List Char) (port : ℕ) : Option (List UInt8) :=
  if host = [] ∨ 255 < textLen host then none
  else some ([0x05, 0x01, 0x00, 0x05, 0x01, 0x00, 0x03, UInt8.ofNat (textLen host)] ++
    encodeText host ++ portBytes port)

/-- What a SOCKS5 proxy reads: the greeting without authentication, and the request for a host that is
given by its name. -/
def readSocks5 : List UInt8 → Option (List UInt8 × ℕ)
  | 0x05 :: 0x01 :: 0x00 :: 0x05 :: 0x01 :: 0x00 :: 0x03 :: length :: rest =>
    match rest.drop length.toNat with
    | [high, low] => some (rest.take length.toNat, high.toNat * 256 + low.toNat)
    | _ => none
  | _ => none

/-! ### Authorities -/

def RelayUrlScheme.defaultPort : RelayUrlScheme → ℕ
  | ws => 80
  | wss => 443

/-- **A host and a port written as an authority**, with brackets around the host or without. -/
inductive Written (scheme : RelayUrlScheme) : List Char → List Char → ℕ → Prop
  | bracketed {host text : List Char} {port : ℕ} : host ≠ [] → ']' ∉ host →
    parseU16 text = some port → Written scheme ('[' :: (host ++ ']' :: ':' :: text)) host port
  | bracketedAlone {host : List Char} : host ≠ [] → ']' ∉ host →
    Written scheme ('[' :: (host ++ [']'])) host scheme.defaultPort
  | plain {host text : List Char} {port : ℕ} : host ≠ [] → host.head? ≠ some '[' → ':' ∉ host →
    parseU16 text = some port → Written scheme (host ++ ':' :: text) host port
  | alone {host : List Char} : host ≠ [] → host.head? ≠ some '[' → ':' ∉ host →
    Written scheme host host scheme.defaultPort

section Authorities

variable {scheme : RelayUrlScheme} {authority host text name : List Char} {port : ℕ}

theorem defaultPort_eq (scheme : RelayUrlScheme) :
    defaultPortForScheme scheme.asStr = some scheme.defaultPort := by
  cases scheme with
  | ws => decide
  | wss => decide

theorem notMem_of_parseU16 (h : parseU16 text = some port) {c : Char} (hsign : c ≠ '+')
    (hdigit : c.isDigit = false) : c ∉ text := by
  intro hc
  rcases mem_of_parseUnsigned h hc with rfl | hisDigit
  · exact hsign rfl
  · exact Bool.false_ne_true (hdigit.symm.trans hisDigit)

/-- **What is accepted is a host and a port.** -/
theorem written_of_validate (scheme : RelayUrlScheme) (h : validateAuthority authority = true) :
    ∃ host port, Written scheme authority host port := by
  rw [validateAuthority] at h
  split_ifs at h with hrefused
  obtain ⟨hne, -⟩ := not_or.mp hrefused
  cases hbracket : stripPrefix ['['] authority with
  | some afterBracket =>
    obtain rfl := stripPrefix_eq_some.mp hbracket
    rw [hbracket] at h
    dsimp only at h
    cases hsplit : splitOnce ']' afterBracket with
    | none =>
      rw [hsplit] at h
      cases h
    | some halves =>
      obtain ⟨host, suffix⟩ := halves
      obtain ⟨rfl, hclosed⟩ := splitOnce_eq_some.mp hsplit
      rw [hsplit] at h
      dsimp only at h
      split_ifs at h with hhost
      cases hport : stripPrefix [':'] suffix with
      | some text =>
        obtain rfl := stripPrefix_eq_some.mp hport
        rw [hport] at h
        obtain ⟨port, hparse⟩ := Option.isSome_iff_exists.mp h
        exact ⟨host, port, .bracketed hhost hclosed hparse⟩
      | none =>
        rw [hport] at h
        obtain rfl : suffix = [] := of_decide_eq_true h
        exact ⟨host, _, .bracketedAlone hhost hclosed⟩
  | none =>
    have hhead : authority.head? ≠ some '[' := by
      intro hhead
      obtain ⟨rest, rfl⟩ := List.head?_eq_some_iff.mp hhead
      rw [stripPrefix_singleton] at hbracket
      cases hbracket
    rw [hbracket] at h
    dsimp only at h
    cases hsplit : rsplitOnce ':' authority with
    | some halves =>
      obtain ⟨host, text⟩ := halves
      obtain ⟨rfl, -⟩ := rsplitOnce_eq_some.mp hsplit
      rw [hsplit] at h
      simp only [Bool.not_eq_true', Bool.or_eq_false_iff, decide_eq_false_iff_not] at h
      obtain ⟨⟨hhost, hcolon⟩, hparse⟩ := h
      rw [Option.isNone_eq_false_iff] at hparse
      obtain ⟨port, hparse⟩ := Option.isSome_iff_exists.mp hparse
      refine ⟨host, port, .plain hhost ?_ hcolon hparse⟩
      cases host with
      | nil => exact absurd rfl hhost
      | cons c host => exact hhead
    | none => exact ⟨authority, _, .alone hne hhead (rsplitOnce_eq_none.mp hsplit)⟩

/-! A port that is written is read, whatever the scheme. -/

theorem parse_bracketed (hhost : host ≠ []) (hclosed : ']' ∉ host)
    (hparse : parseU16 text = some port) (name : List Char) :
    parseTargetAuthority ('[' :: (host ++ ']' :: ':' :: text)) name = some (host, port) := by
  rw [parseTargetAuthority, stripPrefix_singleton]
  dsimp only
  rw [splitOnce_append hclosed]
  dsimp only
  rw [if_neg hhost, stripPrefix_singleton, Option.bind_some, hparse]
  rfl

theorem parse_plain (hhost : host ≠ []) (hhead : host.head? ≠ some '[') (hcolon : ':' ∉ host)
    (hparse : parseU16 text = some port) (name : List Char) :
    parseTargetAuthority (host ++ ':' :: text) name = some (host, port) := by
  have hbracket : (host ++ ':' :: text).head? ≠ some '[' := by
    cases host with
    | nil => exact absurd rfl hhost
    | cons c host => exact hhead
  have htext : ':' ∉ text := notMem_of_parseU16 hparse (by decide) (by decide)
  rw [parseTargetAuthority, stripPrefix_singleton_eq_none hbracket]
  dsimp only
  rw [rsplitOnce_append htext]
  dsimp only
  rw [if_neg (not_or.mpr ⟨hhost, hcolon⟩), hparse]
  rfl

theorem explicit_bracketed (hclosed : ']' ∉ host) :
    authorityHasExplicitPort ('[' :: (host ++ ']' :: ':' :: text)) = true := by
  rw [authorityHasExplicitPort, stripPrefix_singleton]
  dsimp only
  rw [splitOnce_append hclosed]
  rfl

theorem explicit_plain (hhost : host ≠ []) (hhead : host.head? ≠ some '[') (hcolon : ':' ∉ host)
    (hparse : parseU16 text = some port) :
    authorityHasExplicitPort (host ++ ':' :: text) = true := by
  have hbracket : (host ++ ':' :: text).head? ≠ some '[' := by
    cases host with
    | nil => exact absurd rfl hhost
    | cons c host => exact hhead
  have htext : ':' ∉ text := notMem_of_parseU16 hparse (by decide) (by decide)
  rw [authorityHasExplicitPort, stripPrefix_singleton_eq_none hbracket]
  dsimp only
  rw [rsplitOnce_append htext]
  simp [hhost, hcolon, hparse]

theorem explicit_bracketedAlone (hclosed : ']' ∉ host) :
    authorityHasExplicitPort ('[' :: (host ++ [']'])) = false := by
  rw [authorityHasExplicitPort, stripPrefix_singleton]
  dsimp only
  rw [splitOnce_append hclosed]
  rfl

theorem explicit_alone (hhead : host.head? ≠ some '[') (hcolon : ':' ∉ host) :
    authorityHasExplicitPort host = false := by
  rw [authorityHasExplicitPort, stripPrefix_singleton_eq_none hhead]
  dsimp only
  rw [rsplitOnce_eq_none.mpr hcolon]
  rfl

theorem parseU16_defaultPort (scheme : RelayUrlScheme) :
    parseU16 (Nat.toDigits 10 scheme.defaultPort) = some scheme.defaultPort := by
  cases scheme with
  | ws => exact parseUnsigned_toDigits (by decide)
  | wss => exact parseUnsigned_toDigits (by decide)

/-- **What was written is read** again. -/
theorem parseTargetAuthority_of_written (h : Written scheme authority host port) :
    parseTargetAuthority authority scheme.asStr = some (host, port) := by
  cases h with
  | bracketed hhost hclosed hparse => exact parse_bracketed hhost hclosed hparse _
  | bracketedAlone hhost hclosed =>
    rw [parseTargetAuthority, stripPrefix_singleton]
    dsimp only
    rw [splitOnce_append hclosed]
    dsimp only
    rw [if_neg hhost, defaultPort_eq]
    rfl
  | plain hhost hhead hcolon hparse => exact parse_plain hhost hhead hcolon hparse _
  | alone hhost hhead hcolon =>
    rw [parseTargetAuthority, stripPrefix_singleton_eq_none hhead]
    dsimp only
    rw [rsplitOnce_eq_none.mpr hcolon, defaultPort_eq]
    dsimp only
    rw [if_neg (not_or.mpr ⟨hhost, hcolon⟩)]

/-- The authority that is dialled. -/
def targetAuthority (authority host : List Char) (port : ℕ) : List Char :=
  if authorityHasExplicitPort authority then authority else formatAuthority host port

/-- An authority in brackets, without a port, whose host begins with a bracket: once the port is
written behind it, the host takes the rest for its end. -/
def DoubleBracket (authority : List Char) : Prop :=
  ∃ host, authority = '[' :: (host ++ [']']) ∧ ']' ∉ host ∧ host.head? = some '[' ∧ ':' ∉ host

/-- **The authority that is dialled** is read as the host and the port, or begins with two brackets. -/
theorem parse_targetAuthority (h : Written scheme authority host port) :
    (∀ name, parseTargetAuthority (targetAuthority authority host port) name = some (host, port)) ↔
      ¬DoubleBracket authority := by
  cases h with
  | bracketed hhost hclosed hparse =>
    rw [targetAuthority, if_pos (explicit_bracketed hclosed)]
    refine iff_of_true (parse_bracketed hhost hclosed hparse) ?_
    rintro ⟨other, heq, hother, -⟩
    have hsplit : splitOnce ']' (other ++ [']']) = some (other, []) := splitOnce_append hother
    rw [← (List.cons.inj heq).2, splitOnce_append hclosed] at hsplit
    cases hsplit
  | bracketedAlone hhost hclosed =>
    rw [targetAuthority, if_neg (by rw [explicit_bracketedAlone hclosed]; exact Bool.false_ne_true),
      formatAuthority]
    by_cases hcolon : ':' ∈ host
    · rw [if_pos hcolon]
      refine iff_of_true (fun name => ?_) ?_
      · have hauthority : '[' :: host ++ "]:".toList ++ Nat.toDigits 10 scheme.defaultPort =
            '[' :: (host ++ ']' :: ':' :: Nat.toDigits 10 scheme.defaultPort) := by simp
        rw [hauthority]
        exact parse_bracketed hhost hclosed (parseU16_defaultPort scheme) name
      · rintro ⟨other, heq, -, -, hother⟩
        obtain rfl := List.append_cancel_right (List.cons.inj heq).2
        exact hother hcolon
    · rw [if_neg hcolon]
      by_cases hhead : host.head? = some '['
      · -- the bracket that opens the host is taken for one around it
        refine iff_of_false (fun hall => ?_) (not_not.mpr ⟨host, rfl, hclosed, hhead, hcolon⟩)
        have hread := hall []
        obtain ⟨rest, rfl⟩ := List.head?_eq_some_iff.mp hhead
        have hunclosed : ']' ∉ rest ++ ':' :: Nat.toDigits 10 scheme.defaultPort := by
          rw [List.mem_append, List.mem_cons, not_or, not_or]
          exact ⟨fun hmem => hclosed (List.mem_cons_of_mem _ hmem), by decide,
            notMem_of_parseU16 (parseU16_defaultPort scheme) (by decide) (by decide)⟩
        rw [parseTargetAuthority, List.cons_append, stripPrefix_singleton] at hread
        dsimp only at hread
        rw [splitOnce_eq_none.mpr hunclosed] at hread
        cases hread
      · refine iff_of_true (parse_plain hhost hhead hcolon (parseU16_defaultPort scheme)) ?_
        rintro ⟨other, heq, -, hother, -⟩
        obtain rfl := List.append_cancel_right (List.cons.inj heq).2
        exact hhead hother
  | plain hhost hhead hcolon hparse =>
    rw [targetAuthority, if_pos (explicit_plain hhost hhead hcolon hparse)]
    refine iff_of_true (parse_plain hhost hhead hcolon hparse) ?_
    rintro ⟨other, heq, -⟩
    cases host with
    | nil => exact hhost rfl
    | cons c host => exact hhead (congrArg some (List.cons.inj heq).1)
  | alone hhost hhead hcolon =>
    rw [targetAuthority, if_neg (by rw [explicit_alone hhead hcolon]; exact Bool.false_ne_true),
      formatAuthority, if_neg hcolon]
    refine iff_of_true (parse_plain hhost hhead hcolon (parseU16_defaultPort scheme)) ?_
    rintro ⟨other, heq, -⟩
    exact hhead (by rw [heq]; rfl)

end Authorities

/-! ### Canonical forms -/

/-- A path that was accepted. -/
inductive RelayBasePath.WellFormed : RelayBasePath → Prop
  | root : WellFormed { canonicalSuffix := [], endpointSuffix := "/ws".toList }
  | below {trimmed : List Char} : trimmed ≠ [] → trimMatches '/' trimmed = trimmed →
    pathRefused trimmed = false →
    WellFormed { canonicalSuffix := '/' :: trimmed, endpointSuffix := '/' :: trimmed }

/-- An endpoint that was accepted. -/
structure RelayBaseUrl.WellFormed (b : RelayBaseUrl) : Prop where
  valid : validateAuthority b.authority = true
  noSlash : '/' ∉ b.authority
  clean : ∀ c ∈ b.authority ++ b.basePath.canonicalSuffix ++ b.basePath.endpointSuffix,
    c ≠ '?' ∧ c ≠ '#'
  path : b.basePath.WellFormed

section Canonical

variable {b b' : RelayBaseUrl} {value authority : List Char} {scheme : RelayUrlScheme}
  {path : RelayBasePath} {rawPath : Option (List Char)}

theorem wellFormed_of_parsePath (h : RelayBasePath.parse rawPath = some path) :
    path.WellFormed := by
  cases rawPath with
  | none => exact Option.some.inj h ▸ .root
  | some rawPath =>
    rw [RelayBasePath.parse] at h
    split_ifs at h with hempty hrefused
    · exact Option.some.inj h ▸ .root
    · have hends : (trimMatches '/' rawPath).head? ≠ some '/' ∧
          (trimMatches '/' rawPath).getLast? ≠ some '/' := trimMatches_ends rawPath
      exact Option.some.inj h ▸
        .below hempty (trimMatches_eq_self hends.1 hends.2) (Bool.not_eq_true _ ▸ hrefused)

theorem parsePath_below {trimmed : List Char} (hempty : trimmed ≠ [])
    (htrimmed : trimMatches '/' trimmed = trimmed) (hrefused : pathRefused trimmed = false) :
    RelayBasePath.parse (some trimmed) =
      some { canonicalSuffix := '/' :: trimmed, endpointSuffix := '/' :: trimmed } := by
  rw [RelayBasePath.parse, htrimmed, if_neg hempty, hrefused]
  rfl

theorem splitScheme_url (scheme : RelayUrlScheme) (rest : List Char) :
    RelayBaseUrl.splitScheme (scheme.asStr ++ "://".toList ++ rest) = some (scheme, rest) := by
  rw [RelayBaseUrl.splitScheme]
  cases scheme with
  | ws =>
    have hws : stripPrefix "ws://".toList (RelayUrlScheme.ws.asStr ++ "://".toList ++ rest) =
        some rest := stripPrefix_append
    rw [hws]
  | wss =>
    have hws : stripPrefix "ws://".toList (RelayUrlScheme.wss.asStr ++ "://".toList ++ rest) =
        none := by
      cases hstrip : stripPrefix "ws://".toList (RelayUrlScheme.wss.asStr ++ "://".toList ++ rest) with
      | none => rfl
      | some other =>
        have heq := stripPrefix_eq_some.mp hstrip
        simp [RelayUrlScheme.asStr] at heq
    have hwss : stripPrefix "wss://".toList (RelayUrlScheme.wss.asStr ++ "://".toList ++ rest) =
        some rest := stripPrefix_append
    rw [hws, hwss]
    rfl

/-- The characters of a path come from where it was read, but for the path that is meant by none. -/
theorem clean_of_parsePath (h : RelayBasePath.parse rawPath = some path)
    (hraw : ∀ raw, rawPath = some raw → ∀ c ∈ raw, c ≠ '?' ∧ c ≠ '#') :
    ∀ c ∈ path.canonicalSuffix ++ path.endpointSuffix, c ≠ '?' ∧ c ≠ '#' := by
  have hroot : ∀ c ∈ ([] ++ "/ws".toList : List Char), c ≠ '?' ∧ c ≠ '#' := by simp
  cases rawPath with
  | none => exact Option.some.inj h ▸ hroot
  | some raw =>
    rw [RelayBasePath.parse] at h
    split_ifs at h
    · exact Option.some.inj h ▸ hroot
    · rw [← Option.some.inj h]
      dsimp only
      intro c hc
      have htrimmed : c = '/' ∨ c ∈ trimMatches '/' raw := by
        exact (List.mem_append.mp hc).elim List.mem_cons.mp List.mem_cons.mp
      rcases htrimmed with rfl | hmem
      · decide
      · exact hraw raw rfl c (mem_of_mem_trimMatches hmem)

theorem RelayBaseUrl.wellFormed_of_parse (h : RelayBaseUrl.parse value = some b) : b.WellFormed := by
  rw [RelayBaseUrl.parse] at h
  cases hscheme : RelayBaseUrl.splitScheme value with
  | none =>
    rw [hscheme] at h
    cases h
  | some pair =>
    obtain ⟨scheme, rest⟩ := pair
    rw [hscheme] at h
    dsimp only at h
    split_ifs at h with hrefused hvalid
    simp only [not_or] at hrefused
    obtain ⟨-, hquery, hfragment⟩ := hrefused
    have hrest : ∀ c ∈ rest, c ≠ '?' ∧ c ≠ '#' := fun c hc =>
      ⟨fun heq => hquery (heq ▸ hc), fun heq => hfragment (heq ▸ hc)⟩
    -- the authority and the path are parts of the rest
    obtain ⟨authority, rawPath, hparts, hslash, hauthority, hraw⟩ :
        ∃ authority rawPath, (match splitOnce '/' rest with
            | some (authority, path) => (authority, some path)
            | none => (rest, none)) = (authority, rawPath) ∧ '/' ∉ authority ∧
          (∀ c ∈ authority, c ≠ '?' ∧ c ≠ '#') ∧
            ∀ raw, rawPath = some raw → ∀ c ∈ raw, c ≠ '?' ∧ c ≠ '#' := by
      cases hsplit : splitOnce '/' rest with
      | none =>
        exact ⟨rest, none, rfl, splitOnce_eq_none.mp hsplit, hrest, fun _ hraw => by cases hraw⟩
      | some halves =>
        obtain ⟨authority, path⟩ := halves
        obtain ⟨rfl, hslash⟩ := splitOnce_eq_some.mp hsplit
        refine ⟨authority, some path, rfl, hslash, fun c hc => hrest c (List.mem_append_left _ hc), ?_⟩
        rintro raw hraw c hc
        obtain rfl := Option.some.inj hraw
        exact hrest c (List.mem_append_right _ (List.mem_cons_of_mem _ hc))
    rw [hparts] at h hvalid
    obtain ⟨path, hpath, rfl⟩ := Option.map_eq_some_iff.mp h
    refine ⟨hvalid, hslash, fun c hc => ?_, wellFormed_of_parsePath hpath⟩
    rw [List.append_assoc, List.mem_append] at hc
    rcases hc with hc | hc
    · exact hauthority c hc
    · exact clean_of_parsePath hpath hraw c hc

/-- **A URL is parsed** as what it was put together from. -/
theorem parse_url (scheme : RelayUrlScheme) (hvalid : validateAuthority authority = true) (hslash : '/' ∉ authority)
    (hclean : ∀ c ∈ authority ++ rawPath.elim [] ('/' :: ·), c ≠ '?' ∧ c ≠ '#') :
    RelayBaseUrl.parse (scheme.asStr ++ "://".toList ++ authority ++ rawPath.elim [] ('/' :: ·)) =
      (RelayBasePath.parse rawPath).map fun basePath => { scheme, authority, basePath } := by
  have hne : authority ++ rawPath.elim [] ('/' :: ·) ≠ [] := by
    intro hnil
    rw [(List.append_eq_nil_iff.mp hnil).1] at hvalid
    exact Bool.false_ne_true hvalid
  have hrefused : ¬(authority ++ rawPath.elim [] ('/' :: ·) = [] ∨
      '?' ∈ authority ++ rawPath.elim [] ('/' :: ·) ∨
        '#' ∈ authority ++ rawPath.elim [] ('/' :: ·)) := by
    rintro (hnil | hquery | hfragment)
    · exact hne hnil
    · exact (hclean _ hquery).1 rfl
    · exact (hclean _ hfragment).2 rfl
  rw [List.append_assoc, RelayBaseUrl.parse, splitScheme_url]
  dsimp only
  rw [if_neg hrefused]
  cases rawPath with
  | none =>
    rw [Option.elim_none, List.append_nil, splitOnce_eq_none.mpr hslash]
    dsimp only
    rw [if_pos hvalid]
  | some raw =>
    rw [Option.elim_some, splitOnce_append hslash]
    dsimp only
    rw [if_pos hvalid]

namespace RelayBaseUrl.WellFormed

/-- **The canonical form is parsed** as the endpoint that it was made of. -/
theorem parse_canonicalUrl (h : b.WellFormed) : RelayBaseUrl.parse b.canonicalUrl = some b := by
  obtain ⟨hvalid, hslash, hclean, hpath⟩ := h
  obtain ⟨scheme, authority, path⟩ := b
  cases hpath with
  | root =>
    have hroot : ∀ c ∈ authority ++ (none : Option (List Char)).elim [] ('/' :: ·),
        c ≠ '?' ∧ c ≠ '#' := fun c hc => hclean c (List.mem_append_left _ hc)
    exact parse_url scheme hvalid hslash hroot
  | @below trimmed hempty htrimmed hrefused =>
    have hbelow : ∀ c ∈ authority ++ (some trimmed).elim [] ('/' :: ·), c ≠ '?' ∧ c ≠ '#' :=
      fun c hc => hclean c (List.mem_append_left _ hc)
    have hparse := parse_url scheme hvalid hslash hbelow
    rw [parsePath_below hempty htrimmed hrefused] at hparse
    exact hparse

/-- The URL that is dialled is an endpoint, too. -/
theorem parse_daemonMuxUrl (h : b.WellFormed) : RelayBaseUrl.parse b.daemonMuxUrl =
    some { b with basePath := ⟨b.basePath.endpointSuffix, b.basePath.endpointSuffix⟩ } := by
  obtain ⟨hvalid, hslash, hclean, hpath⟩ := h
  obtain ⟨scheme, authority, path⟩ := b
  -- in both cases the path below the authority is parsed as itself
  obtain ⟨trimmed, hsuffix, hempty, htrimmed, hrefused⟩ : ∃ trimmed,
      path.endpointSuffix = '/' :: trimmed ∧ trimmed ≠ [] ∧ trimMatches '/' trimmed = trimmed ∧
        pathRefused trimmed = false := by
    cases hpath with
    | root => exact ⟨"ws".toList, rfl, by decide, by decide, by decide⟩
    | @below trimmed hempty htrimmed hrefused => exact ⟨trimmed, rfl, hempty, htrimmed, hrefused⟩
  have hbelow : ∀ c ∈ authority ++ (some trimmed).elim [] ('/' :: ·), c ≠ '?' ∧ c ≠ '#' := by
    intro c hc
    refine hclean c ?_
    rw [List.append_assoc, List.mem_append, List.mem_append, hsuffix]
    rcases List.mem_append.mp hc with hc | hc
    · exact .inl hc
    · exact .inr (.inr hc)
  have hparse := parse_url scheme hvalid hslash hbelow
  rw [parsePath_below hempty htrimmed hrefused] at hparse
  dsimp only [RelayBaseUrl.daemonMuxUrl]
  rw [hsuffix]
  exact hparse

theorem canonicalUrl_inj (h : b.WellFormed) (h' : b'.WellFormed) :
    b.canonicalUrl = b'.canonicalUrl ↔ b = b' := by
  refine ⟨fun heq => ?_, fun heq => heq ▸ rfl⟩
  have hparse := h.parse_canonicalUrl
  rw [heq, h'.parse_canonicalUrl] at hparse
  exact (Option.some.inj hparse).symm

theorem daemonMuxUrl_inj (h : b.WellFormed) (h' : b'.WellFormed) :
    b.daemonMuxUrl = b'.daemonMuxUrl ↔ b.scheme = b'.scheme ∧ b.authority = b'.authority ∧
      b.basePath.endpointSuffix = b'.basePath.endpointSuffix := by
  constructor
  · intro heq
    have hparse := h.parse_daemonMuxUrl
    rw [heq, h'.parse_daemonMuxUrl, Option.some.injEq] at hparse
    exact ⟨(congrArg RelayBaseUrl.scheme hparse).symm, (congrArg RelayBaseUrl.authority hparse).symm,
      (congrArg (RelayBasePath.endpointSuffix ∘ RelayBaseUrl.basePath) hparse).symm⟩
  · rintro ⟨hscheme, hauthority, hsuffix⟩
    rw [RelayBaseUrl.daemonMuxUrl, RelayBaseUrl.daemonMuxUrl, hscheme, hauthority, hsuffix]

end RelayBaseUrl.WellFormed

/-- One endpoint is written without a path, and the other one with the path that it stands for. -/
def Mixed (b b' : RelayBaseUrl) : Prop :=
  b.scheme = b'.scheme ∧ b.authority = b'.authority ∧
    (b.basePath.canonicalSuffix = [] ∧ b'.basePath.canonicalSuffix = "/ws".toList ∨
      b.basePath.canonicalSuffix = "/ws".toList ∧ b'.basePath.canonicalSuffix = [])

/-- The paths that are dialled determine the paths that are kept, up to the one that goes unsaid. -/
theorem RelayBasePath.WellFormed.eq_or_mixed {path path' : RelayBasePath} (h : path.WellFormed)
    (h' : path'.WellFormed) (heq : path.endpointSuffix = path'.endpointSuffix) :
    path = path' ∨ (path.canonicalSuffix = [] ∧ path'.canonicalSuffix = "/ws".toList ∨
      path.canonicalSuffix = "/ws".toList ∧ path'.canonicalSuffix = []) := by
  cases h with
  | root =>
    cases h' with
    | root => exact .inl rfl
    | below => exact .inr (.inl ⟨rfl, heq.symm⟩)
  | below =>
    cases h' with
    | root => exact .inr (.inr ⟨heq, rfl⟩)
    | below =>
      dsimp only at heq
      rw [heq]
      exact .inl rfl

/-- A path that goes unsaid is dialled like one that is said. -/
theorem RelayBasePath.WellFormed.endpointSuffix_eq {path : RelayBasePath} (h : path.WellFormed)
    (hsuffix : path.canonicalSuffix = [] ∨ path.canonicalSuffix = "/ws".toList) :
    path.endpointSuffix = "/ws".toList := by
  cases h with
  | root => rfl
  | below =>
    rcases hsuffix with hnil | hsuffix
    · cases hnil
    · exact hsuffix

/-- **Two endpoints are kept apart** when what is dialled differs, or when they are mixed. -/
theorem canonicalUrl_iff_daemonMuxUrl (h : b.WellFormed) (h' : b'.WellFormed) :
    (b.canonicalUrl = b'.canonicalUrl ↔ b.daemonMuxUrl = b'.daemonMuxUrl) ↔ ¬Mixed b b' := by
  rw [h.canonicalUrl_inj h', h.daemonMuxUrl_inj h']
  constructor
  · rintro hiff ⟨hscheme, hauthority, hmixed⟩
    have hsuffix : b.basePath.endpointSuffix = b'.basePath.endpointSuffix := by
      rcases hmixed with ⟨hnil, hws⟩ | ⟨hws, hnil⟩
      · rw [h.path.endpointSuffix_eq (.inl hnil), h'.path.endpointSuffix_eq (.inr hws)]
      · rw [h.path.endpointSuffix_eq (.inr hws), h'.path.endpointSuffix_eq (.inl hnil)]
    obtain rfl := hiff.mpr ⟨hscheme, hauthority, hsuffix⟩
    rcases hmixed with ⟨hnil, hws⟩ | ⟨hws, hnil⟩
    · cases hnil.symm.trans hws
    · cases hnil.symm.trans hws
  · intro hmixed
    refine ⟨fun heq => heq ▸ ⟨rfl, rfl, rfl⟩, ?_⟩
    rintro ⟨hscheme, hauthority, hsuffix⟩
    rcases h.path.eq_or_mixed h'.path hsuffix with hpath | hpath
    · obtain ⟨scheme, authority, path⟩ := b
      obtain ⟨scheme', authority', path'⟩ := b'
      obtain rfl : scheme = scheme' := hscheme
      obtain rfl : authority = authority' := hauthority
      obtain rfl : path = path' := hpath
      rfl
    · exact absurd ⟨hscheme, hauthority, hpath⟩ hmixed

end Canonical

/-! ### What the proxy is asked -/

section Proxy

variable {b : RelayBaseUrl} {authority host : List Char} {port : ℕ} {scheme : RelayUrlScheme}

/-- **What is dialled** is what is written in the authority. -/
theorem relayTargetFromWsUrl_eq (h : b.WellFormed) (hwritten : Written b.scheme b.authority host port) :
    relayTargetFromWsUrl b.daemonMuxUrl =
      some { host, port, authority := targetAuthority b.authority host port } := by
  have hquery : '?' ∉ b.authority := by
    intro hmem
    refine (h.clean '?' ?_).1 rfl
    rw [List.append_assoc, List.mem_append]
    exact .inl hmem
  obtain ⟨below, hsuffix⟩ : ∃ below, b.basePath.endpointSuffix = '/' :: below := by
    obtain ⟨scheme, authority, path⟩ := b
    cases h.path with
    | root => exact ⟨"ws".toList, rfl⟩
    | @below trimmed => exact ⟨trimmed, rfl⟩
  rw [RelayBaseUrl.daemonMuxUrl, List.append_assoc, relayTargetFromWsUrl, splitScheme_url]
  dsimp only
  rw [hsuffix, splitOnce_append h.noSlash, Option.map_some, Option.getD_some,
    splitOnce_eq_none.mpr hquery, Option.map_none, Option.getD_none,
    parseTargetAuthority_of_written hwritten]
  rfl

theorem crlf_formatAuthority : crlf <:+: formatAuthority host port ↔ crlf <:+: host := by
  have hdigits : '\n' ∉ Nat.toDigits 10 port := by
    intro hmem
    have hdigit := Nat.isDigit_of_mem_toDigits (by omega) le_rfl hmem
    exact absurd hdigit (by decide)
  rw [formatAuthority, crlf]
  split_ifs
  · have hauthority : '[' :: host ++ "]:".toList ++ Nat.toDigits 10 port =
        ['['] ++ (host ++ ("]:".toList ++ Nat.toDigits 10 port)) := by simp
    rw [hauthority, infix_pair_append_iff (by decide), pair_infix_append_iff]
    simpa using hdigits
  · rw [pair_infix_append_iff]
    simpa using hdigits

/-- A line end in what is dialled was written there. -/
theorem crlf_targetAuthority (h : Written scheme authority host port) :
    crlf <:+: targetAuthority authority host port ↔ crlf <:+: authority := by
  cases h with
  | bracketed hhost hclosed hparse => rw [targetAuthority, if_pos (explicit_bracketed hclosed)]
  | bracketedAlone hhost hclosed =>
    rw [targetAuthority, if_neg (by rw [explicit_bracketedAlone hclosed]; exact Bool.false_ne_true),
      crlf_formatAuthority]
    have hauthority : '[' :: (host ++ [']']) = ['['] ++ (host ++ [']']) := rfl
    rw [hauthority, crlf, infix_pair_append_iff (by decide), pair_infix_append_iff (by decide)]
  | plain hhost hhead hcolon hparse =>
    rw [targetAuthority, if_pos (explicit_plain hhost hhead hcolon hparse)]
  | alone hhost hhead hcolon =>
    rw [targetAuthority, if_neg (by rw [explicit_alone hhead hcolon]; exact Bool.false_ne_true),
      crlf_formatAuthority]

/-- The lines of a request with three header lines. -/
theorem splitLines_crlf {connect host proxy : List Char} (hconnect : ¬crlf <:+: connect)
    (hhost : ¬crlf <:+: host) (hproxy : ¬crlf <:+: proxy) :
    splitLines '\r' '\n' (connect ++ crlf ++ (host ++ crlf) ++ (proxy ++ crlf) ++ crlf) =
      [connect, host, proxy, [], []] := by
  have hrequest : connect ++ crlf ++ (host ++ crlf) ++ (proxy ++ crlf) ++ crlf =
      connect ++ '\r' :: '\n' :: (host ++ '\r' :: '\n' ::
        (proxy ++ '\r' :: '\n' :: ([] ++ '\r' :: '\n' :: []))) := by simp [crlf]
  have hblank : ¬crlf <:+: [] := fun hinside => absurd (hinside.subset List.mem_cons_self) (by decide)
  rw [hrequest, splitLines_append (by decide) hconnect, splitLines_append (by decide) hhost,
    splitLines_append (by decide) hproxy, splitLines_append (by decide) hblank, splitLines]

/-- The header lines of the request, and what comes after them. -/
def requestLines (targetAuthority : List Char) : List (List Char) :=
  ["CONNECT ".toList ++ targetAuthority ++ " HTTP/1.1".toList, "Host: ".toList ++ targetAuthority,
    "Proxy-Connection: Keep-Alive".toList, [], []]

/-- **The request has its three header lines** and a blank one, or the authority has a line end. -/
theorem splitLines_httpConnectRequest (targetAuthority : List Char) :
    splitLines '\r' '\n' (httpConnectRequest targetAuthority) = requestLines targetAuthority ↔
      ¬crlf <:+: targetAuthority := by
  have hconnect : crlf <:+: "CONNECT ".toList ++ targetAuthority ++ " HTTP/1.1".toList ↔
      crlf <:+: targetAuthority := by
    rw [crlf, pair_infix_append_iff (by decide), infix_pair_append_iff (by decide)]
  have hhost : crlf <:+: "Host: ".toList ++ targetAuthority ↔ crlf <:+: targetAuthority :=
    infix_pair_append_iff (by decide)
  constructor
  · intro heq
    have hfirst : "CONNECT ".toList ++ targetAuthority ++ " HTTP/1.1".toList ∈
        splitLines '\r' '\n' (httpConnectRequest targetAuthority) := heq ▸ List.mem_cons_self
    rw [← hconnect]
    exact not_infix_of_mem_splitLines hfirst
  · intro hnone
    have hproxy : ¬crlf <:+: "Proxy-Connection: Keep-Alive".toList := fun hinside =>
      absurd (hinside.subset List.mem_cons_self) (by decide)
    unfold httpConnectRequest requestLines
    exact splitLines_crlf (mt hconnect.mp hnone) (mt hhost.mp hnone) hproxy

theorem readSocks5_socks5ConnectRequest (hhost : host ≠ []) (hlen : textLen host ≤ 255)
    (hport : port ≤ 65535) :
    (socks5ConnectRequest host port).bind readSocks5 = some (encodeText host, port) := by
  have hlength : (UInt8.ofNat (textLen host)).toNat = (encodeText host).length := by
    rw [UInt8.toNat_ofNat', Nat.mod_eq_of_lt (by omega)]
    rfl
  have hhigh : (UInt8.ofNat (port / 256)).toNat * 256 + (UInt8.ofNat port).toNat = port := by
    rw [UInt8.toNat_ofNat', UInt8.toNat_ofNat', Nat.mod_eq_of_lt (by omega)]
    omega
  rw [socks5ConnectRequest, if_neg (not_or.mpr ⟨hhost, by omega⟩), Option.bind_some]
  simp only [List.cons_append, List.nil_append, readSocks5]
  rw [hlength, List.drop_left, List.take_left, portBytes]
  dsimp only
  rw [hhigh]

theorem Written.host_ne_nil (h : Written scheme authority host port) : host ≠ [] := by
  cases h with
  | bracketed hhost => exact hhost
  | bracketedAlone hhost => exact hhost
  | plain hhost => exact hhost
  | alone hhost => exact hhost

theorem Written.port_le (h : Written scheme authority host port) : port ≤ 65535 := by
  have hdefault : scheme.defaultPort ≤ 65535 := by
    cases scheme with
    | ws => decide
    | wss => decide
  cases h with
  | bracketed _ _ hparse => exact le_of_parseUnsigned hparse
  | bracketedAlone => exact hdefault
  | plain _ _ _ hparse => exact le_of_parseUnsigned hparse
  | alone => exact hdefault

end Proxy

/-! ### Endpoints that agree -/

/-- A text that is accepted as an endpoint. -/
structure Accepted where
  text : List Char
  base : RelayBaseUrl
  parse_eq : RelayBaseUrl.parse text = some base

/-- What is dialled for an endpoint, and what the proxy is asked for, is the host and the port that are
written in it. -/
structure Dialled (b : RelayBaseUrl) (host : List Char) (port : ℕ) (target : RelayConnectTarget) :
    Prop where
  written : Written b.scheme b.authority host port
  found : relayTargetFromWsUrl b.daemonMuxUrl = some target
  host_eq : target.host = host
  port_eq : target.port = port
  readBack : ∀ scheme, parseTargetAuthority target.authority scheme = some (host, port)
  request : splitLines '\r' '\n' (httpConnectRequest target.authority) =
    requestLines target.authority
  socks5 : textLen host ≤ 255 →
    (socks5ConnectRequest target.host target.port).bind readSocks5 = some (encodeText host, port)

/-- Endpoints are kept apart exactly when what is dialled differs, and dialled as they are written. -/
structure Agree (e e' : Accepted) : Prop where
  reparse : RelayBaseUrl.parse e.base.canonicalUrl = some e.base
  same : e.base.canonicalUrl = e'.base.canonicalUrl ↔ e.base.daemonMuxUrl = e'.base.daemonMuxUrl
  normalize : e.base.daemonMuxUrl = e'.base.daemonMuxUrl → ∀ endpoint endpoint',
    trim endpoint = e.text → trim endpoint' = e'.text →
      normalizeRelayEndpoints [endpoint, endpoint'] = .ok [e.base.canonicalUrl]
  dialled : ∃ host port target, Dialled e.base host port target

/-- Two spellings of one canonical form are one endpoint. -/
theorem normalizeRelayEndpoints_pair (e e' : Accepted) {endpoint endpoint' : List Char}
    (heq : e.base.canonicalUrl = e'.base.canonicalUrl) (htrim : trim endpoint = e.text)
    (htrim' : trim endpoint' = e'.text) :
    normalizeRelayEndpoints [endpoint, endpoint'] = .ok [e.base.canonicalUrl] := by
  have hne : ∀ e : Accepted, e.text ≠ [] := by
    rintro ⟨text, base, hparse⟩ rfl
    cases hparse
  rw [normalizeRelayEndpoints, normalizeFrom, htrim, if_neg (hne e), e.parse_eq]
  dsimp only
  rw [if_neg List.not_mem_nil, if_neg (not_not.mpr rfl), normalizeFrom, htrim', if_neg (hne e'),
    e'.parse_eq]
  dsimp only
  rw [if_pos (by rw [heq]; exact List.mem_singleton_self _)]
  rfl

/-- The target is found; what it is asked by agrees with it where there is no line end, and there are
no two brackets. -/
theorem dialled_iff {b : RelayBaseUrl} (h : b.WellFormed) :
    (∃ host port target, Dialled b host port target) ↔
      ¬DoubleBracket b.authority ∧ ¬crlf <:+: b.authority := by
  constructor
  · rintro ⟨host, port, target, hdialled⟩
    have hfound := hdialled.found
    rw [relayTargetFromWsUrl_eq h hdialled.written] at hfound
    obtain rfl := Option.some.inj hfound
    refine ⟨(parse_targetAuthority hdialled.written).mp hdialled.readBack, ?_⟩
    rw [← crlf_targetAuthority hdialled.written]
    exact (splitLines_httpConnectRequest _).mp hdialled.request
  · rintro ⟨hbrackets, hline⟩
    obtain ⟨host, port, hwritten⟩ := written_of_validate b.scheme h.valid
    exact ⟨host, port, _,
      { written := hwritten
        found := relayTargetFromWsUrl_eq h hwritten
        host_eq := rfl
        port_eq := rfl
        readBack := (parse_targetAuthority hwritten).mpr hbrackets
        request := (splitLines_httpConnectRequest _).mpr
          (mt (crlf_targetAuthority hwritten).mp hline)
        socks5 := fun hlen =>
          readSocks5_socks5ConnectRequest hwritten.host_ne_nil hlen hwritten.port_le }⟩

/-- **Endpoints agree** exactly when they are not one relay with the path and without, the authority
does not begin with two brackets, and there is no line end in it. -/
theorem endpoints_agree_iff (e e' : Accepted) :
    Agree e e' ↔ ¬Mixed e.base e'.base ∧ ¬DoubleBracket e.base.authority ∧
      ¬crlf <:+: e.base.authority := by
  have h : e.base.WellFormed := RelayBaseUrl.wellFormed_of_parse e.parse_eq
  have h' : e'.base.WellFormed := RelayBaseUrl.wellFormed_of_parse e'.parse_eq
  rw [← dialled_iff h, ← canonicalUrl_iff_daemonMuxUrl h h']
  constructor
  · intro hagree
    exact ⟨hagree.same, hagree.dialled⟩
  · rintro ⟨hsame, hdialled⟩
    exact {
      reparse := h.parse_canonicalUrl
      same := hsame
      normalize := fun hdial _ _ htrim htrim' =>
        normalizeRelayEndpoints_pair e e' (hsame.mpr hdial) htrim htrim'
      dialled := hdialled }

/-- **Kept apart.** One relay is written without a path, and then with the path that it stands for. -/
theorem kept_apart : ¬∀ e e' : Accepted, Agree e e' := by
  intro hall
  have hagree := hall ⟨"ws://h".toList, ⟨.ws, "h".toList, ⟨[], "/ws".toList⟩⟩, by decide⟩
    ⟨"ws://h/ws".toList, ⟨.ws, "h".toList, ⟨"/ws".toList, "/ws".toList⟩⟩, by decide⟩
  exact absurd (hagree.same.mpr (by decide)) (by decide)

end Termd.Relay.Endpoint
