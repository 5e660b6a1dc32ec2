import Mathlib.Algebra.Ring.Nat
import Mathlib.Data.Option.Basic
import Termd.Auth.Tickets
import Termd.Library.Base64
import Termd.Library.FiniteMap
import Termd.Library.Json
import Termd.Library.Uuid
import Termd.Relay.Admission

/-!
# Credentials at the relay

A credential is three segments of Base64 with dots between them: a header, the claims and a
signature of both. The daemon signs credentials and verifies them; the relay verifies them too,
before it routes for whoever presents one, with code of its own and with a record of the claims of
its own. The relay reads the three claims that it needs. The daemon reads all seven.

## Where the two verifiers part

The header, the key and the signature are checked alike, and of claims that both records can be
read from the two verifiers see the same kind, issuer and expiry. A credential whose claims only one
of the two records can be read from is refused by one of them; `CredentialService.sign` makes
none.

## Main definitions

* `Wire`: Base64, JSON, UUIDs and Ed25519, which are given
* `CredentialService.sign`: how a daemon makes a credential
* `verifySignedCredential`, `verifyWorkspaceAccessToken`: the checks of the relay

## Main results

* `relayClaims_of_credentialClaims`: what the two records have in common
* `acceptAlike`: where relay and daemon accept the same credentials
-/

namespace Termd.Relay

open Auth

/-! ### What is given -/

/-- Base64, JSON, the text of UUIDs and Ed25519. -/
structure Wire extends JsonCodec where
  /-- `STANDARD` and `URL_SAFE_NO_PAD` -/
  standard : Base64Engine
  urlSafeNoPad : Base64Engine
  uuidText : ℕ → Text
  parseUuid : Text → Option ℕ
  validVerifyingKey : Text → Bool
  verify : Text → Text → Text → Bool
  /-- The signature of a message with the key that a seed gives. -/
  signWith : Text → Text → Text

def ED25519_WIRE_PREFIX : Text := ascii "ed25519-v1:"
def ED25519_PUBLIC_KEY_LEN : ℕ := 32
def ED25519_PRIVATE_KEY_LEN : ℕ := 32
def ED25519_SIGNATURE_LEN : ℕ := 64

/-- `none` is the only error. -/
def decodeEd25519Wire (standard : Base64Engine) (value : Text) (expectedLen : ℕ) :
    Option Text := do
  let encoded ← ED25519_WIRE_PREFIX.isPrefixOf? value
  let bytes ← standard.decode encoded
  if bytes.length = expectedLen then some bytes else none

def wirePrefixed (standard : Base64Engine) (bytes : Text) : Text :=
  ED25519_WIRE_PREFIX ++ standard.encode bytes

/-- `Signature::from_slice` checks the length. -/
def decodeSignature (urlSafeNoPad : Base64Engine) (encoded : Text) : Option Text := do
  let bytes ← urlSafeNoPad.decode encoded
  if bytes.length = ED25519_SIGNATURE_LEN then some bytes else none

/-! ### Records and their JSON -/

/-- `JwsHeader` and `RelayJwsHeader` have the same fields. -/
def headerOfJson (json : Json) : Option JwsHeader := do
  let [alg, kid, typ] ← json.fields [ascii "alg", ascii "kid", ascii "typ"] | none
  some
    { alg := ← Json.required Json.asText alg
      kid := ← Json.required Json.asText kid
      typ := ← Json.required Json.asText typ }

def headerToJson (header : JwsHeader) : Json :=
  .objectOf [(ascii "alg", .text header.alg), (ascii "kid", .text header.kid),
    (ascii "typ", .text header.typ)]

/-- The name of a kind in snake case. -/
def kindName : CredentialKind → Text
  | .pairTicket => ascii "pair_ticket"
  | .deviceCertificate => ascii "device_certificate"
  | .accessToken => ascii "access_token"

def kindOfName (name : Text) : Option CredentialKind :=
  if name = ascii "pair_ticket" then some .pairTicket
  else if name = ascii "device_certificate" then some .deviceCertificate
  else if name = ascii "access_token" then some .accessToken
  else none

inductive RelaySignedCredentialKind
  | pairTicket
  | deviceCertificate
  | accessToken

def RelaySignedCredentialKind.wireName : RelaySignedCredentialKind → Text
  | pairTicket => ascii "pair_ticket"
  | deviceCertificate => ascii "device_certificate"
  | accessToken => ascii "access_token"

/-- The kind that the daemon expects where the relay expects this one. -/
def RelaySignedCredentialKind.toDaemon : RelaySignedCredentialKind → CredentialKind
  | pairTicket => .pairTicket
  | deviceCertificate => .deviceCertificate
  | accessToken => .accessToken

/-- The claims that the relay reads. -/
structure RelayCredentialClaims where
  kind : Text
  issuer : ℕ
  expiresAtMs : ℕ

variable (w : Wire)

def uuidOfJson (json : Json) : Option ℕ := json.asText.bind w.parseUuid

def claimsOfJson (json : Json) : Option CredentialClaims := do
  let [kind, issuer, deviceId, devicePublicKey, issuedAtMs, expiresAtMs, credentialId] ←
    json.fields
      [ascii "kind", ascii "issuer", ascii "device_id", ascii "device_public_key",
        ascii "issued_at_ms", ascii "expires_at_ms", ascii "credential_id"] | none
  some
    { kind := ← Json.required (fun value => value.asVariant.bind kindOfName) kind
      issuer := ← Json.required (uuidOfJson w) issuer
      deviceId := ← Json.optional (uuidOfJson w) deviceId
      devicePublicKey := ← Json.optional Json.asText devicePublicKey
      issuedAtMs := ← Json.required Json.asUnsigned issuedAtMs
      expiresAtMs := ← Json.required Json.asUnsigned expiresAtMs
      credentialId := ← Json.required Json.asText credentialId }

/-- Absent options are left out. -/
def claimsEntries (claims : CredentialClaims) : List (Text × Json) :=
  [(ascii "kind", .text (kindName claims.kind)),
      (ascii "issuer", .text (w.uuidText claims.issuer))] ++
    claims.deviceId.toList.map (fun id => (ascii "device_id", .text (w.uuidText id))) ++
    claims.devicePublicKey.toList.map (fun key => (ascii "device_public_key", .text key)) ++
    [(ascii "issued_at_ms", .unsigned claims.issuedAtMs),
      (ascii "expires_at_ms", .unsigned claims.expiresAtMs),
      (ascii "credential_id", .text claims.credentialId)]

def claimsToJson (claims : CredentialClaims) : Json := .objectOf (claimsEntries w claims)

def relayClaimsOfJson (json : Json) : Option RelayCredentialClaims := do
  let [kind, issuer, expiresAtMs] ←
    json.fields [ascii "kind", ascii "issuer", ascii "expires_at_ms"] | none
  some
    { kind := ← Json.required Json.asText kind
      issuer := ← Json.required (uuidOfJson w) issuer
      expiresAtMs := ← Json.required Json.asUnsigned expiresAtMs }

/-! ### The daemon -/

/-- A segment of Base64 with JSON. -/
def decodeSegment (encoded : Text) : Option Json :=
  (w.urlSafeNoPad.decode encoded).bind w.parseJson

/-- What `verifyCredential` is given. -/
def Wire.crypto : CredentialCrypto where
  uuidText := w.uuidText
  decodeHeader := fun encoded => (decodeSegment w encoded).bind headerOfJson
  decodeClaims := fun encoded => (decodeSegment w encoded).bind (claimsOfJson w)
  validVerifyingKey := fun key =>
    (decodeEd25519Wire w.standard key ED25519_PUBLIC_KEY_LEN).any w.validVerifyingKey
  decodeSignature := decodeSignature w.urlSafeNoPad
  verify := fun key message signature =>
    (decodeEd25519Wire w.standard key ED25519_PUBLIC_KEY_LEN).any fun bytes =>
      w.verify bytes message signature
  validDeviceKey := fun key =>
    (decodeEd25519Wire w.standard key ED25519_PUBLIC_KEY_LEN).any w.validVerifyingKey

structure DaemonIdentity extends DaemonPublicIdentity where
  privateKey : Text

/-- `none` is an error of the key. -/
def DaemonIdentity.signToWire (identity : DaemonIdentity) (signingInput : Text) : Option Text := do
  let seed ← decodeEd25519Wire w.standard identity.privateKey ED25519_PRIVATE_KEY_LEN
  some (wirePrefixed w.standard (w.signWith seed signingInput))

structure CredentialService where
  identity : DaemonIdentity

namespace CredentialService

variable (s : CredentialService)

def header : JwsHeader where
  alg := ascii "EdDSA"
  kid := w.uuidText s.identity.serverId
  typ := ascii "JWT"

def signingInput (claims : CredentialClaims) : Text :=
  w.urlSafeNoPad.encode (w.renderJson (headerToJson (s.header w))) ++
    0x2e :: w.urlSafeNoPad.encode (w.renderJson (claimsToJson w claims))

/-- `none` is `SigningFailed`. -/
def sign (claims : CredentialClaims) : Option Text := do
  let signature ← s.identity.signToWire w (s.signingInput w claims)
  let encoded ← ED25519_WIRE_PREFIX.isPrefixOf? signature
  let signature ← w.standard.decode encoded
  some (s.signingInput w claims ++ 0x2e :: w.urlSafeNoPad.encode signature)

end CredentialService

/-! ### The relay -/

/-- The public key of every registered daemon. -/
abbrev DaemonPublicKeys := FiniteMap ℕ Text

/-- `none` is `Err(())`. -/
def verifySignedCredential (keys : DaemonPublicKeys) (serverId : ℕ) (compact : Text)
    (expectedKind : RelaySignedCredentialKind) (relayNowMs : ℕ) : Option Unit :=
  match keys.lookup serverId, compact.splitOn 0x2e with
  | some publicKey, [encodedHeader, encodedClaims, encodedSignature] => do
    let header ← (decodeSegment w encodedHeader).bind headerOfJson
    guard (header.alg = ascii "EdDSA" ∧ header.typ = ascii "JWT" ∧
      header.kid = w.uuidText serverId)
    let claims ← (decodeSegment w encodedClaims).bind (relayClaimsOfJson w)
    guard (claims.issuer = serverId ∧ claims.kind = expectedKind.wireName ∧
      ¬ claims.expiresAtMs < relayNowMs)
    let publicKey ← decodeEd25519Wire w.standard publicKey ED25519_PUBLIC_KEY_LEN
    let signature ← decodeSignature w.urlSafeNoPad encodedSignature
    guard (w.validVerifyingKey publicKey = true)
    guard (w.verify publicKey (encodedHeader ++ 0x2e :: encodedClaims) signature = true)
  | _, _ => none

def verifyWorkspaceAccessToken (keys : DaemonPublicKeys) (compact : Text) (relayNowMs : ℕ) :
    Option ℕ := do
  let encodedClaims ← (compact.splitOn 0x2e)[1]?
  let claims ← (decodeSegment w encodedClaims).bind (relayClaimsOfJson w)
  verifySignedCredential w keys claims.issuer compact .accessToken relayNowMs
  some claims.issuer

/-! ### What the two records have in common -/

variable {w}

theorem kindName_of_kindOfName {name : Text} {kind : CredentialKind}
    (h : kindOfName name = some kind) : kindName kind = name := by
  unfold kindOfName at h
  split_ifs at h with hticket hcertificate htoken
  · cases h
    exact hticket.symm
  · cases h
    exact hcertificate.symm
  · cases h
    exact htoken.symm

theorem kindName_toDaemon (kind : RelaySignedCredentialKind) :
    kindName kind.toDaemon = kind.wireName := by
  cases kind <;> rfl

theorem kindName_injective : Function.Injective kindName := by
  have hall : ∀ kind, kindOfName (kindName kind) = some kind := by
    intro kind
    cases kind <;> rfl
  intro kind kind' h
  exact Option.some.inj ((hall kind).symm.trans ((congrArg kindOfName h).trans (hall kind')))

/-- What the relay sees of the claims of the daemon. -/
def relayView (claims : CredentialClaims) : RelayCredentialClaims where
  kind := kindName claims.kind
  issuer := claims.issuer
  expiresAtMs := claims.expiresAtMs

theorem claimsOfJson_eq_some {json : Json} {claims : CredentialClaims}
    (h : claimsOfJson w json = some claims) :
    ∃ kind issuer deviceId devicePublicKey issuedAtMs expiresAtMs credentialId,
      json.fields
        [ascii "kind", ascii "issuer", ascii "device_id", ascii "device_public_key",
          ascii "issued_at_ms", ascii "expires_at_ms", ascii "credential_id"] =
        some [kind, issuer, deviceId, devicePublicKey, issuedAtMs, expiresAtMs, credentialId] ∧
      Json.required (fun value => value.asVariant.bind kindOfName) kind = some claims.kind ∧
      Json.required (uuidOfJson w) issuer = some claims.issuer ∧
      Json.required Json.asUnsigned issuedAtMs = some claims.issuedAtMs ∧
      Json.required Json.asUnsigned expiresAtMs = some claims.expiresAtMs := by
  simp only [claimsOfJson, Option.bind_eq_bind, Option.bind_eq_some_iff] at h
  obtain ⟨values, hvalues, h⟩ := h
  split at h
  · simp only [Option.bind_eq_some_iff, Option.some.injEq] at h
    obtain ⟨kind, hkind, issuer, hissuer, deviceId, -, key, -, issuedAtMs, hissued, expiresAtMs,
      hexpires, credentialId, -, rfl⟩ := h
    exact ⟨_, _, _, _, _, _, _, hvalues, hkind, hissuer, hissued, hexpires⟩
  · cases h

theorem relayClaimsOfJson_eq_some {json : Json} {claims : RelayCredentialClaims} :
    relayClaimsOfJson w json = some claims ↔
    ∃ kind issuer expiresAtMs,
      json.fields [ascii "kind", ascii "issuer", ascii "expires_at_ms"] =
        some [kind, issuer, expiresAtMs] ∧
      Json.required Json.asText kind = some claims.kind ∧
      Json.required (uuidOfJson w) issuer = some claims.issuer ∧
      Json.required Json.asUnsigned expiresAtMs = some claims.expiresAtMs := by
  simp only [relayClaimsOfJson, Option.bind_eq_bind, Option.bind_eq_some_iff]
  constructor
  · rintro ⟨values, hvalues, h⟩
    split at h
    · simp only [Option.bind_eq_some_iff, Option.some.injEq] at h
      obtain ⟨kind, hkind, issuer, hissuer, expiresAtMs, hexpires, rfl⟩ := h
      exact ⟨_, _, _, hvalues, hkind, hissuer, hexpires⟩
    · cases h
  · rintro ⟨kind, issuer, expiresAtMs, hvalues, hkind, hissuer, hexpires⟩
    refine ⟨_, hvalues, ?_⟩
    simp only [Option.bind_eq_some_iff, hkind, hissuer, hexpires, Option.some.injEq]
    exact ⟨_, rfl, _, rfl, _, rfl, rfl⟩

/-- **What the two records have in common**: where both can be read, they agree. -/
theorem relayClaims_of_credentialClaims {json : Json} {claims : CredentialClaims}
    {relayClaims : RelayCredentialClaims} (h : claimsOfJson w json = some claims)
    (hrelay : relayClaimsOfJson w json = some relayClaims) : relayClaims = relayView claims := by
  obtain ⟨kind, issuer, deviceId, key, issuedAtMs, expiresAtMs, credentialId, hvalues, hkind,
    hissuer, hissued, hexpires⟩ := claimsOfJson_eq_some h
  obtain ⟨kind', issuer', expiresAtMs', hvalues', hkind', hissuer', hexpires'⟩ :=
    relayClaimsOfJson_eq_some.mp hrelay
  rcases Json.fields_eq_some hvalues with ⟨entries, rfl, hentries⟩ | ⟨elements, rfl, -, helements⟩
  · -- the fields of an object are found by their names
    rcases Json.fields_eq_some hvalues' with ⟨entries', heq, hentries'⟩ | ⟨_, heq, _⟩
    · cases heq
      simp only [List.map_cons, List.map_nil, List.cons.injEq, and_true] at hentries hentries'
      obtain ⟨rfl, rfl, -, -, -, rfl, -⟩ := hentries
      obtain ⟨rfl, rfl, rfl⟩ := hentries'
      have hsame (hname : relayClaims.kind = kindName claims.kind) :
          relayClaims = relayView claims := by
        have hissuer := Option.some.inj (hissuer'.symm.trans hissuer)
        have hexpires := Option.some.inj (hexpires'.symm.trans hexpires)
        cases relayClaims
        simp_all [relayView]
      apply hsame
      obtain ⟨value, hvalue, hname⟩ := Option.bind_eq_some_iff.mp hkind
      obtain ⟨value', hvalue', htext⟩ := Option.bind_eq_some_iff.mp hkind'
      obtain rfl := Option.some.inj (hvalue.symm.trans hvalue')
      cases value with
      | string text =>
        cases htext
        exact (kindName_of_kindOfName hname).symm
      | null => cases htext
      | bool => cases htext
      | unsigned => cases htext
      | number => cases htext
      | array => cases htext
      | object => cases htext
    · cases heq
  · -- an array with all claims of the daemon is too long for the relay
    rcases Json.fields_eq_some hvalues' with ⟨_, heq, _⟩ | ⟨elements', heq, hlength, -⟩
    · cases heq
    · cases heq
      simp only [List.length_cons, List.length_nil, List.range_succ, List.range_zero,
        List.nil_append, List.map_cons, List.map_nil, List.cons_append, List.cons.injEq] at helements
      obtain ⟨-, -, -, -, rfl, -⟩ := helements
      rw [List.getElem?_eq_none (hlength.trans (by decide))] at hissued
      cases hissued

/-! ### The two verifiers -/

/-- The checks that both verifiers make alike: three segments, the header, the key and the
signature. -/
structure Signed (w : Wire) (publicKey : Text) (serverId : ℕ) (compact encodedClaims : Text) :
    Prop where
  segments : ∃ encodedHeader encodedSignature header key signature,
    compact.splitOn 0x2e = [encodedHeader, encodedClaims, encodedSignature] ∧
    (decodeSegment w encodedHeader).bind headerOfJson = some header ∧
    (header.alg = ascii "EdDSA" ∧ header.typ = ascii "JWT" ∧ header.kid = w.uuidText serverId) ∧
    decodeEd25519Wire w.standard publicKey ED25519_PUBLIC_KEY_LEN = some key ∧
    decodeSignature w.urlSafeNoPad encodedSignature = some signature ∧
    w.validVerifyingKey key = true ∧
    w.verify key (encodedHeader ++ 0x2e :: encodedClaims) signature = true

theorem verifyCredential_eq_ok_iff {compact publicKey : Text} {serverId nowMs : ℕ}
    {kind : CredentialKind} {claims : CredentialClaims} :
    verifyCredential w.crypto compact publicKey serverId nowMs kind = .ok claims ↔
      ∃ encodedClaims, Signed w publicKey serverId compact encodedClaims ∧
        (decodeSegment w encodedClaims).bind (claimsOfJson w) = some claims ∧
        claims.issuer = serverId ∧ claims.kind = kind ∧ nowMs ≤ claims.expiresAtMs := by
  constructor
  · intro h
    rw [verifyCredential] at h
    -- every check but the last one that fails ends with an error
    split at h
    case h_2 => cases h
    rename_i encodedHeader encodedClaims encodedSignature hsegments
    split at h
    · cases h
    split at h
    · cases h
    rename_i header hheader
    split at h
    · cases h
    rename_i halg
    split at h
    · cases h
    rename_i hkid
    split at h
    · cases h
    rename_i claims' hclaims
    split at h
    · cases h
    rename_i hissuer
    split at h
    · cases h
    rename_i hkind
    split at h
    · cases h
    rename_i hexpired
    split at h
    · cases h
    rename_i hvalid
    split at h
    · cases h
    rename_i signature hdecoded
    split at h
    case isFalse => cases h
    rename_i hverify
    cases h
    push Not at halg hkid hissuer hkind hexpired
    rw [Bool.not_eq_false] at hvalid
    obtain ⟨key, hkey, hvalid⟩ := (Option.any_eq_true _ _).mp hvalid
    obtain ⟨key', hkey', hverify⟩ := (Option.any_eq_true _ _).mp hverify
    obtain rfl := Option.some.inj (hkey.symm.trans hkey')
    exact ⟨encodedClaims, ⟨_, _, _, _, _, hsegments, hheader, ⟨halg.1, halg.2, hkid⟩, hkey, hdecoded,
      hvalid, hverify⟩, hclaims, hissuer, hkind, hexpired⟩
  · rintro ⟨encodedClaims, ⟨encodedHeader, encodedSignature, header, key, signature, hsegments,
      hheader, ⟨halg, htyp, hkid⟩, hkey, hdecoded, hvalid, hverify⟩, hclaims, hissuer, hkind,
      hexpired⟩
    have hsignature : encodedSignature ≠ [] := by
      rintro rfl
      rw [decodeSignature, w.urlSafeNoPad.decode_nil] at hdecoded
      cases hdecoded
    rw [verifyCredential, hsegments]
    simp [Wire.crypto, hheader, hclaims, hkey, hdecoded, hvalid, hverify, hsignature, halg, htyp,
      hkid, hissuer, hkind, Nat.not_lt.mpr hexpired]

theorem verifySignedCredential_eq_some_iff {keys : DaemonPublicKeys} {serverId : ℕ} {compact : Text}
    {kind : RelaySignedCredentialKind} {relayNowMs : ℕ} :
    verifySignedCredential w keys serverId compact kind relayNowMs = some () ↔
      ∃ publicKey encodedClaims claims, keys.lookup serverId = some publicKey ∧
        Signed w publicKey serverId compact encodedClaims ∧
        (decodeSegment w encodedClaims).bind (relayClaimsOfJson w) = some claims ∧
        claims.issuer = serverId ∧ claims.kind = kind.wireName ∧
        relayNowMs ≤ claims.expiresAtMs := by
  constructor
  · intro h
    rw [verifySignedCredential] at h
    split at h
    case h_2 => cases h
    rename_i publicKey encodedHeader encodedClaims encodedSignature hpublic hsegments
    simp only [Option.bind_eq_bind, Option.bind_eq_some_iff, Option.guard_eq_some', Nat.not_lt] at h
    obtain ⟨header, hheader, _, halg, claims, hclaims, _, ⟨hissuer, hkind, hexpired⟩, key, hkey,
      signature, hdecoded, _, hvalid, hverify⟩ := h
    rw [← Option.bind_eq_some_iff] at hheader hclaims
    exact ⟨publicKey, encodedClaims, claims, hpublic, ⟨_, _, _, _, _, hsegments, hheader, halg, hkey,
      hdecoded, hvalid, hverify⟩, hclaims, hissuer, hkind, hexpired⟩
  · rintro ⟨publicKey, encodedClaims, claims, hpublic, ⟨encodedHeader, encodedSignature, header, key,
      signature, hsegments, hheader, halg, hkey, hdecoded, hvalid, hverify⟩, hclaims, hissuer, hkind,
      hexpired⟩
    rw [verifySignedCredential, hpublic, hsegments]
    simp only [Option.bind_eq_bind, Option.bind_eq_some_iff, Option.guard_eq_some', Nat.not_lt]
    rw [Option.bind_eq_some_iff] at hheader hclaims
    exact ⟨header, hheader, (), halg, claims, hclaims, (), ⟨hissuer, hkind, hexpired⟩, key, hkey,
      signature, hdecoded, (), hvalid, hverify⟩

/-! ### Where the two verifiers agree -/

/-- The claims of a string can be read from the record of the daemon. -/
def ReadByDaemon (w : Wire) (compact : Text) : Prop :=
  ∃ encodedClaims claims, (compact.splitOn 0x2e)[1]? = some encodedClaims ∧
    (decodeSegment w encodedClaims).bind (claimsOfJson w) = some claims

def ReadByRelay (w : Wire) (compact : Text) : Prop :=
  ∃ encodedClaims claims, (compact.splitOn 0x2e)[1]? = some encodedClaims ∧
    (decodeSegment w encodedClaims).bind (relayClaimsOfJson w) = some claims

theorem Signed.claims {publicKey compact encodedClaims : Text} {serverId : ℕ}
    (h : Signed w publicKey serverId compact encodedClaims) :
    (compact.splitOn 0x2e)[1]? = some encodedClaims := by
  obtain ⟨_, _, _, _, _, hsegments, -⟩ := h.segments
  rw [hsegments]
  rfl

/-- Claims that both sides read are the same claims. -/
theorem agree_of_segment {encodedClaims : Text} {claims : CredentialClaims}
    {relayClaims : RelayCredentialClaims}
    (h : (decodeSegment w encodedClaims).bind (claimsOfJson w) = some claims)
    (hrelay : (decodeSegment w encodedClaims).bind (relayClaimsOfJson w) = some relayClaims) :
    relayClaims = relayView claims := by
  obtain ⟨json, hjson, hclaims⟩ := Option.bind_eq_some_iff.mp h
  obtain ⟨json', hjson', hrelayClaims⟩ := Option.bind_eq_some_iff.mp hrelay
  obtain rfl := Option.some.inj (hjson.symm.trans hjson')
  exact relayClaims_of_credentialClaims hclaims hrelayClaims

/-- What the daemon accepts, the relay accepts if it can read the claims. -/
theorem verifySignedCredential_of_verifyCredential {keys : DaemonPublicKeys} {serverId nowMs : ℕ}
    {publicKey compact : Text} {kind : RelaySignedCredentialKind} {claims : CredentialClaims}
    (hkey : keys.lookup serverId = some publicKey) (hread : ReadByRelay w compact)
    (h : verifyCredential w.crypto compact publicKey serverId nowMs kind.toDaemon = .ok claims) :
    verifySignedCredential w keys serverId compact kind nowMs = some () := by
  obtain ⟨encodedClaims, hsigned, hclaims, hissuer, hkind, hexpired⟩ :=
    verifyCredential_eq_ok_iff.mp h
  obtain ⟨encodedClaims', relayClaims, hsegment, hrelay⟩ := hread
  obtain rfl := Option.some.inj (hsigned.claims.symm.trans hsegment)
  obtain rfl := agree_of_segment hclaims hrelay
  refine verifySignedCredential_eq_some_iff.mpr ⟨publicKey, encodedClaims, _, hkey, hsigned, hrelay,
    hissuer, ?_, hexpired⟩
  rw [relayView, hkind, kindName_toDaemon]

/-- What the relay accepts, the daemon accepts if it can read the claims. -/
theorem verifyCredential_of_verifySignedCredential {keys : DaemonPublicKeys} {serverId nowMs : ℕ}
    {publicKey compact : Text} {kind : RelaySignedCredentialKind}
    (hkey : keys.lookup serverId = some publicKey) (hread : ReadByDaemon w compact)
    (h : verifySignedCredential w keys serverId compact kind nowMs = some ()) :
    ∃ claims, verifyCredential w.crypto compact publicKey serverId nowMs kind.toDaemon =
      .ok claims := by
  obtain ⟨publicKey', encodedClaims, relayClaims, hkey', hsigned, hrelay, hissuer, hkind, hexpired⟩ :=
    verifySignedCredential_eq_some_iff.mp h
  obtain rfl := Option.some.inj (hkey.symm.trans hkey')
  obtain ⟨encodedClaims', claims, hsegment, hclaims⟩ := hread
  obtain rfl := Option.some.inj (hsigned.claims.symm.trans hsegment)
  obtain rfl := agree_of_segment hclaims hrelay
  exact ⟨claims, verifyCredential_eq_ok_iff.mpr ⟨encodedClaims, hsigned, hclaims, hissuer,
    kindName_injective (hkind.trans (kindName_toDaemon kind).symm), hexpired⟩⟩

theorem verifyWorkspaceAccessToken_eq_some {keys : DaemonPublicKeys} {compact : Text}
    {relayNowMs serverId : ℕ}
    (h : verifyWorkspaceAccessToken w keys compact relayNowMs = some serverId) :
    verifySignedCredential w keys serverId compact .accessToken relayNowMs = some () := by
  simp only [verifyWorkspaceAccessToken, Option.bind_eq_bind, Option.bind_eq_some_iff,
    Option.some.injEq] at h
  obtain ⟨encodedClaims, -, claims, -, _, hverify, rfl⟩ := h
  exact hverify

/-! ### Credentials that the daemon makes -/

/-- The round trips that a credential takes: its JSON, its UUIDs and its signature. -/
structure RoundTrips (w : Wire) (s : CredentialService) (claims : CredentialClaims) : Prop where
  headerJson : w.ReadsBack (headerToJson (s.header w))
  claimsJson : w.ReadsBack (claimsToJson w claims)
  issuer : w.parseUuid (w.uuidText claims.issuer) = some claims.issuer
  deviceId : ∀ id ∈ claims.deviceId, w.parseUuid (w.uuidText id) = some id
  /-- The public key of the identity verifies what its private key signed. -/
  signature : ∀ seed,
    decodeEd25519Wire w.standard s.identity.privateKey ED25519_PRIVATE_KEY_LEN = some seed →
    (w.signWith seed (s.signingInput w claims)).length = ED25519_SIGNATURE_LEN ∧
    ∃ key, decodeEd25519Wire w.standard s.identity.publicKey ED25519_PUBLIC_KEY_LEN = some key ∧
      w.validVerifyingKey key = true ∧
      w.verify key (s.signingInput w claims) (w.signWith seed (s.signingInput w claims)) = true

theorem headerOfJson_headerToJson (header : JwsHeader) :
    headerOfJson (headerToJson header) = some header := by
  have hnames : (List.map Prod.fst [(ascii "alg", Json.text header.alg),
      (ascii "kid", .text header.kid), (ascii "typ", .text header.typ)]).Nodup := by
    change [ascii "alg", ascii "kid", ascii "typ"].Nodup
    decide
  rw [headerToJson, headerOfJson, Json.fields_objectOf hnames]
  rfl

theorem kindOfName_kindName (kind : CredentialKind) : kindOfName (kindName kind) = some kind := by
  cases kind <;> rfl

theorem nodup_claimsEntries (claims : CredentialClaims) :
    ((claimsEntries w claims).map Prod.fst).Nodup := by
  obtain ⟨kind, issuer, deviceId, devicePublicKey, issuedAtMs, expiresAtMs, credentialId⟩ := claims
  cases deviceId with
  | none =>
    cases devicePublicKey with
    | none =>
      exact (by decide : [ascii "kind", ascii "issuer", ascii "issued_at_ms",
        ascii "expires_at_ms", ascii "credential_id"].Nodup)
    | some key =>
      exact (by decide : [ascii "kind", ascii "issuer", ascii "device_public_key",
        ascii "issued_at_ms", ascii "expires_at_ms", ascii "credential_id"].Nodup)
  | some id =>
    cases devicePublicKey with
    | none =>
      exact (by decide : [ascii "kind", ascii "issuer", ascii "device_id", ascii "issued_at_ms",
        ascii "expires_at_ms", ascii "credential_id"].Nodup)
    | some key =>
      exact (by decide : [ascii "kind", ascii "issuer", ascii "device_id",
        ascii "device_public_key", ascii "issued_at_ms", ascii "expires_at_ms",
        ascii "credential_id"].Nodup)

/-- The claims of the daemon are the values of their fields. -/
theorem fields_claimsToJson (claims : CredentialClaims) :
    (claimsToJson w claims).fields
      [ascii "kind", ascii "issuer", ascii "device_id", ascii "device_public_key",
        ascii "issued_at_ms", ascii "expires_at_ms", ascii "credential_id"] =
      some [some (.text (kindName claims.kind)), some (.text (w.uuidText claims.issuer)),
        claims.deviceId.map fun id => .text (w.uuidText id), claims.devicePublicKey.map .text,
        some (.unsigned claims.issuedAtMs), some (.unsigned claims.expiresAtMs),
        some (.text claims.credentialId)] ∧
    (claimsToJson w claims).fields [ascii "kind", ascii "issuer", ascii "expires_at_ms"] =
      some [some (.text (kindName claims.kind)), some (.text (w.uuidText claims.issuer)),
        some (.unsigned claims.expiresAtMs)] := by
  have hnames := nodup_claimsEntries (w := w) claims
  rw [claimsToJson, Json.fields_objectOf hnames, Json.fields_objectOf hnames]
  obtain ⟨kind, issuer, deviceId, devicePublicKey, issuedAtMs, expiresAtMs, credentialId⟩ := claims
  cases deviceId <;> cases devicePublicKey <;> exact ⟨rfl, rfl⟩

theorem claimsOfJson_claimsToJson {claims : CredentialClaims}
    (hissuer : w.parseUuid (w.uuidText claims.issuer) = some claims.issuer)
    (hdevice : ∀ id ∈ claims.deviceId, w.parseUuid (w.uuidText id) = some id) :
    claimsOfJson w (claimsToJson w claims) = some claims := by
  have hkind := kindOfName_kindName claims.kind
  have hid : Json.optional (uuidOfJson w) (claims.deviceId.map fun id => .text (w.uuidText id)) =
      some claims.deviceId := by
    cases hdev : claims.deviceId with
    | none => rfl
    | some id => simp [Json.optional, Json.text, uuidOfJson, Json.asText, hdevice id hdev]
  have hkey : Json.optional Json.asText (claims.devicePublicKey.map .text) =
      some claims.devicePublicKey := by
    cases claims.devicePublicKey with
    | none => rfl
    | some key => rfl
  rw [claimsOfJson, (fields_claimsToJson claims).1]
  simp [Json.required, uuidOfJson, hissuer, hkind, hid, hkey]

theorem relayClaimsOfJson_claimsToJson {claims : CredentialClaims}
    (hissuer : w.parseUuid (w.uuidText claims.issuer) = some claims.issuer) :
    relayClaimsOfJson w (claimsToJson w claims) = some (relayView claims) := by
  rw [relayClaimsOfJson, (fields_claimsToJson claims).2]
  simp [Json.required, uuidOfJson, hissuer, relayView]

theorem decodeSegment_encode {json : Json} (h : w.ReadsBack json) :
    decodeSegment w (w.urlSafeNoPad.encode (w.renderJson json)) = some json := by
  rw [decodeSegment, w.urlSafeNoPad.decode_encode, Option.bind_some, h]

/-- **What `sign` returns**, with a private key that can be read. -/
theorem sign_eq_some_iff {s : CredentialService} {claims : CredentialClaims} {compact : Text} :
    s.sign w claims = some compact ↔
      ∃ seed,
        decodeEd25519Wire w.standard s.identity.privateKey ED25519_PRIVATE_KEY_LEN = some seed ∧
        s.signingInput w claims ++
          0x2e :: w.urlSafeNoPad.encode (w.signWith seed (s.signingInput w claims)) =
            compact := by
  simp only [CredentialService.sign, DaemonIdentity.signToWire, Option.bind_eq_bind,
    Option.bind_eq_some_iff, Option.some.injEq]
  constructor
  · rintro ⟨_, ⟨seed, hseed, rfl⟩, encoded, hencoded, signature, hsignature, rfl⟩
    have happend := List.isPrefixOf?_eq_some_iff_append_eq.mp hencoded
    have hsame : encoded = w.standard.encode (w.signWith seed (s.signingInput w claims)) :=
      List.append_cancel_left happend
    rw [hsame, w.standard.decode_encode] at hsignature
    obtain rfl := Option.some.inj hsignature
    exact ⟨seed, hseed, rfl⟩
  · rintro ⟨seed, hseed, rfl⟩
    exact ⟨_, ⟨seed, hseed, rfl⟩, _, List.isPrefixOf?_eq_some_iff_append_eq.mpr rfl, _,
      w.standard.decode_encode _, rfl⟩

/-- What was signed: the checks that both verifiers make pass, and the claims are read back. -/
theorem signed_of_sign {s : CredentialService} {claims : CredentialClaims} {compact : Text}
    (h : s.sign w claims = some compact) (hlaws : RoundTrips w s claims) :
    ∃ encodedClaims, Signed w s.identity.publicKey s.identity.serverId compact encodedClaims ∧
      decodeSegment w encodedClaims = some (claimsToJson w claims) := by
  obtain ⟨seed, hseed, rfl⟩ := sign_eq_some_iff.mp h
  obtain ⟨hlength, key, hkey, hvalid, hverify⟩ := hlaws.signature seed hseed
  refine ⟨_, ⟨_, w.urlSafeNoPad.encode (w.signWith seed (s.signingInput w claims)), s.header w, key,
    _, ?_, ?_, ⟨rfl, rfl, rfl⟩, hkey, ?_, hvalid, hverify⟩,
    decodeSegment_encode hlaws.claimsJson⟩
  · rw [CredentialService.signingInput, List.append_assoc, List.cons_append,
      List.splitOn_append_cons_self_of_not_mem (w.urlSafeNoPad.dot_notMem_encode _),
      List.splitOn_append_cons_self_of_not_mem (w.urlSafeNoPad.dot_notMem_encode _),
      List.splitOn_eq_singleton (w.urlSafeNoPad.dot_notMem_encode _)]
  · rw [decodeSegment_encode hlaws.headerJson, Option.bind_some, headerOfJson_headerToJson]
  · rw [decodeSignature, w.urlSafeNoPad.decode_encode, Option.bind_eq_bind, Option.bind_some,
      if_pos hlength]

/-- The key of the daemon verifies only claims that `sign` was given. -/
def OnlySigns (w : Wire) (s : CredentialService) : Prop :=
  ∀ compact encodedClaims,
    Signed w s.identity.publicKey s.identity.serverId compact encodedClaims →
    ∃ claims, RoundTrips w s claims ∧
      encodedClaims = w.urlSafeNoPad.encode (w.renderJson (claimsToJson w claims))

/-- A credential that the daemon made can be read by both. -/
theorem read_of_segment {compact encodedClaims : Text} {claims : CredentialClaims}
    (hsegment : (compact.splitOn 0x2e)[1]? = some encodedClaims)
    (hjson : decodeSegment w encodedClaims = some (claimsToJson w claims))
    (hissuer : w.parseUuid (w.uuidText claims.issuer) = some claims.issuer)
    (hdevice : ∀ id ∈ claims.deviceId, w.parseUuid (w.uuidText id) = some id) :
    ReadByDaemon w compact ∧ ReadByRelay w compact := by
  constructor
  · refine ⟨encodedClaims, claims, hsegment, ?_⟩
    rw [hjson, Option.bind_some, claimsOfJson_claimsToJson hissuer hdevice]
  · refine ⟨encodedClaims, relayView claims, hsegment, ?_⟩
    rw [hjson, Option.bind_some, relayClaimsOfJson_claimsToJson hissuer]

/-- **Where relay and daemon accept the same credentials.** -/
structure AcceptAlike (w : Wire) : Prop where
  relay_of_daemon : ∀ (keys : DaemonPublicKeys) (serverId nowMs : ℕ) (publicKey compact : Text)
    (kind : RelaySignedCredentialKind), keys.lookup serverId = some publicKey →
    ReadByRelay w compact →
    (∃ claims, verifyCredential w.crypto compact publicKey serverId nowMs kind.toDaemon =
      .ok claims) →
    verifySignedCredential w keys serverId compact kind nowMs = some ()
  daemon_of_relay : ∀ (keys : DaemonPublicKeys) (serverId nowMs : ℕ) (publicKey compact : Text)
    (kind : RelaySignedCredentialKind), keys.lookup serverId = some publicKey →
    ReadByDaemon w compact →
    verifySignedCredential w keys serverId compact kind nowMs = some () →
    ∃ claims, verifyCredential w.crypto compact publicKey serverId nowMs kind.toDaemon = .ok claims
  workspace : ∀ (keys : DaemonPublicKeys) (serverId nowMs : ℕ) (compact : Text),
    ReadByDaemon w compact →
    verifyWorkspaceAccessToken w keys compact nowMs = some serverId →
    ∃ publicKey claims, keys.lookup serverId = some publicKey ∧
      verifyCredential w.crypto compact publicKey serverId nowMs .accessToken = .ok claims
  /-- When only `sign` signs, all strings are accepted alike. -/
  alike : ∀ (keys : DaemonPublicKeys) (s : CredentialService) (nowMs : ℕ) (compact : Text)
    (kind : RelaySignedCredentialKind),
    keys.lookup s.identity.serverId = some s.identity.publicKey → OnlySigns w s →
    (verifySignedCredential w keys s.identity.serverId compact kind nowMs = some () ↔
      ∃ claims, verifyCredential w.crypto compact s.identity.publicKey s.identity.serverId nowMs
        kind.toDaemon = .ok claims)
  /-- A credential that was signed is good up to its last millisecond, with the same claims. -/
  issued : ∀ (keys : DaemonPublicKeys) (s : CredentialService) (claims : CredentialClaims)
    (compact : Text) (kind : RelaySignedCredentialKind),
    keys.lookup s.identity.serverId = some s.identity.publicKey →
    claims.issuer = s.identity.serverId → claims.kind = kind.toDaemon → RoundTrips w s claims →
    s.sign w claims = some compact →
    (∃ encodedClaims, (compact.splitOn 0x2e)[1]? = some encodedClaims ∧
      (decodeSegment w encodedClaims).bind (relayClaimsOfJson w) = some (relayView claims)) ∧
    ∀ nowMs,
      (nowMs ≤ claims.expiresAtMs →
        verifyCredential w.crypto compact s.identity.publicKey s.identity.serverId nowMs
          kind.toDaemon = .ok claims ∧
        verifySignedCredential w keys s.identity.serverId compact kind nowMs = some ()) ∧
      (claims.expiresAtMs < nowMs →
        (∀ claims', verifyCredential w.crypto compact s.identity.publicKey s.identity.serverId nowMs
          kind.toDaemon ≠ .ok claims') ∧
        verifySignedCredential w keys s.identity.serverId compact kind nowMs = none)

theorem accepts_issued {keys : DaemonPublicKeys} {s : CredentialService} {claims : CredentialClaims}
    {compact : Text} {kind : RelaySignedCredentialKind}
    (hkey : keys.lookup s.identity.serverId = some s.identity.publicKey)
    (hissuer : claims.issuer = s.identity.serverId) (hkind : claims.kind = kind.toDaemon)
    (hlaws : RoundTrips w s claims) (h : s.sign w claims = some compact) (nowMs : ℕ) :
    (verifyCredential w.crypto compact s.identity.publicKey s.identity.serverId nowMs
        kind.toDaemon = .ok claims ↔ nowMs ≤ claims.expiresAtMs) ∧
      (∀ claims', verifyCredential w.crypto compact s.identity.publicKey s.identity.serverId nowMs
        kind.toDaemon = .ok claims' → nowMs ≤ claims.expiresAtMs) ∧
      (verifySignedCredential w keys s.identity.serverId compact kind nowMs = some () ↔
        nowMs ≤ claims.expiresAtMs) := by
  obtain ⟨encodedClaims, hsigned, hjson⟩ := signed_of_sign h hlaws
  have hdaemon : (decodeSegment w encodedClaims).bind (claimsOfJson w) = some claims := by
    rw [hjson, Option.bind_some, claimsOfJson_claimsToJson hlaws.issuer hlaws.deviceId]
  have hrelay : (decodeSegment w encodedClaims).bind (relayClaimsOfJson w) =
      some (relayView claims) := by
    rw [hjson, Option.bind_some, relayClaimsOfJson_claimsToJson hlaws.issuer]
  -- whoever accepts has read the claims that were signed
  have hdaemonTime (claims') (haccept : verifyCredential w.crypto compact s.identity.publicKey
      s.identity.serverId nowMs kind.toDaemon = .ok claims') : nowMs ≤ claims.expiresAtMs := by
    obtain ⟨encodedClaims', hsigned', hclaims', -, -, hexpired⟩ :=
      verifyCredential_eq_ok_iff.mp haccept
    obtain rfl := Option.some.inj (hsigned.claims.symm.trans hsigned'.claims)
    obtain rfl := Option.some.inj (hdaemon.symm.trans hclaims')
    exact hexpired
  refine ⟨⟨hdaemonTime claims, fun htime => verifyCredential_eq_ok_iff.mpr
    ⟨encodedClaims, hsigned, hdaemon, hissuer, hkind, htime⟩⟩, hdaemonTime, fun haccept => ?_,
    fun htime => verifySignedCredential_eq_some_iff.mpr ⟨_, encodedClaims, _, hkey, hsigned, hrelay,
      hissuer, (congrArg kindName hkind).trans (kindName_toDaemon kind), htime⟩⟩
  obtain ⟨_, encodedClaims', relayClaims, _, hsigned', hclaims', -, -, hexpired⟩ :=
    verifySignedCredential_eq_some_iff.mp haccept
  obtain rfl := Option.some.inj (hsigned.claims.symm.trans hsigned'.claims)
  obtain rfl := Option.some.inj (hrelay.symm.trans hclaims')
  exact hexpired

theorem acceptAlike (w : Wire) : AcceptAlike w where
  relay_of_daemon := fun _ _ _ _ _ _ hkey hread ⟨_, h⟩ =>
    verifySignedCredential_of_verifyCredential hkey hread h
  daemon_of_relay := fun _ _ _ _ _ _ hkey hread h =>
    verifyCredential_of_verifySignedCredential hkey hread h
  workspace := by
    intro keys serverId nowMs compact hread h
    have hverify := verifyWorkspaceAccessToken_eq_some h
    obtain ⟨publicKey, _, _, hkey, -⟩ := verifySignedCredential_eq_some_iff.mp hverify
    obtain ⟨claims, hclaims⟩ := verifyCredential_of_verifySignedCredential hkey hread hverify
    exact ⟨publicKey, claims, hkey, hclaims⟩
  alike := by
    intro keys s nowMs compact kind hkey honly
    constructor
    · intro h
      obtain ⟨_, encodedClaims, _, hkey', hsigned, -⟩ := verifySignedCredential_eq_some_iff.mp h
      obtain rfl := Option.some.inj (hkey.symm.trans hkey')
      obtain ⟨claims, hlaws, rfl⟩ := honly compact encodedClaims hsigned
      exact verifyCredential_of_verifySignedCredential hkey
        (read_of_segment hsigned.claims (decodeSegment_encode hlaws.claimsJson) hlaws.issuer
          hlaws.deviceId).1 h
    · rintro ⟨claims', h⟩
      obtain ⟨encodedClaims, hsigned, -⟩ := verifyCredential_eq_ok_iff.mp h
      obtain ⟨claims, hlaws, rfl⟩ := honly compact encodedClaims hsigned
      exact verifySignedCredential_of_verifyCredential hkey
        (read_of_segment hsigned.claims (decodeSegment_encode hlaws.claimsJson) hlaws.issuer
          hlaws.deviceId).2 h
  issued := by
    intro keys s claims compact kind hkey hissuer hkind hlaws h
    obtain ⟨encodedClaims, hsigned, hjson⟩ := signed_of_sign h hlaws
    refine ⟨⟨encodedClaims, hsigned.claims, ?_⟩, fun nowMs => ?_⟩
    · rw [hjson, Option.bind_some, relayClaimsOfJson_claimsToJson hlaws.issuer]
    obtain ⟨hdaemon, hother, hrelay⟩ := accepts_issued hkey hissuer hkind hlaws h nowMs
    refine ⟨fun htime => ⟨hdaemon.mpr htime, hrelay.mpr htime⟩, fun htime => ⟨fun claims' h => ?_, ?_⟩⟩
    · exact absurd (hother claims' h) (Nat.not_le.mpr htime)
    · exact Option.eq_none_iff_forall_ne_some.mpr fun _ h =>
        absurd (hrelay.mp h) (Nat.not_le.mpr htime)

/-! ### A daemon with a key -/

/-- A header, claims with only the fields that the relay reads, and the claims of an access token. -/
def headerText : Text :=
  utf8Bytes "\x7b\"alg\":\"EdDSA\",\"kid\":\"00000000-0000-0000-0000-000000000001\"," ++
    utf8Bytes "\"typ\":\"JWT\"\x7d"

def bareClaimsText : Text :=
  utf8Bytes "\x7b\"kind\":\"access_token\",\"issuer\":\"00000000-0000-0000-0000-000000000001\"," ++
    utf8Bytes "\"expires_at_ms\":1000\x7d"

def tokenClaimsText : Text :=
  utf8Bytes "\x7b\"kind\":\"access_token\",\"issuer\":\"00000000-0000-0000-0000-000000000001\"," ++
    utf8Bytes "\"device_id\":\"00000000-0000-0000-0000-000000000002\",\"issued_at_ms\":0," ++
    utf8Bytes "\"expires_at_ms\":1000,\"credential_id\":\"00000000-0000-4000-8000-000000000003\"\x7d"

def tokenClaims : CredentialClaims where
  kind := .accessToken
  issuer := 1
  deviceId := some 2
  devicePublicKey := none
  issuedAtMs := 0
  expiresAtMs := 1000
  credentialId := utf8Bytes "00000000-0000-4000-8000-000000000003"

def bareSignature : Text :=
  utf8Bytes "z-UQfNlR3jFCvvRsNZg7S_1NsfbCiXDRofmNm_uz_5KT3bPRkR4uQ4DctwOfcU7xdI-g_i1lpZn1OEXdikH_Cw"

def tokenSignature : Text :=
  utf8Bytes "r-X3YAme5PZ5mTai-tQ-2XF6apUjbnGkR1BnbbK7ZFqGZCcMiGhCRNfl7R-JqTa_dvtV4m27hfDpXnOSDyLmCA"

def keyBytes : Text :=
  (Base64.standard.decode (utf8Bytes "11qYAYKxCrfVS/7TyWQHOg7hcvPapiMlrwIaaPcHURo=")).getD []

def segmentsOf (claimsText : Text) : Text :=
  Base64.urlSafeNoPad.encode headerText ++ 0x2e :: Base64.urlSafeNoPad.encode claimsText

def keyService : CredentialService where
  identity :=
    { serverId := 1
      publicKey := utf8Bytes "ed25519-v1:11qYAYKxCrfVS/7TyWQHOg7hcvPapiMlrwIaaPcHURo="
      privateKey := utf8Bytes "ed25519-v1:nWGxne/9WmC6hEr0kuwsxERJxWl7MmkZcDusAxyuf2A=" }

def parseTexts (text : Text) : Option Json :=
  if text = headerText then
    some (.objectOf [(ascii "alg", .text (ascii "EdDSA")), (ascii "kid", .text (uuidHyphenated 1)),
      (ascii "typ", .text (ascii "JWT"))])
  else if text = bareClaimsText then
    some (.objectOf [(ascii "kind", .text (ascii "access_token")),
      (ascii "issuer", .text (uuidHyphenated 1)), (ascii "expires_at_ms", .unsigned 1000)])
  else if text = tokenClaimsText then
    some (.objectOf [(ascii "kind", .text (ascii "access_token")),
      (ascii "issuer", .text (uuidHyphenated 1)), (ascii "device_id", .text (uuidHyphenated 2)),
      (ascii "issued_at_ms", .unsigned 0), (ascii "expires_at_ms", .unsigned 1000),
      (ascii "credential_id", .text tokenClaims.credentialId)])
  else none

/-- JSON and Ed25519 on these texts, with two signatures of the key. -/
def keyWire : Wire where
  standard := Base64.standardEngine
  urlSafeNoPad := Base64.urlSafeNoPadEngine
  parseJson := parseTexts
  renderJson
    | .object [_, _, _] => headerText
    | _ => tokenClaimsText
  uuidText := uuidHyphenated
  parseUuid := fun text => [1, 2].find? fun id => uuidHyphenated id = text
  validVerifyingKey := fun key =>
    wirePrefixed Base64.standardEngine key = keyService.identity.publicKey
  verify := fun _ message signature =>
    (message, Base64.urlSafeNoPad.encode signature) ∈
      [(segmentsOf bareClaimsText, bareSignature), (segmentsOf tokenClaimsText, tokenSignature)]
  signWith := fun _ _ => (Base64.urlSafeNoPad.decode tokenSignature).getD []

/-- The relay routes for a string that the daemon refuses: its claims have only the fields that the
relay reads. -/
theorem accept_not_alike :
    let keys : DaemonPublicKeys := Finmap.singleton 1 keyService.identity.publicKey
    let compact := segmentsOf bareClaimsText ++ 0x2e :: bareSignature
    verifySignedCredential keyWire keys 1 compact .accessToken 1000 = some () ∧
      verifyWorkspaceAccessToken keyWire keys compact 1000 = some 1 ∧
      verifyCredential keyWire.crypto compact keyService.identity.publicKey 1 1000 .accessToken =
        .error .malformed := by
  decide +kernel

theorem renderJson_tokenClaims :
    keyWire.renderJson (claimsToJson keyWire tokenClaims) = tokenClaimsText := by
  simp only [claimsToJson, claimsEntries, Json.objectOf, tokenClaims, keyWire, Option.toList,
    List.map_cons, List.map_nil, List.append_nil, List.cons_append, List.nil_append]

theorem signingInput_tokenClaims :
    keyService.signingInput keyWire tokenClaims = segmentsOf tokenClaimsText := by
  rw [CredentialService.signingInput, renderJson_tokenClaims]
  rfl

theorem decode_tokenSignature :
    Base64.urlSafeNoPad.decode tokenSignature =
      some ((Base64.urlSafeNoPad.decode tokenSignature).getD []) := by
  have hsome : (Base64.urlSafeNoPad.decode tokenSignature).isSome := by decide +kernel
  obtain ⟨bytes, hbytes⟩ := Option.isSome_iff_exists.mp hsome
  rw [hbytes, Option.getD_some]

theorem roundTrips_keyWire : RoundTrips keyWire keyService tokenClaims where
  headerJson := by
    change parseTexts headerText = _
    rw [parseTexts, if_pos rfl]
    rfl
  claimsJson := by
    have hheader : tokenClaimsText ≠ headerText := by decide +kernel
    have hbare : tokenClaimsText ≠ bareClaimsText := by decide +kernel
    have hparse : keyWire.parseJson tokenClaimsText = parseTexts tokenClaimsText := by
      simp only [keyWire]
    rw [JsonCodec.ReadsBack, renderJson_tokenClaims, hparse, parseTexts, if_neg hheader,
      if_neg hbare, if_pos rfl]
    simp only [claimsToJson, claimsEntries, tokenClaims, keyWire, kindName, Option.toList,
      List.map_cons, List.map_nil, List.append_nil, List.cons_append, List.nil_append]
  issuer := by decide +kernel
  deviceId := by decide +kernel
  signature := by
    intro seed _
    have hlength : ((Base64.urlSafeNoPad.decode tokenSignature).getD []).length =
        ED25519_SIGNATURE_LEN := by decide +kernel
    have hverify : keyWire.verify keyBytes (keyService.signingInput keyWire tokenClaims)
        ((Base64.urlSafeNoPad.decode tokenSignature).getD []) = true := by
      rw [signingInput_tokenClaims]
      simp only [keyWire, Base64.decode_eq_some_iff.mp decode_tokenSignature, List.mem_cons,
        List.not_mem_nil, or_false, or_true, decide_true]
    exact ⟨hlength, keyBytes, by decide +kernel, by decide +kernel, hverify⟩

/-- The access token is good up to its last millisecond and not after it. -/
theorem acceptAlike_token :
    let keys : DaemonPublicKeys := Finmap.singleton 1 keyService.identity.publicKey
    let compact := segmentsOf tokenClaimsText ++ 0x2e :: tokenSignature
    keyService.sign keyWire tokenClaims = some compact ∧
      verifyCredential keyWire.crypto compact keyService.identity.publicKey 1 1000 .accessToken =
        .ok tokenClaims ∧
      verifySignedCredential keyWire keys 1 compact .accessToken 1000 = some () ∧
      verifySignedCredential keyWire keys 1 compact .accessToken 1001 = none := by
  have hseed : (decodeEd25519Wire keyWire.standard keyService.identity.privateKey
      ED25519_PRIVATE_KEY_LEN).isSome := by
    decide +kernel
  obtain ⟨seed, hseed⟩ := Option.isSome_iff_exists.mp hseed
  have hsign : keyService.sign keyWire tokenClaims =
      some (segmentsOf tokenClaimsText ++ 0x2e :: tokenSignature) := by
    refine sign_eq_some_iff.mpr ⟨seed, hseed, ?_⟩
    rw [signingInput_tokenClaims]
    change _ ++ 0x2e :: Base64.urlSafeNoPad.encode
      ((Base64.urlSafeNoPad.decode tokenSignature).getD []) = _
    rw [Base64.decode_eq_some_iff.mp decode_tokenSignature]
  have htimes := ((acceptAlike keyWire).issued
    (Finmap.singleton 1 keyService.identity.publicKey) keyService tokenClaims _ .accessToken
    (by decide +kernel) rfl rfl roundTrips_keyWire hsign).2
  exact ⟨hsign, ((htimes 1000).1 le_rfl).1, ((htimes 1000).1 le_rfl).2,
    ((htimes 1001).2 (Nat.lt_succ_self 1000)).2⟩

end Termd.Relay
