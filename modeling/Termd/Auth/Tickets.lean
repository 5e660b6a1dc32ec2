import Termd.Auth.Challenge

/-!
# Pair tickets

A pair ticket is a credential that the daemon signs: whoever presents it before it expires may have
one device trusted. The daemon keeps no list of the tickets it gave out. It keeps the ids of those
that were used, in memory, and adds an id after the trusted devices were saved.

## Where the list ends

The order of the steps of a call is what the guarantee hangs on: the device is trusted, the state is
saved, and then the ticket is used up. When the save fails, the device stays trusted, the call
reports an error and the ticket is still good; when the daemon is restarted, the list is empty and
tickets that have not expired are good once more. `Careful` excludes these two steps.

Base64, JSON and signatures are parameters. That signatures cannot be forged is a guard of the
steps: what verifies was signed by the daemon.

## Main definitions

* `verifyCredential`: the checks of a credential
* `TicketDaemon.pairDeviceCertificate`: the trade of a ticket for trust
* `TicketRun`: a daemon with its saved state, what it signed and what happened

## Main results

* `TicketRun.Invariant.step`: a ticket that paired a device is used up or expired
-/

namespace Termd.Auth

/-! ### Credentials -/

inductive CredentialKind
  | pairTicket
  | deviceCertificate
  | accessToken
deriving DecidableEq

structure CredentialClaims where
  kind : CredentialKind
  issuer : ℕ
  deviceId : Option DeviceId
  devicePublicKey : Option Text
  issuedAtMs : ℕ
  expiresAtMs : ℕ
  credentialId : Text
deriving DecidableEq

inductive CredentialError
  | malformed
  | unsupportedAlgorithm
  | wrongKeyId
  | wrongIssuer
  | wrongKind
  | expired
  | invalidSignature
deriving DecidableEq

structure JwsHeader where
  alg : Text
  kid : Text
  typ : Text

/-- Base64 with JSON, the display of UUIDs, and Ed25519. -/
structure CredentialCrypto where
  uuidText : ℕ → Text
  decodeHeader : Text → Option JwsHeader
  decodeClaims : Text → Option CredentialClaims
  validVerifyingKey : Text → Bool
  decodeSignature : Text → Option Text
  verify : Text → Text → Text → Bool
  validDeviceKey : Text → Bool

def verifyCredential (crypto : CredentialCrypto) (compact daemonPublicKey : Text)
    (expectedServerId nowMs : ℕ) (expectedKind : CredentialKind) :
    Except CredentialError CredentialClaims :=
  match compact.splitOn 0x2e with
  | [encodedHeader, encodedClaims, encodedSignature] =>
    if encodedSignature = [] then .error .malformed
    else match crypto.decodeHeader encodedHeader with
      | none => .error .malformed
      | some header =>
        if header.alg ≠ ascii "EdDSA" ∨ header.typ ≠ ascii "JWT" then .error .unsupportedAlgorithm
        else if header.kid ≠ crypto.uuidText expectedServerId then .error .wrongKeyId
        else match crypto.decodeClaims encodedClaims with
          | none => .error .malformed
          | some claims =>
            if claims.issuer ≠ expectedServerId then .error .wrongIssuer
            else if claims.kind ≠ expectedKind then .error .wrongKind
            else if claims.expiresAtMs < nowMs then .error .expired
            else if crypto.validVerifyingKey daemonPublicKey = false then .error .invalidSignature
            else match crypto.decodeSignature encodedSignature with
              | none => .error .malformed
              | some signature =>
                if crypto.verify daemonPublicKey (encodedHeader ++ 0x2e :: encodedClaims) signature
                then .ok claims
                else .error .invalidSignature
  | _ => .error .malformed

/-- What a credential that verifies says. -/
theorem verifyCredential_eq_ok {crypto : CredentialCrypto} {compact daemonPublicKey : Text}
    {expectedServerId nowMs : ℕ} {expectedKind : CredentialKind} {claims : CredentialClaims}
    (h : verifyCredential crypto compact daemonPublicKey expectedServerId nowMs expectedKind =
      .ok claims) :
    claims.issuer = expectedServerId ∧ claims.kind = expectedKind ∧ nowMs ≤ claims.expiresAtMs := by
  rw [verifyCredential] at h
  -- every check but the last one that fails ends with an error
  split at h
  · split at h
    · cases h
    split at h
    · cases h
    split at h
    · cases h
    split at h
    · cases h
    split at h
    · cases h
    split at h
    · cases h
    rename_i hissuer
    split at h
    · cases h
    rename_i hkind
    split at h
    · cases h
    rename_i hexpired
    split at h
    · cases h
    split at h
    · cases h
    split at h
    · cases h
      exact ⟨not_not.mp hissuer, not_not.mp hkind, Nat.not_lt.mp hexpired⟩
    · cases h
  · cases h

/-! ### The daemon -/

inductive ProtocolError
  | pairingFailed
  | authFailed
  | state

/-- What the daemon saves: its identity and the trusted devices. -/
structure SavedState where
  identity : DaemonPublicIdentity
  trustedStore : TrustedDeviceStore

structure TicketDaemon where
  identity : DaemonPublicIdentity
  consumedPairTicketIds : List Text
  trustedStore : TrustedDeviceStore
  saved : Option SavedState

namespace TicketDaemon

variable (crypto : CredentialCrypto) (d : TicketDaemon)

/-- The claims of a ticket. `credentialId` is drawn. -/
def pairTicket (issuedAtMs expiresAtMs : ℕ) (credentialId : Text) : CredentialClaims where
  kind := .pairTicket
  issuer := d.identity.serverId
  deviceId := none
  devicePublicKey := none
  issuedAtMs := issuedAtMs
  expiresAtMs := expiresAtMs
  credentialId := credentialId

def issuePairTicketCredential (pairingTokenTtlMs nowMs : ℕ) (credentialId : Text) :
    Except ProtocolError CredentialClaims :=
  if u64Limit ≤ nowMs + pairingTokenTtlMs then .error .authFailed
  else .ok (d.pairTicket nowMs (nowMs + pairingTokenTtlMs) credentialId)

/-- The claims of a device certificate, which does not expire. -/
def deviceCertificate (deviceId : DeviceId) (devicePublicKey : Text) (issuedAtMs : ℕ)
    (credentialId : Text) : CredentialClaims where
  kind := .deviceCertificate
  issuer := d.identity.serverId
  deviceId := some deviceId
  devicePublicKey := some devicePublicKey
  issuedAtMs := issuedAtMs
  expiresAtMs := u64Limit - 1
  credentialId := credentialId

/-- The checks of a call; what is left to do is to trust the device. -/
def checkTicket (pairTicket devicePublicKey : Text) (nowMs : ℕ) :
    Except ProtocolError CredentialClaims :=
  match verifyCredential crypto pairTicket d.identity.publicKey d.identity.serverId nowMs
      .pairTicket with
  | .error _ => .error .pairingFailed
  | .ok claims =>
    if claims.credentialId ∈ d.consumedPairTicketIds then .error .pairingFailed
    else if crypto.validDeviceKey devicePublicKey = false then .error .pairingFailed
    else .ok claims

/-- `saves` is how `persist_state` ends, and `certificateId` is the id of the certificate. -/
def pairDeviceCertificate (pairTicket : Text) (deviceId : DeviceId) (devicePublicKey : Text)
    (nowMs : ℕ) (saves : Bool) (certificateId : Text) :
    TicketDaemon × Except ProtocolError CredentialClaims :=
  match d.checkTicket crypto pairTicket devicePublicKey nowMs with
  | .error error => (d, .error error)
  | .ok claims =>
    let d :=
      { d with
        trustedStore := TrustedDeviceStore.trustDevice d.trustedStore deviceId devicePublicKey nowMs
          none }
    if saves then
      ({ d with
          saved := some { identity := d.identity, trustedStore := d.trustedStore }
          consumedPairTicketIds := claims.credentialId :: d.consumedPairTicketIds },
        .ok (d.deviceCertificate deviceId devicePublicKey nowMs certificateId))
    else (d, .error .state)

/-- A new process loads what was saved; without a saved state it has a new identity. -/
def fromState (generated : DaemonPublicIdentity) : TicketDaemon where
  identity := (d.saved.map SavedState.identity).getD generated
  consumedPairTicketIds := []
  trustedStore := (d.saved.map SavedState.trustedStore).getD ∅
  saved := d.saved

end TicketDaemon

/-! ### Runs -/

inductive TicketOp
  | issuePairTicketCredential (pairingTokenTtlMs nowMs : ℕ) (credentialId : Text)
  | pairDeviceCertificate (pairTicket : Text) (deviceId : DeviceId) (devicePublicKey : Text)
      (nowMs : ℕ) (saves : Bool) (certificateId : Text)
  | restart (generated : DaemonPublicIdentity) (nowMs : ℕ)

namespace TicketOp

def nowMs : TicketOp → ℕ
  | issuePairTicketCredential _ nowMs _ => nowMs
  | pairDeviceCertificate _ _ _ nowMs _ _ => nowMs
  | restart _ nowMs => nowMs

/-- The id of the credential that the call may sign. -/
def credentialId? : TicketOp → Option Text
  | issuePairTicketCredential _ _ credentialId => some credentialId
  | pairDeviceCertificate _ _ _ _ _ certificateId => some certificateId
  | restart _ _ => none

end TicketOp

/-- A device became trusted on presenting a ticket. -/
structure Grant where
  ticketId : Text
  deviceId : DeviceId
  nowMs : ℕ

/-- A daemon, the clock, the claims it has signed, and the devices that became trusted. -/
structure TicketRun where
  daemon : TicketDaemon
  clockMs : ℕ
  signed : List CredentialClaims
  grants : List Grant

namespace TicketRun

variable (crypto : CredentialCrypto)

def start (identity : DaemonPublicIdentity) : TicketRun where
  daemon := { identity, consumedPairTicketIds := [], trustedStore := ∅, saved := none }
  clockMs := 0
  signed := []
  grants := []

/-- What a call leaves behind: the daemon, whether it failed, what it signed, and who became
trusted. -/
def call (d : TicketDaemon) : TicketOp → TicketDaemon × Bool × List CredentialClaims × List Grant
  | .issuePairTicketCredential pairingTokenTtlMs nowMs credentialId =>
    match d.issuePairTicketCredential pairingTokenTtlMs nowMs credentialId with
    | .ok claims => (d, false, [claims], [])
    | .error _ => (d, true, [], [])
  | .pairDeviceCertificate pairTicket deviceId devicePublicKey nowMs saves certificateId =>
    let grants := match d.checkTicket crypto pairTicket devicePublicKey nowMs with
      | .ok claims => [{ ticketId := claims.credentialId, deviceId, nowMs : Grant }]
      | .error _ => []
    match d.pairDeviceCertificate crypto pairTicket deviceId devicePublicKey nowMs saves
        certificateId with
    | (d, .ok claims) => (d, false, [claims], grants)
    | (d, .error _) => (d, true, [], grants)
  | .restart generated _ => (d.fromState generated, false, [], [])

/-- What verifies was signed. -/
def Unforged (r : TicketRun) : TicketOp → Prop
  | .pairDeviceCertificate pairTicket _ _ nowMs _ _ => ∀ claims,
    verifyCredential crypto pairTicket r.daemon.identity.publicKey r.daemon.identity.serverId nowMs
      .pairTicket = .ok claims → claims ∈ r.signed
  | _ => True

/-- The id of a new credential is new, and the clock has not gone back. -/
def Timely (r : TicketRun) (op : TicketOp) : Prop :=
  r.clockMs ≤ op.nowMs ∧
    ∀ id ∈ op.credentialId?, ∀ claims ∈ r.signed, claims.credentialId ≠ id
deriving Decidable

instance decidableUnforged (r : TicketRun) (op : TicketOp) : Decidable (r.Unforged crypto op) :=
  match op with
  | .issuePairTicketCredential _ _ _ => .isTrue trivial
  | .restart _ _ => .isTrue trivial
  | .pairDeviceCertificate pairTicket _ _ nowMs _ _ =>
    match h : verifyCredential crypto pairTicket r.daemon.identity.publicKey
        r.daemon.identity.serverId nowMs .pairTicket with
    | .error _ => .isTrue fun claims hok => by cases h.symm.trans hok
    | .ok claims => decidable_of_iff (claims ∈ r.signed) (by simp [Unforged, h])

def step (r : TicketRun) (op : TicketOp) : Option TicketRun :=
  if r.Timely op ∧ r.Unforged crypto op then
    let (daemon, _, signed, grants) := call crypto r.daemon op
    some
      { daemon
        clockMs := op.nowMs
        signed := r.signed ++ signed
        grants := r.grants ++ grants }
  else none

/-- The guard: a state is saved when a device was trusted, and the daemon is not restarted before
the tickets that it has used up have expired. -/
def Careful (r : TicketRun) : TicketOp → Prop
  | .issuePairTicketCredential _ _ _ => True
  | .pairDeviceCertificate pairTicket _ devicePublicKey nowMs saves _ =>
    (∃ claims, r.daemon.checkTicket crypto pairTicket devicePublicKey nowMs = .ok claims) →
      saves = true
  | .restart _ nowMs => ∀ claims ∈ r.signed,
    claims.credentialId ∈ r.daemon.consumedPairTicketIds → claims.expiresAtMs < nowMs

/-! ### A ticket pairs one device -/

variable {crypto} {r r' : TicketRun} {op : TicketOp}

/-- The ticket is used up, or it has expired. -/
def Over (r : TicketRun) (ticketId : Text) : Prop :=
  ticketId ∈ r.daemon.consumedPairTicketIds ∨
    ∀ claims ∈ r.signed, claims.credentialId = ticketId → claims.expiresAtMs < r.clockMs

structure Invariant (r : TicketRun) : Prop where
  unique : ∀ claims ∈ r.signed, ∀ claims' ∈ r.signed,
    claims.credentialId = claims'.credentialId → claims = claims'
  alive : ∀ grant ∈ r.grants, ∃ claims ∈ r.signed, claims.credentialId = grant.ticketId ∧
    claims.kind = .pairTicket ∧ grant.nowMs ≤ claims.expiresAtMs
  ended : ∀ grant ∈ r.grants, r.Over grant.ticketId
  once : ∀ grant ∈ r.grants, ∀ grant' ∈ r.grants, grant.ticketId = grant'.ticketId → grant = grant'

/-- What the checks of a ticket say. -/
theorem checkTicket_eq_ok {d : TicketDaemon} {pairTicket devicePublicKey : Text} {nowMs : ℕ}
    {claims : CredentialClaims}
    (h : d.checkTicket crypto pairTicket devicePublicKey nowMs = .ok claims) :
    verifyCredential crypto pairTicket d.identity.publicKey d.identity.serverId nowMs .pairTicket =
        .ok claims ∧ claims.credentialId ∉ d.consumedPairTicketIds := by
  rw [TicketDaemon.checkTicket] at h
  split at h
  · cases h
  · rename_i hverify
    split_ifs at h with hconsumed
    cases h
    exact ⟨hverify, hconsumed⟩

/-- **What a careful step does**: it signs a credential with a new id, it trades a good ticket that
it then uses up, it restarts when no used ticket is good, or it does nothing. -/
theorem step_cases (h : r.step crypto op = some r') (hcareful : r.Careful crypto op) :
    r.clockMs ≤ op.nowMs ∧ r'.clockMs = op.nowMs ∧
      ∃ signed grants, r'.signed = r.signed ++ signed ∧ r'.grants = r.grants ++ grants ∧
        (∀ claims ∈ signed, ∀ claims' ∈ r.signed, claims'.credentialId ≠ claims.credentialId) ∧
        signed.length ≤ 1 ∧
        ((grants = [] ∧ r'.daemon.consumedPairTicketIds = r.daemon.consumedPairTicketIds) ∨
          (grants = [] ∧ r'.daemon.consumedPairTicketIds = [] ∧
            ∀ claims ∈ r.signed, claims.credentialId ∈ r.daemon.consumedPairTicketIds →
              claims.expiresAtMs < op.nowMs) ∨
          ∃ claims deviceId, grants = [⟨claims.credentialId, deviceId, op.nowMs⟩] ∧
            claims ∈ r.signed ∧ claims.kind = .pairTicket ∧ op.nowMs ≤ claims.expiresAtMs ∧
            claims.credentialId ∉ r.daemon.consumedPairTicketIds ∧
            r'.daemon.consumedPairTicketIds =
              claims.credentialId :: r.daemon.consumedPairTicketIds) := by
  rw [step] at h
  split_ifs at h with henabled
  obtain ⟨⟨hclock, hfresh⟩, hunforged⟩ := henabled
  obtain rfl := Option.some.inj h
  refine ⟨hclock, rfl, ?_⟩
  cases op with
  | issuePairTicketCredential pairingTokenTtlMs nowMs credentialId =>
    simp only [TicketDaemon.issuePairTicketCredential]
    split_ifs
    · exact ⟨[], [], rfl, rfl, by simp, by simp, .inl ⟨rfl, rfl⟩⟩
    · refine ⟨[_], [], rfl, rfl, ?_, le_rfl, .inl ⟨rfl, rfl⟩⟩
      intro claims hclaims claims' hclaims'
      obtain rfl := List.mem_singleton.mp hclaims
      exact hfresh credentialId rfl claims' hclaims'
  | pairDeviceCertificate pairTicket deviceId devicePublicKey nowMs saves certificateId =>
    simp only [TicketDaemon.pairDeviceCertificate]
    cases hcheck : r.daemon.checkTicket crypto pairTicket devicePublicKey nowMs with
    | error error => exact ⟨[], [], rfl, rfl, by simp, by simp, .inl ⟨rfl, rfl⟩⟩
    | ok claims =>
      obtain rfl : saves = true := hcareful ⟨claims, hcheck⟩
      obtain ⟨hverify, hconsumed⟩ := checkTicket_eq_ok hcheck
      obtain ⟨-, hkind, hexpires⟩ := verifyCredential_eq_ok hverify
      refine ⟨[_], [_], rfl, rfl, ?_, le_rfl, .inr (.inr ⟨claims, deviceId, rfl,
        hunforged claims hverify, hkind, hexpires, hconsumed, rfl⟩)⟩
      intro claims hclaims claims' hclaims'
      obtain rfl := List.mem_singleton.mp hclaims
      exact hfresh certificateId rfl claims' hclaims'
  | restart generated nowMs =>
    exact ⟨[], [], by simp, by simp, by simp, by simp, .inr (.inl ⟨rfl, rfl, hcareful⟩)⟩

/-- A ticket that is over stays over. -/
theorem Over.step {ticketId : Text} (h : r.Over ticketId)
    (hissued : ∃ claims ∈ r.signed, claims.credentialId = ticketId)
    (hstep : r.step crypto op = some r') (hcareful : r.Careful crypto op) : r'.Over ticketId := by
  obtain ⟨hclock, hclock', signed, grants, hsigned, -, hfresh, -, hcases⟩ := step_cases hstep hcareful
  -- nothing new is signed under the id of the ticket
  have hold {claims : CredentialClaims} (hclaims : claims ∈ r'.signed)
      (hid : claims.credentialId = ticketId) : claims ∈ r.signed := by
    rw [hsigned, List.mem_append] at hclaims
    rcases hclaims with hold | hnew
    · exact hold
    · obtain ⟨issued, hmem, hissued⟩ := hissued
      exact absurd (hissued.trans hid.symm) (hfresh claims hnew issued hmem)
  have hexpired (h : ∀ claims ∈ r.signed, claims.credentialId = ticketId →
      claims.expiresAtMs < op.nowMs) : r'.Over ticketId := by
    refine .inr fun claims hclaims hid => ?_
    rw [hclock']
    exact h claims (hold hclaims hid) hid
  rcases h with hconsumed | hlate
  · rcases hcases with ⟨-, heq⟩ | ⟨-, -, hall⟩ | ⟨claims, deviceId, -, -, -, -, -, heq⟩
    · exact .inl (heq ▸ hconsumed)
    · exact hexpired fun claims hclaims hid => hall claims hclaims (hid ▸ hconsumed)
    · exact .inl (heq ▸ List.mem_cons_of_mem _ hconsumed)
  · exact hexpired fun claims hclaims hid => (hlate claims hclaims hid).trans_le hclock

theorem invariant_start (identity : DaemonPublicIdentity) : (start identity).Invariant where
  unique _ h := by cases h
  alive _ h := by cases h
  ended _ h := by cases h
  once _ h := by cases h

/-- **The invariant** of every careful step. -/
theorem Invariant.step (h : r.Invariant) (hcareful : r.Careful crypto op)
    (hstep : r.step crypto op = some r') : r'.Invariant := by
  obtain ⟨hclock, hclock', signed, grants, hsigned, hgrants, hfresh, hone, hcases⟩ :=
    step_cases hstep hcareful
  have hover (grant : Grant) (hgrant : grant ∈ r.grants) : r'.Over grant.ticketId := by
    obtain ⟨claims, hclaims, hid, -⟩ := h.alive grant hgrant
    exact (h.ended grant hgrant).step ⟨claims, hclaims, hid⟩ hstep hcareful
  have halive (grant : Grant) (hgrant : grant ∈ r.grants) :
      ∃ claims ∈ r'.signed, claims.credentialId = grant.ticketId ∧ claims.kind = .pairTicket ∧
        grant.nowMs ≤ claims.expiresAtMs := by
    obtain ⟨claims, hclaims, hrest⟩ := h.alive grant hgrant
    exact ⟨claims, hsigned ▸ List.mem_append_left _ hclaims, hrest⟩
  have hunique : ∀ claims ∈ r'.signed, ∀ claims' ∈ r'.signed,
      claims.credentialId = claims'.credentialId → claims = claims' := by
    intro claims hclaims claims' hclaims' hid
    rw [hsigned, List.mem_append] at hclaims hclaims'
    rcases hclaims with hold | hnew <;> rcases hclaims' with hold' | hnew'
    · exact h.unique claims hold claims' hold' hid
    · exact absurd hid (hfresh claims' hnew' claims hold)
    · exact absurd hid.symm (hfresh claims hnew claims' hold')
    · match signed, hone with
      | [_], _ => rw [List.mem_singleton.mp hnew, List.mem_singleton.mp hnew']
  rcases hcases with ⟨rfl, -⟩ | ⟨rfl, -⟩ | ⟨claims, deviceId, rfl, hclaims, hkind, hexpires, hnot, heq⟩
  · rw [List.append_nil] at hgrants
    exact ⟨hunique, hgrants ▸ halive, hgrants ▸ hover, hgrants ▸ h.once⟩
  · rw [List.append_nil] at hgrants
    exact ⟨hunique, hgrants ▸ halive, hgrants ▸ hover, hgrants ▸ h.once⟩
  · -- the ticket is good and not used up, so it was not traded before
    have hfirst (grant : Grant) (hgrant : grant ∈ r.grants) :
        grant.ticketId ≠ claims.credentialId := by
      intro hsame
      rcases h.ended grant hgrant with hconsumed | hlate
      · exact hnot (hsame ▸ hconsumed)
      · have hlt := hlate claims hclaims hsame.symm
        omega
    have hmem {grant : Grant} (hgrant : grant ∈ r'.grants) :
        grant ∈ r.grants ∨ grant = ⟨claims.credentialId, deviceId, op.nowMs⟩ := by
      rwa [hgrants, List.mem_append, List.mem_singleton] at hgrant
    refine ⟨hunique, fun grant hgrant => ?_, fun grant hgrant => ?_,
      fun grant hgrant grant' hgrant' hsame => ?_⟩
    · rcases hmem hgrant with hold | rfl
      · exact halive grant hold
      · exact ⟨claims, hsigned ▸ List.mem_append_left _ hclaims, rfl, hkind, hexpires⟩
    · rcases hmem hgrant with hold | rfl
      · exact hover grant hold
      · exact .inl (heq ▸ List.mem_cons_self)
    · rcases hmem hgrant with hold | rfl <;> rcases hmem hgrant' with hold' | rfl
      · exact h.once grant hold grant' hold' hsame
      · exact absurd hsame (hfirst grant hold)
      · exact absurd hsame.symm (hfirst grant' hold')
      · rfl

/-- **A ticket pairs at most one device**, in time, and a call that fails changes nothing. -/
structure PairsOnce (crypto : CredentialCrypto) (identity : DaemonPublicIdentity)
    (ops : List TicketOp) : Prop where
  once : ∀ r, exec (step crypto) (start identity) ops = some r →
    ∀ grant ∈ r.grants, ∀ grant' ∈ r.grants, grant.ticketId = grant'.ticketId →
      grant.deviceId = grant'.deviceId
  alive : ∀ r, exec (step crypto) (start identity) ops = some r →
    ∀ grant ∈ r.grants, ∃ claims ∈ r.signed, claims.credentialId = grant.ticketId ∧
      claims.kind = .pairTicket ∧ grant.nowMs ≤ claims.expiresAtMs
  unchanged : ∀ ks op rest r r', ops = ks ++ op :: rest →
    exec (step crypto) (start identity) ks = some r → r.step crypto op = some r' →
    (call crypto r.daemon op).2.1 = true →
    r'.daemon.trustedStore = r.daemon.trustedStore ∧ r'.daemon.saved = r.daemon.saved

/-- A careful call that fails changes nothing. -/
theorem unchanged_of_failed (hcareful : r.Careful crypto op) (hstep : r.step crypto op = some r')
    (hfailed : (call crypto r.daemon op).2.1 = true) :
    r'.daemon.trustedStore = r.daemon.trustedStore ∧ r'.daemon.saved = r.daemon.saved := by
  rw [step] at hstep
  split_ifs at hstep
  obtain rfl := Option.some.inj hstep
  cases op with
  | issuePairTicketCredential pairingTokenTtlMs nowMs credentialId =>
    simp only [TicketDaemon.issuePairTicketCredential]
    split_ifs <;> exact ⟨rfl, rfl⟩
  | pairDeviceCertificate pairTicket deviceId devicePublicKey nowMs saves certificateId =>
    simp only [call, TicketDaemon.pairDeviceCertificate] at hfailed ⊢
    cases hcheck : r.daemon.checkTicket crypto pairTicket devicePublicKey nowMs with
    | error error => exact ⟨rfl, rfl⟩
    | ok claims =>
      obtain rfl : saves = true := hcareful ⟨claims, hcheck⟩
      simp [hcheck] at hfailed
  | restart generated nowMs => cases hfailed

/-- **Careful daemons pair one device with a ticket.** -/
theorem pairsOnce_of_careful (crypto : CredentialCrypto) (identity : DaemonPublicIdentity)
    (ops : List TicketOp) (hcareful : Along (step crypto) (Careful crypto) (start identity) ops) :
    PairsOnce crypto identity ops := by
  have hinvariant (r : TicketRun) (hrun : exec (step crypto) (start identity) ops = some r) :
      r.Invariant :=
    exec_induction_along (fun _ _ _ h hcareful hstep => h.step hcareful hstep)
      (invariant_start identity) hcareful hrun
  refine ⟨fun r hrun grant hgrant grant' hgrant' hsame => ?_, fun r hrun => (hinvariant r hrun).alive,
    fun ks op rest r r' hops hrun hstep hfailed => ?_⟩
  · rw [(hinvariant r hrun).once grant hgrant grant' hgrant' hsame]
  · have hop : r.Careful crypto op := along_iff_forall_front.mp hcareful ks op rest r hops hrun
    exact unchanged_of_failed hop hstep hfailed

/-- The encodings of the runs below: the claims of one ticket are the text `[7]`. -/
def oneTicket : CredentialCrypto where
  uuidText n := [UInt8.ofNat n]
  decodeHeader _ := some { alg := ascii "EdDSA", kid := [0], typ := ascii "JWT" }
  decodeClaims encoded :=
    if encoded = [7] then
      some
        { kind := .pairTicket, issuer := 0, deviceId := none, devicePublicKey := none
          issuedAtMs := 10, expiresAtMs := 110, credentialId := [7] }
    else none
  validVerifyingKey _ := true
  decodeSignature := some
  verify _ _ signature := signature = [9]
  validDeviceKey _ := true

/-- A ticket that one device trades and another one tries to trade. -/
theorem pairsOnce_rivals :
    PairsOnce oneTicket ⟨0, []⟩
      [.issuePairTicketCredential 100 10 [7],
        .pairDeviceCertificate [1, 0x2e, 7, 0x2e, 9] 1 [] 20 true [8],
        .pairDeviceCertificate [1, 0x2e, 7, 0x2e, 9] 2 [] 30 true [9]] := by
  refine pairsOnce_of_careful oneTicket ⟨0, []⟩ _ (along_of_forall_mem fun op hop r => ?_)
  simp only [List.mem_cons, List.not_mem_nil, or_false] at hop
  rcases hop with rfl | rfl | rfl
  · trivial
  · exact fun _ => rfl
  · exact fun _ => rfl

/-- After a restart, and after a save that failed, another device is trusted with the same ticket. -/
theorem not_pairsOnce_of_restart :
    ¬PairsOnce oneTicket ⟨0, []⟩
        [.issuePairTicketCredential 100 10 [7],
          .pairDeviceCertificate [1, 0x2e, 7, 0x2e, 9] 1 [] 20 true [8], .restart ⟨1, []⟩ 25,
          .pairDeviceCertificate [1, 0x2e, 7, 0x2e, 9] 2 [] 30 true [9]] ∧
      ¬PairsOnce oneTicket ⟨0, []⟩
        [.issuePairTicketCredential 100 10 [7],
          .pairDeviceCertificate [1, 0x2e, 7, 0x2e, 9] 1 [] 20 false [8],
          .pairDeviceCertificate [1, 0x2e, 7, 0x2e, 9] 2 [] 30 true [9]] := by
  constructor
  · intro h
    exact absurd (h.once _ rfl ⟨[7], 1, 20⟩ (.head _) ⟨[7], 2, 30⟩ (.tail _ (.head _)) rfl) (by decide)
  · intro h
    exact absurd (h.once _ rfl ⟨[7], 1, 20⟩ (.head _) ⟨[7], 2, 30⟩ (.tail _ (.head _)) rfl) (by decide)

end TicketRun

end Termd.Auth
