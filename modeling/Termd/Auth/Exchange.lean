import Termd.Auth.Signing
import Termd.Auth.Tickets

/-!
# Certificates and proofs

A device trades a certificate for an access token, and a trusted device without a certificate can
have one. For either it is given a challenge, and answers with a signed proof. The two exchanges use
the same challenges and the same nonces. A proof is looked at in five steps, and what a step has
changed stays so when a later one fails: the challenge is used up, the timestamp and the nonce are
checked, the device is looked up, the signature is verified, and the nonce is recorded.

## What a success rests on

The challenges of a run are those of a run of the challenge service, and the accepted nonces those of
a run of the replay protector (`ExchangeRun.challenges`, `ExchangeRun.replay`), so what holds of these
runs holds here. A nonce is remembered for one skew after the daemon saw it, but a proof is good for
one skew after its own timestamp, which may be ahead of the daemon. `Careful` excludes such a proof.

## Main definitions

* `ExchangeDaemon`: the part of the daemon that issues challenges, certificates and access tokens
* `ExchangeRun`: a daemon with the clock and what happened
* `FreshProof`: what a success says

## Main results

* `ExchangeRun.onlyOnProof_of_careful`: access tokens and certificates are issued on fresh proof only
-/

namespace Termd.Auth

/-- `AUTH_CHALLENGE_TTL_MS` -/
def authChallengeTtlMs : ℕ := 60000

/-- How long an access token is good for. -/
def accessTokenTtlMs : ℕ := 300000

structure AuthChallengePayload where
  deviceId : DeviceId
  challenge : Text
  expiresAtMs : ℕ

structure ExchangeDaemon where
  tickets : TicketDaemon
  authService : ChallengeResponseService

namespace ExchangeDaemon

variable (crypto : CredentialCrypto) (verify : Text → Text → Text → Bool) (d : ExchangeDaemon)

def setChallengeManager (challengeManager : AuthChallengeManager) : ExchangeDaemon :=
  { d with authService := { d.authService with challengeManager } }

def setReplayProtector (replayProtector : ReplayProtector) : ExchangeDaemon :=
  { d with authService := { d.authService with replayProtector } }

def setTrustedStore (trustedStore : TrustedDeviceStore) : ExchangeDaemon :=
  { d with tickets := { d.tickets with trustedStore } }

/-- The challenge of both exchanges. -/
def issueChallenge (deviceId : DeviceId) (nowMs : ℕ) (drawn : List Text) :
    Option (ExchangeDaemon × Except ProtocolError AuthChallengePayload) :=
  (d.authService.challengeManager.issue deviceId nowMs authChallengeTtlMs drawn).map fun
    | (challengeManager, .ok record) =>
      (d.setChallengeManager challengeManager,
        .ok { deviceId, challenge := record.challenge, expiresAtMs := record.expiresAtMs })
    | (challengeManager, .error _) => (d.setChallengeManager challengeManager, .error .authFailed)

def issueDeviceCertificateMigrationChallenge (deviceId : DeviceId) (nowMs : ℕ)
    (drawn : List Text) : Option (ExchangeDaemon × Except ProtocolError AuthChallengePayload) :=
  match d.tickets.trustedStore.lookup deviceId with
  | none => some (d, .error .authFailed)
  | some _ => d.issueChallenge deviceId nowMs drawn

/-- A certificate is one of a device that is trusted with the key that the certificate has. -/
def deviceCertificateClaims (certificate : Text) (nowMs : ℕ) :
    Except ProtocolError CredentialClaims :=
  match verifyCredential crypto certificate d.tickets.identity.publicKey
      d.tickets.identity.serverId nowMs .deviceCertificate with
  | .error _ => .error .authFailed
  | .ok claims =>
    match claims.deviceId, claims.devicePublicKey with
    | some deviceId, some devicePublicKey =>
      match d.tickets.trustedStore.lookup deviceId with
      | none => .error .authFailed
      | some trusted =>
        if trusted.publicKey ≠ devicePublicKey then .error .authFailed else .ok claims
    | _, _ => .error .authFailed

def issueAccessTokenChallenge (certificate : Text) (deviceId : DeviceId) (nowMs : ℕ)
    (drawn : List Text) : Option (ExchangeDaemon × Except ProtocolError AuthChallengePayload) :=
  match d.deviceCertificateClaims crypto certificate nowMs with
  | .error error => some (d, .error error)
  | .ok claims =>
    if claims.deviceId ≠ some deviceId then some (d, .error .authFailed)
    else d.issueChallenge deviceId nowMs drawn

/-- What both exchanges do with a proof; the device is returned as it was trusted. -/
def acceptProof (payload : AuthPayload) (nowMs : ℕ) :
    ExchangeDaemon × Except ProtocolError TrustedDevice :=
  match d.authService.challengeManager.consume payload.deviceId payload.challenge nowMs with
  | (challengeManager, .error _) => (d.setChallengeManager challengeManager, .error .authFailed)
  | (challengeManager, .ok _) =>
    let d := d.setChallengeManager challengeManager
    match d.authService.replayProtector.check payload.deviceId payload.nonce payload.timestampMs
        nowMs with
    | (replayProtector, .error _) => (d.setReplayProtector replayProtector, .error .authFailed)
    | (replayProtector, .ok ()) =>
      let d := d.setReplayProtector replayProtector
      match d.tickets.trustedStore.lookup payload.deviceId with
      | none => (d, .error .authFailed)
      | some trusted =>
        let input : AccessTokenProofInput := { serverId := d.tickets.identity.serverId, payload }
        if verify trusted.publicKey (input.toBytes crypto.uuidText) payload.signature = false then
          (d, .error .authFailed)
        else
          let d := d.setReplayProtector
            (replayProtector.recordChecked payload.deviceId payload.nonce nowMs)
          match TrustedDeviceStore.markSeen d.tickets.trustedStore payload.deviceId nowMs with
          | none => (d, .error .authFailed)
          | some trustedStore => (d.setTrustedStore trustedStore, .ok trusted)

/-- `certificateId` is the id of the certificate. -/
def migrateDeviceCertificate (payload : AuthPayload) (nowMs : ℕ) (certificateId : Text) :
    ExchangeDaemon × Except ProtocolError CredentialClaims :=
  match d.acceptProof crypto verify payload nowMs with
  | (d, .error error) => (d, .error error)
  | (d, .ok trusted) =>
    (d, .ok
      (d.tickets.deviceCertificate payload.deviceId trusted.publicKey nowMs certificateId))

/-- The claims of an access token. -/
def accessToken (deviceId : DeviceId) (issuedAtMs expiresAtMs : ℕ) (tokenId : Text) :
    CredentialClaims where
  kind := .accessToken
  issuer := d.tickets.identity.serverId
  deviceId := some deviceId
  devicePublicKey := none
  issuedAtMs := issuedAtMs
  expiresAtMs := expiresAtMs
  credentialId := tokenId

/-- The certificate has to be the one of the device that makes the proof. -/
def presents (certificate : Text) (payload : AuthPayload) (nowMs : ℕ) : Except ProtocolError Unit :=
  match d.deviceCertificateClaims crypto certificate nowMs with
  | .error error => .error error
  | .ok claims =>
    if claims.deviceId ≠ some payload.deviceId then .error .authFailed else .ok ()

/-- `tokenId` is the id of the token. -/
def exchangeAccessToken (certificate : Text) (payload : AuthPayload) (nowMs : ℕ)
    (tokenId : Text) : ExchangeDaemon × Except ProtocolError CredentialClaims :=
  match d.presents crypto certificate payload nowMs with
  | .error error => (d, .error error)
  | .ok () =>
    match d.acceptProof crypto verify payload nowMs with
    | (d, .error error) => (d, .error error)
    | (d, .ok _) =>
      -- the proof is used up, whatever becomes of the token
      if u64Limit ≤ nowMs + accessTokenTtlMs then (d, .error .authFailed)
      else (d, .ok (d.accessToken payload.deviceId nowMs (nowMs + accessTokenTtlMs) tokenId))

def verifyAccessTokenCredential (token : Text) (nowMs : ℕ) : Except ProtocolError DeviceId :=
  match verifyCredential crypto token d.tickets.identity.publicKey d.tickets.identity.serverId
      nowMs .accessToken with
  | .error _ => .error .authFailed
  | .ok claims =>
    match claims.deviceId with
    | none => .error .authFailed
    | some deviceId =>
      match d.tickets.trustedStore.lookup deviceId with
      | none => .error .authFailed
      | some _ => .ok deviceId

variable {crypto verify} {d : ExchangeDaemon} {payload : AuthPayload} {nowMs : ℕ}

/-- **How a proof is accepted.** A proof that is refused may have used its challenge up, but its
nonce is not recorded. -/
theorem acceptProof_cases {d' : ExchangeDaemon} {result : Except ProtocolError TrustedDevice}
    (h : d.acceptProof crypto verify payload nowMs = (d', result)) :
    d'.authService.challengeManager =
        (d.authService.challengeManager.consume payload.deviceId payload.challenge nowMs).1 ∧
      ((∃ error, result = .error error ∧
          (d'.authService.replayProtector = d.authService.replayProtector ∨
            d'.authService.replayProtector = (d.authService.replayProtector.prune nowMs).1)) ∨
        ∃ trusted used, result = .ok trusted ∧
          (d.authService.challengeManager.consume payload.deviceId payload.challenge nowMs).2 =
            .ok used ∧
          (d.authService.replayProtector.check payload.deviceId payload.nonce payload.timestampMs
            nowMs).2 = .ok () ∧
          d.tickets.trustedStore.lookup payload.deviceId = some trusted ∧
          verify trusted.publicKey
            (AccessTokenProofInput.toBytes crypto.uuidText ⟨d.tickets.identity.serverId, payload⟩)
            payload.signature = true ∧
          d'.authService.replayProtector =
            (d.authService.replayProtector.prune nowMs).1.recordChecked payload.deviceId
              payload.nonce nowMs) := by
  have hfst := d.authService.replayProtector.check_fst payload.deviceId payload.nonce
    payload.timestampMs nowMs
  rw [acceptProof] at h
  split at h
  · rename_i hconsume
    obtain ⟨rfl, rfl⟩ := Prod.mk.inj h
    exact ⟨by rw [hconsume]; rfl, .inl ⟨_, rfl, .inl rfl⟩⟩
  · rename_i challengeManager used hconsume
    dsimp only at h
    split at h
    · rename_i replayProtector error hcheck
      have hcheck : d.authService.replayProtector.check payload.deviceId payload.nonce
        payload.timestampMs nowMs = (replayProtector, .error error) := hcheck
      obtain ⟨rfl, rfl⟩ := Prod.mk.inj h
      rw [hcheck] at hfst
      exact ⟨by rw [hconsume]; rfl, .inl ⟨_, rfl, .inr hfst⟩⟩
    · rename_i replayProtector hcheck
      have hcheck : d.authService.replayProtector.check payload.deviceId payload.nonce
        payload.timestampMs nowMs = (replayProtector, .ok ()) := hcheck
      rw [hcheck] at hfst
      split at h
      · obtain ⟨rfl, rfl⟩ := Prod.mk.inj h
        exact ⟨by rw [hconsume]; rfl, .inl ⟨_, rfl, .inr hfst⟩⟩
      · rename_i trusted htrusted
        have htrusted : d.tickets.trustedStore.lookup payload.deviceId = some trusted := htrusted
        split_ifs at h with hverify
        · obtain ⟨rfl, rfl⟩ := Prod.mk.inj h
          exact ⟨by rw [hconsume]; rfl, .inl ⟨_, rfl, .inr hfst⟩⟩
        · -- the device is still there, so it can be marked
          have hseen : TrustedDeviceStore.markSeen d.tickets.trustedStore payload.deviceId nowMs =
              some (d.tickets.trustedStore.insert payload.deviceId
                { trusted with lastSeenAtMs := some nowMs }) := by
            rw [TrustedDeviceStore.markSeen, htrusted]
            rfl
          change (match TrustedDeviceStore.markSeen d.tickets.trustedStore payload.deviceId nowMs
            with | none => _ | some _ => _) = _ at h
          rw [hseen] at h
          obtain ⟨rfl, rfl⟩ := Prod.mk.inj h
          refine ⟨by rw [hconsume]; rfl, .inr ⟨trusted, used, rfl, by rw [hconsume], by rw [hcheck],
            htrusted, (Bool.not_eq_false _).mp hverify, ?_⟩⟩
          rw [← hfst]
          rfl

end ExchangeDaemon

/-! ### Runs -/

inductive ExchangeOp
  | issueAccessTokenChallenge (certificate : Text) (deviceId : DeviceId) (nowMs : ℕ)
      (drawn : List Text)
  | issueDeviceCertificateMigrationChallenge (deviceId : DeviceId) (nowMs : ℕ) (drawn : List Text)
  | exchangeAccessToken (certificate : Text) (payload : AuthPayload) (nowMs : ℕ) (tokenId : Text)
  | migrateDeviceCertificate (payload : AuthPayload) (nowMs : ℕ) (certificateId : Text)
  | pair (pairTicket : Text) (deviceId : DeviceId) (devicePublicKey : Text) (nowMs : ℕ)
      (saves : Bool) (certificateId : Text)
  | untrust (deviceId : DeviceId) (nowMs : ℕ)

namespace ExchangeOp

def nowMs : ExchangeOp → ℕ
  | issueAccessTokenChallenge _ _ nowMs _ => nowMs
  | issueDeviceCertificateMigrationChallenge _ nowMs _ => nowMs
  | exchangeAccessToken _ _ nowMs _ => nowMs
  | migrateDeviceCertificate _ nowMs _ => nowMs
  | pair _ _ _ nowMs _ _ => nowMs
  | untrust _ nowMs => nowMs

/-- The random values of a call. -/
def draws : ExchangeOp → List Text
  | issueAccessTokenChallenge _ _ _ drawn => drawn
  | issueDeviceCertificateMigrationChallenge _ _ drawn => drawn
  | _ => []

/-- The proof that is sent. -/
def payload? : ExchangeOp → Option AuthPayload
  | exchangeAccessToken _ payload _ _ => some payload
  | migrateDeviceCertificate payload _ _ => some payload
  | _ => none

end ExchangeOp

/-- A daemon, the clock, the random values drawn so far, what happened to the challenges, the proofs
that were accepted with their times, and the access tokens that were issued. -/
structure ExchangeRun where
  daemon : ExchangeDaemon
  clockMs : ℕ
  drawn : List Text
  events : List ChallengeEvent
  proofs : List (AuthPayload × ℕ)
  tokens : List CredentialClaims

namespace ExchangeRun

/-- A daemon that has loaded what was saved. -/
def start (tickets : TicketDaemon) (allowedClockSkewMs : ℕ) : ExchangeRun where
  daemon :=
    { tickets
      authService :=
        { daemonIdentity := tickets.identity, challengeManager := .new
          replayProtector := .new allowedClockSkewMs } }
  clockMs := 0
  drawn := []
  events := []
  proofs := []
  tokens := []

variable (crypto : CredentialCrypto) (verify : Text → Text → Text → Bool)

/-- The run with what happened in one call. -/
def record (r : ExchangeRun) (op : ExchangeOp) (daemon : ExchangeDaemon)
    (events : List ChallengeEvent) (proofs : List (AuthPayload × ℕ))
    (tokens : List CredentialClaims) : ExchangeRun where
  daemon := daemon
  clockMs := op.nowMs
  drawn := r.drawn ++ op.draws
  events := r.events ++ events
  proofs := r.proofs ++ proofs
  tokens := r.tokens ++ tokens

/-- The challenge that was issued. -/
def issued : Except ProtocolError AuthChallengePayload → List ChallengeEvent
  | .ok payload => [.issued payload.challenge payload.deviceId payload.expiresAtMs]
  | .error _ => []

/-- What an attempt with a proof does to its challenge. -/
def reached (d : ExchangeDaemon) (payload : AuthPayload) (nowMs : ℕ) : List ChallengeEvent :=
  ChallengeEvent.ofConsume payload.challenge
    (d.authService.challengeManager.consume payload.deviceId payload.challenge nowMs).2

/-- The proof, if it is accepted. -/
def accepted (d : ExchangeDaemon) (payload : AuthPayload) (nowMs : ℕ) : List (AuthPayload × ℕ) :=
  match (d.acceptProof crypto verify payload nowMs).2 with
  | .ok _ => [(payload, nowMs)]
  | .error _ => []

/-- What a call leaves behind. -/
def call (r : ExchangeRun) (op : ExchangeOp) : Option ExchangeRun :=
  match op with
  | .issueAccessTokenChallenge certificate deviceId nowMs drawn =>
    (r.daemon.issueAccessTokenChallenge crypto certificate deviceId nowMs drawn).map fun result =>
      r.record op result.1 (issued result.2) [] []
  | .issueDeviceCertificateMigrationChallenge deviceId nowMs drawn =>
    (r.daemon.issueDeviceCertificateMigrationChallenge deviceId nowMs drawn).map fun result =>
      r.record op result.1 (issued result.2) [] []
  | .exchangeAccessToken certificate payload nowMs tokenId =>
    let result := r.daemon.exchangeAccessToken crypto verify certificate payload nowMs tokenId
    match r.daemon.presents crypto certificate payload nowMs with
    | .error _ => some (r.record op result.1 [] [] [])
    | .ok () =>
      some (r.record op result.1 (reached r.daemon payload nowMs)
        (accepted crypto verify r.daemon payload nowMs) result.2.toOption.toList)
  | .migrateDeviceCertificate payload nowMs certificateId =>
    some (r.record op
      (r.daemon.migrateDeviceCertificate crypto verify payload nowMs certificateId).1
      (reached r.daemon payload nowMs) (accepted crypto verify r.daemon payload nowMs) [])
  | .pair pairTicket deviceId devicePublicKey nowMs saves certificateId =>
    let result := r.daemon.tickets.pairDeviceCertificate crypto pairTicket deviceId devicePublicKey
      nowMs saves certificateId
    some (r.record op { r.daemon with tickets := result.1 } [] [] [])
  | .untrust deviceId _ =>
    some (r.record op
      (r.daemon.setTrustedStore (r.daemon.tickets.trustedStore.erase deviceId)) [] [] [])

/-- The random values are new and the clock has not gone back. -/
def Enabled (r : ExchangeRun) (op : ExchangeOp) : Prop :=
  r.clockMs ≤ op.nowMs ∧ op.nowMs < u64Limit ∧ op.draws.Nodup ∧
    ∀ value ∈ op.draws, value ∉ r.drawn
deriving Decidable

def step (r : ExchangeRun) (op : ExchangeOp) : Option ExchangeRun :=
  if r.Enabled op then r.call crypto verify op else none

/-- The guard: no proof gets through the replay check whose timestamp is ahead of the daemon, unless
the clock ends before its nonce is forgotten. -/
def Careful (r : ExchangeRun) (op : ExchangeOp) : Prop :=
  ∀ payload ∈ op.payload?, payload.timestampMs ≤ op.nowMs ∨
    (r.daemon.authService.replayProtector.check payload.deviceId payload.nonce payload.timestampMs
      op.nowMs).2.isOk = false ∨
    u64Limit ≤ op.nowMs + r.daemon.authService.replayProtector.allowedClockSkewMs + 1
deriving Decidable

/-- The challenges of the run, as a run of the challenge service. -/
def challenges (r : ExchangeRun) : ChallengeRun where
  service := r.daemon.authService
  store := r.daemon.tickets.trustedStore
  clockMs := r.clockMs
  drawn := r.drawn
  events := r.events

/-- What a proof is to the replay protector. -/
def message (proof : AuthPayload × ℕ) : DeviceId × Text × ℕ :=
  (proof.1.deviceId, proof.1.nonce, proof.1.timestampMs)

/-- The nonces of the run, as a run of the replay protector. -/
def replay (r : ExchangeRun) : ReplayRun where
  protector := r.daemon.authService.replayProtector
  clockMs := r.clockMs
  accepted := r.proofs.map message

variable {crypto verify} {r r' : ExchangeRun} {op : ExchangeOp}

/-- **What a call can do**: it leaves the challenges and the nonces alone, issues a challenge, or
looks at a proof. -/
inductive Change (crypto : CredentialCrypto) (verify : Text → Text → Text → Bool)
    (r : ExchangeRun) (op : ExchangeOp) : ExchangeRun → Prop
  | idle {daemon : ExchangeDaemon} (same : daemon.authService = r.daemon.authService) :
    Change crypto verify r op (r.record op daemon [] [] [])
  | issue {deviceId : DeviceId}
      {result : AuthChallengeManager × Except ChallengeError AuthChallengeRecord}
      (issued : r.daemon.authService.challengeManager.issue deviceId op.nowMs authChallengeTtlMs
        op.draws = some result) :
    Change crypto verify r op
      (r.record op (r.daemon.setChallengeManager result.1) (ChallengeEvent.ofIssue result.2) [] [])
  | attempt {payload : AuthPayload} {tokens : List CredentialClaims}
      (sent : op.payload? = some payload)
      (signed : ∀ claims ∈ tokens,
        (∃ trusted, (r.daemon.acceptProof crypto verify payload op.nowMs).2 = .ok trusted) ∧
          claims.deviceId = some payload.deviceId ∧
          claims.expiresAtMs = op.nowMs + accessTokenTtlMs) :
    Change crypto verify r op
      (r.record op (r.daemon.acceptProof crypto verify payload op.nowMs).1
        (reached r.daemon payload op.nowMs) (accepted crypto verify r.daemon payload op.nowMs)
        tokens)

theorem change_of_issueChallenge {deviceId : DeviceId}
    {result : ExchangeDaemon × Except ProtocolError AuthChallengePayload}
    (h : r.daemon.issueChallenge deviceId op.nowMs op.draws = some result) :
    Change crypto verify r op (r.record op result.1 (issued result.2) [] []) := by
  obtain ⟨managed, hissue, hresult⟩ := Option.map_eq_some_iff.mp h
  have hchange : Change crypto verify r op _ := .issue hissue
  rcases r.daemon.authService.challengeManager.issue_cases deviceId op.nowMs hissue with
    ⟨error, rfl⟩ | ⟨m', value, -, -, -, -, -, rfl⟩ <;>
  · subst hresult
    exact hchange

theorem change_of_exchange {certificate tokenId : Text} {payload : AuthPayload} {nowMs : ℕ}
    (h : r.call crypto verify (.exchangeAccessToken certificate payload nowMs tokenId) = some r') :
    Change crypto verify r (.exchangeAccessToken certificate payload nowMs tokenId) r' := by
  simp only [call, ExchangeDaemon.exchangeAccessToken] at h
  cases hpresents : r.daemon.presents crypto certificate payload nowMs with
  | error =>
    rw [hpresents] at h
    cases h
    exact .idle rfl
  | ok =>
    rw [hpresents] at h
    obtain rfl := Option.some.inj h
    dsimp only
    have hchange (tokens : List CredentialClaims) (htokens) : Change crypto verify r
        (.exchangeAccessToken certificate payload nowMs tokenId) (r.record _ _ _ _ tokens) :=
      .attempt (show _ = some payload from rfl) htokens
    cases hresult : r.daemon.acceptProof crypto verify payload nowMs with
    | mk daemon result =>
      simp only [ExchangeOp.nowMs, hresult] at hchange
      cases result with
      | error =>
        exact hchange [] fun claims hclaims => by cases hclaims
      | ok trusted =>
        dsimp only
        split_ifs with hlimit
        · exact hchange [] fun claims hclaims => by cases hclaims
        · refine hchange [_] fun claims hclaims => ?_
          obtain rfl := List.mem_singleton.mp hclaims
          exact ⟨⟨trusted, rfl⟩, rfl, rfl⟩

/-- **Every step is one of the three changes.** -/
theorem step_cases (h : r.step crypto verify op = some r') :
    r.Enabled op ∧ Change crypto verify r op r' := by
  rw [step] at h
  split_ifs at h with henabled
  refine ⟨henabled, ?_⟩
  cases op with
  | issueAccessTokenChallenge certificate deviceId nowMs drawn =>
    obtain ⟨result, hresult, rfl⟩ := Option.map_eq_some_iff.mp h
    rw [ExchangeDaemon.issueAccessTokenChallenge] at hresult
    split at hresult
    · cases hresult
      exact .idle rfl
    · split_ifs at hresult
      · cases hresult
        exact .idle rfl
      · exact change_of_issueChallenge hresult
  | issueDeviceCertificateMigrationChallenge deviceId nowMs drawn =>
    obtain ⟨result, hresult, rfl⟩ := Option.map_eq_some_iff.mp h
    rw [ExchangeDaemon.issueDeviceCertificateMigrationChallenge] at hresult
    split at hresult
    · cases hresult
      exact .idle rfl
    · exact change_of_issueChallenge hresult
  | exchangeAccessToken certificate payload nowMs tokenId => exact change_of_exchange h
  | migrateDeviceCertificate payload nowMs certificateId =>
    obtain rfl := Option.some.inj h
    have hdaemon :
        (r.daemon.migrateDeviceCertificate crypto verify payload nowMs certificateId).1 =
          (r.daemon.acceptProof crypto verify payload nowMs).1 := by
      rw [ExchangeDaemon.migrateDeviceCertificate]
      rcases r.daemon.acceptProof crypto verify payload nowMs with ⟨daemon, error | trusted⟩ <;> rfl
    rw [hdaemon]
    exact .attempt rfl fun claims hclaims => by cases hclaims
  | pair pairTicket deviceId devicePublicKey nowMs saves certificateId =>
    obtain rfl := Option.some.inj h
    exact .idle rfl
  | untrust deviceId nowMs =>
    obtain rfl := Option.some.inj h
    exact .idle rfl

/-- What has happened so far. -/
structure Invariant (r : ExchangeRun) : Prop where
  history : r.challenges.Invariant
  nonces : r.replay.Sealed
  proved : ∀ proof ∈ r.proofs, .reached proof.1.challenge ∈ r.events
  tokens : ∀ claims ∈ r.tokens, ∃ proof ∈ r.proofs,
    claims.deviceId = some proof.1.deviceId ∧ claims.expiresAtMs = proof.2 + accessTokenTtlMs

theorem invariant_start (tickets : TicketDaemon) (allowedClockSkewMs : ℕ) :
    (start tickets allowedClockSkewMs).Invariant where
  history := ChallengeRun.invariant_start tickets.identity allowedClockSkewMs tickets.trustedStore
  nonces _ h := by cases h
  proved _ h := by cases h
  tokens _ h := by cases h

variable (crypto verify) in
/-- An accepted proof is one that the replay protector accepts, and one that reaches its challenge. -/
theorem accepted_cases (d : ExchangeDaemon) (payload : AuthPayload) (nowMs : ℕ) :
    (accepted crypto verify d payload nowMs = [] ∧
        ((d.acceptProof crypto verify payload nowMs).1.authService.replayProtector =
            d.authService.replayProtector ∨
          (d.acceptProof crypto verify payload nowMs).1.authService.replayProtector =
            (d.authService.replayProtector.prune nowMs).1)) ∨
      (accepted crypto verify d payload nowMs = [(payload, nowMs)] ∧
        reached d payload nowMs = [.reached payload.challenge] ∧
        (d.authService.replayProtector.check payload.deviceId payload.nonce payload.timestampMs
          nowMs).2 = .ok () ∧
        (d.acceptProof crypto verify payload nowMs).1.authService.replayProtector =
          (d.authService.replayProtector.prune nowMs).1.recordChecked payload.deviceId
            payload.nonce nowMs) := by
  cases hresult : d.acceptProof crypto verify payload nowMs with
  | mk daemon result =>
    obtain ⟨-, ⟨error, rfl, hprotector⟩ | ⟨trusted, used, rfl, hconsume, hcheck, -, -, hprotector⟩⟩ :=
      ExchangeDaemon.acceptProof_cases hresult
    · refine .inl ⟨?_, hprotector⟩
      rw [accepted, hresult]
    · refine .inr ⟨?_, ?_, hcheck, hprotector⟩
      · rw [accepted, hresult]
      · rw [reached, hconsume]
        rfl

/-- The nonces of a step are those of a step of the replay protector, or none. -/
theorem Invariant.sealed (h : r.Invariant) (hcareful : r.Careful op) (henabled : r.Enabled op)
    (hchange : Change crypto verify r op r') : r'.replay.Sealed := by
  have hskip {daemon : ExchangeDaemon} {events : List ChallengeEvent}
      {tokens : List CredentialClaims}
      (hsame : daemon.authService.replayProtector = r.daemon.authService.replayProtector) :
      (r.record op daemon events [] tokens).replay.Sealed := by
    have hlater := h.nonces.later henabled.1
    rw [replay, record, List.append_nil, hsame]
    exact hlater
  cases hchange with
  | idle same => exact hskip (by rw [same])
  | issue => exact hskip rfl
  | @attempt payload tokens sent signed =>
    rcases accepted_cases crypto verify r.daemon payload op.nowMs with
      ⟨hnone, hsame | hpruned⟩ | ⟨hsome, -, hcheck, hrecorded⟩
    · rw [hnone]
      exact hskip hsame
    · -- a proof that fails the check, or whose signature is bad
      have hstep : r.replay.step (.prune op.nowMs) = some _ :=
        if_pos ⟨henabled.1, henabled.2.1⟩
      have hsealed := h.nonces.step (fun _ _ _ hmessage => by cases hmessage) hstep
      rw [hnone, replay, record, List.append_nil, hpruned]
      exact hsealed
    · have hstep : r.replay.step (.checkThenRecord payload.deviceId payload.nonce
          payload.timestampMs op.nowMs true) = some _ := if_pos ⟨henabled.1, henabled.2.1⟩
      have hpunctual : r.replay.Punctual (.checkThenRecord payload.deviceId payload.nonce
          payload.timestampMs op.nowMs true) := by
        intro deviceId nonce timestampMs hmessage hahead _ _
        cases hmessage
        rcases hcareful payload sent with hle | hrefused | hlate
        · exact absurd hahead (Nat.not_lt.mpr hle)
        · rw [hcheck] at hrefused
          cases hrefused
        · exact hlate
      have hsealed := h.nonces.step hpunctual hstep
      have hcheck : r.daemon.authService.replayProtector.check payload.deviceId payload.nonce
          payload.timestampMs op.nowMs =
            ((r.daemon.authService.replayProtector.prune op.nowMs).1, .ok ()) :=
        Prod.ext (ReplayProtector.check_fst _ _ _ _ _) hcheck
      simp only [ReplayRun.call, replay, hcheck, if_true] at hsealed
      rw [hsome, replay, record, List.map_append, hrecorded]
      exact hsealed

/-- The challenges of a step are those of a step of the challenge service. -/
theorem Invariant.recorded (h : r.Invariant) (henabled : r.Enabled op)
    (hchange : Change crypto verify r op r') : r'.challenges.Invariant := by
  have hcapped {m : AuthChallengeManager}
      (hcount : ∀ other, m.challenges.countWhere (AuthChallengeManager.isOutstanding other) ≤
          r.daemon.authService.challengeManager.challenges.countWhere
            (AuthChallengeManager.isOutstanding other) ∨
        m.challenges.countWhere (AuthChallengeManager.isOutstanding other) ≤
          AuthChallengeManager.maxOutstandingPerDevice) (other : DeviceId) :
      m.challenges.countWhere (AuthChallengeManager.isOutstanding other) ≤
        AuthChallengeManager.maxOutstandingPerDevice :=
    (hcount other).elim (fun hle => hle.trans (h.history.capped other)) id
  cases hchange with
  | idle same =>
    refine h.history.of_change op.nowMs rfl rfl (Nat.zero_le 1) (fun challenge => ?_)
      fun other => ?_
    · rw [ChallengeRun.record?, ChallengeRun.record?, challenges, challenges, record, same]
      exact .keep _
    · rw [ChallengeRun.outstanding, challenges, record, same]
      exact h.history.capped other
  | @issue deviceId result issued =>
    obtain ⟨hrecords, hcount⟩ := AuthChallengeManager.change_of_issue issued fun value hvalue =>
      (⟨hvalue, henabled.2.2.2 value hvalue⟩ : value ∈ op.draws ∧ value ∉ r.drawn)
    refine h.history.of_change op.nowMs rfl rfl ?_ hrecords (hcapped hcount)
    rcases result.2 with error | record
    · exact Nat.zero_le 1
    · exact le_rfl
  | @attempt payload tokens sent signed =>
    obtain ⟨hrecords, hcount, -⟩ := r.daemon.authService.challengeManager.change_of_consume
      payload.deviceId payload.challenge op.nowMs fun value => value ∈ op.draws ∧ value ∉ r.drawn
    have hmanager :
        (r.daemon.acceptProof crypto verify payload op.nowMs).1.authService.challengeManager =
          (r.daemon.authService.challengeManager.consume payload.deviceId payload.challenge
            op.nowMs).1 := (ExchangeDaemon.acceptProof_cases rfl).1
    refine h.history.of_change op.nowMs rfl rfl ?_ (fun challenge => ?_) fun other => ?_
    · rw [reached]
      rcases (r.daemon.authService.challengeManager.consume payload.deviceId payload.challenge
        op.nowMs).2 with error | used
      · cases error <;> simp [ChallengeEvent.ofConsume]
      · exact le_rfl
    · rw [ChallengeRun.record?, ChallengeRun.record?, challenges, challenges, record, hmanager]
      exact hrecords challenge
    · rw [ChallengeRun.outstanding, challenges, record, hmanager]
      exact hcapped (fun other => .inl (hcount other)) other

/-- **The invariant** of every step that is allowed. -/
theorem Invariant.step (h : r.Invariant) (hcareful : r.Careful op)
    (hstep : r.step crypto verify op = some r') : r'.Invariant := by
  obtain ⟨henabled, hchange⟩ := step_cases hstep
  refine
    { history := h.recorded henabled hchange
      nonces := h.sealed hcareful henabled hchange
      proved := fun proof hproof => ?_
      tokens := fun claims hclaims => ?_ }
  · cases hchange with
    | idle | issue =>
      simp only [record, List.append_nil] at hproof
      exact List.mem_append_left _ (h.proved proof hproof)
    | @attempt payload tokens sent signed =>
      rcases List.mem_append.mp hproof with hold | hnew
      · exact List.mem_append_left _ (h.proved proof hold)
      · rcases accepted_cases crypto verify r.daemon payload op.nowMs with ⟨hnone, -⟩ | ⟨hsome, hreached, -, -⟩
        · rw [hnone] at hnew
          cases hnew
        · rw [hsome, List.mem_singleton] at hnew
          subst hnew
          refine List.mem_append_right _ ?_
          rw [hreached]
          exact List.mem_singleton_self _
  · cases hchange with
    | idle | issue =>
      simp only [record, List.append_nil] at hclaims
      obtain ⟨proof, hproof, hdevice, hexpires⟩ := h.tokens claims hclaims
      exact ⟨proof, List.mem_append_left _ hproof, hdevice, hexpires⟩
    | @attempt payload tokens sent signed =>
      rcases List.mem_append.mp hclaims with hold | hnew
      · obtain ⟨proof, hproof, hdevice, hexpires⟩ := h.tokens claims hold
        exact ⟨proof, List.mem_append_left _ hproof, hdevice, hexpires⟩
      · obtain ⟨⟨trusted, hok⟩, hdevice, hexpires⟩ := signed claims hnew
        refine ⟨(payload, op.nowMs), List.mem_append_right _ ?_, hdevice, hexpires⟩
        rw [accepted, hok]
        exact List.mem_singleton_self _

/-! ### Fresh proofs -/

/-- **A fresh proof**, in a state of a run: the challenge was issued to the device and has not
expired, the device is trusted with a key under which the signature is good for exactly this payload,
no proof of the device with this nonce and this timestamp was accepted before, and no accepted proof
had this challenge. -/
structure FreshProof (crypto : CredentialCrypto) (verify : Text → Text → Text → Bool)
    (r : ExchangeRun) (payload : AuthPayload) (nowMs : ℕ) : Prop where
  issued : ∃ expiresAtMs, .issued payload.challenge payload.deviceId expiresAtMs ∈ r.events ∧
    nowMs < expiresAtMs
  signed : ∃ trusted, r.daemon.tickets.trustedStore.lookup payload.deviceId = some trusted ∧
    verify trusted.publicKey
      (AccessTokenProofInput.toBytes crypto.uuidText
        ⟨r.daemon.tickets.identity.serverId, payload⟩) payload.signature = true
  nonce : ∀ proof ∈ r.proofs, proof.1.deviceId = payload.deviceId →
    (proof.1.nonce, proof.1.timestampMs) ≠ (payload.nonce, payload.timestampMs)
  challenge : ∀ proof ∈ r.proofs, proof.1.challenge ≠ payload.challenge

/-- What is accepted rests on a fresh proof. -/
theorem Invariant.fresh (h : r.Invariant) {payload : AuthPayload} {nowMs : ℕ}
    (hclock : r.clockMs ≤ nowMs) (hlimit : nowMs < u64Limit) {trusted : TrustedDevice}
    (hok : (r.daemon.acceptProof crypto verify payload nowMs).2 = .ok trusted) :
    FreshProof crypto verify r payload nowMs := by
  cases hresult : r.daemon.acceptProof crypto verify payload nowMs with
  | mk daemon result =>
    rw [hresult] at hok
    obtain ⟨-, ⟨error, rfl, -⟩ | ⟨trusted', used, -, hconsume, hcheck, htrusted, hverify, -⟩⟩ :=
      ExchangeDaemon.acceptProof_cases hresult
    · cases hok
    · obtain ⟨record, hrecord, hactive, halive, hdevice⟩ :=
        (r.daemon.authService.challengeManager.change_of_consume payload.deviceId payload.challenge
          nowMs fun _ => True).2.2 used hconsume
      have hissued := h.history.issued_of_record payload.challenge record hrecord
      refine ⟨⟨record.expiresAtMs, hdevice ▸ hissued, halive⟩, ⟨trusted', htrusted, hverify⟩,
        fun proof hproof hsame hnonce => ?_, fun proof hproof hsame => ?_⟩
      · -- the message of that proof is covered, so it does not pass the check again
        have hmem : message proof ∈ r.replay.accepted := List.mem_map_of_mem hproof
        obtain ⟨hcovered, -⟩ := h.nonces _ hmem
        have hmessage : message proof =
            (payload.deviceId, payload.nonce, payload.timestampMs) := by
          rw [message, hsame, (Prod.mk.inj hnonce).1, (Prod.mk.inj hnonce).2]
        obtain ⟨hwindow, hforgotten⟩ :=
          (ReplayProtector.check_snd_eq_ok_iff _ _ _ _ _).mp hcheck
        rw [hmessage] at hcovered
        rcases hcovered with hover | ⟨nonce, hnonce, hlate⟩
        · have hover : payload.timestampMs + r.daemon.authService.replayProtector.allowedClockSkewMs
            < r.clockMs := hover
          omega
        · rw [ReplayProtector.record?_prune, Option.filter_eq_none_iff] at hforgotten
          have hold := hforgotten nonce hnonce
          have hlate : payload.timestampMs ≤ nonce.recordedAtMs ∨ u64Limit ≤
            nonce.recordedAtMs + r.daemon.authService.replayProtector.allowedClockSkewMs + 1 := hlate
          simp only [decide_eq_true_eq] at hold
          omega
      · have hreached := h.proved proof hproof
        rw [hsame] at hreached
        exact (h.history.spent_of_reached payload.challenge hreached).2 record hrecord hactive

/-- **Access tokens and certificates are issued on fresh proof only**, and an access token is good
only for a device that is still trusted. -/
structure OnlyOnProof (crypto : CredentialCrypto) (verify : Text → Text → Text → Bool)
    (r : ExchangeRun) : Prop where
  /-- A success rests on a fresh proof, which is one of the accepted ones from then on. -/
  exchanged : ∀ certificate payload nowMs tokenId r' claims,
    r.step crypto verify (.exchangeAccessToken certificate payload nowMs tokenId) = some r' →
    (r.daemon.exchangeAccessToken crypto verify certificate payload nowMs tokenId).2 = .ok claims →
    FreshProof crypto verify r payload nowMs ∧ r'.proofs = r.proofs ++ [(payload, nowMs)]
  migrated : ∀ payload nowMs certificateId r' claims,
    r.step crypto verify (.migrateDeviceCertificate payload nowMs certificateId) = some r' →
    (r.daemon.migrateDeviceCertificate crypto verify payload nowMs certificateId).2 = .ok claims →
    FreshProof crypto verify r payload nowMs ∧ r'.proofs = r.proofs ++ [(payload, nowMs)]
  trusted : ∀ token nowMs deviceId,
    r.daemon.verifyAccessTokenCredential crypto token nowMs = .ok deviceId →
    ∃ trusted, r.daemon.tickets.trustedStore.lookup deviceId = some trusted
  /-- An access token that the daemon has signed in this run goes back to a proof of its device. -/
  unforged : ∀ token nowMs claims, verifyCredential crypto token r.daemon.tickets.identity.publicKey
      r.daemon.tickets.identity.serverId nowMs .accessToken = .ok claims → claims ∈ r.tokens →
    ∃ proof ∈ r.proofs, claims.deviceId = some proof.1.deviceId ∧
      nowMs ≤ proof.2 + accessTokenTtlMs

/-- What a successful exchange says. -/
theorem exchangeAccessToken_eq_ok {d : ExchangeDaemon} {certificate tokenId : Text}
    {payload : AuthPayload} {nowMs : ℕ} {claims : CredentialClaims}
    (h : (d.exchangeAccessToken crypto verify certificate payload nowMs tokenId).2 = .ok claims) :
    d.presents crypto certificate payload nowMs = .ok () ∧
      ∃ trusted, (d.acceptProof crypto verify payload nowMs).2 = .ok trusted := by
  rw [ExchangeDaemon.exchangeAccessToken] at h
  split at h
  · cases h
  · rename_i hpresents
    refine ⟨hpresents, ?_⟩
    cases hproof : d.acceptProof crypto verify payload nowMs with
    | mk daemon result =>
      rw [hproof] at h
      cases result with
      | error => cases h
      | ok trusted => exact ⟨trusted, rfl⟩

theorem migrateDeviceCertificate_eq_ok {d : ExchangeDaemon} {certificateId : Text}
    {payload : AuthPayload} {nowMs : ℕ} {claims : CredentialClaims}
    (h : (d.migrateDeviceCertificate crypto verify payload nowMs certificateId).2 = .ok claims) :
    ∃ trusted, (d.acceptProof crypto verify payload nowMs).2 = .ok trusted := by
  rw [ExchangeDaemon.migrateDeviceCertificate] at h
  cases hproof : d.acceptProof crypto verify payload nowMs with
  | mk daemon result =>
    rw [hproof] at h
    cases result with
    | error => cases h
    | ok trusted => exact ⟨trusted, rfl⟩

theorem verifyAccessTokenCredential_eq_ok {d : ExchangeDaemon} {token : Text} {nowMs : ℕ}
    {deviceId : DeviceId} (h : d.verifyAccessTokenCredential crypto token nowMs = .ok deviceId) :
    ∃ trusted, d.tickets.trustedStore.lookup deviceId = some trusted := by
  rw [ExchangeDaemon.verifyAccessTokenCredential] at h
  split at h
  · cases h
  · split at h
    · cases h
    · split at h
      · cases h
      · rename_i trusted htrusted
        obtain rfl := Except.ok.inj h
        exact ⟨trusted, htrusted⟩

/-- **Only on fresh proof**, in every run in which no proof is ahead of the daemon. -/
theorem onlyOnProof_of_careful (crypto : CredentialCrypto) (verify : Text → Text → Text → Bool)
    (tickets : TicketDaemon) (allowedClockSkewMs : ℕ) (ops : List ExchangeOp)
    (hcareful : Along (step crypto verify) Careful (start tickets allowedClockSkewMs) ops)
    (r : ExchangeRun)
    (hrun : exec (step crypto verify) (start tickets allowedClockSkewMs) ops = some r) :
    OnlyOnProof crypto verify r := by
  have h : r.Invariant := exec_induction_along (fun _ _ _ h hop hstep => h.step hop hstep)
    (invariant_start tickets allowedClockSkewMs) hcareful hrun
  have haccepted {payload : AuthPayload} {nowMs : ℕ}
      (hok : ∃ trusted, (r.daemon.acceptProof crypto verify payload nowMs).2 = .ok trusted) :
      accepted crypto verify r.daemon payload nowMs = [(payload, nowMs)] := by
    obtain ⟨trusted, hok⟩ := hok
    rw [accepted, hok]
  refine
    { exchanged := fun certificate payload nowMs tokenId r' claims hstep hok => ?_
      migrated := fun payload nowMs certificateId r' claims hstep hok => ?_
      trusted := fun token nowMs deviceId hok => verifyAccessTokenCredential_eq_ok hok
      unforged := fun token nowMs claims hverified hsigned => ?_ }
  · obtain ⟨hpresents, trusted, hproof⟩ := exchangeAccessToken_eq_ok hok
    obtain ⟨hclock, hlimit, -⟩ := (step_cases hstep).1
    refine ⟨h.fresh hclock hlimit hproof, ?_⟩
    rw [step, if_pos (step_cases hstep).1, call, hpresents] at hstep
    obtain rfl := Option.some.inj hstep
    exact congrArg (r.proofs ++ ·) (haccepted ⟨trusted, hproof⟩)
  · obtain ⟨trusted, hproof⟩ := migrateDeviceCertificate_eq_ok hok
    obtain ⟨hclock, hlimit, -⟩ := (step_cases hstep).1
    refine ⟨h.fresh hclock hlimit hproof, ?_⟩
    rw [step, if_pos (step_cases hstep).1, call] at hstep
    obtain rfl := Option.some.inj hstep
    exact congrArg (r.proofs ++ ·) (haccepted ⟨trusted, hproof⟩)
  · obtain ⟨proof, hproof, hdevice, hexpires⟩ := h.tokens claims hsigned
    exact ⟨proof, hproof, hdevice, hexpires ▸ (verifyCredential_eq_ok hverified).2.2⟩

/-! ### Runs of one device -/

/-- The encodings of the runs below: the claims of the certificate of device 1 are the text `[7]`. -/
def oneCertificate : CredentialCrypto where
  uuidText n := [UInt8.ofNat n]
  decodeHeader _ := some { alg := ascii "EdDSA", kid := [0], typ := ascii "JWT" }
  decodeClaims encoded :=
    if encoded = [7] then
      some
        { kind := .deviceCertificate, issuer := 0, deviceId := some 1, devicePublicKey := some [5]
          issuedAtMs := 10, expiresAtMs := u64Limit - 1, credentialId := [7] }
    else none
  validVerifyingKey _ := true
  decodeSignature := some
  verify _ _ signature := signature = [9]
  validDeviceKey _ := true

/-- A daemon that trusts device 1. -/
def trustsOne : TicketDaemon where
  identity := ⟨0, []⟩
  consumedPairTicketIds := []
  trustedStore := TrustedDeviceStore.trustDevice ∅ 1 [5] 10 none
  saved := none

/-- A proof with the nonce and the timestamp that are given. -/
def proofOfOne (challenge nonce : Text) (timestampMs : ℕ) : AuthPayload :=
  { deviceId := 1, challenge, nonce, timestampMs, signature := [4] }

/-- A device that is given a certificate and trades it for an access token. -/
def certified : List ExchangeOp :=
  [.issueDeviceCertificateMigrationChallenge 1 20 [[6]],
    .migrateDeviceCertificate (proofOfOne [6] [8] 25) 30 [7],
    .issueAccessTokenChallenge [1, 0x2e, 7, 0x2e, 9] 1 40 [[16]],
    .exchangeAccessToken [1, 0x2e, 7, 0x2e, 9] (proofOfOne [16] [18] 45) 50 [17]]

theorem onlyOnProof_of_exchange :
    ∃ r, exec (step oneCertificate fun _ _ signature => signature = [4]) (start trustsOne 10)
        certified = some r ∧
      r.proofs = [(proofOfOne [6] [8] 25, 30), (proofOfOne [16] [18] 45, 50)] ∧
      OnlyOnProof oneCertificate (fun _ _ signature => signature = [4]) r :=
  ⟨_, rfl, rfl, onlyOnProof_of_careful oneCertificate _ trustsOne 10 certified (by decide +kernel)
    _ rfl⟩

/-- A device whose clock is ahead sends the same nonce and timestamp with two challenges, and has a
certificate for each. -/
theorem not_onlyOnProof_of_ahead :
    ∃ r, exec (step oneCertificate fun _ _ signature => signature = [4]) (start trustsOne 10)
        [.issueDeviceCertificateMigrationChallenge 1 90 [[6]],
          .migrateDeviceCertificate (proofOfOne [6] [8] 110) 100 [17],
          .issueDeviceCertificateMigrationChallenge 1 105 [[16]]] = some r ∧
      ¬OnlyOnProof oneCertificate (fun _ _ signature => signature = [4]) r := by
  refine ⟨_, rfl, fun h => ?_⟩
  have hfresh := (h.migrated (proofOfOne [16] [8] 110) 111 [18] _ _ rfl rfl).1
  exact hfresh.nonce (proofOfOne [6] [8] 110, 100) (.head _) rfl rfl

end ExchangeRun

end Termd.Auth
