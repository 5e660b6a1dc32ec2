import Termd.Auth.Replay
import Termd.Library.Decimal

/-!
# Challenge and response

A device proves that it holds its key by signing a challenge of the daemon. The daemon issues the
challenge to one device and for a short time, and an attempt that reaches it uses it up, whatever
becomes of the attempt: the challenge is marked before the timestamp, the nonce and the signature are
looked at.

## What one attempt can know

Records of used challenges are dropped from the table, and a device that asks for too many loses its
oldest ones. So the table alone does not tell what happened to a challenge; the guarantee is about
all earlier calls. It rests on two facts: a challenge is drawn once, and a record that is gone or
retired never comes back (`Spent`).

The signature covers the bytes of a signing input, in which every field is written with its length
in front. Two payloads with the same bytes agree in every field.

## Main definitions

* `AuthChallengeManager`, `AuthSigningInput`, `ChallengeResponseService`: the operations
* `ChallengeChange`: what a call does to the record of one challenge
* `ChallengeRun`: a service with the trusted devices, the clock and what happened

## Main results

* `AuthSigningInput.toBytes_inj`: what a signature covers
* `ChallengeRun.Invariant.step`: the history of the challenges and their records
-/

namespace Termd.Auth

/-- The bytes of an ASCII literal. -/
def ascii (s : String) : Text := s.toList.map fun c => UInt8.ofNat c.toNat

/-! ### Trusted devices -/

structure TrustedDevice where
  publicKey : Text
  trustedAtMs : ℕ
  lastSeenAtMs : Option ℕ
  label : Option Text

/-- The trusted devices by their ids. -/
abbrev TrustedDeviceStore := Table DeviceId TrustedDevice

namespace TrustedDeviceStore

/-- Labels are normalised by the caller. A device that is trusted again keeps when it was seen. -/
def trustDevice (store : TrustedDeviceStore) (deviceId : DeviceId) (publicKey : Text)
    (trustedAtMs : ℕ) (label : Option Text) : TrustedDeviceStore :=
  store.insert deviceId
    { publicKey, trustedAtMs, label
      lastSeenAtMs := (store.lookup deviceId).bind TrustedDevice.lastSeenAtMs }

def markSeen (store : TrustedDeviceStore) (deviceId : DeviceId) (seenAtMs : ℕ) :
    Option TrustedDeviceStore :=
  (store.lookup deviceId).map fun trusted =>
    store.insert deviceId { trusted with lastSeenAtMs := some seenAtMs }

end TrustedDeviceStore

/-! ### Challenges -/

inductive AuthChallengeState
  | active
  | consumed
  | revoked
deriving DecidableEq

structure AuthChallengeRecord where
  challenge : Text
  deviceId : DeviceId
  issuedAtMs : ℕ
  expiresAtMs : ℕ
  state : AuthChallengeState
  consumedAtMs : Option ℕ

namespace AuthChallengeRecord

def new (challenge : Text) (deviceId : DeviceId) (issuedAtMs expiresAtMs : ℕ) :
    AuthChallengeRecord where
  challenge := challenge
  deviceId := deviceId
  issuedAtMs := issuedAtMs
  expiresAtMs := expiresAtMs
  state := .active
  consumedAtMs := none

def isExpired (record : AuthChallengeRecord) (nowMs : ℕ) : Bool := record.expiresAtMs ≤ nowMs

end AuthChallengeRecord

inductive ChallengeError
  | invalidChallenge
  | deviceMismatch (expectedDeviceId actualDeviceId : DeviceId)
  | expiredChallenge (expiresAtMs nowMs : ℕ)
  | usedChallenge
  | revokedChallenge
  | invalidTtl (ttlMs : ℕ)

/-- The challenges that are outstanding, by their values. -/
structure AuthChallengeManager where
  challenges : Table Text AuthChallengeRecord

namespace AuthChallengeManager

variable (m : AuthChallengeManager) (deviceId : DeviceId) (challenge : Text) (nowMs : ℕ)

def maxOutstandingPerDevice : ℕ := 8

def new : AuthChallengeManager := ⟨∅⟩

/-- An outstanding challenge of the device. -/
def isOutstanding (_ : Text) (record : AuthChallengeRecord) : Bool :=
  record.deviceId = deviceId ∧ record.state = .active

def pruneExpired : AuthChallengeManager × ℕ :=
  let kept := m.challenges.retain fun _ record =>
    if record.isExpired nowMs = false then some record else none
  (⟨kept⟩, m.challenges.entries.length - kept.entries.length)

def pruneUnusableExcept (protectedKey : Option Text) : AuthChallengeManager × ℕ :=
  let kept := m.challenges.retain fun key record =>
    if protectedKey = some key then some record
    else if record.isExpired nowMs = false ∧ record.state ≠ .consumed then some record
    else none
  (⟨kept⟩, m.challenges.entries.length - kept.entries.length)

/-- The order of `min_by`: the time of issue, then the key. -/
def isOlder (left right : Text × AuthChallengeRecord) : Bool :=
  left.2.issuedAtMs < right.2.issuedAtMs ∨
    (left.2.issuedAtMs = right.2.issuedAtMs ∧ left.1 < right.1)

/-- The oldest of the outstanding challenges of the device. -/
def oldestKey : Option Text :=
  let outstanding := m.challenges.select fun key record =>
    if isOutstanding deviceId key record then some (key, record) else none
  let oldest := outstanding.foldl (fun best entry => match best with
    | none => some entry
    | some best => some (if isOlder entry best then entry else best)) none
  oldest.map Prod.fst

/-- The loop of the cap, for at most `rounds` rounds. -/
def capLoop : ℕ → AuthChallengeManager → AuthChallengeManager × ℕ
  | 0, m => (m, 0)
  | rounds + 1, m =>
    if m.challenges.countWhere (isOutstanding deviceId) < maxOutstandingPerDevice then (m, 0)
    else match m.oldestKey deviceId with
      | none => (m, 0)
      | some key =>
        let (m, removed) := capLoop rounds ⟨m.challenges.erase key⟩
        (m, removed + 1)

/-- Every round removes a challenge, so there are no more rounds than challenges. -/
def enforceDeviceOutstandingCap : AuthChallengeManager × ℕ :=
  capLoop deviceId m.challenges.entries.length m

/-- `drawn` are the challenges that the loop generates; when all of them are in use it goes on. -/
def issue (ttlMs : ℕ) (drawn : List Text) :
    Option (AuthChallengeManager × Except ChallengeError AuthChallengeRecord) :=
  if ttlMs = 0 then some (m, .error (.invalidTtl ttlMs))
  else if u64Limit ≤ nowMs + ttlMs then some (m, .error (.invalidTtl ttlMs))
  else
    let m := (m.pruneUnusableExcept nowMs none).1
    let m := (m.enforceDeviceOutstandingCap deviceId).1
    (drawn.find? fun challenge => (m.challenges.lookup challenge).isNone).map fun challenge =>
      let record := AuthChallengeRecord.new challenge deviceId nowMs (nowMs + ttlMs)
      (⟨m.challenges.insert challenge record⟩, .ok record)

def consume : AuthChallengeManager × Except ChallengeError AuthChallengeRecord :=
  let m := (m.pruneUnusableExcept nowMs (some challenge)).1
  match m.challenges.lookup challenge with
  | none => (m, .error .invalidChallenge)
  | some record =>
    match record.state with
    | .consumed => (m, .error .usedChallenge)
    | .revoked => (m, .error .revokedChallenge)
    | .active =>
      if record.isExpired nowMs then
        (⟨m.challenges.erase challenge⟩, .error (.expiredChallenge record.expiresAtMs nowMs))
      else
        let used := { record with state := .consumed, consumedAtMs := some nowMs }
        let m : AuthChallengeManager := ⟨m.challenges.insert challenge used⟩
        -- an attempt of another device uses the challenge up as well
        if record.deviceId ≠ deviceId then (m, .error (.deviceMismatch record.deviceId deviceId))
        else (m, .ok used)

def revoke : AuthChallengeManager × Bool :=
  match m.challenges.lookup challenge with
  | none => (m, false)
  | some record =>
    if record.deviceId ≠ deviceId ∨ record.state ≠ .active then (m, false)
    else (⟨m.challenges.insert challenge { record with state := .revoked }⟩, true)

end AuthChallengeManager

/-! ### The signing input -/

structure AuthPayload where
  deviceId : DeviceId
  challenge : Text
  nonce : Text
  timestampMs : ℕ
  signature : Text

/-- What a device signs. -/
structure AuthSigningInput where
  serverId : ℕ
  daemonPublicKey : Text
  deviceId : DeviceId
  challenge : Text
  nonce : Text
  timestampMs : ℕ

namespace AuthSigningInput

variable (uuidText : ℕ → Text)

def fromPayload (payload : AuthPayload) (identity : DaemonPublicIdentity) : AuthSigningInput where
  serverId := identity.serverId
  daemonPublicKey := identity.publicKey
  deviceId := payload.deviceId
  challenge := payload.challenge
  nonce := payload.nonce
  timestampMs := payload.timestampMs

/-- `uuidText` is how a UUID is displayed. -/
def toBytes (input : AuthSigningInput) : Text :=
  ascii "termd-auth-v1\n" ++ (lengthField (ascii "server_id") (uuidText input.serverId) ++
    (lengthField (ascii "daemon_public_key") input.daemonPublicKey ++
      (lengthField (ascii "device_id") (uuidText input.deviceId) ++
        (lengthField (ascii "challenge") input.challenge ++
          (lengthField (ascii "nonce") input.nonce ++
            lengthField (ascii "timestamp_ms") (decimal input.timestampMs))))))

/-- **What a signature covers**: inputs with the same bytes agree in every field. -/
theorem toBytes_inj {a b : AuthSigningInput} (h : a.toBytes uuidText = b.toBytes uuidText) :
    uuidText a.serverId = uuidText b.serverId ∧ a.daemonPublicKey = b.daemonPublicKey ∧
      uuidText a.deviceId = uuidText b.deviceId ∧ a.challenge = b.challenge ∧ a.nonce = b.nonce ∧
      a.timestampMs = b.timestampMs := by
  rw [toBytes, toBytes, List.append_cancel_left_eq] at h
  obtain ⟨hserver, h⟩ := lengthField_append_inj h
  obtain ⟨hkey, h⟩ := lengthField_append_inj h
  obtain ⟨hdevice, h⟩ := lengthField_append_inj h
  obtain ⟨hchallenge, h⟩ := lengthField_append_inj h
  obtain ⟨hnonce, h⟩ := lengthField_append_inj h
  -- the last field is followed by nothing
  rw [← List.append_nil (lengthField _ (decimal a.timestampMs)),
    ← List.append_nil (lengthField _ (decimal b.timestampMs))] at h
  exact ⟨hserver, hkey, hdevice, hchallenge, hnonce, decimal_injective (lengthField_append_inj h).1⟩

end AuthSigningInput

/-! ### The service -/

inductive ChallengeAuthError
  | untrustedDevice (deviceId : DeviceId)
  | invalidChallenge
  | challengeDeviceMismatch (expectedDeviceId actualDeviceId : DeviceId)
  | expiredChallenge (expiresAtMs nowMs : ℕ)
  | usedChallenge
  | revokedChallenge
  | invalidTtl (ttlMs : ℕ)
  | timestampOutOfWindow (timestampMs nowMs allowedClockSkewMs : ℕ)
  | replayedNonce (deviceId : DeviceId)
  | invalidSignature

namespace ChallengeAuthError

def ofChallengeError : ChallengeError → ChallengeAuthError
  | .invalidChallenge => invalidChallenge
  | .deviceMismatch expectedDeviceId actualDeviceId =>
    challengeDeviceMismatch expectedDeviceId actualDeviceId
  | .expiredChallenge expiresAtMs nowMs => expiredChallenge expiresAtMs nowMs
  | .usedChallenge => usedChallenge
  | .revokedChallenge => revokedChallenge
  | .invalidTtl ttlMs => invalidTtl ttlMs

def ofReplayError : ReplayError → ChallengeAuthError
  | .timestampOutOfWindow timestampMs nowMs allowedClockSkewMs =>
    timestampOutOfWindow timestampMs nowMs allowedClockSkewMs
  | .replayedNonce deviceId => replayedNonce deviceId

/-- The attempt ended before a challenge was used up. -/
def beforeChallenge : ChallengeAuthError → Bool
  | untrustedDevice _ | invalidChallenge | expiredChallenge _ _ | usedChallenge | revokedChallenge
  | invalidTtl _ => true
  | challengeDeviceMismatch _ _ | timestampOutOfWindow _ _ _ | replayedNonce _ | invalidSignature =>
    false

end ChallengeAuthError

structure AuthenticatedDevice where
  deviceId : DeviceId
  devicePublicKey : Text
  authenticatedAtMs : ℕ

structure ChallengeResponseService where
  daemonIdentity : DaemonPublicIdentity
  challengeManager : AuthChallengeManager
  replayProtector : ReplayProtector

namespace ChallengeResponseService

variable (uuidText : ℕ → Text) (verify : Text → Text → Text → Bool) (s : ChallengeResponseService)

/-- `verify` is the verifier: it is given the public key, the signed bytes and the signature. -/
def authenticate (payload : AuthPayload) (nowMs : ℕ) (store : TrustedDeviceStore) :
    ChallengeResponseService × TrustedDeviceStore ×
      Except ChallengeAuthError AuthenticatedDevice :=
  match store.lookup payload.deviceId with
  | none => (s, store, .error (.untrustedDevice payload.deviceId))
  | some trusted =>
    let challengeManager := (s.challengeManager.pruneUnusableExcept nowMs (some payload.challenge)).1
    match challengeManager.consume payload.deviceId payload.challenge nowMs with
    | (challengeManager, .error error) =>
      ({ s with challengeManager }, store, .error (.ofChallengeError error))
    | (challengeManager, .ok _) =>
      match s.replayProtector.check payload.deviceId payload.nonce payload.timestampMs nowMs with
      | (replayProtector, .error error) =>
        ({ s with challengeManager, replayProtector }, store, .error (.ofReplayError error))
      | (replayProtector, .ok ()) =>
        let signingInput := (AuthSigningInput.fromPayload payload s.daemonIdentity).toBytes uuidText
        if verify trusted.publicKey signingInput payload.signature = false then
          ({ s with challengeManager, replayProtector }, store, .error .invalidSignature)
        else
          let replayProtector := replayProtector.recordChecked payload.deviceId payload.nonce nowMs
          match TrustedDeviceStore.markSeen store payload.deviceId nowMs with
          | none =>
            ({ s with challengeManager, replayProtector }, store,
              .error (.untrustedDevice payload.deviceId))
          | some store =>
            ({ s with challengeManager, replayProtector }, store,
              .ok
                { deviceId := payload.deviceId
                  devicePublicKey := trusted.publicKey
                  authenticatedAtMs := nowMs })

end ChallengeResponseService

/-! ### What the operations leave behind -/

namespace AuthChallengeManager

variable (m : AuthChallengeManager) (deviceId : DeviceId) (challenge : Text) (nowMs : ℕ)

theorem pruned_pruneUnusableExcept (protectedKey : Option Text) :
    m.challenges.Pruned (m.pruneUnusableExcept nowMs protectedKey).1.challenges := by
  refine Table.pruned_retain fun key record => ?_
  split_ifs
  · exact .inl rfl
  · exact .inl rfl
  · exact .inr rfl

theorem lookup_pruneUnusableExcept_self :
    (m.pruneUnusableExcept nowMs (some challenge)).1.challenges.lookup challenge =
      m.challenges.lookup challenge := by
  rw [pruneUnusableExcept, Table.lookup_retain]
  cases m.challenges.lookup challenge <;> simp

/-- A challenge that can still be used is not pruned. -/
theorem lookup_pruneUnusableExcept_of_usable {protectedKey : Option Text} {key : Text}
    {record : AuthChallengeRecord} (hrecord : m.challenges.lookup key = some record)
    (hactive : record.state = .active) (halive : nowMs < record.expiresAtMs) :
    (m.pruneUnusableExcept nowMs protectedKey).1.challenges.lookup key = some record := by
  have hexpired : record.isExpired nowMs = false := by
    simpa [AuthChallengeRecord.isExpired] using halive
  rw [pruneUnusableExcept, Table.lookup_retain, hrecord, Option.bind_some]
  simp [hexpired, hactive]

/-- The oldest entry of a list is one of its entries. -/
theorem foldl_older_eq_some {entries : List (Text × AuthChallengeRecord)}
    {best : Option (Text × AuthChallengeRecord)} {entry : Text × AuthChallengeRecord}
    (h : entries.foldl (fun best entry => match best with
      | none => some entry
      | some best => some (if isOlder entry best then entry else best)) best = some entry) :
    entry ∈ entries ∨ best = some entry := by
  induction entries generalizing best with
  | nil => exact .inr h
  | cons first entries ih =>
    rcases ih h with hmem | hbest
    · exact .inl (List.mem_cons_of_mem _ hmem)
    · cases best with
      | none =>
        obtain rfl := Option.some.inj hbest
        exact .inl List.mem_cons_self
      | some best =>
        dsimp only at hbest
        split_ifs at hbest
        · obtain rfl := Option.some.inj hbest
          exact .inl List.mem_cons_self
        · exact .inr hbest

theorem foldl_older_ne_none {entries : List (Text × AuthChallengeRecord)}
    {best : Text × AuthChallengeRecord} :
    entries.foldl (fun best entry => match best with
      | none => some entry
      | some best => some (if isOlder entry best then entry else best)) (some best) ≠ none := by
  induction entries generalizing best with
  | nil => simp
  | cons first entries ih => exact ih

/-- **The oldest key** is that of an outstanding challenge of the device. -/
theorem oldestKey_eq_some {key : Text} (h : m.oldestKey deviceId = some key) :
    ∃ record, m.challenges.lookup key = some record ∧ isOutstanding deviceId key record = true := by
  obtain ⟨⟨key', record⟩, hfold, rfl⟩ := Option.map_eq_some_iff.mp h
  rcases foldl_older_eq_some hfold with hmem | hnone
  · obtain ⟨k, v, hlookup, hif⟩ := Table.mem_select.mp hmem
    split_ifs at hif with hout
    cases hif
    exact ⟨record, hlookup, hout⟩
  · cases hnone

/-- There is an oldest key as long as there are outstanding challenges. -/
theorem countWhere_eq_zero_of_oldestKey (h : m.oldestKey deviceId = none) :
    m.challenges.countWhere (isOutstanding deviceId) = 0 := by
  have hnil : m.challenges.select (fun key record =>
      if isOutstanding deviceId key record then some (key, record) else none) = [] := by
    cases hselect : m.challenges.select (fun key record =>
        if isOutstanding deviceId key record then some (key, record) else none) with
    | nil => rfl
    | cons first rest =>
      simp only [oldestKey, hselect, Option.map_eq_none_iff, List.foldl_cons] at h
      exact absurd h foldl_older_ne_none
  rw [Table.countWhere, List.countP_eq_zero]
  intro entry hentry hout
  have hmem : (entry.1, entry.2) ∈ m.challenges.select (fun key record =>
      if isOutstanding deviceId key record then some (key, record) else none) :=
    Table.mem_select.mpr ⟨_, _, AList.mem_lookup_iff.mpr hentry, if_pos hout⟩
  rw [hnil] at hmem
  cases hmem

/-- **The cap**: when there are enough rounds, fewer challenges than the cap are left. -/
theorem countWhere_capLoop_lt {rounds : ℕ} {m : AuthChallengeManager}
    (h : m.challenges.countWhere (isOutstanding deviceId) ≤ rounds) :
    (capLoop deviceId rounds m).1.challenges.countWhere (isOutstanding deviceId) <
      maxOutstandingPerDevice := by
  induction rounds generalizing m with
  | zero => exact h.trans_lt (by decide)
  | succ rounds ih =>
    rw [capLoop]
    split_ifs with hlt
    · exact hlt
    · cases hkey : m.oldestKey deviceId with
      | none =>
        rw [countWhere_eq_zero_of_oldestKey m deviceId hkey] at hlt
        exact absurd (by decide : 0 < maxOutstandingPerDevice) hlt
      | some key =>
        -- a round removes one outstanding challenge
        obtain ⟨record, hlookup, hout⟩ := oldestKey_eq_some m deviceId hkey
        refine ih ?_
        rw [Table.countWhere_eq_add_erase hlookup, if_pos hout] at h
        dsimp only
        omega

/-- The cap drops nothing but outstanding challenges of the device. -/
theorem lookup_capLoop {rounds : ℕ} {m : AuthChallengeManager} {key : Text}
    {record : AuthChallengeRecord} (hlookup : m.challenges.lookup key = some record)
    (hout : isOutstanding deviceId key record = false) :
    (capLoop deviceId rounds m).1.challenges.lookup key = some record := by
  induction rounds generalizing m with
  | zero => exact hlookup
  | succ rounds ih =>
    rw [capLoop]
    split_ifs
    · exact hlookup
    · cases hkey : m.oldestKey deviceId with
      | none => exact hlookup
      | some oldest =>
        obtain ⟨record', holdest, hout'⟩ := oldestKey_eq_some m deviceId hkey
        refine ih ?_
        rw [AList.lookup_erase_ne]
        · exact hlookup
        · rintro rfl
          cases holdest.symm.trans hlookup
          cases hout.symm.trans hout'

theorem pruned_capLoop {rounds : ℕ} {m : AuthChallengeManager} :
    m.challenges.Pruned (capLoop deviceId rounds m).1.challenges := by
  induction rounds generalizing m with
  | zero => exact .refl _
  | succ rounds ih =>
    rw [capLoop]
    split_ifs
    · exact .refl _
    · cases m.oldestKey deviceId with
      | none => exact .refl _
      | some oldest => exact (Table.pruned_erase _ oldest).trans ih

/-- **How an issue ends.** The cap has made room, and other devices keep what they can use. -/
theorem issue_cases {ttlMs : ℕ} {drawn : List Text}
    {result : AuthChallengeManager × Except ChallengeError AuthChallengeRecord}
    (h : m.issue deviceId nowMs ttlMs drawn = some result) :
    (∃ error, result = (m, .error error)) ∨
      ∃ (m' : AuthChallengeManager) (value : Text), value ∈ drawn ∧
        m'.challenges.lookup value = none ∧ m.challenges.Pruned m'.challenges ∧
        m'.challenges.countWhere (isOutstanding deviceId) < maxOutstandingPerDevice ∧
        (∀ key record, m.challenges.lookup key = some record → record.state = .active →
          nowMs < record.expiresAtMs → record.deviceId ≠ deviceId →
          m'.challenges.lookup key = some record) ∧
        result =
          (⟨m'.challenges.insert value (.new value deviceId nowMs (nowMs + ttlMs))⟩,
            .ok (.new value deviceId nowMs (nowMs + ttlMs))) := by
  rw [issue] at h
  split_ifs at h
  · exact .inl ⟨_, (Option.some.inj h).symm⟩
  · exact .inl ⟨_, (Option.some.inj h).symm⟩
  · obtain ⟨value, hfind, rfl⟩ := Option.map_eq_some_iff.mp h
    refine .inr ⟨_, value, List.mem_of_find?_eq_some hfind, ?_, ?_, ?_, ?_, rfl⟩
    · simpa using List.find?_some hfind
    · exact (m.pruned_pruneUnusableExcept nowMs none).trans (pruned_capLoop deviceId)
    · exact countWhere_capLoop_lt deviceId List.countP_le_length
    · intro key record hrecord hactive halive hdevice
      refine lookup_capLoop deviceId
        (m.lookup_pruneUnusableExcept_of_usable nowMs hrecord hactive halive) ?_
      simp [isOutstanding, hdevice]

/-- **How a consumption ends**: the challenge is used up, by the device it was issued to or by
another one, or the records are at most dropped. -/
theorem consume_cases :
    (∃ (m' : AuthChallengeManager) (record : AuthChallengeRecord),
        m.challenges.Pruned m'.challenges ∧ m.challenges.lookup challenge = some record ∧
        record.state = .active ∧ nowMs < record.expiresAtMs ∧
        m.consume deviceId challenge nowMs =
          (⟨m'.challenges.insert challenge
            { record with state := .consumed, consumedAtMs := some nowMs }⟩,
            if record.deviceId = deviceId then
              .ok { record with state := .consumed, consumedAtMs := some nowMs }
            else .error (.deviceMismatch record.deviceId deviceId))) ∨
      ∃ (m' : AuthChallengeManager) (error : ChallengeError), m.challenges.Pruned m'.challenges ∧
        (ChallengeAuthError.ofChallengeError error).beforeChallenge = true ∧
        m.consume deviceId challenge nowMs = (m', .error error) := by
  have hpruned := m.pruned_pruneUnusableExcept nowMs (some challenge)
  have hself := m.lookup_pruneUnusableExcept_self challenge nowMs
  rw [consume]
  split
  · exact .inr ⟨_, _, hpruned, rfl, rfl⟩
  · rename_i record hrecord
    split
    · exact .inr ⟨_, _, hpruned, rfl, rfl⟩
    · exact .inr ⟨_, _, hpruned, rfl, rfl⟩
    · rename_i hactive
      split_ifs with hexpired hdevice
      · exact .inr ⟨_, _, hpruned.trans (Table.pruned_erase _ challenge), rfl, rfl⟩
      · refine .inl ⟨_, record, hpruned, hself.symm.trans hrecord, hactive, ?_, ?_⟩
        · simpa [AuthChallengeRecord.isExpired] using hexpired
        · rw [if_neg hdevice]
      · refine .inl ⟨_, record, hpruned, hself.symm.trans hrecord, hactive, ?_, ?_⟩
        · simpa [AuthChallengeRecord.isExpired] using hexpired
        · rw [if_pos (not_not.mp hdevice)]

/-- **How a revocation ends.** -/
theorem revoke_cases :
    (∃ record, m.challenges.lookup challenge = some record ∧ record.state = .active ∧
        m.revoke deviceId challenge =
          (⟨m.challenges.insert challenge { record with state := .revoked }⟩, true)) ∨
      m.revoke deviceId challenge = (m, false) := by
  rw [revoke]
  split
  · exact .inr rfl
  · rename_i record hrecord
    split_ifs with hno
    · exact .inr rfl
    · rw [not_or, not_not, not_not] at hno
      exact .inl ⟨record, hrecord, hno.2, rfl⟩

end AuthChallengeManager

namespace ChallengeResponseService

variable (uuidText : ℕ → Text) (verify : Text → Text → Text → Bool) (s : ChallengeResponseService)

/-- The attempt reached a challenge. -/
def reached : Except ChallengeAuthError AuthenticatedDevice → Bool
  | .ok _ => true
  | .error error => !error.beforeChallenge

/-- **How an attempt ends**: it uses the challenge up, whether it succeeds or not, or it ends before
that; if it succeeds, everything was in order. -/
theorem authenticate_cases (payload : AuthPayload) (nowMs : ℕ) (store : TrustedDeviceStore) :
    (∃ m' record, s.challengeManager.challenges.Pruned m' ∧
        s.challengeManager.challenges.lookup payload.challenge = some record ∧
        record.state = .active ∧ nowMs < record.expiresAtMs ∧
        (s.authenticate uuidText verify payload nowMs store).1.challengeManager =
          ⟨m'.insert payload.challenge
            { record with state := .consumed, consumedAtMs := some nowMs }⟩ ∧
        reached (s.authenticate uuidText verify payload nowMs store).2.2 = true ∧
        ∀ device, (s.authenticate uuidText verify payload nowMs store).2.2 = .ok device →
          record.deviceId = payload.deviceId ∧
            ∃ trusted, store.lookup payload.deviceId = some trusted ∧
              device = ⟨payload.deviceId, trusted.publicKey, nowMs⟩ ∧
              verify trusted.publicKey
                ((AuthSigningInput.fromPayload payload s.daemonIdentity).toBytes uuidText)
                payload.signature = true) ∨
      (s.challengeManager.challenges.Pruned
          (s.authenticate uuidText verify payload nowMs store).1.challengeManager.challenges ∧
        reached (s.authenticate uuidText verify payload nowMs store).2.2 = false) := by
  rw [authenticate]
  cases htrusted : store.lookup payload.deviceId with
  | none => exact .inr ⟨.refl _, rfl⟩
  | some trusted =>
    have hpruned := s.challengeManager.pruned_pruneUnusableExcept nowMs (some payload.challenge)
    have hself := s.challengeManager.lookup_pruneUnusableExcept_self payload.challenge nowMs
    dsimp only
    rcases AuthChallengeManager.consume_cases
        (s.challengeManager.pruneUnusableExcept nowMs (some payload.challenge)).1 payload.deviceId
        payload.challenge nowMs with
      ⟨m', record, hpruned', hrecord, hactive, halive, hconsume⟩ | ⟨m', error, hpruned', herror, hconsume⟩
    · rw [hconsume]
      refine .inl ⟨m'.challenges, record, hpruned.trans hpruned', hself.symm.trans hrecord, hactive,
        halive, ?_⟩
      by_cases hdevice : record.deviceId = payload.deviceId
      · -- the challenge is the device's own, and what follows cannot bring it back
        rw [if_pos hdevice]
        dsimp only
        rcases s.replayProtector.check payload.deviceId payload.nonce payload.timestampMs nowMs with
          ⟨replayProtector, error | ⟨⟩⟩
        · refine ⟨rfl, ?_, fun device hok => by cases hok⟩
          cases error <;> rfl
        · have hseen : TrustedDeviceStore.markSeen store payload.deviceId nowMs =
              some (store.insert payload.deviceId { trusted with lastSeenAtMs := some nowMs }) := by
            rw [TrustedDeviceStore.markSeen, htrusted]
            rfl
          dsimp only
          rw [hseen]
          split_ifs with hverify
          · exact ⟨rfl, rfl, fun device hok => by cases hok⟩
          · refine ⟨rfl, rfl, fun device hok => ⟨hdevice, trusted, rfl, ?_, by simpa using hverify⟩⟩
            exact (Except.ok.inj hok).symm
      · rw [if_neg hdevice]
        exact ⟨rfl, rfl, fun device hok => by cases hok⟩
    · rw [hconsume]
      refine .inr ⟨hpruned.trans hpruned', ?_⟩
      simp [reached, herror]

end ChallengeResponseService

/-! ### Runs -/

inductive ChallengeOp
  | issueChallenge (deviceId : DeviceId) (nowMs ttlMs : ℕ) (drawn : List Text)
  | authenticate (payload : AuthPayload) (nowMs : ℕ)
  | revoke (deviceId : DeviceId) (challenge : Text)
  | pruneExpired (nowMs : ℕ)
  | trustDevice (deviceId : DeviceId) (publicKey : Text) (nowMs : ℕ)
  | revokeDevice (deviceId : DeviceId)

namespace ChallengeOp

/-- The time of a call; a call without a time happens at the time of the one before it. -/
def nowMs (clockMs : ℕ) : ChallengeOp → ℕ
  | issueChallenge _ nowMs _ _ => nowMs
  | authenticate _ nowMs => nowMs
  | revoke _ _ => clockMs
  | pruneExpired nowMs => nowMs
  | trustDevice _ _ nowMs => nowMs
  | revokeDevice _ => clockMs

/-- The random values of a call. -/
def draws : ChallengeOp → List Text
  | issueChallenge _ _ _ drawn => drawn
  | _ => []

end ChallengeOp

/-- What happened to a challenge: an attempt that reaches it passes the challenge check or fails it
because the challenge is another device's. -/
inductive ChallengeEvent
  | issued (challenge : Text) (deviceId : DeviceId) (expiresAtMs : ℕ)
  | reached (challenge : Text)
  | revoked (challenge : Text)
deriving DecidableEq

def ChallengeEvent.challenge : ChallengeEvent → Text
  | issued challenge _ _ => challenge
  | reached challenge => challenge
  | revoked challenge => challenge

/-- What happens when a challenge is issued. -/
def ChallengeEvent.ofIssue : Except ChallengeError AuthChallengeRecord → List ChallengeEvent
  | .ok record => [issued record.challenge record.deviceId record.expiresAtMs]
  | .error _ => []

/-- What happens when an attempt is made with a challenge. -/
def ChallengeEvent.ofConsume (challenge : Text) :
    Except ChallengeError AuthChallengeRecord → List ChallengeEvent
  | .ok _ | .error (.deviceMismatch _ _) => [reached challenge]
  | .error _ => []

/-- A service, the trusted devices, the clock, the random values drawn so far, and what happened, the
first event first. -/
structure ChallengeRun where
  service : ChallengeResponseService
  store : TrustedDeviceStore
  clockMs : ℕ
  drawn : List Text
  events : List ChallengeEvent

namespace ChallengeRun

def start (identity : DaemonPublicIdentity) (allowedClockSkewMs : ℕ) (store : TrustedDeviceStore) :
    ChallengeRun where
  service :=
    { daemonIdentity := identity, challengeManager := .new
      replayProtector := .new allowedClockSkewMs }
  store := store
  clockMs := 0
  drawn := []
  events := []

/-- The record of a challenge. -/
def record? (r : ChallengeRun) (challenge : Text) : Option AuthChallengeRecord :=
  r.service.challengeManager.challenges.lookup challenge

variable (uuidText : ℕ → Text) (verify : Text → Text → Text → Bool)

/-- What a call leaves behind, and what happened in it. -/
def call (s : ChallengeResponseService) (store : TrustedDeviceStore) :
    ChallengeOp → Option (ChallengeResponseService × TrustedDeviceStore × List ChallengeEvent)
  | .issueChallenge deviceId nowMs ttlMs drawn =>
    (s.challengeManager.issue deviceId nowMs ttlMs drawn).map fun
      | (challengeManager, .ok record) =>
        ({ s with challengeManager }, store,
          [.issued record.challenge record.deviceId record.expiresAtMs])
      | (challengeManager, .error _) => ({ s with challengeManager }, store, [])
  | .authenticate payload nowMs =>
    let (s, store, result) := s.authenticate uuidText verify payload nowMs store
    if ChallengeResponseService.reached result then some (s, store, [.reached payload.challenge])
    else some (s, store, [])
  | .revoke deviceId challenge =>
    match s.challengeManager.revoke deviceId challenge with
    | (challengeManager, true) => some ({ s with challengeManager }, store, [.revoked challenge])
    | (challengeManager, false) => some ({ s with challengeManager }, store, [])
  | .pruneExpired nowMs =>
    some ({ s with challengeManager := (s.challengeManager.pruneExpired nowMs).1 }, store, [])
  | .trustDevice deviceId publicKey nowMs =>
    some (s, TrustedDeviceStore.trustDevice store deviceId publicKey nowMs none, [])
  | .revokeDevice deviceId => some (s, store.erase deviceId, [])

/-- The random values are new and the clock has not gone back. -/
def Enabled (r : ChallengeRun) (op : ChallengeOp) : Prop :=
  r.clockMs ≤ op.nowMs r.clockMs ∧ op.nowMs r.clockMs < u64Limit ∧ op.draws.Nodup ∧
    ∀ value ∈ op.draws, value ∉ r.drawn
deriving Decidable

def step (r : ChallengeRun) (op : ChallengeOp) : Option ChallengeRun :=
  if r.Enabled op then
    (call uuidText verify r.service r.store op).map fun result =>
      { service := result.1
        store := result.2.1
        clockMs := op.nowMs r.clockMs
        drawn := r.drawn ++ op.draws
        events := r.events ++ result.2.2 }
  else none

end ChallengeRun

/-! ### One challenge -/

/-- **What a call can do to the record of a challenge.** The random values of the call are `new`. -/
inductive ChallengeChange (nowMs : ℕ) (new : Text → Prop) (challenge : Text) :
    Option AuthChallengeRecord → Option AuthChallengeRecord → List ChallengeEvent → Prop
  | keep (record : Option AuthChallengeRecord) : ChallengeChange nowMs new challenge record record []
  | drop (record : AuthChallengeRecord) : ChallengeChange nowMs new challenge (some record) none []
  | issue (old : Option AuthChallengeRecord) {deviceId : DeviceId} {expiresAtMs : ℕ}
      (fresh : new challenge) :
    ChallengeChange nowMs new challenge old (some (.new challenge deviceId nowMs expiresAtMs))
      [.issued challenge deviceId expiresAtMs]
  | reach {record : AuthChallengeRecord} (active : record.state = .active) :
    ChallengeChange nowMs new challenge (some record)
      (some { record with state := .consumed, consumedAtMs := some nowMs }) [.reached challenge]
  | revoke {record : AuthChallengeRecord} (active : record.state = .active) :
    ChallengeChange nowMs new challenge (some record) (some { record with state := .revoked })
      [.revoked challenge]

namespace ChallengeChange

variable {nowMs : ℕ} {new : Text → Prop} {challenge : Text} {old record? : Option AuthChallengeRecord}
  {events : List ChallengeEvent}

/-- A pruned record was kept or dropped. -/
theorem of_pruned {t t' : Table Text AuthChallengeRecord} (h : t.Pruned t') (nowMs : ℕ)
    (new : Text → Prop) (challenge : Text) :
    ChallengeChange nowMs new challenge (t.lookup challenge) (t'.lookup challenge) [] := by
  rcases h challenge with heq | hnone
  · rw [heq]
    exact .keep _
  · rw [hnone]
    cases t.lookup challenge with
    | none => exact .keep none
    | some record => exact .drop record

/-- A call that sets one record after the others were pruned. -/
theorem of_insert {t t' : Table Text AuthChallengeRecord} (h : t.Pruned t') {key : Text}
    {record : AuthChallengeRecord} {event : ChallengeEvent} (hevent : event.challenge = key)
    (hkey : ChallengeChange nowMs new key (t.lookup key) (some record) [event]) (challenge : Text) :
    ChallengeChange nowMs new challenge (t.lookup challenge) ((t'.insert key record).lookup challenge)
      ([event].filter (·.challenge = challenge)) := by
  by_cases hchallenge : challenge = key
  · subst hchallenge
    rw [AList.lookup_insert, List.filter_cons_of_pos (by simpa using hevent), List.filter_nil]
    exact hkey
  · rw [AList.lookup_insert_ne hchallenge, List.filter_cons_of_neg, List.filter_nil]
    · exact .of_pruned h nowMs new challenge
    · simpa [hevent] using Ne.symm hchallenge

/-- Nothing happens to a challenge that is no longer active. -/
theorem of_retired (h : ChallengeChange nowMs new challenge old record? events)
    (hnew : ¬new challenge) (hold : ∀ record, old = some record → record.state ≠ .active) :
    events = [] ∧ (record? = old ∨ record? = none) := by
  cases h with
  | keep => exact ⟨rfl, .inl rfl⟩
  | drop => exact ⟨rfl, .inr rfl⟩
  | issue _ fresh => exact absurd fresh hnew
  | reach active => exact absurd active (hold _ rfl)
  | revoke active => exact absurd active (hold _ rfl)

/-- A record is for the device and the time for which the challenge was issued. -/
theorem issued_of_record (h : ChallengeChange nowMs new challenge old record? events)
    {record : AuthChallengeRecord} (hrecord : record? = some record) :
    (∃ before, old = some before ∧ before.deviceId = record.deviceId ∧
        before.expiresAtMs = record.expiresAtMs) ∨
      .issued challenge record.deviceId record.expiresAtMs ∈ events := by
  cases h with
  | keep => exact .inl ⟨record, hrecord, rfl, rfl⟩
  | drop => cases hrecord
  | issue =>
    cases hrecord
    exact .inr (List.mem_singleton_self _)
  | reach | revoke =>
    cases hrecord
    exact .inl ⟨_, rfl, rfl, rfl⟩

theorem of_issued (h : ChallengeChange nowMs new challenge old record? events)
    {deviceId : DeviceId} {expiresAtMs : ℕ}
    (hissued : .issued challenge deviceId expiresAtMs ∈ events) : new challenge := by
  cases h <;> simp at hissued
  case issue fresh => exact fresh

/-- A challenge is reached while it is active, and it is not active after that. -/
theorem of_reached (h : ChallengeChange nowMs new challenge old record? events)
    (hreached : .reached challenge ∈ events) :
    (∃ before, old = some before ∧ before.state = .active) ∧
      ∃ record, record? = some record ∧ record.state = .consumed := by
  cases h <;> simp at hreached
  case reach before active => exact ⟨⟨before, rfl, active⟩, _, rfl, rfl⟩

theorem of_revoked (h : ChallengeChange nowMs new challenge old record? events)
    (hrevoked : .revoked challenge ∈ events) :
    (∃ before, old = some before) ∧ ∃ record, record? = some record ∧ record.state = .revoked := by
  cases h <;> simp at hrevoked
  case revoke before _ => exact ⟨⟨before, rfl⟩, _, rfl, rfl⟩

end ChallengeChange

namespace AuthChallengeManager

variable {m : AuthChallengeManager} {deviceId : DeviceId} {nowMs ttlMs : ℕ} {drawn : List Text}
  {new : Text → Prop}

/-- A record that is not active is not counted. -/
theorem countWhere_insert_retired {t t' : Table Text AuthChallengeRecord} (hpruned : t.Pruned t')
    {key : Text} {record : AuthChallengeRecord} (hno : isOutstanding deviceId key record = false) :
    Table.countWhere (t'.insert key record) (isOutstanding deviceId) ≤
      t.countWhere (isOutstanding deviceId) := by
  refine (Table.countWhere_insert_le t' key record _).trans ?_
  rw [hno]
  simpa using hpruned.countWhere_le

/-- What issuing a challenge does to the challenges, and to how many of a device are outstanding. -/
theorem change_of_issue
    {result : AuthChallengeManager × Except ChallengeError AuthChallengeRecord}
    (h : m.issue deviceId nowMs ttlMs drawn = some result) (hdrawn : ∀ value ∈ drawn, new value) :
    (∀ challenge, ChallengeChange nowMs new challenge (m.challenges.lookup challenge)
        (result.1.challenges.lookup challenge)
        ((ChallengeEvent.ofIssue result.2).filter (·.challenge = challenge))) ∧
      ∀ other, result.1.challenges.countWhere (isOutstanding other) ≤
          m.challenges.countWhere (isOutstanding other) ∨
        result.1.challenges.countWhere (isOutstanding other) ≤ maxOutstandingPerDevice := by
  rcases m.issue_cases deviceId nowMs h with
    ⟨error, rfl⟩ | ⟨m', value, hvalue, -, hpruned, hroom, -, rfl⟩
  · exact ⟨fun challenge => .keep _, fun other => .inl le_rfl⟩
  · refine ⟨fun challenge => .of_insert hpruned ?_ ?_ challenge, fun other => ?_⟩
    · rfl
    · exact .issue _ (hdrawn value hvalue)
    · by_cases hother : deviceId = other
      · -- there is room for one more
        subst hother
        refine .inr ((Table.countWhere_insert_le m'.challenges value _ _).trans ?_)
        have hle : (if isOutstanding deviceId value
            (.new value deviceId nowMs (nowMs + ttlMs)) then 1 else 0) ≤ 1 := by
          split_ifs <;> decide
        omega
      · refine .inl (countWhere_insert_retired hpruned ?_)
        simp [isOutstanding, AuthChallengeRecord.new, hother]

/-- What a consumption does to the challenges, and what its success says. -/
theorem change_of_consume (m : AuthChallengeManager) (deviceId : DeviceId) (challenge : Text)
    (nowMs : ℕ) (new : Text → Prop) :
    (∀ key, ChallengeChange nowMs new key (m.challenges.lookup key)
        ((m.consume deviceId challenge nowMs).1.challenges.lookup key)
        ((ChallengeEvent.ofConsume challenge (m.consume deviceId challenge nowMs).2).filter
          (·.challenge = key))) ∧
      (∀ other, (m.consume deviceId challenge nowMs).1.challenges.countWhere
          (isOutstanding other) ≤ m.challenges.countWhere (isOutstanding other)) ∧
      ∀ used, (m.consume deviceId challenge nowMs).2 = .ok used →
        ∃ record, m.challenges.lookup challenge = some record ∧ record.state = .active ∧
          nowMs < record.expiresAtMs ∧ record.deviceId = deviceId := by
  rcases m.consume_cases deviceId challenge nowMs with
    ⟨m', record, hpruned, hrecord, hactive, halive, hconsume⟩ | ⟨m', error, hpruned, hbefore, hconsume⟩
  · rw [hconsume]
    refine ⟨fun key => ?_, fun other => ?_, fun used hok => ⟨record, hrecord, hactive, halive, ?_⟩⟩
    · have hevents : ChallengeEvent.ofConsume challenge (if record.deviceId = deviceId then
          .ok { record with state := .consumed, consumedAtMs := some nowMs }
          else .error (.deviceMismatch record.deviceId deviceId)) = [.reached challenge] := by
        split_ifs <;> rfl
      rw [hevents]
      refine .of_insert hpruned ?_ ?_ key
      · rfl
      · rw [hrecord]
        exact .reach hactive
    · exact countWhere_insert_retired hpruned (by simp [isOutstanding])
    · by_contra hdevice
      rw [if_neg hdevice] at hok
      cases hok
  · rw [hconsume]
    refine ⟨fun key => ?_, fun other => hpruned.countWhere_le, fun used hok => by cases hok⟩
    have hevents : ChallengeEvent.ofConsume challenge (.error error) = [] := by
      cases error with
      | deviceMismatch => cases hbefore
      | _ => rfl
    rw [hevents]
    exact .of_pruned hpruned nowMs new key

end AuthChallengeManager

namespace ChallengeRun

variable {uuidText : ℕ → Text} {verify : Text → Text → Text → Bool} {r r' : ChallengeRun}
  {op : ChallengeOp}

/-- What a call does to the record of a challenge. At most one thing happens in a call. -/
theorem change_of_call {s s' : ChallengeResponseService} {store store' : TrustedDeviceStore}
    {clockMs : ℕ} {events : List ChallengeEvent} {new : Text → Prop}
    (hcall : call uuidText verify s store op = some (s', store', events))
    (hdraws : ∀ value ∈ op.draws, new value) :
    events.length ≤ 1 ∧ ∀ challenge,
      ChallengeChange (op.nowMs clockMs) new challenge
        (s.challengeManager.challenges.lookup challenge)
        (s'.challengeManager.challenges.lookup challenge)
        (events.filter (·.challenge = challenge)) := by
  cases op with
  | issueChallenge deviceId nowMs ttlMs drawn =>
    obtain ⟨result, hissue, hresult⟩ := Option.map_eq_some_iff.mp hcall
    have hchange := (AuthChallengeManager.change_of_issue hissue hdraws).1
    obtain ⟨m', error | record⟩ := result
    · cases hresult
      exact ⟨Nat.zero_le 1, hchange⟩
    · cases hresult
      exact ⟨le_rfl, hchange⟩
  | authenticate payload nowMs =>
    simp only [call] at hcall
    rcases s.authenticate_cases uuidText verify payload nowMs store with
      ⟨m', record, hpruned, hrecord, hactive, -, hmanager, hreached, -⟩ | ⟨hpruned, hreached⟩
    · rw [if_pos hreached] at hcall
      cases hcall
      rw [hmanager]
      refine ⟨le_rfl, fun challenge => .of_insert hpruned ?_ ?_ challenge⟩
      · rfl
      · rw [hrecord]
        exact .reach hactive
    · rw [if_neg (by simp [hreached])] at hcall
      cases hcall
      exact ⟨Nat.zero_le 1, fun challenge => .of_pruned hpruned _ _ challenge⟩
  | revoke deviceId challenge =>
    simp only [call] at hcall
    rcases s.challengeManager.revoke_cases deviceId challenge with
      ⟨record, hrecord, hactive, hrevoke⟩ | hrevoke
    · rw [hrevoke] at hcall
      cases hcall
      refine ⟨le_rfl, fun challenge => .of_insert (.refl _) ?_ ?_ challenge⟩
      · rfl
      · rw [hrecord]
        exact .revoke hactive
    · rw [hrevoke] at hcall
      cases hcall
      exact ⟨Nat.zero_le 1, fun challenge => .keep _⟩
  | pruneExpired nowMs =>
    cases hcall
    refine ⟨Nat.zero_le 1, fun challenge => .of_pruned ?_ _ _ challenge⟩
    refine Table.pruned_retain fun key record => ?_
    split_ifs
    · exact .inl rfl
    · exact .inr rfl
  | trustDevice deviceId publicKey nowMs =>
    cases hcall
    exact ⟨Nat.zero_le 1, fun challenge => .keep _⟩
  | revokeDevice deviceId =>
    cases hcall
    exact ⟨Nat.zero_le 1, fun challenge => .keep _⟩

theorem change_of_step (hstep : r.step uuidText verify op = some r') :
    ∃ events, r'.events = r.events ++ events ∧ r'.drawn = r.drawn ++ op.draws ∧
      events.length ≤ 1 ∧ ∀ challenge,
        ChallengeChange (op.nowMs r.clockMs) (fun value => value ∈ op.draws ∧ value ∉ r.drawn)
          challenge (r.record? challenge) (r'.record? challenge)
          (events.filter (·.challenge = challenge)) := by
  rw [step] at hstep
  split_ifs at hstep with henabled
  obtain ⟨⟨s', store', events⟩, hcall, rfl⟩ := Option.map_eq_some_iff.mp hstep
  obtain ⟨hone, hchange⟩ := change_of_call hcall fun value hvalue =>
    (⟨hvalue, henabled.2.2.2 value hvalue⟩ : value ∈ op.draws ∧ value ∉ r.drawn)
  exact ⟨events, rfl, rfl, hone, hchange⟩

/-! ### The cap of a device -/

/-- The number of outstanding challenges of a device. -/
def outstanding (r : ChallengeRun) (deviceId : DeviceId) : ℕ :=
  r.service.challengeManager.challenges.countWhere (AuthChallengeManager.isOutstanding deviceId)

/-- What a call does to the number of outstanding challenges of a device: it does not grow, or the
call has made room for one more. -/
theorem outstanding_call {s s' : ChallengeResponseService} {store store' : TrustedDeviceStore}
    {events : List ChallengeEvent}
    (hcall : call uuidText verify s store op = some (s', store', events)) (deviceId : DeviceId) :
    s'.challengeManager.challenges.countWhere (AuthChallengeManager.isOutstanding deviceId) ≤
        s.challengeManager.challenges.countWhere (AuthChallengeManager.isOutstanding deviceId) ∨
      s'.challengeManager.challenges.countWhere (AuthChallengeManager.isOutstanding deviceId) ≤
        AuthChallengeManager.maxOutstandingPerDevice := by
  cases op with
  | issueChallenge deviceId' nowMs ttlMs drawn =>
    obtain ⟨result, hissue, hresult⟩ := Option.map_eq_some_iff.mp hcall
    have hcount := (AuthChallengeManager.change_of_issue hissue
      fun _ _ => trivial).2 deviceId
    obtain ⟨m', error | record⟩ := result <;>
    · cases hresult
      exact hcount
  | authenticate payload nowMs =>
    simp only [call] at hcall
    rcases s.authenticate_cases uuidText verify payload nowMs store with
      ⟨m', record, hpruned, -, -, -, hmanager, hreached, -⟩ | ⟨hpruned, hreached⟩
    · rw [if_pos hreached] at hcall
      cases hcall
      rw [hmanager]
      exact .inl (AuthChallengeManager.countWhere_insert_retired hpruned
        (by simp [AuthChallengeManager.isOutstanding]))
    · rw [if_neg (by simp [hreached])] at hcall
      cases hcall
      exact .inl hpruned.countWhere_le
  | revoke deviceId' challenge =>
    simp only [call] at hcall
    rcases s.challengeManager.revoke_cases deviceId' challenge with
      ⟨record, -, -, hrevoke⟩ | hrevoke
    · rw [hrevoke] at hcall
      cases hcall
      exact .inl (AuthChallengeManager.countWhere_insert_retired (.refl _)
        (by simp [AuthChallengeManager.isOutstanding]))
    · rw [hrevoke] at hcall
      cases hcall
      exact .inl le_rfl
  | pruneExpired nowMs =>
    cases hcall
    refine .inl (Table.Pruned.countWhere_le (Table.pruned_retain fun key record => ?_))
    split_ifs
    · exact .inl rfl
    · exact .inr rfl
  | trustDevice deviceId publicKey nowMs =>
    cases hcall
    exact .inl le_rfl
  | revokeDevice deviceId =>
    cases hcall
    exact .inl le_rfl

/-- **The cap** is kept by every step. -/
theorem outstanding_step (h : ∀ deviceId, r.outstanding deviceId ≤
      AuthChallengeManager.maxOutstandingPerDevice)
    (hstep : r.step uuidText verify op = some r') (deviceId : DeviceId) :
    r'.outstanding deviceId ≤ AuthChallengeManager.maxOutstandingPerDevice := by
  rw [step] at hstep
  split_ifs at hstep
  obtain ⟨⟨s', store', events⟩, hcall, rfl⟩ := Option.map_eq_some_iff.mp hstep
  rcases outstanding_call hcall deviceId with hle | hle
  · exact hle.trans (h deviceId)
  · exact hle

/-! ### The history of a challenge -/

/-- The challenge was drawn and its record, if it is still there, is not active. -/
def Spent (r : ChallengeRun) (challenge : Text) : Prop :=
  challenge ∈ r.drawn ∧ ∀ record, r.record? challenge = some record → record.state ≠ .active

/-- What is spent stays spent, whatever changes the record. -/
theorem Spent.of_change {challenge : Text} (h : r.Spent challenge) {nowMs : ℕ} {draws : List Text}
    {events : List ChallengeEvent} (hdrawn : r'.drawn = r.drawn ++ draws)
    (hchange : ChallengeChange nowMs (fun value => value ∈ draws ∧ value ∉ r.drawn) challenge
      (r.record? challenge) (r'.record? challenge) events) : r'.Spent challenge := by
  refine ⟨hdrawn ▸ List.mem_append_left _ h.1, fun record hrecord => ?_⟩
  obtain ⟨-, hsame | hnone⟩ := hchange.of_retired (fun hnew => hnew.2 h.1) h.2
  · exact h.2 record (hsame.symm.trans hrecord)
  · cases hnone.symm.trans hrecord

/-- An attempt reaches a challenge that no earlier attempt has reached and that is not revoked. -/
def MayFollow (before after : ChallengeEvent) : Prop :=
  ∀ challenge, after = .reached challenge → before ≠ .reached challenge ∧ before ≠ .revoked challenge

/-- The history of the challenges and their records. -/
structure Invariant (r : ChallengeRun) : Prop where
  issued_of_record : ∀ challenge record, r.record? challenge = some record →
    .issued challenge record.deviceId record.expiresAtMs ∈ r.events
  drawn_of_issued : ∀ challenge deviceId expiresAtMs,
    .issued challenge deviceId expiresAtMs ∈ r.events → challenge ∈ r.drawn
  spent_of_reached : ∀ challenge, .reached challenge ∈ r.events → r.Spent challenge
  spent_of_revoked : ∀ challenge, .revoked challenge ∈ r.events → r.Spent challenge
  ordered : r.events.Pairwise MayFollow
  capped : ∀ deviceId, r.outstanding deviceId ≤ AuthChallengeManager.maxOutstandingPerDevice

theorem invariant_start (identity : DaemonPublicIdentity) (allowedClockSkewMs : ℕ)
    (store : TrustedDeviceStore) : (start identity allowedClockSkewMs store).Invariant where
  issued_of_record _ _ h := by cases h
  drawn_of_issued _ _ _ h := by cases h
  spent_of_reached _ h := by cases h
  spent_of_revoked _ h := by cases h
  ordered := .nil
  capped _ := Nat.zero_le _

/-- **The invariant is kept** by everything that changes each record in one of the five ways and
keeps the cap. -/
theorem Invariant.of_change (h : r.Invariant) (nowMs : ℕ) {draws : List Text}
    {events : List ChallengeEvent} (hevents : r'.events = r.events ++ events)
    (hdrawn : r'.drawn = r.drawn ++ draws) (hone : events.length ≤ 1)
    (hchange : ∀ challenge,
      ChallengeChange nowMs (fun value => value ∈ draws ∧ value ∉ r.drawn) challenge
        (r.record? challenge) (r'.record? challenge) (events.filter (·.challenge = challenge)))
    (hcapped : ∀ deviceId, r'.outstanding deviceId ≤
      AuthChallengeManager.maxOutstandingPerDevice) : r'.Invariant := by
  have hdrawn_mono {value : Text} (hvalue : value ∈ r.drawn) : value ∈ r'.drawn :=
    hdrawn ▸ List.mem_append_left _ hvalue
  -- an event is an old one, or the change of its challenge tells it
  have hcases {event : ChallengeEvent} (hevent : event ∈ r'.events) :
      event ∈ r.events ∨ event ∈ events.filter (·.challenge = event.challenge) := by
    rw [hevents, List.mem_append] at hevent
    exact hevent.imp_right fun hnew => List.mem_filter.mpr ⟨hnew, by simp⟩
  have hknown {challenge : Text} {record : AuthChallengeRecord}
      (hrecord : r.record? challenge = some record) : challenge ∈ r.drawn :=
    h.drawn_of_issued challenge _ _ (h.issued_of_record challenge record hrecord)
  refine
    { issued_of_record := fun challenge record hrecord => ?_
      drawn_of_issued := fun challenge deviceId expiresAtMs hissued => ?_
      spent_of_reached := fun challenge hreached => ?_
      spent_of_revoked := fun challenge hrevoked => ?_
      ordered := ?_
      capped := hcapped }
  · rw [hevents]
    rcases (hchange challenge).issued_of_record hrecord with ⟨before, hbefore, hdevice, hexpires⟩ | hnew
    · rw [← hdevice, ← hexpires]
      exact List.mem_append_left _ (h.issued_of_record challenge before hbefore)
    · exact List.mem_append_right _ (List.mem_of_mem_filter hnew)
  · rcases hcases hissued with hold | hnew
    · exact hdrawn_mono (h.drawn_of_issued challenge _ _ hold)
    · exact hdrawn ▸ List.mem_append_right _ ((hchange challenge).of_issued hnew).1
  · rcases hcases hreached with hold | hnew
    · exact (h.spent_of_reached challenge hold).of_change hdrawn (hchange challenge)
    · obtain ⟨⟨before, hbefore, -⟩, record, hrecord, hconsumed⟩ := (hchange challenge).of_reached hnew
      refine ⟨hdrawn_mono (hknown hbefore), fun record' hrecord' => ?_⟩
      cases hrecord.symm.trans hrecord'
      simp [hconsumed]
  · rcases hcases hrevoked with hold | hnew
    · exact (h.spent_of_revoked challenge hold).of_change hdrawn (hchange challenge)
    · obtain ⟨⟨before, hbefore⟩, record, hrecord, hstate⟩ := (hchange challenge).of_revoked hnew
      refine ⟨hdrawn_mono (hknown hbefore), fun record' hrecord' => ?_⟩
      cases hrecord.symm.trans hrecord'
      simp [hstate]
  · rw [hevents, List.pairwise_append]
    refine ⟨h.ordered, ?_, fun before hbefore after hafter challenge hreached => ?_⟩
    · -- a call with one event
      match events, hone with
      | [], _ => exact .nil
      | [event], _ => exact List.pairwise_singleton _ event
    · subst hreached
      have hnew : .reached challenge ∈ events.filter (·.challenge = challenge) :=
        List.mem_filter.mpr ⟨hafter, by simp [ChallengeEvent.challenge]⟩
      obtain ⟨⟨record, hrecord, hactive⟩, -⟩ := (hchange challenge).of_reached hnew
      constructor
      · rintro rfl
        exact (h.spent_of_reached challenge hbefore).2 record hrecord hactive
      · rintro rfl
        exact (h.spent_of_revoked challenge hbefore).2 record hrecord hactive

/-- **The invariant** of every step. -/
theorem Invariant.step (h : r.Invariant) (hstep : r.step uuidText verify op = some r') :
    r'.Invariant := by
  obtain ⟨events, hevents, hdrawn, hone, hchange⟩ := change_of_step hstep
  exact h.of_change _ hevents hdrawn hone hchange (outstanding_step h.capped hstep)

/-! ### Soundness -/

/-- **Soundness of the authentication**, in a state that a run has reached. -/
structure Sound (uuidText : ℕ → Text) (verify : Text → Text → Text → Bool) (r : ChallengeRun) :
    Prop where
  /-- A success is for a trusted device, with a challenge that was issued to it, has not expired and
  was neither revoked nor reached before, and with a good signature. -/
  authenticated : ∀ payload nowMs device,
    (r.service.authenticate uuidText verify payload nowMs r.store).2.2 = .ok device →
      (∃ expiresAtMs, .issued payload.challenge payload.deviceId expiresAtMs ∈ r.events ∧
        nowMs < expiresAtMs) ∧
      .revoked payload.challenge ∉ r.events ∧ .reached payload.challenge ∉ r.events ∧
      ∃ trusted, r.store.lookup payload.deviceId = some trusted ∧
        device = ⟨payload.deviceId, trusted.publicKey, nowMs⟩ ∧
        verify trusted.publicKey
          ((AuthSigningInput.fromPayload payload r.service.daemonIdentity).toBytes uuidText)
          payload.signature = true
  /-- The signed bytes are those of no other payload. -/
  signed : ∀ payload payload' : AuthPayload,
    (AuthSigningInput.fromPayload payload r.service.daemonIdentity).toBytes uuidText =
        (AuthSigningInput.fromPayload payload' r.service.daemonIdentity).toBytes uuidText →
      uuidText payload.deviceId = uuidText payload'.deviceId ∧
        payload.challenge = payload'.challenge ∧ payload.nonce = payload'.nonce ∧
        payload.timestampMs = payload'.timestampMs
  /-- An attempt that gets beyond the challenge check, or fails it because the challenge is another
  device's, is an event of its step. -/
  reached : ∀ payload nowMs r', r.step uuidText verify (.authenticate payload nowMs) = some r' →
    ChallengeResponseService.reached
        (r.service.authenticate uuidText verify payload nowMs r.store).2.2 = true →
    r'.events = r.events ++ [.reached payload.challenge]
  /-- A challenge is reached at most once, and not after it was revoked. -/
  once : ∀ before challenge after, r.events = before ++ .reached challenge :: after →
    .reached challenge ∉ before ∧ .revoked challenge ∉ before
  capped : ∀ deviceId, r.outstanding deviceId ≤ AuthChallengeManager.maxOutstandingPerDevice
  /-- Issuing a challenge takes none from another device. -/
  isolated : ∀ deviceId nowMs ttlMs drawn r',
    r.step uuidText verify (.issueChallenge deviceId nowMs ttlMs drawn) = some r' →
    ∀ challenge record, r.record? challenge = some record → record.state = .active →
      nowMs < record.expiresAtMs → record.deviceId ≠ deviceId →
      r'.record? challenge = some record

/-- **Every run of the service is sound.** -/
theorem sound_of_run (uuidText : ℕ → Text) (verify : Text → Text → Text → Bool)
    (identity : DaemonPublicIdentity) (allowedClockSkewMs : ℕ) (store : TrustedDeviceStore)
    (ops : List ChallengeOp) (r : ChallengeRun)
    (hrun : exec (step uuidText verify) (start identity allowedClockSkewMs store) ops = some r) :
    Sound uuidText verify r := by
  have h : r.Invariant := exec_induction (fun _ _ _ h hstep => h.step hstep)
    (invariant_start identity allowedClockSkewMs store) hrun
  refine
    { authenticated := fun payload nowMs device hok => ?_
      signed := fun payload payload' hbytes => ?_
      reached := fun payload nowMs r' hstep hreached => ?_
      once := fun before challenge after heq => ?_
      capped := h.capped
      isolated := fun deviceId nowMs ttlMs drawn r' hstep challenge record hrecord hactive halive
        hdevice => ?_ }
  · rcases r.service.authenticate_cases uuidText verify payload nowMs r.store with
      ⟨m', record, -, hrecord, hactive, halive, -, -, hsuccess⟩ | ⟨-, hreached⟩
    · obtain ⟨hdevice, trusted, htrusted, hresult, hverify⟩ := hsuccess device hok
      refine ⟨⟨record.expiresAtMs, hdevice ▸ h.issued_of_record _ record hrecord, halive⟩, ?_, ?_,
        trusted, htrusted, hresult, hverify⟩
      · intro hrevoked
        exact (h.spent_of_revoked _ hrevoked).2 record hrecord hactive
      · intro hreached
        exact (h.spent_of_reached _ hreached).2 record hrecord hactive
    · rw [hok] at hreached
      cases hreached
  · obtain ⟨-, -, hdevice, hchallenge, hnonce, htimestamp⟩ := AuthSigningInput.toBytes_inj uuidText hbytes
    exact ⟨hdevice, hchallenge, hnonce, htimestamp⟩
  · rw [step] at hstep
    split_ifs at hstep
    obtain ⟨result, hcall, rfl⟩ := Option.map_eq_some_iff.mp hstep
    simp only [call] at hcall
    rw [if_pos hreached] at hcall
    cases hcall
    rfl
  · have hordered := h.ordered
    rw [heq, List.pairwise_append] at hordered
    have hfollows (event : ChallengeEvent) (hevent : event ∈ before) :=
      hordered.2.2 event hevent _ List.mem_cons_self challenge rfl
    exact ⟨fun hmem => (hfollows _ hmem).1 rfl, fun hmem => (hfollows _ hmem).2 rfl⟩
  · rw [step] at hstep
    split_ifs at hstep
    obtain ⟨result, hcall, rfl⟩ := Option.map_eq_some_iff.mp hstep
    obtain ⟨issued, hissue, hresult⟩ := Option.map_eq_some_iff.mp hcall
    rcases r.service.challengeManager.issue_cases deviceId nowMs hissue with
      ⟨error, rfl⟩ | ⟨m', value, -, hfree, -, -, hkeep, rfl⟩
    · cases hresult
      exact hrecord
    · cases hresult
      have hkept := hkeep challenge record hrecord hactive halive hdevice
      change (m'.challenges.insert value _).lookup challenge = some record
      rw [AList.lookup_insert_ne]
      · exact hkept
      · rintro rfl
        cases hfree.symm.trans hkept

/-- A device that answers its challenge. -/
def answered : List ChallengeOp :=
  [.trustDevice 1 [5] 10, .issueChallenge 1 20 100 [[7]],
    .authenticate { deviceId := 1, challenge := [7], nonce := [8], timestampMs := 25, signature := [] }
      30]

theorem sound_answered :
    ∃ r, exec (step (fun n => [UInt8.ofNat n]) fun _ _ _ => true) (start ⟨0, []⟩ 10 ∅) answered =
        some r ∧ .reached [7] ∈ r.events ∧ Sound (fun n => [UInt8.ofNat n]) (fun _ _ _ => true) r :=
  ⟨_, rfl, by decide, sound_of_run _ _ ⟨0, []⟩ 10 ∅ answered _ rfl⟩

end ChallengeRun

end Termd.Auth
