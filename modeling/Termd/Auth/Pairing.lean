import Termd.Auth.Replay

/-!
# Pairing tokens

A pairing token is a short-lived secret that a device trades for the daemon's trust. The trade has
two phases: a request *reserves* the token, the relay is asked to register the device, and the
reservation is then committed or released. The value that the caller holds in between names the
reservation by a random id; it can be kept, copied and used at any later time.

## What a token goes through

Every call is compared with what it does to the record of *one* token (`TokenChange`). The records of
other tokens are at most pruned. From this relation each of the guarantees below is read off by
cases, and none of them looks into the calls again.

Random values are arguments of the calls: `drawn` is the list of values a call draws until one is
not in use. A call is enabled when its draws are new and the clock has not gone back.

## Main definitions

* `PairingTokenManager`, `PairingService`: the operations
* `PairingRun`: a service with the clock, the values drawn so far and what happened
* `TokenChange`: what a call does to one record
* `PendingPairing.Superseded`: a reservation that is over

## Main results

* `PairingRun.change_of_step`: every call does one of these things to a record
* `PairingRun.Invariant.step`: the history of a token and its record
-/

namespace Termd.Auth

inductive PairingError
  | invalidToken
  | expiredToken (expiresAtMs nowMs : ℕ)
  | alreadyUsedToken
  | reservedToken
  | revokedToken
  | invalidDevicePublicKey
  | invalidTtl (ttlMs : ℕ)

inductive PairingTokenState
  | active
  | reserved
  | consumed
  | revoked
deriving DecidableEq

structure PairingTokenRecord where
  token : Text
  issuedAtMs : ℕ
  expiresAtMs : ℕ
  state : PairingTokenState
  consumedAtMs : Option ℕ
  reservationId : Option Text

namespace PairingTokenRecord

def new (token : Text) (issuedAtMs expiresAtMs : ℕ) : PairingTokenRecord where
  token := token
  issuedAtMs := issuedAtMs
  expiresAtMs := expiresAtMs
  state := .active
  consumedAtMs := none
  reservationId := none

def isExpired (record : PairingTokenRecord) (nowMs : ℕ) : Bool := record.expiresAtMs ≤ nowMs

end PairingTokenRecord

structure PairingTokenManager where
  tokens : Table Text PairingTokenRecord

namespace PairingTokenManager

variable (m : PairingTokenManager) (token : Text) (nowMs : ℕ)

def new : PairingTokenManager := ⟨∅⟩

def pruneExpiredExcept (protectedKey : Option Text) : PairingTokenManager × ℕ :=
  let kept := m.tokens.retain fun key record =>
    if protectedKey = some key ∨ record.isExpired nowMs = false then some record else none
  (⟨kept⟩, m.tokens.entries.length - kept.entries.length)

def pruneExpired : PairingTokenManager × ℕ := m.pruneExpiredExcept nowMs none

/-- `drawn` are the tokens that the loop generates; when all of them are in use it goes on. -/
def issue (ttlMs : ℕ) (drawn : List Text) :
    Option (PairingTokenManager × Except PairingError PairingTokenRecord) :=
  if ttlMs = 0 then some (m, .error (.invalidTtl ttlMs))
  else if u64Limit ≤ nowMs + ttlMs then some (m, .error (.invalidTtl ttlMs))
  else
    let m := (m.pruneExpired nowMs).1
    (drawn.find? fun token => (m.tokens.lookup token).isNone).map fun token =>
      let record := PairingTokenRecord.new token nowMs (nowMs + ttlMs)
      (⟨m.tokens.insert token record⟩, .ok record)

/-- The checks that `consume` and `reserve_pair_request` begin with: the record of an active token
that is not expired. An expired token is removed. -/
def requireActive : PairingTokenManager × Except PairingError PairingTokenRecord :=
  let m := (m.pruneExpiredExcept nowMs (some token)).1
  match m.tokens.lookup token with
  | none => (m, .error .invalidToken)
  | some record =>
    match record.state with
    | .reserved => (m, .error .reservedToken)
    | .consumed => (m, .error .alreadyUsedToken)
    | .revoked => (m, .error .revokedToken)
    | .active =>
      if record.isExpired nowMs then
        (⟨m.tokens.erase token⟩, .error (.expiredToken record.expiresAtMs nowMs))
      else (m, .ok record)

def consume : PairingTokenManager × Except PairingError PairingTokenRecord :=
  match m.requireActive token nowMs with
  | (m, .error error) => (m, .error error)
  | (m, .ok record) =>
    let record := { record with state := .consumed, consumedAtMs := some nowMs }
    (⟨m.tokens.insert token record⟩, .ok record)

def revoke : PairingTokenManager × Bool :=
  match m.tokens.lookup token with
  | none => (m, false)
  | some record =>
    if record.state = .consumed ∨ record.state = .revoked then (m, false)
    else (⟨m.tokens.insert token { record with state := .revoked, reservationId := none }⟩, true)

end PairingTokenManager

structure PairRequestPayload where
  deviceId : DeviceId
  devicePublicKey : Text
  token : Text

structure PairAcceptPayload where
  serverId : ℕ
  daemonPublicKey : Text
  deviceId : DeviceId
  expiresAtMs : ℕ
deriving DecidableEq

/-- A pairing that passed the token check and is not committed. -/
structure PendingPairing where
  accepted : PairAcceptPayload
  deviceId : DeviceId
  devicePublicKey : Text
  tokenKey : Text
  reservationId : Text
deriving DecidableEq

/-- The answer to a request, and the reservation it stands for. -/
def PendingPairing.ofRequest (identity : DaemonPublicIdentity) (request : PairRequestPayload)
    (expiresAtMs : ℕ) (reservationId : Text) : PendingPairing where
  accepted :=
    { serverId := identity.serverId
      daemonPublicKey := identity.publicKey
      deviceId := request.deviceId
      expiresAtMs := expiresAtMs }
  deviceId := request.deviceId
  devicePublicKey := request.devicePublicKey
  tokenKey := request.token
  reservationId := reservationId

@[simp] theorem PendingPairing.tokenKey_ofRequest (identity : DaemonPublicIdentity)
    (request : PairRequestPayload) (expiresAtMs : ℕ) (reservationId : Text) :
    (ofRequest identity request expiresAtMs reservationId).tokenKey = request.token := rfl

@[simp] theorem PendingPairing.reservationId_ofRequest (identity : DaemonPublicIdentity)
    (request : PairRequestPayload) (expiresAtMs : ℕ) (reservationId : Text) :
    (ofRequest identity request expiresAtMs reservationId).reservationId = reservationId := rfl

structure PairingService where
  tokenManager : PairingTokenManager

namespace PairingService

variable (validKey : Text → Bool) (identity : DaemonPublicIdentity) (s : PairingService)

/-- `reservationId` is the random id of the reservation; `validKey` is the check of the wire form of
a public key. -/
def reservePairRequest (request : PairRequestPayload) (nowMs : ℕ) (reservationId : Text) :
    PairingService × Except PairingError PendingPairing :=
  if validKey request.devicePublicKey = false then (s, .error .invalidDevicePublicKey)
  else match s.tokenManager.requireActive request.token nowMs with
    | (m, .error error) => (⟨m⟩, .error error)
    | (m, .ok record) =>
      let record := { record with state := .reserved, reservationId := some reservationId }
      (⟨⟨m.tokens.insert request.token record⟩⟩,
        .ok (.ofRequest identity request record.expiresAtMs reservationId))

def releasePairingReservation (pending : PendingPairing) : PairingService × Bool :=
  match s.tokenManager.tokens.lookup pending.tokenKey with
  | none => (s, false)
  | some record =>
    if record.state ≠ .reserved ∨ record.reservationId ≠ some pending.reservationId then (s, false)
    else
      (⟨⟨s.tokenManager.tokens.insert pending.tokenKey
        { record with state := .active, reservationId := none }⟩⟩, true)

def commitPairingReservation (pending : PendingPairing) (nowMs : ℕ) :
    PairingService × Except PairingError PairingTokenRecord :=
  match s.tokenManager.tokens.lookup pending.tokenKey with
  | none => (s, .error .invalidToken)
  | some record =>
    match record.state with
    | .active => (s, .error .invalidToken)
    | .consumed => (s, .error .alreadyUsedToken)
    | .revoked => (s, .error .revokedToken)
    | .reserved =>
      if record.reservationId ≠ some pending.reservationId then (s, .error .reservedToken)
      else if record.isExpired nowMs then
        (⟨⟨s.tokenManager.tokens.insert pending.tokenKey
          { record with state := .active, reservationId := none }⟩⟩,
          .error (.expiredToken record.expiresAtMs nowMs))
      else
        let record :=
          { record with state := .consumed, reservationId := none, consumedAtMs := some nowMs }
        (⟨⟨s.tokenManager.tokens.insert pending.tokenKey record⟩⟩, .ok record)

def consumePairRequest (request : PairRequestPayload) (nowMs : ℕ) (reservationId : Text) :
    PairingService × Except PairingError PendingPairing :=
  match s.reservePairRequest validKey identity request nowMs reservationId with
  | (s, .error error) => (s, .error error)
  | (s, .ok pending) =>
    match s.commitPairingReservation pending nowMs with
    | (s, .error error) => (s, .error error)
    | (s, .ok _) => (s, .ok pending)

end PairingService

/-! ### What the checks leave behind -/

namespace PairingTokenManager

variable {m m' : PairingTokenManager} {token : Text} {nowMs : ℕ}

/-- Records were dropped, and none changed. -/
def Pruned (m m' : PairingTokenManager) : Prop := Table.Pruned m.tokens m'.tokens

theorem pruned_pruneExpiredExcept (m : PairingTokenManager) (nowMs : ℕ)
    (protectedKey : Option Text) : m.Pruned (m.pruneExpiredExcept nowMs protectedKey).1 := by
  refine Table.pruned_retain fun key record => ?_
  split_ifs
  · exact .inl rfl
  · exact .inr rfl

theorem lookup_pruneExpiredExcept_self (m : PairingTokenManager) (nowMs : ℕ) (token : Text) :
    (m.pruneExpiredExcept nowMs (some token)).1.tokens.lookup token = m.tokens.lookup token := by
  rw [pruneExpiredExcept, Table.lookup_retain]
  cases m.tokens.lookup token <;> simp

/-- **How the checks end**: with the record of an active token that is not expired, or with an
error; in both cases other records are at most dropped. -/
theorem requireActive_cases (m : PairingTokenManager) (token : Text) (nowMs : ℕ) :
    (∃ m' record, m.requireActive token nowMs = (m', .ok record) ∧ m.Pruned m' ∧
        m.tokens.lookup token = some record ∧ record.state = .active ∧
        nowMs < record.expiresAtMs) ∨
      ∃ m' error, m.requireActive token nowMs = (m', .error error) ∧ m.Pruned m' := by
  have hpruned := m.pruned_pruneExpiredExcept nowMs (some token)
  have hself := m.lookup_pruneExpiredExcept_self nowMs token
  rw [requireActive]
  split
  · exact .inr ⟨_, _, rfl, hpruned⟩
  · rename_i record hrecord
    split
    · exact .inr ⟨_, _, rfl, hpruned⟩
    · exact .inr ⟨_, _, rfl, hpruned⟩
    · exact .inr ⟨_, _, rfl, hpruned⟩
    · rename_i hactive
      split_ifs with hexpired
      · -- the expired token itself is removed
        exact .inr ⟨_, _, rfl, hpruned.trans (Table.pruned_erase _ token)⟩
      · refine .inl ⟨_, record, rfl, hpruned, hself.symm.trans hrecord, hactive, ?_⟩
        simpa [PairingTokenRecord.isExpired] using hexpired

end PairingTokenManager

namespace PairingService

variable (s : PairingService) (pending : PendingPairing) (nowMs : ℕ)

/-- The token is reserved under the id of that reservation. -/
def Holds (record : PairingTokenRecord) : Prop :=
  s.tokenManager.tokens.lookup pending.tokenKey = some record ∧ record.state = .reserved ∧
    record.reservationId = some pending.reservationId

/-- **How a release ends.** -/
theorem releasePairingReservation_cases :
    (∃ record, s.Holds pending record ∧
        s.releasePairingReservation pending =
          (⟨⟨s.tokenManager.tokens.insert pending.tokenKey
            { record with state := .active, reservationId := none }⟩⟩, true)) ∨
      ((∀ record, ¬s.Holds pending record) ∧ s.releasePairingReservation pending = (s, false)) := by
  rw [releasePairingReservation]
  split
  · rename_i hnone
    refine .inr ⟨fun record hholds => ?_, rfl⟩
    cases hnone.symm.trans hholds.1
  · rename_i record hrecord
    split_ifs with hno
    · refine .inr ⟨fun record' hholds => ?_, rfl⟩
      cases hrecord.symm.trans hholds.1
      exact hno.elim (fun h => h hholds.2.1) fun h => h hholds.2.2
    · rw [not_or, not_not, not_not] at hno
      exact .inl ⟨record, ⟨hrecord, hno⟩, rfl⟩

/-- **How a commit ends.** -/
theorem commitPairingReservation_cases :
    (∃ record, s.Holds pending record ∧ nowMs < record.expiresAtMs ∧
        s.commitPairingReservation pending nowMs =
          (⟨⟨s.tokenManager.tokens.insert pending.tokenKey
            { record with
              state := .consumed, reservationId := none, consumedAtMs := some nowMs }⟩⟩,
            .ok { record with
              state := .consumed, reservationId := none, consumedAtMs := some nowMs })) ∨
      (∃ record, s.Holds pending record ∧ record.expiresAtMs ≤ nowMs ∧
        s.commitPairingReservation pending nowMs =
          (⟨⟨s.tokenManager.tokens.insert pending.tokenKey
            { record with state := .active, reservationId := none }⟩⟩,
            .error (.expiredToken record.expiresAtMs nowMs))) ∨
      ((∀ record, ¬s.Holds pending record) ∧
        ∃ error, (∀ expiresAtMs nowMs', error ≠ .expiredToken expiresAtMs nowMs') ∧
          s.commitPairingReservation pending nowMs = (s, .error error)) := by
  rw [commitPairingReservation]
  split
  · rename_i hnone
    refine .inr (.inr ⟨fun record hholds => ?_, _, by simp, rfl⟩)
    cases hnone.symm.trans hholds.1
  · rename_i record hrecord
    -- a reservation is held only in the state `reserved`
    have hfree (hstate : record.state ≠ .reserved) : ∀ record', ¬s.Holds pending record' := by
      intro record' hholds
      cases hrecord.symm.trans hholds.1
      exact hstate hholds.2.1
    split
    · rename_i hstate
      exact .inr (.inr ⟨hfree (by simp [hstate]), _, by simp, rfl⟩)
    · rename_i hstate
      exact .inr (.inr ⟨hfree (by simp [hstate]), _, by simp, rfl⟩)
    · rename_i hstate
      exact .inr (.inr ⟨hfree (by simp [hstate]), _, by simp, rfl⟩)
    · rename_i hstate
      split_ifs with hid hexpired
      · refine .inr (.inr ⟨fun record' hholds => ?_, _, by simp, rfl⟩)
        cases hrecord.symm.trans hholds.1
        exact hid hholds.2.2
      · refine .inr (.inl ⟨record, ⟨hrecord, hstate, not_not.mp hid⟩, ?_, rfl⟩)
        simpa [PairingTokenRecord.isExpired] using hexpired
      · refine .inl ⟨record, ⟨hrecord, hstate, not_not.mp hid⟩, ?_, rfl⟩
        simpa [PairingTokenRecord.isExpired] using hexpired

variable (validKey : Text → Bool) (identity : DaemonPublicIdentity) (request : PairRequestPayload)
  (reservationId : Text)

/-- **How a reservation ends.** -/
theorem reservePairRequest_cases :
    (∃ m record, s.tokenManager.Pruned m ∧
        s.tokenManager.tokens.lookup request.token = some record ∧ record.state = .active ∧
        nowMs < record.expiresAtMs ∧
        s.reservePairRequest validKey identity request nowMs reservationId =
          (⟨⟨m.tokens.insert request.token
            { record with state := .reserved, reservationId := some reservationId }⟩⟩,
            .ok (.ofRequest identity request record.expiresAtMs reservationId))) ∨
      ∃ m error, s.tokenManager.Pruned m ∧
        s.reservePairRequest validKey identity request nowMs reservationId = (⟨m⟩, .error error) := by
  rw [reservePairRequest]
  split_ifs
  · exact .inr ⟨_, _, .refl _, rfl⟩
  · rcases s.tokenManager.requireActive_cases request.token nowMs with
      ⟨m, record, hactive, hpruned, hrecord, hstate, halive⟩ | ⟨m, error, herror, hpruned⟩
    · exact .inl ⟨m, record, hpruned, hrecord, hstate, halive, by rw [hactive]⟩
    · exact .inr ⟨m, error, hpruned, by rw [herror]⟩

/-- **How a reservation with a commit at once ends**: the commit does not fail. -/
theorem consumePairRequest_cases :
    (∃ m record, s.tokenManager.Pruned m ∧
        s.tokenManager.tokens.lookup request.token = some record ∧ record.state = .active ∧
        nowMs < record.expiresAtMs ∧
        s.consumePairRequest validKey identity request nowMs reservationId =
          (⟨⟨m.tokens.insert request.token
            { record with
              state := .consumed, reservationId := none, consumedAtMs := some nowMs }⟩⟩,
            .ok (.ofRequest identity request record.expiresAtMs reservationId))) ∨
      ∃ m error, s.tokenManager.Pruned m ∧
        s.consumePairRequest validKey identity request nowMs reservationId = (⟨m⟩, .error error) := by
  rw [consumePairRequest]
  rcases s.reservePairRequest_cases nowMs validKey identity request reservationId with
    ⟨m, record, hpruned, hrecord, hstate, halive, hreserve⟩ | ⟨m, error, hpruned, hreserve⟩
  · refine .inl ⟨m, record, hpruned, hrecord, hstate, halive, ?_⟩
    rw [hreserve]
    have halive' : PairingTokenRecord.isExpired
        { record with state := .reserved, reservationId := some reservationId } nowMs = false := by
      simpa [PairingTokenRecord.isExpired] using halive
    simp only [commitPairingReservation, PendingPairing.tokenKey_ofRequest, AList.lookup_insert,
      PendingPairing.reservationId_ofRequest, ne_eq, not_true_eq_false, if_false, halive',
      Bool.false_eq_true, AList.insert_insert]
  · exact .inr ⟨m, error, hpruned, by rw [hreserve]⟩

end PairingService

/-! ### Runs -/

inductive PairingOp
  | issueToken (nowMs ttlMs : ℕ) (drawn : List Text)
  | reservePairRequest (request : PairRequestPayload) (nowMs : ℕ) (reservationId : Text)
  | releasePairingReservation (pending : PendingPairing)
  | commitPairingReservation (pending : PendingPairing) (nowMs : ℕ)
  | consume (token : Text) (nowMs : ℕ)
  | consumePairRequest (request : PairRequestPayload) (nowMs : ℕ) (reservationId : Text)
  | revoke (token : Text)
  | pruneExpired (nowMs : ℕ)

namespace PairingOp

/-- The time of a call; a call without a time happens at the time of the one before it. -/
def nowMs (clockMs : ℕ) : PairingOp → ℕ
  | issueToken nowMs _ _ => nowMs
  | reservePairRequest _ nowMs _ => nowMs
  | releasePairingReservation _ => clockMs
  | commitPairingReservation _ nowMs => nowMs
  | consume _ nowMs => nowMs
  | consumePairRequest _ nowMs _ => nowMs
  | revoke _ => clockMs
  | pruneExpired nowMs => nowMs

/-- The random values of a call. -/
def draws : PairingOp → List Text
  | issueToken _ _ drawn => drawn
  | reservePairRequest _ _ reservationId => [reservationId]
  | consumePairRequest _ _ reservationId => [reservationId]
  | _ => []

/-- The reservation that the caller holds. -/
def pending? : PairingOp → Option PendingPairing
  | releasePairingReservation pending => some pending
  | commitPairingReservation pending _ => some pending
  | _ => none

end PairingOp

/-- What happened to a token. A token is used when it is consumed or a reservation of it is
committed. -/
inductive PairingEvent
  | issued (token : Text) (expiresAtMs : ℕ)
  | reserved (pending : PendingPairing)
  | released (pending : PendingPairing)
  | used (token : Text) (nowMs : ℕ)
  | revoked (token : Text)
deriving DecidableEq

def PairingEvent.token : PairingEvent → Text
  | issued token _ => token
  | reserved pending => pending.tokenKey
  | released pending => pending.tokenKey
  | used token _ => token
  | revoked token => token

@[simp] theorem PairingEvent.token_reserved (pending : PendingPairing) :
    (reserved pending).token = pending.tokenKey := rfl

@[simp] theorem PairingEvent.token_used (token : Text) (nowMs : ℕ) :
    (used token nowMs).token = token := rfl

/-- A service, the clock, the random values drawn so far, and what happened, the first event
first. -/
structure PairingRun where
  service : PairingService
  clockMs : ℕ
  drawn : List Text
  events : List PairingEvent

namespace PairingRun

def start : PairingRun where
  service := ⟨.new⟩
  clockMs := 0
  drawn := []
  events := []

/-- The record of a token. -/
def record? (r : PairingRun) (token : Text) : Option PairingTokenRecord :=
  r.service.tokenManager.tokens.lookup token

variable (validKey : Text → Bool) (identity : DaemonPublicIdentity)

/-- What a call leaves behind, and what happened in it. -/
def call (s : PairingService) : PairingOp → Option (PairingService × List PairingEvent)
  | .issueToken nowMs ttlMs drawn =>
    (s.tokenManager.issue nowMs ttlMs drawn).map fun
      | (m, .ok record) => (⟨m⟩, [.issued record.token record.expiresAtMs])
      | (m, .error _) => (⟨m⟩, [])
  | .reservePairRequest request nowMs reservationId =>
    match s.reservePairRequest validKey identity request nowMs reservationId with
    | (s, .ok pending) => some (s, [.reserved pending])
    | (s, .error _) => some (s, [])
  | .releasePairingReservation pending =>
    match s.releasePairingReservation pending with
    | (s, true) => some (s, [.released pending])
    | (s, false) => some (s, [])
  | .commitPairingReservation pending nowMs =>
    match s.commitPairingReservation pending nowMs with
    | (s, .ok _) => some (s, [.used pending.tokenKey nowMs])
    -- a commit that comes too late gives the reservation up
    | (s, .error (.expiredToken _ _)) => some (s, [.released pending])
    | (s, .error _) => some (s, [])
  | .consume token nowMs =>
    match s.tokenManager.consume token nowMs with
    | (m, .ok _) => some (⟨m⟩, [.used token nowMs])
    | (m, .error _) => some (⟨m⟩, [])
  | .consumePairRequest request nowMs reservationId =>
    match s.consumePairRequest validKey identity request nowMs reservationId with
    | (s, .ok pending) => some (s, [.reserved pending, .used request.token nowMs])
    | (s, .error _) => some (s, [])
  | .revoke token =>
    match s.tokenManager.revoke token with
    | (m, true) => some (⟨m⟩, [.revoked token])
    | (m, false) => some (⟨m⟩, [])
  | .pruneExpired nowMs => some (⟨(s.tokenManager.pruneExpired nowMs).1⟩, [])

/-- The random values are new, the clock has not gone back, and a reservation is one that was
handed out. -/
def Enabled (r : PairingRun) (op : PairingOp) : Prop :=
  r.clockMs ≤ op.nowMs r.clockMs ∧ op.nowMs r.clockMs < u64Limit ∧ op.draws.Nodup ∧
    (∀ value ∈ op.draws, value ∉ r.drawn) ∧
    ∀ pending ∈ op.pending?, .reserved pending ∈ r.events
deriving Decidable

def step (r : PairingRun) (op : PairingOp) : Option PairingRun :=
  if r.Enabled op then
    (call validKey identity r.service op).map fun result =>
      { service := result.1
        clockMs := op.nowMs r.clockMs
        drawn := r.drawn ++ op.draws
        events := r.events ++ result.2 }
  else none

end PairingRun

/-! ### One token

What a call does to the record of one token, with the events of the call that are about it. -/

/-- **What a call can do to a record.** The random values of the call are `new`. -/
inductive TokenChange (nowMs : ℕ) (new : Text → Prop) (token : Text) :
    Option PairingTokenRecord → Option PairingTokenRecord → List PairingEvent → Prop
  | keep (record : Option PairingTokenRecord) : TokenChange nowMs new token record record []
  | drop (record : PairingTokenRecord) : TokenChange nowMs new token (some record) none []
  | issue (old : Option PairingTokenRecord) {expiresAtMs : ℕ} (fresh : new token) :
    TokenChange nowMs new token old (some (.new token nowMs expiresAtMs)) [.issued token expiresAtMs]
  | reserve {record : PairingTokenRecord} (pending : PendingPairing) (active : record.state = .active)
      (fresh : new pending.reservationId) (key : pending.tokenKey = token) :
    TokenChange nowMs new token (some record)
      (some { record with state := .reserved, reservationId := some pending.reservationId })
      [.reserved pending]
  | release {record : PairingTokenRecord} {pending : PendingPairing}
      (reserved : record.state = .reserved)
      (id : record.reservationId = some pending.reservationId) (key : pending.tokenKey = token) :
    TokenChange nowMs new token (some record)
      (some { record with state := .active, reservationId := none }) [.released pending]
  | commit {record : PairingTokenRecord} (reserved : record.state = .reserved)
      (alive : nowMs < record.expiresAtMs) :
    TokenChange nowMs new token (some record)
      (some { record with
        state := .consumed, reservationId := none, consumedAtMs := some nowMs })
      [.used token nowMs]
  | consume {record : PairingTokenRecord} (active : record.state = .active)
      (alive : nowMs < record.expiresAtMs) :
    TokenChange nowMs new token (some record)
      (some { record with state := .consumed, consumedAtMs := some nowMs }) [.used token nowMs]
  | pair {record : PairingTokenRecord} (pending : PendingPairing) (active : record.state = .active)
      (alive : nowMs < record.expiresAtMs) (fresh : new pending.reservationId)
      (key : pending.tokenKey = token) :
    TokenChange nowMs new token (some record)
      (some { record with
        state := .consumed, reservationId := none, consumedAtMs := some nowMs })
      [.reserved pending, .used token nowMs]
  | revoke {record : PairingTokenRecord} (usable : record.state = .active ∨ record.state = .reserved) :
    TokenChange nowMs new token (some record)
      (some { record with state := .revoked, reservationId := none }) [.revoked token]

/-- A pruned record was kept or dropped. -/
theorem TokenChange.of_pruned {m m' : PairingTokenManager} (h : m.Pruned m') (nowMs : ℕ)
    (new : Text → Prop) (token : Text) :
    TokenChange nowMs new token (m.tokens.lookup token) (m'.tokens.lookup token) [] := by
  rcases h token with heq | hnone
  · rw [heq]
    exact .keep _
  · rw [hnone]
    cases m.tokens.lookup token with
    | none => exact .keep none
    | some record => exact .drop record

/-- A call that sets one record after the others were pruned. -/
theorem TokenChange.of_insert {m m' : PairingTokenManager} (h : m.Pruned m') {nowMs : ℕ}
    {new : Text → Prop} {key : Text} {record : PairingTokenRecord} {events : List PairingEvent}
    (hevents : ∀ event ∈ events, event.token = key)
    (hkey : TokenChange nowMs new key (m.tokens.lookup key) (some record) events) (token : Text) :
    TokenChange nowMs new token (m.tokens.lookup token) ((m'.tokens.insert key record).lookup token)
      (events.filter (·.token = token)) := by
  by_cases htoken : token = key
  · subst htoken
    rw [AList.lookup_insert, List.filter_eq_self.mpr (by simpa using hevents)]
    exact hkey
  · rw [AList.lookup_insert_ne htoken, List.filter_eq_nil_iff.mpr]
    · exact .of_pruned h nowMs new token
    · intro event hevent
      simpa [hevents event hevent] using Ne.symm htoken

namespace PairingRun

variable {validKey : Text → Bool} {identity : DaemonPublicIdentity} {r r' : PairingRun}
  {op : PairingOp}

/-- What a call does to the record of a token. -/
theorem change_of_call {s s' : PairingService} {clockMs : ℕ} {events : List PairingEvent}
    {new : Text → Prop} (hcall : call validKey identity s op = some (s', events))
    (hdraws : ∀ value ∈ op.draws, new value) (token : Text) :
    TokenChange (op.nowMs clockMs) new token (s.tokenManager.tokens.lookup token)
      (s'.tokenManager.tokens.lookup token) (events.filter (·.token = token)) := by
  cases op with
  | issueToken nowMs ttlMs candidates =>
    simp only [call, PairingTokenManager.issue] at hcall
    split_ifs at hcall
    · cases hcall
      exact .keep _
    · cases hcall
      exact .keep _
    · simp only [Option.map_map, Option.map_eq_some_iff, Function.comp] at hcall
      obtain ⟨value, hvalue, hcall⟩ := hcall
      cases hcall
      refine .of_insert (s.tokenManager.pruned_pruneExpiredExcept nowMs none) (fun event hevent => ?_)
        ?_ token
      · obtain rfl := List.mem_singleton.mp hevent
        rfl
      · exact .issue _ (hdraws value (List.mem_of_find?_eq_some hvalue))
  | reservePairRequest request nowMs reservationId =>
    simp only [call] at hcall
    rcases s.reservePairRequest_cases nowMs validKey identity request reservationId with
      ⟨m, record, hpruned, hrecord, hstate, -, hreserve⟩ | ⟨m, error, hpruned, hreserve⟩
    · rw [hreserve] at hcall
      cases hcall
      refine .of_insert hpruned (by simp [PairingEvent.token]) ?_ token
      rw [hrecord]
      refine .reserve (.ofRequest identity request record.expiresAtMs reservationId) hstate ?_ rfl
      exact hdraws reservationId (List.mem_singleton_self reservationId)
    · rw [hreserve] at hcall
      cases hcall
      exact .of_pruned hpruned _ _ token
  | releasePairingReservation pending =>
    simp only [call] at hcall
    rcases s.releasePairingReservation_cases pending with
      ⟨record, ⟨hrecord, hstate, hid⟩, hrelease⟩ | ⟨-, hrelease⟩
    · rw [hrelease] at hcall
      cases hcall
      refine .of_insert (.refl _) (by simp [PairingEvent.token]) ?_ token
      rw [hrecord]
      exact .release hstate hid rfl
    · rw [hrelease] at hcall
      cases hcall
      exact .keep _
  | commitPairingReservation pending nowMs =>
    simp only [call] at hcall
    rcases s.commitPairingReservation_cases pending nowMs with
      ⟨record, ⟨hrecord, hstate, -⟩, halive, hcommit⟩ |
      ⟨record, ⟨hrecord, hstate, hid⟩, -, hcommit⟩ | ⟨-, error, herror, hcommit⟩
    · rw [hcommit] at hcall
      cases hcall
      refine .of_insert (.refl _) (by simp [PairingEvent.token]) ?_ token
      rw [hrecord]
      exact .commit hstate halive
    · rw [hcommit] at hcall
      cases hcall
      refine .of_insert (.refl _) (by simp [PairingEvent.token]) ?_ token
      rw [hrecord]
      exact .release hstate hid rfl
    · rw [hcommit] at hcall
      cases error with
      | expiredToken expiresAtMs nowMs' => exact absurd rfl (herror expiresAtMs nowMs')
      | _ =>
        cases hcall
        exact .keep _
  | consume token' nowMs =>
    simp only [call, PairingTokenManager.consume] at hcall
    rcases s.tokenManager.requireActive_cases token' nowMs with
      ⟨m, record, hactive, hpruned, hrecord, hstate, halive⟩ | ⟨m, error, herror, hpruned⟩
    · rw [hactive] at hcall
      cases hcall
      refine .of_insert hpruned (by simp [PairingEvent.token]) ?_ token
      rw [hrecord]
      exact .consume hstate halive
    · rw [herror] at hcall
      cases hcall
      exact .of_pruned hpruned _ _ token
  | consumePairRequest request nowMs reservationId =>
    simp only [call] at hcall
    rcases s.consumePairRequest_cases nowMs validKey identity request reservationId with
      ⟨m, record, hpruned, hrecord, hstate, halive, hconsume⟩ | ⟨m, error, hpruned, hconsume⟩
    · rw [hconsume] at hcall
      cases hcall
      refine .of_insert hpruned (by simp [PairingEvent.token]) ?_ token
      rw [hrecord]
      refine .pair (.ofRequest identity request record.expiresAtMs reservationId) hstate halive ?_ rfl
      exact hdraws reservationId (List.mem_singleton_self reservationId)
    · rw [hconsume] at hcall
      cases hcall
      exact .of_pruned hpruned _ _ token
  | revoke token' =>
    simp only [call, PairingTokenManager.revoke] at hcall
    cases hrecord : s.tokenManager.tokens.lookup token' with
    | none =>
      rw [hrecord] at hcall
      cases hcall
      exact .keep _
    | some record =>
      rw [hrecord] at hcall
      dsimp only at hcall
      split_ifs at hcall with hover
      · cases hcall
        exact .keep _
      · cases hcall
        refine .of_insert (.refl _) (by simp [PairingEvent.token]) ?_ token
        rw [hrecord]
        refine .revoke ?_
        rw [not_or] at hover
        cases hstate : record.state with
        | active => exact .inl rfl
        | reserved => exact .inr rfl
        | consumed => exact absurd hstate hover.1
        | revoked => exact absurd hstate hover.2
  | pruneExpired nowMs =>
    cases hcall
    exact .of_pruned (s.tokenManager.pruned_pruneExpiredExcept nowMs none) _ _ token

/-- **What a step does**: it appends to what was drawn and to what happened, and every record goes
through a change that the events of its token tell. -/
theorem change_of_step (hstep : r.step validKey identity op = some r') :
    ∃ events, r'.events = r.events ++ events ∧ r'.drawn = r.drawn ++ op.draws ∧
      ∀ token, TokenChange (op.nowMs r.clockMs) (fun value => value ∈ op.draws ∧ value ∉ r.drawn)
        token (r.record? token) (r'.record? token) (events.filter (·.token = token)) := by
  rw [step] at hstep
  split_ifs at hstep with henabled
  obtain ⟨⟨s', events⟩, hcall, rfl⟩ := Option.map_eq_some_iff.mp hstep
  exact ⟨events, rfl, rfl, change_of_call hcall fun value hvalue =>
    ⟨hvalue, henabled.2.2.2.1 value hvalue⟩⟩

/-! ### The history of a token -/

end PairingRun

/-- A token that can no longer be used. -/
def PairingTokenState.Retired (state : PairingTokenState) : Prop :=
  state = .consumed ∨ state = .revoked

/-- A use comes after no use and no revocation of the same token. -/
def PairingEvent.MayFollow (before after : PairingEvent) : Prop :=
  ∀ token nowMs, after = .used token nowMs →
    (∀ nowMs', before ≠ .used token nowMs') ∧ before ≠ .revoked token

/-- The event ends the reservation: it is released, the token is used or revoked, or the token is
reserved once more. -/
inductive PendingPairing.EndedBy (pending : PendingPairing) : PairingEvent → Prop
  | released : EndedBy pending (.released pending)
  | used (nowMs : ℕ) : EndedBy pending (.used pending.tokenKey nowMs)
  | revoked : EndedBy pending (.revoked pending.tokenKey)
  | replaced (pending' : PendingPairing) (key : pending'.tokenKey = pending.tokenKey) :
    EndedBy pending (.reserved pending')

/-- The reservation was made and is over. -/
def PendingPairing.Superseded (events : List PairingEvent) (pending : PendingPairing) : Prop :=
  ∃ before event after, events = before ++ event :: after ∧ .reserved pending ∈ before ∧
    pending.EndedBy event

namespace TokenChange

variable {nowMs : ℕ} {new : Text → Prop} {token : Text} {old record? : Option PairingTokenRecord}
  {events : List PairingEvent}

/-- Nothing happens to a retired token. -/
theorem of_retired (h : TokenChange nowMs new token old record? events) (hnew : ¬new token)
    (hold : ∀ record, old = some record → record.state.Retired) :
    events = [] ∧ (record? = old ∨ record? = none) := by
  cases h with
  | keep => exact ⟨rfl, .inl rfl⟩
  | drop => exact ⟨rfl, .inr rfl⟩
  | issue _ fresh => exact absurd fresh hnew
  | reserve _ active => simpa [PairingTokenState.Retired, active] using hold _ rfl
  | release reserved => simpa [PairingTokenState.Retired, reserved] using hold _ rfl
  | commit reserved => simpa [PairingTokenState.Retired, reserved] using hold _ rfl
  | consume active => simpa [PairingTokenState.Retired, active] using hold _ rfl
  | pair _ active => simpa [PairingTokenState.Retired, active] using hold _ rfl
  | revoke usable =>
    rcases usable with h | h <;> simpa [PairingTokenState.Retired, h] using hold _ rfl

/-- A record expires when the token was issued to expire. -/
theorem issued_of_record (h : TokenChange nowMs new token old record? events)
    {record : PairingTokenRecord} (hrecord : record? = some record) :
    (∃ before, old = some before ∧ before.expiresAtMs = record.expiresAtMs) ∨
      .issued token record.expiresAtMs ∈ events := by
  cases h with
  | keep => exact .inl ⟨record, hrecord, rfl⟩
  | drop => cases hrecord
  | issue =>
    cases hrecord
    exact .inr (List.mem_singleton_self _)
  | reserve | release | commit | consume | pair | revoke =>
    cases hrecord
    exact .inl ⟨_, rfl, rfl⟩

/-- Only a token that is new is issued. -/
theorem of_issued (h : TokenChange nowMs new token old record? events) {expiresAtMs : ℕ}
    (hissued : .issued token expiresAtMs ∈ events) :
    new token ∧ events = [.issued token expiresAtMs] := by
  cases h <;> simp at hissued
  case issue fresh => exact ⟨fresh, by rw [hissued]⟩

theorem of_reserved (h : TokenChange nowMs new token old record? events)
    {pending : PendingPairing} (hreserved : .reserved pending ∈ events) :
    new pending.reservationId := by
  cases h <;> simp at hreserved
  case reserve fresh _ => exact hreserved ▸ fresh
  case pair fresh _ => exact hreserved ▸ fresh

/-- A token is used while it is usable and before it expires. -/
theorem of_used (h : TokenChange nowMs new token old record? events) {nowMs' : ℕ}
    (hused : .used token nowMs' ∈ events) :
    (∃ before, old = some before ∧ ¬before.state.Retired ∧ nowMs' < before.expiresAtMs) ∧
      ∃ record, record? = some record ∧ record.state = .consumed := by
  cases h <;> simp at hused
  case commit before reserved alive =>
    exact ⟨⟨before, rfl, by simp [PairingTokenState.Retired, reserved], hused ▸ alive⟩, _, rfl, rfl⟩
  case consume before active alive =>
    exact ⟨⟨before, rfl, by simp [PairingTokenState.Retired, active], hused ▸ alive⟩, _, rfl, rfl⟩
  case pair before _ active alive _ _ =>
    exact ⟨⟨before, rfl, by simp [PairingTokenState.Retired, active], hused ▸ alive⟩, _, rfl, rfl⟩

theorem of_revoked (h : TokenChange nowMs new token old record? events)
    (hrevoked : .revoked token ∈ events) :
    (∃ before, old = some before) ∧ ∃ record, record? = some record ∧ record.state = .revoked := by
  cases h <;> simp at hrevoked
  case revoke => exact ⟨⟨_, rfl⟩, _, rfl, rfl⟩

/-- The events of one call are in order. -/
theorem ordered (h : TokenChange nowMs new token old record? events) :
    events.Pairwise PairingEvent.MayFollow := by
  cases h <;> simp [PairingEvent.MayFollow]

/-- A reservation is held because it was held before, or because it is new. -/
theorem of_holds (h : TokenChange nowMs new token old record? events)
    {record : PairingTokenRecord} {id : Text} (hrecord : record? = some record)
    (hstate : record.state = .reserved) (hid : record.reservationId = some id) :
    (old = some record ∧ events = []) ∨ (new id ∧ events.length = 1) := by
  cases h with
  | keep => exact .inl ⟨hrecord, rfl⟩
  | drop => cases hrecord
  | issue | release | commit | consume | pair | revoke =>
    cases hrecord
    cases hstate
  | reserve pending _ fresh =>
    cases hrecord
    obtain rfl := Option.some.inj hid
    exact .inr ⟨fresh, rfl⟩

end TokenChange

namespace PairingRun

variable {validKey : Text → Bool} {identity : DaemonPublicIdentity} {r r' : PairingRun}
  {op : PairingOp}

/-- The token was drawn and its record, if it is still there, is retired. -/
def Spent (r : PairingRun) (token : Text) : Prop :=
  token ∈ r.drawn ∧ ∀ record, r.record? token = some record → record.state.Retired

/-- The history of the tokens and their records. -/
structure Invariant (r : PairingRun) : Prop where
  issued_of_record : ∀ token record, r.record? token = some record →
    .issued token record.expiresAtMs ∈ r.events
  drawn_of_issued : ∀ token expiresAtMs, .issued token expiresAtMs ∈ r.events → token ∈ r.drawn
  drawn_of_reserved : ∀ pending, .reserved pending ∈ r.events → pending.reservationId ∈ r.drawn
  issued_unique : ∀ token expiresAtMs expiresAtMs', .issued token expiresAtMs ∈ r.events →
    .issued token expiresAtMs' ∈ r.events → expiresAtMs = expiresAtMs'
  used_alive : ∀ token nowMs, .used token nowMs ∈ r.events →
    ∃ expiresAtMs, .issued token expiresAtMs ∈ r.events ∧ nowMs < expiresAtMs
  spent_of_used : ∀ token nowMs, .used token nowMs ∈ r.events → r.Spent token
  spent_of_revoked : ∀ token, .revoked token ∈ r.events → r.Spent token
  ordered : r.events.Pairwise PairingEvent.MayFollow
  ended : ∀ pending, pending.Superseded r.events → ∀ record, ¬r.service.Holds pending record

/-- What is spent stays spent. -/
theorem Spent.step {token : Text} (h : r.Spent token)
    (hstep : r.step validKey identity op = some r') : r'.Spent token := by
  obtain ⟨events, -, hdrawn, hchange⟩ := change_of_step hstep
  refine ⟨hdrawn ▸ List.mem_append_left _ h.1, fun record hrecord => ?_⟩
  obtain ⟨-, hsame | hnone⟩ := (hchange token).of_retired (fun hnew => hnew.2 h.1) h.2
  · exact h.2 record (hsame.symm.trans hrecord)
  · cases hnone.symm.trans hrecord

/-- An event of a step is an event of the change of its token. -/
theorem mem_filter_token {events : List PairingEvent} {event : PairingEvent} (h : event ∈ events) :
    event ∈ events.filter (·.token = event.token) :=
  List.mem_filter.mpr ⟨h, by simp⟩

/-- An event that ends the reservation is about its token. -/
theorem endedBy_token_eq {pending : PendingPairing}
    {event : PairingEvent} (h : pending.EndedBy event) : event.token = pending.tokenKey := by
  cases h with
  | released | used | revoked => rfl
  | replaced _ key => exact key

/-- A reservation that is over was over before, or it is ended by one of the last events. -/
theorem superseded_append {pending : PendingPairing} {before events : List PairingEvent}
    (h : pending.Superseded (before ++ events)) :
    pending.Superseded before ∨ ∃ pre event post, events = pre ++ event :: post ∧
      .reserved pending ∈ before ++ pre ∧ pending.EndedBy event := by
  obtain ⟨pre, event, post, heq, hmem, hended⟩ := h
  rw [List.append_eq_append_iff] at heq
  rcases heq with ⟨rest, rfl, hevents⟩ | ⟨rest, hbefore, hevents⟩
  · exact .inr ⟨rest, event, post, hevents, hmem, hended⟩
  · cases rest with
    | nil =>
      rw [List.append_nil] at hbefore
      exact .inr ⟨[], event, post, hevents.symm, by simpa [hbefore] using hmem, hended⟩
    | cons first rest =>
      obtain ⟨rfl, -⟩ := List.cons.inj hevents
      exact .inl ⟨pre, event, rest, hbefore, hmem, hended⟩

theorem invariant_start : start.Invariant where
  issued_of_record _ _ h := by cases h
  drawn_of_issued _ _ h := by cases h
  drawn_of_reserved _ h := by cases h
  issued_unique _ _ _ h := by cases h
  used_alive _ _ h := by cases h
  spent_of_used _ _ h := by cases h
  spent_of_revoked _ h := by cases h
  ordered := .nil
  ended := by
    rintro _ ⟨before, event, after, heq, -⟩
    simp [start] at heq

/-- **The invariant** of every step. -/
theorem Invariant.step (h : r.Invariant) (hstep : r.step validKey identity op = some r') :
    r'.Invariant := by
  obtain ⟨events, hevents, hdrawn, hchange⟩ := change_of_step hstep
  have hdrawn_mono {value : Text} (hvalue : value ∈ r.drawn) : value ∈ r'.drawn :=
    hdrawn ▸ List.mem_append_left _ hvalue
  have hevents_mono {event : PairingEvent} (hevent : event ∈ r.events) : event ∈ r'.events :=
    hevents ▸ List.mem_append_left _ hevent
  have hcases {event : PairingEvent} (hevent : event ∈ r'.events) :
      event ∈ r.events ∨ event ∈ events.filter (·.token = event.token) := by
    rw [hevents, List.mem_append] at hevent
    exact hevent.imp_right mem_filter_token
  -- a token with a record is not new
  have hknown {token : Text} {record : PairingTokenRecord}
      (hrecord : r.record? token = some record) : token ∈ r.drawn :=
    h.drawn_of_issued token _ (h.issued_of_record token record hrecord)
  refine
    { issued_of_record := fun token record hrecord => ?_
      drawn_of_issued := fun token expiresAtMs hissued => ?_
      drawn_of_reserved := fun pending hreserved => ?_
      issued_unique := fun token expiresAtMs expiresAtMs' hissued hissued' => ?_
      used_alive := fun token nowMs hused => ?_
      spent_of_used := fun token nowMs hused => ?_
      spent_of_revoked := fun token hrevoked => ?_
      ordered := ?_
      ended := fun pending hover record hholds => ?_ }
  · rcases (hchange token).issued_of_record hrecord with ⟨before, hbefore, heq⟩ | hnew
    · exact hevents_mono (heq ▸ h.issued_of_record token before hbefore)
    · exact hevents ▸ List.mem_append_right _ (List.mem_of_mem_filter hnew)
  · rcases hcases hissued with hold | hnew
    · exact hdrawn_mono (h.drawn_of_issued token expiresAtMs hold)
    · exact hdrawn ▸ List.mem_append_right _ ((hchange token).of_issued hnew).1.1
  · rcases hcases hreserved with hold | hnew
    · exact hdrawn_mono (h.drawn_of_reserved pending hold)
    · exact hdrawn ▸ List.mem_append_right _ ((hchange _).of_reserved hnew).1
  · -- a token is issued once: what is issued now was never drawn before
    rcases hcases hissued with hold | hnew <;> rcases hcases hissued' with hold' | hnew'
    · exact h.issued_unique token _ _ hold hold'
    · exact absurd (h.drawn_of_issued token _ hold) ((hchange token).of_issued hnew').1.2
    · exact absurd (h.drawn_of_issued token _ hold') ((hchange token).of_issued hnew).1.2
    · have hsame := ((hchange token).of_issued hnew).2.symm.trans ((hchange token).of_issued hnew').2
      simpa using hsame
  · rcases hcases hused with hold | hnew
    · obtain ⟨expiresAtMs, hissued, hlt⟩ := h.used_alive token nowMs hold
      exact ⟨expiresAtMs, hevents_mono hissued, hlt⟩
    · obtain ⟨⟨before, hbefore, -, hlt⟩, -⟩ := (hchange token).of_used hnew
      exact ⟨_, hevents_mono (h.issued_of_record token before hbefore), hlt⟩
  · rcases hcases hused with hold | hnew
    · exact (h.spent_of_used token nowMs hold).step hstep
    · obtain ⟨⟨before, hbefore, -⟩, record, hrecord, hconsumed⟩ := (hchange token).of_used hnew
      refine ⟨hdrawn_mono (hknown hbefore), fun record' hrecord' => ?_⟩
      cases hrecord.symm.trans hrecord'
      exact .inl hconsumed
  · rcases hcases hrevoked with hold | hnew
    · exact (h.spent_of_revoked token hold).step hstep
    · obtain ⟨⟨before, hbefore⟩, record, hrecord, hstate⟩ := (hchange token).of_revoked hnew
      refine ⟨hdrawn_mono (hknown hbefore), fun record' hrecord' => ?_⟩
      cases hrecord.symm.trans hrecord'
      exact .inr hstate
  · rw [hevents, List.pairwise_append]
    refine ⟨h.ordered, ?_, fun before hbefore after hafter token nowMs hused => ?_⟩
    · rw [List.pairwise_iff_forall_sublist]
      intro before after hsublist token nowMs hused
      by_cases htoken : before.token = token
      · have hboth : [before, after].Sublist (events.filter (·.token = token)) := by
          have hfilter := hsublist.filter (·.token = token)
          rwa [List.filter_eq_self.mpr (by simp [htoken, hused])] at hfilter
        exact List.pairwise_iff_forall_sublist.mp (hchange token).ordered hboth token nowMs hused
      · refine ⟨?_, ?_⟩
        · rintro nowMs' rfl
          exact htoken rfl
        · rintro rfl
          exact htoken rfl
    · -- a token that is used now is not spent
      subst hused
      obtain ⟨⟨record, hrecord, husable, -⟩, -⟩ :=
        (hchange token).of_used (mem_filter_token hafter)
      refine ⟨?_, ?_⟩
      · rintro nowMs' rfl
        exact husable ((h.spent_of_used token nowMs' hbefore).2 record hrecord)
      · rintro rfl
        exact husable ((h.spent_of_revoked token hbefore).2 record hrecord)
  · obtain ⟨hrecord, hstate, hid⟩ := hholds
    rw [hevents] at hover
    rcases superseded_append hover with hbefore | ⟨pre, event, post, heq, hreserved, hended⟩
    · -- it was over before, and an id is not given twice
      rcases (hchange _).of_holds hrecord hstate hid with ⟨hold, -⟩ | ⟨⟨-, hnew⟩, -⟩
      · exact h.ended pending hbefore record ⟨hold, hstate, hid⟩
      · obtain ⟨first, _, _, hfirst, hmem, -⟩ := hbefore
        exact hnew (h.drawn_of_reserved pending (hfirst ▸ List.mem_append_left _ hmem))
    · -- the step that ends it leaves no reservation behind, or a new one
      have hevent : event ∈ events.filter (·.token = pending.tokenKey) := by
        rw [← endedBy_token_eq hended]
        exact mem_filter_token (heq ▸ by simp)
      rcases (hchange _).of_holds hrecord hstate hid with ⟨-, hnil⟩ | ⟨⟨-, hnew⟩, hone⟩
      · rw [hnil] at hevent
        cases hevent
      · rcases List.mem_append.mp hreserved with hbefore | hpre
        · exact hnew (h.drawn_of_reserved pending hbefore)
        · -- then the step both made and ended the reservation
          obtain ⟨p₁, p₂, rfl⟩ := List.append_of_mem hpre
          rw [heq] at hone
          have htoken := endedBy_token_eq hended
          simp [htoken] at hone
          omega

/-! ### The lifecycle -/

/-- **The lifecycle of the tokens**, in a state that a run has reached. -/
structure Lifecycle (validKey : Text → Bool) (identity : DaemonPublicIdentity) (r : PairingRun) :
    Prop where
  /-- A token is used at most once, and not after it was revoked. -/
  used_once : ∀ before token nowMs after, r.events = before ++ .used token nowMs :: after →
    (∀ nowMs', .used token nowMs' ∉ before) ∧ .revoked token ∉ before
  /-- A token is used before the one time at which it was issued to expire. -/
  used_alive : ∀ token nowMs, .used token nowMs ∈ r.events →
    ∃ expiresAtMs, .issued token expiresAtMs ∈ r.events ∧ nowMs < expiresAtMs ∧
      ∀ expiresAtMs', .issued token expiresAtMs' ∈ r.events → expiresAtMs' = expiresAtMs
  /-- A reservation that is over can be neither committed nor released. -/
  superseded : ∀ pending, pending.Superseded r.events → ∀ nowMs,
    (∃ error, r.service.commitPairingReservation pending nowMs = (r.service, .error error)) ∧
      r.service.releasePairingReservation pending = (r.service, false)
  /-- No call, whether it fails or not, makes a retired token usable, now or later. -/
  retired : ∀ ops r', exec (step validKey identity) r ops = some r' → ∀ token record record',
    r.record? token = some record → record.state.Retired → r'.record? token = some record' →
    record'.state.Retired

/-- **Every run keeps the lifecycle of the tokens.** -/
theorem lifecycle_of_run (validKey : Text → Bool) (identity : DaemonPublicIdentity)
    (ops : List PairingOp) (r : PairingRun)
    (hrun : exec (step validKey identity) start ops = some r) : Lifecycle validKey identity r := by
  have h : r.Invariant :=
    exec_induction (fun _ _ _ h hstep => h.step hstep) invariant_start hrun
  refine
    { used_once := fun before token nowMs after heq => ?_
      used_alive := fun token nowMs hused => ?_
      superseded := fun pending hover nowMs => ?_
      retired := fun ops r' hrun token record record' hrecord hretired hrecord' => ?_ }
  · have hordered := h.ordered
    rw [heq, List.pairwise_append] at hordered
    have hfollows (event : PairingEvent) (hevent : event ∈ before) :=
      hordered.2.2 event hevent _ List.mem_cons_self token nowMs rfl
    exact ⟨fun nowMs' hmem => (hfollows _ hmem).1 nowMs' rfl, fun hmem => (hfollows _ hmem).2 rfl⟩
  · obtain ⟨expiresAtMs, hissued, hlt⟩ := h.used_alive token nowMs hused
    exact ⟨expiresAtMs, hissued, hlt, fun _ hissued' => h.issued_unique token _ _ hissued' hissued⟩
  · have hnot := h.ended pending hover
    constructor
    · rcases r.service.commitPairingReservation_cases pending nowMs with
        ⟨record, hholds, -⟩ | ⟨record, hholds, -⟩ | ⟨-, error, -, hcommit⟩
      · exact absurd hholds (hnot record)
      · exact absurd hholds (hnot record)
      · exact ⟨error, hcommit⟩
    · rcases r.service.releasePairingReservation_cases pending with ⟨record, hholds, -⟩ | ⟨-, hrelease⟩
      · exact absurd hholds (hnot record)
      · exact hrelease
  · have hspent : r.Spent token := by
      refine ⟨h.drawn_of_issued token _ (h.issued_of_record token record hrecord), ?_⟩
      intro record₁ hrecord₁
      cases hrecord.symm.trans hrecord₁
      exact hretired
    have hspent' : r'.Spent token :=
      exec_induction (I := fun r => r.Spent token) (fun _ _ _ hs hstep => hs.step hstep) hspent hrun
    exact hspent'.2 record' hrecord'

/-- A token that is issued, reserved, released, and reserved and committed by another device. -/
def rivals : List PairingOp :=
  let first : PairRequestPayload := { deviceId := 1, devicePublicKey := [1], token := [7] }
  let second : PairRequestPayload := { deviceId := 2, devicePublicKey := [2], token := [7] }
  [.issueToken 10 100 [[7]], .reservePairRequest first 20 [8],
    .releasePairingReservation (.ofRequest ⟨0, []⟩ first 110 [8]), .reservePairRequest second 30 [9],
    .commitPairingReservation (.ofRequest ⟨0, []⟩ second 110 [9]) 40]

theorem lifecycle_rivals :
    ∃ r, exec (step (fun _ => true) ⟨0, []⟩) start rivals = some r ∧
      .used [7] 40 ∈ r.events ∧ Lifecycle (fun _ => true) ⟨0, []⟩ r :=
  ⟨_, rfl, by decide, lifecycle_of_run _ _ rivals _ rfl⟩

end PairingRun

end Termd.Auth
