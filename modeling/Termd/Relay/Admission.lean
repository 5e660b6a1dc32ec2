import Mathlib.Data.LawfulXor.Basic
import Mathlib.Data.List.GetD
import Termd.Relay.Registry

/-!
# Admission of daemons

A daemon presents a token; the relay keeps the hash of one token for each daemon. SHA-256 comes
from a library and is a parameter here. Tokens and hashes are compared over their UTF-8 bytes by
a scan that does not stop at the first difference.

## Main definitions

* `relayAuthTokenConstantTimeEq`: the comparison
* `relayDaemonTokenHash`: the hash that is kept for a token
* `authorizeRouteAdmission`: the admission check of a daemon connection
* `registerDaemonAdmission`: `register_daemon` up to the release of the admission lock

## Main results

* `relayAuthTokenConstantTimeEq_iff`: the comparison decides equality
* `relayDaemonTokenHash_inj`: two tokens have the same hash only if SHA-256 collides on them
* `authorizeRouteAdmission_eq_ok`: what an admitted connection has presented
-/

namespace Termd.Relay

/-- The bytes of a string, `as_bytes`. -/
def utf8Bytes (s : String) : List UInt8 := s.toByteArray.data.toList

theorem utf8Bytes_inj {s t : String} : utf8Bytes s = utf8Bytes t ↔ s = t := by
  constructor
  · intro h
    exact String.toByteArray_inj.mp (ByteArray.ext (Array.toList_inj.mp h))
  · rintro rfl
    rfl

def RELAY_AUTH_TOKEN_MIN_BYTES : ℕ := 8

def relayAuthTokenHasSafeLength (token : String) : Bool :=
  decide (token.utf8ByteSize ≥ RELAY_AUTH_TOKEN_MIN_BYTES)

/-- The scan of `relay_auth_token_constant_time_eq`, on bytes. -/
def byteDiff (expected provided : List UInt8) : ℕ :=
  (List.range (max expected.length provided.length)).foldl
    (fun diff index => diff ||| (expected.getD index 0 ^^^ provided.getD index 0).toNat)
    (expected.length ^^^ provided.length)

def relayAuthTokenConstantTimeEq (expected provided : String) : Bool :=
  byteDiff (utf8Bytes expected) (utf8Bytes provided) == 0

theorem foldl_or_eq_zero {α : Type*} (f : α → ℕ) (xs : List α) (init : ℕ) :
    xs.foldl (fun diff x => diff ||| f x) init = 0 ↔ init = 0 ∧ ∀ x ∈ xs, f x = 0 := by
  induction xs generalizing init with
  | nil => simp
  | cons x xs ih => simp [ih, Nat.or_eq_zero_iff, and_assoc]

/-- The scan finds no difference exactly between equal byte strings. -/
theorem byteDiff_eq_zero {expected provided : List UInt8} :
    byteDiff expected provided = 0 ↔ expected = provided := by
  unfold byteDiff
  rw [foldl_or_eq_zero, xor_eq_zero_iff]
  constructor
  · rintro ⟨hlen, hbytes⟩
    refine List.ext_getElem hlen fun i h₁ h₂ => ?_
    have hi := hbytes i (List.mem_range.mpr (lt_max_of_lt_left h₁))
    rw [List.getD_eq_getElem _ _ h₁, List.getD_eq_getElem _ _ h₂] at hi
    have hxor : expected[i] ^^^ provided[i] = 0 := UInt8.toNat_inj.mp hi
    exact UInt8.xor_eq_zero_iff.mp hxor
  · rintro rfl
    simp

/-- **The comparison decides equality.** -/
theorem relayAuthTokenConstantTimeEq_iff {expected provided : String} :
    relayAuthTokenConstantTimeEq expected provided = true ↔ expected = provided := by
  rw [relayAuthTokenConstantTimeEq, beq_iff_eq, byteDiff_eq_zero, utf8Bytes_inj]

/-! ## The hash of a token -/

def hexDigits : List Char :=
  ['0', '1', '2', '3', '4', '5', '6', '7', '8', '9', 'a', 'b', 'c', 'd', 'e', 'f']

/-- The two lower-case hexadecimal digits of a byte. -/
def hexByte (byte : UInt8) : List Char :=
  [hexDigits.getD (byte.toNat / 16) '0', hexDigits.getD (byte.toNat % 16) '0']

def hexLower (bytes : List UInt8) : String := String.ofList (bytes.flatMap hexByte)

theorem hexDigit_inj {m n : ℕ} (hm : m < 16) (hn : n < 16)
    (h : hexDigits.getD m '0' = hexDigits.getD n '0') : m = n := by
  have hdistinct : ∀ m n : Fin 16, hexDigits.getD m '0' = hexDigits.getD n '0' → m = n := by
    decide
  exact congrArg Fin.val (hdistinct ⟨m, hm⟩ ⟨n, hn⟩ h)

theorem hexByte_inj {b b' : UInt8} (h : hexByte b = hexByte b') : b = b' := by
  have hb := b.toNat_lt
  have hb' := b'.toNat_lt
  simp only [hexByte, List.cons.injEq, and_true] at h
  have hhigh := hexDigit_inj (by omega) (by omega) h.1
  have hlow := hexDigit_inj (by omega) (by omega) h.2
  exact UInt8.toNat_inj.mp (by omega)

theorem hexLower_inj {bytes bytes' : List UInt8} (h : hexLower bytes = hexLower bytes') :
    bytes = bytes' := by
  replace h : bytes.flatMap hexByte = bytes'.flatMap hexByte := String.ofList_inj.mp h
  induction bytes generalizing bytes' with
  | nil =>
    cases bytes' with
    | nil => rfl
    | cons b' bytes' => simp [hexByte] at h
  | cons b bytes ih =>
    cases bytes' with
    | nil => simp [hexByte] at h
    | cons b' bytes' =>
      rw [List.flatMap_cons, List.flatMap_cons] at h
      obtain ⟨hbyte, hrest⟩ := List.append_inj h rfl
      rw [hexByte_inj hbyte, ih hrest]

section Admission

variable (sha256 : List UInt8 → List UInt8)

def relayDaemonTokenHash (token : String) : String :=
  "sha256:" ++ hexLower (sha256 (utf8Bytes token))

variable {sha256} in
/-- Two tokens have the same hash only if SHA-256 collides on them. -/
theorem relayDaemonTokenHash_inj {token token' : String}
    (h : relayDaemonTokenHash sha256 token = relayDaemonTokenHash sha256 token') :
    sha256 (utf8Bytes token) = sha256 (utf8Bytes token') :=
  hexLower_inj (String.append_right_inj _ |>.mp h)

/-! ## The two sides of the admission lock -/

/-- The token hash of every registered daemon. -/
abbrev DaemonTokenHashes := FiniteMap ServerId String

/-- `authorize_route_admission`. -/
def authorizeRouteAdmission (hashes : DaemonTokenHashes) (prelude : RoutePrelude) :
    Except RelayError Unit :=
  match prelude.connectionRole with
  | .client => .error .admissionRejected
  | .daemonControl | .daemonData =>
    match prelude.admission with
    | some (.daemon token) =>
      match hashes.lookup prelude.serverId with
      | none => .error .admissionRejected
      | some expectedHash =>
        if relayAuthTokenConstantTimeEq expectedHash (relayDaemonTokenHash sha256 token) then
          .ok ()
        else .error .admissionRejected
    | _ => .error .admissionRequired

variable {sha256} in
/-- An admitted connection is a daemon's, and presented a token with the hash that is kept. -/
theorem authorizeRouteAdmission_eq_ok {hashes : DaemonTokenHashes} {prelude : RoutePrelude}
    (h : authorizeRouteAdmission sha256 hashes prelude = .ok ()) :
    prelude.connectionRole ≠ .client ∧ ∃ token, prelude.admission = some (.daemon token) ∧
      hashes.lookup prelude.serverId = some (relayDaemonTokenHash sha256 token) := by
  unfold authorizeRouteAdmission at h
  split at h
  next => cases h
  all_goals
    next hrole =>
      refine ⟨by rw [hrole]; nofun, ?_⟩
      split at h
      · rename_i token htoken
        split at h
        · cases h
        · rename_i expectedHash hexpected
          split_ifs at h with heq
          rw [relayAuthTokenConstantTimeEq_iff] at heq
          exact ⟨token, htoken, by rw [hexpected, heq]⟩
      · cases h

inductive RegisterDaemonError
  | setupTokenNotConfigured
  | setupTokenMissing
  | setupTokenRejected
  | daemonTokenTooShort
  | registryPathNotConfigured
  | persistRegistry
  | poisoned
deriving DecidableEq

/-- What the relay was started with: its setup token, and whether it has a registry file. -/
structure RelayConfig where
  setupToken : Option String
  hasRegistryPath : Bool

/-- `authorize_setup_token`. -/
def authorizeSetupToken (config : RelayConfig) (setupToken : Option String) :
    Except RegisterDaemonError Unit :=
  match config.setupToken, setupToken with
  | none, _ => .error .setupTokenNotConfigured
  | some _, none => .error .setupTokenMissing
  | some expected, some provided =>
    if !relayAuthTokenHasSafeLength expected || !relayAuthTokenHasSafeLength provided ||
        !relayAuthTokenConstantTimeEq expected provided then
      .error .setupTokenRejected
    else .ok ()

/-- `register_daemon` up to the release of the admission lock: the new hashes, and whether a
token was replaced. Whether the registry file could be written belongs to the environment. -/
def registerDaemonAdmission (config : RelayConfig) (hashes : DaemonTokenHashes)
    (serverId : ServerId) (daemonToken : String) (setupToken : Option String)
    (persisted : Bool) : Except RegisterDaemonError (DaemonTokenHashes × Bool) :=
  match authorizeSetupToken config setupToken with
  | .error error => .error error
  | .ok () =>
    if !relayAuthTokenHasSafeLength daemonToken then .error .daemonTokenTooShort
    else if !config.hasRegistryPath then .error .registryPathNotConfigured
    else if !persisted then .error .persistRegistry
    else
      .ok (hashes.insert serverId (relayDaemonTokenHash sha256 daemonToken),
        (hashes.lookup serverId).isSome)

variable {sha256} in
/-- A registered daemon has the hash of its new token. -/
theorem registerDaemonAdmission_eq_ok {config : RelayConfig} {hashes : DaemonTokenHashes}
    {serverId : ServerId} {daemonToken : String} {setupToken : Option String} {persisted : Bool}
    {result : DaemonTokenHashes × Bool}
    (h : registerDaemonAdmission sha256 config hashes serverId daemonToken setupToken persisted =
      .ok result) :
    result = (hashes.insert serverId (relayDaemonTokenHash sha256 daemonToken),
      (hashes.lookup serverId).isSome) := by
  unfold registerDaemonAdmission at h
  split at h
  · cases h
  · split_ifs at h
    exact (Except.ok.inj h).symm

end Admission

end Termd.Relay
