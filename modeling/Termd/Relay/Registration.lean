import Termd.Library.Transition
import Termd.Relay.Admission
import Termd.Relay.Credentials
import Termd.Relay.Rotation

/-!
# Registration of daemons

The relay keeps, for every daemon, the hash of its token and perhaps its public key, in memory and
in a registry file. A registration writes the file first and takes the new values into memory when
the write has succeeded. A registration with a public key is two of these, one after the other: the
token, and then the key, which is in memory before it is written.

## Where the two differ

If the second write fails, the call reports an error and has done most of its work: the token is
replaced, the connections of the daemon are closed and the key is in memory, but not in the file.
Nothing of this is seen only if the call had nothing to do. `Careful` excludes the other cases.

## Main definitions

* `RegistrationState`: what is kept, the registry file and the rooms
* `registerDaemon`, `registerDaemonIdentity`: the two calls
* `RegistrationRun`: a sequence of calls, with the calls that failed

## Main results

* `RegistrationRun.atomic_iff_careful`: when memory and file agree and failed calls do nothing
-/

namespace Termd.Relay

open Auth

/-! ### The registry file -/

structure PersistedDaemonRegistryEntry where
  serverId : ServerId
  tokenHash : String
  daemonPublicKey : Option String
deriving DecidableEq

/-- The entries of the file; the file lists them by id. -/
abbrev PersistedDaemonRegistry := Multiset PersistedDaemonRegistryEntry

/-- `persist_daemon_registry_values`, the contents. -/
def persistedDaemonRegistry (hashes : DaemonTokenHashes) (publicKeys : FiniteMap ServerId String) :
    PersistedDaemonRegistry :=
  hashes.entries.map fun entry =>
    { serverId := entry.1, tokenHash := entry.2, daemonPublicKey := publicKeys.lookup entry.1 }

/-- The hashes and the keys that a file stands for. -/
structure Denotes (file : PersistedDaemonRegistry) (hashes : DaemonTokenHashes)
    (publicKeys : FiniteMap ServerId String) : Prop where
  hash : ∀ serverId tokenHash, hashes.lookup serverId = some tokenHash ↔
    ∃ entry ∈ file, entry.serverId = serverId ∧ entry.tokenHash = tokenHash
  publicKey : ∀ serverId publicKey, publicKeys.lookup serverId = some publicKey ↔
    ∃ entry ∈ file, entry.serverId = serverId ∧ entry.daemonPublicKey = some publicKey

theorem mem_persistedDaemonRegistry {hashes : DaemonTokenHashes}
    {publicKeys : FiniteMap ServerId String} {entry : PersistedDaemonRegistryEntry} :
    entry ∈ persistedDaemonRegistry hashes publicKeys ↔
      hashes.lookup entry.serverId = some entry.tokenHash ∧
        entry.daemonPublicKey = publicKeys.lookup entry.serverId := by
  rw [persistedDaemonRegistry, Multiset.mem_map]
  constructor
  · rintro ⟨⟨serverId, tokenHash⟩, hmem, rfl⟩
    exact ⟨Finmap.mem_lookup_iff.mpr hmem, rfl⟩
  · rintro ⟨hhash, hkey⟩
    refine ⟨⟨entry.serverId, entry.tokenHash⟩, Finmap.mem_lookup_iff.mp hhash, ?_⟩
    cases entry
    simp_all

/-- The file stands for what was written, if every key belongs to a token. -/
theorem denotes_persisted {hashes : DaemonTokenHashes} {publicKeys : FiniteMap ServerId String}
    (h : ∀ serverId ∈ publicKeys, serverId ∈ hashes) :
    Denotes (persistedDaemonRegistry hashes publicKeys) hashes publicKeys where
  hash := by
    intro serverId tokenHash
    constructor
    · intro hhash
      exact ⟨⟨serverId, tokenHash, publicKeys.lookup serverId⟩,
        mem_persistedDaemonRegistry.mpr ⟨hhash, rfl⟩, rfl, rfl⟩
    · rintro ⟨entry, hmem, rfl, rfl⟩
      exact (mem_persistedDaemonRegistry.mp hmem).1
  publicKey := by
    intro serverId publicKey
    constructor
    · intro hkey
      obtain ⟨tokenHash, hhash⟩ :=
        Finmap.mem_iff.mp (h serverId (Finmap.mem_of_lookup_eq_some hkey))
      exact ⟨⟨serverId, tokenHash, some publicKey⟩,
        mem_persistedDaemonRegistry.mpr ⟨hhash, hkey.symm⟩, rfl, rfl⟩
    · rintro ⟨entry, hmem, rfl, hkey⟩
      rw [← (mem_persistedDaemonRegistry.mp hmem).2, hkey]

/-! ### The calls -/

/-- `RelayAdmissionState`, the registry file and the rooms. -/
structure RegistrationState where
  trusted : Bool
  daemonTokenHashes : DaemonTokenHashes
  daemonPublicKeys : FiniteMap ServerId String
  registry : Option PersistedDaemonRegistry
  rooms : Rooms

structure RegisterDaemonOutcome where
  serverId : ServerId
  replaced : Bool
deriving DecidableEq

variable (standard : Base64Engine) (sha256 : List UInt8 → List UInt8) (config : RelayConfig)

/-- `persists` is how the write of the file ends. -/
def registerDaemon (s : RegistrationState) (serverId : ServerId) (daemonToken : String)
    (setupToken : Option String) (persists : Bool) :
    RegistrationState × Except RegisterDaemonError RegisterDaemonOutcome :=
  match registerDaemonAdmission sha256 config s.daemonTokenHashes serverId daemonToken setupToken
      persists with
  | .error error => (s, .error error)
  | .ok (nextHashes, replaced) =>
    ({ trusted := true
       daemonTokenHashes := nextHashes
       daemonPublicKeys := s.daemonPublicKeys
       registry := some (persistedDaemonRegistry nextHashes s.daemonPublicKeys)
       rooms := if replaced then (RelayRegistry.closeServer s.rooms serverId).1 else s.rooms },
      .ok { serverId, replaced })

/-- `persistsKey` is how the second write ends. -/
def registerDaemonIdentity (s : RegistrationState) (serverId : ServerId) (daemonToken : String)
    (daemonPublicKey : String) (setupToken : Option String) (persists persistsKey : Bool) :
    RegistrationState × Except RegisterDaemonError RegisterDaemonOutcome :=
  if decodeEd25519Wire standard (utf8Bytes daemonPublicKey) ED25519_PUBLIC_KEY_LEN = none then
    (s, .error .daemonTokenTooShort)
  else match registerDaemon sha256 config s serverId daemonToken setupToken persists with
    | (s, .error error) => (s, .error error)
    | (s, .ok outcome) =>
      let s := { s with daemonPublicKeys := s.daemonPublicKeys.insert serverId daemonPublicKey }
      if !config.hasRegistryPath then (s, .error .registryPathNotConfigured)
      else if !persistsKey then (s, .error .persistRegistry)
      else
        ({ s with registry := some (persistedDaemonRegistry s.daemonTokenHashes s.daemonPublicKeys) },
          .ok outcome)

structure RelayDaemonCredential where
  serverId : ServerId
  token : String
  tokenIsHash : Bool
  publicKey : Option String

def relayDaemonPersistedTokenHash (value : String) : String :=
  if (utf8Bytes "sha256:").isPrefixOf (utf8Bytes value) ∧ value.utf8ByteSize = 7 + 64 then value
  else relayDaemonTokenHash sha256 value

def credentialHashes (credentials : List RelayDaemonCredential) (hashes : DaemonTokenHashes) :
    DaemonTokenHashes :=
  credentials.foldl (fun hashes credential =>
    hashes.insert credential.serverId
      (if credential.tokenIsHash then relayDaemonPersistedTokenHash sha256 credential.token
        else relayDaemonTokenHash sha256 credential.token)) hashes

def credentialKeys (credentials : List RelayDaemonCredential)
    (publicKeys : FiniteMap ServerId String) : FiniteMap ServerId String :=
  credentials.foldl (fun publicKeys credential =>
    match credential.publicKey with
    | some publicKey => publicKeys.insert credential.serverId publicKey
    | none => publicKeys) publicKeys

/-- The state of a relay that starts with these credentials and has written them to its file. -/
def newTrustedWithRegistry (credentials : List RelayDaemonCredential) : RegistrationState where
  trusted := true
  daemonTokenHashes := credentialHashes sha256 credentials ∅
  daemonPublicKeys := credentialKeys credentials ∅
  registry :=
    if config.hasRegistryPath then
      some (persistedDaemonRegistry (credentialHashes sha256 credentials ∅)
        (credentialKeys credentials ∅))
    else none
  rooms := ∅

/-! ### Sequences of calls -/

inductive RegisterCall
  | registerDaemon (serverId : ServerId) (daemonToken : String) (setupToken : Option String)
      (persists : Bool)
  | registerDaemonIdentity (serverId : ServerId) (daemonToken daemonPublicKey : String)
      (setupToken : Option String) (persists persistsKey : Bool)

def RegistrationState.call (s : RegistrationState) :
    RegisterCall → RegistrationState × Except RegisterDaemonError RegisterDaemonOutcome
  | .registerDaemon serverId daemonToken setupToken persists =>
    Relay.registerDaemon sha256 config s serverId daemonToken setupToken persists
  | .registerDaemonIdentity serverId daemonToken daemonPublicKey setupToken persists persistsKey =>
    Relay.registerDaemonIdentity standard sha256 config s serverId daemonToken daemonPublicKey
      setupToken persists persistsKey

/-- The rooms also change between the calls. -/
inductive RegistrationOp
  | call (call : RegisterCall)
  | connections (rooms : Rooms)

/-- A relay, with the states before and after every call that failed. -/
structure RegistrationRun where
  state : RegistrationState
  failed : List (RegistrationState × RegistrationState)

namespace RegistrationRun

def step (r : RegistrationRun) : RegistrationOp → Option RegistrationRun
  | .call call =>
    match r.state.call standard sha256 config call with
    | (state, .ok _) => some { r with state }
    | (state, .error _) => some { state, failed := r.failed ++ [(r.state, state)] }
  | .connections rooms => some { r with state := { r.state with rooms } }

/-- Memory and file agree, and the calls that failed changed nothing. -/
structure Atomic (r : RegistrationRun) : Prop where
  agree : config.hasRegistryPath = true → ∃ file, r.state.registry = some file ∧
    Denotes file r.state.daemonTokenHashes r.state.daemonPublicKeys
  unchanged : ∀ before after, (before, after) ∈ r.failed → after = before

/-- The call gets to the write of the public key. -/
def WritesKey (s : RegistrationState) (serverId : ServerId) (daemonToken daemonPublicKey : String)
    (setupToken : Option String) (persists : Bool) : Prop :=
  decodeEd25519Wire standard (utf8Bytes daemonPublicKey) ED25519_PUBLIC_KEY_LEN ≠ none ∧
    ∃ result, registerDaemonAdmission sha256 config s.daemonTokenHashes serverId daemonToken
      setupToken persists = .ok result

/-- The call would change nothing. -/
def Registered (s : RegistrationState) (serverId : ServerId) (daemonToken daemonPublicKey : String) :
    Prop :=
  s.daemonTokenHashes.lookup serverId = some (relayDaemonTokenHash sha256 daemonToken) ∧
    s.daemonPublicKeys.lookup serverId = some daemonPublicKey ∧ s.rooms.lookup serverId = none

/-- The guard: the write of a key does not fail after the token was written, except when there is
nothing to change. -/
def Careful (r : RegistrationRun) : RegistrationOp → Prop
  | .call (.registerDaemonIdentity serverId daemonToken daemonPublicKey setupToken persists
      persistsKey) =>
    WritesKey standard sha256 config r.state serverId daemonToken daemonPublicKey setupToken
        persists →
      persistsKey = true ∨ Registered sha256 r.state serverId daemonToken daemonPublicKey
  | _ => True

variable {standard sha256 config}

theorem hasRegistryPath_of_ok {hashes : DaemonTokenHashes} {serverId : ServerId}
    {daemonToken : String} {setupToken : Option String} {persists : Bool}
    {result : DaemonTokenHashes × Bool}
    (h : registerDaemonAdmission sha256 config hashes serverId daemonToken setupToken persists =
      .ok result) : config.hasRegistryPath = true := by
  unfold registerDaemonAdmission at h
  split at h
  · cases h
  · split_ifs at h with hlength hpath
    simpa using hpath

/-- The state of a relay that starts, and of one whose calls were all careful. -/
structure Invariant (config : RelayConfig) (r : RegistrationRun) : Prop where
  trusted : r.state.trusted = true
  keys : ∀ serverId ∈ r.state.daemonPublicKeys, serverId ∈ r.state.daemonTokenHashes
  registry : config.hasRegistryPath = true → r.state.registry =
    some (persistedDaemonRegistry r.state.daemonTokenHashes r.state.daemonPublicKeys)
  unchanged : ∀ before after, (before, after) ∈ r.failed → after = before

theorem Invariant.atomic {r : RegistrationRun} (h : Invariant config r) : Atomic config r where
  agree := fun hpath => ⟨_, h.registry hpath, denotes_persisted h.keys⟩
  unchanged := h.unchanged

/-- What a registration of a token leaves behind when it succeeds. -/
def tokenRegistered (sha256 : List UInt8 → List UInt8) (s : RegistrationState) (serverId : ServerId)
    (daemonToken : String) : RegistrationState :=
  let hashes := s.daemonTokenHashes.insert serverId (relayDaemonTokenHash sha256 daemonToken)
  { trusted := true
    daemonTokenHashes := hashes
    daemonPublicKeys := s.daemonPublicKeys
    registry := some (persistedDaemonRegistry hashes s.daemonPublicKeys)
    rooms := if (s.daemonTokenHashes.lookup serverId).isSome then
      (RelayRegistry.closeServer s.rooms serverId).1 else s.rooms }

variable (standard sha256 config) in
/-- **A registration of a token** does everything or nothing. -/
theorem registerDaemon_cases (s : RegistrationState) (serverId : ServerId) (daemonToken : String)
    (setupToken : Option String) (persists : Bool) :
    (∃ error, registerDaemonAdmission sha256 config s.daemonTokenHashes serverId daemonToken
        setupToken persists = .error error ∧
      registerDaemon sha256 config s serverId daemonToken setupToken persists =
        (s, .error error)) ∨
    ∃ result outcome, registerDaemonAdmission sha256 config s.daemonTokenHashes serverId daemonToken
        setupToken persists = .ok result ∧ config.hasRegistryPath = true ∧
      registerDaemon sha256 config s serverId daemonToken setupToken persists =
        (tokenRegistered sha256 s serverId daemonToken, .ok outcome) := by
  rcases hadmission : registerDaemonAdmission sha256 config s.daemonTokenHashes serverId daemonToken
    setupToken persists with error | ⟨nextHashes, replaced⟩
  · refine .inl ⟨error, rfl, ?_⟩
    rw [registerDaemon, hadmission]
  · refine .inr ⟨_, { serverId, replaced }, rfl, hasRegistryPath_of_ok hadmission, ?_⟩
    obtain ⟨rfl, rfl⟩ := Prod.mk.inj (registerDaemonAdmission_eq_ok hadmission)
    rw [registerDaemon, hadmission]
    rfl

/-- The state in which the second write of a registration with a key starts. -/
def keyRegistered (sha256 : List UInt8 → List UInt8) (s : RegistrationState) (serverId : ServerId)
    (daemonToken daemonPublicKey : String) : RegistrationState :=
  { tokenRegistered sha256 s serverId daemonToken with
    daemonPublicKeys := s.daemonPublicKeys.insert serverId daemonPublicKey }

variable (standard sha256 config) in
/-- **A registration with a key**: nothing is done, or everything, or all but the last write. -/
theorem registerDaemonIdentity_cases (s : RegistrationState) (serverId : ServerId)
    (daemonToken daemonPublicKey : String) (setupToken : Option String)
    (persists persistsKey : Bool) :
    (∃ error,
      ¬ WritesKey standard sha256 config s serverId daemonToken daemonPublicKey setupToken
        persists ∧
      registerDaemonIdentity standard sha256 config s serverId daemonToken daemonPublicKey
        setupToken persists persistsKey = (s, .error error)) ∨
    WritesKey standard sha256 config s serverId daemonToken daemonPublicKey setupToken persists ∧
      config.hasRegistryPath = true ∧
      (persistsKey = false ∧
        registerDaemonIdentity standard sha256 config s serverId daemonToken daemonPublicKey
          setupToken persists persistsKey =
          (keyRegistered sha256 s serverId daemonToken daemonPublicKey, .error .persistRegistry) ∨
      persistsKey = true ∧ ∃ outcome,
        registerDaemonIdentity standard sha256 config s serverId daemonToken daemonPublicKey
          setupToken persists persistsKey =
          ({ keyRegistered sha256 s serverId daemonToken daemonPublicKey with
              registry := some (persistedDaemonRegistry
                (keyRegistered sha256 s serverId daemonToken daemonPublicKey).daemonTokenHashes
                (keyRegistered sha256 s serverId daemonToken daemonPublicKey).daemonPublicKeys) },
            .ok outcome)) := by
  by_cases hdecode :
      decodeEd25519Wire standard (utf8Bytes daemonPublicKey) ED25519_PUBLIC_KEY_LEN = none
  · refine .inl ⟨.daemonTokenTooShort, fun h => h.1 hdecode, ?_⟩
    rw [registerDaemonIdentity, if_pos hdecode]
  rw [registerDaemonIdentity, if_neg hdecode]
  rcases registerDaemon_cases sha256 config s serverId daemonToken setupToken
    persists with ⟨error, hadmission, hcall⟩ | ⟨result, outcome, hadmission, hpath, hcall⟩
  · rw [hcall]
    refine .inl ⟨error, ?_, rfl⟩
    rintro ⟨-, result, hok⟩
    rw [hadmission] at hok
    cases hok
  · rw [hcall]
    refine .inr ⟨⟨hdecode, result, hadmission⟩, hpath, ?_⟩
    cases persistsKey with
    | false => exact .inl ⟨rfl, by simp [hpath, keyRegistered, tokenRegistered]⟩
    | true => exact .inr ⟨rfl, outcome, by simp [hpath, keyRegistered, tokenRegistered]⟩

theorem mem_tokenRegistered {s : RegistrationState} {serverId other : ServerId}
    {daemonToken : String} (h : other ∈ s.daemonTokenHashes) :
    other ∈ (tokenRegistered sha256 s serverId daemonToken).daemonTokenHashes :=
  Finmap.mem_insert.mpr (.inr h)

theorem mem_keyRegistered {s : RegistrationState} {serverId other : ServerId}
    {daemonToken daemonPublicKey : String}
    (hkeys : ∀ serverId ∈ s.daemonPublicKeys, serverId ∈ s.daemonTokenHashes)
    (h : other ∈ (keyRegistered sha256 s serverId daemonToken daemonPublicKey).daemonPublicKeys) :
    other ∈ (keyRegistered sha256 s serverId daemonToken daemonPublicKey).daemonTokenHashes := by
  rcases Finmap.mem_insert.mp h with rfl | hmem
  · exact Finmap.mem_insert.mpr (.inl rfl)
  · exact mem_tokenRegistered (hkeys other hmem)

/-- A call that has nothing to change leaves the state as it is. -/
theorem keyRegistered_of_registered {r : RegistrationRun} (h : Invariant config r)
    (hpath : config.hasRegistryPath = true) {serverId : ServerId}
    {daemonToken daemonPublicKey : String}
    (hregistered : Registered sha256 r.state serverId daemonToken daemonPublicKey) :
    keyRegistered sha256 r.state serverId daemonToken daemonPublicKey = r.state := by
  obtain ⟨hhash, hkey, hroom⟩ := hregistered
  have htrusted := h.trusted
  have hregistry := h.registry hpath
  obtain ⟨⟨trusted, hashes, publicKeys, registry, rooms⟩, failed⟩ := r
  dsimp only at hhash hkey hroom htrusted hregistry
  have hclosed : (RelayRegistry.closeServer rooms serverId).1 = rooms := by
    rw [RelayRegistry.closeServer, hroom]
  simp only [keyRegistered, tokenRegistered, FiniteMap.insert_of_lookup hhash,
    FiniteMap.insert_of_lookup hkey, hclosed, ite_self, htrusted, hregistry]

/-- A call that changes nothing had nothing to change. -/
theorem registered_of_keyRegistered {s : RegistrationState} {serverId : ServerId}
    {daemonToken daemonPublicKey : String}
    (h : keyRegistered sha256 s serverId daemonToken daemonPublicKey = s) :
    Registered sha256 s serverId daemonToken daemonPublicKey := by
  have hhash : s.daemonTokenHashes.lookup serverId =
      some (relayDaemonTokenHash sha256 daemonToken) := by
    rw [← h]
    exact Finmap.lookup_insert _
  have hkey : s.daemonPublicKeys.lookup serverId = some daemonPublicKey := by
    rw [← h]
    exact Finmap.lookup_insert _
  refine ⟨hhash, hkey, ?_⟩
  have hrooms : (RelayRegistry.closeServer s.rooms serverId).1 = s.rooms := by
    have hrooms := congrArg RegistrationState.rooms h
    simp only [keyRegistered, tokenRegistered, hhash, Option.isSome_some, if_true] at hrooms
    exact hrooms
  rw [← hrooms, RelayRegistry.closeServer]
  cases hroom : s.rooms.lookup serverId with
  | none => exact hroom
  | some room => exact Finmap.lookup_erase serverId s.rooms

/-- A call that failed is remembered. -/
theorem Invariant.failed {r : RegistrationRun} (h : Invariant config r) :
    Invariant config { r with failed := r.failed ++ [(r.state, r.state)] } where
  trusted := h.trusted
  keys := h.keys
  registry := h.registry
  unchanged := by
    intro before after hmem
    rcases List.mem_append.mp hmem with hold | hnew
    · exact h.unchanged before after hold
    · obtain ⟨rfl, rfl⟩ := Prod.mk.inj (List.mem_singleton.mp hnew)
      rfl

theorem Invariant.step {r r' : RegistrationRun} {op : RegistrationOp} (h : Invariant config r)
    (hcareful : Careful standard sha256 config r op)
    (hstep : step standard sha256 config r op = some r') :
    Invariant config r' := by
  cases op with
  | connections rooms =>
    cases hstep
    exact ⟨h.trusted, h.keys, h.registry, h.unchanged⟩
  | call call =>
    cases call with
    | registerDaemon serverId daemonToken setupToken persists =>
      rw [RegistrationRun.step, RegistrationState.call] at hstep
      rcases registerDaemon_cases sha256 config r.state serverId daemonToken
        setupToken persists with ⟨error, -, hcall⟩ | ⟨result, outcome, -, hpath, hcall⟩
      · rw [hcall] at hstep
        cases hstep
        exact h.failed
      · rw [hcall] at hstep
        cases hstep
        exact ⟨rfl, fun other hmem => mem_tokenRegistered (h.keys other hmem), fun _ => rfl,
          h.unchanged⟩
    | registerDaemonIdentity serverId daemonToken daemonPublicKey setupToken persists persistsKey =>
      rw [RegistrationRun.step, RegistrationState.call] at hstep
      rcases registerDaemonIdentity_cases standard sha256 config r.state serverId
        daemonToken daemonPublicKey setupToken persists persistsKey with
        ⟨error, -, hcall⟩ | ⟨hwrites, hpath, ⟨hkey, hcall⟩ | ⟨hkey, outcome, hcall⟩⟩
      · rw [hcall] at hstep
        cases hstep
        exact h.failed
      · rw [hcall] at hstep
        cases hstep
        -- the second write failed, so there was nothing to change
        have hregistered := (hcareful hwrites).resolve_left (by rw [hkey]; exact Bool.false_ne_true)
        rw [keyRegistered_of_registered h hpath hregistered]
        exact h.failed
      · rw [hcall] at hstep
        cases hstep
        exact ⟨rfl, fun other hmem => mem_keyRegistered h.keys hmem, fun _ => rfl, h.unchanged⟩

/-- A call that is not careful fails and changes something. -/
theorem not_atomic_of_not_careful {r r' : RegistrationRun} {op : RegistrationOp}
    (hcareful : ¬ Careful standard sha256 config r op)
    (hstep : step standard sha256 config r op = some r') :
    ¬ Atomic config r' := by
  cases op with
  | connections rooms => exact absurd trivial hcareful
  | call call =>
    cases call with
    | registerDaemon serverId daemonToken setupToken persists => exact absurd trivial hcareful
    | registerDaemonIdentity serverId daemonToken daemonPublicKey setupToken persists persistsKey =>
      rw [Careful, Classical.not_imp, not_or] at hcareful
      obtain ⟨hwrites, hfails, hregistered⟩ := hcareful
      rw [RegistrationRun.step, RegistrationState.call] at hstep
      rcases registerDaemonIdentity_cases standard sha256 config r.state serverId
        daemonToken daemonPublicKey setupToken persists persistsKey with
        ⟨error, hnone, -⟩ | ⟨-, -, ⟨-, hcall⟩ | ⟨hkey, -⟩⟩
      · exact absurd hwrites hnone
      · rw [hcall] at hstep
        cases hstep
        intro hatomic
        refine hregistered (registered_of_keyRegistered (hatomic.unchanged _ _ ?_))
        exact List.mem_append_right _ (List.mem_singleton_self _)
      · exact absurd hkey hfails

/-- Every key comes with a token. -/
theorem mem_credentialHashes {credentials : List RelayDaemonCredential}
    {hashes : DaemonTokenHashes} {publicKeys : FiniteMap ServerId String}
    (h : ∀ serverId ∈ publicKeys, serverId ∈ hashes) :
    ∀ serverId ∈ credentialKeys credentials publicKeys,
      serverId ∈ credentialHashes sha256 credentials hashes := by
  induction credentials generalizing hashes publicKeys with
  | nil => exact h
  | cons credential credentials ih =>
    rw [credentialKeys, credentialHashes, List.foldl_cons, List.foldl_cons]
    refine ih fun serverId hmem => ?_
    cases hkey : credential.publicKey with
    | none =>
      rw [hkey] at hmem
      exact Finmap.mem_insert.mpr (.inr (h serverId hmem))
    | some publicKey =>
      rw [hkey] at hmem
      exact Finmap.mem_insert.mpr ((Finmap.mem_insert.mp hmem).imp_right (h serverId))

theorem invariant_start (credentials : List RelayDaemonCredential) :
    Invariant config
      { state := newTrustedWithRegistry sha256 config credentials, failed := [] } where
  trusted := rfl
  keys := mem_credentialHashes fun _ hmem => absurd hmem Finmap.notMem_empty
  registry := fun hpath => if_pos hpath
  unchanged := fun _ _ hmem => absurd hmem List.not_mem_nil

/-- **When registration is atomic**: memory and file agree after every call, and the calls that
failed changed nothing, exactly when no write of a key failed after the token had been written. -/
theorem atomic_iff_careful (credentials : List RelayDaemonCredential) (ops : List RegistrationOp)
    (r : RegistrationRun)
    (h : exec (step standard sha256 config)
      { state := newTrustedWithRegistry sha256 config credentials, failed := [] } ops = some r) :
    (∀ front rest r, ops = front ++ rest →
      exec (step standard sha256 config)
        { state := newTrustedWithRegistry sha256 config credentials, failed := [] } front = some r →
      Atomic config r) ↔
    Along (step standard sha256 config) (Careful standard sha256 config)
      { state := newTrustedWithRegistry sha256 config credentials, failed := [] } ops :=
  forall_reached_iff_along (fun _ hinv => hinv.atomic)
    (fun _ _ _ hinv hcareful hstep => hinv.step hcareful hstep)
    (fun _ _ _ _ hcareful hstep => not_atomic_of_not_careful hcareful hstep)
    (invariant_start credentials) h

def sampleKey : String := "ed25519-v1:11qYAYKxCrfVS/7TyWQHOg7hcvPapiMlrwIaaPcHURo="

/-- A relay without daemons. -/
def emptyRelay : RegistrationRun where
  state := newTrustedWithRegistry RelayState.sampleSha256 RelayState.sampleConfig []
  failed := []

/-- A registration of which both writes succeed. -/
def registerSample : RegistrationOp :=
  .call (.registerDaemonIdentity ⟨7⟩ RelayState.oldToken sampleKey (some "setup-token") true true)

theorem atomic_of_registered :
    ∃ r, exec (step Base64.standardEngine RelayState.sampleSha256 RelayState.sampleConfig)
      emptyRelay [registerSample] = some r ∧ Atomic RelayState.sampleConfig r := by
  obtain ⟨r, hr⟩ : ∃ r, exec (step Base64.standardEngine RelayState.sampleSha256
      RelayState.sampleConfig) emptyRelay [registerSample] = some r :=
    Option.isSome_iff_exists.mp (by decide +kernel)
  refine ⟨r, hr, (atomic_iff_careful [] _ r hr).mpr ?_ _ [] r (List.append_nil _).symm hr⟩
  exact ⟨fun _ => .inl rfl, fun _ _ => trivial⟩

/-- The second write fails: the call reports an error, the token and the key are in memory, and the
file has the token without the key. -/
theorem registration_not_atomic :
    let hash := relayDaemonTokenHash RelayState.sampleSha256 RelayState.oldToken
    let result := registerDaemonIdentity Base64.standardEngine RelayState.sampleSha256
      RelayState.sampleConfig emptyRelay.state ⟨7⟩ RelayState.oldToken sampleKey
      (some "setup-token") true false
    result.2 = .error .persistRegistry ∧
      emptyRelay.state.daemonTokenHashes.lookup ⟨7⟩ = none ∧
      result.1.daemonTokenHashes.lookup ⟨7⟩ = some hash ∧
      result.1.daemonPublicKeys.lookup ⟨7⟩ = some sampleKey ∧
      result.1.registry =
        some (Multiset.ofList [{ serverId := ⟨7⟩, tokenHash := hash, daemonPublicKey := none }]) := by
  decide +kernel

end RegistrationRun

end Termd.Relay
