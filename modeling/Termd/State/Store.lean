import Mathlib.Data.List.Sort
import Mathlib.Data.String.Basic
import Termd.Ownership.Ledger

/-!
# The state that the daemon keeps

The identity of the daemon, its trusted devices and its sessions are in three tables, and each table
has its own rule. The identity is replaced or deleted, the devices are replaced as a whole, and the
sessions of a snapshot are merged into the table: a session that is missing from the snapshot stays
as it is, and a session that is closed stays closed. An identifier is taken for its text.

## Main definitions

* `DaemonState`: what is saved and loaded
* `Db`: the tables
* `RestoreCodec`, `serializeRestoreInfo`, `parseRestoreInfo`: how a supervisor is found again
* `save`, `recordRuntimeSessionClosed`, `pruneClosedSession`, `pruneClosedSessionsExcept`: the writers
* `loadSqliteState`, `load`: the readers
-/

namespace Termd.State

open Ownership (PtyRestoreInfo PtySupervisorStatus SessionState)
open Pty (PtySize)

/-! ### The state -/

structure DaemonIdentitySnapshot where
  serverId : String
  publicKey : String
  privateKey : Option String

structure TrustedDeviceState where
  deviceId : String
  publicKey : String
  trustedAtMs : ℕ
  lastSeenAtMs : Option ℕ
  label : Option String

structure SessionStateRecord where
  sessionId : String
  state : SessionState
  size : PtySize
  createdAtMs : ℕ
  updatedAtMs : ℕ
  restoreInfo : Option PtyRestoreInfo

structure DaemonState where
  version : ℕ
  daemonIdentity : Option DaemonIdentitySnapshot
  trustedDevices : List TrustedDeviceState
  sessions : List SessionStateRecord

def STATE_SCHEMA_VERSION : ℕ := 3

/-! ### The tables -/

/-- The keys of `daemon_meta`. -/
inductive MetaKey
  | stateSchemaVersion
  | serverId
  | daemonPublicKey
  | daemonPrivateKey
deriving DecidableEq

structure TrustedDeviceRow where
  publicKey : String
  trustedAtMs : ℤ
  lastSeenAtMs : Option ℤ
  label : Option String

structure RuntimeSessionRow where
  state : String
  rows : ℤ
  cols : ℤ
  pixelWidth : ℤ
  pixelHeight : ℤ
  createdAtMs : ℤ
  updatedAtMs : ℤ
  restoreKind : Option String
  restoreValue : Option String

structure Db where
  daemonMeta : Table MetaKey String := ∅
  trustedDevices : Table String TrustedDeviceRow := ∅
  runtimeSessions : Table String RuntimeSessionRow := ∅

/-- A statement of a transaction. -/
abbrev Statement := Db → Option Db

/-! ### Columns -/

def sessionStateText : SessionState → String
  | .created => "created"
  | .running => "running"
  | .closed => "closed"

def parseSessionState (raw : String) : Option SessionState :=
  if raw = "created" then some .created
  else if raw = "running" then some .running
  else if raw = "closed" then some .closed
  else none

/-- `as i64` of a `u64`. -/
def toI64 (n : ℕ) : ℤ :=
  if n % 2 ^ 64 < 2 ^ 63 then (n % 2 ^ 64 : ℕ) else (n % 2 ^ 64 : ℕ) - 2 ^ 64

def integerToU16 (value : ℤ) : Option UInt16 :=
  if 0 ≤ value ∧ value < 2 ^ 16 then some (UInt16.ofNat value.toNat) else none

def integerToTimestamp (value : ℤ) : Option ℕ := if 0 ≤ value then some value.toNat else none

/-- The JSON texts of the two kinds of restore information, which are read back. -/
structure RestoreCodec where
  unixSocketText : String → ℕ → PtySupervisorStatus → String
  parseUnixSocket : String → Option (String × ℕ × PtySupervisorStatus)
  tmuxText : String → String → String
  parseTmux : String → Option (String × String)
  parse_unixSocketText : ∀ socketPath supervisorPid supervisorStatus,
    parseUnixSocket (unixSocketText socketPath supervisorPid supervisorStatus) =
      some (socketPath, supervisorPid, supervisorStatus)
  parse_tmuxText : ∀ socketPath sessionName,
    parseTmux (tmuxText socketPath sessionName) = some (socketPath, sessionName)

section Codec

variable (codec : RestoreCodec)

def serializeRestoreInfo : Option PtyRestoreInfo → Option String × Option String
  | some (.unixSocket socketPath supervisorPid supervisorStatus) =>
    (some "unix_socket", some (codec.unixSocketText socketPath supervisorPid supervisorStatus))
  | some (.tmux socketPath sessionName) =>
    (some "tmux", some (codec.tmuxText socketPath sessionName))
  | none => (none, none)

def parseRestoreInfo : Option String → Option String → Option (Option PtyRestoreInfo)
  | none, none => some none
  | some kind, some rawValue =>
    if kind = "unix_socket" then
      (codec.parseUnixSocket rawValue).map fun (socketPath, supervisorPid, supervisorStatus) =>
        some (.unixSocket socketPath supervisorPid supervisorStatus)
    else if kind = "tmux" then
      (codec.parseTmux rawValue).map fun (socketPath, sessionName) =>
        some (.tmux socketPath sessionName)
    else none
  | _, _ => none

/-! ### Statements -/

def upsertMetaValue (key : MetaKey) (value : String) : Statement := fun db =>
  some { db with daemonMeta := db.daemonMeta.insert key value }

def deleteMetaValue (key : MetaKey) : Statement := fun db =>
  some { db with daemonMeta := db.daemonMeta.erase key }

def saveIdentity : Option DaemonIdentitySnapshot → List Statement
  | some identity =>
    [upsertMetaValue .serverId identity.serverId,
      upsertMetaValue .daemonPublicKey identity.publicKey,
      match identity.privateKey with
      | some privateKey => upsertMetaValue .daemonPrivateKey privateKey
      | none => deleteMetaValue .daemonPrivateKey]
  | none =>
    [fun db => some { db with
      daemonMeta := ((db.daemonMeta.erase .serverId).erase .daemonPublicKey).erase
        .daemonPrivateKey }]

def deleteTrustedDevices : Statement := fun db => some { db with trustedDevices := ∅ }

def TrustedDeviceState.row (device : TrustedDeviceState) : TrustedDeviceRow where
  publicKey := device.publicKey
  trustedAtMs := toI64 device.trustedAtMs
  lastSeenAtMs := device.lastSeenAtMs.map toI64
  label := device.label

def insertTrustedDevice (device : TrustedDeviceState) : Statement := fun db =>
  (db.trustedDevices.insertNew device.deviceId device.row).map fun trustedDevices =>
    { db with trustedDevices }

/-- A row that is inserted for a session; a closed one has nothing to restore. -/
def SessionStateRecord.row (session : SessionStateRecord) : RuntimeSessionRow :=
  let restore := if session.state = .closed then (none, none)
    else serializeRestoreInfo codec session.restoreInfo
  { state := sessionStateText session.state
    rows := session.size.rows.toNat
    cols := session.size.cols.toNat
    pixelWidth := session.size.pixelWidth.toNat
    pixelHeight := session.size.pixelHeight.toNat
    createdAtMs := toI64 session.createdAtMs
    updatedAtMs := toI64 session.updatedAtMs
    restoreKind := restore.1
    restoreValue := restore.2 }

def closedText : String := sessionStateText .closed

/-- `ON CONFLICT` of the rows of a snapshot. -/
def RuntimeSessionRow.onConflict (row excluded : RuntimeSessionRow) : RuntimeSessionRow :=
  { excluded with
    state := if row.state = closedText ∨ excluded.state = closedText then closedText
      else excluded.state
    restoreKind := if row.state = closedText ∨ excluded.state = closedText then none
      else excluded.restoreKind
    restoreValue := if row.state = closedText ∨ excluded.state = closedText then none
      else excluded.restoreValue }

def upsertSession (session : SessionStateRecord) : Statement := fun db =>
  let excluded := session.row codec
  let row := match db.runtimeSessions.lookup session.sessionId with
    | none => excluded
    | some row => row.onConflict excluded
  some { db with runtimeSessions := db.runtimeSessions.insert session.sessionId row }

def closeSession (sessionId : String) (nowMs : ℕ) : Statement := fun db =>
  let row := match db.runtimeSessions.lookup sessionId with
    | none => ⟨closedText, 1, 1, 0, 0, toI64 nowMs, toI64 nowMs, none, none⟩
    | some row =>
      { row with
        state := closedText
        updatedAtMs := toI64 nowMs
        restoreKind := none
        restoreValue := none }
  some { db with runtimeSessions := db.runtimeSessions.insert sessionId row }

def deleteClosedSession (sessionId : String) : Statement := fun db =>
  some { db with
    runtimeSessions := db.runtimeSessions.deleteWhere sessionId fun row => row.state = closedText }

/-! ### The version -/

/-- There is something in the store besides its version. -/
def Db.hasContent (db : Db) : Bool :=
  db.daemonMeta.entries.any (fun entry => entry.1 ≠ .stateSchemaVersion) ||
    !db.trustedDevices.entries.isEmpty || !db.runtimeSessions.entries.isEmpty

def versionText : String := toString STATE_SCHEMA_VERSION

/-- `str::parse::<u32>` -/
def parseU32 (raw : String) : Option ℕ :=
  let digits := match raw.toList with
    | '+' :: digits => digits
    | digits => digits
  if digits ≠ [] ∧ digits.all Char.isDigit = true then
    let value := digits.foldl (fun value digit => 10 * value + (digit.toNat - 0x30)) 0
    if value < 2 ^ 32 then some value else none
  else none

/-- `ensure_sqlite_state_version`: a store of version 2 is brought up to date. -/
def ensureSqliteStateVersion (db : Db) : Option Db :=
  match db.daemonMeta.lookup .stateSchemaVersion with
  | some raw =>
    match parseU32 raw with
    | none => none
    | some found =>
      if found = 2 then upsertMetaValue .stateSchemaVersion versionText db
      else if found = STATE_SCHEMA_VERSION then some db
      else none
  | none => if db.hasContent then none else some db

/-! ### Writers -/

/-- The statements of `save_sqlite_state`. -/
def saveBody (state : DaemonState) : List Statement :=
  upsertMetaValue .stateSchemaVersion (toString state.version) :: saveIdentity state.daemonIdentity ++
    deleteTrustedDevices :: state.trustedDevices.map insertTrustedDevice ++
    state.sessions.map (upsertSession codec)

def save (fault : Option Fault) (state : DaemonState) (db : Db) : Db × Outcome :=
  match ensureSqliteStateVersion db with
  | none => (db, .refused)
  | some db =>
    if state.version = STATE_SCHEMA_VERSION then transaction fault (saveBody codec state) db
    else (db, .refused)

end Codec

def recordRuntimeSessionClosed (fault : Option Fault) (sessionId : String) (nowMs : ℕ) (db : Db) :
    Db × Outcome :=
  match ensureSqliteStateVersion db with
  | none => (db, .refused)
  | some db =>
    transaction fault
      [upsertMetaValue .stateSchemaVersion versionText, closeSession sessionId nowMs] db

def pruneClosedSession (fault : Option Fault) (sessionId : String) (db : Db) : Db × Outcome :=
  match ensureSqliteStateVersion db with
  | none => (db, .refused)
  | some db => transaction fault [deleteClosedSession sessionId] db

/-- The closed sessions that are not protected. -/
def deletableSessions (protected_ : List String) (db : Db) : List String :=
  db.runtimeSessions.select fun sessionId row =>
    if row.state = closedText ∧ sessionId ∉ protected_ then some sessionId else none

def pruneClosedSessionsExcept (fault : Option Fault) (protected_ : List String) (db : Db) :
    Db × Outcome :=
  match ensureSqliteStateVersion db with
  | none => (db, .refused)
  | some db => transaction fault ((deletableSessions protected_ db).map deleteClosedSession) db

/-! ### Readers -/

/-- The identity, if there are a server id and a public key. -/
def loadIdentity (db : Db) : Option DaemonIdentitySnapshot :=
  match db.daemonMeta.lookup .serverId, db.daemonMeta.lookup .daemonPublicKey with
  | some serverId, some publicKey =>
    some ⟨serverId, publicKey, db.daemonMeta.lookup .daemonPrivateKey⟩
  | _, _ => none

def optionalTimestamp : Option ℤ → Option (Option ℕ)
  | none => some none
  | some value => (integerToTimestamp value).map some

def loadDevice (deviceId : String) (row : TrustedDeviceRow) : Option TrustedDeviceState := do
  let trustedAtMs ← integerToTimestamp row.trustedAtMs
  let lastSeenAtMs ← optionalTimestamp row.lastSeenAtMs
  return ⟨deviceId, row.publicKey, trustedAtMs, lastSeenAtMs, row.label⟩

def loadSession (codec : RestoreCodec) (sessionId : String) (row : RuntimeSessionRow) :
    Option SessionStateRecord := do
  let state ← parseSessionState row.state
  let rows ← integerToU16 row.rows
  let cols ← integerToU16 row.cols
  let pixelWidth ← integerToU16 row.pixelWidth
  let pixelHeight ← integerToU16 row.pixelHeight
  let restoreInfo ← parseRestoreInfo codec row.restoreKind row.restoreValue
  let createdAtMs ← integerToTimestamp row.createdAtMs
  let updatedAtMs ← integerToTimestamp row.updatedAtMs
  return ⟨sessionId, state, ⟨rows, cols, pixelWidth, pixelHeight⟩, createdAtMs, updatedAtMs,
    restoreInfo⟩

/-- `ORDER BY device_id` -/
def devicesInOrder (db : Db) : List (Sigma fun _ : String => TrustedDeviceRow) :=
  db.trustedDevices.entries.insertionSort fun a b => a.1 ≤ b.1

/-- `ORDER BY created_at_ms, session_id` -/
def sessionsInOrder (db : Db) : List (Sigma fun _ : String => RuntimeSessionRow) :=
  db.runtimeSessions.entries.insertionSort fun a b =>
    a.2.createdAtMs < b.2.createdAtMs ∨ a.2.createdAtMs = b.2.createdAtMs ∧ a.1 ≤ b.1

def loadSqliteState (codec : RestoreCodec) (db : Db) : Option DaemonState := do
  let trustedDevices ← (devicesInOrder db).mapM fun entry => loadDevice entry.1 entry.2
  let sessions ← (sessionsInOrder db).mapM fun entry => loadSession codec entry.1 entry.2
  return ⟨STATE_SCHEMA_VERSION, loadIdentity db, trustedDevices, sessions⟩

/-- `StateStore::load`. If the store is empty, the state of the old JSON file is taken: `legacy` is
`none` if it cannot be read, and `some none` if there is none. -/
def load (codec : RestoreCodec) (legacy : Option (Option DaemonState)) (db : Db) :
    Option DaemonState := do
  let db ← ensureSqliteStateVersion db
  let state ← loadSqliteState codec db
  if state.daemonIdentity.isSome || !state.trustedDevices.isEmpty || !state.sessions.isEmpty then
    return state
  else
    let legacy ← legacy
    return legacy.getD state

end Termd.State
