import Termd.Ownership.Ledger
import Mathlib.Data.Finset.Insert

/-!
# The session manager

The daemon keeps in memory which sessions there are, which devices are attached to each, and how
large its terminal is. A record of a closed session stays, so that its state can be asked for.

## Main definitions

* `SessionRecord`, `SessionManager`: the records
* `SessionManager.createSession`, `SessionManager.attach`, `SessionManager.detach`,
  `SessionManager.close`, `SessionManager.resize`: the calls that change them

## Main results

* `SessionManager.attach_eq_ok`, `SessionManager.detach_eq_ok`, `SessionManager.resize_eq_ok`: a call
  changes the record of one session, which is open before and after it
-/

namespace Termd.Daemon

open Ownership (SessionState)
open Pty (PtySize)

inductive SessionError
  | sessionAlreadyExists
  | sessionNotFound
  | sessionClosed
  | deviceNotAttached
  | invalidSize
deriving DecidableEq

/-- An attached device has the one role there is, so that the devices are a set. -/
inductive AttachRole
  | operator

structure SessionRecord where
  state : SessionState := .created
  attachedDevices : Finset String := ∅
  size : PtySize := ⟨24, 80, 0, 0⟩
deriving DecidableEq

structure SessionManager where
  sessions : Table String SessionRecord := ∅
deriving DecidableEq

namespace SessionManager

variable (m : SessionManager)

def session (id : String) : Except SessionError SessionRecord :=
  match m.sessions.lookup id with
  | some record => .ok record
  | none => .error .sessionNotFound

/-- `session_mut` with `ensure_open`. -/
def openSession (id : String) : Except SessionError SessionRecord := do
  let record ← m.session id
  if record.state = .closed then .error .sessionClosed else .ok record

def set (id : String) (record : SessionRecord) : SessionManager where
  sessions := m.sessions.insert id record

def createSession (id : String) : Except SessionError SessionManager :=
  if (m.sessions.lookup id).isSome then .error .sessionAlreadyExists else .ok (m.set id {})

def attach (id device : String) : Except SessionError (AttachRole × SessionManager) := do
  let record ← m.openSession id
  return (.operator, m.set id { record with
    state := if record.state = .created then .running else record.state
    attachedDevices := insert device record.attachedDevices })

def detach (id device : String) : Except SessionError SessionManager := do
  let record ← m.openSession id
  if device ∈ record.attachedDevices then
    .ok (m.set id { record with attachedDevices := record.attachedDevices.erase device })
  else .error .deviceNotAttached

def close (id : String) : Except SessionError SessionManager := do
  let record ← m.session id
  return m.set id { record with state := .closed, attachedDevices := ∅ }

def resize (id : String) (size : PtySize) : Except SessionError SessionManager :=
  if size.rows = 0 ∨ size.cols = 0 then .error .invalidSize
  else do
    let record ← m.openSession id
    return m.set id { record with size }

def state (id : String) : Except SessionError SessionState := return (← m.session id).state

def role (id device : String) : Except SessionError (Option AttachRole) := do
  let record ← m.session id
  return if device ∈ record.attachedDevices then some .operator else none

def size (id : String) : Except SessionError PtySize := return (← m.session id).size

variable {m} {m' : SessionManager} {id device : String} {record : SessionRecord}

@[simp] theorem set_sessions : (m.set id record).sessions = m.sessions.insert id record := rfl

theorem state_eq_ok {state : SessionState} :
    m.state id = .ok state ↔ ∃ record, m.sessions.lookup id = some record ∧ record.state = state := by
  rw [SessionManager.state, session]
  cases m.sessions.lookup id <;> simp [bind, Except.bind, pure, Except.pure]

theorem openSession_eq_ok :
    m.openSession id = .ok record ↔ m.sessions.lookup id = some record ∧ record.state ≠ .closed := by
  rw [openSession, session]
  cases m.sessions.lookup id with
  | none => simp [bind, Except.bind]
  | some found =>
    simp only [bind, Except.bind]
    split_ifs with hclosed
    · constructor
      · intro h
        cases h
      · rintro ⟨hfound, hopen⟩
        cases hfound
        exact absurd hclosed hopen
    · constructor
      · intro h
        cases h
        exact ⟨rfl, hclosed⟩
      · rintro ⟨hfound, -⟩
        cases hfound
        rfl

theorem createSession_eq_ok :
    m.createSession id = .ok m' ↔ m.sessions.lookup id = none ∧ m' = m.set id {} := by
  rw [createSession]
  cases m.sessions.lookup id <;> simp [eq_comm]

theorem attach_eq_ok {role : AttachRole} (h : m.attach id device = .ok (role, m')) :
    ∃ record, m.sessions.lookup id = some record ∧ record.state ≠ .closed ∧
      m' = m.set id { record with
        state := .running, attachedDevices := insert device record.attachedDevices } := by
  rw [attach] at h
  cases hopen : m.openSession id with
  | error e =>
    rw [hopen] at h
    cases h
  | ok record =>
    rw [hopen] at h
    cases h
    obtain ⟨hrecord, hstate⟩ := openSession_eq_ok.mp hopen
    refine ⟨record, hrecord, hstate, ?_⟩
    cases hcase : record.state with
    | closed => exact absurd hcase hstate
    | created => rfl
    | running => rfl

theorem detach_eq_ok (h : m.detach id device = .ok m') :
    ∃ record, m.sessions.lookup id = some record ∧ record.state ≠ .closed ∧
      device ∈ record.attachedDevices ∧
      m' = m.set id { record with attachedDevices := record.attachedDevices.erase device } := by
  rw [detach] at h
  cases hopen : m.openSession id with
  | error e =>
    rw [hopen] at h
    cases h
  | ok record =>
    rw [hopen] at h
    obtain ⟨hrecord, hstate⟩ := openSession_eq_ok.mp hopen
    simp only [bind, Except.bind] at h
    split_ifs at h with hdevice
    cases h
    exact ⟨record, hrecord, hstate, hdevice, rfl⟩

theorem close_eq_ok :
    m.close id = .ok m' ↔ ∃ record, m.sessions.lookup id = some record ∧
      m' = m.set id { record with state := .closed, attachedDevices := ∅ } := by
  rw [close, session]
  cases m.sessions.lookup id <;> simp [bind, Except.bind, pure, Except.pure, eq_comm]

theorem resize_eq_ok {size : PtySize} (h : m.resize id size = .ok m') :
    ∃ record, m.sessions.lookup id = some record ∧ record.state ≠ .closed ∧
      m' = m.set id { record with size } := by
  rw [resize] at h
  split_ifs at h
  cases hopen : m.openSession id with
  | error e =>
    rw [hopen] at h
    cases h
  | ok record =>
    rw [hopen] at h
    cases h
    obtain ⟨hrecord, hstate⟩ := openSession_eq_ok.mp hopen
    exact ⟨record, hrecord, hstate, rfl⟩

end SessionManager

end Termd.Daemon
