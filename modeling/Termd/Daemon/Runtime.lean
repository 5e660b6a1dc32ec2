import Termd.Daemon.Sessions

/-!
# The session runtime

Beside the records of the session manager the daemon holds a handle of the PTY of each session. The
two maps are changed by the same calls, but not always together: a session whose child exited by
itself is closed in the session manager, and its handle stays until the session is closed.

What the PTY answers during a call is an argument of the call.

## Main definitions

* `PtySession`, `RuntimeSession`, `SessionRuntime`: the handles beside the session manager
* `SessionRuntime.publishOwnedSession`, `SessionRuntime.reconnectSession`: a handle is taken in
* `SessionRuntime.attach`, `SessionRuntime.detach`, `SessionRuntime.writeInput`, …: calls on a handle
* `SessionRuntime.observeNaturalExit`: the child is found to have exited
* `SessionRuntime.takeForCleanup`: a handle is given up
-/

namespace Termd.Daemon

open Ownership (SessionState PtyRestoreInfo)
open Pty (PtySize)

/-- The handle of a PTY, with the devices that its supervisor takes as attached. There is no such set
where the backend has no notion of it. -/
structure PtySession where
  authority : Option (Finset String) := none
deriving DecidableEq

namespace PtySession

def attachDevice (pty : PtySession) (device : String) : PtySession where
  authority := pty.authority.map (insert device)

def detachDevice (pty : PtySession) (device : String) : PtySession where
  authority := pty.authority.map (·.erase device)

end PtySession

structure RuntimeSession where
  pty : PtySession
  watchedAttachments : Finset String := ∅
  attachedDevices : Finset String := ∅
  terminationConfirmed : Bool := false
deriving DecidableEq

structure SessionRuntime where
  sessions : SessionManager := {}
  runtimeSessions : Table String RuntimeSession := ∅

inductive RuntimeError
  | sessionAlreadyExists
  | sessionNotFound
  | sessionClosed
  | deviceNotAttached
  | invalidSize
  | notReconnectable
  | pty

def RuntimeError.ofSession : SessionError → RuntimeError
  | .sessionAlreadyExists => .sessionAlreadyExists
  | .sessionNotFound => .sessionNotFound
  | .sessionClosed => .sessionClosed
  | .deviceNotAttached => .deviceNotAttached
  | .invalidSize => .invalidSize

/-- What the PTY answers during a call. Each field says whether the function succeeds. -/
structure PtyAnswers where
  authorityAttachDevice : Bool := true
  authorityDetachDevice : Bool := true
  authorityHasDevice : Bool := true
  attachClient : Bool := true
  detachClient : Bool := true
  writeAll : Bool := true
  /-- `try_wait`: whether the child exited -/
  tryWait : Option Bool := some false

namespace SessionRuntime

variable (r : SessionRuntime)

def runtimeSession (id : String) : Except RuntimeError RuntimeSession :=
  match r.runtimeSessions.lookup id with
  | some handle => .ok handle
  | none => .error .sessionNotFound

def setRuntimeSession (id : String) (handle : RuntimeSession) : SessionRuntime :=
  { r with runtimeSessions := r.runtimeSessions.insert id handle }

/-- `ensure_open_session`, with the handle that it finds. -/
def ensureOpenSession (id : String) : Except RuntimeError RuntimeSession :=
  match r.sessions.state id with
  | .error error => .error (.ofSession error)
  | .ok state => if state = .closed then .error .sessionClosed else r.runtimeSession id

def state (id : String) : Except RuntimeError SessionState :=
  (r.sessions.state id).mapError .ofSession

def size (id : String) : Except RuntimeError PtySize :=
  (r.sessions.size id).mapError .ofSession

/-- `restore_info`, with what the PTY answers. -/
def restoreInfo (id : String) (answer : Option PtyRestoreInfo) :
    Except RuntimeError (Option PtyRestoreInfo) := do
  let _ ← r.ensureOpenSession id
  return answer

def sessionAuthorityHasDevice (id device : String) (answers : PtyAnswers) :
    Except RuntimeError (Option Bool) := do
  let handle ← r.runtimeSession id
  if answers.authorityHasDevice then
    return handle.pty.authority.map fun devices => device ∈ devices
  else .error .pty

def role (id device : String) (answers : PtyAnswers) : Except RuntimeError (Option AttachRole) := do
  if (r.runtimeSessions.lookup id).isSome then
    if let some attached ← r.sessionAuthorityHasDevice id device answers then
      return if attached then some .operator else none
  (r.sessions.role id device).mapError .ofSession

/-! ### A handle is taken in -/

/-- `publish_owned_session`, and whether it returns; where it does not, it panics. -/
def publishOwnedSession (id : String) (pty : PtySession) (size : PtySize) : SessionRuntime × Bool :=
  if (r.runtimeSessions.lookup id).isSome then (r, false)
  else match r.sessions.createSession id with
    | .error _ => (r, false)
    | .ok created =>
      match created.resize id size with
      | .error _ => ({ r with sessions := created }, false)
      | .ok sessions => ({ r with sessions }.setRuntimeSession id { pty }, true)

/-- The device that `reconnect_session` attaches for a moment, so that the session is running. -/
def recoveryDevice (id : String) : String := "__runtime-recovery-" ++ id

/-- `reconnect_session`, with what the backend answers. -/
def reconnectSession (id : String) (state : SessionState) (size : PtySize)
    (restoreInfo : Option PtyRestoreInfo) (reconnect : Option PtySession) :
    SessionRuntime × Except RuntimeError Unit :=
  if (r.runtimeSessions.lookup id).isSome then (r, .error .sessionAlreadyExists)
  else if state = .closed then (r, .error .sessionClosed)
  else if restoreInfo = none then (r, .error .notReconnectable)
  else if size.rows = 0 ∨ size.cols = 0 then (r, .error .invalidSize)
  else match reconnect with
    | none => (r, .error .pty)
    | some pty =>
      match r.sessions.createSession id with
      | .error error => (r, .error (.ofSession error))
      | .ok created =>
        match created.resize id size with
        | .error error => ({ r with sessions := created }, .error (.ofSession error))
        | .ok resized =>
          if state = .running then
            match resized.attach id (recoveryDevice id) with
            | .error error => ({ r with sessions := resized }, .error (.ofSession error))
            | .ok (_, attached) =>
              -- what the detach returns is ignored
              let sessions := (attached.detach id (recoveryDevice id)).toOption.getD attached
              ({ r with sessions }.setRuntimeSession id { pty }, .ok ())
          else ({ r with sessions := resized }.setRuntimeSession id { pty }, .ok ())

/-! ### A handle is given up -/

/-- The handle is removed, and the session is closed. -/
def remove (id : String) : SessionRuntime × Except RuntimeError RuntimeSession :=
  match r.runtimeSessions.lookup id with
  | none => (r, .error .sessionNotFound)
  | some handle =>
    let removed : SessionRuntime := { r with runtimeSessions := r.runtimeSessions.erase id }
    match r.sessions.close id with
    | .error error => (removed, .error (.ofSession error))
    | .ok sessions => ({ removed with sessions }, .ok handle)

def takeForCleanup (id : String) : SessionRuntime × Except RuntimeError RuntimeSession := r.remove id

/-! ### Calls on a handle -/

/-- `observe_natural_exit`, with what `try_wait` answers. -/
def observeNaturalExit (id : String) (tryWait : Option Bool) :
    SessionRuntime × Except RuntimeError Bool :=
  match r.sessions.state id with
  | .error error => (r, .error (.ofSession error))
  | .ok state =>
    if state = .closed then (r, .ok true)
    else match r.runtimeSession id with
      | .error error => (r, .error error)
      | .ok handle =>
        match tryWait with
        | none => (r, .error .pty)
        | some false => (r, .ok false)
        | some true =>
          let observed := r.setRuntimeSession id
            { handle with terminationConfirmed := true, watchedAttachments := ∅ }
          match r.sessions.close id with
          | .error error => (observed, .error (.ofSession error))
          | .ok sessions => ({ observed with sessions }, .ok true)

/-- What a call does when the PTY fails: the child may have exited. -/
def fail (id : String) (tryWait : Option Bool) {α : Type} : SessionRuntime × Except RuntimeError α :=
  match r.observeNaturalExit id tryWait with
  | (observed, .error error) => (observed, .error error)
  | (observed, .ok true) => (observed, .error .sessionClosed)
  | (observed, .ok false) => (observed, .error .pty)

def attach (id device : String) (answers : PtyAnswers) :
    SessionRuntime × Except RuntimeError AttachRole :=
  match r.ensureOpenSession id with
  | .error error => (r, .error error)
  | .ok handle =>
    if answers.authorityAttachDevice then
      let pty := handle.pty.attachDevice device
      match r.sessions.attach id device with
      | .error error => (r.setRuntimeSession id { handle with pty }, .error (.ofSession error))
      | .ok (role, sessions) =>
        ({ r with sessions }.setRuntimeSession id { handle with
          pty, attachedDevices := insert device handle.attachedDevices }, .ok role)
    else r.fail id answers.tryWait

/-- The end of `detach`: the device is taken off the session manager, and off the handle. -/
def detachLocal (id device : String) (handle : RuntimeSession) (detachedByAuthority : Bool) :
    SessionRuntime × Except RuntimeError Unit :=
  let detached := { handle with attachedDevices := handle.attachedDevices.erase device }
  match r.sessions.detach id device with
  | .ok sessions => ({ r with sessions }.setRuntimeSession id detached, .ok ())
  | .error error =>
    if error = .deviceNotAttached ∧ detachedByAuthority then (r.setRuntimeSession id detached, .ok ())
    else (r.setRuntimeSession id handle, .error (.ofSession error))

def detach (id device : String) (answers : PtyAnswers) : SessionRuntime × Except RuntimeError Unit :=
  match r.ensureOpenSession id with
  | .error error => (r, .error error)
  | .ok handle =>
    match r.sessionAuthorityHasDevice id device answers with
    | .error error => (r, .error error)
    | .ok (some true) =>
      if answers.authorityDetachDevice then
        r.detachLocal id device { handle with pty := handle.pty.detachDevice device } true
      else (r, .error .pty)
    | .ok _ => r.detachLocal id device handle false

def writeInput (id device : String) (answers : PtyAnswers) :
    SessionRuntime × Except RuntimeError Unit :=
  match r.ensureOpenSession id with
  | .error error => (r, .error error)
  | .ok _ =>
    match r.role id device answers with
    | .error error => (r, .error error)
    | .ok none => (r, .error .deviceNotAttached)
    | .ok (some .operator) =>
      if answers.writeAll then (r, .ok ()) else r.fail id answers.tryWait

def startWatchedAttachment (id attachment : String) (size : PtySize) (answers : PtyAnswers) :
    SessionRuntime × Except RuntimeError Unit :=
  match r.ensureOpenSession id with
  | .error error => (r, .error error)
  | .ok handle =>
    if attachment ∈ handle.watchedAttachments then (r, .ok ())
    else if size.rows = 0 ∨ size.cols = 0 then (r, .error .invalidSize)
    else if answers.attachClient then
      (r.setRuntimeSession id { handle with
        watchedAttachments := insert attachment handle.watchedAttachments }, .ok ())
    else (r, .error .pty)

def dropWatchedAttachment (id attachment : String) (answers : PtyAnswers) :
    SessionRuntime × Except RuntimeError Unit :=
  match r.ensureOpenSession id with
  | .error error => (r, .error error)
  | .ok handle =>
    if attachment ∈ handle.watchedAttachments then
      (r.setRuntimeSession id { handle with
        watchedAttachments := handle.watchedAttachments.erase attachment },
        if answers.detachClient then .ok () else .error .pty)
    else (r, .ok ())

def recordWatchedAttachmentResize (id : String) (size : PtySize) :
    SessionRuntime × Except RuntimeError Unit :=
  match r.ensureOpenSession id with
  | .error error => (r, .error error)
  | .ok _ =>
    match r.sessions.resize id size with
    | .error error => (r, .error (.ofSession error))
    | .ok sessions => ({ r with sessions }, .ok ())

end SessionRuntime

end Termd.Daemon
