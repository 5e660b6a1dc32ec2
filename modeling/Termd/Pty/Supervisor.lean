import Mathlib.Logic.Function.Basic
import Termd.Pty.Journal

/-!
# The state of the supervisor

One supervisor owns the PTY of a session. Daemons connect to it as controllers and terminals attach
to it; both are sent every terminal event. Only one controller is active: the one that attached last,
or a connection that resumed its lease. What the state says is changed under one lock.

## Main definitions

* `ControllerIdentity`: a controller and the connection that it uses
* `SupervisorState`: the state behind the lock
* `SupervisorState.attachSync`, `SupervisorState.resumeAttachSync`,
  `SupervisorState.commitControllerResume`: the ways to become active
* `SupervisorState.removeController`, `SupervisorState.removeClosed`: the ways to stop being it
-/

namespace Termd.Pty

structure ControllerIdentity where
  id : ℕ
  connectionId : ℕ
deriving DecidableEq

/-- The queue of a connection, `tx`, and the identity that the connection has. -/
structure ControllerHandle where
  tx : ℕ
  connectionId : ℕ

structure SupervisorSnapshotPayload where
  size : PtySize
  processId : Option ℕ
  exited : Bool
  retainedOutput : List UInt8
deriving DecidableEq

structure SupervisorAttachSyncPayload where
  controllerId : ℕ
  controllerConnectionId : ℕ
  snapshot : SupervisorSnapshotPayload
  baseSeq : ℕ
  frames : List PtyTerminalFrame
deriving DecidableEq

/-- `saturating_add(1)` on `u64` -/
def saturatingSucc (n : ℕ) : ℕ := min (n + 1) (2 ^ 64 - 1)

theorem le_saturatingSucc {n : ℕ} (h : n ≤ 2 ^ 64 - 1) : n ≤ saturatingSucc n := by
  rw [saturatingSucc]
  omega

theorem saturatingSucc_le (n : ℕ) : saturatingSucc n ≤ 2 ^ 64 - 1 := Nat.min_le_right ..

structure SupervisorState where
  cleanupCapability : Option (List UInt8)
  nextControllerId : ℕ := 1
  nextControllerConnectionId : ℕ := 1
  activeControllerId : Option ℕ := none
  activeControllerConnectionId : Option ℕ := none
  controllerResumeLeaseId : Option ℕ := none
  committedResumeTransactions : ℕ → Option ControllerIdentity := fun _ => none
  confirmedCloseOperationId : Option ℕ := none
  exited : Bool := false
  controllers : ℕ → Option ControllerHandle := fun _ => none
  nextTerminalAttachId : ℕ := 1
  terminalAttaches : ℕ → Option ℕ := fun _ => none
  attachedDevices : List String := []
  terminal : SupervisorTerminalCache

namespace SupervisorState

variable (s : SupervisorState)

/-- `with_optional_cleanup_capability` -/
def new (size : PtySize) (cleanupCapability : Option (List UInt8)) : SupervisorState where
  cleanupCapability := cleanupCapability
  terminal := .new size

/-- What a connection is told that is not the active controller. -/
def notActive : String := "session supervisor connection is not the active controller"

def buildAttachSyncPayload (controller : ControllerIdentity) (processId lastTerminalSeq : Option ℕ) :
    SupervisorAttachSyncPayload :=
  let (baseSeq, frames) := s.terminal.terminalSnapshotOrTail lastTerminalSeq
  { controllerId := controller.id
    controllerConnectionId := controller.connectionId
    snapshot := ⟨s.terminal.size, processId, s.exited, []⟩
    baseSeq, frames }

/-- `attach_sync`: a new controller, which is the active one from now on. -/
def attachSync (tx : ℕ) (processId lastTerminalSeq : Option ℕ) :
    SupervisorState × ControllerIdentity × SupervisorAttachSyncPayload :=
  let controller := ⟨s.nextControllerId, s.nextControllerConnectionId⟩
  let s := { s with
    nextControllerConnectionId := saturatingSucc s.nextControllerConnectionId
    nextControllerId := saturatingSucc s.nextControllerId
    controllers := Function.update s.controllers controller.id (some ⟨tx, controller.connectionId⟩)
    activeControllerId := some controller.id
    activeControllerConnectionId := some controller.connectionId
    controllerResumeLeaseId := some controller.id }
  (s, controller, s.buildAttachSyncPayload controller processId lastTerminalSeq)

/-- The lease belongs to the controller, and no other controller is active. -/
def mayResume (controllerId : ℕ) : Bool :=
  s.controllerResumeLeaseId = some controllerId &&
    s.activeControllerId.all (· = controllerId)

/-- `resume_attach_sync`: a candidate for the lease gets a connection id and nothing else. -/
def resumeAttachSync (controllerId : ℕ) (processId lastTerminalSeq : Option ℕ) :
    Except String (SupervisorState × ControllerIdentity × SupervisorAttachSyncPayload) :=
  if controllerId = 0 ∨ s.nextControllerId ≤ controllerId then .error notActive
  else if ¬s.mayResume controllerId then .error notActive
  else
    let controller := ⟨controllerId, s.nextControllerConnectionId⟩
    let s := { s with nextControllerConnectionId := saturatingSucc s.nextControllerConnectionId }
    .ok (s, controller, s.buildAttachSyncPayload controller processId lastTerminalSeq)

/-- The controller is made the active one, with the queue `tx`. -/
def activate (controller : ControllerIdentity) (tx : ℕ) : SupervisorState :=
  { s with
    controllers := Function.update s.controllers controller.id (some ⟨tx, controller.connectionId⟩)
    activeControllerId := some controller.id
    activeControllerConnectionId := some controller.connectionId }

/-- `commit_controller_resume`: a transaction that was committed before is only repeated. -/
def commitControllerResume (transactionId : ℕ) (candidate : ControllerIdentity) (tx : ℕ) :
    Except String (SupervisorState × ControllerIdentity) :=
  match s.committedResumeTransactions transactionId with
  | some committed =>
    if committed.id ≠ candidate.id then .error "session supervisor resume transaction mismatch"
    else .ok (s.activate committed tx, committed)
  | none =>
    if ¬s.mayResume candidate.id then .error notActive
    else
      let s := s.activate candidate tx
      .ok ({ s with committedResumeTransactions :=
        Function.update s.committedResumeTransactions transactionId (some candidate) }, candidate)

def isActiveController (controller : ControllerIdentity) : Bool :=
  s.activeControllerId = some controller.id &&
    s.activeControllerConnectionId = some controller.connectionId &&
    (s.controllers controller.id).any (·.connectionId = controller.connectionId)

def removeController (controller : ControllerIdentity) : SupervisorState :=
  let shouldRemove := (s.controllers controller.id).any (·.connectionId = controller.connectionId)
  let s := if shouldRemove then
      { s with controllers := Function.update s.controllers controller.id none }
    else s
  if s.activeControllerId = some controller.id ∧
      s.activeControllerConnectionId = some controller.connectionId then
    { s with activeControllerId := none, activeControllerConnectionId := none }
  else s

/-- The end of `broadcast_terminal_frame`: the controllers whose queues refused the frame. -/
def removeClosed (closed : List ℕ) : SupervisorState :=
  closed.foldl (fun s id =>
    match s.controllers id with
    | some handle => s.removeController ⟨id, handle.connectionId⟩
    | none => s) s

def registerTerminalAttach (tx : ℕ) : SupervisorState × ℕ :=
  ({ s with
    nextTerminalAttachId := saturatingSucc s.nextTerminalAttachId
    terminalAttaches := Function.update s.terminalAttaches s.nextTerminalAttachId (some tx) },
    s.nextTerminalAttachId)

def removeTerminalAttach (attachId : ℕ) : SupervisorState :=
  { s with terminalAttaches := Function.update s.terminalAttaches attachId none }

/-- `record_output`, `resize` and `record_exit`, with the frame to broadcast. -/
def record (width : Char → Option (Fin 3)) (op : CacheOp) :
    Option (SupervisorState × PtyTerminalFrame) := do
  let (terminal, frame) ← s.terminal.call width op
  return ({ s with terminal, exited := s.exited || op matches .exit _ }, frame)

variable {s}

@[simp] theorem removeController_terminal (controller : ControllerIdentity) :
    (s.removeController controller).terminal = s.terminal := by
  simp only [removeController]
  split_ifs <;> rfl

@[simp] theorem removeClosed_terminal (closed : List ℕ) :
    (s.removeClosed closed).terminal = s.terminal := by
  induction closed generalizing s with
  | nil => rfl
  | cons id closed ih =>
    refine ih.trans ?_
    dsimp only
    split
    · exact removeController_terminal _
    · rfl

@[simp] theorem removeController_terminalAttaches (controller : ControllerIdentity) :
    (s.removeController controller).terminalAttaches = s.terminalAttaches := by
  simp only [removeController]
  split_ifs <;> rfl

@[simp] theorem removeClosed_terminalAttaches (closed : List ℕ) :
    (s.removeClosed closed).terminalAttaches = s.terminalAttaches := by
  induction closed generalizing s with
  | nil => rfl
  | cons id closed ih =>
    refine ih.trans ?_
    dsimp only
    split
    · exact removeController_terminalAttaches _
    · rfl

/-- What `record` does to the terminal. -/
theorem record_eq_some {width : Char → Option (Fin 3)} {op : CacheOp} {s' : SupervisorState}
    {frame : PtyTerminalFrame} (h : s.record width op = some (s', frame)) :
    s.terminal.call width op = some (s'.terminal, frame) := by
  simp only [record, Option.bind_eq_bind, Option.bind_eq_some_iff, Option.pure_def,
    Option.some.injEq, Prod.mk.injEq] at h
  obtain ⟨⟨terminal, frame'⟩, hcall, rfl, rfl⟩ := h
  exact hcall

theorem record_controllers {width : Char → Option (Fin 3)} {op : CacheOp} {s' : SupervisorState}
    {frame : PtyTerminalFrame} (h : s.record width op = some (s', frame)) :
    s'.controllers = s.controllers := by
  simp only [record, Option.bind_eq_bind, Option.bind_eq_some_iff, Option.pure_def,
    Option.some.injEq, Prod.mk.injEq] at h
  obtain ⟨⟨terminal, frame'⟩, hcall, rfl, rfl⟩ := h
  rfl

theorem record_terminalAttaches {width : Char → Option (Fin 3)} {op : CacheOp} {s' : SupervisorState}
    {frame : PtyTerminalFrame} (h : s.record width op = some (s', frame)) :
    s'.terminalAttaches = s.terminalAttaches := by
  simp only [record, Option.bind_eq_bind, Option.bind_eq_some_iff, Option.pure_def,
    Option.some.injEq, Prod.mk.injEq] at h
  obtain ⟨⟨terminal, frame'⟩, hcall, rfl, rfl⟩ := h
  rfl

end SupervisorState

end Termd.Pty
