import Termd.Library.Transition
import Termd.Pty.Supervisor

/-!
# Controllers

Any number of connections attach to the supervisor, resume, commit, send requests, break off and are
dropped when their queue is full, in any order. A request is admitted under the lock of the state and
acts later, under the lock of what it changes.

The state remembers the last controller that attached in its lease, and a resumed connection is only
accepted for that controller. A commit that is repeated is not checked against the lease: a candidate
that was accepted before another controller attached takes the PTY away from it.

## Main definitions

* `Controllers`: the state, the connections, and a record of attaches and actions
* `Controllers.Exclusive`: at most one controller is active, and none that was superseded
* `Controllers.Current`: the guard of the steps that go wrong

## Main results

* `Controllers.exclusive_iff_current`: the runs in which controllers are exclusive
-/

namespace Termd.Pty

/-- The variables of `handle_supervisor_connection`, and the controller that was admitted for the
request that is being handled. -/
structure ControllerConnection where
  controllerIdentity : Option ControllerIdentity := none
  pendingResumeIdentity : Option ControllerIdentity := none
  committedResumeTransactionId : Option ℕ := none
  admitted : Option ControllerIdentity := none
  closed : Bool := false

/-- A connection handles one request after another. -/
def ControllerConnection.busy (connection : ControllerConnection) : Bool :=
  connection.closed || connection.admitted.isSome

/-- What an observer sees of the controllers. -/
inductive ControllerEvent
  /-- A new controller attached. -/
  | issued (id : ℕ)
  /-- A request wrote input, resized or closed the PTY, changed the attached devices or installed a
  cleanup capability. -/
  | acted (controller : ControllerIdentity)
deriving DecidableEq

structure Controllers where
  state : SupervisorState
  connections : ℕ → ControllerConnection := fun _ => {}
  trace : List ControllerEvent := []

inductive ControllerOp
  /-- `Attach`, or `AttachSync` without a controller to resume; the latter is refused after the PTY
  has exited. -/
  | attach (connection : ℕ) (sync : Bool) (processId lastTerminalSeq : Option ℕ)
  /-- `AttachSync` with a controller to resume -/
  | resume (connection controllerId : ℕ) (processId lastTerminalSeq : Option ℕ)
  | commitControllerResume (connection transactionId : ℕ)
  /-- `ensure_current_controller` at the start of a request -/
  | ensureCurrentController (connection : ℕ)
  /-- The rest of a request that was admitted. -/
  | act (connection : ℕ)
  /-- A request that was admitted fails before it changes anything. -/
  | giveUp (connection : ℕ)
  /-- `InstallCleanupCapability`, admitted under the lock that it is made under. -/
  | installCleanupCapability (connection : ℕ) (capability : List UInt8)
  /-- `ResetAttachedDevicesForController`, which names the controller. -/
  | resetAttachedDevices (controller : ControllerIdentity)
  /-- An event, and the controllers whose queues refuse its frame. -/
  | broadcast (op : CacheOp) (closed : List ℕ)
  /-- The end of a connection. -/
  | teardown (connection : ℕ)

namespace Controllers

variable (w : Controllers)

def setConnection (i : ℕ) (connection : ControllerConnection) : Controllers :=
  { w with connections := Function.update w.connections i connection }

def observe (event : ControllerEvent) : Controllers := { w with trace := w.trace ++ [event] }

/-- One request, or one lock that it takes; requests that are refused change nothing. -/
def step (width : Char → Option (Fin 3)) (w : Controllers) : ControllerOp → Option Controllers
  | .attach i sync processId lastTerminalSeq =>
    let connection := w.connections i
    if connection.busy then none
    else if connection.controllerIdentity.isSome ∨ (sync ∧ w.state.exited) then some w
    else
      let (state, controller, _) := w.state.attachSync i processId lastTerminalSeq
      some <| observe (setConnection { w with state } i
        { connection with controllerIdentity := some controller }) (.issued controller.id)
  | .resume i controllerId processId lastTerminalSeq =>
    let connection := w.connections i
    if connection.busy then none
    else if connection.controllerIdentity.isSome ∨ w.state.exited then some w
    else match w.state.resumeAttachSync controllerId processId lastTerminalSeq with
      | .error _ => some w
      | .ok (state, controller, _) =>
        some <| setConnection { w with state } i
          { connection with pendingResumeIdentity := some controller }
  | .commitControllerResume i transactionId =>
    let connection := w.connections i
    if connection.busy then none
    else match connection.pendingResumeIdentity with
      | none => some w
      | some candidate =>
        match w.state.commitControllerResume transactionId candidate i with
        | .error _ => some w
        | .ok (state, committed) =>
          some <| setConnection { w with state } i
            { connection with
              controllerIdentity := some committed
              pendingResumeIdentity := none
              committedResumeTransactionId := some transactionId }
  | .ensureCurrentController i =>
    let connection := w.connections i
    if connection.busy then none
    else match connection.controllerIdentity with
      | none => some w
      | some controller =>
        if w.state.isActiveController controller then
          some (w.setConnection i { connection with admitted := some controller })
        else some w
  | .act i =>
    let connection := w.connections i
    match connection.admitted with
    | none => none
    | some controller =>
      some <| observe (w.setConnection i { connection with admitted := none }) (.acted controller)
  | .giveUp i =>
    let connection := w.connections i
    if connection.admitted.isNone then none
    else some (w.setConnection i { connection with admitted := none })
  | .installCleanupCapability i capability =>
    let connection := w.connections i
    if connection.busy then none
    else match connection.controllerIdentity with
      | none => some w
      | some controller =>
        if w.state.isActiveController controller then
          let state := { w.state with cleanupCapability := some capability }
          some <| observe { w with state } (.acted controller)
        else some w
  | .resetAttachedDevices controller =>
    if w.state.isActiveController controller then
      let state := { w.state with attachedDevices := [] }
      some <| observe { w with state } (.acted controller)
    else some w
  | .broadcast op closed => do
    let (state, _) ← w.state.record width op
    return { w with state := state.removeClosed closed }
  | .teardown i =>
    let connection := w.connections i
    if connection.busy then none
    else
      let w := w.setConnection i { connection with closed := true }
      match connection.controllerIdentity with
      | none => some w
      | some identity =>
        let committedHere := connection.committedResumeTransactionId.any fun transactionId =>
          w.state.committedResumeTransactions transactionId = some identity
        if committedHere then some w else some { w with state := w.state.removeController identity }

/-- **Exclusive control**: at most one controller is active, none is that attached before another
one, and none of those has acted since. -/
structure Exclusive : Prop where
  unique : ∀ c c', w.state.isActiveController c → w.state.isActiveController c' → c = c'
  le_of_active : ∀ k, .issued k ∈ w.trace → ∀ c, w.state.isActiveController c → k ≤ c.id
  ordered : w.trace.Pairwise fun a b =>
    ∀ k c, a = .issued k → b = .acted c → k ≤ c.id

/-- **The guard**: a commit that is repeated finds the lease with its own controller, and so does a
request when it acts. -/
def Current : ControllerOp → Prop
  | .commitControllerResume i transactionId =>
    ∀ candidate committed, (w.connections i).pendingResumeIdentity = some candidate →
      w.state.committedResumeTransactions transactionId = some committed →
      committed.id = candidate.id → w.state.controllerResumeLeaseId = some committed.id
  | .act i =>
    ∀ controller, (w.connections i).admitted = some controller →
      w.state.controllerResumeLeaseId = some controller.id
  | _ => True

instance (op : ControllerOp) : Decidable (w.Current op) :=
  match op with
  | .commitControllerResume i transactionId =>
    decidable_of_iff (∀ candidate ∈ (w.connections i).pendingResumeIdentity,
      ∀ committed ∈ w.state.committedResumeTransactions transactionId,
        committed.id = candidate.id → w.state.controllerResumeLeaseId = some committed.id)
      ⟨fun h _ _ hcandidate hcommitted => h _ hcandidate _ hcommitted,
        fun h _ hcandidate _ hcommitted => h _ _ hcandidate hcommitted⟩
  | .act i =>
    inferInstanceAs (Decidable (∀ controller ∈ (w.connections i).admitted,
      w.state.controllerResumeLeaseId = some controller.id))
  | .attach .. | .resume .. | .ensureCurrentController _ | .giveUp _
  | .installCleanupCapability .. | .resetAttachedDevices _ | .broadcast .. | .teardown _ =>
    .isTrue trivial

end Controllers

/-! ### Operations on the state -/

namespace SupervisorState

variable {s s' : SupervisorState}

/-- The operations by which controllers are only lost. -/
structure Loses (s s' : SupervisorState) : Prop where
  next_eq : s'.nextControllerId = s.nextControllerId
  lease_eq : s'.controllerResumeLeaseId = s.controllerResumeLeaseId
  committed_eq : s'.committedResumeTransactions = s.committedResumeTransactions
  active_of : ∀ a, s'.activeControllerId = some a → s.activeControllerId = some a

theorem Loses.refl (s : SupervisorState) : s.Loses s := ⟨rfl, rfl, rfl, fun _ h => h⟩

theorem Loses.trans {t : SupervisorState} (h : s.Loses s') (h' : s'.Loses t) : s.Loses t :=
  ⟨h'.next_eq.trans h.next_eq, h'.lease_eq.trans h.lease_eq,
    h'.committed_eq.trans h.committed_eq, fun a ha => h.active_of a (h'.active_of a ha)⟩

theorem loses_removeController (controller : ControllerIdentity) :
    s.Loses (s.removeController controller) := by
  simp only [removeController]
  split_ifs <;> exact ⟨rfl, rfl, rfl, fun a h => by simp_all⟩

theorem loses_removeClosed (closed : List ℕ) : s.Loses (s.removeClosed closed) := by
  induction closed generalizing s with
  | nil => exact Loses.refl s
  | cons id closed ih =>
    refine Loses.trans ?_ ih
    dsimp only
    split
    · exact loses_removeController _
    · exact Loses.refl s

theorem loses_record {width : Char → Option (Fin 3)} {op : CacheOp} {frame : PtyTerminalFrame}
    (h : s.record width op = some (s', frame)) : s.Loses s' := by
  simp only [record, Option.bind_eq_bind, Option.bind_eq_some_iff, Option.pure_def,
    Option.some.injEq, Prod.mk.injEq] at h
  obtain ⟨_, -, rfl, -⟩ := h
  exact ⟨rfl, rfl, rfl, fun _ h => h⟩

theorem activeControllerId_of_isActiveController {c : ControllerIdentity}
    (h : s.isActiveController c) :
    s.activeControllerId = some c.id ∧ s.activeControllerConnectionId = some c.connectionId := by
  simp only [isActiveController, Bool.and_eq_true, decide_eq_true_eq] at h
  exact h.1

/-- **At most one controller is active**, whatever the state. -/
theorem isActiveController_unique {c c' : ControllerIdentity} (h : s.isActiveController c)
    (h' : s.isActiveController c') : c = c' := by
  obtain ⟨hid, hconnection⟩ := activeControllerId_of_isActiveController h
  obtain ⟨hid', hconnection'⟩ := activeControllerId_of_isActiveController h'
  obtain ⟨id, connectionId⟩ := c
  obtain ⟨id', connectionId'⟩ := c'
  rw [ControllerIdentity.mk.injEq]
  exact ⟨Option.some.inj (hid.symm.trans hid'), Option.some.inj (hconnection.symm.trans hconnection')⟩

theorem isActiveController_activate (c : ControllerIdentity) (tx : ℕ) :
    (s.activate c tx).isActiveController c := by
  simp [activate, isActiveController]

theorem mayResume_iff {id : ℕ} : s.mayResume id ↔
    s.controllerResumeLeaseId = some id ∧ ∀ a, s.activeControllerId = some a → a = id := by
  cases h : s.activeControllerId <;> simp [mayResume, h]

theorem resumeAttachSync_eq_ok {id : ℕ} {processId last : Option ℕ} {c : ControllerIdentity}
    {payload : SupervisorAttachSyncPayload}
    (h : s.resumeAttachSync id processId last = .ok (s', c, payload)) :
    s.mayResume id ∧ c.id = id ∧ s.Loses s' := by
  rw [resumeAttachSync] at h
  split_ifs at h with hid hmay
  cases h
  exact ⟨hmay, rfl, rfl, rfl, rfl, fun _ h => h⟩

/-- **A commit** repeats a transaction, or makes a candidate active that may resume. -/
theorem commitControllerResume_eq_ok {transactionId tx : ℕ} {candidate c : ControllerIdentity}
    (h : s.commitControllerResume transactionId candidate tx = .ok (s', c)) :
    c.id = candidate.id ∧
      (s.committedResumeTransactions transactionId = some c ∧ s' = s.activate c tx ∨
        s.committedResumeTransactions transactionId = none ∧ s.mayResume c.id ∧ c = candidate ∧
          s' = { (s.activate c tx) with
            committedResumeTransactions :=
              Function.update s.committedResumeTransactions transactionId (some c) }) := by
  rw [commitControllerResume] at h
  split at h
  case h_1 committed hcommitted =>
    split_ifs at h with hid
    cases h
    exact ⟨not_not.mp hid, .inl ⟨hcommitted, rfl⟩⟩
  case h_2 hnone =>
    split_ifs at h with hmay
    cases h
    exact ⟨rfl, .inr ⟨hnone, hmay, rfl, rfl⟩⟩

end SupervisorState

/-! ### The lease -/

namespace Controllers

variable {w w' : Controllers}

/-- A controller that attached no later than the one that holds the lease. -/
def Behind (w : Controllers) (id : ℕ) : Prop :=
  ∃ lease, w.state.controllerResumeLeaseId = some lease ∧ id ≤ lease

/-- **The invariant**: the lease belongs to the last controller that attached, the active controller
has the lease, and every controller that is known anywhere is behind it. -/
structure Leased (w : Controllers) : Prop where
  next_le : w.state.nextControllerId ≤ 2 ^ 64 - 1
  lease_le : ∀ lease, w.state.controllerResumeLeaseId = some lease →
    lease ≤ w.state.nextControllerId
  issued_lease : ∀ lease, w.state.controllerResumeLeaseId = some lease → .issued lease ∈ w.trace
  issued_behind : ∀ k, .issued k ∈ w.trace → w.Behind k
  active_eq : ∀ a, w.state.activeControllerId = some a → w.state.controllerResumeLeaseId = some a
  committed_behind : ∀ t c, w.state.committedResumeTransactions t = some c → w.Behind c.id
  pending_behind : ∀ i c, (w.connections i).pendingResumeIdentity = some c → w.Behind c.id
  admitted_behind : ∀ i c, (w.connections i).admitted = some c → w.Behind c.id
  ordered : w.trace.Pairwise fun a b => ∀ k c, a = .issued k → b = .acted c → k ≤ c.id

theorem leased_init (size : PtySize) (capability : Option (List UInt8)) :
    Leased { state := .new size capability } where
  next_le := show 1 ≤ 2 ^ 64 - 1 by decide
  lease_le := nofun
  issued_lease := nofun
  issued_behind := nofun
  active_eq := nofun
  committed_behind := nofun
  pending_behind := nofun
  admitted_behind := nofun
  ordered := .nil

theorem Leased.active_lease (h : w.Leased) {c : ControllerIdentity}
    (hc : w.state.isActiveController c) : w.state.controllerResumeLeaseId = some c.id :=
  h.active_eq c.id (SupervisorState.activeControllerId_of_isActiveController hc).1

theorem Leased.le_of_active (h : w.Leased) {k : ℕ} (hk : .issued k ∈ w.trace)
    {c : ControllerIdentity} (hc : w.state.controllerResumeLeaseId = some c.id) : k ≤ c.id := by
  obtain ⟨lease, hlease, hle⟩ := h.issued_behind k hk
  rwa [Option.some.inj (hlease.symm.trans hc)] at hle

theorem Leased.exclusive (h : w.Leased) : w.Exclusive where
  unique _ _ hc hc' := SupervisorState.isActiveController_unique hc hc'
  le_of_active _ hk _ hc := h.le_of_active hk (h.active_lease hc)
  ordered := h.ordered

/-- A step that moves neither the lease nor the trace, and makes nobody active. -/
theorem Leased.loses (h : w.Leased) (hstate : w.state.Loses w'.state) (htrace : w'.trace = w.trace)
    (hpending : ∀ i c, (w'.connections i).pendingResumeIdentity = some c → w.Behind c.id)
    (hadmitted : ∀ i c, (w'.connections i).admitted = some c → w.Behind c.id) : w'.Leased := by
  have hbehind : w'.Behind = w.Behind := by
    funext id
    rw [Behind, Behind, hstate.lease_eq]
  refine ⟨?_, ?_, ?_, ?_, ?_, ?_, ?_, ?_, ?_⟩
  · rw [hstate.next_eq]
    exact h.next_le
  · rw [hstate.next_eq, hstate.lease_eq]
    exact h.lease_le
  · rw [hstate.lease_eq, htrace]
    exact h.issued_lease
  · rw [htrace, hbehind]
    exact h.issued_behind
  · intro a ha
    rw [hstate.lease_eq]
    exact h.active_eq a (hstate.active_of a ha)
  · rw [hstate.committed_eq, hbehind]
    exact h.committed_behind
  · rwa [hbehind]
  · rwa [hbehind]
  · rw [htrace]
    exact h.ordered

/-- An action of the controller that has the lease. -/
theorem Leased.acted (h : w.Leased) {c : ControllerIdentity}
    (hc : w.state.controllerResumeLeaseId = some c.id) : (w.observe (.acted c)).Leased where
  next_le := h.next_le
  lease_le := h.lease_le
  issued_lease lease hlease := List.mem_append_left _ (h.issued_lease lease hlease)
  issued_behind k hk := by
    rcases List.mem_append.mp hk with hk | hk
    · exact h.issued_behind k hk
    · exact absurd (List.mem_singleton.mp hk) (by simp)
  active_eq := h.active_eq
  committed_behind := h.committed_behind
  pending_behind := h.pending_behind
  admitted_behind := h.admitted_behind
  ordered := by
    refine List.pairwise_append.mpr ⟨h.ordered, List.pairwise_singleton .., ?_⟩
    intro a ha b hb k c' hk hc'
    rw [List.mem_singleton.mp hb, ControllerEvent.acted.injEq] at hc'
    subst hk hc'
    exact h.le_of_active ha hc

/-- **A new controller** takes the lease: whoever was behind the old lease is behind it. -/
theorem Leased.attach (h : w.Leased) (tx : ℕ) (processId last : Option ℕ) :
    (observe { w with state := (w.state.attachSync tx processId last).1 }
      (.issued w.state.nextControllerId)).Leased := by
  have hbehind (id : ℕ) (hid : w.Behind id) : ∃ lease,
      some w.state.nextControllerId = some lease ∧ id ≤ lease := by
    obtain ⟨lease, hlease, hle⟩ := hid
    exact ⟨_, rfl, hle.trans (h.lease_le lease hlease)⟩
  refine ⟨saturatingSucc_le _, fun lease hlease => ?_, fun lease hlease => ?_, fun k hk => ?_,
    fun a ha => ha, fun t c hc => hbehind c.id (h.committed_behind t c hc),
    fun i c hc => hbehind c.id (h.pending_behind i c hc),
    fun i c hc => hbehind c.id (h.admitted_behind i c hc), ?_⟩
  · rw [← Option.some.inj hlease]
    exact le_saturatingSucc h.next_le
  · rw [← Option.some.inj hlease]
    exact List.mem_append_right _ (List.mem_singleton_self _)
  · rcases List.mem_append.mp hk with hk | hk
    · exact hbehind k (h.issued_behind k hk)
    · rw [List.mem_singleton, ControllerEvent.issued.injEq] at hk
      exact ⟨_, rfl, hk.le⟩
  · refine List.pairwise_append.mpr ⟨h.ordered, List.pairwise_singleton .., ?_⟩
    intro a _ b hb k c _ hc
    rw [List.mem_singleton.mp hb] at hc
    cases hc

/-- The controller with the lease is made active. -/
theorem Leased.activate (h : w.Leased) {c : ControllerIdentity} {tx : ℕ}
    (hc : w.state.controllerResumeLeaseId = some c.id) :
    Leased { w with state := w.state.activate c tx } where
  next_le := h.next_le
  lease_le := h.lease_le
  issued_lease := h.issued_lease
  issued_behind := h.issued_behind
  active_eq a ha := by
    rw [← Option.some.inj ha]
    exact hc
  committed_behind := h.committed_behind
  pending_behind := h.pending_behind
  admitted_behind := h.admitted_behind
  ordered := h.ordered

theorem Leased.recordCommit (h : w.Leased) {c : ControllerIdentity} (t : ℕ) (hc : w.Behind c.id) :
    Leased { w with state := { w.state with
      committedResumeTransactions :=
        Function.update w.state.committedResumeTransactions t (some c) } } :=
  { h with
    committed_behind := by
      intro t' c' hc'
      change Function.update _ _ _ _ = _ at hc'
      by_cases ht : t' = t
      · subst ht
        rw [Function.update_self] at hc'
        exact Option.some.inj hc' ▸ hc
      · rw [Function.update_of_ne ht] at hc'
        exact h.committed_behind t' c' hc' }

theorem Leased.setConnection (h : w.Leased) {i : ℕ} {connection : ControllerConnection}
    (hpending : ∀ c, connection.pendingResumeIdentity = some c → w.Behind c.id)
    (hadmitted : ∀ c, connection.admitted = some c → w.Behind c.id) :
    (w.setConnection i connection).Leased := by
  refine h.loses (.refl _) rfl (fun j c hc => ?_) fun j c hc => ?_
  all_goals
    by_cases hj : j = i
    · subst hj
      simp only [Controllers.setConnection, Function.update_self] at hc
      first | exact hpending c hc | exact hadmitted c hc
    · simp only [Controllers.setConnection, Function.update_of_ne hj] at hc
      first | exact h.pending_behind j c hc | exact h.admitted_behind j c hc

variable {width : Char → Option (Fin 3)} {op : ControllerOp}

/-- **A step that meets the guard** keeps the invariant. -/
theorem Leased.step (h : w.Leased) (hcurrent : w.Current op) (hstep : w.step width op = some w') :
    w'.Leased := by
  cases op with
  | attach i sync processId last =>
    simp only [Controllers.step] at hstep
    split_ifs at hstep <;> cases hstep
    · exact h
    · have hattach := h.attach i processId last
      exact hattach.setConnection (hattach.pending_behind i) (hattach.admitted_behind i)
  | resume i id processId last =>
    simp only [Controllers.step] at hstep
    split_ifs at hstep
    · cases hstep
      exact h
    · split at hstep <;> cases hstep
      case h_1 => exact h
      case h_2 state controller payload hok =>
        obtain ⟨hmay, hid, hloses⟩ := SupervisorState.resumeAttachSync_eq_ok hok
        have hlease := (SupervisorState.mayResume_iff.mp hmay).1
        have hstate : Leased { w with state } :=
          h.loses hloses rfl h.pending_behind h.admitted_behind
        refine hstate.setConnection (fun c hc => ?_) (hstate.admitted_behind i)
        obtain rfl : controller = c := Option.some.inj hc
        exact ⟨id, hloses.lease_eq.trans hlease, hid.le⟩
  | commitControllerResume i t =>
    simp only [Controllers.step] at hstep
    split_ifs at hstep
    split at hstep
    case h_1 =>
      cases hstep
      exact h
    case h_2 candidate hcandidate =>
      split at hstep <;> cases hstep
      case h_1 => exact h
      case h_2 state c hok =>
        obtain ⟨hid, ⟨hcommitted, rfl⟩ | ⟨-, hmay, rfl, rfl⟩⟩ :=
          SupervisorState.commitControllerResume_eq_ok hok
        · have hlease := hcurrent candidate c hcandidate hcommitted hid
          exact (h.activate hlease).setConnection nofun (h.admitted_behind i)
        · have hlease := (SupervisorState.mayResume_iff.mp hmay).1
          have hactive : Leased { w with state := w.state.activate c i } := h.activate hlease
          exact (hactive.recordCommit t ⟨c.id, hlease, le_rfl⟩).setConnection nofun
            (h.admitted_behind i)
  | ensureCurrentController i =>
    simp only [Controllers.step] at hstep
    split_ifs at hstep
    split at hstep
    case h_1 =>
      cases hstep
      exact h
    case h_2 c hc =>
      split_ifs at hstep with hactive <;> cases hstep
      · refine h.setConnection (h.pending_behind i) fun c' hc' => ?_
        obtain rfl : c = c' := Option.some.inj hc'
        exact ⟨c.id, h.active_lease hactive, le_rfl⟩
      · exact h
  | act i =>
    simp only [Controllers.step] at hstep
    split at hstep <;> cases hstep
    case h_2 c hc =>
      have hidle : (w.setConnection i { w.connections i with admitted := none }).Leased :=
        h.setConnection (h.pending_behind i) nofun
      exact hidle.acted (hcurrent c hc)
  | giveUp i =>
    simp only [Controllers.step] at hstep
    split_ifs at hstep
    cases hstep
    exact h.setConnection (h.pending_behind i) nofun
  | installCleanupCapability i capability =>
    simp only [Controllers.step] at hstep
    split_ifs at hstep
    split at hstep
    case h_1 =>
      cases hstep
      exact h
    case h_2 c hc =>
      split_ifs at hstep with hactive <;> cases hstep
      · have hinstalled : Leased
            { w with state := { w.state with cleanupCapability := some capability } } :=
          h.loses ⟨rfl, rfl, rfl, fun _ ha => ha⟩ rfl h.pending_behind h.admitted_behind
        exact hinstalled.acted (h.active_lease hactive)
      · exact h
  | resetAttachedDevices c =>
    simp only [Controllers.step] at hstep
    split_ifs at hstep with hactive <;> cases hstep
    · have hreset : Leased { w with state := { w.state with attachedDevices := [] } } :=
        h.loses ⟨rfl, rfl, rfl, fun _ ha => ha⟩ rfl h.pending_behind h.admitted_behind
      exact hreset.acted (h.active_lease hactive)
    · exact h
  | broadcast op closed =>
    simp only [Controllers.step, Option.bind_eq_bind, Option.bind_eq_some_iff, Option.pure_def,
      Option.some.injEq] at hstep
    obtain ⟨⟨state, frame⟩, hrecord, rfl⟩ := hstep
    exact h.loses ((SupervisorState.loses_record hrecord).trans
      (SupervisorState.loses_removeClosed closed)) rfl h.pending_behind h.admitted_behind
  | teardown i =>
    have hclosed : (w.setConnection i { w.connections i with closed := true }).Leased :=
      h.setConnection (h.pending_behind i) (h.admitted_behind i)
    simp only [Controllers.step] at hstep
    split_ifs at hstep
    split at hstep
    case h_1 =>
      cases hstep
      exact hclosed
    case h_2 identity hidentity =>
      split_ifs at hstep <;> cases hstep
      · exact hclosed
      · exact hclosed.loses (SupervisorState.loses_removeController identity) rfl
          hclosed.pending_behind hclosed.admitted_behind

/-- A controller that is behind the lease and not its holder attached before the holder. -/
theorem Leased.exists_issued_lt (h : w.Leased) {id : ℕ} (hid : w.Behind id)
    (hne : w.state.controllerResumeLeaseId ≠ some id) : ∃ k, .issued k ∈ w.trace ∧ id < k := by
  obtain ⟨lease, hlease, hle⟩ := hid
  refine ⟨lease, h.issued_lease lease hlease, lt_of_le_of_ne hle ?_⟩
  rintro rfl
  exact hne hlease

/-- **A step that does not meet the guard** makes a superseded controller active, or lets it act. -/
theorem Leased.not_exclusive_of_step (h : w.Leased) (hcurrent : ¬w.Current op)
    (hstep : w.step width op = some w') : ¬w'.Exclusive := by
  intro hexclusive
  cases op with
  | commitControllerResume i t =>
    simp only [Current, not_forall] at hcurrent
    obtain ⟨candidate, c, hcandidate, hcommitted, hid, hlease⟩ := hcurrent
    obtain ⟨k, hk, hlt⟩ := h.exists_issued_lt (h.committed_behind t c hcommitted) hlease
    simp only [Controllers.step, hcandidate, SupervisorState.commitControllerResume, hcommitted,
      if_neg (not_not.mpr hid)] at hstep
    split_ifs at hstep
    cases hstep
    have hle := hexclusive.le_of_active k hk c (SupervisorState.isActiveController_activate c i)
    omega
  | act i =>
    simp only [Current, not_forall] at hcurrent
    obtain ⟨c, hadmitted, hlease⟩ := hcurrent
    obtain ⟨k, hk, hlt⟩ := h.exists_issued_lt (h.admitted_behind i c hadmitted) hlease
    simp only [Controllers.step, hadmitted] at hstep
    cases hstep
    have hle := (List.pairwise_append.mp hexclusive.ordered).2.2 _ hk _
      (List.mem_singleton_self _) k c rfl rfl
    omega
  | _ => exact hcurrent trivial

/-- **Controllers are exclusive** throughout a run exactly when no commit is repeated, and no request
acts, after a later controller took the lease. -/
theorem exclusive_iff_current (width : Char → Option (Fin 3)) (size : PtySize)
    (capability : Option (List UInt8)) {ops : List ControllerOp} {t : Controllers}
    (hrun : exec (step width) { state := .new size capability } ops = some t) :
    (∀ ks rest u, ops = ks ++ rest →
      exec (step width) { state := .new size capability } ks = some u → u.Exclusive) ↔
      Along (step width) Current { state := .new size capability } ops :=
  forall_reached_iff_along (fun _ hw => hw.exclusive) (fun _ _ _ hw hcurrent => hw.step hcurrent)
    (fun _ _ _ hw hcurrent => hw.not_exclusive_of_step hcurrent) (leased_init size capability) hrun

/-- A daemon resumes and its commit is not answered, so it resumes and commits again. It writes
input, another daemon attaches, and it is refused. -/
def resumedThenReplaced : List ControllerOp :=
  [.attach 0 true none none, .resume 1 1 none none, .commitControllerResume 1 7,
    .resume 2 1 none none, .commitControllerResume 2 7, .ensureCurrentController 2, .act 2,
    .attach 3 true none none, .ensureCurrentController 2]

theorem exclusive_resumedThenReplaced :
    ∃ t, exec (step fun _ => some 1) { state := .new ⟨24, 80, 0, 0⟩ none } resumedThenReplaced =
        some t ∧
      t.trace = [.issued 1, .acted ⟨1, 2⟩, .issued 2] ∧ (t.connections 2).admitted = none ∧
      t.state.isActiveController ⟨2, 4⟩ ∧
      ∀ ks rest u, resumedThenReplaced = ks ++ rest →
        exec (step fun _ => some 1) { state := .new ⟨24, 80, 0, 0⟩ none } ks = some u →
        u.Exclusive := by
  have hrun : (exec (step fun _ => some 1) { state := .new ⟨24, 80, 0, 0⟩ none }
      resumedThenReplaced).map (fun t => (t.trace, (t.connections 2).admitted,
        t.state.isActiveController ⟨2, 4⟩)) =
        some ([.issued 1, .acted ⟨1, 2⟩, .issued 2], none, true) := rfl
  obtain ⟨t, ht, hstate⟩ := Option.map_eq_some_iff.mp hrun
  simp only [Prod.mk.injEq] at hstate
  obtain ⟨htrace, hadmitted, hactive⟩ := hstate
  exact ⟨t, ht, htrace, hadmitted, hactive,
    (exclusive_iff_current (fun _ => some 1) ⟨24, 80, 0, 0⟩ none ht).mpr (by decide +kernel)⟩

/-- A daemon resumes and its commit is not answered. It is accepted as a candidate again, another
daemon attaches, and the commit is repeated: the first daemon is active. -/
theorem not_exclusive_after_repeated_commit :
    ¬∀ (width : Char → Option (Fin 3)) (size : PtySize) (capability : Option (List UInt8))
      (ops : List ControllerOp) (t : Controllers),
      exec (step width) { state := .new size capability } ops = some t → t.Exclusive := by
  intro h
  let ops : List ControllerOp := [.attach 0 true none none, .resume 1 1 none none,
    .commitControllerResume 1 7, .resume 2 1 none none, .attach 3 true none none,
    .commitControllerResume 2 7]
  have hrun : ((exec (step fun _ => some 1) { state := .new ⟨24, 80, 0, 0⟩ none } ops).map fun t =>
      decide (.issued 2 ∈ t.trace) && t.state.isActiveController ⟨1, 2⟩) = some true := rfl
  obtain ⟨t, ht, hboth⟩ := Option.map_eq_some_iff.mp hrun
  rw [Bool.and_eq_true, decide_eq_true_eq] at hboth
  have hle := (h _ _ _ ops t ht).le_of_active 2 hboth.1 ⟨1, 2⟩ hboth.2
  exact absurd hle (by decide)

end Controllers

end Termd.Pty
