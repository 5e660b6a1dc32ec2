import Termd.Library.Transition
import Mathlib.Logic.Function.Basic
import Mathlib.Data.List.Pairwise

/-!
# Closing a session

A close request carries an operation id. It looks whether its id is confirmed, waits for the lock of
the PTY session, terminates the child and waits for it, and then stores its id, still under that lock.
Between the look and the lock other requests run. A cleanup request refuses another id that it finds
confirmed; a controller's request does not.

## Main definitions

* `Closing`: the stored id, the session lock, the connections and a record of the answers
* `Closing.Confirmed`: what was answered stays true
* `Closing.undisputed`: the guard of the step that goes wrong

## Main results

* `Closing.confirmed_of_undisputed`: the runs in which a confirmed close stays confirmed
-/

namespace Termd.Pty

/-- How far the close request of a connection is. -/
inductive ClosePhase
  | idle
  /-- `Close`, admitted -/
  | terminating
  /-- `CloseIdempotent`, admitted -/
  | checking (operationId : ℕ)
  /-- `CleanupClose`, which found nothing confirmed -/
  | marking (operationId : ℕ)
  /-- Either of them, before it takes the session lock. -/
  | waiting (operationId : ℕ)
  /-- Either of them, after it waited for the child; it has the session lock. -/
  | reaped (operationId : ℕ)
deriving DecidableEq

structure CloseConnection where
  /-- `controller_identity.is_some()` -/
  controller : Bool := false
  cleanupAuthenticated : Bool := false
  phase : ClosePhase := .idle

inductive CloseEvent
  /-- `confirmed_close_operation_id` is written. -/
  | wrote (operationId : ℕ)
  /-- A connection is answered `CloseStatus`. -/
  | answered (operationId : ℕ) (confirmedDead : Bool)
  /-- A `FinalizeClose` with authority is answered. -/
  | finalized (operationId : ℕ) (accepted : Bool)
deriving DecidableEq

structure Closing where
  confirmedCloseOperationId : Option ℕ := none
  /-- The connection that holds the session lock. -/
  session : Option ℕ := none
  connections : ℕ → CloseConnection := fun _ => {}
  trace : List CloseEvent := []

inductive CloseOp
  /-- The connection becomes a controller. -/
  | attach (connection : ℕ)
  | cleanupAuthenticate (connection : ℕ)
  /-- `Close`; `ensure_current_controller` says whether the controller is `active`. -/
  | close (connection : ℕ) (active : Bool)
  | closeIdempotent (connection operationId : ℕ) (active : Bool)
  /-- `CloseIdempotent` reads the confirmed id. -/
  | check (connection : ℕ)
  /-- `CleanupClose` reads the confirmed id. -/
  | cleanupClose (connection operationId : ℕ)
  /-- `CleanupClose` makes the capability permanent. -/
  | mark (connection : ℕ)
  /-- The session lock is taken; `terminate` and `wait` succeed, or one of them fails. -/
  | terminate (connection : ℕ) (ok : Bool)
  /-- The id is stored and the session lock released. -/
  | confirm (connection : ℕ)
  | closeStatus (connection operationId : ℕ)
  | finalizeClose (connection operationId : ℕ)

namespace Closing

variable (w : Closing)

def setConnection (i : ℕ) (connection : CloseConnection) : Closing :=
  { w with connections := Function.update w.connections i connection }

def setPhase (i : ℕ) (phase : ClosePhase) : Closing :=
  w.setConnection i { w.connections i with phase }

def observe (event : CloseEvent) : Closing := { w with trace := w.trace ++ [event] }

/-- One lock that a request takes; requests that are refused change nothing. -/
def step (w : Closing) : CloseOp → Option Closing
  | .attach i =>
    let connection := w.connections i
    if connection.phase ≠ .idle ∨ connection.cleanupAuthenticated then none
    else some (w.setConnection i { connection with controller := true })
  | .cleanupAuthenticate i =>
    let connection := w.connections i
    if connection.phase ≠ .idle ∨ connection.controller then none
    else some (w.setConnection i { connection with cleanupAuthenticated := true })
  | .close i active =>
    let connection := w.connections i
    if connection.phase ≠ .idle then none
    else if connection.controller ∧ active then some (w.setPhase i .terminating)
    else some w
  | .closeIdempotent i operationId active =>
    let connection := w.connections i
    if connection.phase ≠ .idle then none
    else if connection.controller ∧ active then some (w.setPhase i (.checking operationId))
    else some w
  | .check i =>
    match (w.connections i).phase with
    | .checking operationId =>
      if w.confirmedCloseOperationId = some operationId then
        some ((w.setPhase i .idle).observe (.answered operationId true))
      else some (w.setPhase i (.waiting operationId))
    | _ => none
  | .cleanupClose i operationId =>
    let connection := w.connections i
    if connection.phase ≠ .idle then none
    else if ¬connection.cleanupAuthenticated then some w
    else match w.confirmedCloseOperationId with
      | some confirmed =>
        if confirmed ≠ operationId then some w
        else some (w.observe (.answered operationId true))
      | none => some (w.setPhase i (.marking operationId))
  | .mark i =>
    match (w.connections i).phase with
    | .marking operationId => some (w.setPhase i (.waiting operationId))
    | _ => none
  | .terminate i ok =>
    if w.session.isSome then none
    else match (w.connections i).phase with
      | .terminating => some (w.setPhase i .idle)
      | .waiting operationId =>
        if ok then some (setPhase { w with session := some i } i (.reaped operationId))
        else some (w.setPhase i .idle)
      | _ => none
  | .confirm i =>
    match (w.connections i).phase with
    | .reaped operationId =>
      let w := { w with session := none, confirmedCloseOperationId := some operationId }
      some (((w.setPhase i .idle).observe (.wrote operationId)).observe
        (.answered operationId true))
    | _ => none
  | .closeStatus i operationId =>
    let connection := w.connections i
    if connection.phase ≠ .idle then none
    else if ¬connection.controller ∧ ¬connection.cleanupAuthenticated then some w
    else some (w.observe
      (.answered operationId (w.confirmedCloseOperationId = some operationId)))
  | .finalizeClose i operationId =>
    let connection := w.connections i
    if connection.phase ≠ .idle then none
    else if ¬connection.controller ∧ ¬connection.cleanupAuthenticated then some w
    else some (w.observe
      (.finalized operationId (w.confirmedCloseOperationId = some operationId)))

/-- The later event does not take the earlier answer back. -/
def Agrees (before after : CloseEvent) : Prop :=
  ∀ operationId, before = .answered operationId true →
    after ≠ .answered operationId false ∧ after ≠ .finalized operationId false

/-- **A confirmed close stays confirmed.** -/
structure Confirmed : Prop where
  wrote_unique : ∀ a b, .wrote a ∈ w.trace → .wrote b ∈ w.trace → a = b
  stays : w.trace.Pairwise Agrees
  answered_unique : ∀ a b, .answered a true ∈ w.trace → .answered b true ∈ w.trace → a = b

/-- **The guard**: no close request terminates the child again for another id than the confirmed
one. -/
def undisputed : CloseOp → Bool
  | .terminate i true =>
    match (w.connections i).phase with
    | .waiting operationId => w.confirmedCloseOperationId.all (· = operationId)
    | _ => true
  | _ => true

variable {w} {w' : Closing} {op : CloseOp}

/-- **The invariant**: whatever was written or answered is what is stored, and a request that holds
the session lock after it waited for the child finds nothing else stored. -/
structure Stored (w : Closing) : Prop where
  wrote_eq : ∀ a, .wrote a ∈ w.trace → w.confirmedCloseOperationId = some a
  answered_eq : ∀ a, .answered a true ∈ w.trace → w.confirmedCloseOperationId = some a
  stays : w.trace.Pairwise Agrees
  reaped : ∀ i a, (w.connections i).phase = .reaped a →
    w.session = some i ∧ w.confirmedCloseOperationId.all (· = a)

theorem stored_init : Stored {} := ⟨nofun, nofun, .nil, nofun⟩

theorem Stored.confirmed (h : w.Stored) : w.Confirmed where
  wrote_unique a b ha hb := Option.some.inj ((h.wrote_eq a ha).symm.trans (h.wrote_eq b hb))
  stays := h.stays
  answered_unique a b ha hb :=
    Option.some.inj ((h.answered_eq a ha).symm.trans (h.answered_eq b hb))

theorem Stored.setConnection (h : w.Stored) (i : ℕ) {connection : CloseConnection}
    (hphase : ∀ a, connection.phase ≠ .reaped a) : (w.setConnection i connection).Stored where
  wrote_eq := h.wrote_eq
  answered_eq := h.answered_eq
  stays := h.stays
  reaped j a hj := by
    by_cases hji : j = i
    · subst hji
      simp only [Closing.setConnection, Function.update_self] at hj
      exact absurd hj (hphase a)
    · simp only [Closing.setConnection, Function.update_of_ne hji] at hj
      exact h.reaped j a hj

/-- An answer that says what is stored. -/
theorem Stored.observe (h : w.Stored) {event : CloseEvent} (hwrote : ∀ a, event ≠ .wrote a)
    (htrue : ∀ a, event = .answered a true → w.confirmedCloseOperationId = some a)
    (hfalse : ∀ a, event = .answered a false ∨ event = .finalized a false →
      w.confirmedCloseOperationId ≠ some a) : (w.observe event).Stored where
  wrote_eq a ha := by
    rcases List.mem_append.mp ha with ha | ha
    · exact h.wrote_eq a ha
    · exact absurd (List.mem_singleton.mp ha).symm (hwrote a)
  answered_eq a ha := by
    rcases List.mem_append.mp ha with ha | ha
    · exact h.answered_eq a ha
    · exact htrue a (List.mem_singleton.mp ha).symm
  stays := by
    refine List.pairwise_append.mpr ⟨h.stays, List.pairwise_singleton .., ?_⟩
    rintro _ hbefore after hafter a rfl
    have hstored := h.answered_eq a hbefore
    rw [List.mem_singleton.mp hafter]
    exact ⟨fun heq => hfalse a (.inl heq) hstored, fun heq => hfalse a (.inr heq) hstored⟩
  reaped := h.reaped

/-- **The id is stored** by the request that holds the session lock. -/
theorem Stored.confirm (h : w.Stored) {i a : ℕ} (hphase : (w.connections i).phase = .reaped a) :
    ((setPhase { w with session := none, confirmedCloseOperationId := some a } i .idle).observe
      (.wrote a)).Stored := by
  obtain ⟨hsession, hall⟩ := h.reaped i a hphase
  have hsame (b : ℕ) (hb : w.confirmedCloseOperationId = some b) : some a = some b := by
    rw [hb, Option.all_some, decide_eq_true_eq] at hall
    rw [hall]
  refine ⟨fun b hb => ?_, fun b hb => ?_, ?_, fun j b hj => ?_⟩
  · rcases List.mem_append.mp hb with hb | hb
    · exact hsame b (h.wrote_eq b hb)
    · rw [List.mem_singleton, CloseEvent.wrote.injEq] at hb
      rw [hb]
      rfl
  · rcases List.mem_append.mp hb with hb | hb
    · exact hsame b (h.answered_eq b hb)
    · exact absurd (List.mem_singleton.mp hb) (by simp)
  · refine List.pairwise_append.mpr ⟨h.stays, List.pairwise_singleton .., ?_⟩
    intro before _ after hafter b _
    rw [List.mem_singleton.mp hafter]
    exact ⟨nofun, nofun⟩
  · -- nobody else holds the session lock
    by_cases hji : j = i
    · subst hji
      simp [Closing.observe, setPhase, Closing.setConnection] at hj
    · simp only [Closing.observe, setPhase, Closing.setConnection, Function.update_of_ne hji] at hj
      have hother := (h.reaped j b hj).1
      exact absurd (Option.some.inj (hother.symm.trans hsession)) hji

/-- **A step that meets the guard** keeps the invariant. -/
theorem Stored.step (h : w.Stored) (hguard : w.undisputed op) (hstep : w.step op = some w') :
    w'.Stored := by
  cases op with
  | attach i =>
    simp only [Closing.step] at hstep
    split_ifs at hstep with hidle
    cases hstep
    rw [not_or, not_not] at hidle
    exact h.setConnection i (by simp [hidle.1])
  | cleanupAuthenticate i =>
    simp only [Closing.step] at hstep
    split_ifs at hstep with hidle
    cases hstep
    rw [not_or, not_not] at hidle
    exact h.setConnection i (by simp [hidle.1])
  | close i active =>
    simp only [Closing.step] at hstep
    split_ifs at hstep <;> cases hstep
    · exact h.setConnection i nofun
    · exact h
  | closeIdempotent i a active =>
    simp only [Closing.step] at hstep
    split_ifs at hstep <;> cases hstep
    · exact h.setConnection i nofun
    · exact h
  | check i =>
    simp only [Closing.step] at hstep
    split at hstep
    case h_2 => cases hstep
    case h_1 a hphase =>
      split_ifs at hstep with hsame <;> cases hstep
      · have hidle : (w.setPhase i .idle).Stored := h.setConnection i nofun
        refine hidle.observe nofun (fun b hb => ?_) (by simp)
        obtain ⟨rfl, -⟩ := CloseEvent.answered.inj hb
        exact hsame
      · exact h.setConnection i nofun
  | cleanupClose i a =>
    simp only [Closing.step] at hstep
    split at hstep
    case isTrue => cases hstep
    case isFalse =>
      split at hstep
      case isTrue =>
        cases hstep
        exact h
      case isFalse =>
        split at hstep
        case h_1 b hstored =>
          split_ifs at hstep with hne <;> cases hstep
          · exact h
          · refine h.observe nofun (fun c hc => ?_) (by simp)
            obtain ⟨rfl, -⟩ := CloseEvent.answered.inj hc
            rw [hstored, not_not.mp hne]
        case h_2 =>
          cases hstep
          exact h.setConnection i nofun
  | mark i =>
    simp only [Closing.step] at hstep
    split at hstep <;> cases hstep
    exact h.setConnection i nofun
  | terminate i ok =>
    simp only [Closing.step] at hstep
    split at hstep
    case isTrue => cases hstep
    case isFalse hsession =>
      split at hstep
      case h_1 =>
        cases hstep
        exact h.setConnection i nofun
      case h_2 a hphase =>
        split_ifs at hstep with hok <;> cases hstep
        · refine ⟨h.wrote_eq, h.answered_eq, h.stays, fun j b hj => ?_⟩
          by_cases hji : j = i
          · subst hji
            simp only [setPhase, Closing.setConnection, Function.update_self,
              ClosePhase.reaped.injEq] at hj
            subst hj hok
            rw [undisputed, hphase] at hguard
            exact ⟨rfl, hguard⟩
          · -- the lock was free
            simp only [setPhase, Closing.setConnection, Function.update_of_ne hji] at hj
            exact absurd (by rw [(h.reaped j b hj).1]; rfl) hsession
        · exact h.setConnection i nofun
      case h_3 => cases hstep
  | confirm i =>
    simp only [Closing.step] at hstep
    split at hstep
    case h_2 => cases hstep
    case h_1 a hphase =>
      cases hstep
      refine Stored.observe (h.confirm hphase) nofun (fun b hb => ?_) (by simp)
      obtain ⟨rfl, -⟩ := CloseEvent.answered.inj hb
      rfl
  | closeStatus i a =>
    simp only [Closing.step] at hstep
    split_ifs at hstep <;> cases hstep
    · exact h
    · refine h.observe nofun (fun b hb => ?_) (fun b hb => ?_)
      · obtain ⟨rfl, hdead⟩ := CloseEvent.answered.inj hb
        exact of_decide_eq_true hdead
      · obtain ⟨rfl, hdead⟩ := CloseEvent.answered.inj (hb.resolve_right nofun)
        exact of_decide_eq_false hdead
  | finalizeClose i a =>
    simp only [Closing.step] at hstep
    split_ifs at hstep <;> cases hstep
    · exact h
    · refine h.observe nofun nofun (fun b hb => ?_)
      obtain ⟨rfl, hdead⟩ := CloseEvent.finalized.inj (hb.resolve_left nofun)
      exact of_decide_eq_false hdead

/-- **A confirmed close stays confirmed** in every run in which no close request terminates the child
again for another id. -/
theorem confirmed_of_undisputed {ops : List CloseOp} (hops : Along step (fun w op => w.undisputed op) {} ops)
    (hrun : exec step {} ops = some w) : w.Confirmed :=
  (exec_induction_along (fun _ _ _ h hguard hstep => h.step hguard hstep) stored_init hops
    hrun).confirmed

/-- A controller and the reconciler close with the same id, and both ask for the status. -/
theorem confirmed_with_same_id :
    ∃ w, exec step {} [.attach 0, .cleanupAuthenticate 1, .closeIdempotent 0 5 true,
        .cleanupClose 1 5, .check 0, .terminate 0 true, .confirm 0, .mark 1, .terminate 1 true,
        .confirm 1, .closeStatus 0 5, .finalizeClose 1 5] = some w ∧ w.Confirmed := by
  obtain ⟨w, hw⟩ := Option.isSome_iff_exists.mp (by decide : (exec step {} [.attach 0,
    .cleanupAuthenticate 1, .closeIdempotent 0 5 true, .cleanupClose 1 5, .check 0,
    .terminate 0 true, .confirm 0, .mark 1, .terminate 1 true, .confirm 1, .closeStatus 0 5,
    .finalizeClose 1 5]).isSome = true)
  exact ⟨w, hw, confirmed_of_undisputed (by decide) hw⟩

/-- A controller closes with one id and then with another one: the first close is taken back. -/
theorem not_confirmed_with_other_id :
    ¬∀ (ops : List CloseOp) (w : Closing), exec step {} ops = some w → w.Confirmed := by
  intro h
  let ops : List CloseOp := [.attach 0, .closeIdempotent 0 1 true, .check 0, .terminate 0 true,
    .confirm 0, .closeIdempotent 0 2 true, .check 0, .terminate 0 true, .confirm 0,
    .closeStatus 0 1]
  have hrun : ((exec step {} ops).map fun w => decide (.wrote 1 ∈ w.trace) &&
      decide (.wrote 2 ∈ w.trace)) = some true := rfl
  obtain ⟨w, hw, hboth⟩ := Option.map_eq_some_iff.mp hrun
  rw [Bool.and_eq_true, decide_eq_true_eq, decide_eq_true_eq] at hboth
  exact absurd ((h ops w hw).wrote_unique 1 2 hboth.1 hboth.2) (by decide)

end Closing

end Termd.Pty
