import Termd.Pty.Answers
import Termd.Pty.Supervisor

/-!
# The size of the PTY

A resize request takes two locks, one after another: under the first one it resizes the PTY, under the
second one it records the event, by which the screen is resized. Requests of several connections may
take the two locks in different orders.

## Main definitions

* `PtySizes`: the PTY, the state, and the requests between their two locks
* `PtySizes.InStep`: the size of the PTY is the size of everything else
* `PtySizes.uncrossed`: the guard of the step that goes wrong

## Main results

* `PtySizes.Agrees.record`: the state, its screen and its log always agree
* `PtySizes.inStep_iff_uncrossed`: the runs in which the PTY agrees with them
-/

namespace Termd.Pty

open Screen

structure PtySizes where
  /-- The size that the PTY session was given last. -/
  pty : PtySize
  state : SupervisorState
  /-- The requests that resized the PTY and not yet the state, by their connections. -/
  inFlight : List (ℕ × PtySize) := []
  /-- The events that were recorded. -/
  log : List CacheOp := []

inductive PtySizeOp
  /-- `session.resize`, under the session lock; it may fail and end the request. -/
  | resizeSession (connection : ℕ) (size : PtySize) (ok : Bool)
  /-- `state.resize` and the broadcast, under the state lock, which some queues may refuse. -/
  | resizeState (connection : ℕ) (closed : List ℕ)
  /-- The output pump publishes a batch. -/
  | publish (batch : List UInt8) (closed : List ℕ)
  | recordExit (code : Option Int32) (closed : List ℕ)
  | attachTerminal (tx : ℕ)
  | attachController (tx : ℕ) (processId lastTerminalSeq : Option ℕ)

namespace PtySizes

/-- An event is recorded and broadcast. -/
def record (width : Char → Option (Fin 3)) (w : PtySizes) (op : CacheOp) (closed : List ℕ) :
    Option PtySizes := do
  let (state, _) ← w.state.record width op
  return { w with state := state.removeClosed closed, log := w.log ++ [op] }

/-- One lock. -/
def step (width : Char → Option (Fin 3)) (w : PtySizes) : PtySizeOp → Option PtySizes
  | .resizeSession i size ok =>
    if i ∈ w.inFlight.map Prod.fst then none
    else if ok then some { w with pty := size, inFlight := w.inFlight ++ [(i, size)] }
    else some w
  | .resizeState i closed =>
    match w.inFlight.find? (·.1 = i) with
    | none => none
    | some request =>
      record width { w with inFlight := w.inFlight.erase request } (.resize request.2) closed
  | .publish batch closed => if batch = [] then some w else w.record width (.output batch) closed
  | .recordExit code closed => w.record width (.exit code) closed
  | .attachTerminal tx => some { w with state := (w.state.registerTerminalAttach tx).1 }
  | .attachController tx processId lastTerminalSeq =>
    some { w with state := (w.state.attachSync tx processId lastTerminalSeq).1 }

/-- The supervisor starts with the size that the PTY was opened with. -/
def init (size : PtySize) (capability : Option (List UInt8)) : PtySizes where
  pty := size
  state := .new size capability

/-- The screen has the size, and at least one cell. -/
def Laid (screen : TerminalScreen) (size : PtySize) : Prop :=
  screen.rows = max size.rows.toNat 1 ∧ screen.cols = max size.cols.toNat 1

/-- The size of the last resize event. -/
def lastResize (log : List CacheOp) : Option PtySize :=
  log.foldl (fun last op => match op with
    | .resize size => some size
    | .output _ | .exit _ => last) none

/-- What holds in every state: the recorded size is that of the screen and of the log. -/
structure Agrees (width : Char → Option (Fin 3)) (size : PtySize) (w : PtySizes) : Prop where
  follows : w.state.terminal.Follows width size w.log
  laid : Laid w.state.terminal.screen w.state.terminal.size
  logged : w.state.terminal.size = (lastResize w.log).getD size

/-- **The PTY is in step**: while no request is between its two locks, the PTY has the recorded size,
the screen is laid out for it, and it is the size of the last resize event. -/
def InStep (w : PtySizes) : Prop :=
  w.inFlight = [] → w.pty = w.state.terminal.size ∧ Laid w.state.terminal.screen w.pty ∧
    ∀ size, lastResize w.log = some size → w.pty = size

/-- **The guard**: a request that is alone between its locks when it takes the second one has the size
that the PTY was given last. -/
def uncrossed (w : PtySizes) : PtySizeOp → Bool
  | .resizeState i _ =>
    match w.inFlight with
    | [request] => request.1 ≠ i || request.2 = w.pty
    | _ => true
  | _ => true

/-! ### The state, its screen and its log -/

theorem laid_new (size : PtySize) : Laid (.new size.rows size.cols) size := ⟨rfl, rfl⟩

theorem laid_resize {screen : TerminalScreen} (h : screen.Steady) (size : PtySize) :
    Laid (screen.resize size.rows size.cols) size := by
  obtain ⟨lines, nextLineIndex, heq, -⟩ := TerminalScreen.exists_resizeLines_eq h.sound
    (max size.rows.toNat 1) (max size.cols.toNat 1)
  simp only [Laid, TerminalScreen.resize, heq, and_self]

/-- What a call does to the screen, it does to the size. -/
theorem Laid.screenOps {width : Char → Option (Fin 3)} {screen screen' : TerminalScreen}
    {size : PtySize} (h : Laid screen size) (hsteady : screen.Steady) (op : CacheOp)
    (hscreen : exec (ScreenOp.step width) screen op.screenOps = some screen') :
    Laid screen' (op.sizeAfter size) := by
  cases op with
  | output bytes =>
    obtain ⟨t, ht, -, hview⟩ := TerminalScreen.apply_spec width hsteady bytes
    have heq : t = screen' := by
      simpa [CacheOp.screenOps, exec_cons, ScreenOp.step, ht] using hscreen
    have hsize := View.apply_size width bytes screen.view
    rw [← hview, heq] at hsize
    exact ⟨hsize.1.trans h.1, hsize.2.trans h.2⟩
  | resize size' =>
    rw [← Option.some.inj hscreen]
    exact laid_resize hsteady size'
  | exit code =>
    rw [← Option.some.inj hscreen]
    exact h

theorem lastResize_snoc (log : List CacheOp) (op : CacheOp) (size : PtySize) :
    (lastResize (log ++ [op])).getD size = op.sizeAfter ((lastResize log).getD size) := by
  rw [lastResize, List.foldl_append]
  cases op <;> rfl

variable {width : Char → Option (Fin 3)} {size : PtySize} {w w' : PtySizes}

theorem agrees_init (capability : Option (List UInt8)) : Agrees width size (init size capability) :=
  ⟨SupervisorTerminalCache.follows_new, laid_new size, rfl⟩

/-- **Every event** is recorded in the log, on the screen and in the size alike. -/
theorem Agrees.record (h : w.Agrees width size) {op : CacheOp} {closed : List ℕ}
    (hrecord : w.record width op closed = some w') :
    w'.Agrees width size ∧ w'.state.terminal.size = op.sizeAfter w.state.terminal.size ∧
      w'.pty = w.pty ∧ w'.inFlight = w.inFlight := by
  simp only [PtySizes.record, Option.bind_eq_bind, Option.bind_eq_some_iff, Option.pure_def,
    Option.some.injEq] at hrecord
  obtain ⟨⟨state, frame⟩, hstate, rfl⟩ := hrecord
  have hcall := SupervisorState.record_eq_some hstate
  obtain ⟨r, hr, hfollows, -⟩ := h.follows.call op
  obtain rfl := Option.some.inj (hcall.symm.trans hr)
  obtain ⟨screen, hscreen, -⟩ := SupervisorTerminalCache.exec_screenOps width h.follows.steady op
  rw [SupervisorTerminalCache.call_eq, hscreen, Option.map_some, Option.some.injEq] at hcall
  have hterminal : state.terminal.screen = screen ∧
      state.terminal.size = op.sizeAfter w.state.terminal.size := by
    rw [← (Prod.mk.inj hcall).1]
    exact ⟨rfl, rfl⟩
  refine ⟨⟨?_, ?_, ?_⟩, ?_, rfl, rfl⟩
  · rw [SupervisorState.removeClosed_terminal]
    exact hfollows
  · rw [SupervisorState.removeClosed_terminal, hterminal.1, hterminal.2]
    exact h.laid.screenOps h.follows.steady op hscreen
  · rw [SupervisorState.removeClosed_terminal, hterminal.2, h.logged, lastResize_snoc]
  · rw [SupervisorState.removeClosed_terminal, hterminal.2]

/-! ### The PTY -/

/-- **The invariant.** -/
structure Sound (width : Char → Option (Fin 3)) (size : PtySize) (w : PtySizes) : Prop where
  agrees : w.Agrees width size
  pty_eq : w.inFlight = [] → w.pty = w.state.terminal.size

theorem Sound.inStep (h : w.Sound width size) : w.InStep := by
  intro hnone
  have hpty := h.pty_eq hnone
  refine ⟨hpty, hpty ▸ h.agrees.laid, fun size' hlast => ?_⟩
  rw [hpty, h.agrees.logged, hlast, Option.getD_some]

/-- An event that is not a resize. -/
theorem Sound.record (h : w.Sound width size) {op : CacheOp} {closed : List ℕ}
    (hop : ∀ size', op.sizeAfter size' = size')
    (hrecord : w.record width op closed = some w') : w'.Sound width size := by
  obtain ⟨hagrees, hsize, hpty, hinFlight⟩ := h.agrees.record hrecord
  refine ⟨hagrees, fun hnone => ?_⟩
  rw [hpty, hsize, hop]
  exact h.pty_eq (hinFlight ▸ hnone)

/-- The request that leaves nothing in flight was the only one. -/
theorem eq_singleton_of_erase {request : ℕ × PtySize} {requests : List (ℕ × PtySize)}
    (hmem : request ∈ requests) (hnone : requests.erase request = []) : requests = [request] := by
  have hlen := List.length_erase_of_mem hmem
  rw [hnone, List.length_nil] at hlen
  have hpos := List.length_pos_of_mem hmem
  obtain ⟨request', rfl⟩ := List.length_eq_one_iff.mp (by omega : requests.length = 1)
  rw [List.mem_singleton.mp hmem]

variable {op : PtySizeOp}

/-- **The second lock** of a request, with what it leaves. -/
theorem resizeState_cases (h : w.Sound width size) {i : ℕ} {closed : List ℕ}
    (hstep : w.step width (.resizeState i closed) = some w') :
    ∃ request ∈ w.inFlight, request.1 = i ∧ w'.Agrees width size ∧
      w'.state.terminal.size = request.2 ∧ w'.pty = w.pty ∧
      w'.inFlight = w.inFlight.erase request := by
  simp only [PtySizes.step] at hstep
  split at hstep
  case h_1 => cases hstep
  case h_2 request hfind =>
    have hmem := List.mem_of_find?_eq_some hfind
    have hi : request.1 = i := by simpa using List.find?_some hfind
    have hagrees : Agrees width size { w with inFlight := w.inFlight.erase request } :=
      ⟨h.agrees.follows, h.agrees.laid, h.agrees.logged⟩
    obtain ⟨hagrees', hsize, hpty, hinFlight⟩ := hagrees.record hstep
    exact ⟨request, hmem, hi, hagrees', hsize, hpty, hinFlight⟩

/-- **A step that meets the guard** keeps the invariant. -/
theorem Sound.step (h : w.Sound width size) (hguard : w.uncrossed op)
    (hstep : w.step width op = some w') : w'.Sound width size := by
  cases op with
  | resizeSession i size' ok =>
    simp only [PtySizes.step] at hstep
    split_ifs at hstep <;> cases hstep
    · exact ⟨⟨h.agrees.follows, h.agrees.laid, h.agrees.logged⟩, fun hnone => by simp at hnone⟩
    · exact h
  | resizeState i closed =>
    obtain ⟨request, hmem, hi, hagrees, hsize, hpty, hinFlight⟩ := resizeState_cases h hstep
    refine ⟨hagrees, fun hnone => ?_⟩
    have halone := eq_singleton_of_erase hmem (hinFlight ▸ hnone)
    simp only [uncrossed, halone, hi] at hguard
    rw [hpty, hsize]
    exact (by simpa using hguard : request.2 = w.pty).symm
  | publish batch closed =>
    simp only [PtySizes.step] at hstep
    split_ifs at hstep
    · cases hstep
      exact h
    · exact h.record (fun _ => rfl) hstep
  | recordExit code closed => exact h.record (fun _ => rfl) hstep
  | attachTerminal tx =>
    cases hstep
    exact ⟨⟨h.agrees.follows, h.agrees.laid, h.agrees.logged⟩, h.pty_eq⟩
  | attachController tx processId last =>
    cases hstep
    exact ⟨⟨h.agrees.follows, h.agrees.laid, h.agrees.logged⟩, h.pty_eq⟩

/-- **A step that does not meet the guard** leaves the PTY with another size. -/
theorem Sound.not_inStep_of_step (h : w.Sound width size) (hguard : ¬w.uncrossed op)
    (hstep : w.step width op = some w') : ¬w'.InStep := by
  intro hinStep
  cases op with
  | resizeState i closed =>
    simp only [uncrossed] at hguard
    split at hguard
    case h_2 => exact hguard rfl
    case h_1 request halone =>
      obtain ⟨request', hmem, hi, -, hsize, hpty, hinFlight⟩ := resizeState_cases h hstep
      rw [halone, List.mem_singleton] at hmem
      subst hmem
      rw [halone, List.erase_cons_head] at hinFlight
      have hsame := (hinStep hinFlight).1
      rw [hpty, hsize] at hsame
      simp [hi, hsame] at hguard
  | _ => exact hguard rfl

/-- **The PTY is in step** throughout a run exactly when no request that is alone between its locks
records another size than the PTY was given last. -/
theorem inStep_iff_uncrossed (width : Char → Option (Fin 3)) (size : PtySize)
    (capability : Option (List UInt8)) {ops : List PtySizeOp} {t : PtySizes}
    (hrun : exec (step width) (init size capability) ops = some t) :
    (∀ ks rest u, ops = ks ++ rest →
      exec (step width) (init size capability) ks = some u → u.InStep) ↔
      Along (step width) (fun w op => w.uncrossed op) (init size capability) ops :=
  forall_reached_iff_along (I := Sound width size) (fun _ hw => hw.inStep)
    (fun _ _ _ hw hguard => hw.step hguard) (fun _ _ _ hw hguard => hw.not_inStep_of_step hguard)
    ⟨agrees_init capability, fun _ => rfl⟩ hrun

/-- Two terminals resize at the same time, and take both locks in the same order. -/
theorem inStep_in_same_order :
    (exec (step fun _ => some 1) (init ⟨2, 4, 0, 0⟩ none)
        [.resizeSession 0 ⟨2, 5, 0, 0⟩ true, .resizeSession 1 ⟨2, 3, 0, 0⟩ true, .resizeState 0 [],
          .publish [0x61] [], .resizeState 1 []]).isSome ∧
      ∀ ks rest u, [.resizeSession 0 ⟨2, 5, 0, 0⟩ true, .resizeSession 1 ⟨2, 3, 0, 0⟩ true,
          .resizeState 0 [], .publish [0x61] [], .resizeState 1 []] = ks ++ rest →
        exec (step fun _ => some 1) (init ⟨2, 4, 0, 0⟩ none) ks = some u → u.InStep := by
  have hsome : (exec (step fun _ => some 1) (init ⟨2, 4, 0, 0⟩ none)
      [.resizeSession 0 ⟨2, 5, 0, 0⟩ true, .resizeSession 1 ⟨2, 3, 0, 0⟩ true, .resizeState 0 [],
        .publish [0x61] [], .resizeState 1 []]).isSome = true := by decide +kernel
  exact ⟨hsome, (inStep_iff_uncrossed (fun _ => some 1) ⟨2, 4, 0, 0⟩ none
    (Option.some_get hsome).symm).mpr (by decide +kernel)⟩

/-- The same two terminals, and the one that resizes the PTY first records its size last. -/
theorem not_inStep_in_crossed_order :
    ¬∀ (width : Char → Option (Fin 3)) (size : PtySize) (capability : Option (List UInt8))
      (ops : List PtySizeOp) (t : PtySizes),
      exec (step width) (init size capability) ops = some t → t.InStep := by
  intro h
  let ops : List PtySizeOp := [.resizeSession 0 ⟨2, 5, 0, 0⟩ true,
    .resizeSession 1 ⟨2, 3, 0, 0⟩ true, .resizeState 1 [], .resizeState 0 []]
  have hrun : ((exec (step fun _ => some 1) (init ⟨2, 4, 0, 0⟩ none) ops).map fun t =>
      decide (t.inFlight = []) && decide (t.pty ≠ t.state.terminal.size)) = some true := by
    decide +kernel
  obtain ⟨t, ht, hboth⟩ := Option.map_eq_some_iff.mp hrun
  rw [Bool.and_eq_true, decide_eq_true_eq, decide_eq_true_eq] at hboth
  exact hboth.2 (h _ _ _ ops t ht hboth.1).1

end PtySizes

end Termd.Pty
