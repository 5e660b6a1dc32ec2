import Termd.Pty.Journal

/-!
# The answers of the journal

After any number of calls the journal holds the most recent events, and a client that names the last
event it has seen is answered with nothing, with exactly the events since then, or with a snapshot
of the current screen.

## Main definitions

* `SupervisorTerminalCache.Follows ops c`: the cache after the calls `ops`
* `IsTail`, `IsSnapshot`: the two answers that are not empty

## Main results

* `filter_drop_recorded`: the events after a sequence number are the end of the run
* `SupervisorTerminalCache.follows_of_run`: the invariant of every run
* `SupervisorTerminalCache.exact_of_run`: the journal and its answers
-/

namespace Termd.Pty

open Screen

/-! ### The events of a run -/

@[simp] theorem recorded_nil : recorded [] = [] := rfl

theorem recorded_snoc (ops : List CacheOp) (op : CacheOp) :
    recorded (ops ++ [op]) = recorded ops ++ [op.event (ops.length + 1)] := by
  simp [recorded, List.mapIdx_append]

@[simp] theorem length_recorded (ops : List CacheOp) : (recorded ops).length = ops.length := by
  simp [recorded]

@[simp] theorem terminalSeq_event (op : CacheOp) (seq : ℕ) : (op.event seq).terminalSeq = seq := by
  cases op <;> rfl

/-- **The events after a sequence number** are the end of the run. -/
theorem filter_drop_recorded (ops : List CacheOp) (i last : ℕ) :
    ((recorded ops).drop i).filter (fun event => last < event.terminalSeq) =
      (recorded ops).drop (max i last) := by
  induction ops using List.reverseRecOn with
  | nil => simp
  | append_singleton ops op ih =>
    rw [recorded_snoc]
    by_cases hi : i ≤ ops.length
    · rw [List.drop_append_of_le_length (by simpa using hi), List.filter_append, ih]
      by_cases hlast : last ≤ ops.length
      · rw [List.drop_append_of_le_length (by simp; omega)]
        simp [Nat.lt_succ_of_le hlast]
      · rw [List.drop_of_length_le (by simp; omega), List.drop_of_length_le (by simp; omega)]
        simp
        omega
    · rw [List.drop_of_length_le (by simp; omega), List.drop_of_length_le (by simp; omega)]
      rfl

theorem lt_terminalSeq_of_mem_drop {ops : List CacheOp} {i : ℕ} {event : TerminalEvent}
    (h : event ∈ (recorded ops).drop i) : i < event.terminalSeq := by
  rw [← Nat.zero_max i, ← filter_drop_recorded ops 0 i] at h
  exact of_decide_eq_true (List.mem_filter.mp h).2

theorem exists_mem_drop_recorded {ops : List CacheOp} {i : ℕ} (h : i < ops.length) :
    ∃ event ∈ (recorded ops).drop i, event.terminalSeq = i + 1 := by
  refine ⟨ops[i].event (i + 1), List.mem_iff_getElem?.mpr ⟨0, ?_⟩, terminalSeq_event ..⟩
  rw [List.getElem?_drop, recorded, List.getElem?_mapIdx]
  simp [List.getElem?_eq_getElem h]

/-- The first event that is left when `i` events were dropped. -/
theorem baseSeq_drop_recorded (ops : List CacheOp) {i : ℕ} (h : i ≤ ops.length) :
    baseSeq ((recorded ops).drop i) (ops.length + 1) = i + 1 := by
  rw [baseSeq, List.head?_drop]
  by_cases hlt : i < ops.length
  · simp [recorded, List.getElem?_mapIdx, List.getElem?_eq_getElem hlt]
  · rw [List.getElem?_eq_none (by simp; omega)]
    simp
    omega

theorem terminalJournalMaxEvents_eq : terminalJournalMaxEvents = 8192 := by
  rw [terminalJournalMaxEvents]

/-- A journal that is cut back after each event is the end of all events. -/
theorem pushEvent_window (events : List TerminalEvent) (event : TerminalEvent) :
    pushEvent (window terminalJournalMaxEvents events) event =
      window terminalJournalMaxEvents (events ++ [event]) := by
  rw [pushEvent, window, window, window, ← List.drop_append_of_le_length (by omega), List.drop_drop,
    List.length_drop, List.length_append, List.length_singleton]
  congr 1
  have := terminalJournalMaxEvents_eq
  omega

namespace SupervisorTerminalCache

variable (width : Char → Option (Fin 3)) (size : PtySize)

/-- **The cache after the calls `ops`.** -/
structure Follows (ops : List CacheOp) (c : SupervisorTerminalCache) : Prop where
  next_eq : c.nextTerminalSeq = ops.length + 1
  journal_eq : c.journal = window terminalJournalMaxEvents (recorded ops)
  base_eq : c.journalBaseSeq = baseSeq c.journal c.nextTerminalSeq
  size_eq : c.size = ops.foldl (fun size op => op.sizeAfter size) size
  screen_eq : exec (ScreenOp.step width) (.new size.rows size.cols)
    (ops.flatMap CacheOp.screenOps) = some c.screen
  steady : c.screen.Steady

variable {width size} {c : SupervisorTerminalCache} {ops : List CacheOp}

theorem follows_new : (new size).Follows width size [] :=
  ⟨rfl, by simp [new, window], rfl, rfl, rfl, TerminalScreen.new_steady ..⟩

theorem Follows.push (h : c.Follows width size ops) (op : CacheOp) {screen : TerminalScreen}
    (hscreen : exec (ScreenOp.step width) c.screen op.screenOps = some screen)
    (hsteady : screen.Steady) :
    (pushJournal { c with screen, size := op.sizeAfter c.size } op.event).1.Follows width size
      (ops ++ [op]) where
  next_eq := by
    change c.nextTerminalSeq + 1 = _
    rw [h.next_eq, List.length_append, List.length_singleton]
  journal_eq := by
    change pushEvent c.journal (op.event c.nextTerminalSeq) = _
    rw [h.journal_eq, pushEvent_window, recorded_snoc, h.next_eq]
  base_eq := rfl
  size_eq := by
    rw [List.foldl_append, ← h.size_eq]
    rfl
  screen_eq := by
    rw [List.flatMap_append, exec_append, h.screen_eq, Option.bind_some, List.flatMap_singleton]
    exact hscreen
  steady := hsteady

/-- What all calls have in common. -/
theorem call_eq (c : SupervisorTerminalCache) (op : CacheOp) :
    c.call width op = (exec (ScreenOp.step width) c.screen op.screenOps).map fun screen =>
      pushJournal { c with screen, size := op.sizeAfter c.size } op.event := by
  cases op with
  | output bytes =>
    rw [SupervisorTerminalCache.call, recordOutput]
    cases hscreen : c.screen.apply width bytes with
    | none => simp [CacheOp.screenOps, exec_cons, ScreenOp.step, hscreen]
    | some screen =>
      simp [CacheOp.screenOps, exec_cons, ScreenOp.step, hscreen]
      rfl
  | resize size => rfl
  | exit code => rfl

/-- No call panics. -/
theorem exec_screenOps (width : Char → Option (Fin 3)) {screen : TerminalScreen}
    (h : screen.Steady) (op : CacheOp) :
    Ensures (exec (ScreenOp.step width) screen op.screenOps) TerminalScreen.Steady := by
  cases op with
  | output bytes =>
    obtain ⟨screen', hscreen, hsteady, -⟩ := TerminalScreen.apply_spec width h bytes
    exact ⟨screen', by simp [CacheOp.screenOps, exec_cons, ScreenOp.step, hscreen], hsteady⟩
  | resize size => exact ⟨_, rfl, TerminalScreen.resize_steady h ..⟩
  | exit code => exact ⟨screen, rfl, h⟩

/-- **One call** records its event. -/
theorem Follows.call (h : c.Follows width size ops) (op : CacheOp) :
    Ensures (c.call width op) fun r =>
      r.1.Follows width size (ops ++ [op]) ∧
        r.2 = (op.event (ops.length + 1)).toTerminalFrame := by
  obtain ⟨screen, hscreen, hsteady⟩ := exec_screenOps width h.steady op
  refine ⟨_, by rw [call_eq, hscreen]; rfl, h.push op hscreen hsteady, ?_⟩
  rw [← h.next_eq]
  rfl

theorem Follows.step (h : c.Follows width size ops) (op : CacheOp) :
    Ensures (c.step width op) (Follows width size (ops ++ [op])) := by
  obtain ⟨r, hr, hfollows, -⟩ := h.call op
  exact ⟨r.1, by rw [SupervisorTerminalCache.step, hr]; rfl, hfollows⟩

variable (width size) in
/-- **The invariant of every run.** -/
theorem follows_of_run (ops : List CacheOp) :
    Ensures (exec (step width) (new size) ops) (Follows width size ops) := by
  induction ops using List.reverseRecOn with
  | nil => exact .some follows_new
  | append_singleton ops op ih =>
    rw [exec_snoc]
    exact ih.bind fun c hc => hc.step op

theorem Follows.current_eq (h : c.Follows width size ops) : c.currentTerminalSeq = ops.length := by
  rw [currentTerminalSeq, h.next_eq, Nat.add_sub_cancel]

theorem Follows.base_eq_length (h : c.Follows width size ops) :
    c.journalBaseSeq = ops.length - terminalJournalMaxEvents + 1 := by
  rw [h.base_eq, h.next_eq, h.journal_eq, window, length_recorded]
  exact baseSeq_drop_recorded ops (Nat.sub_le ..)

end SupervisorTerminalCache

/-! ### Answers -/

/-- The events after the one that the client has seen, none of which was evicted or is a resize. -/
def IsTail (ops : List CacheOp) (journal : List TerminalEvent) (lastTerminalSeq : Option ℕ)
    (frames : List PtyTerminalFrame) : Prop :=
  ∃ last, lastTerminalSeq = some last ∧ last < ops.length ∧
    (∀ event ∈ (recorded ops).drop last, event ∈ journal ∧ event.isResize = false) ∧
    frames = ((recorded ops).drop last).map TerminalEvent.toTerminalFrame

/-- The current screen. -/
def IsSnapshot (ops : List CacheOp) (size : PtySize) (screen : TerminalScreen)
    (frames : List PtyTerminalFrame) : Prop :=
  frames = [.snapshot ops.length size screen.snapshotBytes]

variable {ops : List CacheOp}

theorem IsTail.ne_nil {journal : List TerminalEvent} {last : Option ℕ}
    {frames : List PtyTerminalFrame} (h : IsTail ops journal last frames) : frames ≠ [] := by
  obtain ⟨last, -, hlt, -, rfl⟩ := h
  rw [ne_eq, List.map_eq_nil_iff, List.drop_eq_nil_iff, length_recorded]
  omega

theorem toTerminalFrame_inj {event event' : TerminalEvent}
    (h : event.toTerminalFrame = event'.toTerminalFrame) : event = event' := by
  cases event <;> cases event' <;> simp_all [TerminalEvent.toTerminalFrame]

theorem toTerminalFrame_ne_snapshot (event : TerminalEvent) (base : ℕ) (size : PtySize)
    (data : List UInt8) : event.toTerminalFrame ≠ .snapshot base size data := by
  cases event <;> nofun

theorem IsTail.not_isSnapshot {journal : List TerminalEvent} {last : Option ℕ}
    {frames : List PtyTerminalFrame} (h : IsTail ops journal last frames) {size : PtySize}
    {screen : TerminalScreen} : ¬IsSnapshot ops size screen frames := by
  intro hsnapshot
  obtain ⟨last, -, -, -, rfl⟩ := h
  rw [IsSnapshot, List.map_eq_singleton_iff] at hsnapshot
  obtain ⟨event, -, heq⟩ := hsnapshot
  exact toTerminalFrame_ne_snapshot event _ _ _ heq

variable (ops) in
/-- **The decision**, for a journal that is the end of a run: nothing, a tail or a snapshot. -/
theorem snapshotOrTail_cases (screen : TerminalScreen) (size : PtySize) (start : ℕ)
    (last : Option ℕ) :
    let answer := snapshotOrTail screen size ((recorded ops).drop start) (start + 1) ops.length last
    answer.1 = ops.length ∧
      (last = some ops.length ∧ answer.2 = [] ∨
        last ≠ some ops.length ∧ IsTail ops ((recorded ops).drop start) last answer.2 ∨
        last ≠ some ops.length ∧ IsSnapshot ops size screen answer.2) := by
  intro answer
  simp only [answer, snapshotOrTail]
  cases last with
  | none => exact ⟨rfl, .inr (.inr ⟨nofun, rfl⟩)⟩
  | some last =>
    dsimp only
    split
    case isTrue heq => exact ⟨rfl, .inl ⟨congrArg some heq, rfl⟩⟩
    case isFalse hne =>
      have hne' : some last ≠ some ops.length := fun heq => hne (Option.some.inj heq)
      split
      case isFalse => exact ⟨rfl, .inr (.inr ⟨hne', rfl⟩)⟩
      case isTrue hin =>
        obtain ⟨hlt, hbase⟩ := hin
        -- everything after `last` is still in the journal
        have hdrop : ((recorded ops).drop start).filter (fun event => last < event.terminalSeq) =
            (recorded ops).drop last := by
          rw [filter_drop_recorded, Nat.max_eq_right (by omega)]
        rw [hdrop]
        split
        case isFalse => exact ⟨rfl, .inr (.inr ⟨hne', rfl⟩)⟩
        case isTrue hreplay =>
          refine ⟨rfl, .inr (.inl ⟨hne', last, rfl, hlt, fun event hevent => ⟨?_, ?_⟩, rfl⟩)⟩
          · rw [← hdrop] at hevent
            exact List.mem_of_mem_filter hevent
          · rw [shouldReplayAttachTail] at hreplay
            split at hreplay
            case isTrue => exact absurd hreplay (by simp)
            case isFalse hnone =>
              simpa using fun hresize => hnone (List.any_eq_true.mpr ⟨event, hevent, hresize⟩)

variable (ops) in
/-- Events that are all in the journal, none of them a resize: the price decides. -/
theorem snapshotOrTail_of_mem (screen : TerminalScreen) (size : PtySize) {start last : ℕ}
    (hstart : start ≤ last) (hlast : last < ops.length)
    (hresize : ∀ event ∈ (recorded ops).drop last, event.isResize = false) :
    snapshotOrTail screen size ((recorded ops).drop start) (start + 1) ops.length (some last) =
      let cost := (((recorded ops).drop last).map TerminalEvent.replayCostBytes).sum
      (ops.length,
        if cost ≤ 128 * 1024 ∨ cost ≤ screen.snapshotBytes.length * 2 then
          ((recorded ops).drop last).map TerminalEvent.toTerminalFrame
        else [.snapshot ops.length size screen.snapshotBytes]) := by
  have hnone : ¬((recorded ops).drop last).any TerminalEvent.isResize = true := by
    simpa [List.any_eq_true] using hresize
  simp only [snapshotOrTail]
  rw [if_neg (by omega), if_pos ⟨hlast, by omega⟩, filter_drop_recorded, Nat.max_eq_right hstart,
    shouldReplayAttachTail, if_neg hnone, terminalAttachTailMaxBytes]
  generalize (((recorded ops).drop last).map TerminalEvent.replayCostBytes).sum = cost
  by_cases hfew : cost ≤ 128 * 1024
  · rw [if_pos (by rw [if_pos hfew]), if_pos (.inl hfew)]
  · by_cases hcheap : cost ≤ screen.snapshotBytes.length * 2
    · rw [if_pos (by rw [if_neg hfew]; exact decide_eq_true hcheap), if_pos (.inr hcheap)]
    · rw [if_neg (by rw [if_neg hfew]; exact fun h => hcheap (of_decide_eq_true h)),
        if_neg (not_or.mpr ⟨hfew, hcheap⟩)]

/-- **The journal is exact** after the calls `ops`: it holds the most recent events, and every
answer is empty, the missing events or the current screen. -/
structure JournalExact (width : Char → Option (Fin 3)) (size : PtySize) (ops : List CacheOp)
    (c : SupervisorTerminalCache) : Prop where
  size_eq : c.size = ops.foldl (fun size op => op.sizeAfter size) size
  screen_eq : exec (ScreenOp.step width) (.new size.rows size.cols)
    (ops.flatMap CacheOp.screenOps) = some c.screen
  journal_eq : c.journal = (recorded ops).drop (ops.length - 8192)
  length_eq : c.journal.length = min ops.length 8192
  next_eq : c.nextTerminalSeq = ops.length + 1
  base_eq : c.journalBaseSeq =
    (c.journal.head?.map TerminalEvent.terminalSeq).getD c.nextTerminalSeq
  current_eq : ∀ last, (c.terminalSnapshotOrTail last).1 = ops.length
  empty_iff : ∀ last, (c.terminalSnapshotOrTail last).2 = [] ↔ last = some ops.length
  tail_or_snapshot : ∀ last, last ≠ some ops.length →
    Xor (IsTail ops c.journal last (c.terminalSnapshotOrTail last).2)
      (IsSnapshot ops c.size c.screen (c.terminalSnapshotOrTail last).2)

theorem SupervisorTerminalCache.Follows.exact {width : Char → Option (Fin 3)} {size : PtySize}
    {c : SupervisorTerminalCache} (h : c.Follows width size ops) : JournalExact width size ops c := by
  have hmax := terminalJournalMaxEvents_eq
  have hjournal : c.journal = (recorded ops).drop (ops.length - 8192) := by
    rw [h.journal_eq, window, length_recorded, hmax]
  have hcases (last : Option ℕ) : (c.terminalSnapshotOrTail last).1 = ops.length ∧
      (last = some ops.length ∧ (c.terminalSnapshotOrTail last).2 = [] ∨
        last ≠ some ops.length ∧ IsTail ops c.journal last (c.terminalSnapshotOrTail last).2 ∨
        last ≠ some ops.length ∧
          IsSnapshot ops c.size c.screen (c.terminalSnapshotOrTail last).2) := by
    rw [terminalSnapshotOrTail, h.base_eq_length, h.current_eq, hmax, hjournal]
    exact snapshotOrTail_cases ops c.screen c.size (ops.length - 8192) last
  refine ⟨h.size_eq, h.screen_eq, hjournal, ?_, h.next_eq, h.base_eq, fun last => (hcases last).1,
    fun last => ?_, fun last hne => ?_⟩
  · rw [hjournal, List.length_drop, length_recorded]
    omega
  · obtain ⟨-, ⟨hlast, hnil⟩ | ⟨hlast, htail⟩ | ⟨hlast, hsnapshot⟩⟩ := hcases last
    · exact ⟨fun _ => hlast, fun _ => hnil⟩
    · exact ⟨fun hnil => absurd hnil htail.ne_nil, fun h => absurd h hlast⟩
    · rw [IsSnapshot] at hsnapshot
      exact ⟨fun hnil => absurd (hsnapshot.symm.trans hnil) (by simp), fun h => absurd h hlast⟩
  · obtain ⟨-, ⟨hlast, -⟩ | ⟨-, htail⟩ | ⟨-, hsnapshot⟩⟩ := hcases last
    · exact absurd hlast hne
    · exact .inl ⟨htail, htail.not_isSnapshot⟩
    · exact .inr ⟨hsnapshot, fun htail => htail.not_isSnapshot hsnapshot⟩

/-- **The answers of the terminal journal are exact** after every run. -/
theorem SupervisorTerminalCache.exact_of_run (width : Char → Option (Fin 3)) (size : PtySize)
    (ops : List CacheOp) :
    Ensures (exec (step width) (new size) ops) (JournalExact width size ops) :=
  (follows_of_run width size ops).mono fun _ h => h.exact

end Termd.Pty
