import Termd.Pty.Answers
import Termd.Screen.Weight

/-!
# The mirror of the terminal journal

The daemon feeds its mirror with the frames of the supervisor, and some of them arrive more than
once or too late. A mirror that started together with the cache is the cache. One that started from
a snapshot has a shorter journal and a screen of its own.

## Main definitions

* `PtyTerminalFrame.Stale n`: a frame that says nothing new to a mirror that is at `n`
* `Fed ops b frames n`: frames that take a mirror from `b` to `n`
* `SupervisorTerminalMirror.Mirrors c m`, `SupervisorTerminalMirror.FollowsFrom b ops m`: a mirror
  that started with the cache, and one that started from a snapshot

## Main results

* `SupervisorTerminalMirror.applyFrame_of_stale`: stale frames change nothing
* `SupervisorTerminalMirror.refines_cache`: the mirror, its answers and those of the cache
* `SupervisorTerminalMirror.not_same_or_snapshot`: a mirror that sends events where the cache sends
  a snapshot
-/

namespace Termd.Pty

open Screen

/-- A frame that a mirror at `n` has seen, or that is older than what it has seen. -/
def PtyTerminalFrame.Stale (n : ℕ) : PtyTerminalFrame → Prop
  | snapshot base _ _ => base < n
  | output seq _ | resize seq _ | exit seq _ => seq ≤ n

/-- The frames of the run `ops` from `b` to `n`, in order, with stale frames anywhere between. -/
inductive Fed (ops : List CacheOp) (b : ℕ) : List PtyTerminalFrame → ℕ → Prop
  | nil : Fed ops b [] b
  | next {frames : List PtyTerminalFrame} {n : ℕ} {event : TerminalEvent} :
    Fed ops b frames n → (recorded ops)[n]? = some event →
      Fed ops b (frames ++ [event.toTerminalFrame]) (n + 1)
  | stale {frames : List PtyTerminalFrame} {n : ℕ} {frame : PtyTerminalFrame} :
    Fed ops b frames n → frame.Stale n → Fed ops b (frames ++ [frame]) n

theorem getElem?_recorded {ops : List CacheOp} {n : ℕ} {event : TerminalEvent}
    (h : (recorded ops)[n]? = some event) :
    ∃ op, ops.take (n + 1) = ops.take n ++ [op] ∧ event = op.event (n + 1) ∧
      (ops.take n).length = n := by
  rw [recorded, List.getElem?_mapIdx, Option.map_eq_some_iff] at h
  obtain ⟨op, hop, rfl⟩ := h
  have hlt := (List.getElem?_eq_some_iff.mp hop).1
  refine ⟨op, ?_, rfl, by rw [List.length_take]; omega⟩
  rw [List.take_add_one, hop]
  rfl

namespace SupervisorTerminalMirror

variable {width : Char → Option (Fin 3)} {m : SupervisorTerminalMirror}

/-- One frame, without what `apply_frame` returns. -/
def feed (width : Char → Option (Fin 3)) (m : SupervisorTerminalMirror) (frame : PtyTerminalFrame) :
    Option SupervisorTerminalMirror := (m.applyFrame width frame).map Prod.fst

/-- **Stale frames change nothing.** -/
theorem applyFrame_of_stale {frame : PtyTerminalFrame} (h : frame.Stale m.currentTerminalSeq) :
    m.applyFrame width frame = some (m, false) := by
  cases frame <;> exact if_pos h

/-- The frame of an event that is new to the mirror. -/
theorem applyFrame_event (op : CacheOp) {seq : ℕ} (h : m.currentTerminalSeq < seq) :
    m.applyFrame width (op.event seq).toTerminalFrame =
      (exec (ScreenOp.step width) m.screen op.screenOps).map fun screen =>
        (pushJournal { m with screen, size := op.sizeAfter m.size } (op.event seq), true) := by
  cases op with
  | output bytes =>
    refine (if_neg (Nat.not_le.mpr h)).trans ?_
    cases hscreen : m.screen.apply width bytes <;>
      simp [CacheOp.screenOps, exec_cons, ScreenOp.step, hscreen, CacheOp.event, CacheOp.sizeAfter]
  | resize size => exact if_neg (Nat.not_le.mpr h)
  | exit code => exact if_neg (Nat.not_le.mpr h)

/-- **Started together**, the mirror has what the cache has. -/
structure Mirrors (c : SupervisorTerminalCache) (m : SupervisorTerminalMirror) : Prop where
  current_eq : m.currentTerminalSeq = c.currentTerminalSeq
  base_eq : m.journalBaseSeq = c.journalBaseSeq
  journal_eq : m.journal = c.journal
  screen_eq : m.screen = c.screen
  size_eq : m.size = c.size

theorem Mirrors.answer_eq {c : SupervisorTerminalCache} (h : m.Mirrors c) (last : Option ℕ) :
    m.terminalSnapshotOrTail last = c.terminalSnapshotOrTail last := by
  rw [terminalSnapshotOrTail, h.screen_eq, h.size_eq, h.journal_eq, h.base_eq, h.current_eq]
  rfl

variable {size : PtySize} {ops : List CacheOp}

/-- A new event goes into the cache and into the mirror alike. -/
theorem Mirrors.next {c : SupervisorTerminalCache} (hc : c.Follows width size ops)
    (h : m.Mirrors c) (op : CacheOp) :
    ∃ c' m', c.step width op = some c' ∧ c'.Follows width size (ops ++ [op]) ∧
      m.applyFrame width (op.event (ops.length + 1)).toTerminalFrame = some (m', true) ∧
      m'.Mirrors c' := by
  obtain ⟨screen, hscreen, hsteady⟩ := SupervisorTerminalCache.exec_screenOps width hc.steady op
  have hcurrent : m.currentTerminalSeq = ops.length := h.current_eq.trans hc.current_eq
  refine ⟨_, pushJournal { m with screen, size := op.sizeAfter m.size }
    (op.event (ops.length + 1)), ?_, hc.push op hscreen hsteady, ?_, ?_⟩
  · rw [SupervisorTerminalCache.step, SupervisorTerminalCache.call_eq, hscreen]
    rfl
  · rw [applyFrame_event op (by omega), h.screen_eq, hscreen]
    rfl
  · have hjournal : pushEvent m.journal (op.event (ops.length + 1)) =
        pushEvent c.journal (op.event c.nextTerminalSeq) := by rw [h.journal_eq, hc.next_eq]
    refine ⟨?_, ?_, hjournal, rfl, ?_⟩
    · change (op.event (ops.length + 1)).terminalSeq = c.nextTerminalSeq + 1 - 1
      rw [terminalSeq_event, hc.next_eq, Nat.add_sub_cancel]
    · change baseSeq (pushEvent m.journal _) ((op.event (ops.length + 1)).terminalSeq + 1) =
        baseSeq _ (c.nextTerminalSeq + 1)
      rw [hjournal, terminalSeq_event, hc.next_eq]
    · change op.sizeAfter m.size = op.sizeAfter c.size
      rw [h.size_eq]

theorem mirrors_new : (new size).Mirrors (.new size) := ⟨rfl, rfl, rfl, rfl, rfl⟩

variable (width size) in
/-- **A mirror that started with the cache** and was fed `n` events is the cache after `n` events. -/
theorem mirrors_of_fed {frames : List PtyTerminalFrame} {n : ℕ} (h : Fed ops 0 frames n) :
    ∃ c m, exec (SupervisorTerminalCache.step width) (.new size) (ops.take n) = some c ∧
      c.Follows width size (ops.take n) ∧ exec (feed width) (new size) frames = some m ∧
      m.Mirrors c ∧ m.currentTerminalSeq = n := by
  induction h with
  | nil =>
    exact ⟨_, _, rfl, SupervisorTerminalCache.follows_new, rfl, mirrors_new, rfl⟩
  | @next frames n event _ hevent ih =>
    obtain ⟨c, m, hc, hfollows, hm, hmirrors, hcurrent⟩ := ih
    obtain ⟨op, htake, rfl, hlen⟩ := getElem?_recorded hevent
    obtain ⟨c', m', hc', hfollows', hm', hmirrors'⟩ := hmirrors.next hfollows op
    rw [hlen] at hm'
    refine ⟨c', m', ?_, htake ▸ hfollows', ?_, hmirrors', ?_⟩
    · rw [htake, exec_snoc, hc]
      exact hc'
    · rw [exec_snoc, hm]
      exact congrArg (Option.map Prod.fst) hm'
    · rw [hmirrors'.current_eq, hfollows'.current_eq, List.length_append, hlen]
      rfl
  | @stale frames n frame _ hstale ih =>
    obtain ⟨c, m, hc, hfollows, hm, hmirrors, hcurrent⟩ := ih
    refine ⟨c, m, hc, hfollows, ?_, hmirrors, hcurrent⟩
    rw [exec_snoc, hm, Option.bind_some, feed, applyFrame_of_stale (hcurrent ▸ hstale)]
    rfl

/-! ### A mirror that starts from a snapshot -/

/-- **Started from a snapshot** at `b`, the mirror has the recent events from there on. -/
structure FollowsFrom (b : ℕ) (ops : List CacheOp) (m : SupervisorTerminalMirror) : Prop where
  le_length : b ≤ ops.length
  current_eq : m.currentTerminalSeq = ops.length
  journal_eq : m.journal = (recorded ops).drop (max b (ops.length - terminalJournalMaxEvents))
  base_eq : m.journalBaseSeq = max b (ops.length - terminalJournalMaxEvents) + 1
  steady : m.screen.Steady

variable {b : ℕ}

variable (width) in
theorem FollowsFrom.next (h : m.FollowsFrom b ops) (op : CacheOp) :
    ∃ m', m.applyFrame width (op.event (ops.length + 1)).toTerminalFrame = some (m', true) ∧
      m'.FollowsFrom b (ops ++ [op]) := by
  have hmax := terminalJournalMaxEvents_eq
  have hle := h.le_length
  have hlen : (ops ++ [op]).length = ops.length + 1 := List.length_append
  obtain ⟨screen, hscreen, hsteady⟩ := SupervisorTerminalCache.exec_screenOps width h.steady op
  refine ⟨_, by rw [applyFrame_event op (by rw [h.current_eq]; omega), hscreen]; rfl, ?_⟩
  have hjournal : pushEvent m.journal (op.event (ops.length + 1)) =
      (recorded (ops ++ [op])).drop
        (max b ((ops ++ [op]).length - terminalJournalMaxEvents)) := by
    have hstart : max b (ops.length - terminalJournalMaxEvents) ≤ (recorded ops).length := by
      rw [length_recorded]
      omega
    rw [h.journal_eq, pushEvent, window, recorded_snoc, ← List.drop_append_of_le_length hstart,
      List.drop_drop, ← recorded_snoc, List.length_drop, length_recorded, hlen]
    congr 1
    omega
  refine ⟨by omega, ?_, hjournal, ?_, hsteady⟩
  · change (op.event (ops.length + 1)).terminalSeq = _
    rw [terminalSeq_event, hlen]
  · change baseSeq (pushEvent m.journal _) ((op.event (ops.length + 1)).terminalSeq + 1) = _
    rw [hjournal, terminalSeq_event, ← hlen]
    exact baseSeq_drop_recorded (ops ++ [op]) (by omega)

variable (width) in
theorem followsFrom_reset {m₀ : SupervisorTerminalMirror} (hm₀ : m₀.currentTerminalSeq ≤ b)
    (hb : b ≤ ops.length) (size' : PtySize) (bytes : List UInt8) :
    Ensures (m₀.resetFromSnapshot width size' b bytes) (FollowsFrom b (ops.take b)) := by
  obtain ⟨screen, hscreen, hsteady, -⟩ :=
    TerminalScreen.apply_spec width (TerminalScreen.new_steady size'.rows size'.cols) bytes
  have hlen : (ops.take b).length = b := List.length_take_of_le hb
  have hstart : max b (b - terminalJournalMaxEvents) = b := Nat.max_eq_left (Nat.sub_le ..)
  refine ⟨_, by rw [resetFromSnapshot, if_neg (Nat.not_lt.mpr hm₀), hscreen]; rfl, ?_⟩
  refine ⟨hlen.ge, hlen.symm, ?_, by rw [hlen, hstart], hsteady⟩
  rw [hlen, hstart, List.drop_of_length_le (by simp)]

variable (width) in
/-- **A mirror that started from a snapshot** and was fed the events after it. -/
theorem followsFrom_of_fed (h : m.FollowsFrom b (ops.take b)) {frames : List PtyTerminalFrame}
    {n : ℕ} (hfed : Fed ops b frames n) :
    Ensures (exec (feed width) m frames) fun m' =>
      m'.FollowsFrom b (ops.take n) ∧ m'.currentTerminalSeq = n := by
  induction hfed with
  | nil =>
    have hb := h.le_length
    refine .some ⟨h, h.current_eq.trans (Nat.le_antisymm ?_ hb)⟩
    rw [List.length_take]
    exact Nat.min_le_left ..
  | @next frames n event _ hevent ih =>
    obtain ⟨m', hm', hfollows, hcurrent⟩ := ih
    obtain ⟨op, htake, rfl, hlen⟩ := getElem?_recorded hevent
    obtain ⟨m'', hm'', hfollows'⟩ := hfollows.next width op
    rw [hlen] at hm''
    refine ⟨m'', ?_, htake ▸ hfollows', ?_⟩
    · rw [exec_snoc, hm']
      exact congrArg (Option.map Prod.fst) hm''
    · rw [hfollows'.current_eq, List.length_append, hlen]
      rfl
  | @stale frames n frame _ hstale ih =>
    obtain ⟨m', hm', hfollows, hcurrent⟩ := ih
    refine ⟨m', ?_, hfollows, hcurrent⟩
    rw [exec_snoc, hm', Option.bind_some, feed, applyFrame_of_stale (hcurrent ▸ hstale)]
    rfl

/-! ### Answers -/

/-- **The answer of a mirror that started from a snapshot** at `b`: that of the cache, a snapshot of
its own at the same position, or the missing events where the cache sends a snapshot because they
are many. It never reaches back behind `b`. -/
structure AnswersFrom (b : ℕ) (ops : List CacheOp) (c : SupervisorTerminalCache)
    (m : SupervisorTerminalMirror) (last : Option ℕ) : Prop where
  current_eq : (m.terminalSnapshotOrTail last).1 = ops.length
  same_or_snapshot_or_tail :
    m.terminalSnapshotOrTail last = c.terminalSnapshotOrTail last ∨
    IsSnapshot ops m.size m.screen (m.terminalSnapshotOrTail last).2 ∨
    IsTail ops c.journal last (m.terminalSnapshotOrTail last).2 ∧
      IsSnapshot ops c.size c.screen (c.terminalSnapshotOrTail last).2 ∧
      128 * 1024 < (((recorded ops).drop (last.getD 0)).map TerminalEvent.replayCostBytes).sum
  lt_seq : ∀ event : TerminalEvent,
    event.toTerminalFrame ∈ (m.terminalSnapshotOrTail last).2 → b < event.terminalSeq

theorem FollowsFrom.answers {c : SupervisorTerminalCache} (h : m.FollowsFrom b ops)
    (hc : c.Follows width size ops) (last : Option ℕ) : AnswersFrom b ops c m last := by
  have hm := snapshotOrTail_cases ops m.screen m.size
    (max b (ops.length - terminalJournalMaxEvents)) last
  have hanswer : snapshotOrTail m.screen m.size
      ((recorded ops).drop (max b (ops.length - terminalJournalMaxEvents)))
      (max b (ops.length - terminalJournalMaxEvents) + 1) ops.length last =
        m.terminalSnapshotOrTail last := by
    rw [terminalSnapshotOrTail, h.journal_eq, h.base_eq, h.current_eq]
  rw [hanswer] at hm
  obtain ⟨hcurrent, ⟨hlast, hnil⟩ | ⟨hlast, htail⟩ | ⟨hlast, hsnapshot⟩⟩ := hm
  · -- the client is up to date
    have hsame : m.terminalSnapshotOrTail last = c.terminalSnapshotOrTail last :=
      Prod.ext (hcurrent.trans (hc.exact.current_eq last).symm)
        (hnil.trans ((hc.exact.empty_iff last).mpr hlast).symm)
    exact ⟨hcurrent, .inl hsame, fun event hevent => absurd hevent (hnil ▸ List.not_mem_nil)⟩
  · obtain ⟨x, rfl, hlt, hevents, hframes⟩ := htail
    have hafter : max b (ops.length - terminalJournalMaxEvents) ≤ x := by
      obtain ⟨event, hmem, hseq⟩ := exists_mem_drop_recorded hlt
      have hstart := lt_terminalSeq_of_mem_drop (hevents event hmem).1
      omega
    refine ⟨hcurrent, ?_, fun event hevent => ?_⟩
    · obtain ⟨⟨x', hx, -, -, hframes'⟩, -⟩ | ⟨hsnapshot, -⟩ := hc.exact.tail_or_snapshot _ hlast
      · obtain rfl : x = x' := Option.some.inj hx
        exact .inl (Prod.ext (hcurrent.trans (hc.exact.current_eq _).symm)
          (hframes.trans hframes'.symm))
      · -- the journal of the cache reaches back at least as far
        have hjournal : ∀ event ∈ (recorded ops).drop x,
            event ∈ c.journal ∧ event.isResize = false := by
          intro event hevent
          refine ⟨?_, (hevents event hevent).2⟩
          rw [hc.journal_eq, window, length_recorded]
          rw [← Nat.sub_add_cancel (le_trans (Nat.le_max_right ..) hafter), Nat.add_comm,
            ← List.drop_drop] at hevent
          exact List.mem_of_mem_drop hevent
        have htail : IsTail ops c.journal (some x) (m.terminalSnapshotOrTail (some x)).2 :=
          ⟨x, rfl, hlt, hjournal, hframes⟩
        refine .inr (.inr ⟨htail, hsnapshot, Nat.lt_of_not_le fun hfew => ?_⟩)
        have hsent := snapshotOrTail_of_mem ops c.screen c.size
          (le_trans (Nat.le_max_right ..) hafter) hlt fun event hevent => (hevents event hevent).2
        dsimp only at hsent
        rw [if_pos (.inl hfew)] at hsent
        have hcache : c.terminalSnapshotOrTail (some x) =
            (ops.length, ((recorded ops).drop x).map TerminalEvent.toTerminalFrame) := by
          rw [SupervisorTerminalCache.terminalSnapshotOrTail, hc.journal_eq, hc.base_eq_length,
            hc.current_eq, window, length_recorded]
          exact hsent
        have htail' : IsTail ops c.journal (some x) (c.terminalSnapshotOrTail (some x)).2 :=
          ⟨x, rfl, hlt, hjournal, by rw [hcache]⟩
        exact htail'.not_isSnapshot hsnapshot
    · rw [hframes, List.mem_map] at hevent
      obtain ⟨event', hmem, heq⟩ := hevent
      rw [toTerminalFrame_inj heq] at hmem
      have hstart := lt_terminalSeq_of_mem_drop hmem
      omega
  · -- a snapshot of its own
    refine ⟨hcurrent, .inr (.inl hsnapshot), fun event hevent => ?_⟩
    rw [IsSnapshot] at hsnapshot
    rw [hsnapshot, List.mem_singleton] at hevent
    exact absurd hevent (toTerminalFrame_ne_snapshot event _ _ _)

/-- **The mirror refines the cache.** Started together and fed the same events, with stale frames
anywhere between, it is the cache; started from a snapshot, its answers are those of the cache, or
snapshots, or events that the cache would replace by a snapshot. -/
theorem refines_cache (width : Char → Option (Fin 3)) (size : PtySize) (ops : List CacheOp) :
    (∀ frames n, Fed ops 0 frames n →
      ∃ c m, exec (SupervisorTerminalCache.step width) (.new size) (ops.take n) = some c ∧
        exec (feed width) (new size) frames = some m ∧ m.Mirrors c ∧
        (∀ frame : PtyTerminalFrame, frame.Stale n → m.applyFrame width frame = some (m, false)) ∧
        ∀ last, m.terminalSnapshotOrTail last = c.terminalSnapshotOrTail last) ∧
    ∀ (m₀ : SupervisorTerminalMirror) b size' bytes frames n,
      m₀.currentTerminalSeq ≤ b → b ≤ ops.length → Fed ops b frames n →
      ∃ c m₁ m, exec (SupervisorTerminalCache.step width) (.new size) (ops.take n) = some c ∧
        m₀.resetFromSnapshot width size' b bytes = some m₁ ∧ exec (feed width) m₁ frames = some m ∧
        (∀ frame : PtyTerminalFrame, frame.Stale n → m.applyFrame width frame = some (m, false)) ∧
        ∀ last, AnswersFrom b (ops.take n) c m last := by
  refine ⟨fun frames n hfed => ?_, fun m₀ b size' bytes frames n hm₀ hb hfed => ?_⟩
  · obtain ⟨c, m, hc, -, hm, hmirrors, hcurrent⟩ := mirrors_of_fed width size hfed
    exact ⟨c, m, hc, hm, hmirrors, fun frame hstale => applyFrame_of_stale (hcurrent ▸ hstale),
      hmirrors.answer_eq⟩
  · obtain ⟨m₁, hm₁, hfollows₁⟩ := followsFrom_reset width hm₀ hb size' bytes
    obtain ⟨m, hm, hfollows, hcurrent⟩ := followsFrom_of_fed width hfollows₁ hfed
    obtain ⟨c, hc, hc'⟩ := SupervisorTerminalCache.follows_of_run width size (ops.take n)
    exact ⟨c, m₁, m, hc, hm₁, hm, fun frame hstale => applyFrame_of_stale (hcurrent ▸ hstale),
      hfollows.answers hc'⟩

/-- A mirror that sees the first event twice, and one that starts from a snapshot after it. -/
theorem refines_cache_of_duplicate :
    (∃ c m, exec (SupervisorTerminalCache.step fun _ => some 1) (.new ⟨2, 4, 0, 0⟩)
        [.output [0x61], .exit none] = some c ∧
      exec (feed fun _ => some 1) (new ⟨2, 4, 0, 0⟩)
        [.output 1 [0x61], .output 1 [0x61], .exit 2 none] = some m ∧ m.Mirrors c) ∧
    ∃ c m₁ m, exec (SupervisorTerminalCache.step fun _ => some 1) (.new ⟨2, 4, 0, 0⟩)
        [.output [0x61], .exit none] = some c ∧
      (new ⟨2, 4, 0, 0⟩).resetFromSnapshot (fun _ => some 1) ⟨2, 4, 0, 0⟩ 1 [0x61] = some m₁ ∧
      exec (feed fun _ => some 1) m₁ [.exit 2 none] = some m ∧
      ∀ last, AnswersFrom 1 [.output [0x61], .exit none] c m last := by
  have href := refines_cache (fun _ => some 1) ⟨2, 4, 0, 0⟩ [.output [0x61], .exit none]
  have hfed : Fed [.output [0x61], .exit none] 0
      ([] ++ [TerminalEvent.toTerminalFrame (.output 1 [0x61])] ++ [.output 1 [0x61]] ++
        [TerminalEvent.toTerminalFrame (.exit 2 none)]) 2 :=
    .next (.stale (.next .nil rfl) le_rfl) rfl
  have hfed' : Fed [.output [0x61], .exit none] 1
      ([] ++ [TerminalEvent.toTerminalFrame (.exit 2 none)]) 2 := .next .nil rfl
  refine ⟨?_, ?_⟩
  · obtain ⟨c, m, hc, hm, hmirrors, -, -⟩ := href.1 _ 2 hfed
    exact ⟨c, m, hc, hm, hmirrors⟩
  · obtain ⟨c, m₁, m, hc, hm₁, hm, -, hanswers⟩ := href.2 (new ⟨2, 4, 0, 0⟩) 1 ⟨2, 4, 0, 0⟩ [0x61] _
      2 (Nat.zero_le 1) (by decide) hfed'
    exact ⟨c, m₁, m, hc, hm₁, hm, hanswers⟩

/-! ### Answers that differ -/

/-- The longest record of a window title, which ends in an escape: the next byte decides whether
that one ends the title. -/
def cutTitle : List UInt8 := [0x1b, 0x5d] ++ List.replicate 4093 0x78 ++ [0x1b]

theorem length_cutTitle : cutTitle.length = maxPendingControlBytes := by
  rw [cutTitle, List.length_append, List.length_append, List.length_replicate]
  rfl

theorem after_cutTitle : ParserState.after cutTitle = .oscEscape := by
  have hosc (n : ℕ) : ParserState.after ([0x1b, 0x5d] ++ List.replicate n 0x78) = .osc := by
    induction n with
    | zero => rfl
    | succ n ih =>
      rw [List.replicate_succ', ← List.append_assoc, ParserState.after_snoc, ih]
      rfl
  rw [cutTitle, ParserState.after_snoc, hosc]
  rfl

/-- A screen that is in a title, all that was sent to it. -/
def inTitle (rows cols : UInt16) : TerminalScreen :=
  { TerminalScreen.new rows cols with parser := .osc, pendingControl := cutTitle }

variable (width : Char → Option (Fin 3)) (rows cols : UInt16)

theorem inTitle_unused : (inTitle rows cols).Unused :=
  ⟨rfl, (TerminalScreen.new_unused rows cols).state_eq,
    (TerminalScreen.new_unused rows cols).lines_eq⟩

/-- One more byte that does not end the title is not recorded any more. -/
theorem apply_title :
    (TerminalScreen.new rows cols).apply width (cutTitle ++ [0x78]) = some (inTitle rows cols) := by
  have hstart : (TerminalScreen.new rows cols).apply width [0x1b, 0x5d] =
      some { TerminalScreen.new rows cols with parser := .osc, pendingControl := [0x1b, 0x5d] } := rfl
  have htext : ∀ byte ∈ List.replicate 4093 (0x78 : UInt8), byte ≠ 0x07 ∧ byte ≠ 0x1b := by
    intro byte hbyte
    rw [List.eq_of_mem_replicate hbyte]
    decide
  have hrecord : (List.replicate 4093 (0x78 : UInt8)).foldl TerminalScreen.pushControl
      [0x1b, 0x5d] = [0x1b, 0x5d] ++ List.replicate 4093 0x78 := by
    rw [TerminalScreen.foldl_pushControl _ (by decide), List.take_of_length_le]
    rw [List.length_append, List.length_replicate]
    decide
  have hlast : TerminalScreen.pushControl ([0x1b, 0x5d] ++ List.replicate 4093 0x78) 0x1b =
      cutTitle := by
    refine if_pos ?_
    rw [List.length_append, List.length_replicate]
    decide
  have hend (control : List UInt8) :
      TerminalScreen.apply width { TerminalScreen.new rows cols with
        parser := .osc, pendingControl := control } [0x1b, 0x78] =
      some { TerminalScreen.new rows cols with
        parser := .osc
        pendingControl := TerminalScreen.pushControl (TerminalScreen.pushControl control 0x1b)
          0x78 } := rfl
  have hfull : TerminalScreen.pushControl cutTitle 0x78 = cutTitle :=
    if_neg (by rw [length_cutTitle]; exact Nat.lt_irrefl _)
  have hbytes : cutTitle ++ [0x78] =
      [0x1b, 0x5d] ++ (List.replicate 4093 0x78 ++ [0x1b, 0x78]) := by
    simp only [cutTitle, List.append_assoc, List.singleton_append]
  rw [hbytes, TerminalScreen.apply_append, hstart, Option.bind_some, TerminalScreen.apply_append,
    TerminalScreen.apply_osc width rfl htext, Option.bind_some]
  dsimp only
  rw [hrecord, hend, hlast, hfull]
  rfl

/-- What comes next is swallowed by the title, up to its end. -/
theorem inTitle_apply {bytes : List UInt8} (h : ∀ byte ∈ bytes, byte ≠ 0x07 ∧ byte ≠ 0x1b) :
    (inTitle rows cols).apply width bytes = some (inTitle rows cols) := by
  have hrecord : bytes.foldl TerminalScreen.pushControl cutTitle = cutTitle := by
    rw [TerminalScreen.foldl_pushControl _ length_cutTitle.le, ← length_cutTitle, List.take_left]
  rw [TerminalScreen.apply_osc width rfl h]
  exact congrArg (fun control => some { inTitle rows cols with pendingControl := control }) hrecord

/-- A copy that reads the snapshot sees an escape where the title goes on. -/
theorem view_of_apply_inTitle :
    Ensures ((TerminalScreen.new rows cols).apply width (inTitle rows cols).snapshotBytes) fun s =>
      s.Steady ∧ s.view = (TerminalScreen.new rows cols).view.setParser .oscEscape := by
  obtain ⟨s, hs, hsteady, hview⟩ := TerminalScreen.apply_spec width
    (TerminalScreen.new_steady rows cols) (inTitle rows cols).snapshotBytes
  refine ⟨s, hs, hsteady, ?_⟩
  obtain ⟨t, ht, htracked, -⟩ := TerminalScreen.apply_tracked width
    (TerminalScreen.new_tracked rows cols) (cutTitle ++ [0x78])
  obtain rfl : inTitle rows cols = t := Option.some.inj ((apply_title width rows cols).symm.trans ht)
  have hblank := TerminalScreen.new_blank rows cols
  have hunused := inTitle_unused rows cols
  have hwritten : writtenLines (inTitle rows cols).lines (inTitle rows cols).rows = [] := by
    rw [writtenLines, hunused.lines_eq]
  have hfit : (inTitle rows cols).Fits width := by
    refine ⟨fun line hline => ?_, fun n hn => ?_⟩
    · rw [hwritten, window, List.drop_nil] at hline
      exact absurd hline List.not_mem_nil
    · rw [hunused.normal_eq] at hn
      cases hn
  rw [hview, TerminalScreen.apply_snapshotBytes width htracked hblank rfl rfl hfit,
    TerminalScreen.replayed_of_unused (s := inTitle rows cols) width hblank rfl hunused.normal_eq
      hunused.state_eq hunused.lines_eq]
  change { (TerminalScreen.new rows cols).view with
    parser := .after cutTitle, utf8Pending := [] } = _
  rw [after_cutTitle]
  rfl


/-- The end of the title, a row of letters and null bytes. -/
def letters : List UInt8 := 0x5c :: (List.replicate 65535 0x61 ++ List.replicate 65537 0x00)

theorem letters_swallowed : ∀ byte ∈ letters, byte ≠ 0x07 ∧ byte ≠ 0x1b := by
  intro byte hbyte
  rw [letters, List.mem_cons, List.mem_append, List.mem_replicate, List.mem_replicate] at hbyte
  obtain rfl | ⟨-, rfl⟩ | ⟨-, rfl⟩ := hbyte <;> decide

theorem length_letters : letters.length = 131073 := by
  rw [letters, List.length_cons, List.length_append, List.length_replicate, List.length_replicate]

/-- The copy prints the letters, and its snapshot is large. -/
theorem le_snapshotBytes_of_letters (hwidth : terminalCharacterWidth width 'a' = 1)
    {s : TerminalScreen} (hs : s.Steady)
    (hview : s.view = (TerminalScreen.new 1 65535).view.setParser .oscEscape) :
    Ensures (s.apply width letters) fun t => 65537 ≤ t.snapshotBytes.length := by
  obtain ⟨t, ht, -, htview⟩ := TerminalScreen.apply_spec width hs letters
  refine ⟨t, ht, ?_⟩
  have hblank := TerminalScreen.new_blank 1 65535
  have hend : (s.view.applyByte width 0x5c) = (TerminalScreen.new 1 65535).view := by
    rw [hview]
    rfl
  obtain ⟨hfilled, hredraws⟩ := hblank.filled.apply_letters width hwidth 65535 hblank.style_eq
    (by rfl)
  rw [letters, View.apply_cons, hend, View.apply_append,
    View.apply_nulls width 65537 hfilled.tape.idle] at htview
  refine TerminalScreen.le_length_of_letters (n := 65535) (by omega) ?_
  rw [htview]
  refine hfilled.mem_grid ?_
  rw [List.nil_append, List.length_replicate, hredraws.cols_eq]
  rfl

/-- The title, and then the letters. -/
def titleOps : List CacheOp := [.output (cutTitle ++ [0x78]), .output letters]

theorem drop_titleOps : (recorded titleOps).drop 1 = [.output 2 letters] := rfl

/-- What the events cost does not decide alone: it is just too much. -/
theorem snapshotOrTail_title (screen : TerminalScreen) (size : PtySize) {start : ℕ} (h : start ≤ 1) :
    snapshotOrTail screen size ((recorded titleOps).drop start) (start + 1) 2 (some 1) =
      (2, if 131073 ≤ screen.snapshotBytes.length * 2 then [.output 2 letters]
        else [.snapshot 2 size screen.snapshotBytes]) := by
  have hresize : ∀ event ∈ (recorded titleOps).drop 1, event.isResize = false := by
    rw [drop_titleOps]
    intro event hevent
    rw [List.mem_singleton.mp hevent]
    rfl
  have hcost : (((recorded titleOps).drop 1).map TerminalEvent.replayCostBytes).sum = 131073 := by
    rw [drop_titleOps, List.map_singleton, List.sum_singleton, TerminalEvent.replayCostBytes,
      length_letters]
  have hanswer := snapshotOrTail_of_mem titleOps screen size h (by decide) hresize
  dsimp only at hanswer
  rw [hcost] at hanswer
  refine hanswer.trans ?_
  rw [drop_titleOps]
  simp only [show ¬(131073 ≤ 128 * 1024) by decide, false_or]
  rfl

/-- The supervisor swallows the title and the letters. -/
theorem cache_inTitle :
    Ensures (exec (SupervisorTerminalCache.step width) (.new ⟨rows, cols, 0, 0⟩) (titleOps.take 1))
        (fun c => c.screen = inTitle rows cols ∧ c.size = ⟨rows, cols, 0, 0⟩) ∧
      Ensures (exec (SupervisorTerminalCache.step width) (.new ⟨rows, cols, 0, 0⟩) titleOps)
        fun c => c.screen = inTitle rows cols ∧
          c.Follows width ⟨rows, cols, 0, 0⟩ titleOps := by
  constructor
  · refine (SupervisorTerminalCache.follows_of_run width _ (titleOps.take 1)).mono fun c hc => ?_
    have heq := hc.screen_eq
    simp only [titleOps, List.take_succ_cons, List.take_zero, List.flatMap_singleton,
      CacheOp.screenOps, exec_cons, ScreenOp.step] at heq
    rw [apply_title] at heq
    exact ⟨(Option.some.inj heq).symm, hc.size_eq⟩
  · refine (SupervisorTerminalCache.follows_of_run width _ titleOps).mono fun c hc => ⟨?_, hc⟩
    have heq := hc.screen_eq
    simp only [titleOps, List.flatMap_cons, List.flatMap_nil, List.cons_append, List.nil_append,
      CacheOp.screenOps, exec_cons, ScreenOp.step] at heq
    rw [apply_title, Option.bind_some, inTitle_apply width rows cols letters_swallowed] at heq
    exact (Option.some.inj heq).symm

/-- The mirror takes the title to end at the cut, and prints the letters. -/
theorem mirror_letters (hwidth : terminalCharacterWidth width 'a' = 1) :
    Ensures ((new ⟨1, 65535, 0, 0⟩).resetFromSnapshot width ⟨1, 65535, 0, 0⟩ 1
        (inTitle 1 65535).snapshotBytes) fun m₁ =>
      Ensures (exec (feed width) m₁ [.output 2 letters]) fun m =>
        m.FollowsFrom 1 titleOps ∧ 65537 ≤ m.screen.snapshotBytes.length := by
  obtain ⟨s, hs, hsteady, hview⟩ := view_of_apply_inTitle width 1 65535
  obtain ⟨t, ht, hlarge⟩ := le_snapshotBytes_of_letters width hwidth hsteady hview
  have hfed : Fed titleOps 1 ([] ++ [TerminalEvent.toTerminalFrame (.output 2 letters)]) (1 + 1) :=
    .next .nil rfl
  have hnew : (new ⟨1, 65535, 0, 0⟩).currentTerminalSeq ≤ 1 := Nat.zero_le 1
  have hlen : 1 ≤ titleOps.length := by decide
  obtain ⟨m₁, hm₁, hfollows₁⟩ := followsFrom_reset width hnew hlen ⟨1, 65535, 0, 0⟩
    (inTitle 1 65535).snapshotBytes
  obtain ⟨m, hm, hfollows, -⟩ := followsFrom_of_fed width hfollows₁ hfed
  refine ⟨m₁, hm₁, m, hm, hfollows, ?_⟩
  have hscreen₁ : m₁.screen = s := by
    rw [resetFromSnapshot, if_neg (Nat.not_lt.mpr hnew)] at hm₁
    dsimp only at hm₁
    rw [hs] at hm₁
    rw [← Option.some.inj hm₁]
  have hscreen : m.screen = t := by
    have hlt : m₁.currentTerminalSeq < 2 := by
      rw [hfollows₁.current_eq]
      decide
    have hnext : m₁.applyFrame width (.output 2 letters) = _ := applyFrame_event (.output letters) hlt
    rw [hscreen₁, CacheOp.screenOps, exec_cons, ScreenOp.step, ht] at hnext
    rw [List.nil_append, exec_cons, feed] at hm
    change ((m₁.applyFrame width (.output 2 letters)).map Prod.fst).bind _ = _ at hm
    rw [hnext] at hm
    rw [← Option.some.inj hm]
    rfl
  rwa [hscreen]

/-- **A copy may answer otherwise.** The record of a title was cut where the title did not end, the
copy takes it to end there, and what the supervisor swallows is on the screen of the copy. Its own
snapshot is so large that it sends the event instead. -/
theorem not_same_or_snapshot :
    ¬∀ (width : Char → Option (Fin 3)) (size : PtySize) (ops : List CacheOp) (b n : ℕ)
      (frames : List PtyTerminalFrame) (source c : SupervisorTerminalCache)
      (m₁ m : SupervisorTerminalMirror) (last : Option ℕ),
      exec (SupervisorTerminalCache.step width) (.new size) (ops.take b) = some source →
      (new size).resetFromSnapshot width source.size b source.snapshotOutput = some m₁ →
      Fed ops b frames n → exec (feed width) m₁ frames = some m →
      exec (SupervisorTerminalCache.step width) (.new size) (ops.take n) = some c →
      m.terminalSnapshotOrTail last = c.terminalSnapshotOrTail last ∨
        ∃ size' data, m.terminalSnapshotOrTail last = (n, [.snapshot n size' data]) := by
  intro h
  let width : Char → Option (Fin 3) := fun _ => some 1
  obtain ⟨⟨source, hsource, hscreen, hsize⟩, c, hc, hcscreen, hc'⟩ := cache_inTitle width 1 65535
  obtain ⟨m₁, hm₁, m, hm, hm', hlarge⟩ := mirror_letters width rfl
  have hfed : Fed titleOps 1 ([] ++ [TerminalEvent.toTerminalFrame (.output 2 letters)]) (1 + 1) :=
    .next .nil rfl
  have hlen : titleOps.length = 2 := rfl
  have hkept : titleOps.length - terminalJournalMaxEvents = 0 := by
    rw [hlen, terminalJournalMaxEvents_eq]
  have hmirror : m.terminalSnapshotOrTail (some 1) = (2, [.output 2 letters]) := by
    rw [terminalSnapshotOrTail, hm'.journal_eq, hm'.base_eq, hm'.current_eq, hkept, hlen,
      Nat.max_zero, snapshotOrTail_title _ _ le_rfl, if_pos (by omega)]
  have hcache : c.terminalSnapshotOrTail (some 1) =
      (2, [.snapshot 2 c.size c.screen.snapshotBytes]) := by
    have hsmall := TerminalScreen.length_snapshotBytes_of_unused (inTitle_unused 1 65535)
    have hcontrol : (inTitle 1 65535).pendingControl.length = 4096 := length_cutTitle
    have hutf : (inTitle 1 65535).utf8Pending.length = 0 := rfl
    rw [SupervisorTerminalCache.terminalSnapshotOrTail, hc'.journal_eq, hc'.base_eq_length,
      hc'.current_eq, window, length_recorded, hkept, hlen,
      snapshotOrTail_title _ _ (Nat.zero_le 1), if_neg]
    rw [hcscreen]
    omega
  have hanswer := h width ⟨1, 65535, 0, 0⟩ titleOps 1 2 _ source c m₁ m (some 1) hsource
    (by rw [hsize, SupervisorTerminalCache.snapshotOutput, hscreen]; exact hm₁) hfed hm hc
  rw [hmirror, hcache] at hanswer
  simp at hanswer

end SupervisorTerminalMirror

end Termd.Pty
