import Termd.Pty.Resume

/-!
# The reader of the pending frames

What the mirror accepts is queued for a reader, which keeps a copy of the terminal and applies one
frame after the other. A queue that grows too long is replaced by a snapshot of the mirror. A new
synchronisation with the supervisor takes the queue apart and feeds its frames to the mirror again;
the mirror has seen them and does not queue them a second time, so that the reader loses them
unless a snapshot behind them makes up for it.

## Main definitions

* `FrameReader`, `ReaderOp`: the mirror, the queue and the copy of the reader
* `resets n frames`: a snapshot among the frames is accepted by a mirror at `n`
* `FrameReader.Undisturbed`: a synchronisation that takes nothing out of the queue for good
* `FrameReader.LeadsToMirror`: a reader that has read everything has what the mirror has

## Main results

* `FrameReader.Behind.applyAll`: a snapshot makes up for everything that was lost
* `FrameReader.leadsToMirror_of_run`: undisturbed runs
* `FrameReader.unread_frame_lost`: a frame that is lost
-/

namespace Termd.Pty

open Screen

structure FrameReader where
  mirror : SupervisorTerminalMirror
  /-- `pending_terminal_frames` -/
  pending : List PtyTerminalFrame := []
  /-- What the reader has made of the frames that it has read. -/
  copy : SupervisorTerminalMirror
  /-- The mirror, each time that the queue was replaced by a snapshot of it. -/
  snapshots : List SupervisorTerminalMirror := []

inductive ReaderOp
  /-- `apply_and_enqueue_daemon_terminal_frame` -/
  | frame (frame : PtyTerminalFrame)
  /-- `read_terminal_frame`, and the reader applies the frame. -/
  | read
  /-- `seed_attach_sync`, with the bootstrap frames. -/
  | seed (sync : SupervisorAttachSyncPayload) (buffered : List PtyTerminalFrame)

/-- A synchronisation without frames resets the mirror, and queues nothing. -/
def SupervisorAttachSyncPayload.resetsMirror (sync : SupervisorAttachSyncPayload) : Bool :=
  sync.frames = [] && sync.snapshot.retainedOutput ≠ []

namespace FrameReader

variable (width : Char → Option (Fin 3)) (q : FrameReader)

/-- `apply_and_enqueue_daemon_terminal_frame` -/
def applyAndEnqueue (frame : PtyTerminalFrame) : Option FrameReader := do
  let (mirror, applied) ← q.mirror.applyFrame width frame
  if applied then
    return { q with
      mirror
      pending := enqueueDaemonTerminalFrame q.pending mirror frame
      snapshots := if hasRoom q.pending frame then q.snapshots else q.snapshots ++ [mirror] }
  else return { q with mirror }

def applyAll (frames : List PtyTerminalFrame) : Option FrameReader :=
  frames.foldlM (applyAndEnqueue width) q

/-- The frames of the queue that a synchronisation feeds to the mirror again. -/
def pendingLive (sync : SupervisorAttachSyncPayload) : List PtyTerminalFrame :=
  q.pending.filter fun frame => frame.terminalSeq.any fun seq => sync.baseSeq < seq

/-- Everything that a synchronisation feeds to the mirror. -/
def fed (sync : SupervisorAttachSyncPayload) (buffered : List PtyTerminalFrame) :
    List PtyTerminalFrame :=
  sync.frames ++ sortFrames (q.pendingLive sync ++ buffered)

/-- What a synchronisation without frames makes of the mirror. -/
def resetMirror (sync : SupervisorAttachSyncPayload) : Option SupervisorTerminalMirror :=
  if sync.resetsMirror then
    q.mirror.applySnapshotAndTail width sync.snapshot.size sync.baseSeq
      sync.snapshot.retainedOutput []
  else some q.mirror

def seed (sync : SupervisorAttachSyncPayload) (buffered : List PtyTerminalFrame) :
    Option FrameReader := do
  let mirror ← q.resetMirror width sync
  applyAll width { q with mirror, pending := [] } (q.fed sync buffered)

def read : Option FrameReader :=
  match q.pending with
  | [] => some q
  | frame :: pending => do
    let (copy, _) ← q.copy.applyFrame width frame
    return { q with pending, copy }

def step : ReaderOp → Option FrameReader
  | .frame frame => q.applyAndEnqueue width frame
  | .read => q.read width
  | .seed sync buffered => q.seed width sync buffered

end FrameReader

/-! ### What is claimed -/

/-- The current number and the screen are the same; journals may differ. -/
structure SupervisorTerminalMirror.Same (m n : SupervisorTerminalMirror) : Prop where
  current_eq : m.currentTerminalSeq = n.currentTerminalSeq
  screen_eq : m.screen = n.screen

/-- The snapshot of a mirror fits into the queue, and gives its screen when it is replayed. -/
structure SupervisorTerminalMirror.Reproduced (width : Char → Option (Fin 3))
    (m : SupervisorTerminalMirror) : Prop where
  replayed : (TerminalScreen.new m.size.rows m.size.cols).apply width m.screen.snapshotBytes =
    some m.screen
  fits : m.screen.snapshotBytes.length ≤ supervisorOutputQueueMaxBytes

/-- A snapshot among the frames is accepted by a mirror whose current number is `n`. -/
def resets (n : ℕ) : List PtyTerminalFrame → Bool
  | [] => false
  | .snapshot base _ _ :: frames => n ≤ base || resets n frames
  | frame :: frames => resets (max n frame.reaches) frames

namespace FrameReader

variable (width : Char → Option (Fin 3)) (q : FrameReader)

/-- The queue is empty and the mirror is not reset, or a snapshot makes up for it. -/
def Undisturbed : ReaderOp → Bool
  | .seed sync buffered =>
    let current := q.mirror.currentTerminalSeq
    resets (if sync.resetsMirror then max current sync.baseSeq else current)
        (q.fed sync buffered) ||
      q.pending = [] && !(sync.resetsMirror && current ≤ sync.baseSeq)
  | _ => true

structure LeadsToMirror : Prop where
  /-- A reader that has read everything has what the mirror has. -/
  drained : q.pending = [] → q.copy.Same q.mirror
  length_le : q.pending.length ≤ supervisorOutputQueueMaxMessages
  bytes_le : retainedBytes q.pending ≤ supervisorOutputQueueMaxBytes

end FrameReader

/-! ### One frame -/

namespace SupervisorTerminalMirror

variable {width : Char → Option (Fin 3)} {m n m' : SupervisorTerminalMirror}
  {frame : PtyTerminalFrame} {applied : Bool}

theorem Same.refl (m : SupervisorTerminalMirror) : m.Same m := ⟨rfl, rfl⟩

theorem Same.symm (h : m.Same n) : n.Same m := ⟨h.current_eq.symm, h.screen_eq.symm⟩

/-- What a frame does depends on the current number and on the screen only. -/
theorem Same.applyFrame (h : m.Same n) (hm : m.applyFrame width frame = some (m', applied)) :
    ∃ n', n.applyFrame width frame = some (n', applied) ∧ m'.Same n' := by
  obtain ⟨hcurrent, hscreen⟩ := h
  cases frame with
  | snapshot base size data =>
    rw [SupervisorTerminalMirror.applyFrame] at hm ⊢
    rw [← hcurrent]
    split_ifs at hm ⊢ with hlt
    · obtain ⟨rfl, rfl⟩ := Prod.mk.inj (Option.some.inj hm)
      exact ⟨n, rfl, hcurrent, hscreen⟩
    · rw [resetFromSnapshot, if_neg hlt] at hm
      rw [resetFromSnapshot, if_neg (hcurrent ▸ hlt)]
      exact ⟨m', hm, rfl, rfl⟩
  | output seq data =>
    rw [SupervisorTerminalMirror.applyFrame] at hm ⊢
    rw [← hcurrent, ← hscreen]
    split_ifs at hm ⊢ with hle
    · obtain ⟨rfl, rfl⟩ := Prod.mk.inj (Option.some.inj hm)
      exact ⟨n, rfl, hcurrent, hscreen⟩
    · obtain ⟨screen, happly, heq⟩ := Option.bind_eq_some_iff.mp hm
      obtain ⟨rfl, rfl⟩ := Prod.mk.inj (Option.some.inj heq)
      exact ⟨pushJournal { n with screen } (.output seq data), by rw [happly]; rfl, rfl, rfl⟩
  | resize seq size =>
    rw [SupervisorTerminalMirror.applyFrame] at hm ⊢
    rw [← hcurrent, ← hscreen]
    split_ifs at hm ⊢ with hle
    · obtain ⟨rfl, rfl⟩ := Prod.mk.inj (Option.some.inj hm)
      exact ⟨n, rfl, hcurrent, hscreen⟩
    · obtain ⟨rfl, rfl⟩ := Prod.mk.inj (Option.some.inj hm)
      exact ⟨pushJournal { n with size, screen := m.screen.resize size.rows size.cols }
        (.resize seq size), rfl, rfl, rfl⟩
  | exit seq code =>
    rw [SupervisorTerminalMirror.applyFrame] at hm ⊢
    rw [← hcurrent]
    split_ifs at hm ⊢ with hle
    · obtain ⟨rfl, rfl⟩ := Prod.mk.inj (Option.some.inj hm)
      exact ⟨n, rfl, hcurrent, hscreen⟩
    · obtain ⟨rfl, rfl⟩ := Prod.mk.inj (Option.some.inj hm)
      exact ⟨n.pushJournal (.exit seq code), rfl, rfl, hscreen⟩

/-- **One frame** does not panic, is accepted unless it is stale, and moves the mirror to where it
reaches. -/
theorem applyFrame_spec (width : Char → Option (Fin 3)) (hm : m.screen.Steady)
    (frame : PtyTerminalFrame) :
    m.applyFrame width frame = some (m, false) ∧ frame.reaches ≤ m.currentTerminalSeq ∨
    ∃ m', m.applyFrame width frame = some (m', true) ∧ m'.screen.Steady ∧
      m'.currentTerminalSeq = frame.reaches ∧ m.currentTerminalSeq ≤ frame.reaches := by
  cases frame with
  | snapshot base size data =>
    rw [SupervisorTerminalMirror.applyFrame]
    split_ifs with hlt
    · exact .inl ⟨rfl, hlt.le⟩
    · obtain ⟨screen, happly, hsteady, -⟩ :=
        TerminalScreen.apply_spec width (TerminalScreen.new_steady size.rows size.cols) data
      refine .inr ⟨⟨base, base + 1, [], screen, size⟩, ?_, hsteady, rfl, Nat.le_of_not_lt hlt⟩
      rw [resetFromSnapshot, if_neg hlt, happly]
      rfl
  | output seq data =>
    rw [SupervisorTerminalMirror.applyFrame]
    split_ifs with hle
    · exact .inl ⟨rfl, hle⟩
    · obtain ⟨screen, happly, hsteady, -⟩ := TerminalScreen.apply_spec width hm data
      refine .inr ⟨pushJournal { m with screen } (.output seq data), ?_, hsteady, rfl,
        (Nat.lt_of_not_le hle).le⟩
      rw [happly]
      rfl
  | resize seq size =>
    rw [SupervisorTerminalMirror.applyFrame]
    split_ifs with hle
    · exact .inl ⟨rfl, hle⟩
    · exact .inr ⟨_, rfl, TerminalScreen.resize_steady hm .., rfl, (Nat.lt_of_not_le hle).le⟩
  | exit seq code =>
    rw [SupervisorTerminalMirror.applyFrame]
    split_ifs with hle
    · exact .inl ⟨rfl, hle⟩
    · exact .inr ⟨_, rfl, hm, rfl, (Nat.lt_of_not_le hle).le⟩

/-- The frames of a queue do not panic. -/
theorem exec_feed_spec (width : Char → Option (Fin 3)) (hm : m.screen.Steady)
    (frames : List PtyTerminalFrame) :
    ∃ m', exec (feed width) m frames = some m' ∧ m'.screen.Steady ∧
      m.currentTerminalSeq ≤ m'.currentTerminalSeq := by
  induction frames generalizing m with
  | nil => exact ⟨m, rfl, hm, le_rfl⟩
  | cons frame frames ih =>
    rw [exec_cons, feed]
    rcases applyFrame_spec width hm frame with ⟨happly, -⟩ | ⟨m', happly, hm', hcurrent, hle⟩
    · rw [happly]
      exact ih hm
    · obtain ⟨m'', hrun, hsteady, hle'⟩ := ih hm'
      rw [happly]
      exact ⟨m'', hrun, hsteady, hle.trans (hcurrent ▸ hle')⟩

/-- A snapshot that two mirrors accept makes them equal. -/
theorem applyFrame_snapshot {base : ℕ} {size : PtySize} {data : List UInt8}
    (hm : m.currentTerminalSeq ≤ base) (hn : n.currentTerminalSeq ≤ base) :
    m.applyFrame width (.snapshot base size data) =
      n.applyFrame width (.snapshot base size data) := by
  rw [SupervisorTerminalMirror.applyFrame, SupervisorTerminalMirror.applyFrame,
    if_neg (Nat.not_lt.mpr hm), if_neg (Nat.not_lt.mpr hn), resetFromSnapshot, resetFromSnapshot,
    if_neg (Nat.not_lt.mpr hm), if_neg (Nat.not_lt.mpr hn)]

end SupervisorTerminalMirror

/-! ### The queue -/

namespace FrameReader

variable {width : Char → Option (Fin 3)} {q q' : FrameReader} {frame : PtyTerminalFrame}

/-- The queue and the screens, whatever the reader has. -/
structure Ready (q : FrameReader) : Prop where
  mirror_steady : q.mirror.screen.Steady
  copy_steady : q.copy.screen.Steady
  length_le : q.pending.length ≤ supervisorOutputQueueMaxMessages
  bytes_le : retainedBytes q.pending ≤ supervisorOutputQueueMaxBytes

/-- The reader will not be ahead of the mirror. -/
def Behind (width : Char → Option (Fin 3)) (q : FrameReader) : Prop :=
  ∃ copy, exec (SupervisorTerminalMirror.feed width) q.copy q.pending = some copy ∧
    copy.currentTerminalSeq ≤ q.mirror.currentTerminalSeq

/-- The reader will have what the mirror has. -/
def Leads (width : Char → Option (Fin 3)) (q : FrameReader) : Prop :=
  ∃ copy, exec (SupervisorTerminalMirror.feed width) q.copy q.pending = some copy ∧
    copy.Same q.mirror

theorem Leads.behind (h : q.Leads width) : q.Behind width := by
  obtain ⟨copy, hcopy, hsame⟩ := h
  exact ⟨copy, hcopy, hsame.current_eq.le⟩

/-- The copy is not ahead of the mirror either. -/
theorem Behind.copy_le (h : q.Behind width) (hready : q.Ready) :
    q.copy.currentTerminalSeq ≤ q.mirror.currentTerminalSeq := by
  obtain ⟨copy, hcopy, hle⟩ := h
  obtain ⟨copy', hcopy', -, hle'⟩ :=
    SupervisorTerminalMirror.exec_feed_spec width hready.copy_steady q.pending
  obtain rfl := Option.some.inj (hcopy.symm.trans hcopy')
  exact hle'.trans hle

/-- What one frame does. -/
theorem applyAndEnqueue_cases (hready : q.Ready) (h : q.applyAndEnqueue width frame = some q') :
    q' = q ∧ q.mirror.applyFrame width frame = some (q.mirror, false) ∧
      frame.reaches ≤ q.mirror.currentTerminalSeq ∨
    ∃ mirror, q.mirror.applyFrame width frame = some (mirror, true) ∧ mirror.screen.Steady ∧
      mirror.currentTerminalSeq = frame.reaches ∧
      q.mirror.currentTerminalSeq ≤ frame.reaches ∧
      q' = { q with
        mirror
        pending := enqueueDaemonTerminalFrame q.pending mirror frame
        snapshots :=
          if hasRoom q.pending frame then q.snapshots else q.snapshots ++ [mirror] } := by
  rw [applyAndEnqueue] at h
  rcases SupervisorTerminalMirror.applyFrame_spec width hready.mirror_steady frame with
    ⟨happly, hle⟩ | ⟨mirror, happly, hsteady, hcurrent, hle⟩
  · rw [happly] at h
    exact .inl ⟨(Option.some.inj h).symm, happly, hle⟩
  · rw [happly] at h
    exact .inr ⟨mirror, happly, hsteady, hcurrent, hle, (Option.some.inj h).symm⟩

theorem retainedBytes_concat (frames : List PtyTerminalFrame) (frame : PtyTerminalFrame) :
    retainedBytes (frames ++ [frame]) = retainedBytes frames + frame.retainedBytes := by
  simp [retainedBytes]

/-- **The queue keeps its bounds.** -/
theorem enqueue_le (pending : List PtyTerminalFrame) (mirror : SupervisorTerminalMirror)
    (frame : PtyTerminalFrame) :
    (enqueueDaemonTerminalFrame pending mirror frame).length ≤ supervisorOutputQueueMaxMessages ∧
      retainedBytes (enqueueDaemonTerminalFrame pending mirror frame) ≤
        supervisorOutputQueueMaxBytes := by
  rw [enqueueDaemonTerminalFrame]
  split_ifs with hroom
  · obtain ⟨hlength, hbytes⟩ := Bool.and_eq_true_iff.mp hroom
    rw [retainedBytes_concat, List.length_append]
    exact ⟨of_decide_eq_true hlength, of_decide_eq_true hbytes⟩
  · change ([_].filter _).length ≤ _ ∧ retainedBytes ([_].filter _) ≤ _
    rw [List.filter_cons]
    split_ifs with hfits
    · exact ⟨Nat.le_of_ble_eq_true rfl, by simpa [retainedBytes] using hfits⟩
    · exact ⟨Nat.zero_le _, Nat.zero_le _⟩

theorem Ready.applyAndEnqueue (hready : q.Ready) (h : q.applyAndEnqueue width frame = some q') :
    q'.Ready := by
  obtain ⟨rfl, -, -⟩ | ⟨mirror, -, hsteady, -, -, rfl⟩ := applyAndEnqueue_cases hready h
  · exact hready
  · have hbounds := enqueue_le q.pending mirror frame
    exact ⟨hsteady, hready.copy_steady, hbounds.1, hbounds.2⟩

/-- The mirror goes where the frame reaches, unless it is there. -/
theorem current_applyAndEnqueue (hready : q.Ready)
    (h : q.applyAndEnqueue width frame = some q') :
    q'.mirror.currentTerminalSeq = max q.mirror.currentTerminalSeq frame.reaches := by
  obtain ⟨rfl, -, hle⟩ | ⟨mirror, -, -, hcurrent, hle, rfl⟩ := applyAndEnqueue_cases hready h
  · exact (Nat.max_eq_left hle).symm
  · exact hcurrent.trans (Nat.max_eq_right hle).symm

/-- The copy of the reader, and the snapshots so far. -/
theorem frame_applyAndEnqueue (hready : q.Ready) (h : q.applyAndEnqueue width frame = some q') :
    q'.copy = q.copy ∧ q.snapshots ⊆ q'.snapshots := by
  obtain ⟨rfl, -⟩ | ⟨mirror, -, -, -, -, rfl⟩ := applyAndEnqueue_cases hready h
  · exact ⟨rfl, List.Subset.refl _⟩
  · refine ⟨rfl, ?_⟩
    dsimp only
    split_ifs
    · exact List.Subset.refl _
    · exact List.subset_append_left _ _

/-- **The snapshot of a mirror leads to it.** -/
theorem exec_snapshot {mirror copy : SupervisorTerminalMirror} (h : mirror.Reproduced width)
    (hle : copy.currentTerminalSeq ≤ mirror.currentTerminalSeq) :
    ∃ copy', exec (SupervisorTerminalMirror.feed width) copy
        [.snapshot mirror.currentTerminalSeq mirror.size mirror.screen.snapshotBytes] = some copy' ∧
      copy'.Same mirror := by
  refine ⟨⟨mirror.currentTerminalSeq, mirror.currentTerminalSeq + 1, [], mirror.screen,
    mirror.size⟩, ?_, rfl, rfl⟩
  rw [exec_cons, SupervisorTerminalMirror.feed, SupervisorTerminalMirror.applyFrame,
    if_neg (Nat.not_lt.mpr hle), SupervisorTerminalMirror.resetFromSnapshot,
    if_neg (Nat.not_lt.mpr hle), h.replayed]
  rfl

/-- A frame is refused, or joins the queue, or the queue is replaced by what leads to the mirror. -/
theorem enqueue_cases (hready : q.Ready) (hbehind : q.Behind width)
    (h : q.applyAndEnqueue width frame = some q')
    (hsnapshots : ∀ m ∈ q'.snapshots, m.Reproduced width) :
    q' = q ∧ q.mirror.applyFrame width frame = some (q.mirror, false) ∨ q'.Leads width ∨
    ∃ mirror, q.mirror.applyFrame width frame = some (mirror, true) ∧
      q.mirror.currentTerminalSeq ≤ frame.reaches ∧ mirror.currentTerminalSeq = frame.reaches ∧
      q' = { q with mirror, pending := q.pending ++ [frame] } := by
  obtain ⟨rfl, hrefused, -⟩ | ⟨mirror, happly, -, hcurrent, hle, rfl⟩ :=
    applyAndEnqueue_cases hready h
  · exact .inl ⟨rfl, hrefused⟩
  right
  cases hroom : hasRoom q.pending frame with
  | true =>
    refine .inr ⟨mirror, happly, hle, hcurrent, ?_⟩
    rw [enqueueDaemonTerminalFrame, if_pos hroom, if_pos rfl]
  | false =>
    left
    rw [hroom, if_neg Bool.false_ne_true] at hsnapshots
    have hreproduced := hsnapshots mirror (by simp)
    have hcopy := (hbehind.copy_le hready).trans (hle.trans hcurrent.ge)
    have hpending : enqueueDaemonTerminalFrame q.pending mirror frame =
        [.snapshot mirror.currentTerminalSeq mirror.size mirror.screen.snapshotBytes] := by
      rw [enqueueDaemonTerminalFrame, if_neg (Bool.eq_false_iff.mp hroom)]
      exact List.filter_cons_of_pos (decide_eq_true hreproduced.fits)
    rw [Leads, hpending]
    exact exec_snapshot hreproduced hcopy

/-- **One frame** does not take the reader ahead of the mirror. -/
theorem Behind.applyAndEnqueue (hready : q.Ready) (hbehind : q.Behind width)
    (h : q.applyAndEnqueue width frame = some q')
    (hsnapshots : ∀ m ∈ q'.snapshots, m.Reproduced width) : q'.Behind width := by
  obtain ⟨rfl, -⟩ | hleads | ⟨mirror, -, hle, hcurrent, rfl⟩ :=
    enqueue_cases hready hbehind h hsnapshots
  · exact hbehind
  · exact hleads.behind
  · obtain ⟨copy, hcopy, hcopyLe⟩ := hbehind
    obtain ⟨copy', hcopy', hsteady, -⟩ :=
      SupervisorTerminalMirror.exec_feed_spec width hready.copy_steady q.pending
    obtain rfl := Option.some.inj (hcopy.symm.trans hcopy')
    rcases SupervisorTerminalMirror.applyFrame_spec width hsteady frame with
      ⟨happly, -⟩ | ⟨copy', happly, -, hreaches, -⟩
    · refine ⟨copy, ?_, hcopyLe.trans (hle.trans hcurrent.ge)⟩
      rw [exec_snoc, hcopy]
      exact congrArg (Option.map Prod.fst) happly
    · refine ⟨copy', ?_, (hreaches.trans hcurrent.symm).le⟩
      rw [exec_snoc, hcopy]
      exact congrArg (Option.map Prod.fst) happly

/-- **A snapshot makes up for everything that was lost.** -/
theorem Behind.snapshot (hready : q.Ready) (hbehind : q.Behind width) {base : ℕ} {size : PtySize}
    {data : List UInt8} (h : q.applyAndEnqueue width (.snapshot base size data) = some q')
    (hle : q.mirror.currentTerminalSeq ≤ base)
    (hsnapshots : ∀ m ∈ q'.snapshots, m.Reproduced width) : q'.Leads width := by
  obtain ⟨rfl, hrefused⟩ | hleads | ⟨mirror, happly, -, -, rfl⟩ :=
    enqueue_cases hready hbehind h hsnapshots
  · -- the mirror accepts the snapshot
    rw [SupervisorTerminalMirror.applyFrame, if_neg (Nat.not_lt.mpr hle)] at hrefused
    obtain ⟨mirror, -, heq⟩ := Option.bind_eq_some_iff.mp hrefused
    cases heq
  · exact hleads
  · obtain ⟨copy, hcopy, hcopyLe⟩ := hbehind
    refine ⟨mirror, ?_, .refl mirror⟩
    rw [exec_snoc, hcopy]
    refine congrArg (Option.map Prod.fst) (Eq.trans ?_ happly)
    exact SupervisorTerminalMirror.applyFrame_snapshot (hcopyLe.trans hle) hle

/-- A reader that is led to the mirror is led to it by the frame, too. -/
theorem Leads.applyAndEnqueue (hready : q.Ready) (hleads : q.Leads width)
    (h : q.applyAndEnqueue width frame = some q')
    (hsnapshots : ∀ m ∈ q'.snapshots, m.Reproduced width) : q'.Leads width := by
  obtain ⟨rfl, -⟩ | hleads' | ⟨mirror, happly, -, -, rfl⟩ :=
    enqueue_cases hready hleads.behind h hsnapshots
  · exact hleads
  · exact hleads'
  · obtain ⟨copy, hcopy, hsame⟩ := hleads
    obtain ⟨copy', happly', hsame'⟩ := hsame.symm.applyFrame happly
    refine ⟨copy', ?_, hsame'.symm⟩
    rw [exec_snoc, hcopy]
    exact congrArg (Option.map Prod.fst) happly'

/-! ### Many frames -/

variable {frames : List PtyTerminalFrame}

theorem applyAll_cons : q.applyAll width (frame :: frames) =
    (q.applyAndEnqueue width frame).bind fun q' => q'.applyAll width frames := by
  rw [applyAll, List.foldlM_cons]
  rfl

/-- What many frames keep. -/
theorem frame_applyAll (hready : q.Ready) (h : q.applyAll width frames = some q') :
    q'.Ready ∧ q'.copy = q.copy ∧ q.snapshots ⊆ q'.snapshots := by
  induction frames generalizing q with
  | nil =>
    obtain rfl := Option.some.inj h
    exact ⟨hready, rfl, List.Subset.refl _⟩
  | cons frame frames ih =>
    rw [applyAll_cons] at h
    obtain ⟨q₁, happly, hrest⟩ := Option.bind_eq_some_iff.mp h
    obtain ⟨hready', hcopy, hsnapshots⟩ := ih (hready.applyAndEnqueue happly) hrest
    obtain ⟨hcopy₁, hsnapshots₁⟩ := frame_applyAndEnqueue hready happly
    exact ⟨hready', hcopy.trans hcopy₁, List.Subset.trans hsnapshots₁ hsnapshots⟩

theorem Leads.applyAll (hready : q.Ready) (hleads : q.Leads width)
    (h : q.applyAll width frames = some q')
    (hsnapshots : ∀ m ∈ q'.snapshots, m.Reproduced width) : q'.Leads width := by
  induction frames generalizing q with
  | nil =>
    obtain rfl := Option.some.inj h
    exact hleads
  | cons frame frames ih =>
    rw [applyAll_cons] at h
    obtain ⟨q₁, happly, hrest⟩ := Option.bind_eq_some_iff.mp h
    have hready₁ := hready.applyAndEnqueue happly
    have hsubset := (frame_applyAll hready₁ hrest).2.2
    have hleads₁ := hleads.applyAndEnqueue hready happly fun m hm => hsnapshots m (hsubset hm)
    exact ih hready₁ hleads₁ hrest

/-- **A snapshot among the frames makes up for everything that was lost.** -/
theorem Behind.applyAll (hready : q.Ready) (hbehind : q.Behind width)
    (hresets : resets q.mirror.currentTerminalSeq frames = true)
    (h : q.applyAll width frames = some q')
    (hsnapshots : ∀ m ∈ q'.snapshots, m.Reproduced width) : q'.Leads width := by
  induction frames generalizing q with
  | nil => cases hresets
  | cons frame frames ih =>
    rw [applyAll_cons] at h
    obtain ⟨q₁, happly, hrest⟩ := Option.bind_eq_some_iff.mp h
    have hready₁ := hready.applyAndEnqueue happly
    have hsubset := (frame_applyAll hready₁ hrest).2.2
    have hsnapshots₁ : ∀ m ∈ q₁.snapshots, m.Reproduced width :=
      fun m hm => hsnapshots m (hsubset hm)
    have hbehind₁ := hbehind.applyAndEnqueue hready happly hsnapshots₁
    have hcurrent := current_applyAndEnqueue hready happly
    cases frame with
    | snapshot base size data =>
      rcases Bool.or_eq_true_iff.mp hresets with hle | hlater
      · have hleads := hbehind.snapshot hready happly (of_decide_eq_true hle) hsnapshots₁
        exact hleads.applyAll hready₁ hrest hsnapshots
      · by_cases hle : q.mirror.currentTerminalSeq ≤ base
        · have hleads := hbehind.snapshot hready happly hle hsnapshots₁
          exact hleads.applyAll hready₁ hrest hsnapshots
        · refine ih hready₁ hbehind₁ ?_ hrest
          rw [hcurrent, PtyTerminalFrame.reaches, Nat.max_eq_left (Nat.le_of_not_le hle)]
          exact hlater
    | output seq data => exact ih hready₁ hbehind₁ (hcurrent ▸ hresets) hrest
    | resize seq size => exact ih hready₁ hbehind₁ (hcurrent ▸ hresets) hrest
    | exit seq code => exact ih hready₁ hbehind₁ (hcurrent ▸ hresets) hrest

/-! ### Reading, and a new synchronisation -/

theorem read_cases (hready : q.Ready) (h : q.read width = some q') : q' = q ∨
    ∃ frame pending copy, q.pending = frame :: pending ∧ copy.screen.Steady ∧
      SupervisorTerminalMirror.feed width q.copy frame = some copy ∧
      q' = { q with pending, copy } := by
  rw [read] at h
  split at h
  · exact .inl (Option.some.inj h).symm
  next frame pending hpending =>
    obtain ⟨⟨copy, applied⟩, happly, heq⟩ := Option.bind_eq_some_iff.mp h
    refine .inr ⟨frame, pending, copy, hpending, ?_, congrArg (Option.map Prod.fst) happly,
      (Option.some.inj heq).symm⟩
    rcases SupervisorTerminalMirror.applyFrame_spec width hready.copy_steady frame with
      ⟨hrefused, -⟩ | ⟨copy', hcopy', hsteady, -⟩
    · obtain ⟨rfl, -⟩ := Prod.mk.inj (Option.some.inj (happly.symm.trans hrefused))
      exact hready.copy_steady
    · obtain ⟨rfl, -⟩ := Prod.mk.inj (Option.some.inj (happly.symm.trans hcopy'))
      exact hsteady

theorem Ready.read (hready : q.Ready) (h : q.read width = some q') : q'.Ready := by
  obtain rfl | ⟨frame, pending, copy, hpending, hsteady, -, rfl⟩ := read_cases hready h
  · exact hready
  · have hlength := hready.length_le
    have hbytes := hready.bytes_le
    rw [hpending, List.length_cons] at hlength
    rw [hpending, retainedBytes, List.map_cons, List.sum_cons] at hbytes
    exact ⟨hready.mirror_steady, hsteady, (Nat.le_succ _).trans hlength,
      (Nat.le_add_left _ _).trans hbytes⟩

theorem Leads.read (hready : q.Ready) (hleads : q.Leads width) (h : q.read width = some q') :
    q'.Leads width := by
  obtain rfl | ⟨frame, pending, copy, hpending, -, hfeed, rfl⟩ := read_cases hready h
  · exact hleads
  · obtain ⟨last, hlast, hsame⟩ := hleads
    rw [hpending, exec_cons, hfeed] at hlast
    exact ⟨last, hlast, hsame⟩

/-- What a synchronisation without frames does to the mirror. -/
theorem resetMirror_spec (width : Char → Option (Fin 3)) (hready : q.Ready)
    (sync : SupervisorAttachSyncPayload) :
    ∃ mirror, q.resetMirror width sync = some mirror ∧ mirror.screen.Steady ∧
      mirror.currentTerminalSeq = (if sync.resetsMirror then
        max q.mirror.currentTerminalSeq sync.baseSeq else q.mirror.currentTerminalSeq) ∧
      ((sync.resetsMirror && q.mirror.currentTerminalSeq ≤ sync.baseSeq) = false →
        mirror = q.mirror) := by
  rw [resetMirror]
  cases sync.resetsMirror with
  | false => exact ⟨q.mirror, rfl, hready.mirror_steady, rfl, fun _ => rfl⟩
  | true =>
    rw [if_pos rfl, if_pos rfl, SupervisorTerminalMirror.applySnapshotAndTail,
      SupervisorTerminalMirror.resetFromSnapshot]
    by_cases hlt : sync.baseSeq < q.mirror.currentTerminalSeq
    · rw [if_pos hlt]
      exact ⟨q.mirror, rfl, hready.mirror_steady, (Nat.max_eq_left hlt.le).symm, fun _ => rfl⟩
    · obtain ⟨screen, happly, hsteady, -⟩ := TerminalScreen.apply_spec width
        (TerminalScreen.new_steady sync.snapshot.size.rows sync.snapshot.size.cols)
        sync.snapshot.retainedOutput
      rw [if_neg hlt, happly]
      refine ⟨⟨sync.baseSeq, sync.baseSeq + 1, [], screen, sync.snapshot.size⟩, rfl, hsteady,
        (Nat.max_eq_right (Nat.le_of_not_lt hlt)).symm, fun hlate => ?_⟩
      rw [Bool.true_and, decide_eq_true (Nat.le_of_not_lt hlt)] at hlate
      cases hlate

variable {sync : SupervisorAttachSyncPayload} {buffered : List PtyTerminalFrame}

/-- The mirror was reset, and the queue is taken apart. -/
theorem ready_taken (hready : q.Ready) {mirror : SupervisorTerminalMirror}
    (hsteady : mirror.screen.Steady) : Ready { q with mirror, pending := [] } :=
  ⟨hsteady, hready.copy_steady, Nat.zero_le _, Nat.zero_le _⟩

theorem Ready.seed (hready : q.Ready) (h : q.seed width sync buffered = some q') :
    q'.Ready ∧ q.snapshots ⊆ q'.snapshots := by
  obtain ⟨mirror, hmirror, hsteady, -, -⟩ := resetMirror_spec width hready sync
  rw [FrameReader.seed, hmirror] at h
  obtain ⟨hready', -, hsubset⟩ := frame_applyAll (ready_taken hready hsteady) h
  exact ⟨hready', hsubset⟩

/-- **A synchronisation** that takes nothing out of the queue for good. -/
theorem Leads.seed (hready : q.Ready) (hleads : q.Leads width)
    (hundisturbed : q.Undisturbed (.seed sync buffered) = true)
    (h : q.seed width sync buffered = some q')
    (hsnapshots : ∀ m ∈ q'.snapshots, m.Reproduced width) : q'.Leads width := by
  obtain ⟨mirror, hmirror, hsteady, hcurrent, hsame⟩ := resetMirror_spec width hready sync
  rw [FrameReader.seed, hmirror] at h
  have hready₀ := ready_taken hready hsteady
  rcases Bool.or_eq_true_iff.mp hundisturbed with hresets | hempty
  · -- whatever was lost, a snapshot makes up for it
    have hle : q.copy.currentTerminalSeq ≤ mirror.currentTerminalSeq := by
      have hcopy := hleads.behind.copy_le hready
      rw [hcurrent]
      split_ifs
      · exact hcopy.trans (Nat.le_max_left ..)
      · exact hcopy
    have hbehind : Behind width { q with mirror, pending := [] } := ⟨q.copy, rfl, hle⟩
    exact hbehind.applyAll hready₀ (by rw [hcurrent]; exact hresets) h hsnapshots
  · -- the queue was empty, so that the reader has what the mirror has
    obtain ⟨hpending, hmirror'⟩ := Bool.and_eq_true_iff.mp hempty
    obtain rfl := hsame ((Bool.not_eq_true' _).mp hmirror')
    obtain ⟨copy, hcopy, hcopySame⟩ := hleads
    rw [of_decide_eq_true hpending] at hcopy
    obtain rfl := Option.some.inj hcopy
    exact Leads.applyAll hready₀ ⟨q.copy, rfl, hcopySame⟩ h hsnapshots

/-! ### Runs -/

/-- The reader keeps up as long as the snapshots can be replayed. -/
structure KeepsUp (width : Char → Option (Fin 3)) (q : FrameReader) : Prop where
  ready : q.Ready
  leads : (∀ m ∈ q.snapshots, m.Reproduced width) → q.Leads width

theorem ready_of_step {l : ReaderOp} (hready : q.Ready) (h : q.step width l = some q') :
    q'.Ready ∧ q.snapshots ⊆ q'.snapshots := by
  cases l with
  | frame frame => exact ⟨hready.applyAndEnqueue h, (frame_applyAndEnqueue hready h).2⟩
  | read =>
    refine ⟨hready.read h, ?_⟩
    obtain rfl | ⟨frame, pending, copy, -, -, -, rfl⟩ := read_cases hready h
    · exact List.Subset.refl _
    · exact List.Subset.refl _
  | seed sync buffered => exact hready.seed h

/-- **What every undisturbed step keeps.** -/
theorem KeepsUp.step {l : ReaderOp} (hq : q.KeepsUp width) (hl : q.Undisturbed l = true)
    (h : q.step width l = some q') : q'.KeepsUp width := by
  obtain ⟨hready', hsubset⟩ := ready_of_step hq.ready h
  refine ⟨hready', fun hsnapshots => ?_⟩
  have hleads := hq.leads fun m hm => hsnapshots m (hsubset hm)
  cases l with
  | frame frame => exact hleads.applyAndEnqueue hq.ready h hsnapshots
  | read => exact hleads.read hq.ready h
  | seed sync buffered => exact hleads.seed hq.ready hl h hsnapshots

/-- **The queue leads to the mirror** in undisturbed runs. -/
theorem leadsToMirror_of_run (width : Char → Option (Fin 3)) (mirror : SupervisorTerminalMirror)
    (ops : List ReaderOp) (q : FrameReader) (hmirror : mirror.screen.Steady)
    (hrun : exec (step width) { mirror, copy := mirror } ops = some q)
    (hsnapshots : ∀ m ∈ q.snapshots, m.Reproduced width)
    (hops : Along (step width) (fun q l => q.Undisturbed l = true) { mirror, copy := mirror } ops) :
    q.LeadsToMirror := by
  have hstart : KeepsUp width { mirror, copy := mirror } :=
    ⟨⟨hmirror, hmirror, Nat.zero_le _, Nat.zero_le _⟩, fun _ => ⟨mirror, rfl, .refl mirror⟩⟩
  have hq : q.KeepsUp width :=
    exec_induction_along (fun _ _ _ hq hl h => hq.step hl h) hstart hops hrun
  refine ⟨fun hpending => ?_, hq.ready.length_le, hq.ready.bytes_le⟩
  obtain ⟨copy, hcopy, hsame⟩ := hq.leads hsnapshots
  rw [hpending] at hcopy
  obtain rfl := Option.some.inj hcopy
  exact hsame

/-- A synchronisation with nothing to add. -/
def emptySync (size : PtySize) (baseSeq : ℕ) : SupervisorAttachSyncPayload :=
  ⟨1, 1, ⟨size, none, false, []⟩, baseSeq, []⟩

/-- A frame that is read before the next synchronisation is not lost. -/
theorem leadsToMirror_of_read :
    ∃ q : FrameReader, q.LeadsToMirror ∧ q.copy.currentTerminalSeq = 1 := by
  let mirror : SupervisorTerminalMirror := .new ⟨1, 1, 0, 0⟩
  let ops : List ReaderOp := [.frame (.output 1 [0x61]), .read, .seed (emptySync mirror.size 1) []]
  have hrun : (exec (step fun _ => some 1) { mirror, copy := mirror } ops).any (fun q =>
      q.copy.currentTerminalSeq = 1 && q.snapshots.isEmpty) = true := by decide +kernel
  obtain ⟨q, hq, hprop⟩ := (Option.any_eq_true _ _).mp hrun
  obtain ⟨hcurrent, hsnapshots⟩ := Bool.and_eq_true_iff.mp hprop
  have hnone := List.isEmpty_iff.mp hsnapshots
  refine ⟨q, leadsToMirror_of_run (fun _ => some 1) mirror ops q (TerminalScreen.new_steady ..) hq
    (fun m hm => ?_) (by decide +kernel), of_decide_eq_true hcurrent⟩
  rw [hnone] at hm
  cases hm

/-- **A frame that was not read is lost** by the next synchronisation. -/
theorem unread_frame_lost : ¬∀ (width : Char → Option (Fin 3)) (mirror : SupervisorTerminalMirror)
    (ops : List ReaderOp) (q : FrameReader), mirror.screen.Steady →
    exec (step width) { mirror, copy := mirror } ops = some q →
    (∀ m ∈ q.snapshots, m.Reproduced width) → q.LeadsToMirror := by
  intro h
  let size : PtySize := ⟨24, 80, 0, 0⟩
  let ops : List ReaderOp := [.frame (.exit 1 none), .seed (emptySync size 1) []]
  have hlost := h (fun _ => none) (.new size) ops _ (TerminalScreen.new_steady ..) rfl
    (fun m hm => by cases hm)
  have hcurrent := (hlost.drained rfl).current_eq
  cases hcurrent

end FrameReader

end Termd.Pty
