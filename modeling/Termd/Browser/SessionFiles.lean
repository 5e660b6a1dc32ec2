import Mathlib.Data.List.Perm.Basic
import Termd.Library.Transition

/-!
# The files of a session in the browser

The panel of a session's files lists a directory when the user opens one, and follows the directory
of the terminal: a follow event starts a loop of silent requests, and an event that comes while a
request is shown or a loop runs is kept for later. Numbers tell which request is the latest one.

A request that names its directory is not taken back when the user stops to follow. A loop that goes
on while a request is shown can lose an event, and a loop that outlives a clear is not the only one
any more; each guarantee holds in the runs without the one or the other.

## Main definitions

* `FilesRequest`, `SessionFiles`: the running requests and the state of the hooks
* `SessionFiles.load`, `runLoop`, `requestFollow`, `pendingEffect`: the callbacks and the effect
* `SessionFiles.Undisturbed`: no loop ends while a request is shown
* `SessionFiles.Unrivalled`: no loop outlives a clear
* `SessionFiles.Latest`, `SessionFiles.Follows`: what the panel shows, and what it will ask for

## Main results

* `SessionFiles.Sound.step`, `SessionFiles.Following.step`: what a step keeps
* `SessionFiles.latest_and_follows`: the panel over every run
* `SessionFiles.path_after_follow_off`: a directory that comes after the user has stopped to follow
-/

namespace Termd.Browser

abbrev SessionId := ℕ

inductive FilesSource
  | initial
  | manual
  | follow
deriving DecidableEq

structure FilesResult where
  sessionId : SessionId
  path : String

/-- A running request; when it was issued is only recorded. -/
structure FilesRequest where
  sessionId : SessionId
  path : Option String
  silent : Bool
  source : FilesSource
  requestSeq : ℕ
  followRequestSeq : ℕ
  /-- The client is there and was asked for the files. -/
  listing : Bool := false
  /-- A follow loop waits for it. -/
  loop : Bool
  issuedAt : ℕ

/-- `requiresFollowToReadTerminalCwd` -/
def requiresFollow (source : FilesSource) (path : Option String) : Bool :=
  source = .follow || source = .initial && path = none

def FilesRequest.requiresFollow (r : FilesRequest) : Bool := Browser.requiresFollow r.source r.path

/-- A listing that was replaced, and the last visible request, Follow-off and clear by then. -/
structure FilesReplaced where
  request : FilesRequest
  lastVisible : ℕ
  lastFollowOff : ℕ
  lastClear : ℕ

structure SessionFiles where
  followTerminalCwd : Bool := true
  loading : Bool := false
  files : Option FilesResult := none
  error : Option String := none
  requestSeq : ℕ := 0
  followRequestSeq : ℕ := 0
  followRefreshInFlight : Bool := false
  followPendingSession : Option SessionId := none
  lastManualPath : Option String := none
  attachedSession : Option SessionId := none
  requests : List FilesRequest := []
  /-- The number of steps so far; what follows is only recorded. -/
  now : ℕ := 0
  lastVisible : ℕ := 0
  lastFollowOff : ℕ := 0
  lastClear : ℕ := 0
  /-- A follow event has come, and no listing without a path was asked for since. -/
  owed : Bool := false
  replaced : List FilesReplaced := []

namespace SessionFiles

variable (s : SessionFiles)

/-! ### Requests -/

/-- The part of `loadSessionFiles` that takes the numbers of the request. -/
def issue (sessionId : SessionId) (path : Option String) (silent : Bool) (source : FilesSource)
    (loop : Bool) : SessionFiles :=
  let requires := requiresFollow source path
  let requestSeq := if silent then s.requestSeq else s.requestSeq + 1
  { s with
    followRequestSeq := if requires || !silent then s.followRequestSeq + 1 else s.followRequestSeq
    requestSeq
    loading := s.loading || !silent
    requests := s.requests ++ [{
      sessionId, path, silent, source, requestSeq, loop
      followRequestSeq := if requires then s.followRequestSeq + 1 else s.followRequestSeq
      issuedAt := s.now }]
    lastVisible := if silent then s.lastVisible else s.now
    owed := s.owed && path.isSome }

/-- `loadSessionFiles`, up to its first `await`, and whether it has got there. -/
def load (sessionId : SessionId) (path : Option String) (silent : Bool)
    (requestSource : Option FilesSource) (loop : Bool) : SessionFiles × Bool :=
  let source := requestSource.getD (if path = none then .initial else .manual)
  let s := if source = .manual ∧ path ≠ none then { s with lastManualPath := path } else s
  if requiresFollow source path && !s.followTerminalCwd then (s, false)
  else if silent && s.loading then (s, false)
  else (s.issue sessionId path silent source loop, true)

/-! ### The follow loop -/

def endLoop : SessionFiles :=
  { s with followRefreshInFlight := false, followPendingSession := none }

/-- The loop of `requestFollowSessionFilesRefresh`, up to its next `await`. A request that returns
at once leaves nothing pending. -/
def runLoop (next : Option SessionId) : SessionFiles :=
  match next with
  | none => s.endLoop
  | some sessionId =>
    if !s.followTerminalCwd then endLoop { s with followPendingSession := none }
    else
      let (s, issued) :=
        load { s with followPendingSession := none } sessionId none true (some .follow) true
      if issued then s else s.endLoop

/-- `requestFollowSessionFilesRefresh` -/
def requestFollow (sessionId : Option SessionId) : SessionFiles :=
  match sessionId.or s.attachedSession with
  | none => s
  | some target =>
    if !s.followTerminalCwd then { s with followPendingSession := none }
    else if s.loading || s.followRefreshInFlight then { s with followPendingSession := some target }
    else runLoop { s with followRefreshInFlight := true } (some target)

/-- The effect that takes up what is pending. -/
def pendingEffect : SessionFiles :=
  if s.loading then s
  else match s.followPendingSession with
    | none => s
    | some sessionId =>
      if !s.followTerminalCwd then s
      else requestFollow { s with followPendingSession := none } (some sessionId)

/-! ### The end of a request -/

def isCurrent (r : FilesRequest) : Bool := r.requestSeq = s.requestSeq

def fail (r : FilesRequest) (message : String) : SessionFiles :=
  if !r.silent && s.isCurrent r then { s with error := some message } else s

def accept (r : FilesRequest) (files : FilesResult) : SessionFiles :=
  if s.isCurrent r && (!r.requiresFollow || r.followRequestSeq = s.followRequestSeq) &&
      (!r.requiresFollow || s.followTerminalCwd) then
    { s with
      lastManualPath := if r.source ≠ .follow then some files.path else s.lastManualPath
      files := some files
      error := none
      replaced := s.replaced ++ [⟨r, s.lastVisible, s.lastFollowOff, s.lastClear⟩] }
  else s

/-- The `finally` of a request, and the loop that has waited for it. -/
def finish (index : ℕ) (r : FilesRequest) : SessionFiles :=
  let s := { s with
    requests := s.requests.eraseIdx index
    loading := s.loading && !(!r.silent && s.isCurrent r) }
  if r.loop then s.runLoop s.followPendingSession else s

end SessionFiles

inductive FilesOp
  | load (sessionId : SessionId) (path : Option String) (silent : Bool)
    (source : Option FilesSource)
  | followEvent (sessionId : Option SessionId)
  | setFollow (follow : Bool)
  | clear
  /-- `authenticatedSessionClient` answers. -/
  | connected (index : ℕ) (result : Except String Unit)
  /-- `listSessionFiles` answers. -/
  | listed (index : ℕ) (result : Except String FilesResult)
  | attach (sessionId : Option SessionId)
  /-- The callbacks have changed. -/
  | rerender

namespace SessionFiles

variable (s : SessionFiles)

/-- `handleSessionFilesFollowTerminalCwdChange` -/
def setFollow (follow : Bool) : SessionFiles :=
  if follow then { s with followTerminalCwd := true }
  else { s with
    followTerminalCwd := false
    followRequestSeq := s.followRequestSeq + 1
    followPendingSession := none
    lastFollowOff := s.now
    owed := false }

/-- `clearSessionFilesState` -/
def clear : SessionFiles :=
  { s with
    requestSeq := s.requestSeq + 1
    followRequestSeq := s.followRequestSeq + 1
    followRefreshInFlight := false
    followPendingSession := none
    files := none
    error := none
    loading := false
    lastClear := s.now
    owed := false }

/-- What is done before the effects run. -/
def callback : FilesOp → Option SessionFiles
  | .load sessionId path silent source => some (s.load sessionId path silent source false).1
  | .followEvent sessionId =>
    some (requestFollow { s with
      owed := s.owed || s.followTerminalCwd && (sessionId.or s.attachedSession).isSome } sessionId)
  | .setFollow follow => some (s.setFollow follow)
  | .clear => some s.clear
  | .connected index result =>
    match s.requests[index]? with
    | none => none
    | some r =>
      if r.listing then none
      else match result with
        | .error message => some ((s.fail r message).finish index r)
        | .ok () =>
          if r.requiresFollow && !s.followTerminalCwd then some (s.finish index r)
          else some { s with requests := s.requests.set index { r with listing := true } }
  | .listed index result =>
    match s.requests[index]? with
    | none => none
    | some r =>
      if !r.listing then none
      else match result with
        | .error message => some ((s.fail r message).finish index r)
        | .ok files => some ((s.accept r files).finish index r)
  | .attach sessionId => some { s with attachedSession := sessionId }
  | .rerender => some s

def step (op : FilesOp) : Option SessionFiles :=
  (callback { s with now := s.now + 1 } op).map fun s' =>
    let isRerender := match op with
      | .rerender => true
      | _ => false
    if isRerender || s'.loading ≠ s.loading || s'.followTerminalCwd ≠ s.followTerminalCwd then
      s'.pendingEffect
    else s'

/-! ### What is claimed -/

/-- The running loops. -/
def loops : List FilesRequest := s.requests.filter FilesRequest.loop

structure Claimed : Prop where
  /-- The listing is not replaced by the result of a request that is older than the last visible
  request, Follow-off or clear. -/
  latest : ∀ e ∈ s.replaced, e.lastVisible ≤ e.request.issuedAt ∧
    e.lastFollowOff ≤ e.request.issuedAt ∧ e.lastClear ≤ e.request.issuedAt
  settled : (∀ r ∈ s.requests, r.silent = true) → s.loading = false
  oneLoop : s.loops.length ≤ 1
  /-- Nothing is owed for good: a request is shown, or a loop will see to it. -/
  followed : s.owed = true → s.loading = true ∨ s.loops ≠ []

/-- What the panel shows, in every run. Follow-off takes back what reads the terminal's directory. -/
structure Latest : Prop where
  latest : ∀ e ∈ s.replaced, e.lastVisible ≤ e.request.issuedAt ∧
    (e.request.requiresFollow = true → e.lastFollowOff ≤ e.request.issuedAt) ∧
    e.lastClear ≤ e.request.issuedAt
  settled : (∀ r ∈ s.requests, r.silent = true) → s.loading = false

def isCurrentLoop (r : FilesRequest) : Bool := r.loop && s.lastClear ≤ r.issuedAt

/-- The loops that were started since the last clear. -/
def currentLoops : List FilesRequest := s.requests.filter s.isCurrentLoop

/-- No event is lost: it is pending, and a shown request or a loop will see to it. -/
def Follows : Prop :=
  s.owed = true → s.followPendingSession.isSome = true ∧
    (s.loading = true ∨ s.currentLoops ≠ [])

/-- The request that ends with a step. -/
def finishing : FilesOp → Option FilesRequest
  | .connected index result =>
    s.requests[index]?.filter fun r => !r.listing &&
      match result with
      | .error _ => true
      | .ok () => r.requiresFollow && !s.followTerminalCwd
  | .listed index _ => s.requests[index]?
  | _ => none

/-- A request of a loop does not end while a request is shown and an event is pending. -/
def Undisturbed (op : FilesOp) : Bool :=
  (s.finishing op).all fun r => !(r.loop && s.loading && s.followPendingSession.isSome)

/-- A request of a loop does not end after a clear while a newer loop runs. -/
def Unrivalled (op : FilesOp) : Bool :=
  (s.finishing op).all fun r => !(r.loop && r.issuedAt < s.lastClear && s.followRefreshInFlight)

/-! ### What a request does -/

/-- A request is issued, unless the terminal is not followed or another request is shown. -/
theorem load_cases (sessionId : SessionId) (path : Option String) (silent : Bool)
    (source : Option FilesSource) (loop : Bool) :
    ∃ p kind,
      s.load sessionId path silent source loop = ({ s with lastManualPath := p }, false) ∧
        (requiresFollow kind path = true ∧ s.followTerminalCwd = false ∨
          silent = true ∧ s.loading = true) ∨
      s.load sessionId path silent source loop =
          (issue { s with lastManualPath := p } sessionId path silent kind loop, true) ∧
        (silent = true → s.loading = false) := by
  generalize hkind : source.getD (if path = none then .initial else .manual) = kind
  have hs : (if kind = .manual ∧ path ≠ none then { s with lastManualPath := path } else s) =
      { s with
        lastManualPath := if kind = .manual ∧ path ≠ none then path else s.lastManualPath } := by
    split <;> rfl
  refine ⟨if kind = .manual ∧ path ≠ none then path else s.lastManualPath, kind, ?_⟩
  unfold load
  dsimp only
  rw [hkind, hs]
  by_cases hrequires : (requiresFollow kind path && !s.followTerminalCwd) = true
  · left
    refine ⟨if_pos hrequires, .inl ?_⟩
    simpa only [Bool.and_eq_true, Bool.not_eq_true'] using hrequires
  · by_cases hshown : (silent && s.loading) = true
    · left
      refine ⟨(if_neg hrequires).trans (if_pos hshown), .inr ?_⟩
      simpa only [Bool.and_eq_true] using hshown
    · right
      refine ⟨(if_neg hrequires).trans (if_neg hshown), ?_⟩
      simpa only [Bool.and_eq_true, not_and, Bool.not_eq_true] using hshown

/-! ### Every run -/

/-- What every step keeps: the numbers grow, and the latest number is that of a request which no
clear, no visible request and, for the terminal's directory, no Follow-off has overtaken. -/
structure Sound : Prop where
  issued : ∀ r ∈ s.requests, r.requestSeq ≤ s.requestSeq ∧
    r.followRequestSeq ≤ s.followRequestSeq ∧ r.issuedAt ≤ s.now
  current : ∀ r ∈ s.requests, r.requestSeq = s.requestSeq →
    s.lastVisible ≤ r.issuedAt ∧ s.lastClear ≤ r.issuedAt
  currentFollow : ∀ r ∈ s.requests, r.requiresFollow = true →
    r.followRequestSeq = s.followRequestSeq → s.lastFollowOff ≤ r.issuedAt
  stamps : s.lastVisible ≤ s.now ∧ s.lastFollowOff ≤ s.now ∧ s.lastClear ≤ s.now
  shown : s.loading = true → ∃ r ∈ s.requests, r.silent = false ∧ r.requestSeq = s.requestSeq
  latest : ∀ e ∈ s.replaced, e.lastVisible ≤ e.request.issuedAt ∧
    (e.request.requiresFollow = true → e.lastFollowOff ≤ e.request.issuedAt) ∧
    e.lastClear ≤ e.request.issuedAt

variable {s}

theorem Sound.latest_of (h : s.Sound) : s.Latest where
  latest := h.latest
  settled := by
    intro hsilent
    rw [← Bool.not_eq_true]
    intro hloading
    obtain ⟨r, hr, hvisible, -⟩ := h.shown hloading
    rw [hsilent r hr] at hvisible
    cases hvisible

theorem Sound.tick (h : s.Sound) : Sound { s with now := s.now + 1 } where
  issued := by
    intro r hr
    obtain ⟨hseq, hfollow, hnow⟩ := h.issued r hr
    exact ⟨hseq, hfollow, Nat.le_succ_of_le hnow⟩
  current := h.current
  currentFollow := h.currentFollow
  stamps := by
    obtain ⟨hvisible, hoff, hclear⟩ := h.stamps
    exact ⟨Nat.le_succ_of_le hvisible, Nat.le_succ_of_le hoff, Nat.le_succ_of_le hclear⟩
  shown := h.shown
  latest := h.latest

theorem Sound.setManualPath (h : s.Sound) (path : Option String) :
    Sound { s with lastManualPath := path } :=
  ⟨h.issued, h.current, h.currentFollow, h.stamps, h.shown, h.latest⟩

theorem Sound.setPending (h : s.Sound) (pending : Option SessionId) (inFlight : Bool) :
    Sound { s with followPendingSession := pending, followRefreshInFlight := inFlight } :=
  ⟨h.issued, h.current, h.currentFollow, h.stamps, h.shown, h.latest⟩

theorem Sound.issue (h : s.Sound) (sessionId : SessionId) (path : Option String) (silent : Bool)
    (source : FilesSource) (loop : Bool) : (s.issue sessionId path silent source loop).Sound := by
  obtain ⟨hvisible, hoff, hclear⟩ := h.stamps
  constructor
  case issued =>
    intro r hr
    rcases List.mem_append.mp hr with hr | hr
    · obtain ⟨hseq, hfollow, hnow⟩ := h.issued r hr
      refine ⟨?_, ?_, hnow⟩
      · dsimp only [SessionFiles.issue]
        split <;> omega
      · dsimp only [SessionFiles.issue]
        split <;> omega
    · obtain rfl := List.mem_singleton.mp hr
      refine ⟨Nat.le_refl _, ?_, Nat.le_refl _⟩
      dsimp only [SessionFiles.issue]
      cases Browser.requiresFollow source path <;> cases silent <;> simp
  case current =>
    intro r hr hcurrent
    rcases List.mem_append.mp hr with hr | hr
    · -- An older request stays the latest one only under a silent request.
      have hseq := (h.issued r hr).1
      cases silent with
      | false =>
        replace hcurrent : r.requestSeq = s.requestSeq + 1 := hcurrent
        omega
      | true =>
        obtain ⟨hshown, hcleared⟩ := h.current r ‹r ∈ s.requests› hcurrent
        exact ⟨hshown, hcleared⟩
    · obtain rfl := List.mem_singleton.mp hr
      refine ⟨?_, hclear⟩
      dsimp only [SessionFiles.issue]
      split
      · exact hvisible
      · exact Nat.le_refl _
  case currentFollow =>
    intro r hr hrequires hcurrent
    rcases List.mem_append.mp hr with hr | hr
    · have hseq := (h.issued r hr).2.1
      dsimp only [SessionFiles.issue] at hcurrent
      split at hcurrent
      · omega
      · exact h.currentFollow r hr hrequires hcurrent
    · obtain rfl := List.mem_singleton.mp hr
      exact hoff
  case stamps =>
    refine ⟨?_, hoff, hclear⟩
    dsimp only [SessionFiles.issue]
    split
    · exact hvisible
    · exact Nat.le_refl _
  case shown =>
    intro hloading
    cases silent with
    | false => exact ⟨_, List.mem_append_right _ (List.mem_singleton_self _), rfl, rfl⟩
    | true =>
      replace hloading : (s.loading || false) = true := hloading
      rw [Bool.or_false] at hloading
      obtain ⟨r, hr, hvis, hseq⟩ := h.shown hloading
      exact ⟨r, List.mem_append_left _ hr, hvis, hseq⟩
  case latest => exact h.latest

theorem Sound.load (h : s.Sound) (sessionId : SessionId) (path : Option String) (silent : Bool)
    (source : Option FilesSource) (loop : Bool) :
    (s.load sessionId path silent source loop).1.Sound := by
  obtain ⟨p, kind, ⟨hload, -⟩ | ⟨hload, -⟩⟩ := load_cases s sessionId path silent source loop
  all_goals rw [hload]
  · exact h.setManualPath p
  · exact (h.setManualPath p).issue ..

theorem Sound.endLoop (h : s.Sound) : s.endLoop.Sound := h.setPending none false

theorem Sound.runLoop (h : s.Sound) (next : Option SessionId) : (s.runLoop next).Sound := by
  have hnone := h.setPending none s.followRefreshInFlight
  unfold SessionFiles.runLoop
  split
  · exact h.endLoop
  · split
    · exact hnone.endLoop
    · dsimp only
      split
      · exact hnone.load ..
      · exact (hnone.load ..).endLoop

theorem Sound.requestFollow (h : s.Sound) (sessionId : Option SessionId) :
    (s.requestFollow sessionId).Sound := by
  unfold SessionFiles.requestFollow
  split
  · exact h
  · split
    · exact h.setPending none s.followRefreshInFlight
    · split
      · exact h.setPending _ s.followRefreshInFlight
      · exact (h.setPending s.followPendingSession true).runLoop _

theorem Sound.pendingEffect (h : s.Sound) : s.pendingEffect.Sound := by
  unfold SessionFiles.pendingEffect
  split
  · exact h
  · split
    · exact h
    · split
      · exact h
      · exact (h.setPending none s.followRefreshInFlight).requestFollow _

theorem Sound.fail (h : s.Sound) (r : FilesRequest) (message : String) :
    (s.fail r message).Sound := by
  unfold SessionFiles.fail
  split
  · exact ⟨h.issued, h.current, h.currentFollow, h.stamps, h.shown, h.latest⟩
  · exact h

theorem Sound.accept (h : s.Sound) {r : FilesRequest} (hr : r ∈ s.requests)
    (files : FilesResult) : (s.accept r files).Sound := by
  unfold SessionFiles.accept
  split
  · rename_i hcond
    simp only [Bool.and_eq_true, Bool.or_eq_true, decide_eq_true_eq, isCurrent] at hcond
    obtain ⟨⟨hcurrent, hfollow⟩, -⟩ := hcond
    refine ⟨h.issued, h.current, h.currentFollow, h.stamps, h.shown, ?_⟩
    intro e he
    rcases List.mem_append.mp he with he | he
    · exact h.latest e he
    · obtain rfl := List.mem_singleton.mp he
      obtain ⟨hvisible, hclear⟩ := h.current r hr hcurrent
      refine ⟨hvisible, ?_, hclear⟩
      intro hrequires
      have hseq : r.followRequestSeq = s.followRequestSeq := by
        simpa [hrequires] using hfollow
      exact h.currentFollow r hr hrequires hseq
  · exact h

theorem Sound.finish (h : s.Sound) {index : ℕ} {r : FilesRequest}
    (hr : s.requests[index]? = some r) : (s.finish index r).Sound := by
  have hsub {r'} (hr' : r' ∈ s.requests.eraseIdx index) : r' ∈ s.requests :=
    List.mem_of_mem_eraseIdx hr'
  have hended : Sound { s with
      requests := s.requests.eraseIdx index
      loading := s.loading && !(!r.silent && s.isCurrent r) } := by
    refine ⟨fun r' hr' => h.issued r' (hsub hr'), fun r' hr' => h.current r' (hsub hr'),
      fun r' hr' => h.currentFollow r' (hsub hr'), h.stamps, ?_, h.latest⟩
    intro hloading
    simp only [Bool.and_eq_true] at hloading
    obtain ⟨hloading, hother⟩ := hloading
    obtain ⟨r', hr', hvisible, hseq⟩ := h.shown hloading
    obtain ⟨i, hi⟩ := List.mem_iff_getElem?.mp hr'
    refine ⟨r', List.mem_eraseIdx_iff_getElem?.mpr ⟨i, ?_, hi⟩, hvisible, hseq⟩
    -- The shown request that has ended is not the latest one.
    rintro rfl
    obtain rfl := Option.some.inj (hr.symm.trans hi)
    simp [hvisible, isCurrent, hseq] at hother
  unfold SessionFiles.finish
  dsimp only
  split
  · exact hended.runLoop _
  · exact hended

theorem Sound.setFollow (h : s.Sound) (follow : Bool) : (s.setFollow follow).Sound := by
  obtain ⟨hvisible, -, hclear⟩ := h.stamps
  unfold SessionFiles.setFollow
  split
  · exact ⟨h.issued, h.current, h.currentFollow, h.stamps, h.shown, h.latest⟩
  · refine ⟨?_, h.current, ?_, ⟨hvisible, Nat.le_refl _, hclear⟩, h.shown, h.latest⟩
    · intro r hr
      obtain ⟨hseq, hfollow, hnow⟩ := h.issued r hr
      exact ⟨hseq, Nat.le_succ_of_le hfollow, hnow⟩
    · intro r hr _ hcurrent
      have hfollow := (h.issued r hr).2.1
      replace hcurrent : r.followRequestSeq = s.followRequestSeq + 1 := hcurrent
      omega

theorem Sound.clear (h : s.Sound) : s.clear.Sound := by
  obtain ⟨hvisible, hoff, -⟩ := h.stamps
  constructor
  case issued =>
    intro r hr
    obtain ⟨hseq, hfollow, hnow⟩ := h.issued r hr
    exact ⟨Nat.le_succ_of_le hseq, Nat.le_succ_of_le hfollow, hnow⟩
  case current =>
    intro r hr hcurrent
    have hseq := (h.issued r hr).1
    replace hcurrent : r.requestSeq = s.requestSeq + 1 := hcurrent
    omega
  case currentFollow =>
    intro r hr _ hcurrent
    have hfollow := (h.issued r hr).2.1
    replace hcurrent : r.followRequestSeq = s.followRequestSeq + 1 := hcurrent
    omega
  case stamps => exact ⟨hvisible, hoff, Nat.le_refl _⟩
  case shown =>
    intro hloading
    cases hloading
  case latest => exact h.latest

/-- The client is there: the request is the same one. -/
theorem Sound.list (h : s.Sound) {index : ℕ} {r : FilesRequest}
    (hr : s.requests[index]? = some r) :
    Sound { s with requests := s.requests.set index { r with listing := true } } := by
  have hmem : r ∈ s.requests := List.mem_of_getElem? hr
  have hset {P : FilesRequest → Prop} (hP : ∀ r' ∈ s.requests, P r')
      (hlisting : P { r with listing := true }) :
      ∀ r' ∈ s.requests.set index { r with listing := true }, P r' := by
    intro r' hr'
    rcases List.mem_or_eq_of_mem_set hr' with hr' | rfl
    · exact hP r' hr'
    · exact hlisting
  refine ⟨hset h.issued (h.issued r hmem), hset h.current (h.current r hmem),
    hset h.currentFollow (h.currentFollow r hmem), h.stamps, ?_, h.latest⟩
  intro hloading
  obtain ⟨r', hr', hvisible, hseq⟩ := h.shown hloading
  obtain ⟨i, hi⟩ := List.mem_iff_getElem?.mp hr'
  by_cases hindex : index = i
  · subst hindex
    obtain rfl := Option.some.inj (hr.symm.trans hi)
    exact ⟨_, List.mem_set (List.getElem?_eq_some_iff.mp hr).1 _, hvisible, hseq⟩
  · refine ⟨r', List.mem_iff_getElem?.mpr ⟨i, ?_⟩, hvisible, hseq⟩
    rw [List.getElem?_set_ne hindex]
    exact hi

/-- A request that answers before it is asked for the files, or with them, ends; else it is asked. -/
theorem callback_connected {index : ℕ} {result : Except String Unit} {t : SessionFiles}
    (h : s.callback (.connected index result) = some t) :
    ∃ r, s.requests[index]? = some r ∧
      ((∃ message, t = (s.fail r message).finish index r) ∧
          s.finishing (.connected index result) = some r ∨
        t = s.finish index r ∧ s.finishing (.connected index result) = some r ∨
        t = { s with requests := s.requests.set index { r with listing := true } }) := by
  dsimp only [callback] at h
  cases hr : s.requests[index]? with
  | none =>
    rw [hr] at h
    cases h
  | some r =>
    rw [hr] at h
    dsimp only at h
    refine ⟨r, rfl, ?_⟩
    cases hlisting : r.listing with
    | true => simp [hlisting] at h
    | false =>
      rw [hlisting, if_neg Bool.false_ne_true] at h
      cases result with
      | error message =>
        refine .inl ⟨⟨message, (Option.some.inj h).symm⟩, ?_⟩
        simp [finishing, hr, hlisting]
      | ok _ =>
        dsimp only at h
        split at h
        · rename_i hreturns
          refine .inr (.inl ⟨(Option.some.inj h).symm, ?_⟩)
          simpa [finishing, hr, hlisting] using hreturns
        · exact .inr (.inr (Option.some.inj h).symm)

theorem callback_listed {index : ℕ} {result : Except String FilesResult} {t : SessionFiles}
    (h : s.callback (.listed index result) = some t) :
    ∃ r, s.requests[index]? = some r ∧ s.finishing (.listed index result) = some r ∧
      ((∃ message, t = (s.fail r message).finish index r) ∨
        ∃ files, t = (s.accept r files).finish index r) := by
  dsimp only [callback] at h
  cases hr : s.requests[index]? with
  | none =>
    rw [hr] at h
    cases h
  | some r =>
    rw [hr] at h
    dsimp only at h
    refine ⟨r, rfl, hr, ?_⟩
    split at h
    · cases h
    · cases result with
      | error message => exact .inl ⟨message, (Option.some.inj h).symm⟩
      | ok files => exact .inr ⟨files, (Option.some.inj h).symm⟩

theorem fail_eq (r : FilesRequest) (message : String) :
    s.fail r message = { s with error := (s.fail r message).error } := by
  unfold fail
  split <;> rfl

theorem accept_eq (r : FilesRequest) (files : FilesResult) :
    s.accept r files = { s with
      lastManualPath := (s.accept r files).lastManualPath
      files := (s.accept r files).files
      error := (s.accept r files).error
      replaced := (s.accept r files).replaced } := by
  unfold accept
  split <;> rfl

/-- The effect runs after a callback that has shown or ended a request or toggled Follow. -/
theorem step_cases {op : FilesOp} {s' : SessionFiles} (h : s.step op = some s') :
    ∃ t, callback { s with now := s.now + 1 } op = some t ∧
      (s' = t.pendingEffect ∨
        s' = t ∧ t.loading = s.loading ∧ t.followTerminalCwd = s.followTerminalCwd) := by
  obtain ⟨t, ht, hs'⟩ := Option.map_eq_some_iff.mp h
  refine ⟨t, ht, ?_⟩
  obtain ⟨-, rfl⟩ | ⟨hsame, rfl⟩ := ite_eq_iff.mp hs'
  · exact .inl rfl
  · simp only [Bool.or_eq_true, not_or, decide_eq_true_eq, not_not] at hsame
    exact .inr ⟨rfl, hsame.1.2, hsame.2⟩

theorem Sound.callback (h : s.Sound) {op : FilesOp} {t : SessionFiles}
    (ht : s.callback op = some t) : t.Sound := by
  cases op with
  | load sessionId path silent source =>
    obtain rfl := Option.some.inj ht
    exact h.load ..
  | followEvent sessionId =>
    obtain rfl := Option.some.inj ht
    refine Sound.requestFollow ?_ sessionId
    exact ⟨h.issued, h.current, h.currentFollow, h.stamps, h.shown, h.latest⟩
  | setFollow follow =>
    obtain rfl := Option.some.inj ht
    exact h.setFollow follow
  | clear =>
    obtain rfl := Option.some.inj ht
    exact h.clear
  | connected index result =>
    obtain ⟨r, hr, ⟨⟨message, rfl⟩, -⟩ | ⟨rfl, -⟩ | rfl⟩ := callback_connected ht
    · refine (h.fail r message).finish ?_
      rw [fail_eq]
      exact hr
    · exact h.finish hr
    · exact h.list hr
  | listed index result =>
    obtain ⟨r, hr, -, ⟨message, rfl⟩ | ⟨files, rfl⟩⟩ := callback_listed ht
    · refine (h.fail r message).finish ?_
      rw [fail_eq]
      exact hr
    · refine (h.accept (List.mem_of_getElem? hr) files).finish ?_
      rw [accept_eq]
      exact hr
  | attach sessionId =>
    obtain rfl := Option.some.inj ht
    exact ⟨h.issued, h.current, h.currentFollow, h.stamps, h.shown, h.latest⟩
  | rerender =>
    obtain rfl := Option.some.inj ht
    exact h

theorem Sound.step {op : FilesOp} {s' : SessionFiles} (h : s.Sound) (hs : s.step op = some s') :
    s'.Sound := by
  obtain ⟨t, ht, rfl | ⟨rfl, -, -⟩⟩ := step_cases hs
  · exact (h.tick.callback ht).pendingEffect
  · exact h.tick.callback ht

theorem Sound.initial : Sound {} where
  issued := by simp
  current := by simp
  currentFollow := by simp
  stamps := ⟨Nat.le_refl _, Nat.le_refl _, Nat.le_refl _⟩
  shown := by simp
  latest := by simp

/-! ### What the panel will ask for -/

variable {a b : Prop}

variable (s a b) in
/-- What holds between a callback and the effects: with `a` no event was lost, and with `b` no loop
has ended beside a newer one. -/
structure Settling : Prop where
  silent : ∀ r ∈ s.requests, r.loop = true → r.silent = true
  running : s.followRefreshInFlight = true → 0 < s.requests.countP s.isCurrentLoop
  loops : b → s.requests.countP s.isCurrentLoop = if s.followRefreshInFlight then 1 else 0
  pending : s.followPendingSession.isSome = true → s.followTerminalCwd = true
  owed : a → s.owed = true → s.followPendingSession.isSome = true

variable (s a b) in
/-- What every step keeps: an event that is pending waits for a shown request or for a loop. -/
structure Following : Prop extends Settling s a b where
  held : s.followPendingSession.isSome = true →
    s.loading = true ∨ s.followRefreshInFlight = true

theorem Following.oneLoop (h : s.Following a True) : s.currentLoops.length ≤ 1 := by
  rw [currentLoops, ← List.countP_eq_length_filter, h.loops trivial]
  split <;> decide

theorem Following.follows (h : s.Following True b) : s.Follows := by
  intro howed
  have hpending := h.owed trivial howed
  refine ⟨hpending, ?_⟩
  rcases h.held hpending with hloading | hloop
  · exact .inl hloading
  · right
    have hcount := h.running hloop
    rw [List.countP_eq_length_filter, ← currentLoops] at hcount
    exact List.ne_nil_of_length_pos hcount

theorem Following.initial : Following {} a b where
  silent := by simp
  running := by simp
  loops _ := rfl
  pending := by simp
  owed := by simp
  held := by simp

theorem countP_issue (h : s.lastClear ≤ s.now) (sessionId : SessionId) (path : Option String)
    (silent : Bool) (source : FilesSource) (loop : Bool) :
    (s.issue sessionId path silent source loop).requests.countP s.isCurrentLoop =
      s.requests.countP s.isCurrentLoop + if loop then 1 else 0 := by
  dsimp only [issue]
  rw [List.countP_append, List.countP_singleton]
  cases loop <;> simp [isCurrentLoop, h]

/-- A loop goes on with what is pending, unless a request is shown. -/
theorem Following.runLoop (hclear : s.lastClear ≤ s.now)
    (hsilent : ∀ r ∈ s.requests, r.loop = true → r.silent = true)
    (hloops : b → s.requests.countP s.isCurrentLoop = 0) (next : Option SessionId)
    (howed : a → s.owed = true → next.isSome = true ∧ s.loading = false)
    (hnext : next.isSome = true → s.followTerminalCwd = true ∧
      (s.loading = true ∨ s.followRefreshInFlight = true)) :
    (s.runLoop next).Following a b := by
  cases next with
  | none => exact ⟨⟨hsilent, nofun, hloops, nofun, fun ha h => (howed ha h).1⟩, nofun⟩
  | some sessionId =>
    obtain ⟨hfollow, hheld⟩ := hnext rfl
    have hrun : s.runLoop (some sessionId) =
        (let (s', issued) :=
            load { s with followPendingSession := none } sessionId none true (some .follow) true
          if issued then s' else s'.endLoop) := by
      dsimp only [SessionFiles.runLoop]
      rw [hfollow, if_neg (by decide)]
    rw [hrun]
    obtain ⟨p, kind, ⟨hload, hnot⟩ | ⟨hload, hfree⟩⟩ := load_cases
      { s with followPendingSession := none } sessionId none true (some .follow) true
    · have hloading : s.loading = true := by
        rcases hnot with ⟨-, hoff⟩ | ⟨-, hshown⟩
        · cases hfollow.symm.trans hoff
        · exact hshown
      rw [hload]
      refine ⟨⟨hsilent, nofun, hloops, nofun, fun ha h => ?_⟩, nofun⟩
      cases (howed ha h).2.symm.trans hloading
    · have hflag : s.followRefreshInFlight = true :=
        hheld.resolve_left (by rw [hfree rfl]; exact Bool.false_ne_true)
      have hcount := countP_issue (s := { s with
        followPendingSession := none, lastManualPath := p }) hclear sessionId none true kind true
      rw [hload]
      refine ⟨⟨?_, ?_, ?_, nofun, ?_⟩, nofun⟩
      · intro r hr hloop
        rcases List.mem_append.mp hr with hr | hr
        · exact hsilent r hr hloop
        · obtain rfl := List.mem_singleton.mp hr
          rfl
      · intro _
        exact hcount ▸ Nat.succ_pos _
      · intro hb
        refine hcount.trans ?_
        dsimp only [SessionFiles.issue]
        rw [hflag, if_pos rfl]
        exact congrArg (· + 1) (hloops hb)
      · intro _ h
        simp [SessionFiles.issue] at h

/-- An event is pending, or its loop runs. -/
theorem Settling.requestFollow (h : s.Settling False b) (hclear : s.lastClear ≤ s.now)
    (sessionId : Option SessionId)
    (hheld : s.followPendingSession.isSome = true →
      s.loading = true ∨ s.followRefreshInFlight = true)
    (howed : a → s.owed = true → s.followPendingSession.isSome = true ∨
      s.followTerminalCwd = true ∧ (sessionId.or s.attachedSession).isSome = true) :
    (s.requestFollow sessionId).Following a b := by
  unfold SessionFiles.requestFollow
  cases htarget : sessionId.or s.attachedSession with
  | none =>
    refine ⟨{ h with owed := fun ha howed' => ?_ }, hheld⟩
    rcases howed ha howed' with hsome | ⟨-, htarget'⟩
    · exact hsome
    · rw [htarget] at htarget'
      cases htarget'
  | some target =>
    dsimp only
    split
    · rename_i hoff
      rw [Bool.not_eq_true'] at hoff
      refine ⟨{ h with pending := nofun, owed := fun ha howed' => ?_ }, nofun⟩
      have hfollow : s.followTerminalCwd = true := by
        rcases howed ha howed' with hsome | ⟨hfollow, -⟩
        · exact h.pending hsome
        · exact hfollow
      cases hfollow.symm.trans hoff
    · rename_i hon
      rw [Bool.not_eq_true', Bool.not_eq_false] at hon
      split
      · rename_i hbusy
        rw [Bool.or_eq_true] at hbusy
        exact ⟨{ h with pending := fun _ => hon, owed := fun _ _ => rfl }, fun _ => hbusy⟩
      · rename_i hfree
        rw [Bool.or_eq_true, not_or, Bool.not_eq_true, Bool.not_eq_true] at hfree
        refine Following.runLoop (s := { s with followRefreshInFlight := true }) hclear h.silent
          (fun hb => ?_) (some target) (fun _ _ => ⟨rfl, hfree.1⟩) (fun _ => ⟨hon, .inr rfl⟩)
        exact (h.loops hb).trans (by rw [hfree.2]; rfl)

/-- The effect takes up what waits no longer. -/
theorem Settling.pendingEffect (h : s.Settling a b) (hclear : s.lastClear ≤ s.now) :
    s.pendingEffect.Following a b := by
  unfold SessionFiles.pendingEffect
  split
  · rename_i hloading
    exact ⟨h, fun _ => .inl hloading⟩
  · cases hpending : s.followPendingSession with
    | none =>
      refine ⟨h, ?_⟩
      rw [hpending]
      exact nofun
    | some sessionId =>
      have hfollow : s.followTerminalCwd = true := h.pending (by rw [hpending]; rfl)
      dsimp only
      rw [if_neg (by rw [hfollow]; decide)]
      exact Settling.requestFollow (s := { s with followPendingSession := none })
        { h with pending := nofun, owed := nofun } hclear _ nofun fun _ _ => .inr ⟨hfollow, rfl⟩

theorem Following.load (h : s.Following a b) (hclear : s.lastClear ≤ s.now) (sessionId : SessionId)
    (path : Option String) (silent : Bool) (source : Option FilesSource) :
    (s.load sessionId path silent source false).1.Following a b := by
  obtain ⟨p, kind, ⟨hload, -⟩ | ⟨hload, -⟩⟩ := load_cases s sessionId path silent source false
  · rw [hload]
    exact { h with }
  · rw [hload]
    have hcount := countP_issue (s := { s with lastManualPath := p }) hclear sessionId path silent
      kind false
    refine ⟨⟨?_, fun hflag => hcount ▸ h.running hflag, fun hb => hcount.trans (h.loops hb),
      h.pending, fun ha howed => h.owed ha (Bool.and_eq_true_iff.mp howed).1⟩, ?_⟩
    · intro r hr hloop
      rcases List.mem_append.mp hr with hr | hr
      · exact h.silent r hr hloop
      · obtain rfl := List.mem_singleton.mp hr
        cases hloop
    · intro hsome
      rcases h.held hsome with hloading | hloop
      · left
        dsimp only [SessionFiles.issue]
        rw [hloading, Bool.true_or]
      · exact .inr hloop

theorem Following.setFollow (h : s.Following a b) (follow : Bool) :
    (s.setFollow follow).Following a b := by
  cases follow with
  | true => exact { h with pending := fun _ => rfl }
  | false => exact { h with pending := nofun, owed := nofun, held := nofun }

/-- No loop outlives a clear as a current one. -/
theorem Following.clear (h : s.Following a b) (hissued : ∀ r ∈ s.requests, r.issuedAt < s.now) :
    s.clear.Following a b := by
  refine ⟨⟨h.silent, nofun, fun _ => ?_, nofun, nofun⟩, nofun⟩
  rw [SessionFiles.clear, if_neg Bool.false_ne_true, List.countP_eq_zero]
  intro r hr
  have hlt := hissued r hr
  simp only [isCurrentLoop, Bool.and_eq_true, decide_eq_true_eq, not_and]
  intro _
  exact Nat.not_le.mpr hlt

theorem Following.list (h : s.Following a b) {index : ℕ} {r : FilesRequest}
    (hr : s.requests[index]? = some r) :
    Following { s with requests := s.requests.set index { r with listing := true } } a b := by
  obtain ⟨hlt, rfl⟩ := List.getElem?_eq_some_iff.mp hr
  have hcount : (s.requests.set index { s.requests[index] with listing := true }).countP
      s.isCurrentLoop = s.requests.countP s.isCurrentLoop := by
    refine ((List.set_perm_cons_eraseIdx hlt _).countP_eq _).trans ?_
    rw [← (List.getElem_cons_eraseIdx_perm hlt).countP_eq, List.countP_cons, List.countP_cons]
    rfl
  refine { h with
    silent := fun r hr hloop => ?_
    running := fun hflag => hcount ▸ h.running hflag
    loops := fun hb => hcount.trans (h.loops hb) }
  rcases List.mem_or_eq_of_mem_set hr with hr | rfl
  · exact h.silent r hr hloop
  · exact h.silent s.requests[index] (List.getElem_mem hlt) hloop

/-- The loop whose request ends goes on with what is pending; the end of a shown request is seen
by the effect. -/
theorem Following.finish (h : s.Following a b) (hclear : s.lastClear ≤ s.now) {index : ℕ}
    {r : FilesRequest} (hr : s.requests[index]? = some r)
    (hshown : a → r.loop = true → s.loading = true → s.followPendingSession.isSome = false)
    (hstale : b → r.loop = true → r.issuedAt < s.lastClear → s.followRefreshInFlight = false) :
    (s.finish index r).Settling a b ∧
      ((s.finish index r).loading = s.loading → (s.finish index r).Following a b) := by
  obtain ⟨hlt, rfl⟩ := List.getElem?_eq_some_iff.mp hr
  have hcount := (List.getElem_cons_eraseIdx_perm hlt).countP_eq s.isCurrentLoop
  rw [List.countP_cons] at hcount
  have hsilent : ∀ r ∈ s.requests.eraseIdx index, r.loop = true → r.silent = true :=
    fun r hr => h.silent r (List.mem_of_mem_eraseIdx hr)
  unfold SessionFiles.finish
  dsimp only
  cases hloop : s.requests[index].loop with
  | false =>
    rw [if_neg Bool.false_ne_true]
    rw [if_neg (by simp [isCurrentLoop, hloop]), Nat.add_zero] at hcount
    have hsettling : Settling { s with
        requests := s.requests.eraseIdx index
        loading := s.loading && !(!s.requests[index].silent && s.isCurrent s.requests[index]) } a b :=
      ⟨hsilent, fun hflag => hcount ▸ h.running hflag, fun hb => hcount.trans (h.loops hb),
        h.pending, h.owed⟩
    exact ⟨hsettling, fun hsame => ⟨hsettling, fun hsome =>
      (h.held hsome).imp_left hsame.trans⟩⟩
  | true =>
    rw [if_pos rfl, h.silent _ (List.getElem_mem hlt) hloop, Bool.not_true, Bool.false_and,
      Bool.not_false, Bool.and_true]
    have hfollowing := Following.runLoop (a := a) (b := b)
      (s := { s with requests := s.requests.eraseIdx index }) hclear hsilent ?_
      s.followPendingSession ?_ (fun hsome => ⟨h.pending hsome, h.held hsome⟩)
    · exact ⟨hfollowing.toSettling, fun _ => hfollowing⟩
    · -- no current loop is left
      intro hb
      have hloops := hcount.trans (h.loops hb)
      change (s.requests.eraseIdx index).countP s.isCurrentLoop = 0
      cases hcurrent : s.isCurrentLoop s.requests[index] with
      | true =>
        rw [if_pos hcurrent] at hloops
        split at hloops <;> omega
      | false =>
        have hold : s.requests[index].issuedAt < s.lastClear := by
          simpa [isCurrentLoop, hloop] using hcurrent
        rw [hstale hb hloop hold, hcurrent] at hloops
        simpa using hloops
    · intro ha howed
      have hsome := h.owed ha howed
      refine ⟨hsome, ?_⟩
      rw [← Bool.not_eq_true]
      intro hloading
      cases hsome.symm.trans (hshown ha hloop hloading)

theorem undisturbed_finishing {op : FilesOp} {r : FilesRequest} (h : s.Undisturbed op = true)
    (hr : s.finishing op = some r) (hloop : r.loop = true) (hloading : s.loading = true) :
    s.followPendingSession.isSome = false := by
  rw [Undisturbed, hr, Option.all_some, hloop, hloading, Bool.not_eq_true'] at h
  exact h

theorem unrivalled_finishing {op : FilesOp} {r : FilesRequest} (h : s.Unrivalled op = true)
    (hr : s.finishing op = some r) (hloop : r.loop = true) (hold : r.issuedAt < s.lastClear) :
    s.followRefreshInFlight = false := by
  rw [Unrivalled, hr, Option.all_some, hloop, decide_eq_true hold, Bool.not_eq_true'] at h
  exact h

theorem Following.callback (h : s.Following a b) (hclear : s.lastClear ≤ s.now)
    (hissued : ∀ r ∈ s.requests, r.issuedAt < s.now) {op : FilesOp}
    (ha : a → s.Undisturbed op = true) (hb : b → s.Unrivalled op = true) {t : SessionFiles}
    (ht : s.callback op = some t) :
    t.Settling a b ∧ (t.loading = s.loading → t.Following a b) := by
  have hkeeps (hfollowing : t.Following a b) :
      t.Settling a b ∧ (t.loading = s.loading → t.Following a b) :=
    ⟨hfollowing.toSettling, fun _ => hfollowing⟩
  have hfinish {u : SessionFiles} (hu : u.Following a b) (hlast : u.lastClear ≤ u.now)
      {index : ℕ} {r : FilesRequest} (hr : u.requests[index]? = some r)
      (hfinishing : s.finishing op = some r) (hloading : u.loading = s.loading)
      (hpending : u.followPendingSession = s.followPendingSession)
      (hold : u.lastClear = s.lastClear)
      (hflag : u.followRefreshInFlight = s.followRefreshInFlight) :=
    hu.finish hlast hr
      (by rw [hloading, hpending]; exact fun h => undisturbed_finishing (ha h) hfinishing)
      (by rw [hold, hflag]; exact fun h => unrivalled_finishing (hb h) hfinishing)
  cases op with
  | load sessionId path silent source =>
    obtain rfl := Option.some.inj ht
    exact hkeeps (h.load hclear ..)
  | followEvent sessionId =>
    obtain rfl := Option.some.inj ht
    refine hkeeps (Settling.requestFollow
      (s := { s with
        owed := s.owed || s.followTerminalCwd && (sessionId.or s.attachedSession).isSome })
      { h with owed := nofun } hclear sessionId h.held fun ha' howed => ?_)
    rcases Bool.or_eq_true_iff.mp howed with howed | hevent
    · exact .inl (h.owed ha' howed)
    · exact .inr (Bool.and_eq_true_iff.mp hevent)
  | setFollow follow =>
    obtain rfl := Option.some.inj ht
    exact hkeeps (h.setFollow follow)
  | clear =>
    obtain rfl := Option.some.inj ht
    exact hkeeps (h.clear hissued)
  | connected index result =>
    obtain ⟨r, hr, ⟨⟨message, rfl⟩, hfinishing⟩ | ⟨rfl, hfinishing⟩ | rfl⟩ :=
      callback_connected ht
    · rw [fail_eq]
      exact hfinish (u := { s with error := (s.fail r message).error }) { h with } hclear hr
        hfinishing rfl rfl rfl rfl
    · exact hfinish h hclear hr hfinishing rfl rfl rfl rfl
    · exact hkeeps (h.list hr)
  | listed index result =>
    obtain ⟨r, hr, hfinishing, ⟨message, rfl⟩ | ⟨files, rfl⟩⟩ := callback_listed ht
    · rw [fail_eq]
      exact hfinish (u := { s with error := (s.fail r message).error }) { h with } hclear hr
        hfinishing rfl rfl rfl rfl
    · rw [accept_eq]
      exact hfinish
        (u := { s with
          lastManualPath := (s.accept r files).lastManualPath
          files := (s.accept r files).files
          error := (s.accept r files).error
          replaced := (s.accept r files).replaced })
        { h with } hclear hr hfinishing rfl rfl rfl rfl
  | attach sessionId =>
    obtain rfl := Option.some.inj ht
    exact hkeeps { h with }
  | rerender =>
    obtain rfl := Option.some.inj ht
    exact hkeeps h

theorem Following.step (h : s.Following a b) (hsound : s.Sound) {op : FilesOp}
    (ha : a → s.Undisturbed op = true) (hb : b → s.Unrivalled op = true) {s' : SessionFiles}
    (hs : s.step op = some s') : s'.Following a b := by
  obtain ⟨t, ht, hs'⟩ := step_cases hs
  have hticked : Following { s with now := s.now + 1 } a b := { h with }
  have hissued : ∀ r ∈ s.requests, r.issuedAt < s.now + 1 :=
    fun r hr => Nat.lt_succ_of_le (hsound.issued r hr).2.2
  obtain ⟨hsettling, hfollowing⟩ :=
    hticked.callback hsound.tick.stamps.2.2 hissued ha hb ht
  rcases hs' with rfl | ⟨rfl, hloading, -⟩
  · exact hsettling.pendingEffect (hsound.tick.callback ht).stamps.2.2
  · exact hfollowing hloading

theorem following_of_run {P : SessionFiles → FilesOp → Prop}
    (ha : ∀ s op, P s op → a → s.Undisturbed op = true)
    (hb : ∀ s op, P s op → b → s.Unrivalled op = true) {ops : List FilesOp}
    (hops : Along step P {} ops) (hrun : exec step {} ops = some s) : s.Following a b := by
  have hboth : s.Sound ∧ s.Following a b := by
    refine exec_induction_along (I := fun s => s.Sound ∧ s.Following a b) ?_
      ⟨Sound.initial, Following.initial⟩ hops hrun
    rintro s op s' ⟨hsound, hfollowing⟩ hop hs
    exact ⟨hsound.step hs, hfollowing.step hsound (ha s op hop) (hb s op hop) hs⟩
  exact hboth.2

/-- **The panel**: in every run it shows the latest listing; without rivals one loop runs, and in an
undisturbed run every event is seen to. -/
theorem latest_and_follows {ops : List FilesOp} (hrun : exec step {} ops = some s) :
    s.Latest ∧
      (Along step (fun s op => s.Unrivalled op = true) {} ops → s.currentLoops.length ≤ 1) ∧
      (Along step (fun s op => s.Undisturbed op = true) {} ops → s.Follows) := by
  refine ⟨?_, fun hops => ?_, fun hops => ?_⟩
  · exact (exec_induction (fun _ _ _ h hs => h.step hs) Sound.initial hrun : s.Sound).latest_of
  · exact (following_of_run (fun _ _ _ => False.elim) (fun _ _ hop _ => hop) hops hrun).oneLoop
  · exact (following_of_run (fun _ _ hop _ => hop) (fun _ _ _ => False.elim) hops hrun).follows

/-- Two events, one while a directory is shown as loading and one while the loop runs; then the user
stops to follow and follows again, and clears the panel while the loop of a third event runs. -/
def busyPanel : List FilesOp :=
  [.attach (some 1), .load 1 (some "a") false none, .followEvent none, .connected 0 (.ok ()),
    .listed 0 (.ok ⟨1, "a"⟩), .connected 0 (.ok ()), .followEvent (some 1),
    .listed 0 (.ok ⟨1, "b"⟩), .setFollow false, .connected 0 (.ok ()), .setFollow true,
    .followEvent none, .clear, .connected 0 (.error "closed"), .followEvent none,
    .connected 0 (.ok ())]

theorem latest_and_follows_busyPanel : ∃ s, exec step {} busyPanel = some s ∧ s.Latest ∧
    s.currentLoops.length ≤ 1 ∧ s.Follows ∧ s.currentLoops.length = 1 ∧ s.owed = false ∧
    s.replaced.map (fun e => (e.request.path, e.request.silent)) =
      [(some "a", false), (none, true)] ∧ s.files = none := by
  have h : ((exec step {} busyPanel).any fun s => s.currentLoops.length = 1 && !s.owed &&
      s.replaced.map (fun e => (e.request.path, e.request.silent)) =
        [(some "a", false), (none, true)] && s.files = none) = true := by
    decide +kernel
  obtain ⟨s, hs, hstate⟩ := (Option.any_eq_true ..).mp h
  simp only [Bool.and_eq_true, decide_eq_true_eq, Bool.not_eq_true'] at hstate
  obtain ⟨⟨⟨hloop, howed⟩, hreplaced⟩, hfiles⟩ := hstate
  obtain ⟨hlatest, honeLoop, hfollows⟩ := latest_and_follows hs
  exact ⟨s, hs, hlatest, honeLoop (by decide +kernel), hfollows (by decide +kernel), hloop, howed,
    hreplaced, hfiles⟩

/-- A directory that the user has opened comes after he has stopped to follow. -/
def openThenStop : List FilesOp :=
  [.load 1 (some "a") false none, .setFollow false, .connected 0 (.ok ()),
    .listed 0 (.ok ⟨1, "a"⟩)]

theorem path_after_follow_off :
    ¬∀ ops s, exec step {} ops = some s → s.Claimed := by
  intro h
  have hrun : ((exec step {} openThenStop).any fun s =>
      s.replaced.any fun e => e.request.issuedAt < e.lastFollowOff) = true := by
    decide +kernel
  obtain ⟨s, hs, hreplaced⟩ := (Option.any_eq_true ..).mp hrun
  obtain ⟨e, he, hlt⟩ := List.any_eq_true.mp hreplaced
  have hle := ((h openThenStop s hs).latest e he).2.1
  exact absurd (of_decide_eq_true hlt) (Nat.not_lt.mpr hle)

end SessionFiles

end Termd.Browser
