import Termd.Daemon.Runtime

/-!
# What a call does to a session

The record and the handle of a session belong together: a session that is open has a handle, and a
session with a handle is open, or it was closed when its child was found to have exited. Every call of
the runtime keeps this, and only the calls that take a handle in or give it up change who has one.

## Main definitions

* `SessionRuntime.slot r id`: the record and the handle of a session
* `Slot.Sound`: they belong together
* `Kept s s'`: what a call on a handle does to a slot

## Main results

* `Kept.sound`, `Kept.isSome_handle`: a call on a handle keeps slots sound, and keeps who has a handle
* `SessionRuntime.kept_attach`, `SessionRuntime.kept_detach`, …: the calls on a handle
* `SessionRuntime.slot_remove`, `SessionRuntime.slot_publishOwnedSession`,
  `SessionRuntime.slot_reconnectSession`: the other calls
-/

namespace Termd.Daemon

open Ownership (SessionState PtyRestoreInfo)
open Pty (PtySize)

/-- The record and the handle of a session. -/
abbrev Slot := Option SessionRecord × Option RuntimeSession

namespace Slot

/-- **The record and the handle belong together.** -/
def Sound : Slot → Prop
  | (none, none) => True
  | (none, some _) => False
  | (some record, none) => record.state = .closed
  | (some record, some handle) => record.state = .closed → handle.terminationConfirmed

end Slot

/-- What a call on a handle does to a slot. -/
inductive Kept : Slot → Slot → Prop
  | refl (s : Slot) : Kept s s
  | touch {record record' : SessionRecord} {handle handle' : RuntimeSession} :
    record.state ≠ .closed → record'.state ≠ .closed →
    Kept (some record, some handle) (some record', some handle')
  | exit {record record' : SessionRecord} {handle handle' : RuntimeSession} :
    record.state ≠ .closed → handle'.terminationConfirmed →
    Kept (some record, some handle) (some record', some handle')

namespace Kept

variable {s s' s'' : Slot}

theorem sound (h : Kept s s') (hsound : s.Sound) : s'.Sound := by
  cases h with
  | refl => exact hsound
  | touch _ hopen =>
    intro hclosed
    exact absurd hclosed hopen
  | exit _ hconfirmed =>
    intro _
    exact hconfirmed

theorem trans (h : Kept s s') (h' : Kept s' s'') : Kept s s'' := by
  cases h with
  | refl => exact h'
  | touch hopen hopen' =>
    cases h' with
    | refl => exact .touch hopen hopen'
    | touch _ hopen'' => exact .touch hopen hopen''
    | exit _ hconfirmed => exact .exit hopen hconfirmed
  | exit hopen hconfirmed =>
    cases h' with
    | refl => exact .exit hopen hconfirmed
    | touch _ hopen'' => exact .touch hopen hopen''
    | exit _ hconfirmed' => exact .exit hopen hconfirmed'

theorem isSome_handle (h : Kept s s') : s'.2.isSome = s.2.isSome := by
  cases h <;> rfl

end Kept

namespace SessionRuntime

variable {r r' : SessionRuntime} {id k device : String} {record : SessionRecord}
  {handle : RuntimeSession} {answers : PtyAnswers}

/-- The record and the handle of a session. -/
def slot (r : SessionRuntime) (id : String) : Slot :=
  (r.sessions.sessions.lookup id, r.runtimeSessions.lookup id)

theorem slot_setRuntimeSession :
    (r.setRuntimeSession id handle).slot k = if k = id then ((r.slot k).1, some handle) else r.slot k := by
  by_cases hk : k = id
  · subst hk
    simp [slot, setRuntimeSession]
  · simp [slot, setRuntimeSession, hk, AList.lookup_insert_ne]

theorem slot_setRecord :
    ({ r with sessions := r.sessions.set id record } : SessionRuntime).slot k =
      if k = id then (some record, (r.slot k).2) else r.slot k := by
  by_cases hk : k = id
  · subst hk
    simp [slot]
  · simp [slot, hk, AList.lookup_insert_ne]

variable (id record handle) in
/-- The record and the handle are set together. -/
theorem slot_update :
    (({ r with sessions := r.sessions.set id record } : SessionRuntime).setRuntimeSession id
      handle).slot k = if k = id then (some record, some handle) else r.slot k := by
  rw [slot_setRuntimeSession]
  by_cases hk : k = id
  · subst hk
    simp [slot]
  · rw [if_neg hk, if_neg hk, slot_setRecord, if_neg hk]

theorem runtimeSession_eq_ok :
    r.runtimeSession id = .ok handle ↔ r.runtimeSessions.lookup id = some handle := by
  rw [runtimeSession]
  cases r.runtimeSessions.lookup id <;> simp

/-- An open session has a record and a handle. -/
theorem ensureOpenSession_eq_ok :
    r.ensureOpenSession id = .ok handle ↔
      ∃ record, r.slot id = (some record, some handle) ∧ record.state ≠ .closed := by
  rw [ensureOpenSession, SessionManager.state, SessionManager.session]
  simp only [slot, Prod.mk.injEq]
  cases r.sessions.sessions.lookup id with
  | none => simp [bind, Except.bind]
  | some record =>
    simp only [bind, Except.bind, pure, Except.pure]
    split_ifs with hclosed
    · simp [hclosed]
    · simp [runtimeSession_eq_ok, hclosed]

theorem sessions_lookup_of_slot {found : Option RuntimeSession}
    (h : r.slot id = (some record, found)) : r.sessions.sessions.lookup id = some record :=
  congrArg Prod.fst h

theorem runtimeSessions_lookup_of_slot {found : Option SessionRecord}
    (h : r.slot id = (found, some handle)) : r.runtimeSessions.lookup id = some handle :=
  congrArg Prod.snd h

/-! ### Calls on a handle -/

/-- A call that sets the record and the handle of an open session. -/
theorem kept_update {handle' : RuntimeSession} {record' : SessionRecord}
    (hslot : r.slot id = (some record, some handle)) (hopen : record.state ≠ .closed)
    (hopen' : record'.state ≠ .closed) (k : String) :
    Kept (r.slot k) ((({ r with sessions := r.sessions.set id record' } :
      SessionRuntime).setRuntimeSession id handle').slot k) := by
  rw [slot_update _ _ _]
  by_cases hk : k = id
  · subst hk
    rw [if_pos rfl, hslot]
    exact .touch hopen hopen'
  · rw [if_neg hk]
    exact .refl _

theorem kept_setRuntimeSession {handle' : RuntimeSession}
    (hslot : r.slot id = (some record, some handle)) (hopen : record.state ≠ .closed) (k : String) :
    Kept (r.slot k) ((r.setRuntimeSession id handle').slot k) := by
  rw [slot_setRuntimeSession]
  by_cases hk : k = id
  · subst hk
    rw [if_pos rfl, hslot]
    exact .touch hopen hopen
  · rw [if_neg hk]
    exact .refl _

theorem kept_setRecord {record' : SessionRecord} (hslot : r.slot id = (some record, some handle))
    (hopen : record.state ≠ .closed) (hopen' : record'.state ≠ .closed) (k : String) :
    Kept (r.slot k)
      (({ r with sessions := r.sessions.set id record' } : SessionRuntime).slot k) := by
  rw [slot_setRecord]
  by_cases hk : k = id
  · subst hk
    rw [if_pos rfl, hslot]
    exact .touch hopen hopen'
  · rw [if_neg hk]
    exact .refl _

variable (id) in
theorem kept_observeNaturalExit (tryWait : Option Bool) (k : String) :
    Kept (r.slot k) ((r.observeNaturalExit id tryWait).1.slot k) := by
  rw [observeNaturalExit]
  cases hstate : r.sessions.state id with
  | error => exact .refl _
  | ok state =>
    obtain ⟨record, hrecord, rfl⟩ := SessionManager.state_eq_ok.mp hstate
    dsimp only
    split_ifs with hclosed
    · exact .refl _
    · cases hhandle : r.runtimeSession id with
      | error => exact .refl _
      | ok handle =>
        have hhandle := runtimeSession_eq_ok.mp hhandle
        match tryWait with
        | none => exact .refl _
        | some false => exact .refl _
        | some true =>
          have hclose := SessionManager.close_eq_ok.mpr ⟨record, hrecord, rfl⟩
          have hupdate := slot_update id { record with state := .closed, attachedDevices := ∅ }
            { handle with terminationConfirmed := true, watchedAttachments := ∅ } (r := r) (k := k)
          rw [hclose]
          refine (congrArg (Kept (r.slot k)) hupdate).mpr ?_
          by_cases hk : k = id
          · subst hk
            rw [if_pos rfl, slot, hrecord, hhandle]
            exact .exit hclosed rfl
          · rw [if_neg hk]
            exact .refl _

theorem kept_fail {α : Type} (tryWait : Option Bool) (k : String) :
    Kept (r.slot k) ((r.fail id tryWait (α := α)).1.slot k) := by
  have hkept := kept_observeNaturalExit id (r := r) tryWait k
  rw [fail]
  split <;>
  · rename_i hobserved
    rw [hobserved] at hkept
    exact hkept

variable (id device answers) in
theorem kept_attach (k : String) : Kept (r.slot k) ((r.attach id device answers).1.slot k) := by
  rw [attach]
  cases hhandle : r.ensureOpenSession id with
  | error => exact .refl _
  | ok handle =>
    obtain ⟨record, hslot, hopen⟩ := ensureOpenSession_eq_ok.mp hhandle
    dsimp only
    split_ifs
    · cases hattach : r.sessions.attach id device with
      | error => exact kept_setRuntimeSession hslot hopen k
      | ok result =>
        obtain ⟨role, sessions⟩ := result
        obtain ⟨record', hrecord', -, rfl⟩ := SessionManager.attach_eq_ok hattach
        refine kept_update hslot hopen ?_ k
        simp
    · exact kept_fail _ k

theorem kept_detachLocal {detached : RuntimeSession} {byAuthority : Bool}
    (hslot : r.slot id = (some record, some handle)) (hopen : record.state ≠ .closed) (k : String) :
    Kept (r.slot k) ((r.detachLocal id device detached byAuthority).1.slot k) := by
  rw [detachLocal]
  cases hdetach : r.sessions.detach id device with
  | error error =>
    dsimp only
    split_ifs
    · exact kept_setRuntimeSession hslot hopen k
    · exact kept_setRuntimeSession hslot hopen k
  | ok sessions =>
    obtain ⟨record', -, hopen', -, rfl⟩ := SessionManager.detach_eq_ok hdetach
    dsimp only
    refine kept_update hslot hopen ?_ k
    exact hopen'

theorem kept_detach (k : String) : Kept (r.slot k) ((r.detach id device answers).1.slot k) := by
  rw [detach]
  cases hhandle : r.ensureOpenSession id with
  | error => exact .refl _
  | ok handle =>
    obtain ⟨record, hslot, hopen⟩ := ensureOpenSession_eq_ok.mp hhandle
    dsimp only
    split
    · exact .refl _
    · split_ifs
      · exact kept_detachLocal hslot hopen k
      · exact .refl _
    · exact kept_detachLocal hslot hopen k

theorem kept_writeInput (k : String) :
    Kept (r.slot k) ((r.writeInput id device answers).1.slot k) := by
  rw [writeInput]
  cases r.ensureOpenSession id with
  | error => exact .refl _
  | ok handle =>
    dsimp only
    split
    · exact .refl _
    · exact .refl _
    · split_ifs
      · exact .refl _
      · exact kept_fail _ k

variable (id answers) in
theorem kept_startWatchedAttachment (attachment : String) (size : PtySize) (k : String) :
    Kept (r.slot k) ((r.startWatchedAttachment id attachment size answers).1.slot k) := by
  rw [startWatchedAttachment]
  cases hhandle : r.ensureOpenSession id with
  | error => exact .refl _
  | ok handle =>
    obtain ⟨record, hslot, hopen⟩ := ensureOpenSession_eq_ok.mp hhandle
    dsimp only
    split_ifs
    · exact .refl _
    · exact .refl _
    · exact kept_setRuntimeSession hslot hopen k
    · exact .refl _

theorem kept_dropWatchedAttachment {attachment : String} (k : String) :
    Kept (r.slot k) ((r.dropWatchedAttachment id attachment answers).1.slot k) := by
  rw [dropWatchedAttachment]
  cases hhandle : r.ensureOpenSession id with
  | error => exact .refl _
  | ok handle =>
    obtain ⟨record, hslot, hopen⟩ := ensureOpenSession_eq_ok.mp hhandle
    dsimp only
    split_ifs
    · exact kept_setRuntimeSession hslot hopen k
    · exact kept_setRuntimeSession hslot hopen k
    · exact .refl _

theorem kept_recordWatchedAttachmentResize {size : PtySize} (k : String) :
    Kept (r.slot k) ((r.recordWatchedAttachmentResize id size).1.slot k) := by
  rw [recordWatchedAttachmentResize]
  cases hhandle : r.ensureOpenSession id with
  | error => exact .refl _
  | ok handle =>
    obtain ⟨record, hslot, hopen⟩ := ensureOpenSession_eq_ok.mp hhandle
    dsimp only
    cases hresize : r.sessions.resize id size with
    | error => exact .refl _
    | ok sessions =>
      obtain ⟨record', -, hopen', rfl⟩ := SessionManager.resize_eq_ok hresize
      dsimp only
      refine kept_setRecord hslot hopen ?_ k
      exact hopen'

/-! ### The other calls -/

/-- A slot whose handle was given up. -/
def Slot.removed (s : Slot) : Slot :=
  if s.2.isSome then
    (s.1.map fun record => { record with state := .closed, attachedDevices := ∅ }, none)
  else s

/-- **A handle is given up.** -/
theorem slot_remove (k : String) :
    (r.remove id).1.slot k = if k = id then Slot.removed (r.slot k) else r.slot k := by
  rw [remove]
  cases hhandle : r.runtimeSessions.lookup id with
  | none =>
    dsimp only
    split_ifs with hk
    · subst hk
      simp [Slot.removed, slot, hhandle]
    · rfl
  | some handle =>
    cases hrecord : r.sessions.sessions.lookup id with
    | none =>
      simp only [SessionManager.close, SessionManager.session, hrecord, bind, Except.bind]
      split_ifs with hk
      · subst hk
        simp [Slot.removed, slot, hhandle, hrecord]
      · simp [slot, hk, AList.lookup_erase_ne]
    | some record =>
      have hclose := SessionManager.close_eq_ok.mpr ⟨record, hrecord, rfl⟩
      rw [hclose]
      dsimp only
      split_ifs with hk
      · subst hk
        simp [Slot.removed, slot, hhandle, hrecord]
      · simp [slot, hk, AList.lookup_erase_ne, AList.lookup_insert_ne]

theorem Slot.removed_sound {s : Slot} (h : s.Sound) : (Slot.removed s).Sound := by
  obtain ⟨record, handle⟩ := s
  cases record with
  | none =>
    cases handle with
    | none => exact h
    | some handle => cases h
  | some record =>
    cases handle with
    | none => exact h
    | some handle => exact rfl

theorem Slot.removed_handle (s : Slot) : (Slot.removed s).2 = none := by
  obtain ⟨record, handle⟩ := s
  cases handle <;> rfl

/-- `publish_owned_session` of a session that is new. It returns unless the size is not valid. -/
theorem slot_publishOwnedSession (pty : PtySession) (size : PtySize)
    (hnew : r.slot id = (none, none)) :
    if size.rows = 0 ∨ size.cols = 0 then (r.publishOwnedSession id pty size).2 = false
    else (r.publishOwnedSession id pty size).2 = true ∧ ∀ k,
      (r.publishOwnedSession id pty size).1.slot k =
        if k = id then (some { size }, some { pty }) else r.slot k := by
  have hrecord : r.sessions.sessions.lookup id = none := congrArg Prod.fst hnew
  have hhandle : r.runtimeSessions.lookup id = none := congrArg Prod.snd hnew
  have hcreate := SessionManager.createSession_eq_ok.mpr ⟨hrecord, rfl⟩
  rw [publishOwnedSession, hhandle, hcreate]
  simp only [Option.isSome_none, Bool.false_eq_true, if_false]
  split_ifs with hsize
  · simp [SessionManager.resize, hsize]
  · have hresize : (r.sessions.set id {}).resize id size =
        .ok ((r.sessions.set id {}).set id { size }) := by
      rw [SessionManager.resize, if_neg hsize, SessionManager.openSession, SessionManager.session]
      simp [bind, Except.bind, pure, Except.pure]
    rw [hresize]
    refine ⟨rfl, fun k => ?_⟩
    rw [slot_setRuntimeSession]
    split_ifs with hk
    · subst hk
      simp [slot]
    · simp [slot, hk, AList.lookup_insert_ne]

/-- The record of a session that was reconnected. -/
def reconnected (state : SessionState) (size : PtySize) : SessionRecord where
  state := if state = .running then .running else .created
  size := size

/-- `reconnect_session` of a session that is new. It changes nothing when it fails. -/
theorem slot_reconnectSession (state : SessionState) (size : PtySize)
    (restoreInfo : Option PtyRestoreInfo) (reconnect : Option PtySession)
    (hnew : r.slot id = (none, none)) :
    (∃ error, r.reconnectSession id state size restoreInfo reconnect = (r, .error error)) ∨
      ∃ pty, reconnect = some pty ∧
        (r.reconnectSession id state size restoreInfo reconnect).2 = .ok () ∧ ∀ k,
        (r.reconnectSession id state size restoreInfo reconnect).1.slot k =
          if k = id then (some (reconnected state size), some { pty }) else r.slot k := by
  have hrecord : r.sessions.sessions.lookup id = none := congrArg Prod.fst hnew
  have hhandle : r.runtimeSessions.lookup id = none := congrArg Prod.snd hnew
  rw [reconnectSession.eq_def, hhandle]
  simp only [Option.isSome_none, Bool.false_eq_true, if_false]
  split_ifs with hclosed hrestore hsize hrunning
  · exact .inl ⟨_, rfl⟩
  · exact .inl ⟨_, rfl⟩
  · exact .inl ⟨_, rfl⟩
  all_goals
    cases reconnect with
    | none => exact .inl ⟨_, rfl⟩
    | some pty =>
      refine .inr ⟨pty, rfl, ?_⟩
      rw [SessionManager.createSession_eq_ok.mpr ⟨hrecord, rfl⟩]
      simp [SessionManager.resize, hsize, SessionManager.openSession, SessionManager.session, bind,
        Except.bind, pure, Except.pure, SessionManager.attach, SessionManager.detach, hrunning,
        Except.toOption]
      intro k
      rw [slot_setRuntimeSession]
      split_ifs with hk
      · subst hk
        simp [slot, reconnected, hrunning]
      · simp [slot, hk, AList.lookup_insert_ne]

end SessionRuntime

end Termd.Daemon
