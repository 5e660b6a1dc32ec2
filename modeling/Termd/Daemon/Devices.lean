import Termd.Daemon.Connections

/-!
# The devices of a session

The device of a connection is attached where the runtime says so: at the supervisor if it keeps such a
set, and in the session manager if it does not. A call changes the devices or the watched attachments
of one open session. A session that is not open has neither.

## Main definitions

* `Slot.IsOpen`, `Slot.devices`, `Slot.attachments`: a session that is open, its devices and its watched
  attachments

## Main results

* `SessionRuntime.role_of_isOpen`: `role` is about these devices
* `SessionRuntime.Effect`: what a call does to the sessions that are open
* `SessionRuntime.effect_attach`, `SessionRuntime.effect_detach`, …: the calls
* `SessionRuntime.Touches`: a call that touches one open session
-/

namespace Termd.Daemon

open Ownership (SessionState RuntimeRow)
open Pty (PtySize)

namespace Slot

/-- The session is open and has its handle. -/
def IsOpen : Slot → Prop
  | (some record, some _) => record.state ≠ .closed
  | _ => False

instance (s : Slot) : Decidable s.IsOpen := by
  unfold IsOpen
  split <;> infer_instance

/-- The devices that are attached to an open session. -/
def devices : Slot → Finset String
  | (some record, some handle) =>
    if record.state = .closed then ∅ else handle.pty.authority.getD record.attachedDevices
  | _ => ∅

/-- The attachments that an open session feeds. -/
def attachments : Slot → Finset String
  | (some record, some handle) => if record.state = .closed then ∅ else handle.watchedAttachments
  | _ => ∅

variable {s : Slot} {record : SessionRecord} {handle : RuntimeSession}

theorem isOpen_iff :
    s.IsOpen ↔ ∃ record handle, s = (some record, some handle) ∧ record.state ≠ .closed := by
  obtain ⟨record, handle⟩ := s
  cases record <;> cases handle <;> simp [IsOpen]

theorem devices_of_open (h : record.state ≠ .closed) :
    devices (some record, some handle) = handle.pty.authority.getD record.attachedDevices :=
  if_neg h

theorem attachments_of_open (h : record.state ≠ .closed) :
    attachments (some record, some handle) = handle.watchedAttachments :=
  if_neg h

theorem devices_of_not_isOpen (h : ¬s.IsOpen) : s.devices = ∅ := by
  obtain ⟨record, handle⟩ := s
  cases record <;> cases handle <;> simp_all [IsOpen, devices]

theorem isOpen_of_mem_devices {device : String} (h : device ∈ s.devices) : s.IsOpen := by
  by_contra hclosed
  simp [devices_of_not_isOpen hclosed] at h

theorem attachments_of_not_isOpen (h : ¬s.IsOpen) : s.attachments = ∅ := by
  obtain ⟨record, handle⟩ := s
  cases record <;> cases handle <;> simp_all [IsOpen, attachments]

theorem isOpen_of_mem_attachments {attachment : String} (h : attachment ∈ s.attachments) :
    s.IsOpen := by
  by_contra hclosed
  simp [attachments_of_not_isOpen hclosed] at h

end Slot

namespace SessionRuntime

variable {r r' r'' : SessionRuntime} {id k device attachment : String} {record : SessionRecord}
  {handle : RuntimeSession} {answers : PtyAnswers} {size : PtySize}


/-- `role` reads the devices of an open session. -/
theorem role_of_isOpen (hopen : (r.slot id).IsOpen) :
    r.role id device {} = .ok (if device ∈ (r.slot id).devices then some .operator else none) := by
  obtain ⟨record, handle, hslot, hstate⟩ := Slot.isOpen_iff.mp hopen
  have hrecord := sessions_lookup_of_slot hslot
  have hhandle := runtimeSessions_lookup_of_slot hslot
  rw [hslot, Slot.devices_of_open hstate, role, sessionAuthorityHasDevice, runtimeSession, hhandle]
  cases hauthority : handle.pty.authority with
  | some devices =>
    simp only [Option.isSome_some, if_true, bind, Except.bind, pure, Except.pure, hauthority,
      Option.map_some, Option.getD_some, decide_eq_true_eq]
  | none =>
    simp only [Option.isSome_some, if_true, bind, Except.bind, pure, Except.pure, hauthority,
      Option.map_none, Option.getD_none]
    rw [SessionManager.role, SessionManager.session, hrecord]
    rfl

theorem state_of_isOpen (hopen : (r.slot id).IsOpen) : ∃ state, r.state id = .ok state := by
  obtain ⟨record, handle, hslot, -⟩ := Slot.isOpen_iff.mp hopen
  refine ⟨record.state, ?_⟩
  rw [SessionRuntime.state, SessionManager.state_eq_ok.mpr ⟨record, sessions_lookup_of_slot hslot, rfl⟩]
  rfl

/-! ### What a call does -/

/-- **What a call does to the sessions that are open**: which devices and which attachments each of them
has afterwards. -/
structure Effect (r r' : SessionRuntime) (devices attachments : String → Finset String) : Prop where
  isOpen : ∀ k, (r'.slot k).IsOpen ↔ (r.slot k).IsOpen
  known : ∀ k, (r.slot k).1.isSome → (r'.slot k).1.isSome
  devices : ∀ k, (r'.slot k).devices = devices k
  attachments : ∀ k, (r'.slot k).attachments = attachments k

namespace Effect

theorem refl (r : SessionRuntime) :
    Effect r r (fun k => (r.slot k).devices) fun k => (r.slot k).attachments :=
  ⟨fun _ => .rfl, fun _ h => h, fun _ => rfl, fun _ => rfl⟩

theorem congr {devices devices' attachments attachments' : String → Finset String}
    (h : Effect r r' devices attachments) (hdevices : ∀ k, devices k = devices' k)
    (hattachments : ∀ k, attachments k = attachments' k) : Effect r r' devices' attachments' :=
  ⟨h.isOpen, h.known, fun k => (h.devices k).trans (hdevices k),
    fun k => (h.attachments k).trans (hattachments k)⟩

theorem trans {devices devices' attachments attachments' : String → Finset String}
    (h : Effect r r' devices attachments) (h' : Effect r' r'' devices' attachments') :
    Effect r r'' devices' attachments' :=
  ⟨fun k => (h'.isOpen k).trans (h.isOpen k), fun k hk => h'.known k (h.known k hk), h'.devices,
    h'.attachments⟩

/-- A call that sets the record and the handle of an open session. -/
theorem of_slot {record' : SessionRecord} {handle' : RuntimeSession}
    (hslot : r.slot id = (some record, some handle)) (hopen : record.state ≠ .closed)
    (hopen' : record'.state ≠ .closed)
    (h : ∀ k, r'.slot k = if k = id then (some record', some handle') else r.slot k) :
    Effect r r'
      (fun k => if k = id then handle'.pty.authority.getD record'.attachedDevices
        else (r.slot k).devices)
      fun k => if k = id then handle'.watchedAttachments else (r.slot k).attachments where
  isOpen k := by
    rw [h]
    split_ifs with hk
    · subst hk
      rw [hslot]
      exact iff_of_true hopen' hopen
    · exact .rfl
  known k hknown := by
    rw [h]
    split_ifs
    · rfl
    · exact hknown
  devices k := by
    rw [h]
    split_ifs
    · exact Slot.devices_of_open hopen'
    · rfl
  attachments k := by
    rw [h]
    split_ifs
    · exact Slot.attachments_of_open hopen'
    · rfl

end Effect

theorem ensureOpenSession_of_not_isOpen (h : ¬(r.slot id).IsOpen) :
    ∃ error, r.ensureOpenSession id = .error error := by
  cases hensure : r.ensureOpenSession id with
  | error error => exact ⟨error, rfl⟩
  | ok handle =>
    obtain ⟨record, hslot, hopen⟩ := ensureOpenSession_eq_ok.mp hensure
    exact absurd (Slot.isOpen_iff.mpr ⟨record, handle, hslot, hopen⟩) h

variable (id device answers) in
/-- The device is attached to the session, if it is open. -/
theorem effect_attach (hattach : answers.authorityAttachDevice) :
    (((r.attach id device answers).2.toOption.isSome ↔ (r.slot id).IsOpen)) ∧
      Effect r (r.attach id device answers).1
        (fun k => if k = id ∧ (r.slot id).IsOpen then insert device (r.slot k).devices
          else (r.slot k).devices)
        fun k => (r.slot k).attachments := by
  by_cases hopen : (r.slot id).IsOpen
  · obtain ⟨record, handle, hslot, hstate⟩ := Slot.isOpen_iff.mp hopen
    have hensure := ensureOpenSession_eq_ok.mpr ⟨record, hslot, hstate⟩
    have hlookup := sessions_lookup_of_slot hslot
    have hmanager : r.sessions.attach id device = .ok (.operator, r.sessions.set id { record with
        state := if record.state = .created then .running else record.state
        attachedDevices := insert device record.attachedDevices }) := by
      rw [SessionManager.attach, SessionManager.openSession_eq_ok.mpr ⟨hlookup, hstate⟩]
      rfl
    rw [attach, hensure]
    simp only [hattach, if_true, hmanager]
    refine ⟨iff_of_true rfl hopen, ?_⟩
    refine (Effect.of_slot hslot hstate ?_ fun k => slot_update _ _ _).congr ?_ ?_
    · dsimp only
      split_ifs
      · simp
      · exact hstate
    · intro k
      by_cases hk : k = id
      · subst hk
        rw [if_pos rfl, if_pos (And.intro rfl hopen), hslot, Slot.devices_of_open hstate]
        cases hauthority : handle.pty.authority <;> simp [PtySession.attachDevice, hauthority]
      · rw [if_neg hk, if_neg fun h => hk h.1]
    · intro k
      by_cases hk : k = id
      · subst hk
        rw [if_pos rfl, hslot, Slot.attachments_of_open hstate]
      · rw [if_neg hk]
  · obtain ⟨error, hensure⟩ := ensureOpenSession_of_not_isOpen hopen
    rw [attach, hensure]
    refine ⟨iff_of_false (by simp [Except.toOption]) hopen, (Effect.refl r).congr ?_ fun _ => rfl⟩
    intro k
    rw [if_neg fun h => hopen h.2]

/-- The end of `detach`. -/
theorem effect_detachLocal {detached : RuntimeSession} {byAuthority : Bool}
    (hslot : r.slot id = (some record, some handle)) (hopen : record.state ≠ .closed)
    (hattachments : detached.watchedAttachments = handle.watchedAttachments)
    (hauthority : detached.pty.authority = handle.pty.authority.map (·.erase device)) :
    Effect r (r.detachLocal id device detached byAuthority).1
      (fun k => if k = id then (r.slot k).devices.erase device else (r.slot k).devices)
      fun k => (r.slot k).attachments := by
  have hlookup := sessions_lookup_of_slot hslot
  have hmanager := SessionManager.openSession_eq_ok.mpr ⟨hlookup, hopen⟩
  have hkeep : ∀ k, (if k = id then handle.watchedAttachments else (r.slot k).attachments) =
      (r.slot k).attachments := by
    intro k
    split_ifs with hk
    · subst hk
      rw [hslot, Slot.attachments_of_open hopen]
    · rfl
  rw [detachLocal, SessionManager.detach, hmanager]
  simp only [bind, Except.bind]
  by_cases hmem : device ∈ record.attachedDevices
  · simp only [if_pos hmem]
    refine (Effect.of_slot hslot hopen ?_ fun k => slot_update _ _ _).congr ?_ ?_
    · exact hopen
    · intro k
      split_ifs with hk
      · subst hk
        rw [hslot, Slot.devices_of_open hopen]
        cases hdevices : handle.pty.authority <;> simp [hauthority, hdevices]
      · rfl
    · intro k
      dsimp only
      rw [hattachments]
      exact hkeep k
  · simp only [if_neg hmem]
    -- the device is not in the session manager, so that nothing but the handle changes
    have hdevices : ∀ k, (if k = id then detached.pty.authority.getD record.attachedDevices
        else (r.slot k).devices) =
          if k = id then (r.slot k).devices.erase device else (r.slot k).devices := by
      intro k
      split_ifs with hk
      · subst hk
        rw [hslot, Slot.devices_of_open hopen]
        cases hdevices : handle.pty.authority <;> simp [hauthority, hdevices, hmem]
      · rfl
    have hset : ∀ handle', ∀ k, (r.setRuntimeSession id handle').slot k =
        if k = id then (some record, some handle') else r.slot k := by
      intro handle' k
      rw [slot_setRuntimeSession]
      split_ifs with hk
      · subst hk
        rw [hslot]
      · rfl
    split_ifs
    · refine (Effect.of_slot hslot hopen hopen (hset _)).congr hdevices fun k => ?_
      dsimp only
      rw [hattachments]
      exact hkeep k
    · refine (Effect.of_slot hslot hopen hopen (hset _)).congr hdevices fun k => ?_
      rw [hattachments]
      exact hkeep k

/-- The device is detached from the session, if the PTY answers. -/
theorem effect_detach (hhas : answers.authorityHasDevice) (hdetach : answers.authorityDetachDevice) :
    Effect r (r.detach id device answers).1
      (fun k => if k = id then (r.slot k).devices.erase device else (r.slot k).devices)
      fun k => (r.slot k).attachments := by
  by_cases hopen : (r.slot id).IsOpen
  · obtain ⟨record, handle, hslot, hstate⟩ := Slot.isOpen_iff.mp hopen
    have hensure := ensureOpenSession_eq_ok.mpr ⟨record, hslot, hstate⟩
    have hhandle := runtimeSessions_lookup_of_slot hslot
    rw [detach, hensure, sessionAuthorityHasDevice, runtimeSession, hhandle]
    simp only [bind, Except.bind, pure, Except.pure, hhas, if_true]
    cases hauthority : handle.pty.authority with
    | none =>
      simp only [Option.map_none]
      exact effect_detachLocal hslot hstate rfl (by simp [hauthority])
    | some devices =>
      by_cases hmem : device ∈ devices
      · simp only [Option.map_some, hmem, decide_true, hdetach, if_true]
        exact effect_detachLocal hslot hstate rfl (by simp [PtySession.detachDevice])
      · simp only [Option.map_some, hmem, decide_false]
        refine effect_detachLocal hslot hstate rfl ?_
        rw [hauthority, Option.map_some, Finset.erase_eq_of_notMem hmem]
  · obtain ⟨error, hensure⟩ := ensureOpenSession_of_not_isOpen hopen
    rw [detach, hensure]
    refine (Effect.refl r).congr (fun k => ?_) fun _ => rfl
    split_ifs with hk
    · subst hk
      rw [Slot.devices_of_not_isOpen hopen, Finset.erase_empty]
    · rfl

/-- A watched attachment is dropped, also when the PTY fails. -/
theorem effect_dropWatchedAttachment :
    Effect r (r.dropWatchedAttachment id attachment answers).1 (fun k => (r.slot k).devices)
      fun k => if k = id then (r.slot k).attachments.erase attachment
        else (r.slot k).attachments := by
  by_cases hopen : (r.slot id).IsOpen
  · obtain ⟨record, handle, hslot, hstate⟩ := Slot.isOpen_iff.mp hopen
    have hensure := ensureOpenSession_eq_ok.mpr ⟨record, hslot, hstate⟩
    rw [dropWatchedAttachment, hensure]
    by_cases hmem : attachment ∈ handle.watchedAttachments
    · simp only [hmem, if_true]
      have hset : ∀ handle' k, (r.setRuntimeSession id handle').slot k =
          if k = id then (some record, some handle') else r.slot k := by
        intro handle' k
        rw [slot_setRuntimeSession]
        split_ifs with hk
        · subst hk
          rw [hslot]
        · rfl
      refine (Effect.of_slot hslot hstate hstate (hset _)).congr ?_ ?_
      · intro k
        split_ifs with hk
        · subst hk
          rw [hslot, Slot.devices_of_open hstate]
        · rfl
      · intro k
        split_ifs with hk
        · subst hk
          rw [hslot, Slot.attachments_of_open hstate]
        · rfl
    · simp only [hmem, if_false]
      refine (Effect.refl r).congr (fun _ => rfl) fun k => ?_
      split_ifs with hk
      · subst hk
        rw [hslot, Slot.attachments_of_open hstate, Finset.erase_eq_of_notMem hmem]
      · rfl
  · obtain ⟨error, hensure⟩ := ensureOpenSession_of_not_isOpen hopen
    rw [dropWatchedAttachment, hensure]
    refine (Effect.refl r).congr (fun _ => rfl) fun k => ?_
    split_ifs with hk
    · subst hk
      rw [Finset.erase_eq_of_notMem]
      intro hmem
      exact hopen (Slot.isOpen_of_mem_attachments hmem)
    · rfl

/-! ### A handle is taken in, or given up -/

/-- The handle of a session is given up. -/
theorem slot_takeForCleanup (k : String) : (r.takeForCleanup id).1.slot k =
    if k = id then Slot.removed (r.slot k) else r.slot k :=
  slot_remove k

theorem Slot.not_isOpen_removed (s : Slot) : ¬(Slot.removed s).IsOpen := by
  obtain ⟨record, handle⟩ := s
  cases record <;> cases handle <;> simp [Slot.removed, Slot.IsOpen]

theorem Slot.known_removed {s : Slot} (h : s.1.isSome) : (Slot.removed s).1.isSome := by
  obtain ⟨record, handle⟩ := s
  cases record <;> cases handle <;> simp_all [Slot.removed]

/-- A session that is published is known, whether or not the call returns, and the others are left
alone. -/
theorem slot_publishOwnedSession_of_ne {pty : PtySession} (hk : k ≠ id) :
    (r.publishOwnedSession id pty size).1.slot k = r.slot k := by
  rw [publishOwnedSession]
  split_ifs
  · rfl
  · cases hcreate : r.sessions.createSession id with
    | error => rfl
    | ok created =>
      obtain ⟨-, rfl⟩ := SessionManager.createSession_eq_ok.mp hcreate
      have hrecord : ∀ record, ({ r with sessions := r.sessions.set id record } :
          SessionRuntime).slot k = r.slot k := by
        intro record
        rw [slot_setRecord, if_neg hk]
      dsimp only
      cases hresize : (r.sessions.set id {}).resize id size with
      | error => exact hrecord {}
      | ok sessions =>
        obtain ⟨record, -, -, rfl⟩ := SessionManager.resize_eq_ok hresize
        dsimp only
        rw [slot_setRuntimeSession, if_neg hk]
        simp [slot, hk, AList.lookup_insert_ne]

/-! ### The slot that a call touches -/

variable {devices devices' attachments attachments' : Finset String}

theorem slot_attach_of_ne (hk : k ≠ id) (hattach : answers.authorityAttachDevice) :
    (r.attach id device answers).1.slot k = r.slot k := by
  rw [attach]
  cases r.ensureOpenSession id with
  | error => rfl
  | ok handle =>
    dsimp only
    rw [if_pos hattach]
    cases hmanager : r.sessions.attach id device with
    | error => exact slot_setRuntimeSession.trans (if_neg hk)
    | ok result =>
      obtain ⟨role, sessions⟩ := result
      obtain ⟨record, -, -, rfl⟩ := SessionManager.attach_eq_ok hmanager
      exact (slot_update _ _ _).trans (if_neg hk)

theorem slot_detachLocal_of_ne {byAuthority : Bool} (hk : k ≠ id) :
    (r.detachLocal id device handle byAuthority).1.slot k = r.slot k := by
  rw [detachLocal]
  cases hmanager : r.sessions.detach id device with
  | error =>
    dsimp only
    split_ifs
    · exact slot_setRuntimeSession.trans (if_neg hk)
    · exact slot_setRuntimeSession.trans (if_neg hk)
  | ok sessions =>
    obtain ⟨record, -, -, -, rfl⟩ := SessionManager.detach_eq_ok hmanager
    exact (slot_update _ _ _).trans (if_neg hk)

theorem slot_detach_of_ne (hk : k ≠ id) : (r.detach id device answers).1.slot k = r.slot k := by
  rw [detach]
  cases r.ensureOpenSession id with
  | error => rfl
  | ok handle =>
    cases r.sessionAuthorityHasDevice id device answers with
    | error => rfl
    | ok attached =>
      rcases attached with _ | _ | _
      · exact slot_detachLocal_of_ne hk
      · exact slot_detachLocal_of_ne hk
      · dsimp only
        split_ifs
        · exact slot_detachLocal_of_ne hk
        · rfl

theorem slot_dropWatchedAttachment_of_ne (hk : k ≠ id) :
    (r.dropWatchedAttachment id attachment answers).1.slot k = r.slot k := by
  rw [dropWatchedAttachment]
  cases r.ensureOpenSession id with
  | error => rfl
  | ok handle =>
    dsimp only
    split_ifs
    · exact slot_setRuntimeSession.trans (if_neg hk)
    · exact slot_setRuntimeSession.trans (if_neg hk)
    · rfl

/-- **One open session is touched**: it is open afterwards, with those devices and attachments. -/
structure Touches (r r' : SessionRuntime) (id : String) (devices attachments : Finset String) :
    Prop where
  elsewhere : ∀ k, k ≠ id → r'.slot k = r.slot k
  isOpen : (r'.slot id).IsOpen
  devices : (r'.slot id).devices = devices
  attachments : (r'.slot id).attachments = attachments

namespace Touches

theorem refl (hopen : (r.slot id).IsOpen) :
    Touches r r id (r.slot id).devices (r.slot id).attachments where
  elsewhere _ _ := rfl
  isOpen := hopen
  devices := rfl
  attachments := rfl

theorem trans (h : Touches r r' id devices attachments)
    (h' : Touches r' r'' id devices' attachments') : Touches r r'' id devices' attachments' where
  elsewhere k hk := (h'.elsewhere k hk).trans (h.elsewhere k hk)
  isOpen := h'.isOpen
  devices := h'.devices
  attachments := h'.attachments

/-- What a call does is known of all open sessions. -/
theorem of_effect {f g : String → Finset String} (h : Effect r r' f g)
    (helsewhere : ∀ k, k ≠ id → r'.slot k = r.slot k) (hopen : (r.slot id).IsOpen) :
    Touches r r' id (f id) (g id) where
  elsewhere := helsewhere
  isOpen := (h.isOpen id).mpr hopen
  devices := h.devices id
  attachments := h.attachments id

theorem known (h : Touches r r' id devices attachments) (k : String) (hk : (r.slot k).1.isSome) :
    (r'.slot k).1.isSome := by
  by_cases hid : k = id
  · obtain ⟨record, handle, hslot, -⟩ := Slot.isOpen_iff.mp h.isOpen
    rw [hid, hslot]
    rfl
  · rwa [h.elsewhere k hid]

theorem attach (h : Touches r r' id devices attachments) (device : String) (answers : PtyAnswers)
    (hattach : answers.authorityAttachDevice) :
    Touches r (r'.attach id device answers).1 id (insert device devices) attachments := by
  have heffect := (effect_attach id device answers hattach (r := r')).2
  have hattached := of_effect heffect (fun k hk => slot_attach_of_ne hk hattach) h.isOpen
  rw [if_pos ⟨rfl, h.isOpen⟩, h.devices, h.attachments] at hattached
  exact h.trans hattached

theorem detach (h : Touches r r' id devices attachments) (device : String)
    (hhas : answers.authorityHasDevice) (hdetach : answers.authorityDetachDevice) :
    Touches r (r'.detach id device answers).1 id (devices.erase device) attachments := by
  have heffect : Effect r' (r'.detach id device answers).1 _ _ := effect_detach hhas hdetach
  have hdetached := of_effect heffect (fun k hk => slot_detach_of_ne hk) h.isOpen
  rw [if_pos rfl, h.devices, h.attachments] at hdetached
  exact h.trans hdetached

theorem dropWatchedAttachment (h : Touches r r' id devices attachments) (attachment : String)
    (answers : PtyAnswers) : Touches r (r'.dropWatchedAttachment id attachment answers).1 id devices
      (attachments.erase attachment) := by
  have heffect : Effect r' (r'.dropWatchedAttachment id attachment answers).1 _ _ :=
    effect_dropWatchedAttachment
  have hdropped := of_effect heffect (fun k hk => slot_dropWatchedAttachment_of_ne hk) h.isOpen
  rw [if_pos rfl, h.devices, h.attachments] at hdropped
  exact h.trans hdropped

/-- An attachment is started, or nothing is done. -/
theorem startWatchedAttachment (h : Touches r r' id devices attachments) (attachment : String)
    (size : PtySize) (answers : PtyAnswers) :
    match r'.startWatchedAttachment id attachment size answers with
    | (started, .ok ()) => Touches r started id devices (insert attachment attachments)
    | (started, .error _) => started = r' := by
  obtain ⟨record, handle, hslot, hstate⟩ := Slot.isOpen_iff.mp h.isOpen
  have hattachments : handle.watchedAttachments = attachments := by
    rw [← Slot.attachments_of_open hstate, ← hslot, h.attachments]
  have hdevices : handle.pty.authority.getD record.attachedDevices = devices := by
    rw [← Slot.devices_of_open hstate, ← hslot, h.devices]
  rw [SessionRuntime.startWatchedAttachment, ensureOpenSession_eq_ok.mpr ⟨record, hslot, hstate⟩]
  dsimp only
  by_cases hmem : attachment ∈ handle.watchedAttachments
  · rw [if_pos hmem]
    rw [← hattachments, Finset.insert_eq_of_mem hmem, hattachments]
    exact h
  · rw [if_neg hmem]
    split_ifs
    · rfl
    · refine h.trans
        { elsewhere := fun k hk => slot_setRuntimeSession.trans (if_neg hk)
          isOpen := ?_
          devices := ?_
          attachments := ?_ }
      · rw [slot_setRuntimeSession, if_pos rfl, hslot]
        exact hstate
      · rw [slot_setRuntimeSession, if_pos rfl, hslot]
        exact (Slot.devices_of_open hstate).trans hdevices
      · rw [slot_setRuntimeSession, if_pos rfl, hslot, ← hattachments]
        exact Slot.attachments_of_open hstate
    · rfl

end Touches

end SessionRuntime

/-! ### A connection is closed -/

namespace DaemonProtocol

variable {p p' : DaemonProtocol} {c : ProtocolConnection} {session device : String}
  {answers : PtyAnswers} {persisted : Bool}

/-- The id of a runtime session is the text of the id of the session. -/
def Internal (p : DaemonProtocol) : Prop :=
  ∀ session internalId, p.maps.sessionIndex.lookup session = some internalId → internalId = session

def Visible (p : DaemonProtocol) (session : String) : Prop :=
  (p.maps.sessionIndex.lookup session).isSome

instance (p : DaemonProtocol) (session : String) : Decidable (p.Visible session) := by
  unfold Visible
  infer_instance

/-- The maps but for the runtime are left alone. -/
structure OnlyRuntime (p p' : DaemonProtocol) : Prop where
  sessionIndex : p'.maps.sessionIndex = p.maps.sessionIndex
  sessionRoots : p'.maps.sessionRoots = p.maps.sessionRoots
  daemonClients : p'.daemonClients = p.daemonClients
  clientHistory : p'.clientHistory = p.clientHistory

namespace OnlyRuntime

theorem refl (p : DaemonProtocol) : OnlyRuntime p p := ⟨rfl, rfl, rfl, rfl⟩

theorem setRuntime (runtime : SessionRuntime) : OnlyRuntime p (p.setRuntime runtime) :=
  ⟨rfl, rfl, rfl, rfl⟩

theorem trans {p'' : DaemonProtocol} (h : OnlyRuntime p p') (h' : OnlyRuntime p' p'') :
    OnlyRuntime p p'' :=
  ⟨h'.sessionIndex.trans h.sessionIndex, h'.sessionRoots.trans h.sessionRoots,
    h'.daemonClients.trans h.daemonClients, h'.clientHistory.trans h.clientHistory⟩

theorem visible (h : OnlyRuntime p p') : p'.Visible session ↔ p.Visible session := by
  rw [Visible, h.sessionIndex, Visible]

theorem internal (h : OnlyRuntime p p') (hinternal : p.Internal) : p'.Internal := by
  intro session internalId hlookup
  rw [h.sessionIndex] at hlookup
  exact hinternal session internalId hlookup

end OnlyRuntime

open SessionRuntime (Effect)

variable (session answers) in
theorem onlyRuntime_releaseWatchedAttachment (attachment : String) :
    OnlyRuntime p (p.releaseWatchedAttachment session attachment answers) := by
  rw [releaseWatchedAttachment]
  split
  · exact .refl p
  · exact .setRuntime _

variable (session answers) in
theorem effect_releaseWatchedAttachment (attachment : String) (hinternal : p.Internal) :
    Effect p.maps.runtime (p.releaseWatchedAttachment session attachment answers).maps.runtime
      (fun k => (p.maps.runtime.slot k).devices)
      fun k => if k = session ∧ p.Visible session then
        (p.maps.runtime.slot k).attachments.erase attachment
      else (p.maps.runtime.slot k).attachments := by
  rw [releaseWatchedAttachment]
  cases hlookup : p.maps.sessionIndex.lookup session with
  | none =>
    refine (Effect.refl _).congr (fun _ => rfl) fun k => ?_
    rw [if_neg]
    rintro ⟨-, hvisible⟩
    simp [Visible, hlookup] at hvisible
  | some internalId =>
    obtain rfl := hinternal session internalId hlookup
    refine (SessionRuntime.effect_dropWatchedAttachment).congr (fun _ => rfl) fun k => ?_
    have hvisible : p.Visible internalId := by simp [Visible, hlookup]
    simp only [hvisible, and_true]

variable (answers) in
/-- The attachments of a connection are released. -/
theorem effect_releaseWatchedAttachments (watched : List (String × String))
    (hinternal : p.Internal) :
    OnlyRuntime p (p.releaseWatchedAttachments watched answers) ∧
      Effect p.maps.runtime (p.releaseWatchedAttachments watched answers).maps.runtime
        (fun k => (p.maps.runtime.slot k).devices)
        fun k => (p.maps.runtime.slot k).attachments.filter fun attachment =>
          (k, attachment) ∉ watched ∨ ¬p.Visible k := by
  induction watched generalizing p with
  | nil => exact ⟨.refl p, (Effect.refl _).congr (fun _ => rfl) fun k => by simp⟩
  | cons entry watched ih =>
    obtain ⟨session, attachment⟩ := entry
    have honly := onlyRuntime_releaseWatchedAttachment session answers attachment (p := p)
    have heffect := effect_releaseWatchedAttachment session answers attachment hinternal
    obtain ⟨honly', heffect'⟩ := ih (honly.internal hinternal)
    refine ⟨honly.trans honly', (heffect.trans heffect').congr heffect.devices fun k => ?_⟩
    rw [heffect.attachments]
    ext a
    simp only [honly.visible]
    by_cases hk : k = session
    · subst hk
      by_cases hvisible : p.Visible k
      · simp [hvisible]
        tauto
      · simp [hvisible]
    · simp [hk]

variable (session device answers) in
theorem onlyRuntime_detachDevice : OnlyRuntime p (p.detachDevice device session answers) := by
  rw [detachDevice]
  split
  · exact .refl p
  · exact .setRuntime _

variable (session device) in
theorem effect_detachDevice (hinternal : p.Internal) (hhas : answers.authorityHasDevice)
    (hdetach : answers.authorityDetachDevice) :
    Effect p.maps.runtime (p.detachDevice device session answers).maps.runtime
      (fun k => if k = session ∧ p.Visible session then
          (p.maps.runtime.slot k).devices.erase device
        else (p.maps.runtime.slot k).devices)
      fun k => (p.maps.runtime.slot k).attachments := by
  rw [detachDevice]
  cases hlookup : p.maps.sessionIndex.lookup session with
  | none =>
    refine (Effect.refl _).congr (fun k => ?_) fun _ => rfl
    rw [if_neg]
    rintro ⟨-, hvisible⟩
    simp [Visible, hlookup] at hvisible
  | some internalId =>
    obtain rfl := hinternal session internalId hlookup
    refine (SessionRuntime.effect_detach hhas hdetach).congr (fun k => ?_) fun _ => rfl
    have hvisible : p.Visible internalId := by simp [Visible, hlookup]
    simp only [hvisible, and_true]

variable (device) in
/-- The device is detached from those of the sessions that are not to stay. -/
theorem effect_detachDevices (sessions remaining : List String) (hinternal : p.Internal)
    (hhas : answers.authorityHasDevice) (hdetach : answers.authorityDetachDevice) :
    let p' := sessions.foldl (fun p session =>
      if session ∈ remaining then p else p.detachDevice device session answers) p
    OnlyRuntime p p' ∧ Effect p.maps.runtime p'.maps.runtime
      (fun k => (p.maps.runtime.slot k).devices.filter fun e =>
        ¬(e = device ∧ k ∈ sessions ∧ k ∉ remaining ∧ p.Visible k))
      fun k => (p.maps.runtime.slot k).attachments := by
  induction sessions generalizing p with
  | nil => exact ⟨.refl p, (Effect.refl _).congr (fun k => by simp) fun _ => rfl⟩
  | cons session sessions ih =>
    rw [List.foldl_cons]
    by_cases hremaining : session ∈ remaining
    · rw [if_pos hremaining]
      obtain ⟨honly, heffect⟩ := ih hinternal
      refine ⟨honly, heffect.congr (fun k => ?_) fun _ => rfl⟩
      refine Finset.filter_congr fun e _ => ?_
      have hk : k ∈ session :: sessions ∧ k ∉ remaining ↔ k ∈ sessions ∧ k ∉ remaining := by
        constructor
        · rintro ⟨hmem, hnot⟩
          refine ⟨(List.mem_cons.mp hmem).resolve_left ?_, hnot⟩
          rintro rfl
          exact hnot hremaining
        · rintro ⟨hmem, hnot⟩
          exact ⟨List.mem_cons_of_mem _ hmem, hnot⟩
      tauto
    · rw [if_neg hremaining]
      have honly := onlyRuntime_detachDevice session device answers (p := p)
      have heffect := effect_detachDevice session device hinternal hhas
        hdetach
      obtain ⟨honly', heffect'⟩ := ih (honly.internal hinternal)
      refine ⟨honly.trans honly', (heffect.trans heffect').congr (fun k => ?_) heffect.attachments⟩
      rw [heffect.devices]
      ext e
      simp only [honly.visible]
      by_cases hk : k = session
      · subst hk
        by_cases hvisible : p.Visible k
        · simp [hvisible, hremaining]
          tauto
        · simp [hvisible]
      · simp [hk]

/-- The records when a connection of a device has gone. -/
def clientsWithout (clients : Table String DaemonClientRecord) (device client : String)
    (persisted : Bool) : Table String DaemonClientRecord :=
  match clients.lookup device with
  | none => clients
  | some record =>
    let activeConnections := record.activeConnections.erase client
    let online := !activeConnections.entries.isEmpty
    if persisted ∧ !online then clients.erase device
    else clients.insert device { online, activeConnections }

theorem markDaemonClientConnectionOffline_eq {client : String} :
    p.markDaemonClientConnectionOffline device client persisted = { p with
      daemonClients := clientsWithout p.daemonClients device client persisted
      clientHistory := if persisted then p.clientHistory.recordDisconnect device
        else p.clientHistory } := by
  rw [markDaemonClientConnectionOffline, clientsWithout]
  cases persisted with
  | true =>
    cases hlookup : p.daemonClients.lookup device with
    | none => simp [hlookup]
    | some record =>
      simp only [if_true, hlookup, true_and]
      split_ifs <;> rfl
  | false =>
    cases hlookup : p.daemonClients.lookup device with
    | none => simp [hlookup]
    | some record => simp [hlookup]

theorem maps_markDaemonClientConnectionOffline {client : String} :
    (p.markDaemonClientConnectionOffline device client persisted).maps = p.maps := by
  rw [markDaemonClientConnectionOffline_eq]

/-- The runtime plays no part in the record of a device. -/
theorem OnlyRuntime.markOffline {client : String} (h : OnlyRuntime p p') :
    OnlyRuntime (p.markDaemonClientConnectionOffline device client persisted)
      (p'.markDaemonClientConnectionOffline device client persisted) := by
  rw [markDaemonClientConnectionOffline_eq, markDaemonClientConnectionOffline_eq, h.daemonClients,
    h.clientHistory]
  exact ⟨h.sessionIndex, h.sessionRoots, rfl, rfl⟩

variable (c answers persisted) in
/-- **A connection is closed**: its attachments are dropped, its device is detached from the sessions
that no other connection of it holds, and the record of the device goes on without it. -/
theorem detachConnection_spec (hinternal : p.Internal) (hhas : answers.authorityHasDevice)
    (hdetach : answers.authorityDetachDevice) :
    OnlyRuntime (if c.trackDaemonClientHistory then
        p.markDaemonClientConnectionOffline c.deviceId c.clientId persisted else p)
      (p.detachConnection c answers persisted) ∧
    Effect p.maps.runtime (p.detachConnection c answers persisted).maps.runtime
      (fun k => (p.maps.runtime.slot k).devices.filter fun e =>
        ¬(e = c.deviceId ∧ k ∈ c.attachedSessions ∧
          p.daemonClientHasActiveSession c.deviceId k c.clientId = false ∧ p.Visible k))
      fun k => (p.maps.runtime.slot k).attachments.filter fun attachment =>
        c.watchedAttachmentIds.lookup k ≠ some attachment ∨ ¬p.Visible k := by
  obtain ⟨hreleased, heffect⟩ := effect_releaseWatchedAttachments answers
    (c.watchedAttachmentIds.select fun session attachment => some (session, attachment))
    hinternal
  rw [detachConnection]
  set released := p.releaseWatchedAttachments
    (c.watchedAttachmentIds.select fun session attachment => some (session, attachment)) answers
  -- the record of the device
  have hmarked : OnlyRuntime
      (if c.trackDaemonClientHistory then
        p.markDaemonClientConnectionOffline c.deviceId c.clientId persisted else p)
      (if c.trackDaemonClientHistory then
        released.markDaemonClientConnectionOffline c.deviceId c.clientId persisted else released) := by
    split_ifs
    · exact hreleased.markOffline
    · exact hreleased
  have hmaps : (if c.trackDaemonClientHistory then
      released.markDaemonClientConnectionOffline c.deviceId c.clientId persisted
        else released).maps = released.maps := by
    split_ifs
    · exact maps_markDaemonClientConnectionOffline
    · rfl
  set marked := if c.trackDaemonClientHistory then
      released.markDaemonClientConnectionOffline c.deviceId c.clientId persisted else released
  have hinternal' : marked.Internal := by
    rw [Internal, hmaps]
    exact hreleased.internal hinternal
  have hvisible : ∀ k, marked.Visible k ↔ p.Visible k := by
    intro k
    rw [Visible, hmaps]
    exact hreleased.visible
  obtain ⟨hdetached, heffect'⟩ := effect_detachDevices c.deviceId c.attachedSessions
    (c.attachedSessions.filter fun session =>
      p.daemonClientHasActiveSession c.deviceId session c.clientId) hinternal' hhas hdetach
  rw [hmaps] at heffect'
  refine ⟨hmarked.trans hdetached, (heffect.trans heffect').congr (fun k => ?_) fun k => ?_⟩
  · rw [heffect.devices]
    refine Finset.filter_congr fun e _ => ?_
    simp only [hvisible, List.mem_filter]
    by_cases hmem : k ∈ c.attachedSessions <;> simp [hmem]
  · rw [heffect.attachments]
    refine Finset.filter_congr fun a _ => ?_
    have hmem : (k, a) ∈ (c.watchedAttachmentIds.select fun session attachment =>
        some (session, attachment)) ↔ c.watchedAttachmentIds.lookup k = some a := by
      rw [Table.mem_select]
      constructor
      · rintro ⟨session, attachment, hlookup, heq⟩
        obtain ⟨rfl, rfl⟩ := Prod.mk.inj (Option.some.inj heq)
        exact hlookup
      · intro hlookup
        exact ⟨k, a, hlookup, rfl⟩
    rw [hmem]

end DaemonProtocol

end Termd.Daemon
