import Termd.Daemon.Requests

/-!
# Visible sessions and their handles

A session is in three maps of the daemon: in the index that clients see, in the session manager, and
among the handles of the runtime. Each kind of request changes them in its own order, and between two
requests they agree, unless a request has left one of them behind. This happens in four places: when
the daemon drops a session from the index because its row is gone, the handle stays; when it has waited
too long for a session to be cleaned up, the handle is gone and the session is still in the index; when
a session that was reconnected turns out not to be running, the handle stays; and when a session is
created without rows or columns, a panic leaves an open record without a handle.

## Main definitions

* `Agree m pending leaving`: the maps agree, but for the handles that are not in the index yet and the
  session that is not out of it yet
* `DaemonRun.Careful`: the four places
* `DaemonRun.Agrees`: the maps agree

## Main results

* `DaemonRun.agrees_of_careful`: the maps agree between requests, in the runs that avoid the four places
* `DaemonRun.not_agrees_of_list`: a session that exits by itself leaves its handle behind
-/

namespace Termd.Daemon

open Ownership (SessionState SessionStateRecord PtyRestoreInfo RuntimeRow Tables SessionOwnership
  OwnershipOp DaemonPhase)
open Pty (PtySize)

/-- **The maps agree**, but for the handles of the sessions `pending`, which are not in the index, and
the session `leaving`, which is in the index and has no handle. -/
structure Agree (m : SessionMaps) (pending : List String) (leaving : Option String) : Prop where
  handles : ∀ id, (m.runtime.slot id).2.isSome ↔
    (m.sessionIndex.lookup id).isSome ∧ leaving ≠ some id ∨ id ∈ pending
  apart : ∀ id ∈ pending, m.sessionIndex.lookup id = none
  leaves : ∀ id, leaving = some id → (m.sessionIndex.lookup id).isSome
  internal : ∀ id internalId, m.sessionIndex.lookup id = some internalId → internalId = id
  rooted : ∀ id, (m.sessionIndex.lookup id).isSome → (m.sessionRoots.lookup id).isSome
  sound : ∀ id, (m.runtime.slot id).Sound
  nodup : pending.Nodup

namespace Agree

variable {m : SessionMaps} {runtime : SessionRuntime} {pending : List String}
  {leaving : Option String} {id root : String}

theorem empty : Agree {} [] none where
  handles id := by simp [SessionRuntime.slot]
  apart := by simp
  leaves := by simp
  internal := by simp
  rooted := by simp
  sound id := trivial
  nodup := .nil

/-- A call on a handle. -/
theorem kept (h : Agree m pending leaving)
    (hkept : ∀ k, Kept (m.runtime.slot k) (runtime.slot k)) :
    Agree { m with runtime } pending leaving where
  handles k := by
    rw [(hkept k).isSome_handle]
    exact h.handles k
  apart := h.apart
  leaves := h.leaves
  internal := h.internal
  rooted := h.rooted
  sound k := (hkept k).sound (h.sound k)
  nodup := h.nodup

/-- A session whose handle is pending becomes visible. -/
theorem register (h : Agree m (id :: pending) none) : Agree (m.register id root) pending none where
  handles k := by
    have hhandle := h.handles k
    rw [SessionMaps.lookup_register]
    by_cases hk : k = id
    · subst hk
      simpa using hhandle
    · simpa [hk] using hhandle
  apart k hk := by
    rw [SessionMaps.lookup_register, if_neg]
    · exact h.apart k (List.mem_cons_of_mem _ hk)
    · rintro rfl
      exact (List.nodup_cons.mp h.nodup).1 hk
  leaves := by simp
  internal := SessionMaps.internal_register h.internal
  rooted k hlookup := by
    rw [SessionMaps.lookup_register] at hlookup
    by_cases hk : k = id
    · subst hk
      simp [SessionMaps.register]
    · rw [if_neg hk] at hlookup
      simpa [SessionMaps.register, AList.lookup_insert_ne hk] using h.rooted k hlookup
  sound := h.sound
  nodup := h.nodup.of_cons

/-- A handle is taken in. -/
theorem takeIn (h : Agree m pending leaving) (hnew : (m.runtime.slot id).2 = none)
    {record : SessionRecord} {handle : RuntimeSession} (hopen : record.state ≠ .closed)
    (hslot : ∀ k, runtime.slot k = if k = id then (some record, some handle) else m.runtime.slot k)
    (hindex : m.sessionIndex.lookup id = none) {pending' : List String}
    (hpending : pending'.Perm (id :: pending)) : Agree { m with runtime } pending' leaving where
  handles k := by
    have hhandle := h.handles k
    rw [hslot, hpending.mem_iff]
    by_cases hk : k = id
    · subst hk
      simp
    · simpa [hk] using hhandle
  apart k hk := by
    obtain rfl | hk := List.mem_cons.mp (hpending.mem_iff.mp hk)
    · exact hindex
    · exact h.apart k hk
  leaves := h.leaves
  internal := h.internal
  rooted := h.rooted
  sound k := by
    rw [hslot]
    by_cases hk : k = id
    · rw [if_pos hk]
      intro hclosed
      exact absurd hclosed hopen
    · rw [if_neg hk]
      exact h.sound k
  nodup := by
    refine hpending.nodup_iff.mpr (List.nodup_cons.mpr ⟨fun hid => ?_, h.nodup⟩)
    have hhandle := (h.handles id).mpr (.inr hid)
    simp [hnew] at hhandle

/-- A pending handle is given up. -/
theorem drop (h : Agree m (id :: pending) leaving) :
    Agree { m with runtime := (m.runtime.takeForCleanup id).1 } pending leaving where
  handles k := by
    have hhandle := h.handles k
    rw [SessionRuntime.takeForCleanup, SessionRuntime.slot_remove]
    by_cases hk : k = id
    · subst hk
      have hmem := (List.nodup_cons.mp h.nodup).1
      have hindex := h.apart k List.mem_cons_self
      simp [SessionRuntime.Slot.removed_handle, hindex, hmem]
    · simpa [hk] using hhandle
  apart k hk := h.apart k (List.mem_cons_of_mem _ hk)
  leaves := h.leaves
  internal := h.internal
  rooted := h.rooted
  sound k := by
    rw [SessionRuntime.takeForCleanup, SessionRuntime.slot_remove]
    split_ifs
    · exact SessionRuntime.Slot.removed_sound (h.sound k)
    · exact h.sound k
  nodup := h.nodup.of_cons

/-- There is no handle that could be given up. -/
theorem drop_none (h : Agree m pending leaving) (hnone : (m.runtime.slot id).2 = none) :
    Agree { m with runtime := (m.runtime.takeForCleanup id).1 } pending leaving := by
  refine h.kept fun k => ?_
  rw [SessionRuntime.takeForCleanup, SessionRuntime.slot_remove]
  split_ifs with hk
  · subst hk
    rw [SessionRuntime.Slot.removed, hnone]
    exact .refl _
  · exact .refl _

/-- A session is closed: its handle is given up first. -/
theorem leave (h : Agree m [] none) (hindex : (m.sessionIndex.lookup id).isSome) :
    Agree { m with runtime := (m.runtime.takeForCleanup id).1 } [] (some id) where
  handles k := by
    have hhandle := h.handles k
    rw [SessionRuntime.takeForCleanup, SessionRuntime.slot_remove]
    by_cases hk : k = id
    · subst hk
      simp [SessionRuntime.Slot.removed_handle]
    · have hne : id ≠ k := fun hid => hk hid.symm
      simpa [hk, hne] using hhandle
  apart := by simp
  leaves k hk := by
    obtain rfl := Option.some.inj hk
    exact hindex
  internal := h.internal
  rooted := h.rooted
  sound k := by
    rw [SessionRuntime.takeForCleanup, SessionRuntime.slot_remove]
    split_ifs
    · exact SessionRuntime.Slot.removed_sound (h.sound k)
    · exact h.sound k
  nodup := .nil

/-- A session is closed: it is dropped from the index in the end. -/
theorem left (h : Agree m [] (some id)) : Agree (m.closeVisibleSessionState id) [] none where
  handles k := by
    have hhandle := h.handles k
    rw [SessionMaps.lookup_closeVisible]
    by_cases hk : k = id
    · subst hk
      simpa using hhandle
    · have hne : id ≠ k := fun hid => hk hid.symm
      simpa [hk, hne] using hhandle
  apart := by simp
  leaves := by simp
  internal k internalId hlookup := by
    rw [SessionMaps.lookup_closeVisible] at hlookup
    split_ifs at hlookup
    exact h.internal k internalId hlookup
  rooted k hlookup := by
    rw [SessionMaps.lookup_closeVisible] at hlookup
    split_ifs at hlookup with hk
    · cases hlookup
    · rw [SessionMaps.roots_closeVisible hk]
      exact h.rooted k hlookup
  sound := h.sound
  nodup := .nil

end Agree

namespace DaemonRun

variable {w w' : DaemonRun} {o : SessionOwnership} {id : String}

/-- The session whose handle the phase knows of. -/
def publishes : DaemonPhase → List String
  | .preparing id _ _ | .committing id _ _ => [id]
  | _ => []

/-- The session that is to be published. -/
def spawns : DaemonPhase → Option String
  | .spawning id _ | .granted id _ => some id
  | _ => none

/-- The handles that are not in the index yet. -/
def pending (w : DaemonRun) : List String :=
  match w.request with
  | .starting _ recovered => recovered.map Prod.fst
  | .restoring sessions => sessions.map Prod.fst
  | .creating _ => publishes w.ownership.daemon
  | _ => []

/-- The session that is not out of the index yet. -/
def leaving (w : DaemonRun) : Option String :=
  match w.request with
  | .closing id => some id
  | _ => none

/-- The phases of a creation. -/
def isCreate : DaemonPhase → Bool
  | .spawning .. | .granted .. | .preparing .. | .committing .. | .failing .. => true
  | _ => false

/-- The phases of a start. -/
def isRecover : DaemonPhase → Bool
  | .recovering _ | .matching .. | .reconnecting .. | .quarantining .. | .installing ..
  | .migrating .. => true
  | _ => false

/-- The phase of the ledger is one of the request. -/
def Fits : Request → DaemonPhase → Prop
  | .creating _, phase => isCreate phase
  | .starting .., phase => isRecover phase ∨ phase = .idle
  | _, phase => phase = .idle

/-- **The invariant.** -/
structure Invariant (w : DaemonRun) : Prop where
  agree : Agree w.maps w.pending w.leaving
  fits : Fits w.request w.ownership.daemon
  /-- The session that is to be published is new. -/
  unpublished : ∀ id, spawns w.ownership.daemon = some id →
    w.maps.runtime.slot id = (none, none) ∧ w.maps.sessionIndex.lookup id = none
  /-- A daemon that starts has no session but those it has reconnected. -/
  blank : ∀ loaded recovered, w.request = .starting loaded recovered →
    ∀ id, w.maps.sessionIndex.lookup id = none ∧
      ((w.maps.runtime.slot id).2 = none → (w.maps.runtime.slot id).1 = none)

/-! ### Steps of the ledger -/

section Ledger

variable {op : OwnershipOp}

@[simp] theorem not_isCreate_idle : ¬isCreate .idle := by simp [isCreate]

@[simp] theorem not_isRecover_idle : ¬isRecover .idle := by simp [isRecover]

theorem isRecover_recoverPhase (record : SessionStateRecord) (records : List SessionStateRecord)
    (row : Option Ownership.OwnershipRow) :
    isRecover (SessionOwnership.recoverPhase record records row) := by
  cases row with
  | none => rfl
  | some row =>
    rw [SessionOwnership.recoverPhase]
    split_ifs
    · rfl
    · rfl
    · split <;> rfl

theorem isRecover_matchPhase (record : SessionStateRecord) (records : List SessionStateRecord)
    (result : Bool) : isRecover (SessionOwnership.matchPhase record records result) := by
  cases result <;> rfl

theorem publishes_of_isRecover {phase : DaemonPhase} (h : isRecover phase) :
    publishes phase = [] ∧ spawns phase = none := by
  cases phase <;> first | exact ⟨rfl, rfl⟩ | cases h

/-- A step of the daemon thread that the maps have no part in goes on with what the thread does, or
ends it. -/
theorem phase_of_isLedgerOnly (hop : isLedgerOnly op) (hstep : w.ownership.step op = some o) :
    isCreate w.ownership.daemon ∧ (isCreate o.daemon ∨ o.daemon = .idle) ∧
        publishes w.ownership.daemon = [] ∧ publishes o.daemon = [] ∧
        (∀ id, spawns o.daemon = some id → spawns w.ownership.daemon = some id) ∨
      isRecover w.ownership.daemon ∧ (isRecover o.daemon ∨ o.daemon = .idle) := by
  obtain ⟨generation, rfl, -⟩ | ⟨hthread, -⟩ | ⟨-, hstep⟩ := SessionOwnership.step_cases hstep
  · cases hop
  · exact absurd hthread (not_byReconciler_of_isLedgerOnly hop)
  · cases op with
    | recordPrepared | spawnFailed | markCleaning | readPhase | activeEvidenceMatches | quarantine
    | install | migrateLegacy =>
      simp only [SessionOwnership.stepDaemon, SessionOwnership.transact] at hstep
      grind [isCreate, isRecover, publishes, spawns, isRecover_recoverPhase, isRecover_matchPhase]
    | _ => cases hop

end Ledger

/-! ### Steps -/

/-- The invariant is about the maps, the request and the phase of the ledger. -/
theorem Invariant.congr (h : w.Invariant) (hmaps : w'.maps = w.maps)
    (hrequest : w'.request = w.request) (hdaemon : w'.ownership.daemon = w.ownership.daemon) :
    w'.Invariant where
  agree := by
    rw [hmaps, pending, leaving, hrequest, hdaemon]
    exact h.agree
  fits := by
    rw [hrequest, hdaemon]
    exact h.fits
  unpublished := by
    rw [hmaps, hdaemon]
    exact h.unpublished
  blank := by
    rw [hmaps, hrequest]
    exact h.blank

/-- Between requests, and in those that have no session in the making. -/
theorem Invariant.of_idle {pending : List String} {leaving : Option String}
    (hagree : Agree w.maps pending leaving) (hdaemon : w.ownership.daemon = .idle)
    (hpending : w.pending = pending) (hleaving : w.leaving = leaving)
    (hstarting : ∀ loaded recovered, w.request ≠ .starting loaded recovered)
    (hcreating : ∀ root, w.request ≠ .creating root) : w.Invariant where
  agree := by
    rw [hpending, hleaving]
    exact hagree
  fits := by
    rw [hdaemon]
    cases hrequest : w.request with
    | starting loaded recovered => exact absurd hrequest (hstarting loaded recovered)
    | creating root => exact absurd hrequest (hcreating root)
    | _ => rfl
  unpublished := by
    rw [hdaemon]
    simp [spawns]
  blank loaded recovered hrequest := absurd hrequest (hstarting loaded recovered)

/-- Nothing is in the making between requests. -/
theorem Invariant.agree_idle (h : w.Invariant) (hrequest : w.request = .idle) :
    Agree w.maps [] none ∧ w.ownership.daemon = .idle := by
  have hagree := h.agree
  have hfits := h.fits
  rw [pending, leaving, hrequest] at hagree
  rw [hrequest] at hfits
  exact ⟨hagree, hfits⟩

theorem Invariant.start {generation : List UInt8} (hstep : w.step (.start generation) = some w') :
    w'.Invariant := by
  simp only [step] at hstep
  obtain ⟨ownership, hledger, hstep⟩ := Option.bind_eq_some_iff.mp hstep
  obtain rfl := Option.some.inj hstep
  obtain rfl := Option.some.inj hledger
  refine ⟨Agree.empty, .inr rfl, by simp [spawns], ?_⟩
  rintro loaded recovered - id
  exact ⟨rfl, fun _ => rfl⟩

theorem Invariant.reconciler {op : OwnershipOp} (h : w.Invariant)
    (hstep : w.step (.reconciler op) = some w') : w'.Invariant := by
  simp only [step] at hstep
  split at hstep
  · cases hstep
  · split_ifs at hstep with hop
    obtain ⟨ownership, hledger, hstep⟩ := Option.bind_eq_some_iff.mp hstep
    obtain rfl := Option.some.inj hstep
    refine h.congr rfl rfl ?_
    obtain ⟨generation, rfl, -⟩ | ⟨-, hthread⟩ | ⟨hnot, -⟩ := SessionOwnership.step_cases hledger
    · cases hop
    · have hdaemon := daemon_stepReconciler hthread
      exact hdaemon
    · exact absurd hop hnot

/-- A step of the daemon thread that the maps have no part in. -/
theorem Invariant.ledger {op : OwnershipOp} (h : w.Invariant) (hop : isLedgerOnly op)
    (hledger : w.ownership.step op = some o) :
    ({ w with ownership := o }.settle w.ownership.daemon).Invariant := by
  have hagree := h.agree
  have hfits := h.fits
  have hphase := phase_of_isLedgerOnly hop hledger
  cases hrequest : w.request with
  | creating root =>
    rw [pending, leaving, hrequest] at hagree
    rw [hrequest] at hfits
    obtain ⟨-, hafter, hpublishes, hpublishes', hspawns⟩ | ⟨hrecover, -⟩ := hphase
    · dsimp only at hagree
      rw [hpublishes] at hagree
      simp only [settle]
      obtain hafter | hidle := hafter
      · rw [if_neg (by rintro hidle; simp [hidle] at hafter)]
        refine ⟨?_, hafter, fun id hid => h.unpublished id (hspawns id hid), by simp⟩
        simp only [pending, leaving, hpublishes']
        exact hagree
      · rw [if_pos hidle]
        exact .of_idle hagree hidle rfl rfl (by simp) (by simp)
    · -- a creation is not a start
      cases hdaemon : w.ownership.daemon <;> simp [hdaemon, Fits, isCreate, isRecover] at hfits hrecover
  | starting loaded recovered =>
    rw [pending, leaving, hrequest] at hagree
    rw [hrequest] at hfits
    obtain ⟨hcreate, -⟩ | ⟨hrecover, hafter⟩ := hphase
    · cases hdaemon : w.ownership.daemon <;> simp [hdaemon, Fits, isCreate, isRecover] at hfits hcreate
    · simp only [settle]
      obtain hafter | hidle := hafter
      · rw [if_neg (by rintro hidle; simp [hidle] at hafter)]
        refine ⟨hagree, .inl hafter, fun id hid => ?_, ?_⟩
        · simp [(publishes_of_isRecover hafter).2] at hid
        · rintro loaded' recovered' heq
          exact h.blank loaded recovered hrequest
      · rw [if_pos hidle]
        split_ifs
        · exact .of_idle hagree hidle rfl rfl (by simp) (by simp)
        · exact .of_idle .empty hidle rfl rfl (by simp) (by simp)
  | _ =>
    rw [hrequest] at hfits
    obtain ⟨hcreate, -⟩ | ⟨hrecover, -⟩ := hphase
    · simp [show w.ownership.daemon = .idle from hfits] at hcreate
    · simp [show w.ownership.daemon = .idle from hfits] at hrecover

theorem Invariant.recover {drawn : String → List UInt8 × List UInt8} {fault : Option Fault}
    (h : w.Invariant) (hstep : w.step (.recover drawn fault) = some w') : w'.Invariant := by
  simp only [step] at hstep
  split at hstep
  · rename_i loaded hrequest
    obtain ⟨ownership, hledger, hstep⟩ := Option.bind_eq_some_iff.mp hstep
    obtain rfl := Option.some.inj hstep
    have hagree := h.agree
    rw [pending, leaving, hrequest] at hagree
    obtain hidle | ⟨records, hrecovering⟩ : ownership.daemon = .idle ∨
        ∃ records, ownership.daemon = .recovering records := by
      have hledger : SessionOwnership.stepDaemon { w.ownership with outcome := none }
        (.recover (sessionRecords loaded) drawn fault) = some ownership := hledger
      simp only [SessionOwnership.stepDaemon] at hledger
      split_ifs at hledger with hbusy
      · obtain rfl := Option.some.inj hledger
        simp only [SessionOwnership.transact]
        split_ifs
        · exact .inr ⟨_, rfl⟩
        · exact .inl (not_not.mp hbusy)
    · simp only [settle, hrequest, hidle, if_true]
      exact .of_idle .empty hidle rfl rfl (by simp) (by simp)
    · simp only [settle, hrequest, hrecovering, reduceCtorEq, if_false]
      refine ⟨?_, ?_, ?_, ?_⟩
      · simp only [pending, leaving]
        exact hagree
      · simp only [hrecovering]
        exact .inl rfl
      · simp [hrecovering, spawns]
      · rintro loaded' recovered' heq
        exact h.blank loaded [] hrequest
  · cases hstep

/-- A call on the runtime session of a visible session. -/
theorem Invariant.call {id : String} {f : SessionRuntime → String → SessionRuntime}
    (h : w.Invariant) (hkept : ∀ r internalId k, Kept (SessionRuntime.slot r k) ((f r internalId).slot k))
    (hstep : w.call id f = some w') : w'.Invariant := by
  rw [DaemonRun.call] at hstep
  split at hstep
  · rename_i hrequest
    obtain ⟨hagree, hdaemon⟩ := h.agree_idle hrequest
    split at hstep
    · obtain rfl := Option.some.inj hstep
      refine .of_idle (hagree.kept (hkept _ _)) hdaemon ?_ ?_ ?_ ?_
      · rw [pending, setRuntime, hrequest]
      · rw [leaving, setRuntime, hrequest]
      · simp [setRuntime, hrequest]
      · simp [setRuntime, hrequest]
    · obtain rfl := Option.some.inj hstep
      exact h
  · cases hstep

/-! ### A session is created -/

/-- A session is created in the request that creates it. -/
theorem Invariant.creating (h : w.Invariant) (hphase : isCreate w.ownership.daemon) :
    (∃ root, w.request = .creating root) ∧
      Agree w.maps (publishes w.ownership.daemon) none := by
  have hagree := h.agree
  have hfits := h.fits
  rw [pending, leaving] at hagree
  cases hrequest : w.request with
  | creating root =>
    rw [hrequest] at hagree
    exact ⟨⟨root, rfl⟩, hagree⟩
  | starting loaded recovered =>
    rw [hrequest] at hfits
    cases hdaemon : w.ownership.daemon <;> simp [hdaemon, Fits, isCreate, isRecover] at hfits hphase
  | _ =>
    rw [hrequest] at hfits
    simp [show w.ownership.daemon = .idle from hfits] at hphase

/-- The creation goes on with a session that has its handle, or has none yet. -/
theorem Invariant.of_creating {root : String} (hrequest : w.request = .creating root)
    (hphase : isCreate w.ownership.daemon)
    (hagree : Agree w.maps (publishes w.ownership.daemon) none)
    (hunpublished : ∀ id, spawns w.ownership.daemon = some id →
      w.maps.runtime.slot id = (none, none) ∧ w.maps.sessionIndex.lookup id = none) :
    w.Invariant where
  agree := by
    rw [pending, leaving, hrequest]
    exact hagree
  fits := by
    rw [hrequest]
    exact hphase
  unpublished := hunpublished
  blank := by simp [hrequest]

theorem Invariant.create {size : PtySize} {root : String} {createOperationId capability : List UInt8}
    {expectedSocket : Option String} {fault : Option Fault} (h : w.Invariant)
    (hstep : w.step (.create id size root createOperationId capability expectedSocket fault) =
      some w') : w'.Invariant := by
  simp only [step] at hstep
  split at hstep
  · rename_i hrequest
    obtain ⟨hagree, hdaemon⟩ := h.agree_idle hrequest
    split_ifs at hstep with hnew
    obtain ⟨ownership, hledger, hstep⟩ := Option.bind_eq_some_iff.mp hstep
    obtain rfl := Option.some.inj hstep
    have hledger : SessionOwnership.stepDaemon { w.ownership with outcome := none }
      (.create id size createOperationId capability expectedSocket fault) = some ownership := hledger
    obtain hidle | hspawning : ownership.daemon = .idle ∨ ownership.daemon = .spawning id size := by
      simp only [SessionOwnership.stepDaemon] at hledger
      split_ifs at hledger
      obtain rfl := Option.some.inj hledger
      simp only [SessionOwnership.transact]
      split_ifs
      · exact .inr rfl
      · exact .inl rfl
    · simp only [settle, hidle, if_true]
      exact .of_idle hagree hidle rfl rfl (by simp) (by simp)
    · simp only [settle, hspawning, reduceCtorEq, if_false]
      refine .of_creating rfl ?_ ?_ fun k hk => ?_
      · rw [hspawning]
        rfl
      · rw [hspawning]
        exact hagree
      · rw [hspawning] at hk
        obtain rfl := Option.some.inj hk
        exact ⟨hnew.2.1, hnew.2.2.1⟩
  · cases hstep

/-- What becomes of the phase when a session is spawned. -/
theorem phase_of_spawned {restoreInfo : Option PtyRestoreInfo}
    (hstep : w.ownership.step (.spawned restoreInfo) = some o) :
    (∃ id, spawns w.ownership.daemon = some id ∧ o.daemon = .failing id false) ∨
      ∃ id size evidence, restoreInfo = some evidence ∧ w.ownership.daemon = .granted id size ∧
        o.daemon = .preparing id size evidence := by
  have hstep : SessionOwnership.stepDaemon { w.ownership with outcome := none }
    (.spawned restoreInfo) = some o := hstep
  simp only [SessionOwnership.stepDaemon] at hstep
  split at hstep
  · rename_i id size hdaemon _
    obtain rfl := Option.some.inj hstep
    exact .inl ⟨id, by rw [hdaemon]; rfl, rfl⟩
  · rename_i id size hdaemon _
    obtain rfl := Option.some.inj hstep
    exact .inl ⟨id, by rw [hdaemon]; rfl, rfl⟩
  · rename_i id size evidence hdaemon _
    obtain rfl := Option.some.inj hstep
    exact .inr ⟨id, size, evidence, rfl, hdaemon, rfl⟩
  · cases hstep

theorem isCreate_of_spawns (h : spawns w.ownership.daemon = some id) :
    isCreate w.ownership.daemon ∧ publishes w.ownership.daemon = [] := by
  cases hdaemon : w.ownership.daemon <;> rw [hdaemon] at h <;>
    first | exact ⟨rfl, rfl⟩ | cases h

/-- `publish_owned_session` does not panic when the size is valid. -/
theorem Invariant.spawned {restoreInfo : Option PtyRestoreInfo} {pty : PtySession} (h : w.Invariant)
    (hsize : ∀ id size, restoreInfo.isSome → w.ownership.daemon = .granted id size →
      size.rows ≠ 0 ∧ size.cols ≠ 0)
    (hstep : w.step (.spawned restoreInfo pty) = some w') : w'.Invariant := by
  simp only [step] at hstep
  obtain ⟨ownership, hledger, hafter⟩ := Option.bind_eq_some_iff.mp hstep
  obtain ⟨id, hspawns, hphase⟩ | ⟨id, size, evidence, rfl, hgranted, hphase⟩ :=
    phase_of_spawned hledger
  · obtain ⟨hcreate, hpublishes⟩ := isCreate_of_spawns hspawns
    obtain ⟨⟨root, hrequest⟩, hagree⟩ := h.creating hcreate
    rw [hpublishes] at hagree
    simp only [hphase] at hafter
    obtain rfl := Option.some.inj hafter
    have hnone := congrArg Prod.snd (h.unpublished id hspawns).1
    refine .of_creating hrequest ?_ ?_ ?_
    · simp only [setRuntime, hphase]
      rfl
    · simp only [setRuntime, hphase]
      exact hagree.drop_none hnone
    · simp [setRuntime, hphase, spawns]
  · have hspawns : spawns w.ownership.daemon = some id := by
      rw [hgranted]
      rfl
    obtain ⟨hcreate, hpublishes⟩ := isCreate_of_spawns hspawns
    obtain ⟨⟨root, hrequest⟩, hagree⟩ := h.creating hcreate
    rw [hpublishes] at hagree
    obtain ⟨hslot, hindex⟩ := h.unpublished id hspawns
    have hpublish := SessionRuntime.slot_publishOwnedSession pty size hslot
    have hvalid := hsize id size rfl hgranted
    rw [if_neg (not_or.mpr hvalid)] at hpublish
    obtain ⟨hreturns, hslots⟩ := hpublish
    simp only [hphase] at hafter
    cases hresult : w.maps.runtime.publishOwnedSession id pty size with
    | mk runtime returned =>
      rw [hresult] at hreturns hslots hafter
      obtain rfl : returned = true := hreturns
      obtain rfl := Option.some.inj hafter
      refine .of_creating hrequest ?_ ?_ ?_
      · simp only [setRuntime, hphase]
        rfl
      · simp only [setRuntime, hphase]
        refine hagree.takeIn (congrArg Prod.snd hslot) ?_ hslots hindex ?_
        · simp
        · exact .refl _
      · simp [setRuntime, hphase, spawns]

variable (id) in
theorem kept_prepareSession {r : SessionRuntime} (device attachment : String) (size : PtySize)
    (answers : PtyAnswers) (rest : Bool) (k : String) :
    Kept (r.slot k) ((prepareSession r id device attachment size answers rest).1.slot k) := by
  have hattach := SessionRuntime.kept_attach id device answers (r := r) k
  rw [prepareSession]
  split
  · rename_i hattached
    rw [hattached] at hattach
    exact hattach
  · rename_i attached role hattached
    rw [hattached] at hattach
    have hwatch :=
      SessionRuntime.kept_startWatchedAttachment id answers attachment size (r := attached) k
    split <;>
    · rename_i hwatched
      rw [hwatched] at hwatch
      exact hattach.trans hwatch

theorem Invariant.prepare {device attachment : String} {answers : PtyAnswers} {rest : Bool}
    (h : w.Invariant) (hstep : w.step (.prepare device attachment answers rest) = some w') :
    w'.Invariant := by
  simp only [step] at hstep
  split at hstep
  · rename_i id size restoreInfo hdaemon
    obtain ⟨⟨root, hrequest⟩, hagree⟩ := h.creating (by rw [hdaemon]; rfl)
    rw [hdaemon] at hagree
    obtain ⟨ownership, hledger, hstep⟩ := Option.bind_eq_some_iff.mp hstep
    obtain rfl := Option.some.inj hstep
    have hkept := hagree.kept
      (kept_prepareSession id device attachment size answers rest (r := w.maps.runtime))
    have hledger : SessionOwnership.stepDaemon { w.ownership with outcome := none }
      (.prepare (prepareSession w.maps.runtime id device attachment size answers rest).2) =
        some ownership := hledger
    simp only [SessionOwnership.stepDaemon, hdaemon] at hledger
    obtain rfl := Option.some.inj hledger
    by_cases hok : (prepareSession w.maps.runtime id device attachment size answers rest).2
    · refine .of_creating hrequest ?_ ?_ ?_
      · simp only [setRuntime, hok]
        rfl
      · simp only [setRuntime, hok]
        exact hkept
      · simp [setRuntime, hok, spawns]
    · refine .of_creating hrequest ?_ ?_ ?_
      · simp only [setRuntime, hok]
        rfl
      · simp only [setRuntime, hok]
        exact hkept.drop
      · simp [setRuntime, hok, spawns]
  · cases hstep

theorem Invariant.commitActive {fault : Option Fault} (h : w.Invariant)
    (hstep : w.step (.commitActive fault) = some w') : w'.Invariant := by
  simp only [step] at hstep
  split at hstep
  · rename_i root id size restoreInfo hrequest hdaemon
    obtain ⟨-, hagree⟩ := h.creating (by rw [hdaemon]; rfl)
    rw [hdaemon] at hagree
    obtain ⟨ownership, hledger, hstep⟩ := Option.bind_eq_some_iff.mp hstep
    have hledger : SessionOwnership.stepDaemon { w.ownership with outcome := none }
      (.commitActive fault) = some ownership := hledger
    obtain hidle | ⟨again, hfailing⟩ : ownership.daemon = .idle ∨
        ∃ again, ownership.daemon = .failing id again := by
      simp only [SessionOwnership.stepDaemon, hdaemon] at hledger
      obtain rfl := Option.some.inj hledger
      simp only [SessionOwnership.transact]
      split
      · exact .inl rfl
      · exact .inr ⟨_, rfl⟩
      · exact .inr ⟨_, rfl⟩
    · rw [if_pos hidle] at hstep
      obtain rfl := Option.some.inj hstep
      exact .of_idle hagree.register hidle rfl rfl (by simp) (by simp)
    · rw [if_neg (by simp [hfailing])] at hstep
      obtain rfl := Option.some.inj hstep
      refine .of_creating hrequest ?_ ?_ ?_
      · simp only [setRuntime, hfailing]
        rfl
      · simp only [setRuntime, hfailing]
        exact hagree.drop
      · simp [setRuntime, hfailing, spawns]
  · cases hstep

/-! ### Sessions are recovered -/

/-- A start goes on with the sessions it has. -/
theorem Invariant.of_starting {loaded : Table String RuntimeRow}
    {recovered : List (String × RuntimeRow)} (hrequest : w.request = .starting loaded recovered)
    (hphase : isRecover w.ownership.daemon) (hagree : Agree w.maps (recovered.map Prod.fst) none)
    (hblank : ∀ id, w.maps.sessionIndex.lookup id = none ∧
      ((w.maps.runtime.slot id).2 = none → (w.maps.runtime.slot id).1 = none)) :
    w.Invariant where
  agree := by
    rw [pending, leaving, hrequest]
    exact hagree
  fits := by
    rw [hrequest]
    exact .inl hphase
  unpublished := by
    rw [(publishes_of_isRecover hphase).2]
    simp
  blank _ _ _ := hblank

/-- What the ledger does after an attempt to reconnect a session. -/
theorem phase_of_reconnect {record : SessionStateRecord} {diagnostic : String}
    {records : List SessionStateRecord} {ok : Bool}
    (hdaemon : w.ownership.daemon = .reconnecting record diagnostic records)
    (hstep : w.ownership.step (.reconnect ok) = some o) : isRecover o.daemon := by
  have hstep : SessionOwnership.stepDaemon { w.ownership with outcome := none }
    (.reconnect ok) = some o := hstep
  simp only [SessionOwnership.stepDaemon, hdaemon] at hstep
  obtain rfl := Option.some.inj hstep
  cases ok <;> rfl

/-- A session that has no handle yet gets one, or nothing changes. -/
theorem reconnectSession_of_blank {r : SessionRuntime} (state : SessionState) (size : PtySize)
    (restoreInfo : Option PtyRestoreInfo) (pty : Option PtySession)
    (hblank : (r.slot id).2 = none → (r.slot id).1 = none) :
    (∃ error, r.reconnectSession id state size restoreInfo pty = (r, .error error)) ∨
      ∃ pty' runtime, r.reconnectSession id state size restoreInfo pty = (runtime, .ok ()) ∧
        (r.slot id).2 = none ∧ ∀ k, runtime.slot k =
          if k = id then (some (SessionRuntime.reconnected state size), some { pty := pty' })
          else r.slot k := by
  cases hhandle : (r.slot id).2 with
  | none =>
    have hnew : r.slot id = (none, none) := Prod.ext (hblank hhandle) hhandle
    obtain herror | ⟨pty', -, hok, hslots⟩ :=
      SessionRuntime.slot_reconnectSession state size restoreInfo pty hnew
    · exact .inl herror
    · refine .inr ⟨pty', _, ?_, rfl, hslots⟩
      rw [← hok]
  | some handle =>
    refine .inl ⟨.sessionAlreadyExists, ?_⟩
    have hhandle : r.runtimeSessions.lookup id = some handle := hhandle
    rw [SessionRuntime.reconnectSession.eq_def, hhandle]
    rfl

theorem Invariant.reconnect {pty : Option PtySession} (h : w.Invariant)
    (hstep : w.step (.reconnect pty) = some w') : w'.Invariant := by
  simp only [step] at hstep
  split at hstep
  · rename_i loaded recovered record diagnostic records hrequest hdaemon
    have hagree := h.agree
    rw [pending, leaving, hrequest] at hagree
    have hblank := h.blank loaded recovered hrequest
    cases hrow : loaded.lookup record.sessionId with
    | none =>
      rw [hrow] at hstep
      cases hstep
    | some row =>
      obtain ⟨error, hreconnect⟩ | ⟨pty', runtime, hreconnect, hnone, hslots⟩ :=
        reconnectSession_of_blank row.state row.size row.restoreInfo pty
          (hblank record.sessionId).2
      · simp only [hrow, hreconnect] at hstep
        obtain ⟨ownership, hledger, hstep⟩ := Option.bind_eq_some_iff.mp hstep
        obtain rfl := Option.some.inj hstep
        exact .of_starting hrequest (phase_of_reconnect hdaemon hledger) hagree hblank
      · simp only [hrow, hreconnect] at hstep
        obtain ⟨ownership, hledger, hstep⟩ := Option.bind_eq_some_iff.mp hstep
        obtain rfl := Option.some.inj hstep
        refine .of_starting rfl (phase_of_reconnect hdaemon hledger) ?_ fun k => ⟨(hblank k).1, ?_⟩
        · refine hagree.takeIn hnone ?_ hslots (hblank record.sessionId).1 ?_
          · rw [SessionRuntime.reconnected]
            split_ifs <;> simp
          · rw [List.map_append]
            exact List.perm_append_comm
        · rw [setRuntime, hslots]
          split_ifs
          · simp
          · exact (hblank k).2
  · cases hstep

/-- The session is reconnectable. -/
theorem Invariant.restoreSession {root : String} {fault : Option Fault} (h : w.Invariant)
    (hrow : ∀ id row sessions, w.request = .restoring ((id, row) :: sessions) → isReconnectable row)
    (hstep : w.step (.restoreSession root fault) = some w') : w'.Invariant := by
  have hagree := h.agree
  have hfits := h.fits
  simp only [step] at hstep
  split at hstep
  · rename_i hrequest
    rw [pending, leaving, hrequest] at hagree
    rw [hrequest] at hfits
    obtain rfl := Option.some.inj hstep
    exact .of_idle hagree hfits rfl rfl (by simp) (by simp)
  · rename_i id row sessions hrequest
    rw [pending, leaving, hrequest] at hagree
    rw [hrequest] at hfits
    rw [if_pos (hrow id row sessions hrequest)] at hstep
    obtain rfl := Option.some.inj hstep
    exact .of_idle hagree.register hfits rfl rfl (by simp) (by simp)
  · cases hstep

/-! ### A session is closed -/

theorem Invariant.close {proposed : ℕ} {fault : Option Fault} (h : w.Invariant)
    (hstep : w.step (.close id proposed fault) = some w') : w'.Invariant := by
  simp only [step] at hstep
  split at hstep
  · rename_i hrequest
    obtain ⟨hagree, hdaemon⟩ := h.agree_idle hrequest
    split_ifs at hstep with hindex
    obtain ⟨ownership, hledger, hstep⟩ := Option.bind_eq_some_iff.mp hstep
    have hledger : SessionOwnership.stepDaemon { w.ownership with outcome := none }
      (.close id proposed fault) = some ownership := hledger
    have hidle : ownership.daemon = .idle := by
      simp only [SessionOwnership.stepDaemon] at hledger
      split_ifs at hledger
      obtain rfl := Option.some.inj hledger
      exact hdaemon
    split_ifs at hstep
    · obtain rfl := Option.some.inj hstep
      exact .of_idle (hagree.leave hindex) hidle rfl rfl (by simp [setRuntime]) (by simp [setRuntime])
    · obtain rfl := Option.some.inj hstep
      refine .of_idle hagree hidle ?_ ?_ ?_ ?_
      · rw [pending, hrequest]
      · rw [leaving, hrequest]
      · simp [hrequest]
      · simp [hrequest]
  · cases hstep

theorem Invariant.poll (h : w.Invariant) (hstep : w.step (.poll false) = some w') :
    w'.Invariant := by
  have hagree := h.agree
  have hfits := h.fits
  simp only [step] at hstep
  split at hstep
  · rename_i id hrequest
    rw [pending, leaving, hrequest] at hagree
    rw [hrequest] at hfits
    simp only [Bool.false_eq_true, if_false] at hstep
    split_ifs at hstep
    · obtain rfl := Option.some.inj hstep
      exact h
    · obtain rfl := Option.some.inj hstep
      exact .of_idle hagree.left hfits rfl rfl (by simp) (by simp)
  · cases hstep

/-! ### The rows are looked at, and saved -/

/-- Every session in the index has a running row. -/
theorem Invariant.reconcileClosed {fault : Bool} (h : w.Invariant)
    (hrows : fault = false → ∀ id, (w.maps.sessionIndex.lookup id).isSome →
      (w.ownership.tables.runtimeSessions.lookup id).any fun row => row.state = .running)
    (hstep : w.step (.reconcileClosed fault) = some w') : w'.Invariant := by
  simp only [step] at hstep
  split at hstep
  · cases fault with
    | true =>
      obtain rfl := Option.some.inj hstep
      exact h
    | false =>
      obtain rfl := Option.some.inj hstep
      exact h.congr (SessionMaps.reconcile_eq_self (hrows rfl)) rfl rfl
  · cases hstep

theorem Invariant.snapshot {restoreInfo : String → Option PtyRestoreInfo} (h : w.Invariant)
    (hstep : w.step (.snapshot restoreInfo) = some w') : w'.Invariant := by
  simp only [step] at hstep
  split at hstep
  · rename_i hrequest
    obtain ⟨hagree, hdaemon⟩ := h.agree_idle hrequest
    obtain rfl := Option.some.inj hstep
    exact .of_idle hagree hdaemon rfl rfl (by simp) (by simp)
  · cases hstep

theorem Invariant.save {fault : Option Fault} (h : w.Invariant)
    (hstep : w.step (.save fault) = some w') : w'.Invariant := by
  have hagree := h.agree
  have hfits := h.fits
  simp only [step] at hstep
  split at hstep
  · rename_i sessions hrequest
    rw [pending, leaving, hrequest] at hagree
    rw [hrequest] at hfits
    obtain rfl := Option.some.inj hstep
    exact .of_idle hagree hfits rfl rfl (by simp [transact]) (by simp [transact])
  · cases hstep

/-! ### Runs -/

def isIdle (w : DaemonRun) : Bool :=
  match w.request with
  | .idle => true
  | _ => false

theorem isIdle_iff : w.isIdle = true ↔ w.request = .idle := by
  rw [isIdle]
  cases w.request <;> simp

/-- **The four places.** A session that is created has rows and columns, a session that is recovered
was running, no session in the index has lost its row, and a session that is closed is cleaned up while
the daemon waits for it. -/
def Careful (w : DaemonRun) : DaemonOp → Prop
  | .spawned restoreInfo _ =>
    match restoreInfo, w.ownership.daemon with
    | some _, .granted _ size => size.rows ≠ 0 ∧ size.cols ≠ 0
    | _, _ => True
  | .restoreSession .. =>
    match w.request with
    | .restoring ((_, row) :: _) => isReconnectable row
    | _ => True
  | .reconcileClosed fault => fault = false →
    ∀ id ∈ w.maps.sessionIndex.keys,
      (w.ownership.tables.runtimeSessions.lookup id).any fun row => row.state = .running
  | .poll fault => fault = false
  | .timeout => False
  | _ => True

instance (w : DaemonRun) (op : DaemonOp) : Decidable (w.Careful op) :=
  match op with
  | .spawned none _ => .isTrue trivial
  | .spawned (some restoreInfo) writes =>
    match hdaemon : w.ownership.daemon with
    | .granted _ size =>
      decidable_of_iff (size.rows ≠ 0 ∧ size.cols ≠ 0) (by simp only [Careful, hdaemon])
    | .idle | .spawning .. | .preparing .. | .committing .. | .failing .. | .recovering ..
    | .matching .. | .reconnecting .. | .quarantining .. | .installing .. | .migrating .. =>
      .isTrue (by simp only [Careful, hdaemon])
  | .restoreSession .. =>
    match hrequest : w.request with
    | .restoring ((id, row) :: rest) =>
      decidable_of_iff (isReconnectable row = true) (by simp only [Careful, hrequest])
    | .restoring [] | .down | .starting .. | .idle | .creating .. | .saving .. | .closing .. =>
      .isTrue (by simp only [Careful, hrequest])
  | .reconcileClosed fault =>
    inferInstanceAs (Decidable (fault = false → ∀ id ∈ w.maps.sessionIndex.keys,
      (w.ownership.tables.runtimeSessions.lookup id).any fun row => row.state = .running))
  | .poll fault => inferInstanceAs (Decidable (fault = false))
  | .timeout => .isFalse not_false
  | .reconciler .. | .start .. | .recover .. | .create .. | .ledger .. | .prepare ..
  | .commitActive .. | .reconnect .. | .attach .. | .detach .. | .write .. | .watch ..
  | .unwatch .. | .resize .. | .snapshot .. | .save .. | .close .. => .isTrue trivial

theorem Invariant.step {op : DaemonOp} (h : w.Invariant) (hop : w.Careful op)
    (hstep : w.step op = some w') : w'.Invariant := by
  cases op with
  | reconciler => exact h.reconciler hstep
  | start => exact .start hstep
  | recover => exact h.recover hstep
  | create => exact h.create hstep
  | ledger op =>
    simp only [DaemonRun.step] at hstep
    split_ifs at hstep with honly
    obtain ⟨ownership, hledger, hstep⟩ := Option.bind_eq_some_iff.mp hstep
    obtain rfl := Option.some.inj hstep
    exact h.ledger honly hledger
  | spawned restoreInfo =>
    refine h.spawned (fun id size hsome hgranted => ?_) hstep
    obtain ⟨evidence, rfl⟩ := Option.isSome_iff_exists.mp hsome
    simpa only [Careful, hgranted] using hop
  | prepare => exact h.prepare hstep
  | commitActive => exact h.commitActive hstep
  | reconnect => exact h.reconnect hstep
  | restoreSession =>
    refine h.restoreSession (fun id row sessions hrequest => ?_) hstep
    simpa only [Careful, hrequest] using hop
  | attach =>
    simp only [DaemonRun.step] at hstep
    exact h.call (fun _ _ => SessionRuntime.kept_attach _ _ _) hstep
  | detach =>
    simp only [DaemonRun.step] at hstep
    exact h.call (fun _ _ => SessionRuntime.kept_detach) hstep
  | write =>
    simp only [DaemonRun.step] at hstep
    exact h.call (fun _ _ => SessionRuntime.kept_writeInput) hstep
  | watch =>
    simp only [DaemonRun.step] at hstep
    exact h.call (fun _ _ => SessionRuntime.kept_startWatchedAttachment _ _ _ _) hstep
  | unwatch =>
    simp only [DaemonRun.step] at hstep
    exact h.call (fun _ _ => SessionRuntime.kept_dropWatchedAttachment) hstep
  | resize =>
    simp only [DaemonRun.step] at hstep
    exact h.call (fun _ _ => SessionRuntime.kept_recordWatchedAttachmentResize) hstep
  | reconcileClosed =>
    exact h.reconcileClosed (fun hfault id hid => hop hfault id (AList.lookup_isSome.mp hid)) hstep
  | snapshot => exact h.snapshot hstep
  | save => exact h.save hstep
  | close => exact h.close hstep
  | poll =>
    obtain rfl : _ = false := hop
    exact h.poll hstep
  | timeout => exact hop.elim

/-- **The maps agree**: the sessions in the index are those with a handle, each of them has a root and
a record, which is open unless the child was found to have exited, and no other session is open. -/
structure Agrees (w : DaemonRun) : Prop where
  same : ∀ id, (w.maps.sessionIndex.lookup id).isSome ↔
    (w.maps.runtime.runtimeSessions.lookup id).isSome
  rooted : ∀ id, (w.maps.sessionIndex.lookup id).isSome → (w.maps.sessionRoots.lookup id).isSome
  recorded : ∀ id, (w.maps.sessionIndex.lookup id).isSome →
    ∃ record, w.maps.runtime.sessions.sessions.lookup id = some record ∧
      (record.state = .closed →
        ∃ handle, w.maps.runtime.runtimeSessions.lookup id = some handle ∧
          handle.terminationConfirmed)
  held : ∀ id record, w.maps.runtime.sessions.sessions.lookup id = some record →
    record.state ≠ .closed → (w.maps.runtime.runtimeSessions.lookup id).isSome

theorem Invariant.agrees (h : w.Invariant) (hrequest : w.request = .idle) : w.Agrees := by
  obtain ⟨hagree, -⟩ := h.agree_idle hrequest
  have hsame : ∀ id, (w.maps.sessionIndex.lookup id).isSome ↔
      (w.maps.runtime.runtimeSessions.lookup id).isSome := by
    intro id
    have hhandle := hagree.handles id
    simpa [SessionRuntime.slot] using hhandle.symm
  refine ⟨hsame, hagree.rooted, fun id hindex => ?_, fun id record hrecord hopen => ?_⟩
  · obtain ⟨handle, hhandle⟩ := Option.isSome_iff_exists.mp ((hsame id).mp hindex)
    have hsound := hagree.sound id
    rw [SessionRuntime.slot, hhandle] at hsound
    cases hrecord : w.maps.runtime.sessions.sessions.lookup id with
    | none =>
      rw [hrecord] at hsound
      exact hsound.elim
    | some record =>
      rw [hrecord] at hsound
      exact ⟨record, rfl, fun hclosed => ⟨handle, hhandle, hsound hclosed⟩⟩
  · have hsound := hagree.sound id
    rw [SessionRuntime.slot, hrecord] at hsound
    cases hhandle : w.maps.runtime.runtimeSessions.lookup id with
    | none =>
      rw [hhandle] at hsound
      exact absurd hsound hopen
    | some handle => rfl

/-- **The maps agree between requests** in the runs that avoid the four places. -/
theorem agrees_of_careful (runtimeSessions : Table String RuntimeRow) (generation : List UInt8)
    (ops : List DaemonOp) (w : DaemonRun)
    (hcareful : Along step Careful (init runtimeSessions generation) ops)
    (hrun : exec step (init runtimeSessions generation) ops = some w) (hidle : w.request = .idle) :
    w.Agrees := by
  have hinit : (init runtimeSessions generation).Invariant :=
    .of_idle .empty rfl rfl rfl (by simp [init]) (by simp [init])
  have hinvariant : w.Invariant :=
    exec_induction_along (fun _ _ _ h hop hstep => h.step hop hstep) hinit hcareful hrun
  exact hinvariant.agrees hidle

/-- A session whose child is found to have exited when a client writes to it stays in all three
maps until it is closed. -/
theorem agrees_of_write : ∃ w,
    exec step (init ∅ [0]) (creation "a" ++ [.reconcileClosed false,
      .write "a" "d" { writeAll := false, tryWait := some true }]) = some w ∧
      w.maps.runtime.state "a" = .ok .closed ∧ w.Agrees := by
  let ops := creation "a" ++ [.reconcileClosed false,
    .write "a" "d" { writeAll := false, tryWait := some true }]
  have hrun : (decide (Along step Careful (init ∅ [0]) ops) &&
      (exec step (init ∅ [0]) ops).any fun w =>
        w.isIdle && (w.maps.runtime.state "a").toOption = some .closed) = true := by
    decide +kernel
  rw [Bool.and_eq_true, decide_eq_true_eq] at hrun
  obtain ⟨halong, hrun⟩ := hrun
  obtain ⟨w, hw, hend⟩ := (Option.any_eq_true ..).mp hrun
  rw [Bool.and_eq_true, decide_eq_true_eq] at hend
  obtain ⟨hidle, hstate⟩ := hend
  have hidle := isIdle_iff.mp hidle
  have hclosed : w.maps.runtime.state "a" = .ok .closed := by
    cases hresult : w.maps.runtime.state "a" <;> simp [hresult, Except.toOption] at hstate ⊢
    exact hstate
  exact ⟨w, hw, hclosed, agrees_of_careful ∅ [0] ops w halong hw hidle⟩

/-- The child of a session exits by itself, and the reconciler finalizes the session. When the sessions
are listed, the daemon drops it from the index, and its handle stays. -/
theorem not_agrees_of_list :
    ¬∀ (runtimeSessions : Table String RuntimeRow) (generation : List UInt8) (ops : List DaemonOp)
      (w : DaemonRun), exec step (init runtimeSessions generation) ops = some w →
        w.request = .idle → w.Agrees := by
  intro h
  let ops := creation "a" ++ naturalExit ++ [.reconcileClosed false]
  have hrun : ((exec step (init ∅ [0]) ops).any fun w =>
      w.isIdle && (w.maps.sessionIndex.lookup "a").isNone &&
        (w.maps.runtime.runtimeSessions.lookup "a").isSome) = true := by
    decide +kernel
  obtain ⟨w, hw, hend⟩ := (Option.any_eq_true ..).mp hrun
  rw [Bool.and_eq_true, Bool.and_eq_true] at hend
  obtain ⟨⟨hidle, hindex⟩, hhandle⟩ := hend
  have hidle := isIdle_iff.mp hidle
  have hvisible := ((h ∅ [0] ops w hw hidle).same "a").mpr hhandle
  rw [Option.isNone_iff_eq_none.mp hindex] at hvisible
  cases hvisible

end DaemonRun

end Termd.Daemon
