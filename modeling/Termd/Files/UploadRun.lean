import Termd.Files.Requests
import Termd.Library.Transaction
import Termd.Library.Transition

/-!
# Concurrent requests to one upload

Several requests write to the file of an upload at the same time. Between the start of a request and
its commit other requests run, and so do the calls that end the upload. What keeps the requests
apart are the reservations: a request writes only in its own, and two never overlap.

## Where the reservations end

An abort drops all reservations before it removes the file, and it can fail after that: the upload
then goes on without them. A request that had begun before still writes where it had reserved, now
over what another request writes or has written there. `UploadRun.Careful` excludes such an abort
while a reservation is out.

## Main definitions

* `UploadRun`: an upload with its file, its requests and its commits
* `UploadStep`: the steps of the requests, and the calls that end the upload
* `UploadRun.Invariant`: the requests keep apart
* `UploadRun.Frozen`: bytes that no request may change any more

## Main results

* `UploadRun.Invariant.begin`, `UploadRun.Invariant.commit`: a request begins and ends
* `UploadRun.Invariant.step`: careful steps keep the requests apart, and what was written stays
-/

namespace Termd.Files

/-! ### The run of an upload -/

/-- A commit: what the request had written, whether the commit recorded it, and how it ended. -/
structure CommitRecord where
  wrote : List (ℕ × Bytes)
  recorded : Bool
  faults : PublishFaults
  answer : Except ProtocolError SessionFileHttpUploadCommit

/-- The commit recorded what the request had written. It succeeds then, unless it makes the upload
complete and an effect of publishing fails. -/
def CommitRecord.Succeeded (commit : CommitRecord) : Prop :=
  commit.recorded = true ∧ (commit.faults = .none → ∃ answer, commit.answer = .ok answer)

/-- An upload until it is forgotten, the file it was created with, the requests in flight and the
commits so far. -/
structure UploadRun where
  upload : Option SessionFileHttpUploadState
  file : Bytes
  requests : Table ℕ Request
  commits : List CommitRecord

inductive UploadStep
  | begin (id : ℕ) (target : Except ProtocolError Path) (cloneFault : Option ProtocolError)
      (payload : SessionFileHttpUploadStreamPayload) (chunks : List Bytes) (nowMs : ℕ)
  | chunk (id : ℕ) (fault : Option (ℕ × ProtocolError))
  | finish (id : ℕ) (identityFault : Option ProtocolError) (modifiedAtMs : Option ℕ)
  | commit (id : ℕ) (faults : PublishFaults) (nowMs : ℕ)
  | cancel (id nowMs : ℕ)
  | abort (target : Except ProtocolError Path) (payload : SessionFileHttpUploadStreamPayload)
      (cleanup : Cleanup) (nowMs : ℕ)
  | prune (cleanup : Cleanup) (nowMs : ℕ)

namespace UploadRun

/-- An upload as it is created, with a file of zeros. -/
def initial (upload : SessionFileHttpUploadState) : UploadRun where
  upload := some upload
  file := List.replicate upload.sizeBytes 0
  requests := ∅
  commits := []

def step (r : UploadRun) : UploadStep → Option UploadRun
  | .begin id target cloneFault payload chunks nowMs =>
    if (r.requests.lookup id).isSome then none
    else match chunksLen chunks with
      | none => some r
      | some writeLen =>
        match beginSessionFileHttpUploadWrite r.upload target cloneFault payload writeLen nowMs with
        | (upload, .ok (.write plan)) =>
          some { r with
            upload := upload
            requests := r.requests.insert id (.start payload plan chunks) }
        | (upload, _) => some { r with upload := upload }
  | .chunk id fault =>
    match r.requests.lookup id with
    | none => none
    | some request =>
      match request.phase with
      | .writing (chunk :: chunks) =>
        match writeChunk request.plan request.progress chunk fault r.file with
        | (file, .ok progress) =>
          some { r with
            file := file
            requests := r.requests.insert id
              { request with progress := progress, phase := .writing chunks } }
        | (file, .error _) =>
          some { r with
            file := file, requests := r.requests.insert id { request with phase := .failed } }
      | _ => none
  | .finish id identityFault modifiedAtMs =>
    match r.requests.lookup id with
    | none => none
    | some request =>
      match request.phase with
      | .writing [] =>
        match finishWrite request.plan request.progress identityFault modifiedAtMs r.file with
        | .ok result =>
          some { r with
            requests := r.requests.insert id { request with phase := .written result } }
        | .error _ =>
          some { r with requests := r.requests.insert id { request with phase := .failed } }
      | _ => none
  | .commit id faults nowMs =>
    match r.requests.lookup id with
    | none => none
    | some request =>
      match request.phase with
      | .written result =>
        let (upload, answer) :=
          commitSessionFileHttpUploadWrite r.upload request.payload result faults nowMs
        some { r with
          upload := upload
          requests := r.requests.erase id
          commits := {
            wrote := request.progress.wrote
            recorded := commitRecords r.upload request.payload result nowMs
            faults := faults
            answer := answer } :: r.commits }
      | _ => none
  | .cancel id nowMs =>
    match r.requests.lookup id with
    | none => none
    | some request =>
      some { r with
        upload := cancelSessionFileHttpUploadWrite r.upload request.payload
          request.plan.reservedRange nowMs
        requests := r.requests.erase id }
  | .abort target payload cleanup nowMs =>
    some { r with
      upload := (abortSessionFileHttpUpload r.upload target payload cleanup nowMs).1 }
  | .prune cleanup nowMs =>
    some { r with upload := pruneSessionFileHttpUpload r.upload cleanup nowMs }

/-! ### The requests keep apart -/

/-- The upload and its requests agree on what is reserved, and what is recorded came from a
commit. -/
structure Agrees (r : UploadRun) (upload : SessionFileHttpUploadState) : Prop where
  size : upload.sizeBytes = r.file.length
  within : upload.writtenRanges.Within upload.sizeBytes
  free : ∀ id request i, r.requests.lookup id = some request → request.Holds i →
    ¬upload.writtenRanges.Covers i
  payload : ∀ id request, r.requests.lookup id = some request →
    request.payload.uploadId = upload.uploadId ∧ request.payload.sessionId = upload.sessionId ∧
      request.payload.sizeBytes = upload.sizeBytes
  inflight : ∀ range ∈ upload.inflightRanges, ∃ id request,
    r.requests.lookup id = some request ∧
      request.plan.reservedRange = some (range.1, range.1 + range.2)
  reserved : upload.status = .active → ∀ id request start stop,
    r.requests.lookup id = some request → request.plan.reservedRange = some (start, stop) →
    (start, stop - start) ∈ upload.inflightRanges
  bytes : ∀ i, upload.writtenRanges.Covers i →
    ∃ commit ∈ r.commits, commit.Succeeded ∧ ∃ byte, Wrote commit.wrote i byte ∧
      r.file[i]? = some byte
  complete : upload.published = true ∨ upload.status = .complete →
    ∀ i, i < upload.sizeBytes → upload.writtenRanges.Covers i

/-- **The requests keep apart**, each in its reservation. -/
structure Invariant (r : UploadRun) : Prop where
  sound : ∀ id request, r.requests.lookup id = some request → request.Sound r.file
  apart : ∀ id id' request request' i, r.requests.lookup id = some request →
    r.requests.lookup id' = some request' → request.Holds i → request'.Holds i → id = id'
  agrees : ∀ upload, r.upload = some upload → r.Agrees upload

/-- The bytes at the offsets in `fixed` are those of `file`, and no request may change them. -/
structure Frozen (fixed : Set ℕ) (file : Bytes) (r : UploadRun) : Prop where
  bytes : ∀ i ∈ fixed, r.file[i]? = file[i]?
  free : ∀ id request i, r.requests.lookup id = some request → request.Holds i → i ∉ fixed
  covered : ∀ upload, r.upload = some upload → upload.status = .active →
    ∀ i ∈ fixed, upload.writtenRanges.Covers i

section Steps

variable {r r' : UploadRun} {upload : SessionFileHttpUploadState} {id : ℕ} {request : Request}
  {fixed : Set ℕ} {file : Bytes}

theorem Agrees.touch (h : r.Agrees upload) (nowMs : ℕ) :
    r.Agrees { upload with updatedAtMs := nowMs } :=
  ⟨h.size, h.within, h.free, h.payload, h.inflight, h.reserved, h.bytes, h.complete⟩

/-- Only the upload changes. -/
theorem Invariant.of_upload (h : r.Invariant) {upload? : Option SessionFileHttpUploadState}
    (hagrees : ∀ upload, upload? = some upload → r.Agrees upload) :
    { r with upload := upload? }.Invariant where
  sound := h.sound
  apart := h.apart
  agrees := by
    intro upload hupload
    have hagrees := hagrees upload hupload
    exact ⟨hagrees.size, hagrees.within, hagrees.free, hagrees.payload, hagrees.inflight,
      hagrees.reserved, hagrees.bytes, hagrees.complete⟩

theorem Frozen.of_upload (h : r.Frozen fixed file) {upload? : Option SessionFileHttpUploadState}
    (hcovered : ∀ upload, upload? = some upload → upload.status = .active →
      ∀ i ∈ fixed, upload.writtenRanges.Covers i) :
    Frozen fixed file { r with upload := upload? } :=
  ⟨h.bytes, h.free, hcovered⟩

/-- **A request writes on** in its reservation. -/
theorem Invariant.advance (h : r.Invariant) (hrequest : r.requests.lookup id = some request)
    {request' : Request} {file' : Bytes} (hplan : request'.plan = request.plan)
    (hpayload : request'.payload = request.payload) (hsound : request'.Sound file')
    (hlen : file'.length = r.file.length)
    (houtside : ∀ i, ¬request.Holds i → file'[i]? = r.file[i]?) :
    { r with file := file', requests := r.requests.insert id request' }.Invariant := by
  -- a request after the step was there before, with the same reservation
  have hbefore : ∀ id' other, AList.lookup id' (r.requests.insert id request') = some other →
      ∃ other', r.requests.lookup id' = some other' ∧ other.plan = other'.plan ∧
        other.payload = other'.payload := by
    intro id' other hother
    rcases Table.lookup_insert_eq_some.mp hother with ⟨rfl, rfl⟩ | ⟨-, hother⟩
    · exact ⟨request, hrequest, hplan, hpayload⟩
    · exact ⟨other, hother, rfl, rfl⟩
  constructor
  · intro id' other hother
    rcases Table.lookup_insert_eq_some.mp hother with ⟨rfl, rfl⟩ | ⟨hne, hother⟩
    · exact hsound
    · refine (h.sound id' other hother).frame hlen fun i hi => houtside i fun hheld => ?_
      exact hne (h.apart id' id other request i hother hrequest hi hheld)
  · intro id' id'' other other' i hother hother' hi hi'
    obtain ⟨before, hbefore', hplan', -⟩ := hbefore id' other hother
    obtain ⟨before', hbefore'', hplan'', -⟩ := hbefore id'' other' hother'
    refine h.apart id' id'' before before' i hbefore' hbefore'' ?_ ?_
    · rwa [Request.Holds, ← hplan']
    · rwa [Request.Holds, ← hplan'']
  · intro upload hupload
    have hagrees := h.agrees upload hupload
    refine ⟨hagrees.size.trans hlen.symm, hagrees.within, ?_, ?_, ?_, ?_, ?_, hagrees.complete⟩
    · intro id' other i hother hi
      obtain ⟨before, hbefore', hplan', -⟩ := hbefore id' other hother
      refine hagrees.free id' before i hbefore' ?_
      rwa [Request.Holds, ← hplan']
    · intro id' other hother
      obtain ⟨before, hbefore', -, hpayload'⟩ := hbefore id' other hother
      rw [hpayload']
      exact hagrees.payload id' before hbefore'
    · intro range hrange
      obtain ⟨id', owner, howner, hreserved⟩ := hagrees.inflight range hrange
      by_cases hid : id' = id
      · subst hid
        obtain rfl : owner = request := Option.some.inj (howner.symm.trans hrequest)
        exact ⟨id', request', AList.lookup_insert .., by rw [hplan, hreserved]⟩
      · exact ⟨id', owner, (AList.lookup_insert_ne hid).trans howner, hreserved⟩
    · intro hactive id' other start stop hother hreserved
      obtain ⟨before, hbefore', hplan', -⟩ := hbefore id' other hother
      exact hagrees.reserved hactive id' before start stop hbefore' (hplan' ▸ hreserved)
    · intro i hi
      obtain ⟨commit, hcommit, hsucceeded, byte, hwrote, hbyte⟩ := hagrees.bytes i hi
      refine ⟨commit, hcommit, hsucceeded, byte, hwrote, (houtside i fun hheld => ?_).trans hbyte⟩
      exact hagrees.free id request i hrequest hheld hi

theorem Frozen.advance (h : r.Frozen fixed file) (hrequest : r.requests.lookup id = some request)
    {request' : Request} {file' : Bytes} (hplan : request'.plan = request.plan)
    (houtside : ∀ i, ¬request.Holds i → file'[i]? = r.file[i]?) :
    Frozen fixed file { r with file := file', requests := r.requests.insert id request' } where
  bytes := by
    intro i hi
    refine (houtside i fun hheld => ?_).trans (h.bytes i hi)
    exact h.free id request i hrequest hheld hi
  free := by
    intro id' other i hother hheld
    rcases Table.lookup_insert_eq_some.mp hother with ⟨rfl, rfl⟩ | ⟨-, hother⟩
    · refine h.free id' request i hrequest ?_
      rwa [Request.Holds, ← hplan]
    · exact h.free id' other i hother hheld
  covered := h.covered

/-- The reservations in flight are disjoint and end by the size. -/
theorem Invariant.within_inflight (h : r.Invariant) (hagrees : r.Agrees upload) :
    upload.inflightRanges.Within upload.sizeBytes where
  pos := by
    intro range hrange
    obtain ⟨id, owner, howner, hreserved⟩ := hagrees.inflight range hrange
    have := (h.sound id owner howner).reserved _ _ hreserved
    omega
  le := by
    intro range hrange
    obtain ⟨id, owner, howner, hreserved⟩ := hagrees.inflight range hrange
    have := (h.sound id owner howner).reserved _ _ hreserved
    rw [hagrees.size]
    exact this.2
  disjoint := by
    intro range hrange other hother hlt
    obtain ⟨id, owner, howner, hreserved⟩ := hagrees.inflight range hrange
    obtain ⟨id', owner', howner', hreserved'⟩ := hagrees.inflight other hother
    have hpos := (h.sound id' owner' howner').reserved _ _ hreserved'
    by_contra hover
    -- both would hold the start of the later one, and so be the same
    obtain rfl : id = id' := h.apart id id' owner owner' other.1 howner howner'
      ⟨_, _, hreserved, hlt.le, not_le.mp hover⟩ ⟨_, _, hreserved', le_rfl, hpos.1⟩
    obtain rfl : owner = owner' := Option.some.inj (howner.symm.trans howner')
    have heq := Prod.mk.inj (Option.some.inj (hreserved.symm.trans hreserved'))
    omega

/-- **A request ends** and its reservation is released. -/
theorem Invariant.release (h : r.Invariant) (hagrees : r.Agrees upload)
    (hrequest : r.requests.lookup id = some request) :
    { r with requests := r.requests.erase id }.Agrees
        (upload.releaseInflightRange request.plan.reservedRange).1 ∧
      (upload.status = .active →
        (upload.releaseInflightRange request.plan.reservedRange).2 = .ok ()) := by
  have hfree : ∀ id' other i, AList.lookup id' (r.requests.erase id) = some other →
      other.Holds i → ¬upload.writtenRanges.Covers i := fun id' other i hother =>
    hagrees.free id' other i (Table.lookup_erase_eq_some.mp hother).2
  have hpayload : ∀ id' other, AList.lookup id' (r.requests.erase id) = some other →
      other.payload.uploadId = upload.uploadId ∧ other.payload.sessionId = upload.sessionId ∧
        other.payload.sizeBytes = upload.sizeBytes := fun id' other hother =>
    hagrees.payload id' other (Table.lookup_erase_eq_some.mp hother).2
  cases hreserved : request.plan.reservedRange with
  | none =>
    refine ⟨⟨hagrees.size, hagrees.within, hfree, hpayload, ?_, ?_, hagrees.bytes,
      hagrees.complete⟩, fun _ => rfl⟩
    · intro range hrange
      obtain ⟨id', owner, howner, hreserved'⟩ := hagrees.inflight range hrange
      refine ⟨id', owner, Table.lookup_erase_eq_some.mpr ⟨?_, howner⟩, hreserved'⟩
      rintro rfl
      obtain rfl : owner = request := Option.some.inj (howner.symm.trans hrequest)
      cases hreserved.symm.trans hreserved'
    · intro hactive id' other start stop hother
      exact hagrees.reserved hactive id' other start stop (Table.lookup_erase_eq_some.mp hother).2
  | some range =>
    obtain ⟨start, stop⟩ := range
    obtain ⟨hlt, -⟩ := (h.sound id request hrequest).reserved start stop hreserved
    have hrelease : upload.releaseInflightRange (some (start, stop)) =
        ({ upload with inflightRanges := upload.inflightRanges.erase start },
          if upload.inflightRanges.lookup start = some (stop - start) then .ok ()
          else .error .invalidState) := if_neg (by omega)
    rw [hrelease]
    refine ⟨⟨hagrees.size, hagrees.within, hfree, hpayload, ?_, ?_, hagrees.bytes,
      hagrees.complete⟩, fun hactive => if_pos ?_⟩
    · intro range hrange
      obtain ⟨hrange, hne⟩ := OrderedMap.mem_erase.mp hrange
      obtain ⟨id', owner, howner, hreserved'⟩ := hagrees.inflight range hrange
      refine ⟨id', owner, Table.lookup_erase_eq_some.mpr ⟨?_, howner⟩, hreserved'⟩
      rintro rfl
      obtain rfl : owner = request := Option.some.inj (howner.symm.trans hrequest)
      cases hreserved.symm.trans hreserved'
      exact hne rfl
    · intro hactive id' other start' stop' hother hreserved'
      obtain ⟨hne, hother⟩ := Table.lookup_erase_eq_some.mp hother
      have hmem := hagrees.reserved hactive id' other start' stop' hother hreserved'
      refine OrderedMap.mem_erase.mpr ⟨hmem, fun heq => hne ?_⟩
      -- with the same start both would hold it
      dsimp only at heq
      obtain ⟨hlt', -⟩ := (h.sound id' other hother).reserved start' stop' hreserved'
      exact h.apart id' id other request start hother hrequest
        ⟨start', stop', hreserved', by omega, by omega⟩ ⟨start, stop, hreserved, le_rfl, hlt⟩
    · exact OrderedMap.lookup_eq_some.mpr
        (hagrees.reserved hactive id request start stop hrequest hreserved)

/-- The other requests without one of them. -/
theorem Invariant.erase (h : r.Invariant) (id : ℕ) {upload? : Option SessionFileHttpUploadState}
    {commits : List CommitRecord}
    (hagrees : ∀ upload, upload? = some upload →
      { r with requests := r.requests.erase id, commits := commits }.Agrees upload) :
    { r with
      upload := upload?
      requests := r.requests.erase id
      commits := commits }.Invariant where
  sound := fun id' other hother => h.sound id' other (Table.lookup_erase_eq_some.mp hother).2
  apart := fun id' id'' other other' i hother hother' =>
    h.apart id' id'' other other' i (Table.lookup_erase_eq_some.mp hother).2
      (Table.lookup_erase_eq_some.mp hother').2
  agrees := by
    intro upload hupload
    have hagrees := hagrees upload hupload
    exact ⟨hagrees.size, hagrees.within, hagrees.free, hagrees.payload, hagrees.inflight,
      hagrees.reserved, hagrees.bytes, hagrees.complete⟩

theorem Frozen.erase (h : r.Frozen fixed file) (id : ℕ)
    {upload? : Option SessionFileHttpUploadState} {commits : List CommitRecord}
    (hcovered : ∀ upload, upload? = some upload → upload.status = .active →
      ∀ i ∈ fixed, upload.writtenRanges.Covers i) :
    Frozen fixed file
      { r with upload := upload?, requests := r.requests.erase id, commits := commits } where
  bytes := h.bytes
  free := fun id' other i hother => h.free id' other i (Table.lookup_erase_eq_some.mp hother).2
  covered := hcovered

/-- **A commit** of an upload that is active records all that the request wrote. -/
theorem Invariant.commitActive (h : r.Invariant) (hagrees : r.Agrees upload)
    (hactive : upload.status = .active) (hrequest : r.requests.lookup id = some request)
    {result : SessionFileHttpUploadFileWriteResult} (hphase : request.phase = .written result)
    (faults : PublishFaults) {upload' : SessionFileHttpUploadState}
    {answer : Except ProtocolError SessionFileHttpUploadCommit}
    (hcommit : upload.commitActive result faults = (upload', answer)) :
    upload.recordsAll result = true ∧
    { r with
      requests := r.requests.erase id
      commits := ⟨request.progress.wrote, true, faults, answer⟩ :: r.commits }.Agrees upload' ∧
    (∀ i, upload.writtenRanges.Covers i → upload'.writtenRanges.Covers i) ∧
    (∀ progress, answer = .ok (.complete progress) → upload'.status = .complete) := by
  have hsound := h.sound id request hrequest
  obtain ⟨hreserved, hranges⟩ := hsound.result result hphase
  obtain ⟨hreleased, hok⟩ := h.release hagrees hrequest
  obtain ⟨inflight, hinflight⟩ :=
    SessionFileHttpUploadState.exists_releaseInflightRange upload request.plan.reservedRange
  rw [hinflight] at hreleased
  have hrelease : upload.releaseInflightRange result.reservedRange =
      ({ upload with inflightRanges := inflight }, .ok ()) := by
    rw [hreserved]
    exact Prod.ext hinflight (hok hactive)
  -- the offsets of a segment are in the reservation
  have hholds : ∀ segment ∈ request.progress.wrote, ∀ i, segment.1 ≤ i →
      i < segment.1 + segment.2.length → request.Holds i := by
    intro segment hsegment i hi hi'
    have := ((hsound.wrote segment hsegment).2.2 (i - segment.1) (by omega)).1
    rwa [Nat.add_sub_cancel' hi] at this
  have hwritten : ∀ range ∈ result.writtenRanges, range.1 < range.2 ∧
      range.2 ≤ upload.sizeBytes ∧ ∀ i, range.1 ≤ i → i < range.2 → request.Holds i := by
    intro range hrange
    rw [hranges] at hrange
    obtain ⟨segment, hsegment, rfl⟩ := List.mem_map.mp hrange
    have hpos : 0 < segment.2.length := List.length_pos_iff.mpr (hsound.wrote segment hsegment).1
    obtain ⟨start, stop, heq, -, hstop⟩ :=
      hholds segment hsegment (segment.1 + segment.2.length - 1) (by omega) (by omega)
    have hle := (hsound.reserved start stop heq).2
    rw [hagrees.size]
    exact ⟨by dsimp only; omega, by dsimp only; omega, hholds segment hsegment⟩
  obtain ⟨written, hrecord, hwithin, hcovers⟩ :=
    SessionFileHttpUploadState.recordWrittenRanges_of_free
      { upload with inflightRanges := inflight } hagrees.within
      (by
        rw [hranges]
        exact List.pairwise_map.mpr hsound.ordered)
      (fun range hrange => ⟨(hwritten range hrange).1, (hwritten range hrange).2.1⟩)
      (fun range hrange i hi hi' =>
        hagrees.free id request i hrequest ((hwritten range hrange).2.2 i hi hi'))
  obtain ⟨modifiedAtMs, published, status, answer', hcommit', hanswer, hstatus⟩ :=
    SessionFileHttpUploadState.commitActive_cases faults hrelease hrecord hwithin
  obtain ⟨rfl, rfl⟩ := Prod.mk.inj (hcommit.symm.trans hcommit')
  have hmono : ∀ i, upload.writtenRanges.Covers i → written.Covers i := fun i hi =>
    (hcovers i).mpr (.inl hi)
  refine ⟨?_, ⟨hreleased.size, hwithin, ?_, hreleased.payload, hreleased.inflight, ?_, ?_, ?_⟩,
    hmono, ?_⟩
  · rw [SessionFileHttpUploadState.recordsAll, hrelease]
    simp only [hrecord]
  · -- another request holds nothing of what this one wrote
    intro id' other i hother hi hcovered
    obtain ⟨hne, hother⟩ := Table.lookup_erase_eq_some.mp hother
    rcases (hcovers i).mp hcovered with hcovered | ⟨range, hrange, hstart, hstop⟩
    · exact hagrees.free id' other i hother hi hcovered
    · exact hne (h.apart id' id other request i hother hrequest hi
        ((hwritten range hrange).2.2 i hstart hstop))
  · intro _ id' other start stop hother hreserved'
    exact hreleased.reserved hactive id' other start stop hother hreserved'
  · intro i hi
    rcases (hcovers i).mp hi with hi | ⟨range, hrange, hstart, hstop⟩
    · obtain ⟨commit, hmem, hrest⟩ := hagrees.bytes i hi
      exact ⟨commit, List.mem_cons_of_mem _ hmem, hrest⟩
    · rw [hranges] at hrange
      obtain ⟨segment, hsegment, rfl⟩ := List.mem_map.mp hrange
      dsimp only at hstart hstop
      have hbyte := ((hsound.wrote segment hsegment).2.2 (i - segment.1) (by omega)).2
      rw [Nat.add_sub_cancel' hstart] at hbyte
      have hlt : i - segment.1 < segment.2.length := by omega
      refine ⟨_, List.mem_cons_self .., ⟨rfl, hanswer⟩, segment.2[i - segment.1], ?_, ?_⟩
      · exact ⟨segment, hsegment, hstart, List.getElem?_eq_getElem hlt⟩
      · rw [hbyte, List.getElem?_eq_getElem hlt]
  · intro hcomplete i hi
    rcases hstatus with ⟨rfl, rfl, -⟩ | ⟨hall, -⟩
    · exact hmono i (hagrees.complete hcomplete i hi)
    · exact hall i hi
  · rintro progress rfl
    rcases hstatus with ⟨-, -, hne⟩ | ⟨-, rfl | ⟨-, error, herror⟩⟩
    · exact absurd rfl (hne progress)
    · rfl
    · cases herror

/-- **The end of a request by a commit.** -/
theorem Invariant.commit (h : r.Invariant) (hrequest : r.requests.lookup id = some request)
    {result : SessionFileHttpUploadFileWriteResult} (hphase : request.phase = .written result)
    (faults : PublishFaults) (nowMs : ℕ) {upload? : Option SessionFileHttpUploadState}
    {answer : Except ProtocolError SessionFileHttpUploadCommit}
    (hcommit : commitSessionFileHttpUploadWrite r.upload request.payload result faults nowMs =
      (upload?, answer)) {commits : List CommitRecord}
    (hcommits : commits = {
      wrote := request.progress.wrote
      recorded := commitRecords r.upload request.payload result nowMs
      faults := faults
      answer := answer } :: r.commits) :
    { r with
      upload := upload?, requests := r.requests.erase id, commits := commits }.Invariant ∧
    (∀ progress, answer = .ok (.complete progress) →
      ∃ upload', upload? = some upload' ∧ upload'.status = .complete) ∧
    ∀ upload', upload? = some upload' → ∃ upload, r.upload = some upload ∧
      (upload'.status = .active → upload.status = .active) ∧
      ∀ i, upload.writtenRanges.Covers i → upload'.writtenRanges.Covers i := by
  cases hupload : r.upload with
  | none =>
    rw [hupload] at hcommit
    cases hcommit
    refine ⟨h.erase id ?_, ?_, ?_⟩
    · intro _ hnone
      cases hnone
    · intro _ hcomplete
      cases hcomplete
    · intro _ hnone
      cases hnone
  | some upload =>
    obtain ⟨hid, hsession, hsize⟩ := (h.agrees upload hupload).payload id request hrequest
    have hagrees := (h.agrees upload hupload).touch nowMs
    rw [hupload, commitSessionFileHttpUploadWrite, if_neg (by simp_all)] at hcommit
    dsimp only at hcommit
    -- what is recorded before stays in the log
    have hlog : ∀ {upload' : SessionFileHttpUploadState},
        { r with requests := r.requests.erase id }.Agrees upload' →
        { r with requests := r.requests.erase id, commits := commits }.Agrees upload' := by
      intro upload' hagrees'
      refine ⟨hagrees'.size, hagrees'.within, hagrees'.free, hagrees'.payload, hagrees'.inflight,
        hagrees'.reserved, fun i hi => ?_, hagrees'.complete⟩
      obtain ⟨commit, hmem, hrest⟩ := hagrees'.bytes i hi
      exact ⟨commit, hcommits ▸ List.mem_cons_of_mem _ hmem, hrest⟩
    obtain ⟨hreserved, -⟩ := (h.sound id request hrequest).result result hphase
    obtain ⟨inflight, hinflight⟩ := SessionFileHttpUploadState.exists_releaseInflightRange
      { upload with updatedAtMs := nowMs } request.plan.reservedRange
    have hreleased := (h.release hagrees hrequest).1
    rw [hreserved] at hcommit
    split at hcommit
    · rename_i hactive
      cases hend : { upload with updatedAtMs := nowMs }.commitActive result faults with
      | mk upload' answer' =>
        rw [hend] at hcommit
        cases hcommit
        obtain ⟨hrecords, hagrees', hcovers, hcomplete⟩ :=
          h.commitActive hagrees hactive hrequest hphase faults hend
        have hrecorded : commitRecords r.upload request.payload result nowMs = true := by
          rw [hupload, commitRecords_of_active hid hsession hsize hactive, hrecords]
        refine ⟨h.erase id ?_, fun progress heq => ⟨upload', rfl, hcomplete progress heq⟩, ?_⟩
        · rintro _ ⟨⟩
          rw [hcommits, hrecorded]
          exact hagrees'
        · rintro _ ⟨⟩
          exact ⟨upload, rfl, fun _ => hactive, hcovers⟩
    · rename_i hcomplete
      rw [hinflight] at hcommit hreleased
      cases hcommit
      refine ⟨h.erase id ?_, fun progress _ => ⟨_, rfl, hcomplete⟩, ?_⟩
      · rintro _ ⟨⟩
        exact hlog hreleased
      · rintro _ ⟨⟩
        exact ⟨upload, rfl, fun hactive => hactive, fun _ hi => hi⟩
    · rw [hinflight] at hcommit hreleased
      cases hcommit
      refine ⟨h.erase id ?_, ?_, ?_⟩
      · rintro _ ⟨⟩
        exact hlog hreleased
      · intro _ hcomplete
        cases hcomplete
      · rintro _ ⟨⟩
        exact ⟨upload, rfl, fun hactive => hactive, fun _ hi => hi⟩

/-- **A request joins** the others, with what it reserved. -/
theorem Invariant.join (h : r.Invariant) (hagrees : r.Agrees upload)
    (hnew : r.requests.lookup id = none) (hsound : request.Sound r.file)
    (hpayload : request.payload.uploadId = upload.uploadId ∧
      request.payload.sessionId = upload.sessionId ∧ request.payload.sizeBytes = upload.sizeBytes)
    (hfree : ∀ i, request.Holds i → ¬upload.writtenRanges.Covers i)
    (hapart : ∀ id' other i, r.requests.lookup id' = some other → other.Holds i →
      ¬request.Holds i) {inflight : Ranges}
    (hinflight : ∀ range, range ∈ inflight ↔ range ∈ upload.inflightRanges ∨
      request.plan.reservedRange = some (range.1, range.1 + range.2)) :
    { r with
      upload := some { upload with inflightRanges := inflight }
      requests := r.requests.insert id request }.Invariant where
  sound := by
    intro id' other hlookup
    rcases Table.lookup_insert_eq_some.mp hlookup with ⟨rfl, rfl⟩ | ⟨-, hlookup⟩
    · exact hsound
    · exact h.sound id' other hlookup
  apart := by
    intro id' id'' other other' i hlookup hlookup' hi hi'
    rcases Table.lookup_insert_eq_some.mp hlookup with ⟨rfl, rfl⟩ | ⟨-, hbefore⟩ <;>
      rcases Table.lookup_insert_eq_some.mp hlookup' with ⟨rfl, rfl⟩ | ⟨-, hbefore'⟩
    · rfl
    · exact absurd hi (hapart id'' other' i hbefore' hi')
    · exact absurd hi' (hapart id' other i hbefore hi)
    · exact h.apart id' id'' other other' i hbefore hbefore' hi hi'
  agrees := by
    rintro _ ⟨⟩
    refine ⟨hagrees.size, hagrees.within, ?_, ?_, ?_, ?_, hagrees.bytes, hagrees.complete⟩
    · intro id' other i hlookup hi
      rcases Table.lookup_insert_eq_some.mp hlookup with ⟨rfl, rfl⟩ | ⟨-, hlookup⟩
      · exact hfree i hi
      · exact hagrees.free id' other i hlookup hi
    · intro id' other hlookup
      rcases Table.lookup_insert_eq_some.mp hlookup with ⟨rfl, rfl⟩ | ⟨-, hlookup⟩
      · exact hpayload
      · exact hagrees.payload id' other hlookup
    · intro range hrange
      rcases (hinflight range).mp hrange with hrange | hreserved
      · obtain ⟨id', owner, howner, hreserved⟩ := hagrees.inflight range hrange
        refine ⟨id', owner, (AList.lookup_insert_ne ?_).trans howner, hreserved⟩
        rintro rfl
        cases hnew.symm.trans howner
      · exact ⟨id, request, AList.lookup_insert .., hreserved⟩
    · intro hactive id' other start stop hlookup hreserved
      rcases Table.lookup_insert_eq_some.mp hlookup with ⟨rfl, rfl⟩ | ⟨-, hlookup⟩
      · obtain ⟨hlt, -⟩ := hsound.reserved start stop hreserved
        refine (hinflight _).mpr (.inr ?_)
        rw [hreserved, Nat.add_sub_cancel' hlt.le]
      · exact (hinflight _).mpr
          (.inl (hagrees.reserved hactive id' other start stop hlookup hreserved))

/-- **A request begins**: its reservation is free of what is written and of the other
reservations. -/
theorem Invariant.begin (h : r.Invariant) (hnew : r.requests.lookup id = none)
    {target : Except ProtocolError Path} {cloneFault : Option ProtocolError}
    {payload : SessionFileHttpUploadStreamPayload} {chunks : List Bytes} {writeLen nowMs : ℕ}
    {upload? : Option SessionFileHttpUploadState} {plan : SessionFileHttpUploadWritePlan}
    (hlen : chunksLen chunks = some writeLen)
    (hbegin : beginSessionFileHttpUploadWrite r.upload target cloneFault payload writeLen nowMs =
      (upload?, .ok (.write plan))) :
    { r with
      upload := upload?
      requests := r.requests.insert id (.start payload plan chunks) }.Invariant ∧
    ∃ upload, r.upload = some upload ∧ upload.status = .active ∧
      (∀ i, (Request.start payload plan chunks).Holds i → ¬upload.writtenRanges.Covers i) ∧
      ∀ upload', upload? = some upload' → upload'.writtenRanges = upload.writtenRanges := by
  obtain ⟨upload, upload', hupload, rfl, hactive, hid, hsession, hpayload, hreserve, hsize, hoffset,
    hwritten⟩ := begin_eq_write hbegin
  have hagrees := (h.agrees upload hupload).touch nowMs
  have hwithin := h.within_inflight hagrees
  have hfile := upload.size_lt
  -- what is left to show about the request is where it may write
  have hsound : plan.writtenRanges = upload.writtenRanges →
      (∀ start stop, plan.reservedRange = some (start, stop) →
        start < stop ∧ stop ≤ upload.sizeBytes) →
      (∀ i, payload.offsetBytes ≤ i → i < payload.offsetBytes + writeLen →
        (Request.start payload plan chunks).Holds i ∨
          plan.reservedRange = none ∧ plan.writtenRanges.Covers i) →
      (Request.start payload plan chunks).Sound r.file := by
    intro hranges hreserved hroom
    have hsum : (chunks.map List.length).sum = writeLen := by
      have := foldlM_checkedAdd_eq_some hlen
      omega
    rw [show upload.sizeBytes = r.file.length from hagrees.size] at hreserved hfile
    refine ⟨hsize.trans hagrees.size, hfile, ?_, hreserved, ?_, ?_, .nil, ?_⟩
    · show plan.writtenRanges.Within r.file.length
      rw [hranges, ← hagrees.size]
      exact hagrees.within
    · rintro _ ⟨⟩
      show ∀ i, plan.offsetBytes ≤ i → i < plan.offsetBytes + (chunks.map List.length).sum → _
      rw [hsum, hoffset]
      exact hroom
    · intro segment hsegment
      cases hsegment
    · intro _ hresult
      cases hresult
  rcases SessionFileHttpUploadState.reserveWriteRange_eq_ok hreserve with
    ⟨rfl, hnone, hcovered⟩ | ⟨hpos, hle, hfreeWritten, hfreeInflight, rfl, hsome⟩
  · -- all was written before
    have hholds : ∀ i, ¬(Request.start payload plan chunks).Holds i := by
      rintro i ⟨start, stop, hreserved, -⟩
      cases hnone.symm.trans hreserved
    refine ⟨h.join hagrees hnew (hsound hwritten ?_ fun i hi hi' => .inr ⟨hnone, ?_⟩)
      ⟨hid, hsession, hpayload⟩ (fun i hi => absurd hi (hholds i)) (fun _ _ i _ _ => hholds i) ?_,
      upload, hupload, hactive, fun i hi => absurd hi (hholds i), ?_⟩
    · intro start stop hreserved
      cases hnone.symm.trans hreserved
    · rw [hwritten]
      exact hcovered i hi hi'
    · intro range
      refine ⟨.inl, fun hrange => hrange.resolve_right fun hreserved => ?_⟩
      cases hnone.symm.trans hreserved
    · rintro _ ⟨⟩
      rfl
  · -- the range was reserved
    have hholds : ∀ i, (Request.start payload plan chunks).Holds i ↔
        payload.offsetBytes ≤ i ∧ i < payload.offsetBytes + writeLen := by
      intro i
      constructor
      · rintro ⟨start, stop, hreserved, hi⟩
        cases hsome.symm.trans hreserved
        exact hi
      · intro hi
        exact ⟨_, _, hsome, hi⟩
    have hfree : ∀ i, (Request.start payload plan chunks).Holds i →
        ¬upload.writtenRanges.Covers i := fun i hi =>
      not_covers_of_rangeOverlaps hagrees.within hfile hfreeWritten ((hholds i).mp hi).1
        ((hholds i).mp hi).2
    have hfree' : ∀ i, (Request.start payload plan chunks).Holds i →
        ¬upload.inflightRanges.Covers i := fun i hi =>
      not_covers_of_rangeOverlaps hwithin hfile hfreeInflight ((hholds i).mp hi).1
        ((hholds i).mp hi).2
    refine ⟨h.join hagrees hnew (hsound hwritten ?_ fun i hi hi' => .inl ((hholds i).mpr ⟨hi, hi'⟩))
      ⟨hid, hsession, hpayload⟩ hfree ?_ ?_, upload, hupload, hactive, hfree, ?_⟩
    · intro start stop hreserved
      cases hsome.symm.trans hreserved
      exact ⟨by omega, hle⟩
    · rintro id' other i hlookup ⟨start, stop, hreserved, hstart, hstop⟩ hi
      have hmem := hagrees.reserved hactive id' other start stop hlookup hreserved
      exact hfree' i hi ⟨_, hmem, hstart, by dsimp only; omega⟩
    · rintro ⟨start, len⟩
      rw [OrderedMap.mem_insert,
        show (Request.start payload plan chunks).plan.reservedRange = _ from hsome]
      constructor
      · rintro (heq | ⟨hmem, -⟩)
        · cases heq
          exact .inr rfl
        · exact .inl hmem
      · rintro (hmem | heq)
        · refine .inr ⟨hmem, ?_⟩
          -- another reservation with the same start would cover it
          rintro rfl
          have hlen := hwithin.pos _ hmem
          dsimp only at hlen
          exact hfree' payload.offsetBytes ((hholds _).mpr ⟨le_rfl, by omega⟩)
            ⟨_, hmem, le_rfl, by dsimp only; omega⟩
        · have heq := Prod.mk.inj (Option.some.inj heq)
          dsimp only at heq
          exact .inl (Prod.ext (by omega) (by dsimp only; omega))
    · rintro _ ⟨⟩
      rfl

theorem Invariant.cancel (h : r.Invariant) (hrequest : r.requests.lookup id = some request)
    (nowMs : ℕ) :
    { r with
      upload := cancelSessionFileHttpUploadWrite r.upload request.payload
        request.plan.reservedRange nowMs
      requests := r.requests.erase id }.Invariant := by
  refine h.erase id fun upload' hcancel => ?_
  obtain ⟨upload, hupload, rfl⟩ := Option.map_eq_some_iff.mp hcancel
  have hagrees := h.agrees upload hupload
  rw [if_neg (by simp [(hagrees.payload id request hrequest).1])]
  exact (h.release hagrees hrequest).1.touch nowMs

end Steps

/-! ### Careful steps -/

/-- No abort drops reservations that are out, and then fails. -/
def Careful (r : UploadRun) : UploadStep → Prop
  | .abort target payload cleanup _ =>
    abortClears r.upload target payload = true → cleanup.succeeds = true ∨
      ∀ entry ∈ r.requests.entries, entry.2.plan.reservedRange = none
  | _ => True

instance (r : UploadRun) : ∀ l, Decidable (r.Careful l)
  | .abort target payload cleanup _ =>
    inferInstanceAs (Decidable (abortClears r.upload target payload = true →
      cleanup.succeeds = true ∨ ∀ entry ∈ r.requests.entries, entry.2.plan.reservedRange = none))
  | .begin .. | .chunk .. | .finish .. | .commit .. | .cancel .. | .prune .. => .isTrue trivial

section Careful

variable {r r' : UploadRun} {fixed : Set ℕ} {file : Bytes}

theorem Invariant.abort (h : r.Invariant) {target : Except ProtocolError Path}
    {payload : SessionFileHttpUploadStreamPayload} {cleanup : Cleanup} {nowMs : ℕ}
    (hcareful : r.Careful (.abort target payload cleanup nowMs)) :
    { r with upload :=
        (abortSessionFileHttpUpload r.upload target payload cleanup nowMs).1 }.Invariant := by
  rcases abort_cases r.upload target payload cleanup nowMs with
    heq | ⟨hclears, upload, status, updatedAtMs, hupload, hpublished, hcomplete, heq, hstatus⟩
  · rw [heq]
    exact h
  rw [heq]
  refine h.of_upload ?_
  rintro _ ⟨⟩
  have hagrees := h.agrees upload hupload
  refine ⟨hagrees.size, hagrees.within, hagrees.free, hagrees.payload,
    fun _ hrange => absurd hrange OrderedMap.notMem_empty, ?_, hagrees.bytes, ?_⟩
  · intro hactive id request start stop hrequest hreserved
    rcases hstatus with rfl | ⟨rfl, hfails⟩
    · cases hactive
    · -- the abort failed, and no request in flight had reserved anything
      rcases hcareful hclears with hsucceeds | hnone
      · cases hfails.symm.trans hsucceeds
      · cases (hnone _ (AList.mem_lookup_iff.mp hrequest)).symm.trans hreserved
  · rintro (hpublished' | hcomplete')
    · cases hpublished.symm.trans hpublished'
    · rcases hstatus with rfl | ⟨rfl, -⟩
      · cases hcomplete'
      · exact absurd hcomplete' hcomplete

theorem Invariant.prune (h : r.Invariant) (cleanup : Cleanup) (nowMs : ℕ) :
    { r with upload := pruneSessionFileHttpUpload r.upload cleanup nowMs }.Invariant := by
  refine h.of_upload fun upload' hprune => ?_
  obtain ⟨upload, updatedAtMs, hupload, rfl⟩ := prune_eq_some hprune
  exact (h.agrees upload hupload).touch updatedAtMs

/-- **Careful steps keep the requests apart**, and what was written stays. -/
theorem Invariant.step (h : r.Invariant) {l : UploadStep} (hcareful : r.Careful l)
    (hstep : r.step l = some r') :
    r'.Invariant ∧ ∀ fixed file, r.Frozen fixed file → r'.Frozen fixed file := by
  cases l with
  | begin id target cloneFault payload chunks nowMs =>
    rw [UploadRun.step] at hstep
    split at hstep
    · cases hstep
    rename_i hnew
    have hnew : r.requests.lookup id = none := by simpa using hnew
    split at hstep
    · cases hstep
      exact ⟨h, fun _ _ hfrozen => hfrozen⟩
    rename_i writeLen hlen
    split at hstep
    · rename_i upload? plan hbegin
      cases hstep
      obtain ⟨hinvariant, upload, hupload, hactive, hfree, hwritten⟩ := h.begin hnew hlen hbegin
      refine ⟨hinvariant, fun fixed file hfrozen => ⟨hfrozen.bytes, ?_, ?_⟩⟩
      · intro id' other i hlookup hi hfixed
        rcases Table.lookup_insert_eq_some.mp hlookup with ⟨rfl, rfl⟩ | ⟨-, hlookup⟩
        · exact hfree i hi (hfrozen.covered upload hupload hactive i hfixed)
        · exact hfrozen.free id' other i hlookup hi hfixed
      · intro upload' hupload' _ i hi
        rw [hwritten upload' hupload']
        exact hfrozen.covered upload hupload hactive i hi
    · rename_i upload? result hne hbegin
      cases hstep
      rcases begin_ne_write hbegin (fun plan heq => hne plan (heq ▸ rfl)) with
        rfl | ⟨upload, hupload, rfl⟩
      · exact ⟨h, fun _ _ hfrozen => hfrozen⟩
      · refine ⟨h.of_upload ?_, fun fixed file hfrozen => hfrozen.of_upload ?_⟩
        · rintro _ ⟨⟩
          exact (h.agrees upload hupload).touch nowMs
        · rintro _ ⟨⟩
          exact hfrozen.covered upload hupload
  | chunk id fault =>
    rw [UploadRun.step] at hstep
    split at hstep
    · cases hstep
    rename_i request hrequest
    split at hstep
    · rename_i chunk chunks hphase
      split at hstep
      all_goals
        rename_i hwrite
        cases hstep
        obtain ⟨hlen, houtside, hsound⟩ :=
          (h.sound id request hrequest).writeChunk hphase hwrite
        exact ⟨h.advance hrequest rfl rfl hsound hlen houtside,
          fun _ _ hfrozen => hfrozen.advance hrequest rfl houtside⟩
    · cases hstep
  | finish id identityFault modifiedAtMs =>
    rw [UploadRun.step] at hstep
    split at hstep
    · cases hstep
    rename_i request hrequest
    split at hstep
    · split at hstep
      · rename_i result hfinish
        cases hstep
        exact ⟨h.advance hrequest rfl rfl ((h.sound id request hrequest).finish hfinish) rfl
          fun _ _ => rfl, fun _ _ hfrozen => hfrozen.advance hrequest rfl fun _ _ => rfl⟩
      · cases hstep
        exact ⟨h.advance hrequest rfl rfl (h.sound id request hrequest).fail rfl fun _ _ => rfl,
          fun _ _ hfrozen => hfrozen.advance hrequest rfl fun _ _ => rfl⟩
    · cases hstep
  | commit id faults nowMs =>
    rw [UploadRun.step] at hstep
    split at hstep
    · cases hstep
    rename_i request hrequest
    split at hstep
    · rename_i result hphase
      cases hcommit :
        commitSessionFileHttpUploadWrite r.upload request.payload result faults nowMs with
      | mk upload? answer =>
        rw [hcommit] at hstep
        cases hstep
        obtain ⟨hinvariant, -, hgrows⟩ := h.commit hrequest hphase faults nowMs hcommit rfl
        refine ⟨hinvariant, fun fixed file hfrozen => hfrozen.erase id ?_⟩
        intro upload' hupload' hactive' i hi
        obtain ⟨upload, hupload, hactive, hcovers⟩ := hgrows upload' hupload'
        exact hcovers i (hfrozen.covered upload hupload (hactive hactive') i hi)
    · cases hstep
  | cancel id nowMs =>
    rw [UploadRun.step] at hstep
    split at hstep
    · cases hstep
    rename_i request hrequest
    cases hstep
    refine ⟨h.cancel hrequest nowMs, fun fixed file hfrozen => hfrozen.erase id ?_⟩
    intro upload' hcancel hactive i hi
    obtain ⟨upload, hupload, rfl⟩ := Option.map_eq_some_iff.mp hcancel
    rw [if_neg (by simp [((h.agrees upload hupload).payload id request hrequest).1])] at hactive ⊢
    obtain ⟨inflight, hinflight⟩ :=
      SessionFileHttpUploadState.exists_releaseInflightRange upload request.plan.reservedRange
    rw [hinflight] at hactive ⊢
    exact hfrozen.covered upload hupload hactive i hi
  | abort target payload cleanup nowMs =>
    cases hstep
    refine ⟨h.abort hcareful, fun fixed file hfrozen => hfrozen.of_upload ?_⟩
    intro upload' habort hactive i hi
    rcases abort_cases r.upload target payload cleanup nowMs with
      heq | ⟨-, upload, status, updatedAtMs, hupload, -, -, heq, hstatus⟩
    · exact hfrozen.covered upload' (heq.symm.trans habort) hactive i hi
    · cases heq.symm.trans habort
      rcases hstatus with rfl | ⟨rfl, -⟩
      · cases hactive
      · exact hfrozen.covered upload hupload hactive i hi
  | prune cleanup nowMs =>
    cases hstep
    refine ⟨h.prune cleanup nowMs, fun fixed file hfrozen => hfrozen.of_upload ?_⟩
    intro upload' hprune hactive i hi
    obtain ⟨upload, updatedAtMs, hupload, rfl⟩ := prune_eq_some hprune
    exact hfrozen.covered upload hupload hactive i hi

/-- Everything is covered, and came from commits. -/
structure Full (r : UploadRun) (upload : SessionFileHttpUploadState) : Prop where
  size : upload.sizeBytes = r.file.length
  covered : ∀ i, i < upload.sizeBytes → upload.writtenRanges.Covers i
  bytes : ∀ i, i < upload.sizeBytes →
    ∃ commit ∈ r.commits, commit.Succeeded ∧ ∃ byte, Wrote commit.wrote i byte ∧
      r.file[i]? = some byte

/-- The ranges are in order, and an upload that is published or complete holds what was
committed. -/
structure Publishes (r : UploadRun) : Prop where
  within : ∀ upload, r.upload = some upload → upload.writtenRanges.Within upload.sizeBytes
  apart : ∀ upload i, r.upload = some upload → upload.writtenRanges.Covers i →
    ¬upload.inflightRanges.Covers i
  published : ∀ upload, r.upload = some upload →
    upload.published = true ∨ upload.status = .complete → r.Full upload
  returned : ∀ id faults nowMs r' commit rest progress,
    r.step (.commit id faults nowMs) = some r' → r'.commits = commit :: rest →
    commit.answer = .ok (.complete progress) → ∃ upload, r'.upload = some upload ∧ r'.Full upload

theorem Invariant.full (h : r.Invariant) {upload : SessionFileHttpUploadState}
    (hupload : r.upload = some upload)
    (hcomplete : upload.published = true ∨ upload.status = .complete) : r.Full upload :=
  have hagrees := h.agrees upload hupload
  have hcovered := hagrees.complete hcomplete
  ⟨hagrees.size, hcovered, fun i hi => hagrees.bytes i (hcovered i hi)⟩

theorem Invariant.publishes (h : r.Invariant) : r.Publishes where
  within := fun upload hupload => (h.agrees upload hupload).within
  apart := by
    rintro upload i hupload hcovered ⟨range, hrange, hstart, hstop⟩
    have hagrees := h.agrees upload hupload
    obtain ⟨id, owner, howner, hreserved⟩ := hagrees.inflight range hrange
    exact hagrees.free id owner i howner ⟨_, _, hreserved, hstart, hstop⟩ hcovered
  published := fun upload hupload => h.full hupload
  returned := by
    intro id faults nowMs r' commit rest progress hstep hcommits hanswer
    have hinvariant := (h.step (l := .commit id faults nowMs) trivial hstep).1
    rw [UploadRun.step] at hstep
    split at hstep
    · cases hstep
    rename_i request hrequest
    split at hstep
    · rename_i result hphase
      cases hcommit :
        commitSessionFileHttpUploadWrite r.upload request.payload result faults nowMs with
      | mk upload? answer =>
        rw [hcommit] at hstep
        cases hstep
        obtain ⟨rfl, -⟩ := List.cons.inj hcommits
        obtain ⟨-, hcomplete, -⟩ := h.commit hrequest hphase faults nowMs hcommit rfl
        obtain ⟨upload, rfl, hstatus⟩ := hcomplete progress hanswer
        exact ⟨upload, rfl, hinvariant.full rfl (.inr hstatus)⟩
    · cases hstep

theorem invariant_initial (upload : SessionFileHttpUploadState)
    (hwritten : upload.writtenRanges = ∅) (hinflight : upload.inflightRanges = ∅)
    (hpublished : upload.published = false) (hstatus : upload.status ≠ .complete) :
    (initial upload).Invariant where
  sound := by
    intro id request hrequest
    cases hrequest
  apart := by
    intro id id' request request' i hrequest
    cases hrequest
  agrees := by
    rintro _ ⟨⟩
    refine ⟨(List.length_replicate ..).symm, hwritten ▸ Ranges.within_empty _, ?_, ?_, ?_, ?_, ?_,
      ?_⟩
    · intro id request i hrequest
      cases hrequest
    · intro id request hrequest
      cases hrequest
    · intro range hrange
      rw [hinflight] at hrange
      exact absurd hrange OrderedMap.notMem_empty
    · intro _ id request start stop hrequest
      cases hrequest
    · intro i hi
      rw [hwritten] at hi
      exact absurd hi Ranges.not_covers_empty
    · rintro (htrue | hcomplete)
      · cases hpublished.symm.trans htrue
      · exact absurd hcomplete hstatus

end Careful

/-- **A careful run publishes what was committed**, and what is written stays. -/
theorem publishes_of_careful (sessionId : ℕ) (target : Path) (uploadId : String)
    (sizeBytes : UInt64) (fileIdentity : FileIdentity) (nowMs : ℕ) (before after : List UploadStep)
    {r r' : UploadRun}
    (hbefore : exec step
      (initial (.create sessionId target uploadId sizeBytes fileIdentity nowMs)) before = some r)
    (hafter : exec step r after = some r')
    (hcareful : Along step Careful
      (initial (.create sessionId target uploadId sizeBytes fileIdentity nowMs))
      (before ++ after)) :
    r.Publishes ∧ ∀ upload i, r.upload = some upload → upload.writtenRanges.Covers i →
      r'.file[i]? = r.file[i]? := by
  obtain ⟨hcareful, hcareful'⟩ := along_append.mp hcareful
  have hcareful' := hcareful' r hbefore
  have hinvariant : r.Invariant :=
    exec_induction_along (fun s l s' hs hP hstep => (hs.step hP hstep).1)
      (invariant_initial _ rfl rfl rfl (by simp [SessionFileHttpUploadState.create])) hcareful
      hbefore
  refine ⟨hinvariant.publishes, fun upload i hupload hcovered => ?_⟩
  have hagrees := hinvariant.agrees upload hupload
  -- the bytes that are written are frozen from here on
  have hfrozen : r.Frozen { i | upload.writtenRanges.Covers i } r.file := by
    refine ⟨fun _ _ => rfl, fun id request i hrequest hi hcovers => ?_, ?_⟩
    · exact hagrees.free id request i hrequest hi hcovers
    · intro upload' hupload' _ i hi
      obtain rfl := Option.some.inj (hupload.symm.trans hupload')
      exact hi
  have hrun : r'.Invariant ∧ r'.Frozen { i | upload.writtenRanges.Covers i } r.file :=
    exec_induction_along (I := fun s => s.Invariant ∧
        s.Frozen { i | upload.writtenRanges.Covers i } r.file)
      (fun s l s' hs hP hstep =>
        ⟨(hs.1.step hP hstep).1, (hs.1.step hP hstep).2 _ _ hs.2⟩)
      ⟨hinvariant, hfrozen⟩ hcareful' hafter
  exact hrun.2.bytes i hcovered

/-- The target of the runs below, and a payload for the offset. -/
def notes : Path := ⟨"/srv", "notes"⟩

def notesPayload (sizeBytes offsetBytes : ℕ) : SessionFileHttpUploadStreamPayload :=
  ⟨1, "upload", sizeBytes, offsetBytes⟩

/-- An abort that fails while nothing is reserved, two requests that take turns, a commit whose
sync fails, and the retry that publishes. -/
def rivals : List UploadStep :=
  [.abort (.ok notes) (notesPayload 4 0) ⟨.error .runtimeFailed, true, none⟩ 0,
    .begin 0 (.ok notes) none (notesPayload 4 0) [[1, 2]] 1,
    .begin 1 (.ok notes) none (notesPayload 4 2) [[3], [4]] 2,
    .chunk 1 none, .chunk 0 none, .chunk 1 none, .finish 1 none none, .commit 1 .none 3,
    .finish 0 none none, .commit 0 { PublishFaults.none with fileSync := some .runtimeFailed } 4,
    .begin 2 (.ok notes) none (notesPayload 4 0) [[1, 2]] 5,
    .chunk 2 none, .finish 2 none none, .commit 2 .none 6]

theorem publishes_rivals :
    ∃ r r', exec step (initial (.create 1 notes "upload" 4 ⟨1, 2, 4⟩ 0)) rivals = some r ∧
      exec step r [.abort (.ok notes) (notesPayload 4 0) ⟨.ok .removed, false, none⟩ 7] = some r' ∧
      r.file = [1, 2, 3, 4] ∧ r.Publishes ∧
      ∀ upload i, r.upload = some upload → upload.writtenRanges.Covers i →
        r'.file[i]? = r.file[i]? :=
  ⟨_, _, rfl, rfl, rfl, publishes_of_careful 1 notes "upload" 4 ⟨1, 2, 4⟩ 0 rivals
    [.abort (.ok notes) (notesPayload 4 0) ⟨.ok .removed, false, none⟩ 7] rfl rfl (by decide)⟩

/-- **An abort that fails lets a finished file change**: a request whose reservation was dropped
writes over a range that was reserved again, committed and published. -/
theorem changes_of_abort :
    ∃ before r r' upload,
      exec step (initial (.create 1 notes "upload" 2 ⟨1, 2, 2⟩ 0)) before = some r ∧
      exec step r [.chunk 0 none] = some r' ∧ r.upload = some upload ∧
      upload.status = .complete ∧ upload.writtenRanges.Covers 0 ∧ r'.file[0]? ≠ r.file[0]? :=
  ⟨[.begin 0 (.ok notes) none (notesPayload 2 0) [[1, 1]] 0,
      .abort (.ok notes) (notesPayload 2 0) ⟨.error .runtimeFailed, true, none⟩ 1,
      .begin 1 (.ok notes) none (notesPayload 2 0) [[2, 2]] 2,
      .chunk 1 none, .finish 1 none none, .commit 1 .none 3],
    _, _, _, rfl, rfl, rfl, rfl, ⟨(0, 2), .head _, by decide, by decide⟩, by decide⟩

end UploadRun

end Termd.Files
