import Termd.Files.Coverage
import Termd.Library.TextSplit

/-!
# The HTTP handlers of an upload

A request names the range of its body in a header. The handler of a chunk checks the header
against the body and the size of the upload, and writes the body; the chunk that completes the
file publishes it. The commit only asks whether the upload is complete, but for an empty file it
writes the nothing that there is to write.

The connection is that of a device that may use the session; what the operating system answers is
success. There is one upload, and no other request to it is running.

## Main definitions

* `contentRange`: the header for a range
* `v070ContentRange`: what the daemon reads from it
* `UploadServer`: the upload and its file
* `v070FileUploadChunk`, `v070FileUploadCommit`: the handlers

## Main results

* `v070ContentRange_contentRange`: a range that is inside of the file is read back
* `UploadServer.Written.chunk`: the chunk that follows what is written is accepted
* `UploadServer.Written.empty`: an empty file is published
* `UploadServer.commit_published`: the commit finds the file published
-/

namespace Termd.Files

/-! ### The range of a request -/

structure ApiError where
  status : ℕ
  code : String
  message : String
  retryable : Bool

/-- What a handler refuses with. -/
inductive Rejection
  | api (error : ApiError)
  | protocol (error : ProtocolError)

def u64Max : ℕ := 2 ^ 64 - 1

def invalidContentRange : ApiError :=
  ⟨400, "invalid_content_range", "Content-Range is invalid", false⟩

/-- The header for the bytes from `start` to before `stop`. -/
def contentRange (start stop size : ℕ) : List Char :=
  "bytes ".toList ++ (Nat.toDigits 10 start ++ '-' :: (Nat.toDigits 10 (stop - 1) ++
    '/' :: Nat.toDigits 10 size))

/-- The header for an empty file. -/
def emptyContentRange : List Char := "bytes */0".toList

/-- The start of the range and the size of the file. -/
def v070ContentRange (header : Option (List Char)) (bodyLen : ℕ) : Except ApiError (ℕ × ℕ) :=
  match header with
  | none => .error ⟨400, "content_range_required", "Content-Range is required", false⟩
  | some value =>
    match stripPrefix "bytes ".toList value with
    | none => .error invalidContentRange
    | some value =>
      if value = "*/0".toList ∧ bodyLen = 0 then .ok (0, 0)
      else match splitOnce '/' value with
        | none => .error invalidContentRange
        | some (range, total) =>
          match splitOnce '-' range with
          | none => .error invalidContentRange
          | some (start, stop) =>
            match parseUnsigned u64Max start, parseUnsigned u64Max stop,
              parseUnsigned u64Max total with
            | some start, some stop, some total =>
              if stop < start ∨ min (stop - start + 1) u64Max ≠ bodyLen ∨ total ≤ stop then
                .error invalidContentRange
              else .ok (start, total)
            | _, _, _ => .error invalidContentRange

/-- **The header of a part of the file is read back.** -/
theorem v070ContentRange_contentRange {start stop size : ℕ} (hlt : start < stop)
    (hle : stop ≤ size) (hsize : size < 2 ^ 64) :
    v070ContentRange (some (contentRange start stop size)) (stop - start) = .ok (start, size) := by
  have hslash : '/' ∉ Nat.toDigits 10 start ++ '-' :: Nat.toDigits 10 (stop - 1) := by
    simp only [List.mem_append, List.mem_cons, not_or]
    exact ⟨notMem_toDigits rfl _, by decide, notMem_toDigits rfl _⟩
  have hsplit : splitOnce '/' (Nat.toDigits 10 start ++ '-' :: (Nat.toDigits 10 (stop - 1) ++
      '/' :: Nat.toDigits 10 size)) =
        some (Nat.toDigits 10 start ++ '-' :: Nat.toDigits 10 (stop - 1),
          Nat.toDigits 10 size) := by
    have happend := splitOnce_append (y := Nat.toDigits 10 size) hslash
    rwa [List.append_assoc, List.cons_append] at happend
  have hstartMax : start ≤ u64Max := by simp only [u64Max]; omega
  have hstopMax : stop - 1 ≤ u64Max := by simp only [u64Max]; omega
  have hsizeMax : size ≤ u64Max := by simp only [u64Max]; omega
  rw [v070ContentRange, contentRange]
  simp only [stripPrefix_append, hsplit, splitOnce_append (notMem_toDigits (c := '-') rfl start),
    parseUnsigned_toDigits hstartMax, parseUnsigned_toDigits hstopMax,
    parseUnsigned_toDigits hsizeMax]
  rw [if_neg (by omega), if_neg (by simp only [u64Max]; omega)]

/-- The header of an empty file is read as the empty range. -/
theorem v070ContentRange_empty : v070ContentRange (some emptyContentRange) 0 = .ok (0, 0) := rfl

/-! ### The handlers -/

def v070FileChunkMaxBytes : ℕ := 2 * 1024 * 1024

/-- The upload and the file that it writes. -/
structure UploadServer where
  upload : Option SessionFileHttpUploadState
  file : Bytes

/-- What the daemon finds out during a request: the time, and the modification time of the file. -/
structure Moment where
  nowMs : ℕ
  modifiedAtMs : Option ℕ

/-- The loop of `write_session_file_http_upload_files`. -/
def writeChunks (plan : SessionFileHttpUploadWritePlan) :
    List Bytes → WriteProgress → Bytes → Bytes × Except ProtocolError WriteProgress
  | [], progress, file => (file, .ok progress)
  | chunk :: chunks, progress, file =>
    match writeChunk plan progress chunk none file with
    | (file, .error error) => (file, .error error)
    | (file, .ok progress) => writeChunks plan chunks progress file

namespace UploadServer

variable (s : UploadServer)

/-- `v070_session_file_http_upload_payload` -/
def payload (uploadId : String) (offsetBytes : ℕ) :
    Except ProtocolError SessionFileHttpUploadStreamPayload :=
  match s.upload with
  | none => .error .invalidEnvelope
  | some upload =>
    if upload.uploadId ≠ uploadId then .error .invalidEnvelope
    else .ok ⟨upload.sessionId, upload.uploadId, upload.sizeBytes, offsetBytes⟩

/-- `write_session_file_http_upload`, for a payload whose path is `target`. -/
def write (target : Path) (payload : SessionFileHttpUploadStreamPayload) (chunks : List Bytes)
    (moment : Moment) : UploadServer × Except ProtocolError SessionFileUploadProgressPayload :=
  match chunksLen chunks with
  | none => (s, .error .invalidEnvelope)
  | some writeLen =>
    match beginSessionFileHttpUploadWrite s.upload (.ok target) none payload writeLen
      moment.nowMs with
    | (upload, .error error) => ({ s with upload }, .error error)
    | (upload, .ok (.complete progress)) => ({ s with upload }, .ok progress)
    | (upload, .ok (.write plan)) =>
      match writeChunks plan chunks ⟨plan.offsetBytes, [], false⟩ s.file with
      | (file, .error error) =>
        (⟨cancelSessionFileHttpUploadWrite upload payload plan.reservedRange moment.nowMs, file⟩,
          .error error)
      | (file, .ok progress) =>
        match finishWrite plan progress none moment.modifiedAtMs file with
        | .error error =>
          (⟨cancelSessionFileHttpUploadWrite upload payload plan.reservedRange moment.nowMs,
            file⟩, .error error)
        | .ok result =>
          match commitSessionFileHttpUploadWrite upload payload result .none moment.nowMs with
          | (upload, .error error) => (⟨upload, file⟩, .error error)
          | (upload, .ok (.progress progress)) => (⟨upload, file⟩, .ok progress)
          | (upload, .ok (.complete progress)) => (⟨upload, file⟩, .ok progress)

/-- `v070_file_upload_chunk` -/
def chunk (target : Path) (uploadId : String) (header : Option (List Char)) (body : Bytes)
    (moment : Moment) : UploadServer × Except Rejection SessionFileUploadProgressPayload :=
  if v070FileChunkMaxBytes < body.length then
    (s, .error (.api ⟨413, "payload_too_large", "file chunk is too large", false⟩))
  else match v070ContentRange header body.length with
    | .error error => (s, .error (.api error))
    | .ok (offsetBytes, sizeBytes) =>
      match s.payload uploadId offsetBytes with
      | .error error => (s, .error (.protocol error))
      | .ok payload =>
        if payload.sizeBytes ≠ sizeBytes then
          (s, .error (.api ⟨400, "invalid_content_range",
            "content range does not match upload size", false⟩))
        else
          let (s, answer) := s.write target payload (if body = [] then [] else [body]) moment
          (s, answer.mapError .protocol)

/-- `v070_session_file_http_upload_progress` -/
def progress (uploadId : String) : Except ProtocolError SessionFileUploadProgressPayload :=
  match s.upload with
  | none => .error .invalidEnvelope
  | some upload =>
    if upload.uploadId ≠ uploadId then .error .invalidEnvelope
    else
      let progress := upload.progress (upload.status = .complete)
      if progress.eof then .ok progress else .error .invalidState

/-- `v070_file_upload_commit` -/
def commit (target : Path) (uploadId : String) (moment : Moment) :
    UploadServer × Except Rejection SessionFileUploadProgressPayload :=
  match s.payload uploadId 0 with
  | .error error => (s, .error (.protocol error))
  | .ok payload =>
    let (s, written) :=
      if payload.sizeBytes = 0 then
        let (s, answer) := s.write target payload [] moment
        (s, answer.map fun _ => ())
      else (s, .ok ())
    match written with
    | .error error => (s, .error (.protocol error))
    | .ok () => (s, (s.progress uploadId).mapError .protocol)

end UploadServer

/-! ### A chunk that follows what is written -/

namespace UploadServer

/-- The file is written up to `offset`, and nobody is writing. -/
structure Written (s : UploadServer) (upload : SessionFileHttpUploadState) (content : Bytes)
    (offset : ℕ) : Prop where
  upload_eq : s.upload = some upload
  size_eq : upload.sizeBytes = content.length
  active : upload.status = .active
  hidden : upload.published = false
  within : upload.writtenRanges.Within upload.sizeBytes
  covers : ∀ i, upload.writtenRanges.Covers i ↔ i < offset
  inflight : upload.inflightRanges = ∅
  file_eq : s.file = content.take offset ++ List.replicate (content.length - offset) 0
  offset_le : offset ≤ content.length

/-- The file has its name and is what was sent. -/
structure Published (s : UploadServer) (upload : SessionFileHttpUploadState) (content : Bytes) :
    Prop where
  upload_eq : s.upload = some upload
  size_eq : upload.sizeBytes = content.length
  complete : upload.status = .complete
  published : upload.published = true
  file_eq : s.file = content

variable {s : UploadServer} {upload : SessionFileHttpUploadState} {content : Bytes}
  {start stop : ℕ}

/-- The part of the content between two offsets. -/
def part (content : Bytes) (start stop : ℕ) : Bytes := (content.drop start).take (stop - start)

theorem length_part (h : stop ≤ content.length) :
    (part content start stop).length = stop - start := by
  simp [part]
  omega

theorem overwrite_part (hlt : start ≤ stop) (hle : stop ≤ content.length) :
    overwrite (content.take start ++ List.replicate (content.length - start) 0) start
        (part content start stop) =
      content.take stop ++ List.replicate (content.length - stop) 0 := by
  have htake : content.take start ++ part content start stop = content.take stop := by
    have hsplit := List.take_add (l := content) (i := start) (j := stop - start)
    rw [Nat.add_sub_cancel' hlt] at hsplit
    exact hsplit.symm
  have hlength : (content.take start).length = start := by
    rw [List.length_take]
    omega
  rw [overwrite, length_part hle, List.take_left' hlength, htake, List.drop_append, hlength,
    List.drop_eq_nil_of_le (by omega), List.nil_append, List.drop_replicate]
  congr 2
  omega

theorem chunksLen_singleton {body : Bytes} (h : body.length < 2 ^ 64) :
    chunksLen [body] = some body.length := by
  rw [chunksLen, List.foldlM_cons, checkedAdd_of_lt (by omega)]
  simp

/-- The upload with a reservation. -/
def reserved (upload : SessionFileHttpUploadState) (start stop nowMs : ℕ) :
    SessionFileHttpUploadState :=
  { upload with
    updatedAtMs := nowMs, inflightRanges := upload.inflightRanges.insert start (stop - start) }

/-- The upload was used. -/
def touched (upload : SessionFileHttpUploadState) (nowMs : ℕ) : SessionFileHttpUploadState :=
  { upload with updatedAtMs := nowMs }

/-- The upload with what was reserved written. -/
def recorded (upload : SessionFileHttpUploadState) (start stop nowMs : ℕ) :
    SessionFileHttpUploadState :=
  { touched upload nowMs with
    writtenRanges := upload.writtenRanges.insert start (stop - start) }

/-- The upload after the commit that publishes its file. -/
def completed (upload : SessionFileHttpUploadState) (modifiedAtMs : Option ℕ) :
    SessionFileHttpUploadState :=
  { upload with modifiedAtMs, published := true, status := .complete }

/-- What the request of a chunk is to do. -/
def chunkPlan (upload : SessionFileHttpUploadState) (start stop : ℕ) :
    SessionFileHttpUploadWritePlan where
  storagePath := upload.tempPath
  sizeBytes := upload.sizeBytes
  offsetBytes := start
  fileIdentity := upload.fileIdentity
  writtenRanges := upload.writtenRanges
  reservedRange := some (start, stop)

namespace Written

variable (h : s.Written upload content start)
include h

theorem size_lt : content.length < 2 ^ 64 := h.size_eq ▸ upload.size_lt

theorem not_covers {i : ℕ} (hi : start ≤ i) : ¬upload.writtenRanges.Covers i := by
  rw [h.covers]
  omega

/-- The chunk gets its range. -/
theorem begin (hlt : start < stop) (hle : stop ≤ content.length) (nowMs : ℕ) :
    beginSessionFileHttpUploadWrite s.upload (.ok upload.target) none
        ⟨upload.sessionId, upload.uploadId, upload.sizeBytes, start⟩ (stop - start) nowMs =
      (some (reserved upload start stop nowMs), .ok (.write (chunkPlan upload start stop))) := by
  have hsize := h.size_eq
  have hlimit := h.size_lt
  have hstop : start + (stop - start) = stop := by omega
  have hcovered := rangeIsFullyCovered_eq_false hlt (h.not_covers le_rfl)
  have hwritten := rangeOverlaps_eq_false h.within hlt fun i hi _ => h.not_covers hi
  have hinflight : rangeOverlaps upload.inflightRanges start stop = false := by
    rw [h.inflight]
    exact rangeOverlaps_eq_false (Ranges.within_empty 0) hlt fun i _ _ => Ranges.not_covers_empty
  rw [h.upload_eq, beginSessionFileHttpUploadWrite.eq_def]
  simp only [ne_eq, not_true_eq_false, or_false, if_false, h.active,
    SessionFileHttpUploadState.reserveWriteRange, hstop,
    checkedAdd_of_lt (show start + (stop - start) < 2 ^ 64 by omega), hcovered, hwritten,
    hinflight, h.hidden, Bool.false_eq_true, Bool.or_false]
  rw [if_neg (by omega), if_neg (by omega), reserved, chunkPlan]
  simp only [h.active, h.hidden, Bool.false_eq_true, if_false]

/-- The chunk is written behind what is written. -/
theorem writeChunks (hlt : start < stop) (hle : stop ≤ content.length) :
    writeChunks (chunkPlan upload start stop) [part content start stop] ⟨start, [], false⟩ s.file =
      (content.take stop ++ List.replicate (content.length - stop) 0,
        .ok ⟨stop, [(start, part content start stop)], true⟩) := by
  have hsize := h.size_eq
  have hlimit := h.size_lt
  have hstop : start + (stop - start) = stop := by omega
  have hcovered := rangeIsFullyCovered_eq_false hlt (h.not_covers le_rfl)
  have hwritten := rangeOverlaps_eq_false h.within hlt fun i hi _ => h.not_covers hi
  have hne : part content start stop ≠ [] := by
    rw [← List.length_pos_iff, length_part hle]
    omega
  have hchunk : writeChunk (chunkPlan upload start stop) ⟨start, [], false⟩
      (part content start stop) none s.file =
        (content.take stop ++ List.replicate (content.length - stop) 0,
          .ok ⟨stop, [(start, part content start stop)], true⟩) := by
    rw [writeChunk, length_part hle]
    simp only [hstop, checkedAdd_of_lt (show start + (stop - start) < 2 ^ 64 by omega), chunkPlan,
      hcovered, hwritten, Bool.false_eq_true, if_false, h.file_eq, overwrite_part hlt.le hle]
    rw [if_neg (by simp [hne]; omega)]
    rfl
  rw [Files.writeChunks, hchunk]
  rfl

/-- The whole file has its size. -/
theorem finishWrite (hlt : start < stop) (hle : stop ≤ content.length) (modifiedAtMs : Option ℕ) :
    Files.finishWrite (chunkPlan upload start stop) ⟨stop, [(start, part content start stop)], true⟩
        none modifiedAtMs (content.take stop ++ List.replicate (content.length - stop) 0) =
      .ok ⟨[(start, stop)], some (start, stop), modifiedAtMs⟩ := by
  have hlength : (content.take stop ++ List.replicate (content.length - stop) 0).length =
      content.length := by
    simp
    omega
  have hstop : start + (stop - start) = stop := by omega
  rw [Files.finishWrite, if_neg (by simp)]
  simp only [hlength, chunkPlan, h.size_eq, ne_eq, not_true_eq_false, if_false]
  simp [WriteProgress.writtenRanges, length_part hle, hstop]

/-- What is written after the chunk. -/
theorem recorded_covers (hlt : start < stop) (hle : stop ≤ content.length) (nowMs : ℕ) :
    (recorded upload start stop nowMs).writtenRanges.Within upload.sizeBytes ∧
      ∀ i, (recorded upload start stop nowMs).writtenRanges.Covers i ↔ i < stop := by
  have hsize := h.size_eq
  have hstop : start + (stop - start) = stop := by omega
  have hfree : ∀ i, start ≤ i → i < start + (stop - start) → ¬upload.writtenRanges.Covers i :=
    fun i hi _ => h.not_covers hi
  refine ⟨h.within.insert (by omega) (by omega) hfree, fun i => ?_⟩
  rw [recorded, Ranges.covers_insert_iff h.within (by omega) hfree, h.covers]
  omega

/-- The reservation was the only one. -/
theorem releaseInflightRange (hlt : start < stop) (nowMs : ℕ) :
    (reserved upload start stop nowMs).releaseInflightRange (some (start, stop)) =
      (touched upload nowMs, .ok ()) := by
  have hlookup : (OrderedMap.insert (∅ : Ranges) start (stop - start)).lookup start =
      some (stop - start) := OrderedMap.lookup_eq_some.mpr (OrderedMap.mem_insert.mpr (.inl rfl))
  rw [SessionFileHttpUploadState.releaseInflightRange, if_neg (by omega), reserved, touched]
  simp only [h.inflight, hlookup, OrderedMap.erase_insert_empty, if_true]

/-- The commit of the chunk. -/
theorem commitActive (hlt : start < stop) (hle : stop ≤ content.length) (nowMs : ℕ)
    (modifiedAtMs : Option ℕ) :
    ∃ answer, (reserved upload start stop nowMs).commitActive
        ⟨[(start, stop)], some (start, stop), modifiedAtMs⟩ .none =
      (if stop = content.length then completed (recorded upload start stop nowMs) modifiedAtMs
        else recorded upload start stop nowMs, .ok answer) := by
  have hsize := h.size_eq
  obtain ⟨hwithin, hcovers⟩ := h.recorded_covers hlt hle nowMs
  have hwithinTouched : (touched upload nowMs).writtenRanges.Within
      (touched upload nowMs).sizeBytes := h.within
  have hfree : ∀ i, start ≤ i → i < stop → ¬(touched upload nowMs).writtenRanges.Covers i :=
    fun i hi _ => h.not_covers hi
  have hrecord : (touched upload nowMs).recordWrittenRanges [(start, stop)] =
      (recorded upload start stop nowMs, .ok ()) := by
    rw [SessionFileHttpUploadState.recordWrittenRanges,
      SessionFileHttpUploadState.recordWrittenRange_of_free hwithinTouched hlt (hsize ▸ hle)
        hfree]
    rfl
  have hreceived := SessionFileHttpUploadState.receivedBytes_of_within hwithin
  rw [SessionFileHttpUploadState.commitActive, h.releaseInflightRange hlt]
  simp only [hrecord, hreceived]
  split_ifs with hlast
  · -- everything is written
    have hcomplete := (hasCompleteCoverage_iff hwithin upload.size_lt).mpr
        (.inr fun i => by rw [hcovers, hlast.trans hsize.symm, recorded, touched])
    obtain hpublish | ⟨hfaults, -⟩ := SessionFileHttpUploadState.publish_cases
      { recorded upload start stop nowMs with modifiedAtMs } .none
    · rw [hcomplete]
      simp only [hpublish]
      exact ⟨_, rfl⟩
    · exact absurd rfl hfaults
  · obtain ⟨complete, hcomplete⟩ := SessionFileHttpUploadState.hasCompleteCoverage_of_within
      hwithin
    cases complete with
    | false =>
      rw [hcomplete]
      exact ⟨_, rfl⟩
    | true =>
      have hlt : stop < (recorded upload start stop nowMs).sizeBytes := by
        have heq : (recorded upload start stop nowMs).sizeBytes = content.length := hsize
        omega
      have hall := SessionFileHttpUploadState.covers_of_hasCompleteCoverage hcomplete hlt
      rw [hcovers] at hall
      omega

/-- The write of the chunk. -/
theorem write (hlt : start < stop) (hle : stop ≤ content.length) (moment : Moment) :
    ∃ answer, s.write upload.target ⟨upload.sessionId, upload.uploadId, upload.sizeBytes, start⟩
        [part content start stop] moment =
      (⟨some (if stop = content.length then
          completed (recorded upload start stop moment.nowMs) moment.modifiedAtMs
        else recorded upload start stop moment.nowMs),
        content.take stop ++ List.replicate (content.length - stop) 0⟩, .ok answer) := by
  have hlimit := h.size_lt
  have hlen : chunksLen [part content start stop] = some (stop - start) := by
    rw [chunksLen_singleton (by rw [length_part hle]; omega), length_part hle]
  obtain ⟨commit, hcommit⟩ := h.commitActive hlt hle moment.nowMs moment.modifiedAtMs
  have htouched : ({ reserved upload start stop moment.nowMs with
      updatedAtMs := moment.nowMs } : SessionFileHttpUploadState) =
        reserved upload start stop moment.nowMs := rfl
  have hactive : (reserved upload start stop moment.nowMs).status = .active := h.active
  have hids : ¬((reserved upload start stop moment.nowMs).uploadId ≠ upload.uploadId ∨
      (reserved upload start stop moment.nowMs).sessionId ≠ upload.sessionId ∨
      (reserved upload start stop moment.nowMs).sizeBytes ≠ upload.sizeBytes) := by
    simp [reserved]
  rw [UploadServer.write, hlen]
  simp only [h.begin hlt hle]
  have hoffset : (chunkPlan upload start stop).offsetBytes = start := rfl
  rw [hoffset, h.writeChunks hlt hle]
  simp only [h.finishWrite hlt hle, commitSessionFileHttpUploadWrite, if_neg hids, htouched]
  simp only [hactive, hcommit]
  cases commit with
  | progress progress => exact ⟨progress, rfl⟩
  | complete progress => exact ⟨progress, rfl⟩

/-- **A chunk that follows what is written** is accepted. -/
theorem chunk (hlt : start < stop) (hle : stop ≤ content.length)
    (hmax : stop - start ≤ v070FileChunkMaxBytes) (moment : Moment) :
    ∃ answer, s.chunk upload.target upload.uploadId
        (some (contentRange start stop content.length)) (part content start stop) moment =
      (⟨some (if stop = content.length then
          completed (recorded upload start stop moment.nowMs) moment.modifiedAtMs
        else recorded upload start stop moment.nowMs),
        content.take stop ++ List.replicate (content.length - stop) 0⟩, .ok answer) := by
  have hpayload : s.payload upload.uploadId start =
      .ok ⟨upload.sessionId, upload.uploadId, upload.sizeBytes, start⟩ := by
    rw [payload, h.upload_eq]
    exact if_neg (not_not_intro rfl)
  have hne : part content start stop ≠ [] := by
    rw [← List.length_pos_iff, length_part hle]
    omega
  obtain ⟨answer, hwrite⟩ := h.write hlt hle moment
  rw [UploadServer.chunk, length_part hle, if_neg (by omega),
    v070ContentRange_contentRange hlt hle h.size_lt]
  simp only [hpayload, h.size_eq, ne_eq, not_true_eq_false, if_false, hne]
  rw [h.size_eq] at hwrite
  rw [hwrite]
  exact ⟨answer, rfl⟩

/-- What is written after a chunk that is not the last. -/
theorem next (hlt : start < stop) (hle : stop ≤ content.length) (nowMs : ℕ) :
    Written ⟨some (recorded upload start stop nowMs),
      content.take stop ++ List.replicate (content.length - stop) 0⟩
      (recorded upload start stop nowMs) content stop where
  upload_eq := rfl
  size_eq := h.size_eq
  active := h.active
  hidden := h.hidden
  within := (h.recorded_covers hlt hle nowMs).1
  covers := (h.recorded_covers hlt hle nowMs).2
  inflight := h.inflight
  file_eq := rfl
  offset_le := hle

/-- What is written after the last chunk. -/
theorem last (nowMs : ℕ) (modifiedAtMs : Option ℕ) :
    Published ⟨some (completed (recorded upload start content.length nowMs) modifiedAtMs),
      content.take content.length ++ List.replicate (content.length - content.length) 0⟩
      (completed (recorded upload start content.length nowMs) modifiedAtMs) content where
  upload_eq := rfl
  size_eq := h.size_eq
  complete := rfl
  published := rfl
  file_eq := by simp

/-! ### An empty file -/

/-- What the request of an empty body is to do. -/
def emptyPlan (upload : SessionFileHttpUploadState) : SessionFileHttpUploadWritePlan :=
  { chunkPlan upload 0 0 with reservedRange := none }

omit h in
/-- **The empty body of an empty file** is accepted and publishes the file. -/
theorem empty (h : s.Written upload [] 0) (moment : Moment) :
    ∃ answer, s.chunk upload.target upload.uploadId (some emptyContentRange) [] moment =
      (⟨some (completed (touched upload moment.nowMs) moment.modifiedAtMs), s.file⟩,
        .ok answer) := by
  have hsize : upload.sizeBytes = 0 := h.size_eq
  have hpayload : s.payload upload.uploadId 0 =
      .ok ⟨upload.sessionId, upload.uploadId, upload.sizeBytes, 0⟩ := by
    rw [payload, h.upload_eq]
    exact if_neg (not_not_intro rfl)
  have hbegin : beginSessionFileHttpUploadWrite s.upload (.ok upload.target) none
      ⟨upload.sessionId, upload.uploadId, upload.sizeBytes, 0⟩ 0 moment.nowMs =
        (some (touched upload moment.nowMs), .ok (.write (emptyPlan upload))) := by
    rw [h.upload_eq, beginSessionFileHttpUploadWrite.eq_def]
    simp only [ne_eq, not_true_eq_false, or_false, if_false, h.active,
      SessionFileHttpUploadState.reserveWriteRange, hsize, if_true, h.hidden, Bool.false_eq_true]
    rw [emptyPlan, touched, chunkPlan]
    simp only [h.active, h.hidden, hsize]
  have hfinish : Files.finishWrite (emptyPlan upload) ⟨0, [], false⟩ none moment.modifiedAtMs
      s.file = .ok ⟨[], none, moment.modifiedAtMs⟩ := by
    rw [Files.finishWrite]
    simp [emptyPlan, chunkPlan, hsize, h.file_eq, WriteProgress.writtenRanges]
  have hwithin : (touched upload moment.nowMs).writtenRanges.Within
      (touched upload moment.nowMs).sizeBytes := h.within
  have hcommit : ∃ commit, (touched upload moment.nowMs).commitActive
      ⟨[], none, moment.modifiedAtMs⟩ .none =
        (completed (touched upload moment.nowMs) moment.modifiedAtMs, .ok commit) := by
    have hcomplete : (touched upload moment.nowMs).hasCompleteCoverage = .ok true := if_pos hsize
    obtain hpublish | ⟨hfaults, -⟩ := SessionFileHttpUploadState.publish_cases
      { touched upload moment.nowMs with modifiedAtMs := moment.modifiedAtMs } .none
    · rw [SessionFileHttpUploadState.commitActive, SessionFileHttpUploadState.releaseInflightRange]
      simp only [SessionFileHttpUploadState.recordWrittenRanges,
        SessionFileHttpUploadState.receivedBytes_of_within hwithin, hcomplete, hpublish]
      exact ⟨_, rfl⟩
    · exact absurd rfl hfaults
  obtain ⟨commit, hcommit⟩ := hcommit
  have htouched : ({ touched upload moment.nowMs with
      updatedAtMs := moment.nowMs } : SessionFileHttpUploadState) =
        touched upload moment.nowMs := rfl
  have hactive : (touched upload moment.nowMs).status = .active := h.active
  have hids : ¬((touched upload moment.nowMs).uploadId ≠ upload.uploadId ∨
      (touched upload moment.nowMs).sessionId ≠ upload.sessionId ∨
      (touched upload moment.nowMs).sizeBytes ≠ upload.sizeBytes) := by
    simp [touched]
  have hlen : chunksLen [] = some 0 := rfl
  have hoffset : (emptyPlan upload).offsetBytes = 0 := rfl
  have hwrite : ∃ answer, s.write upload.target
      ⟨upload.sessionId, upload.uploadId, upload.sizeBytes, 0⟩ [] moment =
        (⟨some (completed (touched upload moment.nowMs) moment.modifiedAtMs), s.file⟩,
          .ok answer) := by
    rw [UploadServer.write, hlen]
    simp only [hbegin, hoffset, Files.writeChunks, hfinish, commitSessionFileHttpUploadWrite,
      if_neg hids, htouched]
    simp only [hactive, hcommit]
    cases commit with
    | progress progress => exact ⟨progress, rfl⟩
    | complete progress => exact ⟨progress, rfl⟩
  obtain ⟨answer, hwrite⟩ := hwrite
  rw [UploadServer.chunk, List.length_nil, if_neg (by omega), v070ContentRange_empty]
  simp only [hpayload, hsize, ne_eq, not_true_eq_false, if_false, if_true]
  rw [hsize] at hwrite
  rw [hwrite]
  exact ⟨answer, rfl⟩

end Written

/-! ### The commit -/

/-- **The commit of a published file** is accepted. All that it changes is when the upload was used
last, and that only for an empty file. -/
theorem commit_published (hupload : s.upload = some upload) (hcomplete : upload.status = .complete)
    (moment : Moment) :
    ∃ answer, s.commit upload.target upload.uploadId moment =
      ({ s with upload := some (if upload.sizeBytes = 0 then touched upload moment.nowMs
        else upload) }, .ok answer) := by
  have hpayload : s.payload upload.uploadId 0 =
      .ok ⟨upload.sessionId, upload.uploadId, upload.sizeBytes, 0⟩ := by
    rw [payload, hupload]
    exact if_neg (not_not_intro rfl)
  have hprogress (file : Bytes) (upload' : SessionFileHttpUploadState)
      (hid : upload'.uploadId = upload.uploadId) (hstatus : upload'.status = .complete) :
      ∃ answer, (UploadServer.mk (some upload') file).progress upload.uploadId = .ok answer := by
    simp only [progress, hid, ne_eq, not_true_eq_false, if_false, hstatus, decide_true]
    exact ⟨_, if_pos rfl⟩
  rw [commit, hpayload]
  dsimp only
  split_ifs with hsize
  · -- the empty write of an upload that is complete
    have hbegin : beginSessionFileHttpUploadWrite s.upload (.ok upload.target) none
        ⟨upload.sessionId, upload.uploadId, upload.sizeBytes, 0⟩ 0 moment.nowMs =
          (some (touched upload moment.nowMs),
            .ok (.complete ((touched upload moment.nowMs).progress true))) := by
      rw [hupload, beginSessionFileHttpUploadWrite.eq_def]
      simp only [ne_eq, not_true_eq_false, or_false, if_false, hcomplete]
      rw [touched]
      simp only [hcomplete]
    have hwrite : s.write upload.target ⟨upload.sessionId, upload.uploadId, upload.sizeBytes, 0⟩
        [] moment = ({ s with upload := some (touched upload moment.nowMs) },
          .ok ((touched upload moment.nowMs).progress true)) := by
      have hlen : chunksLen [] = some 0 := rfl
      rw [write, hlen]
      simp only [hbegin]
    obtain ⟨answer, hanswer⟩ := hprogress s.file (touched upload moment.nowMs) rfl hcomplete
    rw [hwrite]
    refine ⟨answer, ?_⟩
    simp only [Except.map, hanswer, Except.mapError]
  · obtain ⟨answer, hanswer⟩ := hprogress s.file upload rfl hcomplete
    obtain ⟨upload', file⟩ := s
    obtain rfl : upload' = some upload := hupload
    refine ⟨answer, ?_⟩
    simp only [hanswer, Except.mapError]

end UploadServer

end Termd.Files
