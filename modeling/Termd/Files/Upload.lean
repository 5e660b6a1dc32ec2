import Termd.Files.Ranges

/-!
# Uploads over HTTP

An upload is made in parts. The client announces the size, the daemon creates a hidden temporary
file of that size, and each request then writes a range of it: it reserves the range, writes chunk
by chunk, and commits what it wrote. The commit that makes the file complete gives it its name.

What the operating system answers is an argument of the operations: the error with which an effect
fails, or the outcome of a clean-up.

## Main definitions

* `SessionFileHttpUploadState`: an upload, with the ranges that are written and those in flight
* `beginSessionFileHttpUploadWrite`, `writeChunk`, `finishWrite`: the parts of a request
* `commitSessionFileHttpUploadWrite`, `cancelSessionFileHttpUploadWrite`: its two ends
* `abortSessionFileHttpUpload`, `pruneSessionFileHttpUpload`: the two ways to end an upload

## Main results

* `SessionFileHttpUploadState.reserveWriteRange_eq_ok`: what a reservation is
* `SessionFileHttpUploadState.covers_of_hasCompleteCoverage`: what is complete
-/

namespace Termd.Files

abbrev Bytes := List UInt8

inductive ProtocolError
  | invalidEnvelope
  | invalidState
  | stateFailed
  | runtimeFailed
deriving DecidableEq

/-- A path, split at its last component. -/
structure Path where
  parent : String
  fileName : String
deriving DecidableEq

/-- `SessionFileHttpUploadFileIdentity` -/
structure FileIdentity where
  dev : ℕ
  ino : ℕ
  len : ℕ
deriving DecidableEq

inductive SessionFileHttpUploadStatus
  | active
  | complete
  | aborted
deriving DecidableEq

structure SessionFileHttpUploadState where
  sessionId : ℕ
  target : Path
  tempPath : Path
  uploadId : String
  sizeBytes : ℕ
  fileIdentity : FileIdentity
  status : SessionFileHttpUploadStatus
  writtenRanges : Ranges
  inflightRanges : Ranges
  modifiedAtMs : Option ℕ
  published : Bool
  updatedAtMs : ℕ
  size_lt : sizeBytes < 2 ^ 64
deriving DecidableEq

structure SessionFileUploadProgressPayload where
  sessionId : ℕ
  path : Path
  offsetBytes : ℕ
  sizeBytes : ℕ
  eof : Bool
  modifiedAtMs : Option ℕ
deriving DecidableEq

/-- The hidden file next to the target that an upload is written to. -/
def sessionFileHttpUploadTempPath (target : Path) (uploadId : String) : Path where
  parent := target.parent
  fileName := "." ++ target.fileName ++ ".termd-http-upload-" ++ uploadId ++ ".part"

namespace SessionFileHttpUploadState

/-- An upload as `prepare_session_file_http_upload` creates it. -/
def create (sessionId : ℕ) (target : Path) (uploadId : String) (sizeBytes : UInt64)
    (fileIdentity : FileIdentity) (nowMs : ℕ) : SessionFileHttpUploadState where
  sessionId := sessionId
  target := target
  tempPath := sessionFileHttpUploadTempPath target uploadId
  uploadId := uploadId
  sizeBytes := sizeBytes.toNat
  fileIdentity := fileIdentity
  status := .active
  writtenRanges := ∅
  inflightRanges := ∅
  modifiedAtMs := none
  published := false
  updatedAtMs := nowMs
  size_lt := sizeBytes.toNat_lt

variable (upload : SessionFileHttpUploadState)

def progressWithOffset (offsetBytes : ℕ) (eof : Bool) : SessionFileUploadProgressPayload where
  sessionId := upload.sessionId
  path := upload.target
  offsetBytes := offsetBytes
  sizeBytes := upload.sizeBytes
  eof := eof
  modifiedAtMs := if eof then upload.modifiedAtMs else none

def progress (eof : Bool) : SessionFileUploadProgressPayload :=
  upload.progressWithOffset (if eof then upload.sizeBytes else 0) eof

def receivedBytes : Except ProtocolError ℕ :=
  match upload.writtenRanges.entries.foldlM (fun sum range => checkedAdd sum range.2) 0 with
  | some sum => .ok sum
  | none => .error .invalidEnvelope

/-- The loop of `hasCompleteCoverage`: the end of the ranges, if one follows the other. -/
def contiguousEnd : List (ℕ × ℕ) → ℕ → Except ProtocolError (Option ℕ)
  | [], expectedOffset => .ok (some expectedOffset)
  | (offset, len) :: ranges, expectedOffset =>
    if offset ≠ expectedOffset ∨ len = 0 then .ok none
    else match checkedAdd expectedOffset len with
      | none => .error .invalidEnvelope
      | some next => contiguousEnd ranges next

def hasCompleteCoverage : Except ProtocolError Bool :=
  if upload.sizeBytes = 0 then .ok true
  else match contiguousEnd upload.writtenRanges.entries 0 with
    | .error error => .error error
    | .ok none => .ok false
    | .ok (some expectedOffset) => .ok (expectedOffset = upload.sizeBytes)

def recordWrittenRange (start stop : ℕ) : Except ProtocolError SessionFileHttpUploadState :=
  let insertUnlessNext : Except ProtocolError SessionFileHttpUploadState :=
    if (upload.writtenRanges.ceiling start).any (·.1 < stop) then .error .invalidEnvelope
    else .ok { upload with writtenRanges := upload.writtenRanges.insert start (stop - start) }
  if start = stop then .ok upload
  else if start > stop ∨ stop > upload.sizeBytes then .error .invalidEnvelope
  else match upload.writtenRanges.floor start with
    | none => insertUnlessNext
    | some (previousStart, previousLen) =>
      match checkedAdd previousStart previousLen with
      | none => .error .invalidEnvelope
      | some previousEnd =>
        if previousEnd > start then
          -- a range that was written before may only be written again as it was
          if previousStart = start ∧ previousEnd = stop then .ok upload else .error .invalidEnvelope
        else insertUnlessNext

/-- The loop of a commit. The ranges before one that fails stay recorded. -/
def recordWrittenRanges (upload : SessionFileHttpUploadState) :
    List (ℕ × ℕ) → SessionFileHttpUploadState × Except ProtocolError Unit
  | [] => (upload, .ok ())
  | (start, stop) :: ranges =>
    match upload.recordWrittenRange start stop with
    | .error error => (upload, .error error)
    | .ok upload => recordWrittenRanges upload ranges

def reserveWriteRange (start len : ℕ) :
    Except ProtocolError (SessionFileHttpUploadState × Option (ℕ × ℕ)) :=
  if len = 0 then
    if start = upload.sizeBytes then .ok (upload, none) else .error .invalidEnvelope
  else match checkedAdd start len with
    | none => .error .invalidEnvelope
    | some stop =>
      if stop > upload.sizeBytes then .error .invalidEnvelope
      else if rangeIsFullyCovered upload.writtenRanges start stop then .ok (upload, none)
      else if rangeOverlaps upload.writtenRanges start stop ||
          rangeOverlaps upload.inflightRanges start stop then .error .invalidState
      else
        .ok ({ upload with inflightRanges := upload.inflightRanges.insert start len },
          some (start, stop))

/-- The reservation at the start of the range is gone also when its length is another one. -/
def releaseInflightRange :
    Option (ℕ × ℕ) → SessionFileHttpUploadState × Except ProtocolError Unit
  | none => (upload, .ok ())
  | some (start, stop) =>
    if stop < start then (upload, .error .invalidEnvelope)
    else
      ({ upload with inflightRanges := upload.inflightRanges.erase start },
        if upload.inflightRanges.lookup start = some (stop - start) then .ok ()
        else .error .invalidState)

section Specification

variable {upload} {start stop len i : ℕ}

/-- **What a reservation is**: a range that nobody wrote or is writing, or none for a range that was
written before. -/
theorem reserveWriteRange_eq_ok {upload' : SessionFileHttpUploadState} {range : Option (ℕ × ℕ)}
    (h : upload.reserveWriteRange start len = .ok (upload', range)) :
    (upload' = upload ∧ range = none ∧
      ∀ i, start ≤ i → i < start + len → upload.writtenRanges.Covers i) ∨
    (0 < len ∧ start + len ≤ upload.sizeBytes ∧
      rangeOverlaps upload.writtenRanges start (start + len) = false ∧
      rangeOverlaps upload.inflightRanges start (start + len) = false ∧
      upload' = { upload with inflightRanges := upload.inflightRanges.insert start len } ∧
      range = some (start, start + len)) := by
  rw [reserveWriteRange] at h
  split at h
  · rename_i hlen
    split at h
    · cases h
      exact .inl ⟨rfl, rfl, fun i _ _ => by omega⟩
    · cases h
  rename_i hlen
  split at h
  · cases h
  rename_i stop hadd
  obtain ⟨-, rfl⟩ := checkedAdd_eq_some.mp hadd
  split at h
  · cases h
  rename_i hsize
  split at h
  · rename_i hcovered
    cases h
    exact .inl ⟨rfl, rfl, fun i => covers_of_rangeIsFullyCovered hcovered⟩
  split at h
  · cases h
  rename_i hoverlaps
  obtain ⟨hwritten, hinflight⟩ : rangeOverlaps upload.writtenRanges start (start + len) = false ∧
      rangeOverlaps upload.inflightRanges start (start + len) = false := by simpa using hoverlaps
  cases h
  exact .inr ⟨by omega, by omega, hwritten, hinflight, rfl, rfl⟩

theorem exists_releaseInflightRange (upload : SessionFileHttpUploadState)
    (range : Option (ℕ × ℕ)) :
    ∃ inflight, (upload.releaseInflightRange range).1 =
      { upload with inflightRanges := inflight } := by
  rcases range with _ | ⟨start, stop⟩
  · exact ⟨upload.inflightRanges, rfl⟩
  · rw [releaseInflightRange]
    by_cases h : stop < start
    · rw [if_pos h]
      exact ⟨upload.inflightRanges, rfl⟩
    · rw [if_neg h]
      exact ⟨upload.inflightRanges.erase start, rfl⟩

/-- A range that covers nothing of what is written is recorded. -/
theorem recordWrittenRange_of_free (hwithin : upload.writtenRanges.Within upload.sizeBytes)
    (hlt : start < stop) (hle : stop ≤ upload.sizeBytes)
    (hfree : ∀ i, start ≤ i → i < stop → ¬upload.writtenRanges.Covers i) :
    upload.recordWrittenRange start stop =
      .ok { upload with writtenRanges := upload.writtenRanges.insert start (stop - start) } := by
  have hnext : (upload.writtenRanges.ceiling start).any (·.1 < stop) = false := by
    cases hceiling : upload.writtenRanges.ceiling start with
    | none => rfl
    | some next =>
      obtain ⟨hmem, hstart, -⟩ := OrderedMap.ceiling_eq_some hceiling
      have hpos := hwithin.pos next hmem
      have hstop : ¬next.1 < stop := fun hlt =>
        hfree next.1 hstart hlt ⟨next, hmem, le_rfl, by omega⟩
      simpa using hstop
  rw [recordWrittenRange]
  simp only [hnext]
  rw [if_neg hlt.ne, if_neg (by omega)]
  cases hfloor : upload.writtenRanges.floor start with
  | none => rfl
  | some previous =>
    obtain ⟨hmem, hstart, -⟩ := OrderedMap.floor_eq_some hfloor
    have hend := hwithin.le previous hmem
    have hsize := upload.size_lt
    have hbefore : ¬previous.1 + previous.2 > start := fun hgt =>
      hfree start le_rfl hlt ⟨previous, hmem, hstart, hgt⟩
    simp only [checkedAdd_of_lt (show previous.1 + previous.2 < 2 ^ 64 by omega), if_neg hbefore]
    rfl

/-- **Ranges that follow each other**, and cover nothing of what is written, are all recorded. -/
theorem recordWrittenRanges_of_free (upload : SessionFileHttpUploadState) {ranges : List (ℕ × ℕ)}
    (hwithin : upload.writtenRanges.Within upload.sizeBytes)
    (hpair : ranges.Pairwise fun range other => range.2 ≤ other.1)
    (hin : ∀ range ∈ ranges, range.1 < range.2 ∧ range.2 ≤ upload.sizeBytes)
    (hfree : ∀ range ∈ ranges, ∀ i, range.1 ≤ i → i < range.2 → ¬upload.writtenRanges.Covers i) :
    ∃ written : Ranges,
      upload.recordWrittenRanges ranges = ({ upload with writtenRanges := written }, .ok ()) ∧
      written.Within upload.sizeBytes ∧
      ∀ i, written.Covers i ↔
        upload.writtenRanges.Covers i ∨ ∃ range ∈ ranges, range.1 ≤ i ∧ i < range.2 := by
  induction ranges generalizing upload with
  | nil => exact ⟨upload.writtenRanges, rfl, hwithin, by simp⟩
  | cons range ranges ih =>
    obtain ⟨start, stop⟩ := range
    obtain ⟨hfirst, hpair⟩ := List.pairwise_cons.mp hpair
    obtain ⟨hlt, hle⟩ := hin (start, stop) (by simp)
    have hstart := hfree (start, stop) (by simp)
    dsimp only at hlt hle hstart hfirst
    have hlen : start + (stop - start) = stop := by omega
    have hinsert : ∀ i, Ranges.Covers (upload.writtenRanges.insert start (stop - start)) i ↔
        upload.writtenRanges.Covers i ∨ start ≤ i ∧ i < stop := by
      intro i
      rw [Ranges.covers_insert_iff hwithin (by omega) (by rw [hlen]; exact hstart), hlen]
    -- the rest is free of the first range as well
    obtain ⟨written, heq, hwritten, hcovers⟩ := ih
      { upload with writtenRanges := upload.writtenRanges.insert start (stop - start) }
      (hwithin.insert (by omega) (by omega) (by rw [hlen]; exact hstart)) hpair
      (fun range hmem => hin range (by simp [hmem])) (by
        intro range hmem i hi hi' hcovers
        rcases (hinsert i).mp hcovers with hcovers | ⟨-, hstop⟩
        · exact hfree range (by simp [hmem]) i hi hi' hcovers
        · have := hfirst range hmem
          omega)
    refine ⟨written, ?_, hwritten, fun i => ?_⟩
    · rw [recordWrittenRanges, recordWrittenRange_of_free hwithin hlt hle hstart]
      exact heq
    · rw [hcovers i, hinsert i]
      simp only [List.mem_cons, exists_eq_or_imp]
      tauto

theorem receivedBytes_of_within (hwithin : upload.writtenRanges.Within upload.sizeBytes) :
    upload.receivedBytes = .ok (upload.writtenRanges.entries.map Prod.snd).sum := by
  have hsum := hwithin.sum_le
  have hsize := upload.size_lt
  rw [receivedBytes, foldlM_checkedAdd_of_lt (by omega), Nat.zero_add]

/-- Ranges that follow each other cover all offsets before their end. -/
theorem covers_of_contiguousEnd {entries : List (ℕ × ℕ)} {offset stop : ℕ}
    (h : contiguousEnd entries offset = .ok (some stop)) (hoffset : offset ≤ i) (hi : i < stop) :
    ∃ range ∈ entries, range.1 ≤ i ∧ i < range.1 + range.2 := by
  induction entries generalizing offset with
  | nil =>
    cases h
    omega
  | cons range entries ih =>
    rw [contiguousEnd] at h
    split at h
    · cases h
    rename_i hstart
    split at h
    · cases h
    rename_i next hadd
    obtain ⟨-, rfl⟩ := checkedAdd_eq_some.mp hadd
    obtain ⟨rfl, -⟩ : range.1 = offset ∧ range.2 ≠ 0 := by simpa using hstart
    by_cases hrange : i < range.1 + range.2
    · exact ⟨range, by simp, hoffset, hrange⟩
    · obtain ⟨other, hmem, hother⟩ := ih h (not_lt.mp hrange)
      exact ⟨other, by simp [hmem], hother⟩

/-- **What is complete** is covered offset by offset. -/
theorem covers_of_hasCompleteCoverage (h : upload.hasCompleteCoverage = .ok true)
    (hi : i < upload.sizeBytes) : upload.writtenRanges.Covers i := by
  rw [hasCompleteCoverage, if_neg (by omega)] at h
  split at h
  · cases h
  · cases h
  · rename_i stop hend
    obtain rfl : stop = upload.sizeBytes := by simpa using h
    exact covers_of_contiguousEnd hend (Nat.zero_le i) hi

theorem hasCompleteCoverage_of_within (hwithin : upload.writtenRanges.Within upload.sizeBytes) :
    ∃ complete, upload.hasCompleteCoverage = .ok complete := by
  have hend : ∀ (entries : List (ℕ × ℕ)) (offset : ℕ),
      (∀ range ∈ entries, range.1 + range.2 ≤ upload.sizeBytes) →
      ∃ stop, contiguousEnd entries offset = .ok stop := by
    intro entries
    induction entries with
    | nil => exact fun offset _ => ⟨some offset, rfl⟩
    | cons range entries ih =>
      intro offset hin
      rw [contiguousEnd]
      split
      · exact ⟨none, rfl⟩
      · rename_i hstart
        obtain ⟨rfl, -⟩ : range.1 = offset ∧ range.2 ≠ 0 := by simpa using hstart
        have := hin range (by simp)
        have := upload.size_lt
        rw [checkedAdd_of_lt (by omega)]
        exact ih _ fun other hmem => hin other (by simp [hmem])
  obtain ⟨stop, hstop⟩ := hend upload.writtenRanges.entries 0 hwithin.le
  rw [hasCompleteCoverage, hstop]
  split_ifs
  · exact ⟨true, rfl⟩
  · cases stop with
    | none => exact ⟨false, rfl⟩
    | some stop => exact ⟨_, rfl⟩

end Specification

end SessionFileHttpUploadState

/-! ### A request -/

structure SessionFileHttpUploadStreamPayload where
  sessionId : ℕ
  uploadId : String
  sizeBytes : ℕ
  offsetBytes : ℕ

structure SessionFileHttpUploadWritePlan where
  storagePath : Path
  sizeBytes : ℕ
  offsetBytes : ℕ
  fileIdentity : FileIdentity
  writtenRanges : Ranges
  reservedRange : Option (ℕ × ℕ)

inductive SessionFileHttpUploadBegin
  | write (plan : SessionFileHttpUploadWritePlan)
  | complete (progress : SessionFileUploadProgressPayload)

inductive SessionFileHttpUploadCommit
  | progress (progress : SessionFileUploadProgressPayload)
  | complete (progress : SessionFileUploadProgressPayload)

/-- `session_file_http_upload_chunks_len` -/
def chunksLen (chunks : List Bytes) : Option ℕ :=
  chunks.foldlM (fun sum chunk => checkedAdd sum chunk.length) 0

/-- The start of a request. The path of the payload was resolved to `target`, under the checks of
the connection; `cloneFault` is the error with which the file handle is duplicated. -/
def beginSessionFileHttpUploadWrite (upload? : Option SessionFileHttpUploadState)
    (target : Except ProtocolError Path) (cloneFault : Option ProtocolError)
    (payload : SessionFileHttpUploadStreamPayload) (writeLen nowMs : ℕ) :
    Option SessionFileHttpUploadState × Except ProtocolError SessionFileHttpUploadBegin :=
  match target, upload? with
  | .error error, _ => (upload?, .error error)
  | .ok _, none => (none, .error .invalidEnvelope)
  | .ok target, some upload =>
    if upload.sessionId ≠ payload.sessionId ∨ upload.target ≠ target ∨
        upload.uploadId ≠ payload.uploadId ∨ upload.sizeBytes ≠ payload.sizeBytes then
      (upload?, .error .invalidEnvelope)
    else
      let upload := { upload with updatedAtMs := nowMs }
      match upload.status with
      | .active =>
        match cloneFault with
        | some error => (some upload, .error error)
        | none =>
          match upload.reserveWriteRange payload.offsetBytes writeLen with
          | .error error => (some upload, .error error)
          | .ok (upload, reservedRange) =>
            (some upload, .ok (.write {
              storagePath := if upload.published then upload.target else upload.tempPath
              sizeBytes := payload.sizeBytes
              offsetBytes := payload.offsetBytes
              fileIdentity := upload.fileIdentity
              writtenRanges := upload.writtenRanges
              reservedRange := reservedRange }))
      | .complete => (some upload, .ok (.complete (upload.progress true)))
      | .aborted => (some upload, .error .invalidState)

section Begin

variable {upload? upload?' : Option SessionFileHttpUploadState} {target : Except ProtocolError Path}
  {cloneFault : Option ProtocolError} {payload : SessionFileHttpUploadStreamPayload}
  {writeLen nowMs : ℕ}

/-- A request that begins to write has reserved what it writes. -/
theorem begin_eq_write {plan : SessionFileHttpUploadWritePlan}
    (h : beginSessionFileHttpUploadWrite upload? target cloneFault payload writeLen nowMs =
      (upload?', .ok (.write plan))) :
    ∃ upload upload', upload? = some upload ∧ upload?' = some upload' ∧
      upload.status = .active ∧ payload.uploadId = upload.uploadId ∧
      payload.sessionId = upload.sessionId ∧ payload.sizeBytes = upload.sizeBytes ∧
      { upload with updatedAtMs := nowMs }.reserveWriteRange payload.offsetBytes writeLen =
        .ok (upload', plan.reservedRange) ∧
      plan.sizeBytes = upload.sizeBytes ∧ plan.offsetBytes = payload.offsetBytes ∧
      plan.writtenRanges = upload'.writtenRanges := by
  rw [beginSessionFileHttpUploadWrite.eq_def] at h
  split at h
  · cases h
  · cases h
  rename_i upload
  split at h
  · cases h
  rename_i hmatch
  simp only [not_or, not_not] at hmatch
  obtain ⟨hsession, -, hid, hsize⟩ := hmatch
  dsimp only at h
  split at h
  · rename_i hactive
    split at h
    · cases h
    split at h
    · cases h
    rename_i upload' reserved hreserve
    cases h
    exact ⟨upload, upload', rfl, rfl, hactive, hid.symm, hsession.symm, hsize.symm, hreserve,
      hsize.symm, rfl, rfl⟩
  · cases h
  · cases h

/-- A request that does not begin to write reserves nothing. -/
theorem begin_ne_write {result : Except ProtocolError SessionFileHttpUploadBegin}
    (h : beginSessionFileHttpUploadWrite upload? target cloneFault payload writeLen nowMs =
      (upload?', result)) (hwrite : ∀ plan, result ≠ .ok (.write plan)) :
    upload?' = upload? ∨
      ∃ upload, upload? = some upload ∧ upload?' = some { upload with updatedAtMs := nowMs } := by
  rw [beginSessionFileHttpUploadWrite.eq_def] at h
  split at h
  · cases h
    exact .inl rfl
  · cases h
    exact .inl rfl
  rename_i upload
  split at h
  · cases h
    exact .inl rfl
  right
  refine ⟨upload, rfl, ?_⟩
  dsimp only at h
  split at h
  · split at h
    · cases h
      rfl
    split at h
    · cases h
      rfl
    · cases h
      exact absurd rfl (hwrite _)
  · cases h
    rfl
  · cases h
    rfl

end Begin

/-- The file after a positional write inside of it. -/
def overwrite (file : Bytes) (offset : ℕ) (bytes : Bytes) : Bytes :=
  file.take offset ++ bytes ++ file.drop (offset + bytes.length)

/-- The variables of the loop over the chunks. The ranges that were written are kept with the bytes
that were written there. -/
structure WriteProgress where
  currentOffset : ℕ
  wrote : List (ℕ × Bytes)
  sawChunk : Bool

def WriteProgress.writtenRanges (progress : WriteProgress) : List (ℕ × ℕ) :=
  progress.wrote.map fun segment => (segment.1, segment.1 + segment.2.length)

/-- One round of `write_session_file_http_upload_files`. A chunk in ranges that were written before
the request began is compared, another one is written. With a `fault` the input or output fails, a
write after its first `fault.1` bytes. -/
def writeChunk (plan : SessionFileHttpUploadWritePlan) (progress : WriteProgress) (chunk : Bytes)
    (fault : Option (ℕ × ProtocolError)) (file : Bytes) :
    Bytes × Except ProtocolError WriteProgress :=
  let offset := progress.currentOffset
  match checkedAdd offset chunk.length with
  | none => (file, .error .invalidEnvelope)
  | some nextOffset =>
    if chunk = [] ∨ nextOffset > plan.sizeBytes then (file, .error .invalidEnvelope)
    else if rangeIsFullyCovered plan.writtenRanges offset nextOffset then
      match fault with
      | some (_, error) => (file, .error error)
      | none =>
        if (file.drop offset).take chunk.length ≠ chunk then (file, .error .invalidEnvelope)
        else (file, .ok { progress with currentOffset := nextOffset, sawChunk := true })
    else if rangeOverlaps plan.writtenRanges offset nextOffset then (file, .error .invalidEnvelope)
    else match fault with
      | some (written, error) => (overwrite file offset (chunk.take written), .error error)
      | none =>
        (overwrite file offset chunk, .ok {
          currentOffset := nextOffset
          wrote := progress.wrote ++ [(offset, chunk)]
          sawChunk := true })

structure SessionFileHttpUploadFileWriteResult where
  writtenRanges : List (ℕ × ℕ)
  reservedRange : Option (ℕ × ℕ)
  modifiedAtMs : Option ℕ
deriving DecidableEq

/-- What `write_session_file_http_upload_files` does after its loop. The path of the file was found
to name another file, or not to exist, with the error `identityFault`. -/
def finishWrite (plan : SessionFileHttpUploadWritePlan) (progress : WriteProgress)
    (identityFault : Option ProtocolError) (modifiedAtMs : Option ℕ) (file : Bytes) :
    Except ProtocolError SessionFileHttpUploadFileWriteResult :=
  if progress.sawChunk = false ∧ progress.currentOffset ≠ plan.sizeBytes then
    .error .invalidEnvelope
  else match identityFault with
    | some error => .error error
    | none =>
      if file.length ≠ plan.sizeBytes then .error .invalidEnvelope
      else .ok {
        writtenRanges := progress.writtenRanges
        reservedRange := plan.reservedRange
        modifiedAtMs := modifiedAtMs }

/-- The errors with which the effects of a commit fail. -/
structure PublishFaults where
  fileSync : Option ProtocolError
  identity : Option ProtocolError
  rename : Option ProtocolError
  directorySync : Option ProtocolError
  removeRow : Option ProtocolError

def PublishFaults.none : PublishFaults := ⟨.none, .none, .none, .none, .none⟩

/-- The file of a complete upload gets its name. -/
def SessionFileHttpUploadState.publish (upload : SessionFileHttpUploadState)
    (faults : PublishFaults) : SessionFileHttpUploadState × Except ProtocolError Unit :=
  match faults.fileSync with
  | some error => (upload, .error error)
  | none =>
    match if upload.published then none else faults.identity <|> faults.rename with
    | some error => (upload, .error error)
    | none =>
      let upload := { upload with published := true }
      match faults.directorySync <|> faults.removeRow with
      | some error => (upload, .error error)
      | none => ({ upload with status := .complete }, .ok ())

/-- **What publishing does**: the file got its name and its upload is complete, or an effect failed
before or after the file got its name. -/
theorem SessionFileHttpUploadState.publish_cases (upload : SessionFileHttpUploadState)
    (faults : PublishFaults) :
    upload.publish faults =
      ({ upload with published := true, status := .complete }, .ok ()) ∨
    faults ≠ .none ∧ ∃ error published, (upload.published = true → published = true) ∧
      upload.publish faults = ({ upload with published := published }, .error error) := by
  rw [publish]
  split
  · rename_i error hfault
    refine .inr ⟨?_, error, upload.published, id, rfl⟩
    rintro rfl
    cases hfault
  split
  · rename_i error hfault
    refine .inr ⟨?_, error, upload.published, id, rfl⟩
    rintro rfl
    split at hfault <;> cases hfault
  split
  · rename_i error hfault
    refine .inr ⟨?_, error, true, fun _ => rfl, rfl⟩
    rintro rfl
    cases hfault
  · exact .inl rfl

/-- The commit of a request to an upload that is active. -/
def SessionFileHttpUploadState.commitActive (upload : SessionFileHttpUploadState)
    (result : SessionFileHttpUploadFileWriteResult) (faults : PublishFaults) :
    SessionFileHttpUploadState × Except ProtocolError SessionFileHttpUploadCommit :=
  match upload.releaseInflightRange result.reservedRange with
  | (upload, .error error) => (upload, .error error)
  | (upload, .ok ()) =>
    match upload.recordWrittenRanges result.writtenRanges with
    | (upload, .error error) => (upload, .error error)
    | (upload, .ok ()) =>
      match upload.receivedBytes, upload.hasCompleteCoverage with
      | .error error, _ => (upload, .error error)
      | _, .error error => (upload, .error error)
      | .ok receivedBytes, .ok false =>
        (upload, .ok (.progress (upload.progressWithOffset receivedBytes false)))
      | .ok _, .ok true =>
        let upload := { upload with modifiedAtMs := result.modifiedAtMs }
        match upload.publish faults with
        | (published, .error error) => (published, .error error)
        | (published, .ok ()) => (published, .ok (.complete (upload.progress true)))

def commitSessionFileHttpUploadWrite (upload? : Option SessionFileHttpUploadState)
    (payload : SessionFileHttpUploadStreamPayload)
    (result : SessionFileHttpUploadFileWriteResult) (faults : PublishFaults) (nowMs : ℕ) :
    Option SessionFileHttpUploadState × Except ProtocolError SessionFileHttpUploadCommit :=
  match upload? with
  | none => (none, .error .invalidEnvelope)
  | some upload =>
    if upload.uploadId ≠ payload.uploadId ∨ upload.sessionId ≠ payload.sessionId ∨
        upload.sizeBytes ≠ payload.sizeBytes then (upload?, .error .invalidEnvelope)
    else
      let upload := { upload with updatedAtMs := nowMs }
      match upload.status with
      | .active =>
        let (upload, answer) := upload.commitActive result faults
        (some upload, answer)
      | .complete =>
        let (upload, _) := upload.releaseInflightRange result.reservedRange
        (some upload, .ok (.complete (upload.progress true)))
      | .aborted =>
        let (upload, _) := upload.releaseInflightRange result.reservedRange
        (some upload, .error .invalidState)

/-- The commit of a request to an active upload gets as far as to record all its ranges. -/
def SessionFileHttpUploadState.recordsAll (upload : SessionFileHttpUploadState)
    (result : SessionFileHttpUploadFileWriteResult) : Bool :=
  match upload.releaseInflightRange result.reservedRange with
  | (_, .error _) => false
  | (upload, .ok ()) =>
    match upload.recordWrittenRanges result.writtenRanges with
    | (_, .error _) => false
    | (_, .ok ()) => true

def commitRecords (upload? : Option SessionFileHttpUploadState)
    (payload : SessionFileHttpUploadStreamPayload)
    (result : SessionFileHttpUploadFileWriteResult) (nowMs : ℕ) : Bool :=
  upload?.any fun upload =>
    upload.uploadId = payload.uploadId && upload.sessionId = payload.sessionId &&
      upload.sizeBytes = payload.sizeBytes && upload.status = .active &&
      { upload with updatedAtMs := nowMs }.recordsAll result

theorem commitRecords_of_active {upload : SessionFileHttpUploadState}
    {payload : SessionFileHttpUploadStreamPayload} (hid : payload.uploadId = upload.uploadId)
    (hsession : payload.sessionId = upload.sessionId) (hsize : payload.sizeBytes = upload.sizeBytes)
    (hactive : upload.status = .active) (result : SessionFileHttpUploadFileWriteResult)
    (nowMs : ℕ) :
    commitRecords (some upload) payload result nowMs =
      { upload with updatedAtMs := nowMs }.recordsAll result := by
  rw [commitRecords, Option.any_some, decide_eq_true hid.symm, decide_eq_true hsession.symm,
    decide_eq_true hsize.symm, decide_eq_true hactive]
  rfl

/-- **A commit that records its ranges**: the upload goes on, or everything is covered and the file
is published as far as its effects succeed. -/
theorem SessionFileHttpUploadState.commitActive_cases
    {upload released recorded : SessionFileHttpUploadState}
    {result : SessionFileHttpUploadFileWriteResult} (faults : PublishFaults)
    (hrelease : upload.releaseInflightRange result.reservedRange = (released, .ok ()))
    (hrecord : released.recordWrittenRanges result.writtenRanges = (recorded, .ok ()))
    (hwithin : recorded.writtenRanges.Within recorded.sizeBytes) :
    ∃ modifiedAtMs published status answer,
      upload.commitActive result faults =
        ({ recorded with
          modifiedAtMs := modifiedAtMs, published := published, status := status }, answer) ∧
      (faults = .none → ∃ commit, answer = .ok commit) ∧
      (status = recorded.status ∧ published = recorded.published ∧
          (∀ progress, answer ≠ .ok (.complete progress)) ∨
        (∀ i, i < recorded.sizeBytes → recorded.writtenRanges.Covers i) ∧
          (status = .complete ∨ status = recorded.status ∧ ∃ error, answer = .error error)) := by
  obtain ⟨complete, hcoverage⟩ := hasCompleteCoverage_of_within hwithin
  rw [commitActive, hrelease]
  simp only [hrecord, receivedBytes_of_within hwithin, hcoverage]
  cases complete with
  | false => exact ⟨_, _, _, _, rfl, fun _ => ⟨_, rfl⟩, .inl ⟨rfl, rfl, by simp⟩⟩
  | true =>
    have hcovers := fun i => covers_of_hasCompleteCoverage (i := i) hcoverage
    rcases publish_cases { recorded with modifiedAtMs := result.modifiedAtMs } faults with
      hpublish | ⟨hfaults, error, published, -, hpublish⟩
    · simp only [hpublish]
      exact ⟨_, _, _, _, rfl, fun _ => ⟨_, rfl⟩, .inr ⟨hcovers, .inl rfl⟩⟩
    · simp only [hpublish]
      exact ⟨_, _, _, _, rfl, fun hnone => absurd hnone hfaults,
        .inr ⟨hcovers, .inr ⟨rfl, error, rfl⟩⟩⟩

def cancelSessionFileHttpUploadWrite (upload? : Option SessionFileHttpUploadState)
    (payload : SessionFileHttpUploadStreamPayload) (reservedRange : Option (ℕ × ℕ)) (nowMs : ℕ) :
    Option SessionFileHttpUploadState :=
  upload?.map fun upload =>
    if upload.uploadId ≠ payload.uploadId then upload
    else { (upload.releaseInflightRange reservedRange).1 with updatedAtMs := nowMs }

/-! ### The end of an upload -/

inductive SessionFileHttpUploadCleanupOutcome
  | removed
  | alreadyGone
  | targetReplaced
deriving DecidableEq

/-- What the clean-up of the temporary file answers: its outcome, whether the open file still has
links, and the error with which the row of the upload is removed. -/
structure Cleanup where
  outcome : Except ProtocolError SessionFileHttpUploadCleanupOutcome
  remainingLinks : Bool
  removeRow : Option ProtocolError

/-- The open file may still be reached under another name. -/
def Cleanup.reachable (cleanup : Cleanup) : Bool :=
  (cleanup.outcome matches .ok .alreadyGone || cleanup.outcome matches .ok .targetReplaced) &&
    cleanup.remainingLinks

def abortSessionFileHttpUpload (upload? : Option SessionFileHttpUploadState)
    (target : Except ProtocolError Path) (payload : SessionFileHttpUploadStreamPayload)
    (cleanup : Cleanup) (nowMs : ℕ) :
    Option SessionFileHttpUploadState × Except ProtocolError Unit :=
  match target, upload? with
  | .error error, _ => (upload?, .error error)
  | .ok _, none => (none, .ok ())
  | .ok target, some upload =>
    if upload.uploadId ≠ payload.uploadId then (upload?, .ok ())
    else if upload.sessionId ≠ payload.sessionId ∨ upload.target ≠ target ∨
        upload.sizeBytes ≠ payload.sizeBytes then (upload?, .error .invalidEnvelope)
    else if upload.status = .complete then (upload?, .ok ())
    else if upload.published then (upload?, .error .invalidState)
    else
      -- the reservations are dropped before it is known whether the clean-up succeeds
      let upload := { upload with inflightRanges := ∅ }
      match cleanup.outcome with
      | .error error => (some upload, .error error)
      | .ok outcome =>
        if cleanup.reachable then
          (some { upload with updatedAtMs := nowMs }, .error .invalidState)
        else match cleanup.removeRow with
          | some error => (some upload, .error error)
          | none =>
            (some { upload with status := .aborted, updatedAtMs := nowMs },
              if outcome = .targetReplaced then .error .invalidState else .ok ())

/-- The clean-up leaves nothing of the upload. -/
def Cleanup.succeeds (cleanup : Cleanup) : Bool :=
  (cleanup.outcome matches .ok _) && !cleanup.reachable && cleanup.removeRow.isNone

/-- An abort of the upload gets as far as to drop the reservations. -/
def abortClears (upload? : Option SessionFileHttpUploadState) (target : Except ProtocolError Path)
    (payload : SessionFileHttpUploadStreamPayload) : Bool :=
  match target, upload? with
  | .ok target, some upload =>
    upload.uploadId = payload.uploadId && upload.sessionId = payload.sessionId &&
      upload.target = target && upload.sizeBytes = payload.sizeBytes &&
      upload.status ≠ .complete && !upload.published
  | _, _ => false

/-- **What an abort does**: nothing, or it drops the reservations and succeeds or fails with the
clean-up. -/
theorem abort_cases (upload? : Option SessionFileHttpUploadState)
    (target : Except ProtocolError Path) (payload : SessionFileHttpUploadStreamPayload)
    (cleanup : Cleanup) (nowMs : ℕ) :
    (abortSessionFileHttpUpload upload? target payload cleanup nowMs).1 = upload? ∨
    abortClears upload? target payload = true ∧
      ∃ upload status updatedAtMs, upload? = some upload ∧ upload.published = false ∧
        upload.status ≠ .complete ∧
        (abortSessionFileHttpUpload upload? target payload cleanup nowMs).1 = some { upload with
          inflightRanges := ∅, status := status, updatedAtMs := updatedAtMs } ∧
        (status = .aborted ∨ status = upload.status ∧ cleanup.succeeds = false) := by
  rw [abortSessionFileHttpUpload.eq_def]
  split
  · exact .inl rfl
  · exact .inl rfl
  rename_i target upload
  split
  · exact .inl rfl
  rename_i hid
  split
  · exact .inl rfl
  rename_i hmatch
  split
  · exact .inl rfl
  rename_i hcomplete
  split
  · exact .inl rfl
  rename_i hpublished
  simp only [not_or, not_not] at hid hmatch
  obtain ⟨hsession, htarget, hsize⟩ := hmatch
  have hpublished : upload.published = false := by simpa using hpublished
  refine .inr ⟨by simp [abortClears, hid, hsession, htarget, hsize, hcomplete, hpublished], upload,
    ?_⟩
  dsimp only
  split
  · rename_i error houtcome
    exact ⟨upload.status, upload.updatedAtMs, rfl, hpublished, hcomplete, rfl,
      .inr ⟨rfl, by simp [Cleanup.succeeds, houtcome]⟩⟩
  split
  · rename_i hreachable
    exact ⟨upload.status, nowMs, rfl, hpublished, hcomplete, rfl,
      .inr ⟨rfl, by simp [Cleanup.succeeds, hreachable]⟩⟩
  split
  · rename_i error hrow
    exact ⟨upload.status, upload.updatedAtMs, rfl, hpublished, hcomplete, rfl,
      .inr ⟨rfl, by simp [Cleanup.succeeds, hrow]⟩⟩
  · exact ⟨.aborted, nowMs, rfl, hpublished, hcomplete, rfl, .inl rfl⟩

def sessionFileHttpUploadActiveIdleTtlMs : ℕ := 60 * 60 * 1000

def sessionFileHttpUploadTombstoneTtlMs : ℕ := 10 * 60 * 1000

/-- What `prune_session_file_http_uploads` does to one upload. -/
def pruneSessionFileHttpUpload (upload? : Option SessionFileHttpUploadState) (cleanup : Cleanup)
    (nowMs : ℕ) : Option SessionFileHttpUploadState :=
  upload?.bind fun upload =>
    match upload.status with
    | .active =>
      if nowMs - upload.updatedAtMs > sessionFileHttpUploadActiveIdleTtlMs then
        if upload.published then some { upload with updatedAtMs := nowMs }
        else match cleanup.outcome with
          | .error _ => some { upload with updatedAtMs := nowMs }
          | .ok _ => if cleanup.reachable then some { upload with updatedAtMs := nowMs } else none
      else some upload
    | .complete | .aborted =>
      if nowMs - upload.updatedAtMs > sessionFileHttpUploadTombstoneTtlMs then none
      else some upload

/-- An upload that is pruned is forgotten, or stays with its reservations. -/
theorem prune_eq_some {upload? : Option SessionFileHttpUploadState} {cleanup : Cleanup} {nowMs : ℕ}
    {upload' : SessionFileHttpUploadState}
    (hprune : pruneSessionFileHttpUpload upload? cleanup nowMs = some upload') :
    ∃ upload updatedAtMs, upload? = some upload ∧
      upload' = { upload with updatedAtMs := updatedAtMs } := by
  obtain ⟨upload, hupload, h⟩ := Option.bind_eq_some_iff.mp hprune
  refine ⟨upload, upload'.updatedAtMs, hupload, ?_⟩
  split at h
  · split at h
    · split at h
      · cases h
        rfl
      split at h
      · cases h
        rfl
      split at h
      · cases h
        rfl
      · cases h
    · cases h
      rfl
  · split at h
    · cases h
    · cases h
      rfl
  · split at h
    · cases h
    · cases h
      rfl

end Termd.Files
