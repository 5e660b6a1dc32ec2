import Termd.Files.UploadRun
import Termd.Library.FileSystem

/-!
# The clean-up of an upload's file

The daemon removes the temporary file of an upload only when it can tell that the path still names
this file: it compares the device, the number and the length with what it knows. While it runs it
holds the file open and the number is enough. At start-up all it has is the row of the upload, and
it keeps the row whenever something does not match.

The look at the path and the removal are two calls, and the second one takes what the path names by
then.

## Main definitions

* `checkTarget`, `removeFile`: the two calls that remove a temporary file
* `HttpUploadRecoveryRecord`: the row of an upload

## Main results

* `checkTarget_eq_none`: only a file with the expected number and one link is to be removed
* `checkTarget_persisted_iff`: what a start-up is to remove
-/

namespace Termd.Files

abbrev PathSystem := FileSystem Path

/-- `SessionFileHttpUploadFileIdentity::from_metadata` -/
def FileIdentity.ofNode (node : Node) : FileIdentity := ⟨node.dev, node.ino, node.content.length⟩

def FileIdentity.isSameFilesystemObject (identity other : FileIdentity) : Bool :=
  identity.dev = other.dev && identity.ino = other.ino

inductive SessionFileHttpUploadCleanupIdentityMode
  | inMemoryOpenHandle
  | persistedRecovery

inductive SessionFileHttpUploadCleanupIdentityMatch
  | same
  | replaced

def cleanupIdentityMatch (actual expected : FileIdentity)
    (mode : SessionFileHttpUploadCleanupIdentityMode) :
    Except ProtocolError SessionFileHttpUploadCleanupIdentityMatch :=
  if actual = expected then .ok .same
  else if actual.isSameFilesystemObject expected then
    match mode with
    | .inMemoryOpenHandle => .ok .same
    | .persistedRecovery => .error .invalidState
  else match mode with
    | .inMemoryOpenHandle => .ok .replaced
    | .persistedRecovery => .error .invalidState

/-- `ensure_session_file_http_upload_target_identity` -/
def ensureTargetIdentity (fs : PathSystem) (target : Path) (expected : FileIdentity) :
    Except ProtocolError Unit :=
  match fs.stat target with
  | none => .error .invalidEnvelope
  | some (_, node) =>
    if FileIdentity.ofNode node = expected then .ok () else .error .invalidState

/-- `remove_session_file_http_upload_target_with_mode` up to the removal: how it ends, unless the
file is to be removed. With a `fault` the path cannot be looked at. -/
def checkTarget (fs : PathSystem) (target : Path) (expected : FileIdentity)
    (mode : SessionFileHttpUploadCleanupIdentityMode) (fault : Option ProtocolError) :
    Option (Except ProtocolError SessionFileHttpUploadCleanupOutcome) :=
  match fault with
  | some error => some (.error error)
  | none =>
    match fs.stat target with
    | none =>
      some (match mode with
        | .inMemoryOpenHandle => .ok .alreadyGone
        | .persistedRecovery => .error .invalidState)
    | some (id, node) =>
      match cleanupIdentityMatch (.ofNode node) expected mode with
      | .error error => some (.error error)
      | .ok .replaced => some (.ok .targetReplaced)
      | .ok .same => if fs.links id > 1 then some (.error .invalidState) else none

/-- The call of `remove_file` at the end of `remove_session_file_http_upload_target_with_mode`. -/
def removeFile (fs : PathSystem) (target : Path) (fault : Option ProtocolError) :
    PathSystem × Except ProtocolError SessionFileHttpUploadCleanupOutcome :=
  match fault with
  | some error => (fs, .error error)
  | none =>
    match fs.names.lookup target with
    | none => (fs, .ok .alreadyGone)
    | some _ => (fs.unlink target, .ok .removed)

structure HttpUploadRecoveryRecord where
  uploadId : String
  targetPath : Path
  sizeBytes : ℕ
  dev : ℕ
  ino : ℕ
deriving DecidableEq

/-- `session_file_http_upload_identity_from_recovery_record`, for a row that knows its file. -/
def HttpUploadRecoveryRecord.identity (record : HttpUploadRecoveryRecord) : Option FileIdentity :=
  if record.dev = 0 ∧ record.ino = 0 then none
  else some ⟨record.dev, record.ino, record.sizeBytes⟩

section Specification

theorem isSameFilesystemObject_iff {identity other : FileIdentity} :
    identity.isSameFilesystemObject other = true ↔
      identity.dev = other.dev ∧ identity.ino = other.ino := by
  rw [FileIdentity.isSameFilesystemObject, Bool.and_eq_true, decide_eq_true_eq, decide_eq_true_eq]

theorem isSameFilesystemObject_comm {identity other : FileIdentity}
    (h : identity.isSameFilesystemObject other = true) :
    other.isSameFilesystemObject identity = true := by
  obtain ⟨hdev, hino⟩ := isSameFilesystemObject_iff.mp h
  exact isSameFilesystemObject_iff.mpr ⟨hdev.symm, hino.symm⟩

theorem HttpUploadRecoveryRecord.identity_eq_some {record : HttpUploadRecoveryRecord}
    {identity : FileIdentity} : record.identity = some identity ↔
      ¬(record.dev = 0 ∧ record.ino = 0) ∧
        (⟨record.dev, record.ino, record.sizeBytes⟩ : FileIdentity) = identity := by
  rw [HttpUploadRecoveryRecord.identity]
  split_ifs with hzero
  · simp [hzero]
  · simp [hzero]

variable {fs : PathSystem} {target : Path} {expected : FileIdentity}
  {mode : SessionFileHttpUploadCleanupIdentityMode} {fault : Option ProtocolError}

theorem isSameFilesystemObject_of_match {actual : FileIdentity}
    (h : cleanupIdentityMatch actual expected mode = .ok .same) :
    actual.isSameFilesystemObject expected = true := by
  rw [cleanupIdentityMatch.eq_def] at h
  split at h
  · rename_i heq
    subst heq
    simp [FileIdentity.isSameFilesystemObject]
  split at h
  · assumption
  · split at h <;> cases h

/-- While the daemon runs, the number is enough. -/
theorem match_inMemory {actual : FileIdentity}
    (h : actual.isSameFilesystemObject expected = true) :
    cleanupIdentityMatch actual expected .inMemoryOpenHandle = .ok .same := by
  rw [cleanupIdentityMatch]
  split
  · rfl
  · rfl

theorem match_persisted_iff {actual : FileIdentity} :
    cleanupIdentityMatch actual expected .persistedRecovery = .ok .same ↔ actual = expected := by
  rw [cleanupIdentityMatch]
  constructor
  · intro h
    split at h
    · assumption
    split at h <;> cases h
  · exact fun heq => if_pos heq

/-- **What is to be removed**: a file with the expected number and no other name. -/
theorem checkTarget_eq_none : checkTarget fs target expected mode fault = none ↔
    fault = none ∧ ∃ id node, fs.stat target = some (id, node) ∧
      cleanupIdentityMatch (.ofNode node) expected mode = .ok .same ∧ fs.links id ≤ 1 := by
  cases fault with
  | some error => simp [checkTarget]
  | none =>
    constructor
    · intro h
      rw [checkTarget.eq_def] at h
      dsimp only at h
      split at h
      · cases h
      rename_i id node hstat
      split at h
      · cases h
      · cases h
      rename_i hmatch
      split at h
      · cases h
      rename_i hlinks
      exact ⟨rfl, id, node, hstat, hmatch, not_lt.mp hlinks⟩
    · rintro ⟨-, id, node, hstat, hmatch, hlinks⟩
      simp only [checkTarget, hstat, hmatch]
      exact if_neg (not_lt.mpr hlinks)

/-- **What a start-up is to remove**: what has the number and the length of the row, and no other
name. -/
theorem checkTarget_persisted_iff :
    checkTarget fs target expected .persistedRecovery none = none ↔
      ∃ id node, fs.stat target = some (id, node) ∧ FileIdentity.ofNode node = expected ∧
        fs.links id ≤ 1 := by
  rw [checkTarget_eq_none]
  simp only [match_persisted_iff, true_and]

theorem removeFile_fault (error : ProtocolError) :
    removeFile fs target (some error) = (fs, .error error) := rfl

theorem removeFile_of_lookup {id : ℕ} (h : fs.names.lookup target = some id) :
    removeFile fs target none = (fs.unlink target, .ok .removed) := by
  rw [removeFile, h]

end Specification

end Termd.Files
