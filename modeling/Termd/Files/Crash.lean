import Termd.Files.Cleanup

/-!
# Crashes during an upload

An upload touches the disk in small steps: the row that announces it, the temporary file, the row
with the number of this file, the bytes, and at the end the name and the removal of the row. The
daemon can end between any two of them. What it knew in memory is gone then, and the next start-up
has the disk: the row, and whatever the two paths name by now, as other programs use the same
directory.

## What a start-up cannot know

A row is kept unless the path still names the file of the row, with its length and under no other
name. So a row stays for good when its file was never created or has been removed, and when it was
published before the row was removed. Other programs are assumed not to carry the file between its
two paths, not to write into it, and not to touch the temporary path between the last look at it and
the rename or the removal, which take what the path names by then; `CrashRun.Careful` says so.

A crash is the end of the process: what is on the disk stays.

## Main definitions

* `CrashRun`: the disk, and how far the upload is
* `CrashStep`: the effects of the daemon, other programs, crashes and start-ups
* `CrashRun.Safe`: what holds in every state
* `CrashRun.Invariant`: what carries it

## Main results

* `CrashRun.Invariant.step`: careful steps keep the invariant
-/

namespace Termd.Files

/-- What the client uploads, and where to. -/
structure Job where
  sessionId : ℕ
  target : Path
  uploadId : String
  content : Bytes
  nowMs : ℕ
  size_lt : content.length < UInt64.size

def Job.tempPath (job : Job) : Path := sessionFileHttpUploadTempPath job.target job.uploadId

/-- The row of the upload, with the number of the file once it is known. -/
def Job.record (job : Job) (dev ino : ℕ) : HttpUploadRecoveryRecord where
  uploadId := job.uploadId
  targetPath := job.tempPath
  sizeBytes := job.content.length
  dev := dev
  ino := ino

/-- The effects of a commit, in their order. -/
inductive PublishPoint
  | fileSync
  | identity
  | rename
  | directorySync
  | removeRow
deriving DecidableEq

/-- Who removes the temporary file: its creation, when it gets no size, the preparation, when the
row cannot be written, or a start-up. -/
inductive Remover
  | creation
  | preparation
  | startUp
deriving DecidableEq

def Remover.mode : Remover → SessionFileHttpUploadCleanupIdentityMode
  | .creation | .preparation => .inMemoryOpenHandle
  | .startUp => .persistedRecovery

/-- How far the upload is in the daemon's memory. A removal waits for the look at the path
(`removing`) or for the call that removes what it names (`unlinking`), a row that is to be removed
for this (`dropping`), and a commit that is going on for the effect `point`. -/
inductive Stage
  | begun
  | intended
  | opened (node : ℕ)
  | sized (node : ℕ) (identity : FileIdentity)
  | removing (remover : Remover) (target : Path) (expected : FileIdentity)
  | unlinking (remover : Remover) (target : Path)
  | dropping
  | active (upload : SessionFileHttpUploadState) (node : ℕ) (point : Option PublishPoint)
  | ended
  | down
deriving DecidableEq

/-- What comes after a removal. -/
def Remover.next (removed : Bool) : Remover → Stage
  | .creation => .dropping
  | .preparation => .ended
  | .startUp => if removed then .dropping else .ended

/-- The disk and the stage of the upload. For the record: the file that was created for it, whether
this file got its name, and the files that the daemon took a name from, with whether the upload was
published then. -/
structure CrashRun where
  fs : PathSystem
  row : Option HttpUploadRecoveryRecord
  stage : Stage
  node : Option ℕ
  published : Bool
  unlinked : List (ℕ × Bool)

/-- The calls on the open file that `create_session_file_http_upload_target_with_set_len` makes. -/
inductive SizeFault
  | createdMetadata
  | setLen
  | metadata
deriving DecidableEq

/-- A step is one effect, which fails when it is told so. -/
inductive CrashStep
  | recordIntent (fault : Bool)
  | createTemp (node dev ino : ℕ) (fault : Bool)
  | sizeTemp (fault : Option SizeFault)
  | recordIdentity (fault : Bool)
  | checkTemp (fault : Option ProtocolError)
  | unlinkTemp (fault : Option ProtocolError)
  | dropRow (fault : Bool)
  | write (offset len : ℕ) (recorded : Bool)
  | commit
  | publish (fault : Bool)
  | otherProgram (fs : PathSystem)
  | crash
  | startUp (fault : Bool)

namespace CrashRun

variable (job : Job)

/-- Nothing of the upload is on the disk. -/
def initial (fs : PathSystem) : CrashRun where
  fs := fs
  row := none
  stage := .begun
  node := none
  published := false
  unlinked := []

/-- One effect of a commit, and which one is next. -/
def publish (r : CrashRun) (upload : SessionFileHttpUploadState) (node : ℕ) (fault : Bool) :
    PublishPoint → CrashRun
  | .fileSync =>
    if fault then { r with stage := .active upload node none }
    else if upload.published then { r with stage := .active upload node (some .directorySync) }
    else { r with stage := .active upload node (some .identity) }
  | .identity =>
    match ensureTargetIdentity r.fs upload.tempPath upload.fileIdentity with
    | .error _ => { r with stage := .active upload node none }
    | .ok () => { r with stage := .active upload node (some .rename) }
  | .rename =>
    match if fault then none else r.fs.renameNoreplace upload.tempPath upload.target with
    | none => { r with stage := .active upload node none }
    | some fs =>
      { r with
        fs := fs
        stage := .active { upload with published := true } node (some .directorySync)
        published := r.published || decide (r.fs.names.lookup upload.tempPath = some node) }
  | .directorySync =>
    if fault then { r with stage := .active upload node none }
    else { r with stage := .active upload node (some .removeRow) }
  | .removeRow =>
    if fault then { r with stage := .active upload node none }
    else { r with row := none, stage := .active { upload with status := .complete } node none }

def step (r : CrashRun) : CrashStep → Option CrashRun
  | .recordIntent fault =>
    if r.stage ≠ .begun then none
    else if (r.fs.stat job.target).isSome ∨ fault then some { r with stage := .ended }
    else some { r with row := some (job.record 0 0), stage := .intended }
  | .createTemp node dev ino fault =>
    if r.stage ≠ .intended then none
    else match if fault then none else r.fs.createNew job.tempPath node ⟨dev, ino, []⟩ with
      | none => some { r with stage := .dropping }
      | some fs => some { r with fs := fs, stage := .opened node, node := some node }
  | .sizeTemp fault =>
    match r.stage with
    | .opened node =>
      match r.fs.nodes.lookup node with
      | none => none
      | some data =>
        let sized := { data with content := List.replicate job.content.length 0 }
        match fault with
        | some .createdMetadata => some { r with stage := .dropping }
        | some .setLen =>
          some { r with stage := .removing .creation job.tempPath (.ofNode data) }
        | some .metadata =>
          some { r with fs := r.fs.setContent node sized.content, stage := .dropping }
        | none =>
          some { r with
            fs := r.fs.setContent node sized.content
            stage := .sized node (.ofNode sized) }
    | _ => none
  | .recordIdentity fault =>
    match r.stage with
    | .sized node identity =>
      if fault then some { r with stage := .removing .preparation job.tempPath identity }
      else
        some { r with
          row := some (job.record identity.dev identity.ino)
          stage := .active (.create job.sessionId job.target job.uploadId
            (.ofNat job.content.length) identity job.nowMs) node none }
    | _ => none
  | .checkTemp fault =>
    match r.stage with
    | .removing remover target expected =>
      match checkTarget r.fs target expected remover.mode fault with
      | some _ => some { r with stage := remover.next false }
      | none => some { r with stage := .unlinking remover target }
    | _ => none
  | .unlinkTemp fault =>
    match r.stage with
    | .unlinking remover target =>
      let (fs, outcome) := removeFile r.fs target fault
      some { r with
        fs := fs
        stage := remover.next (outcome matches .ok .removed)
        unlinked := (r.fs.vanished fs).map (·, r.published) ++ r.unlinked }
    | _ => none
  | .dropRow fault =>
    if r.stage ≠ .dropping then none
    else some { r with row := if fault then r.row else none, stage := .ended }
  | .write offset len recorded =>
    match r.stage with
    | .active upload node none =>
      match r.fs.nodes.lookup node, upload.reserveWriteRange offset len with
      | some data, .ok (_, some (start, stop)) =>
        let fs := r.fs.setContent node
          (overwrite data.content start ((job.content.drop start).take (stop - start)))
        if recorded then
          match upload.recordWrittenRange start stop with
          | .error _ => none
          | .ok upload => some { r with fs := fs, stage := .active upload node none }
        else some { r with fs := fs }
      | _, _ => none
    | _ => none
  | .commit =>
    match r.stage with
    | .active upload node none =>
      if upload.status = .active ∧ upload.hasCompleteCoverage = .ok true then
        some { r with stage := .active upload node (some .fileSync) }
      else none
    | _ => none
  | .publish fault =>
    match r.stage with
    | .active upload node (some point) => some (r.publish upload node fault point)
    | _ => none
  | .otherProgram fs =>
    -- a file without a name does not get one again
    if r.node.any fun node => r.fs.links node = 0 ∧ fs.links node ≠ 0 then none
    else some { r with fs := fs }
  | .crash => some { r with stage := .down }
  | .startUp fault =>
    if r.stage ≠ .down then none
    else match if fault then none else r.row with
      | none => some { r with stage := .ended }
      | some record =>
        match record.identity with
        | none => some { r with stage := .ended }
        | some identity =>
          some { r with stage := .removing .startUp record.targetPath identity }

/-- The effects of a start-up that removes a row, when nothing fails or comes between. -/
def undisturbedStartUp : List CrashStep :=
  [.startUp false, .checkTemp none, .unlinkTemp none, .dropRow false]

/-! ### What holds in every state -/

/-- The guarantees of an upload: its file is complete under its name, the daemon unlinks no other
file and not the published one, and a file that is not published has its row. -/
structure Safe (r : CrashRun) : Prop where
  complete : ∀ node data, r.node = some node → r.fs.stat job.target = some (node, data) →
    data.content = job.content
  own : ∀ entry ∈ r.unlinked, r.node = some entry.1
  unpublished : ∀ entry ∈ r.unlinked, entry.2 = false
  row : ∀ node path, r.node = some node → r.published = false →
    r.fs.names.lookup path = some node → r.row.isSome

/-- Other programs leave the file of the upload where and as it is, do not put a file with its
number at its path, and between the last look at the path and the rename or the removal they keep
off the path and give the file that is removed no further name. -/
def Leaves (r : CrashRun) (fs : PathSystem) (node : ℕ) : Prop :=
  fs.nodes.lookup node = r.fs.nodes.lookup node ∧
  (fs.names.lookup job.target = some node → r.fs.names.lookup job.target = some node) ∧
  (fs.names.lookup job.tempPath = some node → r.fs.names.lookup job.tempPath = some node) ∧
  (∀ found ∈ fs.stat job.tempPath, (r.fs.nodes.lookup node).any (fun data =>
      (FileIdentity.ofNode found.2).isSameFilesystemObject (.ofNode data)) = true →
    found.1 = node) ∧
  ((r.stage matches .active _ _ (some .rename) | .unlinking _ _) = true →
    fs.names.lookup job.tempPath = r.fs.names.lookup job.tempPath) ∧
  ((r.stage matches .unlinking _ _) = true → fs.links node ≤ r.fs.links node)

/-- Other programs leave the file of the upload alone, and a file whose creation fails half way is
removed again. -/
def Careful (r : CrashRun) : CrashStep → Prop
  | .otherProgram fs => ∀ node ∈ r.node, r.Leaves job fs node
  | .sizeTemp fault => fault = none ∨ fault = some .setLen
  | .checkTemp fault => (r.stage matches .removing .creation _ _) = true →
    fault = none ∧ ∀ node ∈ r.node,
      r.fs.links node = 0 ∨ r.fs.names.lookup job.tempPath = some node ∧ r.fs.links node ≤ 1
  | .unlinkTemp fault => (r.stage matches .unlinking .creation _) = true → fault = none
  | _ => True

instance (r : CrashRun) (fs : PathSystem) (node : ℕ) : Decidable (r.Leaves job fs node) :=
  inferInstanceAs (Decidable (_ ∧ _))

instance (r : CrashRun) : ∀ l, Decidable (r.Careful job l)
  | .otherProgram fs => inferInstanceAs (Decidable (∀ node ∈ r.node, r.Leaves job fs node))
  | .sizeTemp _ => inferInstanceAs (Decidable (_ ∨ _))
  | .checkTemp _ | .unlinkTemp _ => inferInstanceAs (Decidable (_ → _))
  | .recordIntent _ | .createTemp .. | .recordIdentity _ | .dropRow _ | .write .. | .commit
  | .publish _ | .crash | .startUp _ => .isTrue trivial

/-- What is known about the file of the upload. -/
structure Known (r : CrashRun) (node : ℕ) (data : Node) : Prop where
  lookup : r.fs.nodes.lookup node = some data
  complete : r.published = true → data.content = job.content
  target : r.fs.names.lookup job.target = some node → r.published = true
  temp : r.fs.names.lookup job.tempPath = some node → r.published = false
  row : r.published = false → ∀ path, r.fs.names.lookup path = some node → r.row.isSome
  number : ∀ found data', r.fs.stat job.tempPath = some (found, data') → data'.dev = data.dev →
    data'.ino = data.ino → found = node

/-- What the daemon knows about the upload agrees with its file. -/
structure Agrees (r : CrashRun) (upload : SessionFileHttpUploadState) (node : ℕ) (data : Node)
    (point : Option PublishPoint) : Prop where
  target : upload.target = job.target
  tempPath : upload.tempPath = job.tempPath
  size : upload.sizeBytes = job.content.length
  identity : upload.fileIdentity = ⟨data.dev, data.ino, job.content.length⟩
  published : upload.published = r.published
  length : data.content.length = job.content.length
  within : upload.writtenRanges.Within upload.sizeBytes
  bytes : ∀ i, upload.writtenRanges.Covers i → data.content[i]? = job.content[i]?
  covered : point ≠ none → ∀ i, i < upload.sizeBytes → upload.writtenRanges.Covers i
  rename : point = some .rename → r.fs.names.lookup job.tempPath = some node
  synced : point = some .directorySync ∨ point = some .removeRow → r.published = true

/-- What each stage of the upload stands for. -/
def StageSound (r : CrashRun) : Stage → Prop
  | .begun => r.node = none
  | .intended => r.node = none ∧ r.row.isSome
  | .opened node => r.node = some node ∧ r.published = false
  | .sized node identity => r.node = some node ∧ r.published = false ∧
    ∀ data, r.fs.nodes.lookup node = some data →
      identity = .ofNode data ∧ data.content = List.replicate job.content.length 0
  | .removing _ target expected => target = job.tempPath ∧ ∃ node data, r.node = some node ∧
    r.fs.nodes.lookup node = some data ∧
    expected.isSameFilesystemObject (.ofNode data) = true
  | .unlinking _ target => target = job.tempPath ∧ ∃ node, r.node = some node ∧
    r.fs.names.lookup job.tempPath = some node ∧ r.fs.links node ≤ 1
  | .dropping => ∀ node path, r.node = some node → r.fs.names.lookup path ≠ some node
  | .active upload node point => r.node = some node ∧
    ∀ data, r.fs.nodes.lookup node = some data → r.Agrees job upload node data point
  | .ended | .down => True

/-- What is on the disk agrees with what happened. -/
structure OnDisk (r : CrashRun) : Prop where
  fresh : r.node = none → r.published = false ∧ r.unlinked = []
  known : ∀ node, r.node = some node → ∃ data, r.Known job node data
  record : ∀ record, r.row = some record → record = job.record 0 0 ∨ ∃ node data,
    r.node = some node ∧ r.fs.nodes.lookup node = some data ∧
      record = job.record data.dev data.ino
  unlinked : ∀ entry ∈ r.unlinked, r.node = some entry.1 ∧ entry.2 = false

/-- The disk is in order, and so is the stage of the upload. -/
structure Invariant (r : CrashRun) : Prop where
  disk : r.OnDisk job
  stage : r.StageSound job r.stage

section Steps

variable {job : Job} {r r' : CrashRun} {node : ℕ} {data : Node}

theorem tempPath_ne_target (job : Job) : job.tempPath ≠ job.target := by
  intro h
  have hlen := congrArg (fun path => path.fileName.length) h
  simp only [Job.tempPath, sessionFileHttpUploadTempPath, String.length_append] at hlen
  have hdot : ".".length = 1 := rfl
  omega

/-- The row may be dropped once the file is published or has no name. -/
theorem OnDisk.of_row (h : r.OnDisk job) {row : Option HttpUploadRecoveryRecord} {stage : Stage}
    (hrow : ∀ record, row = some record → r.row = some record)
    (hneeded : row = none → ∀ node path, r.node = some node → r.published = false →
      r.fs.names.lookup path ≠ some node) :
    OnDisk job { r with row := row, stage := stage } where
  fresh := h.fresh
  known := by
    intro node hnode
    obtain ⟨data, hknown⟩ := h.known node hnode
    refine ⟨data, hknown.lookup, hknown.complete, hknown.target, hknown.temp, ?_, hknown.number⟩
    intro hpublished path hpath
    cases row with
    | none => exact absurd hpath (hneeded rfl node path hnode hpublished)
    | some record => rfl
  record := fun record hrecord => h.record record (hrow record hrecord)
  unlinked := h.unlinked

theorem OnDisk.of_stage (h : r.OnDisk job) (stage : Stage) :
    OnDisk job { r with stage := stage } := by
  refine ⟨h.fresh, fun node hnode => ?_, h.record, h.unlinked⟩
  obtain ⟨data, hknown⟩ := h.known node hnode
  exact ⟨data, hknown.lookup, hknown.complete, hknown.target, hknown.temp, hknown.row,
    hknown.number⟩

/-- **The temporary file is removed**: it had no other name, and was not published. -/
theorem OnDisk.unlink (h : r.OnDisk job) (hnode : r.node = some node)
    (htemp : r.fs.names.lookup job.tempPath = some node) (hlinks : r.fs.links node ≤ 1)
    (stage : Stage) :
    (∀ path, (r.fs.unlink job.tempPath).names.lookup path ≠ some node) ∧
    OnDisk job { r with
      fs := r.fs.unlink job.tempPath
      stage := stage
      unlinked := (r.fs.vanished (r.fs.unlink job.tempPath)).map (·, r.published) ++
        r.unlinked } := by
  obtain ⟨data, hknown⟩ := h.known node hnode
  have hpublished : r.published = false := hknown.temp htemp
  have hgone : ∀ path, (r.fs.unlink job.tempPath).names.lookup path ≠ some node := by
    intro path hpath
    obtain ⟨hne, hpath⟩ := FileSystem.lookup_unlink_eq_some.mp hpath
    exact hne (FileSystem.eq_of_links_le_one hlinks hpath htemp)
  refine ⟨hgone, fun hnone => absurd (hnode.symm.trans hnone) (by simp), ?_, h.record, ?_⟩
  · intro node' hnode'
    obtain rfl : node' = node := Option.some.inj (hnode'.symm.trans hnode)
    refine ⟨data, hknown.lookup, hknown.complete, fun htarget => absurd htarget (hgone _),
      fun htemp => absurd htemp (hgone _), fun _ path hpath => absurd hpath (hgone path), ?_⟩
    intro found data' hstat
    exact absurd rfl (FileSystem.lookup_unlink_eq_some.mp (FileSystem.stat_eq_some.mp hstat).1).1
  · intro entry hentry
    rcases List.mem_append.mp hentry with hentry | hentry
    · obtain ⟨id, hid, rfl⟩ := List.mem_map.mp hentry
      rw [Option.some.inj ((FileSystem.mem_vanished_unlink hid).symm.trans htemp)]
      exact ⟨hnode, hpublished⟩
    · exact h.unlinked entry hentry

/-- **The temporary file is created.** -/
theorem OnDisk.create (h : r.OnDisk job) (hnone : r.node = none) (hrow : r.row.isSome)
    {dev ino : ℕ} {fs : PathSystem} {stage : Stage}
    (hcreate : r.fs.createNew job.tempPath node ⟨dev, ino, []⟩ = some fs) :
    OnDisk job { r with fs := fs, stage := stage, node := some node } := by
  obtain ⟨hpublished, hunlinked⟩ := h.fresh hnone
  obtain ⟨hfree, hnew, hnames, hnodes⟩ := FileSystem.createNew_eq_some hcreate
  have hlookup : fs.nodes.lookup node = some ⟨dev, ino, []⟩ := by
    rw [hnodes]
    exact AList.lookup_insert ..
  -- the file is new, so that no other path names it
  have hnamed : ∀ path, fs.names.lookup path = some node → path = job.tempPath := by
    intro path hpath
    rw [hnames] at hpath
    rcases Table.lookup_insert_eq_some.mp hpath with ⟨rfl, -⟩ | ⟨-, hpath⟩
    · rfl
    · obtain ⟨data, hdata⟩ := r.fs.named path node hpath
      cases hnew.symm.trans hdata
  refine ⟨fun hnone' => absurd hnone' (by simp), ?_, ?_, ?_⟩
  · rintro _ ⟨⟩
    refine ⟨⟨dev, ino, []⟩, hlookup, fun htrue => ?_, fun htarget => ?_, fun _ => hpublished,
      fun _ _ _ => hrow, ?_⟩
    · cases hpublished.symm.trans htrue
    · exact absurd (hnamed _ htarget) (tempPath_ne_target job).symm
    · intro found data' hstat _ _
      have htemp := (FileSystem.stat_eq_some.mp hstat).1
      rw [show fs.names.lookup job.tempPath = some node by
        rw [hnames]; exact AList.lookup_insert ..] at htemp
      exact (Option.some.inj htemp).symm
  · intro record hrecord
    rcases h.record record hrecord with heq | ⟨node', data, hnode', -⟩
    · exact .inl heq
    · cases hnone.symm.trans hnode'
  · intro entry hentry
    rw [hunlinked] at hentry
    cases hentry

/-- **The content changes**, through the file that the daemon holds open. -/
theorem OnDisk.setContent (h : r.OnDisk job) (hnode : r.node = some node)
    (hdata : r.fs.nodes.lookup node = some data) {content : Bytes} {stage : Stage}
    (hcomplete : r.published = true → content = job.content) :
    OnDisk job { r with fs := r.fs.setContent node content, stage := stage } := by
  have hlookup : (r.fs.setContent node content).nodes.lookup node =
      some { data with content := content } := by
    rw [FileSystem.lookup_setContent, if_pos rfl, hdata]
    rfl
  refine ⟨h.fresh, ?_, ?_, h.unlinked⟩
  · intro node' hnode'
    obtain rfl : node' = node := Option.some.inj (hnode'.symm.trans hnode)
    obtain ⟨data', hknown⟩ := h.known node' hnode'
    obtain rfl := Option.some.inj (hdata.symm.trans hknown.lookup)
    refine ⟨_, hlookup, hcomplete, hknown.target, hknown.temp, hknown.row, ?_⟩
    intro found data' hstat hdev hino
    obtain ⟨htemp, hfound⟩ := FileSystem.stat_eq_some.mp hstat
    rw [FileSystem.lookup_setContent] at hfound
    split_ifs at hfound with heq
    · exact heq
    · exact hknown.number found data' (FileSystem.stat_eq_some.mpr ⟨htemp, hfound⟩) hdev hino
  · intro record hrecord
    rcases h.record record hrecord with heq | ⟨node', data', hnode', hdata', heq⟩
    · exact .inl heq
    · obtain rfl : node' = node := Option.some.inj (hnode'.symm.trans hnode)
      obtain rfl := Option.some.inj (hdata.symm.trans hdata')
      exact .inr ⟨node', _, hnode', hlookup, heq⟩

/-- **The file gets its name.** -/
theorem OnDisk.publish (h : r.OnDisk job) (hnode : r.node = some node)
    (hdata : r.fs.nodes.lookup node = some data) (hcontent : data.content = job.content)
    {fs : PathSystem} {stage : Stage}
    (hrename : r.fs.renameNoreplace job.tempPath job.target = some fs) :
    OnDisk job { r with fs := fs, stage := stage, published := true } := by
  obtain ⟨-, -, -, -, hnodes⟩ := FileSystem.renameNoreplace_eq_some hrename
  have hlookup := FileSystem.lookup_renameNoreplace hrename
  refine ⟨fun hnone => absurd (hnode.symm.trans hnone) (by simp), ?_, ?_, h.unlinked⟩
  · intro node' hnode'
    obtain rfl : node' = node := Option.some.inj (hnode'.symm.trans hnode)
    have hfree : fs.names.lookup job.tempPath = none := by
      rw [hlookup, if_neg (tempPath_ne_target job), if_pos rfl]
    refine ⟨data, by rw [hnodes]; exact hdata, fun _ => hcontent, fun _ => rfl, fun htemp' => ?_,
      fun hfalse => ?_, fun found data' hstat => ?_⟩
    · cases hfree.symm.trans htemp'
    · cases hfalse
    · cases hfree.symm.trans (FileSystem.stat_eq_some.mp hstat).1
  · intro record hrecord
    rcases h.record record hrecord with heq | ⟨node', data', hnode', hdata', heq⟩
    · exact .inl heq
    · exact .inr ⟨node', data', hnode', by rw [hnodes]; exact hdata', heq⟩

/-- **Another program** changes the disk. -/
theorem Invariant.otherProgram (h : r.Invariant job) {fs : PathSystem}
    (hcareful : r.Careful job (.otherProgram fs))
    (hstep : r.step job (.otherProgram fs) = some r') : r'.Invariant job := by
  rw [CrashRun.step] at hstep
  split at hstep
  · cases hstep
  rename_i hdead
  cases hstep
  -- a file that has a name had one before
  have hnamed : ∀ node path, r.node = some node → fs.names.lookup path = some node →
      ∃ path, r.fs.names.lookup path = some node := by
    intro node path hnode hpath
    refine FileSystem.links_pos_iff.mp (Nat.pos_of_ne_zero fun hzero => hdead ?_)
    have hpos := FileSystem.links_pos_iff.mpr ⟨path, hpath⟩
    rw [hnode, Option.any_some]
    exact decide_eq_true ⟨hzero, hpos.ne'⟩
  refine ⟨⟨h.disk.fresh, fun node hnode => ?_, ?_, h.disk.unlinked⟩, ?_⟩
  · obtain ⟨data, hknown⟩ := h.disk.known node hnode
    obtain ⟨hsame, htarget, htemp, hnumber, -, -⟩ := hcareful node hnode
    refine ⟨data, hsame.trans hknown.lookup, hknown.complete,
      fun hpath => hknown.target (htarget hpath), fun hpath => hknown.temp (htemp hpath),
      fun hpublished path hpath => ?_, ?_⟩
    · obtain ⟨path', hpath'⟩ := hnamed node path hnode hpath
      exact hknown.row hpublished path' hpath'
    · intro found data' hstat hdev hino
      refine hnumber (found, data') hstat ?_
      rw [hknown.lookup, Option.any_some]
      simp [FileIdentity.isSameFilesystemObject, FileIdentity.ofNode, hdev, hino]
  · intro record hrecord
    rcases h.disk.record record hrecord with heq | ⟨node, data, hnode, hdata, heq⟩
    · exact .inl heq
    · exact .inr ⟨node, data, hnode, (hcareful node hnode).1.trans hdata, heq⟩
  · have hsound := h.stage
    show StageSound job { r with fs := fs } r.stage
    cases hstage : r.stage with
    | dropping =>
      rw [hstage] at hsound
      intro node path hnode hpath
      obtain ⟨path', hpath'⟩ := hnamed node path hnode hpath
      exact hsound node path' hnode hpath'
    | sized node identity =>
      rw [hstage] at hsound
      refine ⟨hsound.1, hsound.2.1, fun data hdata => hsound.2.2 data ?_⟩
      exact (hcareful node hsound.1).1.symm.trans hdata
    | removing remover target expected =>
      rw [hstage] at hsound
      obtain ⟨rfl, node, data, hnode, hdata, hnumber⟩ := hsound
      exact ⟨rfl, node, data, hnode, (hcareful node hnode).1.trans hdata, hnumber⟩
    | unlinking remover target =>
      rw [hstage] at hsound
      obtain ⟨rfl, node, hnode, htemp, hlinks⟩ := hsound
      obtain ⟨-, -, -, -, hkeeps, hlinked⟩ := hcareful node hnode
      rw [hstage] at hkeeps hlinked
      exact ⟨rfl, node, hnode, (hkeeps rfl).trans htemp, (hlinked rfl).trans hlinks⟩
    | active upload node point =>
      rw [hstage] at hsound
      obtain ⟨hsame, -, -, -, hkeeps, -⟩ := hcareful node hsound.1
      refine ⟨hsound.1, fun data hdata => ?_⟩
      have hagrees := hsound.2 data (hsame.symm.trans hdata)
      refine ⟨hagrees.target, hagrees.tempPath, hagrees.size, hagrees.identity, hagrees.published,
        hagrees.length, hagrees.within, hagrees.bytes, hagrees.covered, ?_, hagrees.synced⟩
      rintro rfl
      exact (hkeeps (by rw [hstage])).trans (hagrees.rename rfl)
    | begun | intended | opened | ended | down =>
      rw [hstage] at hsound
      exact hsound

/-- **A start-up** looks for the file of the row. -/
theorem Invariant.startUp (h : r.Invariant job) {fault : Bool}
    (hstep : r.step job (.startUp fault) = some r') : r'.Invariant job := by
  rw [CrashRun.step] at hstep
  split at hstep
  · cases hstep
  split at hstep
  · cases hstep
    exact ⟨h.disk.of_stage _, trivial⟩
  rename_i record hrow
  split at hstep
  · cases hstep
    exact ⟨h.disk.of_stage _, trivial⟩
  rename_i identity hidentity
  cases hstep
  refine ⟨h.disk.of_stage _, ?_⟩
  have hrecord : r.row = some record := by
    split at hrow
    · cases hrow
    · exact hrow
  obtain ⟨hknows, rfl⟩ := HttpUploadRecoveryRecord.identity_eq_some.mp hidentity
  rcases h.disk.record record hrecord with rfl | ⟨node, data, hnode, hdata, rfl⟩
  · exact absurd ⟨rfl, rfl⟩ hknows
  · refine ⟨rfl, node, data, hnode, hdata, ?_⟩
    simp [FileIdentity.isSameFilesystemObject, FileIdentity.ofNode, Job.record]

/-- **The look at the path** finds the file of the upload, or nothing to remove. -/
theorem Invariant.checkTemp (h : r.Invariant job) {fault : Option ProtocolError}
    (hcareful : r.Careful job (.checkTemp fault))
    (hstep : r.step job (.checkTemp fault) = some r') : r'.Invariant job := by
  have hsound := h.stage
  rw [CrashRun.step] at hstep
  split at hstep
  · rename_i remover target expected hstage
    rw [hstage] at hsound
    obtain ⟨rfl, node, data, hnode, hdata, hnumber⟩ := hsound
    obtain ⟨data', hknown⟩ := h.disk.known node hnode
    obtain rfl := Option.some.inj (hdata.symm.trans hknown.lookup)
    split at hstep
    · rename_i result hcheck
      cases hstep
      refine ⟨h.disk.of_stage _, ?_⟩
      cases remover with
      | preparation => trivial
      | startUp => trivial
      | creation =>
        rw [CrashRun.Careful, hstage] at hcareful
        obtain ⟨rfl, hlinks⟩ := hcareful rfl
        intro node' path hnode' hpath
        obtain rfl : node' = node := Option.some.inj (hnode'.symm.trans hnode)
        -- the file would have been removed, so that it had no name already
        rcases hlinks node' hnode with hzero | ⟨htemp, hone⟩
        · have hpos : 0 < r.fs.links node' := FileSystem.links_pos_iff.mpr ⟨path, hpath⟩
          omega
        · have hremoved : checkTarget r.fs job.tempPath expected .inMemoryOpenHandle none = none :=
            checkTarget_eq_none.mpr ⟨rfl, node', data, FileSystem.stat_eq_some.mpr
              ⟨htemp, hdata⟩, match_inMemory (isSameFilesystemObject_comm hnumber), hone⟩
          cases hcheck.symm.trans hremoved
    · rename_i hcheck
      cases hstep
      refine ⟨h.disk.of_stage _, ?_⟩
      obtain ⟨-, found, data', hstat, hmatch, hlinks⟩ := checkTarget_eq_none.mp hcheck
      have hsame := isSameFilesystemObject_of_match hmatch
      obtain ⟨hdev, hino⟩ := isSameFilesystemObject_iff.mp hsame
      obtain ⟨hdev', hino'⟩ := isSameFilesystemObject_iff.mp hnumber
      obtain rfl := hknown.number found data' hstat (hdev.trans hdev') (hino.trans hino')
      exact ⟨rfl, found, hnode, (FileSystem.stat_eq_some.mp hstat).1, hlinks⟩
  · cases hstep

/-- **The removal** takes the file that was found. -/
theorem Invariant.unlinkTemp (h : r.Invariant job) {fault : Option ProtocolError}
    (hcareful : r.Careful job (.unlinkTemp fault))
    (hstep : r.step job (.unlinkTemp fault) = some r') : r'.Invariant job := by
  have hsound := h.stage
  rw [CrashRun.step] at hstep
  split at hstep
  · rename_i remover target hstage
    rw [hstage] at hsound
    obtain ⟨rfl, node, hnode, htemp, hlinks⟩ := hsound
    cases fault with
    | some error =>
      rw [removeFile_fault] at hstep
      dsimp only at hstep
      rw [FileSystem.vanished_self] at hstep
      cases hstep
      refine ⟨h.disk.of_stage _, ?_⟩
      cases remover with
      | preparation => trivial
      | startUp => trivial
      | creation =>
        rw [CrashRun.Careful, hstage] at hcareful
        cases hcareful rfl
    | none =>
      rw [removeFile_of_lookup htemp] at hstep
      cases hstep
      obtain ⟨hgone, hdisk⟩ := h.disk.unlink hnode htemp hlinks _
      refine ⟨hdisk, ?_⟩
      cases remover with
      | preparation => trivial
      | startUp | creation =>
        intro node' path hnode'
        obtain rfl : node' = node := Option.some.inj (hnode'.symm.trans hnode)
        exact hgone path
  · cases hstep

theorem Agrees.of_point {upload : SessionFileHttpUploadState} {point point' : Option PublishPoint}
    (h : r.Agrees job upload node data point) {stage : Stage}
    (hcovered : point' ≠ none → ∀ i, i < upload.sizeBytes → upload.writtenRanges.Covers i)
    (hrename : point' = some .rename → r.fs.names.lookup job.tempPath = some node)
    (hsynced : point' = some .directorySync ∨ point' = some .removeRow → r.published = true) :
    Agrees job { r with stage := stage } upload node data point' :=
  ⟨h.target, h.tempPath, h.size, h.identity, h.published, h.length, h.within, h.bytes, hcovered,
    hrename, hsynced⟩

/-- A commit that is not going on. -/
theorem Agrees.stop {upload : SessionFileHttpUploadState} {point : Option PublishPoint}
    (h : r.Agrees job upload node data point) (stage : Stage) :
    Agrees job { r with stage := stage } upload node data none :=
  h.of_point (fun hne => absurd rfl hne) (fun heq => by cases heq) (by simp)

/-- **An effect of a commit.** -/
theorem Invariant.publish (h : r.Invariant job) {upload : SessionFileHttpUploadState}
    {point : PublishPoint} (hstage : r.stage = .active upload node (some point)) (fault : Bool) :
    (r.publish upload node fault point).Invariant job := by
  have hsound := h.stage
  rw [hstage] at hsound
  obtain ⟨hnode, hsound⟩ := hsound
  obtain ⟨data, hknown⟩ := h.disk.known node hnode
  have hagrees := hsound data hknown.lookup
  have hcovered := hagrees.covered (by simp)
  -- a state that differs in the stage only
  have hstop : ∀ (point' : Option PublishPoint), (∀ {stage},
      Agrees job { r with stage := stage } upload node data point') →
      Invariant job { r with stage := .active upload node point' } := by
    intro point' hagrees'
    refine ⟨h.disk.of_stage _, hnode, fun data' hdata' => ?_⟩
    obtain rfl := Option.some.inj (hknown.lookup.symm.trans hdata')
    exact hagrees'
  cases point with
  | fileSync =>
    rw [CrashRun.publish]
    split
    · exact hstop none (hagrees.stop _)
    split
    · rename_i hpublished
      refine hstop _ (hagrees.of_point (fun _ => hcovered) (by simp) fun _ => ?_)
      rw [← hagrees.published]
      exact hpublished
    · exact hstop _ (hagrees.of_point (fun _ => hcovered) (by simp) (by simp))
  | identity =>
    rw [CrashRun.publish]
    split
    · exact hstop none (hagrees.stop _)
    · rename_i hensure
      refine hstop _ (hagrees.of_point (fun _ => hcovered) (fun _ => ?_) (by simp))
      rw [ensureTargetIdentity, hagrees.tempPath] at hensure
      split at hensure
      · cases hensure
      rename_i found data' hstat
      split at hensure
      · rename_i hidentity
        rw [hagrees.identity] at hidentity
        obtain ⟨hdev, hino, -⟩ := FileIdentity.mk.inj hidentity
        obtain rfl := hknown.number found data' hstat hdev hino
        exact (FileSystem.stat_eq_some.mp hstat).1
      · cases hensure
  | rename =>
    have htemp := hagrees.rename rfl
    rw [CrashRun.publish]
    split
    · exact hstop none (hagrees.stop _)
    · rename_i fs hrename
      split at hrename
      · cases hrename
      rw [hagrees.tempPath, hagrees.target] at hrename
      have hcontent : data.content = job.content := by
        refine List.ext_getElem? fun i => ?_
        by_cases hi : i < upload.sizeBytes
        · exact hagrees.bytes i (hcovered i hi)
        · have hsize := hagrees.size
          have hlength := hagrees.length
          rw [List.getElem?_eq_none (by omega), List.getElem?_eq_none (by omega)]
      have hnamed : decide (r.fs.names.lookup upload.tempPath = some node) = true := by
        rw [hagrees.tempPath]
        exact decide_eq_true htemp
      rw [hnamed, Bool.or_true]
      obtain ⟨-, -, -, -, hnodes⟩ := FileSystem.renameNoreplace_eq_some hrename
      refine ⟨h.disk.publish hnode hknown.lookup hcontent hrename, hnode, fun data' hdata' => ?_⟩
      have hbefore : r.fs.nodes.lookup node = some data' := hnodes ▸ hdata'
      obtain rfl := Option.some.inj (hknown.lookup.symm.trans hbefore)
      exact ⟨hagrees.target, hagrees.tempPath, hagrees.size, hagrees.identity, rfl, hagrees.length,
        hagrees.within, hagrees.bytes, fun _ => hcovered, by simp, fun _ => rfl⟩
  | directorySync =>
    rw [CrashRun.publish]
    split
    · exact hstop none (hagrees.stop _)
    · exact hstop _ (hagrees.of_point (fun _ => hcovered) (by simp) fun _ =>
        hagrees.synced (.inl rfl))
  | removeRow =>
    have hpublished := hagrees.synced (.inr rfl)
    rw [CrashRun.publish]
    split
    · exact hstop none (hagrees.stop _)
    · refine ⟨h.disk.of_row (fun _ hnone => by cases hnone) fun _ node' path _ hfalse => ?_, hnode,
        fun data' hdata' => ?_⟩
      · cases hpublished.symm.trans hfalse
      · obtain rfl := Option.some.inj (hknown.lookup.symm.trans hdata')
        exact ⟨hagrees.target, hagrees.tempPath, hagrees.size, hagrees.identity, hagrees.published,
          hagrees.length, hagrees.within, hagrees.bytes, fun hne => absurd rfl hne, by simp,
          by simp⟩

theorem getElem?_overwrite_slice {file content : Bytes} {start stop : ℕ}
    (hle : start ≤ stop) (hfile : stop ≤ file.length) (hcontent : stop ≤ content.length) (i : ℕ) :
    (overwrite file start ((content.drop start).take (stop - start)))[i]? =
      if start ≤ i ∧ i < stop then content[i]? else file[i]? := by
  have hlen : ((content.drop start).take (stop - start)).length = stop - start := by
    rw [List.length_take, List.length_drop]
    omega
  rw [getElem?_overwrite (by omega), hlen]
  by_cases hin : start ≤ i ∧ i < stop
  · rw [if_pos (by omega), if_pos hin, List.getElem?_take_of_lt (by omega), List.getElem?_drop]
    congr 1
    omega
  · rw [if_neg (by omega), if_neg hin]

/-- The ranges that are recorded hold the content, the one that is written among them. -/
theorem Agrees.write {upload : SessionFileHttpUploadState} (h : r.Agrees job upload node data none)
    {content : Bytes} {start stop : ℕ} (hlength : content.length = job.content.length)
    (hbytes : ∀ i, content[i]? =
      if start ≤ i ∧ i < stop then job.content[i]? else data.content[i]?) {written : Ranges}
    (hwithin : written.Within upload.sizeBytes)
    (hcovers : ∀ i, written.Covers i → upload.writtenRanges.Covers i ∨ start ≤ i ∧ i < stop)
    (fs : PathSystem) (stage : Stage) :
    Agrees job { r with fs := fs, stage := stage } { upload with writtenRanges := written } node
      { data with content := content } none := by
  refine ⟨h.target, h.tempPath, h.size, h.identity, h.published, hlength, hwithin, fun i hi => ?_,
    fun hne => absurd rfl hne, by simp, by simp⟩
  dsimp only
  rw [hbytes i]
  split_ifs with hin
  · rfl
  · exact h.bytes i ((hcovers i hi).resolve_right hin)

/-- **A chunk is written.** -/
theorem Invariant.write (h : r.Invariant job) {offset len : ℕ} {recorded : Bool}
    (hstep : r.step job (.write offset len recorded) = some r') : r'.Invariant job := by
  have hsound := h.stage
  rw [CrashRun.step] at hstep
  split at hstep
  · rename_i upload node hstage
    rw [hstage] at hsound
    obtain ⟨hnode, hsound⟩ := hsound
    split at hstep
    · rename_i data upload' start stop hdata hreserve
      have hagrees := hsound data hdata
      obtain ⟨-, hnone, -⟩ | ⟨hpos, hsize, hfree, -, -, heq⟩ :=
        SessionFileHttpUploadState.reserveWriteRange_eq_ok hreserve
      · cases hnone
      cases heq
      have hfits : offset + len ≤ job.content.length := hagrees.size ▸ hsize
      have hbytes := getElem?_overwrite_slice (Nat.le_add_right offset len)
        (hagrees.length.symm ▸ hfits) hfits
      have hlength : (overwrite data.content offset
          ((job.content.drop offset).take (offset + len - offset))).length =
            job.content.length := by
        refine (length_overwrite ?_).trans hagrees.length
        rw [List.length_take, List.length_drop, hagrees.length]
        omega
      dsimp only at hstep
      generalize overwrite data.content offset
        ((job.content.drop offset).take (offset + len - offset)) = content at hstep hbytes hlength
      have hcomplete : r.published = true → content = job.content := by
        intro hpublished
        obtain ⟨data', hknown⟩ := h.disk.known node hnode
        obtain rfl := Option.some.inj (hdata.symm.trans hknown.lookup)
        refine List.ext_getElem? fun i => ?_
        rw [hbytes i, hknown.complete hpublished, ite_self]
      have hlookup : ∀ {data'}, (r.fs.setContent node content).nodes.lookup node = some data' →
          data' = { data with content := content } := by
        intro data' hdata'
        rw [FileSystem.lookup_setContent, if_pos rfl, hdata] at hdata'
        exact (Option.some.inj hdata').symm
      have hunwritten : ∀ i, offset ≤ i → i < offset + len → ¬upload.writtenRanges.Covers i :=
        fun i => not_covers_of_rangeOverlaps hagrees.within upload.size_lt hfree
      split at hstep
      · rw [SessionFileHttpUploadState.recordWrittenRange_of_free hagrees.within (by omega) hsize
          hunwritten, Nat.add_sub_cancel_left] at hstep
        cases hstep
        refine ⟨h.disk.setContent hnode hdata hcomplete, hnode, fun data' hdata' => ?_⟩
        rw [hlookup hdata']
        exact hagrees.write hlength hbytes (hagrees.within.insert hpos hsize hunwritten)
          (fun i hi => (Ranges.covers_insert_iff hagrees.within hpos hunwritten).mp hi) _ _
      · cases hstep
        refine ⟨h.disk.setContent hnode hdata hcomplete, ?_⟩
        show StageSound job _ r.stage
        rw [hstage]
        refine ⟨hnode, fun data' hdata' => ?_⟩
        rw [hlookup hdata']
        exact hagrees.write hlength hbytes hagrees.within (fun i hi => .inl hi) _ _
    · cases hstep
  · cases hstep

/-- The file gets its size. -/
theorem Invariant.sizeTemp (h : r.Invariant job) {fault : Option SizeFault}
    (hcareful : r.Careful job (.sizeTemp fault))
    (hstep : r.step job (.sizeTemp fault) = some r') : r'.Invariant job := by
  have hsound := h.stage
  rw [CrashRun.step] at hstep
  split at hstep
  · rename_i node hstage
    rw [hstage] at hsound
    obtain ⟨hnode, hpublished⟩ := hsound
    obtain ⟨data, hknown⟩ := h.disk.known node hnode
    rw [hknown.lookup] at hstep
    rcases hcareful with rfl | rfl
    · cases hstep
      refine ⟨h.disk.setContent hnode hknown.lookup fun htrue => ?_, hnode, hpublished,
        fun data' hdata' => ?_⟩
      · cases hpublished.symm.trans htrue
      · rw [FileSystem.lookup_setContent, if_pos rfl, hknown.lookup] at hdata'
        cases hdata'
        exact ⟨rfl, rfl⟩
    · cases hstep
      refine ⟨h.disk.of_stage _, rfl, node, data, hnode, hknown.lookup, ?_⟩
      exact isSameFilesystemObject_iff.mpr ⟨rfl, rfl⟩
  · cases hstep

/-- **The number of the file is recorded**, and the upload can begin. -/
theorem Invariant.recordIdentity (h : r.Invariant job) {fault : Bool}
    (hstep : r.step job (.recordIdentity fault) = some r') : r'.Invariant job := by
  have hsound := h.stage
  rw [CrashRun.step] at hstep
  split at hstep
  · rename_i node identity hstage
    rw [hstage] at hsound
    obtain ⟨hnode, hpublished, hsized⟩ := hsound
    obtain ⟨data, hknown⟩ := h.disk.known node hnode
    obtain ⟨rfl, hzeros⟩ := hsized data hknown.lookup
    split at hstep
    · cases hstep
      refine ⟨h.disk.of_stage _, rfl, node, data, hnode, hknown.lookup, ?_⟩
      exact isSameFilesystemObject_iff.mpr ⟨rfl, rfl⟩
    · cases hstep
      have hlength : data.content.length = job.content.length := by
        rw [hzeros, List.length_replicate]
      have hsize : (UInt64.ofNat job.content.length).toNat = job.content.length :=
        UInt64.toNat_ofNat_of_lt' job.size_lt
      refine ⟨⟨h.disk.fresh, fun node' hnode' => ?_, fun record hrecord => ?_, h.disk.unlinked⟩,
        hnode, fun data' hdata' => ?_⟩
      · obtain rfl : node' = node := Option.some.inj (hnode'.symm.trans hnode)
        exact ⟨data, hknown.lookup, hknown.complete, hknown.target, hknown.temp, fun _ _ _ => rfl,
          hknown.number⟩
      · cases hrecord
        exact .inr ⟨node, data, hnode, hknown.lookup, rfl⟩
      · obtain rfl := Option.some.inj (hknown.lookup.symm.trans hdata')
        refine ⟨rfl, rfl, hsize, ?_, hpublished.symm, hlength, Ranges.within_empty _,
          fun i hi => ?_, fun hne => absurd rfl hne, by simp, by simp⟩
        · rw [← hlength]
          rfl
        · exact absurd hi Ranges.not_covers_empty
  · cases hstep

/-- **Careful steps keep the invariant.** -/
theorem Invariant.step (h : r.Invariant job) {l : CrashStep} (hcareful : r.Careful job l)
    (hstep : r.step job l = some r') : r'.Invariant job := by
  have hsound := h.stage
  cases l with
  | recordIntent fault =>
    rw [CrashRun.step] at hstep
    split at hstep
    · cases hstep
    rename_i hstage
    rw [not_not.mp hstage] at hsound
    split at hstep
    · cases hstep
      exact ⟨h.disk.of_stage _, trivial⟩
    · cases hstep
      refine ⟨⟨h.disk.fresh, fun node hnode => ?_, fun record hrecord => ?_, h.disk.unlinked⟩,
        hsound, rfl⟩
      · cases (show r.node = none from hsound).symm.trans hnode
      · cases hrecord
        exact .inl rfl
  | createTemp node dev ino fault =>
    rw [CrashRun.step] at hstep
    split at hstep
    · cases hstep
    rename_i hstage
    rw [not_not.mp hstage] at hsound
    obtain ⟨hnone, hrow⟩ := hsound
    split at hstep
    · cases hstep
      refine ⟨h.disk.of_stage _, fun node' path hnode' => ?_⟩
      cases hnone.symm.trans hnode'
    · rename_i fs hcreate
      cases hstep
      split at hcreate
      · cases hcreate
      · exact ⟨h.disk.create hnone hrow hcreate, rfl, (h.disk.fresh hnone).1⟩
  | sizeTemp fault => exact h.sizeTemp hcareful hstep
  | checkTemp fault => exact h.checkTemp hcareful hstep
  | unlinkTemp fault => exact h.unlinkTemp hcareful hstep
  | dropRow fault =>
    rw [CrashRun.step] at hstep
    split at hstep
    · cases hstep
    rename_i hstage
    rw [not_not.mp hstage] at hsound
    cases hstep
    refine ⟨h.disk.of_row (fun record hrecord => ?_) fun _ node path hnode _ => ?_, trivial⟩
    · split at hrecord
      · exact hrecord
      · cases hrecord
    · exact hsound node path hnode
  | recordIdentity fault => exact h.recordIdentity hstep
  | write offset len recorded => exact h.write hstep
  | commit =>
    rw [CrashRun.step] at hstep
    split at hstep
    · rename_i upload node hstage
      rw [hstage] at hsound
      obtain ⟨hnode, hsound⟩ := hsound
      split at hstep
      · rename_i hcomplete
        cases hstep
        refine ⟨h.disk.of_stage _, hnode, fun data hdata => ?_⟩
        exact (hsound data hdata).of_point (fun _ i hi =>
          SessionFileHttpUploadState.covers_of_hasCompleteCoverage hcomplete.2 hi) (by simp)
          (by simp)
      · cases hstep
    · cases hstep
  | publish fault =>
    rw [CrashRun.step] at hstep
    split at hstep
    · rename_i upload node point hstage
      cases hstep
      exact h.publish hstage fault
    · cases hstep
  | otherProgram fs => exact h.otherProgram hcareful hstep
  | crash =>
    cases hstep
    exact ⟨h.disk.of_stage _, trivial⟩
  | startUp fault => exact h.startUp hstep

theorem Invariant.safe (h : r.Invariant job) : r.Safe job where
  complete := by
    intro node data hnode hstat
    obtain ⟨htarget, hdata⟩ := FileSystem.stat_eq_some.mp hstat
    obtain ⟨data', hknown⟩ := h.disk.known node hnode
    obtain rfl := Option.some.inj (hdata.symm.trans hknown.lookup)
    exact hknown.complete (hknown.target htarget)
  own := fun entry hentry => (h.disk.unlinked entry hentry).1
  unpublished := fun entry hentry => (h.disk.unlinked entry hentry).2
  row := by
    intro node path hnode hpublished hpath
    obtain ⟨data, hknown⟩ := h.disk.known node hnode
    exact hknown.row hpublished path hpath

/-- **What a start-up removes** when nothing keeps it from it: a row that knows the number of the
file, with the file, if the path still names it, at its length and under no other name. -/
theorem Invariant.row_startUp (h : r.Invariant job) {record : HttpUploadRecoveryRecord}
    (hrow : r.row = some record) (hdown : r.stage = .down) :
    ∃ n r', exec (CrashRun.step job) r (undisturbedStartUp.take n) = some r' ∧
      r'.stage = .ended ∧
      (r'.row = none ↔ record ≠ job.record 0 0 ∧ ∃ node data, r.node = some node ∧
        r.fs.stat job.tempPath = some (node, data) ∧ data.content.length = job.content.length ∧
        r.fs.links node ≤ 1) ∧
      (r'.row = none → ∀ node path, r'.node = some node →
        r'.fs.names.lookup path ≠ some node) := by
  have hkept {s : CrashRun} (hs : s.row = some record) {p : Prop} (hp : ¬p) :
      (s.row = none ↔ p) ∧ (s.row = none → ∀ node path, s.node = some node →
        s.fs.names.lookup path ≠ some node) := by
    rw [hs]
    exact ⟨iff_of_false nofun hp, nofun⟩
  have hstart {identity : Option FileIdentity} (hidentity : record.identity = identity) :
      CrashRun.step job r (.startUp false) = some { r with
        stage := (identity.map (.removing .startUp record.targetPath)).getD .ended } := by
    rw [CrashRun.step, if_neg (not_not.mpr hdown)]
    simp only [Bool.false_eq_true, if_false, hrow]
    subst hidentity
    cases record.identity <;> rfl
  by_cases hzero : record.dev = 0 ∧ record.ino = 0
  · -- an intent: the number of its file was not recorded
    have hrun : exec (CrashRun.step job) r (undisturbedStartUp.take 1) =
        some { r with stage := .ended } := by
      rw [undisturbedStartUp, List.take_succ_cons, exec_cons, hstart (if_pos hzero)]
      rfl
    refine ⟨1, _, hrun, rfl, hkept hrow fun hknows => hknows.1 ?_⟩
    rcases h.disk.record record hrow with heq | ⟨node, data, -, -, rfl⟩
    · exact heq
    · rw [show data.dev = 0 from hzero.1, show data.ino = 0 from hzero.2]
  · have hidentity : record.identity = some ⟨record.dev, record.ino, record.sizeBytes⟩ :=
      if_neg hzero
    rcases h.disk.record record hrow with rfl | ⟨node, data, hnode, hdata, rfl⟩
    · exact absurd ⟨rfl, rfl⟩ hzero
    obtain ⟨data', hknown⟩ := h.disk.known node hnode
    obtain rfl := Option.some.inj (hdata.symm.trans hknown.lookup)
    have hne : job.record data.dev data.ino ≠ job.record 0 0 := by
      simpa [Job.record] using hzero
    have hremoved : checkTarget r.fs job.tempPath ⟨data.dev, data.ino, job.content.length⟩
        .persistedRecovery none = none ↔ ∃ node data, r.node = some node ∧
          r.fs.stat job.tempPath = some (node, data) ∧
          data.content.length = job.content.length ∧ r.fs.links node ≤ 1 := by
      rw [checkTarget_persisted_iff]
      constructor
      · rintro ⟨found, data', hstat, hidentity, hlinks⟩
        obtain ⟨hdev, hino, hlen⟩ := FileIdentity.mk.inj hidentity
        obtain rfl := hknown.number found data' hstat hdev hino
        exact ⟨found, data', hnode, hstat, hlen, hlinks⟩
      · rintro ⟨node', data', hnode', hstat, hlen, hlinks⟩
        obtain rfl : node' = node := Option.some.inj (hnode'.symm.trans hnode)
        obtain rfl := Option.some.inj
          ((FileSystem.stat_eq_some.mp hstat).2.symm.trans hknown.lookup)
        exact ⟨node', data', hstat, by rw [FileIdentity.ofNode, hlen], hlinks⟩
    -- the start-up finds the file to be removed, or ends
    have hlook : exec (CrashRun.step job) r (undisturbedStartUp.take 2) =
        match checkTarget r.fs job.tempPath ⟨data.dev, data.ino, job.content.length⟩
          .persistedRecovery none with
        | some _ => some { r with stage := .ended }
        | none => some { r with stage := .unlinking .startUp job.tempPath } := by
      rw [undisturbedStartUp, List.take_succ_cons, exec_cons, hstart hidentity]
      dsimp only [Option.map_some, Option.getD_some, Option.bind_some, List.take_succ_cons,
        List.take_zero]
      rw [exec_cons, CrashRun.step]
      dsimp only [Remover.mode, Job.record]
      cases checkTarget r.fs job.tempPath ⟨data.dev, data.ino, job.content.length⟩
        .persistedRecovery none <;> rfl
    cases hcheck : checkTarget r.fs job.tempPath ⟨data.dev, data.ino, job.content.length⟩
        .persistedRecovery none with
    | some result =>
      rw [hcheck] at hlook
      refine ⟨2, _, hlook, rfl, hkept hrow fun hfound => ?_⟩
      cases hcheck.symm.trans (hremoved.mpr hfound.2)
    | none =>
      rw [hcheck] at hlook
      have hfound := hremoved.mp hcheck
      obtain ⟨node', _, hnode', hstat, -, hlinks⟩ := hfound
      obtain rfl : node' = node := Option.some.inj (hnode'.symm.trans hnode)
      have htemp := (FileSystem.stat_eq_some.mp hstat).1
      obtain ⟨hgone, -⟩ := h.disk.unlink hnode htemp hlinks .ended
      refine ⟨4, { r with
        fs := r.fs.unlink job.tempPath
        row := none
        stage := .ended
        unlinked := (r.fs.vanished (r.fs.unlink job.tempPath)).map (·, r.published) ++
          r.unlinked }, ?_, rfl, iff_of_true rfl ⟨hne, hremoved.mp hcheck⟩, ?_⟩
      · rw [show undisturbedStartUp.take 4 = undisturbedStartUp.take 2 ++
          [.unlinkTemp none, .dropRow false] from rfl, exec_append, hlook, Option.bind_some,
          exec_cons, CrashRun.step]
        dsimp only
        rw [removeFile_of_lookup htemp]
        rfl
      · intro _ other path hother
        obtain rfl : other = node' := Option.some.inj (hother.symm.trans hnode)
        exact hgone path

end Steps

/-- **An upload is safe** in every state of a careful run, and a start-up that nothing keeps from it
removes the row exactly when it finds the file of the row, and the file with it. -/
theorem safe_of_careful (job : Job) (fs : PathSystem) (steps : List CrashStep) {r : CrashRun}
    (hrun : exec (step job) (initial fs) steps = some r)
    (hcareful : Along (step job) (Careful job) (initial fs) steps) :
    r.Safe job ∧ ∀ record, r.row = some record → r.stage = .down →
      ∃ n r', exec (step job) r (undisturbedStartUp.take n) = some r' ∧ r'.stage = .ended ∧
        (r'.row = none ↔ record ≠ job.record 0 0 ∧ ∃ node data, r.node = some node ∧
          r.fs.stat job.tempPath = some (node, data) ∧
          data.content.length = job.content.length ∧ r.fs.links node ≤ 1) ∧
        (r'.row = none → ∀ node path, r'.node = some node →
          r'.fs.names.lookup path ≠ some node) := by
  have hinitial : (initial fs).Invariant job := by
    refine ⟨⟨fun _ => ⟨rfl, rfl⟩, fun node hnode => ?_, fun record hrecord => ?_,
      fun entry hentry => ?_⟩, rfl⟩
    · cases hnode
    · cases hrecord
    · cases hentry
  have hinvariant : r.Invariant job :=
    exec_induction_along (fun s l s' hs hP hstep => hs.step hP hstep) hinitial hcareful hrun
  exact ⟨hinvariant.safe, fun record hrow hdown => hinvariant.row_startUp hrow hdown⟩

/-- The upload of the runs below. -/
def notesJob : Job := ⟨1, ⟨"/srv", "notes"⟩, "upload", [1, 2], 0, by decide⟩

def prepared : List CrashStep :=
  [.recordIntent false, .createTemp 7 1 2 false, .sizeTemp none, .recordIdentity false]

/-- Another program puts a file next to the one of the upload, a crash ends the upload while its
second byte is missing, and another one a start-up between its look at the path and the removal. -/
def crashedSteps : List CrashStep :=
  prepared ++ [.write 0 1 true,
    .otherProgram ((FileSystem.empty.withFile notesJob.target 8 ⟨1, 3, [9]⟩).withFile
      notesJob.tempPath 7 ⟨1, 2, [1, 0]⟩), .crash, .startUp false, .checkTemp none, .crash]

theorem safe_crashed : ∃ r, exec (step notesJob) (initial .empty) crashedSteps = some r ∧
    r.Safe notesJob ∧ ∃ n r', exec (step notesJob) r (undisturbedStartUp.take n) = some r' ∧
      r'.stage = .ended ∧ r'.row = none ∧
      ∀ node path, r'.node = some node → r'.fs.names.lookup path ≠ some node := by
  have hcrashed : ∃ r, exec (step notesJob) (initial .empty) crashedSteps = some r ∧
      r.row = some (notesJob.record 1 2) ∧ r.stage = .down ∧ r.node = some 7 ∧
      r.fs.stat notesJob.tempPath = some (7, ⟨1, 2, [1, 0]⟩) ∧ r.fs.links 7 ≤ 1 :=
    ⟨_, rfl, rfl, rfl, rfl, rfl, by decide⟩
  obtain ⟨r, hr, hrow, hdown, hnode, hstat, hlinks⟩ := hcrashed
  obtain ⟨hsafe, hstartUp⟩ := safe_of_careful notesJob .empty crashedSteps hr (by decide)
  obtain ⟨n, r', hrun, hended, hremoved, hgone⟩ := hstartUp _ hrow hdown
  have hnone : r'.row = none :=
    hremoved.mpr ⟨by decide, 7, _, hnode, hstat, rfl, hlinks⟩
  exact ⟨r, hr, hsafe, n, r', hrun, hended, hnone, hgone hnone⟩

def publishedSteps : List CrashStep :=
  prepared ++ [.write 0 2 true, .commit, .publish false, .publish false]

/-- **Rows that stay.** A crash before the file is created leaves a row that no start-up removes,
and so does a file that is removed after the crash. Eight other runs are not safe: another program
moves the file to the target, moves the published file back, puts a file with its number in its
place, takes the path before the rename or before the removal, or gives the file another name before
the removal; and a file that gets no size and is not removed, or whose number cannot be read, loses
its row. -/
theorem rows_stay :
    (∃ r, exec (step notesJob) (initial .empty) [.recordIntent false, .crash] = some r ∧
      r.node = none ∧ r.row.isSome ∧
      ∀ n, exec (step notesJob) r (List.replicate n [.startUp false, .crash]).flatten =
        some r) ∧
    (∃ r, exec (step notesJob) (initial .empty) (prepared ++ [.crash, .otherProgram .empty]) =
        some r ∧ (∀ path, r.fs.names.lookup path = none) ∧ r.row.isSome ∧
      ∀ n, exec (step notesJob) r
        (List.replicate n [.startUp false, .checkTemp none, .crash]).flatten = some r) ∧
    ∀ steps ∈ [
        prepared ++ [.otherProgram (FileSystem.empty.withFile notesJob.target 7 ⟨1, 2, [0, 0]⟩)],
        publishedSteps ++ [.publish false, .crash,
          .otherProgram (FileSystem.empty.withFile notesJob.tempPath 7 ⟨1, 2, [1, 2]⟩),
          .startUp false, .checkTemp none, .unlinkTemp none],
        prepared ++ [.crash,
          .otherProgram (FileSystem.empty.withFile notesJob.tempPath 8 ⟨1, 2, [9, 9]⟩),
          .startUp false, .checkTemp none, .unlinkTemp none],
        publishedSteps ++ [.otherProgram ((FileSystem.empty.withFile ⟨"/srv", "copy"⟩ 7
            ⟨1, 2, [1, 2]⟩).withFile notesJob.tempPath 8 ⟨1, 3, [9]⟩),
          .publish false, .publish false, .publish false],
        prepared ++ [.crash, .startUp false, .checkTemp none,
          .otherProgram (FileSystem.empty.withFile notesJob.tempPath 8 ⟨1, 3, [9]⟩),
          .unlinkTemp none],
        prepared ++ [.crash, .startUp false, .checkTemp none,
          .otherProgram ((FileSystem.empty.withFile ⟨"/srv", "copy"⟩ 7 ⟨1, 2, [0, 0]⟩).withFile
            notesJob.tempPath 7 ⟨1, 2, [0, 0]⟩),
          .unlinkTemp none, .dropRow false],
        [.recordIntent false, .createTemp 7 1 2 false, .sizeTemp (some .setLen), .checkTemp none,
          .unlinkTemp (some .runtimeFailed), .dropRow false],
        [.recordIntent false, .createTemp 7 1 2 false, .sizeTemp (some .createdMetadata),
          .dropRow false]],
      ∃ r, exec (step notesJob) (initial .empty) steps = some r ∧ ¬r.Safe notesJob := by
  refine ⟨⟨_, rfl, rfl, rfl, exec_flatten_replicate rfl⟩,
    ⟨_, rfl, fun _ => rfl, rfl, exec_flatten_replicate rfl⟩, ?_⟩
  simp only [List.forall_mem_cons, List.not_mem_nil, false_implies, implies_true, and_true]
  refine ⟨⟨_, rfl, fun h => ?_⟩, ⟨_, rfl, fun h => ?_⟩, ⟨_, rfl, fun h => ?_⟩,
    ⟨_, rfl, fun h => ?_⟩, ⟨_, rfl, fun h => ?_⟩, ⟨_, rfl, fun h => ?_⟩, ⟨_, rfl, fun h => ?_⟩,
    ⟨_, rfl, fun h => ?_⟩⟩
  · cases h.complete 7 ⟨1, 2, [0, 0]⟩ rfl rfl
  · cases h.unpublished (7, true) (by decide)
  · cases h.own (8, false) (by decide)
  · cases h.row 7 ⟨"/srv", "copy"⟩ rfl rfl rfl
  · cases h.own (8, false) (by decide)
  · cases h.row 7 ⟨"/srv", "copy"⟩ rfl rfl rfl
  · cases h.row 7 notesJob.tempPath rfl rfl rfl
  · cases h.row 7 notesJob.tempPath rfl rfl rfl

end CrashRun

end Termd.Files
