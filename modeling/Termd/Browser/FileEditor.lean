import Mathlib.Data.List.Basic
import Termd.Library.Transition

/-!
# The file editor of the browser

One editor shows a file of a session. A file that is opened is shown at once, without its text,
and again when it was read. A file that is saved is shown again when it was written, or when it
could not be, with what the editor was like when it began. Opens and saves are numbered apart; a
request that ends is shown if it is still the last one of its kind. A reset ends both.

Every update of the state is rendered before the next step.

## Main definitions

* `FileEditorHook`: the state of `useSessionFileEditor`
* `FileEditorHook.Op`, `FileEditorHook.step`: its calls, and the ends of its requests
* `FileEditorHook.Shows`: the editor shows the file that was opened last
* `FileEditorHook.Kept`: the guard

## Main results

* `FileEditorHook.shows_iff`: when the editor shows the file that was opened last
* `FileEditorHook.slow_save`: a save that ends after another file was opened
-/

namespace Termd.Browser

structure FileRequest where
  requestId : ℕ
  sessionId : ℕ
  path : String
deriving DecidableEq

structure FileEditorState where
  sessionId : ℕ
  path : String
  name : String
  savedText : String
  dirty : Bool
  loading : Bool
  saving : Bool
  error : Option String := none
deriving DecidableEq

/-- A file as it was read, with its text decoded. -/
structure ReadFile where
  path : String
  text : String

/-- An open that waits for its file; `call` counts the opens. -/
structure OpenTask where
  request : FileRequest
  name : String
  call : ℕ
deriving DecidableEq

/-- A save that waits, with the editor as it was. -/
structure SaveTask where
  requestId : ℕ
  editor : FileEditorState
  text : String
deriving DecidableEq

def SaveTask.request (task : SaveTask) : FileRequest :=
  { requestId := task.requestId, sessionId := task.editor.sessionId, path := task.editor.path }

/-- The file that was opened last: the path that was asked for and those that the daemon returned
for it, and what the open has read. -/
structure OpenedFile where
  call : ℕ
  sessionId : ℕ
  paths : List String
  contents : List String

/-- The request is for the file. -/
def OpenedFile.Owns (file : OpenedFile) (request : FileRequest) : Prop :=
  request.sessionId = file.sessionId ∧ request.path ∈ file.paths

instance (file : OpenedFile) (request : FileRequest) : Decidable (file.Owns request) :=
  inferInstanceAs (Decidable (_ ∧ _))

/-- The state of the editor; the last four fields say what has happened so far. -/
structure FileEditorHook where
  attachedSession : Option ℕ := none
  fileEditor : Option FileEditorState := none
  fileOpenRequestSeq : ℕ := 0
  activeFileOpenRequest : Option FileRequest := none
  fileSaveRequestSeq : ℕ := 0
  activeFileSaveRequest : Option FileRequest := none
  opens : List OpenTask := []
  saves : List SaveTask := []
  /-- The saves that wait for the directory to be shown again -/
  refreshes : List SaveTask := []
  calls : ℕ := 0
  last : Option OpenedFile := none
  /-- The session, the path and the text of the saves that were completed -/
  written : List (ℕ × String × String) := []
  /-- How often the editor was set at the end of a request for an earlier file -/
  strays : ℕ := 0

namespace FileEditorHook

variable (h : FileEditorHook)

def resetFileEditor : FileEditorHook :=
  { h with
    fileOpenRequestSeq := h.fileOpenRequestSeq + 1
    activeFileOpenRequest := none
    fileSaveRequestSeq := h.fileSaveRequestSeq + 1
    activeFileSaveRequest := none
    fileEditor := none
    last := none }

/-- `openRemoteFile` up to its request, which is not made for a file that is too large. -/
def openRemoteFile (textFileMaxBytes : ℕ) (path name : String) (sizeBytes : ℕ) : FileEditorHook :=
  match h.attachedSession with
  | none => h
  | some sessionId =>
    let request := { requestId := h.fileOpenRequestSeq + 1, sessionId, path }
    let tooLarge := textFileMaxBytes < sizeBytes
    { h with
      fileOpenRequestSeq := request.requestId
      activeFileOpenRequest := some request
      fileEditor := some {
        sessionId, path, name
        savedText := "", dirty := false, loading := !tooLarge, saving := false
        error := if tooLarge then some "file is too large to edit in browser" else none }
      opens := if tooLarge then h.opens else { request, name, call := h.calls } :: h.opens
      calls := h.calls + 1
      last := some { call := h.calls, sessionId, paths := [path], contents := [] } }

/-- The editor is set at the end of a request, for the file that was opened last or for another
one. -/
def put (own : Bool) (editor : FileEditorState) : FileEditorHook :=
  { h with fileEditor := some editor, strays := if own then h.strays else h.strays + 1 }

/-- The file of an open was read, or it could not be. -/
def finishOpen (task : OpenTask) (result : Except String ReadFile) : FileEditorHook :=
  let current := h.fileEditor
  let h : FileEditorHook := { h with opens := h.opens.erase task }
  let own := h.last.any (·.call = task.call)
  match result with
  | .ok payload =>
    let h : FileEditorHook := { h with last := h.last.map fun file =>
      if file.call = task.call then
        { file with paths := payload.path :: file.paths, contents := payload.text :: file.contents }
      else file }
    if h.activeFileOpenRequest = some task.request then
      h.put own {
        sessionId := task.request.sessionId, path := payload.path, name := task.name
        savedText := payload.text, dirty := false, loading := false, saving := false }
    else h
  | .error error =>
    if h.activeFileOpenRequest = some task.request then
      h.put own {
        sessionId := task.request.sessionId
        path := (current.map (·.path)).getD task.request.path
        name := (current.map (·.name)).getD task.name
        savedText := (current.map (·.savedText)).getD ""
        dirty := (current.map (·.dirty)).getD false
        loading := false, saving := false, error := some error }
    else h

/-- `handleSaveOpenFile` up to its request. -/
def handleSaveOpenFile (text : String) : FileEditorHook :=
  match h.fileEditor with
  | none => h
  | some editor =>
    if h.attachedSession ≠ some editor.sessionId then h
    else
      let task := { requestId := h.fileSaveRequestSeq + 1, editor, text : SaveTask }
      { h with
        fileSaveRequestSeq := task.requestId
        activeFileSaveRequest := some task.request
        fileEditor := some {
          editor with dirty := text ≠ editor.savedText, saving := true, error := none }
        saves := task :: h.saves }

/-- Whether the file that was opened last is the one of a save. -/
def owns (task : SaveTask) : Bool := h.last.any (·.Owns task.request)

/-- The `catch` of a save: the editor as it was. -/
def failSave (task : SaveTask) (error : String) : FileEditorHook :=
  if h.activeFileSaveRequest = some task.request then
    h.put (h.owns task) {
      task.editor with
      dirty := task.text ≠ task.editor.savedText, loading := false, saving := false
      error := some error }
  else h

/-- What is known once the file of a save was written. -/
def wrote (task : SaveTask) (path : String) : FileEditorHook :=
  { h with
    saves := h.saves.erase task
    written := (task.editor.sessionId, task.editor.path, task.text) :: h.written
    last := h.last.map fun file =>
      if file.Owns task.request then { file with paths := path :: file.paths } else file }

/-- The file of a save was written, or it could not be. -/
def finishSave (task : SaveTask) (result : Except String String) : FileEditorHook :=
  match result with
  | .ok path =>
    if h.activeFileSaveRequest = some task.request then
      let saved := (h.wrote task path).put (h.owns task) {
        sessionId := task.editor.sessionId, path, name := task.editor.name
        savedText := task.text, dirty := false, loading := false, saving := false }
      if h.attachedSession = some task.editor.sessionId then
        { saved with refreshes := task :: h.refreshes }
      else saved
    else h.wrote task path
  | .error error => ({ h with saves := h.saves.erase task } : FileEditorHook).failSave task error

/-- The directory is shown again, or it could not be. -/
def finishRefresh (task : SaveTask) (result : Except String Unit) : FileEditorHook :=
  let h : FileEditorHook := { h with refreshes := h.refreshes.erase task }
  match result with
  | .ok () => h
  | .error error => h.failSave task error

inductive Op
  | attach (session : Option ℕ)
  | open (path name : String) (sizeBytes : ℕ)
  | reset
  | save (text : String)
  | openEnds (task : OpenTask) (result : Except String ReadFile)
  | saveEnds (task : SaveTask) (result : Except String String)
  | refreshEnds (task : SaveTask) (result : Except String Unit)

def step (textFileMaxBytes : ℕ) (h : FileEditorHook) : Op → Option FileEditorHook
  | .attach session => some { h with attachedSession := session }
  | .open path name sizeBytes => some (h.openRemoteFile textFileMaxBytes path name sizeBytes)
  | .reset => some h.resetFileEditor
  | .save text => some (h.handleSaveOpenFile text)
  | .openEnds task result => if task ∈ h.opens then some (h.finishOpen task result) else none
  | .saveEnds task result => if task ∈ h.saves then some (h.finishSave task result) else none
  | .refreshEnds task result =>
    if task ∈ h.refreshes then some (h.finishRefresh task result) else none

/-! ### The file that was opened last -/

/-- What the editor may show of a file: no text, what was read, or what was saved. -/
structure Showing (written : List (ℕ × String × String)) (file : OpenedFile)
    (editor : FileEditorState) : Prop where
  session : editor.sessionId = file.sessionId
  path : editor.path ∈ file.paths
  text : editor.savedText = "" ∨ editor.savedText ∈ file.contents ∨
    ∃ path ∈ file.paths, (file.sessionId, path, editor.savedText) ∈ written

/-- **The editor shows the file that was opened last**, or nothing after a reset, and no request for
another file has set it. -/
structure Shows : Prop where
  reset : h.last = none → h.fileEditor = none
  opened : ∀ file ∈ h.last, ∃ editor ∈ h.fileEditor, Showing h.written file editor
  strays : h.strays = 0

/-- Whether the text that was there when a save began may be shown now. -/
def textKept (task : SaveTask) : Bool :=
  h.last.any fun file =>
    task.editor.savedText = "" || task.editor.savedText ∈ file.contents ||
      file.paths.any fun path => (file.sessionId, path, task.editor.savedText) ∈ h.written

/-- The guard: when the last save ends, the file that was opened last is the one that was saved,
and if it fails, the text of before may be shown. -/
def Kept : Op → Bool
  | .saveEnds task (.ok _) => h.activeFileSaveRequest ≠ some task.request || h.owns task
  | .saveEnds task (.error _) | .refreshEnds task (.error _) =>
    h.activeFileSaveRequest ≠ some task.request || h.owns task && h.textKept task
  | _ => true

/-- What every step keeps, where the guard holds. -/
structure Invariant : Prop extends h.Shows where
  idle : h.last = none → h.activeFileOpenRequest = none ∧ h.activeFileSaveRequest = none
  active : ∀ request ∈ h.activeFileOpenRequest, ∃ file ∈ h.last, file.sessionId = request.sessionId
  numbered : ∀ task ∈ h.opens, task.request.requestId ≤ h.fileOpenRequestSeq
  called : ∀ task ∈ h.opens, h.activeFileOpenRequest = some task.request →
    ∃ file ∈ h.last, file.call = task.call

variable {h}

theorem invariant_start : Invariant {} where
  reset := fun _ => rfl
  opened := by simp
  strays := rfl
  idle := fun _ => ⟨rfl, rfl⟩
  active := by simp
  numbered := by simp
  called := by simp

/-- A file gains paths and texts only. -/
theorem Showing.mono {written written' : List (ℕ × String × String)} {file file' : OpenedFile}
    {editor : FileEditorState} (hshows : Showing written file editor) (hsession : file'.sessionId = file.sessionId)
    (hpaths : file.paths ⊆ file'.paths) (hcontents : file.contents ⊆ file'.contents)
    (hwritten : written ⊆ written') : Showing written' file' editor where
  session := hshows.session.trans hsession.symm
  path := hpaths hshows.path
  text := by
    rcases hshows.text with hempty | hread | ⟨path, hpath, hsaved⟩
    · exact .inl hempty
    · exact .inr (.inl (hcontents hread))
    · exact .inr (.inr ⟨path, hpaths hpath, hsession ▸ hwritten hsaved⟩)

theorem Invariant.resetFileEditor (hinv : h.Invariant) : h.resetFileEditor.Invariant where
  reset := fun _ => rfl
  opened := by simp [FileEditorHook.resetFileEditor]
  strays := hinv.strays
  idle := fun _ => ⟨rfl, rfl⟩
  active := by simp [FileEditorHook.resetFileEditor]
  numbered := fun task htask => Nat.le_succ_of_le (hinv.numbered task htask)
  called := by simp [FileEditorHook.resetFileEditor]

theorem Invariant.openRemoteFile (hinv : h.Invariant) (textFileMaxBytes : ℕ) (path name : String)
    (sizeBytes : ℕ) : (h.openRemoteFile textFileMaxBytes path name sizeBytes).Invariant := by
  rw [FileEditorHook.openRemoteFile]
  split
  next => exact hinv
  next sessionId hattached =>
    -- the requests of before have smaller numbers
    have hopens : ∀ task ∈ (if textFileMaxBytes < sizeBytes then h.opens else
        { request := { requestId := h.fileOpenRequestSeq + 1, sessionId, path }, name,
          call := h.calls } :: h.opens),
        task ∈ h.opens ∨ task.request.requestId = h.fileOpenRequestSeq + 1 ∧ task.call = h.calls := by
      intro task htask
      split_ifs at htask
      · exact .inl htask
      · rcases List.mem_cons.mp htask with rfl | htask
        · exact .inr ⟨rfl, rfl⟩
        · exact .inl htask
    refine {
      reset := by simp
      opened := ?_
      strays := hinv.strays
      idle := by simp
      active := ?_
      numbered := ?_
      called := ?_ }
    · rintro file hfile
      obtain rfl := Option.some.inj hfile
      exact ⟨_, rfl, ⟨rfl, List.mem_cons_self, .inl rfl⟩⟩
    · rintro request hrequest
      obtain rfl := Option.some.inj hrequest
      exact ⟨_, rfl, rfl⟩
    · rintro task htask
      rcases hopens task htask with htask | ⟨hid, -⟩
      · exact Nat.le_succ_of_le (hinv.numbered task htask)
      · exact Nat.le_of_eq hid
    · rintro task htask hactive
      rcases hopens task htask with htask | ⟨-, hcall⟩
      · have hid := congrArg FileRequest.requestId (Option.some.inj hactive)
        have hle := hinv.numbered task htask
        dsimp only at hid
        omega
      · exact ⟨_, rfl, hcall.symm⟩

theorem Invariant.handleSaveOpenFile (hinv : h.Invariant) (text : String) :
    (h.handleSaveOpenFile text).Invariant := by
  rw [FileEditorHook.handleSaveOpenFile]
  split
  next => exact hinv
  next editor heditor =>
    split_ifs
    · exact hinv
    · have hlast : h.last ≠ none := by
        intro hnone
        rw [hinv.reset hnone] at heditor
        cases heditor
      refine {
        hinv with
        reset := fun hnone => absurd hnone hlast
        opened := ?_
        idle := fun hnone => absurd hnone hlast }
      rintro file hfile
      obtain ⟨shown, hshown, hshowing⟩ := hinv.opened file hfile
      obtain rfl : editor = shown := Option.some.inj (heditor.symm.trans hshown)
      exact ⟨_, rfl, ⟨hshowing.session, hshowing.path, hshowing.text⟩⟩

/-- The editor is set to what it may show. -/
theorem Invariant.put (hinv : h.Invariant) (editor : FileEditorState) {file : OpenedFile}
    (hfile : h.last = some file) (hshowing : Showing h.written file editor) :
    (h.put true editor).Invariant := by
  refine { hinv with reset := ?_, opened := ?_ }
  · intro hnone
    cases hfile.symm.trans hnone
  · rintro other hother
    obtain rfl : file = other := Option.some.inj (hfile.symm.trans hother)
    exact ⟨editor, rfl, ⟨hshowing.session, hshowing.path, hshowing.text⟩⟩

/-- The file gains what the daemon has returned for it. -/
theorem Invariant.gain (hinv : h.Invariant) (gain : OpenedFile → OpenedFile)
    (hcall : ∀ file, (gain file).call = file.call)
    (hsession : ∀ file, (gain file).sessionId = file.sessionId)
    (hpaths : ∀ file, file.paths ⊆ (gain file).paths)
    (hcontents : ∀ file, file.contents ⊆ (gain file).contents)
    {written : List (ℕ × String × String)} (hwritten : h.written ⊆ written) :
    ({ h with last := h.last.map gain, written } : FileEditorHook).Invariant := by
  refine {
    hinv with
    reset := fun hnone => hinv.reset (Option.map_eq_none_iff.mp hnone)
    opened := ?_
    idle := fun hnone => hinv.idle (Option.map_eq_none_iff.mp hnone)
    active := ?_
    called := ?_ }
  · rintro _ hfile
    obtain ⟨file, hlast, rfl⟩ := Option.map_eq_some_iff.mp hfile
    obtain ⟨editor, heditor, hshowing⟩ := hinv.opened file hlast
    exact ⟨editor, heditor, hshowing.mono (hsession file) (hpaths file) (hcontents file) hwritten⟩
  · rintro request hrequest
    obtain ⟨file, hfile, heq⟩ := hinv.active request hrequest
    exact ⟨gain file, Option.map_eq_some_iff.mpr ⟨file, hfile, rfl⟩, (hsession file).trans heq⟩
  · rintro task htask hactive
    obtain ⟨file, hfile, heq⟩ := hinv.called task htask hactive
    exact ⟨gain file, Option.map_eq_some_iff.mpr ⟨file, hfile, rfl⟩, (hcall file).trans heq⟩

theorem Invariant.eraseOpen (hinv : h.Invariant) (task : OpenTask) :
    ({ h with opens := h.opens.erase task } : FileEditorHook).Invariant :=
  { hinv with
    numbered := fun other hother => hinv.numbered other (List.mem_of_mem_erase hother)
    called := fun other hother => hinv.called other (List.mem_of_mem_erase hother) }

/-- **The end of an open.** It sets the editor only if it is the last one. -/
theorem Invariant.finishOpen (hinv : h.Invariant) {task : OpenTask} (htask : task ∈ h.opens)
    (result : Except String ReadFile) : (h.finishOpen task result).Invariant := by
  have herased := hinv.eraseOpen task
  have hfile (hactive : h.activeFileOpenRequest = some task.request) : ∃ file,
      h.last = some file ∧ file.call = task.call ∧ file.sessionId = task.request.sessionId ∧
        h.last.any (·.call = task.call) = true := by
    obtain ⟨file, hfile, hcall⟩ := hinv.called task htask hactive
    obtain ⟨other, hother, hsession⟩ := hinv.active _ hactive
    obtain rfl : file = other := Option.some.inj (hfile.symm.trans hother)
    exact ⟨file, hfile, hcall, hsession, by rw [hfile]; simp [hcall]⟩
  rw [FileEditorHook.finishOpen.eq_def]
  dsimp only
  cases result with
  | error error =>
    dsimp only
    split_ifs with hactive
    · obtain ⟨file, hfile, hcall, hsession, hown⟩ := hfile hactive
      obtain ⟨editor, heditor, hshowing⟩ := hinv.opened file hfile
      rw [hown, heditor]
      exact herased.put _ hfile ⟨hsession.symm, hshowing.path, hshowing.text⟩
    · exact herased
  | ok payload =>
    dsimp only
    have hgained := herased.gain
      (fun file => if file.call = task.call then
        { file with paths := payload.path :: file.paths, contents := payload.text :: file.contents }
        else file)
      (fun file => by split_ifs <;> rfl) (fun file => by split_ifs <;> rfl)
      (fun file => by
        split_ifs
        · exact List.subset_cons_self _ _
        · exact List.Subset.refl _)
      (fun file => by
        split_ifs
        · exact List.subset_cons_self _ _
        · exact List.Subset.refl _)
      (List.Subset.refl _)
    split_ifs with hactive
    · obtain ⟨file, hfile, hcall, hsession, hown⟩ := hfile hactive
      have hlast : (h.last.map fun file => if file.call = task.call then
          { file with paths := payload.path :: file.paths, contents := payload.text :: file.contents }
          else file) = some { file with
            paths := payload.path :: file.paths, contents := payload.text :: file.contents } := by
        rw [hfile, Option.map_some, if_pos hcall]
      rw [hown]
      exact hgained.put _ hlast
        ⟨hsession.symm, List.mem_cons_self, .inr (.inl List.mem_cons_self)⟩
    · exact hgained

theorem owns_iff {task : SaveTask} :
    h.owns task = true ↔ ∃ file, h.last = some file ∧ file.Owns task.request := by
  rw [owns, Option.any_eq_true]
  simp

theorem textKept_iff {task : SaveTask} {file : OpenedFile} (hfile : h.last = some file) :
    h.textKept task = true ↔ task.editor.savedText = "" ∨ task.editor.savedText ∈ file.contents ∨
      ∃ path ∈ file.paths, (file.sessionId, path, task.editor.savedText) ∈ h.written := by
  rw [textKept, hfile]
  simp [or_assoc]

/-- **The end of a save that failed.** -/
theorem Invariant.failSave (hinv : h.Invariant) {task : SaveTask} (error : String)
    (hkept : h.activeFileSaveRequest = some task.request →
      h.owns task = true ∧ h.textKept task = true) : (h.failSave task error).Invariant := by
  rw [FileEditorHook.failSave]
  split_ifs with hactive
  · obtain ⟨howns, htext⟩ := hkept hactive
    obtain ⟨file, hfile, hsession, hpath⟩ := owns_iff.mp howns
    rw [howns]
    exact hinv.put _ hfile ⟨hsession, hpath, (textKept_iff hfile).mp htext⟩
  · exact hinv

theorem not_shows_failSave {task : SaveTask} (error : String)
    (hactive : h.activeFileSaveRequest = some task.request)
    (hkept : ¬(h.owns task = true ∧ h.textKept task = true)) : ¬(h.failSave task error).Shows := by
  rw [FileEditorHook.failSave, if_pos hactive]
  intro hshows
  by_cases howns : h.owns task = true
  · obtain ⟨file, hfile, -⟩ := owns_iff.mp howns
    obtain ⟨editor, heditor, hshowing⟩ := hshows.opened file hfile
    obtain rfl := Option.some.inj heditor
    exact hkept ⟨howns, (textKept_iff hfile).mpr hshowing.text⟩
  · have hstrays := hshows.strays
    rw [FileEditorHook.put] at hstrays
    dsimp only at hstrays
    rw [if_neg howns] at hstrays
    exact absurd hstrays (Nat.succ_ne_zero _)

theorem Invariant.wrote (hinv : h.Invariant) (task : SaveTask) (path : String) :
    (h.wrote task path).Invariant := by
  have hgained := hinv.gain
    (fun file => if file.Owns task.request then { file with paths := path :: file.paths } else file)
    (fun file => by split_ifs <;> rfl) (fun file => by split_ifs <;> rfl)
    (fun file => by
      split_ifs
      · exact List.subset_cons_self _ _
      · exact List.Subset.refl _)
    (fun file => by split_ifs <;> exact List.Subset.refl _)
    (List.subset_cons_self (task.editor.sessionId, task.editor.path, task.text) h.written)
  exact { hgained with }

/-- The guard at the end of a request that fails. -/
theorem kept_of_active {task : SaveTask}
    (hkept : (h.activeFileSaveRequest ≠ some task.request || h.owns task && h.textKept task) = true)
    (hactive : h.activeFileSaveRequest = some task.request) :
    h.owns task = true ∧ h.textKept task = true := by
  simpa [hactive] using hkept

/-- **The end of a save** of the file that was opened last. -/
theorem Invariant.finishSave (hinv : h.Invariant) {task : SaveTask} (result : Except String String)
    (hkept : h.Kept (.saveEnds task result) = true) : (h.finishSave task result).Invariant := by
  cases result with
  | error error =>
    have herased : ({ h with saves := h.saves.erase task } : FileEditorHook).Invariant := { hinv with }
    exact herased.failSave error (kept_of_active hkept)
  | ok path =>
    have hwrote := hinv.wrote task path
    rw [FileEditorHook.finishSave]
    by_cases hactive : h.activeFileSaveRequest = some task.request
    · have howns : h.owns task = true := by simpa [Kept, hactive] using hkept
      obtain ⟨file, hfile, hfileOwns⟩ := owns_iff.mp howns
      have hlast : (h.wrote task path).last = some { file with paths := path :: file.paths } := by
        rw [FileEditorHook.wrote, hfile, Option.map_some, if_pos hfileOwns]
      -- the text is that of a save of one of the file's paths
      have hput := hwrote.put {
          sessionId := task.editor.sessionId, path, name := task.editor.name
          savedText := task.text, dirty := false, loading := false, saving := false } hlast
        { session := hfileOwns.1
          path := List.mem_cons_self
          text := .inr (.inr ⟨task.editor.path, List.mem_cons_of_mem _ hfileOwns.2,
            List.mem_cons.mpr (.inl (by rw [← hfileOwns.1]; rfl))⟩) }
      rw [if_pos hactive, howns]
      split_ifs
      · exact { hput with }
      · exact hput
    · rw [if_neg hactive]
      exact hwrote

theorem Invariant.finishRefresh (hinv : h.Invariant) {task : SaveTask} (result : Except String Unit)
    (hkept : h.Kept (.refreshEnds task result) = true) : (h.finishRefresh task result).Invariant := by
  have herased : ({ h with refreshes := h.refreshes.erase task } : FileEditorHook).Invariant :=
    { hinv with }
  cases result with
  | error error => exact herased.failSave error (kept_of_active hkept)
  | ok => exact herased

/-- **What every step keeps**, where the guard holds. -/
theorem Invariant.step {h' : FileEditorHook} {textFileMaxBytes : ℕ} {op : Op} (hinv : h.Invariant)
    (hkept : h.Kept op = true) (hstep : h.step textFileMaxBytes op = some h') : h'.Invariant := by
  cases op with
  | attach session => exact Option.some.inj hstep ▸ { hinv with }
  | «open» path name sizeBytes => exact Option.some.inj hstep ▸ hinv.openRemoteFile _ _ _ _
  | reset => exact Option.some.inj hstep ▸ hinv.resetFileEditor
  | save text => exact Option.some.inj hstep ▸ hinv.handleSaveOpenFile text
  | openEnds task result =>
    rw [FileEditorHook.step] at hstep
    split_ifs at hstep with htask
    exact Option.some.inj hstep ▸ hinv.finishOpen htask result
  | saveEnds task result =>
    rw [FileEditorHook.step] at hstep
    split_ifs at hstep
    exact Option.some.inj hstep ▸ hinv.finishSave result hkept
  | refreshEnds task result =>
    rw [FileEditorHook.step] at hstep
    split_ifs at hstep
    exact Option.some.inj hstep ▸ hinv.finishRefresh result hkept

/-- **The guard is exact**: a step that it does not allow leaves the editor with another file. -/
theorem not_shows_of_not_kept {h' : FileEditorHook} {textFileMaxBytes : ℕ} {op : Op}
    (hkept : ¬h.Kept op = true) (hstep : h.step textFileMaxBytes op = some h') : ¬h'.Shows := by
  cases op with
  | saveEnds task result =>
    rw [FileEditorHook.step] at hstep
    split_ifs at hstep
    obtain rfl := Option.some.inj hstep
    cases result with
    | error error =>
      simp only [Kept, Bool.or_eq_true, decide_eq_true_eq, Bool.and_eq_true, not_or, not_not] at hkept
      exact not_shows_failSave error hkept.1 hkept.2
    | ok path =>
      simp only [Kept, Bool.or_eq_true, decide_eq_true_eq, not_or, not_not, Bool.not_eq_true] at hkept
      obtain ⟨hactive, howns⟩ := hkept
      rw [finishSave, if_pos hactive, howns]
      intro hshows
      have hstrays : h.strays + 1 = 0 := by
        have hstrays := hshows.strays
        split_ifs at hstrays
        · exact hstrays
        · exact hstrays
      exact absurd hstrays (Nat.succ_ne_zero _)
  | refreshEnds task result =>
    rw [FileEditorHook.step] at hstep
    split_ifs at hstep
    obtain rfl := Option.some.inj hstep
    cases result with
    | error error =>
      simp only [Kept, Bool.or_eq_true, decide_eq_true_eq, Bool.and_eq_true, not_or, not_not] at hkept
      exact not_shows_failSave error hkept.1 hkept.2
    | ok => exact absurd rfl hkept
  | _ => exact absurd rfl hkept

/-- **The editor shows the file that was opened last** throughout a run exactly when, whenever the
last save ends, the file that was opened last is the one that was saved, and, if the save failed,
the text that was there when it began is one of that file. -/
theorem shows_iff {textFileMaxBytes : ℕ} {ops : List Op}
    (hrun : exec (step textFileMaxBytes) {} ops = some h) :
    (∀ ks rest t, ops = ks ++ rest → exec (step textFileMaxBytes) {} ks = some t → t.Shows) ↔
      Along (step textFileMaxBytes) (fun h op => h.Kept op = true) {} ops :=
  forall_reached_iff_along (I := Invariant) (fun _ hinv => hinv.toShows)
    (fun _ _ _ hinv hkept hstep => hinv.step hkept hstep)
    (fun _ _ _ _ hkept hstep => not_shows_of_not_kept hkept hstep) invariant_start hrun

/-- One file is opened, read and saved, and then another one. -/
def savedThenOpened : List Op :=
  [.attach (some 1), .open "notes" "notes" 4, .openEnds ⟨⟨1, 1, "notes"⟩, "notes", 0⟩ (.ok ⟨"/notes", "old"⟩),
    .save "new", .saveEnds ⟨1, ⟨1, "/notes", "notes", "old", false, false, false, none⟩, "new"⟩ (.ok "/notes"),
    .refreshEnds ⟨1, ⟨1, "/notes", "notes", "old", false, false, false, none⟩, "new"⟩ (.ok ()),
    .open "other" "other" 4]

theorem shows_savedThenOpened : ∃ h : FileEditorHook, exec (step 100) {} savedThenOpened = some h ∧
    h.fileEditor.map (·.path) = some "other" ∧
      ∀ ks rest t, savedThenOpened = ks ++ rest → exec (step 100) {} ks = some t → t.Shows :=
  ⟨_, rfl, by decide, (shows_iff rfl).mpr (by decide +kernel)⟩

/-- **A slow save.** A file is saved, another one is opened, and then the save ends. -/
theorem slow_save : ¬∀ ops h, exec (step 100) {} ops = some h → h.Shows := by
  intro hall
  have hshows := hall
    [.attach (some 1), .open "notes" "notes" 4,
      .openEnds ⟨⟨1, 1, "notes"⟩, "notes", 0⟩ (.ok ⟨"notes", "old"⟩), .save "new",
      .open "other" "other" 4,
      .saveEnds ⟨1, ⟨1, "notes", "notes", "old", false, false, false, none⟩, "new"⟩ (.ok "notes")] _ rfl
  exact absurd hshows.strays (by decide)

end FileEditorHook

end Termd.Browser
