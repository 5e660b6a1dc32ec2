import Termd.Library.FileTree
import Termd.Library.Whitespace

/-!
# Paths below the root of a session

A request names a file by a text. A text that is not an absolute path is one below the root of the
session, and so is an absolute path that has the canonical root in front of it, whatever comes
after; both have to lead to a file below the root. Any other absolute path is what it is. The
blanks around the text are dropped before anything else.

## Main definitions

* `resolveExistingSessionFileTarget`, `resolveWritableSessionFileTarget`: the file of a request
* `Scoped`: a request for a file below the root
* `EndsInside`: where a path leads

## Main results

* `targets_inside_root`: where the files of such requests are
* `blank_before_slash`: why the blanks matter
-/

namespace Termd.SessionFiles

inductive ProtocolError
  | invalidEnvelope
  | runtimeFailed
deriving DecidableEq

/-- What stands between two slashes of a text. -/
def parseSegment (text : List Char) : Segment (List Char) :=
  if text = [] then .empty
  else if text = ['.'] then .dot
  else if text = ['.', '.'] then .dotDot
  else .name text

/-- `Path::new` -/
def newPath (text : List Char) : Path (List Char) where
  absolute := text.head? = some '/'
  segments := (text.splitOn '/').map parseSegment

abbrev Tree := FileTree (List Char)

def mapFilePathError : IoError → ProtocolError
  | .notFound => .invalidEnvelope
  | _ => .runtimeFailed

def canonicalize (tree : Tree) (p : Path (List Char)) : Except ProtocolError (List (List Char)) :=
  (tree.canonicalize p).mapError mapFilePathError

def sessionFileRequestIsRootScoped (tree : Tree) (root candidate : Path (List Char))
    (requestedAbsolute : Bool) : Except ProtocolError Bool :=
  if !requestedAbsolute then .ok true
  else match canonicalize tree root with
    | .error e => .error e
    | .ok root => .ok (candidate.startsWith (.ofNames root))

def ensurePathInsideRoot (tree : Tree) (root : Path (List Char)) (target : List (List Char)) :
    Except ProtocolError Unit :=
  match canonicalize tree root with
  | .error e => .error e
  | .ok root =>
    if (Path.ofNames target).startsWith (.ofNames root) then .ok () else .error .invalidEnvelope

/-- `ensure_path_inside_root` of a request that is root scoped. -/
def ensureScoped (tree : Tree) (root : Path (List Char)) (rootScoped : Bool)
    (target : List (List Char)) : Except ProtocolError Unit :=
  if rootScoped then ensurePathInsideRoot tree root target else .ok ()

def resolveExistingSessionFileTarget (tree : Tree) (root : Path (List Char))
    (requestedPath : List Char) : Except ProtocolError (Path (List Char)) :=
  let raw := trim requestedPath
  if raw = [] then .ok root
  else do
    let requested := newPath raw
    let candidate := root.join requested
    let rootScoped ← sessionFileRequestIsRootScoped tree root candidate requested.absolute
    let target ← canonicalize tree candidate
    ensureScoped tree root rootScoped target
    return .ofNames target

def resolveSessionFileTarget (tree : Tree) (root : Path (List Char)) :
    Option (List Char) → Except ProtocolError (Path (List Char))
  | some path =>
    if trim path ≠ [] then resolveExistingSessionFileTarget tree root path else .ok root
  | none => .ok root

/-- The target of a request for a file to be written, below the parent that was found. -/
def writableTarget (tree : Tree) (root : Path (List Char)) (rootScoped : Bool)
    (target : Path (List Char)) : Except ProtocolError (Path (List Char)) :=
  match tree.symlinkMetadata target with
  | .ok _ => do
    -- the file exists, and is written where its links lead
    let realTarget ← canonicalize tree target
    ensureScoped tree root rootScoped realTarget
    return target
  | .error .notFound => .ok target
  | .error e => .error (mapFilePathError e)

def resolveWritableSessionFileTarget (tree : Tree) (root : Path (List Char))
    (requestedPath : List Char) : Except ProtocolError (Path (List Char)) :=
  let raw := trim requestedPath
  if raw = [] then .error .invalidEnvelope
  else do
    let requested := newPath raw
    let candidate := root.join requested
    let rootScoped ← sessionFileRequestIsRootScoped tree root candidate requested.absolute
    match candidate.fileName, candidate.parent with
    | some fileName, some parent =>
      let parent ← canonicalize tree parent
      ensureScoped tree root rootScoped parent
      writableTarget tree root rootScoped
        ((Path.ofNames parent).join ⟨false, [.name fileName]⟩)
    | _, _ => .error .invalidEnvelope

/-! ### Requests below the root -/

/-- A directory, with its canonical path. -/
structure SessionRoot (tree : Tree) where
  path : Path (List Char)
  canonical : List (List Char)
  canonicalize_eq : tree.canonicalize path = .ok canonical
  directory : tree.kind canonical = some .directory

/-- The text is not an absolute path, or one that the canonical root is in front of. -/
def Scoped {tree : Tree} (root : SessionRoot tree) (text : List Char) : Prop :=
  (newPath text).absolute = false ∨ (newPath text).startsWith (.ofNames root.canonical) = true

/-- The links on the path lead to a file below the root. -/
def EndsInside {tree : Tree} (root : SessionRoot tree) (p : Path (List Char)) : Prop :=
  ∃ names, tree.canonicalize p = .ok names ∧ root.canonical <+: names

/-- The file leads below the root, or it does not exist and its directory does. -/
def TargetInside {tree : Tree} (root : SessionRoot tree) (p : Path (List Char)) : Prop :=
  ((∃ kind, tree.symlinkMetadata p = .ok kind) ∧ EndsInside root p) ∨
    tree.symlinkMetadata p = .error .notFound ∧
      ∃ parent, p.parent = some parent ∧ EndsInside root parent

section Inside

variable {tree : Tree} {root : SessionRoot tree} {p : Path (List Char)} {raw : List Char}
  {names : List (List Char)}

theorem bind_eq_ok {α β : Type} {x : Except ProtocolError α} {f : α → Except ProtocolError β}
    {b : β} : (x >>= f) = .ok b ↔ ∃ a, x = .ok a ∧ f a = .ok b := by
  cases x with
  | error e =>
    refine ⟨fun h => ?_, fun ⟨_, h, _⟩ => ?_⟩
    · cases h
    · cases h
  | ok a =>
    refine ⟨fun h => ⟨a, rfl, h⟩, fun ⟨_, ha, h⟩ => ?_⟩
    rwa [← Except.ok.inj ha] at h

theorem canonicalize_eq_ok : canonicalize tree p = .ok names ↔ tree.canonicalize p = .ok names := by
  rw [canonicalize]
  cases tree.canonicalize p with
  | error e =>
    refine ⟨fun h => ?_, fun h => ?_⟩
    · cases h
    · cases h
  | ok names' => rw [Except.mapError, Except.ok.injEq, Except.ok.injEq]

theorem rootScoped_eq (h : Scoped root raw) {candidate : Path (List Char)}
    (hcandidate : candidate = root.path.join (newPath raw)) {rootScoped : Bool}
    (hscoped : sessionFileRequestIsRootScoped tree root.path candidate (newPath raw).absolute =
      .ok rootScoped) : rootScoped = true := by
  rw [sessionFileRequestIsRootScoped, canonicalize_eq_ok.mpr root.canonicalize_eq] at hscoped
  cases habsolute : (newPath raw).absolute with
  | false =>
    rw [habsolute] at hscoped
    exact (Except.ok.inj hscoped).symm
  | true =>
    rw [habsolute] at hscoped
    rw [← Except.ok.inj hscoped, hcandidate, Path.join, if_pos habsolute]
    exact h.resolve_left (by simp [habsolute])

theorem ensureScoped_eq_ok (h : ensureScoped tree root.path true names = .ok ()) :
    root.canonical <+: names := by
  rw [ensureScoped, if_pos rfl, ensurePathInsideRoot,
    canonicalize_eq_ok.mpr root.canonicalize_eq] at h
  dsimp only at h
  split_ifs at h with hinside
  exact Path.startsWith_ofNames.mp hinside

/-- A canonical path below the root leads there. -/
theorem endsInside_ofNames (hcanonical : tree.canonicalize p = .ok names)
    (hinside : root.canonical <+: names) : EndsInside root (.ofNames names) :=
  ⟨names, FileTree.canonicalize_ofNames (FileTree.canonical_of_canonicalize hcanonical), hinside⟩

theorem endsInside_root : EndsInside root root.path :=
  ⟨root.canonical, root.canonicalize_eq, List.prefix_rfl⟩

theorem existing_inside (h : Scoped root (trim raw))
    (hok : resolveExistingSessionFileTarget tree root.path raw = .ok p) : EndsInside root p := by
  rw [resolveExistingSessionFileTarget] at hok
  dsimp only at hok
  split_ifs at hok
  · exact Except.ok.inj hok ▸ endsInside_root
  · obtain ⟨rootScoped, hscoped, hrest⟩ := bind_eq_ok.mp hok
    obtain ⟨target, htarget, hrest⟩ := bind_eq_ok.mp hrest
    obtain ⟨_, hensure, hreturn⟩ := bind_eq_ok.mp hrest
    rw [rootScoped_eq h rfl hscoped] at hensure
    rw [← Except.ok.inj hreturn]
    exact endsInside_ofNames (canonicalize_eq_ok.mp htarget) (ensureScoped_eq_ok hensure)

theorem target_inside (h : Scoped root (trim raw))
    (hok : resolveSessionFileTarget tree root.path (some raw) = .ok p) : EndsInside root p := by
  rw [resolveSessionFileTarget] at hok
  split_ifs at hok
  · exact existing_inside h hok
  · exact Except.ok.inj hok ▸ endsInside_root

/-- What is written is the last name below a directory that was found, or a link there. -/
theorem writableTarget_inside {name : List Char}
    (hparent : tree.canonicalize p = .ok names) (hinside : root.canonical <+: names)
    {target : Path (List Char)} (htarget : target = .ofNames (names ++ [name])) {t : Path (List Char)}
    (hok : writableTarget tree root.path true target = .ok t) : t = target ∧ TargetInside root t := by
  rw [writableTarget] at hok
  split at hok
  next kind hkind =>
    -- the file is there: its links have been followed
    obtain ⟨realTarget, hreal, hrest⟩ := bind_eq_ok.mp hok
    obtain ⟨_, hensure, hreturn⟩ := bind_eq_ok.mp hrest
    have ht := Except.ok.inj hreturn
    refine ⟨ht.symm, .inl ?_⟩
    rw [← ht]
    exact ⟨⟨kind, hkind⟩, realTarget, canonicalize_eq_ok.mp hreal, ensureScoped_eq_ok hensure⟩
  next hmissing =>
    -- it is not, and would be made in the directory
    have ht := Except.ok.inj hok
    refine ⟨ht.symm, .inr ?_⟩
    rw [← ht]
    refine ⟨hmissing, .ofNames names, ?_, endsInside_ofNames hparent hinside⟩
    rw [htarget, Path.parent_concat]
  next => cases hok

theorem writable_inside (h : Scoped root (trim raw))
    (hok : resolveWritableSessionFileTarget tree root.path raw = .ok p) :
    TargetInside root p ∧
      ∀ name, (newPath (trim raw)).fileName = some name → p.fileName = some name := by
  rw [resolveWritableSessionFileTarget] at hok
  dsimp only at hok
  split_ifs at hok
  obtain ⟨rootScoped, hscoped, hrest⟩ := bind_eq_ok.mp hok
  rw [rootScoped_eq h rfl hscoped] at hrest
  split at hrest
  next name parent hname hparent =>
    obtain ⟨names, hnames, hrest⟩ := bind_eq_ok.mp hrest
    obtain ⟨_, hensure, hrest⟩ := bind_eq_ok.mp hrest
    obtain ⟨hp, hinside⟩ := writableTarget_inside (canonicalize_eq_ok.mp hnames)
      (ensureScoped_eq_ok hensure) (Path.join_name names name) hrest
    refine ⟨hinside, fun requested hrequested => ?_⟩
    rw [hp, Path.join_name, Path.fileName_concat, ← hname, Path.fileName_join hrequested]
  next => cases hrest

end Inside

/-- **What a request for a file below the root may reach.** It is below the root once all links are
followed, and a file that is written has the name that was requested. -/
theorem targets_inside_root (tree : Tree) (root : SessionRoot tree) (raw : List Char)
    (t : Path (List Char)) :
    (Scoped root (trim raw) → resolveSessionFileTarget tree root.path (some raw) = .ok t →
        EndsInside root t) ∧
      (Scoped root (trim raw) → resolveExistingSessionFileTarget tree root.path raw = .ok t →
        EndsInside root t) ∧
      (Scoped root (trim raw) → resolveWritableSessionFileTarget tree root.path raw = .ok t →
        TargetInside root t ∧
          ∀ name, (newPath (trim raw)).fileName = some name → t.fileName = some name) :=
  ⟨target_inside, existing_inside, writable_inside⟩

/-- A root beside another directory. -/
def twoDirectories : Tree where
  kind names :=
    if names = [] ∨ names = [['r']] ∨ names = [['e', 't', 'c']] then some .directory else none
  cwd := []
  cwd_canonical := FileTree.canonical_nil

/-- **A text that begins with a blank** is not an absolute path, and without the blank it may be
one. -/
theorem blank_before_slash :
    ¬∀ (tree : Tree) (root : SessionRoot tree) (raw : List Char) (t : Path (List Char)),
      Scoped root raw → resolveExistingSessionFileTarget tree root.path raw = .ok t →
        EndsInside root t := by
  intro h
  obtain ⟨names, hnames, hinside⟩ := h twoDirectories
    ⟨newPath ['/', 'r'], [['r']], by decide, by decide⟩ [' ', '/', 'e', 't', 'c']
    (.ofNames [['e', 't', 'c']]) (.inl (by decide)) (by decide)
  have hetc : twoDirectories.canonicalize (.ofNames [['e', 't', 'c']]) = .ok [['e', 't', 'c']] := by
    decide
  rw [hetc] at hnames
  rw [← Except.ok.inj hnames] at hinside
  exact absurd hinside (by decide)

end Termd.SessionFiles
