import Mathlib.Data.List.DropRight

/-!
# Trees of files with symbolic links

A path is a list of segments, which stand between slashes. It is read in two ways. As a text it has
components, a last component and a parent, and nothing is looked up. In a tree of files it is walked
from a directory, one segment after the other: `..` leads to the directory above, wherever that is,
and a symbolic link leads to where its own path does. What a walk ends at is named by its canonical
path, on which there are no links.

## Main definitions

* `Path N`, `Path.components`, `Path.join`, `Path.fileName`, `Path.parent`: paths as texts
* `FileTree N`: directories, files and symbolic links
* `FileTree.resolve`, `FileTree.canonicalize`, `FileTree.symlinkMetadata`: the walk
* `FileTree.CanonicalIn kind names`: there are no links on the path

## Main results

* `FileTree.canonical_of_resolve`: a walk ends at a canonical path
* `FileTree.resolve_canonical`: a canonical path leads to where it says
* `Path.fileName_join`: the last component of a path that is joined to another
-/

namespace Termd

/-! ### Paths as texts -/

/-- What stands between two slashes. -/
inductive Segment (N : Type)
  | empty
  | dot
  | dotDot
  | name (n : N)
deriving DecidableEq

/-- A path; it is absolute if it begins with a slash. -/
structure Path (N : Type) where
  absolute : Bool
  segments : List (Segment N)
deriving DecidableEq

inductive Component (N : Type)
  | rootDir
  | curDir
  | parentDir
  | normal (n : N)
deriving DecidableEq

namespace Path

variable {N : Type}

/-- The path of the names from the root. -/
def ofNames (names : List N) : Path N := ⟨true, names.map .name⟩

/-- Empty segments and those for the same directory are left out. -/
def bodyComponent : Segment N → Option (Component N)
  | .empty => none
  | .dot => none
  | .dotDot => some .parentDir
  | .name n => some (.normal n)

/-- The body of the path, and whether it follows a `.` that is a component. -/
def splitCurDir : Path N → Bool × List (Segment N)
  | ⟨false, .dot :: body⟩ => (true, body)
  | ⟨_, body⟩ => (false, body)

def components (p : Path N) : List (Component N) :=
  (if p.absolute then [.rootDir] else []) ++ (if p.splitCurDir.1 then [.curDir] else []) ++
    p.splitCurDir.2.filterMap bodyComponent

/-- `Path::join` -/
def join (p q : Path N) : Path N :=
  if q.absolute then q else ⟨p.absolute, p.segments ++ q.segments⟩

/-- `Path::file_name` -/
def fileName (p : Path N) : Option N :=
  match p.components.getLast? with
  | some (.normal n) => some n
  | _ => none

/-- The segments up to the last that is a component. -/
def trimEnd (segments : List (Segment N)) : List (Segment N) :=
  segments.rdropWhile fun segment => (bodyComponent segment).isNone

/-- `Path::parent` -/
def parent (p : Path N) : Option (Path N) :=
  let (curDir, body) := p.splitCurDir
  let lead := if curDir then [.dot] else []
  match trimEnd body with
  | [] => if curDir then some ⟨p.absolute, []⟩ else none
  | segment :: segments => some ⟨p.absolute, lead ++ trimEnd (segment :: segments).dropLast⟩

/-- `Path::starts_with` -/
def startsWith [DecidableEq N] (p q : Path N) : Bool := q.components.isPrefixOf p.components

theorem components_ofNames (names : List N) :
    (ofNames names).components = .rootDir :: names.map .normal := by
  have hbody : (names.map Segment.name).filterMap bodyComponent = names.map .normal := by
    rw [List.filterMap_map]
    exact List.filterMap_eq_map.symm ▸ rfl
  rw [components, ofNames, splitCurDir]
  · simp [hbody]
  · exact fun body h => by simp at h

theorem startsWith_ofNames [DecidableEq N] {names root : List N} :
    (ofNames names).startsWith (ofNames root) = true ↔ root <+: names := by
  rw [startsWith, List.isPrefixOf_iff_prefix, components_ofNames, components_ofNames,
    List.cons_prefix_cons]
  have hinjective : Function.Injective (Component.normal (N := N)) := fun n m h => by cases h; rfl
  constructor
  · rintro ⟨-, h⟩
    exact (List.prefix_map_iff_of_injective hinjective).mp h
  · exact fun h => ⟨rfl, h.map _⟩

theorem filterMap_splitCurDir (p : Path N) :
    p.splitCurDir.2.filterMap bodyComponent = p.segments.filterMap bodyComponent := by
  rw [splitCurDir.eq_def]
  split <;> rfl

/-- The last component is in the body of the path, if it is a name. -/
theorem fileName_eq_some {p : Path N} {n : N} :
    p.fileName = some n ↔ (p.segments.filterMap bodyComponent).getLast? = some (.normal n) := by
  rw [fileName, components, filterMap_splitCurDir, List.getLast?_append]
  cases hlast : (p.segments.filterMap bodyComponent).getLast? with
  | none =>
    rw [Option.none_or]
    split_ifs <;> simp
  | some component =>
    rw [Option.some_or]
    cases component <;> simp

/-- The last component of a path stays the last where the path is joined to another. -/
theorem fileName_join {p q : Path N} {n : N} (h : q.fileName = some n) :
    (p.join q).fileName = some n := by
  rw [join]
  split_ifs with habsolute
  · exact h
  · rw [fileName_eq_some] at h ⊢
    rw [List.filterMap_append, List.getLast?_append, h, Option.some_or]

theorem join_name (names : List N) (n : N) :
    (ofNames names).join ⟨false, [.name n]⟩ = ofNames (names ++ [n]) := by
  simp [join, ofNames]

theorem trimEnd_names (names : List N) : trimEnd (names.map .name) = names.map .name := by
  rw [trimEnd, List.rdropWhile_eq_self_iff]
  intro hne
  obtain ⟨n, -, hn⟩ := List.mem_map.mp (List.getLast_mem hne)
  rw [← hn]
  exact Bool.false_ne_true

theorem parent_concat (names : List N) (n : N) :
    (ofNames (names ++ [n])).parent = some (ofNames names) := by
  have hsplit : (ofNames (names ++ [n])).splitCurDir = (false, (names ++ [n]).map .name) := by
    rw [ofNames, splitCurDir]
    exact fun body h => by simp at h
  rw [parent, hsplit]
  dsimp only
  rw [trimEnd_names]
  split
  next hnil => simp at hnil
  next hcons =>
    rw [← hcons, ← List.map_dropLast, List.dropLast_concat, trimEnd_names]
    rfl

theorem fileName_concat (names : List N) (n : N) :
    (ofNames (names ++ [n])).fileName = some n := by
  rw [fileName, components_ofNames, List.map_append, List.map_singleton, ← List.cons_append,
    List.getLast?_concat]

end Path

/-! ### Trees -/

inductive FileKind (N : Type)
  | directory
  | file
  | link (target : Path N)
deriving DecidableEq

inductive IoError
  | notFound
  | notADirectory
  | loop
deriving DecidableEq

/-- Every directory on the path exists, and there is no link on it. -/
def FileTree.CanonicalIn {N : Type} (kind : List N → Option (FileKind N)) (names : List N) : Prop :=
  ∀ front n, front ++ [n] <+: names → kind front = some .directory ∧
    (kind (front ++ [n]) = some .directory ∨ kind (front ++ [n]) = some .file)

/-- A tree, which has a kind at each of its paths, and the current directory. -/
structure FileTree (N : Type) where
  kind : List N → Option (FileKind N)
  cwd : List N
  cwd_canonical : FileTree.CanonicalIn kind cwd

namespace FileTree

variable {N : Type}

/-- The walk from a directory; `follow` goes on at a link. -/
def walk (kind : List N → Option (FileKind N))
    (follow : List N → List (Segment N) → Except IoError (List N)) :
    List N → List (Segment N) → Except IoError (List N)
  | names, [] => .ok names
  | names, segment :: segments =>
    match kind names with
    | some .directory =>
      match segment with
      | .empty | .dot => walk kind follow names segments
      | .dotDot => walk kind follow names.dropLast segments
      | .name n =>
        match kind (names ++ [n]) with
        | none => .error .notFound
        | some (.link target) =>
          follow (if target.absolute then [] else names) (target.segments ++ segments)
        | some _ => walk kind follow (names ++ [n]) segments
    | _ => .error .notADirectory

/-- The walk through at most that many links. -/
def resolve (kind : List N → Option (FileKind N)) :
    ℕ → List N → List (Segment N) → Except IoError (List N)
  | 0 => walk kind fun _ _ => .error .loop
  | links + 1 => walk kind (resolve kind links)

/-- `MAXSYMLINKS` -/
def maxLinks : ℕ := 40

variable (tree : FileTree N)

/-- `fs::canonicalize`; there is no file with the empty path. -/
def canonicalize (p : Path N) : Except IoError (List N) :=
  if !p.absolute && p.segments.all fun segment => segment matches .empty then .error .notFound
  else resolve tree.kind maxLinks (if p.absolute then [] else tree.cwd) p.segments

/-- `fs::symlink_metadata`: the last name is looked up, and not followed. -/
def symlinkMetadata (p : Path N) : Except IoError (FileKind N) :=
  match p.segments.getLast? with
  | some (.name n) =>
    match resolve tree.kind maxLinks (if p.absolute then [] else tree.cwd) p.segments.dropLast with
    | .error e => .error e
    | .ok names =>
      match tree.kind names with
      | some .directory =>
        match tree.kind (names ++ [n]) with
        | some kind => .ok kind
        | none => .error .notFound
      | _ => .error .notADirectory
  | _ =>
    match tree.canonicalize p with
    | .error e => .error e
    | .ok names =>
      match tree.kind names with
      | some kind => .ok kind
      | none => .error .notFound

section Canonical

variable {kind : List N → Option (FileKind N)} {names front : List N}

theorem canonical_nil : CanonicalIn kind ([] : List N) := fun _ _ h => by
  simp at h

theorem CanonicalIn.of_prefix (h : CanonicalIn kind names) (hfront : front <+: names) :
    CanonicalIn kind front :=
  fun _ _ hn => h _ _ (hn.trans hfront)

theorem CanonicalIn.concat (h : CanonicalIn kind names) (hdir : kind names = some .directory) {n : N}
    (hn : kind (names ++ [n]) = some .directory ∨ kind (names ++ [n]) = some .file) :
    CanonicalIn kind (names ++ [n]) := by
  intro front m hm
  rcases List.prefix_concat_iff.mp hm with heq | hprefix
  · obtain ⟨rfl, rfl⟩ := List.append_singleton_inj.mp heq
    exact ⟨hdir, hn⟩
  · exact h front m hprefix

theorem canonical_of_walk {follow : List N → List (Segment N) → Except IoError (List N)}
    (hfollow : ∀ names segments t, CanonicalIn kind names → follow names segments = .ok t →
      CanonicalIn kind t) {segments : List (Segment N)} {t : List N}
    (hnames : CanonicalIn kind names) (h : walk kind follow names segments = .ok t) :
    CanonicalIn kind t := by
  induction segments generalizing names with
  | nil => exact Except.ok.inj h ▸ hnames
  | cons segment segments ih =>
    rw [walk.eq_def] at h
    dsimp only at h
    split at h
    next hdir =>
      cases segment with
      | empty => exact ih hnames h
      | dot => exact ih hnames h
      | dotDot => exact ih (hnames.of_prefix (List.dropLast_prefix names)) h
      | name n =>
        dsimp only at h
        split at h
        · cases h
        next target hlink =>
          refine hfollow _ _ t ?_ h
          split_ifs
          · exact canonical_nil
          · exact hnames
        next kind' hnot hkind =>
          refine ih (hnames.concat hdir ?_) h
          cases kind' with
          | directory => exact .inl hkind
          | file => exact .inr hkind
          | link target => exact absurd rfl (hnot target)
    · cases h

/-- **A walk ends at a canonical path.** -/
theorem canonical_of_resolve {links : ℕ} {segments : List (Segment N)} {t : List N}
    (hnames : CanonicalIn kind names) (h : resolve kind links names segments = .ok t) :
    CanonicalIn kind t := by
  induction links generalizing names segments t with
  | zero => exact canonical_of_walk (fun _ _ _ _ hfollow => by cases hfollow) hnames h
  | succ links ih =>
    exact canonical_of_walk (fun _ _ _ hnames h => ih hnames h) hnames h

theorem walk_canonical (follow : List N → List (Segment N) → Except IoError (List N))
    {rest : List N} (h : CanonicalIn kind (front ++ rest)) :
    walk kind follow front (rest.map .name) = .ok (front ++ rest) := by
  induction rest generalizing front with
  | nil => rw [List.append_nil]; rfl
  | cons n rest ih =>
    rw [List.append_cons] at h ⊢
    obtain ⟨hdir, hn⟩ := h front n (List.prefix_append ..)
    rw [List.map_cons, walk, hdir]
    rcases hn with hn | hn
    · simp only [hn]
      exact ih h
    · simp only [hn]
      exact ih h

/-- **A canonical path** leads to where it says. -/
theorem resolve_canonical (links : ℕ) {rest : List N} (h : CanonicalIn kind (front ++ rest)) :
    resolve kind links front (rest.map .name) = .ok (front ++ rest) := by
  cases links with
  | zero => exact walk_canonical _ h
  | succ links => exact walk_canonical _ h

variable {tree : FileTree N} {p : Path N}

theorem canonical_of_canonicalize (h : tree.canonicalize p = .ok names) :
    CanonicalIn tree.kind names := by
  rw [canonicalize] at h
  split_ifs at h
  · exact canonical_of_resolve canonical_nil h
  · exact canonical_of_resolve tree.cwd_canonical h

theorem canonicalize_ofNames (h : CanonicalIn tree.kind names) :
    tree.canonicalize (.ofNames names) = .ok names := by
  rw [canonicalize]
  exact resolve_canonical maxLinks h

end Canonical

end FileTree

end Termd
