import Termd.Library.CharBoundary
import Termd.Git.Command

/-!
# The changed files that git prints

`git status -z` prints fields that end with NUL. A record is one field, two letters and a path, and a
renamed or copied file has its old path as one more field, whichever column says so. The daemon looks
at the first column only.

## Main definitions

* `parseGitStatusEntries`: the entries of an output
* `StatusRecord`, `encode`: what git has to print, and how
* `parseTagged`: the same parser on fields that carry where they come from
* `Recovered`: one entry for each record, and from its own field

## Main results

* `recovered_iff`: the records are recovered if and only if no old path that is left over looks like a
  record
-/

namespace Termd

namespace Git

/-! ### The parser -/

structure GitStatusLine where
  path : List Char
  status : List Char
  staged : Bool
  unstaged : Bool
deriving DecidableEq

def parseGitStatusLine : List Char → Option GitStatusLine
  | index :: worktree :: rest =>
    match getFrom 3 (index :: worktree :: rest) with
    | none => none
    | some path =>
      if path = [] then none
      else some
        { path := path
          status := [index, worktree]
          staged := index ≠ ' ' && index ≠ '?'
          unstaged := worktree ≠ ' ' || (index = '?' && worktree = '?') }
  | _ => none

/-- `str::starts_with` of the status. -/
def GitStatusLine.startsWith (change : GitStatusLine) (letter : Char) : Bool :=
  change.status.head? = some letter

/-- The letters for which the next field is dropped. -/
def GitStatusLine.takesOldPath (change : GitStatusLine) : Bool :=
  change.startsWith 'R' || change.startsWith 'C'

/-- The loop over the fields. -/
def parseFields : List (List Char) → List GitStatusLine
  | [] => []
  | field :: fields =>
    match parseGitStatusLine field with
    | none => parseFields fields
    | some change =>
      if change.takesOldPath then change :: parseFields (fields.drop 1)
      else change :: parseFields fields
termination_by fields => fields.length
decreasing_by all_goals simp only [List.length_cons, List.length_drop]; omega

/-- `str::lines` -/
def lines (text : List Char) : List (List Char) :=
  let parts := text.splitOn '\n'
  let parts := if parts.getLast? = some [] then parts.dropLast else parts
  parts.map fun line => if line.getLast? = some '\r' then line.dropLast else line

def parseGitStatusEntries (output : List Char) : List GitStatusLine :=
  if '\x00' ∈ output then
    parseFields ((output.splitOn '\x00').filter (· ≠ []))
  else (lines output).filterMap parseGitStatusLine

/-! ### What git prints -/

def STATUS_LETTERS : List Char := [' ', 'M', 'T', 'A', 'D', 'R', 'C', 'U', '?', '!']

def isRenameOrCopy (letter : Char) : Bool := letter = 'R' || letter = 'C'

def IsPath (path : List Char) : Prop := path ≠ [] ∧ '\x00' ∉ path

instance (path : List Char) : Decidable (IsPath path) := inferInstanceAs (Decidable (_ ∧ _))

/-- A record of `git status --porcelain=v1`. There is an old path if one of the columns is R or C. -/
structure StatusRecord where
  index : Char
  worktree : Char
  path : List Char
  oldPath : Option (List Char)
  index_mem : index ∈ STATUS_LETTERS
  worktree_mem : worktree ∈ STATUS_LETTERS
  isPath : IsPath path
  isSome_oldPath : oldPath.isSome = (isRenameOrCopy index || isRenameOrCopy worktree)
  isPath_oldPath : ∀ old ∈ oldPath, IsPath old

namespace StatusRecord

def field (r : StatusRecord) : List Char := r.index :: r.worktree :: ' ' :: r.path

def fields (r : StatusRecord) : List (List Char) := r.field :: r.oldPath.toList

/-- What the daemon is to make of it. -/
def entry (r : StatusRecord) : GitStatusLine where
  path := r.path
  status := [r.index, r.worktree]
  staged := r.index ≠ ' ' && r.index ≠ '?'
  unstaged := r.worktree ≠ ' '

/-- The old path is dropped with its record, or it is no record itself. -/
def Separable (r : StatusRecord) : Prop :=
  isRenameOrCopy r.worktree = true → isRenameOrCopy r.index = false → ∀ old ∈ r.oldPath,
    isCharBoundary old 3 = false ∨ textLen old ≤ 3

end StatusRecord

def encodeField (field : List Char) : List Char := field ++ ['\x00']

def encode (records : List StatusRecord) : List Char :=
  (records.flatMap StatusRecord.fields).flatMap encodeField

/-! ### Where an entry comes from -/

inductive Origin
  | record (r : StatusRecord)
  | oldPath (r : StatusRecord)

/-- The parser on fields with a tag that goes to the entries. -/
def parseTagged {α : Type} : List (α × List Char) → List (α × GitStatusLine)
  | [] => []
  | (tag, field) :: fields =>
    match parseGitStatusLine field with
    | none => parseTagged fields
    | some change =>
      if change.takesOldPath then (tag, change) :: parseTagged (fields.drop 1)
      else (tag, change) :: parseTagged fields
termination_by fields => fields.length
decreasing_by all_goals simp only [List.length_cons, List.length_drop]; omega

def StatusRecord.placed (r : StatusRecord) : List (Origin × List Char) :=
  (.record r, r.field) :: r.oldPath.toList.map fun old => (.oldPath r, old)

/-- **One entry for each record**, in order, from the field of the record. -/
structure Recovered (records : List StatusRecord) : Prop where
  entries : parseGitStatusEntries (encode records) = records.map StatusRecord.entry
  origins : (parseTagged (records.flatMap StatusRecord.placed)).map Prod.fst =
    records.map Origin.record

section Steps

variable {α : Type} {tag : α} {field : List Char} {fields : List (α × List Char)}
  {change : GitStatusLine}

@[simp] theorem parseTagged_nil : parseTagged ([] : List (α × List Char)) = [] := by
  rw [parseTagged]

theorem parseTagged_none (h : parseGitStatusLine field = none) :
    parseTagged ((tag, field) :: fields) = parseTagged fields := by
  rw [parseTagged, h]

theorem parseTagged_drop (h : parseGitStatusLine field = some change)
    (hdrop : change.takesOldPath = true) :
    parseTagged ((tag, field) :: fields) = (tag, change) :: parseTagged (fields.drop 1) := by
  rw [parseTagged, h]
  simp only [hdrop, if_true]

theorem parseTagged_keep (h : parseGitStatusLine field = some change)
    (hkeep : change.takesOldPath = false) :
    parseTagged ((tag, field) :: fields) = (tag, change) :: parseTagged fields := by
  rw [parseTagged, h]
  simp only [hkeep, Bool.false_eq_true, if_false]

/-- The tags change nothing. -/
theorem map_snd_parseTagged (fields : List (α × List Char)) :
    (parseTagged fields).map Prod.snd = parseFields (fields.map Prod.snd) := by
  induction fields using parseTagged.induct with
  | case1 =>
    rw [parseTagged_nil, List.map_nil, List.map_nil, parseFields]
  | case2 tag field fields hnone ih =>
    rw [parseTagged_none hnone, ih, List.map_cons, parseFields, hnone]
  | case3 tag field fields change hsome hdrop ih =>
    rw [parseTagged_drop hsome hdrop, List.map_cons, ih, List.map_cons, parseFields, hsome]
    simp only [hdrop, if_true, List.map_drop]
  | case4 tag field fields change hsome hkeep ih =>
    rw [Bool.not_eq_true] at hkeep
    rw [parseTagged_keep hsome hkeep, List.map_cons, ih, List.map_cons, parseFields, hsome]
    simp only [hkeep, Bool.false_eq_true, if_false]

end Steps

/-! ### The fields come back -/

theorem notMem_of_mem_letters {letter : Char} (h : letter ∈ STATUS_LETTERS) : letter ≠ '\x00' := by
  rintro rfl
  revert h
  decide

theorem StatusRecord.notMem_of_mem_fields {r : StatusRecord} {field : List Char}
    (h : field ∈ r.fields) : IsPath field := by
  rw [StatusRecord.fields, List.mem_cons, Option.mem_toList] at h
  rcases h with rfl | hold
  · refine ⟨List.cons_ne_nil _ _, ?_⟩
    have hindex := notMem_of_mem_letters r.index_mem
    have hworktree := notMem_of_mem_letters r.worktree_mem
    simp only [StatusRecord.field, List.mem_cons, not_or]
    exact ⟨hindex.symm, hworktree.symm, by decide, r.isPath.2⟩
  · exact r.isPath_oldPath field hold

theorem splitOn_encode {fields : List (List Char)} (h : ∀ field ∈ fields, IsPath field) :
    ((fields.flatMap encodeField).splitOn '\x00').filter (· ≠ []) = fields := by
  induction fields with
  | nil => rfl
  | cons field fields ih =>
    obtain ⟨hfield, hfields⟩ := List.forall_mem_cons.mp h
    rw [List.flatMap_cons, encodeField, List.append_assoc, List.singleton_append,
      List.splitOn_append_cons_self_of_not_mem hfield.2, List.filter_cons_of_pos (by simpa using hfield.1),
      ih hfields]

theorem parseGitStatusEntries_encode (records : List StatusRecord) :
    parseGitStatusEntries (encode records) = parseFields (records.flatMap StatusRecord.fields) := by
  cases records with
  | nil =>
    rw [List.flatMap_nil, parseFields]
    rfl
  | cons r records =>
    have hnul : '\x00' ∈ encode (r :: records) := by
      simp [encode, StatusRecord.fields, encodeField]
    rw [parseGitStatusEntries, if_pos hnul, encode, splitOn_encode]
    intro field hfield
    obtain ⟨s, -, hs⟩ := List.mem_flatMap.mp hfield
    exact StatusRecord.notMem_of_mem_fields hs

theorem map_snd_placed (records : List StatusRecord) :
    (records.flatMap StatusRecord.placed).map Prod.snd = records.flatMap StatusRecord.fields := by
  induction records with
  | nil => rfl
  | cons r records ih =>
    rw [List.flatMap_cons, List.map_append, ih, List.flatMap_cons]
    simp [StatusRecord.placed, StatusRecord.fields]

/-! ### One record -/

theorem length_encodeUtf8_letter {letter : Char} (h : letter ∈ STATUS_LETTERS) :
    (encodeUtf8 letter).length = 1 := by
  have hall : STATUS_LETTERS.all (fun letter => (encodeUtf8 letter).length = 1) = true := by decide
  exact of_decide_eq_true (List.all_eq_true.mp hall letter h)

theorem StatusRecord.getFrom_field (r : StatusRecord) : getFrom 3 r.field = some r.path := by
  have hindex := length_encodeUtf8_letter r.index_mem
  have hworktree := length_encodeUtf8_letter r.worktree_mem
  have hblank : (encodeUtf8 ' ').length = 1 := by decide
  refine getFrom_eq_some_iff.mpr ⟨[r.index, r.worktree, ' '], rfl, ?_⟩
  simp only [textLen_cons, textLen_nil, hindex, hworktree, hblank]

theorem StatusRecord.parseGitStatusLine_field (r : StatusRecord) :
    parseGitStatusLine r.field = some r.entry := by
  have hfrom := r.getFrom_field
  rw [StatusRecord.field] at hfrom ⊢
  rw [parseGitStatusLine, hfrom]
  simp only [if_neg r.isPath.1, StatusRecord.entry]
  -- an index letter `?` says nothing that the worktree letter does not say
  by_cases hworktree : r.worktree = ' ' <;> simp [hworktree]

theorem StatusRecord.takesOldPath_entry (r : StatusRecord) :
    r.entry.takesOldPath = isRenameOrCopy r.index := by
  simp [GitStatusLine.takesOldPath, GitStatusLine.startsWith, StatusRecord.entry, isRenameOrCopy]

/-- The texts that are no records. -/
theorem parseGitStatusLine_eq_none_iff {text : List Char} :
    parseGitStatusLine text = none ↔ isCharBoundary text 3 = false ∨ textLen text ≤ 3 := by
  cases text with
  | nil => simp [parseGitStatusLine]
  | cons index text =>
    cases text with
    | nil =>
      -- one character: its encoding has four bytes or the text is too short
      refine iff_of_true rfl ?_
      by_cases hlen : (encodeUtf8 index).length ≤ 3
      · exact .inr (by simpa using hlen)
      · exact .inl (isCharBoundary_cons_of_lt (by decide) (Nat.not_le.mp hlen))
    | cons worktree rest =>
      rw [parseGitStatusLine]
      by_cases hboundary : isCharBoundary (index :: worktree :: rest) 3 = true
      · obtain ⟨front, ⟨path, hpath⟩, hfront⟩ := isCharBoundary_iff.mp hboundary
        rw [← hpath] at hboundary ⊢
        rw [getFrom_eq_some_iff.mpr ⟨front, rfl, hfront⟩, textLen_append, hfront, hboundary]
        simp only [Bool.true_eq_false, false_or]
        by_cases hnil : path = []
        · simp [hnil]
        · have hpos : textLen path ≠ 0 := fun hzero => hnil (eq_nil_of_textLen_eq_zero hzero)
          simp only [if_neg hnil, reduceCtorEq, false_iff]
          omega
      · rw [getFrom, if_neg hboundary]
        exact iff_of_true rfl (.inl (Bool.eq_false_iff.mpr hboundary))

/-! ### All records -/

variable {r : StatusRecord} {records : List StatusRecord} {fields : List (Origin × List Char)}

/-- Nothing is left over of a record. -/
theorem parseTagged_separable (h : r.Separable) :
    parseTagged (r.placed ++ fields) = (.record r, r.entry) :: parseTagged fields := by
  have hline := r.parseGitStatusLine_field
  have hsome := r.isSome_oldPath
  rw [StatusRecord.placed, List.cons_append]
  by_cases hindex : isRenameOrCopy r.index = true
  · have hdrop : r.entry.takesOldPath = true := r.takesOldPath_entry.trans hindex
    rw [hindex, Bool.true_or] at hsome
    obtain ⟨old, hold⟩ := Option.isSome_iff_exists.mp hsome
    rw [parseTagged_drop hline hdrop, hold]
    rfl
  · rw [Bool.not_eq_true] at hindex
    have hkeep : r.entry.takesOldPath = false := r.takesOldPath_entry.trans hindex
    rw [parseTagged_keep hline hkeep]
    rw [hindex, Bool.false_or] at hsome
    by_cases hworktree : isRenameOrCopy r.worktree = true
    · rw [hworktree] at hsome
      obtain ⟨old, hold⟩ := Option.isSome_iff_exists.mp hsome
      have hnone := parseGitStatusLine_eq_none_iff.mpr (h hworktree hindex old hold)
      rw [hold, Option.toList_some, List.map_singleton, List.singleton_append,
        parseTagged_none hnone]
    · rw [Bool.not_eq_true] at hworktree
      rw [hworktree, Option.isSome_eq_false_iff, Option.isNone_iff_eq_none] at hsome
      rw [hsome]
      rfl

variable (fields) in
/-- The old path is an entry. -/
theorem parseTagged_not_separable (h : ¬ r.Separable) : ∃ change more,
    parseTagged (r.placed ++ fields) =
      (.record r, r.entry) :: (.oldPath r, change) :: more := by
  have hline := r.parseGitStatusLine_field
  simp only [StatusRecord.Separable, not_forall] at h
  obtain ⟨-, hindex, old, hold, hnone⟩ := h
  rw [← parseGitStatusLine_eq_none_iff] at hnone
  obtain ⟨change, hchange⟩ := Option.ne_none_iff_exists'.mp hnone
  have hkeep : r.entry.takesOldPath = false := r.takesOldPath_entry.trans hindex
  rw [StatusRecord.placed, List.cons_append, parseTagged_keep hline hkeep, Option.mem_def.mp hold,
    Option.toList_some, List.map_singleton, List.singleton_append]
  by_cases hdrop : change.takesOldPath = true
  · exact ⟨change, _, by rw [parseTagged_drop hchange hdrop]⟩
  · exact ⟨change, _, by rw [parseTagged_keep hchange (Bool.eq_false_iff.mpr hdrop)]⟩

theorem parseTagged_placed (h : ∀ r ∈ records, r.Separable) :
    parseTagged (records.flatMap StatusRecord.placed) =
      records.map fun r => (.record r, r.entry) := by
  induction records with
  | nil => exact parseTagged_nil
  | cons r records ih =>
    obtain ⟨hfirst, hrest⟩ := List.forall_mem_cons.mp h
    rw [List.flatMap_cons, parseTagged_separable hfirst, ih hrest, List.map_cons]

/-- The first old path that is an entry gives itself away. -/
theorem separable_of_origins
    (h : (parseTagged (records.flatMap StatusRecord.placed)).map Prod.fst =
      records.map Origin.record) : ∀ r ∈ records, r.Separable := by
  induction records with
  | nil => exact fun r hr => absurd hr List.not_mem_nil
  | cons r records ih =>
    by_cases hr : r.Separable
    · rw [List.flatMap_cons, parseTagged_separable hr, List.map_cons, List.map_cons] at h
      exact List.forall_mem_cons.mpr ⟨hr, ih (List.cons.inj h).2⟩
    · obtain ⟨change, more, hparse⟩ := parseTagged_not_separable
        (records.flatMap StatusRecord.placed) hr
      rw [List.flatMap_cons, hparse, List.map_cons, List.map_cons, List.map_cons] at h
      have htail := (List.cons.inj h).2
      cases records with
      | nil => cases htail
      | cons s records => exact Origin.noConfusion (List.cons.inj htail).1

/-- **The records are recovered** if and only if every old path is dropped with its record or is no
record itself. -/
theorem recovered_iff (records : List StatusRecord) :
    Recovered records ↔ ∀ r ∈ records, r.Separable := by
  constructor
  · exact fun h => separable_of_origins h.origins
  · intro h
    have hparse := parseTagged_placed h
    constructor
    · rw [parseGitStatusEntries_encode, ← map_snd_placed, ← map_snd_parseTagged, hparse,
        List.map_map]
      rfl
    · rw [hparse, List.map_map]
      rfl

/-- A file that is renamed in the worktree only: its old path becomes an entry. -/
theorem not_recovered_of_worktree_rename : ¬ ∀ records : List StatusRecord,
    parseGitStatusEntries (encode records) = records.map StatusRecord.entry := by
  intro h
  have hrename := h [{
    index := ' '
    worktree := 'R'
    path := "new.txt".toList
    oldPath := some "old.txt".toList
    index_mem := by decide
    worktree_mem := by decide
    isPath := by decide
    isSome_oldPath := rfl
    isPath_oldPath := by decide }]
  revert hrename
  rw [parseGitStatusEntries_encode]
  decide +kernel

end Git

end Termd
