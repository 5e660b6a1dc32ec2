import Mathlib.Data.List.DropRight
import Termd.Library.CharBoundary
import Termd.Library.Lowercase
import Termd.Library.Occurrences
import Termd.Library.Whitespace
import Termd.Screen.Stream

/-!
# The search in the output of a session

The lines of the screen are searched one after another for a text, up to a number of results. Without
regard to case the lower case of the line is searched for the lower case of the text, and the columns
are counted in the lower case of the line. They are columns of the line only if it is lowered letter
by letter.

## Main definitions

* `matchIndices`: the columns of a text in a line
* `searchLines`, `TerminalScreen.search`: the results
* `Points`: the results are matches, and the first ones

## Main results

* `matchIndices_leftmost`: the columns are those of the leftmost occurrences
* `search_spec`: what is returned
* `search_points`: when the results point at matches
-/

namespace Termd.Screen

open CaseTables (LowersEach)

/-! ### The lines of a screen -/

/-- `plain_text` -/
def TerminalLine.plainText (line : TerminalLine) : List Char :=
  ((line.cells.filter fun cell => !cell.wideContinuation).map TerminalCell.character).rdropWhile
    (· = ' ')

def TerminalScreen.snapshotPlainLines (s : TerminalScreen) : List (List Char) :=
  match snapshotLineBounds s.lines s.rows with
  | none => []
  | some (start, stop) => ((s.lines.drop start).take (stop - start)).map TerminalLine.plainText

/-! ### The columns of a text -/

/-- `str::find`: the byte where the first occurrence begins. -/
def find (needle : List Char) : List Char → Option ℕ
  | [] => if needle = [] then some 0 else none
  | c :: rest =>
    if needle.isPrefixOf (c :: rest) then some 0
    else (find needle rest).map (· + (encodeUtf8 c).length)

/-- The loop of `match_indices`. It panics if it cuts the text within a character; every round takes
a character. -/
def matchIndicesFrom (haystack needle : List Char) : ℕ → ℕ → Option (List ℕ)
  | 0, _ => none
  | fuel + 1, offset =>
    (getFrom offset haystack).bind fun slice =>
      match find needle slice with
      | none => some []
      | some index =>
        (getUpTo (offset + index) haystack).bind fun front =>
          (matchIndicesFrom haystack needle fuel (offset + index + textLen needle)).map
            (front.length :: ·)

def matchIndices (haystack needle : List Char) : Option (List ℕ) :=
  if needle = [] then some [] else matchIndicesFrom haystack needle (haystack.length + 1) 0

section Columns

variable {needle back : List Char}

theorem find_eq_none (hneedle : needle ≠ []) (h : find needle back = none) (q : ℕ) :
    ¬ needle <+: back.drop q := by
  induction back generalizing q with
  | nil =>
    rw [List.drop_nil, List.prefix_nil]
    exact hneedle
  | cons c rest ih =>
    rw [find] at h
    split_ifs at h with hprefix
    cases q with
    | zero => simpa using hprefix
    | succ q => exact ih (Option.map_eq_none_iff.mp h) q

theorem find_eq_some {index : ℕ} (h : find needle back = some index) : ∃ skipped rest,
    back = skipped ++ (needle ++ rest) ∧ textLen skipped = index ∧
      ∀ q < skipped.length, ¬ needle <+: back.drop q := by
  induction back generalizing index with
  | nil =>
    rw [find] at h
    split_ifs at h with hneedle
    obtain rfl := Option.some.inj h
    exact ⟨[], [], by rw [hneedle]; rfl, rfl, fun q hq => absurd hq (Nat.not_lt_zero q)⟩
  | cons c rest ih =>
    rw [find] at h
    split_ifs at h with hprefix
    · obtain ⟨rest', hrest⟩ := List.isPrefixOf_iff_prefix.mp hprefix
      obtain rfl := Option.some.inj h
      exact ⟨[], rest', hrest.symm, rfl, fun q hq => absurd hq (Nat.not_lt_zero q)⟩
    · obtain ⟨index, hindex, rfl⟩ := Option.map_eq_some_iff.mp h
      obtain ⟨skipped, rest', hrest, rfl, hfirst⟩ := ih hindex
      refine ⟨c :: skipped, rest', by rw [hrest, List.cons_append], ?_, fun q hq => ?_⟩
      · rw [textLen_cons, Nat.add_comm]
      · cases q with
        | zero => simpa using hprefix
        | succ q => exact hfirst q (Nat.lt_of_succ_lt_succ hq)

theorem matchIndicesFrom_leftmost (hneedle : needle ≠ []) (fuel : ℕ) (front back : List Char)
    (hfuel : back.length < fuel) : ∃ columns,
      matchIndicesFrom (front ++ back) needle fuel (textLen front) = some columns ∧
        Leftmost needle (front ++ back) front.length columns := by
  induction fuel generalizing front back with
  | zero => exact absurd hfuel (Nat.not_lt_zero _)
  | succ fuel ih =>
    have hdrop (q : ℕ) (hq : front.length ≤ q) :
        (front ++ back).drop q = back.drop (q - front.length) := by
      rw [List.drop_append, List.drop_of_length_le hq, List.nil_append]
    rw [matchIndicesFrom, getFrom_append, Option.bind_some]
    cases hfind : find needle back with
    | none =>
      refine ⟨[], rfl, .done fun q hq => ?_⟩
      rw [hdrop q hq]
      exact find_eq_none hneedle hfind _
    | some index =>
      obtain ⟨skipped, rest, rfl, rfl, hfirst⟩ := find_eq_some hfind
      have hpos := List.length_pos_iff.mpr hneedle
      simp only [List.length_append] at hfuel
      obtain ⟨columns, hcolumns, hleft⟩ := ih (front ++ skipped ++ needle) rest (by omega)
      have htext : front ++ (skipped ++ (needle ++ rest)) =
          front ++ skipped ++ needle ++ rest := by simp only [List.append_assoc]
      refine ⟨(front ++ skipped).length :: columns, ?_, .next ?_ ?_ ?_ ?_⟩
      · have hupTo := getUpTo_append (front ++ skipped) (needle ++ rest)
        rw [textLen_append, List.append_assoc] at hupTo
        simp only [hupTo, Option.bind_some]
        rw [textLen_append, textLen_append] at hcolumns
        rw [htext, hcolumns, Option.map_some]
      · rw [List.length_append]
        exact Nat.le_add_right ..
      · rw [← List.append_assoc, List.drop_left]
        exact List.prefix_append ..
      · intro q hq hlt
        rw [List.length_append] at hlt
        rw [hdrop q hq]
        exact hfirst _ (by omega)
      · rw [← List.length_append, htext]
        exact hleft

/-- **The columns** are those of the leftmost occurrences that do not overlap. -/
theorem matchIndices_leftmost (hneedle : needle ≠ []) (haystack : List Char) : ∃ columns,
    matchIndices haystack needle = some columns ∧ Leftmost needle haystack 0 columns := by
  rw [matchIndices, if_neg hneedle]
  exact matchIndicesFrom_leftmost hneedle _ [] haystack (Nat.lt_succ_self _)

end Columns

/-! ### The results -/

structure SessionSearchMatchPayload where
  lineIndex : ℕ
  columnIndex : ℕ
  lineText : List Char
deriving DecidableEq

structure SearchResult where
  found : List SessionSearchMatchPayload
  truncated : Bool
  lineCount : ℕ
deriving DecidableEq

def u32Max : ℕ := 2 ^ 32 - 1

def u16Max : ℕ := 2 ^ 16 - 1

/-- The indices as they fit into the message. -/
def SessionSearchMatchPayload.capped (m : SessionSearchMatchPayload) : SessionSearchMatchPayload :=
  { m with lineIndex := min m.lineIndex u32Max, columnIndex := min m.columnIndex u16Max }

def fold (tables : CaseTables) (caseSensitive : Bool) (text : List Char) : List Char :=
  if caseSensitive then text else tables.toLowercase text

/-- The loop over the columns of a line; `true` if there is no place for one. -/
def pushMatches (maxResults lineIndex : ℕ) (lineText : List Char) :
    List SessionSearchMatchPayload → List ℕ → List SessionSearchMatchPayload × Bool
  | found, [] => (found, false)
  | found, columnIndex :: columns =>
    if maxResults ≤ found.length then (found, true)
    else
      let m : SessionSearchMatchPayload := ⟨lineIndex, columnIndex, lineText⟩
      pushMatches maxResults lineIndex lineText (found ++ [m.capped]) columns

section Search

variable (tables : CaseTables) (caseSensitive : Bool) (needle : List Char)

/-- The loop over the lines. -/
def searchLines (maxResults : ℕ) :
    ℕ → List SessionSearchMatchPayload → List (List Char) →
      Option (List SessionSearchMatchPayload × Bool)
  | _, found, [] => some (found, false)
  | lineIndex, found, lineText :: lines =>
    (matchIndices (fold tables caseSensitive lineText) needle).bind fun columns =>
      match pushMatches maxResults lineIndex lineText found columns with
      | (found, true) => some (found, true)
      | (found, false) => searchLines maxResults (lineIndex + 1) found lines

end Search

/-- `SessionOutputHistory::search` -/
def TerminalScreen.search (s : TerminalScreen) (tables : CaseTables) (query : List Char)
    (caseSensitive : Bool) (maxResults : UInt16) : Option SearchResult :=
  let lines := s.snapshotPlainLines
  (searchLines tables caseSensitive (fold tables caseSensitive query) maxResults.toNat 0 []
    lines).map fun (found, truncated) => ⟨found, truncated, min lines.length u32Max⟩

/-! ### All matches -/

def lineMatches (lineIndex : ℕ) (lineText : List Char) (columns : List ℕ) :
    List SessionSearchMatchPayload :=
  columns.map fun columnIndex => ⟨lineIndex, columnIndex, lineText⟩

/-- The matches of all lines, from the columns of each line. -/
def allMatches : ℕ → List (List Char) → List (List ℕ) → List SessionSearchMatchPayload
  | lineIndex, lineText :: lines, columns :: rest =>
    lineMatches lineIndex lineText columns ++ allMatches (lineIndex + 1) lines rest
  | _, _, _ => []

/-- The columns of each line are those of the leftmost occurrences. -/
def IsScan (tables : CaseTables) (caseSensitive : Bool) (needle : List Char)
    (lines : List (List Char)) (columns : List (List ℕ)) : Prop :=
  List.Forall₂ (fun line columns => Leftmost needle (fold tables caseSensitive line) 0 columns)
    lines columns

/-- **The results point at matches**, in the lines as they are, and nothing is left out unseen. -/
structure Points (tables : CaseTables) (lines : List (List Char)) (query : List Char)
    (caseSensitive : Bool) (maxResults : ℕ) (result : SearchResult) : Prop where
  lineText_eq : ∀ m ∈ result.found, lines[m.lineIndex]? = some m.lineText
  occurs : ∀ m ∈ result.found, fold tables caseSensitive query <+:
    fold tables caseSensitive (m.lineText.drop m.columnIndex)
  truncated_iff : ∃ columns,
    IsScan tables caseSensitive (fold tables caseSensitive query) lines columns ∧
      (caseSensitive = true → result.found = (allMatches 0 lines columns).take maxResults) ∧
      (result.truncated = true ↔ result.found.length < (allMatches 0 lines columns).length)

section Spec

variable {tables : CaseTables} {caseSensitive : Bool} {needle lineText : List Char}
  {lines : List (List Char)} {maxResults lineIndex : ℕ} {found : List SessionSearchMatchPayload}

@[simp] theorem length_lineMatches (columns : List ℕ) :
    (lineMatches lineIndex lineText columns).length = columns.length := List.length_map ..

theorem pushMatches_eq (columns : List ℕ) (hfound : found.length ≤ maxResults) :
    pushMatches maxResults lineIndex lineText found columns =
      ((found ++ (lineMatches lineIndex lineText columns).map
          SessionSearchMatchPayload.capped).take maxResults,
        decide (maxResults < found.length + columns.length)) := by
  induction columns generalizing found with
  | nil =>
    rw [pushMatches, lineMatches, List.map_nil, List.map_nil, List.append_nil,
      List.take_of_length_le hfound, List.length_nil, Nat.add_zero,
      decide_eq_false (Nat.not_lt.mpr hfound)]
  | cons columnIndex columns ih =>
    rw [pushMatches, lineMatches]
    by_cases hfull : maxResults ≤ found.length
    · have hlen : found.length = maxResults := Nat.le_antisymm hfound hfull
      rw [if_pos hfull, List.take_append_of_le_length hlen.ge, ← hlen, List.take_length,
        List.length_cons, decide_eq_true (by omega)]
    · have hnext (m : SessionSearchMatchPayload) : (found ++ [m]).length = found.length + 1 := by
        rw [List.length_append, List.length_singleton]
      rw [if_neg hfull]
      simp only
      rw [ih (by rw [hnext]; omega), List.append_assoc, List.singleton_append, List.map_cons,
        List.map_cons, hnext, List.length_cons, Nat.add_assoc, Nat.add_comm 1]
      rfl

theorem searchLines_eq (hneedle : needle ≠ []) {columns : List (List ℕ)}
    (hscan : IsScan tables caseSensitive needle lines columns) (hfound : found.length ≤ maxResults) :
    searchLines tables caseSensitive needle maxResults lineIndex found lines =
      some ((found ++ (allMatches lineIndex lines columns).map
          SessionSearchMatchPayload.capped).take maxResults,
        decide (maxResults < found.length + (allMatches lineIndex lines columns).length)) := by
  induction hscan generalizing lineIndex found with
  | nil =>
    rw [searchLines, allMatches, List.map_nil, List.append_nil, List.take_of_length_le hfound,
      List.length_nil, Nat.add_zero, decide_eq_false (Nat.not_lt.mpr hfound)]
    exact fun _ _ _ _ h => by cases h
  | @cons line first lines columns hfirst hrest ih =>
    obtain ⟨columns', hcolumns', hleft⟩ :=
      matchIndices_leftmost hneedle (fold tables caseSensitive line)
    obtain rfl := hleft.unique hfirst
    have hlen : (found ++ (lineMatches lineIndex line columns').map
        SessionSearchMatchPayload.capped).length = found.length + columns'.length := by
      rw [List.length_append, List.length_map, length_lineMatches]
    rw [searchLines, hcolumns', Option.bind_some, pushMatches_eq columns' hfound, allMatches,
      List.map_append, ← List.append_assoc, List.length_append, length_lineMatches,
      ← Nat.add_assoc, ← hlen]
    by_cases hfull : maxResults < (found ++ (lineMatches lineIndex line columns').map
        SessionSearchMatchPayload.capped).length
    · rw [decide_eq_true hfull, decide_eq_true (by omega),
        List.take_append_of_le_length (Nat.le_of_lt hfull)]
    · have hfits := Nat.not_lt.mp hfull
      rw [decide_eq_false hfull, List.take_of_length_le hfits]
      exact ih hfits

theorem exists_isScan (hneedle : needle ≠ []) (lines : List (List Char)) :
    ∃ columns, IsScan tables caseSensitive needle lines columns := by
  induction lines with
  | nil => exact ⟨[], .nil⟩
  | cons line lines ih =>
    obtain ⟨first, -, hfirst⟩ := matchIndices_leftmost hneedle (fold tables caseSensitive line)
    obtain ⟨columns, hcolumns⟩ := ih
    exact ⟨first :: columns, .cons hfirst hcolumns⟩

variable (tables caseSensitive) in
theorem fold_ne_nil {query : List Char} (hquery : query ≠ []) :
    fold tables caseSensitive query ≠ [] := by
  cases query with
  | nil => exact absurd rfl hquery
  | cons c query =>
    cases caseSensitive with
    | true => exact List.cons_ne_nil c query
    | false =>
      rw [fold, if_neg Bool.false_ne_true, CaseTables.toLowercase, CaseTables.lowerFrom,
        CaseTables.lowerIn, CaseTables.toLower]
      split_ifs <;> exact List.cons_ne_nil _ _

/-- **What is returned**: the first matches, capped, and whether there are more. -/
theorem search_spec (s : TerminalScreen) {query : List Char} (hquery : query ≠ [])
    (maxResults : UInt16) {columns : List (List ℕ)}
    (hscan : IsScan tables caseSensitive (fold tables caseSensitive query) s.snapshotPlainLines
      columns) :
    s.search tables query caseSensitive maxResults = some
      { found := ((allMatches 0 s.snapshotPlainLines columns).take maxResults.toNat).map
          SessionSearchMatchPayload.capped
        truncated := maxResults.toNat < (allMatches 0 s.snapshotPlainLines columns).length
        lineCount := min s.snapshotPlainLines.length u32Max } := by
  simp only [TerminalScreen.search]
  rw [searchLines_eq (fold_ne_nil tables caseSensitive hquery) hscan (Nat.zero_le _), List.nil_append, List.length_nil,
    Nat.zero_add, List.map_take]
  rfl

/-! ### The matches of a line -/

theorem mem_allMatches {start : ℕ} {columns : List (List ℕ)}
    (hscan : IsScan tables caseSensitive needle lines columns) {m : SessionSearchMatchPayload} :
    m ∈ allMatches start lines columns → start ≤ m.lineIndex ∧
      lines[m.lineIndex - start]? = some m.lineText ∧
      needle <+: (fold tables caseSensitive m.lineText).drop m.columnIndex := by
  induction hscan generalizing start with
  | nil =>
    intro hm
    rw [allMatches] at hm
    · cases hm
    · exact fun _ _ _ _ h => by cases h
  | @cons line first lines columns hfirst hrest ih =>
    intro hm
    rw [allMatches, List.mem_append] at hm
    rcases hm with hm | hm
    · obtain ⟨column, hcolumn, rfl⟩ := List.mem_map.mp hm
      exact ⟨le_rfl, by simp, hfirst.prefix_drop column hcolumn⟩
    · obtain ⟨hstart, hline, hfound⟩ := ih hm
      refine ⟨Nat.le_of_succ_le hstart, ?_, hfound⟩
      have hindex : m.lineIndex - start = m.lineIndex - (start + 1) + 1 := by omega
      rw [hindex, List.getElem?_cons_succ, hline]

/-- A single character has a match wherever it stands. -/
theorem exists_mem_allMatches {c : Char} (start : ℕ) {columns : List (List ℕ)}
    (hscan : IsScan tables caseSensitive [c] lines columns) (hline : lineText ∈ lines) {p : ℕ}
    (hp : [c] <+: (fold tables caseSensitive lineText).drop p) :
    ∃ i, ⟨i, p, lineText⟩ ∈ allMatches start lines columns := by
  induction hscan generalizing start with
  | nil => cases hline
  | @cons line first lines columns hfirst hrest ih =>
    rw [allMatches]
    rcases List.mem_cons.mp hline with rfl | hline
    · have hmem := hfirst.mem_of_singleton (Nat.zero_le p) hp
      exact ⟨start, List.mem_append_left _ (List.mem_map.mpr ⟨p, hmem, rfl⟩)⟩
    · obtain ⟨i, hi⟩ := @ih (start + 1) hline
      exact ⟨i, List.mem_append_right _ hi⟩

theorem length_allMatches_le {c : Char} {start : ℕ} {columns : List (List ℕ)}
    (hscan : IsScan tables false [c] lines columns) :
    (allMatches start lines columns).length ≤ lines.flatten.length := by
  induction hscan generalizing start with
  | nil =>
    rw [allMatches]
    · rfl
    · exact fun _ _ _ _ h => by cases h
  | @cons line first lines columns hfirst hrest ih =>
    have hcount : first.length ≤ line.length :=
      hfirst.length_le_count.trans (CaseTables.count_toLowercase_le line c)
    have hlines := @ih (start + 1)
    rw [allMatches, List.length_append, length_lineMatches, List.flatten_cons, List.length_append]
    omega

end Spec

/-! ### Queries -/

/-- `char::is_control` -/
def isControl (c : Char) : Bool := c.toNat < 0x20 || 0x7f ≤ c.toNat && c.toNat < 0xa0

/-- A text that is not empty, has no control characters and no blanks at its ends. -/
def IsQuery (query : List Char) : Prop := query ≠ [] ∧ trim query = query ∧ query.any isControl = false

instance (query : List Char) : Decidable (IsQuery query) := inferInstanceAs (Decidable (_ ∧ _))

/-! ### When the results point at matches -/

section Points

variable {tables : CaseTables} {s : TerminalScreen}

theorem TerminalLine.length_plainText_le (line : TerminalLine) :
    line.plainText.length ≤ line.cells.length := by
  have hprefix := (List.rdropWhile_prefix (p := (· = ' '))
    (l := (line.cells.filter fun cell => !cell.wideContinuation).map
      TerminalCell.character)).length_le
  rw [List.length_map] at hprefix
  exact hprefix.trans (List.length_filter_le ..)

theorem length_le_of_mem_snapshotPlainLines (hsound : s.Sound) {line : List Char}
    (hline : line ∈ s.snapshotPlainLines) : line.length ≤ u16Max := by
  rw [TerminalScreen.snapshotPlainLines] at hline
  split at hline
  · cases hline
  · obtain ⟨terminalLine, hmem, rfl⟩ := List.mem_map.mp hline
    have hcells := (hsound.lines_sound _ (List.mem_of_mem_drop (List.mem_of_mem_take hmem))).length_eq
    have hlen := terminalLine.length_plainText_le
    have hcols := hsound.registers.cols_le
    rw [hcells] at hlen
    exact hlen.trans hcols

theorem length_snapshotPlainLines_le (hsound : s.Sound) :
    s.snapshotPlainLines.length ≤ s.maxCachedLines := by
  have hlines : s.lines.length ≤ s.maxCachedLines := by
    have hle := hsound.lines_le
    have hrows := hsound.rows_le_max
    rw [TerminalScreen.maxLines] at hle
    split_ifs at hle <;> omega
  rw [TerminalScreen.snapshotPlainLines]
  split
  · exact Nat.zero_le _
  · rw [List.length_map]
    exact ((List.take_sublist _ _).trans (List.drop_sublist _ _)).length_le.trans hlines

theorem points_of_lowersEach (hsound : s.Sound) (hcache : s.maxCachedLines ≤ u32Max)
    {query : List Char} (hquery : query ≠ []) {caseSensitive : Bool}
    (h : caseSensitive = true ∨ ∀ line ∈ s.snapshotPlainLines, LowersEach tables line)
    (maxResults : UInt16) : ∃ result,
      s.search tables query caseSensitive maxResults = some result ∧
        Points tables s.snapshotPlainLines query caseSensitive maxResults.toNat result := by
  obtain ⟨columns, hscan⟩ := exists_isScan (fold_ne_nil tables caseSensitive
    hquery) s.snapshotPlainLines
  refine ⟨_, search_spec s hquery maxResults hscan, ?_⟩
  -- the lower case of the rest of a line is the rest of its lower case
  have hdrop (line : List Char) (hline : line ∈ s.snapshotPlainLines) (p : ℕ) :
      (fold tables caseSensitive line).drop p = fold tables caseSensitive (line.drop p) ∧
        (fold tables caseSensitive line).length = line.length := by
    cases caseSensitive with
    | true => exact ⟨rfl, rfl⟩
    | false =>
      have hlowers := h.resolve_left Bool.false_ne_true line hline
      exact ⟨(hlowers.toLowercase_drop p).symm, hlowers.length_toLowercase⟩
  have hmem (m : SessionSearchMatchPayload)
      (hm : m ∈ allMatches 0 s.snapshotPlainLines columns) :
      m.capped = m ∧ s.snapshotPlainLines[m.lineIndex]? = some m.lineText ∧
        fold tables caseSensitive query <+:
          fold tables caseSensitive (m.lineText.drop m.columnIndex) := by
    obtain ⟨-, hline, hfound⟩ := mem_allMatches hscan hm
    rw [Nat.sub_zero] at hline
    have hin := List.mem_of_getElem? hline
    obtain ⟨hrest, hlen⟩ := hdrop m.lineText hin m.columnIndex
    refine ⟨?_, hline, hrest ▸ hfound⟩
    have hcolumn := hfound.length_le
    have hpos := List.length_pos_iff.mpr (fold_ne_nil tables caseSensitive
      hquery)
    have hcolumns := length_le_of_mem_snapshotPlainLines hsound hin
    have hlines := length_snapshotPlainLines_le hsound
    have hindex := (List.getElem?_eq_some_iff.mp hline).1
    rw [List.length_drop, hlen] at hcolumn
    rw [SessionSearchMatchPayload.capped, Nat.min_eq_left (by omega), Nat.min_eq_left (by omega)]
  have hcapped : ((allMatches 0 s.snapshotPlainLines columns).take maxResults.toNat).map
      SessionSearchMatchPayload.capped =
        (allMatches 0 s.snapshotPlainLines columns).take maxResults.toNat :=
    (List.map_congr_left fun m hm => (hmem m (List.mem_of_mem_take hm)).1).trans (List.map_id _)
  rw [hcapped]
  constructor
  · exact fun m hm => (hmem m (List.mem_of_mem_take hm)).2.1
  · exact fun m hm => (hmem m (List.mem_of_mem_take hm)).2.2
  · refine ⟨columns, hscan, fun _ => rfl, ?_⟩
    rw [decide_eq_true_iff, List.length_take]
    omega

/-- The results point at matches for every query and every number of results. -/
def PointsAlways (tables : CaseTables) (s : TerminalScreen) (caseSensitive : Bool) : Prop :=
  ∀ query (maxResults : UInt16), IsQuery query → 1 ≤ maxResults → ∃ result,
    s.search tables query caseSensitive maxResults = some result ∧
      Points tables s.snapshotPlainLines query caseSensitive maxResults.toNat result

/-- A character that is lowered to itself is found where it stands in the lower case of a line. -/
theorem prefix_drop_of_points (hsmall : s.snapshotPlainLines.flatten.length ≤ u16Max)
    (h : PointsAlways tables s false) {c : Char} (hc : IsQuery [c])
    (hlower : tables.toLowercase [c] = [c]) {line : List Char} (hline : line ∈ s.snapshotPlainLines)
    {p : ℕ} (hp : [c] <+: (tables.toLowercase line).drop p) :
    [c] <+: tables.toLowercase (line.drop p) := by
  obtain ⟨columns, hscan⟩ := exists_isScan (fold_ne_nil tables false hc.1) s.snapshotPlainLines
  obtain ⟨result, hsearch, hpoints⟩ := h [c] 65535 hc (by decide)
  rw [search_spec s hc.1 _ hscan] at hsearch
  obtain rfl := Option.some.inj hsearch
  have hneedle : fold tables false [c] = [c] := hlower
  rw [hneedle] at hscan
  obtain ⟨i, hi⟩ := exists_mem_allMatches 0 hscan hline hp
  have hall : (allMatches 0 s.snapshotPlainLines columns).length ≤ (65535 : UInt16).toNat :=
    (length_allMatches_le hscan).trans hsmall
  rw [← List.take_of_length_le hall] at hi
  have hoccurs := hpoints.occurs _ (List.mem_map_of_mem (f := SessionSearchMatchPayload.capped) hi)
  have hfold : [c] <+: tables.toLowercase (line.drop (min p u16Max)) := hlower ▸ hoccurs
  by_cases hcap : p ≤ u16Max
  · rwa [Nat.min_eq_left hcap] at hfold
  · -- the capped column is behind the end of the line
    have hlen : line.length ≤ u16Max :=
      (List.sublist_flatten_of_mem hline).length_le.trans hsmall
    rw [Nat.min_eq_right (by omega), List.drop_of_length_le hlen] at hfold
    cases List.prefix_nil.mp hfold

/-- **The search points at matches** if it regards case, and without regard to case if every line is
lowered letter by letter. On a screen that has no more characters than there can be results, other
lines are found out. -/
theorem search_points (tables : CaseTables) (s : TerminalScreen) (hsound : s.Sound)
    (hcache : s.maxCachedLines ≤ u32Max) :
    PointsAlways tables s true ∧
      ((∀ line ∈ s.snapshotPlainLines, LowersEach tables line) → PointsAlways tables s false) ∧
      (s.snapshotPlainLines.flatten.length ≤ u16Max → PointsAlways tables s false →
        ∀ line ∈ s.snapshotPlainLines, LowersEach tables line) := by
  refine ⟨fun query maxResults hquery _ => ?_, fun h query maxResults hquery _ => ?_, ?_⟩
  · exact points_of_lowersEach hsound hcache hquery.1 (.inl rfl) maxResults
  · exact points_of_lowersEach hsound hcache hquery.1 (.inr h) maxResults
  · intro hsmall h line hline
    refine CaseTables.lowersEach_of_drop fun c hc p hp => ?_
    rcases List.mem_cons.mp hc with rfl | hc
    · exact prefix_drop_of_points hsmall h (by decide) tables.toLowercase_dot hline hp
    · obtain rfl := List.mem_singleton.mp hc
      exact prefix_drop_of_points hsmall h (by decide) tables.toLowercase_finalSigma hline hp

end Points

/-! ### A line that is not lowered letter by letter -/

/-- The tables as far as the letters of ASCII go. -/
def asciiTables : CaseTables where
  lower c := if 'A' ≤ c ∧ c ≤ 'Z' then Char.ofNat (c.toNat + 32) else c
  isCased c := ('a' ≤ c && c ≤ 'z') || ('A' ≤ c && c ≤ 'Z')
  isCaseIgnorable c := c = '.' || c = ':'
  lower_dot := by decide
  lower_finalSigma := by decide

def narrow : Char → Option (Fin 3) := fun _ => some 1

/-- A screen after some output. -/
def shown (bytes : List UInt8) : TerminalScreen :=
  ((TerminalScreen.new 1 4).apply narrow bytes).getD (.new 1 4)

theorem shown_sound (bytes : List UInt8) : (shown bytes).Sound := by
  obtain ⟨s, hs, hsteady, -⟩ :=
    TerminalScreen.apply_spec narrow (TerminalScreen.new_steady 1 4) bytes
  rw [shown, hs]
  exact hsteady.sound

/-- The dot of `İ` shifts the column of what follows. -/
theorem search_drifts : ¬ ∀ (tables : CaseTables) (s : TerminalScreen), s.Sound →
    s.maxCachedLines ≤ u32Max → PointsAlways tables s false := by
  intro h
  have hcache : (shown (encodeText ['İ', 'x'])).maxCachedLines ≤ u32Max := by decide +kernel
  obtain ⟨result, hsearch, hpoints⟩ :=
    h asciiTables _ (shown_sound (encodeText ['İ', 'x'])) hcache ['x'] 80 (by decide) (by decide)
  have hresult : (shown (encodeText ['İ', 'x'])).search asciiTables ['x'] false 80 =
      some ⟨[⟨0, 2, ['İ', 'x']⟩], false, 1⟩ := by decide +kernel
  obtain rfl := Option.some.inj (hresult.symm.trans hsearch)
  have hoccurs := hpoints.occurs _ List.mem_cons_self
  revert hoccurs
  decide

/-- A line of ASCII is lowered letter by letter. -/
theorem search_points_ascii : PointsAlways asciiTables (shown (encodeText ['A', 'b', 'a'])) false := by
  have hcache : (shown (encodeText ['A', 'b', 'a'])).maxCachedLines ≤ u32Max := by decide +kernel
  have hlines : (shown (encodeText ['A', 'b', 'a'])).snapshotPlainLines = [['A', 'b', 'a']] := by
    decide +kernel
  refine (search_points asciiTables _ (shown_sound _) hcache).2.1 fun line hline => ?_
  rw [hlines, List.mem_singleton] at hline
  subst hline
  simp [CaseTables.LowersEach, CaseTables.LowersEachFrom]

end Termd.Screen
