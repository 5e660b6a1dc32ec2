import Termd.Screen.Replay

/-!
# The size of a snapshot

A screen that was only sent the beginning of an operating system command shows nothing, however long
the command is, and its snapshot stays small. A row that is full of characters takes at least as
many bytes as it has cells. The record of a command is cut off at its limit, and a copy that reads
the record may see a command that ends where the original does not.

## Main results

* `TerminalScreen.apply_osc`: the bytes of a command are swallowed
* `TerminalScreen.length_snapshotBytes_of_unused`: the snapshot of a screen that shows nothing
* `TerminalScreen.le_length_snapshotBytes`: the snapshot of a screen with a full row
-/

namespace Termd.Screen

namespace TerminalScreen

variable (width : Char → Option (Fin 3)) {s : TerminalScreen}

theorem apply_append (bytes bytes' : List UInt8) :
    s.apply width (bytes ++ bytes') = (s.apply width bytes).bind fun t => t.apply width bytes' := by
  induction bytes generalizing s with
  | nil => rfl
  | cons byte bytes ih =>
    simp only [List.cons_append, apply]
    cases s.applyByte width byte with
    | none => rfl
    | some t => exact ih

theorem foldl_pushControl (bytes : List UInt8) {control : List UInt8}
    (h : control.length ≤ maxPendingControlBytes) :
    bytes.foldl pushControl control = (control ++ bytes).take maxPendingControlBytes := by
  induction bytes generalizing control with
  | nil => rw [List.foldl_nil, List.append_nil, List.take_of_length_le h]
  | cons byte bytes ih =>
    rw [List.foldl_cons, pushControl]
    split
    case isTrue hlt =>
      rw [ih (by rw [List.length_append, List.length_singleton]; omega), List.append_assoc]
      rfl
    case isFalse hge =>
      have hfull : control.length = maxPendingControlBytes := by omega
      rw [ih h, ← hfull, List.take_left, List.take_left]

/-- **The bytes of a command are swallowed**: only the beginning is recorded. -/
theorem apply_osc (hparser : s.parser = .osc) {bytes : List UInt8}
    (hbytes : ∀ byte ∈ bytes, byte ≠ 0x07 ∧ byte ≠ 0x1b) :
    s.apply width bytes =
      some { s with pendingControl := bytes.foldl pushControl s.pendingControl } := by
  induction bytes generalizing s with
  | nil => rfl
  | cons byte bytes ih =>
    obtain ⟨hbell, hescape⟩ := hbytes byte List.mem_cons_self
    have hbyte : s.applyByte width byte = some (s.pushPendingControlByte byte) := by
      simp only [applyByte, hparser, if_neg hbell, if_neg hescape, pushPendingControlByte]
      rw [← hparser]
    rw [apply, hbyte]
    exact ih (s := s.pushPendingControlByte byte) hparser
      fun b hb => hbytes b (List.mem_cons_of_mem _ hb)

/-- A screen that shows nothing and differs from a new one at most in an unfinished sequence. -/
structure Unused (s : TerminalScreen) : Prop where
  normal_eq : s.normalScreen = none
  state_eq : s.needsStateRestore = false
  lines_eq : snapshotLineBounds s.lines s.rows = none

theorem blank_not_inUse (index cols : ℕ) : (TerminalLine.blank index cols false).inUse = false := by
  have hblank : (TerminalLine.blank index cols false).isBlank = true := by
    refine List.all_eq_true.mpr fun cell hcell => ?_
    rw [List.eq_of_mem_replicate hcell]
    rfl
  rw [TerminalLine.inUse, hblank]
  rfl

theorem new_unused (rows cols : UInt16) : (new rows cols).Unused := by
  refine ⟨rfl, ?_, ?_⟩
  · simp [needsStateRestore, new, withMaxCachedLines, CellStyle.isDefault]
  · have hnone : (new rows cols).lines.findIdx? TerminalLine.inUse = none := by
      rw [List.findIdx?_eq_none_iff]
      intro line hline
      obtain ⟨index, -, rfl⟩ := List.mem_map.mp hline
      exact blank_not_inUse ..
    rw [snapshotLineBounds, hnone]
    rfl

/-- **The snapshot of a screen that shows nothing** is small. -/
theorem length_snapshotBytes_of_unused (h : s.Unused) :
    s.snapshotBytes.length ≤ 64 + s.pendingControl.length + s.utf8Pending.length := by
  have hstate := h.state_eq
  simp only [needsStateRestore, Bool.or_eq_false_iff, bne_eq_false_iff_eq, Bool.not_eq_false',
    Option.isSome_eq_false_iff, Option.isNone_iff_eq_none] at hstate
  obtain ⟨⟨⟨⟨⟨⟨hrow, hcol⟩, hsaved⟩, hstyle⟩, hmodes⟩, htop⟩, hbottom⟩ := hstate
  have hbytes : (snapshotStateBytes s.save s.rows s.cols).length ≤ 64 := by
    simp only [snapshotStateBytes, save, h.lines_eq, hmodes, htop, hbottom, hsaved, hrow, hcol, hstyle,
      scrollRegionBytes, savedCursorRestoreBytes, cursorPositionBytes, if_true, and_self,
      Nat.zero_min]
    decide
  rw [snapshotBytes]
  split
  · exact Nat.zero_le _
  · rw [h.normal_eq]
    simp only [List.length_append, List.length_nil]
    omega

/-! ### A lower bound -/

theorem length_le_cellsAnsiBytes {cells : List TerminalCell}
    (h : ∀ cell ∈ cells, cell.wideContinuation = false) (active : CellStyle) :
    cells.length ≤ (cellsAnsiBytes active cells).length := by
  induction cells generalizing active with
  | nil => exact Nat.zero_le _
  | cons cell rest ih =>
    have hrest := ih (fun c hc => h c (List.mem_cons_of_mem _ hc)) cell.style
    have hchar : 1 ≤ (encodeUtf8 cell.character).length := by
      simp only [encodeUtf8]
      split_ifs <;> simp
    rw [cellsAnsiBytes, if_neg (by simp [h cell List.mem_cons_self]), List.length_append,
      List.length_append, List.length_cons]
    omega

theorem length_le_rowsAnsiBytes {lines : List TerminalLine} {line : TerminalLine}
    (h : line ∈ lines) : (rowAnsiBytes line).length ≤ (rowsAnsiBytes lines).length := by
  induction lines with
  | nil => exact absurd h List.not_mem_nil
  | cons row rows ih =>
    by_cases hrows : rows = []
    · rw [hrows, List.mem_singleton] at h
      rw [hrows, h, rowsAnsiBytes]
    · rw [View.rowsAnsiBytes_cons row hrows, ← rowAnsiBytes_eq, List.length_append,
        List.length_append]
      rcases List.mem_cons.mp h with rfl | hmem
      · omega
      · have hle := ih hmem
        omega

/-- Every visible line in use is written. -/
theorem mem_writtenLines {lines : List TerminalLine} {rows : ℕ} {line : TerminalLine}
    (hline : line ∈ window rows lines) (huse : line.inUse = true) : line ∈ writtenLines lines rows := by
  rw [writtenLines]
  split
  case h_1 hnone =>
    -- then no line is in use
    have hfind : lines.findIdx? TerminalLine.inUse = none := by
      simp only [snapshotLineBounds, Option.bind_eq_bind, Option.bind_eq_none_iff] at hnone
      exact Option.eq_none_iff_forall_ne_some.mpr fun first hfirst =>
        Option.some_ne_none _ (hnone first hfirst)
    have hunused := List.findIdx?_eq_none_iff.mp hfind line (List.mem_of_mem_drop hline)
    rw [huse] at hunused
    cases hunused
  case h_2 start stop hbounds =>
    obtain ⟨first, last, -, hlast, -, -, rfl, rfl⟩ := snapshotLineBounds_eq_some hbounds
    obtain ⟨-, -, -, hrest⟩ := rposition_eq_some hlast
    obtain ⟨index, hindex⟩ := List.mem_iff_getElem?.mp hline
    rw [window, List.getElem?_drop] at hindex
    have hle : lines.length - rows + index ≤ last := by
      by_contra hgt
      have hmem : line ∈ lines.drop (last + 1) := by
        refine List.mem_iff_getElem?.mpr ⟨lines.length - rows + index - (last + 1), ?_⟩
        rw [List.getElem?_drop, ← hindex]
        congr 1
        omega
      rw [hrest line hmem] at huse
      cases huse
    refine List.mem_iff_getElem?.mpr
      ⟨lines.length - rows + index - min (lines.length - rows) first, ?_⟩
    rw [List.getElem?_take_of_lt (by omega), List.getElem?_drop, ← hindex]
    congr 1
    omega

/-- A line without a blank cell. -/
structure Full (line : TerminalLine) : Prop where
  ne_nil : line.cells ≠ []
  shown : ∀ cell ∈ line.cells, cell.character ≠ ' '
  single : ∀ cell ∈ line.cells, cell.wideContinuation = false

theorem Full.displayWidth_eq {line : TerminalLine} (h : Full line) :
    line.displayWidth = line.cells.length := by
  rw [TerminalLine.displayWidth]
  split
  case h_1 index hindex =>
    obtain ⟨cell, hcell, -, hrest⟩ := rposition_eq_some hindex
    have hlt := (List.getElem?_eq_some_iff.mp hcell).1
    by_contra hne
    obtain ⟨next, hnext⟩ := List.exists_mem_of_length_pos
      (l := line.cells.drop (index + 1)) (by rw [List.length_drop]; omega)
    have := hrest next hnext
    simp [h.shown next (List.mem_of_mem_drop hnext)] at this
  case h_2 hnone =>
    obtain ⟨cell, hcell⟩ := List.exists_mem_of_ne_nil _ h.ne_nil
    have := rposition_eq_none_iff.mp hnone cell hcell
    simp [h.shown cell hcell] at this

theorem Full.inUse {line : TerminalLine} (h : Full line) : line.inUse = true := by
  obtain ⟨cell, hcell⟩ := List.exists_mem_of_ne_nil _ h.ne_nil
  have hblank : line.isBlank = false := by
    rw [TerminalLine.isBlank, List.all_eq_false]
    exact ⟨cell, hcell, by simp [TerminalCell.isBlankDefault, h.shown cell hcell]⟩
  rw [TerminalLine.inUse, hblank, Bool.not_false, Bool.or_true]

/-- **The snapshot of a screen with a full row** has more bytes than the row has cells. -/
theorem le_length_snapshotBytes {line : TerminalLine} (hline : line ∈ window s.rows s.lines)
    (hfull : Full line) : line.cells.length + 2 ≤ s.snapshotBytes.length := by
  have hwritten := mem_writtenLines hline hfull.inUse
  have hbounds : ¬snapshotLineBounds s.lines s.rows = none := by
    intro hnone
    rw [writtenLines, hnone] at hwritten
    exact List.not_mem_nil hwritten
  have hrow : line.cells.length ≤ (rowAnsiBytes line).length := by
    rw [rowAnsiBytes_eq, TerminalLine.shown, hfull.displayWidth_eq, List.take_length]
    exact length_le_cellsAnsiBytes hfull.single {}
  have hrows := length_le_rowsAnsiBytes hwritten
  have hstate : 2 ≤ s.save.modes.restoreBytes.length := by
    simp only [TerminalModes.restoreBytes, csiBytes, List.length_append, List.length_cons]
    omega
  rw [snapshotBytes, if_neg fun hnew => hbounds hnew.2.2.2.2, snapshotStateBytes_eq]
  simp only [List.length_append, View.stateBytes]
  change line.cells.length + 2 ≤ _ + ((rowsAnsiBytes (writtenLines s.lines s.rows)).length + _) + _ + _
  omega

end TerminalScreen

/-! ### A row that is filled -/

namespace View

variable (width : Char → Option (Fin 3)) {v : View}

/-- **Letters** are printed one after another, as long as they fit. -/
theorem Filled.apply_letters (hwidth : terminalCharacterWidth width 'a' = 1) (n : ℕ)
    {done : List (List TerminalCell)} {cells : List TerminalCell} (h : v.Filled done cells)
    (hstyle : v.currentStyle = {}) (hfit : cells.length + n ≤ v.cols) :
    (v.apply width (List.replicate n 0x61)).Filled done
        (cells ++ List.replicate n ⟨'a', {}, false⟩) ∧
      v.Redraws (v.apply width (List.replicate n 0x61)) := by
  induction n generalizing v cells with
  | zero =>
    rw [List.replicate_zero, List.replicate_zero, List.append_nil]
    exact ⟨h, Redraws.refl v⟩
  | succ n ih =>
    have hread : v.apply width [0x61] = v.printChar width 'a' :=
      apply_encodeUtf8 width h.tape.idle (c := 'a') (by decide)
    have hprint := h.printChar width 'a' (by omega)
    have hredraws : v.Redraws (v.printChar width 'a') := redraws_printChar width 'a'
    rw [hwidth, hstyle] at hprint
    obtain ⟨hfilled, hredraws'⟩ := ih hprint
      ((printChar_currentStyle width 'a').trans hstyle)
      (by rw [hredraws.cols_eq, List.length_append]; change _ + 1 + n ≤ _; omega)
    rw [List.replicate_succ, List.replicate_succ, ← List.singleton_append, apply_append, hread]
    refine ⟨?_, hredraws.trans hredraws'⟩
    rw [List.append_assoc] at hfilled
    exact hfilled

theorem Filled.mem_grid {done : List (List TerminalCell)} {cells : List TerminalCell}
    (h : v.Filled done cells) (hlen : cells.length = v.cols) : cells ∈ v.grid := by
  have hgrid := h.tape.grid_eq
  rw [hlen, Nat.sub_self, List.replicate_zero, List.append_nil] at hgrid
  rw [hgrid]
  exact List.mem_append_right _ List.mem_cons_self

/-- Null bytes do nothing. -/
theorem apply_nulls (n : ℕ) (h : v.Idle) : v.apply width (List.replicate n 0x00) = v := by
  induction n with
  | zero => rfl
  | succ n ih =>
    have hnull : v.applyByte width 0x00 = v := by
      rw [applyByte_text width h.ground (by decide)]
      exact flushInvalidUtf8_of_idle width h
    rw [List.replicate_succ, apply_cons, hnull, ih]

end View

/-- **The snapshot of a screen with a row of letters**, by what the screen shows. -/
theorem TerminalScreen.le_length_of_letters {s : TerminalScreen} {n : ℕ} (hn : 0 < n)
    (h : List.replicate n ⟨'a', {}, false⟩ ∈ s.view.grid) : n + 2 ≤ s.snapshotBytes.length := by
  obtain ⟨line, hline, hcells⟩ := List.mem_map.mp h
  have hcell : ∀ cell ∈ line.cells, cell = ⟨'a', {}, false⟩ := by
    rw [hcells]
    exact fun cell hcell => List.eq_of_mem_replicate hcell
  have hfull : Full line := by
    refine ⟨?_, fun cell hmem => ?_, fun cell hmem => ?_⟩
    · rw [hcells, ne_eq, List.replicate_eq_nil_iff]
      omega
    · rw [hcell cell hmem]
      decide
    · rw [hcell cell hmem]
  have hle := le_length_snapshotBytes hline hfull
  rwa [hcells, List.length_replicate] at hle

end Termd.Screen
