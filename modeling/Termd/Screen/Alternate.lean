import Termd.Screen.Restore

/-!
# Both screens from one snapshot

While the alternate screen is shown, the snapshot holds the normal screen as well. The normal
screen is drawn first, and its style and its mouse modes are still in force when the alternate one
is drawn. For screens of narrow characters this says exactly when both screens are rebuilt.

## Main definitions

* `TerminalScreen.Plain`: narrow characters, no origin mode, no cursor beyond the last column
* `TerminalScreen.Rebuilds`: the copy shows the alternate screen and, once that is left, the normal
  one
* `TerminalScreen.Separate`: nothing of the normal screen shows through

## Main results

* `View.apply_leave`: what `ESC [ ? 1049 l` does in every state of the parser
* `TerminalScreen.rebuilds_iff_separate`: when both screens are rebuilt
-/

namespace Termd.Screen

namespace View

variable (width : Char → Option (Fin 3)) {v : View}

/-! ### Leaving the alternate screen -/

/-- `ESC [ ? 1049 l` -/
def leaveBytes : List UInt8 := csiBytes true [1049] 0x6c

/-- What text neither reads nor changes. -/
def aside (v : View) (normal : Option SavedView) (savedCursor : Option (ℕ × ℕ)) : View :=
  { v with normal, savedCursor }

variable (normal : Option SavedView) (savedCursor : Option (ℕ × ℕ))

theorem lineFeed_aside :
    (v.aside normal savedCursor).lineFeed = v.lineFeed.aside normal savedCursor := by
  by_cases h : v.cursorRow + 1 = v.scrollBottom ∨ v.rows ≤ v.cursorRow + 1
  · rw [lineFeed, lineFeed, if_pos h]
    refine (if_pos h).trans ?_
    simp only [scrollUpRegion, iterate_scrollUpOnce]
    rfl
  · rw [lineFeed, lineFeed, if_neg h]
    exact if_neg h

theorem printChar_aside (c : Char) :
    (v.aside normal savedCursor).printChar width c =
      (v.printChar width c).aside normal savedCursor := by
  generalize hw : terminalCharacterWidth width c = w
  have hwrap : (v.aside normal savedCursor).wrap w = (v.wrap w).aside normal savedCursor := by
    by_cases h : v.cols ≤ v.cursorCol ∨ (1 < w ∧ v.cols < v.cursorCol + w)
    · by_cases hauto : v.modes.autoWrap = true
      · rw [wrap, wrap, if_pos h, if_pos hauto]
        refine (if_pos h).trans ((if_pos hauto).trans ?_)
        exact lineFeed_aside (v := { v with cursorCol := 0 }) normal savedCursor
      · rw [wrap, wrap, if_pos h, if_neg hauto]
        exact (if_pos h).trans (if_neg hauto)
    · rw [wrap, wrap, if_neg h]
      exact if_neg h
  rw [printChar, printChar, hw]
  simp only [hwrap]
  rfl

/-- Printable ASCII text. -/
theorem apply_text_aside (hv : v.Idle) {bytes : List UInt8}
    (hbytes : ∀ byte ∈ bytes, GroundAction.ofByte byte = .print) :
    (v.aside normal savedCursor).apply width bytes =
      (v.apply width bytes).aside normal savedCursor := by
  induction bytes generalizing v with
  | nil => rfl
  | cons byte bytes ih =>
    have haction := hbytes byte List.mem_cons_self
    have hescape : byte ≠ 0x1b := by
      rintro rfl
      exact absurd haction (by decide)
    have hprint (w : View) (hw : w.Idle) :
        w.applyByte width byte = w.printChar width (Char.ofNat byte.toNat) := by
      rw [applyByte_text width hw.ground hescape, applyText, haction]
      exact congrArg (fun w : View => w.printChar width _) (flushInvalidUtf8_of_idle width hw)
    have hidle : (v.printChar width (Char.ofNat byte.toNat)).Idle :=
      (redraws_printChar width _).idle hv
    have haside : (v.aside normal savedCursor).Idle := ⟨hv.ground, hv.utf8⟩
    rw [apply_cons, apply_cons, hprint v hv, hprint _ haside, printChar_aside]
    exact ih hidle fun b hb => hbytes b (List.mem_cons_of_mem _ hb)

/-- Outside of any control sequence the alternate screen is left, after an open character. -/
theorem apply_leave_of_ground (h : v.parser = .ground) :
    v.apply width leaveBytes = (v.flushInvalidUtf8 width).leaveAlternateScreen := by
  obtain ⟨grid, row, col, hflush⟩ := v.exists_flushInvalidUtf8_eq width
  have hidle : (v.flushInvalidUtf8 width).Idle := by
    rw [hflush]
    exact ⟨h, rfl⟩
  have hfirst : v.applyByte width 0x1b = (v.flushInvalidUtf8 width).applyByte width 0x1b := by
    rw [applyByte_escape width hidle, applyByte_ground width h, if_pos rfl]
    rfl
  have hleave := (reads_privateMode width 1049 (by omega) false).apply hidle
  change (v.applyByte width 0x1b).apply width _ = _
  rw [hfirst]
  exact hleave

theorem leaveBytes_eq : leaveBytes = [0x1b, 0x5b, 0x3f, 0x31, 0x30, 0x34, 0x39, 0x6c] := by decide

/-- How `ESC [ ? 1049 l` goes on inside a control sequence: the state of the parser, and the bytes
that are left to be read as text. -/
def leaveRest : SequenceKind → ParserState × List UInt8
  | .osc => (.osc, [])
  | .csi => (.ground, [0x3f, 0x31, 0x30, 0x34, 0x39, 0x6c])
  | _ => (.ground, [0x5b, 0x3f, 0x31, 0x30, 0x34, 0x39, 0x6c])

/-- One byte that does nothing but move the parser. -/
theorem applyByte_silent {byte : UInt8} (parser : ParserState) (h : (v.parser.next byte).1 = parser)
    (hexec : (v.setParser .ground).exec width (v.parser.next byte).2 = v.setParser .ground) :
    v.applyByte width byte = v.setParser parser := by
  rw [applyByte, hexec, h]
  rfl

/-- An operating system command goes on until `BEL` or an escape. -/
theorem apply_osc (h : v.parser = .osc) {bytes : List UInt8}
    (hbytes : ∀ byte ∈ bytes, byte ≠ 0x07 ∧ byte ≠ 0x1b) : v.apply width bytes = v := by
  induction bytes with
  | nil => rfl
  | cons byte bytes ih =>
    obtain ⟨hbell, hescape⟩ := hbytes byte List.mem_cons_self
    have hnext : v.parser.next byte = (.osc, .none) := by
      rw [h, ParserState.next, if_neg hbell, if_neg hescape]
    rw [apply_cons, applyByte_of_none width (congrArg Prod.snd hnext), hnext, setParser_self h]
    exact ih fun b hb => hbytes b (List.mem_cons_of_mem _ hb)

/-- **Inside a control sequence** the alternate screen is not left; an operating system command
takes all of the bytes, other sequences end and the rest is text. -/
theorem apply_leave_of_ne_ground (h : v.parser ≠ .ground) :
    v.apply width leaveBytes =
      (v.setParser (leaveRest v.parser.kind).1).apply width (leaveRest v.parser.kind).2 := by
  rw [leaveBytes_eq]
  cases hparser : v.parser with
  | ground => exact absurd hparser h
  | escape =>
    rw [apply_cons, applyByte_silent width .ground (by rw [hparser]; rfl)
      (by rw [hparser]; rfl)]
    rfl
  | escapeIntermediate =>
    rw [apply_cons, applyByte_silent width .ground (by rw [hparser]; rfl)
      (by rw [hparser]; rfl)]
    rfl
  | osc =>
    rw [apply_cons, applyByte_silent width .oscEscape (by rw [hparser]; rfl)
      (by rw [hparser]; rfl), apply_cons, applyByte_silent width .osc rfl rfl]
    exact apply_osc (v := v.setParser .osc) width rfl (by simp)
  | oscEscape =>
    rw [apply_cons, applyByte_silent width .osc (by rw [hparser]; rfl)
      (by rw [hparser]; rfl)]
    exact apply_osc (v := v.setParser .osc) width rfl (by simp)
  | csi isPrivate params current =>
    rw [apply_cons, applyByte_silent width (.csi isPrivate params current)
      (by rw [hparser]; rfl) (by rw [hparser]; rfl), apply_cons,
      applyByte_silent width .ground rfl rfl]
    rfl

end View

/-! ### Rows of narrow characters -/

section Rows

variable (width : Char → Option (Fin 3))

/-- Every character has one column. -/
def Narrow (cells : List TerminalCell) : Prop :=
  ∀ cell ∈ cells, terminalCharacterWidth width cell.character = 1

instance (cells : List TerminalCell) : Decidable (Narrow width cells) :=
  inferInstanceAs (Decidable (∀ cell ∈ cells, _ = 1))

/-- The cells that are not the right half of a wide character. -/
def compact (cells : List TerminalCell) : List TerminalCell :=
  cells.filter fun cell => !cell.wideContinuation

variable {width}

theorem glyph_one (c : Char) (style : CellStyle) : glyph 1 c style = [⟨c, style, false⟩] := rfl

/-- Narrow characters are laid out without the halves that have lost their character. -/
theorem layout_written_of_narrow {cells : List TerminalCell} (h : Narrow width cells) :
    layout width (written cells) = compact cells := by
  induction cells with
  | nil => rfl
  | cons cell rest ih =>
    have hrest := ih fun c hc => h c (List.mem_cons_of_mem _ hc)
    by_cases hcont : cell.wideContinuation = true
    · rw [written_continuation rest hcont, hrest]
      simp [compact, hcont]
    · simp only [Bool.not_eq_true] at hcont
      rw [written_cell rest hcont, layout, List.flatMap_cons, ← layout, hrest,
        h cell List.mem_cons_self, glyph_one]
      simp only [compact, List.filter_cons, hcont, Bool.not_false, if_true, List.singleton_append]
      congr 1
      rw [← hcont]

/-- Whatever style narrow characters are read with, none has a right half. -/
theorem continuation_of_mem_layout {cells : List TerminalCell} (h : Narrow width cells)
    (pen active : CellStyle) :
    ∀ cell ∈ layout width (inked pen active cells).1, cell.wideContinuation = false := by
  induction cells generalizing pen active with
  | nil => simp [inked, layout]
  | cons cell rest ih =>
    have hrest : Narrow width rest := fun c hc => h c (List.mem_cons_of_mem _ hc)
    by_cases hcont : cell.wideContinuation = true
    · rw [inked, if_pos hcont]
      exact ih hrest pen active
    · rw [inked_cell _ _ _ (by simpa using hcont), layout, List.flatMap_cons, ← layout,
        h cell List.mem_cons_self, glyph_one]
      intro c hc
      rcases List.mem_append.mp hc with hc | hc
      · rw [List.mem_singleton.mp hc]
      · exact ih hrest _ _ c hc

theorem Narrow.shown {line : TerminalLine} (h : Narrow width line.cells) :
    Narrow width line.shown := fun cell hcell => h cell (List.mem_of_mem_take hcell)

theorem compact_of_unbroken {cells : List TerminalCell}
    (h : ∀ cell ∈ cells, cell.wideContinuation = false) : compact cells = cells := by
  rw [compact, List.filter_eq_self]
  intro cell hcell
  rw [h cell hcell]
  rfl

theorem fits_of_narrow {lines : List TerminalLine} {rows cols : ℕ}
    (hlines : ∀ line ∈ lines, line.Sound cols) (h : ∀ line ∈ lines, Narrow width line.cells) :
    View.Fits width lines rows cols := by
  intro line hline
  have hmem := mem_of_mem_writtenLines (mem_of_mem_window hline)
  have hlen := (hlines line hmem).length_eq
  rw [layout_written_of_narrow (h line hmem).shown, compact]
  refine (List.length_filter_le _ _).trans ?_
  rw [TerminalLine.shown, List.length_take]
  omega

/-- The first cell of a row that is read under the style `pen`. -/
theorem style_of_padded_eq {line : TerminalLine} {cell : TerminalCell} {rest : List TerminalCell}
    {cols : ℕ} {pen : CellStyle} (hshown : line.shown = cell :: rest)
    (hcont : cell.wideContinuation = false)
    (h : padded cols (layout width (inked pen {} line.shown).1) = line.cells) :
    pen.laid cell.style = cell.style := by
  have hcells : ∃ tail, line.cells = cell :: tail := by
    rw [← List.take_append_drop line.displayWidth line.cells, ← TerminalLine.shown, hshown]
    exact ⟨_, rfl⟩
  obtain ⟨tail, htail⟩ := hcells
  rw [htail, hshown, inked_cell _ _ _ hcont, nextPen_default, padded, layout, List.flatMap_cons,
    glyph, List.cons_append, List.cons_append] at h
  exact congrArg TerminalCell.style (List.cons.inj h).1

/-- **Narrow rows come out right**, and the style at the end does, exactly if no right half is left
without its character and the first style comes out right. -/
theorem inkedRows_eq_iff (lines : List TerminalLine) {cols : ℕ} (pen current : CellStyle)
    (hlines : ∀ line ∈ lines, line.Sound cols) (hnarrow : ∀ line ∈ lines, Narrow width line.cells) :
    ((inkedRows width cols pen lines).1 = lines.map TerminalLine.cells ∧
        (inkedRows width cols pen lines).2.laid current = current) ↔
      (∀ line ∈ lines, ∀ cell ∈ line.cells, cell.wideContinuation = false) ∧
        pen.laid (firstStyle lines current) = firstStyle lines current := by
  constructor
  · rintro ⟨hrows, hstyle⟩
    induction lines generalizing pen with
    | nil => exact ⟨by simp, hstyle⟩
    | cons line lines ih =>
      simp only [inkedRows, List.map_cons, List.cons.injEq] at hrows hstyle
      obtain ⟨hrow, hrest⟩ := hrows
      have hline := hlines line List.mem_cons_self
      have hunbroken : ∀ cell ∈ line.cells, cell.wideContinuation = false := by
        intro cell hcell
        rw [← hrow, padded] at hcell
        rcases List.mem_append.mp hcell with hcell | hcell
        · exact continuation_of_mem_layout (hnarrow line List.mem_cons_self).shown pen {} cell hcell
        · rw [List.eq_of_mem_replicate hcell]
          rfl
      obtain ⟨hunbroken', hfirst⟩ := ih _ (fun l hl => hlines l (List.mem_cons_of_mem _ hl))
        (fun l hl => hnarrow l (List.mem_cons_of_mem _ hl)) hrest hstyle
      refine ⟨fun l hl => ?_, ?_⟩
      · rcases List.mem_cons.mp hl with rfl | hl
        · exact hunbroken
        · exact hunbroken' l hl
      · cases hshown : line.shown with
        | nil =>
          rw [firstStyle_cons_nil hshown]
          rw [hshown] at hfirst
          exact hfirst
        | cons cell rest =>
          rw [firstStyle_cons hshown]
          have hcell : cell ∈ line.cells := List.mem_of_mem_take
            (show cell ∈ line.shown by rw [hshown]; exact List.mem_cons_self)
          exact style_of_padded_eq hshown (hunbroken cell hcell) hrow
  · rintro ⟨hunbroken, hfirst⟩
    have hstart : ∀ line ∈ lines, ∀ cell rest, line.shown = cell :: rest →
        cell.wideContinuation = false := by
      intro line hline cell rest hshown
      refine hunbroken line hline cell (List.mem_of_mem_take (i := line.displayWidth) ?_)
      rw [← TerminalLine.shown, hshown]
      exact List.mem_cons_self
    obtain ⟨hrows, hstyle⟩ := inkedRows_of_laid width cols hstart hfirst
    refine ⟨?_, hstyle⟩
    rw [hrows]
    refine List.map_congr_left fun line hline => ?_
    have hcompact : compact line.shown = line.shown :=
      compact_of_unbroken fun cell hcell => hunbroken line hline cell (List.mem_of_mem_take hcell)
    rw [layout_written_of_narrow (hnarrow line hline).shown, hcompact]
    exact TerminalLine.padded_shown (hlines line hline)

/-- A line that is not in use shows nothing. -/
theorem cells_of_not_inUse {line : TerminalLine} {cols : ℕ} (h : line.Sound cols)
    (hunused : line.inUse = false) : line.cells = List.replicate cols .blank := by
  simp only [TerminalLine.inUse, Bool.or_eq_false_iff, Bool.not_eq_false'] at hunused
  rw [List.eq_replicate_iff]
  refine ⟨h.length_eq, fun cell hcell => ?_⟩
  have hblank := List.all_eq_true.mp hunused.2 cell hcell
  simp only [TerminalCell.isBlankDefault, Bool.and_eq_true, beq_iff_eq, Bool.not_eq_true'] at hblank
  obtain ⟨⟨hchar, hstyle⟩, hcont⟩ := hblank
  obtain ⟨character, style, continuation⟩ := cell
  obtain rfl : style = {} := of_decide_eq_true hstyle
  simp only at hchar hcont
  rw [hchar, hcont]
  rfl

theorem map_cells_of_not_inUse {lines : List TerminalLine} {cols : ℕ}
    (h : ∀ line ∈ lines, line.Sound cols) (hunused : ∀ line ∈ lines, line.inUse = false) :
    lines.map TerminalLine.cells = List.replicate lines.length (List.replicate cols .blank) := by
  rw [List.eq_replicate_iff]
  refine ⟨List.length_map .., fun row hrow => ?_⟩
  obtain ⟨line, hline, rfl⟩ := List.mem_map.mp hrow
  exact cells_of_not_inUse (h line hline) (hunused line hline)

/-- **Without scrollback** the lines that are written start at the first row, and those that are not
are blank. -/
theorem map_cells_writtenLines {lines : List TerminalLine} {rows cols : ℕ}
    (hlines : ∀ line ∈ lines, line.Sound cols) (hlen : lines.length = rows) :
    lines.map TerminalLine.cells = (writtenLines lines rows).map TerminalLine.cells ++
      List.replicate (rows - (writtenLines lines rows).length) (List.replicate cols .blank) := by
  cases hbounds : snapshotLineBounds lines rows with
  | none =>
    have hunused : ∀ line ∈ lines, line.inUse = false := by
      cases hfirst : lines.findIdx? TerminalLine.inUse with
      | none => exact List.findIdx?_eq_none_iff.mp hfirst
      | some first => simp [snapshotLineBounds, hfirst] at hbounds
    have hwritten : writtenLines lines rows = [] := by rw [writtenLines, hbounds]
    rw [hwritten, List.map_nil, List.nil_append, List.length_nil, Nat.sub_zero, ← hlen]
    exact map_cells_of_not_inUse hlines hunused
  | some bounds =>
    obtain ⟨start, stop⟩ := bounds
    obtain ⟨first, last, -, hlast, hle, hlt, rfl, rfl⟩ := snapshotLineBounds_eq_some hbounds
    obtain ⟨-, -, -, hunused⟩ := rposition_eq_some hlast
    have hwritten : writtenLines lines rows = lines.take (last + 1) := by
      rw [writtenLines, hbounds, hlen, Nat.sub_self, Nat.zero_min]
      rfl
    have hrest := map_cells_of_not_inUse
      (fun line hline => hlines line (List.mem_of_mem_drop hline)) hunused
    rw [hwritten, List.length_take, Nat.min_eq_left (by omega), ← hlen, ← List.length_drop, ← hrest,
      ← List.map_append, List.take_append_drop]

end Rows

/-! ### Both screens -/

theorem TerminalModes.over_eq_iff {modes before : TerminalModes} :
    modes.over before = modes ↔ before.mouseModes ⊆ modes.mouseModes := by
  refine ⟨fun h => ?_, TerminalModes.over_eq⟩
  rw [← h]
  exact Finset.subset_union_left

/-- Lines that do not fill the screen are all shown. -/
theorem View.drawn_of_length_le (width : Char → Option (Fin 3)) {v : View} (lines : List TerminalLine)
    (h : (writtenLines lines v.rows).length ≤ v.rows) :
    v.drawn width lines =
      ((inkedRows width v.cols v.currentStyle (writtenLines lines v.rows)).1 ++
        List.replicate (v.rows - (writtenLines lines v.rows).length) (List.replicate v.cols .blank),
        (inkedRows width v.cols v.currentStyle (writtenLines lines v.rows)).2) := by
  rw [drawn, window, Nat.sub_eq_zero_of_le h, List.drop_zero]
  rfl

/-- What is shown, the saved cursor aside. -/
def Shown.visible (shown : Shown) : Shown := { shown with savedCursor := none }

/-- What the normal screen will show. -/
def SavedView.visible (saved : SavedView) : Shown where
  rows := saved.grid
  cursorRow := saved.cursorRow
  cursorCol := saved.cursorCol
  currentStyle := saved.currentStyle
  modes := saved.modes
  scrollTop := saved.scrollTop
  scrollBottom := saved.scrollBottom
  savedCursor := none

/-- Outside of a control sequence the normal screen is shown. -/
theorem View.visible_leave_of_ground (width : Char → Option (Fin 3)) {v : View} {saved : SavedView}
    (h : v.parser = .ground) (hnormal : v.normal = some saved) :
    (v.apply width leaveBytes).shown.visible = saved.visible := by
  obtain ⟨grid, row, col, hflush⟩ := v.exists_flushInvalidUtf8_eq width
  rw [apply_leave_of_ground width h, hflush, leaveAlternateScreen, hnormal]
  rfl

/-- **Inside a control sequence** it makes no difference what was put aside, nor in which state of
its sequence the parser is. -/
theorem View.visible_leave_of_ne_ground (width : Char → Option (Fin 3)) {v : View}
    (h : v.parser ≠ .ground) (hutf : v.utf8Pending = []) {parser : ParserState}
    (hkind : parser.kind = v.parser.kind) (normal : Option SavedView)
    (savedCursor : Option (ℕ × ℕ)) :
    (((v.aside normal savedCursor).setParser parser).apply width leaveBytes).shown.visible =
      (v.apply width leaveBytes).shown.visible := by
  have hparser : parser ≠ .ground := by
    intro hground
    rw [hground] at hkind
    exact h (ParserState.kind_eq_none_iff.mp hkind.symm)
  have hleave := apply_leave_of_ne_ground (v := (v.aside normal savedCursor).setParser parser) width
    hparser
  rw [hleave, apply_leave_of_ne_ground width h]
  change ((((v.setParser (leaveRest parser.kind).1).aside normal savedCursor)).apply width
    (leaveRest parser.kind).2).shown.visible = _
  rw [hkind]
  by_cases hosc : v.parser.kind = .osc
  · rw [hosc]
    rfl
  · have hidle : (v.setParser (leaveRest v.parser.kind).1).Idle := by
      refine ⟨?_, hutf⟩
      change (leaveRest v.parser.kind).1 = .ground
      cases hk : v.parser.kind with
      | osc => exact absurd hk hosc
      | _ => rfl
    rw [apply_text_aside width normal savedCursor hidle]
    · rfl
    · cases v.parser.kind <;> simp [leaveRest] <;> decide

namespace TerminalScreen

section

variable (width : Char → Option (Fin 3)) (rows cols : UInt16)

/-- The alternate screen is shown, in front of the normal screen `n`; both have narrow characters
only, neither is in origin mode and neither cursor waits beyond the last column. -/
@[mk_iff] structure Plain (s : TerminalScreen) (n : SavedScreen) : Prop where
  normal_eq : s.normalScreen = some n
  narrow : ∀ line ∈ s.lines, Narrow width line.cells
  normal_narrow : ∀ line ∈ n.lines, Narrow width line.cells
  cursorCol_lt : s.cursorCol < s.cols
  normal_cursorCol_lt : n.cursorCol < s.cols
  origin_eq : s.modes.origin = false
  normal_origin_eq : n.modes.origin = false

instance (s : TerminalScreen) (n : SavedScreen) : Decidable (s.Plain width n) :=
  decidable_of_iff _ (s.plain_iff width n).symm

/-- **Both screens are rebuilt**: the copy shows the alternate screen with its style and modes, and
when both leave the alternate screen they show the same. -/
def Rebuilds (s : TerminalScreen) : Prop :=
  ∃ copy left left',
    (new rows cols).apply width s.snapshotBytes = some copy ∧
    s.apply width View.leaveBytes = some left ∧
    copy.apply width View.leaveBytes = some left' ∧
    copy.normalScreen.isSome = true ∧
    copy.shown.rows = s.shown.rows ∧
    copy.currentStyle = s.currentStyle ∧
    copy.modes = s.modes ∧
    left'.shown.visible = left.shown.visible

end

/-- The normal rows that the snapshot shows. -/
def normalRows (n : SavedScreen) (rows cols : ℕ) : List (List TerminalCell) :=
  (window rows (writtenLines n.lines rows)).map (fun line => padded cols (compact line.shown)) ++
    List.replicate (rows - (writtenLines n.lines rows).length) (List.replicate cols .blank)

/-- **Nothing of the normal screen shows through**: its style does not colour what is written first
for the alternate screen, it has no mouse mode that the alternate screen has not, no right half of a
wide character was left behind in the alternate screen, and the normal rows that are written are the
visible ones; the latter is of no account inside a control sequence, where the alternate screen is
not left. -/
@[mk_iff] structure Separate (s : TerminalScreen) (n : SavedScreen) : Prop where
  style_eq : n.currentStyle.laid (firstStyle (writtenLines s.lines s.rows) s.currentStyle) =
    firstStyle (writtenLines s.lines s.rows) s.currentStyle
  mouse_subset : n.modes.mouseModes ⊆ s.modes.mouseModes
  unbroken : ∀ line ∈ s.lines, ∀ cell ∈ line.cells, cell.wideContinuation = false
  normalRows_eq : s.parser = .ground →
    normalRows n s.rows s.cols = (window s.rows n.lines).map TerminalLine.cells

instance (s : TerminalScreen) (n : SavedScreen) : Decidable (s.Separate n) :=
  decidable_of_iff _ (s.separate_iff n).symm

variable {width : Char → Option (Fin 3)} {s : TerminalScreen} {n : SavedScreen}

/-- The normal screen that is put aside while the copy is built. -/
theorem save_restored_plain (h : s.Sound) (hp : s.Plain width n) {v : View} (hv : v.Blank)
    (hrows : v.rows = s.rows) (hcols : v.cols = s.cols) :
    ∃ savedCursor, (v.restored width n).save =
      { n.view s.rows s.cols with grid := normalRows n s.rows s.cols, savedCursor } := by
  have hn := h.normal_sound n hp.normal_eq
  have hlt := hn.scroll_lt
  have hle := hn.scroll_le
  have hrow := hn.cursorRow_lt
  have hcol := hp.normal_cursorCol_lt
  have hdrawn : v.drawn width n.lines = (normalRows n s.rows s.cols, {}) := by
    rw [View.drawn, hv.style_eq, inkedRows_default, hrows, hcols, normalRows, View.blankRow, hcols]
    simp only [Prod.mk.injEq, and_true]
    congr 1
    refine List.map_congr_left fun line hline => ?_
    rw [layout_written_of_narrow
      (hp.normal_narrow line (mem_of_mem_writtenLines (mem_of_mem_window hline))).shown]
  have haddressed : n.addressed n.cursorRow = n.cursorRow := by
    rw [SavedScreen.addressed, hp.normal_origin_eq]
    rfl
  refine ⟨(v.restored width n).savedCursor, ?_⟩
  simp only [View.save, View.restored, SavedScreen.view, SavedView.mk.injEq, hdrawn, hcols,
    CellStyle.laid_default, haddressed, TerminalModes.over_eq_iff, hv.modes_eq, true_and]
  refine ⟨?_, ?_, ?_, ?_, ?_⟩
  · omega
  · omega
  · simp
  · omega
  · omega

/-- The rows of the copy, and the style at the end of them. -/
def frontRows (width : Char → Option (Fin 3)) (s : TerminalScreen) (pen : CellStyle) :
    List (List TerminalCell) × CellStyle :=
  inkedRows width s.cols pen (writtenLines s.lines s.rows)

/-- **The copy**, where its rows, style and modes may differ from the screen in front. -/
theorem replayed_plain (h : s.Sound) (hp : s.Plain width n) {v : View} (hv : v.Blank)
    (hrows : v.rows = s.rows) (hcols : v.cols = s.cols) :
    ∃ savedCursor savedCursor', s.replayed width v =
      { s.view with
        grid := (s.frontRows width n.currentStyle).1 ++
          List.replicate (s.rows - (writtenLines s.lines s.rows).length) (List.replicate s.cols .blank)
        currentStyle := (s.frontRows width n.currentStyle).2.laid s.currentStyle
        modes := s.modes.over n.modes
        savedCursor := savedCursor'
        parser := .after s.pendingControl
        normal := some
          { n.view s.rows s.cols with grid := normalRows n s.rows s.cols, savedCursor } } := by
  obtain ⟨savedCursor, hsave⟩ := save_restored_plain h hp hv hrows hcols
  have hstyle : (v.restored width n).currentStyle = n.currentStyle :=
    congrArg SavedView.currentStyle hsave
  have hmodes : (v.restored width n).modes = n.modes := congrArg SavedView.modes hsave
  have hnormal : (v.restored width n).normal = none := hv.normal_eq
  have hshort := length_writtenLines_le (h.length_lines hp.normal_eq)
  have hrow : s.save.addressed s.cursorRow = s.cursorRow := by
    rw [SavedScreen.addressed, show s.save.modes.origin = false from hp.origin_eq]
    rfl
  have hcol : min s.cursorCol (s.cols - 1) = s.cursorCol := by
    have := hp.cursorCol_lt
    omega
  have hback : s.backdrop width v = (v.restored width n).enterAlternateScreen := by
    rw [backdrop, hp.normal_eq]
  have hback_rows : (s.backdrop width v).rows = s.rows := by rw [hback]; exact hrows
  have hback_cols : (s.backdrop width v).cols = s.cols := by rw [hback]; exact hcols
  have hback_style : (s.backdrop width v).currentStyle = n.currentStyle := by
    rw [hback]
    exact hstyle
  have hback_modes : (s.backdrop width v).modes = n.modes := by rw [hback]; exact hmodes
  have hback_saved : (s.backdrop width v).savedCursor = none := by rw [hback]; rfl
  have hback_normal : (s.backdrop width v).normal = some (v.restored width n).save := by
    rw [hback, View.enterAlternateScreen, hnormal]
    rfl
  have hdrawn := View.drawn_of_length_le width (v := s.backdrop width v) s.lines
    (by rw [hback_rows]; exact hshort)
  rw [hback_rows, hback_cols, hback_style, ← frontRows] at hdrawn
  refine ⟨savedCursor, s.save.savedCursorAfter s.rows s.cols none, ?_⟩
  rw [replayed, View.restored, show s.save.lines = s.lines from rfl, hdrawn, hback_normal, hback_rows,
    hback_cols, hback_saved, hback_modes, hsave, show s.save.cursorRow = s.cursorRow from rfl, hrow,
    show s.save.cursorCol = s.cursorCol from rfl, hcol]
  rfl

/-- **The alternate screen** comes out right, in its rows and its style. -/
theorem frontRows_iff (h : s.Sound) (hp : s.Plain width n) :
    ((s.frontRows width n.currentStyle).1 ++ List.replicate
          (s.rows - (writtenLines s.lines s.rows).length) (List.replicate s.cols .blank) =
        s.view.grid ∧
      (s.frontRows width n.currentStyle).2.laid s.currentStyle = s.currentStyle) ↔
    (∀ line ∈ s.lines, ∀ cell ∈ line.cells, cell.wideContinuation = false) ∧
      n.currentStyle.laid (firstStyle (writtenLines s.lines s.rows) s.currentStyle) =
        firstStyle (writtenLines s.lines s.rows) s.currentStyle := by
  have hlen : s.lines.length = s.rows :=
    Nat.le_antisymm (h.length_lines hp.normal_eq) h.rows_le_lines
  have hmap := map_cells_writtenLines h.lines_sound hlen
  have hgrid : s.view.grid = s.lines.map TerminalLine.cells :=
    congrArg (List.map TerminalLine.cells) (window_of_length hlen)
  have hwritten := inkedRows_eq_iff (writtenLines s.lines s.rows) n.currentStyle s.currentStyle
    (fun line hline => h.lines_sound line (mem_of_mem_writtenLines hline))
    fun line hline => hp.narrow line (mem_of_mem_writtenLines hline)
  rw [hgrid, hmap, List.append_left_inj, frontRows, hwritten]
  refine and_congr_left fun _ => ⟨fun hunbroken line hline cell hcell => ?_,
    fun hunbroken line hline => hunbroken line (mem_of_mem_writtenLines hline)⟩
  -- a line that is not written is blank
  have hmem : line.cells ∈ s.lines.map TerminalLine.cells := List.mem_map_of_mem hline
  rw [hmap] at hmem
  rcases List.mem_append.mp hmem with hmem | hmem
  · obtain ⟨line', hline', heq⟩ := List.mem_map.mp hmem
    exact hunbroken line' hline' cell (heq ▸ hcell)
  · rw [List.eq_of_mem_replicate hmem] at hcell
    rw [List.eq_of_mem_replicate hcell]
    rfl

/-- The copy leaves the alternate screen as the screen does, if it shows the same alternate screen
and, outside of a control sequence, the same normal rows. -/
theorem visible_leave_iff (h : s.Tracked) (hp : s.Plain width n) {copy : View}
    {savedCursor savedCursor' : Option (ℕ × ℕ)}
    (hcopy : copy =
      { s.view with
        savedCursor := savedCursor'
        parser := .after s.pendingControl
        normal := some
          { n.view s.rows s.cols with grid := normalRows n s.rows s.cols, savedCursor } }) :
    (copy.apply width View.leaveBytes).shown.visible =
        (s.view.apply width View.leaveBytes).shown.visible ↔
      (s.parser = .ground →
        normalRows n s.rows s.cols = (window s.rows n.lines).map TerminalLine.cells) := by
  have hnormal : s.view.normal = some (n.view s.rows s.cols) := by
    rw [view, hp.normal_eq]
    rfl
  by_cases hground : s.parser = .ground
  · have hafter : ParserState.after s.pendingControl = .ground := by
      have htracks : Tracks .ground s.pendingControl := hground ▸ h.tracks
      rw [htracks.control_eq_nil]
      rfl
    have hparser : copy.parser = .ground := by rw [hcopy]; exact hafter
    rw [View.visible_leave_of_ground (v := s.view) width hground hnormal,
      View.visible_leave_of_ground width hparser (by rw [hcopy])]
    simp only [hground, true_implies]
    refine ⟨fun heq => congrArg Shown.rows heq, fun heq => ?_⟩
    rw [heq]
    rfl
  · have hleave := View.visible_leave_of_ne_ground (v := s.view) width hground
      (h.steady.idle hground) h.tracks.kind_eq
      (some { n.view s.rows s.cols with grid := normalRows n s.rows s.cols, savedCursor })
      savedCursor'
    rw [hcopy]
    exact ⟨fun _ h => absurd h hground, fun _ => hleave⟩

/-- **When both screens are rebuilt**: exactly if nothing of the normal screen shows through. -/
theorem rebuilds_iff_separate (width : Char → Option (Fin 3)) (rows cols : UInt16)
    {bytes : List UInt8} {s : TerminalScreen} (hs : (new rows cols).apply width bytes = some s)
    {n : SavedScreen} (hp : s.Plain width n) : s.Rebuilds width rows cols ↔ s.Separate n := by
  obtain ⟨htracked, hrows, hcols⟩ := view_size_of_apply width rows cols hs
  have hsound := htracked.steady.sound
  have hblank := new_blank rows cols
  have hfit : s.Fits width := by
    refine ⟨fits_of_narrow hsound.lines_sound hp.narrow, fun m hm => ?_⟩
    obtain rfl : m = n := Option.some.inj (hm.symm.trans hp.normal_eq)
    exact fits_of_narrow (hsound.normal_sound m hm).lines_sound hp.normal_narrow
  obtain ⟨copy, hcopy, hcopy_tracked, hcopy_view⟩ :=
    apply_tracked width (new_tracked rows cols) s.snapshotBytes
  obtain ⟨left, hleft, -, hleft_view⟩ := apply_tracked width htracked View.leaveBytes
  obtain ⟨left', hleft', -, hleft_view'⟩ := apply_tracked width hcopy_tracked View.leaveBytes
  obtain ⟨savedCursor, savedCursor', hreplayed⟩ := replayed_plain hsound hp hblank hrows hcols
  rw [apply_snapshotBytes width htracked hblank hrows hcols hfit, hreplayed] at hcopy_view
  dsimp only at hcopy_view
  have hfront := frontRows_iff hsound hp
  -- what the definition says about the three screens that were found
  have hunfold : s.Rebuilds width rows cols ↔
      copy.normalScreen.isSome = true ∧ copy.shown.rows = s.shown.rows ∧
      copy.currentStyle = s.currentStyle ∧ copy.modes = s.modes ∧
      left'.shown.visible = left.shown.visible := by
    refine ⟨?_, fun h => ⟨copy, left, left', hcopy, hleft, hleft', h⟩⟩
    rintro ⟨copy₁, left₁, left₁', h₁, h₂, h₃, h⟩
    obtain rfl : copy = copy₁ := Option.some.inj (hcopy.symm.trans h₁)
    obtain rfl : left = left₁ := Option.some.inj (hleft.symm.trans h₂)
    obtain rfl : left' = left₁' := Option.some.inj (hleft'.symm.trans h₃)
    exact h
  have hgrid := congrArg View.grid hcopy_view
  have hstyle : copy.currentStyle = _ := congrArg (fun v : View => v.currentStyle) hcopy_view
  have hmodes : copy.modes = _ := congrArg (fun v : View => v.modes) hcopy_view
  dsimp only at hgrid hstyle hmodes
  have hvisible : copy.shown.rows = s.shown.rows → copy.currentStyle = s.currentStyle →
      copy.modes = s.modes → (left'.shown.visible = left.shown.visible ↔ (s.parser = .ground →
        normalRows n s.rows s.cols = (window s.rows n.lines).map TerminalLine.cells)) := by
    intro hgrid' hstyle' hmodes'
    have hcopy' := hcopy_view
    rw [hgrid.symm.trans hgrid', hstyle.symm.trans hstyle', hmodes.symm.trans hmodes'] at hcopy'
    rw [shown, shown, hleft_view', hleft_view]
    exact visible_leave_iff htracked hp hcopy'
  rw [hunfold]
  constructor
  · rintro ⟨-, hgrid', hstyle', hmodes', hleave⟩
    obtain ⟨hunbroken, hfirst⟩ := hfront.mp ⟨hgrid.symm.trans hgrid', hstyle.symm.trans hstyle'⟩
    exact ⟨hfirst, TerminalModes.over_eq_iff.mp (hmodes.symm.trans hmodes'), hunbroken,
      (hvisible hgrid' hstyle' hmodes').mp hleave⟩
  · intro hsep
    obtain ⟨hrows_eq, hstyle_eq⟩ := hfront.mpr ⟨hsep.unbroken, hsep.style_eq⟩
    have hgrid' := hgrid.trans hrows_eq
    have hstyle' := hstyle.trans hstyle_eq
    have hmodes' := hmodes.trans (TerminalModes.over_eq_iff.mpr hsep.mouse_subset)
    have hnormal : copy.view.normal.isSome = true := by rw [hcopy_view]; rfl
    refine ⟨?_, hgrid', hstyle', hmodes', (hvisible hgrid' hstyle' hmodes').mpr hsep.normalRows_eq⟩
    rwa [view, Option.isSome_map] at hnormal

/-- The style of the normal screen is bold, and so is what is written on the alternate screen. -/
theorem rebuilds_in_same_style :
    ∃ s n, (new 1 3).apply (fun _ => some 1)
        [0x61, 0x1b, 0x5b, 0x31, 0x6d, 0x1b, 0x5b, 0x3f, 0x31, 0x30, 0x34, 0x39, 0x68, 0x62] =
          some s ∧
      s.Plain (fun _ => some 1) n ∧ s.Rebuilds (fun _ => some 1) 1 3 := by
  have hrun : ((new 1 3).apply (fun _ => some 1)
      [0x61, 0x1b, 0x5b, 0x31, 0x6d, 0x1b, 0x5b, 0x3f, 0x31, 0x30, 0x34, 0x39, 0x68, 0x62]).any
        (fun s => s.normalScreen.any fun n => s.Plain (fun _ => some 1) n ∧ s.Separate n) = true := by
    decide +kernel
  obtain ⟨s, hs, hn⟩ := (Option.any_eq_true _ _).mp hrun
  obtain ⟨n, -, hplain⟩ := (Option.any_eq_true _ _).mp hn
  obtain ⟨hplain, hseparate⟩ := of_decide_eq_true hplain
  exact ⟨s, n, hs, hplain, (rebuilds_iff_separate _ 1 3 hs hplain).mpr hseparate⟩

/-- The style of the normal screen is bold, and a character in the default style is written on the
alternate screen: in the copy it is bold. -/
theorem not_rebuilds_in_other_style :
    ¬∀ (width : Char → Option (Fin 3)) (rows cols : UInt16) (bytes : List UInt8)
      (s : TerminalScreen) (n : SavedScreen), (new rows cols).apply width bytes = some s →
        s.Plain width n → s.Rebuilds width rows cols := by
  intro h
  have hrun : ((new 1 3).apply (fun _ => some 1)
      [0x1b, 0x5b, 0x31, 0x6d, 0x1b, 0x5b, 0x3f, 0x31, 0x30, 0x34, 0x39, 0x68, 0x1b, 0x5b, 0x30,
        0x6d, 0x61]).any (fun s => s.normalScreen.any (fun n => s.Plain (fun _ => some 1) n) &&
        ((new 1 3).apply (fun _ => some 1) s.snapshotBytes).any
          fun copy => copy.shown.rows ≠ s.shown.rows) = true := by
    decide +kernel
  obtain ⟨s, hs, hrest⟩ := (Option.any_eq_true _ _).mp hrun
  obtain ⟨hn, hcopy⟩ := Bool.and_eq_true_iff.mp hrest
  obtain ⟨n, -, hplain⟩ := (Option.any_eq_true _ _).mp hn
  obtain ⟨copy, hcopy, hrows⟩ := (Option.any_eq_true _ _).mp hcopy
  obtain ⟨copy', left, left', hcopy', -, -, -, hrows', -⟩ :=
    h _ _ _ _ s n hs (of_decide_eq_true hplain)
  obtain rfl : copy = copy' := Option.some.inj (hcopy.symm.trans hcopy')
  exact of_decide_eq_true hrows hrows'

end TerminalScreen

end Termd.Screen
