import Termd.Screen.Pending

/-!
# Reading the snapshot

What a terminal outside of any sequence makes of the pieces that a snapshot is put together from:
control sequences, styles, characters, and the bytes that restore the modes, the scroll region, the
saved cursor and the cursor.

## Main definitions

* `View.Idle`: outside of any sequence
* `TerminalModes.merge`: the modes after the mode bytes were read
* `SavedScreen.cursorAfter`: where the cursor bytes lead, which depends on origin mode

## Main results

* `View.apply_csiBytes`: a written control sequence is dispatched with its parameters
* `View.apply_sgrBytes`, `View.apply_encodeUtf8`: styles and characters
* `View.apply_restoreBytes`, `View.apply_stateBytes`: the modes, and the state behind the rows
-/

namespace Termd.Screen

namespace View

variable (width : Char → Option (Fin 3)) {v : View}

/-- Outside of any control sequence and of any UTF-8 sequence. -/
structure Idle (v : View) : Prop where
  ground : v.parser = .ground
  utf8 : v.utf8Pending = []

theorem SameFrame.idle {w : View} (h : SameFrame v w) (hv : v.Idle) : w.Idle :=
  ⟨h.parser_eq.trans hv.ground, h.utf8_eq.trans hv.utf8⟩

/-! ### Control sequences -/

theorem isDigit_ne {byte : UInt8} (h : isDigit byte = true) : byte ≠ 0x3f := by
  rintro rfl
  exact absurd h (by decide)

theorem next_csi_digit {isPrivate : Bool} {params : List (Option ℕ)} {current : Option ℕ}
    {byte : UInt8} (h : isDigit byte = true) :
    ParserState.next (.csi isPrivate params current) byte =
      (.csi isPrivate params (some (TerminalScreen.pushDigit current byte)), .none) := by
  rw [ParserState.next, if_neg (isDigit_ne h), if_pos h]

/-- The digits of a parameter. -/
theorem apply_decimal {isPrivate : Bool} {params : List (Option ℕ)}
    (h : v.parser = .csi isPrivate params none) {n : ℕ} (hn : n ≤ 65535) :
    v.apply width (decimal n) = v.setParser (.csi isPrivate params (some n)) := by
  refine foldl_decimal _ (fun m => v.setParser (.csi isPrivate params (some m))) v
    (fun d hd => ?_) fun m d hd hle => ?_
  · have hnext : v.parser.next (UInt8.ofNat (0x30 + d)) = (.csi isPrivate params (some d), .none) := by
      rw [h, next_csi_digit (isDigit_ofNat hd), TerminalScreen.pushDigit, digitValue_ofNat hd]
      simp
      omega
    rw [applyByte_of_none width (congrArg Prod.snd hnext), hnext]
  · have hnext : ParserState.next (.csi isPrivate params (some m)) (UInt8.ofNat (0x30 + d)) =
        (.csi isPrivate params (some (10 * m + d)), .none) := by
      rw [next_csi_digit (isDigit_ofNat hd), TerminalScreen.pushDigit, digitValue_ofNat hd]
      simp
      omega
    refine (applyByte_of_none width (congrArg Prod.snd hnext)).trans ?_
    change (v.setParser _).setParser ((ParserState.csi isPrivate params (some m)).next _).1 = _
    rw [hnext]
    rfl

theorem next_csi_final {isPrivate : Bool} {params : List (Option ℕ)} {current : Option ℕ}
    {final : UInt8} (h : inRange 0x40 0x7e final = true) :
    ParserState.next (.csi isPrivate params current) final =
      (.ground, .csi isPrivate (params ++ [current]) (.ofByte final)) := by
  have hrange := inRange_iff.mp h
  have hle : 64 ≤ final.toNat := hrange.1
  have hne (b : UInt8) (hb : b.toNat < 64) : final ≠ b := by
    rintro rfl
    omega
  have hdigit : ¬isDigit final = true := by
    simp only [isDigit, Bool.and_eq_true, decide_eq_true_eq, UInt8.le_iff_toNat_le]
    change ¬(_ ∧ final.toNat ≤ 57)
    omega
  rw [ParserState.next, if_neg (hne _ (by decide)), if_neg hdigit, if_neg (hne _ (by decide)),
    if_pos h]

/-- The final byte dispatches the sequence. -/
theorem applyByte_final {isPrivate : Bool} {params : List (Option ℕ)} {current : Option ℕ}
    (h : v.parser = .csi isPrivate params current) {final : UInt8}
    (hfinal : inRange 0x40 0x7e final = true) :
    v.applyByte width final =
      (v.setParser .ground).dispatchCsi isPrivate (params ++ [current]) (.ofByte final) := by
  rw [applyByte, h, next_csi_final hfinal]
  exact setParser_self (SameFrame.dispatchCsi ..).parser_eq

/-- The parameters as the parser collects them; a sequence without any has one that is missing. -/
def csiParams (params : List ℕ) : List (Option ℕ) := if params = [] then [none] else params.map some

theorem apply_joinParams {isPrivate : Bool} {done : List (Option ℕ)} {params : List ℕ}
    (h : v.parser = .csi isPrivate done none) (hle : ∀ n ∈ params, n ≤ 65535) {final : UInt8}
    (hfinal : inRange 0x40 0x7e final = true) :
    v.apply width (joinParams params ++ [final]) =
      (v.setParser .ground).dispatchCsi isPrivate (done ++ csiParams params) (.ofByte final) := by
  induction params generalizing v done with
  | nil => exact applyByte_final width h hfinal
  | cons n params ih =>
    have hn := apply_decimal width h (hle n List.mem_cons_self)
    cases params with
    | nil =>
      rw [joinParams, apply_append, hn]
      exact applyByte_final (v := v.setParser _) width rfl hfinal
    | cons m params =>
      have hsep : (v.setParser (.csi isPrivate done (some n))).applyByte width 0x3b =
          v.setParser (.csi isPrivate (done ++ [some n]) none) :=
        applyByte_of_none width rfl
      have hrest := ih (v := v.setParser (.csi isPrivate (done ++ [some n]) none)) rfl
        fun k hk => hle k (List.mem_cons_of_mem _ hk)
      rw [joinParams, List.append_assoc, apply_append, hn, List.cons_append, apply_cons, hsep, hrest]
      · simp [csiParams, setParser]
      · simp

theorem applyByte_escape (h : v.Idle) : v.applyByte width 0x1b = v.setParser .escape := by
  rw [applyByte_ground width h.ground, if_pos rfl]
  change (v.flushInvalidUtf8 width).setParser .escape = _
  rw [flushInvalidUtf8, if_pos h.utf8]

/-- **A control sequence** that was written is dispatched with its parameters. -/
theorem apply_csiBytes (h : v.Idle) (isPrivate : Bool) {params : List ℕ}
    (hle : ∀ n ∈ params, n ≤ 65535) {final : UInt8} (hfinal : inRange 0x40 0x7e final = true) :
    v.apply width (csiBytes isPrivate params final) =
      v.dispatchCsi isPrivate (csiParams params) (.ofByte final) := by
  have hopen : (v.setParser .escape).applyByte width 0x5b = v.setParser (.csi false [] none) :=
    applyByte_of_none width rfl
  have hmark : (v.setParser (.csi false [] none)).apply width (if isPrivate then [0x3f] else []) =
      v.setParser (.csi isPrivate [] none) := by
    cases isPrivate with
    | true => exact applyByte_of_none width rfl
    | false => rfl
  have hparams := apply_joinParams (v := v.setParser (.csi isPrivate [] none)) width rfl hle hfinal
  rw [csiBytes, List.append_assoc, List.append_assoc, apply_append, apply_cons,
    applyByte_escape width h, apply_cons, hopen, apply_nil, apply_append, hmark, hparams]
  congr 1
  exact setParser_self h.ground

/-- The bytes, read outside of any sequence, do what `f` does and leave no sequence open. -/
def Reads (bytes : List UInt8) (f : View → View) : Prop :=
  ∀ v : View, v.Idle → v.apply width bytes = f v ∧ (f v).Idle

theorem Reads.append {bytes bytes' : List UInt8} {f g : View → View} (h : Reads width bytes f)
    (h' : Reads width bytes' g) : Reads width (bytes ++ bytes') (g ∘ f) := by
  intro v hv
  obtain ⟨hf, hidle⟩ := h v hv
  rw [apply_append, hf]
  exact h' (f v) hidle

variable {width} in
theorem Reads.apply {bytes : List UInt8} {f : View → View} (h : Reads width bytes f) (hv : v.Idle) :
    v.apply width bytes = f v := (h v hv).1

theorem Reads.nil : Reads width [] id := fun _ hv => ⟨rfl, hv⟩

/-- The function need only be right where the bytes are read. -/
theorem Reads.congr {bytes : List UInt8} {f g : View → View} (h : Reads width bytes f)
    (hfg : ∀ v, f v = g v) : Reads width bytes g := by
  obtain rfl : f = g := funext hfg
  exact h

theorem reads_csiBytes (isPrivate : Bool) {params : List ℕ} (hle : ∀ n ∈ params, n ≤ 65535)
    {final : UInt8} (hfinal : inRange 0x40 0x7e final = true) :
    Reads width (csiBytes isPrivate params final)
      fun v => v.dispatchCsi isPrivate (csiParams params) (.ofByte final) :=
  fun _ hv => ⟨apply_csiBytes width hv isPrivate hle hfinal, (SameFrame.dispatchCsi ..).idle hv⟩

/-! ### Styles and characters -/

/-- **A style** is read over the style that is active. -/
theorem reads_sgrBytes (style : CellStyle) (resetFirst : Bool) :
    Reads width (style.sgrBytes resetFirst)
      fun v => { v with currentStyle := v.currentStyle.afterSgr style resetFirst } := by
  by_cases hdefault : style.isDefault = true
  · rw [CellStyle.sgrBytes, if_pos hdefault]
    refine (reads_csiBytes width false (by simp) (by decide)).congr width fun v => ?_
    rw [CellStyle.afterSgr, if_pos hdefault]
    rfl
  · have hne := CellStyle.sgrCodes_ne_nil (by simpa using hdefault) resetFirst
    rw [CellStyle.sgrBytes, if_neg hdefault]
    refine (reads_csiBytes width false (fun code hcode => ?_) (by decide)).congr width fun v => ?_
    · have := CellStyle.le_of_mem_sgrCodes hcode
      omega
    · change { v with currentStyle := v.currentStyle.applySgr _ } = _
      rw [csiParams, if_neg hne, CellStyle.applySgr, if_neg (by simp [hne]), List.map_map]
      rw [show (fun value : Option ℕ => value.getD 0) ∘ some = id from rfl, List.map_id,
        CellStyle.applySgrFrom_sgrCodes, CellStyle.afterSgr, if_neg hdefault]

theorem ofByte_ascii {c : Char} (hc : Printable c) (h : c.toNat < 0x80) :
    GroundAction.ofByte (UInt8.ofNat c.toNat) = .print := by
  obtain ⟨hlow, hdel⟩ := hc
  have hne (b : UInt8) (hb : b.toNat < 0x20 ∨ b.toNat = 0x7f) : UInt8.ofNat c.toNat ≠ b := by
    rintro rfl
    rw [toNat_ofNat_byte (by omega)] at hb
    omega
  have hcontrol : ¬(inRange 0x00 0x1f (UInt8.ofNat c.toNat) || UInt8.ofNat c.toNat == 0x7f) = true := by
    rw [Bool.or_eq_true, beq_iff_eq, inRange_iff, toNat_ofNat_byte (by omega)]
    refine not_or.mpr ⟨?_, hne _ (by decide)⟩
    change ¬(_ ∧ c.toNat ≤ 31)
    omega
  have hprint : inRange 0x20 0x7e (UInt8.ofNat c.toNat) = true := by
    rw [inRange_iff, toNat_ofNat_byte (by omega)]
    change 32 ≤ _ ∧ _ ≤ 126
    omega
  rw [GroundAction.ofByte, if_neg (hne _ (by decide)), if_neg (hne _ (by decide)),
    if_neg (hne _ (by decide)), if_neg (hne _ (by decide)), if_neg (hne _ (by decide)),
    if_neg hcontrol, if_pos hprint]

theorem flushInvalidUtf8_of_idle (h : v.Idle) : v.flushInvalidUtf8 width = v := if_pos h.utf8

/-- **A character** is printed when its last byte is read. -/
theorem apply_encodeUtf8 (h : v.Idle) {c : Char} (hc : Printable c) :
    v.apply width (encodeUtf8 c) = v.printChar width c := by
  by_cases hascii : c.toNat < 0x80
  · have haction := ofByte_ascii hc hascii
    have hescape : UInt8.ofNat c.toNat ≠ 0x1b := by
      intro heq
      rw [heq] at haction
      exact absurd haction (by decide)
    rw [encodeUtf8, if_pos hascii, apply_cons, apply_nil, applyByte_text width h.ground hescape,
      applyText, haction]
    change (v.flushInvalidUtf8 width).printChar width _ = _
    rw [flushInvalidUtf8_of_idle width h, toNat_ofNat_byte (by omega), Char.ofNat_toNat]
  · have hhigh : ∀ byte ∈ encodeUtf8 c, 0x80 ≤ byte.toNat :=
      fun byte => high_of_mem_encodeUtf8 (by omega)
    obtain ⟨bytes, last, heq, hlen, hwaiting, hok⟩ := exists_encodeUtf8_eq (c := c) (by omega)
    rw [heq] at hhigh ⊢
    have hlast := hhigh last (by simp)
    have hescape : last ≠ 0x1b := by
      rintro rfl
      exact absurd hlast (by decide)
    have htext := applyByte_text (v := { v with utf8Pending := bytes }) width h.ground hescape
    rw [apply_append, apply_waiting width hwaiting hlen (fun b hb => hhigh b (by simp [hb])) h.ground
      h.utf8, apply_cons, apply_nil, htext, applyText, GroundAction.ofByte_of_high hlast]
    simp only [pushUtf8Byte, hok, List.foldl_cons, List.foldl_nil]
    rw [← h.utf8]

theorem reads_encodeUtf8 {c : Char} (hc : Printable c) :
    Reads width (encodeUtf8 c) fun v => v.printChar width c := by
  intro v hv
  refine ⟨apply_encodeUtf8 width hv hc, ?_⟩
  obtain ⟨grid, row, col, heq⟩ := v.exists_printChar_eq width c
  change (v.printChar width c).Idle
  rw [heq]
  exact ⟨hv.ground, hv.utf8⟩

/-- A line break. -/
def lineBreak (v : View) : View := { lineFeed { v with cursorCol := 0 } with cursorCol := 0 }

theorem apply_lineBreak (h : v.Idle) : v.apply width [0x0d, 0x0a] = v.lineBreak := by
  have hreturn : v.applyByte width 0x0d = { v with cursorCol := 0 } := by
    rw [applyByte_text width h.ground (by decide), applyText]
    exact congrArg (fun w : View => { w with cursorCol := 0 }) (flushInvalidUtf8_of_idle width h)
  have hidle : Idle { v with cursorCol := 0 } := ⟨h.ground, h.utf8⟩
  rw [apply_cons, hreturn, apply_cons, apply_nil, applyByte_text width hidle.ground (by decide),
    applyText]
  change { ((flushInvalidUtf8 _ width).lineFeed : View) with cursorCol := 0 } = _
  rw [flushInvalidUtf8_of_idle width hidle]
  rfl

/-! ### Modes -/

theorem reads_privateMode (param : ℕ) (hle : param ≤ 65535) (enabled : Bool) :
    Reads width (csiBytes true [param] (modeFinal enabled))
      fun v => v.setPrivateMode param enabled := by
  cases enabled <;> exact reads_csiBytes width true (by simpa using hle) (by decide)

theorem reads_insertMode (enabled : Bool) :
    Reads width (csiBytes false [4] (modeFinal enabled))
      fun v => { v with modes := { v.modes with insert := enabled } } := by
  cases enabled <;> exact reads_csiBytes width false (by simp) (by decide)

/-- A two byte escape sequence. -/
theorem reads_escape {byte : UInt8} (action : EscapeAction)
    (hnext : ParserState.next .escape byte = (.ground, .escape action)) :
    Reads width [0x1b, byte] fun v => v.dispatchEscape action := by
  intro v hv
  have hidle : (v.dispatchEscape action).Idle := by
    cases action with
    | restoreCursor =>
      rw [dispatchEscape, Registers.restoreCursor]
      split <;> exact ⟨hv.ground, hv.utf8⟩
    | _ => exact ⟨hv.ground, hv.utf8⟩
  refine ⟨?_, hidle⟩
  rw [apply_cons, applyByte_escape width hv, apply_cons, apply_nil, applyByte]
  change (exec ((v.setParser .escape).setParser .ground) width
    (ParserState.next .escape byte).2).setParser (ParserState.next .escape byte).1 = _
  rw [hnext]
  change (dispatchEscape (v.setParser .ground) action).setParser .ground = _
  rw [setParser_self hv.ground, setParser_self hidle.ground]

theorem reads_keypadMode (enabled : Bool) :
    Reads width [0x1b, if enabled then 0x3d else 0x3e]
      fun v => { v with modes := { v.modes with applicationKeypad := enabled } } := by
  cases enabled with
  | true => exact reads_escape width .keypadOn (by decide)
  | false => exact reads_escape width .keypadOff (by decide)

/-- The mouse modes are only ever turned on. -/
theorem reads_mouseModes (mouseModes : List MouseMode) :
    Reads width (mouseModes.flatMap fun mode => csiBytes true [mode.code] (modeFinal true))
      fun v => { v with
        modes := { v.modes with mouseModes := v.modes.mouseModes ∪ mouseModes.toFinset } } := by
  induction mouseModes with
  | nil => exact (Reads.nil width).congr width fun v => by simp
  | cons mode mouseModes ih =>
    have hle : mode.code ≤ 65535 := by cases mode <;> decide
    have hset (v : View) : v.setPrivateMode mode.code true =
        { v with modes := { v.modes with mouseModes := insert mode v.modes.mouseModes } } := by
      cases mode <;> rfl
    refine ((reads_privateMode width _ hle true).append width ih).congr width fun v => ?_
    simp [hset, Finset.insert_union]

end View

theorem MouseMode.toFinset_filter_all (mouseModes : Finset MouseMode) :
    (all.filter (· ∈ mouseModes)).toFinset = mouseModes := by
  ext mode
  have hall : mode ∈ all := by cases mode <;> decide
  simp [hall]

/-- The modes after the bytes for `modes` were read: the mouse modes of before stay on. -/
def TerminalModes.over (modes before : TerminalModes) : TerminalModes :=
  { modes with mouseModes := before.mouseModes ∪ modes.mouseModes }

namespace View

variable (width : Char → Option (Fin 3))

/-- **The mode bytes** set every mode but turn no mouse mode off, and send the cursor home. -/
theorem reads_restoreBytes (modes : TerminalModes) :
    Reads width modes.restoreBytes fun v =>
      { v with
        modes := modes.over v.modes
        cursorRow := if modes.origin then min v.scrollTop (v.rows - 1) else 0
        cursorCol := 0 } := by
  refine Reads.congr width (((((((reads_privateMode width _ (by omega) modes.autoWrap).append width
    (reads_privateMode width _ (by omega) modes.origin)).append width
    (reads_insertMode width modes.insert)).append width
    (reads_privateMode width _ (by omega) modes.applicationCursor)).append width
    (reads_keypadMode width modes.applicationKeypad)).append width
    (reads_privateMode width _ (by omega) modes.bracketedPaste)).append width
    (reads_mouseModes width _)) fun v => ?_
  simp only [Function.comp_apply, MouseMode.toFinset_filter_all]
  rfl

end View

/-! ### The state behind the rows -/

/-- A style written behind the rows: a default style is not written at all. -/
def CellStyle.laid (pen style : CellStyle) : CellStyle :=
  if style.isDefault then pen else overlay pen style

/-- The row that a written row leads to: in origin mode it is counted from the scroll region. -/
def SavedScreen.addressed (n : SavedScreen) (row : ℕ) : ℕ :=
  if n.modes.origin then min (n.scrollTop + row) (n.scrollBottom - 1) else row

/-- The saved cursor after it was written. -/
def SavedScreen.savedCursorAfter (n : SavedScreen) (rows cols : ℕ) (before : Option (ℕ × ℕ)) :
    Option (ℕ × ℕ) :=
  match n.savedCursor with
  | none => before
  | some (row, col) => some (n.addressed (min row (rows - 1)), min col (cols - 1))

namespace View

variable (width : Char → Option (Fin 3))

/-- The bytes that are written behind the rows of a screen. -/
def stateBytes (n : SavedScreen) (rows cols : ℕ) : List UInt8 :=
  n.modes.restoreBytes ++ (scrollRegionBytes n.scrollTop n.scrollBottom rows ++
    (savedCursorRestoreBytes n.savedCursor cols rows ++
      (cursorPositionBytes n.cursorRow n.cursorCol cols ++
        if n.currentStyle.isDefault then [] else n.currentStyle.sgrBytes false)))

theorem reads_styleBytes (style : CellStyle) :
    Reads width (if style.isDefault then [] else style.sgrBytes false)
      fun v => { v with currentStyle := v.currentStyle.laid style } := by
  split
  case isTrue hdefault =>
    refine (Reads.nil width).congr width fun v => ?_
    rw [CellStyle.laid, if_pos hdefault]
    rfl
  case isFalse hdefault =>
    refine (reads_sgrBytes width style false).congr width fun v => ?_
    rw [CellStyle.afterSgr, CellStyle.laid, if_neg hdefault, if_neg hdefault]
    rfl

variable {v : View} {n : SavedScreen}

/-- The scroll region, read on a screen of the size that it was written for. -/
theorem apply_scrollRegionBytes (hv : v.Idle) (hr : 1 ≤ v.rows) (hr' : v.rows ≤ 65535) {top bottom : ℕ}
    (hlt : top < bottom) (hle : bottom ≤ v.rows) :
    ∃ row, v.apply width (scrollRegionBytes top bottom v.rows) =
      { v with scrollTop := top, scrollBottom := bottom, cursorRow := row, cursorCol := 0 } := by
  have hset (params : List (Option ℕ)) (ht : oneBasedParam params 0 = top)
      (hb : paramOr params 1 v.rows = bottom) : ∃ row,
      { v with toRegisters := v.toRegisters.setScrollRegion params } =
        { v with scrollTop := top, scrollBottom := bottom, cursorRow := row, cursorCol := 0 } := by
    simp only [Registers.setScrollRegion, ht, hb, Nat.min_eq_left hle,
      Nat.min_eq_left (show top ≤ v.rows - 1 by omega),
      Nat.max_eq_left (show top + 1 ≤ bottom by omega)]
    exact ⟨_, rfl⟩
  rw [scrollRegionBytes]
  split
  case isTrue hfull =>
    obtain ⟨rfl, rfl⟩ := hfull
    rw [apply_csiBytes width hv false (by simp) (by decide)]
    exact hset [none] rfl rfl
  case isFalse =>
    rw [apply_csiBytes width hv false ?_ (by decide)]
    · refine hset [some (top + 1), some (max (min bottom v.rows) 1)] ?_ ?_
      · simp [oneBasedParam, paramOr]
      · simp [paramOr]
        omega
    · simp
      omega

/-- The cursor, read on a screen of the size that it was written for. -/
theorem apply_cursorBytes (hv : v.Idle) (hr' : v.rows ≤ 65535) (hc : 1 ≤ v.cols)
    (hc' : v.cols ≤ 65535) (hmodes : v.modes.origin = n.modes.origin) (htop : v.scrollTop = n.scrollTop)
    (hbottom : v.scrollBottom = n.scrollBottom) (row col : ℕ) (hrow : row < v.rows) :
    v.apply width (csiBytes false [row + 1, min col (v.cols - 1) + 1] 0x48) =
      { v with cursorRow := n.addressed row, cursorCol := min col (v.cols - 1) } := by
  rw [apply_csiBytes width hv false ?_ (by decide)]
  · have hrow' : v.cursorRowFromParam [some (row + 1), some (min col (v.cols - 1) + 1)] 0 =
        n.addressed row := by
      simp only [Registers.cursorRowFromParam, SavedScreen.addressed, hmodes, htop, hbottom]
      simp [oneBasedParam, paramOr, Nat.min_eq_left (show row ≤ v.rows - 1 by omega)]
    have hcol : min (oneBasedParam [some (row + 1), some (min col (v.cols - 1) + 1)] 1) (v.cols - 1) =
        min col (v.cols - 1) := by
      simp [oneBasedParam, paramOr]
    change { v with
      cursorRow := v.cursorRowFromParam [some (row + 1), some (min col (v.cols - 1) + 1)] 0
      cursorCol := min (oneBasedParam [some (row + 1), some (min col (v.cols - 1) + 1)] 1)
        (v.cols - 1) } = _
    rw [hrow', hcol]
  · simp
    omega

/-- The saved cursor; the cursor itself is moved on the way. -/
theorem apply_savedCursorBytes (hv : v.Idle) (hr : 1 ≤ v.rows) (hr' : v.rows ≤ 65535)
    (hc : 1 ≤ v.cols) (hc' : v.cols ≤ 65535) (hmodes : v.modes.origin = n.modes.origin)
    (htop : v.scrollTop = n.scrollTop) (hbottom : v.scrollBottom = n.scrollBottom) :
    ∃ row col, v.apply width (savedCursorRestoreBytes n.savedCursor v.cols v.rows) =
      { v with
        savedCursor := n.savedCursorAfter v.rows v.cols v.savedCursor
        cursorRow := row, cursorCol := col } := by
  simp only [savedCursorRestoreBytes, SavedScreen.savedCursorAfter]
  cases n.savedCursor with
  | none => exact ⟨v.cursorRow, v.cursorCol, rfl⟩
  | some saved =>
    obtain ⟨row, col⟩ := saved
    have hcursor := apply_cursorBytes (n := n) width hv hr' hc hc' hmodes htop hbottom
      (min row (v.rows - 1)) col (by omega)
    have hsave : Reads width [0x1b, 0x37] fun v => v.dispatchEscape .saveCursor :=
      reads_escape width .saveCursor (by decide)
    dsimp only
    rw [apply_append, hcursor]
    exact ⟨_, _, hsave.apply ⟨hv.ground, hv.utf8⟩⟩

/-- **The state bytes** restore everything but the rows; a style is laid over the active one, mouse
modes that were on stay on, and in origin mode rows are counted from the scroll region. -/
theorem apply_stateBytes (hv : v.Idle) (hr : 1 ≤ v.rows) (hr' : v.rows ≤ 65535) (hc : 1 ≤ v.cols)
    (hc' : v.cols ≤ 65535) (hlt : n.scrollTop < n.scrollBottom) (hle : n.scrollBottom ≤ v.rows)
    (hrow : n.cursorRow < v.rows) :
    v.apply width (stateBytes n v.rows v.cols) =
      { v with
        modes := n.modes.over v.modes
        scrollTop := n.scrollTop
        scrollBottom := n.scrollBottom
        savedCursor := n.savedCursorAfter v.rows v.cols v.savedCursor
        cursorRow := n.addressed n.cursorRow
        cursorCol := min n.cursorCol (v.cols - 1)
        currentStyle := v.currentStyle.laid n.currentStyle } := by
  obtain ⟨hmodes, -⟩ := reads_restoreBytes width n.modes v hv
  dsimp only at hmodes
  rw [stateBytes, apply_append, hmodes, apply_append]
  generalize hrow₁ : (if n.modes.origin then min v.scrollTop (v.rows - 1) else 0) = row₁
  obtain ⟨row₂, hregion⟩ := apply_scrollRegionBytes (v := { v with
      modes := n.modes.over v.modes, cursorRow := row₁, cursorCol := 0 }) width
    ⟨hv.ground, hv.utf8⟩ hr hr' hlt hle
  dsimp only at hregion
  rw [hregion, apply_append]
  obtain ⟨row₃, col₃, hsaved⟩ := apply_savedCursorBytes (n := n) (v := { v with
      modes := n.modes.over v.modes, scrollTop := n.scrollTop, scrollBottom := n.scrollBottom
      cursorRow := row₂, cursorCol := 0 }) width ⟨hv.ground, hv.utf8⟩ hr hr' hc hc' rfl rfl rfl
  dsimp only at hsaved
  rw [hsaved, apply_append]
  have hcursor := apply_cursorBytes (n := n) (v := { v with
      modes := n.modes.over v.modes, scrollTop := n.scrollTop, scrollBottom := n.scrollBottom
      savedCursor := n.savedCursorAfter v.rows v.cols v.savedCursor
      cursorRow := row₃, cursorCol := col₃ }) width ⟨hv.ground, hv.utf8⟩ hr' hc hc' rfl rfl rfl
    n.cursorRow n.cursorCol hrow
  dsimp only at hcursor
  rw [cursorPositionBytes, hcursor]
  exact (reads_styleBytes width n.currentStyle).apply ⟨hv.ground, hv.utf8⟩

end View

end Termd.Screen
