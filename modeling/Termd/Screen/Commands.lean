import Termd.Screen.Sound

/-!
# Commands of the screen cache

The commands that replace whole parts of the state: the alternate screen, the modes and the control
sequences. The home-and-clear shortcut of `ED 2` is a branch that the abstract terminal does not
have; it is only armed while the cursor is in the home position, where both branches show the same.

## Main definitions

* `TerminalScreen.CutSound`: when the home-and-clear shortcut may be armed
* `Applied s v t`: what a completed sequence leaves behind

## Main results

* `TerminalScreen.enterAlternateScreen_spec`, `TerminalScreen.leaveAlternateScreen_spec`: the two
  buffers
* `TerminalScreen.dispatchCsi_spec`: every control sequence refines its abstract counterpart
-/

namespace Termd.Screen

/-- The home-and-clear shortcut is only armed while the cursor is in the home position. -/
def TerminalScreen.CutSound (s : TerminalScreen) : Prop :=
  s.pendingHomeClearCut = true → s.cursorRow = 0 ∧ s.cursorCol = 0 ∧ s.utf8Pending = []

/-- A shortcut that is not armed is sound. -/
theorem TerminalScreen.cutSound_of_eq_false {s : TerminalScreen}
    (h : s.pendingHomeClearCut = false) : s.CutSound := by
  intro harmed
  rw [h] at harmed
  cases harmed

/-- What a completed sequence leaves behind. -/
structure Applied (s : TerminalScreen) (v : View) (t : TerminalScreen) : Prop where
  sound : t.Sound
  view_eq : t.view = v
  control_eq : t.pendingControl = s.pendingControl
  cut : t.CutSound

theorem Refines.applied {s t u : TerminalScreen} {v : View} (h : Refines t v u)
    (hcontrol : t.pendingControl = s.pendingControl) (hcut : t.pendingHomeClearCut = false) :
    Applied s v u where
  sound := h.sound
  view_eq := h.view_eq
  control_eq := h.control_eq.trans hcontrol
  cut := TerminalScreen.cutSound_of_eq_false (h.cut_eq.trans hcut)

namespace Registers

variable {r : Registers}

theorem homeRow_lt (h : r.Sound) : r.homeRow < r.rows := by
  have := h.one_le_rows
  rw [homeRow]
  split <;> omega

theorem cursorRowFromParam_lt (h : r.Sound) (params : List (Option ℕ)) (index : ℕ) :
    r.cursorRowFromParam params index < r.rows := by
  have := h.one_le_rows
  have := h.scroll_le
  simp only [cursorRowFromParam]
  split <;> omega

theorem setScrollRegion_sound (h : r.Sound) (params : List (Option ℕ)) :
    (r.setScrollRegion params).Sound := by
  have hrows := h.one_le_rows
  have hregion : Registers.Sound { r with
      scrollTop := min (oneBasedParam params 0) (r.rows - 1)
      scrollBottom := max (min (paramOr params 1 r.rows) r.rows)
        (min (oneBasedParam params 0) (r.rows - 1) + 1) } :=
    { h with
      scroll_lt := by simp
      scroll_le := by simp; omega }
  exact { hregion with cursorRow_lt := homeRow_lt hregion, cursorCol_le := Nat.zero_le _ }

/-- A private mode changes the modes, and origin mode also moves the cursor home. -/
theorem setPrivateMode_sound (h : r.Sound) (param : ℕ) (enabled : Bool) :
    (r.setPrivateMode param enabled).Sound ∧ (r.setPrivateMode param enabled).rows = r.rows ∧
      (r.setPrivateMode param enabled).cols = r.cols ∧
      (r.setPrivateMode param enabled).parser = r.parser ∧
      (r.setPrivateMode param enabled).utf8Pending = r.utf8Pending := by
  have hmodes (modes : TerminalModes) : Registers.Sound { r with modes } := { h with }
  rw [setPrivateMode]
  split
  · exact ⟨hmodes _, rfl, rfl, rfl, rfl⟩
  · split
    · exact ⟨hmodes _, rfl, rfl, rfl, rfl⟩
    split
    · have horigin := hmodes { r.modes with origin := enabled }
      exact ⟨{ horigin with cursorRow_lt := homeRow_lt horigin, cursorCol_le := Nat.zero_le _ },
        rfl, rfl, rfl, rfl⟩
    split
    · exact ⟨hmodes _, rfl, rfl, rfl, rfl⟩
    split
    · exact ⟨hmodes _, rfl, rfl, rfl, rfl⟩
    split
    · exact ⟨hmodes _, rfl, rfl, rfl, rfl⟩
    · exact ⟨h, rfl, rfl, rfl, rfl⟩

theorem restoreCursor_sound (h : r.Sound) :
    r.restoreCursor.Sound ∧ r.restoreCursor.rows = r.rows ∧ r.restoreCursor.cols = r.cols ∧
      r.restoreCursor.parser = r.parser := by
  have hrows := h.one_le_rows
  rw [restoreCursor]
  split
  case h_1 row col _ =>
    have hrow : min row (r.rows - 1) < r.rows := by omega
    have hcol : min col (r.cols - 1) ≤ r.cols + 1 := by omega
    exact ⟨{ h with cursorRow_lt := hrow, cursorCol_le := hcol }, rfl, rfl, rfl⟩
  case h_2 => exact ⟨h, rfl, rfl, rfl⟩

end Registers

namespace TerminalScreen

variable {s : TerminalScreen}

/-! ### The alternate screen and the modes -/

theorem blankLines_sound (rows cols : ℕ) :
    ∀ line ∈ (List.range rows).map fun index => TerminalLine.blank index cols false,
      line.Sound cols := by
  intro line hline
  obtain ⟨index, -, rfl⟩ := List.mem_map.mp hline
  exact CellsSound.replicate_styledBlank cols {}

theorem map_cells_blankLines (rows cols : ℕ) :
    (window rows ((List.range rows).map fun index => TerminalLine.blank index cols false)).map
      TerminalLine.cells = List.replicate rows (List.replicate cols .blank) := by
  rw [window_of_length (by simp), List.map_map]
  exact (List.map_const' ..).trans (by rw [List.length_range])

/-- A blank buffer, with any style and modes and in front of any normal screen. -/
theorem resetScreenBuffer_spec (h : s.Sound) (currentStyle : CellStyle) (modes : TerminalModes)
    (normalScreen : Option SavedScreen)
    (hnormal : ∀ n, normalScreen = some n → n.Sound s.rows s.cols s.maxCachedLines) :
    Refines s
      { s.view.resetScreenBuffer with
        currentStyle, modes, normal := normalScreen.map fun n => n.view s.rows s.cols }
      { s.resetScreenBuffer with currentStyle, modes, normalScreen } where
  sound := by
    have hmax := h.rows_le_max
    constructor
    · exact { h.registers with
        cursorRow_lt := h.registers.one_le_rows
        cursorCol_le := Nat.zero_le _
        scroll_lt := h.registers.one_le_rows
        scroll_le := le_rfl }
    · exact h.rows_le_max
    · simp [resetScreenBuffer]
    · simp only [resetScreenBuffer, maxLines, List.length_map, List.length_range]
      split <;> omega
    · exact blankLines_sound s.rows s.cols
    · exact hnormal
    · exact h.control_le
  view_eq := congrArg (fun grid => { s.view.resetScreenBuffer with
      currentStyle, modes, grid
      normal := normalScreen.map fun n : SavedScreen => n.view s.rows s.cols })
    (map_cells_blankLines s.rows s.cols)
  control_eq := rfl
  cut_eq := rfl

theorem save_sound (h : s.Sound) (hnormal : s.normalScreen = none) :
    s.save.Sound s.rows s.cols s.maxCachedLines := by
  have hle := h.lines_le
  rw [maxLines, hnormal] at hle
  exact ⟨h.rows_le_lines, hle, h.lines_sound, h.registers.cursorRow_lt, h.registers.cursorCol_le,
    h.registers.scroll_lt, h.registers.scroll_le⟩

theorem save_view (h : s.Sound) : s.save.view s.rows s.cols = s.view.save := by
  have hrow := h.registers.cursorRow_lt
  have hlt := h.registers.scroll_lt
  have hle := h.registers.scroll_le
  simp only [SavedScreen.view, View.save, save, view, SavedView.mk.injEq, true_and]
  omega

theorem enterAlternateScreen_spec (h : s.Sound) :
    Refines s s.view.enterAlternateScreen s.enterAlternateScreen := by
  cases hnormal : s.normalScreen with
  | none =>
    have href := resetScreenBuffer_spec h s.currentStyle s.modes (some s.save)
      fun n hn => Option.some.inj hn ▸ save_sound h hnormal
    simp only [enterAlternateScreen, hnormal]
    refine href.congr ?_
    simp only [View.enterAlternateScreen, Option.map_some, save_view h]
    simp only [view, hnormal]
    rfl
  | some n =>
    have href := resetScreenBuffer_spec h s.currentStyle s.modes _ h.normal_sound
    simp only [enterAlternateScreen, hnormal]
    refine href.congr ?_
    simp only [View.enterAlternateScreen, view, hnormal]
    rfl

theorem leaveAlternateScreen_spec (h : s.Sound) :
    Refines s s.view.leaveAlternateScreen s.leaveAlternateScreen := by
  have hrows := h.registers.one_le_rows
  have hcols := h.registers.one_le_cols
  cases hnormal : s.normalScreen with
  | none =>
    have href := resetScreenBuffer_spec h {} {} _ h.normal_sound
    simp only [leaveAlternateScreen, hnormal]
    refine href.congr ?_
    simp only [View.leaveAlternateScreen, view, hnormal]
    rfl
  | some n =>
    have hn := h.normal_sound n hnormal
    simp only [leaveAlternateScreen, View.leaveAlternateScreen, hnormal, view, Option.map_some]
    constructor
    · constructor
      · refine { h.registers with
          cursorRow_lt := ?_, cursorCol_le := ?_, scroll_lt := ?_, scroll_le := ?_ }
        all_goals simp
        all_goals omega
      · exact h.rows_le_max
      · exact hn.rows_le_lines
      · exact hn.lines_le
      · exact hn.lines_sound
      · simp
      · exact h.control_le
    · rfl
    · rfl
    · rfl

theorem setPublicModes_spec (h : s.Sound) (params : List (Option ℕ)) (enabled : Bool) :
    Refines s { s.view with toRegisters := s.toRegisters.setPublicModes params enabled }
      { s with toRegisters := s.toRegisters.setPublicModes params enabled } := by
  obtain ⟨modes, hmodes⟩ := s.toRegisters.exists_setPublicModes_eq params enabled
  rw [hmodes]
  exact h.refines_registers { h.registers with } rfl rfl

theorem setPrivateModes_spec (h : s.Sound) (params : List (Option ℕ)) (enabled : Bool) :
    Refines s (s.view.setPrivateModes params enabled) (s.setPrivateModes params enabled) := by
  rw [setPrivateModes, View.setPrivateModes]
  generalize params.filterMap id = values
  induction values generalizing s with
  | nil => exact h.refl
  | cons value values ih =>
    have hone : Refines s (s.view.setPrivateMode value enabled) (s.setPrivateMode value enabled) := by
      rw [setPrivateMode, View.setPrivateMode]
      split
      · split
        · exact enterAlternateScreen_spec h
        · exact leaveAlternateScreen_spec h
      · have hr := Registers.setPrivateMode_sound h.registers value enabled
        exact h.refines_registers hr.1 hr.2.1 hr.2.2.1
    have hrest := ih hone.sound
    rw [hone.view_eq] at hrest
    exact hone.trans hrest

/-- **Control sequences** do not panic and do what they do on the abstract terminal. -/
theorem dispatchCsi_spec (h : s.Sound) (hcut : s.CutSound) (hutf : s.utf8Pending = [])
    (isPrivate : Bool) (params : List (Option ℕ)) (action : CsiAction) :
    Ensures (s.dispatchCsi isPrivate params action)
      (Applied s (s.view.dispatchCsi isPrivate params action)) := by
  have hr := h.registers
  have hrows := hr.one_le_rows
  have hrow := hr.cursorRow_lt
  have hcol := hr.cursorCol_le
  -- the screen with the shortcut disarmed, on which all but three of the sequences work
  have hoff (redraw : Bool) : Sound
      { s with requiresSnapshotRedraw := redraw, pendingHomeClearCut := false } := { h with }
  cases action with
  | cursorUp =>
    have hlt : s.cursorRow - paramOr params 0 1 < s.rows := by omega
    exact .some (((hoff _).refines_cursorRow hlt).applied rfl rfl)
  | cursorDown =>
    have hlt : min (s.cursorRow + paramOr params 0 1) (s.rows - 1) < s.rows := by omega
    exact .some (((hoff _).refines_cursorRow hlt).applied rfl rfl)
  | cursorForward =>
    have hle : min (s.cursorCol + paramOr params 0 1) (s.cols - 1) ≤ s.cols + 1 := by omega
    exact .some (((hoff _).refines_cursorCol hle).applied rfl rfl)
  | cursorBack =>
    have hle : s.cursorCol - paramOr params 0 1 ≤ s.cols + 1 := by omega
    exact .some (((hoff _).refines_cursorCol hle).applied rfl rfl)
  | cursorColumn =>
    have hle : min (oneBasedParam params 0) (s.cols - 1) ≤ s.cols + 1 := by omega
    exact .some (((hoff _).refines_cursorCol hle).applied rfl rfl)
  | cursorPosition =>
    have hlt := Registers.cursorRowFromParam_lt hr params 0
    have hle : min (oneBasedParam params 1) (s.cols - 1) ≤ s.cols + 1 := by omega
    have href := (hoff true).refines_cursor hlt hle
    refine .some ⟨{ href.sound with }, href.view_eq, rfl, fun harmed => ?_⟩
    have hhome := of_decide_eq_true harmed
    exact ⟨hhome.1, hhome.2, hutf⟩
  | eraseDisplay =>
    have herase := eraseDisplay_spec
      (s := { s with requiresSnapshotRedraw := s.requiresSnapshotRedraw || true }) { h with }
      (fun hc => ⟨(hcut hc).1, (hcut hc).2.1⟩) (paramOr params 0 0)
    refine herase.bind fun t ht => .some ?_
    exact ⟨{ ht.sound with }, ht.view_eq, ht.control_eq, cutSound_of_eq_false rfl⟩
  | eraseLine => exact (eraseLine_spec (hoff _) (paramOr params 0 0)).mono fun t ht => ht.applied rfl rfl
  | sgr =>
    exact .some ⟨{ h with registers := { hr with } }, rfl, rfl, hcut⟩
  | scrollRegion =>
    exact .some (((hoff _).refines_registers (Registers.setScrollRegion_sound hr params) rfl
      rfl).applied rfl rfl)
  | scrollUp =>
    exact (scrollUpRegion_spec (hoff _) (paramOr params 0 1)).mono fun t ht => ht.applied rfl rfl
  | scrollDown =>
    exact (scrollDown_spec (hoff _) (paramOr params 0 1)).mono fun t ht => ht.applied rfl rfl
  | cursorLine =>
    exact .some (((hoff _).refines_cursorRow
      (Registers.cursorRowFromParam_lt hr params 0)).applied rfl rfl)
  | setMode =>
    cases isPrivate with
    | true => exact .some ((setPrivateModes_spec (hoff _) params true).applied rfl rfl)
    | false => exact .some ((setPublicModes_spec (hoff _) params true).applied rfl rfl)
  | resetMode =>
    cases isPrivate with
    | true => exact .some ((setPrivateModes_spec (hoff _) params false).applied rfl rfl)
    | false => exact .some ((setPublicModes_spec (hoff _) params false).applied rfl rfl)
  | other => exact .some ((hoff _).refl.applied rfl rfl)

end TerminalScreen

end Termd.Screen
