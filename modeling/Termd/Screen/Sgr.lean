import Termd.Screen.Sequences

/-!
# Styles are read back

The screen cache writes a style as one SGR sequence and reads such sequences with the parser of its
terminal. Where the writer puts a reset in front, the style that was active before does not matter;
where it leaves the reset out, the style that was active before is the default one. In both cases
the style that was written is the current style afterwards, whatever the screen shows.

The type of styles holds the colours that the reader can store and no others.

## Main definitions

* `TerminalScreen.ReadsBack`: the style that the screen wrote over another is its current style

## Main results

* `View.currentStyle_apply_sgrBytes`: what a terminal makes of a style, with and without the reset
* `TerminalScreen.readsBack_of_run`: every style is read back, on every screen
-/

namespace Termd.Screen

namespace CellStyle

/-- Behind a reset the style that was active before is forgotten. -/
theorem afterSgr_reset (pen style : CellStyle) : pen.afterSgr style true = style := by
  by_cases hdefault : style.isDefault = true
  · rw [afterSgr, if_pos hdefault]
    exact (of_decide_eq_true hdefault).symm
  · rw [afterSgr, if_neg hdefault, if_pos rfl, overlay_default]

/-- Over the default style no reset is needed. -/
theorem afterSgr_default (style : CellStyle) (resetFirst : Bool) :
    afterSgr {} style resetFirst = style := by
  by_cases hdefault : style.isDefault = true
  · rw [afterSgr, if_pos hdefault]
    exact (of_decide_eq_true hdefault).symm
  · rw [afterSgr, if_neg hdefault, ite_self, overlay_default]

end CellStyle

variable (width : Char → Option (Fin 3))

/-- **A style is read** outside of any control sequence, also behind a character that was never
completed. -/
theorem View.currentStyle_apply_sgrBytes {v : View} (h : v.parser = .ground) (style : CellStyle)
    (resetFirst : Bool) :
    (v.apply width (style.sgrBytes resetFirst)).currentStyle =
      v.currentStyle.afterSgr style resetFirst := by
  obtain ⟨grid, row, col, hflush⟩ := v.exists_flushInvalidUtf8_eq width
  have hidle : (v.flushInvalidUtf8 width).Idle := by
    rw [hflush]
    exact ⟨h, rfl⟩
  -- the escape byte closes the character, and nothing else happens before it
  have hfirst : v.applyByte width 0x1b = (v.flushInvalidUtf8 width).applyByte width 0x1b := by
    rw [applyByte_escape width hidle, applyByte_ground width h, if_pos rfl]
    rfl
  obtain ⟨rest, hrest⟩ : ∃ rest, style.sgrBytes resetFirst = 0x1b :: rest := by
    rw [CellStyle.sgrBytes]
    split_ifs
    · exact ⟨_, rfl⟩
    · exact ⟨_, rfl⟩
  have hread := (reads_sgrBytes width style resetFirst).apply hidle
  rw [hrest, apply_cons, ← hfirst, ← apply_cons, ← hrest] at hread
  rw [hread, hflush]

namespace TerminalScreen

/-- What the screen writes for `style` while `pen` is active is read back. -/
structure ReadsBack (s : TerminalScreen) (pen style : CellStyle) : Prop where
  reset : ¬pen.isDefault = true ∨ style.isDefault = true →
    Ensures (apply width { s with currentStyle := pen } (style.sgrBytes true))
      fun t => t.currentStyle = style
  plain : pen.isDefault = true →
    Ensures (apply width { s with currentStyle := pen } (style.sgrBytes false))
      fun t => t.currentStyle = style

variable {s : TerminalScreen}

/-- Another pen does not touch the invariant. -/
theorem Steady.withStyle (h : s.Steady) (pen : CellStyle) :
    Steady { s with currentStyle := pen } where
  sound := { h.sound with registers := { h.sound.registers with } }
  cut := h.cut
  idle := h.idle

theorem currentStyle_of_sgrBytes (h : s.Steady) (hground : s.parser = .ground)
    (pen style : CellStyle) (resetFirst : Bool) :
    Ensures (apply width { s with currentStyle := pen } (style.sgrBytes resetFirst))
      fun t => t.currentStyle = pen.afterSgr style resetFirst := by
  refine (apply_spec width (h.withStyle pen) _).mono fun t ht => ?_
  have hview : t.view.currentStyle = _ := congrArg (fun v : View => v.currentStyle) ht.2
  rw [View.currentStyle_apply_sgrBytes width hground] at hview
  exact hview

/-- **The round trip of styles.** On every screen, whatever was written to it and however its size
changed, every style is read back over every other, once no control sequence is open. -/
theorem readsBack_of_run (rows cols : UInt16) (ops : List ScreenOp) :
    Ensures (exec (ScreenOp.step width) (new rows cols) ops) fun s =>
      s.parser = .ground → ∀ pen style, s.ReadsBack width pen style := by
  refine (steady_of_run width (new_steady rows cols) ops).mono fun s hs hground pen style => ?_
  constructor
  · intro _
    have hstyle := currentStyle_of_sgrBytes width hs hground pen style true
    rwa [CellStyle.afterSgr_reset] at hstyle
  · intro hdefault
    obtain rfl : pen = {} := of_decide_eq_true hdefault
    have hstyle := currentStyle_of_sgrBytes width hs hground {} style false
    rwa [CellStyle.afterSgr_default] at hstyle

end TerminalScreen

end Termd.Screen
