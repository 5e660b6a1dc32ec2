import Termd.Library.Transition
import Termd.Screen.Commands
import Termd.Screen.Snapshot

/-!
# The byte stream

`applyByte` feeds one byte through the parser. Between two bytes a screen is `Steady`: it is sound,
the home-and-clear shortcut is armed only in the home position, and no UTF-8 sequence is open
inside a control sequence. Every byte keeps this and refines the abstract terminal; a resize keeps
it too.

## Main definitions

* `TerminalScreen.Steady`: the invariant between two bytes
* `controlAfter`: the pending control bytes after one more byte

## Main results

* `TerminalScreen.applyByte_spec`: one byte
* `TerminalScreen.apply_spec`: a byte string
* `TerminalScreen.resize_steady`: a change of the size
* `TerminalScreen.safe_of_run`: the safety of every run of `apply` and `resize`
-/

namespace Termd.Screen

/-- The pending control bytes after one more byte. -/
def controlAfter (parser : ParserState) (control : List UInt8) (byte : UInt8) : List UInt8 :=
  if parser = .ground then if byte = 0x1b then [byte] else control
  else if (parser.next byte).1 = .ground then []
  else TerminalScreen.pushControl control byte

namespace TerminalScreen

variable {s : TerminalScreen}

/-- The invariant between two bytes. -/
structure Steady (s : TerminalScreen) : Prop where
  sound : s.Sound
  cut : s.CutSound
  idle : s.parser ≠ .ground → s.utf8Pending = []

/-! ### Text -/

variable (width : Char → Option (Fin 3))

theorem Sound.clearUtf8 (h : s.Sound) :
    Refines s { s.view with utf8Pending := [] } { s with utf8Pending := [] } :=
  h.refines_registers { h.registers with utf8_le := Nat.zero_le _, utf8_high := by simp } rfl rfl

theorem printable_replacement : Printable '\ufffd' := by decide

theorem flushInvalidUtf8_spec (h : s.Sound) :
    Ensures (s.flushInvalidUtf8 width) (Refines s (s.view.flushInvalidUtf8 width)) := by
  refine Ensures.refines_ite Iff.rfl (fun _ => .some h.refl) fun _ => ?_
  exact h.clearUtf8.andThen (printChar_spec width h.clearUtf8.sound printable_replacement)

theorem printChars_spec (h : s.Sound) {chars : List Char} (hc : ∀ c ∈ chars, Printable c) :
    Ensures (printChars width chars s)
      (Refines s (chars.foldl (fun v c => v.printChar width c) s.view)) := by
  induction chars generalizing s with
  | nil => exact .some h.refl
  | cons c chars ih =>
    refine (printChar_spec width h (hc c List.mem_cons_self)).bind fun t ht => ht.andThen ?_
    have hrest := ih ht.sound fun d hd => hc d (List.mem_cons_of_mem c hd)
    rwa [ht.view_eq] at hrest

theorem pushUtf8Byte_spec (h : s.Sound) {byte : UInt8} (hb : 0x80 ≤ byte.toNat) :
    Ensures (s.pushUtf8Byte width byte) (Refines s (s.view.pushUtf8Byte width byte)) := by
  have hhigh : ∀ b ∈ s.utf8Pending ++ [byte], 0x80 ≤ b.toNat := by
    intro b hmem
    rcases List.mem_append.mp hmem with hmem | hmem
    · exact h.registers.utf8_high b hmem
    · rwa [List.mem_singleton.mp hmem]
  have hreplace := h.clearUtf8.andThen
    (printChar_spec width h.clearUtf8.sound printable_replacement)
  simp only [pushUtf8Byte, View.pushUtf8Byte, view_toRegisters]
  cases hdecode : fromUtf8 (s.utf8Pending ++ [byte]) with
  | ok chars =>
    have hprint : ∀ c ∈ chars, Printable c := fun c hc => by
      have := le_toNat_of_fromUtf8 hdecode hhigh c hc
      exact ⟨by omega, by omega⟩
    exact h.clearUtf8.andThen (printChars_spec width h.clearUtf8.sound hprint)
  | incomplete =>
    refine Ensures.refines_ite Iff.rfl (fun hlen => .some ?_) fun _ => hreplace
    exact h.refines_registers { h.registers with utf8_le := hlen, utf8_high := hhigh } rfl rfl
  | invalid => exact hreplace

/-- What one byte leaves behind. -/
structure Stepped (s : TerminalScreen) (byte : UInt8) (t : TerminalScreen) : Prop where
  sound : t.Sound
  view_eq : t.view = s.view.applyByte width byte
  control_eq : t.pendingControl = controlAfter s.parser s.pendingControl byte
  cut : t.CutSound

theorem printable_ofNat {byte : UInt8} (h : inRange 0x20 0x7e byte = true) :
    Printable (Char.ofNat byte.toNat) := by
  have hr := inRange_iff.mp h
  simp at hr
  have hv : byte.toNat.isValidChar := Or.inl (by omega)
  have hn : (Char.ofNat byte.toNat).toNat = byte.toNat := by
    rw [Char.ofNat, dif_pos hv]
    rfl
  rw [Printable, hn]
  omega

theorem ofByte_eq_escape_iff (byte : UInt8) : GroundAction.ofByte byte = .escape ↔ byte = 0x1b := by
  rw [GroundAction.ofByte]
  split_ifs <;> simp_all

theorem inRange_of_print {byte : UInt8} (h : GroundAction.ofByte byte = .print) :
    inRange 0x20 0x7e byte = true := by
  rw [GroundAction.ofByte] at h
  split_ifs at h
  assumption

theorem le_toNat_of_utf8 {byte : UInt8} (h : GroundAction.ofByte byte = .utf8) :
    0x80 ≤ byte.toNat := by
  rw [GroundAction.ofByte] at h
  split_ifs at h with h1 h2 h3 h4 h5 h6 h7
  simp only [Bool.or_eq_true, beq_iff_eq, inRange_iff, ← UInt8.toNat_inj] at h6 h7
  simp at h6 h7
  omega

/-- Text outside of control sequences. -/
theorem applyGroundByte_spec (h : s.Steady) (hparser : s.parser = .ground) (byte : UInt8) :
    Ensures (s.applyGroundByte width byte) (Stepped width s byte) := by
  have hflush := flushInvalidUtf8_spec width h.sound
  have hoff {t : TerminalScreen} (ht : t.Sound) (redraw : Bool) : Sound
      { t with pendingHomeClearCut := false, requiresSnapshotRedraw := redraw } := { ht with }
  by_cases hescape : byte = 0x1b
  · subst hescape
    refine hflush.bind fun t ht => .some ⟨?_, ?_, ?_, fun harmed => ?_⟩
    · change Sound { t with pendingControl := [0x1b], parser := .escape }
      exact { ht.sound with registers := { ht.sound.registers with }, control_le := (by decide : 1 ≤ maxPendingControlBytes) }
    · rw [View.applyByte_ground width hparser, if_pos rfl, show s.view.applyText width 0x1b =
        s.view.flushInvalidUtf8 width from rfl, ← ht.view_eq]
      rfl
    · rw [controlAfter, if_pos hparser, if_pos rfl]
      rfl
    · -- an armed shortcut means that nothing was flushed
      have hs : s.pendingHomeClearCut = true := ht.cut_eq ▸ harmed
      obtain ⟨hrow, hcol, hutf⟩ := h.cut hs
      have hview : t.view = s.view := ht.view_eq.trans (if_pos hutf)
      have hreg : t.toRegisters = s.toRegisters := congrArg View.toRegisters hview
      change t.cursorRow = 0 ∧ t.cursorCol = 0 ∧ t.utf8Pending = []
      rw [hreg]
      exact ⟨hrow, hcol, hutf⟩
  -- any other byte leaves the parser and the control bytes as they are
  have hplain {t : TerminalScreen} (ht : t.Sound) (hview : t.view = s.view.applyText width byte)
      (hcontrol : t.pendingControl = s.pendingControl) (hcut : t.pendingHomeClearCut = false) :
      Stepped width s byte t := by
    refine ⟨ht, ?_, ?_, ?_⟩
    · rw [View.applyByte_text width hparser hescape, hview]
    · rw [controlAfter, if_pos hparser, if_neg hescape, hcontrol]
    · intro harmed
      rw [hcut] at harmed
      cases harmed
  rw [applyGroundByte]
  cases haction : GroundAction.ofByte byte with
  | escape => exact absurd ((ofByte_eq_escape_iff byte).mp haction) hescape
  | carriageReturn =>
    refine hflush.bind fun t ht => .some ?_
    have hmoved := (hoff ht.sound t.requiresSnapshotRedraw).refines_cursorCol (Nat.zero_le _)
    refine hplain hmoved.sound (hmoved.view_eq.trans ?_) ht.control_eq rfl
    rw [View.applyText, haction, ← ht.view_eq]
    rfl
  | lineFeed =>
    refine hflush.bind fun t ht => (lineFeed_spec (hoff ht.sound t.requiresSnapshotRedraw)).bind
      fun u hu => .some ?_
    have hmoved := hu.sound.refines_cursorCol (Nat.zero_le _)
    refine hplain hmoved.sound (hmoved.view_eq.trans ?_) (hu.control_eq.trans ht.control_eq)
      hu.cut_eq
    rw [View.applyText, haction, hu.view_eq, ← ht.view_eq]
    rfl
  | backspace =>
    refine hflush.bind fun t ht => .some ?_
    have hcol := ht.sound.registers.cursorCol_le
    have hmoved := (hoff ht.sound true).refines_cursorCol (by change t.cursorCol - 1 ≤ t.cols + 1; omega)
    refine hplain hmoved.sound (hmoved.view_eq.trans ?_) ht.control_eq rfl
    rw [View.applyText, haction, ← ht.view_eq]
    rfl
  | tab =>
    refine hflush.bind fun t ht => .some ?_
    have hmoved := (hoff ht.sound true).refines_cursorCol
      (by change min ((t.cursorCol / 8 + 1) * 8) (t.cols - 1) ≤ t.cols + 1; omega)
    refine hplain hmoved.sound (hmoved.view_eq.trans ?_) ht.control_eq rfl
    rw [View.applyText, haction, ← ht.view_eq]
    rfl
  | control =>
    refine (flushInvalidUtf8_spec width (hoff h.sound s.requiresSnapshotRedraw)).mono fun t ht => ?_
    refine hplain ht.sound (ht.view_eq.trans ?_) ht.control_eq ht.cut_eq
    rw [View.applyText, haction]
    rfl
  | print =>
    refine hflush.bind fun t ht => ?_
    refine (printChar_spec width (hoff ht.sound t.requiresSnapshotRedraw)
      (printable_ofNat (inRange_of_print haction))).mono fun u hu => ?_
    refine hplain hu.sound (hu.view_eq.trans ?_) (hu.control_eq.trans ht.control_eq) hu.cut_eq
    rw [View.applyText, haction, ← ht.view_eq]
    rfl
  | utf8 =>
    refine (pushUtf8Byte_spec width (hoff h.sound s.requiresSnapshotRedraw)
      (le_toNat_of_utf8 haction)).mono fun t ht => ?_
    refine hplain ht.sound (ht.view_eq.trans ?_) ht.control_eq ht.cut_eq
    rw [View.applyText, haction]
    rfl

/-! ### Control sequences -/

theorem length_pushControl {control : List UInt8} (h : control.length ≤ maxPendingControlBytes)
    (byte : UInt8) : (pushControl control byte).length ≤ maxPendingControlBytes := by
  rw [pushControl]
  split
  · rwa [List.length_append, List.length_singleton]
  · exact h

/-- The sequence goes on: the byte is recorded and nothing else happens. -/
theorem wait_spec (h : s.Steady) (hparser : s.parser ≠ .ground) {byte : UInt8}
    {parser : ParserState} (hnext : s.parser.next byte = (parser, .none))
    (hgoes : parser ≠ .ground) :
    Stepped width s byte
      { pushPendingControlByte { s with parser := .ground } byte with parser } where
  sound := { h.sound with
    registers := { h.sound.registers with }
    control_le := length_pushControl h.sound.control_le byte }
  view_eq := by
    have hnone : (s.view.parser.next byte).2 = .none := congrArg Prod.snd hnext
    rw [View.applyByte_of_none width hnone, view_toRegisters, hnext]
    rfl
  control_eq := by
    rw [controlAfter, if_neg hparser, hnext, if_neg hgoes]
    rfl
  cut := h.cut

/-- The sequence ends: the control bytes are cleared and the command is carried out. -/
theorem finish_spec (hparser : s.parser ≠ .ground) {byte : UInt8} {command : Command}
    (hnext : s.parser.next byte = (.ground, command)) {t : TerminalScreen} (ht : t.Sound)
    (hview : t.view = (s.view.setParser .ground).exec width command) (hground : t.parser = .ground)
    (hcontrol : t.pendingControl = []) (hcut : t.CutSound) : Stepped width s byte t where
  sound := ht
  view_eq := by
    rw [View.applyByte, view_toRegisters, hnext, ← hview]
    exact (View.setParser_self hground).symm
  control_eq := by rw [controlAfter, if_neg hparser, hnext, if_pos rfl, hcontrol]
  cut := hcut

/-- A sequence that only changes registers. -/
theorem finish_registers_spec (h : s.Steady) (hparser : s.parser ≠ .ground) {byte : UInt8}
    {command : Command} (hnext : s.parser.next byte = (.ground, command)) {r : Registers}
    (hr : r.Sound) (hrows : r.rows = s.rows) (hcols : r.cols = s.cols) (hground : r.parser = .ground)
    (hexec : (s.view.setParser .ground).exec width command = { s.view with toRegisters := r }) :
    Stepped width s byte
      { s with toRegisters := r, pendingControl := [], pendingHomeClearCut := false } := by
  have href := h.sound.refines_registers hr hrows hcols
  exact finish_spec width hparser hnext { href.sound with control_le := Nat.zero_le _ }
    (href.view_eq.trans hexec.symm) hground rfl (cutSound_of_eq_false rfl)

theorem applyEscapeByte_spec (h : s.Steady) (hparser : s.parser = .escape) (byte : UInt8) :
    Stepped width s byte
      ((pushPendingControlByte { s with parser := .ground } byte).applyEscapeByte byte) := by
  have hne : s.parser ≠ .ground := by simp [hparser]
  have hr := h.sound.registers
  have hnext : s.parser.next byte = ParserState.next .escape byte := by rw [hparser]
  rw [ParserState.next] at hnext
  rw [applyEscapeByte]
  cases haction : EscapeAction.ofByte byte with
  | csi => exact wait_spec width h hne (by rw [hnext, haction]) (by simp)
  | osc => exact wait_spec width h hne (by rw [hnext, haction]) (by simp)
  | intermediate =>
    have hwait := wait_spec width h hne (by rw [hnext, haction])
      (by simp : ParserState.escapeIntermediate ≠ .ground)
    exact ⟨{ hwait.sound with }, hwait.view_eq, hwait.control_eq, cutSound_of_eq_false rfl⟩
  | saveCursor =>
    exact finish_registers_spec width h hne (by rw [hnext, haction]) { hr with } rfl rfl rfl rfl
  | restoreCursor =>
    have hs : Registers.Sound { s.toRegisters with parser := .ground } := { hr with }
    obtain ⟨hsound, hrows, hcols, hground⟩ := Registers.restoreCursor_sound hs
    exact finish_registers_spec width h hne (by rw [hnext, haction]) hsound hrows hcols hground rfl
  | keypadOn =>
    exact finish_registers_spec width h hne (by rw [hnext, haction]) { hr with } rfl rfl rfl rfl
  | keypadOff =>
    exact finish_registers_spec width h hne (by rw [hnext, haction]) { hr with } rfl rfl rfl rfl
  | other =>
    exact finish_registers_spec width h hne (by rw [hnext, haction]) { hr with } rfl rfl rfl rfl
  | reset =>
    have hpushed : Sound (pushPendingControlByte { s with parser := .ground } byte) :=
      { h.sound with
        registers := { hr with }, control_le := length_pushControl h.sound.control_le byte }
    have hclear := refill_cursor_spec hpushed true hr.one_le_rows (Nat.zero_le _)
    have hcleared : Sound
        { (pushPendingControlByte { s with parser := .ground } byte).refill true with
          cursorRow := 0, cursorCol := 0, savedCursor := none, currentStyle := {}, modes := {}
          parser := .ground, pendingControl := [], pendingHomeClearCut := false } :=
      { hclear.sound with
        registers := { hclear.sound.registers with }, control_le := Nat.zero_le _ }
    refine finish_spec width hne (by rw [hnext, haction]) { hcleared with } ?_ rfl rfl
      (cutSound_of_eq_false rfl)
    have hview := congrArg (fun v : View => { v with
      savedCursor := none, currentStyle := {}, modes := {}, parser := .ground }) hclear.view_eq
    exact hview

/-- **One byte** does not panic and does what it does on the abstract terminal. -/
theorem applyByte_spec (h : s.Steady) (byte : UInt8) :
    Ensures (s.applyByte width byte) (Stepped width s byte) := by
  have hr := h.sound.registers
  rw [applyByte]
  cases hparser : s.parser with
  | ground =>
    have hs : ({ s with parser := .ground } : TerminalScreen) = s := by
      rw [← hparser]
    dsimp only
    rw [hs]
    exact applyGroundByte_spec width h hparser byte
  | escape => exact .some (applyEscapeByte_spec width h hparser byte)
  | escapeIntermediate =>
    have hne : s.parser ≠ .ground := by simp [hparser]
    have hnext : s.parser.next byte = ParserState.next .escapeIntermediate byte := by rw [hparser]
    rw [ParserState.next] at hnext
    dsimp only
    split
    case isTrue hc => exact .some (wait_spec width h hne (by rw [hnext, if_pos hc]) (by simp))
    case isFalse hc =>
      refine .some (finish_spec width hne (by rw [hnext, if_neg hc]) ?_ rfl rfl rfl h.cut)
      exact { h.sound with registers := { hr with }, control_le := Nat.zero_le _ }
  | osc =>
    have hne : s.parser ≠ .ground := by simp [hparser]
    have hnext : s.parser.next byte = ParserState.next .osc byte := by rw [hparser]
    rw [ParserState.next] at hnext
    dsimp only
    split
    case isTrue hc =>
      refine .some (finish_spec width hne (by rw [hnext, if_pos hc]) ?_ rfl rfl rfl h.cut)
      exact { h.sound with registers := { hr with }, control_le := Nat.zero_le _ }
    case isFalse hc =>
      rw [if_neg hc] at hnext
      split
      case isTrue hc' => exact .some (wait_spec width h hne (by rw [hnext, if_pos hc']) (by simp))
      case isFalse hc' => exact .some (wait_spec width h hne (by rw [hnext, if_neg hc']) (by simp))
  | oscEscape =>
    have hne : s.parser ≠ .ground := by simp [hparser]
    have hnext : s.parser.next byte = ParserState.next .oscEscape byte := by rw [hparser]
    rw [ParserState.next] at hnext
    dsimp only
    split
    case isTrue hc =>
      refine .some (finish_spec width hne (by rw [hnext, if_pos hc]) ?_ rfl rfl rfl h.cut)
      exact { h.sound with registers := { hr with }, control_le := Nat.zero_le _ }
    case isFalse hc => exact .some (wait_spec width h hne (by rw [hnext, if_neg hc]) (by simp))
  | csi isPrivate params current =>
    have hne : s.parser ≠ .ground := by simp [hparser]
    have hnext : s.parser.next byte = ParserState.next (.csi isPrivate params current) byte := by
      rw [hparser]
    rw [ParserState.next] at hnext
    dsimp only
    split
    case isTrue hc => exact .some (wait_spec width h hne (by rw [hnext, if_pos hc]) (by simp))
    case isFalse hc =>
    rw [if_neg hc] at hnext
    split
    case isTrue hc => exact .some (wait_spec width h hne (by rw [hnext, if_pos hc]) (by simp))
    case isFalse hc =>
    rw [if_neg hc] at hnext
    split
    case isTrue hc => exact .some (wait_spec width h hne (by rw [hnext, if_pos hc]) (by simp))
    case isFalse hc =>
    rw [if_neg hc] at hnext
    split
    case isTrue hc =>
      rw [if_pos hc] at hnext
      have hcleared : Sound { s with parser := .ground, pendingControl := [] } :=
        { h.sound with registers := { hr with }, control_le := Nat.zero_le _ }
      refine (dispatchCsi_spec hcleared h.cut (h.idle hne) isPrivate (params ++ [current])
        (.ofByte byte)).mono fun t ht => ?_
      have hground : t.view.parser = .ground := by
        rw [ht.view_eq]
        exact (View.SameFrame.dispatchCsi ..).parser_eq
      exact finish_spec width hne hnext ht.sound ht.view_eq hground ht.control_eq ht.cut
    case isFalse hc => exact .some (wait_spec width h hne (by rw [hnext, if_neg hc]) (by simp))

theorem Stepped.steady {t : TerminalScreen} {byte : UInt8} (h : s.Steady)
    (ht : Stepped width s byte t) : t.Steady where
  sound := ht.sound
  cut := ht.cut
  idle hparser := by
    have hview : t.view.parser ≠ .ground → t.view.utf8Pending = [] := by
      rw [ht.view_eq]
      exact View.applyByte_idle width h.idle
    exact hview hparser

/-- **A byte string** does not panic and does what it does on the abstract terminal. -/
theorem apply_spec (h : s.Steady) (bytes : List UInt8) :
    Ensures (s.apply width bytes) fun t => t.Steady ∧ t.view = s.view.apply width bytes := by
  induction bytes generalizing s with
  | nil => exact .some ⟨h, rfl⟩
  | cons byte bytes ih =>
    refine (applyByte_spec width h byte).bind fun t ht => ?_
    have hrest := ih (ht.steady width h)
    rwa [ht.view_eq] at hrest

/-! ### New screens and changes of the size -/

theorem new_steady (rows cols : UInt16) : (new rows cols).Steady where
  sound := by
    have hrows := rows.toNat_lt
    have hcols := cols.toNat_lt
    constructor
    · constructor
      all_goals simp [new, withMaxCachedLines]
      all_goals omega
    · simp [new, withMaxCachedLines]
    · simp [new, withMaxCachedLines]
    · simp [new, withMaxCachedLines, maxLines]
    · exact blankLines_sound _ _
    · simp [new, withMaxCachedLines]
    · exact Nat.zero_le _
  cut := by simp [CutSound, new, withMaxCachedLines]
  idle _ := rfl

theorem resize_line_sound {line : TerminalLine} {cols : ℕ} (h : line.Sound cols) (cols' : ℕ) :
    (line.resize cols').Sound cols' := CellsSound.resize h.printable

/-- The lines of the screen in front after a resize. -/
theorem exists_resizeLines_eq (h : s.Sound) (rows cols : ℕ) :
    ∃ lines nextLineIndex, s.resizeLines rows cols =
        { s with
          rows, cols, maxCachedLines := max s.maxCachedLines rows, lines, nextLineIndex } ∧
      rows ≤ lines.length ∧
      lines.length ≤ (if s.normalScreen.isSome then rows else max s.maxCachedLines rows) ∧
      ∀ line ∈ lines, line.Sound cols := by
  generalize hkeep : (if s.normalScreen.isSome then rows else max s.maxCachedLines rows) = keep
  have hrows : rows ≤ keep := by
    rw [← hkeep]
    split <;> omega
  have hsound : ∀ line ∈ s.lines.map fun line => line.resize cols, line.Sound cols := by
    intro line hline
    obtain ⟨old, hold, rfl⟩ := List.mem_map.mp hline
    exact resize_line_sound (h.lines_sound old hold) cols
  rw [resizeLines]
  generalize s.lines.map (fun line => line.resize cols) = old at *
  by_cases hshort : rows ≤ old.length
  · -- nothing to add; only the trimming shortens the lines
    simp only [Nat.sub_eq_zero_of_le hshort]
    refine ⟨old.drop (old.length - keep), s.nextLineIndex, ?_, ?_, ?_, ?_⟩
    · rw [← hkeep]
      rfl
    · rw [List.length_drop]
      omega
    · rw [List.length_drop]
      omega
    · exact fun line hline => hsound line (List.mem_of_mem_drop hline)
  · obtain ⟨new, index, heq, hlen, hcells⟩ := exists_iterate_push_eq false s.currentStyle
      (rows - old.length)
      { s with rows, cols, maxCachedLines := max s.maxCachedLines rows, lines := old } (by
        change old.length + (rows - old.length) ≤ ite .. 
        rw [hkeep]
        omega)
    have hlength : (old ++ new).length = rows := by
      rw [List.length_append]
      omega
    refine ⟨old ++ new, index, ?_, hlength.ge, hlength.le.trans hrows, ?_⟩
    · simp only [heq, trimCachedLines]
      change { s with
        rows, cols, maxCachedLines := max s.maxCachedLines rows, nextLineIndex := index
        lines := (old ++ new).drop ((old ++ new).length - ite ..) } = _
      rw [hkeep, hlength, Nat.sub_eq_zero_of_le hrows, List.drop_zero]
    · intro line hline
      rcases List.mem_append.mp hline with hline | hline
      · exact hsound line hline
      · rw [TerminalLine.Sound, hcells line hline]
        exact CellsSound.replicate_styledBlank cols s.currentStyle

end TerminalScreen

theorem resizeScrollRegion_sound (scrollTop scrollBottom oldRows : ℕ) {rows : ℕ} (h : 1 ≤ rows) :
    (resizeScrollRegion scrollTop scrollBottom oldRows rows).1 <
        (resizeScrollRegion scrollTop scrollBottom oldRows rows).2 ∧
      (resizeScrollRegion scrollTop scrollBottom oldRows rows).2 ≤ rows := by
  rw [resizeScrollRegion]
  split
  · exact ⟨h, le_rfl⟩
  · dsimp only
    omega

theorem SavedScreen.resize_sound {n : SavedScreen} {rows cols maxLines : ℕ}
    (h : n.Sound rows cols maxLines) {rows' cols' maxLines' : ℕ} (hrows : 1 ≤ rows')
    (hmax : rows' ≤ maxLines') : (n.resize rows rows' cols' maxLines').Sound rows' cols' maxLines' := by
  constructor
  · simp only [resize, List.length_drop, List.length_append, List.length_map, List.length_range]
    omega
  · simp only [resize, List.length_drop, List.length_append, List.length_map, List.length_range]
    omega
  · intro line hline
    rcases List.mem_append.mp (List.mem_of_mem_drop hline) with hline | hline
    · obtain ⟨old, hold, rfl⟩ := List.mem_map.mp hline
      exact TerminalScreen.resize_line_sound (h.lines_sound old hold) cols'
    · obtain ⟨i, -, rfl⟩ := List.mem_map.mp hline
      exact CellsSound.replicate_styledBlank cols' {}
  · change min n.cursorRow (rows' - 1) < rows'
    omega
  · change min n.cursorCol (cols' - 1) ≤ cols' + 1
    omega
  · exact (resizeScrollRegion_sound _ _ _ hrows).1
  · exact (resizeScrollRegion_sound _ _ _ hrows).2

/-- **A change of the size** keeps the invariant. -/
theorem TerminalScreen.resize_steady {s : TerminalScreen} (h : s.Steady) (rows cols : UInt16) :
    (s.resize rows cols).Steady := by
  have hr := h.sound.registers
  have hrows16 := rows.toNat_lt
  have hcols16 := cols.toNat_lt
  have hrows : 1 ≤ max rows.toNat 1 := Nat.le_max_right ..
  have hregion := resizeScrollRegion_sound s.scrollTop s.scrollBottom s.rows hrows
  obtain ⟨lines, index, heq, hlen, hle, hlines⟩ := exists_resizeLines_eq h.sound
    (max rows.toNat 1) (max cols.toNat 1)
  rw [resize, heq]
  refine ⟨⟨⟨hrows, ?_, Nat.le_max_right .., ?_, ?_, ?_, hregion.1, hregion.2, hr.utf8_le,
    hr.utf8_high⟩, Nat.le_max_right .., hlen, ?_, hlines, ?_, h.sound.control_le⟩, ?_, h.idle⟩
  · change max rows.toNat 1 ≤ 65535
    omega
  · change max cols.toNat 1 ≤ 65535
    omega
  · change min s.cursorRow (max rows.toNat 1 - 1) < max rows.toNat 1
    omega
  · change min s.cursorCol (max cols.toNat 1 - 1) ≤ max cols.toNat 1 + 1
    omega
  · simpa [maxLines] using hle
  · intro n hn
    obtain ⟨old, hold, rfl⟩ := Option.map_eq_some_iff.mp hn
    exact SavedScreen.resize_sound (h.sound.normal_sound old hold) hrows (Nat.le_max_right ..)
  · intro harmed
    obtain ⟨hrow, hcol, hutf⟩ := h.cut harmed
    refine ⟨?_, ?_, hutf⟩
    · change min s.cursorRow _ = 0
      rw [hrow, Nat.zero_min]
    · change min s.cursorCol _ = 0
      rw [hcol, Nat.zero_min]

/-! ### Runs -/

/-- The two operations on a screen cache. -/
inductive ScreenOp
  | apply (bytes : List UInt8)
  | resize (rows cols : UInt16)

def ScreenOp.step (width : Char → Option (Fin 3)) (s : TerminalScreen) :
    ScreenOp → Option TerminalScreen
  | .apply bytes => s.apply width bytes
  | .resize rows cols => some (s.resize rows cols)

/-- What the code relies on when it indexes lines and cells, and the bounds of its buffers. -/
structure TerminalScreen.Safe (s : TerminalScreen) : Prop where
  rows_pos : 1 ≤ s.rows
  cols_pos : 1 ≤ s.cols
  rows_le_lines : s.rows ≤ s.lines.length
  lines_le_of_normal : s.normalScreen = none → s.lines.length ≤ s.maxCachedLines
  lines_eq_of_alternate : s.normalScreen ≠ none → s.lines.length = s.rows
  cells_eq : ∀ line ∈ s.lines, line.cells.length = s.cols
  saved_cells_eq : ∀ n, s.normalScreen = some n → ∀ line ∈ n.lines, line.cells.length = s.cols
  saved_lines : ∀ n, s.normalScreen = some n →
    s.rows ≤ n.lines.length ∧ n.lines.length ≤ s.maxCachedLines
  cursorRow_lt : s.cursorRow < s.rows
  cursorCol_le : s.cursorCol ≤ s.cols + 1
  scroll_region : s.scrollTop < s.scrollBottom ∧ s.scrollBottom ≤ s.rows
  saved_scroll_region : ∀ n, s.normalScreen = some n →
    n.scrollTop < n.scrollBottom ∧ n.scrollBottom ≤ s.rows
  control_le : s.pendingControl.length ≤ 4096
  utf8_le : s.utf8Pending.length ≤ 4
  snapshot_bounds : ∀ start stop, snapshotLineBounds s.lines s.rows = some (start, stop) →
    start < stop ∧ stop ≤ s.lines.length
  saved_snapshot_bounds : ∀ n, s.normalScreen = some n → ∀ start stop,
    snapshotLineBounds n.lines s.rows = some (start, stop) → start < stop ∧ stop ≤ n.lines.length

theorem TerminalScreen.Sound.safe {s : TerminalScreen} (h : s.Sound) : s.Safe where
  rows_pos := h.registers.one_le_rows
  cols_pos := h.registers.one_le_cols
  rows_le_lines := h.rows_le_lines
  lines_le_of_normal hn := by
    have hle := h.lines_le
    rwa [maxLines, hn] at hle
  lines_eq_of_alternate hn := by
    have hle := h.lines_le
    rw [maxLines, if_pos (Option.isSome_iff_ne_none.mpr hn)] at hle
    exact Nat.le_antisymm hle h.rows_le_lines
  cells_eq line hline := (h.lines_sound line hline).length_eq
  saved_cells_eq n hn line hline := ((h.normal_sound n hn).lines_sound line hline).length_eq
  saved_lines n hn := ⟨(h.normal_sound n hn).rows_le_lines, (h.normal_sound n hn).lines_le⟩
  cursorRow_lt := h.registers.cursorRow_lt
  cursorCol_le := h.registers.cursorCol_le
  scroll_region := ⟨h.registers.scroll_lt, h.registers.scroll_le⟩
  saved_scroll_region n hn := ⟨(h.normal_sound n hn).scroll_lt, (h.normal_sound n hn).scroll_le⟩
  control_le := h.control_le
  utf8_le := h.registers.utf8_le
  snapshot_bounds _ _ hb := snapshotLineBounds_lt hb
  saved_snapshot_bounds _ _ _ _ hb := snapshotLineBounds_lt hb

/-- The invariant holds after every sequence of operations. -/
theorem TerminalScreen.steady_of_run (width : Char → Option (Fin 3)) {s : TerminalScreen}
    (hs : s.Steady) (ops : List ScreenOp) :
    Ensures (exec (ScreenOp.step width) s ops) Steady := by
  induction ops generalizing s with
  | nil => exact .some hs
  | cons op ops ih =>
    have hstep : Ensures (ScreenOp.step width s op) Steady := by
      cases op with
      | apply bytes => exact (apply_spec width hs bytes).mono fun t ht => ht.1
      | resize rows cols => exact .some (resize_steady hs rows cols)
    exact hstep.bind fun t ht => ih ht

/-- **Safety of the screen cache.** No sequence of byte strings and resizes makes a new screen
panic, and the bounds that the code relies on hold after every one. -/
theorem TerminalScreen.safe_of_run (width : Char → Option (Fin 3)) (rows cols : UInt16)
    (ops : List ScreenOp) :
    Ensures (exec (ScreenOp.step width) (new rows cols) ops) Safe :=
  (steady_of_run width (new_steady rows cols) ops).mono fun _ hs => hs.sound.safe

end Termd.Screen
